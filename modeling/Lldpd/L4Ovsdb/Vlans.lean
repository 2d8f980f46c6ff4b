import Lldpd.L4Ovsdb.PortCache

/-!
# The VLANs that are advertised

An interface advertises the VLANs of its Port row, and its PVID. They are
written in pieces: `lldpd_reconfigure_port` removes the VLANs of the interfaces
the port had and adds those of the row, `del_old_port` removes VLANs and PVID,
and the scan of the interfaces removes the VLANs and has them added again. The
PVID is not reset when a port is configured, so that of an access port stays
when the row becomes a trunk (`pvid_outlives_access`).

`advertised_from_rows`: if every call is sound and `Tame`, and the rows are
`Proper`, then behind the last of them (`Processed`) an interface advertises
what its Port row says (`Db.advertised`), and no VLAN twice. Tame is:

* of rows: what a port that is not to be configured again advertises does not
  change its name;
* of the configuration of a port (`Regular`): no interface leaves the port, none
  comes from a port that still refers to it, and the row has a PVID where the
  interface has one;
* of new hardware: the Interface row has been seen before if the Port row has;
* of the end of a scan: the VLANs were removed at its start. Hardware that the
  scan creates gets them twice otherwise.
-/
namespace Lldpd.Ovsdb
open Core

/-! ## What the rows say -/

def PortRow.pvid (row : PortRow) : UInt16 :=
  if portVlanMode row ≠ .trunk then row.vlanTag.getD 0 else 0

def PortRow.named (row : PortRow) (db : Db) : List Vlan := namedVlans db (row.vids (portVlanMode row))

def Db.advertised (db : Db) (name : Text) : UInt16 × List Vlan :=
  (db.ports.find? fun row => row.interfaces.contains name).elim (0, []) fun row =>
    (row.pvid, row.named db)

structure Db.Proper (db : Db) : Prop where
  names : (db.ports.map PortRow.name).Nodup
  interfaces : (db.ports.flatMap PortRow.interfaces).Nodup
  vids : ∀ row ∈ db.ports, (row.vids (portVlanMode row)).Nodup

section
variable {db : Db} {row row' : PortRow} {n : Text}

theorem Db.of_port (h : db.port n = some row) : row ∈ db.ports ∧ row.name = n := by
  refine ⟨List.mem_of_find?_eq_some h, ?_⟩
  simpa using List.find?_some h

theorem Db.Proper.port (hp : db.Proper) (hrow : row ∈ db.ports) : db.port row.name = some row := by
  cases h : db.port row.name with
  | none =>
    have hne := List.find?_eq_none.1 h row hrow
    exact absurd (decide_eq_true rfl) hne
  | some row' =>
    obtain ⟨hrow', hname⟩ := Db.of_port h
    rw [List.inj_on_of_nodup_map hp.names hrow' hrow hname]

theorem Db.Proper.row_unique (hp : db.Proper) (hrow : row ∈ db.ports) (hrow' : row' ∈ db.ports)
    (hn : n ∈ row.interfaces) (hn' : n ∈ row'.interfaces) : row = row' := by
  by_contra hne
  have hdis := (List.nodup_flatMap.1 hp.interfaces).2
  have : Std.Symm (Function.onFun List.Disjoint PortRow.interfaces) :=
    ⟨fun _ _ h _ hx hx' => h hx' hx⟩
  exact hdis.forall hrow hrow' hne hn hn'

theorem Db.Proper.interfaces_nodup (hp : db.Proper) (hrow : row ∈ db.ports) :
    row.interfaces.Nodup :=
  (List.nodup_flatMap.1 hp.interfaces).1 row hrow

theorem Db.Proper.advertised (hp : db.Proper) (hrow : row ∈ db.ports) (hn : n ∈ row.interfaces) :
    db.advertised n = (row.pvid, row.named db) := by
  unfold Db.advertised
  cases h : db.ports.find? (fun row => row.interfaces.contains n) with
  | none =>
    have hne := List.find?_eq_none.1 h row hrow
    exact absurd (List.contains_iff_mem.2 hn) hne
  | some row' =>
    have hn' : n ∈ row'.interfaces := by simpa using List.find?_some h
    rw [hp.row_unique hrow (List.mem_of_find?_eq_some h) hn hn']
    rfl

theorem named_vids (db : Db) (vids : List UInt16) :
    ((namedVlans db vids).map Vlan.vVid).Sublist vids := by
  induction vids with
  | nil => exact List.Sublist.slnil
  | cons vid vids ih =>
    unfold namedVlans
    rw [List.filterMap_cons]
    cases h : (vlanNameLookupByVid vid db).map fun name => (⟨name, vid⟩ : Vlan) with
    | none => exact ih.cons vid
    | some vlan =>
      obtain ⟨name, -, rfl⟩ := Option.map_eq_some_iff.1 h
      exact ih.cons_cons vid

end

/-! ## Calls and conditions -/

def Plugged (s : Cache) (a : Addr) (itf : InterfaceData) (hw : IfHardware) : Prop :=
  s.allInterfaces.lookup a = some itf ∧ ∃ h, itf.hw = some h ∧ s.hardware.lookup h = some hw

structure Regular (s : Cache) (p : Addr) (row : PortRow) : Prop where
  stays : ∀ a itf hw, Plugged s a itf hw → itf.portdata = some p → itf.name ∈ row.interfaces
  free : ∀ a itf hw, Plugged s a itf hw → itf.name ∈ row.interfaces →
    ∀ p' port, s.allPorts.lookup p' = some port → some a ∈ port.interfaces → p' = p
  pvid : ∀ a itf hw, Plugged s a itf hw → itf.name ∈ row.interfaces →
    (portVlanMode row ≠ .trunk ∧ row.vlanTag ≠ none) ∨ hw.hLport.pPvid = 0

/-- New hardware that an entry gets, in `add_lldpd_hardware_interface` before
its port is looked for.
mirrors lldpd_ovsdb_if.c:2810-2812 -/
def plug (name : Text) (h a : Addr) (s : Cache) : Cache :=
  (allocHardware name h s).setInterface a fun itf => { itf with hw := some h, portdata := none }

def Tame (s : Cache) : CacheEvent → Prop
  | .db db => ∀ name ∈ s.configured, ∀ row, s.db.port name = some row → db.port name = some row →
      row.named db = row.named s.db
  | .configPort name => ∀ p port row, s.findPort name = some (p, port) →
      s.db.port name = some row → Regular s p row
  | .create name h _ _ =>
      (∀ row ∈ s.db.ports, name ∈ row.interfaces → row.name ∈ s.configured →
        ∃ a itf, s.findInterface name = some (a, itf) ∧ itf.ifrow = true) ∧
      ∀ a itf p port row, s.findInterface name = some (a, itf) → itf.ifrow = true →
        portOf s name = some p → s.allPorts.lookup p = some port →
        s.db.port port.name = some row → Regular (plug name h a s) p row
  | .addVlans name => ∀ a itf hw, Plugged s a itf hw → itf.name = name → hw.hLport.pVlans = []
  | _ => True

/-- The runs on proper rows whose calls are all sound and tame. -/
def tamed : LTS Cache CacheEvent :=
  (caches.restrict fun s => s.db.Proper).guard fun s ev => Sound s ev ∧ Tame s ev

/-- The latest rows have been processed, and no hardware waits for a scan to put
its VLANs back. -/
structure Processed (s : Cache) : Prop where
  ports : ∀ row ∈ s.db.ports, ∃ p port, s.allPorts.lookup p = some port ∧ port.name = row.name
  configured : ∀ p port, s.allPorts.lookup p = some port → port.name ∈ s.configured
  rescanned : ∀ h hw, s.hardware.lookup h = some hw → hw.rescanned = false

/-! ## The invariant -/

/-- The hardware advertises what the row says, but for the VLANs that a scan is
about to put back. -/
def IfHardware.Follows (hw : IfHardware) (db : Db) (row : PortRow) : Prop :=
  hw.hLport.pPvid = row.pvid ∧
    hw.hLport.pVlans = if hw.rescanned then [] else row.named db

/-- Without a port an interface advertises nothing, and with one that has been
configured what the row says. `o` is a port that does not have all interfaces
of its row yet. -/
structure Entry (o : Option Addr) (s : Cache) (a : Addr) (itf : InterfaceData) (hw : IfHardware) :
    Prop where
  bare : itf.portdata = none → hw.hLport.pPvid = 0 ∧ hw.hLport.pVlans = []
  owned : ∀ p, itf.portdata = some p →
    ∃ port, s.allPorts.lookup p = some port ∧ some a ∈ port.interfaces
  owner : ∀ p port, s.allPorts.lookup p = some port → some a ∈ port.interfaces →
    itf.portdata = none ∨ itf.portdata = some p
  follows : ∀ p port row, itf.portdata = some p → s.allPorts.lookup p = some port →
    port.name ∈ s.configured → s.db.port port.name = some row →
    itf.name ∈ row.interfaces ∧ port.vlanMode = portVlanMode row ∧ hw.Follows s.db row
  taken : ∀ p port row, some p ≠ o → s.allPorts.lookup p = some port →
    port.name ∈ s.configured → s.db.port port.name = some row →
    itf.name ∈ row.interfaces → itf.portdata = some p

structure Settled (o : Option Addr) (s : Cache) : Prop where
  entry {a itf hw} : Plugged s a itf hw → Entry o s a itf hw
  configured : ∀ n ∈ s.configured,
    (∃ row, s.db.port n = some row) ∧ ∃ p port, s.allPorts.lookup p = some port ∧ port.name = n

section
variable {s s' : Cache} {a h p : Addr} {n : Text} {itf : InterfaceData} {hw : IfHardware}
  {o : Option Addr}

/-- The entry was there, and its hardware has what it had or what it should. -/
def Carried (s : Cache) (a : Addr) (itf' : InterfaceData) (hw' : IfHardware) : Prop :=
  ∃ itf hw, Plugged s a itf hw ∧ itf'.name = itf.name ∧ itf'.portdata = itf.portdata ∧
    (itf.portdata = none → hw.hLport.pPvid = 0 ∧ hw.hLport.pVlans = [] →
      hw'.hLport.pPvid = 0 ∧ hw'.hLport.pVlans = []) ∧
    ∀ p port row, itf.portdata = some p → s.allPorts.lookup p = some port →
      s.db.port port.name = some row → port.vlanMode = portVlanMode row →
      hw.Follows s.db row → hw'.Follows s.db row

theorem Plugged.carried (hplug : Plugged s a itf hw) : Carried s a itf hw :=
  ⟨itf, hw, hplug, rfl, rfl, fun _ h => h, fun _ _ _ _ _ _ _ h => h⟩

def Unclaimed (o : Option Addr) (s : Cache) (itf : InterfaceData) (hw : IfHardware) : Prop :=
  itf.portdata = none ∧ hw.hLport.pPvid = 0 ∧ hw.hLport.pVlans = [] ∧
    ∀ p port row, some p ≠ o → s.allPorts.lookup p = some port → port.name ∈ s.configured →
      s.db.port port.name = some row → itf.name ∉ row.interfaces

section
variable (hs : Settled none s)
include hs

/-- Hardware that is new, or is written: ports and rows are as before. -/
theorem Settled.back (hports : s'.allPorts = s.allPorts)
    (hdb : s'.db = s.db) (hconf : s'.configured = s.configured)
    (hback : ∀ a itf hw, Plugged s' a itf hw → Carried s a itf hw ∨ Unclaimed o s itf hw) :
    Settled o s' := by
  refine ⟨fun {a itf' hw'} hplug => ?_, by rw [hports, hdb, hconf]; exact hs.configured⟩
  have hentry : Entry o s a itf' hw' := by
    rcases hback a itf' hw' hplug with
      ⟨itf, hw, hplug0, hname, hd, hbare, hfollow⟩ | ⟨hd, hpvid, hvlans, hnew⟩
    · have he := hs.entry hplug0
      refine ⟨?_, by rw [hd]; exact he.owned, by rw [hd]; exact he.owner, ?_, ?_⟩
      · rw [hd]
        exact fun hnone => hbare hnone (he.bare hnone)
      · rw [hd, hname]
        intro p port row hdata hp hc hrow
        obtain ⟨hlisted, hmode, hold⟩ := he.follows p port row hdata hp hc hrow
        exact ⟨hlisted, hmode, hfollow p port row hdata hp hrow hmode hold⟩
      · rw [hd, hname]
        exact fun p port row _ => he.taken p port row nofun
    · refine ⟨fun _ => ⟨hpvid, hvlans⟩, fun p hdata => ?_, fun _ _ _ _ => .inl hd,
        fun p port row hdata => ?_, fun p port row hne hp hc hrow hn => ?_⟩
      · cases hd.symm.trans hdata
      · cases hd.symm.trans hdata
      · exact absurd hn (hnew p port row hne hp hc hrow)
  refine ⟨hentry.bare, ?_, ?_, ?_, ?_⟩
  · rw [hports]
    exact hentry.owned
  · rw [hports]
    exact hentry.owner
  · rw [hports, hdb, hconf]
    exact hentry.follows
  · rw [hports, hdb, hconf]
    exact hentry.taken

/-- Entries lose their row or their hardware. -/
theorem Settled.shrink (hports : s'.allPorts = s.allPorts)
    (hdb : s'.db = s.db) (hconf : s'.configured = s.configured)
    (hback : ∀ a itf' hw, Plugged s' a itf' hw →
      ∃ itf, Plugged s a itf hw ∧ itf'.name = itf.name ∧ itf'.portdata = itf.portdata) :
    Settled none s' := by
  refine hs.back hports hdb hconf fun a itf' hw hplug => .inl ?_
  obtain ⟨itf, hplug0, hname, hdata⟩ := hback a itf' hw hplug
  exact ⟨itf, hw, hplug0, hname, hdata, fun _ h => h, fun _ _ _ _ _ _ _ h => h⟩

/-! ## Rows -/

theorem settled_db {db : Db} (htame : Tame s (.db db)) : Settled none { s with
      db := db
      configured := s.configured.filter fun name => s.db.port name = db.port name } := by
  have hkept : ∀ n, n ∈ s.configured.filter (fun name => s.db.port name = db.port name) →
      n ∈ s.configured ∧ s.db.port n = db.port n := by
    intro n hn
    obtain ⟨hn, heq⟩ := List.mem_filter.1 hn
    exact ⟨hn, of_decide_eq_true heq⟩
  refine ⟨fun hplug => ?_, fun n hn => ?_⟩
  · have he := hs.entry hplug
    refine ⟨he.bare, he.owned, he.owner, fun p port row hdata hp hc hrow => ?_,
      fun p port row hne hp hc hrow hn => ?_⟩
    · obtain ⟨hc, heq⟩ := hkept port.name hc
      have hrow0 : s.db.port port.name = some row := heq.trans hrow
      obtain ⟨hlisted, hmode, hpvid, hvlans⟩ := he.follows p port row hdata hp hc hrow0
      refine ⟨hlisted, hmode, hpvid, ?_⟩
      rw [htame port.name hc row hrow0 hrow]
      exact hvlans
    · obtain ⟨hc, heq⟩ := hkept port.name hc
      exact he.taken p port row hne hp hc (heq.trans hrow) hn
  · obtain ⟨hc, heq⟩ := hkept n hn
    obtain ⟨hrow, hport⟩ := hs.configured n hc
    rw [heq] at hrow
    exact ⟨hrow, hport⟩

/-- The Interface row of an entry comes or goes. -/
theorem settled_setIfrow (a : Addr) (b : Bool) :
    Settled none (s.setInterface a fun itf => { itf with ifrow := b }) := by
  refine hs.shrink rfl rfl rfl fun a' itf' hw hplug => ?_
  obtain ⟨hitf', hhw⟩ := hplug
  obtain ⟨itf, hitf, heq⟩ := Objects.of_lookup_modify hitf'
  split at heq
  · subst heq
    exact ⟨itf, ⟨hitf, hhw⟩, rfl, rfl⟩
  · subst heq
    exact ⟨itf', ⟨hitf, hhw⟩, rfl, rfl⟩

theorem settled_eraseInterface (a : Addr) :
    Settled none { s with allInterfaces := AList.erase a s.allInterfaces } := by
  refine hs.shrink rfl rfl rfl fun a' itf hw hplug => ?_
  obtain ⟨hitf, hhw⟩ := hplug
  exact ⟨itf, ⟨(Objects.of_lookup_erase hitf).2, hhw⟩, rfl, rfl⟩

theorem settled_delOldDbInterface (n : Text) : Settled none (delOldDbInterface n s) := by
  unfold delOldDbInterface
  cases s.findInterface n with
  | none => exact hs
  | some found =>
    obtain ⟨a, itf⟩ := found
    show Settled none (if itf.hw.isNone then _ else _)
    split
    · exact settled_eraseInterface hs a
    · exact settled_setIfrow hs a false

theorem settled_addNewDbInterface (n : Text) (a : Addr) :
    Settled none (addNewDbInterface n a s) := by
  unfold addNewDbInterface
  cases s.findInterface n with
  | none =>
    refine hs.shrink rfl rfl rfl fun a' itf' hw hplug => ?_
    obtain ⟨hitf', h, hhw, hlive⟩ := hplug
    rcases Objects.of_lookup_insert hitf' with ⟨-, rfl⟩ | ⟨-, hitf'⟩
    · cases hhw
    · exact ⟨itf', ⟨hitf', h, hhw, hlive⟩, rfl, rfl⟩
  | some found =>
    obtain ⟨a, itf⟩ := found
    exact settled_setIfrow hs a true

theorem settled_addNewPort (n : Text) (hfresh : s.allPorts.lookup p = none) :
    Settled none (addNewPort n p s) := by
  unfold addNewPort
  cases hfind : s.findPort n with
  | some found => exact hs
  | none =>
    -- a new port refers to nothing and has not been configured
    have hnew : ∀ p' port', (AList.insert p ({ name := n } : PortData) s.allPorts).lookup p' =
        some port' →
        s.allPorts.lookup p' = some port' ∨ port'.interfaces = [] ∧ port'.name ∉ s.configured := by
      intro p' port' hp'
      rcases Objects.of_lookup_insert hp' with ⟨-, rfl⟩ | ⟨-, hp'⟩
      · refine .inr ⟨rfl, fun hc => ?_⟩
        obtain ⟨-, q, port, hq, hname⟩ := hs.configured n hc
        exact Objects.name_ne_of_find_none hfind hq hname
      · exact .inl hp'
    refine ⟨fun hplug => ?_, fun m hm => ?_⟩
    · have he := hs.entry hplug
      refine ⟨he.bare, fun p' hdata => ?_, fun p' port hp ha => ?_,
        fun p' port row hdata hp hc => ?_, fun p' port row hne hp hc => ?_⟩
      · obtain ⟨port, hp, ha⟩ := he.owned p' hdata
        exact ⟨port, Objects.lookup_insert_of_fresh hfresh hp, ha⟩
      · rcases hnew p' port hp with hp | ⟨hnil, -⟩
        · exact he.owner p' port hp ha
        · rw [hnil] at ha
          cases ha
      · rcases hnew p' port hp with hp | ⟨-, hnc⟩
        · exact he.follows p' port row hdata hp hc
        · exact absurd hc hnc
      · rcases hnew p' port hp with hp | ⟨-, hnc⟩
        · exact he.taken p' port row hne hp hc
        · exact absurd hc hnc
    · obtain ⟨hrow, q, port, hq, hname⟩ := hs.configured m hm
      exact ⟨hrow, q, port, Objects.lookup_insert_of_fresh hfresh hq, hname⟩

end

/-! ## Loops over interfaces -/

/-- Where an entry with hardware comes from in a sweep. -/
theorem Sweep.plugged {hit : Addr → Prop} {f : InterfaceData → InterfaceData}
    {g : IfHardware → IfHardware} (hsweep : Sweep s s' hit f g) {itf' : InterfaceData}
    {hw' : IfHardware} (hplug : Plugged s' a itf' hw') :
    ∃ itf hw, Plugged s a itf hw ∧ itf'.name = itf.name ∧ (hit a → itf' = f itf ∧ hw' = g hw) ∧
      (¬ hit a → itf' = itf ∧ hw' = hw) := by
  obtain ⟨hitf', h, hhw', hlive'⟩ := hplug
  obtain ⟨itf, hitf, hname, -, hhw⟩ := hsweep.kept.symm.interface hitf'
  obtain ⟨hw, hlive, -⟩ := hsweep.kept.symm.live hlive'
  have hhw : itf.hw = some h := hhw.trans hhw'
  refine ⟨itf, hw, ⟨hitf, h, hhw, hlive⟩, hname.symm, fun ha => ?_, fun ha => ?_⟩
  · obtain ⟨h1, h2⟩ := hsweep.hits a itf h hw ha hitf hhw hlive
    exact ⟨Option.some.inj (hitf'.symm.trans h1), Option.some.inj (hlive'.symm.trans h2)⟩
  · obtain ⟨h1, h2⟩ := hsweep.misses a itf hitf (.inl ha)
    exact ⟨Option.some.inj (hitf'.symm.trans h1),
      Option.some.inj (hlive'.symm.trans (h2 h hw hhw hlive))⟩

variable {port : PortData} {row : PortRow}

theorem settled_delOldPort (hs : Settled none s) (hl : Linked s)
    (hfind : s.findPort n = some (p, port))
    (hhw : ∀ a itf, some a ∈ port.interfaces → s.allInterfaces.lookup a = some itf → itf.hw ≠ none)
    (hok : delOldPort n s = .ok s') : Settled none s' := by
  obtain ⟨hport, hname⟩ := Objects.of_find hfind
  obtain ⟨s1, hsweep, hok1⟩ := delOldPort_ok hl hfind hhw
  cases hok.symm.trans hok1
  have hdb : s1.db = s.db := hsweep.kept.db
  have hconf : ∀ m, m ∈ s.configured.filter (· ≠ n) → m ∈ s.configured ∧ m ≠ n := by
    intro m hm
    obtain ⟨hm, hne⟩ := List.mem_filter.1 hm
    exact ⟨hm, of_decide_eq_true hne⟩
  refine ⟨fun {a itf' hw'} hplug => ?_, fun m hm => ?_⟩
  · have hplug1 : Plugged s1 a itf' hw' := hplug
    obtain ⟨itf, hw, hplug0, hname', hhit, hmiss⟩ := hsweep.plugged hplug1
    have he := hs.entry hplug0
    -- an entry of the port is reset, and the others are as they were
    by_cases ha : some a ∈ port.interfaces
    · obtain ⟨rfl, rfl⟩ := hhit ha
      refine ⟨fun _ => ⟨rfl, rfl⟩, nofun, fun _ _ _ _ => .inl rfl, nofun,
        fun q port' row hne hq hc hrow hn => ?_⟩
      obtain ⟨hqp, hq⟩ := Objects.of_lookup_erase hq
      rw [hdb] at hrow
      have htaken := he.taken q port' row hne hq (hconf _ hc).1 hrow hn
      -- it would be an interface of both ports
      rcases he.owner p port hport ha with hdata | hdata
      · cases hdata.symm.trans htaken
      · cases hdata.symm.trans htaken
        exact absurd rfl hqp
    · obtain ⟨rfl, rfl⟩ := hmiss ha
      refine ⟨he.bare, fun q hdata => ?_, fun q port' hq => ?_,
        fun q port' row hdata hq hc hrow => ?_, fun q port' row hne hq hc hrow => ?_⟩
      · obtain ⟨port', hq, ha'⟩ := he.owned q hdata
        have hqp : q ≠ p := by
          intro heq
          subst heq
          cases hport.symm.trans hq
          exact ha ha'
        exact ⟨port', (AList.lookup_erase_ne hqp).trans hq, ha'⟩
      · exact he.owner q port' (Objects.of_lookup_erase hq).2
      · rw [hdb] at hrow ⊢
        exact he.follows q port' row hdata (Objects.of_lookup_erase hq).2 (hconf _ hc).1 hrow
      · rw [hdb] at hrow
        exact he.taken q port' row hne (Objects.of_lookup_erase hq).2 (hconf _ hc).1 hrow
  · obtain ⟨hm, hmn⟩ := hconf m hm
    obtain ⟨hrow, q, port', hq, hname'⟩ := hs.configured m hm
    have hqp : q ≠ p := by
      intro heq
      subst heq
      cases hport.symm.trans hq
      exact hmn (hname'.symm.trans hname)
    refine ⟨?_, q, port', (AList.lookup_erase_ne hqp).trans hq, hname'⟩
    rw [hdb]
    exact hrow

/-! ## The configuration of a port -/

def PortData.cleaned (port : PortData) (a : Addr) (hw : IfHardware) : IfHardware :=
  if some a ∈ port.interfaces then hw.withVlans [] else hw

/-- What the configuration of the port at `p` leaves, said of the entries with
hardware. -/
structure Renewed (s s' : Cache) (p : Addr) (port : PortData) (row : PortRow) : Prop where
  db : s'.db = s.db
  configured : s'.configured = port.name :: s.configured
  others : ∀ p', p' ≠ p → s'.allPorts.lookup p' = s.allPorts.lookup p'
  result : ∃ port', s'.allPorts.lookup p = some port' ∧ port'.name = port.name ∧
    (∀ a, some a ∈ port'.interfaces → ∃ itf, s.allInterfaces.lookup a = some itf ∧
      itf.name ∈ row.interfaces) ∧
    ∀ a itf hw, Plugged s a itf hw → itf.name ∈ row.interfaces →
      some a ∈ port'.interfaces ∧ port'.vlanMode = portVlanMode row
  plugged : ∀ a itf' hw', Plugged s' a itf' hw' → ∃ itf hw, Plugged s a itf hw ∧
    itf'.name = itf.name ∧
    (itf.name ∈ row.interfaces → itf'.portdata = some p ∧
      hw' = IfHardware.advertise s.db (portVlanMode row) row (port.cleaned a hw)) ∧
    (itf.name ∉ row.interfaces → itf'.portdata = itf.portdata ∧ hw' = port.cleaned a hw)

theorem Reconfigured.renewed (hrec : Reconfigured s s' p port row)
    (hport : s.allPorts.lookup p = some port) (hnodup : row.interfaces.Nodup) :
    Renewed s s' p port row := by
  refine ⟨hrec.same.db, hrec.configured, hrec.others, ?_, fun a itf' hw' hplug => ?_⟩
  · obtain ⟨port', hport', hmem, hmode⟩ := hrec.result
    obtain ⟨port'', hport'', hname⟩ := map_eq_some (hrec.same.ports p) hport
    cases hport'.symm.trans hport''
    refine ⟨port', hport', hname, fun a ha => ?_, fun a itf hw hplug hn => ⟨?_, ?_⟩⟩
    · obtain ⟨itf, hitf, hn, -⟩ := (hmem a).1 ha
      exact ⟨itf, hitf, hn⟩
    · obtain ⟨hitf, h, hhw, -⟩ := hplug
      exact (hmem a).2 ⟨itf, hitf, hn, by rw [hhw]; exact Option.some_ne_none h⟩
    · exact hmode ⟨a, itf, hplug.1, hn⟩
  · obtain ⟨s1, hclean, hadd⟩ := hrec.sweeps hnodup
    obtain ⟨itf1, hw1, hplug1, hname', hhit', hmiss'⟩ := hadd.plugged hplug
    obtain ⟨itf, hw, hplug0, hname, hhit, hmiss⟩ := hclean.plugged hplug1
    have hwritten : itf1 = itf ∧ hw1 = port.cleaned a hw := by
      unfold PortData.cleaned
      split
      · rename_i ha
        exact hhit ha
      · rename_i ha
        exact hmiss ha
    obtain ⟨rfl, rfl⟩ := hwritten
    refine ⟨itf1, hw, hplug0, hname', fun hn => ?_, fun hn => ?_⟩
    · obtain ⟨rfl, rfl⟩ := hhit' ⟨itf1, hplug0.1, hn⟩
      exact ⟨rfl, rfl⟩
    · obtain ⟨rfl, rfl⟩ := hmiss' fun hex => by
        obtain ⟨itf, hitf, hn'⟩ := hex
        cases hplug0.1.symm.trans hitf
        exact hn hn'
      exact ⟨rfl, rfl⟩

theorem PortRow.pvid_eq (row : PortRow) :
    (portVlanMode row ≠ .trunk ∧ row.vlanTag ≠ none) ∨ row.pvid = 0 := by
  unfold PortRow.pvid
  split
  · rename_i hmode
    cases htag : row.vlanTag with
    | none => exact .inr rfl
    | some tag => exact .inl ⟨hmode, Option.some_ne_none tag⟩
  · exact .inr rfl

theorem PortRow.follows_advertise {db : Db} (hvlans : hw.hLport.pVlans = [])
    (hpvid : (portVlanMode row ≠ .trunk ∧ row.vlanTag ≠ none) ∨ hw.hLport.pPvid = 0) :
    (IfHardware.advertise db (portVlanMode row) row hw).Follows db row := by
  refine ⟨?_, ?_⟩
  · show (if portVlanMode row ≠ .trunk then row.vlanTag.getD hw.hLport.pPvid else hw.hLport.pPvid) =
      if portVlanMode row ≠ .trunk then row.vlanTag.getD 0 else 0
    rcases hpvid with ⟨hmode, htag⟩ | hzero
    · obtain ⟨tag, htag⟩ := Option.ne_none_iff_exists'.1 htag
      rw [if_pos hmode, if_pos hmode, htag]
      rfl
    · rw [hzero]
  · show hw.hLport.pVlans ++ namedVlans db (row.vids (portVlanMode row)) = row.named db
    rw [hvlans]
    rfl

theorem PortData.cleaned_pvid (port : PortData) (a : Addr) (hw : IfHardware) :
    (port.cleaned a hw).hLport.pPvid = hw.hLport.pPvid := by
  unfold PortData.cleaned
  split
  · rfl
  · rfl

section
variable {port1 : PortData} {row1 : PortRow} {q : Addr} {itf' : InterfaceData} {hw' : IfHardware}

/-- No other port refers to an interface of the row. -/
theorem Regular.portdata (hreg : Regular s p row) (hs : Settled o s) (hplug : Plugged s a itf hw)
    (hn : itf.name ∈ row.interfaces) : itf.portdata = none ∨ itf.portdata = some p := by
  cases hd : itf.portdata with
  | none => exact .inl rfl
  | some q =>
    obtain ⟨port1, hq, ha⟩ := (hs.entry hplug).owned q hd
    rw [hreg.free a itf hw hplug hn q port1 hq ha]
    exact .inr rfl

theorem Regular.other (hreg : Regular s p row) (hplug : Plugged s a itf hw)
    (hn : itf.name ∉ row.interfaces) (hd : itf.portdata = some q) : q ≠ p := by
  intro heq
  subst heq
  exact hn (hreg.stays a itf hw hplug hd)

variable (hs : Settled (some p) s) (hport : s.allPorts.lookup p = some port)
  (hrow : s.db.port port.name = some row) (hnames : Objects.Unique PortData.name s.allPorts)
  (hproper : s.db.Proper) (hreg : Regular s p row) (hnew : Renewed s s' p port row)
include hs hport

theorem cleaned_vlans (hplug : Plugged s a itf hw)
    (hdata : itf.portdata = none ∨ itf.portdata = some p) :
    (port.cleaned a hw).hLport.pVlans = [] := by
  unfold PortData.cleaned
  split
  · rfl
  · rename_i hmem
    rcases hdata with hd | hd
    · exact ((hs.entry hplug).bare hd).2
    · obtain ⟨port1, hp, ha⟩ := (hs.entry hplug).owned p hd
      cases hport.symm.trans hp
      exact absurd ha hmem

/-- An interface of another port is not written. -/
theorem cleaned_of_other (hplug : Plugged s a itf hw) (hd : itf.portdata = some q) (hq : q ≠ p) :
    port.cleaned a hw = hw := by
  unfold PortData.cleaned
  split
  · rename_i hmem
    rcases (hs.entry hplug).owner p port hport hmem with hd' | hd'
    · cases hd'.symm.trans hd
    · cases hd'.symm.trans hd
      exact absurd rfl hq
  · rfl

include hnew

theorem renewed_bare (hplug : Plugged s' a itf' hw') (hd : itf'.portdata = none) :
    hw'.hLport.pPvid = 0 ∧ hw'.hLport.pVlans = [] := by
  obtain ⟨itf, hw, hplug0, -, hin, hout⟩ := hnew.plugged a itf' hw' hplug
  by_cases hn : itf.name ∈ row.interfaces
  · cases (hin hn).1.symm.trans hd
  · obtain ⟨hd', rfl⟩ := hout hn
    have hnone := hd'.symm.trans hd
    rw [PortData.cleaned_pvid]
    exact ⟨((hs.entry hplug0).bare hnone).1, cleaned_vlans hs hport hplug0 (.inl hnone)⟩

include hrow

theorem renewed_configured (hn : n ∈ s'.configured) :
    (∃ row, s'.db.port n = some row) ∧ ∃ p port, s'.allPorts.lookup p = some port ∧ port.name = n := by
  obtain ⟨port', hport', hname', -⟩ := hnew.result
  rw [hnew.configured] at hn
  rw [hnew.db]
  rcases List.mem_cons.1 hn with rfl | hn
  · exact ⟨⟨row, hrow⟩, p, port', hport', hname'⟩
  · obtain ⟨hr, q, port1, hq, hname1⟩ := hs.configured n hn
    refine ⟨hr, ?_⟩
    by_cases hqp : q = p
    · subst hqp
      cases hport.symm.trans hq
      exact ⟨q, port', hport', hname'.trans hname1⟩
    · exact ⟨q, port1, (hnew.others q hqp).trans hq, hname1⟩

include hreg
omit hport hrow

theorem renewed_owned (hplug : Plugged s' a itf' hw') (hd : itf'.portdata = some q) :
    ∃ port, s'.allPorts.lookup q = some port ∧ some a ∈ port.interfaces := by
  obtain ⟨itf, hw, hplug0, -, hin, hout⟩ := hnew.plugged a itf' hw' hplug
  by_cases hn : itf.name ∈ row.interfaces
  · obtain ⟨port', hport', -, -, hset'⟩ := hnew.result
    cases (hin hn).1.symm.trans hd
    exact ⟨port', hport', (hset' a itf hw hplug0 hn).1⟩
  · have hd0 := (hout hn).1.symm.trans hd
    rw [hnew.others q (hreg.other hplug0 hn hd0)]
    exact (hs.entry hplug0).owned q hd0

theorem renewed_owner (hplug : Plugged s' a itf' hw') (hq : s'.allPorts.lookup q = some port1)
    (ha : some a ∈ port1.interfaces) : itf'.portdata = none ∨ itf'.portdata = some q := by
  obtain ⟨itf, hw, hplug0, -, hin, hout⟩ := hnew.plugged a itf' hw' hplug
  obtain ⟨port', hport', -, hback', -⟩ := hnew.result
  by_cases hn : itf.name ∈ row.interfaces
  · rw [(hin hn).1]
    by_cases hqp : q = p
    · exact .inr (congrArg some hqp.symm)
    · rw [hnew.others q hqp] at hq
      exact absurd (hreg.free a itf hw hplug0 hn q port1 hq ha) hqp
  · rw [(hout hn).1]
    by_cases hqp : q = p
    · subst hqp
      cases hport'.symm.trans hq
      obtain ⟨itf0, hitf0, hn0⟩ := hback' a ha
      cases hplug0.1.symm.trans hitf0
      exact absurd hn0 hn
    · rw [hnew.others q hqp] at hq
      exact (hs.entry hplug0).owner q port1 hq ha

include hport hrow hnames

omit hs hreg hrow in
/-- Other ports have other names. -/
theorem renewed_other (hqp : q ≠ p) (hq : s.allPorts.lookup q = some port1)
    (hc : port1.name ∈ s'.configured) : port1.name ≠ port.name ∧ port1.name ∈ s.configured := by
  have hne : port1.name ≠ port.name := fun heq => hqp (hnames q p port1 port hq hport heq)
  rw [hnew.configured] at hc
  exact ⟨hne, (List.mem_cons.1 hc).resolve_left hne⟩

theorem renewed_follows (hplug : Plugged s' a itf' hw') (hd : itf'.portdata = some q)
    (hq : s'.allPorts.lookup q = some port1) (hc : port1.name ∈ s'.configured)
    (hrow1 : s'.db.port port1.name = some row1) :
    itf'.name ∈ row1.interfaces ∧ port1.vlanMode = portVlanMode row1 ∧ hw'.Follows s'.db row1 := by
  obtain ⟨itf, hw, hplug0, hn', hin, hout⟩ := hnew.plugged a itf' hw' hplug
  rw [hnew.db] at hrow1 ⊢
  rw [hn']
  by_cases hn : itf.name ∈ row.interfaces
  · obtain ⟨port', hport', hname', -, hset'⟩ := hnew.result
    obtain ⟨hd', rfl⟩ := hin hn
    cases hd'.symm.trans hd
    cases hport'.symm.trans hq
    rw [hname', hrow] at hrow1
    cases hrow1
    refine ⟨hn, (hset' a itf hw hplug0 hn).2, ?_⟩
    refine PortRow.follows_advertise
      (cleaned_vlans hs hport hplug0 (hreg.portdata hs hplug0 hn)) ?_
    rw [PortData.cleaned_pvid]
    exact hreg.pvid a itf hw hplug0 hn
  · obtain ⟨hd', rfl⟩ := hout hn
    have hd0 := hd'.symm.trans hd
    have hqp := hreg.other hplug0 hn hd0
    rw [hnew.others q hqp] at hq
    rw [cleaned_of_other hs hport hplug0 hd0 hqp]
    exact (hs.entry hplug0).follows q port1 row1 hd0 hq
      (renewed_other hport hnames hnew hqp hq hc).2 hrow1

include hproper
omit hreg

theorem renewed_taken (hplug : Plugged s' a itf' hw') (hq : s'.allPorts.lookup q = some port1)
    (hc : port1.name ∈ s'.configured) (hrow1 : s'.db.port port1.name = some row1)
    (hn1 : itf'.name ∈ row1.interfaces) : itf'.portdata = some q := by
  obtain ⟨itf, hw, hplug0, hn', hin, hout⟩ := hnew.plugged a itf' hw' hplug
  rw [hnew.db] at hrow1
  rw [hn'] at hn1
  by_cases hqp : q = p
  · obtain ⟨port', hport', hname', -⟩ := hnew.result
    subst hqp
    cases hport'.symm.trans hq
    rw [hname', hrow] at hrow1
    cases hrow1
    exact (hin hn1).1
  · rw [hnew.others q hqp] at hq
    obtain ⟨hne, hc⟩ := renewed_other hport hnames hnew hqp hq hc
    by_cases hn : itf.name ∈ row.interfaces
    · -- the name would be in two rows
      obtain ⟨hrowmem, hrowname⟩ := Db.of_port hrow
      obtain ⟨hrowmem1, hrowname1⟩ := Db.of_port hrow1
      have heq := hproper.row_unique hrowmem1 hrowmem hn1 hn
      rw [heq] at hrowname1
      exact absurd (hrowname1.symm.trans hrowname) hne
    · rw [(hout hn).1]
      exact (hs.entry hplug0).taken q port1 row1 (fun h => hqp (Option.some.inj h)) hq hc hrow1 hn1

include hreg

theorem settled_renewed : Settled none s' where
  entry hplug :=
    { bare := renewed_bare hs hport hnew hplug
      owned _ := renewed_owned hs hreg hnew hplug
      owner _ _ := renewed_owner hs hreg hnew hplug
      follows _ _ _ := renewed_follows hs hport hrow hnames hreg hnew hplug
      taken _ _ _ _ := renewed_taken hs hport hrow hnames hproper hnew hplug }
  configured _ := renewed_configured hs hport hrow hnew

end

theorem settled_configPort (hs : Settled none s) (hl : Linked s) (hproper : s.db.Proper)
    (htame : Tame s (.configPort n)) (hok : configPort n s = .ok s') : Settled none s' := by
  unfold configPort at hok
  cases hrow : s.db.port n with
  | none =>
    rw [hrow] at hok
    cases hok
    exact hs
  | some row =>
    cases hfind : s.findPort n with
    | none =>
      rw [hrow, hfind] at hok
      cases hok
      exact hs
    | some found =>
      obtain ⟨p, port⟩ := found
      obtain ⟨hport, rfl⟩ := Objects.of_find hfind
      obtain ⟨s1, hok1, -, hrec⟩ := lldpdReconfigurePort_ok hl hport hrow
      rw [hrow, hfind] at hok
      cases hok.symm.trans hok1
      have hnodup := hproper.interfaces_nodup (Db.of_port hrow).1
      have hs : Settled (some p) s := { hs with
        entry hplug := { hs.entry hplug with taken _ _ _ _ := (hs.entry hplug).taken _ _ _ nofun } }
      exact settled_renewed hs hport hrow hl.portNames hproper (htame p port row hfind hrow)
        (hrec.renewed hport hnodup)

/-! ## Hardware -/

/-- The port of a configured row that lists the interface is found. -/
theorem portOf_eq (hproper : s.db.Proper) (hfind : s.findPort row.name = some (p, port))
    (hrow : row ∈ s.db.ports) (hn : n ∈ row.interfaces) : portOf s n = some p := by
  cases hof : portOf s n with
  | none =>
    have hnone := List.findSome?_eq_none_iff.1 hof row hrow
    rw [if_pos hn, hfind] at hnone
    cases hnone
  | some q =>
    obtain ⟨row', hrow', hsome⟩ := List.exists_of_findSome?_eq_some hof
    split at hsome
    · rename_i hn'
      rw [hproper.row_unique hrow' hrow hn' hn, hfind] at hsome
      exact hsome.symm
    · cases hsome

theorem portOf_listed (hproper : s.db.Proper) (hp : portOf s n = some p) :
    ∃ port row, s.allPorts.lookup p = some port ∧ s.db.port port.name = some row ∧
      n ∈ row.interfaces := by
  obtain ⟨row, hrow, hsome⟩ := List.exists_of_findSome?_eq_some hp
  split at hsome
  · rename_i hn
    obtain ⟨⟨q, port⟩, hfind, rfl⟩ := Option.map_eq_some_iff.1 hsome
    obtain ⟨hport, hname⟩ := Objects.of_find hfind
    exact ⟨port, row, hport, by rw [hname]; exact hproper.port hrow, hn⟩
  · cases hsome

theorem Renewed.setInterface
    (hnew : Renewed (s.setInterface a fun itf => { itf with portdata := some p }) s' p port row)
    (hn : ∀ itf, s.allInterfaces.lookup a = some itf → itf.name ∈ row.interfaces) :
    Renewed s s' p port row := by
  obtain ⟨port', hport', hname', hback', hset'⟩ := hnew.result
  refine ⟨hnew.db, hnew.configured, hnew.others, ⟨port', hport', hname', fun a' ha' => ?_,
    fun a' itf hw hplug hn' => ?_⟩, fun a' itf' hw' hplug => ?_⟩
  · obtain ⟨itf', hitf', hn'⟩ := hback' a' ha'
    obtain ⟨itf, hitf, heq⟩ := Objects.of_lookup_modify hitf'
    refine ⟨itf, hitf, ?_⟩
    rw [heq] at hn'
    split at hn'
    · exact hn'
    · exact hn'
  · obtain ⟨hitf, h, hhw, hlive⟩ := hplug
    by_cases ha : a' = a
    · subst ha
      exact hset' a' { itf with portdata := some p } hw
        ⟨Objects.lookup_modify_self hitf, h, hhw, hlive⟩ hn'
    · exact hset' a' itf hw ⟨(Objects.lookup_modify_ne ha).trans hitf, h, hhw, hlive⟩ hn'
  · obtain ⟨itf1, hw, hplug1, hname, hin, hout⟩ := hnew.plugged a' itf' hw' hplug
    obtain ⟨hitf1, h, hhw, hlive⟩ := hplug1
    obtain ⟨itf, hitf, heq⟩ := Objects.of_lookup_modify hitf1
    split at heq
    · rename_i ha
      subst ha
      subst heq
      exact ⟨itf, hw, ⟨hitf, h, hhw, hlive⟩, hname, hin, fun hnot => absurd (hn itf hitf) hnot⟩
    · subst heq
      exact ⟨itf1, hw, ⟨hitf, h, hhw, hlive⟩, hname, hin, hout⟩

theorem plugged_alloc (hl : Linked s) (hfresh : s.hardware.lookup h = none)
    (hitf : s.allInterfaces.lookup a = some itf)
    (hhw : ∃ h', itf.hw = some h' ∧ (allocHardware n h s).hardware.lookup h' = some hw) :
    Plugged s a itf hw := by
  obtain ⟨h', hh', hlive'⟩ := hhw
  rcases Objects.of_lookup_insert hlive' with ⟨rfl, -⟩ | ⟨-, hlive'⟩
  · obtain ⟨hw', hlive, -⟩ := hl.hw a itf h' hitf hh'
    cases hfresh.symm.trans hlive
  · exact ⟨hitf, h', hh', hlive'⟩

section
variable (hs : Settled none s)
include hs

theorem settled_addLldpdHardwareInterface (hl : Linked s) (hproper : s.db.Proper) {works : Bool}
    (hen : Enabled s (.create n h a works)) (htame : Tame s (.create n h a works))
    (hok : addLldpdHardwareInterface h n a (allocHardware n h s) = .ok s') : Settled none s' := by
  obtain ⟨hfresh, hfresha⟩ := hen
  obtain ⟨hseen, hregular⟩ := htame
  cases hfind : s.findInterface n with
  | none =>
    -- no row that has been configured lists the interface
    have hfind0 : (allocHardware n h s).findInterface n = none := hfind
    simp only [addLldpdHardwareInterface, hfind0] at hok
    cases hok
    refine hs.back rfl rfl rfl fun a' itf' hw' hplug => ?_
    obtain ⟨hitf', hhw'⟩ := hplug
    rcases Objects.of_lookup_insert hitf' with ⟨-, rfl⟩ | ⟨-, hitf'⟩
    · obtain ⟨h', hh', hlive'⟩ := hhw'
      cases hh'
      cases (AList.lookup_insert s.hardware).symm.trans hlive'
      refine .inr ⟨rfl, rfl, rfl, fun p port row _ _ hc hrow hn => ?_⟩
      obtain ⟨hrowmem, hrowname⟩ := Db.of_port hrow
      obtain ⟨a0, itf0, hfound, -⟩ := hseen row hrowmem hn (hrowname ▸ hc)
      cases hfind.symm.trans hfound
    · exact .inl (plugged_alloc hl hfresh hitf' hhw').carried
  | some found =>
    obtain ⟨a0, itf0⟩ := found
    obtain ⟨hitf0, rfl⟩ := hl.find.1 hfind
    have hfind0 : (allocHardware itf0.name h s).findInterface itf0.name = some (a0, itf0) := hfind
    -- with the new hardware only its port does not have all its interfaces
    have hplugged : Settled (if itf0.ifrow then portOf s itf0.name else none)
        (plug itf0.name h a0 s) := by
      refine hs.back rfl rfl rfl fun a' itf' hw' hplug => ?_
      obtain ⟨hitf', hhw'⟩ := hplug
      obtain ⟨itf, hitf, heq⟩ := Objects.of_lookup_modify hitf'
      split at heq
      · rename_i ha
        subst ha
        cases hitf0.symm.trans hitf
        subst heq
        obtain ⟨h', hh', hlive'⟩ := hhw'
        cases hh'
        cases (AList.lookup_insert s.hardware).symm.trans hlive'
        refine .inr ⟨rfl, rfl, rfl, fun p port row hne hp hc hrow hn => hne ?_⟩
        obtain ⟨hrowmem, hrowname⟩ := Db.of_port hrow
        obtain ⟨a1, itf1, hfound, hifrow⟩ := hseen row hrowmem hn (hrowname ▸ hc)
        cases hfind.symm.trans hfound
        have hfindp : s.findPort row.name = some (p, port) :=
          (Objects.find_iff hl.portNames).2 ⟨hp, hrowname.symm⟩
        rw [if_pos hifrow]
        exact (portOf_eq hproper hfindp hrowmem hn).symm
      · subst heq
        exact .inl (plugged_alloc hl hfresh hitf hhw').carried
    simp only [addLldpdHardwareInterface, hfind0] at hok
    cases hp : (if itf0.ifrow then portOf s itf0.name else none) with
    | none =>
      have hp0 : (if itf0.ifrow then portOf (plug itf0.name h a0 s) itf0.name else none) = none := hp
      unfold plug at hp0
      rw [hp0] at hok
      cases hok
      rw [hp] at hplugged
      exact hplugged
    | some p =>
      have hp0 : (if itf0.ifrow then portOf (plug itf0.name h a0 s) itf0.name else none) = some p := hp
      unfold plug at hp0
      rw [hp0] at hok
      obtain ⟨hifrow, hof⟩ := Option.ite_none_right_eq_some.1 hp
      obtain ⟨port, row, hport, hrow, hn⟩ := portOf_listed hproper hof
      have hl0 : Linked (plug itf0.name h a0 s) :=
        (hl.insertHardware hfresh _).plug hitf0 (AList.lookup_insert s.hardware) rfl
      have hl1 : Linked ((plug itf0.name h a0 s).setInterface a0 fun itf =>
          { itf with portdata := some p }) :=
        hl0.setInterface (fun _ => rfl) fun itf h' hitf hh => hl0.hw a0 itf h' hitf hh
      obtain ⟨s1, hok1, -, hrec⟩ := lldpdReconfigurePort_ok hl1 hport hrow
      cases hok.symm.trans hok1
      rw [hp] at hplugged
      refine settled_renewed hplugged hport hrow hl.portNames hproper
        (hregular a0 itf0 p port row hfind hifrow hof hport hrow) ?_
      have hnodup := hproper.interfaces_nodup (Db.of_port hrow).1
      refine (hrec.renewed hport hnodup).setInterface fun itf hitf => ?_
      cases (Objects.lookup_modify_self hitf0).symm.trans hitf
      exact hn

theorem settled_gHardware (l : List Addr) : Settled none { s with gHardware := l } :=
  ⟨fun hplug => { hs.entry hplug with }, hs.configured⟩

theorem settled_delLldpdHardwareInterface (n : Text) :
    Settled none (delLldpdHardwareInterface n s) := by
  unfold delLldpdHardwareInterface
  cases s.findInterface n with
  | none => exact hs
  | some found =>
    obtain ⟨a, itf⟩ := found
    show Settled none (if !itf.ifrow then _ else _)
    split
    · exact settled_eraseInterface hs a
    · refine hs.shrink rfl rfl rfl fun a' itf' hw hplug => ?_
      obtain ⟨hitf', hhw⟩ := hplug
      obtain ⟨itf0, hitf0, heq⟩ := Objects.of_lookup_modify hitf'
      split at heq
      · subst heq
        obtain ⟨h, hnone, -⟩ := hhw
        cases hnone
      · subst heq
        exact ⟨itf', ⟨hitf0, hhw⟩, rfl, rfl⟩

theorem settled_ifHardwareCleanup (hlive : s.hardware.lookup h = some hw)
    (hok : ifHardwareCleanup h s = .ok s') : Settled none s' := by
  simp only [ifHardwareCleanup, Objects.follow_ok hlive] at hok
  cases hok
  refine (settled_delLldpdHardwareInterface hs hw.hIfname).shrink rfl rfl rfl fun a itf hw hplug => ?_
  obtain ⟨hitf, h', hh', hlive'⟩ := hplug
  exact ⟨itf, ⟨hitf, h', hh', (Objects.of_lookup_erase hlive').2⟩, rfl, rfl⟩

theorem settled_create (hl : Linked s) (hproper : s.db.Proper) {works : Bool}
    (hen : Enabled s (.create n h a works)) (htame : Tame s (.create n h a works))
    (hok : createHardware n h a works s = .ok s') : Settled none s' := by
  have hlive0 : (allocHardware n h s).hardware.lookup h = some { hIfname := n } :=
    AList.lookup_insert s.hardware
  have hl0 : Linked (allocHardware n h s) := hl.insertHardware hen.1 _
  obtain ⟨s1, hok1, -, ⟨-, hhw1⟩, -⟩ :=
    linked_addLldpdHardwareInterface hl0 hlive0 rfl hen.2
  have hs1 := settled_addLldpdHardwareInterface hs hl hproper hen htame hok1
  unfold createHardware at hok
  rw [hok1] at hok
  cases works with
  | true =>
    cases hok
    exact settled_gHardware hs1 _
  | false =>
    obtain ⟨hw1, hlive1, -⟩ := map_eq_some (hhw1 h) hlive0
    exact settled_ifHardwareCleanup hs1 hlive1 hok

theorem settled_remove (hlive : s.hardware.lookup h = some hw)
    (hok : removeHardware h s = .ok s') : Settled none s' :=
  settled_ifHardwareCleanup (s := { s with gHardware := s.gHardware.erase h })
    (settled_gHardware hs _) hlive hok

/-! ## Scans -/

theorem settled_writes {g : IfHardware → IfHardware} (hwrites : Writes s s' h g)
    (hcarried : ∀ a itf hw, s.allInterfaces.lookup a = some itf → itf.hw = some h →
      s.hardware.lookup h = some hw → Carried s a itf (g hw)) : Settled none s' := by
  have hrest := hwrites.rest
  refine hs.back (by rw [hrest]) hwrites.db (by rw [hrest]) fun a itf hw' hplug => .inl ?_
  obtain ⟨hitf, h', hhw', hlive'⟩ := hplug
  rw [hrest] at hitf
  rw [hwrites.hardware] at hlive'
  split at hlive'
  · rename_i heq
    subst heq
    obtain ⟨hw, hlive, rfl⟩ := Option.map_eq_some_iff.1 hlive'
    exact hcarried a itf hw hitf hhw' hlive
  · exact Plugged.carried ⟨hitf, h', hhw', hlive'⟩

theorem settled_seen (hlive : s.hardware.lookup h = some hw)
    (hok : seenHardware h s = .ok s') : Settled none s' := by
  rw [seenHardware_ok hlive] at hok
  cases hok
  refine settled_writes hs (writes_setHardware s h _) fun a itf hw hitf hhw hlive => ?_
  refine ⟨itf, hw, ⟨hitf, h, hhw, hlive⟩, rfl, rfl, fun _ hbare => ⟨hbare.1, rfl⟩, ?_⟩
  intro p port row _ _ _ _ hfollow
  exact ⟨hfollow.1, rfl⟩

theorem settled_addVlans (hl : Linked s) (htame : Tame s (.addVlans n))
    (hok : addVlansFromOvsdb n s = .ok s') : Settled none s' := by
  obtain rfl | ⟨a, itf, h, g, hitf, hname, hhw, hwrites, hg⟩ := addVlans_cases hl hok
  · exact hs
  refine settled_writes hs hwrites fun a' itf' hw hitf' hhw' hlive => ?_
  obtain rfl := hl.hw_inj hitf' hitf hhw' hhw
  cases hitf'.symm.trans hitf
  obtain ⟨hdata, rfl⟩ | ⟨p, port, row, hdata, hport, hrow, rfl⟩ := hg
  · refine ⟨itf, hw, ⟨hitf, h, hhw, hlive⟩, rfl, rfl, fun _ hbare => hbare, ?_⟩
    intro p port row hd
    cases hd.symm.trans hdata
  · refine ⟨itf, hw, ⟨hitf, h, hhw, hlive⟩, rfl, rfl, fun hd => ?_, ?_⟩
    · cases hd.symm.trans hdata
    · intro p' port' row' hd hport' hrow' hmode hfollow
      cases hd.symm.trans hdata
      cases hport'.symm.trans hport
      cases hrow'.symm.trans hrow
      rw [hmode]
      refine PortRow.follows_advertise (htame a' itf hw ⟨hitf, h, hhw, hlive⟩ hname) ?_
      rw [hfollow.1]
      exact row.pvid_eq

/-! ## Runs -/

theorem settled_step (hsane : Sane s) (hproper : s.db.Proper)
    {ev : CacheEvent} (hsound : Sound s ev) (htame : Tame s ev) (hstep : caches.step s ev s') :
    Settled none s' := by
  obtain ⟨hen, hok⟩ := hstep
  have hl : Linked s := hsane.toLinked
  cases ev with
  | db db =>
    cases hok
    exact settled_db hs htame
  | delOldDbInterface n =>
    cases hok
    exact settled_delOldDbInterface hs n
  | addNewDbInterface n a =>
    cases hok
    exact settled_addNewDbInterface hs n a
  | delOldPort n =>
    have hok : delOldPort n s = .ok s' := hok
    cases hfind : s.findPort n with
    | none =>
      simp only [delOldPort, hfind] at hok
      cases hok
      exact hs
    | some found => exact settled_delOldPort hs hl hfind (hsound found.1 found.2 hfind) hok
  | addNewPort n p =>
    cases hok
    exact settled_addNewPort hs n hen.2
  | configPort n => exact settled_configPort hs hl hproper htame hok
  | create n h a works => exact settled_create hs hl hproper hen htame hok
  | seen h =>
    obtain ⟨hw, hlive⟩ := hsane.live h hen
    exact settled_seen hs hlive hok
  | addVlans n => exact settled_addVlans hs hl htame hok
  | remove h =>
    obtain ⟨hw, hlive⟩ := hsane.live h hen
    exact settled_remove hs hlive hok

end

theorem mirrors_reachable (hs : tamed.Reachable s) : Sane s ∧ s.db.Proper ∧ Settled none s := by
  induction hs with
  | init hi =>
    refine ⟨sane_init hi.1, hi.2, ?_⟩
    obtain ⟨db, rfl⟩ := hi.1
    refine ⟨fun hplug => ?_, fun n hn => ?_⟩
    · cases hplug.1
    · cases hn
  | step _ hst ih =>
    obtain ⟨⟨hsound, htame⟩, hstep, hproper, hproper'⟩ := hst
    obtain ⟨hsane, -, hs⟩ := ih
    exact ⟨sane_step hsane hsound hstep, hproper', settled_step hs hsane hproper hsound htame hstep⟩

end

/-- Once the latest rows have been processed, every interface advertises what
the rows say, and no VLAN twice. -/
theorem advertised_from_rows (s : Cache) (hs : tamed.Reachable s) (hprocessed : Processed s) :
    ∀ a itf hw, Plugged s a itf hw →
      (hw.hLport.pPvid, hw.hLport.pVlans) = s.db.advertised itf.name ∧
        (hw.hLport.pVlans.map Vlan.vVid).Nodup := by
  intro a itf hw hplug
  obtain ⟨-, hproper, hsettled⟩ := mirrors_reachable hs
  cases hdata : itf.portdata with
  | none =>
    obtain ⟨hpvid, hvlans⟩ := (hsettled.entry hplug).bare hdata
    rw [hpvid, hvlans]
    refine ⟨?_, List.nodup_nil⟩
    -- a row that lists the interface would have taken it
    unfold Db.advertised
    cases hfind : s.db.ports.find? (fun row => row.interfaces.contains itf.name) with
    | none => rfl
    | some row =>
      have hrow := List.mem_of_find?_eq_some hfind
      have hn : itf.name ∈ row.interfaces := by simpa using List.find?_some hfind
      obtain ⟨p, port, hport, hname⟩ := hprocessed.ports row hrow
      have htaken := (hsettled.entry hplug).taken p port row nofun hport
        (hprocessed.configured p port hport) (by rw [hname]; exact hproper.port hrow) hn
      cases hdata.symm.trans htaken
  | some p =>
    obtain ⟨port, hport, -⟩ := (hsettled.entry hplug).owned p hdata
    have hc := hprocessed.configured p port hport
    obtain ⟨⟨row, hrow⟩, -⟩ := hsettled.configured port.name hc
    obtain ⟨hn, -, hpvid, hvlans⟩ := (hsettled.entry hplug).follows p port row hdata hport hc hrow
    obtain ⟨h, -, hlive⟩ := hplug.2
    rw [hprocessed.rescanned h hw hlive] at hvlans
    have hrowmem := (Db.of_port hrow).1
    rw [hproper.advertised hrowmem hn, hpvid, hvlans]
    refine ⟨rfl, ?_⟩
    exact (hproper.vids row hrowmem).sublist (named_vids s.db _)

/-! ## One port -/

def oneDb (mode : PortVlanMode) (tag : Option UInt16) : Db where
  interfaces := [['1']]
  ports := [⟨['1'], some (some mode), tag, [], [['1']]⟩]
  vlans := [(10, [118])]

/-- The entry and the hardware of the interface, on the rows `oneDb`. -/
def oneEntry (mode : PortVlanMode) (tag : Option UInt16) (portdata : Option Addr)
    (ports : Objects PortData) (hw : IfHardware) (configured : List Text) : Cache where
  db := oneDb mode tag
  allInterfaces := AList.insert 0 ⟨['1'], true, portdata, some 0⟩ ∅
  allPorts := ports
  hardware := AList.insert 0 hw ∅
  gHardware := [0]
  configured := configured

def onePort (mode : PortVlanMode) (tag : Option UInt16) (lport : Port) : Cache :=
  oneEntry mode tag (some 0) (AList.insert 0 ⟨['1'], mode, [some 0]⟩ ∅) ⟨['1'], lport, false⟩
    [['1']]

section
variable {mode : PortVlanMode} {tag : Option UInt16} {lport : Port} {portdata : Option Addr}
  {ports : Objects PortData} {hw hw' : IfHardware} {configured : List Text} {a : Addr}
  {itf : InterfaceData}

theorem plugged_oneEntry (hplug : Plugged (oneEntry mode tag portdata ports hw configured) a itf hw') :
    itf.portdata = portdata ∧ hw' = hw := by
  obtain ⟨hitf, h, -, hlive⟩ := hplug
  refine ⟨?_, ?_⟩
  · rcases Objects.of_lookup_insert hitf with ⟨-, rfl⟩ | ⟨-, hitf⟩
    · rfl
    · cases hitf
  · rcases Objects.of_lookup_insert hlive with ⟨-, rfl⟩ | ⟨-, hlive⟩
    · rfl
    · cases hlive

theorem tame_addVlans_oneEntry (hvlans : hw.hLport.pVlans = []) :
    Tame (oneEntry mode tag portdata ports hw configured) (.addVlans ['1']) := by
  intro a itf hw' hplug _
  rw [(plugged_oneEntry hplug).2, hvlans]

theorem processed_onePort : Processed (onePort mode tag lport) := by
  refine ⟨fun row hrow => ?_, fun p port hport => ?_, fun h hw hlive => ?_⟩
  · rw [List.mem_singleton.1 hrow]
    exact ⟨0, _, AList.lookup_insert _, rfl⟩
  · rcases Objects.of_lookup_insert hport with ⟨-, rfl⟩ | ⟨-, hport⟩
    · exact List.mem_singleton.2 rfl
    · cases hport
  · rcases Objects.of_lookup_insert hlive with ⟨-, rfl⟩ | ⟨-, hlive⟩
    · rfl
    · cases hlive

theorem plugged_onePort : Plugged (onePort mode tag lport) 0 ⟨['1'], true, some 0, some 0⟩
    ⟨['1'], lport, false⟩ :=
  ⟨AList.lookup_insert _, 0, rfl, AList.lookup_insert _⟩

/-- The hardware has no PVID yet, and no port has the interface. -/
theorem tame_configPort_oneEntry (hpvid : hw.hLport.pPvid = 0) :
    Tame (oneEntry mode tag none (AList.insert 0 { name := ['1'] } ∅) hw configured)
      (.configPort ['1']) := by
  intro p port row _ _
  refine ⟨fun a itf hw' hplug hdata => ?_, fun a itf hw' _ _ p' port' hport ha => ?_,
    fun a itf hw' hplug _ => .inr ?_⟩
  · cases (plugged_oneEntry hplug).1.symm.trans hdata
  · rcases Objects.of_lookup_insert hport with ⟨-, rfl⟩ | ⟨-, hport⟩
    · cases ha
    · cases hport
  · rw [(plugged_oneEntry hplug).2, hpvid]

end

/-- An access port, from its rows to its VLAN, behind the scan that creates the
hardware and one that comes after the Port row. -/
theorem advertised_from_rows_access : ∃ s a itf hw, tamed.Reachable s ∧ Processed s ∧
    Plugged s a itf hw ∧ hw.hLport.pVlans = [⟨[118], 10⟩] ∧
      ((hw.hLport.pPvid, hw.hLport.pVlans) = s.db.advertised itf.name ∧
        (hw.hLport.pVlans.map Vlan.vVid).Nodup) := by
  have hproper : (oneDb .access (some 10)).Proper := by
    refine ⟨by decide, by decide, fun row hrow => ?_⟩
    rw [List.mem_singleton.1 hrow]
    decide
  have hrow : tamed.Reachable (addNewDbInterface ['1'] 0 { db := oneDb .access (some 10) }) :=
    .step (l := .addNewDbInterface ['1'] 0) (.init ⟨⟨_, rfl⟩, hproper⟩)
      ⟨⟨trivial, trivial⟩, ⟨by decide, rfl⟩, hproper, hproper⟩
  have hcreate : tamed.Reachable (oneEntry .access (some 10) none ∅ ⟨['1'], {}, false⟩ []) := by
    refine .step (l := .create ['1'] 0 1 true) hrow ⟨⟨fun hworks => (by cases hworks), ?_⟩,
      ⟨by decide, rfl⟩, hproper, hproper⟩
    exact ⟨fun row _ _ hc => (by cases hc), fun a itf p port row _ _ _ hport => (by cases hport)⟩
  have hscan : tamed.Reachable (oneEntry .access (some 10) none ∅ ⟨['1'], {}, false⟩ []) :=
    .step (l := .addVlans ['1']) hcreate
      ⟨⟨trivial, tame_addVlans_oneEntry rfl⟩, ⟨trivial, rfl⟩, hproper, hproper⟩
  have hport : tamed.Reachable (oneEntry .access (some 10) none
      (AList.insert 0 { name := ['1'] } ∅) ⟨['1'], {}, false⟩ []) :=
    .step (l := .addNewPort ['1'] 0) hscan
      ⟨⟨trivial, trivial⟩, ⟨by decide, rfl⟩, hproper, hproper⟩
  have hconfig : tamed.Reachable (onePort .access (some 10)
      { pPvid := 10, pVlans := [⟨[118], 10⟩] }) :=
    .step (l := .configPort ['1']) hport
      ⟨⟨trivial, tame_configPort_oneEntry rfl⟩, ⟨trivial, rfl⟩, hproper, hproper⟩
  have hseen : tamed.Reachable (oneEntry .access (some 10) (some 0)
      (AList.insert 0 ⟨['1'], .access, [some 0]⟩ ∅) ⟨['1'], { pPvid := 10 }, true⟩ [['1']]) :=
    .step (l := .seen 0) hconfig ⟨⟨trivial, trivial⟩, ⟨by decide, rfl⟩, hproper, hproper⟩
  have hs : tamed.Reachable (onePort .access (some 10)
      { pPvid := 10, pVlans := [⟨[118], 10⟩] }) :=
    .step (l := .addVlans ['1']) hseen
      ⟨⟨trivial, tame_addVlans_oneEntry rfl⟩, ⟨trivial, rfl⟩, hproper, hproper⟩
  exact ⟨_, _, _, _, hs, processed_onePort, plugged_onePort, rfl,
    advertised_from_rows _ hs processed_onePort _ _ _ plugged_onePort⟩

/-- The PVID of an access port stays when the row becomes a trunk: what an
interface advertises depends on the rows of the past. -/
theorem pvid_outlives_access : ∃ s s' a itf hw hw', caches.Reachable s ∧ caches.Reachable s' ∧
    Processed s ∧ Processed s' ∧ s.db = s'.db ∧ Plugged s a itf hw ∧ Plugged s' a itf hw' ∧
    hw.hLport.pPvid ≠ hw'.hLport.pPvid := by
  have hfresh : Cache.run [.addNewDbInterface ['1'] 0, .create ['1'] 0 1 true, .addVlans ['1'],
      .addNewPort ['1'] 0, .configPort ['1']] { db := oneDb .trunk none } =
        some (onePort .trunk none {}) := rfl
  have hstale : Cache.run [.addNewDbInterface ['1'] 0, .create ['1'] 0 1 true, .addVlans ['1'],
      .addNewPort ['1'] 0, .configPort ['1'], .db (oneDb .trunk none), .configPort ['1']]
        { db := oneDb .access (some 10) } = some (onePort .trunk none { pPvid := 10 }) := rfl
  have hreach : ∀ {evs db s}, Cache.run evs { db := db } = some s → caches.Reachable s :=
    fun hrun => LTS.reachable_of_guard
      (reachable_run (fun _ _ _ => trivial) (.init ⟨_, rfl⟩) hrun)
  refine ⟨_, _, _, _, _, _, hreach hfresh, hreach hstale, processed_onePort,
    processed_onePort, rfl, plugged_onePort, plugged_onePort, ?_⟩
  decide

end Lldpd.Ovsdb
