import Lldpd.L4Ovsdb.Ports

/-!
# Loops over interfaces

Ports are configured and deleted in loops over interfaces, and each turn writes
one entry of `all_interfaces` and its hardware. Two interfaces do not share
hardware as long as the tables fit together (`Linked`), so what a whole loop
does can be said interface by interface: `Sweep`.
-/
namespace Lldpd.Ovsdb
open Core

/-! ## VLANs of an interface -/

def namedVlans (db : Db) (vids : List UInt16) : List Vlan :=
  vids.filterMap fun vid => (vlanNameLookupByVid vid db).map fun name => ⟨name, vid⟩

def PortRow.vids (row : PortRow) (mode : PortVlanMode) : List UInt16 :=
  (if mode ≠ .trunk then row.vlanTag.toList else []) ++
    if mode ≠ .access then row.vlanTrunks else []

namespace IfHardware

def withVlans (vlans : List Vlan) (hw : IfHardware) : IfHardware :=
  { hw with hLport := { hw.hLport with pVlans := vlans } }

def withPvid (pvid : UInt16) (hw : IfHardware) : IfHardware :=
  { hw with hLport := { hw.hLport with pPvid := pvid } }

def advertise (db : Db) (mode : PortVlanMode) (row : PortRow) (hw : IfHardware) : IfHardware :=
  { hw with
    hLport := { hw.hLport with
      pPvid := if mode ≠ .trunk then row.vlanTag.getD hw.hLport.pPvid else hw.hLport.pPvid
      pVlans := hw.hLport.pVlans ++ namedVlans db (row.vids mode) }
    rescanned := false }

end IfHardware

structure Writes (s s' : Cache) (h : Addr) (g : IfHardware → IfHardware) : Prop where
  hardware : ∀ h', s'.hardware.lookup h' =
    if h' = h then (s.hardware.lookup h').map g else s.hardware.lookup h'
  rest : s' = { s with hardware := s'.hardware }

section
variable {s s' s'' : Cache} {h a : Addr} {g g' : IfHardware → IfHardware} {hw : IfHardware}

theorem writes_refl (s : Cache) (h : Addr) : Writes s s h id := by
  refine ⟨fun h' => ?_, rfl⟩
  rw [Option.map_id, id, ite_self]

theorem writes_setHardware (s : Cache) (h : Addr) (g : IfHardware → IfHardware) :
    Writes s (s.setHardware h g) h g :=
  ⟨fun h' => Objects.lookup_modify s.hardware h h' g, rfl⟩

theorem Writes.trans (hw : Writes s s' h g) (hw' : Writes s' s'' h g') :
    Writes s s'' h fun x => g' (g x) := by
  refine ⟨fun h' => ?_, ?_⟩
  · rw [hw'.hardware, hw.hardware]
    split
    · exact Option.map_map g' g _
    · rfl
  · rw [hw'.rest, hw.rest]

theorem Writes.congr (hw : Writes s s' h g) (hg : ∀ x, g x = g' x) : Writes s s' h g' := by
  rw [← funext hg]
  exact hw

theorem Writes.live (hw : Writes s s' h g) {x : IfHardware} (hx : s.hardware.lookup h = some x) :
    s'.hardware.lookup h = some (g x) := by
  rw [hw.hardware, if_pos rfl, hx]
  rfl

theorem Writes.db (hw : Writes s s' h g) : s'.db = s.db := by
  rw [hw.rest]

variable (hlive : s.hardware.lookup h = some hw)
include hlive

theorem setLldpVlanNameTlv_ok (vlan : UInt16) : ∃ s', setLldpVlanNameTlv vlan h s = .ok s' ∧
      Writes s s' h fun hw => hw.withVlans (hw.hLport.pVlans ++ namedVlans s.db [vlan]) := by
  unfold setLldpVlanNameTlv
  cases hname : vlanNameLookupByVid vlan s.db with
  | none =>
    refine ⟨s, rfl, (writes_refl s h).congr fun x => ?_⟩
    simp [namedVlans, hname, IfHardware.withVlans]
  | some name =>
    refine ⟨_, by rw [Objects.follow_ok hlive]; rfl, (writes_setHardware s h _).congr fun x => ?_⟩
    simp [namedVlans, hname, IfHardware.withVlans]

theorem setLldpTrunkVlans_ok (row : PortRow) : ∃ s', setLldpTrunkVlans row (some h) s = .ok s' ∧
      Writes s s' h fun hw => hw.withVlans (hw.hLport.pVlans ++ namedVlans s.db row.vlanTrunks) := by
  unfold setLldpTrunkVlans
  generalize row.vlanTrunks = vlans
  induction vlans generalizing s hw with
  | nil =>
    refine ⟨s, rfl, (writes_refl s h).congr fun x => ?_⟩
    simp [namedVlans, IfHardware.withVlans]
  | cons vlan vlans ih =>
    obtain ⟨s1, hok, hw1⟩ := setLldpVlanNameTlv_ok hlive vlan
    obtain ⟨s2, hok2, hw2⟩ := ih (hw1.live hlive)
    refine ⟨s2, ?_, (hw1.trans hw2).congr fun x => ?_⟩
    · simp only [List.foldlM_cons, hok]
      exact hok2
    · rw [hw1.db]
      have hcons : namedVlans s.db (vlan :: vlans) =
          namedVlans s.db [vlan] ++ namedVlans s.db vlans := by
        simp [namedVlans, ← List.filterMap_append]
      rw [hcons, ← List.append_assoc]
      rfl

theorem setLldpPvid_ok (row : PortRow) : ∃ s', setLldpPvid row (some h) s = .ok s' ∧
      Writes s s' h fun hw => (hw.withPvid (row.vlanTag.getD hw.hLport.pPvid)).withVlans
        (hw.hLport.pVlans ++ namedVlans s.db row.vlanTag.toList) := by
  unfold setLldpPvid
  cases row.vlanTag with
  | none =>
    refine ⟨s, rfl, (writes_refl s h).congr fun x => ?_⟩
    simp [namedVlans, IfHardware.withVlans, IfHardware.withPvid]
  | some tag =>
    have hw1 := writes_setHardware s h (IfHardware.withPvid tag)
    obtain ⟨s2, hok, hw2⟩ := setLldpVlanNameTlv_ok (hw1.live hlive) tag
    refine ⟨s2, ?_, (hw1.trans hw2).congr fun x => rfl⟩
    simp only [Objects.follow_ok hlive]
    exact hok

omit hlive in
theorem setLldpVlans_none (mode : PortVlanMode) (row : PortRow) (s : Cache) :
    setLldpVlans mode row none s = .ok s := by
  cases mode <;> cases htag : row.vlanTag <;>
    simp [setLldpVlans, setLldpPvid, setLldpTrunkVlans, bind, Except.bind, htag]

theorem setLldpVlans_ok (mode : PortVlanMode)
    (row : PortRow) : ∃ s', setLldpVlans mode row (some h) s = .ok s' ∧
      Writes s s' h (IfHardware.advertise s.db mode row) := by
  have hw0 := writes_setHardware s h fun hw => { hw with rescanned := false }
  have hpvid : ∃ s1, (if mode ≠ .trunk then setLldpPvid row (some h)
      (s.setHardware h fun hw => { hw with rescanned := false }) else
        .ok (s.setHardware h fun hw => { hw with rescanned := false })) = .ok s1 ∧
      Writes s s1 h fun hw => { (hw.withPvid (if mode ≠ .trunk then
        row.vlanTag.getD hw.hLport.pPvid else hw.hLport.pPvid)).withVlans (hw.hLport.pVlans ++
          namedVlans s.db (if mode ≠ .trunk then row.vlanTag.toList else [])) with
        rescanned := false } := by
    by_cases hmode : mode ≠ .trunk
    · obtain ⟨s1, hok, hw1⟩ := setLldpPvid_ok (hw0.live hlive) row
      refine ⟨s1, by rw [if_pos hmode]; exact hok, (hw0.trans hw1).congr fun x => ?_⟩
      simp only [if_pos hmode]
      rfl
    · refine ⟨_, if_neg hmode, hw0.congr fun x => ?_⟩
      simp only [if_neg hmode]
      simp [namedVlans, IfHardware.withVlans, IfHardware.withPvid]
  obtain ⟨s1, hok1, hw1⟩ := hpvid
  have hsplit : namedVlans s.db (row.vids mode) =
      namedVlans s.db (if mode ≠ .trunk then row.vlanTag.toList else []) ++
        namedVlans s.db (if mode ≠ .access then row.vlanTrunks else []) := by
    simp [namedVlans, PortRow.vids]
  have hdef : setLldpVlans mode row (some h) s = ((if mode ≠ .trunk then setLldpPvid row (some h)
      (s.setHardware h fun hw => { hw with rescanned := false }) else
        .ok (s.setHardware h fun hw => { hw with rescanned := false })) >>= fun s =>
      if mode ≠ .access then setLldpTrunkVlans row (some h) s else .ok s) := rfl
  rw [hdef, hok1]
  by_cases hmode : mode ≠ .access
  · obtain ⟨s2, hok2, hw2⟩ := setLldpTrunkVlans_ok (hw1.live hlive) row
    refine ⟨s2, (if_pos hmode).trans hok2, (hw1.trans hw2).congr fun x => ?_⟩
    unfold IfHardware.advertise
    rw [hw1.db, hsplit, if_pos hmode, ← List.append_assoc]
    rfl
  · refine ⟨s1, if_neg hmode, hw1.congr fun x => ?_⟩
    unfold IfHardware.advertise
    rw [hsplit, if_neg hmode]
    simp [namedVlans, IfHardware.withVlans, IfHardware.withPvid]

theorem seenHardware_ok :
    seenHardware h s = .ok (s.setHardware h fun hw => { hw.withVlans [] with rescanned := true }) := by
  unfold seenHardware
  rw [Objects.follow_ok hlive]
  rfl

theorem lldpdVlanCleanup_ok :
    lldpdVlanCleanup h s = .ok (s.setHardware h (IfHardware.withVlans [])) := by
  unfold lldpdVlanCleanup
  rw [Objects.follow_ok hlive]
  rfl

end

/-! ### Sweeps -/

/-- What no loop over the interfaces of a port changes in an entry. -/
def InterfaceData.links (itf : InterfaceData) : Text × Bool × Option Addr :=
  (itf.name, itf.ifrow, itf.hw)

structure SameLinks (s s' : Cache) : Prop where
  interfaces : ∀ a, (s'.allInterfaces.lookup a).map InterfaceData.links =
    (s.allInterfaces.lookup a).map InterfaceData.links
  hardware : ∀ h, (s'.hardware.lookup h).map IfHardware.hIfname =
    (s.hardware.lookup h).map IfHardware.hIfname
  ports : ∀ p, (s'.allPorts.lookup p).map PortData.name = (s.allPorts.lookup p).map PortData.name
  db : s'.db = s.db
  gHardware : s'.gHardware = s.gHardware

/-- The tables and their pointers fit, but perhaps for `g_hardware`. -/
structure Linked (s : Cache) : Prop where
  interfaceNames : Objects.Unique InterfaceData.name s.allInterfaces
  portNames : Objects.Unique PortData.name s.allPorts
  cached : ∀ p port a, s.allPorts.lookup p = some port → some a ∈ port.interfaces →
    ∃ itf, s.allInterfaces.lookup a = some itf
  hw : ∀ a itf h, s.allInterfaces.lookup a = some itf → itf.hw = some h →
    ∃ hw, s.hardware.lookup h = some hw ∧ hw.hIfname = itf.name

section
variable {s s' s'' : Cache} {a h : Addr} {itf : InterfaceData} {hw : IfHardware}
  {f : InterfaceData → InterfaceData} {g : IfHardware → IfHardware}

theorem map_eq_some {α β : Type} {o o' : Option α} {k : α → β} {x : α} (h : o'.map k = o.map k)
    (hx : o = some x) : ∃ x', o' = some x' ∧ k x' = k x := by
  rw [hx] at h
  exact Option.map_eq_some_iff.1 h

theorem SameLinks.refl (s : Cache) : SameLinks s s :=
  ⟨fun _ => rfl, fun _ => rfl, fun _ => rfl, rfl, rfl⟩

theorem SameLinks.trans (h : SameLinks s s') (h' : SameLinks s' s'') : SameLinks s s'' :=
  ⟨fun a => (h'.interfaces a).trans (h.interfaces a), fun a => (h'.hardware a).trans (h.hardware a),
    fun p => (h'.ports p).trans (h.ports p), h'.db.trans h.db, h'.gHardware.trans h.gHardware⟩

theorem SameLinks.symm (h : SameLinks s s') : SameLinks s' s :=
  ⟨fun a => (h.interfaces a).symm, fun a => (h.hardware a).symm, fun p => (h.ports p).symm,
    h.db.symm, h.gHardware.symm⟩

/-- An entry is still there, with its name, its row and its hardware. -/
theorem SameLinks.interface (hk : SameLinks s s') (hitf : s.allInterfaces.lookup a = some itf) :
    ∃ itf', s'.allInterfaces.lookup a = some itf' ∧ itf'.name = itf.name ∧
      itf'.ifrow = itf.ifrow ∧ itf'.hw = itf.hw := by
  obtain ⟨itf', hitf', hlinks⟩ := map_eq_some (hk.interfaces a) hitf
  simp only [InterfaceData.links, Prod.mk.injEq] at hlinks
  exact ⟨itf', hitf', hlinks⟩

/-- The entries with a name and hardware are the same before and after. -/
theorem SameLinks.exists_iff (hk : SameLinks s s') (P : Text → Option Addr → Prop) (a : Addr) :
    (∃ itf, s'.allInterfaces.lookup a = some itf ∧ P itf.name itf.hw) ↔
      ∃ itf, s.allInterfaces.lookup a = some itf ∧ P itf.name itf.hw := by
  constructor
  · intro hex
    obtain ⟨itf, hitf, hP⟩ := hex
    obtain ⟨itf', hitf', hn, -, hh⟩ := hk.symm.interface hitf
    exact ⟨itf', hitf', by rw [hn, hh]; exact hP⟩
  · intro hex
    obtain ⟨itf, hitf, hP⟩ := hex
    obtain ⟨itf', hitf', hn, -, hh⟩ := hk.interface hitf
    exact ⟨itf', hitf', by rw [hn, hh]; exact hP⟩

theorem SameLinks.live (hk : SameLinks s s') (hlive : s.hardware.lookup h = some hw) :
    ∃ hw', s'.hardware.lookup h = some hw' ∧ hw'.hIfname = hw.hIfname :=
  map_eq_some (hk.hardware h) hlive

theorem Linked.sameLinks (hl : Linked s) (hk : SameLinks s s')
    (hcached : ∀ p port a, s'.allPorts.lookup p = some port → some a ∈ port.interfaces →
      ∃ itf, s.allInterfaces.lookup a = some itf) : Linked s' := by
  refine ⟨hl.interfaceNames.congr fun a => ?_, hl.portNames.congr hk.ports, ?_, ?_⟩
  · have h := congrArg (Option.map Prod.fst) (hk.interfaces a)
    rw [Option.map_map, Option.map_map] at h
    exact h
  · intro p port a hp ha
    obtain ⟨itf, hitf⟩ := hcached p port a hp ha
    obtain ⟨itf', hitf', -⟩ := hk.interface hitf
    exact ⟨itf', hitf'⟩
  · intro a itf' h hitf' hhw
    obtain ⟨itf, hitf, hname, -, hhw'⟩ := hk.symm.interface hitf'
    obtain ⟨hw, hlive, hn⟩ := hl.hw a itf h hitf (hhw'.trans hhw)
    obtain ⟨hw', hlive', hn'⟩ := hk.live hlive
    exact ⟨hw', hlive', by rw [hn', hn, hname]⟩

/-- Two interfaces do not share hardware. -/
theorem Linked.hw_inj (hl : Linked s) {a' : Addr} {itf' : InterfaceData}
    (hitf : s.allInterfaces.lookup a = some itf) (hitf' : s.allInterfaces.lookup a' = some itf')
    (hhw : itf.hw = some h) (hhw' : itf'.hw = some h) : a = a' := by
  obtain ⟨hw, hlive, hname⟩ := hl.hw a itf h hitf hhw
  obtain ⟨hw', hlive', hname'⟩ := hl.hw a' itf' h hitf' hhw'
  cases hlive.symm.trans hlive'
  exact hl.interfaceNames a a' itf itf' hitf hitf' (hname.symm.trans hname')

variable {n : Text} {hit : Addr → Prop} {mode : PortVlanMode} {p : Addr}

/-- The entry that a name is found under. -/
theorem Linked.find (hl : Linked s) :
    s.findInterface n = some (a, itf) ↔ s.allInterfaces.lookup a = some itf ∧ itf.name = n :=
  Objects.find_iff hl.interfaceNames

/-- What a loop over interfaces does: those in `hit` that have hardware are
written with `f` and their hardware with `g`, and the others are as before. -/
structure Sweep (s s' : Cache) (hit : Addr → Prop) (f : InterfaceData → InterfaceData)
    (g : IfHardware → IfHardware) : Prop where
  kept : SameLinks s s'
  hits : ∀ a itf h hw, hit a → s.allInterfaces.lookup a = some itf → itf.hw = some h →
    s.hardware.lookup h = some hw →
    s'.allInterfaces.lookup a = some (f itf) ∧ s'.hardware.lookup h = some (g hw)
  misses : ∀ a itf, s.allInterfaces.lookup a = some itf → ¬ hit a ∨ itf.hw = none →
    s'.allInterfaces.lookup a = some itf ∧
      ∀ h hw, itf.hw = some h → s.hardware.lookup h = some hw → s'.hardware.lookup h = some hw

theorem sweep_idle (h : ∀ a itf, hit a → s.allInterfaces.lookup a = some itf → itf.hw = none) :
    Sweep s s hit f g := by
  refine ⟨.refl s, fun a itf h' hw ha hitf hhw => ?_, fun a itf hitf _ => ⟨hitf, fun _ _ _ h => h⟩⟩
  rw [h a itf ha hitf] at hhw
  cases hhw

/-- One sweep after another, if what both write is written as by one. -/
theorem Sweep.trans {hit' : Addr → Prop} (h : Sweep s s' hit f g) (h' : Sweep s' s'' hit' f g)
    (hf : ∀ itf, (f itf).hw = itf.hw)
    (hboth : ∀ a, hit a → hit' a → (∀ x, f (f x) = f x) ∧ ∀ x, g (g x) = g x) :
    Sweep s s'' (fun a => hit a ∨ hit' a) f g := by
  refine ⟨h.kept.trans h'.kept, fun a itf k hw ha hitf hhw hlive => ?_, fun a itf hitf hmiss => ?_⟩
  · by_cases hh : hit a
    · obtain ⟨h1, h2⟩ := h.hits a itf k hw hh hitf hhw hlive
      by_cases hh' : hit' a
      · obtain ⟨h3, h4⟩ := h'.hits a _ k _ hh' h1 ((hf itf).trans hhw) h2
        obtain ⟨hff, hgg⟩ := hboth a hh hh'
        rw [hff] at h3
        rw [hgg] at h4
        exact ⟨h3, h4⟩
      · obtain ⟨h3, h4⟩ := h'.misses a _ h1 (.inl hh')
        exact ⟨h3, h4 k _ ((hf itf).trans hhw) h2⟩
    · obtain ⟨h1, h2⟩ := h.misses a itf hitf (.inl hh)
      exact h'.hits a itf k hw (ha.resolve_left hh) h1 hhw (h2 k hw hhw hlive)
  · have hmiss1 : ¬ hit a ∨ itf.hw = none := hmiss.imp_left fun h hh => h (.inl hh)
    have hmiss2 : ¬ hit' a ∨ itf.hw = none := hmiss.imp_left fun h hh => h (.inr hh)
    obtain ⟨h1, h2⟩ := h.misses a itf hitf hmiss1
    obtain ⟨h3, h4⟩ := h'.misses a itf h1 hmiss2
    exact ⟨h3, fun k hw hhw hlive => h4 k hw hhw (h2 k hw hhw hlive)⟩

theorem Sweep.congr {hit' : Addr → Prop} (h : Sweep s s' hit f g) (hh : ∀ a, hit a ↔ hit' a) :
    Sweep s s' hit' f g := by
  rw [← funext fun a => propext (hh a)]
  exact h

/-- Writing one entry and its hardware. -/
theorem sweep_one (hl : Linked s) (hitf : s.allInterfaces.lookup a = some itf)
    (hhw : itf.hw = some h) (hf : ∀ itf, (f itf).links = itf.links)
    (hg : ∀ hw, (g hw).hIfname = hw.hIfname)
    (hifs : ∀ a', s'.allInterfaces.lookup a' =
      if a' = a then (s.allInterfaces.lookup a').map f else s.allInterfaces.lookup a')
    (hhws : ∀ h', s'.hardware.lookup h' =
      if h' = h then (s.hardware.lookup h').map g else s.hardware.lookup h')
    (hports : ∀ p, (s'.allPorts.lookup p).map PortData.name =
      (s.allPorts.lookup p).map PortData.name)
    (hdb : s'.db = s.db) (hlist : s'.gHardware = s.gHardware) : Sweep s s' (· = a) f g := by
  have hkept : SameLinks s s' := by
    refine ⟨fun a' => ?_, fun h' => ?_, hports, hdb, hlist⟩
    · rw [hifs]
      split
      · rw [Option.map_map]
        exact congrFun (congrArg Option.map (funext hf)) _
      · rfl
    · rw [hhws]
      split
      · rw [Option.map_map]
        exact congrFun (congrArg Option.map (funext hg)) _
      · rfl
  refine ⟨hkept, ?_, ?_⟩
  · intro a' itf' h' hw' ha' hitf' hhw' hlive'
    subst ha'
    cases hitf.symm.trans hitf'
    cases hhw.symm.trans hhw'
    rw [hifs, hhws, if_pos rfl, if_pos rfl, hitf, hlive']
    exact ⟨rfl, rfl⟩
  · intro a' itf' hitf' hmiss
    by_cases ha' : a' = a
    · subst ha'
      cases hitf.symm.trans hitf'
      rcases hmiss with hmiss | hmiss
      · exact absurd rfl hmiss
      · rw [hmiss] at hhw
        cases hhw
    · refine ⟨by rw [hifs, if_neg ha', hitf'], fun h' hw' hhw' hlive' => ?_⟩
      have hne : h' ≠ h := by
        intro heq
        rw [heq] at hhw'
        exact ha' (hl.hw_inj hitf' hitf hhw' hhw)
      rw [hhws, if_neg hne, hlive']

/-! ### The interfaces that a port refers to -/

/-- A loop over pointers to interfaces whose turns are sweeps over one. -/
theorem sweep_loop {body : Cache → Option Addr → Except BadPointer Cache} {G : Option Addr → Prop}
    (hnull : ∀ s, body s none = .ok s)
    (hbody : ∀ s a itf, Linked s → s.allInterfaces.lookup a = some itf → G itf.hw →
      ∃ s', body s (some a) = .ok s' ∧ Sweep s s' (· = a) f g ∧ s'.allPorts = s.allPorts ∧
        s'.configured = s.configured)
    (hf : ∀ itf, (f itf).hw = itf.hw) (hff : ∀ itf, f (f itf) = f itf) (hgg : ∀ hw, g (g hw) = g hw)
    (hl : Linked s) (l : List (Option Addr))
    (hmem : ∀ a, some a ∈ l → ∃ itf, s.allInterfaces.lookup a = some itf ∧ G itf.hw) :
    ∃ s', l.foldlM body s = .ok s' ∧ Sweep s s' (fun a => some a ∈ l) f g ∧
      s'.allPorts = s.allPorts ∧ s'.configured = s.configured := by
  induction l generalizing s with
  | nil =>
    refine ⟨s, rfl, sweep_idle fun a itf ha => ?_, rfl, rfl⟩
    cases ha
  | cons o l ih =>
    cases o with
    | none =>
      obtain ⟨s', hok, hsweep, hrest⟩ := ih hl fun a ha => hmem a (List.mem_cons_of_mem _ ha)
      refine ⟨s', ?_, hsweep.congr fun a => ?_, hrest⟩
      · rw [List.foldlM_cons, hnull]
        exact hok
      · simp
    | some a =>
      obtain ⟨itf, hitf, hG⟩ := hmem a List.mem_cons_self
      obtain ⟨s1, hok1, hsweep1, hports1, hconf1⟩ := hbody s a itf hl hitf hG
      have hl1 : Linked s1 := hl.sameLinks hsweep1.kept (by rw [hports1]; exact hl.cached)
      have hmem1 : ∀ a', some a' ∈ l →
          ∃ itf, s1.allInterfaces.lookup a' = some itf ∧ G itf.hw := by
        intro a' ha'
        obtain ⟨itf', hitf', hG'⟩ := hmem a' (List.mem_cons_of_mem _ ha')
        obtain ⟨itf1, hitf1, -, -, hhw1⟩ := hsweep1.kept.interface hitf'
        exact ⟨itf1, hitf1, by rw [hhw1]; exact hG'⟩
      obtain ⟨s', hok, hsweep, hports, hconf⟩ := ih hl1 hmem1
      refine ⟨s', ?_, ?_, hports.trans hports1, hconf.trans hconf1⟩
      · rw [List.foldlM_cons, hok1]
        exact hok
      · refine (hsweep1.trans hsweep hf fun _ _ _ => ⟨hff, hgg⟩).congr fun a' => ?_
        rw [List.mem_cons, Option.some_inj]

theorem cleanupInterface_ok (hl : Linked s) (hitf : s.allInterfaces.lookup a = some itf) :
    ∃ s', cleanupInterface s (some a) = .ok s' ∧
      Sweep s s' (· = a) id (IfHardware.withVlans []) ∧ s'.allPorts = s.allPorts ∧
        s'.configured = s.configured := by
  simp only [cleanupInterface, Objects.follow_ok hitf]
  cases hhw : itf.hw with
  | none =>
    refine ⟨s, by simp [bind, Except.bind, hhw]; rfl, sweep_idle fun a' itf' ha' hitf' => ?_, rfl, rfl⟩
    subst ha'
    cases hitf.symm.trans hitf'
    exact hhw
  | some h =>
    obtain ⟨hw, hlive, -⟩ := hl.hw a itf h hitf hhw
    refine ⟨s.setHardware h (IfHardware.withVlans []), ?_, ?_, rfl, rfl⟩
    · simp only [bind, Except.bind, hhw]
      exact lldpdVlanCleanup_ok hlive
    · refine sweep_one hl hitf hhw (fun _ => rfl) (fun _ => rfl) (fun a' => ?_)
        (Objects.lookup_modify _ _ · _) (fun _ => rfl) rfl rfl
      rw [Option.map_id, id, ite_self]
      rfl

theorem delOldPortInterface_ok (hl : Linked s) (hitf : s.allInterfaces.lookup a = some itf)
    (hne : itf.hw ≠ none) : ∃ s', delOldPortInterface s (some a) = .ok s' ∧
      Sweep s s' (· = a) (fun itf => { itf with portdata := none })
        (fun hw => (hw.withVlans []).withPvid 0) ∧ s'.allPorts = s.allPorts ∧
        s'.configured = s.configured := by
  obtain ⟨h, hhw⟩ := Option.ne_none_iff_exists'.1 hne
  obtain ⟨hw, hlive, hname⟩ := hl.hw a itf h hitf hhw
  have hfind : s.findInterface hw.hIfname = some (a, itf) := hl.find.2 ⟨hitf, hname.symm⟩
  have hok : delOldPortInterface s (some a) = .ok (((s.setInterface a
      fun itf => { itf with portdata := none }).setHardware h (IfHardware.withVlans [])).setHardware h
        (IfHardware.withPvid 0)) := by
    simp only [delOldPortInterface, Objects.follow_ok hitf, bind, Except.bind, hhw,
      Objects.follow_ok hlive, hfind]
    rw [lldpdVlanCleanup_ok (s := s.setInterface a _) hlive]
    rfl
  refine ⟨_, hok, ?_, rfl, rfl⟩
  have hw1 := writes_setHardware (s.setInterface a fun itf => { itf with portdata := none }) h
    (IfHardware.withVlans [])
  exact sweep_one hl hitf hhw (fun _ => rfl) (fun _ => rfl) (Objects.lookup_modify _ _ · _)
    (hw1.trans (writes_setHardware _ h (IfHardware.withPvid 0))).hardware (fun _ => rfl) rfl rfl

/-! ### The interfaces of a row -/

/-- What the loop of `lldpd_reconfigure_port` leaves in the port: pointers to
the interfaces that have hardware, and the mode. -/
structure Listed (s s' : Cache) (p : Addr) (mode : PortVlanMode) (names : List Text) : Prop where
  others : ∀ p', p' ≠ p → s'.allPorts.lookup p' = s.allPorts.lookup p'
  port : ∀ port, s.allPorts.lookup p = some port → ∃ port', s'.allPorts.lookup p = some port' ∧
    (∀ a, some a ∈ port'.interfaces ↔ some a ∈ port.interfaces ∨
      ∃ itf, s.allInterfaces.lookup a = some itf ∧ itf.name ∈ names ∧ itf.hw ≠ none) ∧
    (port'.vlanMode = mode ∨ port'.vlanMode = port.vlanMode) ∧
    ((∃ a itf, s.allInterfaces.lookup a = some itf ∧ itf.name ∈ names) → port'.vlanMode = mode)
  configured : s'.configured = s.configured

theorem Linked.listed {names : List Text} (hl : Linked s)
    (hsame : SameLinks s s') (hlist : Listed s s' p mode names) : Linked s' := by
  refine hl.sameLinks hsame fun p' port' a hp' ha => ?_
  by_cases hp : p' = p
  · subst hp
    obtain ⟨port, hport, -⟩ := map_eq_some (hsame.ports p').symm hp'
    obtain ⟨port'', hport'', hmem, -⟩ := hlist.port port hport
    cases hp'.symm.trans hport''
    rcases (hmem a).1 ha with ha | ⟨itf, hitf, -⟩
    · exact hl.cached p' port a hport ha
    · exact ⟨itf, hitf⟩
  · rw [hlist.others p' hp] at hp'
    exact hl.cached p' port' a hp' ha

theorem Listed.trans {names names' : List Text}
    (hsame : SameLinks s s') (h : Listed s s' p mode names) (h' : Listed s' s'' p mode names') :
    Listed s s'' p mode (names ++ names') := by
  refine ⟨fun p' hp => (h'.others p' hp).trans (h.others p' hp), fun port hport => ?_,
    h'.configured.trans h.configured⟩
  obtain ⟨port1, hport1, hmem1, hmode1, hset1⟩ := h.port port hport
  obtain ⟨port2, hport2, hmem2, hmode2, hset2⟩ := h'.port port1 hport1
  refine ⟨port2, hport2, fun a => ?_, ?_, ?_⟩
  · rw [hmem2, hmem1, hsame.exists_iff (fun n hw => n ∈ names' ∧ hw ≠ none), or_assoc, ← exists_or]
    simp [or_and_right, and_or_left]
  · rcases hmode2 with hmode2 | hmode2
    · exact .inl hmode2
    · rw [hmode2]
      exact hmode1
  · intro hfound
    obtain ⟨a, itf, hitf, hname⟩ := hfound
    rcases List.mem_append.1 hname with hname | hname
    · rcases hmode2 with hmode2 | hmode2
      · exact hmode2
      · rw [hmode2]
        exact hset1 ⟨a, itf, hitf, hname⟩
    · exact hset2 ⟨a, (hsame.exists_iff (fun n _ => n ∈ names') a).2 ⟨itf, hitf, hname⟩⟩

variable {k : PortData → PortData}

theorem Sweep.setPort (hs : Sweep s s' hit f g) (hk : ∀ port, (k port).name = port.name) :
    Sweep s (s'.setPort p k) hit f g := by
  obtain ⟨hsame, hhits, hmisses⟩ := hs
  refine ⟨⟨hsame.interfaces, hsame.hardware, fun p' => ?_, hsame.db, hsame.gHardware⟩, hhits, hmisses⟩
  exact (Objects.map_lookup_modify hk s'.allPorts p p').trans (hsame.ports p')

theorem listed_setPort {o : Option Addr} (hk : ∀ port, (k port).interfaces = port.interfaces ++ [o])
    (hmode : ∀ port, (k port).vlanMode = mode ∨ (k port).vlanMode = port.vlanMode)
    (hset : (∃ a itf, s.allInterfaces.lookup a = some itf ∧ itf.name = n) →
      ∀ port, (k port).vlanMode = mode)
    (ho : ∀ a, o = some a ↔ ∃ itf, s.allInterfaces.lookup a = some itf ∧ itf.name = n ∧ itf.hw ≠ none)
    (hports : s'.allPorts = Objects.modify s.allPorts p k) (hconf : s'.configured = s.configured) :
    Listed s s' p mode [n] := by
  refine ⟨fun p' hp => ?_, fun port hport => ⟨k port, ?_, fun a => ?_, hmode port, fun hfound => ?_⟩,
    hconf⟩
  · rw [hports]
    exact Objects.lookup_modify_ne hp
  · rw [hports]
    exact Objects.lookup_modify_self hport
  · rw [hk, List.mem_append, List.mem_singleton, eq_comm, ho]
    simp
  · obtain ⟨a, itf, hitf, hname⟩ := hfound
    exact hset ⟨a, itf, hitf, List.mem_singleton.1 hname⟩ port

theorem reconfigureInterface_ok (hl : Linked s) (p : Addr) (row : PortRow) (n : Text) :
    ∃ s', reconfigureInterface p row s n = .ok s' ∧
      Sweep s s' (fun a => ∃ itf, s.allInterfaces.lookup a = some itf ∧ itf.name = n)
        (fun itf => { itf with portdata := some p })
        (IfHardware.advertise s.db (portVlanMode row) row) ∧
      Listed s s' p (portVlanMode row) [n] := by
  unfold reconfigureInterface
  cases hfind : s.findInterface n with
  | none =>
    have habsent : ∀ a itf, s.allInterfaces.lookup a = some itf → itf.name ≠ n := fun a itf hitf =>
      Objects.name_ne_of_find_none hfind hitf
    refine ⟨_, rfl, ?_, ?_⟩
    · refine Sweep.setPort (sweep_idle fun a itf hex _ => ?_) fun _ => rfl
      obtain ⟨itf', hitf', hname⟩ := hex
      exact absurd hname (habsent a itf' hitf')
    · refine listed_setPort
        (k := fun port => { port with interfaces := port.interfaces ++ [none] })
        (fun _ => rfl) (fun _ => .inr rfl) (fun hex => ?_) (fun a => ?_) rfl rfl
      · obtain ⟨a, itf, hitf, hname⟩ := hex
        exact absurd hname (habsent a itf hitf)
      · refine ⟨fun h => (by cases h), fun hex => ?_⟩
        obtain ⟨itf, hitf, hname, -⟩ := hex
        exact absurd hname (habsent a itf hitf)
  | some found =>
    obtain ⟨a, itf⟩ := found
    obtain ⟨hitf, hname⟩ := hl.find.1 hfind
    have hone : ∀ a', (∃ itf', s.allInterfaces.lookup a' = some itf' ∧ itf'.name = n) ↔ a' = a := by
      intro a'
      constructor
      · intro hex
        obtain ⟨itf', hitf', hname'⟩ := hex
        exact hl.interfaceNames a' a itf' itf hitf' hitf (hname'.trans hname.symm)
      · intro heq
        subst heq
        exact ⟨itf, hitf, hname⟩
    cases hhw : itf.hw with
    | none =>
      refine ⟨s.setPort p fun port => { port with
        interfaces := port.interfaces ++ [none], vlanMode := portVlanMode row }, ?_, ?_, ?_⟩
      · simp only [hhw]
        exact setLldpVlans_none _ _ _
      · refine Sweep.setPort (sweep_idle fun a' itf' hex hitf' => ?_) fun _ => rfl
        obtain rfl := (hone a').1 hex
        cases hitf.symm.trans hitf'
        exact hhw
      · refine listed_setPort (k := fun port => { port with
          interfaces := port.interfaces ++ [none], vlanMode := portVlanMode row }) (fun _ => rfl)
          (fun _ => .inl rfl) (fun _ _ => rfl) (fun a' => ⟨fun h => (by cases h), fun hex => ?_⟩)
          rfl rfl
        obtain ⟨itf', hitf', hname', hne⟩ := hex
        obtain rfl := (hone a').1 ⟨itf', hitf', hname'⟩
        cases hitf.symm.trans hitf'
        exact absurd hhw hne
    | some h =>
      obtain ⟨hw, hlive, -⟩ := hl.hw a itf h hitf hhw
      obtain ⟨s', hok, hwrites⟩ := setLldpVlans_ok (s := (s.setInterface a fun intf =>
        { intf with portdata := some p }).setPort p fun port => { port with
          interfaces := port.interfaces ++ [some a], vlanMode := portVlanMode row })
        hlive (portVlanMode row) row
      refine ⟨s', ?_, ?_, ?_⟩
      · simp only [hhw]
        exact hok
      · refine (sweep_one (f := fun itf => { itf with portdata := some p })
          (g := IfHardware.advertise s.db (portVlanMode row) row) hl hitf hhw (fun _ => rfl)
          (fun _ => rfl) (fun a' => ?_) hwrites.hardware (fun p' => ?_) hwrites.db
          ?_).congr fun a' => (hone a').symm
        · rw [hwrites.rest]
          exact Objects.lookup_modify _ _ a' _
        · rw [hwrites.rest]
          refine Objects.map_lookup_modify (fun port => ?_) s.allPorts p p'
          rfl
        · rw [hwrites.rest]
          rfl
      · refine listed_setPort (k := fun port => { port with
          interfaces := port.interfaces ++ [some a], vlanMode := portVlanMode row }) (fun _ => rfl)
          (fun _ => .inl rfl) (fun _ _ => rfl) (fun a' => ?_) ?_ ?_
        · constructor
          · intro heq
            cases heq
            exact ⟨itf, hitf, hname, by rw [hhw]; exact Option.some_ne_none h⟩
          · intro hex
            obtain ⟨itf', hitf', hname', -⟩ := hex
            rw [(hone a').1 ⟨itf', hitf', hname'⟩]
        · rw [hwrites.rest]
          rfl
        · rw [hwrites.rest]
          rfl

/-- The whole loop. If no interface is in the row twice it is a sweep. -/
theorem reconfigureInterfaces_ok (hl : Linked s) (p : Addr) (row : PortRow) (names : List Text) :
    ∃ s', names.foldlM (reconfigureInterface p row) s = .ok s' ∧ SameLinks s s' ∧
      Listed s s' p (portVlanMode row) names ∧ (names.Nodup →
        Sweep s s' (fun a => ∃ itf, s.allInterfaces.lookup a = some itf ∧ itf.name ∈ names)
          (fun itf => { itf with portdata := some p })
          (IfHardware.advertise s.db (portVlanMode row) row)) := by
  induction names generalizing s with
  | nil =>
    refine ⟨s, rfl, .refl s, ⟨fun _ _ => rfl, fun port hport => ⟨port, hport, fun a => ?_, .inr rfl,
      fun hex => ?_⟩, rfl⟩, fun _ => sweep_idle fun a itf hex => ?_⟩
    · simp
    · obtain ⟨a, itf, -, hname⟩ := hex
      cases hname
    · obtain ⟨itf, -, hname⟩ := hex
      cases hname
  | cons n names ih =>
    obtain ⟨s1, hok1, hsweep1, hlist1⟩ := reconfigureInterface_ok hl p row n
    obtain ⟨s2, hok2, hsame2, hlist2, hsweep2⟩ := ih (hl.listed hsweep1.kept hlist1)
    refine ⟨s2, ?_, hsweep1.kept.trans hsame2, hlist1.trans hsweep1.kept hlist2, fun hnodup => ?_⟩
    · rw [List.foldlM_cons, hok1]
      exact hok2
    · obtain ⟨hn, hnodup⟩ := List.nodup_cons.1 hnodup
      have hsweep := hsweep2 hnodup
      rw [hsweep1.kept.db] at hsweep
      have hback := hsweep.congr (hsweep1.kept.exists_iff fun n _ => n ∈ names)
      refine (hsweep1.trans hback (fun _ => rfl) fun a h1 h2 => ?_).congr fun a => ?_
      · obtain ⟨itf, hitf, hname⟩ := h1
        obtain ⟨itf', hitf', hname'⟩ := h2
        cases hitf.symm.trans hitf'
        exact absurd (hname ▸ hname') hn
      · simp [and_or_left, exists_or]

structure Reconfigured (s s' : Cache) (p : Addr) (port : PortData) (row : PortRow) : Prop where
  same : SameLinks s s'
  others : ∀ p', p' ≠ p → s'.allPorts.lookup p' = s.allPorts.lookup p'
  result : ∃ port', s'.allPorts.lookup p = some port' ∧
    (∀ a, some a ∈ port'.interfaces ↔
      ∃ itf, s.allInterfaces.lookup a = some itf ∧ itf.name ∈ row.interfaces ∧ itf.hw ≠ none) ∧
    ((∃ a itf, s.allInterfaces.lookup a = some itf ∧ itf.name ∈ row.interfaces) →
      port'.vlanMode = portVlanMode row)
  configured : s'.configured = port.name :: s.configured
  -- VLANs are removed and then added
  sweeps : row.interfaces.Nodup → ∃ s₁,
    Sweep s s₁ (fun a => some a ∈ port.interfaces) id (IfHardware.withVlans []) ∧
      Sweep s₁ s' (fun a => ∃ itf, s.allInterfaces.lookup a = some itf ∧ itf.name ∈ row.interfaces)
        (fun itf => { itf with portdata := some p })
        (IfHardware.advertise s.db (portVlanMode row) row)

theorem lldpdReconfigurePort_ok (hl : Linked s) {port : PortData} {row : PortRow}
    (hport : s.allPorts.lookup p = some port) (hrow : s.db.port port.name = some row) :
    ∃ s', lldpdReconfigurePort p s = .ok s' ∧ Linked s' ∧ Reconfigured s s' p port row := by
  obtain ⟨s1, hok1, hsweep1, hports1, hconf1⟩ := sweep_loop (G := fun _ => True) (fun _ => rfl)
    (fun s a itf hl hitf _ => cleanupInterface_ok hl hitf) (fun _ => rfl) (fun _ => rfl)
    (fun _ => rfl) hl port.interfaces fun a ha => by
      obtain ⟨itf, hitf⟩ := hl.cached p port a hport ha
      exact ⟨itf, hitf, trivial⟩
  -- the list starts empty
  have hsweep2 := hsweep1.setPort (p := p) (k := fun port => { port with interfaces := [] })
    fun _ => rfl
  have hport1 : s1.allPorts.lookup p = some port := by rw [hports1]; exact hport
  have hport2 : (s1.setPort p fun port => { port with interfaces := [] }).allPorts.lookup p =
      some { port with interfaces := [] } := Objects.lookup_modify_self hport1
  have hl2 : Linked (s1.setPort p fun port => { port with interfaces := [] }) := by
    refine hl.sameLinks hsweep2.kept fun p' port' a hp' ha => ?_
    obtain ⟨port0, hport0, heq⟩ := Objects.of_lookup_modify hp'
    rw [hports1] at hport0
    split at heq
    · rw [heq] at ha
      cases ha
    · rw [heq] at ha
      exact hl.cached p' port0 a hport0 ha
  obtain ⟨s3, hok3, hsame3, hlist3, hsweep3⟩ := reconfigureInterfaces_ok hl2 p row row.interfaces
  have hsame := hsweep2.kept.trans hsame3
  obtain ⟨port', hport', hmem, -, hmode⟩ := hlist3.port _ hport2
  have hentry := hsweep2.kept.exists_iff
  refine ⟨{ s3 with configured := port.name :: s3.configured }, ?_, ?_, ?_⟩
  · simp only [lldpdReconfigurePort, Objects.follow_ok hport, bind, Except.bind, hrow]
    rw [hok1]
    simp only
    rw [hok3]
    rfl
  · have hl3 := hl2.listed hsame3 hlist3
    exact ⟨hl3.interfaceNames, hl3.portNames, hl3.cached, hl3.hw⟩
  · refine ⟨⟨hsame.interfaces, hsame.hardware, hsame.ports, hsame.db, hsame.gHardware⟩,
      fun p' hp => ?_, ⟨port', hport', fun a => ?_, fun hex => hmode ?_⟩, ?_, fun hnodup => ?_⟩
    · rw [hlist3.others p' hp, ← hports1]
      exact Objects.lookup_modify_ne hp
    · rw [hmem a]
      simp only [List.not_mem_nil, false_or]
      exact hentry (fun n hw => n ∈ row.interfaces ∧ hw ≠ none) a
    · obtain ⟨a, hex⟩ := hex
      exact ⟨a, (hentry (fun n _ => n ∈ row.interfaces) a).2 hex⟩
    · rw [hlist3.configured]
      exact congrArg (port.name :: ·) hconf1
    · refine ⟨_, hsweep2, ?_⟩
      have hsweep := (hsweep3 hnodup).congr fun a => hentry (fun n _ => n ∈ row.interfaces) a
      have hdb : (s1.setPort p fun port => { port with interfaces := [] }).db = s.db :=
        hsweep2.kept.db
      rw [hdb] at hsweep
      obtain ⟨hsame, hhits, hmisses⟩ := hsweep
      exact ⟨⟨hsame.interfaces, hsame.hardware, hsame.ports, hsame.db, hsame.gHardware⟩, hhits, hmisses⟩

theorem delOldPort_ok (hl : Linked s) {port : PortData} (hfind : s.findPort n = some (p, port))
    (hhw : ∀ a itf, some a ∈ port.interfaces → s.allInterfaces.lookup a = some itf → itf.hw ≠ none) :
    ∃ s1, Sweep s s1 (fun a => some a ∈ port.interfaces)
        (fun itf => { itf with portdata := none }) (fun hw => (hw.withVlans []).withPvid 0) ∧
      delOldPort n s = .ok { s1 with
        allPorts := AList.erase p s.allPorts
        configured := s.configured.filter (· ≠ n) } := by
  have hport : s.allPorts.lookup p = some port := (Objects.of_find hfind).1
  obtain ⟨s1, hok1, hsweep1, hports1, hconf1⟩ := sweep_loop (G := fun hw => hw ≠ none)
    (fun _ => rfl) (fun s a itf hl hitf hne => delOldPortInterface_ok hl hitf hne) (fun _ => rfl)
    (fun _ => rfl) (fun _ => rfl) hl port.interfaces fun a ha => by
      obtain ⟨itf, hitf⟩ := hl.cached p port a hport ha
      exact ⟨itf, hitf, hhw a itf ha hitf⟩
  refine ⟨s1, hsweep1, ?_⟩
  simp only [delOldPort, hfind, hok1, bind, Except.bind]
  rw [hports1, hconf1]
  rfl

end

end Lldpd.Ovsdb
