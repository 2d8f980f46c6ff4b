import Lldpd.L4Ovsdb.Sweep

/-!
# Consistency of the port cache

A port refers to interfaces, and an interface to its hardware. An entry of
`all_interfaces` is freed when row and hardware are both gone, no matter which
port refers to it, and `del_old_port` takes for granted that all interfaces of
the port have hardware: after the removal of an interface the deletion of its
Port row follows a NULL pointer (`port_deleted_without_hardware`).

`port_cache_consistent`: no call follows a bad pointer, and the tables are
consistent behind it, if and only if the call is `Sound`:

* a port is deleted while all interfaces it refers to have hardware;
* the last of row and hardware of an interface goes while no port refers to it.
-/
namespace Lldpd.Ovsdb
open Core

def Cached (s : Cache) (a : Addr) : Prop :=
  ∃ p port, s.allPorts.lookup p = some port ∧ some a ∈ port.interfaces

/-- What ports refer to is in `all_interfaces`, and what interfaces refer to is
in `g_hardware`. -/
structure Consistent (s : Cache) : Prop where
  interfaces : ∀ a, Cached s a → ∃ itf, s.allInterfaces.lookup a = some itf
  hardware : ∀ a itf h, s.allInterfaces.lookup a = some itf → itf.hw = some h → h ∈ s.gHardware

def Sound (s : Cache) : CacheEvent → Prop
  | .delOldPort name => ∀ p port, s.findPort name = some (p, port) →
      ∀ a itf, some a ∈ port.interfaces → s.allInterfaces.lookup a = some itf → itf.hw ≠ none
  | .delOldDbInterface name => ∀ a itf, s.findInterface name = some (a, itf) → itf.hw = none →
      ¬ Cached s a
  | .create name _ _ works => works = false → ∀ a itf, s.findInterface name = some (a, itf) →
      itf.ifrow = false → ¬ Cached s a
  | .remove h => ∀ hw, s.hardware.lookup h = some hw →
      ∀ a itf, s.findInterface hw.hIfname = some (a, itf) → itf.ifrow = false → ¬ Cached s a
  | _ => True

/-! ## Writing a table -/

section
variable {s s' : Cache} {a h p : Addr} {itf : InterfaceData}

section
variable (hl : Linked s)
include hl

variable {f : InterfaceData → InterfaceData}

theorem Linked.setInterface (hname : ∀ itf, (f itf).name = itf.name)
    (hhw : ∀ itf h, s.allInterfaces.lookup a = some itf → (f itf).hw = some h →
      ∃ hw, s.hardware.lookup h = some hw ∧ hw.hIfname = itf.name) :
    Linked (s.setInterface a f) := by
  refine ⟨hl.interfaceNames.congr fun a' => ?_, hl.portNames, ?_, ?_⟩
  · exact Objects.map_lookup_modify hname s.allInterfaces a a'
  · intro p port a' hp ha'
    obtain ⟨itf, hitf⟩ := hl.cached p port a' hp ha'
    show ∃ itf, (Objects.modify s.allInterfaces a f).lookup a' = some itf
    rw [Objects.lookup_modify, hitf]
    split
    · exact ⟨_, rfl⟩
    · exact ⟨_, rfl⟩
  · intro a' itf' h hitf' hh
    obtain ⟨itf, hitf, heq⟩ := Objects.of_lookup_modify hitf'
    split at heq
    · rename_i ha
      rw [ha] at hitf
      rw [heq] at hh ⊢
      rw [hname]
      exact hhw itf h hitf hh
    · rw [heq] at hh ⊢
      exact hl.hw a' itf h hitf hh

/-- The row or the port of an entry changes. -/
theorem Linked.setRow (hname : ∀ itf, (f itf).name = itf.name) (hhw : ∀ itf, (f itf).hw = itf.hw) :
    Linked (s.setInterface a f) :=
  hl.setInterface hname fun itf h hitf hh => hl.hw a itf h hitf ((hhw itf).symm.trans hh)

theorem Linked.insertInterface (hfresh : s.allInterfaces.lookup a = none)
    (hname : s.findInterface itf.name = none)
    (hhw : ∀ h, itf.hw = some h → ∃ hw, s.hardware.lookup h = some hw ∧ hw.hIfname = itf.name) :
    Linked { s with allInterfaces := AList.insert a itf s.allInterfaces } := by
  refine ⟨hl.interfaceNames.insert fun a' itf' h => Objects.name_ne_of_find_none hname h,
    hl.portNames, ?_, ?_⟩
  · intro p port a' hp ha'
    obtain ⟨itf', hitf'⟩ := hl.cached p port a' hp ha'
    exact ⟨itf', Objects.lookup_insert_of_fresh hfresh hitf'⟩
  · intro a' itf' h hitf' hh
    rcases Objects.of_lookup_insert hitf' with ⟨-, rfl⟩ | ⟨-, hm⟩
    · exact hhw h hh
    · exact hl.hw a' itf' h hm hh

theorem Linked.eraseInterface (hfree : ¬ Cached s a) :
    Linked { s with allInterfaces := AList.erase a s.allInterfaces } := by
  refine ⟨hl.interfaceNames.erase a, hl.portNames, ?_, ?_⟩
  · intro p port a' hp ha'
    obtain ⟨itf, hitf⟩ := hl.cached p port a' hp ha'
    have hne : a' ≠ a := by
      intro heq
      subst heq
      exact hfree ⟨p, port, hp, ha'⟩
    exact ⟨itf, (AList.lookup_erase_ne hne).trans hitf⟩
  · intro a' itf' h hitf' hh
    exact hl.hw a' itf' h (Objects.of_lookup_erase hitf').2 hh

theorem Linked.insertHardware (hfresh : s.hardware.lookup h = none)
    (hw : IfHardware) : Linked { s with hardware := AList.insert h hw s.hardware } := by
  refine ⟨hl.interfaceNames, hl.portNames, hl.cached, fun a itf h' hitf hh => ?_⟩
  obtain ⟨hw', hlive, hname⟩ := hl.hw a itf h' hitf hh
  exact ⟨hw', Objects.lookup_insert_of_fresh hfresh hlive, hname⟩

theorem Linked.eraseHardware
    (hfree : ∀ a itf, s.allInterfaces.lookup a = some itf → itf.hw ≠ some h) :
    Linked { s with hardware := AList.erase h s.hardware } := by
  refine ⟨hl.interfaceNames, hl.portNames, hl.cached, fun a itf h' hitf hh => ?_⟩
  obtain ⟨hw', hlive, hname⟩ := hl.hw a itf h' hitf hh
  have hne : h' ≠ h := by
    intro heq
    subst heq
    exact hfree a itf hitf hh
  exact ⟨hw', (AList.lookup_erase_ne hne).trans hlive, hname⟩

end

/-! ## The calls -/

variable {n : Text} {hw : IfHardware}

theorem linked_delOldDbInterface (hl : Linked s)
    (hsound : ∀ a itf, s.findInterface n = some (a, itf) → itf.hw = none → ¬ Cached s a) :
    Linked (delOldDbInterface n s) := by
  unfold delOldDbInterface
  cases hfind : s.findInterface n with
  | none => exact hl
  | some found =>
    obtain ⟨a, itf⟩ := found
    show Linked (if itf.hw.isNone then _ else _)
    split
    · rename_i hnone
      exact hl.eraseInterface (hsound a itf hfind (Option.isNone_iff_eq_none.1 hnone))
    · exact hl.setRow (fun _ => rfl) fun _ => rfl

theorem linked_addNewDbInterface (hl : Linked s)
    (hfresh : s.allInterfaces.lookup a = none) : Linked (addNewDbInterface n a s) := by
  unfold addNewDbInterface
  cases hfind : s.findInterface n with
  | none => exact hl.insertInterface hfresh hfind fun h hh => by cases hh
  | some found =>
    exact hl.setRow (fun _ => rfl) fun _ => rfl

theorem linked_addNewPort (hl : Linked s) (n : Text) : Linked (addNewPort n p s) := by
  unfold addNewPort
  cases hfind : s.findPort n with
  | some found => exact hl
  | none =>
    refine ⟨hl.interfaceNames, hl.portNames.insert fun p' port' h =>
      Objects.name_ne_of_find_none hfind h, fun p' port' a hp' ha => ?_, hl.hw⟩
    rcases Objects.of_lookup_insert hp' with ⟨-, rfl⟩ | ⟨-, hm⟩
    · cases ha
    · exact hl.cached p' port' a hm ha

/-- The same hardware under the same names. -/
def SameHardware (s s' : Cache) : Prop :=
  s'.gHardware = s.gHardware ∧ ∀ h, (s'.hardware.lookup h).map IfHardware.hIfname =
    (s.hardware.lookup h).map IfHardware.hIfname

theorem linked_delOldPort (hl : Linked s)
    (hsound : ∀ p port, s.findPort n = some (p, port) → ∀ a itf, some a ∈ port.interfaces →
      s.allInterfaces.lookup a = some itf → itf.hw ≠ none) :
    ∃ s', delOldPort n s = .ok s' ∧ Linked s' ∧ SameHardware s s' := by
  cases hfind : s.findPort n with
  | none => exact ⟨s, by simp only [delOldPort, hfind], hl, rfl, fun _ => rfl⟩
  | some found =>
    obtain ⟨p, port⟩ := found
    obtain ⟨s1, hsweep, hok⟩ := delOldPort_ok hl hfind (hsound p port hfind)
    refine ⟨_, hok, ?_, hsweep.kept.gHardware, hsweep.kept.hardware⟩
    have hl1 : Linked { s1 with allPorts := s.allPorts } := by
      refine hl.sameLinks ⟨hsweep.kept.interfaces, hsweep.kept.hardware, fun _ => rfl,
        hsweep.kept.db, hsweep.kept.gHardware⟩ hl.cached
    refine ⟨hl1.interfaceNames, hl1.portNames.erase p, fun p' port' a hp' ha => ?_, hl1.hw⟩
    exact hl1.cached p' port' a (Objects.of_lookup_erase hp').2 ha

/-- The port that is found for an interface can be configured. -/
theorem portOf_some (hp : portOf s n = some p) :
    ∃ port row, s.allPorts.lookup p = some port ∧ s.db.port port.name = some row := by
  obtain ⟨row, hrow, hsome⟩ := List.exists_of_findSome?_eq_some hp
  split at hsome
  · obtain ⟨⟨p', port⟩, hfind, heq⟩ := Option.map_eq_some_iff.1 hsome
    cases heq
    obtain ⟨hport, hname⟩ := Objects.of_find hfind
    refine ⟨port, ?_⟩
    cases hdb : s.db.port port.name with
    | none =>
      have := List.find?_eq_none.1 hdb row hrow
      simp [hname] at this
    | some row' => exact ⟨row', hport, rfl⟩
  · cases hsome

theorem linked_configPort (hl : Linked s) (n : Text) :
    ∃ s', configPort n s = .ok s' ∧ Linked s' ∧ SameHardware s s' := by
  unfold configPort
  cases hrow : s.db.port n with
  | none => exact ⟨s, rfl, hl, rfl, fun _ => rfl⟩
  | some row =>
    cases hfind : s.findPort n with
    | none => exact ⟨s, rfl, hl, rfl, fun _ => rfl⟩
    | some found =>
      obtain ⟨hport, hname⟩ := Objects.of_find hfind
      obtain ⟨s', hok, hl', hrec⟩ := lldpdReconfigurePort_ok hl hport (hname ▸ hrow)
      exact ⟨s', hok, hl', hrec.same.gHardware, hrec.same.hardware⟩

/-- The entry of the hardware loses it, or goes. -/
theorem linked_delLldpdHardwareInterface (hl : Linked s)
    (hsound : ∀ a itf, s.findInterface n = some (a, itf) → itf.ifrow = false → ¬ Cached s a) :
    Linked (delLldpdHardwareInterface n s) ∧
      ∀ a itf, (delLldpdHardwareInterface n s).allInterfaces.lookup a = some itf →
        itf.name = n → itf.hw = none := by
  unfold delLldpdHardwareInterface
  cases hfind : s.findInterface n with
  | none =>
    exact ⟨hl, fun a itf hitf hname => absurd hname (Objects.name_ne_of_find_none hfind hitf)⟩
  | some found =>
    obtain ⟨a, itf⟩ := found
    obtain ⟨hitf, hname⟩ := hl.find.1 hfind
    show Linked (if !itf.ifrow then _ else _) ∧ _
    cases hrow : itf.ifrow with
    | false =>
      refine ⟨hl.eraseInterface (hsound a itf hfind hrow), fun a' itf' hitf' hname' => ?_⟩
      simp only [hrow] at hitf'
      obtain ⟨hne, hitf'⟩ := Objects.of_lookup_erase hitf'
      exact absurd (hl.interfaceNames a' a itf' itf hitf' hitf (hname'.trans hname.symm)) hne
    | true =>
      refine ⟨hl.setInterface (fun _ => rfl) fun itf h hitf hh => (by cases hh),
        fun a' itf' hitf' hname' => ?_⟩
      simp only [hrow] at hitf'
      obtain ⟨itf0, hitf0, heq⟩ := Objects.of_lookup_modify hitf'
      split at heq
      · rw [heq]
      · rename_i hne
        rw [heq] at hname'
        exact absurd (hl.interfaceNames a' a itf0 itf hitf0 hitf (hname'.trans hname.symm)) hne

theorem delLldpdHardwareInterface_rest (n : Text) (s : Cache) :
    delLldpdHardwareInterface n s =
      { s with allInterfaces := (delLldpdHardwareInterface n s).allInterfaces } := by
  unfold delLldpdHardwareInterface
  cases s.findInterface n with
  | none => rfl
  | some found =>
    simp only
    split <;> rfl

theorem linked_ifHardwareCleanup (hl : Linked s) (hlive : s.hardware.lookup h = some hw)
    (hsound : ∀ a itf, s.findInterface hw.hIfname = some (a, itf) → itf.ifrow = false →
      ¬ Cached s a) :
    ∃ s', ifHardwareCleanup h s = .ok s' ∧ Linked s' ∧ s'.gHardware = s.gHardware ∧
      s'.hardware = AList.erase h s.hardware := by
  obtain ⟨hl1, hgone⟩ := linked_delLldpdHardwareInterface hl hsound
  have hrest := delLldpdHardwareInterface_rest hw.hIfname s
  have hhardware : (delLldpdHardwareInterface hw.hIfname s).hardware = s.hardware := by rw [hrest]
  have hlist : (delLldpdHardwareInterface hw.hIfname s).gHardware = s.gHardware := by rw [hrest]
  refine ⟨{ delLldpdHardwareInterface hw.hIfname s with
    hardware := AList.erase h (delLldpdHardwareInterface hw.hIfname s).hardware },
    ?_, ?_, hlist, ?_⟩
  · simp only [ifHardwareCleanup, Objects.follow_ok hlive]
    rfl
  · refine hl1.eraseHardware fun a itf hitf hh => ?_
    obtain ⟨hw', hlive', hname⟩ := hl1.hw a itf h hitf hh
    rw [hhardware, hlive] at hlive'
    cases hlive'
    rw [hgone a itf hitf hname.symm] at hh
    cases hh
  · rw [hhardware]

/-- The entry at `a` gets the hardware at `h`.
mirrors lldpd_ovsdb_if.c:2810-2812 -/
def Cache.attach (s : Cache) (a h : Addr) : Cache :=
  s.setInterface a fun itf => { itf with hw := some h, portdata := none }

/-- The rows of the entries are the same. -/
def SameRows (s s' : Cache) : Prop :=
  ∀ a, (s'.allInterfaces.lookup a).map (fun itf => (itf.name, itf.ifrow)) =
    (s.allInterfaces.lookup a).map fun itf => (itf.name, itf.ifrow)

theorem sameRows_attach (s : Cache) (a h : Addr) : SameRows s (s.attach a h) := by
  refine Objects.map_lookup_modify (fun itf => ?_) s.allInterfaces a
  rfl

/-- An entry gets hardware of its name. -/
theorem Linked.plug (hl : Linked s) (hitf : s.allInterfaces.lookup a = some itf)
    (hlive : s.hardware.lookup h = some hw) (hname : hw.hIfname = itf.name) :
    Linked (s.attach a h) := by
  refine hl.setInterface (fun _ => rfl) fun itf' h' hitf' hh => ?_
  cases hh
  cases hitf.symm.trans hitf'
  exact ⟨hw, hlive, hname⟩

/-- What `add_lldpd_hardware_interface` leaves when it found the entry `itf`. -/
theorem linked_addLldpdHardwareInterface (hl : Linked s) (hlive : s.hardware.lookup h = some hw)
    (hname : hw.hIfname = n) (hfresh : s.allInterfaces.lookup a = none) :
    ∃ s', addLldpdHardwareInterface h n a s = .ok s' ∧ Linked s' ∧ SameHardware s s' ∧
      ∀ a' itf', s'.findInterface n = some (a', itf') → itf'.ifrow = false →
        s'.allPorts = s.allPorts ∧ (s.allInterfaces.lookup a' = none ∨
          ∃ itf, s.findInterface n = some (a', itf) ∧ itf.ifrow = false) := by
  unfold addLldpdHardwareInterface
  cases hfind : s.findInterface n with
  | none =>
    refine ⟨_, rfl, hl.insertInterface hfresh hfind fun h' hh => ?_, ⟨rfl, fun _ => rfl⟩,
      fun a' itf' hfind' _ => ⟨rfl, ?_⟩⟩
    · cases hh
      exact ⟨hw, hlive, hname⟩
    · obtain ⟨hitf', hname'⟩ := Objects.of_find hfind'
      rcases Objects.of_lookup_insert hitf' with ⟨rfl, -⟩ | ⟨-, hm⟩
      · exact .inl hfresh
      · exact absurd hname' (Objects.name_ne_of_find_none hfind hm)
  | some found =>
    obtain ⟨a0, itf0⟩ := found
    obtain ⟨hitf0, hname0⟩ := hl.find.1 hfind
    have hlinked := hl.plug hitf0 hlive (hname.trans hname0.symm)
    -- the entry that is found behind is the same one
    have hback : ∀ s', SameRows s s' → ∀ a' itf', s'.findInterface n = some (a', itf') →
        itf'.ifrow = itf0.ifrow ∧ a' = a0 := by
      intro s' hsame a' itf' hfind'
      obtain ⟨hitf', hname'⟩ := Objects.of_find hfind'
      obtain ⟨itf, hitf, heq⟩ := map_eq_some (hsame a').symm hitf'
      simp only [Prod.mk.injEq] at heq
      obtain rfl := hl.interfaceNames a' a0 itf itf0 hitf hitf0 (by rw [heq.1, hname', hname0])
      cases hitf0.symm.trans hitf
      exact ⟨heq.2.symm, rfl⟩
    have hattach : (s.setInterface a0 fun itf => { itf with hw := some h, portdata := none }) =
      s.attach a0 h := rfl
    simp only [hattach]
    cases hp : (if itf0.ifrow then portOf (s.attach a0 h) n else none) with
    | none =>
      refine ⟨_, rfl, hlinked, ⟨rfl, fun _ => rfl⟩, fun a' itf' hfind' hrow => ⟨rfl, .inr ?_⟩⟩
      obtain ⟨hifrow, rfl⟩ := hback _ (sameRows_attach s a0 h) a' itf' hfind'
      exact ⟨itf0, rfl, hifrow.symm.trans hrow⟩
    | some p =>
      obtain ⟨hifrow, hp⟩ := Option.ite_none_right_eq_some.1 hp
      obtain ⟨port, row, hport, hdb⟩ := portOf_some hp
      have hl1 : Linked ((s.attach a0 h).setInterface a0 fun itf => { itf with portdata := some p }) :=
        hlinked.setRow (fun _ => rfl) fun _ => rfl
      obtain ⟨s', hok, hl', hrec⟩ := lldpdReconfigurePort_ok hl1 hport hdb
      refine ⟨s', hok, hl', ⟨hrec.same.gHardware, hrec.same.hardware⟩, fun a' itf' hfind' hrow => ?_⟩
      have hsame : SameRows s s' := by
        intro a
        have h1 := congrArg (Option.map fun l : Text × Bool × Option Addr => (l.1, l.2.1))
          (hrec.same.interfaces a)
        rw [Option.map_map, Option.map_map] at h1
        refine h1.trans ?_
        refine (Objects.map_lookup_modify (fun itf => ?_) _ a0 a).trans (sameRows_attach s a0 h a)
        rfl
      rw [(hback s' hsame a' itf' hfind').1, hifrow] at hrow
      cases hrow

end

/-! ## Between the calls -/

structure Sane (s : Cache) : Prop extends Linked s where
  live : ∀ h ∈ s.gHardware, ∃ hw, s.hardware.lookup h = some hw
  listed : ∀ h hw, s.hardware.lookup h = some hw → h ∈ s.gHardware
  nodup : s.gHardware.Nodup

section
variable {s s' : Cache} {a h p : Addr} {n : Text} {ev : CacheEvent}

theorem Sane.consistent (hs : Sane s) : Consistent s := by
  refine ⟨fun a hcached => ?_, fun a itf h hitf hh => ?_⟩
  · obtain ⟨p, port, hp, ha⟩ := hcached
    exact hs.cached p port a hp ha
  · obtain ⟨hw, hlive, -⟩ := hs.hw a itf h hitf hh
    exact hs.listed h hw hlive

theorem sane_of_mem_iff (hl : Linked s)
    (hmem : ∀ h, h ∈ s.gHardware ↔ ∃ hw, s.hardware.lookup h = some hw) (hnodup : s.gHardware.Nodup) :
    Sane s :=
  ⟨hl, fun h => (hmem h).1, fun h hw hlive => (hmem h).2 ⟨hw, hlive⟩, hnodup⟩

theorem Sane.mem_iff (hs : Sane s) : h ∈ s.gHardware ↔ ∃ hw, s.hardware.lookup h = some hw := by
  refine ⟨hs.live h, fun hex => ?_⟩
  obtain ⟨hw, hlive⟩ := hex
  exact hs.listed h hw hlive

theorem Sane.same (hs : Sane s) (hl : Linked s') (hhw : SameHardware s s') : Sane s' := by
  obtain ⟨hlist, hhw⟩ := hhw
  refine ⟨hl, fun h hmem => ?_, fun h hw' hlive => ?_, by rw [hlist]; exact hs.nodup⟩
  · rw [hlist] at hmem
    obtain ⟨hw, hlive⟩ := hs.live h hmem
    obtain ⟨hw', hlive', -⟩ := map_eq_some (hhw h) hlive
    exact ⟨hw', hlive'⟩
  · obtain ⟨hw, hlive', -⟩ := map_eq_some (hhw h).symm hlive
    rw [hlist]
    exact hs.listed h hw hlive'

theorem Sane.sameLinks (hs : Sane s) (hsame : SameLinks s s') (hports : s'.allPorts = s.allPorts) :
    Sane s' :=
  hs.same (hs.toLinked.sameLinks hsame (by rw [hports]; exact hs.cached))
    ⟨hsame.gHardware, hsame.hardware⟩

variable {g : IfHardware → IfHardware}

theorem sameLinks_setHardware (hg : ∀ hw, (g hw).hIfname = hw.hIfname) :
    SameLinks s (s.setHardware h g) :=
  ⟨fun _ => rfl, Objects.map_lookup_modify hg s.hardware h, fun _ => rfl, rfl, rfl⟩

theorem Writes.sameLinks (hw : Writes s s' h g) (hg : ∀ hw, (g hw).hIfname = hw.hIfname) :
    SameLinks s s' := by
  refine ⟨fun a => by rw [hw.rest], fun h' => ?_, fun p => by rw [hw.rest], hw.db, by rw [hw.rest]⟩
  rw [hw.hardware]
  split
  · rw [Option.map_map]
    exact congrFun (congrArg Option.map (funext hg)) _
  · rfl

/-- What `add_vlans_from_ovsdb` does: nothing, or it writes the hardware of the interface. -/
theorem addVlans_cases (hl : Linked s) (hok : addVlansFromOvsdb n s = .ok s') :
    s' = s ∨ ∃ a itf h g, s.allInterfaces.lookup a = some itf ∧ itf.name = n ∧ itf.hw = some h ∧
      Writes s s' h g ∧ ((itf.portdata = none ∧ g = fun hw => { hw with rescanned := false }) ∨
        ∃ p port row, itf.portdata = some p ∧ s.allPorts.lookup p = some port ∧
          s.db.port port.name = some row ∧ g = IfHardware.advertise s.db port.vlanMode row) := by
  unfold addVlansFromOvsdb at hok
  cases hfind : s.findInterface n with
  | none =>
    rw [hfind] at hok
    cases hok
    exact .inl rfl
  | some found =>
    obtain ⟨a, itf⟩ := found
    obtain ⟨hitf, hname⟩ := hl.find.1 hfind
    rw [hfind] at hok
    cases hdata : itf.portdata with
    | none =>
      simp only [hdata] at hok
      cases hhw : itf.hw with
      | none =>
        rw [hhw] at hok
        cases hok
        exact .inl rfl
      | some h =>
        rw [hhw] at hok
        cases hok
        exact .inr ⟨a, itf, h, _, hitf, hname, hhw, writes_setHardware s h _, .inl ⟨hdata, rfl⟩⟩
    | some p =>
      simp only [hdata] at hok
      cases hport : s.allPorts.lookup p with
      | none => simp [Objects.follow, hport, bind, Except.bind] at hok
      | some port =>
        -- the port is found again by its name
        have hfindp : s.findPort port.name = some (p, port) :=
          (Objects.find_iff hl.portNames).2 ⟨hport, rfl⟩
        simp only [Objects.follow_ok hport, bind, Except.bind, hfindp] at hok
        cases hrow : s.db.port port.name with
        | none =>
          simp only [hrow] at hok
          split at hok
          · cases hok
            exact .inl rfl
          · cases hok
        | some row =>
          simp only [hrow] at hok
          cases hhw : itf.hw with
          | none =>
            rw [hhw, setLldpVlans_none] at hok
            cases hok
            exact .inl rfl
          | some h =>
            obtain ⟨hw, hlive, -⟩ := hl.hw a itf h hitf hhw
            obtain ⟨s1, hok1, hwrites⟩ := setLldpVlans_ok hlive port.vlanMode row
            rw [hhw, hok1] at hok
            cases hok
            exact .inr ⟨a, itf, h, _, hitf, hname, hhw, hwrites,
              .inr ⟨p, port, row, hdata, hport, hrow, rfl⟩⟩

/-- Nothing but the VLANs of an interface changes. -/
theorem addVlans_sameLinks (hl : Linked s) (hok : addVlansFromOvsdb n s = .ok s') :
    SameLinks s s' ∧ s'.allPorts = s.allPorts := by
  obtain rfl | ⟨a, itf, h, g, -, -, -, hwrites, hg⟩ := addVlans_cases hl hok
  · exact ⟨.refl _, rfl⟩
  · refine ⟨hwrites.sameLinks fun hw => ?_, by rw [hwrites.rest]⟩
    obtain ⟨-, rfl⟩ | ⟨p, port, row, -, -, -, rfl⟩ := hg
    · rfl
    · rfl

/-- Hardware goes that is not in the list. -/
theorem sane_ifHardwareCleanup {hw : IfHardware} (hl : Linked s) (hlive : s.hardware.lookup h = some hw)
    (hsound : ∀ a itf, s.findInterface hw.hIfname = some (a, itf) → itf.ifrow = false →
      ¬ Cached s a) (hmem : ∀ h', h' ∈ s.gHardware ↔ h' ≠ h ∧ ∃ hw, s.hardware.lookup h' = some hw)
    (hnodup : s.gHardware.Nodup) : ∃ s', ifHardwareCleanup h s = .ok s' ∧ Sane s' := by
  obtain ⟨s', hok, hl', hlist, hhardware⟩ := linked_ifHardwareCleanup hl hlive hsound
  refine ⟨s', hok, sane_of_mem_iff hl' (fun h' => ?_) (by rw [hlist]; exact hnodup)⟩
  rw [hlist, hhardware, hmem]
  constructor
  · intro hold
    obtain ⟨hne, hw', hlive'⟩ := hold
    exact ⟨hw', (AList.lookup_erase_ne hne).trans hlive'⟩
  · intro hex
    obtain ⟨hw', hlive'⟩ := hex
    obtain ⟨hne, hlive'⟩ := Objects.of_lookup_erase hlive'
    exact ⟨hne, hw', hlive'⟩

theorem sane_remove (hs : Sane s) (hmem : h ∈ s.gHardware) (hsound : Sound s (.remove h)) :
    ∃ s', removeHardware h s = .ok s' ∧ Sane s' := by
  obtain ⟨hw, hlive⟩ := hs.live h hmem
  have hl : Linked { s with gHardware := s.gHardware.erase h } :=
    ⟨hs.interfaceNames, hs.portNames, hs.cached, hs.hw⟩
  refine sane_ifHardwareCleanup hl hlive (hsound hw hlive) (fun h' => ?_) (hs.nodup.erase h)
  rw [← hs.mem_iff]
  exact hs.nodup.mem_erase_iff

theorem sane_create (hs : Sane s) {works : Bool} (hen : Enabled s (.create n h a works))
    (hsound : Sound s (.create n h a works)) :
    ∃ s', createHardware n h a works s = .ok s' ∧ Sane s' := by
  obtain ⟨hfresh, hfresha⟩ := hen
  have hl0 : Linked (allocHardware n h s) := hs.toLinked.insertHardware hfresh _
  have hlive0 : (allocHardware n h s).hardware.lookup h = some { hIfname := n } :=
    AList.lookup_insert _
  obtain ⟨s1, hok1, hl1, ⟨hlist1, hhw1⟩, hentry1⟩ :=
    linked_addLldpdHardwareInterface hl0 hlive0 rfl hfresha
  have hlist1 : s1.gHardware = s.gHardware := hlist1
  -- all hardware is in the list, or new
  have hlive1 : ∀ h', (∃ hw, s1.hardware.lookup h' = some hw) ↔ h' = h ∨ h' ∈ s.gHardware := by
    intro h'
    constructor
    · intro hex
      obtain ⟨hw', hlive'⟩ := hex
      obtain ⟨hw, hlive, -⟩ := map_eq_some (hhw1 h').symm hlive'
      exact (Objects.of_lookup_insert hlive).imp And.left fun hm => hs.listed h' hw hm.2
    · intro hmem
      have hex : ∃ hw, (allocHardware n h s).hardware.lookup h' = some hw := by
        rcases hmem with rfl | hmem
        · exact ⟨_, hlive0⟩
        · obtain ⟨hw, hlive⟩ := hs.live h' hmem
          exact ⟨hw, Objects.lookup_insert_of_fresh hfresh hlive⟩
      obtain ⟨hw, hlive⟩ := hex
      obtain ⟨hw', hlive', -⟩ := map_eq_some (hhw1 h') hlive
      exact ⟨hw', hlive'⟩
  have hnew : h ∉ s.gHardware := by
    intro hmem
    obtain ⟨hw, hlive⟩ := hs.live h hmem
    cases hfresh.symm.trans hlive
  obtain ⟨hw1, hnew1, hname1⟩ := map_eq_some (hhw1 h) hlive0
  unfold createHardware
  rw [hok1]
  cases works with
  | true =>
    refine ⟨_, rfl, sane_of_mem_iff ⟨hl1.interfaceNames, hl1.portNames, hl1.cached, hl1.hw⟩
      (fun h' => ?_) ?_⟩
    · rw [hlive1, hlist1, List.mem_append, List.mem_singleton, or_comm]
    · rw [hlist1, ← List.concat_eq_append, List.nodup_concat]
      exact ⟨hnew, hs.nodup⟩
  | false =>
    have hsound1 : ∀ a' itf', s1.findInterface hw1.hIfname = some (a', itf') →
        itf'.ifrow = false → ¬ Cached s1 a' := by
      intro a' itf' hfind' hrow hcached
      rw [hname1] at hfind'
      obtain ⟨hports, hcase⟩ := hentry1 a' itf' hfind' hrow
      have hcached : Cached s a' := by
        obtain ⟨p, port, hp, ha'⟩ := hcached
        rw [hports] at hp
        exact ⟨p, port, hp, ha'⟩
      rcases hcase with hnone | ⟨itf, hfind, hrow'⟩
      · obtain ⟨itf, hitf⟩ := hs.consistent.interfaces a' hcached
        cases hnone.symm.trans hitf
      · exact hsound rfl a' itf hfind hrow' hcached
    refine sane_ifHardwareCleanup hl1 hnew1 hsound1 (fun h' => ?_) (by rw [hlist1]; exact hs.nodup)
    rw [hlive1, hlist1]
    refine ⟨fun hmem => ⟨?_, .inr hmem⟩, fun hmem => hmem.2.resolve_left hmem.1⟩
    intro heq
    exact hnew (heq ▸ hmem)

/-- A sound call does not follow a bad pointer, and keeps the invariant. -/
theorem sound_step (hs : Sane s) (hen : Enabled s ev) (hsound : Sound s ev)
    (hev : ∀ n, ev ≠ .addVlans n) : ∃ s', s.step ev = .ok s' ∧ Sane s' := by
  cases ev with
  | db db =>
    exact ⟨_, rfl, ⟨hs.interfaceNames, hs.portNames, hs.cached, hs.hw⟩, hs.live, hs.listed, hs.nodup⟩
  | delOldDbInterface n =>
    refine ⟨_, rfl, hs.same (linked_delOldDbInterface hs.toLinked hsound) ⟨?_, fun h => ?_⟩⟩ <;>
      · unfold delOldDbInterface
        split
        · rfl
        · split <;> rfl
  | addNewDbInterface n a =>
    refine ⟨_, rfl, hs.same (linked_addNewDbInterface hs.toLinked hen.2) ⟨?_, fun h => ?_⟩⟩ <;>
      · unfold addNewDbInterface
        split <;> rfl
  | delOldPort n =>
    obtain ⟨s', hok, hl, hhw⟩ := linked_delOldPort hs.toLinked hsound
    exact ⟨s', hok, hs.same hl hhw⟩
  | addNewPort n p =>
    refine ⟨_, rfl, hs.same (linked_addNewPort hs.toLinked n) ⟨?_, fun h => ?_⟩⟩ <;>
      · unfold addNewPort
        split <;> rfl
  | configPort n =>
    obtain ⟨s', hok, hl, hhw⟩ := linked_configPort hs.toLinked n
    exact ⟨s', hok, hs.same hl hhw⟩
  | create n h a works => exact sane_create hs hen hsound
  | seen h =>
    obtain ⟨hw, hlive⟩ := hs.live h hen
    exact ⟨_, seenHardware_ok hlive, hs.sameLinks (sameLinks_setHardware fun _ => rfl) rfl⟩
  | addVlans n => exact absurd rfl (hev n)
  | remove h => exact sane_remove hs hen hsound

theorem sane_step (hs : Sane s) (hsound : Sound s ev) (hstep : caches.step s ev s') : Sane s' := by
  obtain ⟨hen, hok⟩ := hstep
  by_cases hev : ∃ n, ev = .addVlans n
  · obtain ⟨n, rfl⟩ := hev
    obtain ⟨hsame, hports⟩ := addVlans_sameLinks hs.toLinked hok
    exact hs.sameLinks hsame hports
  · obtain ⟨s1, hok1, hs1⟩ := sound_step hs hen hsound fun n h => hev ⟨n, h⟩
    cases hok.symm.trans hok1
    exact hs1

theorem sane_init (hs : caches.init s) : Sane s := by
  obtain ⟨db, rfl⟩ := hs
  refine ⟨⟨fun a a' x x' h => ?_, fun a a' x x' h => ?_, fun p port a h => ?_, fun a itf h hitf => ?_⟩,
    fun h hmem => ?_, fun h hw hlive => ?_, List.nodup_nil⟩
  · cases h
  · cases h
  · cases h
  · cases hitf
  · cases hmem
  · cases hlive

theorem sane_reachable (hs : (caches.guard Sound).Reachable s) : Sane s := by
  induction hs with
  | init hi => exact sane_init hi
  | step _ hst ih => exact sane_step ih hst.1 hst.2

/-! ## Calls that are not sound -/

theorem delOldPortInterface_null (hitf : s.allInterfaces.lookup a = some itf)
    (hnone : itf.hw = none) : delOldPortInterface s (some a) = .error .null := by
  simp only [delOldPortInterface, Objects.follow_ok hitf, hnone, bind, Except.bind]
  rfl

/-- The loop of `del_old_port` ends only if all interfaces have hardware. -/
theorem hw_of_delOldPort_ok (hl : Linked s) (l : List (Option Addr))
    (hmem : ∀ a, some a ∈ l → ∃ itf, s.allInterfaces.lookup a = some itf)
    (hok : l.foldlM delOldPortInterface s = .ok s') :
    ∀ a itf, some a ∈ l → s.allInterfaces.lookup a = some itf → itf.hw ≠ none := by
  induction l generalizing s with
  | nil =>
    intro a itf ha
    cases ha
  | cons o l ih =>
    have htail : ∀ a, some a ∈ l → ∃ itf, s.allInterfaces.lookup a = some itf := fun a ha =>
      hmem a (List.mem_cons_of_mem _ ha)
    rw [List.foldlM_cons] at hok
    cases o with
    | none =>
      intro a itf ha
      rcases List.mem_cons.1 ha with ha | ha
      · cases ha
      · exact ih hl htail hok a itf ha
    | some a0 =>
      obtain ⟨itf0, hitf0⟩ := hmem a0 List.mem_cons_self
      have hne : itf0.hw ≠ none := by
        intro hnone
        rw [delOldPortInterface_null hitf0 hnone] at hok
        cases hok
      obtain ⟨s1, hok1, hsweep, hports, -⟩ := delOldPortInterface_ok hl hitf0 hne
      rw [hok1] at hok
      have hl1 : Linked s1 := hl.sameLinks hsweep.kept (by rw [hports]; exact hl.cached)
      intro a itf ha hitf
      rcases List.mem_cons.1 ha with ha | ha
      · cases ha
        cases hitf0.symm.trans hitf
        exact hne
      · obtain ⟨itf1, hitf1, -, -, hhw⟩ := hsweep.kept.interface hitf
        rw [← hhw]
        refine ih hl1 (fun a ha => ?_) hok a itf1 ha hitf1
        obtain ⟨itf, hitf⟩ := htail a ha
        obtain ⟨itf', hitf', -⟩ := hsweep.kept.interface hitf
        exact ⟨itf', hitf'⟩

/-- An entry that a port refers to must not be freed. -/
theorem not_cached_of_consistent (hc : Consistent s') (hports : s'.allPorts = s.allPorts)
    (hgone : s'.allInterfaces.lookup a = none) : ¬ Cached s a := by
  intro hcached
  obtain ⟨p, port, hp, ha⟩ := hcached
  rw [← hports] at hp
  obtain ⟨itf, hitf⟩ := hc.interfaces a ⟨p, port, hp, ha⟩
  cases hgone.symm.trans hitf

/-- Without its row the entry of hardware that goes is freed. -/
theorem ifHardwareCleanup_frees {hw : IfHardware}
    (hlive : s.hardware.lookup h = some hw) (hfind : s.findInterface hw.hIfname = some (a, itf))
    (hrow : itf.ifrow = false) (hok : ifHardwareCleanup h s = .ok s') :
    s'.allPorts = s.allPorts ∧ s'.allInterfaces.lookup a = none := by
  simp only [ifHardwareCleanup, Objects.follow_ok hlive, bind, Except.bind,
    delLldpdHardwareInterface, hfind, hrow] at hok
  cases hok
  exact ⟨rfl, AList.lookup_erase a _⟩

/-- A call that works and leaves the tables consistent is sound. -/
theorem sound_of_consistent (hs : Sane s) (hok : s.step ev = .ok s')
    (hc : Consistent s') : Sound s ev := by
  cases ev with
  | delOldPort n =>
    intro p port hfind
    have hport : s.allPorts.lookup p = some port := (Objects.of_find hfind).1
    have hok : delOldPort n s = .ok s' := hok
    simp only [delOldPort, hfind] at hok
    cases hloop : port.interfaces.foldlM delOldPortInterface s with
    | error e => rw [hloop] at hok; cases hok
    | ok s1 =>
      exact hw_of_delOldPort_ok hs.toLinked port.interfaces
        (fun a ha => hs.cached p port a hport ha) hloop
  | delOldDbInterface n =>
    intro a itf hfind hnone
    have hok : Except.ok (delOldDbInterface n s) = .ok s' := hok
    simp only [delOldDbInterface, hfind, hnone, Option.isNone_none, if_true] at hok
    cases hok
    exact not_cached_of_consistent hc rfl (AList.lookup_erase a _)
  | create n h a0 works =>
    intro hworks a itf hfind hrow
    subst hworks
    have hok : createHardware n h a0 false s = .ok s' := hok
    have hfind0 : (allocHardware n h s).findInterface n = some (a, itf) := hfind
    simp only [createHardware, addLldpdHardwareInterface, hfind0, hrow, bind, Except.bind] at hok
    obtain ⟨hitf, hname⟩ := hs.toLinked.find.1 hfind
    -- the entry has the new hardware and no row
    have hfind1 : ((allocHardware n h s).attach a h).findInterface n =
        some (a, { itf with hw := some h, portdata := none }) := by
      refine (Objects.find_iff ?_).2 ⟨Objects.lookup_modify_self hitf, hname⟩
      refine hs.interfaceNames.congr fun a' => Objects.map_lookup_modify (fun itf => ?_) _ a a'
      rfl
    have hlive : ((allocHardware n h s).attach a h).hardware.lookup h =
        some ({ hIfname := n } : IfHardware) := AList.lookup_insert s.hardware
    obtain ⟨hports, hgone⟩ := ifHardwareCleanup_frees hlive hfind1 hrow hok
    exact not_cached_of_consistent hc hports hgone
  | remove h =>
    intro hw hlive a itf hfind hrow
    have hok : ifHardwareCleanup h { s with gHardware := s.gHardware.erase h } = .ok s' := hok
    obtain ⟨hports, hgone⟩ := ifHardwareCleanup_frees
      (s := { s with gHardware := s.gHardware.erase h }) hlive hfind hrow hok
    exact not_cached_of_consistent hc hports hgone
  | _ => trivial

end

/-- In every state that sound calls lead to, what ports refer to is in
`all_interfaces` and the hardware of an interface in `g_hardware`; and a call
follows no bad pointer and leaves this so if and only if it is sound. -/
theorem port_cache_consistent (s : Cache) (hs : (caches.guard Sound).Reachable s) :
    Consistent s ∧ ∀ ev, Enabled s ev → (∀ name, ev ≠ .addVlans name) →
      ((∃ s', s.step ev = .ok s' ∧ Consistent s') ↔ Sound s ev) := by
  have hsane := sane_reachable hs
  refine ⟨hsane.consistent, fun ev hen hev => ⟨fun hex => ?_, fun hsound => ?_⟩⟩
  · obtain ⟨s', hok, hc⟩ := hex
    exact sound_of_consistent hsane hok hc
  · obtain ⟨s', hok, hs'⟩ := sound_step hsane hen hsound hev
    exact ⟨s', hok, hs'.consistent⟩

/-- An interface with its two rows, whose hardware is found. -/
def plugged : List CacheEvent :=
  [.db { interfaces := [['1']], ports := [{ name := ['1'], interfaces := [['1']] }] },
    .addNewDbInterface ['1'] 0, .addNewPort ['1'] 0, .create ['1'] 0 1 true]

theorem port_cache_consistent_plugged : ∃ s, (caches.guard Sound).Reachable s ∧ Cached s 0 ∧
    Consistent s ∧ ∃ s', s.step (.delOldPort ['1']) = .ok s' ∧ Consistent s' := by
  have hsound : ∀ ev ∈ plugged ++ [.db { interfaces := [['1']] }], ∀ s, Sound s ev := by
    simp [plugged, Sound]
  obtain ⟨s, hrun, hfind, hport, hitf, hrow⟩ :
      ∃ s ∈ Cache.run (plugged ++ [.db { interfaces := [['1']] }]) { db := {} },
        s.findPort ['1'] = some (0, ⟨['1'], .trunk, [some 0]⟩) ∧
        s.allPorts.lookup 0 = some ⟨['1'], .trunk, [some 0]⟩ ∧
        s.allInterfaces.lookup 0 = some ⟨['1'], true, some 0, some 0⟩ ∧
        s.db.port ['1'] = none := by
    decide
  have hs : (caches.guard Sound).Reachable s := reachable_run hsound (.init ⟨_, rfl⟩) hrun
  obtain ⟨hc, hstep⟩ := port_cache_consistent s hs
  refine ⟨s, hs, ⟨0, _, hport, List.mem_singleton.2 rfl⟩, hc, ?_⟩
  refine (hstep (.delOldPort ['1']) hrow fun name h => by cases h).2 ?_
  intro p port hfind' a itf ha hitf'
  cases hfind.symm.trans hfind'
  cases List.mem_singleton.1 ha
  cases hitf.symm.trans hitf'
  exact Option.some_ne_none 0

/-- The hardware goes before the Port row. -/
theorem port_deleted_without_hardware : ∃ s, caches.Reachable s ∧
    Enabled s (.delOldPort ['1']) ∧ s.step (.delOldPort ['1']) = .error .null := by
  obtain ⟨s, hrun, hcheck⟩ :
      ∃ s ∈ Cache.run (plugged ++ [.remove 0, .db { interfaces := [['1']] }]) { db := {} },
        Enabled s (.delOldPort ['1']) ∧ s.step (.delOldPort ['1']) = .error .null := by
    decide
  refine ⟨s, LTS.reachable_of_guard (G := fun _ _ => True) ?_, hcheck⟩
  exact reachable_run (fun _ _ _ => trivial) (.init ⟨_, rfl⟩) hrun

end Lldpd.Ovsdb
