import Lldpd.L3Daemon.Simulation

/-!
# One interface in a run

Interfaces are named by their place in `g_hardware`, and the place changes
when `lldpd_cleanup` removes others. `Daemon.follow` says where an interface
is after an event, a `Watch` is the daemon with one interface under
observation, and `Watch.step_cases` says all that an event can do to it:

* nothing, or a change of its flags;
* `lldpd_decode` of a frame on it;
* `lldpd_remote_cleanup`, whose effect is a filter on the ports and a few
  increments (`Hardware.forget`).
-/
namespace Lldpd
open Core

/-! ## Cleanups in closed form -/

def SameChassis (h h' : Heap Chassis) : Prop :=
  ∀ a, (h.deref a).map Chassis.info = (h'.deref a).map Chassis.info

section SameChassis
variable {h h' h'' : Heap Chassis} {a : Addr} {f : Chassis → Chassis}

theorem SameChassis.refl (h : Heap Chassis) : SameChassis h h := fun _ => rfl

theorem SameChassis.trans (hs : SameChassis h h') (hs' : SameChassis h' h'') : SameChassis h h'' :=
  fun a => (hs a).trans (hs' a)

theorem sameChassis_write (hf : ∀ c, (f c).info = c.info) : SameChassis (h.write a f) h := by
  intro a'
  rw [Heap.deref_write]
  split
  · rw [Option.map_map]
    exact congrArg (fun g => (h.deref a').map g) (funext hf)
  · rfl

theorem sameChassis_portCleanup (port : Port) : SameChassis (lldpdPortCleanup h port) h := by
  unfold lldpdPortCleanup
  split
  · exact sameChassis_write fun _ => rfl
  · exact .refl _

theorem sameChassis_foldl (ports : List Port) : SameChassis (ports.foldl lldpdPortCleanup h) h := by
  induction ports generalizing h with
  | nil => exact .refl _
  | cons p ports ih => exact ih.trans (sameChassis_portCleanup p)

/-- What a port is attached to, up to count and index. -/
theorem SameChassis.chassis (hs : SameChassis h h') (port : Port) :
    (port.chassis h).map Chassis.info = (port.chassis h').map Chassis.info := by
  unfold Port.chassis
  cases port.pChassis with
  | none => rfl
  | some a => exact hs a

theorem SameChassis.expired (hs : SameChassis h h') (now : Int) (port : Port) :
    expired now h port = expired now h' port := by
  have hc := hs.chassis port
  unfold Lldpd.expired
  cases h1 : port.chassis h with
  | none =>
    rw [h1] at hc
    rw [Option.map_eq_none_iff.1 hc.symm]
  | some c =>
    rw [h1, Option.map_some] at hc
    obtain ⟨c', h2, hi⟩ := Option.map_eq_some_iff.1 hc.symm
    have httl : c'.cTtl = c.cTtl := by
      show c'.info.cTtl = c.info.cTtl
      rw [hi]
    rw [h2]
    simp only [httl]

end SameChassis

/-- Whether `lldpd_remote_cleanup` takes the port away. -/
def goes (expire all : Bool) (now : Int) (h : Heap Chassis) (port : Port) : Bool :=
  all || expire && expired now h port

def Hardware.forget (b : Build) (all : Bool) (gone : Port → Bool) (hw : Hardware) : Hardware :=
  let n := UInt64.ofNat (hw.hRports.countP gone)
  { hw with
    hAgeoutCnt := hw.hAgeoutCnt + if all then 0 else n
    hDeleteCnt := hw.hDeleteCnt + if all && !b.ovsdb then 0 else n
    hRports := hw.hRports.filter fun p => !gone p
    hRportChangeOpcode :=
      if b.ovsdb && hw.hRports.any gone then .del else hw.hRportChangeOpcode }

section Cleanup
variable {b : Build} {expire all : Bool} {now : Int} {h : Heap Chassis}

/-- A turn of the loop, for a port that goes and for one that stays. -/
theorem remoteCleanupStep_eq (hw : Hardware) (port : Port) :
    remoteCleanupStep b expire all now (hw, h) port =
      if goes expire all now h port then
        ({ hw with
            hAgeoutCnt := hw.hAgeoutCnt + if all then 0 else 1
            hDeleteCnt := hw.hDeleteCnt + if all && !b.ovsdb then 0 else 1
            hRportChangeOpcode := if b.ovsdb then .del else hw.hRportChangeOpcode },
          lldpdPortCleanup h port)
      else ({ hw with hRports := hw.hRports ++ [port] }, h) := by
  cases all with
  | true => cases hb : b.ovsdb <;> simp [remoteCleanupStep, goes, hb]
  | false =>
    cases he : expire && expired now h port with
    | true => cases hb : b.ovsdb <;> simp [remoteCleanupStep, goes, he, hb]
    | false => simp [remoteCleanupStep, goes, he]

/-- The loop over `rest`. The chassis it has released are still found, so a
port expires or not by the heap at the start. -/
theorem foldl_remoteCleanup (hw : Hardware) (rest : List Port) {h0 : Heap Chassis}
    (hs : SameChassis h0 h) :
    rest.foldl (remoteCleanupStep b expire all now) (hw, h0) =
      ({ hw with
          hAgeoutCnt := hw.hAgeoutCnt +
            if all then 0 else UInt64.ofNat (rest.countP (goes expire all now h))
          hDeleteCnt := hw.hDeleteCnt +
            if all && !b.ovsdb then 0 else UInt64.ofNat (rest.countP (goes expire all now h))
          hRports := hw.hRports ++ rest.filter fun p => !goes expire all now h p
          hRportChangeOpcode := if b.ovsdb && rest.any (goes expire all now h) then .del
            else hw.hRportChangeOpcode },
        (rest.filter (goes expire all now h)).foldl lldpdPortCleanup h0) := by
  induction rest generalizing hw h0 with
  | nil => simp
  | cons p rest ih =>
    have hgoes : goes expire all now h0 p = goes expire all now h p := by
      unfold goes
      rw [hs.expired]
    rw [List.foldl_cons, remoteCleanupStep_eq, hgoes]
    cases hp : goes expire all now h p with
    | true =>
      rw [if_pos rfl, ih _ ((sameChassis_portCleanup p).trans hs), List.countP_cons_of_pos hp,
        UInt64.ofNat_add]
      simp only [List.filter_cons, List.any_cons, hp, if_true, Bool.not_true, Bool.false_eq_true,
        if_false, Bool.true_or, Bool.and_true, List.foldl_cons]
      cases all <;> cases b.ovsdb <;> simp [UInt64.add_assoc, UInt64.add_comm]
    | false =>
      rw [if_neg (by simp), ih _ hs, List.countP_cons_of_neg (by simp [hp])]
      simp [List.any_cons, hp, Bool.not_false, Bool.false_eq_true, Bool.false_or, List.append_assoc]

theorem remoteCleanup_eq (hw : Hardware) (h : Heap Chassis) :
    lldpdRemoteCleanup b expire all now hw h =
      (hw.forget b all (goes expire all now h),
        (hw.hRports.filter (goes expire all now h)).foldl lldpdPortCleanup h) := by
  unfold lldpdRemoteCleanup
  rw [foldl_remoteCleanup _ _ (.refl h)]
  rfl

/-- The ports that `lldpd_cleanup` takes away: those that go, or all with their interface. -/
def swept (now : Int) (h : Heap Chassis) (hw : Hardware) : List Port :=
  if hw.hFlags = 0 then hw.hRports ++ [hw.hLport] else hw.hRports.filter (goes true false now h)

theorem foldl_cleanup (rest kept : List Hardware) {h0 : Heap Chassis} (hs : SameChassis h0 h) :
    rest.foldl (cleanupStep b now) (kept, h0) =
      (kept ++ (rest.filter fun hw => hw.hFlags ≠ 0).map
          (Hardware.forget b false (goes true false now h)),
        (rest.flatMap (swept now h)).foldl lldpdPortCleanup h0) := by
  induction rest generalizing kept h0 with
  | nil => simp
  | cons hw rest ih =>
    have hnext := (sameChassis_foldl (h := h0) (swept now h hw)).trans hs
    rw [List.foldl_cons, List.flatMap_cons, List.foldl_append]
    by_cases hflags : hw.hFlags = 0
    · have hstep : cleanupStep b now (kept, h0) hw =
          (kept, (swept now h hw).foldl lldpdPortCleanup h0) := by
        have hall : hw.hRports.filter (goes true true now h0) = hw.hRports :=
          List.filter_eq_self.2 fun _ _ => rfl
        simp only [cleanupStep, swept, if_pos hflags, remoteCleanup_eq, List.foldl_append, hall]
        rfl
      rw [hstep, List.filter_cons_of_neg (by simp [hflags]), ih kept hnext]
    · have hgoes : goes true false now h0 = goes true false now h := by
        funext p
        unfold goes
        rw [hs.expired]
      have hstep : cleanupStep b now (kept, h0) hw =
          (kept ++ [hw.forget b false (goes true false now h)],
            (swept now h hw).foldl lldpdPortCleanup h0) := by
        simp only [cleanupStep, swept, if_neg hflags, remoteCleanup_eq, hgoes]
      rw [hstep, List.filter_cons_of_pos (by simp [hflags]), ih _ hnext, List.append_assoc]
      rfl

theorem cleanup_eq (b : Build) (now : Int) (s : Daemon) : lldpdCleanup b now s = { s with
    gHardware := (s.gHardware.filter fun hw => hw.hFlags ≠ 0).map
      (Hardware.forget b false (goes true false now s.gChassis))
    gChassis := ((s.gHardware.flatMap (swept now s.gChassis)).foldl lldpdPortCleanup
      s.gChassis).filter fun e => e.2.cRefcount ≠ 0 } := by
  unfold lldpdCleanup
  rw [foldl_cleanup _ _ (.refl _)]
  rfl

theorem cleanup_gHardware (b : Build) (now : Int) (s : Daemon) :
    (lldpdCleanup b now s).gHardware =
      (s.gHardware.filter fun hw => hw.hFlags ≠ 0).map
        (Hardware.forget b false (goes true false now s.gChassis)) := by
  rw [cleanup_eq]

end Cleanup

variable {b : Build}

/-- Without a frame, the neighbors of an interface can only become fewer. -/
theorem step_ports {s s' : Daemon} {ev : Event}
    (hev : ∀ i frame now stack, ev ≠ .decode i frame now stack)
    (hdetached : ∀ hw ∈ s.detached, hw.hRports = []) (h : s.step b ev = some s') :
    (∀ hw' ∈ s'.gHardware, hw'.hRports = [] ∨
        ∃ hw ∈ s.gHardware, hw'.hRports.Sublist hw.hRports) ∧
      ∀ hw ∈ s'.detached, hw.hRports = [] := by
  have hsame : ∀ hw ∈ s.gHardware, hw.hRports = [] ∨
      ∃ hw0 ∈ s.gHardware, hw.hRports.Sublist hw0.hRports :=
    fun hw hmem => .inr ⟨hw, hmem, List.Sublist.refl _⟩
  -- one interface is replaced by one with fewer neighbors
  have hset : ∀ {i : Nat} {hw hw' : Hardware}, s.gHardware[i]? = some hw →
      hw'.hRports.Sublist hw.hRports → ∀ hw1 ∈ s.gHardware.set i hw', hw1.hRports = [] ∨
        ∃ hw0 ∈ s.gHardware, hw1.hRports.Sublist hw0.hRports := by
    intro i hw hw' hget hsub hw1 hmem
    rcases List.mem_or_eq_of_mem_set hmem with hmem | rfl
    · exact hsame hw1 hmem
    · exact .inr ⟨hw, List.mem_of_getElem? hget, hsub⟩
  refine ⟨?_, step_detached (fun _ => rfl) h hdetached⟩
  cases Daemon.stepped h with
  | allocHardware | hardwareCleanup => exact hsame
  | @addHardware i hw hget =>
    intro hw' hmem
    rcases List.mem_append.1 hmem with hmem | hmem
    · exact hsame hw' hmem
    · rw [List.mem_singleton.1 hmem]
      exact .inl (hdetached hw (List.mem_of_getElem? hget))
  | scan hget => exact hset hget (List.Sublist.refl _)
  | decode => exact absurd rfl (hev _ _ _ _)
  | remoteCleanup hget =>
    rw [remoteCleanup_eq]
    exact hset hget List.filter_sublist
  | cleanup =>
    intro hw' hmem
    rw [cleanup_gHardware] at hmem
    obtain ⟨hw, hw_mem, rfl⟩ := List.mem_map.1 hmem
    exact .inr ⟨hw, (List.mem_filter.1 hw_mem).1, List.filter_sublist⟩

/-! ## The interface under observation -/

/-- Where the interface number `i` is after an event, if it is still there. -/
def Daemon.follow (s : Daemon) (i : Nat) : Event → Option Nat
  | .cleanup _ =>
    if s.gHardware[i]?.any fun hw => hw.hFlags = 0 then none
    else some ((s.gHardware.take i).countP fun hw => hw.hFlags ≠ 0)
  | _ => some i

structure Watch where
  daemon : Daemon
  place : Nat

def Watch.hardware (w : Watch) : Option Hardware := w.daemon.gHardware[w.place]?

/-- Whether the event is for the interface number `i`. -/
def Event.concerns (i : Nat) : Event → Bool
  | .scan j _ | .decode j _ _ _ | .remoteCleanup j _ _ _ => j = i
  | .cleanup _ => true
  | _ => false

inductive Hardware.Step (b : Build) (s s' : Daemon) (i : Nat) (hw : Hardware) :
    Event → Hardware → Prop where
  | scan {flags} : Step b s s' i hw (.scan i flags) { hw with hFlags := flags }
  | decode {frame now stack r} (h : lldpdDecode b now stack frame s hw = .ok r)
      (hs' : s' = { r.2 with gHardware := r.2.gHardware.set i r.1 }) :
      Step b s s' i hw (.decode i frame now stack) r.1
  | remoteCleanup {expire all now} :
      Step b s s' i hw (.remoteCleanup i expire all now)
        (hw.forget b all (goes expire all now s.gChassis))
  | cleanup {now} (hkept : hw.hFlags ≠ 0) :
      Step b s s' i hw (.cleanup now) (hw.forget b false (goes true false now s.gChassis))
  | other {ev} (h : ev.concerns i = false) : Step b s s' i hw ev hw

theorem getElem?_filter {α : Type} {p : α → Bool} {l : List α} {i : Nat} {x : α}
    (hx : l[i]? = some x) (hp : p x = true) :
    (l.filter p)[(l.take i).countP p]? = some x := by
  induction l generalizing i with
  | nil => cases hx
  | cons y l ih =>
    cases i with
    | zero =>
      cases hx
      rw [List.filter_cons_of_pos hp]
      rfl
    | succ i =>
      have ih := ih hx
      rw [List.take_succ_cons]
      by_cases hy : p y = true
      · rw [List.filter_cons_of_pos hy, List.countP_cons_of_pos hy]
        exact ih
      · rw [List.filter_cons_of_neg hy, List.countP_cons_of_neg hy]
        exact ih

theorem getElem?_set_of_ne {s : Daemon} {i j : Nat} {hw hw' : Hardware} (hij : j ≠ i)
    (hget : s.gHardware[i]? = some hw) : (s.gHardware.set j hw')[i]? = some hw := by
  rw [List.getElem?_set_ne hij, hget]

variable {w w' : Watch}

theorem Watch.step_cases {ev : Event} {hw : Hardware} (hget : w.hardware = some hw)
    (hstep : w.daemon.step b ev = some w'.daemon)
    (hfollow : w.daemon.follow w.place ev = some w'.place) :
    ∃ hw', w'.hardware = some hw' ∧ Hardware.Step b w.daemon w'.daemon w.place hw ev hw' := by
  obtain ⟨s, i⟩ := w
  obtain ⟨s', i'⟩ := w'
  have hget : s.gHardware[i]? = some hw := hget
  obtain ⟨hi, -⟩ := List.getElem?_eq_some_iff.1 hget
  have hother {j : Nat} (hij : j ≠ i) : decide (j = i) = false := decide_eq_false hij
  cases Daemon.stepped hstep with
  | allocHardware | hardwareCleanup =>
    cases hfollow
    exact ⟨hw, hget, .other rfl⟩
  | addHardware =>
    cases hfollow
    exact ⟨hw, (List.getElem?_append_left hi).trans hget, .other rfl⟩
  | @scan j flags hw0 hget0 =>
    cases hfollow
    by_cases hij : j = i
    · subst hij
      cases hget0.symm.trans hget
      exact ⟨_, List.getElem?_set_self hi, .scan⟩
    · exact ⟨hw, getElem?_set_of_ne hij hget, .other (hother hij)⟩
  | @decode j frame now stack hw0 r hget0 hdec =>
    cases hfollow
    obtain ⟨_, _, _, hr⟩ := lldpdDecode_frame hdec
    have hlist : r.2.gHardware = s.gHardware := by rw [hr]
    by_cases hij : j = i
    · subst hij
      cases hget0.symm.trans hget
      refine ⟨r.1, ?_, .decode hdec rfl⟩
      rw [hlist]
      exact List.getElem?_set_self hi
    · refine ⟨hw, ?_, .other (hother hij)⟩
      rw [hlist]
      exact getElem?_set_of_ne hij hget
  | @remoteCleanup j expire all now hw0 hget0 =>
    cases hfollow
    by_cases hij : j = i
    · subst hij
      cases hget0.symm.trans hget
      refine ⟨_, ?_, .remoteCleanup⟩
      rw [remoteCleanup_eq]
      exact List.getElem?_set_self hi
    · exact ⟨hw, getElem?_set_of_ne hij hget, .other (hother hij)⟩
  | @cleanup now =>
    unfold Daemon.follow at hfollow
    simp only [hget, Option.any_some] at hfollow
    split at hfollow
    · cases hfollow
    · rename_i hflags
      cases hfollow
      refine ⟨_, ?_, .cleanup (by simpa using hflags)⟩
      show (lldpdCleanup b now s).gHardware[_]? = _
      rw [cleanup_gHardware, List.getElem?_map, getElem?_filter hget (by simp [hflags])]
      rfl

/-- One event of a run, and what it does to the interface under observation. -/
structure Visit where
  daemon : Daemon
  place : Nat
  hardware : Hardware
  event : Event
  after : Hardware
  daemonAfter : Daemon

inductive Watch.Run (M : LTS Daemon Event) : Watch → List Visit → Watch → Prop where
  | nil (w : Watch) : Run M w [] w
  | cons {w w' w'' : Watch} {ev : Event} {hw hw' : Hardware} {vs : List Visit}
      (hget : w.hardware = some hw) (hstep : M.step w.daemon ev w'.daemon)
      (hfollow : w.daemon.follow w.place ev = some w'.place) (hget' : w'.hardware = some hw')
      (hrun : Run M w' vs w'') :
      Run M w (⟨w.daemon, w.place, hw, ev, hw', w'.daemon⟩ :: vs) w''

/-- The run lemma: what every event on an interface does, the events of a run
do. -/
theorem Watch.Run.forall_visits {M : LTS Daemon Event}
    (hM : ∀ s ev s', M.step s ev s' → s.step b ev = some s') {P : Visit → Prop}
    (hP : ∀ s s' i hw ev hw', Hardware.Step b s s' i hw ev hw' → P ⟨s, i, hw, ev, hw', s'⟩)
    {vs : List Visit} (hrun : Watch.Run M w vs w') : ∀ v ∈ vs, P v := by
  induction hrun with
  | nil w => simp
  | cons hget hstep hfollow hget' hrun ih =>
    intro v hv
    rcases List.mem_cons.1 hv with rfl | hv
    · obtain ⟨hw1, hget1, hst⟩ := Watch.step_cases hget (hM _ _ _ hstep) hfollow
      cases hget'.symm.trans hget1
      exact hP _ _ _ _ _ _ hst
    · exact ih v hv

/-- One event with the interface under observation. -/
def Watch.step (b : Build) (w : Watch) (ev : Event) : Option Watch := do
  let s ← w.daemon.step b ev
  let i ← w.daemon.follow w.place ev
  return ⟨s, i⟩

/-- Events that can happen one after the other, while the interface is
there, make a run. -/
theorem Watch.run_exists (cfg : Config) (protocols : List Protocol) {hw : Hardware}
    {events : List Event} (hget : w.hardware = some hw)
    (h : events.foldlM (Watch.step b) w = some w') :
    ∃ vs hw', Watch.Run (Lldpd.daemon b cfg protocols) w vs w' ∧ w'.hardware = some hw' ∧
      vs.map Visit.event = events := by
  induction events generalizing w hw with
  | nil =>
    cases h
    exact ⟨[], hw, .nil _, hget, rfl⟩
  | cons ev events ih =>
    obtain ⟨w1, hstep, h⟩ := Option.bind_eq_some_iff.1 h
    obtain ⟨s, hs, hstep⟩ := Option.bind_eq_some_iff.1 hstep
    obtain ⟨i, hi, hstep⟩ := Option.bind_eq_some_iff.1 hstep
    cases hstep
    obtain ⟨hw1, hget1, -⟩ := @Watch.step_cases b w ⟨s, i⟩ ev hw hget hs hi
    obtain ⟨vs, hw', hrun, hget', hev⟩ := ih hget1 h
    exact ⟨_, hw', @Watch.Run.cons _ w ⟨s, i⟩ w' ev hw hw1 vs hget hs hi hget1 hrun, hget',
      by rw [List.map_cons, hev]⟩

end Lldpd
