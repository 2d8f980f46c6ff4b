import Lldpd.L3Daemon.Indexes

/-!
# The cleanup timer

`levent_schedule_cleanup` arms one timer for all neighbors: it looks for the
one that expires first, over all interfaces, and never waits longer than the
lifetime that the daemon announces itself. It runs behind every received
frame and at the end of every cleanup.

Between two of its calls no neighbor is added, none is heard and no lifetime
of a neighbor changes, so the deadline stays good. `cleanup_timely`: the timer
is armed whenever there is a neighbor, no deadline is later than the expiry of
a neighbor (or than the moment it was armed, for one that has expired already), and
the cleanup takes away what has expired and nothing else. As for the reference
counts, there must be fewer ports than they can count (`cleanup_frees_local`).
-/
namespace Lldpd
open Core

/-! ## The source -/

/-- The loop over the ports of an interface. A port that has expired ends it.
mirrors event.c:713-725 -/
def nextCleanup (now : Int) (gChassis : Heap Chassis) : Int → List Port → Int
  | tvSec, [] => tvSec
  | tvSec, port :: rest =>
    match port.chassis gChassis with
    | none => nextCleanup now gChassis tvSec rest
    | some c =>
      if port.pLastupdate + c.cTtl.toNat ≤ now then 0
      else
        let next := c.cTtl.toNat - (now - port.pLastupdate)
        nextCleanup now gChassis (if next < tvSec then next else tvSec) rest

/-- `levent_schedule_cleanup`: the deadline of the timer. `none`: there is no
local chassis any more.
mirrors event.c:693-736 -/
def leventScheduleCleanup (now : Int) (s : Daemon) : Option Int := do
  let (_, chassis) ← s.localChassis
  return now + s.gHardware.foldl
    (fun tvSec hardware => nextCleanup now s.gChassis tvSec hardware.hRports) chassis.cTtl.toNat

structure Timed where
  daemon : Daemon
  clock : Int
  timer : Option (Int × Int) := none

/-- What the event loop does. `now` is the time at the end, and for those that
arm the timer also the time at which they do. -/
inductive Callback where
  /-- `levent_hardware_recv`, with a frame that `lldpd_recv` decodes at the
  time `heard`, or with one that it ignores.
  mirrors event.c:527-537 -/
  | recv (decoded : Option (Nat × Bytes × Int × Buffer 32)) (now : Int)
  /-- `lldpd_cleanup` at the time `expiry`: the timer has fired, or the
  interfaces have been scanned. -/
  | cleanup (expiry now : Int)
  /-- Interfaces come, go or are scanned, and neighbors are removed. -/
  | other (ev : Event) (now : Int)
  /-- The configuration is changed, and the lifetime with it. -/
  | configure (cfg : Config) (protocols : List Protocol) (cTtl : UInt16) (now : Int)

def Chassis.withTtl (cTtl : UInt16) (c : Chassis) : Chassis := { c with cTtl := cTtl }

/-- What a change of the configuration leaves behind: `c_ttl` is the one of the
local chassis. -/
def Daemon.configure (s : Daemon) (cfg : Config) (protocols : List Protocol) (cTtl : UInt16) :
    Daemon :=
  { s with
    gConfig := cfg
    gProtocols := protocols
    gChassis := s.gChassis.write 0 (.withTtl cTtl) }

namespace Timed

def schedule (s : Daemon) (now : Int) : Option Timed := do
  let deadline ← leventScheduleCleanup now s
  return { daemon := s, clock := now, timer := some (now, deadline) }

/-- Whether `ev` is part of a callback that arms the timer. -/
def arms : Event → Bool
  | .decode .. | .cleanup .. => true
  | _ => false

def step (b : Build) (st : Timed) : Callback → Option Timed
  | .recv none now => if st.clock ≤ now then schedule st.daemon now else none
  | .recv (some (i, frame, heard, stack)) now =>
    if st.clock ≤ heard ∧ heard ≤ now then do
      let s ← st.daemon.step b (.decode i frame heard stack)
      schedule s now
    else none
  | .cleanup expiry now =>
    if st.clock ≤ expiry ∧ expiry ≤ now then schedule (lldpdCleanup b expiry st.daemon) now else none
  | .other ev now =>
    if st.clock ≤ now ∧ arms ev = false then do
      let s ← st.daemon.step b ev
      return { st with daemon := s, clock := now }
    else none
  | .configure cfg protocols cTtl now =>
    if st.clock ≤ now then
      some { st with daemon := st.daemon.configure cfg protocols cTtl, clock := now }
    else none

end Timed

def timedDaemon (b : Build) : LTS Timed Callback :=
  .ofFn (fun st => (∃ cfg protocols, Daemon.startUp cfg protocols st.daemon) ∧ st.timer = none)
    (Timed.step b)

def Timed.Armed (st : Timed) : Prop :=
  ∀ hw ∈ st.daemon.gHardware, ∀ port ∈ hw.hRports, ∃ armed deadline,
    st.timer = some (armed, deadline) ∧ armed ≤ st.clock ∧ armed ≤ deadline ∧
    ∀ c, port.chassis st.daemon.gChassis = some c →
      deadline ≤ max (port.pLastupdate + c.cTtl.toNat) armed

/-! ## The deadline -/

section Deadline
variable (now : Int) (gChassis : Heap Chassis) {tvSec : Int}

theorem nextCleanup_bounds (ports : List Port) (h : 0 ≤ tvSec) :
    0 ≤ nextCleanup now gChassis tvSec ports ∧ nextCleanup now gChassis tvSec ports ≤ tvSec := by
  induction ports generalizing tvSec with
  | nil => exact ⟨h, Int.le_refl _⟩
  | cons port ports ih =>
    unfold nextCleanup
    cases port.chassis gChassis with
    | none => exact ih h
    | some c =>
      simp only
      split
      · exact ⟨Int.le_refl 0, h⟩
      · split
        · have hnext : 0 ≤ (c.cTtl.toNat : Int) - (now - port.pLastupdate) := by omega
          have hrest := ih hnext
          omega
        · exact ih h

/-- No port of the interface is left waiting. -/
theorem nextCleanup_expiry {ports : List Port} (h : 0 ≤ tvSec) {port : Port} (hport : port ∈ ports)
    {c : Chassis} (hc : port.chassis gChassis = some c) :
    now + nextCleanup now gChassis tvSec ports ≤ max (port.pLastupdate + c.cTtl.toNat) now := by
  induction ports generalizing tvSec with
  | nil => cases hport
  | cons q ports ih =>
    rcases List.mem_cons.1 hport with rfl | hport
    · unfold nextCleanup
      rw [hc]
      simp only
      split
      · omega
      · -- the minimum so far is at most the time this port has left
        split
        · have hnext : 0 ≤ (c.cTtl.toNat : Int) - (now - port.pLastupdate) := by omega
          have hrest := nextCleanup_bounds now gChassis ports hnext
          omega
        · have hrest := nextCleanup_bounds now gChassis ports h
          omega
    · unfold nextCleanup
      cases q.chassis gChassis with
      | none => exact ih h hport
      | some oc =>
        simp only
        split
        · omega
        · apply ih _ hport
          split <;> omega

theorem foldl_nextCleanup (hws : List Hardware) (h : 0 ≤ tvSec) :
    0 ≤ hws.foldl (fun tv hw => nextCleanup now gChassis tv hw.hRports) tvSec ∧
      hws.foldl (fun tv hw => nextCleanup now gChassis tv hw.hRports) tvSec ≤ tvSec := by
  induction hws generalizing tvSec with
  | nil => exact ⟨h, Int.le_refl _⟩
  | cons hw hws ih =>
    rw [List.foldl_cons]
    have hfirst := nextCleanup_bounds now gChassis hw.hRports h
    have hrest := ih hfirst.1
    omega

theorem foldl_expiry {hws : List Hardware} (h : 0 ≤ tvSec) {hw : Hardware} (hmem : hw ∈ hws)
    {port : Port} (hport : port ∈ hw.hRports) {c : Chassis} (hc : port.chassis gChassis = some c) :
    now + hws.foldl (fun tv hw => nextCleanup now gChassis tv hw.hRports) tvSec ≤
      max (port.pLastupdate + c.cTtl.toNat) now := by
  induction hws generalizing tvSec with
  | nil => cases hmem
  | cons hw0 hws ih =>
    rw [List.foldl_cons]
    have hbounds := nextCleanup_bounds now gChassis hw0.hRports h
    rcases List.mem_cons.1 hmem with rfl | hmem
    · have hfirst := nextCleanup_expiry now gChassis h hport hc
      have hrest := foldl_nextCleanup now gChassis hws hbounds.1
      omega
    · exact ih hbounds.1 hmem

variable {now} {s : Daemon}

/-- A timer that has just been armed. -/
theorem schedule_armed {st : Timed} (h : Timed.schedule s now = some st) :
    st.daemon = s ∧ st.clock = now ∧ st.Armed := by
  obtain ⟨deadline, hdeadline, h⟩ := Option.bind_eq_some_iff.1 h
  cases h
  obtain ⟨⟨a, chassis⟩, -, hdeadline⟩ := Option.bind_eq_some_iff.1 hdeadline
  cases hdeadline
  refine ⟨rfl, rfl, fun hw hmem port hport => ⟨now, _, rfl, Int.le_refl _, ?_, fun c hc => ?_⟩⟩
  · have hbounds := foldl_nextCleanup now s.gChassis s.gHardware
      (Int.natCast_nonneg chassis.cTtl.toNat)
    omega
  · exact foldl_expiry now s.gChassis (Int.natCast_nonneg _) hmem hport hc

end Deadline

/-! ## What moves no expiry -/

section Kept
variable {b : Build} {s s' : Daemon}

/-- The references stay sound as long as there are few ports. -/
theorem good_step {ev : Event} (hdetached : ∀ hw ∈ s.detached, hw.hRports = [])
    (hg : s.table.Good) (hfew : s'.FewPorts) (h : s.step b ev = some s') : s'.table.Good := by
  have hsteady : s.Steady s.gConfig s.gProtocols := ⟨rfl, rfl, hdetached⟩
  refine (step_simulated hsteady h).keeps (fun t l t' ht hst => ?_) hg
  refine ht.step (fun hl => ?_) hst.2
  subst hl
  cases hst.1 with
  | collect hrows =>
    rw [hrows]
    exact (few_table s').2 hfew

/-- The lifetime of a neighbor is the one it had. -/
theorem ttl_kept {h h' : Heap Chassis} (hnodup : h.addrs.Nodup)
    (hsub : (h'.view Chassis.cTtl).Sublist (h.view Chassis.cTtl)) {port : Port} {c' : Chassis}
    (hc' : port.chassis h' = some c') : ∃ c, port.chassis h = some c ∧ c.cTtl = c'.cTtl := by
  obtain ⟨a, ha, hderef⟩ := Option.bind_eq_some_iff.1 hc'
  have hmem : (a, c'.cTtl) ∈ h.view Chassis.cTtl :=
    hsub.subset (List.mem_map.2 ⟨_, Heap.mem_of_deref hderef, rfl⟩)
  obtain ⟨⟨a0, c⟩, hcell, heq⟩ := List.mem_map.1 hmem
  obtain ⟨rfl, httl⟩ := Prod.mk.inj heq
  exact ⟨c, Option.bind_eq_some_iff.2 ⟨a0, ha, Heap.deref_of_mem hnodup hcell⟩, httl⟩

/-- An event that leaves the timer alone. -/
theorem Timed.Armed.step {st : Timed} {ev : Event} {now : Int} (ha : st.Armed)
    (hdetached : ∀ hw ∈ st.daemon.detached, hw.hRports = [])
    (hnodup : st.daemon.gChassis.addrs.Nodup) (hnow : st.clock ≤ now)
    (hev : ∀ i frame now stack, ev ≠ .decode i frame now stack)
    (h : st.daemon.step b ev = some s') :
    Timed.Armed { st with daemon := s', clock := now } := by
  intro hw' hmem' port hport
  obtain ⟨hports, -⟩ := step_ports hev hdetached h
  obtain ⟨hsub, -⟩ := step_view (g := Chassis.cTtl) (fun _ _ => rfl) hev h
  rcases hports hw' hmem' with hnil | ⟨hw, hmem, hsubl⟩
  · rw [hnil] at hport
    cases hport
  · obtain ⟨armed, deadline, htimer, harmed, hle, hexpiry⟩ := ha hw hmem port (hsubl.subset hport)
    refine ⟨armed, deadline, htimer, Int.le_trans harmed hnow, hle, fun c' hc' => ?_⟩
    obtain ⟨c, hc, httl⟩ := ttl_kept hnodup hsub hc'
    rw [← httl]
    exact hexpiry c hc

end Kept

/-! ## Runs -/

section Runs
variable {b : Build} {st st' : Timed}

structure Timed.Timely (st : Timed) : Prop where
  detached : ∀ hw ∈ st.daemon.detached, hw.hRports = []
  good : st.daemon.table.Good
  armed : st.Armed

/-- No neighbor is attached to the local chassis. -/
theorem chassis_write_local {s : Daemon} (hl : s.table.Layout) {hw : Hardware} (hmem : hw ∈ s.gHardware)
    {port : Port} (hport : port ∈ hw.hRports) (f : Chassis → Chassis) :
    port.chassis (s.gChassis.write 0 f) = port.chassis s.gChassis := by
  have hremote : port.pChassis ≠ some 0 := by
    refine hl.remote port.untimed (Table.mem_neighbors.2 ⟨hw.row, ?_, ?_⟩)
    · exact Multiset.mem_coe.2 (List.mem_map_of_mem (List.mem_append_left _ hmem))
    · exact Multiset.mem_coe.2 (List.mem_map_of_mem hport)
  unfold Port.chassis
  cases hp : port.pChassis with
  | none => rfl
  | some a =>
    have ha : a ≠ 0 := fun h0 => hremote (h0 ▸ hp)
    rw [Option.bind_some, Option.bind_some, Heap.deref_write, if_neg ha]

theorem Timed.Timely.configure (hs : st.Timely) {cfg : Config} {protocols : List Protocol}
    {cTtl : UInt16} {now : Int} (hnow : st.clock ≤ now) :
    Timed.Timely { st with daemon := st.daemon.configure cfg protocols cTtl, clock := now } := by
  have hl := hs.good.layout
  have haddrs : (st.daemon.configure cfg protocols cTtl).table.chassis.addrs =
    st.daemon.table.chassis.addrs := Heap.addrs_write
  refine ⟨hs.detached, ⟨⟨?_, ?_, hl.ports_lt, ?_, hl.remote, hl.pos⟩, ?_, ?_⟩, ?_⟩
  · rw [haddrs]
    exact hl.nodup
  · rw [haddrs]
    exact hl.addrs_lt
  · exact Table.local_protocol_write hl.local_protocol fun _ _ => rfl
  · exact hs.good.sound.keep fun _ => rfl
  · exact hs.good.live.of_addrs haddrs fun p hp => ⟨p, hp, rfl⟩
  · intro hw hmem port hport
    obtain ⟨armed, deadline, htimer, harmed, hle, hexpiry⟩ := hs.armed hw hmem port hport
    refine ⟨armed, deadline, htimer, Int.le_trans harmed hnow, hle, fun c hc => hexpiry c ?_⟩
    rw [← chassis_write_local hl hmem hport (.withTtl cTtl)]
    exact hc

/-- A callback keeps the timer good. -/
theorem Timed.Timely.step (hs : st.Timely) (hfew : st'.daemon.FewPorts) {cb : Callback}
    (h : st.step b cb = some st') : st'.Timely := by
  have hsteady : st.daemon.Steady st.daemon.gConfig st.daemon.gProtocols := ⟨rfl, rfl, hs.detached⟩
  have hdetached : ∀ {ev s'}, st.daemon.step b ev = some s' → ∀ hw ∈ s'.detached, hw.hRports = [] :=
    fun hstep => ((steady_inductive b _ _).step _ _ _ hsteady hstep).detached
  -- a step of the daemon, and the timer behind it
  have hschedule : ∀ {ev s' now}, st.daemon.step b ev = some s' →
      Timed.schedule s' now = some st' → st'.Timely := by
    intro ev s' now hstep harm
    obtain ⟨rfl, -, harmed⟩ := schedule_armed harm
    exact ⟨hdetached hstep, good_step hs.detached hs.good hfew hstep, harmed⟩
  cases cb with
  | recv decoded now =>
    cases decoded with
    | none =>
      obtain ⟨hnow, h⟩ := Option.ite_none_right_eq_some.1 h
      obtain ⟨hd, -, harmed⟩ := schedule_armed h
      exact ⟨hd ▸ hs.detached, hd ▸ hs.good, harmed⟩
    | some d =>
      obtain ⟨hnow, h⟩ := Option.ite_none_right_eq_some.1 h
      obtain ⟨s', hstep, h⟩ := Option.bind_eq_some_iff.1 h
      exact hschedule hstep h
  | cleanup expiry now =>
    obtain ⟨hnow, h⟩ := Option.ite_none_right_eq_some.1 h
    have hstep : st.daemon.step b (.cleanup expiry) = some (lldpdCleanup b expiry st.daemon) := rfl
    exact hschedule hstep h
  | other ev now =>
    obtain ⟨⟨hnow, hev⟩, h⟩ := Option.ite_none_right_eq_some.1 h
    obtain ⟨s', hstep, h⟩ := Option.bind_eq_some_iff.1 h
    cases h
    have hne : ∀ i frame now stack, ev ≠ .decode i frame now stack := by
      rintro i frame now stack rfl
      cases hev
    exact ⟨hdetached hstep, good_step hs.detached hs.good hfew hstep,
      hs.armed.step hs.detached hs.good.layout.nodup hnow hne hstep⟩
  | configure cfg protocols cTtl now =>
    obtain ⟨hnow, h⟩ := Option.ite_none_right_eq_some.1 h
    cases h
    exact hs.configure hnow

theorem timely_reachable
    (hs : ((timedDaemon b).restrict fun st => st.daemon.FewPorts).Reachable st) : st.Timely := by
  induction hs with
  | init hi =>
    obtain ⟨⟨⟨cfg, protocols, hstart⟩, -⟩, -⟩ := hi
    have hg := Table.Good.init (table_startUp hstart)
    obtain ⟨c, -, -, heq⟩ := hstart
    refine ⟨?_, hg, ?_⟩
    · rw [heq]
      exact fun _ hmem => absurd hmem List.not_mem_nil
    · intro hw hmem
      rw [heq] at hmem
      cases hmem
  | step _ hst ih => exact ih.step hst.2.2 hst.1

/-- The cleanup keeps the neighbors that have not expired. -/
theorem cleanup_hRports (b : Build) (now : Int) {s : Daemon}
    (hattached : ∀ hw ∈ s.gHardware, ∀ port ∈ hw.hRports, ∃ c, port.chassis s.gChassis = some c) :
    (lldpdCleanup b now s).gHardware.map Hardware.hRports =
      (s.gHardware.filter fun hw => hw.hFlags ≠ 0).map fun hw => hw.hRports.filter fun port =>
        (port.chassis s.gChassis).any fun c => now < port.pLastupdate + c.cTtl.toNat := by
  rw [cleanup_gHardware, List.map_map]
  refine List.map_congr_left fun hw hmem => List.filter_congr fun port hport => ?_
  obtain ⟨c, hc⟩ := hattached hw (List.mem_filter.1 hmem).1 port hport
  have hgoes : goes true false now s.gChassis port =
      decide (port.pLastupdate + c.cTtl.toNat ≤ now) := by
    simp [goes, expired, hc]
  rw [hgoes, hc, ← decide_not]
  exact decide_eq_decide.2 Int.not_le

/-- **The timer is never late.** In every run with few enough ports: while
there is a neighbor the timer is armed, not before the moment it is armed at,
and not behind the expiry of any neighbor unless that has passed; and the
cleanup, whenever it runs, takes away the neighbors of live interfaces that
have expired, and the chassis, other than the local one, that no port is
attached to. -/
theorem cleanup_timely (b : Build) (st : Timed)
    (hs : ((timedDaemon b).restrict fun st => st.daemon.FewPorts).Reachable st) :
    (∀ hw ∈ st.daemon.gHardware, ∀ port ∈ hw.hRports, ∃ c armed deadline,
        port.chassis st.daemon.gChassis = some c ∧ st.timer = some (armed, deadline) ∧
        armed ≤ st.clock ∧ armed ≤ deadline ∧
        deadline ≤ max (port.pLastupdate + c.cTtl.toNat) armed) ∧
      ∀ now,
        (lldpdCleanup b now st.daemon).gHardware.map Hardware.hRports =
          ((st.daemon.gHardware.filter fun hw => hw.hFlags ≠ 0).map fun hw =>
            hw.hRports.filter fun port => (port.chassis st.daemon.gChassis).any fun c =>
              now < port.pLastupdate + c.cTtl.toNat) ∧
        ∀ a, a ∈ (lldpdCleanup b now st.daemon).gChassis.addrs ↔
          a ∈ st.daemon.gChassis.addrs ∧ (a = 0 ∨ (lldpdCleanup b now st.daemon).refs a ≠ 0) := by
  have htimely := timely_reachable hs
  have hfew := LTS.of_reachable_restrict hs
  have hattached : ∀ hw ∈ st.daemon.gHardware, ∀ port ∈ hw.hRports,
      ∃ c, port.chassis st.daemon.gChassis = some c := by
    intro hw hmem port hport
    have hin : port ∈ st.daemon.ports :=
      List.mem_flatMap.2 ⟨hw, List.mem_append_left _ hmem, List.mem_cons_of_mem _ hport⟩
    obtain ⟨q, hq, hpq⟩ := exists_mem_ports_table hin
    obtain ⟨a, ha, hqa⟩ := htimely.good.live.attached q hq
    obtain ⟨c, hc⟩ := Option.isSome_iff_exists.1 (Heap.isSome_deref.2 ha)
    exact ⟨c, Option.bind_eq_some_iff.2 ⟨a, hpq.symm.trans hqa, hc⟩⟩
  refine ⟨fun hw hmem port hport => ?_, fun now => ⟨cleanup_hRports b now hattached, fun a => ?_⟩⟩
  · obtain ⟨c, hc⟩ := hattached hw hmem port hport
    obtain ⟨armed, deadline, htimer, harmed, hle, hexpiry⟩ := htimely.armed hw hmem port hport
    exact ⟨c, armed, deadline, hc, htimer, harmed, hle, hexpiry c hc⟩
  · exact mem_cleanup_addrs ⟨rfl, rfl, htimely.detached⟩ htimely.good hfew now a

/-- One interface that the scan has seen, on a clock that stands at 0. -/
theorem oneScanned_timed : ((timedDaemon .full).restrict fun st => st.daemon.FewPorts).Reachable
    { daemon := oneScanned, clock := 0 } := by
  have hstart : (timedDaemon .full).init { daemon := Daemon.started {} lldpOnly, clock := 0 } :=
    ⟨⟨_, _, { cRefcount := 1 }, rfl, rfl, rfl⟩, rfl⟩
  have hrun : [Callback.other .allocHardware 0, .other (.addHardware 0) 0,
      .other (.scan 0 1) 0].foldlM (fun st ev => (Timed.step .full st ev).filter (·.daemon.FewPorts))
        { daemon := Daemon.started {} lldpOnly, clock := 0 } =
          some { daemon := oneScanned, clock := 0 } := rfl
  exact LTS.reachable_restrict_foldlM (.init ⟨hstart, by decide⟩) hrun

/-- The neighbor is heard at 5 and lives for two minutes. -/
theorem cleanup_timely_two_minutes : ∃ (st : Timed) (hw : Hardware) (port : Port),
    st.timer = some (7, 125) ∧ hw ∈ st.daemon.gHardware ∧ port ∈ hw.hRports ∧
      ∃ c armed deadline, port.chassis st.daemon.gChassis = some c ∧
        st.timer = some (armed, deadline) ∧ armed ≤ st.clock ∧ armed ≤ deadline ∧
        deadline ≤ max (port.pLastupdate + c.cTtl.toNat) armed := by
  obtain ⟨st, hstep, hfew, htimer, hw, hmem, port, hport, -⟩ :
      ∃ st ∈ Timed.step .full
        { daemon := oneScanned.configure {} lldpOnly 600, clock := 0 }
        (.recv (some (0, hello, 5, Lldp.zeroStack)) 7),
        st.daemon.FewPorts ∧ st.timer = some (7, 125) ∧
        ∃ hw ∈ st.daemon.gHardware, ∃ _port ∈ hw.hRports, True := by
    decide
  have hconfigured : ((timedDaemon .full).restrict fun st => st.daemon.FewPorts).Reachable
      { daemon := oneScanned.configure {} lldpOnly 600, clock := 0 } :=
    .step (l := .configure {} lldpOnly 600 0) oneScanned_timed ⟨rfl, by decide, by decide⟩
  have hs := LTS.Reachable.step hconfigured ⟨hstep, by decide, hfew⟩
  exact ⟨st, hw, port, htimer, hmem, hport, (cleanup_timely .full st hs).1 hw hmem port hport⟩

/-- 65535 local ports are attached to the local chassis, its count is zero,
and the cleanup frees it. -/
theorem cleanup_frees_local : ∃ st,
    (timedDaemon .full).Reachable st ∧ st.daemon.refs 0 = 65535 ∧
      (lldpdCleanup .full 0 st.daemon).refs 0 = 65535 ∧
      (lldpdCleanup .full 0 st.daemon).gChassis = [] := by
  have hreach : ∀ n, (timedDaemon .full).Reachable { daemon := withInterfaces n, clock := 0 } := by
    intro n
    induction n with
    | zero => exact .init ⟨⟨{}, [], { cRefcount := 1 }, rfl, rfl, rfl⟩, rfl⟩
    | succ n ih =>
      refine .step (l := .other .allocHardware 0) ih ?_
      show (if (0 : Int) ≤ 0 ∧ Timed.arms .allocHardware = false then _ else none) = _
      rw [withInterfaces_step]
      rfl
  have hrefs : (withInterfaces 65535).refs 0 = 65535 := by
    unfold Daemon.refs
    rw [ports_withInterfaces, List.countP_replicate]
    rfl
  exact ⟨_, hreach 65535, hrefs, hrefs, rfl⟩

end Runs

end Lldpd
