import Lldpd.L3Daemon.Ageing
import Lldpd.L3Daemon.Smart

/-!
# The index of a chassis

A chassis that is new gets the next value of `g_lastrid` as its index. The
counter is an `int` that only grows, the index has 16 bits: after 65535 new
chassis the next one gets the index 0, which is the one of the local chassis,
and from then on indexes come back that may still be in use
(`index_comes_back`).

`indexed_reachable`: as long as no new chassis is learnt while the next index
is 0 or is in use, the indexes are distinct and only the local chassis has
index 0; and a step for which this is not so breaks it.
-/
namespace Lldpd
open Core

def Daemon.indexes (s : Daemon) : Heap UInt16 := s.gChassis.view Chassis.cIndex

/-- `chassis->c_index = ++cfg->g_lastrid`, for the next chassis that is new.
mirrors lldpd.c:631 -/
def Daemon.nextIndex (s : Daemon) : UInt16 := UInt16.ofNat (s.gLastrid + 1)

/-- No index is used twice, and 0 is the one of the local chassis, which is
the first that was made. -/
structure Daemon.Indexed (s : Daemon) : Prop where
  distinct : (s.indexes.map Prod.snd).Nodup
  zero : ∀ e ∈ s.indexes, e.2 = 0 ↔ e.1 = 0

structure Daemon.NextFree (s : Daemon) : Prop where
  nonzero : s.nextIndex ≠ 0
  unused : ∀ e ∈ s.indexes, e.2 ≠ s.nextIndex

/-- A frame of a chassis that is not in the list is learnt. -/
def Newcomer (b : Build) (s : Daemon) : Event → Prop
  | .decode i frame _ stack => ∃ hw mode c p, s.gHardware[i]? = some hw ∧
      Takes b s hw stack frame mode c p ∧
      ochassis s hw c p = none
  | _ => False

def indexedDaemon (b : Build) (cfg : Config) (protocols : List Protocol) : LTS Daemon Event :=
  .ofFn (fun s => Daemon.startUp cfg protocols s ∧ ∀ e ∈ s.gChassis, e.2.cIndex = 0)
    (Daemon.smartStep b)

/-! ## What does not add a chassis

Counting references, expiry and the smart filter leave every other field of a
chassis alone: `g` is what is looked at. -/

section Kept
variable {β : Type} {g : Chassis → β} (hg : ∀ c n, g { c with cRefcount := n } = g c)
  {b : Build} {now : Int} {s s' : Daemon} {h : Heap Chassis}
include hg

theorem view_portCleanups (ports : List Port) :
    (ports.foldl lldpdPortCleanup h).view g = h.view g := by
  induction ports generalizing h with
  | nil => rfl
  | cons port ports ih => rw [List.foldl_cons, ih, view_portCleanup hg]

theorem view_remoteCleanup (expire all : Bool) (hw : Hardware) :
    (lldpdRemoteCleanup b expire all now hw h).2.view g = h.view g := by
  rw [remoteCleanup_eq]
  exact view_portCleanups hg _

theorem step_view {ev : Event} (hev : ∀ i frame now stack, ev ≠ .decode i frame now stack)
    (h : s.step b ev = some s') :
    (s'.gChassis.view g).Sublist (s.gChassis.view g) ∧ s'.nextAddr = s.nextAddr := by
  have hsame : ∀ {k k' : Heap β}, k = k' → k.Sublist k' := fun he => he ▸ List.Sublist.refl _
  cases Daemon.stepped h with
  | @allocHardware a => exact ⟨hsame (view_retain hg a), rfl⟩
  | addHardware | scan => exact ⟨List.Sublist.refl _, rfl⟩
  | @hardwareCleanup i hw => exact ⟨hsame (view_portCleanup hg hw.hLport), rfl⟩
  | decode => exact absurd rfl (hev _ _ _ _)
  | @remoteCleanup i expire all now hw => exact ⟨hsame (view_remoteCleanup hg expire all hw), rfl⟩
  | @cleanup now =>
    rw [cleanup_eq]
    have hports := view_portCleanups hg (h := s.gChassis) (s.gHardware.flatMap (swept now s.gChassis))
    exact ⟨hports ▸ List.filter_sublist.map _, rfl⟩

end Kept

theorem hideAll_chassis (s : Daemon) : (lldpdHideAll s).gChassis = s.gChassis ∧
    (lldpdHideAll s).nextAddr = s.nextAddr := by
  unfold lldpdHideAll
  split
  · exact ⟨rfl, rfl⟩
  · exact ⟨rfl, rfl⟩

theorem hideAll_detached (s : Daemon) : (lldpdHideAll s).detached = s.detached := by
  unfold lldpdHideAll
  split
  · rfl
  · rfl

theorem index_attachVlans {h : Heap Chassis} (c : Chassis) (ports : List Port) (vlans : List Vlan)
    (mgmts : List Mgmt) :
    (attachVlans c ports vlans mgmts h).2.view Chassis.cIndex = h.view Chassis.cIndex := by
  induction ports generalizing vlans mgmts h with
  | nil => rfl
  | cons port ports ih =>
    unfold attachVlans
    split
    · refine (ih _ _).trans ?_
      unfold addAddresses
      split
      · exact Heap.view_write_same fun _ => rfl
      · rfl
    · exact ih _ _

/-! ## A frame -/

section Frame
variable {b : Build} {now : Int} {frame : Bytes} {c : Chassis} {p : Port} {s : Daemon}
  {hw : Hardware} {stack : Buffer 32}

theorem Announces.unique {mode mode' : Mode} {c' : Chassis} {p' : Port}
    (ha : Announces b s stack frame mode c p) (ha' : Announces b s stack frame mode' c' p') :
    mode = mode' ∧ c = c' ∧ p = p' := by
  cases ha.guess.symm.trans ha'.guess
  obtain ⟨n, hn⟩ := ha.decode
  obtain ⟨n', hn'⟩ := ha'.decode
  cases hn.symm.trans hn'
  exact ⟨rfl, rfl, rfl⟩

/-- What a frame does to the indexes: nothing, or the newcomer comes last. -/
theorem decode_indexes {hw' : Hardware} {s' : Daemon} (h : Received b now stack frame s hw hw' s') :
    (s'.indexes = s.indexes ∧ s'.nextAddr = s.nextAddr ∧ ∀ mode c p,
        Takes b s hw stack frame mode c p →
        ochassis s hw c p ≠ none) ∨
      (s'.indexes = s.indexes ++ [(s.nextAddr, s.nextIndex)] ∧ s'.nextAddr = s.nextAddr + 1 ∧
        ∃ mode c p, Takes b s hw stack frame mode c p ∧
          ochassis s hw c p = none) := by
  cases h with
  | short hshort =>
    refine .inl ⟨rfl, rfl, fun mode c p ht => ?_⟩
    have hlong := ht.announces.long
    omega
  | duplicate hlong hdup => exact .inl ⟨rfl, rfl, fun mode c p ht => absurd hdup ht.anew⟩
  | ignored hlong hdup hnone =>
    exact .inl ⟨rfl, rfl, fun mode c p ht => absurd ht.announces (hnone mode c p)⟩
  | vlans hlong hdup htells =>
    refine .inl ⟨index_attachVlans _ _ _ _, rfl, fun mode c p ht => ?_⟩
    obtain ⟨mode', n, hguess, hdec⟩ := htells
    cases hguess.symm.trans ht.announces.guess
    obtain ⟨n', hdec'⟩ := ht.announces.decode
    cases hdec.symm.trans hdec'
  | refused ha hdup hfind hfull =>
    refine .inl ⟨rfl, rfl, fun mode c p ht => ?_⟩
    obtain ⟨rfl, rfl, rfl⟩ := ht.announces.unique ha
    exact absurd hfull (ht.room hfind)
  | @learnt cnt mode c p ht =>
    cases ha : ochassis s hw c p with
    | some a =>
      have hlearn := @learn_known_chassis b now (decapsulate frame) _ _ s
        ((hw.reset b).unrecognized cnt) a ha ht.room
      rw [hlearn]
      refine .inl ⟨?_, rfl, fun mode' c' p' ht' => ?_⟩
      · refine (view_retain (fun _ _ => rfl) a).trans ?_
        exact Eq.trans (Heap.view_write_same fun _ => by rfl) (view_released fun _ _ => rfl)
      · obtain ⟨rfl, rfl, rfl⟩ := ht'.announces.unique ht.announces
        rw [ha]
        exact Option.some_ne_none a
    | none =>
      have hlearn := @learn_newcomer b now (decapsulate frame) _ _ s
        ((hw.reset b).unrecognized cnt) ha ht.room
      rw [hlearn]
      refine .inr ⟨?_, rfl, mode, c, p, ht, ha⟩
      refine (view_retain (fun _ _ => rfl) _).trans ?_
      rw [Heap.view_append, view_released fun _ _ => rfl]
      rfl

end Frame

/-! ## Runs -/

section Runs
variable {b : Build} {s s' : Daemon}

theorem Daemon.Indexed.sublist (hs : s.Indexed) (hsub : s'.indexes.Sublist s.indexes) :
    s'.Indexed :=
  ⟨hs.distinct.sublist (hsub.map _), fun e he => hs.zero e (hsub.subset he)⟩

theorem indexed_append (hs : s.Indexed) (hnext : s.nextAddr ≠ 0)
    (happ : s'.indexes = s.indexes ++ [(s.nextAddr, s.nextIndex)]) :
    s'.Indexed ↔ s.NextFree := by
  constructor
  · rintro ⟨hdistinct, hzero⟩
    rw [happ] at hdistinct hzero
    rw [List.map_append, List.nodup_append] at hdistinct
    refine ⟨fun h0 => hnext ?_, fun e he => ?_⟩
    · exact (hzero _ (List.mem_append_right _ List.mem_cons_self)).1 h0
    · exact hdistinct.2.2 _ (List.mem_map_of_mem he) _ List.mem_cons_self
  · rintro ⟨hnonzero, hunused⟩
    refine ⟨?_, fun e he => ?_⟩
    · rw [happ, List.map_append, List.nodup_append]
      refine ⟨hs.distinct, List.nodup_cons.2 ⟨List.not_mem_nil, List.nodup_nil⟩, ?_⟩
      intro x hx y hy
      obtain ⟨e, he, rfl⟩ := List.mem_map.1 hx
      rw [List.mem_singleton.1 hy]
      exact hunused e he
    · rw [happ] at he
      rcases List.mem_append.1 he with he | he
      · exact hs.zero e he
      · rw [List.mem_singleton.1 he]
        exact iff_of_false hnonzero hnext

theorem smartStep_indexes {ev : Event} (h : s.smartStep b ev = some s') :
    (¬ Newcomer b s ev ∧ s'.indexes.Sublist s.indexes ∧ s'.nextAddr = s.nextAddr) ∨
      (Newcomer b s ev ∧ s'.indexes = s.indexes ++ [(s.nextAddr, s.nextIndex)] ∧
        s'.nextAddr = s.nextAddr + 1) := by
  cases Daemon.smartStepped h with
  | @decode i frame now stack hw r hget hdec =>
    obtain ⟨hchassis, hnext⟩ := hideAll_chassis { r.2 with gHardware := r.2.gHardware.set i r.1 }
    have hindexes : (lldpdHideAll { r.2 with gHardware := r.2.gHardware.set i r.1 }).indexes =
        r.2.indexes := congrArg (Heap.view · Chassis.cIndex) hchassis
    rw [hindexes, hnext]
    rcases decode_indexes (received hdec) with ⟨hsame, haddr, hnot⟩ | ⟨happ, haddr, hnew⟩
    · refine .inl ⟨?_, hsame ▸ List.Sublist.refl _, haddr⟩
      rintro ⟨hw0, mode, c, p, hget0, ht, hnone⟩
      cases hget.symm.trans hget0
      exact hnot mode c p ⟨ht.announces, ht.anew, ht.room⟩ hnone
    · obtain ⟨mode, c, p, ht, hnone⟩ := hnew
      exact .inr ⟨⟨hw, mode, c, p, hget, ⟨ht.announces, ht.anew, ht.room⟩, hnone⟩, happ, haddr⟩
  | other hne hstep =>
    refine .inl ⟨?_, step_view (fun _ _ => rfl) hne hstep⟩
    cases ev with
    | decode i frame now stack => exact absurd rfl (hne i frame now stack)
    | _ => exact fun hnew => hnew

theorem smartStep_indexed {ev : Event} (hs : s.Indexed) (hnext : s.nextAddr ≠ 0)
    (h : s.smartStep b ev = some s') :
    (s'.Indexed ↔ (Newcomer b s ev → s.NextFree)) ∧ s'.nextAddr ≠ 0 := by
  rcases smartStep_indexes h with ⟨hold, hsub, haddr⟩ | ⟨hnew, happ, haddr⟩
  · exact ⟨iff_of_true (hs.sublist hsub) fun hnew => absurd hnew hold, haddr ▸ hnext⟩
  · refine ⟨(indexed_append hs hnext happ).trans ⟨fun hfree _ => hfree, fun hf => hf hnew⟩, ?_⟩
    rw [haddr]
    exact Nat.succ_ne_zero _

theorem indexed_init {cfg : Config} {protocols : List Protocol}
    (hi : (indexedDaemon b cfg protocols).init s) : s.Indexed ∧ s.nextAddr ≠ 0 := by
  obtain ⟨⟨c, -, -, rfl⟩, hzero⟩ := hi
  have hc : c.cIndex = 0 := hzero _ List.mem_cons_self
  refine ⟨⟨List.nodup_cons.2 ⟨List.not_mem_nil, List.nodup_nil⟩, fun e he => ?_⟩, Nat.one_ne_zero⟩
  rw [List.mem_singleton.1 he]
  exact iff_of_true hc rfl

/-- **The indexes are distinct** in every run in which a new chassis is learnt
only while the next index is free. The condition is exact: from a state of
such a run, a step for which it fails ends with an index that is used twice or
with a neighbor's chassis that has index 0. -/
theorem indexed_reachable (b : Build) (cfg : Config) (protocols : List Protocol) (s : Daemon)
    (hs : ((indexedDaemon b cfg protocols).guard fun s ev =>
      Newcomer b s ev → s.NextFree).Reachable s) :
    s.Indexed ∧ ∀ ev s', s.smartStep b ev = some s' →
      (s'.Indexed ↔ (Newcomer b s ev → s.NextFree)) := by
  have hinv : s.Indexed ∧ s.nextAddr ≠ 0 := by
    induction hs with
    | init hi => exact indexed_init (b := b) hi
    | step _ hst ih =>
      obtain ⟨hiff, hnext⟩ := smartStep_indexed ih.1 ih.2 hst.2
      exact ⟨hiff.2 hst.1, hnext⟩
  exact ⟨hinv.1, fun ev s' h => (smartStep_indexed hinv.1 hinv.2 h).1⟩

/-! ## A neighbor that comes and goes -/

/-- The daemon waits, on one interface that the scan has seen, and has learnt
and forgotten `n` chassis. -/
structure Idle (n : Nat) (s : Daemon) : Prop where
  reach : (indexedDaemon .full {} lldpOnly).Reachable s
  config : s.gConfig = {}
  protocols : s.gProtocols = lldpOnly
  hardware : ∃ hw, s.gHardware = [hw] ∧ hw.hRports = [] ∧ hw.hFlags = 1
  chassis : ∃ c, s.gChassis = [(0, c)] ∧ c.cRefcount = 2 ∧ c.cIndex = 0 ∧ c.cProtocol = none
  lastrid : s.gLastrid = n
  next : s.nextAddr = n + 1

theorem learn_first {now : Int} {frame : Bytes} {c c0 : Chassis} {p : Port} {hw : Hardware}
    (hc : s.gChassis = [(0, c0)]) (hc0 : c0.cProtocol = none) (hprotocol : c.cProtocol ≠ none)
    (hw0 : hw.hRports = []) (hmax : s.gConfig.cMaxNeighbors = 0) (hnext : s.nextAddr ≠ 0) :
    learn b now frame c p s hw =
      (addPort b s.gConfig false c.cMedType hw (p.heardAt now frame s.nextAddr),
        { s with
          gLastrid := s.gLastrid + 1
          gChassis := [(0, c0), (s.nextAddr, { c with cIndex := s.nextIndex, cRefcount := 1 })]
          nextAddr := s.nextAddr + 1 }) := by
  have hsearch : searchChassis s.gChassis c = none := by
    rw [hc, searchChassis, List.find?_singleton, hc0, beq_eq_false_iff_ne.2 hprotocol]
    rfl
  have hzero : ¬ (0 = s.nextAddr) := fun h => hnext h.symm
  unfold learn
  simp only [hw0, searchMsap, hmax, hsearch, placeChassis]
  rw [hc]
  simp only [Heap.write, List.cons_append, List.nil_append, List.map_cons, if_neg hzero]
  rfl

/-- The frame of the neighbor, on an interface that has none. -/
theorem Idle.decode {n : Nat} (hs : Idle n s) {hw : Hardware} (hports : hw.hRports = []) :
    ∃ hw' c0 c' p', lldpdDecode .full 0 Lldp.zeroStack hello s hw =
        .ok (hw', { s with
          gLastrid := n + 1
          gChassis := [(0, c0), (n + 1, c')]
          nextAddr := n + 2 }) ∧
      hw'.hRports = [p'] ∧ hw'.hFlags = hw.hFlags ∧ p'.pChassis = some (n + 1) ∧
      p'.pLastupdate = 0 ∧ s.gChassis = [(0, c0)] ∧ c'.cIndex = UInt16.ofNat (n + 1) ∧
      c'.cRefcount = 1 ∧ c'.cTtl = 120 := by
  obtain ⟨c, p, ha, httl⟩ := announcement_lives
  obtain ⟨c0, hc, -, -, hprotocol⟩ := hs.chassis
  have hmax : s.gConfig.cMaxNeighbors = 0 := by rw [hs.config]
  have hnext : s.nextAddr ≠ 0 := by
    rw [hs.next]
    exact Nat.succ_ne_zero n
  have htakes : Takes .full s hw Lldp.zeroStack hello .lldp c p := by
    refine ⟨⟨ha.long, ?_, ?_⟩, ?_, fun _ hfull => hfull.1 hmax⟩
    · rw [hs.protocols]
      exact ha.guess
    · exact ha.decode
    · exact fun hdup => hRports_ne_nil hdup hports
  obtain ⟨cnt, hdec⟩ := htakes.lldpdDecode 0
  have hlearn := @learn_first .full s 0 (decapsulate hello)
    c c0 p ((hw.reset .full).unrecognized cnt) hc hprotocol
    (by rw [ha.protocol.1]; exact Option.some_ne_none _) hports hmax hnext
  rw [hlearn, addPort_eq, hs.next, hs.lastrid] at hdec
  refine ⟨_, c0, _, p.heardAt 0 (decapsulate hello)
    (n + 1), hdec, ?_, rfl, rfl, rfl, hc, ?_, rfl, httl⟩
  · exact congrArg (· ++ [_]) hports
  · rw [Daemon.nextIndex, hs.lastrid]

/-- The neighbor comes: its chassis has the next index. -/
theorem Idle.hear {n : Nat} (hs : Idle n s) : ∃ hw' c0 c' p',
    s.smartStep .full (.greeting 0) =
        some { s with
          gHardware := [hw']
          gLastrid := n + 1
          gChassis := [(0, c0), (n + 1, c')]
          nextAddr := n + 2 } ∧
      hw'.hRports = [p'] ∧ hw'.hFlags = 1 ∧ p'.pChassis = some (n + 1) ∧
      p'.pLastupdate = 0 ∧ s.gChassis = [(0, c0)] ∧ c'.cIndex = UInt16.ofNat (n + 1) ∧
      c'.cRefcount = 1 ∧ c'.cTtl = 120 := by
  obtain ⟨hw, hhw, hports, hflags⟩ := hs.hardware
  obtain ⟨hw', c0, c', p', hdec, hports', hflags', hrest⟩ :=
    @Idle.decode s n hs { hw with hRxCnt := hw.hRxCnt + 1 } hports
  refine ⟨hw', c0, c', p', ?_, hports', hflags'.trans hflags, hrest⟩
  have hsmart : ∀ t : Daemon, t.gConfig = {} → lldpdHideAll t = t := by
    intro t ht
    unfold lldpdHideAll
    rw [ht]
    rfl
  unfold Daemon.smartStep
  simp only [hhw, List.getElem?_cons_zero, Option.bind_eq_bind, Option.bind_some, hdec]
  exact congrArg some (hsmart _ hs.config)

theorem cleanup_only_neighbor {now : Int} {hw : Hardware} {p : Port} {a : Addr} {c0 c : Chassis}
    (hhw : s.gHardware = [hw]) (hflags : hw.hFlags ≠ 0) (hports : hw.hRports = [p])
    (hp : p.pChassis = some a) (hc : s.gChassis = [(0, c0), (a, c)]) (ha : a ≠ 0)
    (hcount0 : c0.cRefcount ≠ 0) (hcount : c.cRefcount = 1)
    (hold : p.pLastupdate + c.cTtl.toNat ≤ now) :
    (lldpdCleanup b now s).gHardware = [hw.forget b false fun q => goes true false now s.gChassis q] ∧
      hw.hRports.filter (fun q => !goes true false now s.gChassis q) = [] ∧
      (lldpdCleanup b now s).gChassis = [(0, c0)] := by
  have hgoes : goes true false now s.gChassis p = true := by
    have hderef : p.chassis s.gChassis = some c := by
      rw [Port.chassis, hp, hc, Option.bind_some, Heap.deref_cons, if_neg ha, Heap.deref_cons,
        if_pos rfl]
    unfold goes expired
    rw [hderef]
    exact decide_eq_true hold
  refine ⟨?_, ?_, ?_⟩
  · rw [cleanup_gHardware, hhw]
    simp [hflags]
  · rw [hports, List.filter_cons_of_neg (by simp [hgoes])]
    rfl
  · have hswept : s.gHardware.flatMap (swept now s.gChassis) = [p] := by
      simp [hhw, swept, hflags, hports, hgoes]
    have hzero : ¬ (0 = a) := fun h => ha h.symm
    have hgone : c.release.cRefcount = 0 := by
      rw [Chassis.release, hcount]
      rfl
    have hcells : lldpdPortCleanup s.gChassis p = [(0, c0), (a, c.release)] := by
      simp [lldpdPortCleanup, hp, hc, Heap.write, hzero]
    rw [cleanup_eq]
    simp [hswept, hcells, hcount0, hgone]

/-- And goes again. -/
theorem Idle.next_idle {n : Nat} (hs : Idle n s) : ∃ s', Idle (n + 1) s' := by
  obtain ⟨hw', c0, c', p', hstep, hports, hflags, hp, hlast, hc, hindex, hcount, httl⟩ := hs.hear
  obtain ⟨c1, hc1, hcount1, hindex1, hprotocol1⟩ := hs.chassis
  cases hc.symm.trans hc1
  have hflags' : hw'.hFlags ≠ 0 := by
    rw [hflags]
    exact Nat.one_ne_zero
  have hcount' : c0.cRefcount ≠ 0 := by
    rw [hcount1]
    decide
  have hold : p'.pLastupdate + c'.cTtl.toNat ≤ 1000 := by
    rw [hlast, httl]
    decide
  obtain ⟨hhw, hempty, hchassis⟩ := @cleanup_only_neighbor .full { s with
      gHardware := [hw']
      gLastrid := n + 1
      gChassis := [(0, c0), (n + 1, c')]
      nextAddr := n + 2 } 1000 hw' p' (n + 1) c0 c' rfl hflags' hports hp rfl (Nat.succ_ne_zero n)
    hcount' hcount hold
  exact ⟨_, .step (.step hs.reach hstep) (l := .cleanup 1000) rfl, hs.config, hs.protocols,
    ⟨_, hhw, hempty, hflags⟩, ⟨c0, hchassis, hcount1, hindex1, hprotocol1⟩, rfl, rfl⟩

/-- One interface, and nothing has happened on it. -/
theorem oneScanned_run : ([.allocHardware, .addHardware 0, .scan 0 1] : List Event).foldlM
    (Daemon.smartStep .full) (Daemon.started {} lldpOnly) = some oneScanned := rfl

theorem started_indexed : (indexedDaemon .full {} lldpOnly).init (Daemon.started {} lldpOnly) := by
  refine ⟨started_startUp, fun e he => ?_⟩
  rw [List.mem_singleton.1 he]

theorem idle_start : Idle 0 oneScanned :=
  ⟨LTS.reachable_foldlM (.init started_indexed) oneScanned_run, rfl, rfl, ⟨_, rfl, rfl, rfl⟩,
    ⟨_, rfl, rfl, rfl, rfl⟩, rfl, rfl⟩

theorem indexed_reachable_first : ∃ s : Daemon, s.indexes = [(0, 0), (1, 1)] ∧ s.Indexed := by
  obtain ⟨hw', c0, c', p', hstep, -, -, -, -, hc, hindex, -⟩ := idle_start.hear
  have hs : ((indexedDaemon .full {} lldpOnly).guard fun s ev =>
      Newcomer .full s ev → s.NextFree).Reachable oneScanned :=
    LTS.reachable_guard_foldlM (by simp [Newcomer]) (.init started_indexed) oneScanned_run
  have hfree : oneScanned.NextFree := ⟨by decide, by decide⟩
  cases hc
  refine ⟨_, ?_, (indexed_reachable _ _ _ _ (.step hs ⟨fun _ => hfree, hstep⟩)).1⟩
  simp [Daemon.indexes, Heap.view, hindex]

theorem idle_reached (n : Nat) : ∃ s, Idle n s := by
  induction n with
  | zero => exact ⟨_, idle_start⟩
  | succ n ih =>
    obtain ⟨s, hs⟩ := ih
    exact hs.next_idle

/-- A neighbor that has come and gone 65535 times comes again: its chassis has
the index of the local one. -/
theorem index_comes_back : ∃ s s' c c',
    (indexedDaemon .full {} lldpOnly).Reachable s ∧
      s.smartStep .full (.greeting 0) = some s' ∧
      s'.gChassis = [(0, c), (65536, c')] ∧ c.cIndex = 0 ∧ c'.cIndex = 0 ∧ ¬ s'.Indexed := by
  obtain ⟨s, hs⟩ := idle_reached 65535
  obtain ⟨hw', c0, c', p', hstep, -, -, -, -, hc, hindex, -⟩ := hs.hear
  obtain ⟨c1, hc1, -, hindex1, -⟩ := hs.chassis
  cases hc.symm.trans hc1
  refine ⟨s, _, c0, c', hs.reach, hstep, rfl, hindex1, hindex, fun hindexed => ?_⟩
  have hzero := (hindexed.zero (65536, c'.cIndex) (List.mem_cons_of_mem _ List.mem_cons_self)).1 hindex
  cases hzero

end Runs

end Lldpd
