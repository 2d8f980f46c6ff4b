import Lldpd.L3Daemon.Layout

/-!
# Reference counts

`c_refcount` counts the ports attached to a chassis, and the daemon itself for
the local chassis. It is a 16-bit counter: with 65535 interfaces the count of
the local chassis is back at zero and the next cleanup frees it
(`refcount_wraps`). With fewer, the count is right, no port is attached to a
freed chassis, and the cleanup frees what nothing refers to
(`refcount_reachable`).
-/
namespace Lldpd
open Core

namespace Table

def refs (ps : Multiset Port) (a : Addr) : Nat := ps.countP fun p => p.pChassis = some a

/-- The references to `a`: the local chassis holds one to itself. -/
def owners (ps : Multiset Port) (a : Addr) : Nat := refs ps a + if a = 0 then 1 else 0

def Sound (ps : Multiset Port) (h : Heap Chassis) : Prop := Counted Chassis.cRefcount h (owners ps)

section Sound
variable {ps : Multiset Port} {h : Heap Chassis} {p q : Port} {a : Addr} {f : Chassis → Chassis}

theorem owners_cons (p : Port) (ps : Multiset Port) (a : Addr) :
    owners (p ::ₘ ps) a = owners ps a + if p.pChassis = some a then 1 else 0 := by
  unfold owners refs
  rw [Multiset.countP_cons]
  omega

theorem Sound.replace (hs : Sound (q ::ₘ ps) h) (hpq : p.pChassis = q.pChassis) :
    Sound (p ::ₘ ps) h := by
  refine Counted.congr hs fun a => ?_
  rw [owners_cons, owners_cons, hpq]

theorem Sound.keep (hs : Sound ps h) (hf : ∀ c, (f c).cRefcount = c.cRefcount) :
    Sound ps (h.write a f) :=
  Counted.write hs (fun c _ hc => (hf c).trans hc) fun _ _ => rfl

theorem Sound.retain (hs : Sound ps h) (hp : p.pChassis = some a) :
    Sound (p ::ₘ ps) (h.write a .retain) := by
  refine Counted.write hs (fun c _ hc => ?_) fun a' ha' => ?_
  · rw [owners_cons, if_pos hp, UInt16.ofNat_add, ← hc]
    rfl
  · rw [owners_cons, if_neg (fun h => ha' (Option.some.inj (h.symm.trans hp))), Nat.add_zero]

theorem Sound.release (hs : Sound (p ::ₘ ps) h) : Sound ps (lldpdPortCleanup h p) := by
  unfold lldpdPortCleanup
  split
  · rename_i a hp
    refine Counted.write hs (fun c _ hc => ?_) fun a' ha' => ?_
    · rw [owners_cons, if_pos hp, UInt16.ofNat_add] at hc
      unfold Chassis.release
      rw [hc]
      exact UInt16.add_sub_cancel ..
    · rw [owners_cons, if_neg (fun h => ha' (Option.some.inj (h.symm.trans hp))), Nat.add_zero]
  · rename_i hp
    refine Counted.congr hs fun a => ?_
    rw [owners_cons, hp, if_neg (by simp), Nat.add_zero]

theorem Sound.addAddresses {mgmts : List Mgmt} (hs : Sound ps h) :
    Sound ps (addAddresses mgmts h p) := by
  unfold Lldpd.addAddresses
  split
  · exact hs.keep fun _ => rfl
  · exact hs

end Sound

theorem Sound.step {e : Announcements} {t t' : Table} {l : Label} (hl : t.Layout)
    (hs : Sound (ports t.rows) t.chassis) (hst : Step e t l t') :
    Sound (ports t'.rows) t'.chassis := by
  cases hst with
  | relearn hheard hq hmsap =>
    rw [ports_row] at hs ⊢
    exact (hs.replace hq.symm).keep fun _ => rfl
  | @share l ps R h n f c oc p a hheard hnew hroom hmem hkey =>
    rw [ports_row]
    exact Sound.retain (hs.keep fun _ => rfl) rfl
  | @fresh l ps R h n f c p index hheard hnew hroom hkey =>
    -- nothing points to the new address yet
    have hzero : owners (ports (⟨l, ps⟩ ::ₘ R)) n = 0 := by
      unfold owners refs
      rw [Multiset.countP_eq_zero.2 fun p hp ha => Nat.lt_irrefl _ (hl.ports_lt p hp n ha),
        if_neg hl.pos.ne']
    rw [ports_row]
    exact Sound.retain (Counted.append hs (by rw [hzero]; rfl)) rfl
  | note =>
    rw [ports_row] at hs ⊢
    exact hs.addAddresses.replace rfl
  | plug hlport hmem =>
    rw [ports_cons, zero_add]
    exact hs.retain hlport
  | forget =>
    rw [ports_row] at hs
    exact hs.release
  | unplug =>
    rw [ports_cons, zero_add] at hs
    exact hs.release
  | collect => exact Counted.filter hs

/-! ## As long as the counters do not wrap -/

/-- The counters are wide enough. -/
def Few (rows : Multiset Row) : Prop :=
  Multiset.card (ports rows) < 65536 ∧ Multiset.card rows < 65535

structure Live (t : Table) : Prop where
  attached : ∀ p ∈ ports t.rows, ∃ a ∈ t.chassis.addrs, p.pChassis = some a
  head : t.chassis.addrs.head? = some 0

section Few
variable {rows : Multiset Row}

theorem refs_zero_le (h : ∀ p ∈ neighbors rows, p.pChassis ≠ some 0) :
    refs (ports rows) 0 ≤ Multiset.card rows := by
  induction rows using Multiset.induction with
  | empty => simp [refs]
  | cons r R ih =>
    rw [neighbors_cons] at h
    have hr : Multiset.countP (fun p : Port => p.pChassis = some 0) r.rports = 0 :=
      Multiset.countP_eq_zero.2 fun p hp => h p (Multiset.mem_add.2 (.inl hp))
    have ih := ih fun p hp => h p (Multiset.mem_add.2 (.inr hp))
    unfold refs at ih ⊢
    rw [ports_cons, Multiset.countP_cons, Multiset.countP_add, Multiset.card_cons]
    split <;> omega

theorem owners_lt {t : Table} (hl : t.Layout) (hf : Few t.rows) (a : Addr) :
    owners (ports t.rows) a < 65536 := by
  unfold owners
  split
  · rename_i ha
    rw [ha]
    have := refs_zero_le hl.remote
    have := hf.2
    omega
  · have : refs (ports t.rows) a ≤ Multiset.card (ports t.rows) := Multiset.countP_le_card ..
    have := hf.1
    omega

/-- A counter is zero when there are no references. -/
theorem refcount_eq_zero_iff {t : Table} (hl : t.Layout) (hs : Sound (ports t.rows) t.chassis)
    (hf : Few t.rows) {a : Addr} {c : Chassis} (hmem : (a, c) ∈ t.chassis) :
    c.cRefcount = 0 ↔ owners (ports t.rows) a = 0 := by
  have hc : c.cRefcount = UInt16.ofNat (owners (ports t.rows) a) := hs (a, c) hmem
  have hlt := owners_lt hl hf a
  rw [hc, ← UInt16.toNat_inj, UInt16.toNat_ofNat_of_lt' (by simpa using hlt)]
  rfl

end Few

variable {t t' : Table}

theorem Live.init (h : Init t) : t.Live := by
  obtain ⟨c, -, -, rfl⟩ := h
  exact ⟨by simp, rfl⟩

/-- Ports on a heap that still has its chassis. -/
theorem Live.of_addrs (h : t.Live) (haddrs : t'.chassis.addrs = t.chassis.addrs)
    (hports : ∀ p ∈ ports t'.rows, ∃ q ∈ ports t.rows, p.pChassis = q.pChassis) : t'.Live := by
  refine ⟨fun p hp => ?_, haddrs ▸ h.head⟩
  obtain ⟨q, hq, hpq⟩ := hports p hp
  rw [haddrs, hpq]
  exact h.attached q hq

variable {e : Announcements} {l : Label}

theorem Live.step (hl : t.Layout) (hs : Sound (ports t.rows) t.chassis)
    (hf : l = .collect → Few t.rows) (h : t.Live) (hst : Step e t l t') : t'.Live := by
  cases hst with
  | relearn hheard hq hmsap =>
    refine h.of_addrs Heap.addrs_write fun p hp => ?_
    rw [ports_row] at hp ⊢
    rcases Multiset.mem_cons.1 hp with rfl | hp
    · exact ⟨_, Multiset.mem_cons_self .., hq.symm⟩
    · exact ⟨p, Multiset.mem_cons_of_mem hp, rfl⟩
  | share hheard hnew hroom hmem hkey =>
    refine ⟨fun p hp => ?_, by simpa using h.head⟩
    rw [ports_row] at hp
    rcases Multiset.mem_cons.1 hp with rfl | hp
    · exact ⟨_, by simpa using Heap.mem_addrs.2 ⟨_, hmem⟩, rfl⟩
    · simpa using h.attached p hp
  | fresh hheard hnew hroom hkey =>
    refine ⟨fun p hp => ?_, ?_⟩
    · rw [ports_row] at hp
      rw [Heap.addrs_write, Heap.addrs_append]
      rcases Multiset.mem_cons.1 hp with rfl | hp
      · exact ⟨_, List.mem_append_right _ (List.mem_singleton_self _), rfl⟩
      · obtain ⟨a, ha, hpa⟩ := h.attached p hp
        exact ⟨a, List.mem_append_left _ ha, hpa⟩
    · rw [Heap.addrs_write, Heap.addrs_append, List.head?_append, h.head]
      rfl
  | note =>
    refine h.of_addrs (addrs_addAddresses ..) fun p hp => ?_
    rw [ports_row] at hp ⊢
    rcases Multiset.mem_cons.1 hp with rfl | hp
    · exact ⟨_, Multiset.mem_cons_self .., rfl⟩
    · exact ⟨p, Multiset.mem_cons_of_mem hp, rfl⟩
  | plug hlport hmem =>
    refine ⟨fun p hp => ?_, by simpa using h.head⟩
    rw [ports_cons, zero_add] at hp
    rcases Multiset.mem_cons.1 hp with rfl | hp
    · exact ⟨_, by simpa using hmem, hlport⟩
    · simpa using h.attached p hp
  | forget =>
    refine h.of_addrs (addrs_portCleanup _) fun p hp => ⟨p, ?_, rfl⟩
    rw [ports_row]
    exact Multiset.mem_cons_of_mem hp
  | unplug =>
    refine h.of_addrs (addrs_portCleanup _) fun p hp => ⟨p, ?_, rfl⟩
    rw [ports_cons, zero_add]
    exact Multiset.mem_cons_of_mem hp
  | @collect R heap n =>
    have hkeep : ∀ a c, (a, c) ∈ heap → owners (ports R) a ≠ 0 →
        (a, c) ∈ heap.filter fun x => decide (x.2.cRefcount ≠ 0) := by
      intro a c hmem ha
      refine List.mem_filter.2 ⟨hmem, decide_eq_true fun h0 => ha ?_⟩
      exact (refcount_eq_zero_iff hl hs (hf rfl) hmem).1 h0
    refine ⟨fun p hp => ?_, ?_⟩
    · obtain ⟨a, ha, hpa⟩ := h.attached p hp
      obtain ⟨c, hc⟩ := Heap.mem_addrs.1 ha
      refine ⟨a, Heap.mem_addrs.2 ⟨c, hkeep a c hc ?_⟩, hpa⟩
      obtain ⟨ps, hps⟩ := Multiset.exists_cons_of_mem hp
      rw [hps, owners_cons, if_pos hpa]
      exact Nat.succ_ne_zero _
    · obtain ⟨⟨a, c⟩, tl, rfl⟩ : ∃ x tl, heap = x :: tl := by
        cases heap with
        | nil => cases h.head
        | cons x tl => exact ⟨x, tl, rfl⟩
      have ha : a = 0 := Option.some.inj h.head
      have hc := hkeep a c List.mem_cons_self (by simp [owners, ha])
      have hpos : decide (c.cRefcount ≠ 0) = true := (List.mem_filter.1 hc).2
      simp only [List.filter_cons, hpos]
      exact congrArg some ha

/-- What holds as long as the counters do not wrap. -/
structure Good (t : Table) : Prop where
  layout : t.Layout
  sound : Sound (ports t.rows) t.chassis
  live : t.Live

theorem Good.init (h : Init t) : t.Good := by
  refine ⟨.init h, ?_, .init h⟩
  obtain ⟨c, hr, -, rfl⟩ := h
  intro x hx
  cases List.mem_singleton.1 hx
  exact hr

theorem Good.step (h : t.Good) (hf : l = .collect → Few t.rows) (hst : Step e t l t') : t'.Good :=
  ⟨h.layout.step hst, h.sound.step h.layout hst, h.live.step h.layout h.sound hf hst⟩

theorem good_reachable (h : ((machine e).guard fun t l => l = .collect → Few t.rows).Reachable t) :
    t.Good :=
  LTS.Inductive.reachable ⟨fun _ => Good.init, fun _ _ _ hg hst => hg.step hst.1 hst.2⟩ t h

/-- Removals leave fewer ports, and no chassis that was not there. -/
theorem Few.step (h : Few t.rows) (hl : l = .forget ∨ l = .unplug ∨ l = .collect)
    (hst : Step e t l t') :
    Few t'.rows ∧ t'.chassis.addrs ⊆ t.chassis.addrs := by
  unfold Few at h ⊢
  cases hst with
  | forget =>
    rw [ports_row] at h
    simp only [Multiset.card_cons] at h ⊢
    refine ⟨by omega, ?_⟩
    rw [addrs_portCleanup]
    exact List.Subset.refl _
  | unplug =>
    rw [ports_cons, zero_add] at h
    simp only [Multiset.card_cons] at h ⊢
    refine ⟨by omega, ?_⟩
    rw [addrs_portCleanup]
    exact List.Subset.refl _
  | collect => exact ⟨h, (Heap.addrs_filter_sublist ..).subset⟩
  | _ => simp at hl

end Table

/-! ## The daemon -/

def Daemon.ports (s : Daemon) : List Port :=
  (s.gHardware ++ s.detached).flatMap fun hw => hw.hLport :: hw.hRports

def Daemon.refs (s : Daemon) (a : Addr) : Nat := s.ports.countP fun p => p.pChassis = some a

/-- Fewer ports than `c_refcount` can count, the local chassis' own reference
included. -/
def Daemon.FewPorts (s : Daemon) : Prop :=
  s.ports.length < 65536 ∧ (s.gHardware ++ s.detached).length < 65535

instance (s : Daemon) : Decidable s.FewPorts := inferInstanceAs (Decidable (_ ∧ _))

section Daemon
open Table
variable {b : Build} {cfg : Config} {protocols : List Protocol} {s : Daemon}

theorem ports_rowsOf (hws : List Hardware) :
    Table.ports (rowsOf hws) = ↑(hws.flatMap fun hw => hw.hLport :: hw.hRports.map Port.untimed) := by
  induction hws with
  | nil => rfl
  | cons hw hws ih =>
    rw [rowsOf_cons, ports_cons, ih, List.flatMap_cons, ← Multiset.coe_add]
    rfl

theorem card_ports_table (s : Daemon) : Multiset.card (Table.ports s.table.rows) = s.ports.length := by
  unfold Daemon.table Daemon.ports
  rw [ports_rowsOf, Multiset.coe_card]
  simp

theorem refs_table (s : Daemon) (a : Addr) : Table.refs (Table.ports s.table.rows) a = s.refs a := by
  unfold Daemon.table Daemon.refs Daemon.ports Table.refs
  rw [ports_rowsOf, Multiset.coe_countP, List.countP_flatMap, List.countP_flatMap]
  refine congrArg List.sum (List.map_congr_left fun hw _ => ?_)
  rw [Function.comp, Function.comp, List.countP_cons, List.countP_cons, List.countP_map]
  rfl

theorem exists_mem_ports_table {p : Port} (hp : p ∈ s.ports) :
    ∃ q ∈ Table.ports s.table.rows, q.pChassis = p.pChassis := by
  obtain ⟨hw, hmem, hp⟩ := List.mem_flatMap.1 hp
  have hrow : hw.row ∈ s.table.rows := Multiset.mem_coe.2 (List.mem_map_of_mem hmem)
  rcases List.mem_cons.1 hp with rfl | hp
  · exact ⟨hw.hLport, mem_ports.2 ⟨_, hrow, .inl rfl⟩, rfl⟩
  · exact ⟨p.untimed, mem_ports.2 ⟨_, hrow, .inr (Multiset.mem_coe.2 (List.mem_map_of_mem hp))⟩, rfl⟩

theorem few_table (s : Daemon) : Few s.table.rows ↔ s.FewPorts := by
  unfold Few Daemon.FewPorts
  rw [card_ports_table]
  simp [Daemon.table, rowsOf]

theorem good_of_fewPorts (hs : ((daemon b cfg protocols).restrict Daemon.FewPorts).Reachable s) :
    s.Steady cfg protocols ∧ s.table.Good := by
  have hmoves : ∀ s ev s', ((daemon b cfg protocols).restrict Daemon.FewPorts).step s ev s' →
      (daemon b cfg protocols).step s ev s' ∧
        ∀ t l, Moves b s s' ev t l → l = .collect → Few t.rows := by
    rintro s ev s' ⟨hst, -, hf⟩
    refine ⟨hst, fun t l hm hl => ?_⟩
    cases hm with
    | collect hrows => rw [hrows]; exact (few_table s').2 hf
    | _ => cases hl
  have hinit : ∀ s, ((daemon b cfg protocols).restrict Daemon.FewPorts).init s →
      (daemon b cfg protocols).init s := fun _ hi => hi.1
  obtain ⟨hsteady, hreach⟩ := table_reachable hinit hmoves hs
  exact ⟨hsteady, good_reachable hreach⟩

/-- The cleanup keeps what the others may rely on. -/
theorem good_cleanup (hsteady : s.Steady cfg protocols) (hg : s.table.Good) (hf : s.FewPorts)
    (now : Int) :
    (lldpdCleanup b now s).table.Good ∧ Few (lldpdCleanup b now s).table.rows ∧
      (lldpdCleanup b now s).gChassis.addrs ⊆ s.gChassis.addrs := by
  have hstep : s.step b (.cleanup now) = some (lldpdCleanup b now s) := rfl
  refine (step_simulated hsteady hstep).keeps
    (P := fun t => t.Good ∧ Few t.rows ∧ t.chassis.addrs ⊆ s.gChassis.addrs)
    (fun t l t' ht hst => ?_) ⟨hg, (few_table s).2 hf, List.Subset.refl _⟩
  obtain ⟨hg, hf, hsub⟩ := ht
  have hl : l = .forget ∨ l = .unplug ∨ l = .collect := by cases hst.1 <;> simp
  obtain ⟨hf', hsub'⟩ := hf.step hl hst.2
  exact ⟨hg.step (fun _ => hf) hst.2, hf', List.Subset.trans hsub' hsub⟩

theorem mem_cleanup_addrs (hsteady : s.Steady cfg protocols) (hg : s.table.Good) (hf : s.FewPorts)
    (now : Int) (a : Addr) :
    a ∈ (lldpdCleanup b now s).gChassis.addrs ↔
      a ∈ s.gChassis.addrs ∧ (a = 0 ∨ (lldpdCleanup b now s).refs a ≠ 0) := by
  obtain ⟨hg', hf', hsub⟩ := good_cleanup hsteady hg hf now
  rw [← refs_table]
  constructor
  · intro ha
    obtain ⟨c, hc⟩ := Heap.mem_addrs.1 ha
    have hne : c.cRefcount ≠ 0 := of_decide_eq_true (List.mem_filter.1 hc).2
    rw [ne_eq, refcount_eq_zero_iff hg'.layout hg'.sound hf' hc] at hne
    refine ⟨hsub ha, ?_⟩
    unfold owners at hne
    by_cases h0 : a = 0
    · exact .inl h0
    · rw [if_neg h0] at hne
      exact .inr hne
  · rintro ⟨-, rfl | hne⟩
    · exact List.mem_of_mem_head? hg'.live.head
    · obtain ⟨p, hp, hpa⟩ := Multiset.countP_pos.1 (Nat.pos_of_ne_zero hne)
      obtain ⟨a', ha', hpa'⟩ := hg'.live.attached p hp
      cases hpa.symm.trans hpa'
      exact ha'

def withInterfaces (n : Nat) : Daemon where
  gChassis := [(0, { cRefcount := UInt16.ofNat (n + 1) })]
  detached := List.replicate n { hLport := { pChassis := some 0 } }
  nextAddr := 1

theorem withInterfaces_step (n : Nat) :
    (withInterfaces n).step .full .allocHardware = some (withInterfaces (n + 1)) := by
  have hd : List.replicate n ({ hLport := { pChassis := some 0 } } : Hardware) ++
      [{ hLport := { pChassis := some 0 } }] =
      List.replicate (n + 1) { hLport := { pChassis := some 0 } } := List.replicate_succ'.symm
  have hc : UInt16.ofNat (n + 1) + 1 = UInt16.ofNat (n + 1 + 1) := (UInt16.ofNat_add _ _).symm
  unfold withInterfaces
  rw [← hd, ← hc]
  rfl

theorem ports_withInterfaces (n : Nat) :
    (withInterfaces n).ports = List.replicate n { pChassis := some 0 } := by
  unfold Daemon.ports withInterfaces
  rw [List.nil_append]
  induction n with
  | zero => rfl
  | succ n ih => rw [List.replicate_succ, List.flatMap_cons, ih]; rfl

theorem length_ports_withInterfaces (n : Nat) : (withInterfaces n).ports.length = n := by
  rw [ports_withInterfaces, List.length_replicate]

theorem withInterfaces_reachable {H : Daemon → Prop} (n : Nat)
    (hH : ∀ m ≤ n, H (withInterfaces m)) :
    ((daemon .full {} []).restrict H).Reachable (withInterfaces n) := by
  induction n with
  | zero => exact .init ⟨started_startUp, hH 0 (Nat.le_refl 0)⟩
  | succ n ih =>
    exact .step (ih fun m hm => hH m (Nat.le_succ_of_le hm))
      ⟨withInterfaces_step n, hH n (Nat.le_succ n), hH (n + 1) (Nat.le_refl _)⟩

/-- In every run with few enough ports: every reference count is the number
of ports attached to the chassis, one more for the local chassis, no port is
attached to anything but a chassis of the list, and the cleanup frees exactly
the chassis, other than the local one, that no port is attached to. -/
theorem refcount_reachable (b : Build) (cfg : Config) (protocols : List Protocol) (s : Daemon)
    (hs : ((daemon b cfg protocols).restrict Daemon.FewPorts).Reachable s) :
    s.localChassis.map Prod.fst = some 0 ∧
      (∀ a c, (a, c) ∈ s.gChassis → c.cRefcount.toNat = s.refs a + if a = 0 then 1 else 0) ∧
      (∀ p ∈ s.ports, ∃ a ∈ s.gChassis.addrs, p.pChassis = some a) ∧
      ∀ now a, a ∈ (lldpdCleanup b now s).gChassis.addrs ↔
        a ∈ s.gChassis.addrs ∧ (a = 0 ∨ (lldpdCleanup b now s).refs a ≠ 0) := by
  obtain ⟨hsteady, hg⟩ := good_of_fewPorts hs
  have hf : s.FewPorts := LTS.of_reachable_restrict hs
  refine ⟨?_, fun a c hmem => ?_, fun p hp => ?_, fun now a => ?_⟩
  · rw [Daemon.localChassis, ← List.head?_map]
    exact hg.live.head
  · have hc : c.cRefcount = _ := hg.sound (a, c) hmem
    have hlt := owners_lt hg.layout ((few_table s).2 hf) a
    rw [hc, UInt16.toNat_ofNat_of_lt' (by simpa using hlt), owners, refs_table]
  · obtain ⟨q, hq, hpq⟩ := exists_mem_ports_table hp
    rw [← hpq]
    exact hg.live.attached q hq
  · exact mem_cleanup_addrs hsteady hg hf now a

/-- Three neighbors on two chassis are heard on one interface, and those on one
of the chassis age out. -/
def ageingNeighbors : List Event :=
  twoNeighbors ++ [.decode 0 (announcement [2] [1] [66]) 100 Lldp.zeroStack, .scan 0 1,
    .cleanup 120]

theorem refcount_reachable_aged : ∃ s : Daemon,
    ((daemon .full {} lldpOnly).restrict Daemon.FewPorts).Reachable s ∧
      s.gChassis.map (fun c => (c.1, c.2.cRefcount)) = [(0, 2), (2, 1)] ∧
      s.localChassis.map Prod.fst = some 0 ∧
      (∀ a c, (a, c) ∈ s.gChassis → c.cRefcount.toNat = s.refs a + if a = 0 then 1 else 0) ∧
      (∀ p ∈ s.ports, ∃ a ∈ s.gChassis.addrs, p.pChassis = some a) ∧
      ∀ now a, a ∈ (lldpdCleanup .full now s).gChassis.addrs ↔
        a ∈ s.gChassis.addrs ∧ (a = 0 ∨ (lldpdCleanup .full now s).refs a ≠ 0) := by
  obtain ⟨s, hs, hcounts⟩ :
      ∃ s ∈ ageingNeighbors.foldlM (fun s ev => (s.step .full ev).filter (Daemon.FewPorts ·))
          (Daemon.started {} lldpOnly),
        s.gChassis.map (fun c => (c.1, c.2.cRefcount)) = [(0, 2), (2, 1)] := by
    decide
  have hreach : ((daemon .full {} lldpOnly).restrict Daemon.FewPorts).Reachable s :=
    LTS.reachable_restrict_foldlM (.init ⟨started_startUp, by decide⟩) hs
  exact ⟨s, hreach, hcounts, refcount_reachable _ _ _ s hreach⟩

/-- 65535 local ports are attached to the local chassis, its count is zero,
and the cleanup frees it. -/
theorem refcount_wraps : ∃ s : Daemon,
    ((daemon .full {} []).restrict fun s => s.ports.length < 65536).Reachable s ∧
      s.refs 0 = 65535 ∧ s.gChassis = [(0, { cRefcount := 0 })] ∧
      (lldpdCleanup .full 0 s).refs 0 = 65535 ∧ (lldpdCleanup .full 0 s).gChassis = [] := by
  have hrefs : (withInterfaces 65535).refs 0 = 65535 := by
    unfold Daemon.refs
    rw [ports_withInterfaces, List.countP_replicate]
    rfl
  refine ⟨withInterfaces 65535, withInterfaces_reachable _ fun m hm => ?_, hrefs, rfl, hrefs, rfl⟩
  rw [length_ports_withInterfaces]
  omega

end Daemon

end Lldpd
