import Lldpd.L3Daemon.Simulation

/-!
# Where the chassis are

The bookkeeping that the results about the table share: chassis have different
addresses, no pointer is ahead of the allocator, the local chassis speaks no
protocol and no neighbor is attached to it.
-/
namespace Lldpd.Table
open Core

structure Layout (t : Table) : Prop where
  nodup : t.chassis.addrs.Nodup
  addrs_lt : ∀ a ∈ t.chassis.addrs, a < t.next
  ports_lt : ∀ p ∈ ports t.rows, ∀ a, p.pChassis = some a → a < t.next
  local_protocol : ∀ c, (0, c) ∈ t.chassis → c.cProtocol = none
  remote : ∀ p ∈ neighbors t.rows, p.pChassis ≠ some 0
  pos : 0 < t.next

section
variable {h : Heap Chassis} {a : Addr} {f : Chassis → Chassis}

theorem local_protocol_write (hl : ∀ c, (0, c) ∈ h → c.cProtocol = none)
    (hf : a = 0 → ∀ c, (f c).cProtocol = c.cProtocol) :
    ∀ c, (0, c) ∈ h.write a f → c.cProtocol = none := by
  intro c hc
  obtain ⟨x, hx, he⟩ := Heap.mem_write.1 hc
  simp only at he
  split at he
  · rename_i ha
    rw [he, hf ha.symm]
    exact hl x hx
  · rw [he]; exact hl x hx

theorem addrs_portCleanup (q : Port) : (lldpdPortCleanup h q).addrs = h.addrs := by
  unfold lldpdPortCleanup
  split
  · exact Heap.addrs_write
  · rfl

theorem addrs_addAddresses (mgmts : List Mgmt) (q : Port) :
    (addAddresses mgmts h q).addrs = h.addrs := by
  unfold addAddresses
  split
  · exact Heap.addrs_write
  · rfl

theorem local_protocol_portCleanup (hl : ∀ c, (0, c) ∈ h → c.cProtocol = none) (q : Port) :
    ∀ c, (0, c) ∈ lldpdPortCleanup h q → c.cProtocol = none := by
  unfold lldpdPortCleanup
  split
  · exact local_protocol_write hl fun _ _ => rfl
  · exact hl

theorem local_protocol_addAddresses (hl : ∀ c, (0, c) ∈ h → c.cProtocol = none)
    (mgmts : List Mgmt) (q : Port) :
    ∀ c, (0, c) ∈ addAddresses mgmts h q → c.cProtocol = none := by
  unfold addAddresses
  split
  · exact local_protocol_write hl fun _ _ => rfl
  · exact hl

end

theorem Layout.init {t : Table} (h : Init t) : t.Layout := by
  obtain ⟨c, -, hp, rfl⟩ := h
  refine ⟨by simp [Heap.addrs], by simp [Heap.addrs], by simp, ?_, by simp, Nat.one_pos⟩
  intro c' hc'
  cases List.mem_singleton.1 hc'
  exact hp

variable {e : Announcements} {t t' : Table}

/-- The chassis a frame announces is never the local one. -/
theorem Layout.ne_local {f : Bytes} {c oc : Chassis} {p : Port} {a : Addr} (h : t.Layout)
    (hheard : e.heard f c p) (hmem : (a, oc) ∈ t.chassis) (hkey : oc.key = c.key) :
    a ≠ 0 := by
  rintro rfl
  obtain ⟨mode, hc, -⟩ := e.heard_protocol hheard
  have hnone := h.local_protocol oc hmem
  simp only [Chassis.key, Prod.mk.injEq] at hkey
  rw [hkey.1, hc] at hnone
  cases hnone

theorem Layout.step {l : Label} (h : t.Layout) (hst : Step e t l t') : t'.Layout := by
  cases hst with
  | relearn hheard hq hmsap =>
    obtain ⟨h1, h2, h3, h4, h5, h6⟩ := h
    rw [forall_ports] at h3
    rw [forall_neighbors] at h5
    refine ⟨by simpa using h1, by simpa using h2, ?_, ?_, ?_, h6⟩
    · rw [forall_ports]
      exact ⟨h3.1, fun a ha => h3.2.1 a (hq.trans ha), h3.2.2⟩
    · exact local_protocol_write h4 fun ha => absurd (ha ▸ hq) h5.1
    · rw [forall_neighbors]
      exact ⟨fun ha => h5.1 (hq.trans ha), h5.2⟩
  | share hheard hnew hroom hmem hkey =>
    have hne := h.ne_local hheard hmem hkey
    obtain ⟨h1, h2, h3, h4, h5, h6⟩ := h
    simp only [ports_cons, neighbors_cons, Multiset.forall_mem_cons] at h3 h5
    refine ⟨by simpa using h1, by simpa using h2, ?_, ?_, ?_, h6⟩
    · rw [forall_ports]
      refine ⟨h3.1, fun a ha => ?_, h3.2⟩
      cases ha
      exact h2 _ (Heap.mem_addrs.2 ⟨_, hmem⟩)
    · exact local_protocol_write (local_protocol_write h4 fun ha => absurd ha hne) fun _ _ => rfl
    · rw [forall_neighbors]
      exact ⟨fun ha => hne (Option.some.inj ha), h5⟩
  | @fresh _ ps R heap n _ c _ _ hheard hnew hroom hkey =>
    obtain ⟨h1, h2, h3, h4, h5, h6⟩ := h
    simp only [ports_cons, neighbors_cons, Multiset.forall_mem_cons] at h3 h5
    have hnot : n ∉ heap.addrs := fun hn => Nat.lt_irrefl _ (h2 n hn)
    refine ⟨?_, ?_, ?_, ?_, ?_, Nat.succ_pos _⟩
    · rw [Heap.addrs_write, Heap.addrs_append]
      refine List.nodup_append.2 ⟨h1, List.nodup_singleton n, fun a ha b hb he => hnot ?_⟩
      have hb : b = n := List.mem_singleton.1 hb
      rwa [he, hb] at ha
    · intro a ha
      rw [Heap.addrs_write, Heap.addrs_append, List.mem_append] at ha
      rcases ha with ha | ha
      · exact Nat.lt_succ_of_lt (h2 a ha)
      · rw [List.mem_singleton.1 ha]
        exact Nat.lt_succ_self _
    · rw [forall_ports]
      refine ⟨fun a ha => Nat.lt_succ_of_lt (h3.1 a ha), fun a ha => ?_,
        fun p hp a ha => Nat.lt_succ_of_lt (h3.2 p hp a ha)⟩
      cases ha
      exact Nat.lt_succ_self _
    · refine local_protocol_write (fun c' hc' => ?_) fun _ _ => rfl
      rcases List.mem_append.1 hc' with hm | hm
      · exact h4 c' hm
      · cases List.mem_singleton.1 hm
        exact absurd h6 (Nat.lt_irrefl 0)
    · rw [forall_neighbors]
      refine ⟨fun ha => ?_, h5⟩
      rw [Option.some.inj ha] at h6
      exact Nat.lt_irrefl 0 h6
  | note =>
    obtain ⟨h1, h2, h3, h4, h5, h6⟩ := h
    refine ⟨by simpa [addrs_addAddresses] using h1, by simpa [addrs_addAddresses] using h2, ?_,
      local_protocol_addAddresses h4 _ _, ?_, h6⟩
    · simpa only [forall_ports] using h3
    · simpa only [forall_neighbors] using h5
  | plug hl hmem =>
    obtain ⟨h1, h2, h3, h4, h5, h6⟩ := h
    refine ⟨by simpa using h1, by simpa using h2, ?_, local_protocol_write h4 fun _ _ => rfl,
      by simpa using h5, h6⟩
    simp only [ports_cons, zero_add, Multiset.forall_mem_cons]
    exact ⟨fun a ha => h2 a (Option.some.inj (hl.symm.trans ha) ▸ hmem), h3⟩
  | forget =>
    obtain ⟨h1, h2, h3, h4, h5, h6⟩ := h
    rw [forall_ports] at h3
    rw [forall_neighbors] at h5
    refine ⟨by simpa [addrs_portCleanup] using h1, by simpa [addrs_portCleanup] using h2, ?_,
      local_protocol_portCleanup h4 _, ?_, h6⟩
    · simp only [ports_cons, Multiset.forall_mem_cons]
      exact ⟨h3.1, h3.2.2⟩
    · simpa only [neighbors_cons] using h5.2
  | unplug =>
    obtain ⟨h1, h2, h3, h4, h5, h6⟩ := h
    simp only [ports_cons, neighbors_cons, zero_add, Multiset.forall_mem_cons] at h3 h5
    exact ⟨by simpa [addrs_portCleanup] using h1, by simpa [addrs_portCleanup] using h2, h3.2,
      local_protocol_portCleanup h4 _, h5, h6⟩
  | @collect _ heap _ =>
    obtain ⟨h1, h2, h3, h4, h5, h6⟩ := h
    have hsub := Heap.addrs_filter_sublist heap fun x => decide (x.2.cRefcount ≠ 0)
    exact ⟨h1.sublist hsub, fun a ha => h2 a (hsub.subset ha), h3,
      fun c hc => h4 c (List.mem_filter.1 hc).1, h5, h6⟩

theorem deref_learnt {c : Chassis} {a : Addr} {others : Multiset Port} (h : t.Layout)
    (hst : Step e t (.learn c a others) t') :
    ∃ oc, t'.chassis.deref a = some oc ∧ oc.info = c.info := by
  cases hst with
  | relearn hheard hq hmsap =>
    obtain ⟨oc, hoc, -⟩ := Option.map_eq_some_iff.1 hmsap
    obtain ⟨a', ha', hd⟩ := Option.bind_eq_some_iff.1 hoc
    cases hq.symm.trans ha'
    refine ⟨lldpdMoveChassis c oc, ?_, rfl⟩
    rw [Heap.deref_write, if_pos rfl, hd, Option.map_some]
  | @share _ _ _ _ _ _ _ oc _ _ hheard hnew hroom hmem hkey =>
    refine ⟨(lldpdMoveChassis c oc).retain, ?_, rfl⟩
    rw [Heap.deref_write, if_pos rfl, Heap.deref_write, if_pos rfl, Heap.deref_of_mem h.nodup hmem]
    rfl
  | @fresh _ _ _ heap _ _ _ _ index hheard hnew hroom hkey =>
    have hn : a ∉ heap.addrs := fun hn => Nat.lt_irrefl _ (h.addrs_lt a hn)
    refine ⟨Chassis.retain { c with cIndex := index, cRefcount := 0 }, ?_, rfl⟩
    rw [Heap.deref_write, if_pos rfl, Heap.deref_append_of_not_mem hn, Heap.deref_cons, if_pos rfl]
    rfl

end Lldpd.Table
