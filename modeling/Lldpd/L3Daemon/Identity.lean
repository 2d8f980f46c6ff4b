import Lldpd.L3Daemon.Layout

/-!
# The identity of neighbors

No interface has two neighbors with one MSAP, no two chassis have one key, a
neighbor speaks the protocol of its chassis, and what is received does not
change the local chassis (`identity_reachable`).

A chassis keeps its key when it is overwritten, so the two searches of
`lldpd_decode`, by MSAP and by key, agree in every run. What ties them
together is that a port stands for the last frame that announced it
(`Stands`).
-/
namespace Lldpd
open Core

namespace Table

/-! ## Keys -/

/-- The chassis below `n` keep their keys, as long as they are there. -/
def KeysKept (n : Addr) (h h' : Heap Chassis) : Prop :=
  ∀ a < n, ∀ c', h'.deref a = some c' → ∃ c, h.deref a = some c ∧ c.key = c'.key

section Keys
variable {h : Heap Chassis} {n a : Addr} {f : Chassis → Chassis}

theorem keysKept_write (hf : ∀ c, (a, c) ∈ h → (f c).key = c.key) : KeysKept n h (h.write a f) := by
  intro a' _ c' hc'
  rw [Heap.deref_write] at hc'
  split at hc'
  · rename_i ha
    obtain ⟨c, hc, rfl⟩ := Option.map_eq_some_iff.1 hc'
    exact ⟨c, hc, (hf c (Heap.mem_of_deref (ha ▸ hc))).symm⟩
  · exact ⟨c', hc', rfl⟩

theorem keys_write (hf : ∀ c, (a, c) ∈ h → (f c).key = c.key) :
    (h.write a f).map (fun x => x.2.key) = h.map fun x => x.2.key := by
  unfold Heap.write
  rw [List.map_map]
  refine List.map_congr_left fun x hx => ?_
  by_cases ha : x.1 = a
  · simp only [Function.comp, ha]
    exact hf x.2 (ha ▸ hx)
  · simp [ha]

theorem key_retain (c : Chassis) : c.retain.key = c.key := rfl

theorem key_release (c : Chassis) : c.release.key = c.key := rfl

theorem key_move (c oc : Chassis) : (lldpdMoveChassis c oc).key = c.key := rfl

theorem keysKept_portCleanup (q : Port) : KeysKept n h (lldpdPortCleanup h q) := by
  unfold lldpdPortCleanup
  split
  · exact keysKept_write fun c _ => key_release c
  · exact fun a _ c' hc' => ⟨c', hc', rfl⟩

theorem keys_portCleanup (q : Port) :
    (lldpdPortCleanup h q).map (fun x => x.2.key) = h.map fun x => x.2.key := by
  unfold lldpdPortCleanup
  split
  · exact keys_write fun c _ => key_release c
  · rfl

theorem keysKept_addAddresses (mgmts : List Mgmt) (q : Port) :
    KeysKept n h (addAddresses mgmts h q) := by
  unfold addAddresses
  split
  · exact keysKept_write fun _ _ => rfl
  · exact fun a _ c' hc' => ⟨c', hc', rfl⟩

theorem keys_addAddresses (mgmts : List Mgmt) (q : Port) :
    (addAddresses mgmts h q).map (fun x => x.2.key) = h.map fun x => x.2.key := by
  unfold addAddresses
  split
  · exact keys_write fun _ _ => rfl
  · rfl

end Keys

/-! ## Ports and what they stand for -/

/-- The port `q` stands for the frame that announced it: its names are those
in the frame, and its chassis has the key in the frame. -/
def Stands (e : Announcements) (h : Heap Chassis) (q : Port) : Prop :=
  ∃ f c p, q.pLastframe = some f ∧ e.heard f c p ∧ q.pProtocol = p.pProtocol ∧
    q.pIdSubtype = p.pIdSubtype ∧ q.pId = p.pId ∧ ∀ oc, q.chassis h = some oc → oc.key = c.key

section Stands
variable {e : Announcements} {h h' : Heap Chassis} {n : Addr} {p q : Port}

theorem chassis_of_keysKept (hk : KeysKept n h h') (hq : ∀ a, q.pChassis = some a → a < n)
    {c' : Chassis} (hc : q.chassis h' = some c') : ∃ c, q.chassis h = some c ∧ c.key = c'.key := by
  obtain ⟨a, ha, hd⟩ := Option.bind_eq_some_iff.1 hc
  obtain ⟨c, hc, hkey⟩ := hk a (hq a ha) c' hd
  exact ⟨c, Option.bind_eq_some_iff.2 ⟨a, ha, hc⟩, hkey⟩

theorem Stands.kept (hs : Stands e h q) (hk : KeysKept n h h')
    (hq : ∀ a, q.pChassis = some a → a < n) : Stands e h' q := by
  obtain ⟨f, c, p, h1, h2, h3, h4, h5, h6⟩ := hs
  refine ⟨f, c, p, h1, h2, h3, h4, h5, fun oc hoc => ?_⟩
  obtain ⟨c', hc', hkey⟩ := chassis_of_keysKept hk hq hoc
  rw [← hkey]
  exact h6 c' hc'

/-- A port speaks the protocol of its chassis. -/
theorem Stands.protocol (hs : Stands e h q) {c : Chassis} (hc : q.chassis h = some c) :
    q.pProtocol = c.cProtocol := by
  obtain ⟨f, c', p, -, hheard, hp, -, -, hkey⟩ := hs
  obtain ⟨mode, hc', hp'⟩ := e.heard_protocol hheard
  have hkey := hkey c hc
  simp only [Chassis.key, Prod.mk.injEq] at hkey
  rw [hp, hp', hkey.1, hc']

/-- A port with the MSAP that a frame announces is on a chassis with the key
that the frame announces. -/
theorem Stands.key_of_msap (hs : Stands e h q) {f : Bytes} {c : Chassis} (hheard : e.heard f c p)
    (hm : q.msap h = some (.of c p)) : ∃ oc, q.chassis h = some oc ∧ oc.key = c.key := by
  obtain ⟨oc, hoc, hof⟩ := Option.map_eq_some_iff.1 hm
  obtain ⟨mode, hc, hp⟩ := e.heard_protocol hheard
  have hproto := hs.protocol hoc
  simp only [Msap.of, Msap.mk.injEq] at hof
  refine ⟨oc, hoc, ?_⟩
  rw [Chassis.key, Chassis.key, ← hproto, hof.1, hof.2.2.2.1, hof.2.2.2.2, hp, hc]

theorem msap_of_keysKept (hk : KeysKept n h h') (hq : ∀ a, q.pChassis = some a → a < n) {m : Msap}
    (hm : q.msap h' = some m) : q.msap h = some m := by
  obtain ⟨c', hc', rfl⟩ := Option.map_eq_some_iff.1 hm
  obtain ⟨c, hc, hkey⟩ := chassis_of_keysKept hk hq hc'
  simp only [Chassis.key, Prod.mk.injEq] at hkey
  unfold Port.msap
  rw [hc, Option.map_some, Msap.of, Msap.of, hkey.2.1, hkey.2.2]

end Stands

/-! ## MSAPs -/

theorem filterMap_le_filterMap {α β : Type} {f g : α → Option β} {l : Multiset α}
    (h : ∀ x ∈ l, ∀ y, g x = some y → f x = some y) : l.filterMap g ≤ l.filterMap f := by
  induction l using Multiset.induction with
  | empty => exact le_refl _
  | cons x l ih =>
    rw [Multiset.forall_mem_cons] at h
    have ih := ih h.2
    cases hg : g x with
    | some y =>
      rw [Multiset.filterMap_cons_some g x l hg, Multiset.filterMap_cons_some f x l (h.1 y hg)]
      exact Multiset.cons_le_cons y ih
    | none =>
      rw [Multiset.filterMap_cons_none x l hg]
      cases hf : f x with
      | none => rwa [Multiset.filterMap_cons_none x l hf]
      | some y =>
        rw [Multiset.filterMap_cons_some f x l hf]
        exact ih.trans (Multiset.le_cons_self _ y)

def Distinct (h : Heap Chassis) (ps : Multiset Port) : Prop := (ps.filterMap (·.msap h)).Nodup

section Distinct
variable {h h' : Heap Chassis} {n : Addr} {q : Port} {ps : Multiset Port}

theorem Distinct.kept (hd : Distinct h ps) (hk : KeysKept n h h')
    (hq : ∀ q ∈ ps, ∀ a, q.pChassis = some a → a < n) : Distinct h' ps :=
  Multiset.nodup_of_le
    (filterMap_le_filterMap fun q hmem _ hm => msap_of_keysKept hk (hq q hmem) hm) hd

theorem distinct_cons_of_some {m : Msap} (hm : q.msap h = some m) :
    Distinct h (q ::ₘ ps) ↔ (∀ q' ∈ ps, q'.msap h ≠ some m) ∧ Distinct h ps := by
  unfold Distinct
  rw [Multiset.filterMap_cons_some _ q ps hm, Multiset.nodup_cons, Multiset.mem_filterMap]
  constructor
  · rintro ⟨hnot, hd⟩
    exact ⟨fun q' hq' he => hnot ⟨q', hq', he⟩, hd⟩
  · rintro ⟨hne, hd⟩
    exact ⟨fun ⟨q', hq', he⟩ => hne q' hq' he, hd⟩

theorem Distinct.of_cons (hd : Distinct h (q ::ₘ ps)) : Distinct h ps := by
  cases hm : q.msap h with
  | some m => exact ((distinct_cons_of_some hm).1 hd).2
  | none =>
    unfold Distinct at hd
    rwa [Multiset.filterMap_cons_none q ps hm] at hd

theorem Distinct.congr {q' : Port} (hd : Distinct h (q ::ₘ ps)) (hq : q'.msap h = q.msap h) :
    Distinct h (q' ::ₘ ps) := by
  cases hm : q.msap h with
  | some m =>
    rw [distinct_cons_of_some hm] at hd
    rwa [distinct_cons_of_some (hq.trans hm)]
  | none =>
    unfold Distinct at hd ⊢
    rw [Multiset.filterMap_cons_none q ps hm] at hd
    rwa [Multiset.filterMap_cons_none q' ps (hq.trans hm)]

end Distinct

/-! ## The invariant -/

structure Identity (e : Announcements) (t : Table) : Prop where
  stands : ∀ q ∈ neighbors t.rows, Stands e t.chassis q
  keys : (t.chassis.map fun x => x.2.key).Nodup
  distinct : ∀ r ∈ t.rows, Distinct t.chassis r.rports

theorem Identity.init {e : Announcements} {t : Table} (h : Init t) : t.Identity e := by
  obtain ⟨c, -, -, rfl⟩ := h
  exact ⟨by simp, List.nodup_singleton _, by simp⟩

section Step
variable {e : Announcements} {t t' : Table} {l : Label}

/-- No step changes the key of a chassis or makes a second one with it. -/
theorem keys_step (hl : t.Layout) (hi : t.Identity e) (hst : Step e t l t') :
    KeysKept t.next t.chassis t'.chassis ∧ (t'.chassis.map fun x => x.2.key).Nodup := by
  have hkeys := hi.keys
  cases hst with
  | @relearn _ q _ _ h _ _ c _ a hheard hq hmsap =>
    obtain ⟨oc, hoc, hkey⟩ := (hi.stands q (by simp)).key_of_msap hheard hmsap
    have hmove : ∀ c', (a, c') ∈ h → (lldpdMoveChassis c c').key = c'.key := by
      intro c' hc'
      have hd : q.chassis h = some c' :=
        Option.bind_eq_some_iff.2 ⟨a, hq, Heap.deref_of_mem hl.nodup hc'⟩
      cases hoc.symm.trans hd
      exact (key_move ..).trans hkey.symm
    refine ⟨keysKept_write hmove, ?_⟩
    rwa [keys_write hmove]
  | @share _ _ _ h _ _ c oc _ a hheard hnew hroom hmem hkey =>
    have hmove : ∀ c', (a, c') ∈ h → (lldpdMoveChassis c c').retain.key = c'.key := by
      intro c' hc'
      have hd := (Heap.deref_of_mem hl.nodup hmem).symm.trans (Heap.deref_of_mem hl.nodup hc')
      cases hd
      exact (key_move c oc).trans hkey.symm
    rw [Heap.write_write]
    refine ⟨keysKept_write hmove, ?_⟩
    rwa [keys_write hmove]
  | fresh hheard hnew hroom hkey =>
    refine ⟨fun a ha c' hc' => ?_, ?_⟩
    · rw [Heap.deref_write, if_neg ha.ne, Heap.deref_concat ha.ne] at hc'
      exact ⟨c', hc', rfl⟩
    · rw [keys_write fun c _ => key_retain c, List.map_append]
      refine List.nodup_append.2 ⟨hkeys, List.nodup_singleton _, fun k hk k' hk' he => ?_⟩
      obtain ⟨x, hx, rfl⟩ := List.mem_map.1 hk
      exact hkey x hx (he.trans (List.mem_singleton.1 hk'))
  | note =>
    refine ⟨keysKept_addAddresses _ _, ?_⟩
    rwa [keys_addAddresses]
  | plug hlport hmem =>
    refine ⟨keysKept_write fun c _ => key_retain c, ?_⟩
    rwa [keys_write fun c _ => key_retain c]
  | forget =>
    refine ⟨keysKept_portCleanup _, ?_⟩
    rwa [keys_portCleanup]
  | unplug =>
    refine ⟨keysKept_portCleanup _, ?_⟩
    rwa [keys_portCleanup]
  | collect =>
    refine ⟨fun a ha c' hc' => ?_, hkeys.sublist (List.filter_sublist.map _)⟩
    rw [Heap.deref_filter hl.nodup] at hc'
    exact ⟨c', (Option.filter_eq_some_iff.1 hc').1, rfl⟩

variable {h' h : Heap Chassis} {ps : Multiset Port}

theorem stands_kept (hl : t.Layout) (hi : t.Identity e) (hk : KeysKept t.next t.chassis h')
    (hsub : ∀ q ∈ ps, q ∈ neighbors t.rows) : ∀ q ∈ ps, Stands e h' q := by
  intro q hq
  exact (hi.stands q (hsub q hq)).kept hk (hl.ports_lt q (mem_ports_of_neighbors (hsub q hq)))

theorem distinct_kept (hl : t.Layout) (hk : KeysKept t.next t.chassis h')
    {r : Row} (hr : r ∈ t.rows) (hsub : ∀ q ∈ ps, q ∈ r.rports)
    (hd : Distinct t.chassis ps) : Distinct h' ps :=
  hd.kept hk fun q hq a ha => hl.ports_lt q (mem_ports.2 ⟨r, hr, .inr (hsub q hq)⟩) a ha

/-- The rows that a step does not touch. -/
theorem distinct_others {r0 : Row} {R : Multiset Row} {n : Addr}
    (hl : Layout ⟨r0 ::ₘ R, h, n⟩) (hi : Identity e ⟨r0 ::ₘ R, h, n⟩) (hk : KeysKept n h h') :
    ∀ r ∈ R, Distinct h' r.rports := by
  intro r hr
  have hr' : r ∈ r0 ::ₘ R := Multiset.mem_cons_of_mem hr
  exact distinct_kept hl hk hr' (fun _ hq => hq) (hi.distinct r hr')

/-- The new port stands for its frame, and its MSAP is the one announced. -/
theorem learnt_stands {f : Bytes} {c oc : Chassis} {p : Port} {a : Addr}
    (hheard : e.heard f c p) (hd : h.deref a = some oc) (hkey : oc.key = c.key) :
    Stands e h (p.learnt f a) ∧ (p.learnt f a).msap h = some (.of c p) := by
  have hc : (p.learnt f a).chassis h = some oc := hd
  refine ⟨⟨f, c, p, rfl, hheard, rfl, rfl, rfl, fun oc' hoc' => ?_⟩, ?_⟩
  · cases hc.symm.trans hoc'
    exact hkey
  · simp only [Chassis.key, Prod.mk.injEq] at hkey
    unfold Port.msap
    rw [hc, Option.map_some, Msap.of, hkey.2.1, hkey.2.2]
    rfl

theorem identity_learn {l0 : Port} {R : Multiset Row} {n n' a : Addr} {f : Bytes} {c oc : Chassis}
    {p : Port} {q : Multiset Port} (hl : Layout ⟨⟨l0, q + ps⟩ ::ₘ R, h, n⟩)
    (hi : Identity e ⟨⟨l0, q + ps⟩ ::ₘ R, h, n⟩) (hk : KeysKept n h h')
    (hkeys : (h'.map fun x => x.2.key).Nodup) (hheard : e.heard f c p) (hd : h'.deref a = some oc)
    (hkey : oc.key = c.key) (hps : Distinct h ps) (hnew : ∀ q' ∈ ps, q'.msap h ≠ some (.of c p)) :
    Identity e ⟨⟨l0, p.learnt f a ::ₘ ps⟩ ::ₘ R, h', n'⟩ := by
  obtain ⟨hstands, hmsap⟩ := learnt_stands hheard hd hkey
  have hlt : ∀ q' ∈ ps, ∀ a, q'.pChassis = some a → a < n := fun q' hq' =>
    hl.ports_lt q' (mem_ports.2 ⟨_, Multiset.mem_cons_self .., .inr (Multiset.mem_add.2 (.inr hq'))⟩)
  refine ⟨?_, hkeys, ?_⟩
  · rw [forall_neighbors]
    refine ⟨hstands, stands_kept hl hi hk fun q' hq' => ?_⟩
    rw [neighbors_cons, add_assoc]
    exact Multiset.mem_add.2 (.inr hq')
  · rw [Multiset.forall_mem_cons]
    refine ⟨(distinct_cons_of_some hmsap).2 ⟨fun q' hq' hm => ?_, hps.kept hk hlt⟩,
      distinct_others hl hi hk⟩
    exact hnew q' hq' (msap_of_keysKept hk (hlt q' hq') hm)

theorem Identity.step (hl : t.Layout) (hi : t.Identity e) (hst : Step e t l t') :
    t'.Identity e := by
  obtain ⟨hk, hkeys⟩ := keys_step hl hi hst
  have hderef : ∀ c a others, l = .learn c a others →
      ∃ oc, t'.chassis.deref a = some oc ∧ oc.info = c.info := by
    rintro c a others rfl
    exact deref_learnt hl hst
  cases hst with
  | @relearn l0 q ps R h n f c p a hheard hq hmsap =>
    obtain ⟨oc, hd, hinfo⟩ := hderef _ _ _ rfl
    have hdist := hi.distinct _ (Multiset.mem_cons_self ..)
    exact identity_learn (q := {q}) (p := p) hl hi hk hkeys hheard hd (key_of_info hinfo)
      hdist.of_cons ((distinct_cons_of_some hmsap).1 hdist).1
  | @share l0 ps R h n f c oc p a hheard hnew hroom hmem hkey =>
    obtain ⟨oc', hd, hinfo⟩ := hderef _ _ _ rfl
    exact identity_learn (c := c) (p := p) (by rwa [zero_add]) (by rwa [zero_add]) hk hkeys
      hheard hd (key_of_info hinfo) (hi.distinct _ (Multiset.mem_cons_self ..)) hnew
  | @fresh l0 ps R h n f c p index hheard hnew hroom hkey =>
    obtain ⟨oc, hd, hinfo⟩ := hderef _ _ _ rfl
    exact identity_learn (c := c) (p := p) (by rwa [zero_add]) (by rwa [zero_add]) hk hkeys
      hheard hd (key_of_info hinfo) (hi.distinct _ (Multiset.mem_cons_self ..)) hnew
  | @note l0 q ps R h n vlans mgmts =>
    have hmem : (⟨l0, q ::ₘ ps⟩ : Row) ∈ (⟨l0, q ::ₘ ps⟩ ::ₘ R : Multiset Row) :=
      Multiset.mem_cons_self ..
    have hdist := distinct_kept hl hk hmem (fun _ hq => hq) (hi.distinct _ hmem)
    have hstands := stands_kept hl hi hk fun _ hq => hq
    rw [forall_neighbors] at hstands
    refine ⟨?_, hkeys, ?_⟩
    · rw [forall_neighbors]
      exact hstands
    · rw [Multiset.forall_mem_cons]
      exact ⟨hdist.congr rfl, distinct_others hl hi hk⟩
  | plug hlport hmem =>
    refine ⟨?_, hkeys, ?_⟩
    · rw [neighbors_cons, zero_add]
      exact stands_kept hl hi hk fun _ hq => hq
    · rw [Multiset.forall_mem_cons]
      exact ⟨Multiset.nodup_zero, fun r hr =>
        distinct_kept hl hk hr (fun _ hq => hq) (hi.distinct r hr)⟩
  | @forget l0 q ps R h n =>
    have hmem : (⟨l0, q ::ₘ ps⟩ : Row) ∈ (⟨l0, q ::ₘ ps⟩ ::ₘ R : Multiset Row) :=
      Multiset.mem_cons_self ..
    refine ⟨stands_kept hl hi hk fun _ hq => ?_, hkeys, ?_⟩
    · simp only [neighbors_cons, Multiset.cons_add] at hq ⊢
      exact Multiset.mem_cons_of_mem hq
    · rw [Multiset.forall_mem_cons]
      exact ⟨(distinct_kept hl hk hmem (fun _ hq => hq) (hi.distinct _ hmem)).of_cons,
        distinct_others hl hi hk⟩
  | unplug =>
    refine ⟨stands_kept hl hi hk fun _ hq => ?_, hkeys, distinct_others hl hi hk⟩
    rwa [neighbors_cons, zero_add]
  | collect =>
    exact ⟨stands_kept hl hi hk fun _ hq => hq, hkeys,
      fun r hr => distinct_kept hl hk hr (fun _ hq => hq) (hi.distinct r hr)⟩

/-- What is received does not reach the local chassis. -/
theorem deref_local (hl : t.Layout) (hst : Step e t l t')
    (hlabel : l = .note ∨ ∃ c a others, l = .learn c a others) :
    t'.chassis.deref 0 = t.chassis.deref 0 := by
  cases hst with
  | @relearn _ q _ _ _ _ _ _ _ a hheard hq hmsap =>
    have hne : 0 ≠ a := by
      rintro rfl
      exact hl.remote q (by simp) hq
    rw [Heap.deref_write, if_neg hne]
  | share hheard hnew hroom hmem hkey =>
    have hne := (hl.ne_local hheard hmem hkey).symm
    rw [Heap.deref_write, if_neg hne, Heap.deref_write, if_neg hne]
  | fresh hheard hnew hroom hkey =>
    have hne := hl.pos.ne
    rw [Heap.deref_write, if_neg hne, Heap.deref_concat hne]
  | @note _ q _ _ _ _ _ _ =>
    unfold addAddresses
    split
    · rename_i a hq
      have hne : 0 ≠ a := by
        rintro rfl
        exact hl.remote q (by simp) hq
      rw [Heap.deref_write, if_neg hne]
    · rfl
  | _ => simp at hlabel

end Step

theorem identity_inductive (e : Announcements) :
    (machine e).Inductive fun t => t.Layout ∧ t.Identity e where
  init _ h := ⟨.init h, .init h⟩
  step _ _ _ h hst := ⟨h.1.step hst, h.2.step h.1 hst⟩

end Table

/-! ## The daemon -/

section Daemon
open Table
variable {b : Build} {cfg : Config} {protocols : List Protocol} {s : Daemon}

theorem identity_table (hs : (daemon b cfg protocols).Reachable s) :
    s.Steady cfg protocols ∧ s.table.Layout ∧
      s.table.Identity (announcements b cfg protocols) := by
  obtain ⟨hsteady, hreach⟩ := table_reachable (fun _ hi => hi)
    (fun _ _ _ hst => ⟨hst, fun _ _ _ => trivial⟩) hs
  exact ⟨hsteady, (identity_inductive _).reachable _ (LTS.reachable_of_guard hreach)⟩

variable {hw : Hardware}

theorem mem_table (hmem : hw ∈ s.gHardware) : hw.row ∈ s.table.rows :=
  Multiset.mem_coe.2 (List.mem_map_of_mem (List.mem_append_left _ hmem))

theorem mem_neighbors_table (hmem : hw ∈ s.gHardware) {p : Port}
    (hp : p ∈ hw.hRports) : p.untimed ∈ neighbors s.table.rows :=
  mem_neighbors.2 ⟨_, mem_table hmem, Multiset.mem_coe.2 (List.mem_map_of_mem hp)⟩

theorem distinct_table (hi : s.table.Identity (announcements b cfg protocols))
    (hmem : hw ∈ s.gHardware) : (hw.hRports.filterMap (·.msap s.gChassis)).Nodup := by
  have hd := hi.distinct _ (mem_table hmem)
  unfold Distinct Hardware.row at hd
  rw [Multiset.filterMap_coe, List.filterMap_map] at hd
  exact hd

/-- In every run: no interface has two neighbors with one MSAP, no two
chassis have one key, a neighbor speaks the protocol of its chassis, and no
frame changes the local chassis. -/
theorem identity_reachable (b : Build) (cfg : Config) (protocols : List Protocol) (s : Daemon)
    (hs : (daemon b cfg protocols).Reachable s) :
    (∀ hw ∈ s.gHardware, (hw.hRports.filterMap (·.msap s.gChassis)).Nodup) ∧
      (s.gChassis.map fun x => x.2.key).Nodup ∧
      (∀ hw ∈ s.gHardware, ∀ p ∈ hw.hRports, ∀ c, p.chassis s.gChassis = some c →
        p.pProtocol = c.cProtocol) ∧
      ∀ i frame now stack s', s.step b (.decode i frame now stack) = some s' →
        s'.gChassis.deref 0 = s.gChassis.deref 0 := by
  obtain ⟨hsteady, hl, hi⟩ := identity_table hs
  refine ⟨fun hw hmem => distinct_table hi hmem, hi.keys, fun hw hmem p hp c hc => ?_,
    fun i frame now stack s' hstep => ?_⟩
  · exact (hi.stands _ (mem_neighbors_table hmem hp)).protocol hc
  · refine ((step_simulated hsteady hstep).keeps
      (P := fun t => t.Layout ∧ t.chassis.deref 0 = s.gChassis.deref 0)
      (fun t l t' ht hst => ⟨ht.1.step hst.2, ?_⟩) ⟨hl, rfl⟩).2
    rw [deref_local ht.1 hst.2 ?_, ht.2]
    cases hst.1 with
    | learn => exact .inr ⟨_, _, _, rfl⟩
    | note => exact .inl rfl

theorem identity_reachable_neighbors : ∃ s,
    (Daemon.started {} lldpOnly).run .full twoNeighbors = some s ∧
      s.gHardware.map (·.hRports.length) = [2] ∧
      ∀ hw ∈ s.gHardware, (hw.hRports.filterMap (·.msap s.gChassis)).Nodup := by
  obtain ⟨s, hs, hlen⟩ : ∃ s ∈ (Daemon.started {} lldpOnly).run .full twoNeighbors,
      s.gHardware.map (·.hRports.length) = [2] := by
    decide
  exact ⟨s, hs, hlen,
    (identity_reachable .full {} lldpOnly s (started_run_reachable hs)).1⟩

end Daemon

end Lldpd
