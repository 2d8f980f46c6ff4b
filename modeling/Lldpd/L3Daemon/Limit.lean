import Lldpd.L3Daemon.Identity

/-!
# The limit on neighbors

`c_max_neighbors` bounds the neighbors of each protocol on each interface. A
frame from a neighbor that is in the table is taken whatever their number; a
frame from a new one is refused when the table is full, and then leaves no
trace (`neighbors_limit`).
-/
namespace Lldpd
open Core

namespace Table

def Within (e : Announcements) (t : Table) : Prop :=
  0 < e.maxNeighbors → ∀ r ∈ t.rows, ∀ proto : Option Mode,
    (r.rports.countP fun q => q.pProtocol = proto : Int) ≤ e.maxNeighbors

variable {e : Announcements}

theorem Within.init {t : Table} (h : Init t) : t.Within e := by
  obtain ⟨c, -, -, rfl⟩ := h
  intro _ r hr
  exact absurd hr (Multiset.notMem_zero r)

theorem within_cons {ps : Multiset Port} {p : Port} (h0 : 0 < e.maxNeighbors) (hroom : e.Room ps p)
    (h : ∀ proto : Option Mode, (ps.countP fun q => q.pProtocol = proto : Int) ≤ e.maxNeighbors)
    (f : Bytes) (a : Addr) (proto : Option Mode) :
    ((p.learnt f a ::ₘ ps).countP fun q => q.pProtocol = proto : Int) ≤ e.maxNeighbors := by
  rw [Multiset.countP_cons]
  split
  · rename_i hp
    have := hroom h0.ne'
    have hp : p.pProtocol = proto := hp
    subst hp
    omega
  · simpa using h proto

theorem Within.step {t t' : Table} {l : Label} (h : t.Within e) (hst : Step e t l t') :
    t'.Within e := by
  intro h0
  have h := h h0
  cases hst with
  | @relearn _ q _ _ _ _ _ c p _ hheard hq hmsap =>
    -- the MSAP names the protocol, so one neighbor takes the place of another
    obtain ⟨oc, -, hof⟩ := Option.map_eq_some_iff.1 hmsap
    have hproto : q.pProtocol = p.pProtocol := congrArg Msap.protocol hof
    rw [Multiset.forall_mem_cons] at h ⊢
    refine ⟨fun proto => ?_, h.2⟩
    have := h.1 proto
    simp only [Multiset.countP_cons, hproto] at this ⊢
    exact this
  | share hheard hnew hroom hmem hkey =>
    rw [Multiset.forall_mem_cons] at h ⊢
    exact ⟨within_cons h0 hroom h.1 _ _, h.2⟩
  | fresh hheard hnew hroom hkey =>
    rw [Multiset.forall_mem_cons] at h ⊢
    exact ⟨within_cons h0 hroom h.1 _ _, h.2⟩
  | note =>
    rw [Multiset.forall_mem_cons] at h ⊢
    refine ⟨fun proto => ?_, h.2⟩
    have := h.1 proto
    simp only [Multiset.countP_cons] at this ⊢
    exact this
  | plug hlport hmem =>
    rw [Multiset.forall_mem_cons]
    exact ⟨fun proto => by simpa using h0.le, h⟩
  | forget =>
    rw [Multiset.forall_mem_cons] at h ⊢
    refine ⟨fun proto => ?_, h.2⟩
    have := h.1 proto
    simp only [Multiset.countP_cons] at this ⊢
    split at this <;> omega
  | unplug =>
    rw [Multiset.forall_mem_cons] at h
    exact h.2
  | collect => exact h

end Table

/-! ## The daemon -/

section Daemon
open Table
variable {b : Build} {cfg : Config} {protocols : List Protocol} {s : Daemon}

theorem within_table (hs : (daemon b cfg protocols).Reachable s) :
    s.table.Within (announcements b cfg protocols) := by
  obtain ⟨-, hreach⟩ := table_reachable (fun _ hi => hi)
    (fun _ _ _ hst => ⟨hst, fun _ _ _ => trivial⟩) hs
  exact LTS.Inductive.reachable ⟨fun _ => Within.init, fun _ _ _ => Within.step⟩ _
    (LTS.reachable_of_guard hreach)

/-- The port is the neighbor `m` that the frame announces. A port whose chassis
is gone has no MSAP any more and is known by its last frame only. -/
def Port.IsNeighbor (q : Port) (h : Heap Chassis) (frame : Bytes) (m : Msap) : Prop :=
  q.msap h = some m ∨ q.chassis h = none ∧ isDuplicate frame q = true

def Hardware.Knows (hw : Hardware) (h : Heap Chassis) (frame : Bytes) (m : Msap) : Prop :=
  ∃ q ∈ hw.hRports, q.IsNeighbor h frame m

/-- How many neighbors of a protocol the interface has. -/
def Hardware.count (hw : Hardware) (mode : Mode) : Nat :=
  hw.hRports.countP fun q => q.pProtocol = some mode

variable {c : Chassis} {frame : Bytes} {p : Port} {hw : Hardware}

theorem Announces.heard {stack : Buffer 32} {mode : Mode}
    (hs : s.Steady cfg protocols) (ha : Announces b s stack frame mode c p) :
    (announcements b cfg protocols).heard (decapsulate frame) c p := by
  obtain ⟨-, hguess, n, hdec⟩ := ha
  rw [hs.config] at hdec
  rw [hs.protocols] at hguess
  exact ⟨mode, stack, n, hguess, hdec⟩

theorem mem_modifyFirst {α : Type} {f : α → Bool} {g : α → α} {l : List α} (h : l.any f = true) :
    ∃ x ∈ l, f x = true ∧ g x ∈ modifyFirst f g l := by
  induction l with
  | nil => cases h
  | cons x l ih =>
    unfold modifyFirst
    by_cases hx : f x = true
    · rw [if_pos hx]
      exact ⟨x, List.mem_cons_self, hx, List.mem_cons_self⟩
    · rw [if_neg hx]
      simp only [List.any_cons, hx] at h
      obtain ⟨y, hy, hfy, hgy⟩ := ih h
      exact ⟨y, List.mem_cons_of_mem _ hy, hfy, List.mem_cons_of_mem _ hgy⟩

/-- A port that was last heard in this frame is the neighbor that the frame
announces. -/
theorem msap_of_duplicate (hi : s.table.Identity (announcements b cfg protocols))
    (hmem : hw ∈ s.gHardware) {q : Port} (hq : q ∈ hw.hRports)
    (hlive : (q.chassis s.gChassis).isSome) {f : Bytes}
    (hdup : isDuplicate f q = true) (hheard : (announcements b cfg protocols).heard f c p) :
    q.msap s.gChassis = some (.of c p) := by
  obtain ⟨f', c', p', hf, hheard', h1, h2, h3, hkey⟩ := hi.stands _ (mem_neighbors_table hmem hq)
  have hf' : q.pLastframe = some f := eq_of_beq hdup
  cases hf'.symm.trans hf
  obtain ⟨rfl, rfl⟩ := heard_unique hheard hheard'
  obtain ⟨oc, hoc⟩ := Option.isSome_iff_exists.1 hlive
  have hkey := hkey oc hoc
  have h1 : q.pProtocol = p.pProtocol := h1
  have h2 : q.pIdSubtype = p.pIdSubtype := h2
  have h3 : q.pId = p.pId := h3
  simp only [Chassis.key, Prod.mk.injEq] at hkey
  unfold Port.msap
  rw [hoc, Option.map_some, Msap.of, Msap.of, h1, h2, h3, hkey.2.1, hkey.2.2]

theorem isNeighbor_of_duplicate (hi : s.table.Identity (announcements b cfg protocols))
    (hmem : hw ∈ s.gHardware) {q : Port} (hq : q ∈ hw.hRports) {f : Bytes}
    (hdup : isDuplicate f q = true) (hheard : (announcements b cfg protocols).heard f c p) :
    q.IsNeighbor s.gChassis f (.of c p) := by
  cases hc : q.chassis s.gChassis with
  | none => exact .inr ⟨hc, hdup⟩
  | some oc => exact .inl (msap_of_duplicate hi hmem hq (by rw [hc]; rfl) hdup hheard)

section Learn
variable {now : Int} {frame : Bytes} {c : Chassis} {p : Port} {hw : Hardware}

theorem find_sameMsap (h : Heap Chassis) :
    hw.hRports.find? (sameMsap h c p) ≠ none ↔ ∃ q ∈ hw.hRports, q.msap h = some (.of c p) := by
  simp [← sameMsap_iff]

/-- No neighbor was last heard in this frame, so the MSAP decides. -/
theorem knows_iff (h : Heap Chassis) (hdup : ¬ hw.hRports.any (isDuplicate frame) = true) :
    hw.Knows h frame (.of c p) ↔ hw.hRports.find? (sameMsap h c p) ≠ none := by
  rw [find_sameMsap]
  constructor
  · rintro ⟨q, hq, hmsap | ⟨-, hqdup⟩⟩
    · exact ⟨q, hq, hmsap⟩
    · exact absurd (List.any_eq_true.2 ⟨q, hq, hqdup⟩) hdup
  · rintro ⟨q, hq, hmsap⟩
    exact ⟨q, hq, .inl hmsap⟩

theorem learn_knows (hl : s.table.Layout) {i : Nat} (hget : s.gHardware[i]? = some hw)
    {hw0 : Hardware} (hrow : hw0.row = hw.row) {e : Announcements} (hheard : e.heard frame c p)
    (hmax : e.maxNeighbors = s.gConfig.cMaxNeighbors) (hok : HasRoom s hw0 c p) :
    ∃ a, (learn b now frame c p s hw0).1.hRports =
        kept s hw0 c p ++ [p.heardAt now frame a] ∧
      (p.heardAt now frame a).msap (learn b now frame c p s hw0).2.gChassis = some (.of c p) := by
  obtain ⟨a, hports, hstep⟩ := @learn_step e b now frame c p s hw0 hheard hmax hok
    (rowsOf (s.others i))
  rw [table_get hget, ← hrow] at hl
  obtain ⟨oc, hd, hinfo⟩ := deref_learnt hl hstep
  refine ⟨a, hports, ?_⟩
  have hkey := key_of_info hinfo
  have hc : (p.heardAt now frame a).chassis (learn b now frame c p s hw0).2.gChassis = some oc := hd
  simp only [Chassis.key, Prod.mk.injEq] at hkey
  unfold Port.msap
  rw [hc, Option.map_some, Msap.of, hkey.2.1, hkey.2.2]
  rfl

end Learn

/-- An update: the neighbor is there, heard just now, and no other one came
or went. -/
def Updated (hw hw' : Hardware) (h : Heap Chassis) (frame : Bytes) (m : Msap) (now : Int) : Prop :=
  (∃ q ∈ hw'.hRports, q.IsNeighbor h frame m ∧ q.pLastupdate = now) ∧
    ∀ mode, hw'.count mode = hw.count mode

theorem refresh_updated (hw : Hardware) (h : Heap Chassis) {m : Msap} (now : Int) (cur : NbrOpcode)
    (hdup : hw.hRports.any (isDuplicate frame) = true)
    (hm : ∀ q ∈ hw.hRports, isDuplicate frame q = true → q.IsNeighbor h frame m) :
    Updated hw (refresh b now cur frame hw) h frame m now := by
  refine ⟨?_, fun mode => ?_⟩
  · obtain ⟨q, hq, hqdup, hmem⟩ :=
      mem_modifyFirst hdup
    exact ⟨_, hmem, hm q hq hqdup, rfl⟩
  · have hmap := map_refresh b now cur frame hw (k := Port.pProtocol) fun _ => rfl
    have hcount := congrArg (List.countP fun proto => proto = some mode) hmap
    rwa [List.countP_map, List.countP_map] at hcount

/-- A neighbor that is known takes the place it had. -/
theorem count_known {h : Heap Chassis} {hw' : Hardware} {now : Int}
    {a : Addr} (hknown : hw.hRports.find? (sameMsap h c p) ≠ none)
    (hports : hw'.hRports = hw.hRports.eraseP (sameMsap h c p) ++ [p.heardAt now frame a])
    (mode : Mode) : hw'.count mode = hw.count mode := by
  obtain ⟨q, hq⟩ := Option.ne_none_iff_exists'.1 hknown
  have hproto : q.pProtocol = p.pProtocol := by
    obtain ⟨oc, -, hof⟩ := Option.map_eq_some_iff.1 (sameMsap_iff.1 (List.find?_some hq))
    exact congrArg Msap.protocol hof
  unfold Hardware.count
  rw [hports, (perm_cons_eraseP hq).countP_eq, List.countP_append, List.countP_singleton,
    List.countP_cons, hproto]
  rfl

/-- With a limit of `m`, in every run: no interface has more than `m`
neighbors of a protocol. A frame from a neighbor in the table is taken as an
update. A frame from a new one is refused if and only if the table has `m`
neighbors of its protocol, and then neighbors and chassis are as before. -/
theorem neighbors_limit (b : Build) (cfg : Config) (protocols : List Protocol) (s : Daemon)
    (hs : (daemon b cfg protocols).Reachable s) (m : Nat) (hm : cfg.cMaxNeighbors = m)
    (hpos : 0 < m) :
    (∀ hw ∈ s.gHardware, ∀ mode, hw.count mode ≤ m) ∧
      ∀ hw ∈ s.gHardware, ∀ now stack frame mode c p, Announces b s stack frame mode c p →
        ∃ r, lldpdDecode b now stack frame s hw = .ok r ∧
          (hw.Knows s.gChassis (decapsulate frame) (.of c p) →
            Updated hw r.1 r.2.gChassis (decapsulate frame) (.of c p) now) ∧
          (¬ hw.Knows s.gChassis (decapsulate frame) (.of c p) →
            (¬ r.1.Knows r.2.gChassis (decapsulate frame) (.of c p) ↔
              hw.count mode = m) ∧
            (hw.count mode = m → r.1.hRports = hw.hRports ∧ r.2.gChassis = s.gChassis)) := by
  obtain ⟨hsteady, hl, hi⟩ := identity_table hs
  have hmax : (announcements b cfg protocols).maxNeighbors = m := hm
  have hcount : ∀ hw ∈ s.gHardware, ∀ mode, hw.count mode ≤ m := by
    intro hw hmem mode
    have hle := within_table hs (by rw [hmax]; exact_mod_cast hpos) hw.row (mem_table hmem) (some mode)
    rw [hmax, Hardware.row, Multiset.coe_countP, List.countP_map] at hle
    exact_mod_cast hle
  refine ⟨hcount, fun hw hmem now stack frame mode c p ha => ?_⟩
  have hheard := ha.heard hsteady
  by_cases hdup : hw.repeats frame = true
  · have his : ∀ q ∈ hw.hRports, isDuplicate (decapsulate frame) q = true →
        q.IsNeighbor s.gChassis (decapsulate frame) (.of c p) := fun q hq hqdup =>
      isNeighbor_of_duplicate hi hmem hq hqdup hheard
    refine ⟨_, lldpdDecode_duplicate ha.long hdup,
      fun _ => refresh_updated (hw.reset b) _ now _ hdup his,
      absurd ?_⟩
    obtain ⟨q, hq, hqdup⟩ := List.any_eq_true.1 hdup
    exact ⟨q, hq, his q hq hqdup⟩
  · obtain ⟨cnt, hdec⟩ := ha.lldpdDecode hdup now
    obtain ⟨i, hget⟩ := List.mem_iff_getElem?.1 hmem
    have hfull : Full s hw p ↔ hw.count mode = m := by
      have hle := hcount hw hmem mode
      have hcnt : (hw.hRports.countP fun q => q.pProtocol = p.pProtocol) =
          hw.count mode := by
        rw [ha.protocol.2]
        rfl
      unfold Full
      rw [hsteady.config]
      omega
    refine ⟨_, hdec, fun hknown => ?_, fun hnew => ?_⟩
    · have hfind := (knows_iff s.gChassis hdup).1 hknown
      obtain ⟨a, hports, hmsap⟩ := @learn_knows b s now _ _ _ hw hl i hget
        ((hw.reset b).unrecognized cnt) rfl _ hheard
        (by rw [hsteady.config]; rfl) (fun hnone => absurd hnone hfind)
      refine ⟨⟨_, ?_, .inl hmsap, rfl⟩, count_known hfind hports⟩
      rw [hports]
      exact List.mem_append_right _ (List.mem_singleton_self _)
    · have hfind := not_not.1 fun h => hnew ((knows_iff s.gChassis hdup).2 h)
      by_cases hm : hw.count mode = m
      · rw [@learn_refused b now (decapsulate frame) c p s
          ((hw.reset b).unrecognized cnt) hfind (hfull.2 hm)]
        exact ⟨⟨fun _ => hm, fun _ => hnew⟩, fun _ => ⟨rfl, rfl⟩⟩
      · obtain ⟨a, hports, hmsap⟩ := @learn_knows b s now _ _ _ hw hl i hget
          ((hw.reset b).unrecognized cnt) rfl _ hheard
          (by rw [hsteady.config]; rfl) (fun _ h => hm (hfull.1 h))
        refine ⟨⟨fun hno => absurd ⟨_, ?_, .inl hmsap⟩ hno, fun h => absurd h hm⟩, fun h => absurd h hm⟩
        rw [hports]
        exact List.mem_append_right _ (List.mem_singleton_self _)

def oneNeighbor : List Event :=
  [.allocHardware, .addHardware 0, .greeting 0]

/-- The interface is full and the frame from `[2]` announces a new neighbor. -/
def secondRefused (s : Daemon) : Bool :=
  match s.gHardware, decodeMode .full s.gConfig Lldp.zeroStack .lldp (announcement [1] [2] [65]) with
  | [hw], .ok (.neighbor c p, _) =>
    hw.count .lldp = 1 && !hw.hRports.any (isDuplicate (announcement [1] [2] [65])) &&
      oport s hw c p = none
  | _, _ => false

theorem neighbors_limit_one : ∃ s hw,
    (Daemon.started { cMaxNeighbors := 1 } lldpOnly).run .full oneNeighbor = some s ∧
      s.gHardware = [hw] ∧ hw.hRports.length = 1 ∧
      ∃ r, lldpdDecode .full 0 Lldp.zeroStack (announcement [1] [2] [65]) s hw = .ok r ∧
        r.1.hRports = hw.hRports ∧ r.2.gChassis = s.gChassis := by
  have hrun : ((Daemon.started { cMaxNeighbors := 1 } lldpOnly).run .full oneNeighbor).any
      (fun s => secondRefused s && s.gHardware.map (·.hRports.length) = [1]) = true := by
    decide
  obtain ⟨s, hs, hcheck⟩ := (Option.any_eq_true _ _).1 hrun
  rw [Bool.and_eq_true] at hcheck
  obtain ⟨hcheck, hlen⟩ := hcheck
  unfold secondRefused at hcheck
  split at hcheck
  · rename_i hw c p n hhw hdec
    simp only [Bool.and_eq_true, decide_eq_true_eq, Bool.not_eq_true'] at hcheck hlen
    obtain ⟨⟨hcount, hdup⟩, hfind⟩ := hcheck
    have hmem : hw ∈ s.gHardware := by rw [hhw]; exact List.mem_singleton_self hw
    have hreach := started_run_reachable hs
    have hlim := (neighbors_limit .full { cMaxNeighbors := 1 } lldpOnly s hreach 1 rfl
      Nat.one_pos).2 hw hmem 0 Lldp.zeroStack (announcement [1] [2] [65]) .lldp c p
    have hsteady := (steady_inductive _ _ _).reachable s hreach
    obtain ⟨r, hr, -, hnew⟩ := hlim ⟨by decide, by rw [hsteady.protocols]; decide, n, hdec⟩
    refine ⟨s, hw, hs, hhw, ?_, r, hr, (hnew fun hk => ?_).2 hcount⟩
    · rw [hhw] at hlen
      exact List.singleton_inj.1 hlen
    · exact (knows_iff s.gChassis (ne_true_of_eq_false hdup)).1 hk hfind
  · cases hcheck

end Daemon

end Lldpd
