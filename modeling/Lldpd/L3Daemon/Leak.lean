import Lldpd.L3Daemon.Limit
import Lldpd.L3Daemon.Recv

/-!
# What leaks when a frame is received

`lldpd_recv` allocates a buffer, the decoder a chassis and a port with their
strings, and what `lldpd_decode` keeps of them goes to the table. The code loses
blocks in three places: the buffer is not freed when the link is down, a TLV that
comes a second time overwrites the pointers of the first one, and nobody frees
the event that wakes the OVSDB thread up.

`recv_no_leak_iff`: these are all. Everything else that is allocated is freed or
in the table, which the memory follows (`Fits`).
-/
namespace Lldpd
open Core

/-- The memory is laid out as the state says, and all its blocks have been
allocated. -/
structure Fits (s : Daemon) (hardware : Hardware) (m : Memory) : Prop where
  rports : m.hRports.map (fun r => r.port.shape) = hardware.hRports.map Port.shape
  chassis : m.gChassis.view Obj.shape = s.gChassis.view Chassis.shape
  old : ∀ x ∈ m.arena.freed ++ m.reach, x < m.arena.next

/-- What was allocated between `m` and `m'` is freed, or `cfg` leads to it. -/
def NoLeak (m m' : Memory) : Prop :=
  ∀ x, m.arena.next ≤ x → x < m'.arena.next → x ∈ m'.arena.freed ∨ x ∈ m'.reach

instance (m m' : Memory) : Decidable (NoLeak m m') :=
  decidable_of_iff (∀ x < m'.arena.next, m.arena.next ≤ x → x ∈ m'.arena.freed ∨ x ∈ m'.reach)
    ⟨fun h x hn hlt => h x hlt hn, fun h x hlt hn => h x hn hlt⟩

/-! ## The balance of the memory -/

/-- The new blocks in the memory, those in `rest` and those in `lost` are all
that has been allocated since `n` and not freed. -/
def Balanced (n : Nat) (m : Memory) (rest lost : List Nat) : Prop :=
  ∃ own, Accounts n m.arena (own ++ rest) lost ∧ ∀ x, n ≤ x → (x ∈ m.reach ↔ x ∈ own)

section
variable {n : Nat} {m : Memory} {rest lost l : List Nat} {x : Nat}

theorem mem_reach : x ∈ m.reach ↔ (∃ o ∈ m.hRports, x ∈ o.blocks) ∨
    (∃ e ∈ m.gChassis, x ∈ e.2.blocks) ∨ m.hTimer = some x := by
  simp [Memory.reach, List.mem_append, List.mem_flatMap]

/-- Nothing new is in the memory. -/
theorem balanced_of_old (hold : ∀ x ∈ m.reach, x < n) (h : Accounts n m.arena rest lost) :
    Balanced n m rest lost := by
  refine ⟨[], h, ?_⟩
  intro x hn
  constructor
  · intro hx
    have := hold x hx
    omega
  · intro hx
    cases hx

theorem Balanced.free (h : Balanced n m rest lost) {rest' : List Nat}
    (hcount : ∀ x, rest.count x = l.count x + rest'.count x) :
    Balanced n { m with arena := m.arena.free l } rest' lost := by
  obtain ⟨own, hacc, hreach⟩ := h
  refine ⟨own, hacc.free ?_, hreach⟩
  intro x
  rw [List.count_append, List.count_append, hcount]
  omega

theorem Balanced.schedulePdu (h : Balanced n m rest lost) : Balanced n m.schedulePdu rest lost := by
  unfold Memory.schedulePdu
  split
  · exact h
  · rename_i htimer
    obtain ⟨own, hacc, hreach⟩ := h
    refine ⟨m.arena.malloc.1 :: own, hacc.malloc, ?_⟩
    intro x hn
    have hx := hreach x hn
    simp only [mem_reach, List.mem_cons] at hx ⊢
    have htimer : m.hTimer = none := by simpa using htimer
    simp only [htimer, reduceCtorEq, or_false, Option.some.injEq] at hx ⊢
    rw [← hx, ← or_assoc, or_comm, @eq_comm _ m.arena.malloc.1]

theorem Balanced.scheduleNbr (b : Build) (h : Balanced n m rest lost) :
    Balanced n (m.scheduleNbr b) rest ((if b.ovsdb then [m.arena.next] else []) ++ lost) := by
  unfold Memory.scheduleNbr
  split
  · obtain ⟨own, hacc, hreach⟩ := h
    refine ⟨own, hacc.malloc.lose ?_, hreach⟩
    intro x
    rw [← List.singleton_append, List.count_append]
    rfl
  · exact h

theorem Balanced.addPort {port : Obj PortPtr} (h : Balanced n m (port.blocks ++ rest) lost) :
    Balanced n (m.addPort port) rest lost := by
  obtain ⟨own, hacc, hreach⟩ := h
  refine ⟨own ++ Rport.blocks ⟨port, m.arena.malloc.1⟩, hacc.malloc.congr ?_, ?_⟩
  · simp only [Rport.blocks, List.count_append, List.count_cons]
    omega
  · intro x hn
    rw [List.mem_append, ← hreach x hn]
    simp [mem_reach, Memory.addPort, or_and_right, exists_or, or_assoc, or_comm]

theorem removePort_old {i : Option Nat} (hold : ∀ x ∈ m.reach, x < n)
    (h : Accounts n m.arena rest lost) : Accounts n (m.removePort i).arena rest lost ∧
      ∀ x ∈ (m.removePort i).reach, x < n := by
  cases i with
  | none => exact ⟨h.freeOld fun x hx => (by cases hx), hold⟩
  | some i =>
    constructor
    · refine h.freeOld fun x hx => hold x (mem_reach.2 (.inl ?_))
      cases ho : m.hRports[i]? with
      | none => simp [ho] at hx
      | some o =>
        simp only [Option.bind_some, ho] at hx
        exact ⟨o, List.mem_of_getElem? ho, hx⟩
    · intro x hx
      apply hold x
      rw [mem_reach] at hx ⊢
      refine hx.imp_left fun ⟨o, ho, hx⟩ => ⟨o, ?_, hx⟩
      exact List.eraseIdx_subset ho

/-- The new chassis takes its place. -/
theorem balanced_placeChassis {chassis : Obj ChassisPtr} {ochassis : Option Addr} (next : Addr)
    (hold : ∀ x ∈ m.reach, x < n) (h : Accounts n m.arena (chassis.blocks ++ rest) lost)
    (hmem : ∀ a, ochassis = some a → a ∈ m.gChassis.addrs) :
    Balanced n (m.placeChassis chassis ochassis next) rest lost := by
  cases ochassis with
  | none =>
    refine ⟨chassis.blocks, h, ?_⟩
    intro x hn
    have hx : x ∉ m.reach := fun hx => by have := hold x hx; omega
    simp only [mem_reach, not_or] at hx
    simp [mem_reach, Memory.placeChassis, List.mem_append, or_and_right, exists_or, hx, false_or,
      or_false]
  | some a =>
    have hblocks : ∀ e ∈ m.gChassis, ∀ x ∈ e.2.blocks, x < n := by
      intro e he x hx
      exact hold x (mem_reach.2 (.inr (.inl ⟨e, he, hx⟩)))
    refine ⟨chassis.contents, ?_, ?_⟩
    · show Accounts n ((m.arena.free ((m.gChassis.deref a).elim [] Obj.contents)).free
        [chassis.self]) (chassis.contents ++ rest) lost
      refine (h.freeOld ?_).free ?_
      · intro x hx
        cases ho : m.gChassis.deref a with
        | none =>
          rw [ho] at hx
          cases hx
        | some o =>
          rw [ho] at hx
          exact hblocks (a, o) (Heap.mem_of_deref ho) x (List.mem_cons_of_mem _ hx)
      · simp only [Obj.blocks, List.cons_append, List.count_cons, List.count_nil]
        omega
    · intro x hn
      have hx : x ∉ m.reach := fun hx => by have := hold x hx; omega
      simp only [mem_reach, not_or] at hx
      simp only [mem_reach, Memory.placeChassis, Option.elim_some, hx, false_or, or_false]
      constructor
      · intro hx
        obtain ⟨e, he, hxe⟩ := hx
        obtain ⟨o, ho, heq⟩ := Heap.mem_write.1 he
        rw [heq] at hxe
        split at hxe
        · rcases List.mem_cons.1 hxe with hself | hcontents
          · have := hblocks _ ho x (hself ▸ List.mem_cons_self)
            omega
          · exact hcontents
        · have := hblocks _ ho x hxe
          omega
      · intro hcontents
        obtain ⟨o, ho⟩ := Heap.mem_addrs.1 (hmem a rfl)
        refine ⟨(a, { chassis with self := o.self }), Heap.mem_write.2 ⟨o, ho, ?_⟩, ?_⟩
        · exact (if_pos rfl).symm
        · exact List.mem_cons_of_mem _ hcontents

end

/-- The events do not change the table. -/
theorem scheduleNbr_table (b : Build) (m : Memory) :
    (m.scheduleNbr b).hRports = m.hRports ∧ (m.scheduleNbr b).gChassis = m.gChassis := by
  unfold Memory.scheduleNbr
  split <;> exact ⟨rfl, rfl⟩

theorem schedulePdu_table (m : Memory) :
    m.schedulePdu.hRports = m.hRports ∧ m.schedulePdu.gChassis = m.gChassis := by
  unfold Memory.schedulePdu
  split <;> exact ⟨rfl, rfl⟩

/-! ## A neighbor that is learnt -/

section Learn
variable {b : Build} {now : Int} {frame : Bytes} {s : Daemon} {hw : Hardware} {c : Chassis}
  {q : Port} {p : Draft} {m : Memory} {n : Nat} {rest lost : List Nat}

theorem ochassis_mem {a : Addr} (h : ochassis s hw c q = some a) : a ∈ s.gChassis.addrs := by
  unfold ochassis at h
  cases hfind : oport s hw c q with
  | none =>
    rw [hfind] at h
    obtain ⟨oc, hmem, -⟩ := searchChassis_some h
    exact Heap.mem_addrs.2 ⟨oc, hmem⟩
  | some oport =>
    rw [hfind] at h
    have h : oport.pChassis = some a := h
    obtain ⟨oc, hoc, -⟩ := Option.map_eq_some_iff.1 (sameMsap_iff.1 (List.find?_some hfind))
    unfold Port.chassis at hoc
    rw [h] at hoc
    exact Heap.isSome_deref.1 (Option.isSome_of_eq_some hoc)

theorem memLearn_refused (hfind : oport s hw c q = none)
    (hfull : Full s hw q) : memLearn b c q s hw p m =
      { m with arena := p.arena.free (p.port.blocks ++ p.chassis.blocks) } := by
  exact if_pos (refuses_iff.2 ⟨hfind, hfull⟩)

def memPlace (s : Daemon) (hw : Hardware) (c : Chassis) (q : Port) (p : Draft) (m : Memory) :
    Memory :=
  ((({ m with arena := p.arena } : Memory).removePort
    (hw.hRports.findIdx? (sameMsap s.gChassis c q))).placeChassis p.chassis
      (ochassis s hw c q) s.nextAddr).addPort p.port

theorem memLearn_taken (hok : HasRoom s hw c q) :
    memLearn b c q s hw p m = (memPlace s hw c q p m).scheduleNbr b ∨
      memLearn b c q s hw p m = (memPlace s hw c q p m).schedulePdu.scheduleNbr b := by
  have hcond := refuses_iff.not.2 fun h => hok h.1 h.2
  have hlearn : memLearn b c q s hw p m = _ := if_neg hcond
  rw [hlearn, searchMsap_fst]
  split
  · exact .inr rfl
  · exact .inl rfl

theorem balanced_place (hold : ∀ x ∈ m.reach, x < n) (hheld : p.held = [])
    (hacc : Accounts n p.arena (p.own ++ rest) lost) (haddrs : m.gChassis.addrs = s.gChassis.addrs) :
    Balanced n (memPlace s hw c q p m) rest lost := by
  have hsplit : Accounts n p.arena (p.chassis.blocks ++ (p.port.blocks ++ rest)) lost := by
    have hown : p.own ++ rest = p.chassis.blocks ++ (p.port.blocks ++ rest) := by
      rw [Draft.own, hheld, List.nil_append, List.append_assoc]
    rw [← hown]
    exact hacc
  obtain ⟨hacc1, hold1⟩ := removePort_old (m := { m with arena := p.arena })
    hold hsplit
  refine (balanced_placeChassis s.nextAddr hold1 hacc1 ?_).addPort
  intro a ha
  have hmem := ochassis_mem ha
  rw [← haddrs] at hmem
  exact hmem

/-- **A neighbor behind the decoder**: a block is lost when the OVSDB thread is
told about it. -/
theorem balanced_learn (hold : ∀ x ∈ m.reach, x < n) (hheld : p.held = [])
    (hacc : Accounts n p.arena (p.own ++ rest) lost) (haddrs : m.gChassis.addrs = s.gChassis.addrs) :
    ∃ lost', Balanced n (memLearn b c q s hw p m) rest lost' ∧
      (lost' = [] ↔ lost = [] ∧ ¬ (b.ovsdb = true ∧ HasRoom s hw c q)) := by
  by_cases hok : HasRoom s hw c q
  · have hplace : Balanced n (memPlace s hw c q p m) rest lost :=
      balanced_place hold hheld hacc haddrs
    have hlost : ∀ k, (if b.ovsdb then [k] else []) ++ lost = [] ↔
        lost = [] ∧ ¬ (b.ovsdb = true ∧ HasRoom s hw c q) := by
      cases b.ovsdb <;> simp [hok]
    rcases memLearn_taken (p := p) (m := m) hok with heq | heq
    · rw [heq]
      exact ⟨_, hplace.scheduleNbr b, hlost _⟩
    · rw [heq]
      exact ⟨_, hplace.schedulePdu.scheduleNbr b, hlost _⟩
  · have hfind : oport s hw c q = none ∧ Full s hw q := by
      unfold HasRoom at hok
      rwa [Classical.not_imp, Classical.not_not] at hok
    rw [memLearn_refused hfind.1 hfind.2]
    refine ⟨lost, ⟨[], ?_, ?_⟩, by simp [hok]⟩
    · refine hacc.free fun x => ?_
      rw [Draft.own, hheld]
      simp only [List.count_append]
      omega
    · intro x hn
      constructor
      · intro hx
        have := hold x hx
        omega
      · intro hx
        cases hx

/-- What `learn` does to the table, as far as the memory can tell. -/
theorem learn_shapes (hok : HasRoom s hw c q) :
    (learn b now frame c q s hw).1.hRports.map Port.shape =
        (kept s hw c q).map Port.shape ++ [q.shape] ∧
      (learn b now frame c q s hw).2.gChassis.view Chassis.shape =
        (ochassis s hw c q).elim (s.gChassis.view Chassis.shape ++ [(s.nextAddr, c.shape)])
          fun a => (s.gChassis.view Chassis.shape).write a fun _ => c.shape := by
  refine ⟨?_, ?_⟩
  · rw [learn_hRports hok, List.map_append]
    rfl
  · exact view_learn (fun _ _ _ => rfl) hok

theorem place_shapes (hrports : m.hRports.map (fun r => r.port.shape) = hw.hRports.map Port.shape)
    (hchassis : m.gChassis.view Obj.shape = s.gChassis.view Chassis.shape)
    (hshape : p.shape = shapeOf c q) :
    (memPlace s hw c q p m).hRports.map (fun r => r.port.shape) =
        (kept s hw c q).map Port.shape ++ [q.shape] ∧
      (memPlace s hw c q p m).gChassis.view Obj.shape =
        (ochassis s hw c q).elim (s.gChassis.view Chassis.shape ++ [(s.nextAddr, c.shape)])
          fun a => (s.gChassis.view Chassis.shape).write a fun _ => c.shape := by
  have hc : p.chassis.shape = c.shape := congrArg DraftShape.chassis hshape
  have hq : p.port.shape = q.shape := congrArg DraftShape.port hshape
  unfold memPlace
  generalize hm : ({ m with arena := p.arena } : Memory).removePort
    (hw.hRports.findIdx? (sameMsap s.gChassis c q)) = m1
  have hrports1 : m1.hRports.map (fun r => r.port.shape) =
      (kept s hw c q).map Port.shape := by
    rw [← hm, kept, List.eraseP_eq_eraseIdx]
    cases hw.hRports.findIdx? (sameMsap s.gChassis c q) with
    | none => exact hrports
    | some i =>
      show (m.hRports.eraseIdx i).map _ = (hw.hRports.eraseIdx i).map _
      rw [← List.eraseIdx_map, ← List.eraseIdx_map, hrports]
  have hchassis1 : m1.gChassis.view Obj.shape = s.gChassis.view Chassis.shape := by
    rw [← hm]
    exact hchassis
  cases ochassis s hw c q with
  | none =>
    constructor
    · show (m1.hRports ++ [_]).map _ = _
      rw [List.map_append, hrports1, List.map_singleton, hq]
    · show Heap.view (m1.gChassis ++ [_]) Obj.shape = _
      rw [Heap.view_append, hchassis1, ← hc]
      rfl
  | some a =>
    constructor
    · show (m1.hRports ++ [_]).map _ = _
      rw [List.map_append, hrports1, List.map_singleton, hq]
    · have hwrite : Heap.view (m1.gChassis.write a fun o => { p.chassis with self := o.self })
          Obj.shape = (m1.gChassis.view Obj.shape).write a fun _ => c.shape :=
        Heap.view_write fun _ => hc
      rw [hchassis1] at hwrite
      exact hwrite

end Learn

/-! ## The whole frame -/

/-- LLDP, CDP and FDP: the modes whose decoder is followed. -/
def Mode.Followed (mode : Mode) : Prop := mode ≠ .sonmp ∧ mode ≠ .edp

instance (mode : Mode) : Decidable mode.Followed := inferInstanceAs (Decidable (_ ∧ _))

/-- The decoder writes a pointer that an earlier TLV of the frame has filled. -/
def Refills (b : Build) (stack : Buffer 32) (frame : Bytes) (s : Daemon) (hw : Hardware) : Prop :=
  18 ≤ frame.length ∧ ¬ hw.repeats frame = true ∧
    ∃ mode, lldpdGuessType s.gProtocols (decapsulate frame) = some mode ∧
      ¬ (decodeOps b stack mode (decapsulate frame)).Pairwise Op.Spares

/-- The OVSDB thread is told about the frame: it is the last frame of a neighbor
again, or it is decoded and its neighbor learnt. -/
def Schedules (b : Build) (stack : Buffer 32) (frame : Bytes) (s : Daemon) (hw : Hardware) : Prop :=
  b.ovsdb = true ∧ 18 ≤ frame.length ∧
    (hw.repeats frame = true ∨
      ∃ mode c q, Takes b s hw stack frame mode c q)

/-- The three ways to lose a block. -/
def Leaks (b : Build) (stack : Buffer 32) (frame : Option Bytes) (s : Daemon) (hw : Hardware) :
    Prop :=
  receipt b s.gConfig hw frame = .down ∨
    ∃ f, receipt b s.gConfig hw frame = .decoded f ∧
      (Refills b stack f s hw ∨ Schedules b stack f s hw)

section Frame
variable {b : Build} {now : Int} {stack : Buffer 32} {frame : Bytes} {s s' : Daemon}
  {hw hw' : Hardware} {mode : Mode} {cfg : Config} {c : Chassis} {q : Port} {m m' : Memory}
  {n : Nat} {rest : List Nat}

/-- The draft of a decoder that accepts the frame is its chassis and its port. -/
theorem shape_decodeMode (hmode : mode.Followed) {k : Nat} (arena : Arena)
    (h : decodeMode b cfg stack mode frame = .ok (.neighbor c q, k)) :
    ((Draft.start arena).run (decodeOps b stack mode frame)).shape = shapeOf c q := by
  rw [Draft.shape_run, Draft.shape_start]
  cases mode with
  | lldp =>
    simp only [decodeMode] at h
    split at h <;> cases h
    exact (Lldp.shape_lldpDecode ‹_›).symm
  | cdpv1 | cdpv2 | fdp =>
    simp only [decodeMode] at h
    split at h <;> cases h
    exact (Cdp.shape_cdpDecode ‹_›).symm
  | sonmp => exact absurd rfl hmode.1
  | edp => exact absurd rfl hmode.2

/-- **Behind the shortcut**: one exit for each thing the frame can be. -/
theorem balanced_decodeFrame (hold : ∀ x ∈ m.reach, x < n) (hacc : Accounts n m.arena rest [])
    (haddrs : m.gChassis.addrs = s.gChassis.addrs)
    (hguess : lldpdGuessType s.gProtocols frame = some mode) (hmode : mode.Followed)
    {outcome : Outcome} {k : Nat}
    (hdec : decodeMode b s.gConfig stack mode frame = .ok (outcome, k)) :
    ∃ m' lost, memDecodeFrame b stack frame s hw m = .ok m' ∧ Balanced n m' rest lost ∧
      (lost = [] ↔ (decodeOps b stack mode frame).Pairwise Op.Spares ∧
        ¬ (b.ovsdb = true ∧ ∃ c q, outcome = .neighbor c q ∧
          HasRoom s hw c q)) := by
  have hrun := Draft.accounts_run (Draft.accounts_start hacc) (decodeOps b stack mode frame)
  rw [List.append_nil] at hrun
  have hlost := @overwritten_start_iff (decodeOps b stack mode frame) m.arena
  simp only [memDecodeFrame, hguess, Option.elim_some, hdec]
  cases outcome with
  | neighbor c q =>
    have hshape := shape_decodeMode hmode m.arena hdec
    have hheld : ((Draft.start m.arena).run (decodeOps b stack mode frame)).held = [] :=
      List.eq_nil_of_length_eq_zero (congrArg DraftShape.held hshape)
    obtain ⟨lost, hbal, hiff⟩ := @balanced_learn b s hw c
      q _ m n rest _ hold hheld hrun haddrs
    refine ⟨_, lost, rfl, hbal, ?_⟩
    rw [hiff, hlost]
    simp
  | malformed | vlans c q =>
    refine ⟨_, _, rfl, balanced_of_old hold (Draft.accounts_malformed hrun), ?_⟩
    rw [hlost]
    simp

/-- Which frames are learnt, from what the decoder says. -/
theorem takes_iff (hlong : 18 ≤ frame.length) (hdup : ¬ hw.repeats frame = true)
    (hguess : lldpdGuessType s.gProtocols (decapsulate frame) = some mode) {outcome : Outcome}
    {k : Nat} (hdec : decodeMode b s.gConfig stack mode (decapsulate frame) = .ok (outcome, k)) :
    (∃ mode c q, Takes b s hw stack frame mode c q) ↔
      ∃ c q, outcome = .neighbor c q ∧ HasRoom s hw c q := by
  constructor
  · intro ⟨mode', c, q, ht⟩
    obtain rfl := Option.some.inj (hguess.symm.trans ht.announces.guess)
    obtain ⟨k', hk⟩ := ht.announces.decode
    cases hdec.symm.trans hk
    exact ⟨c, q, rfl, ht.room⟩
  · intro ⟨c, q, houtcome, hroom⟩
    rw [houtcome] at hdec
    exact ⟨mode, c, q, ⟨hlong, hguess, k, hdec⟩, hdup, hroom⟩

theorem balanced_decode (hold : ∀ x ∈ m.reach, x < n) (hacc : Accounts n m.arena rest [])
    (haddrs : m.gChassis.addrs = s.gChassis.addrs)
    (hmode : ∀ mode, lldpdGuessType s.gProtocols (decapsulate frame) = some mode → mode.Followed)
    {r : Hardware × Daemon} (hval : lldpdDecode b now stack frame s hw = .ok r) :
    ∃ m' lost, memDecode b stack frame s hw m = .ok m' ∧ Balanced n m' rest lost ∧
      (lost = [] ↔ ¬ (Refills b stack frame s hw ∨ Schedules b stack frame s hw)) := by
  unfold lldpdDecode decodeFrame at hval
  unfold memDecode
  by_cases hshort : frame.length < 18
  · rw [if_pos hshort]
    refine ⟨m, [], rfl, balanced_of_old hold hacc, ?_⟩
    have hlong : ¬ 18 ≤ frame.length := Nat.not_le.2 hshort
    simp [Refills, Schedules, hlong]
  have hlong := Nat.not_lt.1 hshort
  rw [if_neg hshort] at hval ⊢
  by_cases hdup : hw.repeats frame = true
  · rw [if_pos hdup]
    refine ⟨_, _, rfl, (balanced_of_old hold hacc).scheduleNbr b, ?_⟩
    simp only [Refills, Schedules, hdup, hlong, not_true_eq_false, false_and, and_false, true_or,
      and_true, false_or]
    cases b.ovsdb <;> simp
  rw [if_neg hdup]
  have hval := (if_neg hdup).symm.trans hval
  cases hguess : lldpdGuessType s.gProtocols (decapsulate frame) with
  | none =>
    refine ⟨m, [], ?_, balanced_of_old hold hacc, ?_⟩
    · rw [memDecodeFrame, hguess]
      rfl
    · have htakes : ∀ mode c q, ¬ Takes b s hw stack frame mode c q := by
        intro mode c q ht
        cases hguess.symm.trans ht.announces.guess
      simp [Refills, Schedules, hguess, htakes, hdup]
  | some mode =>
    simp only [hguess] at hval
    cases hdec : decodeMode b s.gConfig stack mode (decapsulate frame) with
    | error f =>
      rw [hdec] at hval
      cases hval
    | ok o =>
      obtain ⟨m', lost, hmem, hbal, hiff⟩ := @balanced_decodeFrame b stack _ s hw mode m n rest hold
        hacc haddrs hguess (hmode mode hguess) o.1 o.2 hdec
      refine ⟨m', lost, hmem, hbal, ?_⟩
      rw [hiff, ← takes_iff hlong hdup hguess hdec]
      simp [Refills, Schedules, hlong, hdup, hguess, Option.some.injEq, true_and, not_false_eq_true,
        false_or, exists_eq_left', not_or, Bool.false_eq_true]

theorem not_vlans (hmode : mode.Followed) {k : Nat} :
    decodeMode b cfg stack mode frame ≠ .ok (.vlans c q, k) := by
  intro h
  cases mode with
  | lldp | cdpv1 | cdpv2 | fdp =>
    simp only [decodeMode] at h
    split at h <;> cases h
  | sonmp => exact absurd rfl hmode.1
  | edp => exact absurd rfl hmode.2

theorem memDecodeFrame_announces (ha : Announces b s stack frame mode c q) :
    memDecodeFrame b stack (decapsulate frame) s hw m =
      .ok (memLearn b c q s hw
        ((Draft.start m.arena).run (decodeOps b stack mode (decapsulate frame))) m) := by
  obtain ⟨-, hguess, k, hdec⟩ := ha
  simp only [memDecodeFrame, hguess, Option.elim_some, hdec]
  rfl

/-- A frame that announces nobody leaves the table as it is. -/
theorem memDecodeFrame_ignored (hnone : ∀ mode c q, ¬ Announces b s stack frame mode c q)
    (hlong : 18 ≤ frame.length) (h : memDecodeFrame b stack (decapsulate frame) s hw m = .ok m') :
    m'.hRports = m.hRports ∧ m'.gChassis = m.gChassis := by
  unfold memDecodeFrame at h
  cases hguess : lldpdGuessType s.gProtocols (decapsulate frame) with
  | none =>
    rw [hguess] at h
    cases h
    exact ⟨rfl, rfl⟩
  | some mode =>
    rw [hguess] at h
    cases hdec : decodeMode b s.gConfig stack mode (decapsulate frame) with
    | error f =>
      simp only [Option.elim_some, hdec] at h
      cases h
    | ok o =>
      obtain ⟨outcome, k⟩ := o
      simp only [Option.elim_some, hdec] at h
      cases outcome with
      | neighbor c q => exact absurd ⟨hlong, hguess, k, hdec⟩ (hnone mode c q)
      | malformed | vlans c q =>
        cases h
        exact ⟨rfl, rfl⟩

theorem shapes_decode (hrports : m.hRports.map (fun r => r.port.shape) = hw.hRports.map Port.shape)
    (hchassis : m.gChassis.view Obj.shape = s.gChassis.view Chassis.shape)
    (hmode : ∀ mode, lldpdGuessType s.gProtocols (decapsulate frame) = some mode → mode.Followed)
    (hval : lldpdDecode b now stack frame s hw = .ok (hw', s'))
    (hmem : memDecode b stack frame s hw m = .ok m') :
    m'.hRports.map (fun r => r.port.shape) = hw'.hRports.map Port.shape ∧
      m'.gChassis.view Obj.shape = s'.gChassis.view Chassis.shape := by
  have hrec := received hval
  unfold memDecode at hmem
  cases hrec with
  | short hshort =>
    rw [if_pos hshort] at hmem
    cases hmem
    exact ⟨hrports, hchassis⟩
  | duplicate hlong hdup =>
    rw [if_neg (Nat.not_lt.2 hlong), if_pos hdup] at hmem
    cases hmem
    rw [(scheduleNbr_table b m).1, (scheduleNbr_table b m).2]
    refine ⟨?_, hchassis⟩
    rw [hrports]
    exact (map_refresh b now hw.hRportChangeOpcode (decapsulate frame) (hw.reset b)
      fun _ => rfl).symm
  | ignored hlong hdup hnone =>
    rw [if_neg (Nat.not_lt.2 hlong), if_neg hdup] at hmem
    obtain ⟨hr, hg⟩ := memDecodeFrame_ignored hnone hlong hmem
    rw [hr, hg]
    exact ⟨hrports, hchassis⟩
  | vlans hlong hdup htells =>
    obtain ⟨mode, k, hguess, hdec⟩ := htells
    exact absurd hdec (not_vlans (hmode mode hguess))
  | @refused cnt mode c q ha hdup hfind hfull =>
    rw [if_neg (Nat.not_lt.2 ha.long), if_neg hdup, memDecodeFrame_announces ha,
      memLearn_refused hfind hfull] at hmem
    cases hmem
    exact ⟨hrports, hchassis⟩
  | @learnt cnt mode c q ht =>
    rw [if_neg (Nat.not_lt.2 ht.announces.long), if_neg ht.anew,
      memDecodeFrame_announces ht.announces] at hmem
    obtain ⟨k, hdec⟩ := ht.announces.decode
    have hshape := shape_decodeMode (hmode mode ht.announces.guess) m.arena hdec
    have hlearn := @learn_shapes b now (decapsulate frame) s ((hw.reset b).unrecognized cnt)
      c q ht.room
    have hplace := @place_shapes s hw c q _ m hrports
      hchassis hshape
    rw [hlearn.1, hlearn.2]
    rcases memLearn_taken (m := m) ht.room with heq | heq
    · rw [heq] at hmem
      cases hmem
      rw [(scheduleNbr_table b _).1, (scheduleNbr_table b _).2]
      exact hplace
    · rw [heq] at hmem
      cases hmem
      rw [(scheduleNbr_table b _).1, (scheduleNbr_table b _).2, (schedulePdu_table _).1,
        (schedulePdu_table _).2]
      exact hplace

end Frame

theorem schedules_hRxCnt {b : Build} {stack : Buffer 32} {f : Bytes} {s : Daemon} {hw : Hardware}
    {cnt : UInt64} :
    Schedules b stack f s { hw with hRxCnt := cnt } ↔ Schedules b stack f s hw := by
  have htakes : ∀ mode c q, Takes b s { hw with hRxCnt := cnt } stack f mode c q ↔
      Takes b s hw stack f mode c q :=
    fun mode c q => ⟨fun h => ⟨h.announces, h.anew, h.room⟩, fun h => ⟨h.announces, h.anew, h.room⟩⟩
  simp [Schedules, htakes]

/-! ## The result -/

/-- When nothing is on its way any more: what leaked is what was lost. -/
theorem Balanced.settled {m m' : Memory} {lost : List Nat} (h : Balanced m.arena.next m' [] lost) :
    (NoLeak m m' ↔ lost = []) ∧ ∀ x ∈ m'.arena.freed ++ m'.reach, x < m'.arena.next := by
  obtain ⟨own, hacc, hreach⟩ := h
  rw [List.append_nil] at hacc
  refine ⟨hacc.leak_iff hreach, ?_⟩
  intro x hx
  by_cases hn : m.arena.next ≤ x
  · refine hacc.lt_next hn ?_
    rw [List.mem_append] at hx
    exact hx.imp_right (hreach x hn).1
  · have := hacc.start
    omega

theorem receipt_decoded {b : Build} {cfg : Config} {hw : Hardware} {frame : Option Bytes}
    {f : Bytes} (h : receipt b cfg hw frame = .decoded f) : frame = some f := by
  cases frame with
  | none => cases h
  | some f' =>
    simp only [receipt] at h
    repeat' split at h
    all_goals cases h
    rfl

/-- **What leaks when a frame is received.** Whatever the state, and however its
blocks lie in memory: if the frame is not one of SONMP or EDP and is decoded
without undefined behaviour, the blocks that were allocated are freed or in the
table, unless the frame comes when the link is down, makes a decoder write a
pointer twice, or makes the OVSDB thread run. -/
theorem recv_no_leak_iff {b : Build} {now : Int} {stack : Buffer 32} {frame : Option Bytes}
    {s s' : Daemon} {hw hw' : Hardware} {m : Memory} (hfits : Fits s hw m)
    (hmode : ∀ f, frame = some f → ∀ mode,
      lldpdGuessType s.gProtocols (decapsulate f) = some mode → mode.Followed)
    (hval : lldpdRecv b now stack frame s hw = .ok (hw', s')) :
    ∃ m', memRecv b stack frame s hw m = .ok m' ∧ Fits s' hw' m' ∧
      (NoLeak m m' ↔ ¬ Leaks b stack frame s hw) := by
  have hold : ∀ x ∈ m.reach, x < m.arena.next :=
    fun x hx => hfits.old x (List.mem_append_right _ hx)
  have hacc : Accounts m.arena.next m.arena.malloc.2 [m.arena.malloc.1] [] :=
    (accounts_start fun x hx => hfits.old x (List.mem_append_left _ hx)).malloc
  have hbal : Balanced m.arena.next { m with arena := m.arena.malloc.2 } [m.arena.malloc.1] [] :=
    balanced_of_old hold hacc
  have hfree : Balanced m.arena.next
      { m with arena := m.arena.malloc.2.free [m.arena.malloc.1] } [] [] :=
    hbal.free fun x => rfl
  unfold lldpdRecv at hval
  unfold memRecv Leaks
  simp only
  cases hreceipt : receipt b s.gConfig hw frame with
  | failed | paused | disabled | off =>
    rw [hreceipt] at hval
    cases hval
    obtain ⟨hiff, hnext⟩ := hfree.settled
    refine ⟨_, rfl, ⟨hfits.rports, hfits.chassis, hnext⟩, ?_⟩
    rw [hiff]
    simp
  | down =>
    -- the buffer is in no list any more
    rw [hreceipt] at hval
    cases hval
    obtain ⟨own, hacc, hreach⟩ := hbal
    have hlost : Balanced m.arena.next { m with arena := m.arena.malloc.2 } []
        [m.arena.malloc.1] := by
      refine ⟨own, hacc.lose (l := [m.arena.malloc.1]) ?_, hreach⟩
      intro x
      rw [List.append_nil, List.count_append, Nat.add_comm]
    obtain ⟨hiff, hnext⟩ := hlost.settled
    refine ⟨_, rfl, ⟨hfits.rports, hfits.chassis, hnext⟩, ?_⟩
    rw [hiff]
    simp
  | decoded f =>
    rw [hreceipt] at hval
    have hmode := hmode f (receipt_decoded hreceipt)
    have haddrs : m.gChassis.addrs = s.gChassis.addrs := by
      rw [← Heap.addrs_view, hfits.chassis, Heap.addrs_view]
    obtain ⟨m1, lost, hmem, hbal1, hiff⟩ := @balanced_decode b now stack f s
      { hw with hRxCnt := hw.hRxCnt + 1 } { m with arena := m.arena.malloc.2 } _ _ hold hacc haddrs
      hmode _ hval
    obtain ⟨hrports, hchassis⟩ := @shapes_decode b now stack f s s'
      { hw with hRxCnt := hw.hRxCnt + 1 } hw' { m with arena := m.arena.malloc.2 } m1 hfits.rports
      hfits.chassis hmode hval hmem
    have hdone : Balanced m.arena.next
        { m1 with arena := m1.arena.free [m.arena.malloc.1] } [] lost :=
      hbal1.free fun x => rfl
    obtain ⟨hleak, hnext⟩ := hdone.settled
    refine ⟨{ m1 with arena := m1.arena.free [m.arena.malloc.1] }, ?_,
      ⟨hrports, hchassis, hnext⟩, ?_⟩
    · have hmem : memDecode b stack f s hw { m with arena := m.arena.malloc.2 } = .ok m1 := hmem
      simp only [hmem]
      rfl
    · rw [hleak, hiff, schedules_hRxCnt]
      simp only [reduceCtorEq, Receipt.decoded.injEq, false_or, exists_eq_left']
      rfl

/-- An interface that has just been added, and a daemon with only this one. -/
def firstInterface : Hardware := { hLport := { pChassis := some 0 } }

def freshDaemon : Daemon :=
  { Daemon.started {} lldpOnly with
    gHardware := [firstInterface]
    gChassis := [(0, { cRefcount := 2 })] }

def oneChassis : Memory := { arena := ⟨1, []⟩, gChassis := [(0, { self := 0 })] }

theorem fits_freshDaemon : Fits freshDaemon firstInterface oneChassis := by
  refine ⟨rfl, ?_, by decide⟩
  have hlocal : ({ cRefcount := 2 } : Chassis).shape = {} := shape_newChassis
  show [(0, _)] = [(0, Chassis.shape { cRefcount := 2 })]
  rw [hlocal]
  rfl

/-- Chassis id, port id, TTL, and port descriptions of one letter. -/
def describedFrame (descrs : Bytes) : Bytes :=
  Lldp.lldpFrame [0, 0, 0, 0, 0, 1] ([2, 3, 7, 97, 98, 4, 3, 7, 112, 49, 6, 2, 0, 120] ++
    descrs.flatMap (fun x => [8, 1, x]) ++ [0, 0])

/-- A neighbor with one description is learnt and nothing leaks. -/
theorem recv_no_leak_described : ∃ hw' s' m',
    lldpdRecv .full 0 Lldp.zeroStack (some (describedFrame [97])) freshDaemon firstInterface =
      .ok (hw', s') ∧ hw'.hRports.length = 1 ∧
    memRecv .full Lldp.zeroStack (some (describedFrame [97])) freshDaemon firstInterface
      oneChassis = .ok m' ∧ NoLeak oneChassis m' := by
  obtain ⟨⟨hw', s'⟩, hval, hlen⟩ : ∃ r ∈ (lldpdRecv .full 0 Lldp.zeroStack
      (some (describedFrame [97])) freshDaemon firstInterface).toOption,
      r.1.hRports.length = 1 := by
    decide
  have hval := eq_ok_of_toOption hval
  have hguess : lldpdGuessType freshDaemon.gProtocols (decapsulate (describedFrame [97])) =
      some .lldp := by
    decide
  have hspares : (decodeOps .full Lldp.zeroStack .lldp
      (decapsulate (describedFrame [97]))).Pairwise Op.Spares := by
    decide +kernel
  obtain ⟨m', hmem, -, hiff⟩ := recv_no_leak_iff fits_freshDaemon
    (fun f hf mode hmode => by
      cases hf
      cases hguess.symm.trans hmode
      decide) hval
  refine ⟨hw', s', m', hval, hlen, hmem, hiff.2 ?_⟩
  intro hleaks
  rcases hleaks with hdown | ⟨f, hf, ⟨-, -, mode, hmode, hrefill⟩ | ⟨hb, -⟩⟩
  · cases hdown
  · cases receipt_decoded hf
    cases hguess.symm.trans hmode
    exact hrefill hspares
  · cases hb

/-- Two descriptions: the second one takes the place of the first, which is not
freed. -/
theorem second_description_leaks :
    (Daemon.started {} lldpOnly).run .full [.allocHardware, .addHardware 0] =
        some freshDaemon ∧
      freshDaemon.gHardware[0]? = some firstInterface ∧
      Fits freshDaemon firstInterface oneChassis ∧
      ∃ m', memRecv .full Lldp.zeroStack (some (describedFrame [97, 98])) freshDaemon firstInterface
        oneChassis = .ok m' ∧ ¬ NoLeak oneChassis m' := by
  refine ⟨rfl, rfl, fits_freshDaemon, ?_⟩
  obtain ⟨m', hm, hleak⟩ : ∃ m' ∈ (memRecv .full Lldp.zeroStack (some (describedFrame [97, 98]))
      freshDaemon firstInterface oneChassis).toOption, ¬ NoLeak oneChassis m' := by
    decide +kernel
  exact ⟨m', eq_ok_of_toOption hm, hleak⟩

end Lldpd
