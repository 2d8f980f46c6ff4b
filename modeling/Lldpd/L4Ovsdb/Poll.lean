import Lldpd.Core.Words

/-!
# The poll loop of OVSDB in the event loop

The OVSDB library says what it waits for in a `poll_loop`: descriptors with the
directions that it waits for, and a time. `ovspoll_to_libevent` makes events of
them. All descriptors are watched for reading only, and a time that is not in the
future gets no event, as if there were none.
-/
namespace Lldpd.Ovsdb.Poll

inductive Direction where
  | read | write
  deriving DecidableEq, Repr

/-- `struct poll_node`: the descriptor and the directions in `events`. -/
structure PollNode where
  fd : Int
  events : Direction → Bool

/-- What is pending in libevent. A timer has its delay in microseconds. -/
inductive Event where
  | fd (fd : Int) (what : Direction)
  | timer (delay : Int)
  deriving DecidableEq, Repr

/-- `tv`, in microseconds. -/
def tv (timeout : Int64) : Int :=
  if timeout < 1000 then timeout.toInt * 1000 else timeout.toInt / 1000 * 1000000

/-- The events that are scheduled. `eventAdd` says which descriptors libevent takes;
it takes every timer.
mirrors lldpd_ovsdb_if.c:1661-1702 -/
def ovspollToLibevent (eventAdd : Int → Bool) (pollNodes : List PollNode)
    (timeoutWhen timeMsec : Int64) : List Event :=
  let timeout := timeoutWhen - timeMsec
  (pollNodes.filter fun node => eventAdd node.fd).map (fun node => .fd node.fd .read) ++
    if 0 < timeout ∧ 0 < timeoutWhen ∧ timeoutWhen < Int64.maxValue then [.timer (tv timeout)]
    else []

/-- The end of the callback.
mirrors lldpd_ovsdb_if.c:1646-1657 -/
def ovsLibeventCb (eventAdd : Int → Bool) (pollNodes : List PollNode)
    (timeoutWhen timeMsec : Int64) : List Event :=
  let pending := ovspollToLibevent eventAdd pollNodes timeoutWhen timeMsec
  if pending = [] then [.timer 1000000] else pending

/-- What the poll of OVSDB would return for wakes the daemon up, and no later.
`LLONG_MAX` stands for no time. -/
structure Covers (pollNodes : List PollNode) (timeoutWhen timeMsec : Int64)
    (pending : List Event) : Prop where
  scheduled : pending ≠ []
  fds : ∀ node ∈ pollNodes, ∀ what, node.events what → .fd node.fd what ∈ pending
  timeout : timeoutWhen ≠ Int64.maxValue → ∃ delay, .timer delay ∈ pending ∧
    delay ≤ max 0 ((timeoutWhen.toInt - timeMsec.toInt) * 1000)

section Poll
variable {eventAdd : Int → Bool} {pollNodes : List PollNode} {timeoutWhen timeMsec : Int64}

theorem fd_mem_ovspollToLibevent {fd : Int} {what : Direction} :
    .fd fd what ∈ ovspollToLibevent eventAdd pollNodes timeoutWhen timeMsec ↔
      what = .read ∧ eventAdd fd ∧ ∃ node ∈ pollNodes, node.fd = fd := by
  simp only [ovspollToLibevent]
  split <;> grind

/-- The difference is taken modulo 2^64, but is right for a time in the future. -/
theorem timeout_pos_iff (hnow : 0 ≤ timeMsec) :
    0 < timeoutWhen - timeMsec ∧ 0 < timeoutWhen ↔ timeMsec < timeoutWhen := by
  have hsub := Int64.toInt_sub timeoutWhen timeMsec
  have hwhen := timeoutWhen.toInt_lt
  have hmsec := timeMsec.toInt_lt
  simp only [Int64.lt_iff_toInt_lt, Int64.le_iff_toInt_le, Int64.toInt_zero, Int.bmod] at *
  split at hsub <;> omega

theorem tv_le (hnow : 0 ≤ timeMsec) (h : timeMsec < timeoutWhen) :
    tv (timeoutWhen - timeMsec) ≤ (timeoutWhen.toInt - timeMsec.toInt) * 1000 := by
  have hsub := Int64.toInt_sub timeoutWhen timeMsec
  have hwhen := timeoutWhen.toInt_lt
  simp only [Int64.lt_iff_toInt_lt, Int64.le_iff_toInt_le, Int64.toInt_zero, Int.bmod] at *
  unfold tv
  split at hsub <;> split <;> omega

theorem timer_mem_ovspollToLibevent (hnow : 0 ≤ timeMsec) {delay : Int} :
    .timer delay ∈ ovspollToLibevent eventAdd pollNodes timeoutWhen timeMsec ↔
      timeMsec < timeoutWhen ∧ timeoutWhen < Int64.maxValue ∧
        delay = tv (timeoutWhen - timeMsec) := by
  simp only [ovspollToLibevent, ← and_assoc, timeout_pos_iff hnow]
  split <;> simp [*]

theorem mem_ovsLibeventCb {event : Event} :
    event ∈ ovsLibeventCb eventAdd pollNodes timeoutWhen timeMsec ↔
      event ∈ ovspollToLibevent eventAdd pollNodes timeoutWhen timeMsec ∨
        ovspollToLibevent eventAdd pollNodes timeoutWhen timeMsec = [] ∧
          event = .timer 1000000 := by
  simp only [ovsLibeventCb]
  split <;> simp [*]

theorem ovsLibeventCb_ne_nil : ovsLibeventCb eventAdd pollNodes timeoutWhen timeMsec ≠ [] := by
  simp only [ovsLibeventCb]
  split
  · exact List.cons_ne_nil _ _
  · assumption

/-- It waits for reading only, from descriptors that libevent takes, and for no time that
has come already. -/
def Bridged (eventAdd : Int → Bool) (pollNodes : List PollNode) (timeoutWhen timeMsec : Int64) :
    Prop :=
  (∀ node ∈ pollNodes, node.events .write = false ∧ (node.events .read → eventAdd node.fd)) ∧
    (timeoutWhen ≠ Int64.maxValue → timeMsec < timeoutWhen)

theorem lt_maxValue (hwhen : timeoutWhen ≠ Int64.maxValue) : timeoutWhen < Int64.maxValue := by
  have hle := timeoutWhen.toInt_lt
  rw [Ne, ← Int64.toInt_inj, Int64.toInt_maxValue] at hwhen
  rw [Int64.lt_iff_toInt_lt, Int64.toInt_maxValue]
  omega

theorem covers_iff (hnow : 0 ≤ timeMsec) {pending : List Event}
    (h : pending = ovspollToLibevent eventAdd pollNodes timeoutWhen timeMsec ∨
      pending = ovsLibeventCb eventAdd pollNodes timeoutWhen timeMsec) :
    Covers pollNodes timeoutWhen timeMsec pending ↔
      Bridged eventAdd pollNodes timeoutWhen timeMsec ∧ pending ≠ [] := by
  -- the callback may have added its timer
  have hsub {event : Event} (he : event ∈ ovspollToLibevent eventAdd pollNodes timeoutWhen timeMsec) :
      event ∈ pending := by
    cases h with
    | inl h => rwa [h]
    | inr h => exact h ▸ mem_ovsLibeventCb.2 (.inl he)
  have hsup {event : Event} (he : event ∈ pending) :
      event ∈ ovspollToLibevent eventAdd pollNodes timeoutWhen timeMsec ∨
        event = .timer 1000000 := by
    cases h with
    | inl h => exact .inl (h ▸ he)
    | inr h => exact (mem_ovsLibeventCb.1 (h ▸ he)).imp id And.right
  constructor
  · intro hc
    have hfd (node : PollNode) (hnode : node ∈ pollNodes) (what : Direction)
        (hwhat : node.events what) : what = .read ∧ eventAdd node.fd := by
      have hmem := (hsup (hc.fds node hnode what hwhat)).resolve_right nofun
      exact ⟨(fd_mem_ovspollToLibevent.1 hmem).1, (fd_mem_ovspollToLibevent.1 hmem).2.1⟩
    refine ⟨⟨fun node hnode => ⟨?_, fun hread => (hfd node hnode .read hread).2⟩, fun hwhen => ?_⟩,
      hc.scheduled⟩
    · cases hwrite : node.events .write with
      | false => rfl
      | true => exact nomatch (hfd node hnode .write hwrite).1
    · obtain ⟨delay, hmem, hle⟩ := hc.timeout hwhen
      cases hsup hmem with
      | inl htimer => exact ((timer_mem_ovspollToLibevent hnow).1 htimer).1
      | inr hlate =>
        injection hlate with hlate
        rw [Int64.lt_iff_toInt_lt]
        omega
  · rintro ⟨hc, hne⟩
    refine ⟨hne, fun node hnode what hwhat => ?_, fun hwhen => ?_⟩
    · obtain ⟨hwrite, hread⟩ := hc.1 node hnode
      cases what with
      | read => exact hsub (fd_mem_ovspollToLibevent.2 ⟨rfl, hread hwhat, node, hnode, rfl⟩)
      | write => simp [hwhat] at hwrite
    · have hlt := hc.2 hwhen
      exact ⟨_, hsub ((timer_mem_ovspollToLibevent hnow).2 ⟨hlt, lt_maxValue hwhen, rfl⟩),
        Int.le_trans (tv_le hnow hlt) (Int.le_max_right _ _)⟩

/-- **The bridge**: the daemon wakes up for all that OVSDB waits for if and only if that is
`Bridged`. At the start there must also be something to wait for; the callback adds a timer
of its own when there is nothing, but that does not make up for the rest. -/
theorem ovspoll_covered_iff (hnow : 0 ≤ timeMsec) :
    (Covers pollNodes timeoutWhen timeMsec
        (ovspollToLibevent eventAdd pollNodes timeoutWhen timeMsec) ↔
      Bridged eventAdd pollNodes timeoutWhen timeMsec ∧
        ((∃ node ∈ pollNodes, eventAdd node.fd) ∨ timeoutWhen ≠ Int64.maxValue)) ∧
    (Covers pollNodes timeoutWhen timeMsec
        (ovsLibeventCb eventAdd pollNodes timeoutWhen timeMsec) ↔
      Bridged eventAdd pollNodes timeoutWhen timeMsec) := by
  constructor
  · rw [covers_iff hnow (.inl rfl)]
    refine and_congr_right fun hc => ⟨fun hne => ?_, ?_⟩
    · obtain ⟨event, he⟩ := List.exists_mem_of_ne_nil _ hne
      cases event with
      | fd fd what =>
        obtain ⟨-, hadd, node, hnode, rfl⟩ := fd_mem_ovspollToLibevent.1 he
        exact .inl ⟨node, hnode, hadd⟩
      | timer delay =>
        refine .inr fun hmax => ?_
        have hlt := ((timer_mem_ovspollToLibevent hnow).1 he).2.1
        rw [hmax] at hlt
        exact absurd hlt (by decide)
    · rintro (⟨node, hnode, hadd⟩ | hwhen)
      · exact List.ne_nil_of_mem (fd_mem_ovspollToLibevent.2 ⟨rfl, hadd, node, hnode, rfl⟩)
      · exact List.ne_nil_of_mem ((timer_mem_ovspollToLibevent hnow).2
          ⟨hc.2 hwhen, lt_maxValue hwhen, rfl⟩)
  · rw [covers_iff hnow (.inr rfl)]
    exact and_iff_left ovsLibeventCb_ne_nil

/-- A descriptor for reading, and a time of 1.5 s: the timer is early. -/
theorem ovspoll_covered_read :
    let pollNodes := [PollNode.mk 5 (· = .read)]
    ovspollToLibevent (fun _ => true) pollNodes 2500 1000 = [.fd 5 .read, .timer 1000000] ∧
      Covers pollNodes 2500 1000 (ovspollToLibevent (fun _ => true) pollNodes 2500 1000) :=
  ⟨by decide, (ovspoll_covered_iff (by decide)).1.2
    ⟨⟨by decide, by decide⟩, .inl ⟨_, List.mem_cons_self, rfl⟩⟩⟩

/-- A poll that is to return at once is not waited for, or a second too long. -/
theorem ovspoll_not_covered :
    let pending := ovsLibeventCb (fun _ => true) [] Int64.minValue 1000
    ovspollToLibevent (fun _ => true) [] Int64.minValue 1000 = [] ∧ pending = [.timer 1000000] ∧
      ¬ Covers [] Int64.minValue 1000 [] ∧ ¬ Covers [] Int64.minValue 1000 pending := by
  refine ⟨by decide, by decide, fun h => h.scheduled rfl, fun h => ?_⟩
  obtain ⟨delay, hmem, hle⟩ := h.timeout (by decide)
  cases List.mem_singleton.1 hmem
  exact absurd hle (by decide)

end Poll

end Lldpd.Ovsdb.Poll
