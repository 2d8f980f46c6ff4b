import Lldpd.Core.Bytes

/-!
# Messages in a byte stream

Whoever writes messages into a stream has no say in how they arrive: a message
may come in several pieces, several may come at once. The reader keeps what it
has not consumed in a buffer.

* `whole` counts the messages that are complete in the first bytes of the
  stream, and `Pending` says what the buffer holds once some of them are
  consumed: the next message and more (`Pending.complete`), or a part of it
  (`Pending.short`).
* A reader that consumes at most one message for each arrival has consumed
  `served` of them. It gets through exactly when, at every moment, no more
  messages are still to be completed than there are arrivals left
  (`length_le_served_iff`).
-/
namespace Lldpd.Core

section Stream
variable {M : Type} (write : M → Bytes)

def stream (ms : List M) : Bytes := ms.flatMap write

/-- How many messages are complete in the first `n` bytes. -/
def whole : List M → Nat → Nat
  | [], _ => 0
  | m :: ms, n => if (write m).length ≤ n then whole ms (n - (write m).length) + 1 else 0

/-- The first `n` bytes have arrived, `k` messages are consumed, and `buffer` is
the rest. -/
structure Pending (ms : List M) (k n : Nat) (buffer : Bytes) : Prop where
  le : k ≤ whole write ms n
  eq : buffer = ((stream write ms).take n).drop (stream write (ms.take k)).length

variable {write} {ms : List M} {k n : Nat} {buffer : Bytes}

@[simp] theorem stream_cons (m : M) (ms : List M) :
    stream write (m :: ms) = write m ++ stream write ms := rfl

theorem whole_le_length (ms : List M) (n : Nat) : whole write ms n ≤ ms.length := by
  induction ms generalizing n with
  | nil => exact Nat.le_refl 0
  | cons m ms ih =>
    rw [whole, List.length_cons]
    split
    · have := ih (n - (write m).length)
      omega
    · omega

theorem whole_mono (ms : List M) {n n' : Nat} (h : n ≤ n') : whole write ms n ≤ whole write ms n' := by
  induction ms generalizing n n' with
  | nil => exact Nat.le_refl 0
  | cons m ms ih =>
    rw [whole, whole]
    split
    · rw [if_pos (by omega)]
      have := @ih (n - (write m).length) (n' - (write m).length) (by omega)
      omega
    · exact Nat.zero_le _

theorem whole_zero (hne : ∀ m, write m ≠ []) (ms : List M) : whole write ms 0 = 0 := by
  cases ms with
  | nil => rfl
  | cons m ms =>
    have := List.length_pos_iff.2 (hne m)
    rw [whole, if_neg (by omega)]

theorem whole_length (ms : List M) : whole write ms (stream write ms).length = ms.length := by
  induction ms with
  | nil => rfl
  | cons m ms ih =>
    rw [whole, stream_cons, List.length_append, if_pos (by omega), Nat.add_sub_cancel_left, ih,
      List.length_cons]

theorem Pending.zero (ms : List M) : Pending write ms 0 0 [] := ⟨Nat.zero_le _, by simp [stream]⟩

/-- The consumed messages are part of what has arrived. -/
theorem consumed_le (h : k ≤ whole write ms n) : (stream write (ms.take k)).length ≤ n := by
  induction ms generalizing k n with
  | nil => simp [stream]
  | cons m ms ih =>
    cases k with
    | zero => simp [stream]
    | succ k =>
      rw [whole] at h
      split at h
      · have := ih (k := k) (n := n - (write m).length) (by omega)
        rw [List.take_succ_cons, stream_cons, List.length_append]
        omega
      · omega

/-- More of the stream arrives. -/
theorem Pending.append (hp : Pending write ms k n buffer) {chunk later : Bytes}
    (h : (stream write ms).drop n = chunk ++ later) :
    Pending write ms k (n + chunk.length) (buffer ++ chunk) := by
  refine ⟨Nat.le_trans hp.le (whole_mono ms (Nat.le_add_right _ _)), ?_⟩
  have htake : (stream write ms).take (n + chunk.length) = (stream write ms).take n ++ chunk := by
    rw [List.take_add, h, List.take_left]
  have hlen : (stream write (ms.take k)).length ≤ ((stream write ms).take n).length := by
    rw [List.length_take]
    refine Nat.le_min.2 ⟨consumed_le hp.le, ?_⟩
    calc (stream write (ms.take k)).length
        ≤ (stream write (ms.take k) ++ stream write (ms.drop k)).length := by
          rw [List.length_append]
          omega
      _ = (stream write ms).length := by
          unfold stream
          rw [← List.flatMap_append, List.take_append_drop]
  rw [htake, List.drop_append_of_le_length hlen, ← hp.eq]

/-- The first message out of the way. -/
theorem pending_tail {m : M} (hm : (write m).length ≤ n) :
    Pending write (m :: ms) (k + 1) n buffer ↔ Pending write ms k (n - (write m).length) buffer := by
  have hbuf : ((stream write (m :: ms)).take n).drop (stream write ((m :: ms).take (k + 1))).length =
      ((stream write ms).take (n - (write m).length)).drop (stream write (ms.take k)).length := by
    rw [List.take_succ_cons, stream_cons, stream_cons, List.take_append, List.take_of_length_le hm,
      List.length_append, ← List.drop_drop, List.drop_left]
  constructor
  · rintro ⟨hle, heq⟩
    rw [whole, if_pos hm] at hle
    exact ⟨Nat.le_of_succ_le_succ hle, by rw [heq, hbuf]⟩
  · rintro ⟨hle, heq⟩
    refine ⟨?_, by rw [heq, hbuf]⟩
    rw [whole, if_pos hm]
    exact Nat.succ_le_succ hle

/-- The next message is there. -/
theorem Pending.complete (hp : Pending write ms k n buffer) (hk : k < whole write ms n) :
    ∃ m rest, ms[k]? = some m ∧ buffer = write m ++ rest ∧ Pending write ms (k + 1) n rest := by
  induction ms generalizing k n with
  | nil => exact absurd hk (Nat.not_lt_zero _)
  | cons m ms ih =>
    have hm : (write m).length ≤ n := by
      refine Nat.le_of_not_lt fun hlt => ?_
      rw [whole, if_neg (by omega)] at hk
      exact Nat.not_lt_zero _ hk
    cases k with
    | zero =>
      have hbuf := hp.eq
      rw [stream_cons, List.take_append, List.take_of_length_le hm] at hbuf
      exact ⟨m, _, rfl, hbuf, (pending_tail hm).2 ⟨Nat.zero_le _, rfl⟩⟩
    | succ k =>
      rw [whole, if_pos hm] at hk
      obtain ⟨m', rest, hget, hbuf, hrest⟩ := ih ((pending_tail hm).1 hp) (Nat.lt_of_succ_lt_succ hk)
      exact ⟨m', rest, hget, hbuf, (pending_tail hm).2 hrest⟩

/-- Only a part of the next message is there, if there is a next one. -/
theorem Pending.short (hp : Pending write ms k n buffer) (hk : k = whole write ms n) :
    (ms[k]? = none ∧ buffer = []) ∨
      ∃ m later, ms[k]? = some m ∧ write m = buffer ++ later ∧ later ≠ [] := by
  induction ms generalizing k n with
  | nil =>
    left
    exact ⟨rfl, by rw [hp.eq]; simp [stream]⟩
  | cons m ms ih =>
    rw [whole] at hk
    split at hk
    · rename_i hm
      subst hk
      exact ih ((pending_tail hm).1 hp) rfl
    · rename_i hm
      subst hk
      have hbuf := hp.eq
      rw [stream_cons, List.take_append_of_le_length (by omega)] at hbuf
      refine .inr ⟨m, (write m).drop n, rfl, ?_, ?_⟩
      · rw [hbuf]
        exact (List.take_append_drop n (write m)).symm
      · rw [Ne, List.drop_eq_nil_iff]
        exact hm

/-! ## One message for each arrival -/

/-- The messages consumed by the time all of `chunks` has arrived, when `k` are
consumed of the first `n` bytes. -/
def served (write : M → Bytes) (ms : List M) : Nat → Nat → List Bytes → Nat
  | k, _, [] => k
  | k, n, chunk :: chunks =>
    served write ms (min (k + 1) (whole write ms (n + chunk.length))) (n + chunk.length) chunks

/-- The reader gets to the `goal` when the arrivals left are enough from the
start and after each of them. -/
theorem le_served_iff {goal : Nat} {chunks : List Bytes} :
    goal ≤ served write ms k n chunks ↔ goal ≤ k + chunks.length ∧
      ∀ before chunk after, chunks = before ++ chunk :: after →
        goal ≤ whole write ms (n + (before ++ [chunk]).flatten.length) + after.length := by
  induction chunks generalizing k n with
  | nil => simp [served]
  | cons chunk chunks ih =>
    rw [served, ih, List.length_cons]
    have hone : [chunk].flatten.length = chunk.length := by simp
    have hcons : ∀ (before : List Bytes) (b : Bytes), (chunk :: before ++ [b]).flatten.length =
        chunk.length + (before ++ [b]).flatten.length := by
      intro before b
      rw [List.cons_append, List.flatten_cons, List.length_append]
    constructor
    · rintro ⟨hstart, hall⟩
      refine ⟨by omega, fun before b after heq => ?_⟩
      cases before with
      | nil =>
        obtain ⟨rfl, rfl⟩ := List.cons.inj heq
        rw [List.nil_append, hone]
        omega
      | cons b' before =>
        obtain ⟨rfl, htail⟩ := List.cons.inj heq
        rw [hcons, ← Nat.add_assoc]
        exact hall before b after htail
    · rintro ⟨hstart, hall⟩
      have hc := hall [] chunk chunks rfl
      rw [List.nil_append, hone] at hc
      refine ⟨by omega, fun before b after heq => ?_⟩
      rw [Nat.add_assoc, ← hcons]
      exact hall (chunk :: before) b after (by rw [heq]; rfl)

/-- The reader gets through when, at every moment, no more messages are still to
be completed than there are arrivals to come. -/
theorem length_le_served_iff (hne : ∀ m, write m ≠ []) {chunks : List Bytes} :
    ms.length ≤ served write ms 0 0 chunks ↔ ∀ before after, chunks = before ++ after →
      ms.length ≤ whole write ms before.flatten.length + after.length := by
  rw [le_served_iff]
  constructor
  · rintro ⟨hstart, hall⟩ before after rfl
    rcases List.eq_nil_or_concat before with rfl | ⟨init, last, rfl⟩
    · rw [List.flatten_nil, List.length_nil, whole_zero hne]
      exact hstart
    · have := hall init last after (by rw [List.concat_eq_append, List.append_assoc]; rfl)
      rw [List.concat_eq_append]
      rwa [Nat.zero_add] at this
  · intro h
    have hstart := h [] chunks rfl
    rw [List.flatten_nil, List.length_nil, whole_zero hne] at hstart
    refine ⟨hstart, fun before chunk after heq => ?_⟩
    rw [Nat.zero_add]
    exact h (before ++ [chunk]) after (by rw [heq, List.append_assoc]; rfl)

end Stream

end Lldpd.Core
