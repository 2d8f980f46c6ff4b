import Lldpd.Core.Bytes

/-!
# Reading a number of bytes from a datagram socket

A `read` on a datagram socket takes the next datagram and loses what does not fit.
A loop of such calls that asks for `n` bytes (`gather`) goes on until it has all of
them: it ends early at an empty datagram, for which `read` answers 0, and it waits
when there is no datagram left.
-/
namespace Lldpd.Core

inductive Gathered where
  | full (bs : Bytes) (rest : List Bytes)
  /-- a `read` answered 0 -/
  | cut
  | waits
  deriving DecidableEq, Repr

/-- What is read in front is part of the result if all the rest comes. -/
def Gathered.behind (front : Bytes) : Gathered → Gathered
  | .full bs rest => .full (front ++ bs) rest
  | .cut => .cut
  | .waits => .waits

def gather : Nat → List Bytes → Gathered
  | 0, q => .full [] q
  | _ + 1, [] => .waits
  | n + 1, d :: q =>
    if d = [] then .cut else (gather (n + 1 - d.length) q).behind (d.take (n + 1))

variable {n : Nat} {q rest : List Bytes} {bs : Bytes}

theorem Gathered.behind_eq_full {front : Bytes} {g : Gathered} (h : g.behind front = .full bs rest) :
    ∃ bs', bs = front ++ bs' ∧ g = .full bs' rest := by
  cases g with
  | full bs' rest' =>
    cases h
    exact ⟨bs', rfl, rfl⟩
  | cut => cases h
  | waits => cases h

variable (h : gather n q = .full bs rest)
include h

theorem gather_length : bs.length = n := by
  induction q generalizing n bs with
  | nil =>
    cases n with
    | zero =>
      cases h
      rfl
    | succ n => cases h
  | cons d q ih =>
    cases n with
    | zero =>
      cases h
      rfl
    | succ n =>
      unfold gather at h
      split at h
      · cases h
      · obtain ⟨bs', rfl, hlater⟩ := Gathered.behind_eq_full h
        have hlen := ih hlater
        rw [List.length_append, List.length_take]
        omega

/-- What is left is left of the queue, and less than all if anything is read. -/
theorem gather_rest : ∃ used, q = used ++ rest ∧ (used = [] → n = 0) := by
  induction q generalizing n bs with
  | nil =>
    cases n with
    | zero =>
      cases h
      exact ⟨[], rfl, fun _ => rfl⟩
    | succ n => cases h
  | cons d q ih =>
    cases n with
    | zero =>
      cases h
      exact ⟨[], rfl, fun _ => rfl⟩
    | succ n =>
      unfold gather at h
      split at h
      · cases h
      · obtain ⟨bs', rfl, hlater⟩ := Gathered.behind_eq_full h
        obtain ⟨used, rfl, -⟩ := ih hlater
        exact ⟨d :: used, rfl, fun hnil => absurd hnil (List.cons_ne_nil _ _)⟩

theorem gather_le : rest.length ≤ q.length := by
  obtain ⟨used, rfl, -⟩ := gather_rest h
  rw [List.length_append]
  omega

theorem gather_shorter (hn : 0 < n) : rest.length < q.length := by
  obtain ⟨used, rfl, hused⟩ := gather_rest h
  cases used with
  | nil => exact absurd (hused rfl) (by omega)
  | cons d used =>
    rw [List.length_append, List.length_cons]
    omega

end Lldpd.Core
