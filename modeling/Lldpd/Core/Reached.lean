import Lldpd.Core.Cursor

/-!
# How far a fallible fold gets

A parser that folds a step over a list of items stops at the first item it
does not take. `reached` lists the items it gets to, each with the state in
front of it, and `foldlM_fault_iff` says that the fold faults exactly when the
step faults on one of them.

Often only a part of the state (`key`) decides whether an item is taken.
`AllReached` is then a statement about the items alone, and
`forall_reached_iff` connects the two.
-/
namespace Lldpd.Core

variable {S T K : Type}

/-- The items `f` reaches, with the state in front of each. -/
def reached (f : S → T → Run S S) : List T → S → List (S × T)
  | [], _ => []
  | t :: ts, s =>
    (s, t) :: match f s t with
      | .ok s' => reached f ts s'
      | .error _ => []

/-- `P` holds for every item that is reached: `taken` is whether an item is
taken, `next` the key behind it. -/
def AllReached (taken : K → T → Prop) (next : K → T → K) (P : K → T → Prop) : K → List T → Prop
  | _, [] => True
  | k, t :: ts => P k t ∧ (taken k t → AllReached taken next P (next k t) ts)

section
variable {f : S → T → Run S S} {s : S} {ts : List T}

theorem foldlM_fault_iff {e : Fault} :
    ts.foldlM f s = .error (.fault e) ↔ ∃ p ∈ reached f ts s, f p.1 p.2 = .error (.fault e) := by
  induction ts generalizing s with
  | nil => simp [reached]
  | cons t ts ih =>
    simp only [reached]
    cases ha : f s t with
    | error e => simp [ha]
    | ok s' => simp [ha, ih]

/-- A part of the state (`view`) that no step changes. -/
theorem view_eq_of_foldlM {X : Type} (view : S → X)
    (hstep : ∀ s t s', f s t = .ok s' → view s' = view s) {s' : S}
    (h : ts.foldlM f s = .ok s') : view s' = view s := by
  induction ts generalizing s with
  | nil =>
    cases h
    rfl
  | cons t ts ih =>
    obtain ⟨s1, hf, h⟩ := bind_eq_ok.1 h
    exact (ih h).trans (hstep s t s1 hf)

/-- What every step does to a part of the state (`view`) as a list of actions,
the whole fold does with the actions of the items it reaches. -/
theorem view_foldlM {X O : Type} (view : S → X) (act : X → O → X) (ops : S → T → List O)
    (hstep : ∀ s t s', f s t = .ok s' → view s' = (ops s t).foldl act (view s)) {s' : S}
    (h : ts.foldlM f s = .ok s') :
    view s' = ((reached f ts s).flatMap fun p => ops p.1 p.2).foldl act (view s) := by
  induction ts generalizing s with
  | nil =>
    cases h
    rfl
  | cons t ts ih =>
    rw [List.foldlM_cons] at h
    cases hf : f s t with
    | error e =>
      rw [hf] at h
      cases h
    | ok s1 =>
      rw [hf] at h
      simp only [reached, hf, List.flatMap_cons, List.foldl_append, ← hstep s t s1 hf]
      exact ih h

/-- A property of the reached states that is one of the item and of the key. -/
theorem forall_reached_iff {taken : K → T → Prop} {next : K → T → K} (key : S → K)
    (htaken : ∀ s t, (∃ s', f s t = .ok s') ↔ taken (key s) t)
    (hnext : ∀ s t s', f s t = .ok s' → key s' = next (key s) t)
    {P : S → T → Prop} {Q : K → T → Prop} (h : ∀ s t, P s t ↔ Q (key s) t) :
    (∀ p ∈ reached f ts s, P p.1 p.2) ↔ AllReached taken next Q (key s) ts := by
  induction ts generalizing s with
  | nil => simp [reached, AllReached]
  | cons t ts ih =>
    simp only [reached, List.forall_mem_cons]
    refine and_congr (h s t) ?_
    cases ha : f s t with
    | error e =>
      have hn : ¬ taken (key s) t := fun ht => by
        obtain ⟨_, he⟩ := (htaken s t).2 ht
        rw [ha] at he; cases he
      simp [hn]
    | ok s' =>
      simp only [(htaken s t).1 ⟨s', ha⟩, forall_const, ← hnext s t s' ha]
      exact ih

end

end Lldpd.Core
