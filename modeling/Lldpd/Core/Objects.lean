import Mathlib.Data.List.AList

/-!
# Objects that pointers refer to

A C program with several tables of objects and raw pointers between them.
`Objects α` are the objects of a type that are alive, by their address: what
has been freed is not there, and its address may be used again. `follow` reads
through a pointer and fails where C has no meaning.

A table is searched by a name that its objects carry; `Unique` says that no two
objects have the same one, and `find_iff` that a search is then a lookup.
-/
namespace Lldpd.Core

inductive BadPointer where
  | null | dangling
  deriving DecidableEq, Repr

abbrev Objects (α : Type) := AList fun _ : Nat => α

namespace Objects
variable {α : Type} {ν : Type} {m : Objects α} {a a' : Nat} {x y : α} {f : α → α}

def follow (m : Objects α) : Option Nat → Except BadPointer (Nat × α)
  | none => .error .null
  | some a =>
    match m.lookup a with
    | none => .error .dangling
    | some x => .ok (a, x)

theorem follow_ok (h : m.lookup a = some x) : follow m (some a) = .ok (a, x) := by
  simp [follow, h]

def modify (m : Objects α) (a : Nat) (f : α → α) : Objects α :=
  match m.lookup a with
  | none => m
  | some x => m.insert a (f x)

theorem lookup_modify (m : Objects α) (a a' : Nat) (f : α → α) :
    (modify m a f).lookup a' = if a' = a then (m.lookup a').map f else m.lookup a' := by
  unfold modify
  cases h : m.lookup a with
  | none =>
    by_cases ha : a' = a
    · rw [if_pos ha, ha, h]
      rfl
    · rw [if_neg ha]
  | some x =>
    by_cases ha : a' = a
    · rw [if_pos ha, ha, h]
      exact AList.lookup_insert m
    · rw [if_neg ha]
      exact AList.lookup_insert_ne ha

theorem lookup_modify_self (h : m.lookup a = some x) : (modify m a f).lookup a = some (f x) := by
  rw [lookup_modify, if_pos rfl, h]
  rfl

theorem lookup_modify_ne (h : a' ≠ a) : (modify m a f).lookup a' = m.lookup a' := by
  rw [lookup_modify, if_neg h]

/-- Where an object that is found after a write comes from. -/
theorem of_lookup_modify (h : (modify m a f).lookup a' = some y) :
    ∃ x, m.lookup a' = some x ∧ y = if a' = a then f x else x := by
  rw [lookup_modify] at h
  by_cases ha : a' = a
  · rw [if_pos ha] at h
    obtain ⟨x, hx, rfl⟩ := Option.map_eq_some_iff.1 h
    exact ⟨x, hx, by rw [if_pos ha]⟩
  · rw [if_neg ha] at h
    exact ⟨y, h, by rw [if_neg ha]⟩

theorem map_lookup_modify {g : α → ν} (hg : ∀ x, g (f x) = g x) (m : Objects α) (a a' : Nat) :
    ((modify m a f).lookup a').map g = (m.lookup a').map g := by
  rw [lookup_modify]
  split
  · cases m.lookup a' with
    | none => rfl
    | some x => exact congrArg some (hg x)
  · rfl

/-! ## Searching -/

section Find
variable {name : α → ν} {n : ν}

def Unique (name : α → ν) (m : Objects α) : Prop :=
  ∀ a a' x x', m.lookup a = some x → m.lookup a' = some x' → name x = name x' → a = a'

/-- Names are unique in a table with the same names at the same addresses. -/
theorem Unique.congr {m' : Objects α} (hu : Unique name m)
    (h : ∀ a, (m'.lookup a).map name = (m.lookup a).map name) : Unique name m' := by
  intro a a' x x' hx hx' hname
  have hfrom : ∀ a x, m'.lookup a = some x → ∃ y, m.lookup a = some y ∧ name y = name x := by
    intro a x hx
    have h := h a
    rw [hx] at h
    exact Option.map_eq_some_iff.1 h.symm
  obtain ⟨y, hy, hny⟩ := hfrom a x hx
  obtain ⟨y', hy', hny'⟩ := hfrom a' x' hx'
  exact hu a a' y y' hy hy' (by rw [hny, hny', hname])

/-- What is found after an object is added. -/
theorem of_lookup_insert (h : (AList.insert a x m).lookup a' = some y) :
    (a' = a ∧ y = x) ∨ (a' ≠ a ∧ m.lookup a' = some y) := by
  by_cases ha : a' = a
  · subst ha
    rw [AList.lookup_insert] at h
    cases h
    exact .inl ⟨rfl, rfl⟩
  · rw [AList.lookup_insert_ne ha] at h
    exact .inr ⟨ha, h⟩

theorem lookup_insert_of_fresh (hfresh : m.lookup a = none) (h : m.lookup a' = some y) :
    (AList.insert a x m).lookup a' = some y := by
  refine (AList.lookup_insert_ne fun heq => ?_).trans h
  rw [heq, hfresh] at h
  cases h

theorem Unique.insert (hu : Unique name m)
    (hnew : ∀ a' x', m.lookup a' = some x' → name x' ≠ name x) :
    Unique name (AList.insert a x m) := by
  intro b b' y y' hy hy' hname
  rcases of_lookup_insert hy with ⟨rfl, rfl⟩ | ⟨-, hm⟩
  · rcases of_lookup_insert hy' with ⟨rfl, -⟩ | ⟨-, hm'⟩
    · rfl
    · exact absurd hname.symm (hnew b' y' hm')
  · rcases of_lookup_insert hy' with ⟨rfl, rfl⟩ | ⟨-, hm'⟩
    · exact absurd hname (hnew b y hm)
    · exact hu b b' y y' hm hm' hname

/-- What is found after an object is freed. -/
theorem of_lookup_erase (h : (AList.erase a m).lookup a' = some x) :
    a' ≠ a ∧ m.lookup a' = some x := by
  by_cases ha : a' = a
  · subst ha
    rw [AList.lookup_erase] at h
    cases h
  · rw [AList.lookup_erase_ne ha] at h
    exact ⟨ha, h⟩

theorem Unique.erase (hu : Unique name m) (a : Nat) : Unique name (AList.erase a m) := by
  intro b b' y y' hy hy' hname
  exact hu b b' y y' (of_lookup_erase hy).2 (of_lookup_erase hy').2 hname

variable [DecidableEq ν]

def find (name : α → ν) (n : ν) (m : Objects α) : Option (Nat × α) :=
  (m.entries.find? fun e => decide (name e.2 = n)).map fun e => (e.1, e.2)

theorem of_find (h : find name n m = some (a, x)) : m.lookup a = some x ∧ name x = n := by
  obtain ⟨e, he, heq⟩ := Option.map_eq_some_iff.1 h
  cases heq
  refine ⟨AList.mem_lookup_iff.2 (List.mem_of_find?_eq_some he), ?_⟩
  simpa using List.find?_some he

theorem name_ne_of_find_none (h : find name n m = none) (hx : m.lookup a = some x) :
    name x ≠ n := by
  have hnone := List.find?_eq_none.1 (Option.map_eq_none_iff.1 h)
  have hmem : (⟨a, x⟩ : Sigma fun _ : Nat => α) ∈ m.entries := AList.mem_lookup_iff.1 hx
  simpa using hnone _ hmem

theorem find_iff (hu : Unique name m) :
    find name n m = some (a, x) ↔ m.lookup a = some x ∧ name x = n := by
  constructor
  · exact of_find
  · intro h
    cases hfind : find name n m with
    | none => exact absurd h.2 (name_ne_of_find_none hfind h.1)
    | some e =>
      obtain ⟨a', x'⟩ := e
      obtain ⟨hx', hn'⟩ := of_find hfind
      obtain rfl := hu a a' x x' h.1 hx' (h.2.trans hn'.symm)
      cases h.1.symm.trans hx'
      rfl

end Find

end Objects

end Lldpd.Core
