/-!
# Objects on the heap, and how often they are referred to

A C program keeps its objects in a list and hands out pointers to them. Here
the list is a `Heap`: cells with an address that is never used again, in the
order of the list. A pointer whose cell has been freed reads as nothing.

`Counted count h n` says that every cell of `h` carries, in a 16-bit counter,
the number `n a` of references to it. The rules below say how it moves with
the operations of the program: an object is taken (`write` with a count that
goes up), released, overwritten, added, or freed.
-/
namespace Lldpd.Core

abbrev Heap (α : Type) := List (Nat × α)

namespace Heap

variable {α : Type} {h : Heap α} {a a' : Nat} {f : α → α} {x y : α}

def deref (h : Heap α) (a : Nat) : Option α := h.lookup a

def write (h : Heap α) (a : Nat) (f : α → α) : Heap α :=
  h.map fun e => if e.1 = a then (e.1, f e.2) else e

def addrs (h : Heap α) : List Nat := h.map Prod.fst

@[simp] theorem addrs_write : (h.write a f).addrs = h.addrs := by
  unfold write addrs
  rw [List.map_map]
  refine List.map_congr_left fun e _ => ?_
  simp only [Function.comp]
  split <;> rfl

theorem write_write {g : α → α} : (h.write a f).write a g = h.write a fun x => g (f x) := by
  unfold write
  rw [List.map_map]
  refine List.map_congr_left fun e _ => ?_
  by_cases he : e.1 = a
  · simp [he]
  · simp [he]

theorem addrs_append (h h' : Heap α) : addrs (h ++ h') = addrs h ++ addrs h' := List.map_append

theorem addrs_filter_sublist (h : Heap α) (p : Nat × α → Bool) :
    (addrs (h.filter p)).Sublist (addrs h) :=
  List.filter_sublist.map _

theorem mem_write {e : Nat × α} :
    e ∈ h.write a f ↔ ∃ x, (e.1, x) ∈ h ∧ e.2 = if e.1 = a then f x else x := by
  unfold write
  rw [List.mem_map]
  constructor
  · rintro ⟨e', hm, rfl⟩
    refine ⟨e'.2, ?_, ?_⟩
    · split
      · exact hm
      · exact hm
    · by_cases he : e'.1 = a
      · simp [he]
      · simp [he]
  · rintro ⟨x, hm, he⟩
    refine ⟨(e.1, x), hm, ?_⟩
    obtain ⟨a', y⟩ := e
    simp only at he ⊢
    split at he
    · rename_i ha; rw [if_pos ha, he]
    · rename_i ha; rw [if_neg ha, he]

theorem mem_addrs : a ∈ h.addrs ↔ ∃ x, (a, x) ∈ h := by
  unfold addrs
  rw [List.mem_map]
  constructor
  · rintro ⟨e, hm, rfl⟩; exact ⟨e.2, hm⟩
  · rintro ⟨x, hm⟩; exact ⟨(a, x), hm, rfl⟩

theorem deref_cons {e : Nat × α} : deref (e :: h) a = if a = e.1 then some e.2 else deref h a := by
  unfold deref
  rw [List.lookup_cons]
  by_cases he : a = e.1
  · simp [he]
  · rw [beq_eq_false_iff_ne.2 he, if_neg he]

theorem deref_write : (h.write a f).deref a' = if a' = a then (h.deref a').map f else h.deref a' := by
  induction h with
  | nil => simp [write, deref]
  | cons e h ih =>
    have hcons : write (e :: h) a f = (if e.1 = a then (e.1, f e.2) else e) :: write h a f := rfl
    rw [hcons, deref_cons, deref_cons, ih]
    by_cases ha : a' = e.1
    · by_cases he : e.1 = a
      · simp [ha, he]
      · simp [ha, he]
    · by_cases he : e.1 = a
      · subst he; simp [ha]
      · simp [ha, he]

theorem isSome_deref : (h.deref a).isSome ↔ a ∈ h.addrs := by
  induction h with
  | nil => simp [deref, addrs]
  | cons e h ih =>
    rw [deref_cons]
    by_cases he : a = e.1
    · simp [he, addrs]
    · simpa [he, addrs] using ih

theorem deref_eq_none : h.deref a = none ↔ a ∉ h.addrs := by
  rw [← isSome_deref, Option.isSome_iff_ne_none, Classical.not_not]

theorem mem_of_deref (hg : h.deref a = some x) : (a, x) ∈ h := by
  induction h with
  | nil => cases hg
  | cons e h ih =>
    rw [deref_cons] at hg
    split at hg
    · rename_i he
      cases hg; subst he; exact List.mem_cons_self
    · exact List.mem_cons_of_mem _ (ih hg)

theorem deref_of_mem (hn : h.addrs.Nodup) (hm : (a, x) ∈ h) : h.deref a = some x := by
  induction h with
  | nil => cases hm
  | cons e h ih =>
    rw [addrs, List.map_cons, List.nodup_cons] at hn
    rw [deref_cons]
    rcases List.mem_cons.1 hm with rfl | hm
    · simp
    · have hne : a ≠ e.1 := fun he => hn.1 (he ▸ List.mem_map_of_mem hm)
      rw [if_neg hne, ih hn.2 hm]

theorem deref_append_of_not_mem {h' : Heap α} (ha : a ∉ h.addrs) : (h ++ h').deref a = h'.deref a := by
  induction h with
  | nil => rfl
  | cons e h ih =>
    simp only [addrs, List.map_cons, List.mem_cons, not_or] at ha
    rw [List.cons_append, deref_cons, if_neg ha.1, ih ha.2]

theorem deref_concat {n : Nat} (hne : a ≠ n) : deref (h ++ [(n, x)]) a = deref h a := by
  induction h with
  | nil => rw [List.nil_append, deref_cons, if_neg hne]
  | cons e h ih => rw [List.cons_append, deref_cons, deref_cons, ih]

variable {p : Nat × α → Bool}

theorem deref_filter_of_pos (hp : ∀ x, h.deref a = some x → p (a, x) = true) :
    deref (h.filter p) a = h.deref a := by
  induction h with
  | nil => rfl
  | cons e h ih =>
    rw [deref_cons] at hp ⊢
    by_cases ha : a = e.1
    · subst ha
      have he : p e = true := hp e.2 (if_pos rfl)
      rw [List.filter_cons_of_pos he, deref_cons, if_pos rfl, if_pos rfl]
    · rw [if_neg ha] at hp ⊢
      cases he : p e with
      | true => rw [List.filter_cons_of_pos he, deref_cons, if_neg ha, ih hp]
      | false => rw [List.filter_cons_of_neg (by simp [he]), ih hp]

/-- What is kept by a filter is found as before. -/
theorem deref_filter (hn : h.addrs.Nodup) :
    deref (h.filter p) a = (h.deref a).filter fun x => p (a, x) := by
  induction h with
  | nil => rfl
  | cons e h ih =>
    rw [addrs, List.map_cons, List.nodup_cons] at hn
    have hnone : a = e.1 → deref h a = none := fun he => deref_eq_none.2 (he ▸ hn.1)
    rw [deref_cons]
    by_cases he : a = e.1
    · subst he
      rw [if_pos rfl]
      by_cases hp : p e
      · rw [List.filter_cons_of_pos hp, deref_cons, if_pos rfl, Option.filter_some, if_pos hp]
      · rw [List.filter_cons_of_neg hp, ih hn.2, hnone rfl, Option.filter_some, if_neg hp]
        rfl
    · rw [if_neg he, ← ih hn.2]
      by_cases hp : p e
      · rw [List.filter_cons_of_pos hp, deref_cons, if_neg he]
      · rw [List.filter_cons_of_neg hp]

/-! ### A view of the cells -/

def view {β : Type} (h : Heap α) (g : α → β) : Heap β := h.map fun e => (e.1, g e.2)

variable {β : Type} {g : α → β}

theorem addrs_view : (h.view g).addrs = h.addrs := by
  simp [view, addrs]

theorem view_append (h h' : Heap α) : view (h ++ h') g = h.view g ++ view h' g := List.map_append

theorem view_write {k : β → β} (hk : ∀ x, g (f x) = k (g x)) :
    (h.write a f).view g = (h.view g).write a k := by
  unfold view write
  rw [List.map_map, List.map_map]
  refine List.map_congr_left fun e _ => ?_
  simp only [Function.comp]
  split
  · rw [hk]
  · rfl

theorem view_write_same (hg : ∀ x, g (f x) = g x) : (h.write a f).view g = h.view g := by
  unfold view write
  rw [List.map_map]
  refine List.map_congr_left fun e _ => ?_
  simp only [Function.comp]
  split
  · rw [hg]
  · rfl

end Heap

/-! ## Reference counts -/

section Counted
variable {α : Type} {count : α → UInt16} {h : Heap α} {n n' : Nat → Nat} {a : Nat} {f : α → α}

/-- Every counter holds the number of references, up to its width. -/
def Counted (count : α → UInt16) (h : Heap α) (n : Nat → Nat) : Prop :=
  ∀ e ∈ h, count e.2 = UInt16.ofNat (n e.1)

variable (hc : Counted count h n)
include hc

theorem Counted.congr (hn : ∀ a, n' a = n a) : Counted count h n' := by
  intro e he
  rw [hn]; exact hc e he

/-- A write that moves the counter of `a` as the references to it move. -/
theorem Counted.write
    (hf : ∀ x, (a, x) ∈ h → count x = UInt16.ofNat (n a) → count (f x) = UInt16.ofNat (n' a))
    (hn : ∀ b, b ≠ a → n' b = n b) : Counted count (h.write a f) n' := by
  intro e he
  obtain ⟨e, hmem, rfl⟩ := List.mem_map.1 he
  by_cases ha : e.1 = a
  · subst ha
    simpa using hf e.2 hmem (hc e hmem)
  · simp only [ha, if_false]
    rw [hn e.1 ha]; exact hc e hmem

theorem Counted.append {e : Nat × α}
    (he : count e.2 = UInt16.ofNat (n e.1)) : Counted count (h ++ [e]) n := by
  intro e' he'
  rcases List.mem_append.1 he' with hm | hm
  · exact hc e' hm
  · rw [List.mem_singleton.1 hm]; exact he

theorem Counted.filter {p : Nat × α → Bool} : Counted count (h.filter p) n :=
  fun e he => hc e ((List.mem_filter.1 he).1)

end Counted

end Lldpd.Core
