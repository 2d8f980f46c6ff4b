import Mathlib.Data.FinEnum

/-!
# Blocks of memory and who owns them

`malloc` numbers the blocks and never uses a number again; `free` writes down
what has been given back. An `Obj` is a block with pointers to other blocks and
with lists of them.

`Accounts n m own lost` is the balance since the block `n`: every block that was
allocated is freed, in `own` or in `lost`, and in one of them only. The rules say
how it moves when a block is allocated, freed, or forgotten. In the end nothing
has leaked if and only if `lost` is empty (`Accounts.leak_iff`).
-/
namespace Lldpd.Core

structure Arena where
  next : Nat
  freed : List Nat := []
  deriving DecidableEq, Repr

namespace Arena

def malloc (m : Arena) : Nat × Arena := (m.next, { m with next := m.next + 1 })

def free (l : List Nat) (m : Arena) : Arena := { m with freed := l ++ m.freed }

end Arena

/-! ## Objects -/

/-- A block with pointers, and with the blocks of the lists it is the head of. -/
structure Obj (ι : Type) where
  self : Nat
  ptr : ι → Option Nat := fun _ => none
  items : List Nat := []

/-- What can be seen of an object without looking at the numbers of its blocks. -/
structure Shape (ι : Type) where
  ptr : ι → Bool := fun _ => false
  items : Nat := 0

namespace Shape
variable {ι : Type} [FinEnum ι]

def set (i : ι) (v : Bool) (sh : Shape ι) : Shape ι := { sh with ptr := Function.update sh.ptr i v }

def push (n : Nat) (sh : Shape ι) : Shape ι := { sh with items := sh.items + n }

end Shape

namespace Obj
variable {ι : Type} [FinEnum ι] {o : Obj ι} {i : ι}

def contents (o : Obj ι) : List Nat := (FinEnum.toList ι).filterMap o.ptr ++ o.items

def blocks (o : Obj ι) : List Nat := o.self :: o.contents

def set (i : ι) (v : Option Nat) (o : Obj ι) : Obj ι := { o with ptr := Function.update o.ptr i v }

def push (l : List Nat) (o : Obj ι) : Obj ι := { o with items := o.items ++ l }

/-- Which pointers are not NULL, and how many blocks are in the lists. -/
def shape (o : Obj ι) : Shape ι := ⟨fun i => (o.ptr i).isSome, o.items.length⟩

theorem shape_set (i : ι) (v : Option Nat) (o : Obj ι) :
    (o.set i v).shape = o.shape.set i v.isSome := by
  simp only [shape, set, Shape.set, Shape.mk.injEq, and_true]
  funext j
  simp only [Function.update_apply]
  split <;> rfl

omit [FinEnum ι] in
theorem shape_push (l : List Nat) (o : Obj ι) : (o.push l).shape = o.shape.push l.length := by
  simp [shape, push, Shape.push]

theorem ptr_set (i j : ι) (v : Option Nat) (o : Obj ι) :
    (o.set i v).ptr j = if j = i then v else o.ptr j :=
  Function.update_apply o.ptr i v j

/-- A pointer that is overwritten: the new block comes, the old one goes. -/
theorem count_filterMap_update {p : ι → Option Nat} {v : Option Nat} {l : List ι} (x : Nat)
    (hnodup : l.Nodup) : (l.filterMap (Function.update p i v)).count x +
      (if i ∈ l then (p i).toList.count x else 0) =
        (l.filterMap p).count x + if i ∈ l then v.toList.count x else 0 := by
  have hcons : ∀ (p : ι → Option Nat) (j : ι) (l : List ι), ((j :: l).filterMap p).count x =
      (p j).toList.count x + (l.filterMap p).count x := by
    intro p j l
    cases hp : p j with
    | none => simp [hp]
    | some y => simp [hp, List.count_cons, Nat.add_comm]
  induction l with
  | nil => simp
  | cons j l ih =>
    obtain ⟨hj, hnodup⟩ := List.nodup_cons.1 hnodup
    have ih := ih hnodup
    rw [hcons, hcons]
    by_cases hij : j = i
    · subst hij
      simp only [hj, if_false, Function.update_self, List.mem_cons, true_or, if_true] at ih ⊢
      omega
    · have hmem : i ∈ j :: l ↔ i ∈ l := by simp [Ne.symm hij]
      simp only [Function.update_of_ne hij, hmem]
      omega

theorem count_contents_set (x : Nat) (i : ι) (v : Option Nat) (o : Obj ι) :
    (o.set i v).contents.count x + (o.ptr i).toList.count x =
      o.contents.count x + v.toList.count x := by
  have h := count_filterMap_update (p := o.ptr) (i := i) (v := v) x (FinEnum.nodup_toList (α := ι))
  simp only [FinEnum.mem_toList, if_true] at h
  simp only [contents, set, List.count_append]
  omega

theorem count_contents_push (x : Nat) (l : List Nat) (o : Obj ι) :
    (o.push l).contents.count x = o.contents.count x + l.count x := by
  simp [contents, push, Nat.add_assoc]

end Obj

/-! ## The balance -/

structure Accounts (n : Nat) (m : Arena) (own lost : List Nat) : Prop where
  start : n ≤ m.next
  new : ∀ x ∈ own ++ lost, n ≤ x
  once : ∀ x, n ≤ x →
    m.freed.count x + own.count x + lost.count x = if x < m.next then 1 else 0

section
variable {n : Nat} {m : Arena} {own own' lost l : List Nat}

theorem accounts_start (h : ∀ x ∈ m.freed, x < m.next) : Accounts m.next m [] [] := by
  refine ⟨Nat.le_refl _, ?_, ?_⟩
  · intro x hx
    cases hx
  · intro x hx
    have hzero : m.freed.count x = 0 := by
      apply List.count_eq_zero_of_not_mem
      intro hmem
      have := h x hmem
      omega
    simp [hzero, Nat.not_lt.2 hx]

variable (h : Accounts n m own lost)
include h

/-- All blocks have been allocated. -/
theorem Accounts.lt_next {x : Nat} (hn : n ≤ x) (hx : x ∈ m.freed ∨ x ∈ own) : x < m.next := by
  have honce := h.once x hn
  split at honce
  · assumption
  · rcases hx with hx | hx
    · have := List.count_pos_iff.2 hx
      omega
    · have := List.count_pos_iff.2 hx
      omega

theorem Accounts.malloc : Accounts n m.malloc.2 (m.malloc.1 :: own) lost := by
  refine ⟨Nat.le_succ_of_le h.start, ?_, ?_⟩
  · intro x hx
    rcases List.mem_cons.1 hx with rfl | hx
    · exact h.start
    · exact h.new x hx
  · intro x hx
    have honce := h.once x hx
    show m.freed.count x + (m.next :: own).count x + lost.count x = if x < m.next + 1 then 1 else 0
    simp only [List.count_cons, beq_iff_eq]
    rcases Nat.lt_trichotomy x m.next with hlt | rfl | hgt
    · rw [if_pos hlt] at honce
      rw [if_neg (by omega), if_pos (by omega)]
      omega
    · rw [if_neg (Nat.lt_irrefl m.next)] at honce
      rw [if_pos rfl, if_pos (by omega)]
      omega
    · rw [if_neg (by omega)] at honce
      rw [if_neg (by omega), if_neg (by omega)]
      omega

/-- The same blocks in another order. -/
theorem Accounts.congr (hcount : ∀ x, own'.count x = own.count x) : Accounts n m own' lost := by
  refine ⟨h.start, ?_, ?_⟩
  · intro x hx
    apply h.new x
    rw [List.mem_append] at hx ⊢
    refine hx.imp_left fun hx => ?_
    rw [← List.count_pos_iff, ← hcount x, List.count_pos_iff]
    exact hx
  · intro x hx
    rw [hcount]
    exact h.once x hx

theorem Accounts.free
    (hcount : ∀ x, own.count x = l.count x + own'.count x) : Accounts n (m.free l) own' lost := by
  have h : Accounts n m (l ++ own') lost := h.congr fun x => by rw [List.count_append, hcount]
  refine ⟨h.start, ?_, ?_⟩
  · intro x hx
    apply h.new x
    rw [List.append_assoc]
    exact List.mem_append_right l hx
  · intro x hx
    have honce := h.once x hx
    show (l ++ m.freed).count x + own'.count x + lost.count x = if x < m.next then 1 else 0
    rw [List.count_append] at honce ⊢
    omega

/-- A block from before is not in the balance. -/
theorem Accounts.freeOld (hold : ∀ x ∈ l, x < n) : Accounts n (m.free l) own lost := by
  refine ⟨h.start, h.new, ?_⟩
  intro x hx
  have hzero : l.count x = 0 := by
    apply List.count_eq_zero_of_not_mem
    intro hmem
    have := hold x hmem
    omega
  show (l ++ m.freed).count x + own.count x + lost.count x = if x < m.next then 1 else 0
  rw [List.count_append, hzero, Nat.zero_add]
  exact h.once x hx

/-- Nobody has the blocks any more. -/
theorem Accounts.lose
    (hcount : ∀ x, own.count x = l.count x + own'.count x) : Accounts n m own' (l ++ lost) := by
  have h : Accounts n m (l ++ own') lost := h.congr fun x => by rw [List.count_append, hcount]
  refine ⟨h.start, ?_, ?_⟩
  · intro x hx
    apply h.new x
    simp only [List.mem_append] at hx ⊢
    tauto
  · intro x hx
    have honce := h.once x hx
    simp only [List.count_append] at honce ⊢
    omega

/-- Whether a block is in none of the places that are left. -/
theorem Accounts.leak_iff {reach : List Nat} (hreach : ∀ x, n ≤ x → (x ∈ reach ↔ x ∈ own)) :
    (∀ x, n ≤ x → x < m.next → x ∈ m.freed ∨ x ∈ reach) ↔ lost = [] := by
  constructor
  · intro hall
    apply List.eq_nil_iff_forall_not_mem.2
    intro x hx
    have hn := h.new x (List.mem_append_right own hx)
    have honce := h.once x hn
    have hpos := List.count_pos_iff.2 hx
    split at honce
    · rename_i hlt
      rcases hall x hn hlt with hmem | hmem
      · have := List.count_pos_iff.2 hmem
        omega
      · have := List.count_pos_iff.2 ((hreach x hn).1 hmem)
        omega
    · omega
  · intro hnil x hn hlt
    have honce := h.once x hn
    rw [if_pos hlt, hnil, List.count_nil] at honce
    by_cases hfree : x ∈ m.freed
    · exact .inl hfree
    · right
      apply (hreach x hn).2
      rw [List.count_eq_zero_of_not_mem hfree] at honce
      exact List.count_pos_iff.1 (by omega)

end

end Lldpd.Core
