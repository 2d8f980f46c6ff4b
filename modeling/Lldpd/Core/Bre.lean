import Lldpd.Core.Bytes

/-!
# Basic regular expressions

The part of POSIX basic regular expressions that consists of characters, `.`,
bracket expressions without ranges, and `*`. `regcomp` reads a pattern,
`regexec` searches a string for a match, and `Matches` is the language of a
pattern: `regexec` succeeds if some part of the string is in it
(`regexec_iff`).
-/
namespace Lldpd.Core.Bre

/-- What one character is compared with: those of a list, or all others. -/
structure Elem where
  except : Bool
  chars : Bytes
  deriving DecidableEq, Repr

def Elem.has (e : Elem) (c : UInt8) : Bool := e.chars.any (· == c) != e.except

structure Item where
  elem : Elem
  star : Bool
  deriving DecidableEq, Repr

/-! ## Patterns -/

inductive Mode where
  | outside
  | opened
  | inside (e : Elem)
  deriving DecidableEq, Repr

def star (items : List Item) : Option (List Item) :=
  items.getLast?.map fun it => items.dropLast ++ [{ it with star := true }]

/-- One character of a pattern. What is not understood is refused: anchors,
`\`, ranges, and `]` where it is an ordinary character. -/
def compileChar : List Item × Mode → UInt8 → Option (List Item × Mode)
  | (items, .outside), c =>
    if c = 0x5b then some (items, .opened)                              -- [
    else if c = 0x2a then (star items).map fun items => (items, .outside)  -- *
    else if c = 0x2e then some (items ++ [⟨⟨true, []⟩, false⟩], .outside)   -- .
    else if c = 0x5c ∨ c = 0x5e ∨ c = 0x24 then none                    -- \ ^ $
    else some (items ++ [⟨⟨false, [c]⟩, false⟩], .outside)
  | (items, .opened), c =>
    if c = 0x5e then some (items, .inside ⟨true, []⟩)
    else if c = 0x5d ∨ c = 0x2d then none
    else some (items, .inside ⟨false, [c]⟩)
  | (items, .inside e), c =>
    if c = 0x5d then
      if e.chars = [] then none else some (items ++ [⟨e, false⟩], .outside)
    else if c = 0x2d then none
    else some (items, .inside { e with chars := e.chars ++ [c] })

def regcomp (pattern : Bytes) : Option (List Item) :=
  (pattern.foldlM compileChar ([], .outside)).bind fun st =>
    if st.2 = .outside then some st.1 else none

/-! ## The search -/

/-- What can be left of a string behind some characters of `e`. -/
def behindStar (e : Elem) : Bytes → List Bytes
  | [] => [[]]
  | c :: s => (c :: s) :: if e.has c then behindStar e s else []

def behind : List Item → Bytes → List Bytes
  | [], s => [s]
  | it :: items, s =>
    if it.star then (behindStar it.elem s).flatMap (behind items)
    else match s with
      | [] => []
      | c :: s => if it.elem.has c then behind items s else []

/-- `regexec`: there is a match somewhere in the string. -/
def regexec (items : List Item) : Bytes → Bool
  | [] => behind items [] ≠ []
  | c :: s => behind items (c :: s) ≠ [] || regexec items s

/-! ## The language -/

/-- The strings that a pattern describes. -/
inductive Matches : List Item → Bytes → Prop where
  | nil : Matches [] []
  | one {e : Elem} {items : List Item} {c : UInt8} {s : Bytes} (hc : e.has c)
      (h : Matches items s) : Matches (⟨e, false⟩ :: items) (c :: s)
  | star {e : Elem} {items : List Item} {cs s : Bytes} (hcs : ∀ c ∈ cs, e.has c)
      (h : Matches items s) : Matches (⟨e, true⟩ :: items) (cs ++ s)

theorem mem_behindStar {e : Elem} {s r : Bytes} :
    r ∈ behindStar e s ↔ ∃ cs, (∀ c ∈ cs, e.has c) ∧ s = cs ++ r := by
  induction s with
  | nil =>
    constructor
    · intro h
      rw [List.mem_singleton.1 h]
      exact ⟨[], (fun _ h => nomatch h), rfl⟩
    · rintro ⟨cs, -, h⟩
      rw [(List.append_eq_nil_iff.1 h.symm).2]
      exact List.mem_singleton_self _
  | cons c s ih =>
    unfold behindStar
    constructor
    · intro h
      rcases List.mem_cons.1 h with rfl | h
      · exact ⟨[], (fun _ h => nomatch h), rfl⟩
      · split at h
        · rename_i hc
          obtain ⟨cs, hcs, rfl⟩ := ih.1 h
          refine ⟨c :: cs, fun d hd => ?_, rfl⟩
          rcases List.mem_cons.1 hd with rfl | hd
          · exact hc
          · exact hcs d hd
        · cases h
    · rintro ⟨cs, hcs, h⟩
      cases cs with
      | nil =>
        subst h
        exact List.mem_cons_self
      | cons d cs =>
        obtain ⟨rfl, rfl⟩ := List.cons.inj h
        rw [if_pos (hcs c List.mem_cons_self)]
        apply List.mem_cons_of_mem
        exact ih.2 ⟨cs, fun d hd => hcs d (List.mem_cons_of_mem _ hd), rfl⟩

variable {items : List Item}

theorem mem_behind {s r : Bytes} : r ∈ behind items s ↔ ∃ x, Matches items x ∧ s = x ++ r := by
  induction items generalizing s with
  | nil =>
    constructor
    · intro h
      rw [List.mem_singleton.1 h]
      exact ⟨[], .nil, rfl⟩
    · rintro ⟨x, hx, rfl⟩
      cases hx
      exact List.mem_singleton_self _
  | cons it items ih =>
    obtain ⟨e, star⟩ := it
    unfold behind
    cases star with
    | true =>
      rw [if_pos rfl, List.mem_flatMap]
      constructor
      · rintro ⟨t, ht, hr⟩
        obtain ⟨cs, hcs, rfl⟩ := mem_behindStar.1 ht
        obtain ⟨x, hx, rfl⟩ := ih.1 hr
        exact ⟨cs ++ x, .star hcs hx, (List.append_assoc _ _ _).symm⟩
      · rintro ⟨x, hx, rfl⟩
        cases hx with
        | @star _ _ cs x hcs hx =>
          exact ⟨x ++ r, mem_behindStar.2 ⟨cs, hcs, List.append_assoc _ _ _⟩, ih.2 ⟨x, hx, rfl⟩⟩
    | false =>
      rw [if_neg Bool.false_ne_true]
      cases s with
      | nil =>
        constructor
        · intro h
          cases h
        · rintro ⟨x, hx, h⟩
          cases hx
          cases h
      | cons c s =>
        dsimp only
        constructor
        · intro h
          split at h
          · rename_i hc
            obtain ⟨x, hx, rfl⟩ := ih.1 h
            exact ⟨c :: x, .one hc hx, rfl⟩
          · cases h
        · rintro ⟨x, hx, h⟩
          cases hx with
          | one hc hx =>
            obtain ⟨rfl, rfl⟩ := List.cons.inj h
            rw [if_pos hc]
            exact ih.2 ⟨_, hx, rfl⟩

theorem behind_ne_nil {s : Bytes} :
    behind items s ≠ [] ↔ ∃ x after, s = x ++ after ∧ Matches items x := by
  constructor
  · intro h
    obtain ⟨r, hr⟩ := List.exists_mem_of_ne_nil _ h
    obtain ⟨x, hx, rfl⟩ := mem_behind.1 hr
    exact ⟨x, r, rfl, hx⟩
  · rintro ⟨x, after, rfl, hx⟩
    exact List.ne_nil_of_mem (mem_behind.2 ⟨x, hx, rfl⟩)

/-- A search succeeds if some part of the string is in the language. -/
theorem regexec_iff {s : Bytes} :
    regexec items s = true ↔ ∃ before x after, s = before ++ x ++ after ∧ Matches items x := by
  induction s with
  | nil =>
    unfold regexec
    rw [decide_eq_true_iff, behind_ne_nil]
    constructor
    · rintro ⟨x, after, h, hx⟩
      exact ⟨[], x, after, h, hx⟩
    · rintro ⟨before, x, after, h, hx⟩
      rw [List.append_assoc] at h
      exact ⟨x, after, (List.append_eq_nil_iff.1 h.symm).2.symm, hx⟩
  | cons c s ih =>
    unfold regexec
    rw [Bool.or_eq_true, decide_eq_true_iff, behind_ne_nil, ih]
    constructor
    · rintro (⟨x, after, h, hx⟩ | ⟨before, x, after, rfl, hx⟩)
      · exact ⟨[], x, after, h, hx⟩
      · exact ⟨c :: before, x, after, rfl, hx⟩
    · rintro ⟨before, x, after, h, hx⟩
      cases before with
      | nil => exact .inl ⟨x, after, h, hx⟩
      | cons d before =>
        obtain ⟨rfl, rfl⟩ := List.cons.inj h
        exact .inr ⟨before, x, after, rfl, hx⟩

theorem Matches.append {p q : List Item} {x y : Bytes} (hx : Matches p x) (hy : Matches q y) :
    Matches (p ++ q) (x ++ y) := by
  induction hx with
  | nil => exact hy
  | one hc _ ih => exact .one hc ih
  | star hcs _ ih =>
    rw [List.append_assoc]
    exact .star hcs ih

end Lldpd.Core.Bre
