import Mathlib.Data.List.TakeWhile

/-!
# Numbers as text

What `atoi` reads, what `printf("%d")` writes, and that the first undoes the
second (`atoi_printInt`). `long` has 64 bits and `int` has 32.

`strtolEnd` is where `strtol` stops: it takes all the digits in front of a
text (`strtol_append`, `strtolEnd_append`), and nothing when there are none.
-/
namespace Lldpd.Core

abbrev Text := List Char

instance (t : Text) (ts : List Text) : Decidable (t ∈ ts) := inferInstance

def isSpace (c : Char) : Bool := c = ' ' ∨ (9 ≤ c.toNat ∧ c.toNat ≤ 13)

def leadingNat (t : Text) : Nat := Nat.ofDigitChars 10 (t.takeWhile Char.isDigit) 0

/-- `strtol(t, NULL, 10)`. A number out of range becomes the nearest one in
it. -/
def strtol (t : Text) : Int :=
  match t.dropWhile isSpace with
  | '-' :: t => max (-9223372036854775808) (-(leadingNat t))
  | '+' :: t => min 9223372036854775807 (leadingNat t)
  | t => min 9223372036854775807 (leadingNat t)

def afterSign : Text → Text
  | '-' :: t => t
  | '+' :: t => t
  | t => t

/-- What `strtol` leaves unread: everything when it finds no digit. -/
def strtolEnd (t : Text) : Text :=
  let u := afterSign (t.dropWhile isSpace)
  if u.takeWhile Char.isDigit = [] then t else u.dropWhile Char.isDigit

def atoi (t : Text) : Int := (strtol t).bmod 4294967296

def IsInt (n : Int) : Prop := -2147483648 ≤ n ∧ n < 2147483648

def printInt (n : Int) : Text :=
  if n < 0 then '-' :: Nat.toDigits 10 n.natAbs else Nat.toDigits 10 n.natAbs

theorem not_isSpace {c : Char} (h : c.isDigit = true) : isSpace c = false := by
  simp only [Char.isDigit, Bool.and_eq_true, decide_eq_true_eq] at h
  have h0 : (48 : UInt32).toNat ≤ c.toNat := h.1
  have hspace : c ≠ ' ' := by
    intro he
    subst he
    exact absurd h0 (by decide)
  have h48 : (48 : UInt32).toNat = 48 := rfl
  simp only [isSpace, hspace, false_or, decide_eq_false_iff_not]
  omega

/-! ## Where a number ends -/

/-- The text starts with neither white space nor a sign. -/
def Unsigned (t : Text) : Prop := ∀ c ∈ t.head?, isSpace c = false ∧ c ≠ '-' ∧ c ≠ '+'

def EndsDigits (t : Text) : Prop := ∀ c ∈ t.head?, c.isDigit = false

section
variable {ds t : Text}

section
variable (hd : ∀ c ∈ ds, c.isDigit = true)
include hd

theorem takeWhile_digits (ht : EndsDigits t) : (ds ++ t).takeWhile Char.isDigit = ds := by
  rw [List.takeWhile_append_of_pos hd]
  cases t with
  | nil => simp
  | cons c t => simp [ht c rfl]

theorem dropWhile_digits (ht : EndsDigits t) : (ds ++ t).dropWhile Char.isDigit = t := by
  rw [List.dropWhile_append_of_pos hd]
  cases t with
  | nil => simp
  | cons c t => simp [ht c rfl]

theorem leadingNat_append (ht : EndsDigits t) :
    leadingNat (ds ++ t) = Nat.ofDigitChars 10 ds 0 := by
  rw [leadingNat, takeWhile_digits hd ht]

theorem unsigned_append (hu : Unsigned t) : Unsigned (ds ++ t) := by
  cases ds with
  | nil => exact hu
  | cons d ds =>
    intro c hc
    cases hc
    have hdigit := hd d List.mem_cons_self
    refine ⟨not_isSpace hdigit, ?_, ?_⟩ <;>
    · intro he
      subst he
      cases hdigit

end

section
variable (hu : Unsigned t)
include hu

theorem dropWhile_isSpace : t.dropWhile isSpace = t := by
  cases t with
  | nil => rfl
  | cons c t => simp [(hu c rfl).1]

theorem strtol_unsigned : strtol t = min 9223372036854775807 (leadingNat t : Int) := by
  unfold strtol
  rw [dropWhile_isSpace hu]
  split
  · exact absurd rfl (hu _ rfl).2.1
  · exact absurd rfl (hu _ rfl).2.2
  · rfl

theorem afterSign_unsigned : afterSign t = t := by
  unfold afterSign
  split
  · exact absurd rfl (hu _ rfl).2.1
  · exact absurd rfl (hu _ rfl).2.2
  · rfl

theorem strtolEnd_unsigned : strtolEnd t = t.dropWhile Char.isDigit := by
  unfold strtolEnd
  simp only [dropWhile_isSpace hu, afterSign_unsigned hu]
  split
  · rename_i hnone
    have happend := List.takeWhile_append_dropWhile (p := Char.isDigit) (l := t)
    rw [hnone] at happend
    exact happend.symm
  · rfl

end

variable (hd : ∀ c ∈ ds, c.isDigit = true)
include hd

/-- The digits in front of a text, as a number. -/
theorem strtol_append (hu : Unsigned t) (ht : EndsDigits t) :
    strtol (ds ++ t) = min 9223372036854775807 (Nat.ofDigitChars 10 ds 0 : Int) := by
  rw [strtol_unsigned (unsigned_append hd hu), leadingNat_append hd ht]

theorem strtolEnd_append (hu : Unsigned t) (ht : EndsDigits t) : strtolEnd (ds ++ t) = t := by
  rw [strtolEnd_unsigned (unsigned_append hd hu), dropWhile_digits hd ht]

theorem strtol_minus_append (ht : EndsDigits t) :
    strtol ('-' :: (ds ++ t)) = max (-9223372036854775808) (-(Nat.ofDigitChars 10 ds 0 : Int)) := by
  show max (-9223372036854775808) (-((leadingNat (ds ++ t) : Nat) : Int)) = _
  rw [leadingNat_append hd ht]

end

/-! ## Reading what was printed -/

theorem digits_toDigits (n : Nat) : ∀ c ∈ Nat.toDigits 10 n, c.isDigit = true := fun _ hc =>
  Nat.isDigit_of_mem_toDigits (by decide) (by decide) hc

theorem strtol_toDigits (n : Nat) : strtol (Nat.toDigits 10 n) = min 9223372036854775807 ↑n := by
  have hread := strtol_append (t := []) (digits_toDigits n) nofun nofun
  rw [List.append_nil, Nat.ofDigitChars_toDigits (by decide) (by decide)] at hread
  exact hread

theorem strtol_minus (n : Nat) :
    strtol ('-' :: Nat.toDigits 10 n) = max (-9223372036854775808) (-↑n) := by
  have hread := strtol_minus_append (t := []) (digits_toDigits n) nofun
  rw [List.append_nil, Nat.ofDigitChars_toDigits (by decide) (by decide)] at hread
  exact hread

theorem strtol_printInt {n : Int} (h : IsInt n) : strtol (printInt n) = n := by
  unfold IsInt at h
  unfold printInt
  split
  · rw [strtol_minus]
    omega
  · rw [strtol_toDigits]
    omega

theorem atoi_printInt {n : Int} (h : IsInt n) : atoi (printInt n) = n := by
  rw [atoi, strtol_printInt h]
  unfold IsInt at h
  rw [Int.bmod_eq_of_le] <;> omega

theorem length_printInt {n : Int} : (printInt n).length < 10 ↔ -100000000 < n ∧ n < 1000000000 := by
  unfold printInt
  split
  · rw [List.length_cons, Nat.succ_lt_succ_iff, ← Nat.le_pred_iff_lt (by decide),
      Nat.length_toDigits_le_iff (by decide) (by decide)]
    have : 10 ^ Nat.pred 9 = 100000000 := by decide
    omega
  · rw [← Nat.le_pred_iff_lt (by decide), Nat.length_toDigits_le_iff (by decide) (by decide)]
    have : 10 ^ Nat.pred 10 = 1000000000 := by decide
    omega

end Lldpd.Core
