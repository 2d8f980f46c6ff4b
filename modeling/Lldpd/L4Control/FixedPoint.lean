import Lldpd.Core.Bytes
import Lldpd.Core.LongLong
import Lldpd.Core.Text
import Mathlib.Data.Rat.Floor

/-!
# Fixed point numbers (`lib/fixedpoint.c`)

A coordinate of a location is a decimal number that the user types and
`fp_strtofp` turns into `intbits` bits for the integer part and `fltbits` bits
for the fraction. All of it is computed with `long long`: the power of ten that
belongs to the digits of the fraction, and the fraction shifted by `fltbits`
before it is divided by that power.

`fpStrtofp_iff`: on a decimal number that is not negative the result is the
integer part, limited to what the bits hold, and the fraction cut to `fltbits`
bits, exactly when the fraction has at most 18 digits and, shifted, stays below
2^63. Otherwise a signed computation overflows. With the 25 bits of a latitude
twelve digits are enough for that (`fpStrtofp_twelve_digits`).
-/
namespace Lldpd.FixedPoint
open Core Core.LongLong

/-! ## The functions -/

structure Integer where
  value : Int
  bits : Nat
  deriving DecidableEq, Repr

structure Fraction where
  value : Int
  bits : Nat
  precision : Nat
  deriving DecidableEq, Repr

structure FpNumber where
  integer : Integer
  fraction : Fraction
  deriving DecidableEq, Repr

def strtoll (t : Text) : Int × Text := (strtol t, strtolEnd t)

/-- `1LL << (intbits - 1)`. The difference is unsigned. -/
def signBit (intbits : Nat) : Except Undefined Int :=
  shl 1 ((intbits + 4294967295) % 4294967296)

/-- The value, or the nearest one that `intbits` bits hold: what `fp_strtofp`
and `fp_negate` do with an integer part. -/
def limit (intbits : Nat) (value : Int) : Except Undefined Int := do
  let top ← signBit intbits
  if value ≥ top then return top - 1
  else if value < -top then return -top
  else return value

def precisionBits (precision : Int) : Nat :=
  if precision = 1 then 1 else (precision - 1).toNat.log2 + 1

/-- What `fp_strtofp` does behind the integer part: the fraction, and `endptr`
after it. -/
def strtofraction (endptr : Text) (fltbits : Nat) : Except Undefined (Fraction × Text) :=
  match endptr with
  | '.' :: e2 => do
    let (value, endptr) := strtoll e2
    -- one factor for every character that was read
    let precision ← scale 10 (e2.length - endptr.length) 1
    let value ← shl value fltbits
    let value ← div value precision
    return (⟨value, fltbits, min (precisionBits precision) fltbits⟩, endptr)
  | _ => .ok (⟨0, fltbits, 0⟩, endptr)

def fpStrtofp (repr : Text) (intbits fltbits : Nat) : Except Undefined (FpNumber × Text) := do
  let (value, endptr) := strtoll repr
  let value ← limit intbits value
  let (fraction, endptr) ← strtofraction endptr fltbits
  return (⟨⟨value, intbits⟩, fraction⟩, endptr)

/-- `(1 << n) - 1` -/
def mask (n : Nat) : BitVec 64 := 1#64 <<< n - 1#64

/-- A byte as a word. -/
def word (b : UInt8) : BitVec 64 := b.toBitVec.setWidth 64

/-- The turns of the loop of `fp_buftofp` for one of `*ints[]`, with `i` and `ibit` afterwards.
Every turn but the last one takes a bit at least. -/
def getField (buf : Bytes) :
    Nat → BitVec 64 → Nat → Nat → Nat → Except Undefined (BitVec 64 × Nat × Nat)
  | 0, _, _, _, _ => .error .diverge
  | turns + 1, int, i, ibit, bits =>
    match buf[i]? with
    | none => .error .outside
    | some b =>
      if ibit > bits then
        .ok (int ||| (word b >>> (ibit - bits) &&& mask bits), i, ibit - bits)
      else
        getField buf turns (int ||| (word b &&& mask ibit) <<< (bits - ibit)) (i + 1) 8 (bits - ibit)

def fpBuftofp (buf : Bytes) (intbits fltbits shift : Nat) : Except Undefined FpNumber := do
  let bits := intbits + fltbits
  let (precision, i, ibit) ← getField buf 7 0#64 (shift / 8) (8 - shift % 8) 6
  let (value, _) ← getField buf (bits + 1) 0#64 i ibit bits
  let precision := if precision.toNat > intbits then precision.toNat - intbits else intbits
  let negative := value &&& 1#64 <<< (bits - 1) ≠ 0#64
  let value := if negative then (~~~value + 1#64) &&& mask (bits - 1) else value
  let integer := (value >>> fltbits).toInt
  let integer ← if negative then neg integer else .ok integer
  return ⟨⟨integer, intbits⟩, ⟨(value &&& mask fltbits).toInt, fltbits, precision⟩⟩

/-! ## Reading inside the buffer -/

section Inside
variable {buf : Bytes}

/-- The bit behind a field is read with it. -/
theorem getField_inside {turns i ibit bits : Nat} (int : BitVec 64) (hibit : 1 ≤ ibit)
    (hibit' : ibit ≤ 8) (hturns : bits < turns) (h : 8 * i + 8 - ibit + bits < 8 * buf.length) :
    ∃ int' i' ibit', getField buf turns int i ibit bits = .ok (int', i', ibit') ∧
      8 * i' + 8 - ibit' = 8 * i + 8 - ibit + bits ∧ 1 ≤ ibit' ∧ ibit' ≤ 8 := by
  induction turns generalizing int i ibit bits with
  | zero => omega
  | succ turns ih =>
    rw [getField, List.getElem?_eq_getElem (by omega : i < buf.length)]
    dsimp only
    split
    · exact ⟨_, _, _, rfl, by omega, by omega, by omega⟩
    · obtain ⟨int', i', ibit', hok, hpos, hrange⟩ := @ih (i + 1) 8 (bits - ibit)
        (int ||| (word buf[i] &&& mask ibit) <<< (bits - ibit)) (by decide) (by decide) (by omega)
          (by omega)
      exact ⟨int', i', ibit', hok, by omega, hrange⟩

theorem fpBuftofp_inside {intbits fltbits shift : Nat} (hbits : 0 < fltbits)
    (h : shift + 6 + intbits + fltbits < 8 * buf.length) :
    ∃ fp, fpBuftofp buf intbits fltbits shift = .ok fp := by
  obtain ⟨precision, i, ibit, hget, hpos, hibit, hibit'⟩ := @getField_inside buf 7 (shift / 8)
    (8 - shift % 8) 6 0#64 (by omega) (by omega) (by decide) (by omega)
  obtain ⟨value, i', ibit', hget', -⟩ := @getField_inside buf _ i ibit _ 0#64 hibit hibit'
    (Nat.lt_succ_self (intbits + fltbits)) (by omega)
  unfold fpBuftofp
  rw [hget, ok_bind]
  dsimp only
  rw [hget', ok_bind]
  split
  · -- a shift to the right leaves no number that is not there with the other sign
    generalize (~~~value + 1#64) &&& mask (intbits + fltbits - 1) = magnitude
    have hlt : (magnitude >>> fltbits).toNat < 2 ^ 63 := by
      rw [BitVec.toNat_ushiftRight, Nat.shiftRight_eq_div_pow, Nat.div_lt_iff_lt_mul (by positivity)]
      have hpow : 2 ≤ 2 ^ fltbits := Nat.le_self_pow (by omega) 2
      omega
    have hint : (magnitude >>> fltbits).toInt = (magnitude >>> fltbits).toNat :=
      BitVec.toInt_eq_toNat_of_lt (by omega)
    rw [neg, checked_ok ⟨by omega, by omega⟩]
    exact ⟨_, rfl⟩
  · exact ⟨_, rfl⟩

end Inside

/-! ## Decimal numbers -/

/-- A decimal number without a sign, as it is written. -/
structure Decimal where
  whole : Text
  /-- what is behind the point, if there is one -/
  fraction : Option Text
  whole_digits : ∀ c ∈ whole, c.isDigit = true
  fraction_digits : ∀ fs ∈ fraction, ∀ c ∈ fs, c.isDigit = true

namespace Decimal
variable (d : Decimal)

def tail : Text := d.fraction.elim [] ('.' :: ·)

def text : Text := d.whole ++ d.tail

def integer : Nat := Nat.ofDigitChars 10 d.whole 0

def digits : Text := d.fraction.getD []

def numerator : Nat := Nat.ofDigitChars 10 d.digits 0

def frac : ℚ := d.numerator / 10 ^ d.digits.length

def value : ℚ := d.integer + d.frac

def scaled (fltbits : Nat) : Nat := d.numerator * 2 ^ fltbits / 10 ^ d.digits.length

def precision (fltbits : Nat) : Nat :=
  d.fraction.elim 0 fun fs => min (precisionBits (10 ^ fs.length)) fltbits

/-- The computation of the fraction stays inside `long long`. -/
def FractionFits (fltbits : Nat) : Prop :=
  d.digits.length ≤ 18 ∧ d.numerator * 2 ^ fltbits < 9223372036854775808

instance (fltbits : Nat) : Decidable (d.FractionFits fltbits) :=
  inferInstanceAs (Decidable (_ ∧ _))

end Decimal

theorem ofDigitChars_lt {ds : Text} (hd : ∀ c ∈ ds, c.isDigit = true) :
    Nat.ofDigitChars 10 ds 0 < 10 ^ ds.length := by
  induction ds with
  | nil => simp
  | cons c ds ih =>
    have hc := hd c List.mem_cons_self
    have hlt := ih fun c hc => hd c (List.mem_cons_of_mem _ hc)
    have hdigit : c.toNat - '0'.toNat ≤ 9 := by
      simp only [Char.isDigit, Bool.and_eq_true, decide_eq_true_eq] at hc
      have h9 : c.toNat ≤ (57 : UInt32).toNat := hc.2
      have h57 : (57 : UInt32).toNat = 57 := rfl
      have h48 : '0'.toNat = 48 := rfl
      omega
    have hmul : 10 ^ ds.length * (c.toNat - '0'.toNat) ≤ 10 ^ ds.length * 9 :=
      Nat.mul_le_mul_left _ hdigit
    rw [Nat.ofDigitChars_cons, Nat.ofDigitChars_eq_ofDigitChars_zero, List.length_cons,
      Nat.zero_add]
    omega

namespace Decimal
variable {d : Decimal}

theorem digits_isDigit : ∀ c ∈ d.digits, c.isDigit = true := by
  unfold digits
  cases hf : d.fraction with
  | none => simp
  | some fs => exact d.fraction_digits fs hf

theorem numerator_lt : d.numerator < 10 ^ d.digits.length := ofDigitChars_lt digits_isDigit

theorem floor_frac (fltbits : Nat) : ⌊d.frac * 2 ^ fltbits⌋ = (d.scaled fltbits : Int) := by
  have hdiv := Rat.floor_intCast_div_natCast ((d.numerator * 2 ^ fltbits : Nat) : Int)
    (10 ^ d.digits.length)
  unfold scaled
  rw [Int.natCast_ediv, ← hdiv]
  unfold frac
  congr 1
  push_cast
  ring

theorem scaled_lt (fltbits : Nat) : d.scaled fltbits < 2 ^ fltbits := by
  unfold scaled
  rw [Nat.div_lt_iff_lt_mul (by positivity), mul_comm]
  exact Nat.mul_lt_mul_of_pos_left numerator_lt (by positivity)

end Decimal

/-! ## What is parsed -/

section
variable {d : Decimal} {fs rest : Text} {intbits fltbits : Nat} {v : Int}

theorem signBit_eq (hi : 1 ≤ intbits) (hi' : intbits ≤ 63) :
    signBit intbits = .ok (2 ^ (intbits - 1)) := by
  have hsub : (intbits + 4294967295) % 4294967296 = intbits - 1 := by omega
  rw [signBit, hsub, shl_one (by omega)]

theorem limit_eq (hi : 1 ≤ intbits) (hi' : intbits ≤ 63) (v : Int) :
    limit intbits v = .ok (max (-2 ^ (intbits - 1)) (min v (2 ^ (intbits - 1) - 1))) := by
  have hpos : (0 : Int) < 2 ^ (intbits - 1) := by positivity
  rw [limit, signBit_eq hi hi', ok_bind]
  split
  · exact congrArg Except.ok (by omega)
  · split
    · exact congrArg Except.ok (by omega)
    · exact congrArg Except.ok (by omega)

/-- The digits behind a point: the power of ten and the shifted number have to
fit. -/
theorem strtofraction_point (hd : ∀ c ∈ fs, c.isDigit = true) (hu : Unsigned rest)
    (he : EndsDigits rest) (hk : fltbits < 64) :
    strtofraction ('.' :: (fs ++ rest)) fltbits =
      if fs.length ≤ 18 ∧ Nat.ofDigitChars 10 fs 0 * 2 ^ fltbits < 9223372036854775808 then
        .ok (⟨(Nat.ofDigitChars 10 fs 0 * 2 ^ fltbits / 10 ^ fs.length : Nat), fltbits,
          min (precisionBits (10 ^ fs.length)) fltbits⟩, rest)
      else .error .overflow := by
  have hread : (fs ++ rest).length - rest.length = fs.length := by simp
  have hlt := ofDigitChars_lt hd
  have hscale : scale 10 fs.length 1 = checked (10 ^ fs.length) := by
    rw [scale_eq (by decide) _ (by decide) (by decide), one_mul]
  simp only [strtofraction, strtoll, strtol_append hd hu he, strtolEnd_append hd hu he, hread, hscale]
  by_cases hn : fs.length ≤ 18
  · have hpow : 10 ^ fs.length ≤ 10 ^ 18 := Nat.pow_le_pow_right (by decide) hn
    have hten : (10 : Int) ^ fs.length ≤ 10 ^ 18 := by exact_mod_cast hpow
    have hmin : min 9223372036854775807 (Nat.ofDigitChars 10 fs 0 : Int) =
        Nat.ofDigitChars 10 fs 0 := by omega
    rw [checked_ok (inRange_of_lt (by positivity) (by omega)), ok_bind, hmin,
      shl_ok (by positivity) hk]
    by_cases hfit : Nat.ofDigitChars 10 fs 0 * 2 ^ fltbits < 9223372036854775808
    · have hfits : InRange ((Nat.ofDigitChars 10 fs 0 : Int) * 2 ^ fltbits) :=
        inRange_of_lt (by positivity) (by exact_mod_cast hfit)
      rw [if_pos ⟨hn, hfit⟩, checked_ok hfits, ok_bind,
        div_ok (by positivity) (by positivity) hfits]
      rfl
    · have hbig : ¬ InRange ((Nat.ofDigitChars 10 fs 0 : Int) * 2 ^ fltbits) :=
        not_inRange (by exact_mod_cast Nat.le_of_not_lt hfit)
      rw [if_neg fun h => hfit h.2, checked_overflow hbig]
      rfl
  · have hpow : 10 ^ 19 ≤ 10 ^ fs.length := Nat.pow_le_pow_right (by decide) (by omega)
    have hten : (10 : Int) ^ 19 ≤ 10 ^ fs.length := by exact_mod_cast hpow
    rw [if_neg fun h => hn h.1, checked_overflow (not_inRange (by omega))]
    rfl

structure Stops (rest : Text) : Prop where
  signless : Unsigned rest
  digitless : EndsDigits rest
  pointless : ∀ c ∈ rest.head?, c ≠ '.'

theorem stops_nil : Stops [] := ⟨nofun, nofun, nofun⟩

theorem strtofraction_none (hp : ∀ c ∈ rest.head?, c ≠ '.') :
    strtofraction rest fltbits = .ok (⟨0, fltbits, 0⟩, rest) := by
  unfold strtofraction
  split
  · exact absurd rfl (hp _ rfl)
  · rfl

variable (hr : Stops rest)
include hr

theorem strtofraction_tail (hk : fltbits < 64) : strtofraction (d.tail ++ rest) fltbits =
      if d.FractionFits fltbits then
        .ok (⟨d.scaled fltbits, fltbits, d.precision fltbits⟩, rest)
      else .error .overflow := by
  obtain ⟨whole, fraction, hw, hfrac⟩ := d
  cases fraction with
  | none =>
    have hfits : Decimal.FractionFits ⟨whole, none, hw, hfrac⟩ fltbits :=
      ⟨Nat.zero_le _, by simp [Decimal.numerator, Decimal.digits]⟩
    rw [if_pos hfits]
    exact (strtofraction_none hr.pointless).trans
      (by simp [Decimal.scaled, Decimal.numerator, Decimal.digits, Decimal.precision])
  | some fs => exact strtofraction_point (hfrac fs rfl) hr.signless hr.digitless hk

theorem Stops.tail_unsigned : Unsigned (d.tail ++ rest) := by
  unfold Decimal.tail
  cases d.fraction with
  | none => exact hr.signless
  | some fs =>
    intro c hc
    cases hc
    decide

theorem Stops.tail_endsDigits : EndsDigits (d.tail ++ rest) := by
  unfold Decimal.tail
  cases d.fraction with
  | none => exact hr.digitless
  | some fs =>
    intro c hc
    cases hc
    decide

/-- A decimal number with text behind it. -/
theorem fpStrtofp_text (hi : 1 ≤ intbits) (hi' : intbits ≤ 63) (hk : fltbits < 64) :
    fpStrtofp (d.text ++ rest) intbits fltbits =
      if d.FractionFits fltbits then
        .ok (⟨⟨min d.integer (2 ^ (intbits - 1) - 1), intbits⟩,
          ⟨d.scaled fltbits, fltbits, d.precision fltbits⟩⟩, rest)
      else .error .overflow := by
  have hu := hr.tail_unsigned (d := d)
  have he := hr.tail_endsDigits (d := d)
  have hpos : (0 : Int) < 2 ^ (intbits - 1) := by positivity
  have hle : (2 : Int) ^ (intbits - 1) ≤ 2 ^ 62 := pow_le_pow_right₀ (by decide) (by omega)
  have hvalue : max (-2 ^ (intbits - 1)) (min (min 9223372036854775807
      (Nat.ofDigitChars 10 d.whole 0 : Int)) (2 ^ (intbits - 1) - 1)) =
      min (d.integer : Int) (2 ^ (intbits - 1) - 1) := by
    unfold Decimal.integer
    omega
  simp only [fpStrtofp, strtoll, Decimal.text, List.append_assoc,
    strtol_append d.whole_digits hu he, strtolEnd_append d.whole_digits hu he, limit_eq hi hi',
    strtofraction_tail hr hk, hvalue]
  split
  · rfl
  · rfl

end

/-- Latitude, longitude and altitude are parsed as the bits allow exactly when
the computation of the fraction stays inside `long long`. -/
theorem fpStrtofp_iff (d : Decimal) {intbits fltbits : Nat} (hi : 2 ≤ intbits)
    (hf : 1 ≤ fltbits) (h : intbits + fltbits ≤ 63) :
    (∃ fp, fpStrtofp d.text intbits fltbits = .ok (fp, []) ∧
      fp.integer.value = min (d.integer : Int) (2 ^ (intbits - 1) - 1) ∧
      ∀ fs, d.fraction = some fs → fp.fraction.value = ⌊d.frac * 2 ^ fltbits⌋ ∧
        0 ≤ fp.fraction.value ∧ fp.fraction.value < 2 ^ fltbits) ↔
    d.FractionFits fltbits := by
  have htext := fpStrtofp_text (d := d) stops_nil (by omega : 1 ≤ intbits)
    (by omega) (by omega : fltbits < 64)
  rw [List.append_nil] at htext
  rw [htext]
  constructor
  · intro ⟨fp, hok, _⟩
    by_contra hfits
    rw [if_neg hfits] at hok
    cases hok
  · intro hfits
    rw [if_pos hfits]
    refine ⟨_, rfl, rfl, fun fs _ => ⟨(d.floor_frac fltbits).symm, Int.natCast_nonneg _, ?_⟩⟩
    show (d.scaled fltbits : Int) < 2 ^ fltbits
    exact_mod_cast d.scaled_lt fltbits

def short : Decimal := ⟨['4', '8'], some ['8', '5', '8', '3'], by simp, by simp⟩

/-- 48.858370123456, the same place with twelve digits. -/
def long : Decimal :=
  ⟨['4', '8'], some ['8', '5', '8', '3', '7', '0', '1', '2', '3', '4', '5', '6'], by simp,
    by simp⟩

theorem fpStrtofp_iff_short : ∃ fp, fpStrtofp "48.8583".toList 9 25 = .ok (fp, []) ∧
    fp.integer.value = 48 ∧ fp.fraction.value = ⌊short.frac * 2 ^ 25⌋ := by
  obtain ⟨fp, hok, hint, hfrac⟩ := (fpStrtofp_iff short (by decide : 2 ≤ 9) (by decide : 1 ≤ 25)
    (by decide)).2 (by decide)
  exact ⟨fp, hok, hint.trans (by decide), (hfrac _ rfl).1⟩

/-- 858370123456 · 2^25 does not fit. -/
theorem fpStrtofp_twelve_digits : long.text = "48.858370123456".toList ∧
    fpStrtofp long.text 9 25 = .error .overflow := by
  decide

end Lldpd.FixedPoint
