import Lldpd.Core.Except
import Mathlib.Algebra.Order.Ring.Int
import Mathlib.Tactic.Positivity

/-!
# Signed arithmetic with 64 bits

`long long` has no value for a result outside its range: C leaves such a
computation undefined, and so is a division by zero. Each operation here either
has the exact result or stops (`checked_ok`, `checked_overflow`).
-/
namespace Lldpd.Core

/-- What C gives no meaning. -/
inductive Undefined where
  /-- a signed result that does not fit -/
  | overflow
  /-- a division by zero -/
  | division
  /-- an access outside a buffer -/
  | outside
  /-- a loop that does not end -/
  | diverge
  deriving DecidableEq, Repr

namespace LongLong

/-- The values of `long long`. -/
def InRange (n : Int) : Prop := -9223372036854775808 ≤ n ∧ n < 9223372036854775808

instance (n : Int) : Decidable (InRange n) := inferInstanceAs (Decidable (_ ∧ _))

def checked (n : Int) : Except Undefined Int := if InRange n then .ok n else .error .overflow

def neg (a : Int) : Except Undefined Int := checked (-a)

def mul (a b : Int) : Except Undefined Int := checked (a * b)

def div (a b : Int) : Except Undefined Int :=
  if b = 0 then .error .division else checked (a.tdiv b)

/-- `a << k`. A negative number is not shifted, and nothing is shifted by the
width of its type. -/
def shl (a : Int) (k : Nat) : Except Undefined Int :=
  if 0 ≤ a ∧ k < 64 then checked (a * 2 ^ k) else .error .overflow

section
variable {a b n : Int} {k : Nat}

theorem checked_ok (h : InRange n) : checked n = .ok n := if_pos h

theorem checked_overflow (h : ¬ InRange n) : checked n = .error .overflow := if_neg h

theorem inRange_of_lt (h : 0 ≤ n) (hlt : n < 9223372036854775808) : InRange n := ⟨by omega, hlt⟩

theorem not_inRange (h : 9223372036854775808 ≤ n) : ¬ InRange n := fun hf => by
  have := hf.2
  omega

theorem shl_ok (ha : 0 ≤ a) (hk : k < 64) : shl a k = checked (a * 2 ^ k) := if_pos ⟨ha, hk⟩

/-- Powers of two up to the sign bit. -/
theorem shl_one (hk : k < 63) : shl 1 k = .ok (2 ^ k) := by
  have hlt : (2 : Int) ^ k < 2 ^ 63 := pow_lt_pow_right₀ (by decide) hk
  rw [shl_ok (by decide) (by omega), one_mul,
    checked_ok (inRange_of_lt (by positivity) (by simpa using hlt))]

theorem div_ok (ha : 0 ≤ a) (hb : 0 < b) (hf : InRange a) : div a b = .ok (a / b) := by
  have hle : a / b ≤ a := Int.ediv_le_self b ha
  have hnn : 0 ≤ a / b := Int.ediv_nonneg ha hb.le
  rw [div, if_neg hb.ne', Int.tdiv_eq_ediv_of_nonneg ha,
    checked_ok (inRange_of_lt hnn (by have := hf.2; omega))]

end

/-! ## Powers of a base -/

def scale (base : Int) : Nat → Int → Except Undefined Int
  | 0, a => .ok a
  | n + 1, a => mul a base >>= scale base n

/-- The product fits or one of the steps to it does not. -/
theorem scale_eq {base : Int} (hbase : 1 ≤ base) (n : Nat) {a : Int} (ha : 1 ≤ a) (hf : InRange a) :
    scale base n a = checked (a * base ^ n) := by
  induction n generalizing a with
  | zero => rw [pow_zero, mul_one, checked_ok hf, scale]
  | succ n ih =>
    have hstep : a * base ^ (n + 1) = a * base * base ^ n := by rw [pow_succ', mul_assoc]
    have hle : 1 ≤ a * base := Int.mul_le_mul ha hbase (by decide) (by omega)
    rw [scale, mul, hstep]
    by_cases hfit : InRange (a * base)
    · rw [checked_ok hfit, ok_bind, ih hle hfit]
    · have hbig : 9223372036854775808 ≤ a * base := by
        unfold InRange at hfit
        omega
      have hpow : 1 ≤ base ^ n := one_le_pow₀ hbase
      have hmono : a * base ≤ a * base * base ^ n := le_mul_of_one_le_right (by omega) hpow
      rw [checked_overflow hfit, checked_overflow (not_inRange (hbig.trans hmono))]
      rfl

end LongLong

end Lldpd.Core
