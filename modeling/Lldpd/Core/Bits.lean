import Mathlib.Data.Nat.Bitwise

/-!
# Bit fields of a word

Protocol headers pack several small numbers into one word with shifts and
`|`, and read them back with a mask and a shift. On the value of the word
packing is addition (`or_eq_add`), unpacking is division and remainder
(`field_toNat`), and a flag is one bit of it (`bit_ne_zero`).
-/
namespace Lldpd.Core

/-- A low part that fits below the bits of `x`. -/
theorem or_eq_add {x y k : Nat} (hx : 2 ^ k ∣ x) (hy : y < 2 ^ k) : x ||| y = x + y := by
  obtain ⟨a, rfl⟩ := hx
  exact (Nat.two_pow_add_eq_or_of_lt hy a).symm

/-- Masking `n` bits at `k` and shifting them down. -/
theorem field_toNat {w m : UInt32} {k n : Nat} (hk : k < 32) (hm : m.toNat = (2 ^ n - 1) <<< k) :
    ((w &&& m) >>> UInt32.ofNat k).toNat = w.toNat / 2 ^ k % 2 ^ n := by
  rw [UInt32.toNat_shiftRight, UInt32.toNat_and, hm, UInt32.toNat_ofNat',
    Nat.mod_eq_of_lt (by omega : k < 2 ^ 32), Nat.mod_eq_of_lt hk, Nat.shiftRight_and_distrib,
    Nat.shiftLeft_shiftRight, Nat.and_two_pow_sub_one_eq_mod, Nat.shiftRight_eq_div_pow]

theorem bit_ne_zero {w m : UInt32} {k : Nat} (hm : m.toNat = 2 ^ k) :
    w &&& m ≠ 0 ↔ w.toNat / 2 ^ k % 2 = 1 := by
  rw [ne_eq, ← UInt32.toNat_inj, UInt32.toNat_and, hm, Nat.and_two_pow,
    Nat.testBit_eq_decide_div_mod_eq]
  by_cases h : w.toNat / 2 ^ k % 2 = 1 <;> simp [h]

end Lldpd.Core
