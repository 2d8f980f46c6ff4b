import Lldpd.Core.Bytes

/-!
# Little-endian words

How a structure lies in memory on the machines the daemon runs on: the least
significant byte of an integer comes first. `leBytes` is an integer of a given
width, `leNat` reads one.
-/
namespace Lldpd.Core

def leBytes : Nat → Nat → Bytes
  | 0, _ => []
  | width + 1, n => UInt8.ofNat n :: leBytes width (n / 256)

def leNat (bs : Bytes) : Nat := bs.foldr (fun b n => b.toNat + 256 * n) 0

@[simp] theorem leNat_cons (b : UInt8) (bs : Bytes) : leNat (b :: bs) = b.toNat + 256 * leNat bs := rfl

@[simp] theorem length_leBytes (width n : Nat) : (leBytes width n).length = width := by
  induction width generalizing n with
  | zero => rfl
  | succ width ih => rw [leBytes, List.length_cons, ih]

theorem leNat_leBytes {width n : Nat} (h : n < Nat.pow 256 width) : leNat (leBytes width n) = n := by
  induction width generalizing n with
  | zero => exact (Nat.lt_one_iff.1 h).symm
  | succ width ih =>
    have h : n < Nat.pow 256 width * 256 := h
    rw [leBytes, leNat_cons, ih (Nat.div_lt_of_lt_mul (by omega)), UInt8.toNat_ofNat']
    omega

end Lldpd.Core
