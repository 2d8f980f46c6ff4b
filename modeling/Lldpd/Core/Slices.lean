import Lldpd.Core.Packet
import Lldpd.Core.Words

/-!
# Fields of a record

A record in memory is a byte string. `slice` reads a field, `patch` writes
one, and a write to one field is not seen by a read of another: the rules ask
only that the two do not overlap.

`toInt32` and `toSize` are what C makes of a number that is stored in an `int`
or a `size_t`.
-/
namespace Lldpd.Core

/-! ## Conversions -/

def toInt32 (n : Int) : Int := (n + 0x80000000) % 0x100000000 - 0x80000000

def toSize (n : Int) : Nat := (n % 0x10000000000000000).toNat

theorem toInt32_of_lt {n : Int} (h : 0 ≤ n) (h' : n < 0x80000000) : toInt32 n = n := by
  unfold toInt32
  omega

theorem toSize_of_nonneg {n : Int} (h : 0 ≤ n) (h' : n < 0x10000000000000000) : toSize n = n.toNat := by
  unfold toSize
  rw [Int.emod_eq_of_lt h h']

/-! ## Slices -/

def slice (bs : Bytes) (i n : Nat) : Bytes := (bs.drop i).take n

section
variable {bs a : Bytes} {i j k n : Nat}

theorem length_slice (h : i + n ≤ bs.length) : (slice bs i n).length = n := by
  unfold slice
  rw [List.length_take_of_le]
  rw [List.length_drop]
  omega

theorem getElem?_slice : (slice bs i n)[j]? = if j < n then bs[i + j]? else none := by
  unfold slice
  rw [List.getElem?_take]
  split
  · exact List.getElem?_drop
  · rfl

/-! ## A slice behind a patch -/

theorem getElem?_patch (h : i + a.length ≤ bs.length) :
    (patch bs i a)[j]? = if i ≤ j ∧ j < i + a.length then a[j - i]? else bs[j]? := by
  have htake : (bs.take i).length = i := List.length_take_of_le (by omega)
  unfold patch
  by_cases hlt : j < i
  · rw [if_neg (by omega), List.append_assoc, List.getElem?_append_left (by omega),
      List.getElem?_take_of_lt hlt]
  by_cases hin : j < i + a.length
  · rw [if_pos ⟨by omega, hin⟩, List.append_assoc, List.getElem?_append_right (by omega), htake,
      List.getElem?_append_left (by omega)]
  · rw [if_neg (by omega), List.getElem?_append_right (by rw [List.length_append]; omega),
      List.length_append, List.getElem?_drop]
    congr 1
    omega

def memmove (bs : Bytes) (i j n : Nat) : Bytes := patch bs i (slice bs j n)

theorem getElem?_memmove (hi : i + n ≤ bs.length) (hj : j + n ≤ bs.length) :
    (memmove bs i j n)[k]? = if i ≤ k ∧ k < i + n then bs[j + (k - i)]? else bs[k]? := by
  have hlen : (slice bs j n).length = n := length_slice hj
  rw [memmove, getElem?_patch (by omega), hlen]
  split
  · rw [getElem?_slice, if_pos (by omega)]
  · rfl

end

end Lldpd.Core
