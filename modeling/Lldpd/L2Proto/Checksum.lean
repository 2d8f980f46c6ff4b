import Lldpd.Core.Slices
import Lldpd.L2Proto.Frame

/-!
# A frame that carries its checksum

`frame_checksum` adds the words of a frame with their carries and complements
the sum. The carries are added twice, which is enough for 65536 bytes. So, with
a last odd byte as RFC 1071 has it and with one as Cisco has it:

* a frame with its checksum in place of two zeros has the checksum 0
  (`frameChecksum_filled`, `frameChecksum_inserted`);
* the checksum is the one of RFC 1071, with the carry of each addition added
  at once (`toNat_frameChecksum_internet`).
-/
namespace Lldpd
open Core

/-- The words of a frame, added. An odd byte is the first one of its word. -/
def wordSum : Bytes → Nat
  | x :: y :: r => x.toNat * 256 + y.toNat + wordSum r
  | [v] => v.toNat * 256
  | [] => 0

/-- What a last odd byte counts. For Cisco it is the second one of its word, and
the word is one less if it is negative. -/
def lastWord (cisco : Bool) (v : UInt8) : Nat :=
  if cisco then if v &&& 0x80 ≠ 0 then 0xff00 + (v.toNat - 1) else v.toNat else v.toNat * 256

/-- The words of a frame, added, with such a last byte. -/
def checksumSum (cisco : Bool) : Bytes → Nat
  | x :: y :: r => x.toNat * 256 + y.toNat + checksumSum cisco r
  | [v] => lastWord cisco v
  | [] => 0

/-- One's complement addition: the carry comes back in at the other end. -/
def onesAdd (a b : Nat) : Nat := (a + b) / 65536 + (a + b) % 65536

/-- The one's complement sum of RFC 1071. -/
def onesSum : Bytes → Nat
  | x :: y :: r => onesAdd (x.toNat * 256 + y.toNat) (onesSum r)
  | [v] => v.toNat * 256
  | [] => 0

def internetChecksum (bytes : Bytes) : Nat := 65535 - onesSum bytes

/-- The carries, added to the low word. -/
def foldCarries (sum : Nat) : Nat :=
  let sum := sum / 65536 + sum % 65536
  (sum + sum / 65536) % 65536

section
variable {cp head body : Bytes}

theorem checksumSum_false (cp : Bytes) : checksumSum false cp = wordSum cp := by
  induction cp using wordSum.induct with
  | case1 x y r ih => rw [checksumSum, wordSum, ih]
  | case2 v => rfl
  | case3 => rfl

theorem lastWord_le (cisco : Bool) (v : UInt8) : lastWord cisco v ≤ 65535 := by
  have hv : v.toNat < 256 := v.toNat_lt
  have hneg : 0xff00 + (v.toNat - 1) ≤ 65535 := by omega
  unfold lastWord
  split
  · split
    · exact hneg
    · omega
  · omega

theorem checksumSum_le (cisco : Bool) (cp : Bytes) :
    checksumSum cisco cp ≤ (cp.length + 1) / 2 * 65535 := by
  induction cp using wordSum.induct with
  | case1 x y r ih =>
    have hx := x.toNat_lt
    have hy := y.toNat_lt
    simp only [checksumSum, List.length_cons]
    omega
  | case2 v =>
    have hone : ([v].length + 1) / 2 = 1 := by rw [List.length_singleton]
    rw [hone]
    exact lastWord_le cisco v
  | case3 => simp [checksumSum]

theorem checksumSum_append (cisco : Bool) (h : head.length % 2 = 0) :
    checksumSum cisco (head ++ body) = checksumSum cisco head + checksumSum cisco body := by
  induction head using wordSum.induct with
  | case1 x y r ih =>
    simp only [List.length_cons] at h
    simp only [List.cons_append, checksumSum]
    omega
  | case2 v =>
    simp only [List.length_cons, List.length_nil] at h
    omega
  | case3 => simp [checksumSum]

theorem toNat_byteHigh (x : UInt8) : (x.toUInt32 <<< 8).toNat = x.toNat * 256 := by
  have hx := x.toNat_lt
  rw [UInt32.toNat_shiftLeft, Nat.shiftLeft_eq]
  show x.toNat * 256 % 4294967296 = _
  omega

theorem toNat_negative {v : UInt8} (h : v &&& 0x80 ≠ 0) :
    (((0xff : UInt32) <<< 8) + (v.toUInt32 - 1)).toNat = 0xff00 + (v.toNat - 1) := by
  have hv := v.toNat_lt
  have hpos : v.toNat ≠ 0 := by
    intro hzero
    have hv0 : v = 0 := UInt8.toNat_inj.1 hzero
    rw [hv0] at h
    exact h rfl
  have hone : (1 : UInt32) ≤ v.toUInt32 := by
    show 1 ≤ v.toNat
    omega
  rw [UInt32.toNat_add, UInt32.toNat_sub_of_le _ _ hone]
  show (0xff00 + (v.toNat - 1)) % 4294967296 = 0xff00 + (v.toNat - 1)
  omega

theorem toNat_oddByte (cisco : Bool) (v : UInt8) : (oddByte cisco v).toNat = lastWord cisco v := by
  unfold oddByte lastWord
  repeat' split
  · rename_i hneg
    exact toNat_negative hneg
  · exact UInt8.toNat_toUInt32 v
  · exact toNat_byteHigh v

/-- No carry leaves the 32 bits of the sum. -/
theorem toNat_checksumWords (cisco : Bool) (h : cp.length ≤ 65536) :
    (checksumWords cisco cp).toNat = checksumSum cisco cp := by
  induction cp using wordSum.induct with
  | case1 x y r ih =>
    simp only [List.length_cons] at h
    have hle := checksumSum_le cisco (x :: y :: r)
    simp only [checksumSum, List.length_cons] at hle
    simp only [checksumWords, checksumSum]
    rw [UInt32.toNat_add, UInt32.toNat_add, toNat_byteHigh, UInt8.toNat_toUInt32]
    omega
  | case2 v => exact toNat_oddByte cisco v
  | case3 => rfl

theorem toNat_ntohs (v : UInt16) : (ntohs v).toNat = v.toNat % 256 * 256 + v.toNat / 256 := by
  have hv := v.toNat_lt
  unfold ntohs
  rw [UInt16.toNat_or, UInt16.toNat_shiftLeft, UInt16.toNat_shiftRight, Nat.shiftLeft_eq,
    Nat.shiftRight_eq_div_pow]
  show v.toNat * 256 % 65536 ||| v.toNat / 256 = _
  have hhigh : v.toNat * 256 % 65536 = (v.toNat % 256) <<< 8 := by
    omega
  rw [hhigh, ← Nat.shiftLeft_add_eq_or_of_lt (by omega), Nat.shiftLeft_eq]

theorem toNat_ntohs_not (v : UInt16) : (ntohs (~~~ ntohs v)).toNat = 65535 - v.toNat := by
  have hv := v.toNat_lt
  have hswap := toNat_ntohs v
  have hnot : (~~~ ntohs v).toNat = 65536 - 1 - (ntohs v).toNat := UInt16.toNat_not (ntohs v)
  rw [toNat_ntohs]
  omega

theorem toNat_complementSum {sum : UInt32} (h : sum.toNat < 4294901760) :
    (ntohs (complementSum sum)).toNat = 65535 - foldCarries sum.toNat := by
  have hshift (s : UInt32) : (s >>> 16).toNat = s.toNat / 65536 := by
    rw [UInt32.toNat_shiftRight, Nat.shiftRight_eq_div_pow]
    rfl
  have hand : (sum &&& (0xffff : UInt32)).toNat = sum.toNat % 65536 := by
    exact Nat.and_two_pow_sub_one_eq_mod sum.toNat 16
  have hsum : ((sum >>> 16) + (sum &&& (0xffff : UInt32))).toNat =
      sum.toNat / 65536 + sum.toNat % 65536 := by
    rw [UInt32.toNat_add, hshift]
    omega
  unfold complementSum foldCarries
  dsimp only
  rw [toNat_ntohs_not, UInt32.toNat_toUInt16, UInt32.toNat_add, hshift]
  omega

/-- The checksum as `cdp_send` and `edp_send` write it. -/
theorem toNat_frameChecksum (cisco : Bool) (h : cp.length ≤ 65536) :
    (ntohs (frameChecksum cp cisco)).toNat = 65535 - foldCarries (checksumSum cisco cp) := by
  have hsum := toNat_checksumWords cisco h
  have hle := checksumSum_le cisco cp
  have hlt : (checksumWords cisco cp).toNat < 4294901760 := by omega
  unfold frameChecksum
  rw [toNat_complementSum hlt, hsum]

theorem checksumSum_be16Bytes (cisco : Bool) (v : UInt16) :
    checksumSum cisco (be16Bytes v) = v.toNat := by
  have hv := v.toNat_lt
  simp only [be16Bytes, checksumSum, UInt8.toNat_ofNat']
  omega

/-- Adding the carries keeps the sum modulo 65535, and keeps it positive. -/
theorem foldCarries_mod {w : Nat} (hle : w ≤ 2147516415) :
    foldCarries w % 65535 = w % 65535 ∧ foldCarries w ≤ 65535 ∧ (0 < w → 0 < foldCarries w) := by
  have hw : w = 65535 * (w / 65536) + (w / 65536 + w % 65536) := by omega
  have hs : w / 65536 + w % 65536 ≤ 32768 + 65535 := by omega
  have hmod : (w / 65536 + w % 65536) % 65535 = w % 65535 := by omega
  unfold foldCarries
  dsimp only
  generalize w / 65536 + w % 65536 = s at hw hs hmod
  have hcarry : s / 65536 = 0 ∨ s / 65536 = 1 := by omega
  rcases hcarry with hc | hc
  · omega
  · omega

/-- The sum with the complement in it is a positive multiple of 65535. -/
theorem foldCarries_complement {w : Nat} (hle : w ≤ 2147450880) :
    foldCarries (w + (65535 - foldCarries w)) = 65535 := by
  obtain ⟨hmod, hsmall, hpos⟩ := foldCarries_mod (Nat.le_trans hle (by decide))
  have htotal : w + (65535 - foldCarries w) ≤ 2147516415 := by omega
  obtain ⟨hmod', hsmall', hpos'⟩ := foldCarries_mod htotal
  have hzero : w = 0 → foldCarries w = 0 := by
    intro hw
    rw [hw]
    rfl
  omega

/-- **The checksum in its place**: what comes out is zero. -/
theorem frameChecksum_filled (cisco : Bool) (heven : head.length % 2 = 0)
    (hlen : head.length + (body.length + 2) ≤ 65536) :
    frameChecksum (head ++ (be16Bytes (ntohs
      (frameChecksum (head ++ (be16Bytes 0 ++ body)) cisco)) ++ body)) cisco = 0 := by
  have hsplit (v : UInt16) : checksumSum cisco (head ++ (be16Bytes v ++ body)) =
      checksumSum cisco head + (v.toNat + checksumSum cisco body) := by
    rw [checksumSum_append cisco heven, checksumSum_append cisco (by rw [be16Bytes_length]),
      checksumSum_be16Bytes]
  have hlength (v : UInt16) : (head ++ (be16Bytes v ++ body)).length ≤ 65536 := by
    rw [List.length_append, List.length_append, be16Bytes_length]
    omega
  have hzero : checksumSum cisco (head ++ (be16Bytes 0 ++ body)) =
      checksumSum cisco head + checksumSum cisco body := by
    rw [hsplit, UInt16.toNat_zero, Nat.zero_add]
  have hle := checksumSum_le cisco (head ++ (be16Bytes 0 ++ body))
  have hlen0 := hlength 0
  have hck := toNat_frameChecksum cisco hlen0
  generalize frameChecksum (head ++ (be16Bytes 0 ++ body)) cisco = ck at hck
  have hsum : checksumSum cisco (head ++ (be16Bytes (ntohs ck) ++ body)) =
      checksumSum cisco (head ++ (be16Bytes 0 ++ body)) +
        (65535 - foldCarries (checksumSum cisco (head ++ (be16Bytes 0 ++ body)))) := by
    rw [hsplit]
    omega
  have hfold : foldCarries (checksumSum cisco (head ++ (be16Bytes (ntohs ck) ++ body))) = 65535 := by
    rw [hsum]
    apply foldCarries_complement
    omega
  have hswapped := toNat_frameChecksum cisco (hlength (ntohs ck))
  generalize frameChecksum (head ++ (be16Bytes (ntohs ck) ++ body)) cisco = v at hswapped
  rw [toNat_ntohs] at hswapped
  apply UInt16.toNat_inj.1
  show v.toNat = 0
  omega

/-! ## RFC 1071 -/

/-- The carries that are added at once leave what those that are added at the
end leave. -/
theorem onesSum_mod (cp : Bytes) : onesSum cp % 65535 = wordSum cp % 65535 ∧
    onesSum cp ≤ 65535 ∧ (0 < wordSum cp ↔ 0 < onesSum cp) := by
  induction cp using wordSum.induct with
  | case1 x y r ih =>
    obtain ⟨hmod, hle, hpos⟩ := ih
    have hx := x.toNat_lt
    have hy := y.toNat_lt
    simp only [onesSum, wordSum, onesAdd]
    generalize onesSum r = s at hmod hle hpos
    have hcarry : (x.toNat * 256 + y.toNat + s) / 65536 = 0 ∨
        (x.toNat * 256 + y.toNat + s) / 65536 = 1 := by omega
    rcases hcarry with hc | hc
    · omega
    · omega
  | case2 v =>
    have hv := v.toNat_lt
    refine ⟨rfl, ?_, Iff.rfl⟩
    show v.toNat * 256 ≤ 65535
    omega
  | case3 => simp [onesSum, wordSum]

theorem foldCarries_eq_onesSum (h : wordSum cp ≤ 2147516415) :
    foldCarries (wordSum cp) = onesSum cp := by
  obtain ⟨hmod, hle, hpos⟩ := foldCarries_mod h
  obtain ⟨hmod', hle', hpos'⟩ := onesSum_mod cp
  have hzero : wordSum cp = 0 → foldCarries (wordSum cp) = 0 := by
    intro hw
    rw [hw]
    rfl
  omega

theorem toNat_frameChecksum_internet (h : cp.length ≤ 65536) :
    (ntohs (frameChecksum cp false)).toNat = internetChecksum cp := by
  have hle := checksumSum_le false cp
  rw [checksumSum_false] at hle
  rw [toNat_frameChecksum false h, checksumSum_false, foldCarries_eq_onesSum (by omega)]
  rfl

/-! ## The field of the checksum -/

/-- **The checksum is put into a field at an even offset** that was zero: the
checksum is then 0, in both modes, and the standard one is the one of RFC 1071. -/
theorem frameChecksum_inserted (cp : Bytes) (i : Nat) (hlen : cp.length ≤ 65535) (heven : i % 2 = 0)
    (hin : i + 2 ≤ cp.length) (hzero : slice cp i 2 = be16Bytes 0) (cisco : Bool) :
    frameChecksum (patch cp i (be16Bytes (ntohs (frameChecksum cp cisco)))) cisco = 0 ∧
      (ntohs (frameChecksum cp false)).toNat = internetChecksum cp := by
  refine ⟨?_, toNat_frameChecksum_internet (by omega)⟩
  have hhead : (cp.take i).length = i := by
    rw [List.length_take]
    omega
  have htail : (cp.drop (i + 2)).length + (i + 2) = cp.length := by
    rw [List.length_drop]
    omega
  have hcp : cp = cp.take i ++ (be16Bytes 0 ++ cp.drop (i + 2)) := by
    rw [← hzero, slice, ← List.drop_drop, List.take_append_drop, List.take_append_drop]
  have hfilled := @frameChecksum_filled (cp.take i) (cp.drop (i + 2)) cisco (by rw [hhead]; exact heven)
    (by omega)
  rw [← hcp] at hfilled
  unfold patch
  rw [List.append_assoc]
  exact hfilled

/-- The header of a CDP frame and an odd byte above 127. -/
theorem frameChecksum_inserted_odd :
    frameChecksum (patch [2, 180, 0, 0, 200] 2
        (be16Bytes (ntohs (frameChecksum [2, 180, 0, 0, 200] true)))) true = 0 ∧
      (ntohs (frameChecksum [2, 180, 0, 0, 200] false)).toNat =
        internetChecksum [2, 180, 0, 0, 200] :=
  frameChecksum_inserted [2, 180, 0, 0, 200] 2 (by decide) (by decide) (by decide) (by decide) true

end

end Lldpd
