import Lldpd.Core.Cursor
import Lldpd.Core.Text

/-!
# Formatted output into fixed arrays

C code that builds several strings in one array keeps an offset and calls
`sprintf(&buf[offset], ..)`. Nothing stops it at the end of the array, and
`%s` reads its argument up to the first NUL, wherever that is. Here a read
past the end of the argument and a write past the end of the array are faults.

A string that was written can be read back (`str_sprintf_same`), also after
something has been written behind it (`str_sprintf_behind`).
-/
namespace Lldpd.Core

/-- `%s` of a pointer to a block of memory. -/
def readStr (block : Bytes) : Except Fault Bytes :=
  if 0 ∈ block then .ok (cstr block) else .error .oob

def digitBytes (t : Text) : Bytes := t.map fun c => UInt8.ofNat c.toNat

def fmtInt (n : Int) : Bytes := digitBytes (printInt n)

/-- `%llx` of a `long long`. -/
def fmtHex (n : Int) : Bytes :=
  digitBytes (Nat.toDigits 16 (n % 18446744073709551616).toNat)

def fmtHexByte (v : UInt8) : Bytes :=
  digitBytes [Nat.digitChar (v.toNat / 16), Nat.digitChar (v.toNat % 16)]

/-! ## NUL-terminated strings -/

section Strings
variable {s u : Bytes}

theorem zero_notMem_cstr (s : Bytes) : 0 ∉ cstr s := by
  intro h
  have hne := List.mem_takeWhile_imp h
  simp at hne

/-- A string ends at the first NUL of its block. -/
theorem readStr_eq_ok : readStr s = .ok u ↔ 0 ∉ u ∧ ∃ t, s = u ++ 0 :: t := by
  constructor
  · intro h
    unfold readStr at h
    split at h
    · rename_i hz
      cases h
      obtain ⟨a, t, rfl, ha⟩ := List.eq_append_cons_of_mem hz
      rw [cstr_append_zero ha]
      exact ⟨ha, t, rfl⟩
    · cases h
  · intro h
    obtain ⟨hu, t, rfl⟩ := h
    rw [readStr, if_pos (by simp), cstr_append_zero hu]

/-- A NUL behind a block ends what is read of it. -/
theorem readStr_append_zero (s t : Bytes) : readStr (s ++ 0 :: t) = .ok (cstr s) := by
  by_cases hz : 0 ∈ s
  · obtain ⟨a, c, rfl, ha⟩ := List.eq_append_cons_of_mem hz
    refine readStr_eq_ok.2 ⟨zero_notMem_cstr _, c ++ 0 :: t, ?_⟩
    rw [cstr_append_zero ha]
    simp
  · exact readStr_eq_ok.2 ⟨zero_notMem_cstr _, t, by rw [cstr_eq_self hz]⟩

theorem readStr_of_mem (h : 0 ∈ s) : readStr s = .ok (cstr s) := if_pos h

theorem readStr_of_notMem (h : 0 ∉ s) : readStr s = .error .oob := if_neg h

end Strings

/-! ## Digits -/

/-- An `int` takes eleven characters at most. -/
theorem length_fmtInt {n : Int} (h : IsInt n) : (fmtInt n).length ≤ 11 := by
  unfold IsInt at h
  have hdigits : (Nat.toDigits 10 n.natAbs).length ≤ 10 :=
    (Nat.length_toDigits_le_iff (by decide) (by decide)).2 (by omega)
  unfold fmtInt digitBytes printInt
  split
  · simp only [List.length_map, List.length_cons]
    omega
  · simp only [List.length_map]
    omega

/-! ## Arrays that are written at an offset -/

namespace Buffer
variable {n off pos : Nat} {buf buf' : Buffer n} {s u : Bytes}

theorem length_overwrite {l src : Bytes} (h : off + src.length ≤ l.length) :
    (l.take off ++ src ++ l.drop (off + src.length)).length = l.length := by
  simp only [List.length_append, List.length_take, List.length_drop]
  omega

def sprintf (buf : Buffer n) (off : Nat) (s : Bytes) : Except Fault (Buffer n) :=
  if h : off + (s ++ [0]).length ≤ buf.1.length then
    .ok ⟨buf.1.take off ++ (s ++ [0]) ++ buf.1.drop (off + (s ++ [0]).length),
      (length_overwrite h).trans buf.2⟩
  else .error .overflow

def str (buf : Buffer n) (pos : Nat) : Except Fault Bytes := readStr (buf.1.drop pos)

theorem sprintf_eq_ok : buf.sprintf off s = .ok buf' ↔ off + s.length + 1 ≤ n ∧
    buf'.1 = buf.1.take off ++ (s ++ [0]) ++ buf.1.drop (off + (s ++ [0]).length) := by
  unfold sprintf
  split
  · rename_i h
    simp only [List.length_append, List.length_singleton] at h
    constructor
    · intro he
      cases he
      exact ⟨by omega, rfl⟩
    · intro he
      exact congrArg Except.ok (Subtype.ext he.2.symm)
  · rename_i h
    simp only [List.length_append, List.length_singleton] at h
    constructor
    · intro he
      cases he
    · omega

theorem sprintf_of_le (buf : Buffer n) (h : off + s.length + 1 ≤ n) :
    ∃ buf', buf.sprintf off s = .ok buf' := by
  unfold sprintf
  rw [dif_pos (by simp only [List.length_append, List.length_singleton]; omega)]
  exact ⟨_, rfl⟩

theorem str_sprintf_same (h : buf.sprintf off s = .ok buf') : buf'.str off = .ok (cstr s) := by
  obtain ⟨hle, hb⟩ := sprintf_eq_ok.1 h
  have hoff : (buf.1.take off).length = off := by
    rw [List.length_take]
    omega
  have hdrop : buf'.1.drop off = s ++ 0 :: buf.1.drop (off + (s ++ [0]).length) := by
    rw [hb, List.append_assoc, List.drop_append_of_le_length (by omega)]
    simp
  rw [str, hdrop]
  exact readStr_append_zero s _

/-- What is written behind a string does not touch it. -/
theorem str_sprintf_behind (h : buf.sprintf off s = .ok buf') (hu : buf.str pos = .ok u)
    (hpos : pos + u.length < off) : buf'.str pos = .ok u := by
  obtain ⟨hle, hb⟩ := sprintf_eq_ok.1 h
  obtain ⟨hz, t, ht⟩ := readStr_eq_ok.1 hu
  have hoff : (buf.1.take off).length = off := by
    rw [List.length_take]
    omega
  have htake : (buf.1.take off).drop pos = u ++ 0 :: t.take (off - pos - u.length - 1) := by
    rw [List.drop_take, ht, List.take_append, List.take_of_length_le (by omega),
      show off - pos - u.length = (off - pos - u.length - 1) + 1 by omega]
    simp
  have hdrop : buf'.1.drop pos = u ++ 0 :: (t.take (off - pos - u.length - 1) ++
      (s ++ [0] ++ buf.1.drop (off + (s ++ [0]).length))) := by
    rw [hb, List.append_assoc, List.drop_append_of_le_length (by omega), htake, List.append_assoc,
      List.cons_append]
  exact readStr_eq_ok.2 ⟨hz, _, hdrop⟩

end Buffer

end Lldpd.Core
