/-!
# Byte strings, network byte order and C strings

Multi-byte integers travel most significant byte first (`htons`, `htonl`).
`be16`/`be32` read them, `be16Bytes`/`be32Bytes` write them, and
`be16_be16Bytes`/`be32_be32Bytes` say that reading undoes writing.

A C string is a byte string up to its first NUL (`cstr`). `Buffer n` is a
local array of `n` bytes: a copy into it either fits or overflows
(`Buffer.memcpy`).
-/
namespace Lldpd.Core

abbrev Bytes := List UInt8

/-! ## Network byte order -/

/-- `ntohs` of two bytes. -/
def be16 (a b : UInt8) : UInt16 := UInt16.ofNat (a.toNat * 256 + b.toNat)

/-- `ntohl` of four bytes. -/
def be32 (a b c d : UInt8) : UInt32 :=
  UInt32.ofNat (((a.toNat * 256 + b.toNat) * 256 + c.toNat) * 256 + d.toNat)

/-- `htons`, as the two bytes stored. -/
def be16Bytes (v : UInt16) : Bytes := [UInt8.ofNat (v.toNat / 256), UInt8.ofNat v.toNat]

/-- `htonl`, as the four bytes stored. -/
def be32Bytes (v : UInt32) : Bytes :=
  [UInt8.ofNat (v.toNat / 16777216), UInt8.ofNat (v.toNat / 65536), UInt8.ofNat (v.toNat / 256),
    UInt8.ofNat v.toNat]

@[simp] theorem be16_toNat (a b : UInt8) : (be16 a b).toNat = a.toNat * 256 + b.toNat := by
  have := a.toNat_lt; have := b.toNat_lt
  rw [be16, UInt16.toNat_ofNat']; omega

theorem be32_toNat (a b c d : UInt8) : (be32 a b c d).toNat =
    ((a.toNat * 256 + b.toNat) * 256 + c.toNat) * 256 + d.toNat := by
  have := a.toNat_lt; have := b.toNat_lt; have := c.toNat_lt; have := d.toNat_lt
  rw [be32, UInt32.toNat_ofNat']; omega

@[simp] theorem be16Bytes_length (v : UInt16) : (be16Bytes v).length = 2 := rfl

@[simp] theorem be32Bytes_length (v : UInt32) : (be32Bytes v).length = 4 := rfl

theorem be16_be16Bytes (v : UInt16) :
    be16 (UInt8.ofNat (v.toNat / 256)) (UInt8.ofNat v.toNat) = v := by
  have := v.toNat_lt
  apply UInt16.toNat_inj.mp
  rw [be16_toNat, UInt8.toNat_ofNat', UInt8.toNat_ofNat']; omega

theorem be32_be32Bytes (v : UInt32) :
    be32 (UInt8.ofNat (v.toNat / 16777216)) (UInt8.ofNat (v.toNat / 65536))
      (UInt8.ofNat (v.toNat / 256)) (UInt8.ofNat v.toNat) = v := by
  have := v.toNat_lt
  apply UInt32.toNat_inj.mp
  rw [be32_toNat, UInt8.toNat_ofNat', UInt8.toNat_ofNat', UInt8.toNat_ofNat', UInt8.toNat_ofNat']
  omega

/-! ## C strings -/

/-- The C string a buffer holds: its bytes up to the first NUL. -/
def cstr (s : Bytes) : Bytes := s.takeWhile (· != 0)

def strlen (s : Bytes) : Nat := (cstr s).length

theorem cstr_eq_self {s : Bytes} (h : 0 ∉ s) : cstr s = s := by
  induction s with
  | nil => rfl
  | cons b s ih =>
    simp only [List.mem_cons, not_or] at h
    have hb : (b != 0) = true := by simpa using fun e => h.1 e.symm
    have ht : List.takeWhile (· != 0) s = s := ih h.2
    rw [cstr, List.takeWhile_cons, if_pos hb, ht]

theorem cstr_append_zero {s : Bytes} (h : 0 ∉ s) (t : Bytes) : cstr (s ++ 0 :: t) = s := by
  induction s with
  | nil => rfl
  | cons b s ih =>
    simp only [List.mem_cons, not_or] at h
    have hb : (b != 0) = true := by simpa using fun e => h.1 e.symm
    have ht : List.takeWhile (· != 0) (s ++ 0 :: t) = s := ih h.2
    rw [cstr, List.cons_append, List.takeWhile_cons, if_pos hb, ht]

theorem strlen_le (s : Bytes) : strlen s ≤ s.length := (List.takeWhile_sublist _).length_le

def ascii (s : String) : Bytes := s.toList.map fun c => UInt8.ofNat c.toNat

/-! ## Fixed-size local arrays -/

abbrev Buffer (n : Nat) := { bs : Bytes // bs.length = n }

namespace Buffer

variable {n : Nat}

/-- `memcpy(buf, src, len)`: the bytes behind the copied ones stay; `none`
when the copy does not fit. -/
def memcpy (buf : Buffer n) (src : Bytes) : Option (Buffer n) :=
  if h : src.length ≤ n then
    some ⟨src ++ buf.1.drop src.length, by simp [buf.2]; omega⟩
  else none

def get (buf : Buffer n) (i : Nat) : UInt8 := buf.1.getD i 0

def slice (buf : Buffer n) (i len : Nat) : Bytes := (buf.1.drop i).take len

variable {src : Bytes}

theorem memcpy_eq_none {buf : Buffer n} : buf.memcpy src = none ↔ n < src.length := by
  unfold memcpy; split <;> simp <;> omega

theorem memcpy_eq_some {buf buf' : Buffer n} (h : buf.memcpy src = some buf') :
    src.length ≤ n ∧ buf'.1 = src ++ buf.1.drop src.length := by
  unfold memcpy at h
  split at h
  · rename_i hle; cases h; exact ⟨hle, rfl⟩
  · cases h

theorem memcpy_of_le (buf : Buffer n) (h : src.length ≤ n) :
    ∃ buf', buf.memcpy src = some buf' ∧ buf'.1 = src ++ buf.1.drop src.length :=
  ⟨_, by unfold memcpy; rw [dif_pos h], rfl⟩

end Buffer

end Lldpd.Core
