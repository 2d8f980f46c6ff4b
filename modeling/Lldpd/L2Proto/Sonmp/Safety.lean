import Lldpd.L2Proto.Sonmp.Decode

/-!
# What `sonmp_decode` reads

`SONMP_SIZE` counts the Ethernet header and the LLC header. The address, the
segment and the kind of chassis come behind them and are read without another
test, so a hello needs thirty bytes and twenty-two are asked for.

`sonmpDecode_inside_iff`: these frames are the only ones that are read beyond
their end.
-/
namespace Lldpd.Sonmp
open Core

variable {cfg : Config} {frame : Bytes}

/-- The frame passes the tests of `sonmp_decode`. -/
structure Hello (frame : Bytes) : Prop where
  size : SONMP_SIZE ≤ frame.length
  address : frame.take 6 = SONMP_MULTICAST_ADDR
  pid : be16 (frame.getD 20 0) (frame.getD 21 0) = LLC_PID_SONMP_HELLO

/-- The bytes of a hello: the headers, the address, the segment and the chassis. -/
def helloSize : Nat := SONMP_SIZE + 4 + 3 + 1

/-- The cursor in front of the LLC PID. -/
theorem discard_header (h : SONMP_SIZE ≤ frame.length) :
    ((Cursor.discard ⟨frame.drop 6, 0⟩ 6).discard 2).discard 6 = ⟨frame.drop 20, 0⟩ := by
  unfold SONMP_SIZE at h
  rw [Cursor.discard_drop (by omega), Cursor.discard_drop (by omega), Cursor.discard_drop (by omega)]

theorem pid_eq (h : SONMP_SIZE ≤ frame.length) :
    (Cursor.peekUint16 ⟨frame.drop 20, 0⟩ : Run Unit _) =
      .ok (be16 (frame.getD 20 0) (frame.getD 21 0), ⟨frame.drop 22, 0⟩) := by
  unfold SONMP_SIZE at h
  exact Cursor.peekUint16_drop (by omega)

theorem sonmpDecode_refused (h : ¬ Hello frame) : sonmpDecode cfg frame = .error (.refused ()) := by
  unfold sonmpDecode
  by_cases hsize : frame.length < SONMP_SIZE
  · rw [if_pos hsize]
    rfl
  have hle : SONMP_SIZE ≤ frame.length := Nat.not_lt.1 hsize
  have hsix : 6 ≤ frame.length := Nat.le_trans (by decide) hle
  rw [if_neg hsize, Cursor.peekBytes_of_le hsix]
  simp only [ok_bind, discard_header hle, pid_eq hle]
  by_cases haddr : frame.take 6 = SONMP_MULTICAST_ADDR
  · rw [if_neg (fun hne => hne haddr), if_pos fun hpid => h ⟨hle, haddr, hpid⟩]
    rfl
  · rw [if_pos haddr]
    rfl

/-- A hello is read to its end, and nothing of it is refused. -/
theorem sonmpDecode_hello (cfg : Config) (h : Hello frame) :
    (helloSize ≤ frame.length → ∃ r, sonmpDecode cfg frame = .ok r) ∧
      (frame.length < helloSize → sonmpDecode cfg frame = .error (.fault .oob)) := by
  unfold sonmpDecode
  have hsix : 6 ≤ frame.length := Nat.le_trans (by decide) h.size
  rw [if_neg (Nat.not_lt.2 h.size), Cursor.peekBytes_of_le hsix]
  simp only [ok_bind, discard_header h.size, pid_eq h.size]
  rw [if_neg (fun hne => hne h.address), if_neg (fun hne => hne h.pid)]
  have hlen (n : Nat) : (frame.drop n).length = frame.length - n := List.length_drop
  have hsize : helloSize = 30 := rfl
  -- the address
  by_cases haddr : frame.length - 22 < 4
  · rw [Cursor.peekBytes_of_lt (by rw [hlen]; exact haddr)]
    exact ⟨fun hle => by omega, fun _ => rfl⟩
  rw [Cursor.peekBytes_of_le (by rw [hlen]; omega)]
  simp only [ok_bind, List.drop_drop]
  -- the segment
  by_cases hseg : frame.length - 26 < 3
  · rw [Cursor.peekBytes_of_lt (by rw [hlen]; exact hseg)]
    exact ⟨fun hle => by omega, fun _ => rfl⟩
  rw [Cursor.peekBytes_of_le (by rw [hlen]; omega)]
  simp only [ok_bind, List.drop_drop]
  -- the kind of chassis
  by_cases hchassis : frame.length ≤ 29
  · rw [List.drop_eq_nil_of_le hchassis]
    exact ⟨fun hle => by omega, fun _ => rfl⟩
  rw [Cursor.peekUint8_of_le (by rw [hlen]; omega)]
  exact ⟨fun _ => ⟨_, rfl⟩, fun hlt => by omega⟩

/-- **What is read is inside of the frame**, unless it is a hello without its last
bytes. -/
theorem sonmpDecode_inside_iff (cfg : Config) (frame : Bytes) :
    (∀ f, sonmpDecode cfg frame ≠ .error (.fault f)) ↔ (Hello frame → helloSize ≤ frame.length) := by
  by_cases h : Hello frame
  · by_cases hsize : helloSize ≤ frame.length
    · obtain ⟨r, hr⟩ := (sonmpDecode_hello cfg h).1 hsize
      rw [hr]
      exact ⟨fun _ _ => hsize, fun _ f hf => nomatch hf⟩
    · have hread := (sonmpDecode_hello cfg h).2 (Nat.not_le.1 hsize)
      exact ⟨fun hsafe => absurd hread (hsafe _), fun hle => absurd (hle h) hsize⟩
  · rw [sonmpDecode_refused h]
    exact ⟨fun _ hello => absurd hello h, fun _ f hf => nomatch hf⟩

/-- A frame of twenty-two bytes that looks like a hello. -/
theorem sonmpDecode_leaves_frame :
    sonmpDecode {} ([0x01, 0x00, 0x81, 0x00, 0x01, 0x00, 2, 0, 0, 0, 0, 1, 0, 19, 0xaa, 0xaa, 0x03,
      0x00, 0x00, 0x81, 0x01, 0xa2]) = .error (.fault .oob) := by
  decide

end Lldpd.Sonmp
