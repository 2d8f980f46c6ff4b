import Lldpd.Core.Frames
import Lldpd.Core.Words

/-!
# Messages of the control protocol (`ctl.h`)

A message is a header, with the type and the length of the content, and the
content. Both ends read it the same way: `levent_ctl_recv` out of the buffer of
libevent, `ctl_msg_recv_unserialized` out of the buffer of the connection.
`readHead` is what they have in common.
-/
namespace Lldpd.Control
open Core

/-- `enum hmsg_type`.
mirrors ctl.h:28-37 -/
inductive HmsgType where
  | none | getConfig | setConfig | getInterfaces | getInterface | setPort | subscribe | notification
  deriving DecidableEq, Repr

/-- The number that stands for a type in the header. -/
def HmsgType.code : HmsgType → Nat
  | .none => 0
  | .getConfig => 1
  | .setConfig => 2
  | .getInterfaces => 3
  | .getInterface => 4
  | .setPort => 5
  | .subscribe => 6
  | .notification => 7

theorem HmsgType.code_injective {t t' : HmsgType} (h : t.code = t'.code) : t = t' := by
  cases t <;> cases t' <;> first | rfl | cases h

theorem HmsgType.code_lt (t : HmsgType) : t.code < 8 := by cases t <;> decide

/-- `sizeof(struct hmsg_header)`: a type of four bytes, four bytes of padding
and a length of eight. -/
def headerSize : Nat := 16

def HMSG_MAX_SIZE : Nat := 1 <<< 19

/-- A message that both ends take: the length fits. `padding` is whatever the
sender has between the two fields of the header. -/
structure Message where
  type : HmsgType
  padding : Buffer 4
  payload : Bytes
  fits : payload.length ≤ HMSG_MAX_SIZE

/-- The message as it is sent.
mirrors ctl.h:45-48 -/
def Message.bytes (m : Message) : Bytes :=
  leBytes 4 m.type.code ++ m.padding.1 ++ leBytes 8 m.payload.length ++ m.payload

inductive Head where
  /-- Not enough data, by so many bytes. -/
  | short (missing : Nat)
  | tooLarge
  | message (type : Nat) (payload rest : Bytes)
  deriving DecidableEq, Repr

/-- The header and the tests on it.
mirrors event.c:303-322, ctl.c:205-224 -/
def readHead (buffer : Bytes) : Head :=
  if buffer.length < headerSize then .short (headerSize - buffer.length)
  else
    let len := leNat ((buffer.drop 8).take 8)
    if HMSG_MAX_SIZE < len then .tooLarge
    else if buffer.length < headerSize + len then .short (headerSize + len - buffer.length)
    else .message (leNat (buffer.take 4)) ((buffer.drop headerSize).take len)
      (buffer.drop (headerSize + len))

section
variable (m : Message)

theorem Message.length_bytes : m.bytes.length = headerSize + m.payload.length := by
  simp only [Message.bytes, List.length_append, length_leBytes, m.padding.2, headerSize]

theorem Message.bytes_ne_nil : m.bytes ≠ [] := by
  rw [← List.length_pos_iff, m.length_bytes]
  unfold headerSize
  omega

theorem Message.type_bytes (rest : Bytes) : leNat ((m.bytes ++ rest).take 4) = m.type.code := by
  unfold Message.bytes
  rw [List.append_assoc, List.append_assoc, List.append_assoc,
    List.take_left' (length_leBytes 4 _), leNat_leBytes]
  have hmax : 8 < Nat.pow 256 4 := by decide
  have := m.type.code_lt
  omega

theorem Message.len_bytes (rest : Bytes) :
    leNat (((m.bytes ++ rest).drop 8).take 8) = m.payload.length := by
  have hpre : (leBytes 4 m.type.code ++ m.padding.1).length = 8 := by
    rw [List.length_append, length_leBytes, m.padding.2]
  unfold Message.bytes
  rw [List.append_assoc, List.append_assoc, List.drop_left' hpre,
    List.take_left' (length_leBytes 8 _), leNat_leBytes]
  have := m.fits
  have hmax : HMSG_MAX_SIZE < Nat.pow 256 8 := by decide
  omega

theorem Message.payload_bytes : m.bytes.drop headerSize = m.payload := by
  refine List.drop_left' ?_
  simp [length_leBytes, m.padding.2, headerSize]

/-- A message in front of others is read back. -/
theorem readHead_bytes (rest : Bytes) :
    readHead (m.bytes ++ rest) = .message m.type.code m.payload rest := by
  have hlen : (m.bytes ++ rest).length = headerSize + m.payload.length + rest.length := by
    rw [List.length_append, m.length_bytes]
  unfold readHead
  rw [if_neg (by omega)]
  rw [m.len_bytes, m.type_bytes, if_neg (Nat.not_lt.2 m.fits), if_neg (by omega), ← List.drop_drop,
    List.drop_append_of_le_length (by rw [m.length_bytes]; omega), m.payload_bytes, List.take_left,
    List.drop_left]

/-- A part of a message is not enough. -/
theorem readHead_short {buffer later : Bytes} (h : m.bytes = buffer ++ later) (hne : later ≠ []) :
    readHead buffer = .short (if buffer.length < headerSize then headerSize - buffer.length
      else later.length) := by
  have hlen : headerSize + m.payload.length = buffer.length + later.length := by
    rw [← m.length_bytes, h, List.length_append]
  have hpos := List.length_pos_iff.2 hne
  unfold readHead
  split
  · rfl
  · rename_i hle
    have hhead : leNat ((buffer.drop 8).take 8) = m.payload.length := by
      rw [← m.len_bytes [], List.append_nil, h,
        List.drop_append_of_le_length (by unfold headerSize at hle; omega),
        List.take_append_of_le_length (by rw [List.length_drop]; unfold headerSize at hle; omega)]
    rw [hhead, if_neg (Nat.not_lt.2 m.fits), if_pos (by omega)]
    congr 1
    omega

theorem readHead_nil : readHead [] = .short headerSize := rfl

end

end Lldpd.Control
