import Lldpd.L2Marshal.Unserialize
import Lldpd.L4Control.Connection

/-!
# Messages through a buffer (`ctl.c`)

`ctl_msg_send_unserialized` appends objects to a buffer, and its bytes arrive at the
other end in whatever pieces. There, `ctl_msg_recv_unserialized` is called for the next
object again and again: it says how much is missing, or it takes the object out of the
buffer.

A `Reader` is what has arrived and what has been taken so far. Pieces and calls may come
in any order (`reading`), and in every state that can be reached (`Framed`) the buffer is
what has arrived and is not taken, the objects are those that were sent, and the next call
does the right thing.
-/
namespace Lldpd.Control
open Core

/-- `marshal_serialize_` and `marshal_unserialize_` for the descriptors `D`; `none` when one
returns nothing. What has been serialized can be unserialized. -/
structure Codec (D O : Type) where
  serialize : D → O → Option Bytes
  unserialize : D → Bytes → Option O
  reads : ∀ mi t bs, serialize mi t = some bs → (unserialize mi bs).isSome = true

/-- The arguments of `ctl_msg_send_unserialized`; there may be no object. -/
structure Sending (D O : Type) where
  type : HmsgType
  mi : D
  t : Option O

section
variable {D O : Type} (codec : Codec D O)

/-- The content of a message.
mirrors ctl.c:132-138 -/
def Sending.content (m : Sending D O) : Option Bytes :=
  match m.t with
  | none => some []
  | some t => (codec.serialize m.mi t).filter (· ≠ [])

/-- `none` for -1.
mirrors ctl.c:123-169 -/
def ctlMsgSendUnserialized (output : Bytes) (m : Sending D O) : Option Bytes :=
  (m.content codec).map fun content => ctlMsgSend m.type content output

/-- The call for the message `m`: for its type, and for an object of its descriptor. -/
def Sending.recv (m : Sending D O) (input : Bytes) : Received (Option O) :=
  ctlMsgRecvUnserialized m.type (m.t.map fun _ => codec.unserialize m.mi) input

def Sending.frame (m : Sending D O) : Bytes := (ctlMsgSendUnserialized codec [] m).getD []

def Sending.object (m : Sending D O) : Option O :=
  m.t.bind fun _ => (m.content codec).bind (codec.unserialize m.mi)

def Sending.missing (m : Sending D O) (input : Bytes) : Nat :=
  if input.length < headerSize then headerSize - input.length
  else (m.frame codec).length - input.length

/-- `buffer` is the input buffer, `arrived` is how much has been put into it, `taken` how
many messages have been taken out of it and `got` what they were. -/
structure Reader (O : Type) where
  arrived : Nat := 0
  taken : Nat := 0
  buffer : Bytes := []
  got : List (Option O) := []

inductive ReaderEvent where
  | chunk (bytes : Bytes)
  | call

/-- More of `output` arrives, or there is a call for the next of the messages `ms`. -/
def Reader.step (ms : List (Sending D O)) (output : Bytes) (s : Reader O) :
    ReaderEvent → Option (Reader O)
  | .chunk bytes =>
    if (output.drop s.arrived).take bytes.length = bytes then
      some { s with arrived := s.arrived + bytes.length, buffer := s.buffer ++ bytes }
    else none
  | .call =>
    ms[s.taken]?.map fun m =>
      match m.recv codec s.buffer with
      | .needs _ => s
      | .failed rest => { s with buffer := rest }
      | .value t rest => { s with buffer := rest, taken := s.taken + 1, got := s.got ++ [t] }

def reading (ms : List (Sending D O)) (output : Bytes) : LTS (Reader O) ReaderEvent :=
  LTS.ofFn (fun s => s = {}) (Reader.step codec ms output)

/-- What holds at every moment. `whole` counts the messages that have arrived. -/
structure Framed (ms : List (Sending D O)) (s : Reader O) : Prop where
  buffer : s.taken ≤ whole (Sending.frame codec) ms s.arrived ∧
    s.buffer = ((stream (Sending.frame codec) ms).take s.arrived).drop
      (stream (Sending.frame codec) (ms.take s.taken)).length
  got : s.got = (ms.take s.taken).map (Sending.object codec)
  complete : ∀ m, ms[s.taken]? = some m → s.taken < whole (Sending.frame codec) ms s.arrived →
    ∃ rest, s.buffer = m.frame codec ++ rest ∧ m.recv codec s.buffer = .value (m.object codec) rest
  short : ∀ m, ms[s.taken]? = some m → s.taken = whole (Sending.frame codec) ms s.arrived →
    0 < m.missing codec s.buffer ∧ m.recv codec s.buffer = .needs (m.missing codec s.buffer)
  probe : ∀ m, ms[s.taken]? = some m → s.taken < whole (Sending.frame codec) ms s.arrived →
    m.type ≠ .notification → ∀ (V : Type) (t : Option (Bytes → Option V)),
      ctlMsgRecvUnserialized .notification t s.buffer = .failed s.buffer

/-! ## One message -/

variable {codec} {m : Sending D O}

/-- A message that could be sent, as both ends see it. -/
structure Sending.Is (codec : Codec D O) (m : Sending D O) (msg : Message) : Prop where
  content : m.content codec = some msg.payload
  frame : m.frame codec = msg.bytes
  type : msg.type = m.type

theorem Sending.is_message {content : Bytes} (h : m.content codec = some content)
    (hfits : content.length ≤ HMSG_MAX_SIZE) : ∃ msg, m.Is codec msg := by
  refine ⟨⟨m.type, ⟨[0, 0, 0, 0], rfl⟩, content, hfits⟩, h, ?_, rfl⟩
  unfold Sending.frame ctlMsgSendUnserialized
  rw [h]
  rfl

theorem unserialize_content {content : Bytes} (h : m.content codec = some content) :
    unserialize (m.t.map fun _ => codec.unserialize m.mi) content = some (m.object codec) := by
  unfold Sending.object
  rw [h]
  unfold Sending.content at h
  cases ht : m.t with
  | none => rfl
  | some t =>
    rw [ht] at h
    obtain ⟨hs, hne⟩ := Option.filter_eq_some_iff.1 h
    obtain ⟨y, hy⟩ := Option.isSome_iff_exists.1 (codec.reads m.mi t content hs)
    have hne : content ≠ [] := of_decide_eq_true hne
    show (if content = [] then none else (codec.unserialize m.mi content).map some) =
      some (codec.unserialize m.mi content)
    rw [if_neg hne, hy]
    rfl

variable {msg : Message}

theorem recv_complete (hm : m.Is codec msg) (rest : Bytes) :
    m.recv codec (m.frame codec ++ rest) = .value (m.object codec) rest := by
  unfold Sending.recv ctlMsgRecvUnserialized
  rw [hm.frame, readHead_bytes]
  dsimp only
  rw [if_neg fun h => h (by rw [hm.type]), unserialize_content hm.content]
  rfl

theorem recv_short (hm : m.Is codec msg) {input later : Bytes} (h : m.frame codec = input ++ later)
    (hne : later ≠ []) :
    0 < m.missing codec input ∧ m.recv codec input = .needs (m.missing codec input) := by
  have hpos := List.length_pos_iff.2 hne
  have hmissing : m.missing codec input = if input.length < headerSize then headerSize - input.length
      else later.length := by
    unfold Sending.missing
    rw [h, List.length_append, Nat.add_sub_cancel_left]
  constructor
  · rw [hmissing]
    split
    · omega
    · exact hpos
  · unfold Sending.recv ctlMsgRecvUnserialized
    rw [readHead_short msg (hm.frame.symm.trans h) hne, hmissing]

theorem probe_complete (hm : m.Is codec msg) (hother : m.type ≠ .notification) {V : Type}
    (t : Option (Bytes → Option V)) (rest : Bytes) :
    ctlMsgRecvUnserialized .notification t (m.frame codec ++ rest) =
      .failed (m.frame codec ++ rest) := by
  unfold ctlMsgRecvUnserialized
  rw [hm.frame, readHead_bytes]
  dsimp only
  have hcode : msg.type.code ≠ HmsgType.notification.code := by
    intro h
    rw [hm.type] at h
    exact hother (HmsgType.code_injective h)
  rw [if_pos hcode, if_pos rfl]

/-! ## A sequence of messages -/

variable {ms : List (Sending D O)} {output : Bytes}

theorem sent_eq {before : Bytes}
    (h : ms.foldlM (ctlMsgSendUnserialized codec) before = some output) :
    output = before ++ stream (Sending.frame codec) ms ∧
      ∀ m ∈ ms, ∃ content, m.content codec = some content := by
  induction ms generalizing before with
  | nil =>
    cases h
    exact ⟨(List.append_nil _).symm, fun m hm => absurd hm List.not_mem_nil⟩
  | cons m ms ih =>
    obtain ⟨next, hm, h⟩ := Option.bind_eq_some_iff.1 h
    obtain ⟨hout, hall⟩ := ih h
    obtain ⟨content, hcontent, hnext⟩ := Option.map_eq_some_iff.1 hm
    have hframe : next = before ++ m.frame codec := by
      unfold Sending.frame ctlMsgSendUnserialized
      rw [← hnext, hcontent]
      rfl
    refine ⟨by rw [hout, hframe, stream_cons, List.append_assoc], fun m' hm' => ?_⟩
    rcases List.mem_cons.1 hm' with rfl | hm'
    · exact ⟨content, hcontent⟩
    · exact hall m' hm'

/-- What a step needs of a state, and keeps. -/
structure Reader.Keeps (codec : Codec D O) (ms : List (Sending D O)) (s : Reader O) : Prop where
  pending : Pending (Sending.frame codec) ms s.taken s.arrived s.buffer
  got : s.got = (ms.take s.taken).map (Sending.object codec)

/-- The next message, and whether it has arrived. -/
theorem Reader.Keeps.call {s : Reader O} (hs : s.Keeps codec ms)
    (hsent : ∀ m ∈ ms, ∃ msg, m.Is codec msg) (hm : ms[s.taken]? = some m) :
    (s.taken < whole (Sending.frame codec) ms s.arrived ∧ ∃ rest, s.buffer = m.frame codec ++ rest ∧
        m.recv codec s.buffer = .value (m.object codec) rest ∧
        Pending (Sending.frame codec) ms (s.taken + 1) s.arrived rest) ∨
      (s.taken = whole (Sending.frame codec) ms s.arrived ∧ 0 < m.missing codec s.buffer ∧
        m.recv codec s.buffer = .needs (m.missing codec s.buffer)) := by
  obtain ⟨msg, hmsg⟩ := hsent m (List.mem_of_getElem? hm)
  rcases Nat.lt_or_eq_of_le hs.pending.le with hlt | heq
  · obtain ⟨m', rest, hm', hbuf, hrest⟩ := hs.pending.complete hlt
    cases hm.symm.trans hm'
    refine .inl ⟨hlt, rest, hbuf, ?_, hrest⟩
    rw [hbuf]
    exact recv_complete hmsg rest
  · rcases hs.pending.short heq with ⟨hnone, -⟩ | ⟨m', later, hm', hbuf, hne⟩
    · rw [hm] at hnone
      cases hnone
    · cases hm.symm.trans hm'
      exact .inr ⟨heq, recv_short hmsg hbuf hne⟩

theorem Reader.Keeps.step {s s' : Reader O} (hs : s.Keeps codec ms)
    (hsent : ∀ m ∈ ms, ∃ msg, m.Is codec msg) {e : ReaderEvent}
    (h : s.step codec ms (stream (Sending.frame codec) ms) e = some s') : s'.Keeps codec ms := by
  cases e with
  | chunk bytes =>
    unfold Reader.step at h
    dsimp only at h
    split at h
    · rename_i hchunk
      cases h
      have hrest : (stream (Sending.frame codec) ms).drop s.arrived =
          bytes ++ ((stream (Sending.frame codec) ms).drop s.arrived).drop bytes.length := by
        rw [← List.take_append_drop bytes.length ((stream (Sending.frame codec) ms).drop s.arrived),
          hchunk, List.drop_left]
      exact ⟨hs.pending.append hrest, hs.got⟩
    · cases h
  | call =>
    obtain ⟨m, hm, h⟩ := Option.map_eq_some_iff.1 h
    rcases hs.call hsent hm with ⟨-, rest, -, hrecv, hrest⟩ | ⟨-, -, hrecv⟩
    · rw [hrecv] at h
      cases h
      refine ⟨hrest, ?_⟩
      rw [List.take_add_one, hm, List.map_append, ← hs.got]
      rfl
    · rw [hrecv] at h
      cases h
      exact hs

end

/-- **Objects arrive as they were sent**, whatever the pieces and whenever the calls: a call
for the next object returns 0 exactly when all of its message has arrived, with what the
message's own bytes are unserialized to, and takes exactly these bytes out of the buffer.
Else it returns how much is missing, and the buffer is left as it is. Looking for a
notification leaves another message in the buffer. -/
theorem framing_reachable {D O : Type} (codec : Codec D O) (ms : List (Sending D O)) (output : Bytes)
    (hsend : ms.foldlM (ctlMsgSendUnserialized codec) [] = some output)
    (hmax : ∀ m ∈ ms, ∀ content, m.content codec = some content → content.length ≤ HMSG_MAX_SIZE)
    (s : Reader O) (hs : (reading codec ms output).Reachable s) : Framed codec ms s := by
  obtain ⟨hout, hcontent⟩ := sent_eq hsend
  have hsent : ∀ m ∈ ms, ∃ msg, m.Is codec msg := by
    intro m hm
    obtain ⟨content, hc⟩ := hcontent m hm
    exact Sending.is_message hc (hmax m hm content hc)
  have hkeeps : s.Keeps codec ms := by
    refine LTS.Inductive.reachable ⟨?_, ?_⟩ s hs
    · intro s hinit
      subst hinit
      exact ⟨Pending.zero ms, rfl⟩
    · intro s e s' hkeeps hstep
      rw [hout] at hstep
      exact hkeeps.step hsent hstep
  refine ⟨⟨hkeeps.pending.le, hkeeps.pending.eq⟩, hkeeps.got, fun m hm hlt => ?_, fun m hm heq => ?_,
    fun m hm hlt hother V t => ?_⟩
  · rcases hkeeps.call hsent hm with ⟨-, rest, hbuf, hrecv, -⟩ | ⟨heq, -⟩
    · exact ⟨rest, hbuf, hrecv⟩
    · omega
  · rcases hkeeps.call hsent hm with ⟨hlt, -⟩ | ⟨-, hshort⟩
    · omega
    · exact hshort
  · rcases hkeeps.call hsent hm with ⟨-, rest, hbuf, -, -⟩ | ⟨heq, -⟩
    · obtain ⟨msg, hmsg⟩ := hsent m (List.mem_of_getElem? hm)
      rw [hbuf]
      exact probe_complete hmsg hother t rest
    · omega

/-- The record of a structure of `size` bytes without pointers: the number of the first
object, the length of the record and the structure.
mirrors marshal.c:76-218 -/
def record (size : Nat) (t : Bytes) : Option Bytes :=
  if t.length = size ∧ size < HMSG_MAX_SIZE then
    some (leBytes 8 1 ++ leBytes 8 (Marshal.serializedSize + size) ++ t)
  else none

/-- The structure in a record. -/
def unrecord (size : Nat) (bs : Bytes) : Option Bytes :=
  match Marshal.unserialize (fun n => { size := n }) ⟨fun k => k + 1, fun _ _ => true, true⟩ size bs with
  | .ok out => out.made.head?.map Marshal.Gc.object
  | .error _ => none

theorem unrecord_record {size : Nat} {t bs : Bytes} (h : record size t = some bs) :
    unrecord size bs = some t := by
  obtain ⟨⟨rfl, hlt⟩, hbs⟩ := Option.ite_none_right_eq_some.1 h
  have hmax : HMSG_MAX_SIZE = 0x80000 := rfl
  have hlength : bs.length = 16 + t.length := by
    rw [← Option.some.inj hbs]
    simp only [List.length_append, length_leBytes]
  have hobject : slice bs 16 t.length = t := by
    rw [← Option.some.inj hbs, slice, List.drop_left' (by simp), List.take_length]
  have htotal : toInt32 (16 + t.length) = 16 + t.length := toInt32_of_lt (by omega) (by omega)
  have hsize : toInt32 t.length = t.length := toInt32_of_lt (by omega) (by omega)
  have hreturned : toSize (16 + t.length) = 16 + t.length := by
    rw [toSize_of_nonneg (by omega) (by omega)]
    omega
  have hlengths : Marshal.lengths ({ size := t.length } : Marshal.Info Nat) bs false 0 =
      some ((16 : Int) + t.length, (t.length : Int)) := by
    simp [Marshal.lengths, Marshal.serializedSize, htotal, hsize, hreturned, hlength]
  have halloc : Marshal.marshalAlloc (fun n => { size := n }) ⟨fun k => k + 1, fun _ _ => true, true⟩
      t.length bs t.length [] = .ok [⟨1, leNat (slice bs 0 8), t.length, t⟩] := by
    simp [Marshal.marshalAlloc, Marshal.extra, Marshal.serializedSize, hlength, hobject]
  unfold unrecord Marshal.unserialize
  rw [if_neg (by decide), Marshal.marshalUnserialize, hlengths]
  dsimp only
  rw [if_neg (by decide), halloc]
  rfl

/-- Structures without pointers. -/
def recordCodec : Codec Nat Bytes where
  serialize := record
  unserialize := unrecord
  reads _ _ _ h := by rw [unrecord_record h]; rfl

def twoSendings : List (Sending Nat Bytes) := [⟨.getInterface, 2, some [1, 2]⟩, ⟨.none, 0, none⟩]

/-- The first message and the start of the second have arrived, and the first is taken. -/
theorem framing_reachable_second : Framed recordCodec twoSendings
    { arrived := 38, taken := 1, buffer := [0, 0, 0, 0], got := [some [1, 2]] } := by
  refine framing_reachable recordCodec twoSendings _ rfl ?_ _ ?_
  · intro m hm content hc
    rcases List.mem_cons.1 hm with rfl | hm
    · cases hc
      decide
    · rw [List.mem_singleton.1 hm] at hc
      cases hc
      decide
  · have hstart : ∀ output, (reading recordCodec twoSendings output).Reachable {} :=
      fun output => .init (show ({} : Reader Bytes) = {} from rfl)
    exact @LTS.reachable_foldlM (Reader Bytes) ReaderEvent _ _
      [.chunk ((twoSendings.flatMap (Sending.frame recordCodec)).take 38), .call] {} _ (hstart _) rfl

end Lldpd.Control
