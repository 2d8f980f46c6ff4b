import Lldpd.Core.Text
import Lldpd.L2Proto.Edp.Decode
import Lldpd.L2Proto.Lldp.Emit

/-!
# Emission of EDP frames (`edp_send`)

A sender of EDP names itself and its port in one frame and tells its VLANs in
another one, if it has any. Both come from one loop with a `state`; every
frame that gets as far as its header takes a sequence number.

`edpState_sent` and `edpState_idle` say what a turn of the loop hands to the
device when everything fits.
-/
namespace Lldpd.Edp
open Lldpd.Core Lldpd.Lldp

def LLC_ORG_EXTREME : Bytes := [0x00, 0xe0, 0x2b]

def FAKEVERSION : Bytes := [7, 6, 4, 99]

/-- `deviceslot`. The last name is a part of every name. -/
def DEVICESLOT : List Text :=
  ["eth".toList, "veth".toList, "XXX".toList, "XXX".toList, "XXX".toList, "XXX".toList,
    "XXX".toList, "XXX".toList, []]

/-! ## The TLVs -/

/-- The slot and the port of an interface. `POKE_UINT16` keeps the low bits.
mirrors edp.c:124-143 -/
def slotPort (hIfname : Text) (hIfindex : Int) : UInt16 × UInt16 :=
  match DEVICESLOT.findIdx? (·.isPrefixOf hIfname) with
  | some i =>
    (UInt16.ofNat i, UInt16.ofInt (atoi (hIfname.drop (DEVICESLOT.getD i []).length)))
  | none => (8, UInt16.ofInt hIfindex)

/-- mirrors edp.c:110-118 -/
def displayTlv (chassis : Chassis) : OutTlv :=
  ⟨EDP_TLV_DISPLAY, [cstr (chassis.cName.getD []), [0]]⟩

/-- mirrors edp.c:120-155 -/
def infoTlv (hIfname : Text) (hIfindex : Int) : OutTlv :=
  ⟨EDP_TLV_INFO, [be16Bytes (slotPort hIfname hIfindex).1, be16Bytes (slotPort hIfname hIfindex).2,
    be16Bytes 0, be32Bytes 0, be16Bytes 0, FAKEVERSION, be32Bytes 0xffffffff, be32Bytes 0,
    be32Bytes 0, be32Bytes 0]⟩

/-- mirrors edp.c:163-174 -/
def vlanTlv (vlan : Vlan) : OutTlv :=
  ⟨EDP_TLV_VLAN, [[0], [0], be16Bytes vlan.vVid, be32Bytes 0, be32Bytes 0, cstr vlan.vName, [0]]⟩

/-- The TLVs of a frame, the one at the end apart.
mirrors edp.c:106-177 -/
def stateTlvs (chassis : Chassis) (hIfname : Text) (hIfindex : Int) (hw : Hardware) (state : Nat) :
    List OutTlv :=
  if state = 0 then [displayTlv chassis, infoTlv hIfname hIfindex]
  else hw.hLport.pVlans.map vlanTlv

/-- A TLV: `POKE_START_EDP_TLV`, whose first writes are not checked, the
writes and `POKE_END_EDP_TLV`.
mirrors frame.h:129-137 -/
def pokeEdpTlv (p : Packet) (t : OutTlv) : Option Packet := do
  let p := (p.poke [EDP_TLV_MARKER]).getD p
  let p := (p.poke [UInt8.ofNat t.type]).getD p
  let tlv := p.pos
  let p ← p.poke (be16Bytes 0)
  let p ← t.pokes.foldlM Packet.poke p
  return p.overwrite tlv (be16Bytes (UInt16.ofNat (p.pos - tlv + 2)))

/-! ## The frames -/

/-- The sequence number and the frames handed to the device. -/
structure Sender where
  seq : Nat
  frames : List Bytes
  deriving DecidableEq, Repr

abbrev Send := ExceptT Errno (StateM Sender)

def fits : Option Packet → Send Packet
  | some p => pure p
  | none => throw .E2BIG

/-- A turn of the loop. `sendOk` is whether the device takes the frame.
mirrors edp.c:58-210 -/
def edpState (cfg : Config) (chassis : Chassis) (hIfname : Text) (hIfindex : Int) (sendOk : Bool)
    (hw : Hardware) (state : Nat) : Send Unit := do
  let p := Packet.calloc hw.hMtu
  let p ← fits ([EDP_MULTICAST_ADDR, hw.hLladdr.1].foldlM Packet.poke p)
  let posLenEh := p.pos
  let p ← fits (p.poke (be16Bytes 0))
  let posLlc := p.pos
  let p ← fits ([[0xaa], [0xaa], [0x03], LLC_ORG_EXTREME, be16Bytes LLC_PID_EDP].foldlM
    Packet.poke p)
  if (chassis.cId.getD []).length ≠ 6 ∨ chassis.cIdSubtype ≠ LLDP_CHASSISID_SUBTYPE_LLADDR then
    throw .EINVAL
  let posEdp := p.pos
  let p ← fits ([[1], [0]].foldlM Packet.poke p)
  let posLenEdp := p.pos
  let seq := (← get).seq
  let p ← fits ([be32Bytes 0, be16Bytes (UInt16.ofNat seq), be16Bytes 0,
    chassis.cId.getD []].foldlM Packet.poke p)
  modify fun s => { s with seq := s.seq + 1 }
  let p ← fits ((stateTlvs chassis hIfname hIfindex hw state).foldlM pokeEdpTlv p)
  if state = 1 ∧ hw.hLport.pVlans = [] then return
  let p ← fits (pokeEdpTlv p ⟨EDP_TLV_NULL, []⟩)
  let p := p.overwrite posLenEh (be16Bytes (UInt16.ofNat (p.pos - posLlc)))
  let p := p.overwrite posLenEdp (be16Bytes (UInt16.ofNat (p.pos - posEdp)))
  let checksum := frameChecksum (p.written.drop posEdp) false
  let p := p.overwrite (posLenEdp + 2) (be16Bytes (ntohs checksum))
  modify fun s => { s with frames := s.frames ++ [interfacesSendHelper cfg hw p.written] }
  unless sendOk do throw .ENETDOWN

/-- The result (`none` is 0), the interface and the sender afterwards. -/
structure SentEdp where
  ret : Option Errno
  hardware : Hardware
  sender : Sender
  deriving DecidableEq, Repr

/-- The end of `edp_send`.
mirrors edp.c:203-221 -/
def edpDone (hw : Hardware) : Except Errno Unit × Sender → SentEdp
  | (.ok _, sender) => ⟨none, { hw with hTxCnt := hw.hTxCnt + 1 }, sender⟩
  | (.error ret, sender) => ⟨some ret, hw, sender⟩

/-- `edp_send`. Without 802.1 there is no loop. `seq` is the static variable,
`sendOk` whether the device takes the frame of a state.
mirrors edp.c:32-222 -/
def edpSend (b : Build) (cfg : Config) (chassis : Chassis) (hIfname : Text) (hIfindex : Int)
    (sendOk : Nat → Bool) (seq : Nat) (hw : Hardware) : SentEdp :=
  let run : Send Unit := do
    edpState cfg chassis hIfname hIfindex (sendOk 0) hw 0
    if b.dot1 then edpState cfg chassis hIfname hIfindex (sendOk 1) hw 1
  edpDone hw (run.run ⟨seq, []⟩)

/-! ## What is written -/

def encodeTlv (t : OutTlv) : Bytes :=
  [EDP_TLV_MARKER, UInt8.ofNat t.type] ++
    (be16Bytes (UInt16.ofNat (t.payload.length + 4)) ++ t.payload)

theorem pokeEdpTlv_eq (p : Packet) (t : OutTlv) : pokeEdpTlv p t = p.poke (encodeTlv t) := by
  refine (Packet.poke_length _ t.pokes 2).trans ?_
  have hroom (type : UInt8) (len : UInt16) (value : Bytes) :
      [type].length ≤ (be16Bytes len ++ value).length := by
    rw [List.length_append, be16Bytes_length, List.length_singleton]
    omega
  rw [Packet.poke_unchecked (hroom ..), Packet.poke_unchecked (Nat.le_add_left 1 _)]
  rfl

theorem pokeEdpTlvs_eq (ts : List OutTlv) (p : Packet) :
    ts.foldlM pokeEdpTlv p = p.poke (ts.flatMap encodeTlv) :=
  Packet.foldlM_poke pokeEdpTlv_eq ts p

section Frame
variable (cfg : Config) (chassis : Chassis) (hIfname : Text) (hIfindex : Int) (hw : Hardware)
  (state : Nat)

def edpBody : Bytes :=
  (stateTlvs chassis hIfname hIfindex hw state).flatMap encodeTlv ++ encodeTlv ⟨EDP_TLV_NULL, []⟩

def etherHead : Bytes := EDP_MULTICAST_ADDR ++ hw.hLladdr.1

def llcHead : Bytes := [0xaa, 0xaa, 0x03] ++ LLC_ORG_EXTREME ++ be16Bytes LLC_PID_EDP

/-- The EDP header in front of the checksum, for `n` bytes of TLVs. -/
def edpStart (n : Nat) : Bytes := [1, 0] ++ be16Bytes (UInt16.ofNat (16 + n))

def edpRest (seq : Nat) (body : Bytes) : Bytes :=
  be16Bytes (UInt16.ofNat seq) ++ (be16Bytes 0 ++ (chassis.cId.getD [] ++ body))

/-- The checksum, of a header with zeros in its place. -/
def edpChecksum (seq : Nat) (body : Bytes) : UInt16 :=
  ntohs (frameChecksum (edpStart body.length ++ (be16Bytes 0 ++ edpRest chassis seq body)) false)

/-- The header and the TLVs. -/
def edpPacket (seq : Nat) (body : Bytes) : Bytes :=
  edpStart body.length ++ (be16Bytes (edpChecksum chassis seq body) ++ edpRest chassis seq body)

/-- The frame behind the addresses. -/
def edpTail (seq : Nat) (body : Bytes) : Bytes :=
  be16Bytes (UInt16.ofNat (24 + body.length)) ++ (llcHead ++ edpPacket chassis seq body)

/-- The frame around the TLVs. -/
def edpPdu (seq : Nat) (body : Bytes) : Bytes := etherHead hw ++ edpTail chassis seq body

theorem length_edpStart (n : Nat) : (edpStart n).length = 4 := rfl

theorem length_etherHead : (etherHead hw).length = 12 := by
  unfold etherHead
  rw [List.length_append, hw.hLladdr.2]
  rfl

/-- The fields that are filled in at the end.
mirrors edp.c:193-201 -/
def patchEdp (posLenEh posLlc posEdp posLenEdp : Nat) (p : Packet) : Packet :=
  let p := p.overwrite posLenEh (be16Bytes (UInt16.ofNat (p.pos - posLlc)))
  let p := p.overwrite posLenEdp (be16Bytes (UInt16.ofNat (p.pos - posEdp)))
  p.overwrite (posLenEdp + 2) (be16Bytes (ntohs (frameChecksum (p.written.drop posEdp) false)))

/-- The frame before the fields are filled in. -/
def edpDraft (seq : Nat) (body : Bytes) : Bytes :=
  etherHead hw ++ (be16Bytes 0 ++ (llcHead ++ ([1, 0] ++ (be16Bytes 0 ++ (be16Bytes 0 ++
    edpRest chassis seq body)))))

variable {chassis} {hw} (hid : (chassis.cId.getD []).length = 6)
include hid

theorem length_edpRest (seq : Nat) (body : Bytes) :
    (edpRest chassis seq body).length = 10 + body.length := by
  simp only [edpRest, List.length_append, be16Bytes_length]
  omega

theorem length_edpDraft (seq : Nat) (body : Bytes) :
    (edpDraft chassis hw seq body).length = 38 + body.length := by
  have hllc : llcHead.length = 8 := rfl
  simp only [edpDraft, List.length_append, length_etherHead, be16Bytes_length, List.length_cons,
    List.length_nil, length_edpRest hid seq body]
  omega

theorem patchEdp_draft {seq : Nat} {body : Bytes} {p q : Packet} (hp : p.pos = 0)
    (h : p.poke (edpDraft chassis hw seq body) = some q) :
    p.poke (edpPdu chassis hw seq body) = some (patchEdp 12 14 22 24 q) := by
  have hrest := length_edpRest hid seq body
  have hend : q.pos = 38 + body.length := by
    rw [(Packet.poke_eq_some.1 h).2.2, length_edpDraft hid]
    omega
  have hlen : q.pos - 14 = 24 + body.length := by omega
  have hedp : q.pos - 22 = 16 + body.length := by omega
  have h1 := Packet.overwrite_be16 (UInt16.ofNat (q.pos - 14)) h
  rw [length_etherHead, hp, hlen] at h1
  -- the EDP header starts behind the first twenty-two bytes
  obtain ⟨front, hfront⟩ : ∃ front, front = etherHead hw ++
      (be16Bytes (UInt16.ofNat (24 + body.length)) ++ llcHead) := ⟨_, rfl⟩
  have hfrontLen : front.length = 22 := by
    rw [hfront, List.length_append, length_etherHead]
    rfl
  have hassoc (x : Bytes) : etherHead hw ++ (be16Bytes (UInt16.ofNat (24 + body.length)) ++
      (llcHead ++ x)) = front ++ x := by
    rw [hfront]
    simp [List.append_assoc]
  rw [hassoc, ← List.append_assoc front] at h1
  have h2 := Packet.overwrite_be16 (UInt16.ofNat (16 + body.length)) h1
  have htwo : (front ++ [1, 0] : Bytes).length = 24 := by
    rw [List.length_append, hfrontLen]
    rfl
  rw [htwo, hp] at h2
  have hstart (x : Bytes) : front ++ [1, 0] ++ (be16Bytes (UInt16.ofNat (16 + body.length)) ++ x) =
      front ++ edpStart body.length ++ x := by
    simp [edpStart]
  rw [hstart] at h2
  have h3 := Packet.overwrite_be16 (edpChecksum chassis seq body) h2
  have hfour : (front ++ edpStart body.length).length = 26 := by
    rw [List.length_append, hfrontLen]
    rfl
  rw [hfour, hp] at h3
  have hpdu : edpPdu chassis hw seq body = front ++ edpStart body.length ++
      (be16Bytes (edpChecksum chassis seq body) ++ edpRest chassis seq body) := by
    unfold edpPdu edpTail
    rw [hassoc, List.append_assoc]
    rfl
  rw [hpdu, h3]
  have hpos1 : (q.overwrite 12 (be16Bytes (UInt16.ofNat (24 + body.length)))).pos = q.pos := by
    rw [(Packet.poke_eq_some.1 h1).2.2]
    simp only [List.length_append, be16Bytes_length, List.length_cons, List.length_nil]
    omega
  have hwritten := Packet.written_of_poke h2
  have hempty : p.written = [] := by
    rw [Packet.written, hp, List.take_zero]
  rw [hempty, List.nil_append, List.append_assoc] at hwritten
  unfold patchEdp
  dsimp only
  rw [hlen, hpos1, hedp, hwritten, List.drop_left' hfrontLen]
  rfl

/-- The headers, with the positions that the code saves. -/
theorem headers_fit (seq : Nat) (body : Bytes)
    (hfit : 38 + body.length ≤ hw.hMtu) : ∃ p1 p2 p3 p4 p5 q : Packet,
      (Packet.calloc hw.hMtu).poke (etherHead hw) = some p1 ∧ p1.pos = 12 ∧
      p1.poke (be16Bytes 0) = some p2 ∧ p2.pos = 14 ∧ p2.poke llcHead = some p3 ∧ p3.pos = 22 ∧
      p3.poke [1, 0] = some p4 ∧ p4.pos = 24 ∧
      p4.poke (be32Bytes 0 ++ (be16Bytes (UInt16.ofNat seq) ++ (be16Bytes 0 ++
        chassis.cId.getD []))) = some p5 ∧ p5.poke body = some q ∧
      (Packet.calloc hw.hMtu).poke (edpDraft chassis hw seq body) = some q := by
  have hlen : (edpDraft chassis hw seq body).length = 38 + body.length :=
    length_edpDraft hid seq body
  obtain ⟨q, hq⟩ : ∃ q, (Packet.calloc hw.hMtu).poke (edpDraft chassis hw seq body) = some q := by
    apply Option.ne_none_iff_exists'.1
    intro hnone
    have hfull := Packet.poke_eq_none.1 hnone
    rw [Packet.length_calloc, Packet.pos_calloc] at hfull
    omega
  have hdraft : edpDraft chassis hw seq body = etherHead hw ++ (be16Bytes 0 ++ (llcHead ++
      ([1, 0] ++ ((be32Bytes 0 ++ (be16Bytes (UInt16.ofNat seq) ++ (be16Bytes 0 ++
        chassis.cId.getD []))) ++ body)))) := by
    rfl
  have hsplit := hq
  rw [hdraft] at hsplit
  obtain ⟨p1, h1, hsplit⟩ := Packet.poke_append_some.1 hsplit
  obtain ⟨p2, h2, hsplit⟩ := Packet.poke_append_some.1 hsplit
  obtain ⟨p3, h3, hsplit⟩ := Packet.poke_append_some.1 hsplit
  obtain ⟨p4, h4, hsplit⟩ := Packet.poke_append_some.1 hsplit
  obtain ⟨p5, h5, hbody⟩ := Packet.poke_append_some.1 hsplit
  have hpos1 : p1.pos = 12 := by
    rw [(Packet.poke_eq_some.1 h1).2.2, length_etherHead]
    rfl
  have hpos2 : p2.pos = 14 := by
    rw [(Packet.poke_eq_some.1 h2).2.2, hpos1]
    rfl
  have hpos3 : p3.pos = 22 := by
    rw [(Packet.poke_eq_some.1 h3).2.2, hpos2]
    rfl
  have hpos4 : p4.pos = 24 := by
    rw [(Packet.poke_eq_some.1 h4).2.2, hpos3]
    rfl
  exact ⟨p1, p2, p3, p4, p5, q, h1, hpos1, h2, hpos2, h3, hpos3, h4, hpos4, h5, hbody, hq⟩

omit hid

theorem fits_some (p : Packet) : fits (some p) = pure p := rfl

theorem run_get (f : Sender → Send Unit) (s : Sender) :
    ExceptT.run (get >>= f) s = (f s).run s := rfl

theorem run_then {x y : Send Unit} {s s' : Sender} (h : x.run s = (.ok (), s')) :
    ExceptT.run (x >>= fun _ => y) s = y.run s' := by
  show (StateT.bind x.run (ExceptT.bindCont fun _ => y)) s = y.run s'
  unfold StateT.bind
  rw [h]
  rfl

variable (hsub : chassis.cIdSubtype = LLDP_CHASSISID_SUBTYPE_LLADDR)
include hid hsub

/-- A turn of the loop up to the TLVs. -/
theorem edpState_run (sendOk : Bool) (s : Sender)
    {p1 p2 p3 p4 p5 p6 : Packet} (h1 : (Packet.calloc hw.hMtu).poke (etherHead hw) = some p1)
    (h2 : p1.poke (be16Bytes 0) = some p2) (h3 : p2.poke llcHead = some p3)
    (h4 : p3.poke [1, 0] = some p4)
    (h5 : p4.poke (be32Bytes 0 ++ (be16Bytes (UInt16.ofNat s.seq) ++ (be16Bytes 0 ++
      chassis.cId.getD []))) = some p5)
    (h6 : p5.poke ((stateTlvs chassis hIfname hIfindex hw state).flatMap encodeTlv) = some p6) :
    (edpState cfg chassis hIfname hIfindex sendOk hw state).run s =
      ExceptT.run (m := StateM Sender) (do
        if state = 1 ∧ hw.hLport.pVlans = [] then return
        let p ← fits (p6.poke (encodeTlv ⟨EDP_TLV_NULL, []⟩))
        modify fun s => { s with frames := s.frames ++
          [interfacesSendHelper cfg hw (patchEdp p1.pos p2.pos p3.pos p4.pos p).written] }
        unless sendOk do throw .ENETDOWN) { s with seq := s.seq + 1 } := by
  have hether : [EDP_MULTICAST_ADDR, hw.hLladdr.1].flatten = etherHead hw := by
    simp [etherHead]
  have hllc : [[0xaa], [0xaa], [0x03], LLC_ORG_EXTREME, be16Bytes LLC_PID_EDP].flatten = llcHead := by
    simp [llcHead]
  have hbad : ¬ ((chassis.cId.getD []).length ≠ 6 ∨
      chassis.cIdSubtype ≠ LLDP_CHASSISID_SUBTYPE_LLADDR) := by
    simp [hid, hsub]
  have htwo : ([[1], [0]] : List Bytes).flatten = [1, 0] := rfl
  have hhead (seq : Nat) : [be32Bytes 0, be16Bytes (UInt16.ofNat seq), be16Bytes 0,
      chassis.cId.getD []].flatten = be32Bytes 0 ++ (be16Bytes (UInt16.ofNat seq) ++
        (be16Bytes 0 ++ chassis.cId.getD [])) := by
    simp
  unfold edpState
  simp only [Packet.pokes_eq, pokeEdpTlv_eq, pokeEdpTlvs_eq, hether, hllc, htwo, hhead]
  rw [h1, fits_some, pure_bind, h2, fits_some, pure_bind, h3, fits_some, pure_bind, if_neg hbad,
    h4, fits_some, pure_bind, run_get, h5, fits_some, pure_bind, h6, fits_some]
  rfl

/-- **A frame that fits** is handed to the device. -/
theorem edpState_sent (hstate : ¬ (state = 1 ∧ hw.hLport.pVlans = []))
    (hfit : 38 + (edpBody chassis hIfname hIfindex hw state).length ≤ hw.hMtu) (s : Sender) :
    (edpState cfg chassis hIfname hIfindex true hw state).run s = (.ok (),
      ⟨s.seq + 1, s.frames ++ [interfacesSendHelper cfg hw
        (edpPdu chassis hw s.seq (edpBody chassis hIfname hIfindex hw state))]⟩) := by
  obtain ⟨p1, p2, p3, p4, p5, q, h1, hpos1, h2, hpos2, h3, hpos3, h4, hpos4, h5, hbody, hq⟩ :=
    headers_fit hid s.seq _ hfit
  obtain ⟨p6, h6, h7⟩ := Packet.poke_append_some.1 hbody
  have hpdu := Packet.written_of_poke (patchEdp_draft hid (Packet.pos_calloc hw.hMtu) hq)
  rw [edpState_run cfg hIfname hIfindex state hid hsub true s h1 h2 h3 h4 h5 h6, if_neg hstate, h7,
    fits_some, pure_bind, hpos1, hpos2, hpos3, hpos4, hpdu]
  rfl

/-- Without VLANs there is no second frame, but its number is taken. -/
theorem edpState_idle (hvlans : hw.hLport.pVlans = []) (hfit : 38 ≤ hw.hMtu) (sendOk : Bool)
    (s : Sender) :
    (edpState cfg chassis hIfname hIfindex sendOk hw 1).run s =
      (.ok (), { s with seq := s.seq + 1 }) := by
  obtain ⟨p1, p2, p3, p4, p5, q, h1, -, h2, -, h3, -, h4, -, h5, -, -⟩ :=
    headers_fit hid s.seq [] hfit
  have hnone : (stateTlvs chassis hIfname hIfindex hw 1).flatMap encodeTlv = [] := by
    simp [stateTlvs, hvlans]
  have h6 : p5.poke ((stateTlvs chassis hIfname hIfindex hw 1).flatMap encodeTlv) = some p5 := by
    rw [hnone, Packet.poke_nil]
  rw [edpState_run cfg hIfname hIfindex 1 hid hsub sendOk s h1 h2 h3 h4 h5 h6,
    if_pos ⟨rfl, hvlans⟩]
  rfl

/-- **The frames of `edp_send`**: one that names the sender, and one that
tells its VLANs if there are any. -/
theorem edpSend_frames {b : Build} (hb : b.dot1 = true) (seq : Nat)
    (hfirst : 38 + (edpBody chassis hIfname hIfindex hw 0).length ≤ hw.hMtu)
    (hsecond : hw.hLport.pVlans ≠ [] →
      38 + (edpBody chassis hIfname hIfindex hw 1).length ≤ hw.hMtu) :
    (edpSend b cfg chassis hIfname hIfindex (fun _ => true) seq hw).sender.frames =
      interfacesSendHelper cfg hw (edpPdu chassis hw seq (edpBody chassis hIfname hIfindex hw 0)) ::
        if hw.hLport.pVlans = [] then []
        else [interfacesSendHelper cfg hw
          (edpPdu chassis hw (seq + 1) (edpBody chassis hIfname hIfindex hw 1))] := by
  have h0 := edpState_sent cfg hIfname hIfindex 0 hid hsub (by simp) hfirst ⟨seq, []⟩
  unfold edpSend
  dsimp only
  rw [run_then h0, if_pos hb]
  by_cases hvlans : hw.hLport.pVlans = []
  · rw [edpState_idle cfg hIfname hIfindex hid hsub hvlans (by omega), if_pos hvlans]
    rfl
  · rw [edpState_sent cfg hIfname hIfindex 1 hid hsub (fun h => hvlans h.2) (hsecond hvlans),
      if_neg hvlans]
    rfl

end Frame

end Lldpd.Edp
