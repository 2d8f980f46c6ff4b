import Lldpd.L2Proto.Checksum
import Lldpd.L2Proto.Edp.Send

/-!
# What `edp_send` says is what `edp_decode` hears

The two frames of `edp_send`, read back: the first one announces a neighbor
(`edpDecode_first`) and the second one carries its VLANs (`edpDecode_second`).
Both need a packet that its 16-bit length can describe. Of a longer one the
receiver checks only a part.
-/
namespace Lldpd.Edp
open Lldpd.Core Lldpd.Lldp

/-! ## The header -/

def edpLength (frame : Bytes) : Nat := (be16 (frame.getD 24 0) (frame.getD 25 0)).toNat

/-- Destination, protocol, version, kind of identifier, length and checksum. -/
def headerOk (frame : Bytes) : Bool :=
  38 ≤ frame.length ∧ frame.take 6 = EDP_MULTICAST_ADDR ∧
    be16 (frame.getD 20 0) (frame.getD 21 0) = LLC_PID_EDP ∧ frame.getD 22 0 = 1 ∧
    be16 (frame.getD 30 0) (frame.getD 31 0) = 0 ∧ edpLength frame ≤ frame.length - 22 ∧
    frameChecksum ((frame.drop 22).take (edpLength frame)) false = 0

/-- The header is read inside the frame. -/
theorem decodeHeader_eq (frame : Bytes) (d : Dec) : decodeHeader frame d =
    if headerOk frame then .ok ((frame.drop 32).take 6, frame.drop 38)
    else .error (.refused d) := by
  unfold decodeHeader headerOk edpLength
  by_cases hl : frame.length < 38
  · simp [Nat.not_le.2 hl]
  have h38 : 38 ≤ frame.length := by omega
  have hskip {i : Nat} (n : Nat) (hi : i + n ≤ frame.length) := Cursor.discard_drop hi
  have hword {i : Nat} (hi : i + 2 ≤ frame.length) := @Cursor.peekUint16_drop Dec frame i hi
  simp only [hl, if_false, @Cursor.peekBytes_of_le Dec frame 6 (by omega),
    hskip 6 (show 6 + 6 ≤ frame.length by omega), hskip 2 (show 6 + 6 + 2 ≤ frame.length by omega),
    hskip 6 (show 6 + 6 + 2 + 6 ≤ frame.length by omega),
    hword (show 20 + 2 ≤ frame.length by omega), @Cursor.peekUint8_drop Dec frame 22 (by omega),
    @Cursor.peekBytes_drop Dec frame 32 6 (by omega),
    hskip 1 (show 23 + 1 ≤ frame.length by omega), hword (show 24 + 2 ≤ frame.length by omega),
    hskip 2 (show 26 + 2 ≤ frame.length by omega), hskip 2 (show 28 + 2 ≤ frame.length by omega),
    hword (show 30 + 2 ≤ frame.length by omega), ok_bind, Cursor.length_mk, h38, true_and,
    decide_eq_true_eq, pure_eq_ok, throw_eq_error, error_bind]
  generalize be16 (frame.getD 24 0) (frame.getD (24 + 1) 0) = len
  have hinner : (if ((frame.drop (30 + 2)).length : Int) + 10 < len.toNat then .error (.refused d)
      else (Cursor.mk (frame.drop (20 + 2)) 0).peekBytes len.toNat >>= fun x =>
        if frameChecksum x.1 false ≠ 0 then .error (.refused d)
        else .ok ((frame.drop 32).take 6, frame.drop 38) : Run Dec (Bytes × Bytes)) =
      if len.toNat ≤ frame.length - 22 ∧ frameChecksum ((frame.drop 22).take len.toNat) false = 0 then
        .ok ((frame.drop 32).take 6, frame.drop 38)
      else .error (.refused d) := by
    by_cases hlen : len.toNat ≤ frame.length - 22
    · rw [if_neg (by rw [List.length_drop]; omega),
        Cursor.peekBytes_of_le (by rw [List.length_drop]; exact hlen)]
      simp [hlen, ite_not]
    · rw [if_pos (by rw [List.length_drop]; omega), if_neg (fun h => hlen h.1)]
  rw [hinner]
  simp only [refuse_unless]

section Header
variable {cfg : Config} {chassis : Chassis} {hw : Hardware} {seq : Nat} {body : Bytes}

/-- The frame with its source address, whatever the interface makes of it. -/
theorem pdu_sent (cfg : Config) (chassis : Chassis) (hw : Hardware) (seq : Nat) (body : Bytes) :
    ∃ src : Bytes, src.length = 6 ∧ interfacesSendHelper cfg hw (edpPdu chassis hw seq body) =
      EDP_MULTICAST_ADDR ++ (src ++ edpTail chassis seq body) := by
  obtain ⟨happ, hlen, htake, -⟩ := interfacesSendHelper_append cfg hw (edpTail chassis seq body)
    (Nat.le_of_eq (length_etherHead hw).symm)
  refine ⟨(interfacesSendHelper cfg hw (etherHead hw)).drop 6, ?_, ?_⟩
  · rw [List.length_drop, hlen, length_etherHead]
  · have hdst : (etherHead hw).take 6 = EDP_MULTICAST_ADDR := rfl
    rw [edpPdu, happ, ← hdst, ← htake, ← List.append_assoc (List.take 6 _), List.take_append_drop]

variable (hid : (chassis.cId.getD []).length = 6) (hlen : body.length ≤ 65519)
include hid

theorem length_edpPacket (seq : Nat) (body : Bytes) :
    (edpPacket chassis seq body).length = 16 + body.length := by
  rw [edpPacket, List.length_append, List.length_append, be16Bytes_length, length_edpStart,
    length_edpRest hid]
  omega

theorem length_edpTail (seq : Nat) (body : Bytes) :
    (edpTail chassis seq body).length = 26 + body.length := by
  rw [edpTail, List.length_append, List.length_append, length_edpPacket hid]
  show 2 + (8 + (16 + body.length)) = _
  omega

include hlen

theorem frameChecksum_sent : frameChecksum (edpPacket chassis seq body) false = 0 := by
  apply frameChecksum_filled
  · rw [length_edpStart]
  · rw [length_edpRest hid, length_edpStart]
    omega

theorem headerOk_sent {src : Bytes} (hsrc : src.length = 6) :
    headerOk (EDP_MULTICAST_ADDR ++ (src ++ edpTail chassis seq body)) = true := by
  have hck := @frameChecksum_sent chassis seq body hid hlen
  match src, hsrc with
  | [s0, s1, s2, s3, s4, s5], _ =>
    unfold headerOk
    rw [decide_eq_true_eq]
    have hedp : edpLength (EDP_MULTICAST_ADDR ++ ([s0, s1, s2, s3, s4, s5] ++
        edpTail chassis seq body)) = 16 + body.length := by
      show (be16 (UInt8.ofNat ((UInt16.ofNat (16 + body.length)).toNat / 256))
        (UInt8.ofNat (UInt16.ofNat (16 + body.length)).toNat)).toNat = _
      rw [be16_be16Bytes, UInt16.toNat_ofNat']
      omega
    have hpacket := length_edpPacket hid seq body
    have hlength : (EDP_MULTICAST_ADDR ++ ([s0, s1, s2, s3, s4, s5] ++
        edpTail chassis seq body)).length = 38 + body.length := by
      rw [List.length_append, List.length_append, length_edpTail hid]
      show 6 + (6 + (26 + body.length)) = _
      omega
    rw [hedp]
    refine ⟨by omega, rfl, be16_be16Bytes LLC_PID_EDP, rfl, be16_be16Bytes 0, by omega, ?_⟩
    show frameChecksum ((edpPacket chassis seq body).take (16 + body.length)) false = 0
    rw [← hpacket, List.take_length]
    exact hck

theorem decodeHeader_sent (cfg : Config) (hw : Hardware) (seq : Nat) (d : Dec) :
    decodeHeader (interfacesSendHelper cfg hw (edpPdu chassis hw seq body)) d =
      .ok (chassis.cId.getD [], body) := by
  obtain ⟨src, hsrc, hframe⟩ := pdu_sent cfg chassis hw seq body
  rw [decodeHeader_eq, hframe, headerOk_sent hid hlen hsrc]
  unfold edpTail edpPacket edpRest
  generalize chassis.cId.getD [] = cid at hid
  match src, hsrc, cid, hid with
  | [s0, s1, s2, s3, s4, s5], _, [i0, i1, i2, i3, i4, i5], _ => rfl

end Header

/-! ## The TLVs -/

/-- `ts`, in front of any bytes, takes the decoder from `d` to `d'`. -/
def Decodes (b : Build) (ts : List OutTlv) (d d' : Dec) : Prop :=
  ∀ rest fuel, (ts.flatMap encodeTlv ++ rest).length < fuel → ∃ fuel', rest.length < fuel' ∧
    decodeLoop b .frame fuel (ts.flatMap encodeTlv ++ rest) d = decodeLoop b .frame fuel' rest d'

section Tlvs
variable {b : Build} {d d' d'' : Dec} {ts us : List OutTlv}

theorem Decodes.nil : Decodes b [] d d := fun _ fuel hfuel => ⟨fuel, hfuel, rfl⟩

theorem Decodes.append (ht : Decodes b ts d d') (hu : Decodes b us d' d'') :
    Decodes b (ts ++ us) d d'' := by
  intro rest fuel hfuel
  rw [List.flatMap_append, List.append_assoc] at hfuel ⊢
  obtain ⟨fuel', hfuel', hfirst⟩ := ht _ fuel hfuel
  obtain ⟨fuel'', hfuel'', hsecond⟩ := hu rest fuel' hfuel'
  exact ⟨fuel'', hfuel'', hfirst.trans hsecond⟩

/-- Step lemma: a TLV whose header can hold its type and its length. -/
theorem Decodes.one {t : OutTlv} (htype : t.type < 256) (hlen : t.payload.length ≤ 65531)
    (hd : d.gotend = false)
    (h : ∀ rest, decodeTlv b t.type t.payload.length ⟨t.payload ++ rest, 0⟩ d = .ok d') :
    Decodes b [t] d d' := by
  intro rest fuel hfuel
  have hflat : [t].flatMap encodeTlv ++ rest = EDP_TLV_MARKER :: UInt8.ofNat t.type ::
      (be16Bytes (UInt16.ofNat (t.payload.length + 4)) ++ (t.payload ++ rest)) := by
    simp [encodeTlv]
  rw [hflat] at hfuel ⊢
  match fuel, hfuel with
  | fuel + 1, hfuel =>
    simp only [List.length_cons, List.length_append] at hfuel
    refine ⟨fuel, by omega, ?_⟩
    have hsize : (UInt16.ofNat (t.payload.length + 4)).toNat = t.payload.length + 4 := by
      rw [UInt16.toNat_ofNat', Nat.mod_eq_of_lt (by omega)]
    have hty : (UInt8.ofNat t.type).toNat = t.type := by
      rw [UInt8.toNat_ofNat', Nat.mod_eq_of_lt htype]
    have hstep : decodeStep b .frame (EDP_TLV_MARKER :: UInt8.ofNat t.type ::
        (be16Bytes (UInt16.ofNat (t.payload.length + 4)) ++ (t.payload ++ rest))) d =
        .ok (d', rest) := by
      unfold decodeStep
      simp only [be16Bytes, List.cons_append, List.nil_append, List.length_cons,
        Cursor.peekUint8_cons, Cursor.peekUint16_cons, ok_bind, be16_be16Bytes, hty, ne_eq,
        not_true_eq_false, if_false, Bound.window]
      rw [hsize, Nat.add_sub_cancel, if_neg (by omega), if_neg (by simp), h, List.drop_left]
      rfl
    rw [decodeLoop, if_neg (by simp [hd]), hstep]
    rfl

/-- The name, with the NUL that follows it. -/
theorem decodes_display {chassis : Chassis} (hlen : (displayTlv chassis).payload.length ≤ 65531)
    (hd : d.gotend = false) : Decodes b [displayTlv chassis] d
      { d with chassis.cName := some (cstr (chassis.cName.getD []) ++ [0]) } := by
  refine .one (show EDP_TLV_DISPLAY < 256 by decide) hlen hd fun rest => ?_
  show (Cursor.peekBytes _ _ >>= _ : Run Dec Dec) = _
  rw [Cursor.peekBytes_append]
  rfl

def portId (slotPort : UInt16 × UInt16) : Bytes :=
  ascii (toString (slotPort.1.toNat + 1) ++ "/" ++ toString (slotPort.2.toNat + 1))

def portDescr (slotPort : UInt16 × UInt16) : Bytes :=
  ascii ("Slot " ++ toString (slotPort.1.toNat + 1) ++ " / Port " ++
    toString (slotPort.2.toNat + 1))

theorem decodes_info (hIfname : Text) (hIfindex : Int) (hd : d.gotend = false) :
    Decodes b [infoTlv hIfname hIfindex] d
      { d with
        port.pIdSubtype := LLDP_PORTID_SUBTYPE_IFNAME
        port.pId := some (portId (slotPort hIfname hIfindex))
        port.pDescr := some (portDescr (slotPort hIfname hIfindex))
        chassis.cDescr := some (ascii "EDP enabled device, version 7.6.4.99") } := by
  refine .one (show EDP_TLV_INFO < 256 by decide) (show 32 ≤ 65531 by decide) hd fun rest => ?_
  generalize hsp : slotPort hIfname hIfindex = sp
  obtain ⟨more, hpay⟩ : ∃ more, (infoTlv hIfname hIfindex).payload ++ rest =
      be16Bytes sp.1 ++ (be16Bytes sp.2 ++ ([0, 0, 0, 0, 0, 0, 0, 0] ++ (FAKEVERSION ++ more))) := by
    rw [← hsp]
    exact ⟨_, rfl⟩
  rw [hpay]
  show decodeInfo 32 ⟨_, 0⟩ d = _
  unfold decodeInfo
  simp only [be16Bytes, List.cons_append, List.nil_append, Cursor.peekUint16_cons, ok_bind,
    be16_be16Bytes]
  rfl

/-- The VLAN that a receiver makes of a VLAN of the sender. -/
def heardVlan (v : Vlan) : Vlan := ⟨cstr v.vName ++ [0], v.vVid⟩

theorem decodes_vlan (hb : b.dot1 = true) {v : Vlan} (hlen : (vlanTlv v).payload.length ≤ 65531)
    (hd : d.gotend = false) : Decodes b [vlanTlv v] d
      { d with port.pVlans := d.port.pVlans ++ [heardVlan v], gotvlans := true } := by
  refine .one (show EDP_TLV_VLAN < 256 by decide) hlen hd fun rest => ?_
  have hpay : (vlanTlv v).payload = [0, 0] ++ (be16Bytes v.vVid ++ ([0, 0, 0, 0] ++ ([0, 0, 0, 0] ++
      (cstr v.vName ++ [0])))) := by
    simp [vlanTlv, OutTlv.payload, be32Bytes]
  have hsize : (vlanTlv v).payload.length = (cstr v.vName ++ [0]).length + 12 := by
    rw [hpay]
    simp only [List.length_append, be16Bytes_length, List.length_cons, List.length_nil]
    omega
  show decodeVlan b _ ⟨_, 0⟩ d = _
  rw [hsize, hpay, heardVlan]
  generalize cstr v.vName ++ [0] = name
  have hskip : (Cursor.mk ([0, 0] ++ (be16Bytes v.vVid ++ ([0, 0, 0, 0] ++ ([0, 0, 0, 0] ++ name))) ++
      rest) 0).discard 2 = ⟨be16Bytes v.vVid ++ ([0, 0, 0, 0] ++ ([0, 0, 0, 0] ++ (name ++ rest))),
        0⟩ := by
    simp [Cursor.discard]
  have hvid : ((Cursor.mk (be16Bytes v.vVid ++ ([0, 0, 0, 0] ++ ([0, 0, 0, 0] ++ (name ++ rest))))
      0).peekUint16 :
      Run Dec _) = .ok (v.vVid, ⟨[0, 0, 0, 0] ++ ([0, 0, 0, 0] ++ (name ++ rest)), 0⟩) := by
    simp only [be16Bytes, List.cons_append, List.nil_append, Cursor.peekUint16_cons, be16_be16Bytes]
  have hreserved : (Cursor.mk ([0, 0, 0, 0] ++ ([0, 0, 0, 0] ++ (name ++ rest))) 0).discard 4 =
      ⟨[0, 0, 0, 0] ++ (name ++ rest), 0⟩ := by
    simp [Cursor.discard]
  have haddress : ((Cursor.mk ([0, 0, 0, 0] ++ (name ++ rest)) 0).peekBytes 4 : Run Dec _) =
      .ok ([0, 0, 0, 0], ⟨name ++ rest, 0⟩) := Cursor.peekBytes_append [0, 0, 0, 0] _
  unfold decodeVlan
  rw [hb, hskip, hvid, ok_bind]
  dsimp only
  rw [hreserved, haddress]
  simp

theorem decodes_vlans (hb : b.dot1 = true) {vlans : List Vlan}
    (hlen : ∀ v ∈ vlans, (vlanTlv v).payload.length ≤ 65531) (hd : d.gotend = false) :
    Decodes b (vlans.map vlanTlv) d
      { d with
        port.pVlans := d.port.pVlans ++ vlans.map heardVlan
        gotvlans := d.gotvlans || !vlans.isEmpty } := by
  induction vlans generalizing d with
  | nil => simpa using Decodes.nil
  | cons v vlans ih =>
    rw [List.forall_mem_cons] at hlen
    have hrest := ih hlen.2 (d := { d with
      port.pVlans := d.port.pVlans ++ [heardVlan v], gotvlans := true }) hd
    have hfirst := (decodes_vlan hb hlen.1 hd).append hrest
    simpa using hfirst

theorem decodes_null (hd : d.gotend = false) :
    Decodes b [⟨EDP_TLV_NULL, []⟩] d { d with gotend := true } :=
  .one (show EDP_TLV_NULL < 256 by decide) (Nat.zero_le _) hd fun _ => rfl

end Tlvs

/-! ## The frames -/

/-- What a receiver learns of the chassis from the first frame. -/
def heardChassis (cfg : Config) (chassis : Chassis) : Chassis where
  cTtl := cfg.ttl
  cIdSubtype := LLDP_CHASSISID_SUBTYPE_LLADDR
  cId := some (chassis.cId.getD [])
  cName := some (cstr (chassis.cName.getD []) ++ [0])
  cDescr := some (ascii "EDP enabled device, version 7.6.4.99")

/-- What a receiver learns of the port from the first frame. -/
def heardPort (hIfname : Text) (hIfindex : Int) : Port where
  pIdSubtype := LLDP_PORTID_SUBTYPE_IFNAME
  pId := some (portId (slotPort hIfname hIfindex))
  pDescr := some (portDescr (slotPort hIfname hIfindex))

section Frames
variable {b : Build} {cfg : Config} {chassis : Chassis} {hIfname : Text} {hIfindex : Int}
  {hw : Hardware}

theorem payload_le_body {state : Nat} {t : OutTlv} (ht : t ∈ stateTlvs chassis hIfname hIfindex hw state)
    (hlen : (edpBody chassis hIfname hIfindex hw state).length ≤ 65519) :
    t.payload.length ≤ 65531 := by
  have hsub : (encodeTlv t).Sublist ((stateTlvs chassis hIfname hIfindex hw state).flatMap encodeTlv) :=
    List.sublist_flatten_of_mem (List.mem_map_of_mem ht)
  have hle := hsub.length_le
  have hsize : (encodeTlv t).length = t.payload.length + 4 := by
    simp only [encodeTlv, List.length_append, be16Bytes_length, List.length_cons, List.length_nil]
    omega
  unfold edpBody at hlen
  rw [List.length_append] at hlen
  omega

theorem decodeLoop_sent {ts : List OutTlv} {d d' : Dec} (h : Decodes b ts d d')
    (hd : d'.gotend = false) : decodeLoop b .frame
      ((ts.flatMap encodeTlv ++ encodeTlv ⟨EDP_TLV_NULL, []⟩).length + 1)
      (ts.flatMap encodeTlv ++ encodeTlv ⟨EDP_TLV_NULL, []⟩) d = .ok { d' with gotend := true } := by
  have hall := h.append (decodes_null hd)
  obtain ⟨fuel, hfuel, heq⟩ := hall [] _ (Nat.lt_succ_self _)
  have hflat : (ts ++ [(⟨EDP_TLV_NULL, []⟩ : OutTlv)]).flatMap encodeTlv ++ [] =
      ts.flatMap encodeTlv ++ encodeTlv ⟨EDP_TLV_NULL, []⟩ := by
    simp
  rw [hflat] at heq
  rw [heq]
  match fuel, hfuel with
  | fuel + 1, _ => rfl

theorem edpDecode_first (cfg cfg' : Config) (seq : Nat) (hid : (chassis.cId.getD []).length = 6)
    (hlen : (edpBody chassis hIfname hIfindex hw 0).length ≤ 65519) :
    ∃ d, edpDecode b .frame cfg' (interfacesSendHelper cfg hw
        (edpPdu chassis hw seq (edpBody chassis hIfname hIfindex hw 0))) = .ok (.neighbor d) ∧
      d.chassis = heardChassis cfg' chassis ∧ d.port = heardPort hIfname hIfindex := by
  have htlvs : stateTlvs chassis hIfname hIfindex hw 0 =
      [displayTlv chassis] ++ [infoTlv hIfname hIfindex] := rfl
  have hdisplay : (displayTlv chassis).payload.length ≤ 65531 :=
    payload_le_body (htlvs ▸ List.mem_cons_self) hlen
  have hdec : Decodes b (stateTlvs chassis hIfname hIfindex hw 0)
      { chassis.cTtl := cfg'.ttl, chassis.cIdSubtype := LLDP_CHASSISID_SUBTYPE_LLADDR
        chassis.cId := some (chassis.cId.getD []) }
      { chassis := heardChassis cfg' chassis, port := heardPort hIfname hIfindex } := by
    exact (decodes_display hdisplay rfl).append (decodes_info hIfname hIfindex rfl)
  unfold edpDecode
  rw [decodeHeader_sent hid hlen cfg hw seq, ok_bind]
  dsimp only
  unfold edpBody
  rw [decodeLoop_sent hdec rfl]
  exact ⟨_, rfl, rfl, rfl⟩

theorem edpDecode_second (cfg cfg' : Config) (seq : Nat) (hb : b.dot1 = true)
    (hid : (chassis.cId.getD []).length = 6) (hvlans : hw.hLport.pVlans ≠ [])
    (hlen : (edpBody chassis hIfname hIfindex hw 1).length ≤ 65519) :
    ∃ d, edpDecode b .frame cfg' (interfacesSendHelper cfg hw
        (edpPdu chassis hw seq (edpBody chassis hIfname hIfindex hw 1))) = .ok (.vlans d) ∧
      d.chassis.cIdSubtype = LLDP_CHASSISID_SUBTYPE_LLADDR ∧
      d.chassis.cId = some (chassis.cId.getD []) ∧ d.chassis.cMgmt = [] ∧
      d.port.pVlans = hw.hLport.pVlans.map heardVlan := by
  have hshort : ∀ v ∈ hw.hLport.pVlans, (vlanTlv v).payload.length ≤ 65531 := by
    intro v hv
    exact payload_le_body (List.mem_map_of_mem hv) hlen
  have hdec := decodes_vlans hb hshort (d := {
    chassis.cTtl := cfg'.ttl, chassis.cIdSubtype := LLDP_CHASSISID_SUBTYPE_LLADDR
    chassis.cId := some (chassis.cId.getD []) }) rfl
  have hsome : (!hw.hLport.pVlans.isEmpty) = true := by
    rw [Bool.not_eq_true', ← Bool.not_eq_true, List.isEmpty_iff]
    exact hvlans
  unfold edpDecode
  rw [decodeHeader_sent hid hlen cfg hw seq, ok_bind]
  dsimp only
  unfold edpBody
  rw [show stateTlvs chassis hIfname hIfindex hw 1 = hw.hLport.pVlans.map vlanTlv from rfl,
    decodeLoop_sent hdec rfl, hsome, ok_bind, finish, if_pos (.inr (.inl rfl)),
    if_pos ⟨hb, rfl, rfl⟩]
  exact ⟨_, rfl, rfl, rfl, rfl, rfl⟩

end Frames

end Lldpd.Edp
