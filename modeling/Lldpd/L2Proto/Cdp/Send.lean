import Lldpd.L2Proto.Cdp.Decode
import Lldpd.L2Proto.Frame
import Lldpd.L2Proto.Lldp.Emit

/-!
# Emission of a CDP or FDP frame (`cdp_send`)

The frame is written like an LLDPDU, except that the length of a TLV takes two
bytes and that the length of the frame and its checksum are filled in at the
end. `version` is 0 for FDP.

`cdpSend_frame` says what the frame is, and when there is one.
-/
namespace Lldpd.Cdp
open Lldpd.Core Lldpd.Lldp

def LLC_ORG_CISCO : Bytes := [0x00, 0x00, 0x0c]
def LLC_ORG_FOUNDRY : Bytes := [0x00, 0xe0, 0x52]
def CDP_TLV_POWER_CONSUMPTION : Nat := 16
def CDP_CAP_SWITCH : UInt32 := 0x08
def CDP_CAP_HOST : UInt32 := 0x10

/-! ## The TLVs -/

/-- `c_name ? POKE_BYTES(c_name, strlen(c_name)) : POKE_BYTES("", 0)`. -/
def optionalString (s : Option Bytes) : Bytes := s.elim [] cstr

/-- One IPv4 address.
mirrors cdp.c:122-132 -/
def addressPokes (mgmt : Mgmt) : List Bytes :=
  [[1], [1], [CDP_ADDRESS_PROTO_IP], be16Bytes 4, mgmt.addrBytes.take 4]

/-- mirrors cdp.c:113-136 -/
def addressTlv (chassis : Chassis) : List OutTlv :=
  let addresses := chassis.cMgmt.filter fun mgmt => mgmt.mFamily = .ipv4
  if addresses = [] then []
  else [⟨CDP_TLV_ADDRESSES,
    be32Bytes (UInt32.ofNat addresses.length) :: addresses.flatMap addressPokes⟩]

/-- mirrors cdp.c:148-178 -/
def capabilitiesTlv (version : Nat) (chassis : Chassis) : OutTlv :=
  if version ≠ 0 then
    let router := if chassis.cCapEnabled &&& LLDP_CAP_ROUTER ≠ 0 then CDP_CAP_ROUTER else 0
    let switch := if chassis.cCapEnabled &&& LLDP_CAP_BRIDGE ≠ 0 then CDP_CAP_SWITCH else 0
    ⟨CDP_TLV_CAPABILITIES, [be32Bytes (router ||| switch ||| CDP_CAP_HOST)]⟩
  else
    let capstr :=
      if chassis.cCapEnabled &&& LLDP_CAP_ROUTER ≠ 0 then ascii "Router"
      else if chassis.cCapEnabled &&& LLDP_CAP_BRIDGE ≠ 0 then ascii "Switch"
      else if chassis.cCapEnabled &&& LLDP_CAP_REPEATER ≠ 0 then ascii "Bridge"
      else ascii "Host"
    ⟨CDP_TLV_CAPABILITIES, [capstr]⟩

/-- mirrors cdp.c:180-189 -/
def nativeVlanTlv (b : Build) (version : Nat) (port : Port) : List OutTlv :=
  if b.dot1 ∧ 2 ≤ version ∧ port.pPvid ≠ 0 then [⟨CDP_TLV_NATIVEVLAN, [be16Bytes port.pPvid]⟩] else []

/-- mirrors cdp.c:208-221 -/
def powerTlv (b : Build) (version : Nat) (port : Port) : List OutTlv :=
  if b.lldpmed ∧ 2 ≤ version ∧ port.pMedCapEnabled ≠ 0 ∧
      port.pMedPower.source ≠ LLDP_MED_POW_SOURCE_LOCAL ∧ 0 < port.pMedPower.val ∧
      port.pMedPower.val ≤ 655 then
    [⟨CDP_TLV_POWER_CONSUMPTION, [be16Bytes (port.pMedPower.val * 100)]⟩]
  else []

/-- mirrors cdp.c:96-221 -/
def cdpTlvs (b : Build) (version : Nat) (cfg : Config) (chassis : Chassis) (port : Port) :
    List OutTlv :=
  [⟨CDP_TLV_CHASSIS, [optionalString chassis.cName]⟩] ++ addressTlv chassis ++
    [⟨CDP_TLV_PORT, [optionalString port.pDescr]⟩, capabilitiesTlv version chassis] ++
    nativeVlanTlv b version port ++
    [⟨CDP_TLV_SOFTWARE, [optionalString chassis.cDescr]⟩,
      ⟨CDP_TLV_PLATFORM, [cstr (cfg.cPlatform.getD (ascii "Linux"))]⟩] ++
    powerTlv b version port

/-! ## The frame -/

/-- A TLV: `POKE_START_CDP_TLV`, whose first write is not checked, the writes
and `POKE_END_CDP_TLV`.
mirrors frame.h:116-127 -/
def pokeCdpTlv (p : Packet) (t : OutTlv) : Option Packet := do
  let p := (p.poke (be16Bytes (UInt16.ofNat t.type))).getD p
  let tlv := p.pos
  let p ← p.poke (be16Bytes 0)
  let p ← t.pokes.foldlM Packet.poke p
  return p.overwrite tlv (be16Bytes (UInt16.ofNat (p.pos - tlv + 2)))

/-- Everything `cdp_send` writes.
mirrors cdp.c:54-229 -/
def writeCdp (b : Build) (cfg : Config) (chassis : Chassis) (hw : Hardware) (version : Nat) :
    Option Packet := do
  let p := Packet.calloc hw.hMtu
  let p ← [if version = 0 then FDP_MULTICAST_ADDR else CDP_MULTICAST_ADDR, hw.hLladdr.1].foldlM
    Packet.poke p
  let posLenEh := p.pos
  let p ← p.poke (be16Bytes 0)
  let posLlc := p.pos
  let p ← [[0xaa], [0xaa], [0x03], if version = 0 then LLC_ORG_FOUNDRY else LLC_ORG_CISCO,
    be16Bytes LLC_PID_CDP].foldlM Packet.poke p
  let posCdp := p.pos
  let p ← [[if version = 0 then 1 else UInt8.ofNat version], [chassis.cTtl.toUInt8]].foldlM
    Packet.poke p
  let posChecksum := p.pos
  let p ← p.poke (be16Bytes 0)
  let p ← (cdpTlvs b version cfg chassis hw.hLport).foldlM pokeCdpTlv p
  let p := p.overwrite posLenEh (be16Bytes (UInt16.ofNat (p.pos - posLlc)))
  let checksum := frameChecksum (p.written.drop posCdp) (version ≠ 0)
  return p.overwrite posChecksum (be16Bytes (ntohs checksum))

structure SentCdp where
  ret : SendRet
  hardware : Hardware
  frame : Option Bytes
  deriving DecidableEq, Repr

/-- `sendOk` is whether the device takes the frame.
mirrors cdp.c:30-246 -/
def cdpSend (b : Build) (cfg : Config) (chassis : Chassis) (sendOk : Bool) (hw : Hardware)
    (version : Nat) : SentCdp :=
  (writeCdp b cfg chassis hw version).elim ⟨.tooBig, hw, none⟩ fun p =>
    let frame := interfacesSendHelper cfg hw p.written
    if sendOk then ⟨.sent, { hw with hTxCnt := hw.hTxCnt + 1 }, some frame⟩
    else ⟨.netdown, hw, some frame⟩

/-! ## What is written -/

section
variable {p : Packet} {t : OutTlv}

def encodeTlv (t : OutTlv) : Bytes :=
  be16Bytes (UInt16.ofNat t.type) ++ be16Bytes (UInt16.ofNat (t.payload.length + 4)) ++ t.payload

theorem pokeCdpTlv_eq (p : Packet) (t : OutTlv) : pokeCdpTlv p t = p.poke (encodeTlv t) := by
  refine (Packet.poke_length _ t.pokes 2).trans ?_
  rw [Packet.poke_unchecked (List.length_append ▸ Nat.le_add_right _ _)]
  rfl

theorem pokeCdpTlvs_eq (ts : List OutTlv) (p : Packet) :
    ts.foldlM pokeCdpTlv p = p.poke (ts.flatMap encodeTlv) :=
  Packet.foldlM_poke pokeCdpTlv_eq ts p

end

/-! ## The frame -/

section
variable (b : Build) (cfg : Config) (chassis : Chassis) (hw : Hardware) (version : Nat)

def etherHead : Bytes :=
  (if version = 0 then FDP_MULTICAST_ADDR else CDP_MULTICAST_ADDR) ++ hw.hLladdr.1

def llcHead : Bytes :=
  [0xaa, 0xaa, 0x03] ++ (if version = 0 then LLC_ORG_FOUNDRY else LLC_ORG_CISCO) ++
    be16Bytes LLC_PID_CDP

def cdpHead : Bytes := [if version = 0 then 1 else UInt8.ofNat version, chassis.cTtl.toUInt8]

def cdpBody : Bytes := (cdpTlvs b version cfg chassis hw.hLport).flatMap encodeTlv

def cdpChecksum : UInt16 :=
  ntohs (frameChecksum (cdpHead chassis version ++ be16Bytes 0 ++ cdpBody b cfg chassis hw version)
    (version ≠ 0))

def cdpPdu : Bytes :=
  etherHead hw version ++
    (be16Bytes (UInt16.ofNat (12 + (cdpBody b cfg chassis hw version).length)) ++
      (llcHead version ++ (cdpHead chassis version ++
        (be16Bytes (cdpChecksum b cfg chassis hw version) ++ cdpBody b cfg chassis hw version))))

theorem length_etherHead : (etherHead hw version).length = 12 := by
  unfold etherHead
  rw [List.length_append, hw.hLladdr.2]
  split <;> rfl

theorem length_llcHead : (llcHead version).length = 8 := by
  unfold llcHead
  split <;> rfl

/-- The two fields that are filled in at the end.
mirrors cdp.c:224-229 -/
def patchCdp (posLenEh posLlc posCdp posChecksum : Nat) (p : Packet) : Packet :=
  let p := p.overwrite posLenEh (be16Bytes (UInt16.ofNat (p.pos - posLlc)))
  p.overwrite posChecksum (be16Bytes (ntohs (frameChecksum (p.written.drop posCdp) (version ≠ 0))))

/-- One write, and then the two fields. -/
theorem writeCdp_poke : writeCdp b cfg chassis hw version =
    ((Packet.calloc hw.hMtu).poke (etherHead hw version ++ (be16Bytes 0 ++ (llcHead version ++
      (cdpHead chassis version ++ (be16Bytes 0 ++ cdpBody b cfg chassis hw version)))))).map
        (patchCdp version 12 14 22 24) := by
  have hether : [if version = 0 then FDP_MULTICAST_ADDR else CDP_MULTICAST_ADDR,
      hw.hLladdr.1].flatten = etherHead hw version := by
    simp [etherHead]
  have hllc : [[0xaa], [0xaa], [0x03], if version = 0 then LLC_ORG_FOUNDRY else LLC_ORG_CISCO,
      be16Bytes LLC_PID_CDP].flatten = llcHead version := by
    simp [llcHead]
  unfold writeCdp
  simp only [Packet.pokes_eq, pokeCdpTlvs_eq, hether, hllc]
  -- from the last write to the first: each position is where the next write starts
  have hpos (p : Packet) : p.pos + (etherHead hw version).length = p.pos + 12 := by
    rw [length_etherHead]
  have hllcPos (p : Packet) : p.pos + (llcHead version).length = p.pos + 8 := by
    rw [length_llcHead]
  refine (Packet.bind_poke_map (f := fun n => patchCdp version n (n + 2) (n + 10) (n + 12))
    (b := be16Bytes 0 ++ (llcHead version ++ (cdpHead chassis version ++ (be16Bytes 0 ++
      cdpBody b cfg chassis hw version)))) fun p1 => ?_).trans ?_
  · refine Packet.bind_poke_map (f := fun n => patchCdp version p1.pos n (n + 8) (n + 10))
      fun p2 => ?_
    refine (Packet.bind_poke_map (f := fun n => patchCdp version p1.pos p2.pos n (n + 2))
      (b := cdpHead chassis version ++ (be16Bytes 0 ++ cdpBody b cfg chassis hw version))
      fun p3 => ?_).trans ?_
    · refine Packet.bind_poke_map
        fun p4 => ?_
      refine Packet.bind_poke_map (f := fun _ => patchCdp version p1.pos p2.pos p3.pos p4.pos)
        fun p5 => ?_
      exact Option.map_eq_bind.symm
    · rw [hllcPos]
  · rw [hpos]
    rfl

theorem length_cdpHead : (cdpHead chassis version).length = 2 := rfl

theorem writeCdp_eq : writeCdp b cfg chassis hw version =
    (Packet.calloc hw.hMtu).poke (cdpPdu b cfg chassis hw version) := by
  rw [writeCdp_poke]
  cases h : (Packet.calloc hw.hMtu).poke (etherHead hw version ++ (be16Bytes 0 ++ (llcHead version ++
      (cdpHead chassis version ++ (be16Bytes 0 ++ cdpBody b cfg chassis hw version))))) with
  | none =>
    refine (Packet.poke_eq_none.2 ?_).symm
    have hfull := Packet.poke_eq_none.1 h
    simp only [cdpPdu, List.length_append] at hfull ⊢
    exact hfull
  | some p =>
    have hend : p.pos = 26 + (cdpBody b cfg chassis hw version).length := by
      rw [(Packet.poke_eq_some.1 h).2.2, Packet.pos_calloc]
      simp only [List.length_append, length_etherHead, be16Bytes_length, length_llcHead, length_cdpHead]
      omega
    have hlen : UInt16.ofNat (p.pos - 14) =
        UInt16.ofNat (12 + (cdpBody b cfg chassis hw version).length) := by
      congr 1
      omega
    have h1 := Packet.overwrite_be16 (UInt16.ofNat (p.pos - 14)) h
    rw [length_etherHead, Packet.pos_calloc] at h1
    have hwritten : (p.overwrite 12 (be16Bytes (UInt16.ofNat (p.pos - 14)))).written.drop 22 =
        cdpHead chassis version ++ be16Bytes 0 ++ cdpBody b cfg chassis hw version := by
      have hfront : (etherHead hw version ++ (be16Bytes (UInt16.ofNat (p.pos - 14)) ++
          llcHead version)).length = 22 := by
        simp [length_etherHead, be16Bytes_length, length_llcHead]
      rw [Packet.written_of_poke h1]
      show ([] ++ _ : Bytes).drop 22 = _
      rw [List.nil_append, ← List.append_assoc (be16Bytes _), ← List.append_assoc (etherHead hw version),
        List.drop_left' hfront, List.append_assoc]
    have h2 := h1
    rw [← List.append_assoc (llcHead version), ← List.append_assoc (be16Bytes (UInt16.ofNat _)),
      ← List.append_assoc (etherHead hw version)] at h2
    have h3 := Packet.overwrite_be16 (cdpChecksum b cfg chassis hw version) h2
    have hfront : (etherHead hw version ++ (be16Bytes (UInt16.ofNat (p.pos - 14)) ++
        (llcHead version ++ cdpHead chassis version))).length = 24 := by
      simp [length_etherHead, be16Bytes_length, length_llcHead, length_cdpHead]
    rw [hfront, hlen] at h3
    rw [hlen] at hwritten
    unfold patchCdp
    rw [Option.map_some]
    dsimp only
    rw [hlen, hwritten]
    refine Eq.trans ?_ (h3.symm.trans ?_)
    · rfl
    · unfold cdpPdu
      simp [List.append_assoc]

theorem cdpSend_frame (sendOk : Bool) : (cdpSend b cfg chassis sendOk hw version).frame =
    if (cdpPdu b cfg chassis hw version).length ≤ hw.hMtu then
      some (interfacesSendHelper cfg hw (cdpPdu b cfg chassis hw version))
    else none := by
  unfold cdpSend
  rw [writeCdp_eq]
  cases h : (Packet.calloc hw.hMtu).poke (cdpPdu b cfg chassis hw version) with
  | none =>
    have hfull := Packet.poke_eq_none.1 h
    rw [Packet.length_calloc, Packet.pos_calloc] at hfull
    rw [if_neg (by omega)]
    rfl
  | some p =>
    have hle := (Packet.poke_eq_some.1 h).1
    rw [Packet.length_calloc] at hle
    have hwritten : p.written = cdpPdu b cfg chassis hw version :=
      (Packet.written_of_poke h).trans (List.nil_append _)
    rw [if_pos (by omega), Option.elim_some, hwritten]
    cases sendOk <;> rfl

/-- The TTL of the frame is the low byte of the chassis's. -/
theorem cdpSend_ttl {sendOk : Bool} {frame : Bytes}
    (h : (cdpSend b cfg chassis sendOk hw version).frame = some frame) :
    frame[23]? = some chassis.cTtl.toUInt8 := by
  rw [cdpSend_frame] at h
  split at h
  case isFalse => cases h
  obtain rfl := Option.some.inj h
  have hhead : (etherHead hw version ++
      be16Bytes (UInt16.ofNat (12 + (cdpBody b cfg chassis hw version).length))).length = 14 := by
    rw [List.length_append, length_etherHead, be16Bytes_length]
  obtain ⟨happend, hlen, -, -⟩ := interfacesSendHelper_append cfg hw
    (llcHead version ++ (cdpHead chassis version ++
      (be16Bytes (cdpChecksum b cfg chassis hw version) ++ cdpBody b cfg chassis hw version)))
    (show 12 ≤ _ by rw [hhead]; omega)
  unfold cdpPdu
  rw [← List.append_assoc, happend, List.getElem?_append_right (by omega), hlen, hhead,
    List.getElem?_append_right (by rw [length_llcHead]; omega), length_llcHead]
  rfl

end

end Lldpd.Cdp
