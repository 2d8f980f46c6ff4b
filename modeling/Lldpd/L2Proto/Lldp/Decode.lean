import Lldpd.L1Data.Structs

/-!
# Reception of an LLDPDU (`lldp_decode`)

The decoder walks the TLVs of a frame with the unchecked `PEEK_*` macros.
Each branch of its `switch` is a function here, on the cursor at the first
payload byte: it checks what the source checks, in the source's order, and
reads what the source reads. `Stop.refused` is `goto malformed`.

The local `addr_str_buffer` keeps its bytes from one TLV to the next and
starts with whatever the stack holds, so both are part of the state
(`Dec.addrStrBuffer`). Allocations succeed; log messages are left out.
-/
namespace Lldpd.Lldp
open Core

/-! ## Constants (`lldp-tlv.h`, `lldp-const.h`) -/

def LLDP_MULTICAST_ADDR : Bytes := [0x01, 0x80, 0xc2, 0x00, 0x00, 0x0e]
def ETHER_ADDR_LEN : Nat := 6
def ETHERTYPE_LLDP : UInt16 := 0x88cc

@[match_pattern] abbrev LLDP_TLV_END : Nat := 0
@[match_pattern] abbrev LLDP_TLV_CHASSIS_ID : Nat := 1
@[match_pattern] abbrev LLDP_TLV_PORT_ID : Nat := 2
@[match_pattern] abbrev LLDP_TLV_TTL : Nat := 3
@[match_pattern] abbrev LLDP_TLV_PORT_DESCR : Nat := 4
@[match_pattern] abbrev LLDP_TLV_SYSTEM_NAME : Nat := 5
@[match_pattern] abbrev LLDP_TLV_SYSTEM_DESCR : Nat := 6
@[match_pattern] abbrev LLDP_TLV_SYSTEM_CAP : Nat := 7
@[match_pattern] abbrev LLDP_TLV_MGMT_ADDR : Nat := 8
@[match_pattern] abbrev LLDP_TLV_ORG : Nat := 127

def LLDP_TLV_ORG_DOT1 : Bytes := [0x00, 0x80, 0xc2]
def LLDP_TLV_ORG_DOT3 : Bytes := [0x00, 0x12, 0x0f]
def LLDP_TLV_ORG_MED : Bytes := [0x00, 0x12, 0xbb]

@[match_pattern] abbrev LLDP_TLV_DOT1_PVID : Nat := 1
@[match_pattern] abbrev LLDP_TLV_DOT1_PPVID : Nat := 2
@[match_pattern] abbrev LLDP_TLV_DOT1_VLANNAME : Nat := 3
@[match_pattern] abbrev LLDP_TLV_DOT1_PI : Nat := 4

@[match_pattern] abbrev LLDP_TLV_DOT3_MAC : Nat := 1
@[match_pattern] abbrev LLDP_TLV_DOT3_POWER : Nat := 2
@[match_pattern] abbrev LLDP_TLV_DOT3_LA : Nat := 3
@[match_pattern] abbrev LLDP_TLV_DOT3_MFS : Nat := 4

@[match_pattern] abbrev LLDP_TLV_MED_CAP : Nat := 1
@[match_pattern] abbrev LLDP_TLV_MED_POLICY : Nat := 2
@[match_pattern] abbrev LLDP_TLV_MED_LOCATION : Nat := 3
@[match_pattern] abbrev LLDP_TLV_MED_MDI : Nat := 4
@[match_pattern] abbrev LLDP_TLV_MED_IV_HW : Nat := 5
@[match_pattern] abbrev LLDP_TLV_MED_IV_FW : Nat := 6
@[match_pattern] abbrev LLDP_TLV_MED_IV_SW : Nat := 7
@[match_pattern] abbrev LLDP_TLV_MED_IV_SN : Nat := 8
@[match_pattern] abbrev LLDP_TLV_MED_IV_MANUF : Nat := 9
@[match_pattern] abbrev LLDP_TLV_MED_IV_MODEL : Nat := 10
@[match_pattern] abbrev LLDP_TLV_MED_IV_ASSET : Nat := 11

def LLDP_MGMT_ADDR_IP4 : UInt8 := 1
def LLDP_MGMT_ADDR_IP6 : UInt8 := 2
def LLDP_MGMT_IFACE_UNKNOWN : UInt8 := 1
def LLDP_MGMT_IFACE_IFINDEX : UInt8 := 2

def LLDP_DOT3_POWER_PSE : UInt8 := 1
def LLDP_DOT3_POWER_PD : UInt8 := 2
def LLDP_DOT3_POWER_8023AT_OFF : UInt8 := 0
def LLDP_DOT3_POWER_8023AT_TYPE1 : UInt8 := 1
def LLDP_DOT3_POWER_8023AT_TYPE2 : UInt8 := 2


def LLDP_MED_POW_TYPE_PSE : UInt8 := 1
def LLDP_MED_POW_TYPE_PD : UInt8 := 2
def LLDP_MED_POW_TYPE_RESERVED : UInt8 := 3
def LLDP_MED_POW_SOURCE_UNKNOWN : UInt8 := 1
def LLDP_MED_POW_SOURCE_PRIMARY : UInt8 := 2
def LLDP_MED_POW_SOURCE_BACKUP : UInt8 := 3
def LLDP_MED_POW_SOURCE_RESERVED : UInt8 := 4
def LLDP_MED_POW_SOURCE_PSE : UInt8 := 5
def LLDP_MED_POW_SOURCE_LOCAL : UInt8 := 6
def LLDP_MED_POW_SOURCE_BOTH : UInt8 := 7
def LLDP_MED_POW_PRIO_UNKNOWN : UInt8 := 0
def LLDP_MED_POW_PRIO_LOW : UInt8 := 3

/-- mirrors lldp.c:31-42; the default branch is not reachable
because a stored family is never `LLDPD_AF_UNSPEC` -/
def lldpdAfToLldpProto : Af → UInt8
  | .ipv4 => LLDP_MGMT_ADDR_IP4
  | .ipv6 => LLDP_MGMT_ADDR_IP6

/-- mirrors lldp.c:44-55 -/
def lldpdAfFromLldpProto (proto : UInt8) : Option Af :=
  if proto = LLDP_MGMT_ADDR_IP4 then some .ipv4
  else if proto = LLDP_MGMT_ADDR_IP6 then some .ipv6
  else none

/-! ## State of the decoder -/

/-- The locals of `lldp_decode` that live across TLVs, and the increments of
`h_rx_unrecognized_cnt` (a refused frame keeps them). -/
structure Dec where
  chassis : Chassis := {}
  port : Port := {}
  addrStrBuffer : Buffer 32
  gotend : Bool := false
  ttlReceived : Bool := false
  hRxUnrecognizedCnt : Nat := 0
  deriving DecidableEq, Repr

/-- What a TLV's branch returns: the new state and where `pos` stands. -/
abbrev Branch := Run Dec (Dec × Cursor)

/-- `CHECK_TLV_SIZE`.
mirrors lldp.c:519-524 -/
def checkTlvSize (d : Dec) (tlvSize x : Nat) : Run Dec Unit :=
  if tlvSize < x then throw (.refused d) else pure ()

section
variable (b : Build) (cos : Cursor) (tlvType subtype : Nat) (c : Cursor) (tlvSize : Nat) (d : Dec)

/-! ## The basic TLVs -/

/-- `LLDP_TLV_END`.
mirrors lldp.c:615-625 -/
def decodeEnd : Branch := do
  if tlvSize ≠ 0 then throw (.refused d)
  return ({ d with gotend := true }, c)

/-- `LLDP_TLV_CHASSIS_ID` and `LLDP_TLV_PORT_ID`. With `ENABLE_OVSDB` the
bytes of a chassis id are then overwritten from `cos`, which points behind
the destination address of the frame.
mirrors lldp.c:626-654 -/
def decodeId : Branch := do
  checkTlvSize d tlvSize 2
  let (subtype, c) ← c.peekUint8
  if subtype = 0 ∨ 7 < subtype.toNat then throw (.refused d)
  let (id, c) ← c.peekBytes (tlvSize - 1)
  if tlvType = LLDP_TLV_PORT_ID then
    return ({ d with port.pIdSubtype := subtype, port.pId := some id }, c)
  else
    let (id, _) ← if b.ovsdb then cos.peekBytes (tlvSize - 1) else pure (id, cos)
    return ({ d with chassis.cIdSubtype := subtype, chassis.cId := some id }, c)

/-- `LLDP_TLV_TTL`.
mirrors lldp.c:655-659 -/
def decodeTtl : Branch := do
  checkTlvSize d tlvSize 2
  let (ttl, c) ← c.peekUint16
  return ({ d with chassis.cTtl := ttl, ttlReceived := true }, c)

/-- `LLDP_TLV_PORT_DESCR`, `LLDP_TLV_SYSTEM_NAME`, `LLDP_TLV_SYSTEM_DESCR`.
mirrors lldp.c:660-680 -/
def decodeString : Branch := do
  if tlvSize < 1 then return (d, c)
  let (s, c) ← c.peekBytes tlvSize
  if tlvType = LLDP_TLV_PORT_DESCR then return ({ d with port.pDescr := some s }, c)
  else if tlvType = LLDP_TLV_SYSTEM_NAME then return ({ d with chassis.cName := some s }, c)
  else return ({ d with chassis.cDescr := some s }, c)

/-- `LLDP_TLV_SYSTEM_CAP`.
mirrors lldp.c:681-685 -/
def decodeCap : Branch := do
  checkTlvSize d tlvSize 4
  let (available, c) ← c.peekUint16
  let (enabled, c) ← c.peekUint16
  return ({ d with chassis.cCapAvailable := available, chassis.cCapEnabled := enabled }, c)

/-- `assert(errno == ENOMEM)` when `lldpd_alloc_mgmt` returned NULL. -/
def allocMgmtOrAssert (d : Dec) (family : Option Af) (addr : Bytes) (addrsize : Nat)
    (iface : UInt32) : Run Dec Mgmt :=
  match lldpdAllocMgmt family addr addrsize iface with
  | .ok mgmt => .ok mgmt
  | .error .ENOMEM => .error (.refused d)
  | .error _ => .error (.fault .assertion)

/-- `LLDP_TLV_MGMT_ADDR`. `addr_length` is an unsigned byte: an
`addr_str_length` of 0 makes it 255.
mirrors lldp.c:686-713 -/
def decodeMgmtAddr : Branch := do
  checkTlvSize d tlvSize 1
  let (addrStrLength, c) ← c.peekUint8
  checkTlvSize d tlvSize addrStrLength.toNat
  let (bytes, c) ← c.peekBytes addrStrLength.toNat
  match d.addrStrBuffer.memcpy bytes with
  | none => throw (.fault .overflow)
  | some buffer =>
    let d := { d with addrStrBuffer := buffer }
    let addrLength := addrStrLength - 1
    let addrFamily := buffer.get 0
    checkTlvSize d tlvSize 5
    let (ifaceSubtype, c) ← c.peekUint8
    let (ifaceNumber, c) ← c.peekUint32
    let af := lldpdAfFromLldpProto addrFamily
    if af = none then return (d, c)
    let iface := if ifaceSubtype = LLDP_MGMT_IFACE_IFINDEX then ifaceNumber else 0
    let mgmt ← allocMgmtOrAssert d af (buffer.slice 1 addrLength.toNat) addrLength.toNat iface
    return ({ d with chassis.cMgmt := d.chassis.cMgmt ++ [mgmt] }, c)

/-! ## Organisationally specific TLVs

`c` stands behind the OUI and the subtype. -/

def Dec.unrecognized (d : Dec) : Dec := { d with hRxUnrecognizedCnt := d.hRxUnrecognizedCnt + 1 }

/-- `LLDP_TLV_DOT1_VLANNAME`.
mirrors lldp.c:724-748 -/
def decodeVlanName : Branch := do
  checkTlvSize d tlvSize 7
  let (vid, c) ← c.peekUint16
  let (vlanLen, c) ← c.peekUint8
  checkTlvSize d tlvSize (7 + vlanLen.toNat)
  let (name, c) ← c.peekBytes vlanLen.toNat
  return ({ d with port.pVlans := d.port.pVlans ++ [⟨name, vid⟩] }, c)

/-- `LLDP_TLV_DOT1_PVID`.
mirrors lldp.c:749-752 -/
def decodePvid : Branch := do
  checkTlvSize d tlvSize 6
  let (pvid, c) ← c.peekUint16
  return ({ d with port.pPvid := pvid }, c)

/-- `LLDP_TLV_DOT1_PPVID`.
mirrors lldp.c:753-775 -/
def decodePpvid : Branch := do
  checkTlvSize d tlvSize 7
  let (capStatus, c) ← c.peekUint8
  let (ppvid, c) ← c.peekUint16
  return ({ d with port.pPpvids := d.port.pPpvids ++ [⟨capStatus, ppvid⟩] }, c)

/-- `LLDP_TLV_DOT1_PI`. The second check counts the length byte but not the
four bytes of OUI and subtype in front of it.
mirrors lldp.c:776-803 -/
def decodePi : Branch := do
  checkTlvSize d tlvSize 5
  let (piLen, c) ← c.peekUint8
  checkTlvSize d tlvSize (1 + piLen.toNat)
  let (pi, c) ← c.peekBytes piLen.toNat
  return ({ d with port.pPids := d.port.pPids ++ [⟨pi⟩] }, c)

/-- mirrors lldp.c:718-808 -/
def decodeDot1 : Branch :=
  if b.dot1 then
    match subtype with
    | LLDP_TLV_DOT1_VLANNAME => decodeVlanName c tlvSize d
    | LLDP_TLV_DOT1_PVID => decodePvid c tlvSize d
    | LLDP_TLV_DOT1_PPVID => decodePpvid c tlvSize d
    | LLDP_TLV_DOT1_PI => decodePi c tlvSize d
    | _ => .ok (d.unrecognized, c)
  else .ok (d.unrecognized, c)

/-- The fields of the MAC/PHY TLV.
mirrors lldp.c:817-824 -/
def macphyOf (autoneg : UInt8) (advertised mauType : UInt16) : Dot3Macphy :=
  { autonegSupport := autoneg &&& 0x1
    autonegEnabled := (autoneg &&& 0x2) >>> 1
    autonegAdvertised := advertised
    mauType := mauType }

/-- `LLDP_TLV_DOT3_MAC`.
mirrors lldp.c:815-825 -/
def decodeMacphy : Branch := do
  checkTlvSize d tlvSize 9
  let (autoneg, c) ← c.peekUint8
  let (advertised, c) ← c.peekUint16
  let (mauType, c) ← c.peekUint16
  return ({ d with port.pMacphy := macphyOf autoneg advertised mauType }, c)

/-- `LLDP_TLV_DOT3_LA`.
mirrors lldp.c:826-830 -/
def decodeAggregation : Branch := do
  checkTlvSize d tlvSize 9
  let (aggregid, c) ← (c.discard 1).peekUint32
  return ({ d with port.pAggregid := aggregid }, c)

/-- `LLDP_TLV_DOT3_MFS`.
mirrors lldp.c:831-834 -/
def decodeMfs : Branch := do
  checkTlvSize d tlvSize 6
  let (mfs, c) ← c.peekUint16
  return ({ d with port.pMfs := mfs }, c)

/-- The fields of the first three bytes.
mirrors lldp.c:837-848 -/
def setPower (flags pairs cls : UInt8) (p : Dot3Power) : Dot3Power :=
  { p with
    devicetype := if flags &&& 0x1 ≠ 0 then LLDP_DOT3_POWER_PSE else LLDP_DOT3_POWER_PD
    supported := (flags &&& 0x2) >>> 1
    enabled := (flags &&& 0x4) >>> 2
    paircontrol := (flags &&& 0x8) >>> 3
    pairs := pairs
    class' := cls }

/-- The 802.3at fields.
mirrors lldp.c:851-861 -/
def setPower8023at (powertype : UInt8) (requested allocated : UInt16) (p : Dot3Power) : Dot3Power :=
  { p with
    source := (powertype &&& 0x30) >>> 4
    priority := powertype &&& 0x3
    powertype := if powertype &&& 0x80 ≠ 0 then LLDP_DOT3_POWER_8023AT_TYPE1
      else LLDP_DOT3_POWER_8023AT_TYPE2
    requested := requested
    allocated := allocated }

/-- `LLDP_TLV_DOT3_POWER`; the 802.3at fields are read from a TLV of at
least 12 bytes and otherwise kept, except the type.
mirrors lldp.c:835-865 -/
def decodePower : Branch := do
  checkTlvSize d tlvSize 7
  let (flags, c) ← c.peekUint8
  let (pairs, c) ← c.peekUint8
  let (cls, c) ← c.peekUint8
  let power := setPower flags pairs cls d.port.pPower
  if 12 ≤ tlvSize then
    let (powertype, c) ← c.peekUint8
    let (requested, c) ← c.peekUint16
    let (allocated, c) ← c.peekUint16
    return ({ d with port.pPower := setPower8023at powertype requested allocated power }, c)
  else return ({ d with port.pPower := { power with powertype := LLDP_DOT3_POWER_8023AT_OFF } }, c)

/-- mirrors lldp.c:809-870 -/
def decodeDot3 : Branch :=
  if b.dot3 then
    match subtype with
    | LLDP_TLV_DOT3_MAC => decodeMacphy c tlvSize d
    | LLDP_TLV_DOT3_LA => decodeAggregation c tlvSize d
    | LLDP_TLV_DOT3_MFS => decodeMfs c tlvSize d
    | LLDP_TLV_DOT3_POWER => decodePower c tlvSize d
    | _ => .ok (d.unrecognized, c)
  else .ok (d.unrecognized, c)

def Dec.medCap (d : Dec) (cap : UInt16) : Dec :=
  { d with port.pMedCapEnabled := d.port.pMedCapEnabled ||| cap }

/-- `LLDP_TLV_MED_CAP`.
mirrors lldp.c:881-887 -/
def decodeMedCap : Branch := do
  checkTlvSize d tlvSize 7
  let (available, c) ← c.peekUint16
  let (type, c) ← c.peekUint8
  return ({ d with chassis.cMedCapAvailable := available, chassis.cMedType := type }.medCap
    LLDP_MED_CAP_CAP, c)

/-- The fields of a policy word.
mirrors lldp.c:899-910 -/
def medPolicyOf (policy : UInt32) : MedPolicy :=
  { type := (policy >>> 24).toUInt8,
    unknown := if policy &&& 0x800000 ≠ 0 then 1 else 0,
    tagged := if policy &&& 0x400000 ≠ 0 then 1 else 0,
    vid := ((policy &&& 0x001FFE00) >>> 9).toUInt16,
    priority := ((policy &&& 0x1C0) >>> 6).toUInt8,
    dscp := (policy &&& 0x3F).toUInt8 }

/-- `LLDP_TLV_MED_POLICY`.
mirrors lldp.c:888-913 -/
def decodeMedPolicy : Branch := do
  checkTlvSize d tlvSize 8
  let (policy, c) ← c.peekUint32
  let type := (policy >>> 24).toNat
  if type < 1 ∨ LLDP_MED_APPTYPE_LAST < type then return (d, c)
  return ({ d with port.pMedPolicy :=
    d.port.pMedPolicy.setIfInBounds (type - 1) (medPolicyOf policy) }.medCap
    LLDP_MED_CAP_POLICY, c)

/-- `LLDP_TLV_MED_LOCATION`.
mirrors lldp.c:914-939 -/
def decodeMedLocation : Branch := do
  checkTlvSize d tlvSize 5
  let (loctype, c) ← c.peekUint8
  if loctype.toNat < 1 ∨ LLDP_MED_LOCFORMAT_LAST < loctype.toNat then return (d, c)
  let (data, c) ← c.peekBytes (tlvSize - 5)
  return ({ d with port.pMedLocation :=
    d.port.pMedLocation.setIfInBounds (loctype.toNat - 1) ⟨loctype, data⟩ }.medCap
    LLDP_MED_CAP_LOCATION, c)

/-- `LLDP_TLV_MED_MDI`: device type and source, from the high nibble. A
reserved device type keeps the source and adds no capability.
mirrors lldp.c:943-991 -/
def medPowerType (power : UInt8) (d : Dec) : Dec :=
  if power &&& 0xC0 = 0x0 then
    { d with
      port.pMedPower.devicetype := LLDP_MED_POW_TYPE_PSE
      port.pMedPower.source :=
        if power &&& 0x30 = 0x0 then LLDP_MED_POW_SOURCE_UNKNOWN
        else if power &&& 0x30 = 0x10 then LLDP_MED_POW_SOURCE_PRIMARY
        else if power &&& 0x30 = 0x20 then LLDP_MED_POW_SOURCE_BACKUP
        else LLDP_MED_POW_SOURCE_RESERVED }.medCap LLDP_MED_CAP_MDI_PSE
  else if power &&& 0xC0 = 0x40 then
    { d with
      port.pMedPower.devicetype := LLDP_MED_POW_TYPE_PD
      port.pMedPower.source :=
        if power &&& 0x30 = 0x0 then LLDP_MED_POW_SOURCE_UNKNOWN
        else if power &&& 0x30 = 0x10 then LLDP_MED_POW_SOURCE_PSE
        else if power &&& 0x30 = 0x20 then LLDP_MED_POW_SOURCE_LOCAL
        else LLDP_MED_POW_SOURCE_BOTH }.medCap LLDP_MED_CAP_MDI_PD
  else { d with port.pMedPower.devicetype := LLDP_MED_POW_TYPE_RESERVED }

/-- `LLDP_TLV_MED_MDI`: priority and value.
mirrors lldp.c:992-998 -/
def setMedPower (power : UInt8) (val : UInt16) (d : Dec) : Dec :=
  { medPowerType power d with
    port.pMedPower.priority :=
      if LLDP_MED_POW_PRIO_LOW < power &&& 0x0F then LLDP_MED_POW_PRIO_UNKNOWN
      else power &&& 0x0F
    port.pMedPower.val := val }

/-- `LLDP_TLV_MED_MDI`.
mirrors lldp.c:940-999 -/
def decodeMedMdi : Branch := do
  checkTlvSize d tlvSize 7
  let (power, c) ← c.peekUint8
  let (val, c) ← c.peekUint16
  return (setMedPower power val d, c)

/-- `chassis->c_med_* = b`, by subtype.
mirrors lldp.c:1022-1044 -/
def setInventory (subtype : Nat) (s : Option Bytes) (ch : Chassis) : Chassis :=
  match subtype with
  | LLDP_TLV_MED_IV_HW => { ch with cMedHw := s }
  | LLDP_TLV_MED_IV_FW => { ch with cMedFw := s }
  | LLDP_TLV_MED_IV_SW => { ch with cMedSw := s }
  | LLDP_TLV_MED_IV_SN => { ch with cMedSn := s }
  | LLDP_TLV_MED_IV_MANUF => { ch with cMedManuf := s }
  | LLDP_TLV_MED_IV_MODEL => { ch with cMedModel := s }
  | LLDP_TLV_MED_IV_ASSET => { ch with cMedAsset := s }
  | _ => ch

/-- `LLDP_TLV_MED_IV_*`.
mirrors lldp.c:1000-1047 -/
def decodeInventory : Branch :=
  if tlvSize ≤ 4 then
    .ok ({ d with chassis := setInventory subtype none d.chassis }.medCap LLDP_MED_CAP_IV, c)
  else do
    let (s, c) ← c.peekBytes (tlvSize - 4)
    return ({ d with chassis := setInventory subtype (some s) d.chassis }.medCap
      LLDP_MED_CAP_IV, c)

/-- mirrors lldp.c:871-1052 -/
def decodeMed : Branch :=
  if b.lldpmed then
    match subtype with
    | LLDP_TLV_MED_CAP => decodeMedCap c tlvSize d
    | LLDP_TLV_MED_POLICY => decodeMedPolicy c tlvSize d
    | LLDP_TLV_MED_LOCATION => decodeMedLocation c tlvSize d
    | LLDP_TLV_MED_MDI => decodeMedMdi c tlvSize d
    | LLDP_TLV_MED_IV_HW | LLDP_TLV_MED_IV_FW | LLDP_TLV_MED_IV_SW | LLDP_TLV_MED_IV_SN
    | LLDP_TLV_MED_IV_MANUF | LLDP_TLV_MED_IV_MODEL | LLDP_TLV_MED_IV_ASSET =>
      decodeInventory subtype c tlvSize d
    | _ => .ok (d.unrecognized, c)
  else .ok (d.unrecognized, c)

/-- `LLDP_TLV_ORG`. DCBX and unknown organisations only count as
unrecognized.
mirrors lldp.c:714-1063 -/
def decodeOrg : Branch := do
  checkTlvSize d tlvSize 4
  let (orgid, c) ← c.peekBytes 3
  let (subtype, c) ← c.peekUint8
  if orgid = LLDP_TLV_ORG_DOT1 then decodeDot1 b subtype.toNat c tlvSize d
  else if orgid = LLDP_TLV_ORG_DOT3 then decodeDot3 b subtype.toNat c tlvSize d
  else if orgid = LLDP_TLV_ORG_MED then decodeMed b subtype.toNat c tlvSize d
  else return (d.unrecognized, c)

/-! ## The loop -/

/-- The `switch`. `cos` is only used by `decodeId`.
mirrors lldp.c:614-1068 -/
def decodeTlv : Branch :=
  match tlvType with
  | LLDP_TLV_END => decodeEnd c tlvSize d
  | LLDP_TLV_CHASSIS_ID | LLDP_TLV_PORT_ID => decodeId b cos tlvType c tlvSize d
  | LLDP_TLV_TTL => decodeTtl c tlvSize d
  | LLDP_TLV_PORT_DESCR | LLDP_TLV_SYSTEM_NAME | LLDP_TLV_SYSTEM_DESCR =>
    decodeString tlvType c tlvSize d
  | LLDP_TLV_SYSTEM_CAP => decodeCap c tlvSize d
  | LLDP_TLV_MGMT_ADDR => decodeMgmtAddr c tlvSize d
  | LLDP_TLV_ORG => decodeOrg b c tlvSize d
  | _ => .error (.refused d)

end

/-- One iteration of the loop, from the bytes left: header, `switch`, check
that the branch stayed in its TLV, and skip to the next TLV. The second
component is the bytes behind the TLV.
mirrors lldp.c:600-1073 -/
def decodeStep (b : Build) (cos : Cursor) (rest : Bytes) (d : Dec) : Run Dec (Dec × Bytes) := do
  if rest.length < 2 then throw (.refused d)
  let (hdr, tlv) ← (Cursor.mk rest 0).peekUint16
  let tlvType := hdr.toNat / 512
  let tlvSize := hdr.toNat % 512
  if tlv.length < tlvSize then throw (.refused d)
  let (d, c) ← decodeTlv b cos tlvType tlv tlvSize d
  -- pos > tlv + tlv_size, in terms of the bytes left
  if c.length < tlv.length - tlvSize then throw (.refused d)
  return (d, tlv.rest.drop tlvSize)

/-- `while (length && (!gotend))`. Every iteration consumes at least the two
bytes of a header, so `fuel` never runs out (`decodeLoop_ne_diverge`).
mirrors lldp.c:599-1074 -/
def decodeLoop (b : Build) (cos : Cursor) : Nat → Bytes → Dec → Run Dec Dec
  | 0, _, _ => .error (.fault .diverge)
  | fuel + 1, rest, d =>
    if rest = [] ∨ d.gotend then .ok d
    else do
      let (d, rest) ← decodeStep b cos rest d
      decodeLoop b cos fuel rest d

/-- The Ethernet header: the bytes behind it.
mirrors lldp.c:583-597 -/
def decodeHeader (frame : Bytes) (d : Dec) : Run Dec Bytes := do
  if frame.length < 2 * ETHER_ADDR_LEN + 2 then throw (.refused d)
  let (dst, c) ← (Cursor.mk frame 0).peekBytes ETHER_ADDR_LEN
  if dst ≠ LLDP_MULTICAST_ADDR then throw (.refused d)
  let (ethertype, c) ← (c.discard ETHER_ADDR_LEN).peekUint16
  if ethertype ≠ ETHERTYPE_LLDP then throw (.refused d)
  return c.rest

/-- `lldp_decode`: `stack` is what `addr_str_buffer` holds on entry. `.ok` is
`return 1` with the new chassis and port, `.error (.refused _)` is `return -1`.
mirrors lldp.c:526-1097 -/
def lldpDecode (b : Build) (stack : Buffer 32) (frame : Bytes) : Run Dec Dec := do
  let d : Dec := { addrStrBuffer := stack }
  let cos := Cursor.discard ⟨frame, 0⟩ ETHER_ADDR_LEN
  let rest ← decodeHeader frame d
  let d ← decodeLoop b cos (rest.length + 1) rest d
  if d.chassis.cId = none ∨ d.port.pId = none ∨ !d.ttlReceived ∨ !d.gotend then
    throw (.refused d)
  return d

end Lldpd.Lldp
