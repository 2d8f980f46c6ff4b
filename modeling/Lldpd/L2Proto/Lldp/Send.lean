import Lldpd.Core.Packet
import Lldpd.L2Proto.Lldp.Decode

/-!
# Emission of an LLDPDU (`lldp_send`)

`lldp_send` writes TLVs with the checked `POKE_*` macros into a buffer of
`h_mtu` bytes and gives up (`E2BIG`) at the first write that does not fit.
Every TLV has the same shape: `POKE_START_LLDP_TLV`, a few writes,
`POKE_END_LLDP_TLV`. `pokeTlv` is that shape, and each section of the
function is the list of the TLVs it writes, as the type and the writes in
source order.

`POKE_END_LLDP_TLV` fills in the length from `pos`, on nine bits. `closed`
remembers the first and the last position of each TLV; it is not part of the
program.

Allocations succeed and the result of the device's `send` is an input.
-/
namespace Lldpd.Lldp
open Core

/-! ## Writing a TLV -/

structure OutTlv where
  type : Nat
  pokes : List Bytes
  deriving DecidableEq, Repr

namespace OutTlv

def payload (t : OutTlv) : Bytes := t.pokes.flatten

end OutTlv

structure Pdu where
  packet : Packet
  closed : List (Nat × Nat)

namespace Pdu

def poke (p : Pdu) (bs : Bytes) : Option Pdu :=
  (p.packet.poke bs).map fun q => { p with packet := q }

/-- `POKE_START_LLDP_TLV(type)`: also the value of `tlv`.
mirrors frame.h:102-106 -/
def startLldpTlv (p : Pdu) (type : Nat) : Option (Pdu × Nat) :=
  (p.poke (be16Bytes (UInt16.ofNat (type * 512)))).map fun q => (q, p.packet.pos)

/-- `POKE_END_LLDP_TLV`: or the number of bytes behind the header into the
two bytes at `tlv`, on nine bits.
mirrors frame.h:107-113 -/
def endLldpTlv (p : Pdu) (tlv : Nat) : Pdu :=
  let field := be16 (p.packet.buf.getD tlv 0) (p.packet.buf.getD (tlv + 1) 0) |||
    UInt16.ofNat ((p.packet.pos - (tlv + 2)) % 512)
  { packet := p.packet.overwrite tlv (be16Bytes field)
    closed := p.closed ++ [(tlv, p.packet.pos)] }

def pokeTlv (p : Pdu) (t : OutTlv) : Option Pdu := do
  let (p, tlv) ← p.startLldpTlv t.type
  let p ← t.pokes.foldlM poke p
  return p.endLldpTlv tlv

end Pdu

/-! ## The TLVs of `lldp_send` -/

def orgTlv (oui : Bytes) (subtype : Nat) (pokes : List Bytes) : OutTlv :=
  ⟨LLDP_TLV_ORG, oui :: [UInt8.ofNat subtype] :: pokes⟩

/-- mirrors lldp.c:104-110 -/
def chassisIdTlv (chassis : Chassis) : OutTlv :=
  ⟨LLDP_TLV_CHASSIS_ID, [[chassis.cIdSubtype], chassis.cId.getD []]⟩

/-- mirrors lldp.c:112-118 -/
def portIdTlv (port : Port) : OutTlv :=
  ⟨LLDP_TLV_PORT_ID, [[port.pIdSubtype], port.pId.getD []]⟩

/-- mirrors lldp.c:120-125 -/
def ttlTlv (chassis : Chassis) : OutTlv := ⟨LLDP_TLV_TTL, [be16Bytes chassis.cTtl]⟩

/-- A string that is there and not empty; in the OVSDB build also a flag.
mirrors lldp.c:127-153, 208-221 -/
def stringTlv (b : Build) (flag : Bool) (type : Nat) (s : Option Bytes) : List OutTlv :=
  if b.ovsdb && !flag then []
  else match s with
    | some s => if cstr s = [] then [] else [⟨type, [cstr s]⟩]
    | none => []

/-- mirrors lldp.c:155-167 -/
def capTlv (b : Build) (cfg : Config) (chassis : Chassis) : List OutTlv :=
  if b.ovsdb && !cfg.cLldpTlvSysCapEnable then []
  else [⟨LLDP_TLV_SYSTEM_CAP, [be16Bytes chassis.cCapAvailable, be16Bytes chassis.cCapEnabled]⟩]

/-- One management address; the final byte is the empty OID.
mirrors lldp.c:173-203 -/
def mgmtTlv (mgmt : Mgmt) : OutTlv :=
  ⟨LLDP_TLV_MGMT_ADDR,
    [[UInt8.ofNat (mgmt.mAddr.length + 1)], [lldpdAfToLldpProto mgmt.mFamily], mgmt.mAddr] ++
    (if mgmt.mIface = 0 then [[LLDP_MGMT_IFACE_UNKNOWN], be32Bytes 0]
      else [[LLDP_MGMT_IFACE_IFINDEX], be32Bytes mgmt.mIface]) ++
    [[0]]⟩

/-- mirrors lldp.c:169-206 -/
def mgmtTlvs (b : Build) (cfg : Config) (chassis : Chassis) : List OutTlv :=
  if b.ovsdb && !cfg.cLldpTlvMgmtAddrEnable then [] else chassis.cMgmt.map mgmtTlv

/-- mirrors lldp.c:223-238 -/
def pvidTlv (b : Build) (cfg : Config) (port : Port) : List OutTlv :=
  if (b.ovsdb && !cfg.cLldpTlvPortVlanidEnable) || port.pPvid = 0 then []
  else [orgTlv LLDP_TLV_ORG_DOT1 LLDP_TLV_DOT1_PVID [be16Bytes port.pPvid]]

/-- mirrors lldp.c:239-256 -/
def ppvidTlvs (b : Build) (cfg : Config) (port : Port) : List OutTlv :=
  if b.ovsdb && !cfg.cLldpTlvPortProtoVlanidEnable then []
  else port.pPpvids.map fun ppvid =>
    orgTlv LLDP_TLV_ORG_DOT1 LLDP_TLV_DOT1_PPVID [[ppvid.pCapStatus], be16Bytes ppvid.pPpvid]

/-- The name's length goes through a single byte.
mirrors lldp.c:257-274 -/
def vlanTlvs (b : Build) (cfg : Config) (port : Port) : List OutTlv :=
  if b.ovsdb && !cfg.cLldpTlvPortVlanNameEnable then []
  else port.pVlans.map fun vlan =>
    orgTlv LLDP_TLV_ORG_DOT1 LLDP_TLV_DOT1_VLANNAME
      [be16Bytes vlan.vVid, [UInt8.ofNat (strlen vlan.vName)], cstr vlan.vName]

/-- mirrors lldp.c:275-291 -/
def piTlvs (b : Build) (cfg : Config) (port : Port) : List OutTlv :=
  if b.ovsdb && !cfg.cLldpTlvPortProtoIdEnable then []
  else port.pPids.map fun pi =>
    orgTlv LLDP_TLV_ORG_DOT1 LLDP_TLV_DOT1_PI [[UInt8.ofNat pi.pPi.length], pi.pPi]

/-- mirrors lldp.c:222-292 -/
def dot1Tlvs (b : Build) (cfg : Config) (port : Port) : List OutTlv :=
  if b.dot1 then pvidTlv b cfg port ++ ppvidTlvs b cfg port ++ vlanTlvs b cfg port ++ piTlvs b cfg port
  else []

/-- mirrors lldp.c:295-304 -/
def aggregationTlv (port : Port) : OutTlv :=
  orgTlv LLDP_TLV_ORG_DOT3 LLDP_TLV_DOT3_LA
    [[if port.pAggregid ≠ 0 then 3 else 1], be32Bytes port.pAggregid]

/-- mirrors lldp.c:306-316 -/
def macphyTlv (port : Port) : OutTlv :=
  orgTlv LLDP_TLV_ORG_DOT3 LLDP_TLV_DOT3_MAC
    [[port.pMacphy.autonegSupport ||| port.pMacphy.autonegEnabled <<< 1],
      be16Bytes port.pMacphy.autonegAdvertised, be16Bytes port.pMacphy.mauType]

/-- mirrors lldp.c:318-327 -/
def mfsTlv (port : Port) : List OutTlv :=
  if port.pMfs = 0 then []
  else [orgTlv LLDP_TLV_ORG_DOT3 LLDP_TLV_DOT3_MFS [be16Bytes port.pMfs]]

/-- The first byte of the power TLV, computed on `int`: a device type beyond
the two declared ones makes `2 - devicetype` negative, and so its remainder.
mirrors lldp.c:334-338 -/
def powerFlags (devicetype supported enabled paircontrol : UInt8) : UInt8 :=
  let device := (2 - BitVec.ofNat 32 devicetype.toNat).srem 2
  let bit (v : UInt8) : BitVec 32 := BitVec.ofNat 32 (v.toNat % 2)
  UInt8.ofBitVec ((device ||| bit supported <<< 1 ||| bit enabled <<< 2 |||
    bit paircontrol <<< 3).setWidth 8)

/-- The first byte of the 802.3at part.
mirrors lldp.c:345-351 -/
def power8023atFlags (powertype devicetype source priority : UInt8) : UInt8 :=
  (if powertype = LLDP_DOT3_POWER_8023AT_TYPE1 then (1 : UInt8) else 0) <<< 7 |||
    (if devicetype = LLDP_DOT3_POWER_PSE then (0 : UInt8) else 1) <<< 6 |||
    (source % 4) <<< 4 ||| priority % 4

/-- mirrors lldp.c:328-359 -/
def powerTlv (port : Port) : List OutTlv :=
  let power := port.pPower
  if power.devicetype = 0 then []
  else [orgTlv LLDP_TLV_ORG_DOT3 LLDP_TLV_DOT3_POWER
    ([[powerFlags power.devicetype power.supported power.enabled power.paircontrol],
        [power.pairs], [power.class']] ++
      if power.powertype = LLDP_DOT3_POWER_8023AT_OFF then []
      else [[power8023atFlags power.powertype power.devicetype power.source power.priority],
        be16Bytes power.requested, be16Bytes power.allocated])]

/-- mirrors lldp.c:294-359 -/
def dot3Tlvs (b : Build) (port : Port) : List OutTlv :=
  if b.dot3 then [aggregationTlv port, macphyTlv port] ++ mfsTlv port ++ powerTlv port else []

/-- mirrors lldp.c:363-371 -/
def medCapTlv (chassis : Chassis) : OutTlv :=
  orgTlv LLDP_TLV_ORG_MED LLDP_TLV_MED_CAP
    [be16Bytes chassis.cMedCapAvailable, [chassis.cMedType]]

/-- `LLDP_INVENTORY`.
mirrors lldp.c:374-384 -/
def inventoryTlv (value : Option Bytes) (subtype : Nat) : List OutTlv :=
  match value with
  | some s => [orgTlv LLDP_TLV_ORG_MED subtype [(cstr s).take 32]]
  | none => []

/-- mirrors lldp.c:373-401 -/
def inventoryTlvs (chassis : Chassis) (port : Port) : List OutTlv :=
  if port.pMedCapEnabled &&& LLDP_MED_CAP_IV = 0 then []
  else
    inventoryTlv chassis.cMedHw LLDP_TLV_MED_IV_HW ++
    inventoryTlv chassis.cMedFw LLDP_TLV_MED_IV_FW ++
    inventoryTlv chassis.cMedSw LLDP_TLV_MED_IV_SW ++
    inventoryTlv chassis.cMedSn LLDP_TLV_MED_IV_SN ++
    inventoryTlv chassis.cMedManuf LLDP_TLV_MED_IV_MANUF ++
    inventoryTlv chassis.cMedModel LLDP_TLV_MED_IV_MODEL ++
    inventoryTlv chassis.cMedAsset LLDP_TLV_MED_IV_ASSET

/-- The location of format `i + 1`.
mirrors lldp.c:405-415 -/
def locationTlv (port : Port) (i : Fin LLDP_MED_LOCFORMAT_LAST) : List OutTlv :=
  let loc := port.pMedLocation.get i
  if loc.format.toNat = i + 1 then
    [orgTlv LLDP_TLV_ORG_MED LLDP_TLV_MED_LOCATION [[loc.format], loc.data]]
  else []

/-- The policy word.
mirrors lldp.c:425-432 -/
def policyWord (p : MedPolicy) : UInt32 :=
  p.type.toUInt32 <<< 24 ||| (p.unknown % 2).toUInt32 <<< 23 ||| (p.tagged % 2).toUInt32 <<< 22 |||
    (p.vid % 4096).toUInt32 <<< 9 ||| (p.priority % 8).toUInt32 <<< 6 ||| (p.dscp % 64).toUInt32

/-- The policy of application type `i + 1`.
mirrors lldp.c:420-435 -/
def policyTlv (port : Port) (i : Fin LLDP_MED_APPTYPE_LAST) : List OutTlv :=
  let policy := port.pMedPolicy.get i
  if policy.type.toNat = i + 1 then
    [orgTlv LLDP_TLV_ORG_MED LLDP_TLV_MED_POLICY [be32Bytes (policyWord policy)]]
  else []

/-- The two bits a power source is sent as. Only the four sources that go
with the device type have a code of their own.
mirrors lldp.c:446-466 -/
def medPowerSource (devicetype source : UInt8) : UInt8 :=
  if devicetype = LLDP_MED_POW_TYPE_PSE then
    if source = LLDP_MED_POW_SOURCE_PRIMARY then 1
    else if source = LLDP_MED_POW_SOURCE_BACKUP then 2
    else if source = LLDP_MED_POW_SOURCE_RESERVED then 3
    else 0
  else
    if source = LLDP_MED_POW_SOURCE_PSE then 1
    else if source = LLDP_MED_POW_SOURCE_LOCAL then 2
    else if source = LLDP_MED_POW_SOURCE_BOTH then 3
    else 0

/-- The first byte of the power TLV.
mirrors lldp.c:467-471 -/
def medPowerFlags (devicetype source priority : UInt8) : UInt8 :=
  (if devicetype = LLDP_MED_POW_TYPE_PSE then (0 : UInt8) else 1) <<< 6 |||
    medPowerSource devicetype source <<< 4 ||| priority % 16

/-- mirrors lldp.c:438-475 -/
def mdiTlv (port : Port) : List OutTlv :=
  let power := port.pMedPower
  if power.devicetype = LLDP_MED_POW_TYPE_PSE ∨ power.devicetype = LLDP_MED_POW_TYPE_PD then
    [orgTlv LLDP_TLV_ORG_MED LLDP_TLV_MED_MDI
      [[medPowerFlags power.devicetype power.source power.priority], be16Bytes power.val]]
  else []

/-- mirrors lldp.c:361-477 -/
def medTlvs (b : Build) (chassis : Chassis) (port : Port) : List OutTlv :=
  if b.lldpmed && port.pMedCapEnabled ≠ 0 then
    [medCapTlv chassis] ++ inventoryTlvs chassis port ++
      (List.finRange LLDP_MED_LOCFORMAT_LAST).flatMap (locationTlv port) ++
      (List.finRange LLDP_MED_APPTYPE_LAST).flatMap (policyTlv port) ++ mdiTlv port
  else []

def endTlv : OutTlv := ⟨LLDP_TLV_END, []⟩

def basicTlvs (b : Build) (cfg : Config) (chassis : Chassis) (port : Port) : List OutTlv :=
  [chassisIdTlv chassis, portIdTlv port, ttlTlv chassis] ++
    stringTlv b cfg.cLldpTlvSysNameEnable LLDP_TLV_SYSTEM_NAME chassis.cName ++
    stringTlv b cfg.cLldpTlvSysDescEnable LLDP_TLV_SYSTEM_DESCR chassis.cDescr ++
    capTlv b cfg chassis ++ mgmtTlvs b cfg chassis ++
    stringTlv b cfg.cLldpTlvPortDescEnable LLDP_TLV_PORT_DESCR port.pDescr ++
    dot1Tlvs b cfg port ++ dot3Tlvs b port

def bodyTlvs (b : Build) (cfg : Config) (chassis : Chassis) (port : Port) : List OutTlv :=
  basicTlvs b cfg chassis port ++ medTlvs b chassis port

/-- Everything `lldp_send` writes: the Ethernet header and the TLVs.
mirrors lldp.c:90-483 -/
def writePdu (b : Build) (cfg : Config) (chassis : Chassis) (hw : Hardware) : Option Pdu := do
  let p : Pdu := ⟨.calloc hw.hMtu, []⟩
  let p ← p.poke LLDP_MULTICAST_ADDR
  let p ← p.poke hw.hLladdr.1
  let p ← p.poke (be16Bytes ETHERTYPE_LLDP)
  (bodyTlvs b cfg chassis hw.hLport ++ [endTlv]).foldlM Pdu.pokeTlv p

/-! ## Sending it -/

/-- What `cdp_send` and `sonmp_send` return: 0, `ENETDOWN`, or -1 when the
frame does not fit. -/
inductive SendRet where
  | sent | netdown | tooBig
  deriving DecidableEq, Repr

/-- mirrors interfaces.c:667-686 -/
def mangleSource (type : BondSlaveSrcMac) (buffer : Bytes) : Bytes :=
  let arbitrary : Bytes := [0x00, 0x60, 0x08, 0x69, 0x97, 0xef]
  match type with
  | .locallyAdministered =>
    if buffer.getD ETHER_ADDR_LEN 0 &&& 0x02 = 0 then
      patch buffer ETHER_ADDR_LEN [buffer.getD ETHER_ADDR_LEN 0 ||| 0x02]
    else patch buffer ETHER_ADDR_LEN arbitrary
  | .fixed => patch buffer ETHER_ADDR_LEN arbitrary
  | .zero => patch buffer ETHER_ADDR_LEN [0, 0, 0, 0, 0, 0]
  | .unknown | .real => buffer

/-- `interfaces_send_helper`: the frame the device is given. The source
address is rewritten in place on a mangled interface. The test on a frame
shorter than two addresses is left out: no emitter builds one.
mirrors interfaces.c:656-688 -/
def interfacesSendHelper (cfg : Config) (hw : Hardware) (buffer : Bytes) : Bytes :=
  if hw.hMangle then mangleSource cfg.cBondSlaveSrcMacType buffer else buffer

/-- What a call of `lldp_send` does: the value returned (`none` is 0), the
interface afterwards, the frame handed to the device, if any, and the TLVs
closed in it. -/
structure Sent where
  ret : Option Errno
  hardware : Hardware
  frame : Option Bytes
  closed : List (Nat × Nat)
  deriving DecidableEq, Repr

/-- `sendOk` is whether the device takes the frame, `now` what `time` says.
The frame is kept as the reference when it differs from the last one.
mirrors lldp.c:57-517 -/
def lldpSend (b : Build) (cfg : Config) (chassis : Chassis) (now : Int) (sendOk : Bool)
    (hw : Hardware) : Sent :=
  match writePdu b cfg chassis hw with
  | none => ⟨some .E2BIG, hw, none, []⟩
  | some p =>
    let frame := interfacesSendHelper cfg hw p.packet.written
    if !sendOk then ⟨some .ENETDOWN, hw, some frame, p.closed⟩
    else
      let hw := { hw with hTxCnt := hw.hTxCnt + 1 }
      let hw := if hw.hLport.pLastframe = some frame then hw
        else { hw with hLport.pLastframe := some frame, hLport.pLastchange := now }
      ⟨none, hw, some frame, p.closed⟩

end Lldpd.Lldp
