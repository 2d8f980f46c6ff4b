import Lldpd.L1Data.Structs

/-!
# `cdp_decode`

The decoder of CDP and FDP frames, under the words of `src/daemon/cdp.c`.

A PEEK has no check of its own. The daemon's decoder is the one with
`Bound.frame`: a PEEK outside the frame is a fault. With `Bound.tlv` a PEEK
behind the declared end of a TLV is one too, which tells whether the code
respects the lengths it was given (`Cdp.Safety`).
-/
namespace Lldpd.Cdp
open Core

def CDP_MULTICAST_ADDR : Bytes := [0x01, 0x00, 0x0c, 0xcc, 0xcc, 0xcc]
def FDP_MULTICAST_ADDR : Bytes := [0x01, 0xe0, 0x52, 0xcc, 0xcc, 0xcc]
def LLC_PID_CDP : UInt16 := 0x2000

@[match_pattern] def CDP_TLV_CHASSIS : Nat := 1
@[match_pattern] def CDP_TLV_ADDRESSES : Nat := 2
@[match_pattern] def CDP_TLV_PORT : Nat := 3
@[match_pattern] def CDP_TLV_CAPABILITIES : Nat := 4
@[match_pattern] def CDP_TLV_SOFTWARE : Nat := 5
@[match_pattern] def CDP_TLV_PLATFORM : Nat := 6
@[match_pattern] def CDP_TLV_NATIVEVLAN : Nat := 10

def CDP_ADDRESS_PROTO_IP : UInt8 := 0xcc
def CDP_CAP_ROUTER : UInt32 := 0x01

/-- The locals of `cdp_decode` that live across TLVs. `software` and
`platform` are the bytes the two pointers stand for. A refused frame keeps
its increments of `h_rx_unrecognized_cnt`. -/
structure Dec where
  chassis : Chassis := {}
  port : Port := {}
  software : Option Bytes := none
  platform : Option Bytes := none
  hRxUnrecognizedCnt : Nat := 0
  deriving DecidableEq, Repr

def refuse (d : Dec) : Run Dec Dec := .error (.refused d)

/-! ## The branches -/

section
variable (b : Build) (fdp : Bool) (tlvType tlvLen : Nat) (c : Cursor) (d : Dec)

/-- `CDP_TLV_CHASSIS`. `malloc(0)` is not NULL.
mirrors cdp.c:385-398 -/
def decodeChassis : Run Dec Dec := do
  let (name, _) ← c.peekBytes tlvLen
  return { d with
    chassis.cName := some name
    chassis.cIdSubtype := LLDP_CHASSISID_SUBTYPE_LOCAL
    chassis.cId := some name }

/-- The second look at an address, from its first byte on: each PEEK is made
only when the one before gave the value of an IPv4 address.
mirrors cdp.c:432-445 -/
def decodeAddress : Run Dec Dec := do
  let (type, c) ← c.peekUint8
  if type ≠ 1 then return d
  let (len, c) ← c.peekUint8
  if len ≠ 1 then return d
  let (proto, c) ← c.peekUint8
  if proto ≠ CDP_ADDRESS_PROTO_IP then return d
  let (size, c) ← c.peekUint16
  if size ≠ 4 then return d
  let (addr, _) ← c.peekBytes 4
  match lldpdAllocMgmt (some .ipv4) addr 4 0 with
  | .ok mgmt => return { d with chassis.cMgmt := d.chassis.cMgmt ++ [mgmt] }
  | .error _ => throw (.fault .assertion)

/-- The loop over the addresses. `addressesLen` counts the bytes left, except
that the code never takes the second `address_len` off.
mirrors cdp.c:402-448 -/
def decodeAddresses : Nat → Nat → Cursor → Dec → Run Dec Dec
  | 0, _, _, d => .ok d
  | nb + 1, addressesLen, posAddress, d => do
    if addressesLen < 2 then throw (.refused d)
    let (addressLen, c) ← (posAddress.discard 1).peekUint8
    let addressesLen := addressesLen - 2
    if addressesLen < addressLen.toNat + 2 then throw (.refused d)
    let (addressLen2, c) ← (c.discard addressLen.toNat).peekUint16
    let addressesLen := addressesLen - addressLen.toNat - 2
    if addressesLen < addressLen2.toNat then throw (.refused d)
    let posNextAddress := c.discard addressLen2.toNat
    let d ← decodeAddress posAddress d
    decodeAddresses nb addressesLen posNextAddress d

def iterations (nb : UInt32) : Nat := if nb.toNat < 0x80000000 then nb.toNat else 0

/-- `CDP_TLV_ADDRESSES`.
mirrors cdp.c:399-449 -/
def decodeAddressTlv : Run Dec Dec := do
  if tlvLen < 4 then throw (.refused d)
  let (nb, c) ← c.peekUint32
  decodeAddresses (iterations nb) (tlvLen - 4) c d

/-- `CDP_TLV_PORT`.
mirrors cdp.c:450-467 -/
def decodePort : Run Dec Dec := do
  if tlvLen = 0 then throw (.refused d)
  let (descr, _) ← c.peekBytes tlvLen
  return { d with
    port.pDescr := some descr
    port.pIdSubtype := LLDP_PORTID_SUBTYPE_IFNAME
    port.pId := some descr }

/-- `!strncmp(s, pos, n)` for a literal `s`: the comparison stops at the NUL
of `s`. -/
def strncmpEq (s : String) (bytes : Bytes) (n : Nat) : Bool :=
  bytes.take (min n (s.length + 1)) == (ascii s ++ [0]).take n

/-- The capability an FDP frame names. `strncmp` reads at most `tlvLen` bytes. -/
def fdpCapability (name : Bytes) : UInt16 :=
  if strncmpEq "Router" name name.length then LLDP_CAP_ROUTER
  else if strncmpEq "Switch" name name.length then LLDP_CAP_BRIDGE
  else if strncmpEq "Bridge" name name.length then LLDP_CAP_REPEATER
  else LLDP_CAP_STATION

/-- The capabilities of a CDP frame, on top of those of an earlier TLV.
mirrors cdp.c:485-492 -/
def cdpCapability (caps : UInt32) (enabled : UInt16) : UInt16 :=
  let enabled := if caps &&& CDP_CAP_ROUTER ≠ 0 then enabled ||| LLDP_CAP_ROUTER else enabled
  let enabled := if caps &&& 0x0e ≠ 0 then enabled ||| LLDP_CAP_BRIDGE else enabled
  if enabled = 0 then LLDP_CAP_STATION else enabled

/-- `CDP_TLV_CAPABILITIES`.
mirrors cdp.c:468-493 -/
def decodeCapabilities : Run Dec Dec := do
  if fdp then
    let (name, _) ← c.peekBytes tlvLen
    let enabled := fdpCapability name
    return { d with chassis.cCapEnabled := enabled, chassis.cCapAvailable := enabled }
  else
    if tlvLen < 4 then throw (.refused d)
    let (caps, _) ← c.peekUint32
    let enabled := cdpCapability caps d.chassis.cCapEnabled
    return { d with chassis.cCapEnabled := enabled, chassis.cCapAvailable := enabled }

/-- `CDP_TLV_NATIVEVLAN`.
mirrors cdp.c:503-523 -/
def decodeNativeVlan : Run Dec Dec := do
  if tlvLen < 2 then throw (.refused d)
  let (vid, _) ← c.peekUint16
  let vlan : Vlan := ⟨ascii s!"VLAN #{vid.toNat}", vid⟩
  return { d with port.pPvid := vid, port.pVlans := d.port.pVlans ++ [vlan] }

/-- The `switch`.
mirrors cdp.c:384-529 -/
def decodeTlv : Run Dec Dec :=
  match tlvType with
  | CDP_TLV_CHASSIS => decodeChassis tlvLen c d
  | CDP_TLV_ADDRESSES => decodeAddressTlv tlvLen c d
  | CDP_TLV_PORT => decodePort tlvLen c d
  | CDP_TLV_CAPABILITIES => decodeCapabilities fdp tlvLen c d
  | CDP_TLV_SOFTWARE => do
    let (software, _) ← c.peekBytes tlvLen
    return { d with software := some software }
  | CDP_TLV_PLATFORM => do
    let (platform, _) ← c.peekBytes tlvLen
    return { d with platform := some platform }
  | CDP_TLV_NATIVEVLAN =>
    if b.dot1 then decodeNativeVlan tlvLen c d
    else .ok { d with hRxUnrecognizedCnt := d.hRxUnrecognizedCnt + 1 }
  | _ => .ok { d with hRxUnrecognizedCnt := d.hRxUnrecognizedCnt + 1 }

end

/-! ## The frame -/

/-- One iteration of the loop: header, `switch`, and on to the next TLV,
wherever the branch left `pos`.
mirrors cdp.c:369-530 -/
def decodeStep (b : Build) (bound : Bound) (fdp : Bool) (rest : Bytes) (d : Dec) :
    Run Dec (Dec × Bytes) := do
  if rest.length < 4 then throw (.refused d)
  let (tlvType, c) ← (Cursor.mk rest 0).peekUint16
  let (size, c) ← c.peekUint16
  if size.toNat < 4 ∨ c.rest.length < size.toNat - 4 then throw (.refused d)
  let tlvLen := size.toNat - 4
  let d ← decodeTlv b fdp tlvType.toNat tlvLen ⟨bound.window c.rest tlvLen, 0⟩ d
  return (d, c.rest.drop tlvLen)

/-- `while (length)`. An iteration consumes the four bytes of a header, so
`fuel` never runs out.
mirrors cdp.c:368-531 -/
def decodeLoop (b : Build) (bound : Bound) (fdp : Bool) : Nat → Bytes → Dec → Run Dec Dec
  | 0, _, _ => .error (.fault .diverge)
  | fuel + 1, rest, d =>
    if rest = [] then .ok d
    else do
      let (d, rest) ← decodeStep b bound fdp rest d
      decodeLoop b bound fdp fuel rest d

/-- What the headers say: whether the frame is FDP, the TTL, and the TLVs. -/
structure Header where
  fdp : Bool
  ttl : UInt8
  tlvs : Bytes
  deriving DecidableEq, Repr

/-- Ethernet, LLC and CDP header. Both addresses the code compares with are
the one of CDP, so with FDP every other destination is taken for FDP.
mirrors cdp.c:300-366 -/
def decodeHeader (b : Build) (frame : Bytes) (d : Dec) : Run Dec Header := do
  if frame.length < 26 then throw (.refused d)
  let (dst, c) ← (Cursor.mk frame 0).peekBytes 6
  if dst ≠ CDP_MULTICAST_ADDR ∧ !b.fdp then throw (.refused d)
  let fdp := decide (dst ≠ CDP_MULTICAST_ADDR)
  let (lenEth, c) ← (c.discard 6).peekUint16
  if c.length < lenEth.toNat then throw (.refused d)
  let (proto, c) ← (c.discard 6).peekUint16
  if proto ≠ LLC_PID_CDP then throw (.refused d)
  let (version, c) ← c.peekUint8
  if version ≠ 1 ∧ version ≠ 2 then throw (.refused d)
  let (ttl, c) ← c.peekUint8
  return ⟨fdp, ttl, (c.discard 2).rest⟩

def CONCAT_PLATFORM : Bytes := ascii " running on\n"

/-- `c_descr`, from the software and the platform.
mirrors cdp.c:532-559 -/
def description (d : Dec) : Option Bytes :=
  match d.software, d.platform with
  | none, none => none
  | none, some platform => some platform
  | some software, none => some software
  | some software, some platform => some (platform ++ CONCAT_PLATFORM ++ software)

/-- The end of the decoder: the description and the mandatory TLVs.
mirrors cdp.c:532-573 -/
def finish (d : Dec) : Run Dec Dec :=
  let d := { d with chassis.cDescr := description d }
  if d.chassis.cId = none ∨ d.port.pId = none ∨ d.chassis.cName = none ∨ d.chassis.cDescr = none ∨
      d.port.pDescr = none ∨ d.chassis.cTtl = 0 ∨ d.chassis.cCapEnabled = 0 then
    refuse d
  else .ok d

/-- `cdp_decode`. `.ok` is `return 1` with the new chassis and port,
`.error (.refused _)` is `return -1`.
mirrors cdp.c:255-580 -/
def cdpDecode (b : Build) (bound : Bound) (frame : Bytes) : Run Dec Dec := do
  let hdr ← decodeHeader b frame {}
  let d : Dec := { chassis.cTtl := hdr.ttl.toUInt16 }
  let d ← decodeLoop b bound hdr.fdp (hdr.tlvs.length + 1) hdr.tlvs d
  finish d

/-- mirrors cdp.c:608-620 -/
def cdpGuess (frame : Bytes) (version : UInt8) : Bool :=
  26 ≤ frame.length && frame.take 6 == CDP_MULTICAST_ADDR && frame.getD 22 0 == version

end Lldpd.Cdp
