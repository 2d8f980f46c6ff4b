import Lldpd.L1Data.Structs
import Lldpd.L2Proto.Frame

/-!
# `edp_decode`

The decoder of EDP frames, under the words of `src/daemon/edp.c`.

A sender of EDP may put its VLANs in a frame of their own. Such a frame is not
decoded into a chassis and a port: `edp_decode` hands the VLANs and the
addresses over to the ports it knows of that sender, and returns -1. Here it
returns what is handed over (`Decoded.vlans`); what the daemon then does with
its neighbors is `L3Daemon.Decode`.
-/
namespace Lldpd.Edp
open Core

def EDP_MULTICAST_ADDR : Bytes := [0x00, 0xe0, 0x2b, 0x00, 0x00, 0x00]
def LLC_PID_EDP : UInt16 := 0x00bb
def EDP_TLV_MARKER : UInt8 := 0x99

@[match_pattern] def EDP_TLV_NULL : Nat := 0
@[match_pattern] def EDP_TLV_DISPLAY : Nat := 1
@[match_pattern] def EDP_TLV_INFO : Nat := 2
@[match_pattern] def EDP_TLV_VLAN : Nat := 5

/-- The locals of `edp_decode` that live across TLVs. A refused frame keeps
its increments of `h_rx_unrecognized_cnt`. -/
structure Dec where
  chassis : Chassis := {}
  port : Port := {}
  gotend : Bool := false
  gotvlans : Bool := false
  hRxUnrecognizedCnt : Nat := 0
  deriving DecidableEq, Repr

/-- `EDP_TLV_INFO`.
mirrors edp.c:352-380 -/
def decodeInfo (tlvLen : Nat) (c : Cursor) (d : Dec) : Run Dec Dec := do
  if tlvLen < 32 then throw (.refused d)
  let (slot, c) ← c.peekUint16
  let (port, c) ← c.peekUint16
  let (version, _) ← ((c.discard 2).discard 6).peekBytes 4
  let slot := toString (slot.toNat + 1)
  let port := toString (port.toNat + 1)
  let version := ".".intercalate (version.map fun x => toString x.toNat)
  return { d with
    port.pIdSubtype := LLDP_PORTID_SUBTYPE_IFNAME
    port.pId := some (ascii (slot ++ "/" ++ port))
    port.pDescr := some (ascii ("Slot " ++ slot ++ " / Port " ++ port))
    chassis.cDescr := some (ascii ("EDP enabled device, version " ++ version)) }

/-- `EDP_TLV_VLAN`. Without 802.1 the frame is only known to carry VLANs.
mirrors edp.c:402-437 -/
def decodeVlan (b : Build) (tlvLen : Nat) (c : Cursor) (d : Dec) : Run Dec Dec := do
  if !b.dot1 then return { d with gotvlans := true }
  if tlvLen < 12 then throw (.refused d)
  let (vid, c) ← (c.discard 2).peekUint16
  let (address, c) ← (c.discard 4).peekBytes 4
  let d ← if address = [0, 0, 0, 0] then pure d
    else match lldpdAllocMgmt (some .ipv4) address 4 0 with
      | .ok mgmt => pure { d with chassis.cMgmt := d.chassis.cMgmt ++ [mgmt] }
      | .error _ => throw (.refused d)
  let (name, _) ← c.peekBytes (tlvLen - 12)
  return { d with port.pVlans := d.port.pVlans ++ [⟨name, vid⟩], gotvlans := true }

/-- The `switch`.
mirrors edp.c:351-442 -/
def decodeTlv (b : Build) (tlvType tlvLen : Nat) (c : Cursor) (d : Dec) : Run Dec Dec :=
  match tlvType with
  | EDP_TLV_INFO => decodeInfo tlvLen c d
  | EDP_TLV_DISPLAY => do
    let (name, _) ← c.peekBytes tlvLen
    return { d with chassis.cName := some name }
  | EDP_TLV_NULL => if tlvLen ≠ 0 then throw (.refused d) else return { d with gotend := true }
  | EDP_TLV_VLAN => decodeVlan b tlvLen c d
  | _ => return { d with hRxUnrecognizedCnt := d.hRxUnrecognizedCnt + 1 }

/-- One iteration of the loop. A TLV that does not fit ends the frame.
mirrors edp.c:328-443 -/
def decodeStep (b : Build) (bound : Bound) (rest : Bytes) (d : Dec) : Run Dec (Dec × Bytes) := do
  if rest.length < 4 then throw (.refused d)
  let (marker, c) ← (Cursor.mk rest 0).peekUint8
  if marker ≠ EDP_TLV_MARKER then throw (.refused d)
  let (tlvType, c) ← c.peekUint8
  let (size, c) ← c.peekUint16
  if size.toNat < 4 ∨ c.rest.length < size.toNat - 4 then return ({ d with gotend := true }, c.rest)
  let tlvLen := size.toNat - 4
  let d ← decodeTlv b tlvType.toNat tlvLen ⟨bound.window c.rest tlvLen, 0⟩ d
  return (d, c.rest.drop tlvLen)

/-- `while (length && !gotend)`. An iteration consumes four bytes, so `fuel`
never runs out. -/
def decodeLoop (b : Build) (bound : Bound) : Nat → Bytes → Dec → Run Dec Dec
  | 0, _, _ => .error (.fault .diverge)
  | fuel + 1, rest, d =>
    if rest = [] ∨ d.gotend then .ok d
    else do
      let (d, rest) ← decodeStep b bound rest d
      decodeLoop b bound fuel rest d

/-- The Ethernet, LLC and EDP headers and the checksum: the chassis id and the
bytes of the TLVs.
mirrors edp.c:269-325 -/
def decodeHeader (frame : Bytes) (d : Dec) : Run Dec (Bytes × Bytes) := do
  if frame.length < 38 then throw (.refused d)
  let (dst, c) ← (Cursor.mk frame 0).peekBytes 6
  if dst ≠ EDP_MULTICAST_ADDR then throw (.refused d)
  let (pid, posEdp) ← (((c.discard 6).discard 2).discard 6).peekUint16
  if pid ≠ LLC_PID_EDP then throw (.refused d)
  let (version, c) ← posEdp.peekUint8
  if version ≠ 1 then throw (.refused d)
  let (edpLen, c) ← (c.discard 1).peekUint16
  let (idType, c) ← ((c.discard 2).discard 2).peekUint16
  if idType ≠ 0 then throw (.refused d)
  if c.length + 10 < edpLen.toNat then throw (.refused d)
  let (id, c) ← c.peekBytes 6
  let (covered, _) ← posEdp.peekBytes edpLen.toNat
  if frameChecksum covered false ≠ 0 then throw (.refused d)
  return (id, c.rest)

/-- What a frame that is not malformed is: one with everything the daemon
needs, or one that only carries VLANs. -/
inductive Decoded where
  | neighbor (d : Dec)
  | vlans (d : Dec)
  deriving DecidableEq, Repr

/-- The end of the decoder.
mirrors edp.c:445-502 -/
def finish (b : Build) (d : Dec) : Run Dec Decoded :=
  if d.chassis.cId = none ∨ d.port.pId = none ∨ d.chassis.cName = none ∨ d.chassis.cDescr = none ∨
      d.port.pDescr = none ∨ !d.gotend then
    if b.dot1 ∧ d.gotvlans ∧ d.gotend then .ok (.vlans d) else .error (.refused d)
  else .ok (.neighbor d)

/-- `edp_decode`. The TTL is the one of the receiver.
mirrors edp.c:231-512 -/
def edpDecode (b : Build) (bound : Bound) (cfg : Config) (frame : Bytes) : Run Dec Decoded := do
  let (id, rest) ← decodeHeader frame {}
  let d : Dec := {
    chassis.cTtl := cfg.ttl
    chassis.cIdSubtype := LLDP_CHASSISID_SUBTYPE_LLADDR
    chassis.cId := some id }
  let d ← decodeLoop b bound (rest.length + 1) rest d
  finish b d

end Lldpd.Edp
