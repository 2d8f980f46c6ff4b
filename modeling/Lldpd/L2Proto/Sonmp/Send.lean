import Lldpd.L2Proto.Lldp.Send
import Lldpd.L2Proto.Sonmp.Decode

/-!
# Emission of SONMP frames (`sonmp_send`)

A sender of SONMP tells its first address and the number of its interface in a
hello, and again in a flatnet frame, which is the hello with another PID and
another destination. The flatnet frame is made of what the device has been
given: where the helper changes the source address it changes it twice.
-/
namespace Lldpd.Sonmp
open Lldpd.Core Lldpd.Lldp

def LLC_ORG_NORTEL : Bytes := [0x00, 0x00, 0x81]
def LLC_PID_SONMP_FLATNET : UInt16 := 0x01a1
def SONMP_TOPOLOGY_NEW : UInt8 := 3

/-- Only the first management address is looked at.
mirrors sonmp.c:229-235 -/
def sonmpAddress (chassis : Chassis) : Bytes :=
  match chassis.cMgmt with
  | mgmt :: _ => if mgmt.mFamily = .ipv4 then mgmt.addrBytes.take 4 else be32Bytes 0
  | [] => be32Bytes 0

/-- The hello, and the position of its PID.
mirrors sonmp.c:200-250 -/
def writeSonmp (chassis : Chassis) (hIfindex : Int) (hw : Hardware) : Option (Packet × Nat) := do
  let p := Packet.calloc hw.hMtu
  let p ← [SONMP_MULTICAST_ADDR, hw.hLladdr.1, be16Bytes (UInt16.ofNat SONMP_SIZE), [0xaa], [0xaa],
    [0x03], LLC_ORG_NORTEL].foldlM Packet.poke p
  let posPid := p.pos
  let p ← [be16Bytes LLC_PID_SONMP_HELLO, sonmpAddress chassis, be16Bytes 0, [UInt8.ofInt hIfindex],
    [1], [12], [SONMP_TOPOLOGY_NEW], [1]].foldlM Packet.poke p
  return (p, posPid)

structure SentSonmp where
  ret : SendRet
  hardware : Hardware
  frames : List Bytes
  deriving DecidableEq, Repr

/-- `sendOk` is whether the device takes a frame.
mirrors sonmp.c:184-280 -/
def sonmpSend (cfg : Config) (chassis : Chassis) (hIfindex : Int) (sendOk : Nat → Bool)
    (hw : Hardware) : SentSonmp :=
  (writeSonmp chassis hIfindex hw).elim ⟨.tooBig, hw, []⟩ fun (p, posPid) =>
    let hello := interfacesSendHelper cfg hw p.written
    if !sendOk 0 then ⟨.netdown, hw, [hello]⟩
    else
      let flatnet := patch (patch hello posPid (be16Bytes LLC_PID_SONMP_FLATNET)) 5 [1]
      let flatnet := interfacesSendHelper cfg hw flatnet
      if !sendOk 1 then ⟨.netdown, hw, [hello, flatnet]⟩
      else ⟨.sent, { hw with hTxCnt := hw.hTxCnt + 1 }, [hello, flatnet]⟩

end Lldpd.Sonmp
