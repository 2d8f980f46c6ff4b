import Lldpd.Core.Bytes

/-!
# `frame_checksum`

The checksum of CDP, FDP and EDP frames (`src/daemon/frame.c`).
-/
namespace Lldpd
open Core

/-- `ntohs` on a little-endian host. -/
def ntohs (v : UInt16) : UInt16 := v <<< 8 ||| v >>> 8

/-- What a last odd byte adds to the sum.
mirrors frame.c:49-60 -/
def oddByte (cisco : Bool) (v : UInt8) : UInt32 :=
  if cisco then
    if v &&& 0x80 ≠ 0 then ((0xff : UInt32) <<< 8) + (v.toUInt32 - 1) else v.toUInt32
  else v.toUInt32 <<< 8

/-- The carries are added, and the sum is complemented.
mirrors frame.c:62-65 -/
def complementSum (sum : UInt32) : UInt16 :=
  let sum := (sum >>> 16) + (sum &&& 0xffff)
  let sum := sum + (sum >>> 16)
  ~~~ ntohs sum.toUInt16

/-- The sum of the 16-bit words, and the odd byte at the end.
mirrors frame.c:27-60 -/
def checksumWords (cisco : Bool) : Bytes → UInt32
  | x :: y :: r => (x.toUInt32 <<< 8) + y.toUInt32 + checksumWords cisco r
  | [v] => oddByte cisco v
  | [] => 0

/-- mirrors frame.c:20-66 -/
def frameChecksum (cp : Bytes) (cisco : Bool) : UInt16 := complementSum (checksumWords cisco cp)

end Lldpd
