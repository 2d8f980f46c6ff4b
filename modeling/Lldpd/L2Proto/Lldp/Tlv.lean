import Lldpd.L2Proto.Lldp.Decode

/-!
# An LLDPDU as a list of TLVs

`tlvs` cuts the bytes behind the Ethernet header into TLVs, up to and
including the first End TLV. A `Tlv` knows its payload and what follows it in
the frame, because a branch of the decoder may read on.

`applyTlv` says what one TLV does to the decoder's state, from the bytes of
the TLV alone: no cursor, no read that is checked somewhere else.
`Lldp.Refine` shows that `lldp_decode` is the fold of it over the TLVs.
-/
namespace Lldpd.Lldp
open Core

/-- A TLV of a frame: `after` is the rest of the frame. -/
structure Tlv where
  type : Nat
  payload : Bytes
  after : Bytes := []
  deriving DecidableEq, Repr

namespace Tlv

def size (t : Tlv) : Nat := t.payload.length

/-- The bytes a branch can read without leaving the frame. -/
def reach (t : Tlv) : Bytes := t.payload ++ t.after

def u8 (t : Tlv) (i : Nat) : UInt8 := t.reach.getD i 0

def u16 (t : Tlv) (i : Nat) : UInt16 := be16 (t.u8 i) (t.u8 (i + 1))

def u32 (t : Tlv) (i : Nat) : UInt32 := be32 (t.u8 i) (t.u8 (i + 1)) (t.u8 (i + 2)) (t.u8 (i + 3))

def bytes (t : Tlv) (i n : Nat) : Bytes := (t.reach.drop i).take n

theorem reach_length (t : Tlv) : t.reach.length = t.size + t.after.length := by
  simp [reach, size]

theorem length_bytes {t : Tlv} {i n : Nat} (h : n + i ≤ t.reach.length) :
    (t.bytes i n).length = n := by
  simp only [bytes, List.length_take, List.length_drop]
  omega

end Tlv

/-- The first TLV of `rest`, when its header and its payload are there. -/
def tlvAt : Bytes → Option Tlv
  | a :: b :: r =>
    let hdr := (be16 a b).toNat
    if r.length < hdr % 512 then none
    else some ⟨hdr / 512, r.take (hdr % 512), r.drop (hdr % 512)⟩
  | _ => none

theorem tlvAt_after {rest : Bytes} {t : Tlv} (h : tlvAt rest = some t) :
    t.after.length + t.size + 2 = rest.length := by
  match rest, h with
  | a :: b :: r, h =>
    simp only [tlvAt] at h
    split at h
    · cases h
    · simp only [Option.some.injEq] at h; subst h
      simp only [Tlv.size, List.length_take, List.length_drop, List.length_cons]; omega

def tlvs (rest : Bytes) : List Tlv :=
  match _h : tlvAt rest with
  | none => []
  | some t => t :: if t.type = LLDP_TLV_END then [] else tlvs t.after
termination_by rest.length
decreasing_by have := tlvAt_after _h; omega

/-! ## What a TLV does -/

def refuse {α : Type} (d : Dec) : Run Dec α := .error (.refused d)

/-- Management address. The four tests of the source leave a TLV whose
address string runs past its end, past the frame or past the buffer. -/
def applyMgmtAddr (d : Dec) (t : Tlv) : Run Dec Dec :=
  let n := (t.u8 0).toNat
  if t.size < 1 ∨ t.size < n then refuse d
  else if t.reach.length < n + 1 then .error (.fault .oob)
  else
    match d.addrStrBuffer.memcpy (t.bytes 1 n) with
    | none => .error (.fault .overflow)
    | some buffer =>
      let d := { d with addrStrBuffer := buffer }
      if t.size < 5 then refuse d
      else if t.reach.length < n + 6 then .error (.fault .oob)
      else
        match lldpdAfFromLldpProto (buffer.get 0) with
        | none => if t.size < n + 6 then refuse d else .ok d
        | some af =>
          let iface := if t.u8 (n + 1) = LLDP_MGMT_IFACE_IFINDEX then t.u32 (n + 2) else 0
          let len := (t.u8 0 - 1).toNat
          match lldpdAllocMgmt (some af) (buffer.slice 1 len) len iface with
          | .error _ => .error (.fault .assertion)
          | .ok mgmt =>
            let d := { d with chassis.cMgmt := d.chassis.cMgmt ++ [mgmt] }
            if t.size < n + 6 then refuse d else .ok d

def applyPi (d : Dec) (t : Tlv) : Run Dec Dec :=
  if t.size < 5 ∨ t.size < 1 + (t.u8 4).toNat then refuse d
  else if t.reach.length < 5 + (t.u8 4).toNat then .error (.fault .oob)
  else
    let d := { d with port.pPids := d.port.pPids ++ [⟨t.bytes 5 (t.u8 4).toNat⟩] }
    if t.size < 5 + (t.u8 4).toNat then refuse d else .ok d

def applyDot1 (d : Dec) (t : Tlv) : Run Dec Dec :=
  match (t.u8 3).toNat with
  | LLDP_TLV_DOT1_VLANNAME =>
    if t.size < 7 ∨ t.size < 7 + (t.u8 6).toNat then refuse d
    else .ok { d with port.pVlans := d.port.pVlans ++ [⟨t.bytes 7 (t.u8 6).toNat, t.u16 4⟩] }
  | LLDP_TLV_DOT1_PVID =>
    if t.size < 6 then refuse d else .ok { d with port.pPvid := t.u16 4 }
  | LLDP_TLV_DOT1_PPVID =>
    if t.size < 7 then refuse d
    else .ok { d with port.pPpvids := d.port.pPpvids ++ [⟨t.u8 4, t.u16 5⟩] }
  | LLDP_TLV_DOT1_PI => applyPi d t
  | _ => .ok d.unrecognized

def applyPower (d : Dec) (t : Tlv) : Run Dec Dec :=
  let power := setPower (t.u8 4) (t.u8 5) (t.u8 6) d.port.pPower
  if t.size < 7 then refuse d
  else if t.size < 12 then
    .ok { d with port.pPower := { power with powertype := LLDP_DOT3_POWER_8023AT_OFF } }
  else .ok { d with port.pPower := setPower8023at (t.u8 7) (t.u16 8) (t.u16 10) power }

def applyDot3 (d : Dec) (t : Tlv) : Run Dec Dec :=
  match (t.u8 3).toNat with
  | LLDP_TLV_DOT3_MAC =>
    if t.size < 9 then refuse d
    else .ok { d with port.pMacphy := macphyOf (t.u8 4) (t.u16 5) (t.u16 7) }
  | LLDP_TLV_DOT3_LA =>
    if t.size < 9 then refuse d else .ok { d with port.pAggregid := t.u32 5 }
  | LLDP_TLV_DOT3_MFS =>
    if t.size < 6 then refuse d else .ok { d with port.pMfs := t.u16 4 }
  | LLDP_TLV_DOT3_POWER => applyPower d t
  | _ => .ok d.unrecognized

def applyMedPolicy (d : Dec) (t : Tlv) : Run Dec Dec :=
  let type := (t.u32 4 >>> 24).toNat
  if t.size < 8 then refuse d
  else if type < 1 ∨ LLDP_MED_APPTYPE_LAST < type then .ok d
  else .ok ({ d with port.pMedPolicy :=
    d.port.pMedPolicy.setIfInBounds (type - 1) (medPolicyOf (t.u32 4)) }.medCap
    LLDP_MED_CAP_POLICY)

def applyMedLocation (d : Dec) (t : Tlv) : Run Dec Dec :=
  if t.size < 5 then refuse d
  else if (t.u8 4).toNat < 1 ∨ LLDP_MED_LOCFORMAT_LAST < (t.u8 4).toNat then .ok d
  else
    let loc : MedLoc := ⟨t.u8 4, t.bytes 5 (t.size - 5)⟩
    .ok ({ d with port.pMedLocation :=
      d.port.pMedLocation.setIfInBounds ((t.u8 4).toNat - 1) loc }.medCap LLDP_MED_CAP_LOCATION)

def applyMed (d : Dec) (t : Tlv) : Run Dec Dec :=
  match (t.u8 3).toNat with
  | LLDP_TLV_MED_CAP =>
    if t.size < 7 then refuse d
    else .ok ({ d with chassis.cMedCapAvailable := t.u16 4, chassis.cMedType := t.u8 6 }.medCap
      LLDP_MED_CAP_CAP)
  | LLDP_TLV_MED_POLICY => applyMedPolicy d t
  | LLDP_TLV_MED_LOCATION => applyMedLocation d t
  | LLDP_TLV_MED_MDI =>
    if t.size < 7 then refuse d else .ok (setMedPower (t.u8 4) (t.u16 5) d)
  | LLDP_TLV_MED_IV_HW | LLDP_TLV_MED_IV_FW | LLDP_TLV_MED_IV_SW | LLDP_TLV_MED_IV_SN
  | LLDP_TLV_MED_IV_MANUF | LLDP_TLV_MED_IV_MODEL | LLDP_TLV_MED_IV_ASSET =>
    let s := if t.size ≤ 4 then none else some (t.bytes 4 (t.size - 4))
    .ok ({ d with chassis := setInventory (t.u8 3).toNat s d.chassis }.medCap LLDP_MED_CAP_IV)
  | _ => .ok d.unrecognized

/-- Organisationally specific TLV: a feature left out of the build, like an
unknown organisation, only counts. -/
def applyOrg (b : Build) (d : Dec) (t : Tlv) : Run Dec Dec :=
  if t.size < 4 then refuse d
  else if t.bytes 0 3 = LLDP_TLV_ORG_DOT1 then
    if b.dot1 then applyDot1 d t else .ok d.unrecognized
  else if t.bytes 0 3 = LLDP_TLV_ORG_DOT3 then
    if b.dot3 then applyDot3 d t else .ok d.unrecognized
  else if t.bytes 0 3 = LLDP_TLV_ORG_MED then
    if b.lldpmed then applyMed d t else .ok d.unrecognized
  else .ok d.unrecognized

/-- A TLV on the decoder's state. `cos` is the frame behind the destination
address, for the chassis id of the OVSDB build. -/
def applyTlv (b : Build) (cos : Bytes) (d : Dec) (t : Tlv) : Run Dec Dec :=
  match t.type with
  | LLDP_TLV_END => if t.size = 0 then .ok { d with gotend := true } else refuse d
  | LLDP_TLV_CHASSIS_ID =>
    if t.size < 2 ∨ t.u8 0 = 0 ∨ 7 < (t.u8 0).toNat then refuse d
    else .ok { d with
      chassis.cIdSubtype := t.u8 0
      chassis.cId := some (if b.ovsdb then cos.take (t.size - 1) else t.bytes 1 (t.size - 1)) }
  | LLDP_TLV_PORT_ID =>
    if t.size < 2 ∨ t.u8 0 = 0 ∨ 7 < (t.u8 0).toNat then refuse d
    else .ok { d with port.pIdSubtype := t.u8 0, port.pId := some (t.bytes 1 (t.size - 1)) }
  | LLDP_TLV_TTL =>
    if t.size < 2 then refuse d
    else .ok { d with chassis.cTtl := t.u16 0, ttlReceived := true }
  | LLDP_TLV_PORT_DESCR =>
    if t.size < 1 then .ok d else .ok { d with port.pDescr := some t.payload }
  | LLDP_TLV_SYSTEM_NAME =>
    if t.size < 1 then .ok d else .ok { d with chassis.cName := some t.payload }
  | LLDP_TLV_SYSTEM_DESCR =>
    if t.size < 1 then .ok d else .ok { d with chassis.cDescr := some t.payload }
  | LLDP_TLV_SYSTEM_CAP =>
    if t.size < 4 then refuse d
    else .ok { d with chassis.cCapAvailable := t.u16 0, chassis.cCapEnabled := t.u16 2 }
  | LLDP_TLV_MGMT_ADDR => applyMgmtAddr d t
  | LLDP_TLV_ORG => applyOrg b d t
  | _ => refuse d

end Lldpd.Lldp
