import Lldpd.L2Proto.Lldp.Safety

/-!
# The chassis identifier `lldp_decode` returns

The OVSDB build reads the identifier of a Chassis ID TLV and then overwrites
it with as many bytes taken from `cos`, a pointer behind the destination
address of the frame. The two coincide for a MAC-typed identifier that equals
the source address and for little else.

`lldpDecode_chassisId_iff` says when the decoded identifier is the one of the
last Chassis ID TLV, and when two frames that differ in their source address
decode to the same one.
-/
namespace Lldpd.Lldp
open Core

def lastChassisId : List Tlv → Option Tlv
  | [] => none
  | t :: ts => (lastChassisId ts).or (if t.type = LLDP_TLV_CHASSIS_ID then some t else none)

def chassisIdOf (b : Build) (cos : Bytes) (t : Tlv) : Bytes :=
  if b.ovsdb then cos.take (t.size - 1) else t.payload.drop 1

section Run
variable {b : Build} {cos : Bytes} {d d' : Dec} {t : Tlv} {ts : List Tlv}

theorem bytes_one_payload : t.bytes 1 (t.size - 1) = t.payload.drop 1 := by
  cases h : t.payload with
  | nil => simp [Tlv.bytes, Tlv.size, h]
  | cons a p => simp [Tlv.bytes, Tlv.size, Tlv.reach, h]

/-- Step lemma: only a Chassis ID TLV touches the identifier. -/
theorem applyTlv_chassisId (h : applyTlv b cos d t = .ok d') :
    (d'.chassis.cIdSubtype, d'.chassis.cId) =
      if t.type = LLDP_TLV_CHASSIS_ID then (t.u8 0, some (chassisIdOf b cos t))
      else (d.chassis.cIdSubtype, d.chassis.cId) := by
  unfold applyTlv at h
  split at h
  case h_2 hty =>
    split at h
    · cases h
    · cases h; rw [if_pos hty, chassisIdOf, bytes_one_payload]
  case h_9 hty =>
    obtain ⟨_, _, _, rfl⟩ := applyMgmtAddr_ok h
    rw [if_neg (by rw [hty]; decide)]
  case h_10 hty =>
    rw [(applyOrg_keeps h).cIdSubtype, (applyOrg_keeps h).cId, if_neg (by rw [hty]; decide)]
  case h_11 => cases h
  all_goals
    rename_i hty
    rw [if_neg (by rw [hty]; decide)]
    split at h <;> cases h <;> rfl

/-- Run lemma: the last Chassis ID TLV wins. -/
theorem applyTlvs_chassisId (h : applyTlvs b cos ts d = .ok d') :
    (d'.chassis.cIdSubtype, d'.chassis.cId) =
      match lastChassisId ts with
      | some t => (t.u8 0, some (chassisIdOf b cos t))
      | none => (d.chassis.cIdSubtype, d.chassis.cId) := by
  induction ts generalizing d with
  | nil => cases h; rfl
  | cons t ts ih =>
    rw [applyTlvs_cons, bind_eq_ok] at h
    obtain ⟨d1, hd, h⟩ := h
    rw [ih h, lastChassisId]
    cases lastChassisId ts with
    | some t' => rfl
    | none =>
      simp only [Option.none_or]
      rw [applyTlv_chassisId hd]
      split <;> rfl

end Run

theorem lldpDecode_chassisId {b : Build} {stack : Buffer 32} {frame : Bytes} {d : Dec}
    (h : lldpDecode b stack frame = .ok d) :
    ∃ t, lastChassisId (frameTlvs frame) = some t ∧ d.chassis.cIdSubtype = t.u8 0 ∧
      d.chassis.cId = some (chassisIdOf b (frame.drop 6) t) := by
  obtain ⟨-, hd, hmand⟩ := lldpDecode_accepted h
  have hid := applyTlvs_chassisId hd
  cases hl : lastChassisId (frameTlvs frame) with
  | none =>
    rw [hl, Prod.mk.injEq] at hid
    exact absurd hid.2 hmand
  | some t =>
    rw [hl, Prod.mk.injEq] at hid
    exact ⟨t, rfl, hid⟩

/-- The identifier agrees with the TLV where the build or the bytes say so. -/
theorem chassisIdOf_eq_iff {b : Build} {cos : Bytes} {t : Tlv} {id : Bytes}
    (hid : b.ovsdb = false → t.payload.drop 1 = id) :
    chassisIdOf b cos t = id ↔ b.ovsdb = false ∨ cos.take (t.size - 1) = id := by
  unfold chassisIdOf
  cases hb : b.ovsdb
  · simp [hid hb]
  · simp

/-- **The chassis identifier, exactly.** For every accepted frame, the decoded
identifier is the subtype and the rest of the payload of the last Chassis ID
TLV if and only if the build is not the OVSDB one or the frame carries those
bytes behind its destination address too; and a second accepted frame that
differs in the source address decodes to the same identifier if and only if
the build is not the OVSDB one or the overwriting bytes are the same. -/
theorem lldpDecode_chassisId_iff (b : Build) (stack : Buffer 32) (frame : Bytes) (d : Dec)
    (h : lldpDecode b stack frame = .ok d) :
    ∃ t, lastChassisId (frameTlvs frame) = some t ∧
      (d.chassis.cIdSubtype = t.u8 0 ∧ d.chassis.cId = some (t.payload.drop 1) ↔
        b.ovsdb = false ∨ (frame.drop 6).take (t.size - 1) = t.payload.drop 1) ∧
      ∀ stack' frame' d', lldpDecode b stack' frame' = .ok d' →
        frame'.drop 12 = frame.drop 12 →
        (d'.chassis.cIdSubtype = d.chassis.cIdSubtype ∧ d'.chassis.cId = d.chassis.cId ↔
          b.ovsdb = false ∨
            (frame'.drop 6).take (t.size - 1) = (frame.drop 6).take (t.size - 1)) := by
  obtain ⟨t, hl, hs, hid⟩ := lldpDecode_chassisId h
  refine ⟨t, hl, ?_, fun stack' frame' d' h' hsame => ?_⟩
  · rw [hs, hid, Option.some.injEq, chassisIdOf_eq_iff fun _ => rfl]
    simp
  · obtain ⟨t', hl', hs', hid'⟩ := lldpDecode_chassisId h'
    have hts : frameTlvs frame' = frameTlvs frame := by
      have hd := congrArg (List.drop 2) hsame
      rw [List.drop_drop, List.drop_drop] at hd
      rw [frameTlvs, frameTlvs, hd]
    rw [hts, hl] at hl'
    cases hl'
    rw [hs, hs', hid, hid']
    cases hb : b.ovsdb <;> simp [chassisIdOf, hb]

def localIdFrame (src : Bytes) : Bytes :=
  lldpFrame src [2, 3, 7, 97, 98, 4, 3, 7, 112, 49, 6, 2, 0, 120, 0, 0]

theorem lldpDecode_chassisId_local :
    ∃ t, lastChassisId (frameTlvs (localIdFrame [2, 0, 0, 0, 0, 1])) = some t ∧
      ((7 : UInt8) = t.u8 0 ∧ some [97, 98] = some (t.payload.drop 1) ↔
        Build.full.ovsdb = false ∨
          ((localIdFrame [2, 0, 0, 0, 0, 1]).drop 6).take (t.size - 1) = t.payload.drop 1) :=
  have ⟨t, hl, h, _⟩ := lldpDecode_chassisId_iff .full zeroStack
    (localIdFrame [2, 0, 0, 0, 0, 1])
    { chassis := { cIdSubtype := 7, cId := some [97, 98], cTtl := 120 }
      port := { pIdSubtype := 7, pId := some [112, 49] }
      addrStrBuffer := zeroStack, gotend := true, ttlReceived := true } (by decide)
  ⟨t, hl, h⟩

/-- Two frames with the locally assigned chassis id "ab": in the OVSDB build
the id is the first two bytes of whoever sent the frame. -/
theorem lldpDecode_chassisId_overwritten :
    ((lldpDecode { Build.full with ovsdb := true } zeroStack
      (localIdFrame [2, 0, 0, 0, 0, 1])).toOption.map fun d => d.chassis.cId) =
        some (some [2, 0]) ∧
    ((lldpDecode { Build.full with ovsdb := true } zeroStack
      (localIdFrame [6, 1, 0, 0, 0, 1])).toOption.map fun d => d.chassis.cId) =
        some (some [6, 1]) := by
  decide

end Lldpd.Lldp
