import Lldpd.L2Proto.Lldp.Tlv

/-!
# `lldp_decode` is the fold of `applyTlv` over the TLVs

* `tlvStep_eq_apply`: one iteration of the loop of `lldp_decode`, behind the
  TLV header, is `applyTlv`;
* `decodeLoop_eq`: the loop is the fold of it, and never runs out of fuel;
* `lldpDecode_eq`: `lldp_decode` accepts a frame if and only if the fold
  succeeds and the four mandatory things were seen, with the same result.
-/
namespace Lldpd.Lldp
open Core

/-! ## One iteration of the loop is `applyTlv` -/

def Tlv.at (t : Tlv) (k : Nat) : Cursor := ⟨t.reach.drop k, 0⟩

/-- The final check of an iteration, on what the branch returned. -/
def endCheck (t : Tlv) (r : Dec × Cursor) : Run Dec Dec :=
  if r.2.length < t.after.length then throw (.refused r.1) else pure r.1

/-- An iteration behind the header: the `switch` and the final check. -/
def tlvStep (b : Build) (cos : Cursor) (t : Tlv) (d : Dec) : Run Dec Dec :=
  decodeTlv b cos t.type (t.at 0) t.size d >>= endCheck t

section Reads
variable {σ : Type} {t : Tlv} {k n : Nat}

theorem at_peekUint8 (h : k + 1 ≤ t.reach.length) :
    ((t.at k).peekUint8 : Run σ _) = .ok (t.u8 k, t.at (k + 1)) := by
  rw [Tlv.at, Cursor.peekUint8_drop h]; rfl

theorem at_peekUint16 (h : k + 2 ≤ t.reach.length) :
    ((t.at k).peekUint16 : Run σ _) = .ok (t.u16 k, t.at (k + 2)) := by
  rw [Tlv.at, Cursor.peekUint16_drop h]; rfl

theorem at_peekUint32 (h : k + 4 ≤ t.reach.length) :
    ((t.at k).peekUint32 : Run σ _) = .ok (t.u32 k, t.at (k + 4)) := by
  rw [Tlv.at, Cursor.peekUint32_of_le (by simp; omega)]
  simp only [Cursor.getD_drop, List.drop_drop]; rfl

theorem at_peekBytes (h : k + n ≤ t.reach.length) :
    ((t.at k).peekBytes n : Run σ _) = .ok (t.bytes k n, t.at (k + n)) := by
  rw [Tlv.at, Cursor.peekBytes_drop h]; rfl

theorem at_peekBytes_oob (h : t.reach.length < k + n) (hk : k ≤ t.reach.length) :
    ((t.at k).peekBytes n : Run σ _) = .error (.fault .oob) := by
  rw [Tlv.at, Cursor.peekBytes_of_lt (by simp; omega)]

theorem at_peekUint8_oob (h : t.reach.length < k + 1) :
    ((t.at k).peekUint8 : Run σ _) = .error (.fault .oob) := by
  rw [Tlv.at, List.drop_eq_nil_of_le (by omega), Cursor.peekUint8_nil]

theorem at_peekUint32_oob (h : t.reach.length < k + 4) :
    ((t.at k).peekUint32 : Run σ _) = .error (.fault .oob) := by
  rw [Tlv.at, Cursor.peekUint32_of_lt (by simp; omega)]

theorem at_discard (h : k + n ≤ t.reach.length) : (t.at k).discard n = t.at (k + n) := by
  rw [Tlv.at, Cursor.discard_drop h]; rfl

end Reads

section Steps
variable {b : Build} {cos : Cursor} {t : Tlv} {d : Dec} {n x : Nat}

/-- A branch that consumed `n` bytes of its TLV passes the final check. -/
theorem endCheck_at (h : n ≤ t.size) : endCheck t (d, t.at n) = .ok d := by
  have := t.reach_length
  simp only [endCheck, Tlv.at, Cursor.length_mk, List.length_drop]
  rw [if_neg (by omega)]; rfl

/-- A branch that read on past its TLV is refused. -/
theorem endCheck_past (h : t.size < n) (hr : n ≤ t.reach.length) :
    endCheck t (d, t.at n) = refuse d := by
  have := t.reach_length
  simp only [endCheck, Tlv.at, Cursor.length_mk, List.length_drop]
  rw [if_pos (by omega)]; rfl

theorem checkTlvSize_of_lt (h : t.size < x) : checkTlvSize d t.size x = refuse d := by
  simp only [checkTlvSize, if_pos h]; rfl

theorem checkTlvSize_of_le (h : x ≤ t.size) : checkTlvSize d t.size x = .ok () := by
  simp only [checkTlvSize, if_neg (Nat.not_lt.2 h)]; rfl

@[simp] theorem refuse_bind {α β : Type} (f : α → Run Dec β) :
    ((refuse d : Run Dec α) >>= f) = refuse d := rfl

/-- A branch that first checks the size of its TLV. -/
theorem step_checked {rest : Run Dec (Dec × Cursor)} {r : Run Dec Dec}
    (h : x ≤ t.size → t.size ≤ t.reach.length → rest >>= endCheck t = r) :
    (checkTlvSize d t.size x >>= fun _ => rest) >>= endCheck t =
      if t.size < x then refuse d else r := by
  have hr := t.reach_length
  split
  · simp [checkTlvSize_of_lt ‹_›]
  · rw [checkTlvSize_of_le (by omega)]
    exact h (by omega) (by omega)

theorem step_end : decodeEnd (t.at 0) t.size d >>= endCheck t =
    if t.size = 0 then .ok { d with gotend := true } else refuse d := by
  by_cases h : t.size = 0
  · simp [decodeEnd, h, endCheck_at]
  · simp [decodeEnd, h, refuse]

theorem step_id (ty : Nat) (hc : t.size ≤ cos.rest.length) :
    decodeId b cos ty (t.at 0) t.size d >>= endCheck t =
      if t.size < 2 ∨ t.u8 0 = 0 ∨ 7 < (t.u8 0).toNat then refuse d
      else if ty = LLDP_TLV_PORT_ID then
        .ok { d with port.pIdSubtype := t.u8 0, port.pId := some (t.bytes 1 (t.size - 1)) }
      else .ok { d with
        chassis.cIdSubtype := t.u8 0
        chassis.cId := some (if b.ovsdb then cos.rest.take (t.size - 1)
          else t.bytes 1 (t.size - 1)) } := by
  have hr := t.reach_length
  by_cases h2 : t.size < 2
  · simp [decodeId, checkTlvSize_of_lt h2, h2, true_or]
  simp (disch := omega) only [decodeId, checkTlvSize_of_le, at_peekUint8, at_peekBytes, ok_bind,
    pure_eq_ok, h2, false_or]
  by_cases hs : t.u8 0 = 0 ∨ 7 < (t.u8 0).toNat
  · simp [hs, refuse]
  simp only [hs, if_false]
  split
  · simp (disch := omega) only [ok_bind, endCheck_at]
  · cases b.ovsdb
    · simp (disch := omega) [endCheck_at]
    · have hcos : t.size - 1 ≤ cos.rest.length := by omega
      simp (disch := omega) [Cursor.peekBytes, hcos, endCheck_at]

theorem step_ttl : decodeTtl (t.at 0) t.size d >>= endCheck t =
    if t.size < 2 then refuse d
    else .ok { d with chassis.cTtl := t.u16 0, ttlReceived := true } := by
  exact step_checked fun _ _ => by
    simp (disch := omega) only [at_peekUint16, ok_bind, pure_eq_ok, endCheck_at]

theorem bytes_payload : t.bytes 0 t.size = t.payload := by
  simp [Tlv.bytes, Tlv.reach, Tlv.size]

theorem step_string (ty : Nat) : decodeString ty (t.at 0) t.size d >>= endCheck t =
    if t.size < 1 then .ok d
    else if ty = LLDP_TLV_PORT_DESCR then .ok { d with port.pDescr := some t.payload }
    else if ty = LLDP_TLV_SYSTEM_NAME then .ok { d with chassis.cName := some t.payload }
    else .ok { d with chassis.cDescr := some t.payload } := by
  have hr := t.reach_length
  by_cases h1 : t.size < 1
  · simp (disch := omega) only [decodeString, h1, if_true, pure_eq_ok, ok_bind, endCheck_at]
  simp (disch := omega) only [decodeString, h1, if_false, at_peekBytes, pure_eq_ok, bytes_payload]
  split
  · simp (disch := omega) only [ok_bind, endCheck_at]
  · split <;> simp (disch := omega) only [ok_bind, endCheck_at]

theorem step_cap : decodeCap (t.at 0) t.size d >>= endCheck t =
    if t.size < 4 then refuse d
    else .ok { d with chassis.cCapAvailable := t.u16 0, chassis.cCapEnabled := t.u16 2 } := by
  exact step_checked fun _ _ => by
    simp (disch := omega) only [at_peekUint16, ok_bind, pure_eq_ok, endCheck_at]

/-- `lldpd_alloc_mgmt` does not fail with `ENOMEM` here. -/
theorem allocMgmtOrAssert_eq (af : Af) (addr : Bytes) (n : Nat) (iface : UInt32) :
    allocMgmtOrAssert d (some af) addr n iface =
      match lldpdAllocMgmt (some af) addr n iface with
      | .ok mgmt => .ok mgmt
      | .error _ => .error (.fault .assertion) := by
  simp only [allocMgmtOrAssert, lldpdAllocMgmt]
  by_cases h : LLDPD_MGMT_MAXADDRSIZE < n <;> simp only [h, dif_pos, dif_neg, not_false_eq_true]

/-- A management address TLV is refused when it read past its end. -/
theorem endCheck_mgmtAddr (h : ¬ t.reach.length < n + 6) :
    endCheck t (d, t.at (n + 1 + 1 + 4)) = if t.size < n + 6 then refuse d else .ok d := by
  split
  · exact endCheck_past (by omega) (by omega)
  · exact endCheck_at (by omega)

theorem step_mgmtAddr : decodeMgmtAddr (t.at 0) t.size d >>= endCheck t = applyMgmtAddr d t := by
  have hr := t.reach_length
  unfold applyMgmtAddr
  by_cases h1 : t.size < 1
  · simp [decodeMgmtAddr, checkTlvSize_of_lt h1, h1, true_or]
  simp (disch := omega) only [decodeMgmtAddr, checkTlvSize_of_le, at_peekUint8, h1, false_or]
  by_cases h2 : t.size < (t.u8 0).toNat
  · simp [checkTlvSize_of_lt h2, h2]
  simp (disch := omega) only [checkTlvSize_of_le, ok_bind, h2, if_false]
  by_cases h3 : t.reach.length < (t.u8 0).toNat + 1
  · simp (disch := omega) only [at_peekBytes_oob, error_bind, h3, if_true]
  simp (disch := omega) only [at_peekBytes, ok_bind, h3, Nat.add_comm 1]
  cases hm : d.addrStrBuffer.memcpy (t.bytes 1 (t.u8 0).toNat) with
  | none => rfl
  | some buffer =>
    by_cases h5 : t.size < 5
    · simp [checkTlvSize_of_lt h5, h5]
    simp (disch := omega) only [checkTlvSize_of_le, h5, if_false]
    by_cases h6 : t.reach.length < (t.u8 0).toNat + 6
    · simp only [h6, if_true]
      by_cases h7 : t.reach.length < (t.u8 0).toNat + 1 + 1
      · simp [at_peekUint8_oob h7]
      · simp (disch := omega) only [at_peekUint8, at_peekUint32_oob, ok_bind, error_bind]
    simp (disch := omega) only [at_peekUint8, at_peekUint32, ok_bind, pure_eq_ok, h6, if_false]
    cases haf : lldpdAfFromLldpProto (buffer.get 0) with
    | none => simp only [if_true, ok_bind, endCheck_mgmtAddr h6]
    | some af =>
      simp only [reduceCtorEq, if_false, allocMgmtOrAssert_eq]
      split <;> rename_i halloc <;> simp only [halloc]
      · simp [endCheck_mgmtAddr h6]
      · rfl

theorem step_vlanName : decodeVlanName (t.at 4) t.size d >>= endCheck t =
    if t.size < 7 ∨ t.size < 7 + (t.u8 6).toNat then refuse d
    else .ok { d with port.pVlans := d.port.pVlans ++ [⟨t.bytes 7 (t.u8 6).toNat, t.u16 4⟩] } := by
  have hr := t.reach_length
  by_cases h7 : t.size < 7
  · simp [decodeVlanName, checkTlvSize_of_lt h7, h7, true_or]
  simp (disch := omega) only [decodeVlanName, checkTlvSize_of_le, at_peekUint16, at_peekUint8,
    ok_bind, h7, false_or, Nat.reduceAdd]
  split
  · simp [checkTlvSize_of_lt ‹_›]
  · simp (disch := omega) only [checkTlvSize_of_le, at_peekBytes, ok_bind, pure_eq_ok, endCheck_at]

theorem step_pvid : decodePvid (t.at 4) t.size d >>= endCheck t =
    if t.size < 6 then refuse d else .ok { d with port.pPvid := t.u16 4 } := by
  exact step_checked fun _ _ => by
    simp (disch := omega) only [at_peekUint16, ok_bind, pure_eq_ok, endCheck_at]

theorem step_ppvid : decodePpvid (t.at 4) t.size d >>= endCheck t =
    if t.size < 7 then refuse d
    else .ok { d with port.pPpvids := d.port.pPpvids ++ [⟨t.u8 4, t.u16 5⟩] } := by
  exact step_checked fun _ _ => by
    simp (disch := omega) only [at_peekUint8, at_peekUint16, ok_bind, pure_eq_ok, endCheck_at]

theorem step_pi : decodePi (t.at 4) t.size d >>= endCheck t = applyPi d t := by
  unfold applyPi
  have hr := t.reach_length
  by_cases h5 : t.size < 5
  · simp [decodePi, checkTlvSize_of_lt h5, h5, true_or]
  simp (disch := omega) only [decodePi, checkTlvSize_of_le, at_peekUint8, h5, false_or]
  by_cases h1 : t.size < 1 + (t.u8 4).toNat
  · simp [checkTlvSize_of_lt h1, h1]
  simp (disch := omega) only [checkTlvSize_of_le, ok_bind, h1, if_false]
  by_cases ho : t.reach.length < 5 + (t.u8 4).toNat
  · simp (disch := omega) only [at_peekBytes_oob, error_bind, ho, if_true]
  simp (disch := omega) only [at_peekBytes, ok_bind, pure_eq_ok, ho, if_false]
  split
  · simp (disch := omega) only [endCheck_past]
  · simp (disch := omega) only [endCheck_at]

theorem step_dot1 (h4 : 4 ≤ t.size) :
    decodeDot1 b (t.u8 3).toNat (t.at 4) t.size d >>= endCheck t =
      if b.dot1 then applyDot1 d t else .ok d.unrecognized := by
  unfold decodeDot1 applyDot1
  split
  rotate_left
  · exact endCheck_at h4
  generalize (t.u8 3).toNat = subtype
  split
  · exact step_vlanName
  · exact step_pvid
  · exact step_ppvid
  · exact step_pi
  · simp [endCheck_at h4]

theorem step_macphy : decodeMacphy (t.at 4) t.size d >>= endCheck t =
    if t.size < 9 then refuse d
    else .ok { d with port.pMacphy := macphyOf (t.u8 4) (t.u16 5) (t.u16 7) } := by
  exact step_checked fun _ _ => by
    simp (disch := omega) only [at_peekUint8, at_peekUint16, ok_bind, pure_eq_ok, endCheck_at]

theorem step_aggregation : decodeAggregation (t.at 4) t.size d >>= endCheck t =
    if t.size < 9 then refuse d else .ok { d with port.pAggregid := t.u32 5 } := by
  exact step_checked fun _ _ => by
    simp (disch := omega) only [at_discard, at_peekUint32, ok_bind, pure_eq_ok, endCheck_at]

theorem step_mfs : decodeMfs (t.at 4) t.size d >>= endCheck t =
    if t.size < 6 then refuse d else .ok { d with port.pMfs := t.u16 4 } := by
  exact step_checked fun _ _ => by
    simp (disch := omega) only [at_peekUint16, ok_bind, pure_eq_ok, endCheck_at]

theorem step_power : decodePower (t.at 4) t.size d >>= endCheck t = applyPower d t := by
  refine step_checked fun _ _ => ?_
  simp (disch := omega) only [at_peekUint8, ok_bind]
  by_cases h12 : t.size < 12
  · have hn : ¬ 12 ≤ t.size := by omega
    simp (disch := omega) only [hn, h12, if_true, if_false, pure_eq_ok, ok_bind, endCheck_at]
  · have hy : 12 ≤ t.size := by omega
    simp (disch := omega) only [hy, h12, if_true, if_false, at_peekUint8, at_peekUint16, pure_eq_ok,
      ok_bind, endCheck_at]

theorem step_dot3 (h4 : 4 ≤ t.size) :
    decodeDot3 b (t.u8 3).toNat (t.at 4) t.size d >>= endCheck t =
      if b.dot3 then applyDot3 d t else .ok d.unrecognized := by
  unfold decodeDot3 applyDot3
  split
  rotate_left
  · exact endCheck_at h4
  generalize (t.u8 3).toNat = subtype
  split
  · exact step_macphy
  · exact step_aggregation
  · exact step_mfs
  · exact step_power
  · simp [endCheck_at h4]

theorem step_medCap : decodeMedCap (t.at 4) t.size d >>= endCheck t =
    if t.size < 7 then refuse d
    else .ok ({ d with chassis.cMedCapAvailable := t.u16 4, chassis.cMedType := t.u8 6 }.medCap
      LLDP_MED_CAP_CAP) := by
  exact step_checked fun _ _ => by
    simp (disch := omega) only [at_peekUint16, at_peekUint8, ok_bind, pure_eq_ok, endCheck_at]

theorem step_medPolicy : decodeMedPolicy (t.at 4) t.size d >>= endCheck t = applyMedPolicy d t := by
  refine step_checked fun _ _ => ?_
  simp (disch := omega) only [at_peekUint32, ok_bind, pure_eq_ok]
  split <;> simp (disch := omega) only [ok_bind, endCheck_at]

theorem step_medLocation : decodeMedLocation (t.at 4) t.size d >>= endCheck t =
    applyMedLocation d t := by
  refine step_checked fun _ _ => ?_
  simp (disch := omega) only [at_peekUint8, at_peekBytes, ok_bind, pure_eq_ok]
  split <;> simp (disch := omega) only [ok_bind, endCheck_at]

theorem step_medMdi : decodeMedMdi (t.at 4) t.size d >>= endCheck t =
    if t.size < 7 then refuse d else .ok (setMedPower (t.u8 4) (t.u16 5) d) := by
  exact step_checked fun _ _ => by
    simp (disch := omega) only [at_peekUint16, at_peekUint8, ok_bind, pure_eq_ok, endCheck_at]

theorem step_inventory (h4 : 4 ≤ t.size) (subtype : Nat) :
    decodeInventory subtype (t.at 4) t.size d >>= endCheck t =
      let s := if t.size ≤ 4 then none else some (t.bytes 4 (t.size - 4))
      .ok ({ d with chassis := setInventory subtype s d.chassis }.medCap LLDP_MED_CAP_IV) := by
  have hr := t.reach_length
  unfold decodeInventory
  split
  · simp [endCheck_at h4]
  · simp (disch := omega) only [at_peekBytes, ok_bind, pure_eq_ok, endCheck_at]

theorem step_med (h4 : 4 ≤ t.size) :
    decodeMed b (t.u8 3).toNat (t.at 4) t.size d >>= endCheck t =
      if b.lldpmed then applyMed d t else .ok d.unrecognized := by
  unfold decodeMed applyMed
  split
  rotate_left
  · exact endCheck_at h4
  generalize (t.u8 3).toNat = subtype
  split
  · exact step_medCap
  · exact step_medPolicy
  · exact step_medLocation
  · exact step_medMdi
  iterate 7 exact step_inventory h4 _
  · simp [endCheck_at h4]

theorem step_org : decodeOrg b (t.at 0) t.size d >>= endCheck t = applyOrg b d t := by
  have hr := t.reach_length
  unfold applyOrg
  by_cases h4 : t.size < 4
  · simp [decodeOrg, checkTlvSize_of_lt h4, h4]
  have h4' : 4 ≤ t.size := by omega
  simp (disch := omega) only [decodeOrg, checkTlvSize_of_le, at_peekBytes, at_peekUint8, ok_bind,
    h4, if_false]
  split
  · exact step_dot1 h4'
  split
  · exact step_dot3 h4'
  split
  · exact step_med h4'
  · exact endCheck_at h4'

/-- **Step refinement**: an iteration behind the header is `applyTlv`. -/
theorem tlvStep_eq_apply (hc : t.size ≤ cos.rest.length) :
    tlvStep b cos t d = applyTlv b cos.rest d t := by
  unfold tlvStep decodeTlv applyTlv
  generalize t.type = type
  split
  · exact step_end
  · exact step_id _ hc
  · exact step_id _ hc
  · exact step_ttl
  · exact step_string _
  · exact step_string _
  · exact step_string _
  · exact step_cap
  · exact step_mgmtAddr
  · exact step_org
  · simp [refuse]

end Steps

/-! ## The loop is a fold -/

def applyTlvs (b : Build) (cos : Bytes) (ts : List Tlv) (d : Dec) : Run Dec Dec :=
  ts.foldlM (applyTlv b cos) d

def finish (d : Dec) : Run Dec Dec :=
  if d.chassis.cId = none ∨ d.port.pId = none ∨ !d.ttlReceived ∨ !d.gotend then refuse d else .ok d

section Loop
variable {b : Build} {cos : Cursor} {d d' : Dec} {rest : Bytes}

@[simp] theorem applyTlvs_nil {cos : Bytes} : applyTlvs b cos [] d = .ok d := rfl

variable {t : Tlv}

@[simp] theorem applyTlvs_cons {cos : Bytes} {ts : List Tlv} :
    applyTlvs b cos (t :: ts) d = applyTlv b cos d t >>= applyTlvs b cos ts := rfl

theorem finish_of_not_gotend (h : d.gotend = false) : finish d = refuse d := by
  simp [finish, h]

theorem tlvs_of_none (h : tlvAt rest = none) : tlvs rest = [] := by
  rw [tlvs]; split
  · rfl
  · rename_i h'; rw [h] at h'; cases h'

theorem tlvs_of_some (h : tlvAt rest = some t) :
    tlvs rest = t :: if t.type = LLDP_TLV_END then [] else tlvs t.after := by
  rw [tlvs]; split
  · rename_i h'; rw [h] at h'; cases h'
  · rename_i h'; rw [h] at h'; cases h'; rfl

/-- The header of an iteration. -/
theorem decodeStep_eq : decodeStep b cos rest d =
    match tlvAt rest with
    | none => refuse d
    | some t => tlvStep b cos t d >>= fun d => .ok (d, t.after) := by
  match rest with
  | [] => rfl
  | [_] => rfl
  | x :: y :: r =>
    simp only [decodeStep, tlvAt, List.length_cons, Cursor.peekUint16_cons, ok_bind,
      Cursor.length_mk, Int.ofNat_lt, throw_eq_error]
    rw [if_neg (by omega)]
    by_cases h : r.length < (be16 x y).toNat % 512
    · simp only [h, if_true, refuse, error_bind]
    · simp only [h, if_false, tlvStep, Tlv.at, Tlv.reach, Tlv.size, List.drop_zero,
        List.take_append_drop, List.length_take]
      rw [Nat.min_eq_left (by omega)]
      cases decodeTlv b cos ((be16 x y).toNat / 512) ⟨r, 0⟩ ((be16 x y).toNat % 512) d with
      | error e => rfl
      | ok dc =>
        have hlen : (r.length : Int) - ((be16 x y).toNat % 512 : Nat) =
            ((r.drop ((be16 x y).toNat % 512)).length : Nat) := by
          rw [List.length_drop]; omega
        simp only [ok_bind, endCheck, hlen]
        split <;> rfl

/-- What the organisationally specific TLVs leave alone. -/
structure KeepsBasic (d d' : Dec) : Prop where
  gotend : d'.gotend = d.gotend
  ttlReceived : d'.ttlReceived = d.ttlReceived
  addrStrBuffer : d'.addrStrBuffer = d.addrStrBuffer
  cIdSubtype : d'.chassis.cIdSubtype = d.chassis.cIdSubtype
  cId : d'.chassis.cId = d.chassis.cId
  cMgmt : d'.chassis.cMgmt = d.chassis.cMgmt

/-- The fields that belong to no organisation. -/
structure Basic where
  gotend : Bool
  ttlReceived : Bool
  addrStrBuffer : Buffer 32
  cIdSubtype : UInt8
  cId : Option Bytes
  cMgmt : List Mgmt
  pId : Option Bytes
  hidden : Bool × Bool

def Dec.basic (d : Dec) : Basic :=
  ⟨d.gotend, d.ttlReceived, d.addrStrBuffer, d.chassis.cIdSubtype, d.chassis.cId, d.chassis.cMgmt,
    d.port.pId, d.port.pHiddenIn, d.port.pHiddenOut⟩

theorem applyDot1_basic (h : applyDot1 d t = .ok d') : d'.basic = d.basic := by
  unfold applyDot1 applyPi at h
  split at h <;> (try split at h) <;> (try split at h) <;> (try split at h) <;> cases h <;> rfl

theorem applyDot3_basic (h : applyDot3 d t = .ok d') : d'.basic = d.basic := by
  unfold applyDot3 applyPower at h
  split at h <;> (try split at h) <;> (try split at h) <;> cases h <;> rfl

theorem setInventory_basic (d : Dec) (n : Nat) (s : Option Bytes) (cap : UInt16) :
    ({ d with chassis := setInventory n s d.chassis }.medCap cap).basic = d.basic := by
  unfold setInventory
  split <;> rfl

theorem setMedPower_basic (d : Dec) (power : UInt8) (val : UInt16) :
    (setMedPower power val d).basic = d.basic := by
  unfold setMedPower medPowerType
  split
  · rfl
  · split <;> rfl

theorem applyMed_basic (h : applyMed d t = .ok d') : d'.basic = d.basic := by
  unfold applyMed applyMedPolicy applyMedLocation at h
  split at h
  · split at h <;> cases h; rfl
  · split at h
    · cases h
    dsimp only at h
    split at h <;> cases h <;> rfl
  · split at h
    · cases h
    split at h <;> cases h <;> rfl
  · split at h <;> cases h; exact setMedPower_basic _ _ _
  iterate 7 cases h; exact setInventory_basic _ _ _ _
  · cases h; rfl

theorem applyOrg_basic (h : applyOrg b d t = .ok d') : d'.basic = d.basic := by
  unfold applyOrg at h
  split at h
  · cases h
  split at h
  · split at h
    · exact applyDot1_basic h
    · cases h; rfl
  split at h
  · split at h
    · exact applyDot3_basic h
    · cases h; rfl
  split at h
  · split at h
    · exact applyMed_basic h
    · cases h; rfl
  · cases h; rfl

theorem applyOrg_keeps (h : applyOrg b d t = .ok d') : KeepsBasic d d' := by
  have hb := applyOrg_basic h
  exact ⟨congrArg Basic.gotend hb, congrArg Basic.ttlReceived hb, congrArg Basic.addrStrBuffer hb,
    congrArg Basic.cIdSubtype hb, congrArg Basic.cId hb, congrArg Basic.cMgmt hb⟩

/-- An accepted management address TLV: what it touches. -/
theorem applyMgmtAddr_ok (h : applyMgmtAddr d t = .ok d') :
    ∃ buffer, d.addrStrBuffer.memcpy (t.bytes 1 (t.u8 0).toNat) = some buffer ∧
      ∃ mgmts, d' = { d with addrStrBuffer := buffer, chassis.cMgmt := mgmts } := by
  unfold applyMgmtAddr at h
  dsimp only at h
  split at h
  · cases h
  split at h
  · cases h
  split at h
  · cases h
  rename_i buffer hm
  refine ⟨buffer, hm, ?_⟩
  split at h
  · cases h
  split at h
  · cases h
  split at h
  · split at h <;> cases h; exact ⟨_, rfl⟩
  · split at h
    · cases h
    · split at h <;> cases h; exact ⟨_, rfl⟩

theorem applyTlv_gotend {cos : Bytes} (h : applyTlv b cos d t = .ok d') :
    d'.gotend = (d.gotend || t.type == LLDP_TLV_END) := by
  unfold applyTlv at h
  split at h
  · split at h <;> cases h; simp [*]
  iterate 7
    · split at h <;> cases h <;> simp [*]
  · obtain ⟨_, _, _, rfl⟩ := applyMgmtAddr_ok h
    simp [*]
  · rw [(applyOrg_keeps h).gotend]; simp [*]
  · cases h

/-- **Run refinement**: the loop and the final check are the fold over the
TLVs and the final check. A frame that ends without End TLV stops the loop
where the fold ends, and both refuse it in the same state. -/
theorem decodeLoop_eq {fuel : Nat} (hf : rest.length < fuel) (hc : rest.length ≤ cos.rest.length)
    (hd : d.gotend = false) :
    decodeLoop b cos fuel rest d >>= finish = applyTlvs b cos.rest (tlvs rest) d >>= finish := by
  induction fuel generalizing rest d with
  | zero => omega
  | succ fuel ih =>
    cases ht : tlvAt rest with
    | none =>
      simp only [decodeLoop, hd, Bool.false_eq_true, or_false, decodeStep_eq, ht, tlvs_of_none ht,
        applyTlvs_nil, ok_bind, refuse_bind]
      split
      · rfl
      · rw [refuse_bind, finish_of_not_gotend hd]
    | some t =>
      have hlen := tlvAt_after ht
      have hne : rest ≠ [] := by rintro rfl; simp only [List.length_nil] at hlen; omega
      have hstep := @tlvStep_eq_apply b cos t d (by omega)
      simp only [decodeLoop, hd, hne, Bool.false_eq_true, or_false, if_false, decodeStep_eq, ht,
        tlvs_of_some ht, hstep, applyTlvs_cons]
      cases ha : applyTlv b cos.rest d t with
      | error e => rfl
      | ok d' =>
        have hg := applyTlv_gotend ha
        simp only [hd, Bool.false_or] at hg
        simp only [ok_bind]
        by_cases hend : t.type = LLDP_TLV_END
        · -- the next round of the loop sees `gotend`
          obtain ⟨fuel', rfl⟩ : ∃ k, fuel = k + 1 := ⟨fuel - 1, by omega⟩
          simp [hend, decodeLoop, hg]
        · rw [if_neg hend]
          exact ih (by omega) (by omega) (hg.trans (beq_eq_false_iff_ne.2 hend))

end Loop

/-! ## The whole decoder -/

def headerOk (frame : Bytes) : Bool :=
  14 ≤ frame.length ∧ frame.take 6 = LLDP_MULTICAST_ADDR ∧
    be16 (frame.getD 12 0) (frame.getD 13 0) = ETHERTYPE_LLDP

theorem decodeHeader_eq (frame : Bytes) (d : Dec) :
    decodeHeader frame d = if headerOk frame then .ok (frame.drop 14) else refuse d := by
  unfold decodeHeader headerOk ETHER_ADDR_LEN
  by_cases hl : frame.length < 14
  · simp [refuse, Nat.not_le.2 hl]
  have h14 : 14 ≤ frame.length := by omega
  simp (disch := omega) only [hl, if_false, Cursor.peekBytes_of_le, Cursor.discard_drop,
    Cursor.peekUint16_drop, ok_bind, pure_eq_ok, throw_eq_error, error_bind, h14, true_and,
    decide_eq_true_eq, ne_eq, ite_not (be16 _ _ = _), refuse_unless]
  rfl

def lldpFrame (src pdu : Bytes) : Bytes :=
  LLDP_MULTICAST_ADDR ++ src ++ be16Bytes ETHERTYPE_LLDP ++ pdu

def frameTlvs (frame : Bytes) : List Tlv := tlvs (frame.drop 14)

/-- **The decoder**: header, fold over the TLVs, mandatory TLVs. -/
theorem lldpDecode_eq (b : Build) (stack : Buffer 32) (frame : Bytes) :
    lldpDecode b stack frame =
      if headerOk frame then
        applyTlvs b (frame.drop 6) (frameTlvs frame) { addrStrBuffer := stack } >>= finish
      else refuse { addrStrBuffer := stack } := by
  unfold lldpDecode
  simp only [decodeHeader_eq]
  split
  · rename_i hh
    have hlen : 14 ≤ frame.length := by simp [headerOk] at hh; exact hh.1
    rw [Cursor.discard_of_le (by simp [ETHER_ADDR_LEN]; omega)]
    exact decodeLoop_eq (Nat.lt_succ_self _) (by simp [ETHER_ADDR_LEN]; omega) rfl
  · rfl

theorem lldpDecode_accepted {b : Build} {stack : Buffer 32} {frame : Bytes} {d : Dec}
    (h : lldpDecode b stack frame = .ok d) : headerOk frame = true ∧
      applyTlvs b (frame.drop 6) (frameTlvs frame) { addrStrBuffer := stack } = .ok d ∧
      d.chassis.cId ≠ none := by
  rw [lldpDecode_eq] at h
  split at h
  · rename_i hheader
    obtain ⟨d1, hd, hf⟩ := bind_eq_ok.1 h
    unfold finish at hf
    split at hf
    · cases hf
    · rename_i hmand
      cases hf
      exact ⟨hheader, hd, fun hnone => hmand (.inl hnone)⟩
  · cases h

end Lldpd.Lldp
