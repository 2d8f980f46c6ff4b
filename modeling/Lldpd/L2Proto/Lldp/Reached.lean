import Lldpd.Core.Reached
import Lldpd.L2Proto.Lldp.Refine

/-!
# Which TLVs of a frame the decoder reaches

`lldp_decode` stops at the first TLV it does not take, so what it does with a
TLV matters only when it took all those before. `Tlv.Taken` says on the bytes
of a TLV when its branch succeeds (`applyTlv_ok_iff`). Of the decoder's state
only one byte has a say: the first byte of `addr_str_buffer`, where an empty
address string leaves the family of an earlier TLV (`staleFamily`).

`EveryTlv` is "every TLV the decoder reaches", on the bytes of the frame, and
`everyTlv_iff` connects it to the states the decoder goes through.
-/
namespace Lldpd.Lldp
open Core

namespace Tlv

def addrStrLength (t : Tlv) : Nat := (t.u8 0).toNat

/-- The family byte the management address branch looks at: an address
string of length 0 leaves the one that was in the buffer. -/
def familyByte (stale : UInt8) (t : Tlv) : UInt8 := if t.u8 0 = 0 then stale else t.u8 1

/-- The first byte of `addr_str_buffer` behind a TLV. -/
def staleFamily (stale : UInt8) (t : Tlv) : UInt8 :=
  if t.type = LLDP_TLV_MGMT_ADDR then t.familyByte stale else stale

def TakenDot1 (t : Tlv) : Prop :=
  match (t.u8 3).toNat with
  | LLDP_TLV_DOT1_VLANNAME => 7 ≤ t.size ∧ 7 + (t.u8 6).toNat ≤ t.size
  | LLDP_TLV_DOT1_PVID => 6 ≤ t.size
  | LLDP_TLV_DOT1_PPVID => 7 ≤ t.size
  | LLDP_TLV_DOT1_PI => 5 ≤ t.size ∧ 5 + (t.u8 4).toNat ≤ t.size
  | _ => True

def TakenDot3 (t : Tlv) : Prop :=
  match (t.u8 3).toNat with
  | LLDP_TLV_DOT3_MAC => 9 ≤ t.size
  | LLDP_TLV_DOT3_LA => 9 ≤ t.size
  | LLDP_TLV_DOT3_MFS => 6 ≤ t.size
  | LLDP_TLV_DOT3_POWER => 7 ≤ t.size
  | _ => True

def TakenMed (t : Tlv) : Prop :=
  match (t.u8 3).toNat with
  | LLDP_TLV_MED_CAP => 7 ≤ t.size
  | LLDP_TLV_MED_POLICY => 8 ≤ t.size
  | LLDP_TLV_MED_LOCATION => 5 ≤ t.size
  | LLDP_TLV_MED_MDI => 7 ≤ t.size
  | _ => True

def TakenOrg (b : Build) (t : Tlv) : Prop :=
  4 ≤ t.size ∧
    (t.bytes 0 3 = LLDP_TLV_ORG_DOT1 → b.dot1 → t.TakenDot1) ∧
    (t.bytes 0 3 = LLDP_TLV_ORG_DOT3 → b.dot3 → t.TakenDot3) ∧
    (t.bytes 0 3 = LLDP_TLV_ORG_MED → b.lldpmed → t.TakenMed)

def Taken (b : Build) (stale : UInt8) (t : Tlv) : Prop :=
  match t.type with
  | LLDP_TLV_END => t.size = 0
  | LLDP_TLV_CHASSIS_ID | LLDP_TLV_PORT_ID => 2 ≤ t.size ∧ t.u8 0 ≠ 0 ∧ (t.u8 0).toNat ≤ 7
  | LLDP_TLV_TTL => 2 ≤ t.size
  | LLDP_TLV_PORT_DESCR | LLDP_TLV_SYSTEM_NAME | LLDP_TLV_SYSTEM_DESCR => True
  | LLDP_TLV_SYSTEM_CAP => 4 ≤ t.size
  | LLDP_TLV_MGMT_ADDR =>
    t.addrStrLength + 6 ≤ t.size ∧ t.addrStrLength ≤ 32 ∧
      (lldpdAfFromLldpProto (t.familyByte stale) ≠ none →
        1 ≤ t.addrStrLength ∧ t.addrStrLength ≤ 17)
  | LLDP_TLV_ORG => t.TakenOrg b
  | _ => False

instance (t : Tlv) : Decidable t.TakenDot1 := by unfold TakenDot1; split <;> infer_instance
instance (t : Tlv) : Decidable t.TakenDot3 := by unfold TakenDot3; split <;> infer_instance
instance (t : Tlv) : Decidable t.TakenMed := by unfold TakenMed; split <;> infer_instance
instance (b : Build) (t : Tlv) : Decidable (t.TakenOrg b) := by unfold TakenOrg; infer_instance
instance (b : Build) (stale : UInt8) (t : Tlv) : Decidable (t.Taken b stale) := by
  unfold Taken; split <;> infer_instance

end Tlv

/-! ## `Taken` is what the decoder does -/

section Taken
variable {b : Build} {cos : Bytes} {d d' : Dec} {t : Tlv}

abbrev Ends (r : Run Dec Dec) : Prop := ∃ d, r = .ok d

theorem ends_ok : Ends (.ok d) := ⟨d, rfl⟩

theorem not_ends_refuse : ¬ Ends (refuse d) := by rintro ⟨_, h⟩; cases h

theorem not_ends_fault {f : Fault} : ¬ Ends (.error (.fault f)) := by rintro ⟨_, h⟩; cases h

/-- A branch that is one test. -/
theorem ends_ite_refuse {c : Prop} [Decidable c] {r : Run Dec Dec} :
    Ends (if c then refuse d else r) ↔ ¬ c ∧ Ends r := by
  split <;> simp [*, not_ends_refuse]

theorem ends_ite_fault {c : Prop} [Decidable c] {f : Fault} {r : Run Dec Dec} :
    Ends (if c then .error (.fault f) else r) ↔ ¬ c ∧ Ends r := by
  split <;> simp [*, not_ends_fault]

theorem ends_ite_ok {c : Prop} [Decidable c] : Ends (if c then .ok d else .ok d') := by
  split <;> exact ends_ok

theorem applyDot1_ends : Ends (applyDot1 d t) ↔ t.TakenDot1 := by
  have hr := t.reach_length
  unfold applyDot1 applyPi Tlv.TakenDot1
  split <;> simp only [ends_ite_refuse, ends_ite_fault, ends_ok, and_true, *] <;> omega

theorem applyDot3_ends : Ends (applyDot3 d t) ↔ t.TakenDot3 := by
  unfold applyDot3 applyPower Tlv.TakenDot3
  split <;> simp only [ends_ite_refuse, ends_ite_ok, ends_ok, and_true, *] <;> omega

theorem applyMed_ends : Ends (applyMed d t) ↔ t.TakenMed := by
  unfold applyMed applyMedPolicy applyMedLocation Tlv.TakenMed
  split <;> simp only [ends_ite_refuse, ends_ite_ok, ends_ok, and_true, *] <;> omega

theorem applyOrg_ends : Ends (applyOrg b d t) ↔ t.TakenOrg b := by
  have h13 : LLDP_TLV_ORG_DOT1 ≠ LLDP_TLV_ORG_DOT3 := by decide
  have h1m : LLDP_TLV_ORG_DOT1 ≠ LLDP_TLV_ORG_MED := by decide
  have h3m : LLDP_TLV_ORG_DOT3 ≠ LLDP_TLV_ORG_MED := by decide
  unfold applyOrg
  rw [ends_ite_refuse, Nat.not_lt]
  refine and_congr_right fun _ => ?_
  by_cases h1 : t.bytes 0 3 = LLDP_TLV_ORG_DOT1
  · cases b.dot1 <;> simp [h1, h13, h1m, ends_ok, applyDot1_ends]
  by_cases h3 : t.bytes 0 3 = LLDP_TLV_ORG_DOT3
  · cases b.dot3 <;> simp [h3, h13.symm, h3m, ends_ok, applyDot3_ends]
  by_cases hm : t.bytes 0 3 = LLDP_TLV_ORG_MED
  · cases b.lldpmed <;> simp [hm, h1m.symm, h3m.symm, ends_ok, applyMed_ends]
  · simp [h1, h3, hm, ends_ok]

/-- `addr_length`, the length byte minus one on 8 bits. -/
theorem addrLength_eq : (t.u8 0 - 1).toNat = if t.u8 0 = 0 then 255 else t.addrStrLength - 1 := by
  split
  · rename_i h; rw [h]; rfl
  · rename_i h
    have h0 : (t.u8 0).toNat ≠ 0 := fun e => h (UInt8.toNat_inj.mp e)
    have := (t.u8 0).toNat_lt
    rw [UInt8.toNat_sub, Tlv.addrStrLength]; simp; omega

/-- What the copy leaves in front of the buffer. -/
theorem memcpy_familyByte {buffer : Buffer 32}
    (h : d.addrStrBuffer.memcpy (t.bytes 1 t.addrStrLength) = some buffer)
    (hlen : t.addrStrLength + 1 ≤ t.reach.length) :
    buffer.get 0 = t.familyByte (d.addrStrBuffer.get 0) := by
  obtain ⟨-, hb⟩ := Buffer.memcpy_eq_some h
  have hbl := Tlv.length_bytes hlen
  unfold Buffer.get Tlv.familyByte
  rw [hb]
  split
  · rename_i h0
    have : t.addrStrLength = 0 := by rw [Tlv.addrStrLength, h0]; rfl
    simp [this, Tlv.bytes]
  · rename_i h0
    have hn : t.addrStrLength ≠ 0 := fun e => h0 (UInt8.toNat_inj.mp e)
    simp only [List.getD_eq_getElem?_getD, Tlv.u8]
    rw [List.getElem?_append_left (by omega), Tlv.bytes, List.getElem?_take_of_lt (by omega),
      List.getElem?_drop]

/-- The ways through the management address branch. `d₁` is the state behind
the copy into the buffer, whose first byte is the family the branch sees. -/
inductive MgmtWay (d : Dec) (t : Tlv) : Run Dec Dec → Prop where
  | short : t.size < 1 ∨ t.size < t.addrStrLength → MgmtWay d t (refuse d)
  | oobAddr : 1 ≤ t.size → t.addrStrLength ≤ t.size → t.reach.length < t.addrStrLength + 1 →
      MgmtWay d t (.error (.fault .oob))
  | overflow : 1 ≤ t.size → t.addrStrLength ≤ t.size → t.addrStrLength + 1 ≤ t.reach.length →
      32 < t.addrStrLength → MgmtWay d t (.error (.fault .overflow))
  | noIface (d₁ : Dec) : 1 ≤ t.size → t.addrStrLength ≤ t.size →
      t.addrStrLength + 1 ≤ t.reach.length → t.addrStrLength ≤ 32 → t.size < 5 →
      d₁.chassis = d.chassis → MgmtWay d t (refuse d₁)
  | oobIface : 5 ≤ t.size → t.addrStrLength ≤ t.size → t.addrStrLength + 1 ≤ t.reach.length →
      t.addrStrLength ≤ 32 → t.reach.length < t.addrStrLength + 6 →
      MgmtWay d t (.error (.fault .oob))
  | otherFamily (d₁ : Dec) : 5 ≤ t.size → t.addrStrLength ≤ t.size →
      t.addrStrLength + 6 ≤ t.reach.length → t.addrStrLength ≤ 32 →
      lldpdAfFromLldpProto (t.familyByte (d.addrStrBuffer.get 0)) = none →
      d₁.chassis = d.chassis → d₁.addrStrBuffer.get 0 = t.familyByte (d.addrStrBuffer.get 0) →
      MgmtWay d t (if t.size < t.addrStrLength + 6 then refuse d₁ else .ok d₁)
  | assertion (af : Af) : 5 ≤ t.size → t.addrStrLength ≤ t.size →
      t.addrStrLength + 6 ≤ t.reach.length → t.addrStrLength ≤ 32 →
      lldpdAfFromLldpProto (t.familyByte (d.addrStrBuffer.get 0)) = some af →
      t.addrStrLength = 0 ∨ 17 < t.addrStrLength → MgmtWay d t (.error (.fault .assertion))
  | stored (d₁ : Dec) (mgmt : Mgmt) : 5 ≤ t.size → t.addrStrLength ≤ t.size →
      t.addrStrLength + 6 ≤ t.reach.length → 1 ≤ t.addrStrLength → t.addrStrLength ≤ 17 →
      lldpdAfFromLldpProto (t.u8 1) = some mgmt.mFamily →
      mgmt.mAddr = t.bytes 2 (t.addrStrLength - 1) →
      d₁.chassis.cMgmt = d.chassis.cMgmt ++ [mgmt] →
      d₁.addrStrBuffer.get 0 = t.familyByte (d.addrStrBuffer.get 0) →
      MgmtWay d t (if t.size < t.addrStrLength + 6 then refuse d₁ else .ok d₁)

theorem applyMgmtAddr_way (d : Dec) (t : Tlv) : MgmtWay d t (applyMgmtAddr d t) := by
  change MgmtWay d t (if t.size < 1 ∨ t.size < t.addrStrLength then _ else _)
  split
  · exact .short ‹_›
  rename_i hs
  rw [not_or, Nat.not_lt, Nat.not_lt] at hs
  change MgmtWay d t (if t.reach.length < t.addrStrLength + 1 then _ else _)
  split
  · exact .oobAddr hs.1 hs.2 ‹_›
  rename_i hr
  rw [Nat.not_lt] at hr
  have hbl := Tlv.length_bytes hr
  split
  · rename_i hm
    have hlong := Buffer.memcpy_eq_none.1 hm
    exact .overflow hs.1 hs.2 hr (hbl ▸ hlong)
  rename_i buffer hm
  change d.addrStrBuffer.memcpy (t.bytes 1 t.addrStrLength) = some buffer at hm
  have hfam := memcpy_familyByte hm hr
  obtain ⟨hle, hbuf⟩ := Buffer.memcpy_eq_some hm
  rw [hbl] at hle hbuf
  dsimp only
  split
  · exact .noIface _ hs.1 hs.2 hr hle ‹_› rfl
  rename_i h5
  rw [Nat.not_lt] at h5
  split
  · exact .oobIface h5 hs.2 hr hle ‹_›
  rename_i hr6
  rw [Nat.not_lt] at hr6
  split
  · rename_i haf
    rw [hfam] at haf
    exact .otherFamily _ h5 hs.2 hr6 hle haf rfl hfam
  rename_i af haf
  rw [hfam] at haf
  split
  · rename_i e halloc
    have hlen := lldpdAllocMgmt_error halloc
    rw [addrLength_eq, LLDPD_MGMT_MAXADDRSIZE] at hlen
    refine .assertion af h5 hs.2 hr6 hle haf ?_
    split at hlen
    · rename_i h0; left; rw [Tlv.addrStrLength, h0]; rfl
    · omega
  · rename_i mgmt halloc
    obtain ⟨hlen, hmf, hma, -⟩ := lldpdAllocMgmt_ok halloc
    rw [addrLength_eq, LLDPD_MGMT_MAXADDRSIZE] at hlen
    rw [addrLength_eq] at hma
    split at hlen
    · omega
    rename_i h0
    have hn : t.addrStrLength ≠ 0 := fun e => h0 (UInt8.toNat_inj.mp e)
    rw [if_neg h0, Buffer.slice, List.take_take, Nat.min_self, hbuf, List.drop_append_of_le_length
      (by omega), List.take_append_of_le_length (by simp; omega)] at hma
    rw [Tlv.familyByte, if_neg h0, ← hmf] at haf
    refine .stored _ mgmt h5 hs.2 hr6 (by omega) (by omega) haf ?_ rfl hfam
    rw [hma, Tlv.bytes, Tlv.bytes, List.drop_take, List.drop_drop, List.take_take, Nat.min_self]

theorem applyMgmtAddr_ends : Ends (applyMgmtAddr d t) ↔
    t.addrStrLength + 6 ≤ t.size ∧ t.addrStrLength ≤ 32 ∧
      (lldpdAfFromLldpProto (t.familyByte (d.addrStrBuffer.get 0)) ≠ none →
        1 ≤ t.addrStrLength ∧ t.addrStrLength ≤ 17) := by
  have hr := t.reach_length
  have hw := applyMgmtAddr_way d t
  generalize applyMgmtAddr d t = r at hw ⊢
  cases hw with
  | short => simp only [not_ends_refuse, false_iff]; omega
  | oobAddr => simp only [not_ends_fault, false_iff]; omega
  | overflow => simp only [not_ends_fault, false_iff]; omega
  | noIface => simp only [not_ends_refuse, false_iff]; omega
  | oobIface => simp only [not_ends_fault, false_iff]; omega
  | otherFamily _ _ _ _ hle haf =>
    simp [ends_ite_refuse, ends_ok, and_true, Nat.not_lt, haf, ne_eq, false_implies, hle]
  | assertion af _ _ _ _ haf hn =>
    simp only [not_ends_fault, false_iff, haf, ne_eq, reduceCtorEq, not_false_eq_true,
      forall_const]
    omega
  | stored _ _ _ _ _ h1 h17 =>
    have h32 : t.addrStrLength ≤ 32 := by omega
    simp [ends_ite_refuse, ends_ok, Nat.not_lt, h1, h17, h32, and_self]

/-- **The TLVs the decoder takes** depend on the TLV and on one byte of the
state. -/
theorem applyTlv_ends : Ends (applyTlv b cos d t) ↔ t.Taken b (d.addrStrBuffer.get 0) := by
  have hid : ¬ (t.size < 2 ∨ t.u8 0 = 0 ∨ 7 < (t.u8 0).toNat) ↔
      2 ≤ t.size ∧ t.u8 0 ≠ 0 ∧ (t.u8 0).toNat ≤ 7 := by
    simp only [not_or, Nat.not_lt, ne_eq]
  unfold applyTlv Tlv.Taken
  generalize t.type = type
  split
  · split <;> simp [*, ends_ok, not_ends_refuse]
  · rw [ends_ite_refuse, hid]; simp [ends_ok]
  · rw [ends_ite_refuse, hid]; simp [ends_ok]
  · simp only [ends_ite_refuse, ends_ok, Nat.not_lt, and_true]
  iterate 3 simp [ends_ite_ok]
  · simp [ends_ite_refuse, ends_ok]
  · exact applyMgmtAddr_ends
  · exact applyOrg_ends
  · simp only [not_ends_refuse, *]

theorem applyMgmtAddr_stale (h : applyMgmtAddr d t = .ok d') :
    d'.addrStrBuffer.get 0 = t.familyByte (d.addrStrBuffer.get 0) := by
  have hw := applyMgmtAddr_way d t
  rw [h] at hw
  generalize hr : (Except.ok d' : Run Dec Dec) = r at hw
  cases hw with
  | otherFamily _ _ _ _ _ _ _ hb => split at hr <;> cases hr; exact hb
  | stored _ _ _ _ _ _ _ _ _ _ hb => split at hr <;> cases hr; exact hb
  | _ => cases hr

theorem applyTlv_stale (h : applyTlv b cos d t = .ok d') :
    d'.addrStrBuffer.get 0 = t.staleFamily (d.addrStrBuffer.get 0) := by
  unfold applyTlv at h
  unfold Tlv.staleFamily
  split at h
  iterate 8
    · rename_i hty
      rw [if_neg (by rw [hty]; decide)]
      split at h <;> cases h <;> rfl
  · rename_i hty
    rw [if_pos hty, applyMgmtAddr_stale h]
  · rename_i hty
    rw [if_neg (by rw [hty]; decide), (applyOrg_keeps h).addrStrBuffer]
  · cases h

end Taken

/-! ## The reached TLVs -/

/-- `P` holds for every TLV the decoder reaches, with the family byte that is
in the buffer when it does. -/
def EveryTlv (b : Build) (P : UInt8 → Tlv → Prop) : UInt8 → List Tlv → Prop :=
  AllReached (fun stale t => t.Taken b stale) (fun stale t => t.staleFamily stale) P

theorem everyTlv_iff {b : Build} {cos : Bytes} {d : Dec} {ts : List Tlv} {P : Dec → Tlv → Prop}
    {Q : UInt8 → Tlv → Prop} (h : ∀ d t, P d t ↔ Q (d.addrStrBuffer.get 0) t) :
    (∀ p ∈ reached (applyTlv b cos) ts d, P p.1 p.2) ↔
      EveryTlv b Q (d.addrStrBuffer.get 0) ts :=
  forall_reached_iff (fun d : Dec => d.addrStrBuffer.get 0) (fun _ _ => applyTlv_ends)
    (fun _ _ _ => applyTlv_stale) h

end Lldpd.Lldp
