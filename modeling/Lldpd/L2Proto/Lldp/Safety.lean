import Lldpd.L2Proto.Lldp.Reached

/-!
# Memory safety of `lldp_decode`

Two branches of the decoder check less than they read. The management
address branch checks `addr_str_length` bytes but reads that many behind the
length byte, into a buffer of 32, and then five more for the interface; the
protocol identity branch forgets the OUI and the subtype. Everything else
stays inside the TLV.

* `lldpDecode_inside_iff`: exactly which frames keep every read inside the
  frame and every copy inside `addr_str_buffer`;
* `lldpDecode_mgmt_iff`: exactly which frames are decoded without a failed
  `assert`, storing only addresses that come from their own TLV.
-/
namespace Lldpd.Lldp
open Core

/-! ## Reads and copies -/

/-- The TLV is one on which the decoder reads inside the frame and copies
inside the buffer. -/
def Tlv.StaysInside (b : Build) (t : Tlv) : Prop :=
  (t.type = LLDP_TLV_MGMT_ADDR → 1 ≤ t.size → t.addrStrLength ≤ t.size →
    t.addrStrLength ≤ 32 ∧ t.addrStrLength + 1 ≤ t.reach.length ∧
      (5 ≤ t.size → t.addrStrLength + 6 ≤ t.reach.length)) ∧
  (t.type = LLDP_TLV_ORG → b.dot1 → t.bytes 0 3 = LLDP_TLV_ORG_DOT1 →
    (t.u8 3).toNat = LLDP_TLV_DOT1_PI → 5 ≤ t.size → 1 + (t.u8 4).toNat ≤ t.size →
    5 + (t.u8 4).toNat ≤ t.reach.length)

/-- A read outside the frame or a copy outside the buffer. -/
def MemoryFault {α : Type} (r : Run Dec α) : Prop :=
  r = .error (.fault .oob) ∨ r = .error (.fault .overflow)

section Faults
variable {b : Build} {cos : Bytes} {d : Dec} {t : Tlv}

/-- No undefined behaviour of any kind. -/
def NoFault (r : Run Dec Dec) : Prop := ∀ f, r ≠ .error (.fault f)

theorem noFault_ok : NoFault (.ok d) := nofun

theorem noFault_refuse : NoFault (refuse d) := nofun

theorem noFault_ite {c : Prop} [Decidable c] {r s : Run Dec Dec} (hr : NoFault r)
    (hs : NoFault s) : NoFault (if c then r else s) := by
  split <;> assumption

theorem NoFault.not_memoryFault {r : Run Dec Dec} (h : NoFault r) : ¬ MemoryFault r := by
  rintro (hf | hf)
  · exact h _ hf
  · exact h _ hf

/-- The two usual shapes of a branch. -/
theorem noFault_test {c : Prop} [Decidable c] {d1 d2 : Dec} :
    NoFault (if c then refuse d1 else .ok d2) := noFault_ite noFault_refuse noFault_ok

theorem noFault_choice {c : Prop} [Decidable c] {d1 d2 : Dec} :
    NoFault (if c then .ok d1 else .ok d2) := noFault_ite noFault_ok noFault_ok

theorem applyMgmtAddr_memoryFault : MemoryFault (applyMgmtAddr d t) ↔
    ¬ (1 ≤ t.size → t.addrStrLength ≤ t.size →
      t.addrStrLength ≤ 32 ∧ t.addrStrLength + 1 ≤ t.reach.length ∧
        (5 ≤ t.size → t.addrStrLength + 6 ≤ t.reach.length)) := by
  have hw := applyMgmtAddr_way d t
  generalize applyMgmtAddr d t = r at hw ⊢
  cases hw with
  | short => simp only [noFault_refuse.not_memoryFault, false_iff]; omega
  | oobAddr => simp only [MemoryFault, true_or, true_iff]; omega
  | overflow => simp only [MemoryFault, or_true, true_iff]; omega
  | noIface => simp only [noFault_refuse.not_memoryFault, false_iff]; omega
  | oobIface => simp only [MemoryFault, true_or, true_iff]; omega
  | assertion => simp [MemoryFault]; omega
  | otherFamily => simp only [noFault_test.not_memoryFault, false_iff]; omega
  | stored => simp only [noFault_test.not_memoryFault, false_iff]; omega

theorem applyDot1_memoryFault : MemoryFault (applyDot1 d t) ↔
    ¬ ((t.u8 3).toNat = LLDP_TLV_DOT1_PI → 5 ≤ t.size → 1 + (t.u8 4).toNat ≤ t.size →
      5 + (t.u8 4).toNat ≤ t.reach.length) := by
  unfold applyDot1 applyPi LLDP_TLV_DOT1_PI
  generalize (t.u8 3).toNat = subtype
  split
  · simp only [noFault_test.not_memoryFault, false_iff]; omega
  · simp only [noFault_test.not_memoryFault, false_iff]; omega
  · simp only [noFault_test.not_memoryFault, false_iff]; omega
  · simp only [forall_const]
    split
    · simp only [noFault_refuse.not_memoryFault, false_iff]; omega
    split
    · simp only [MemoryFault, true_or, true_iff]; omega
    · simp only [noFault_test.not_memoryFault, false_iff]; omega
  · simp only [noFault_ok.not_memoryFault, false_iff, Classical.not_not]
    exact fun h => absurd h ‹_›

/-- The other organisations stay inside. -/
theorem applyDot3_noFault : NoFault (applyDot3 d t) := by
  unfold applyDot3 applyPower
  split
  · exact noFault_test
  · exact noFault_test
  · exact noFault_test
  · exact noFault_ite noFault_refuse noFault_choice
  · exact noFault_ok

theorem applyMed_noFault : NoFault (applyMed d t) := by
  unfold applyMed applyMedPolicy applyMedLocation
  split
  · exact noFault_test
  · exact noFault_ite noFault_refuse noFault_choice
  · exact noFault_ite noFault_refuse noFault_choice
  · exact noFault_test
  iterate 8 exact noFault_ok

theorem applyOrg_memoryFault : MemoryFault (applyOrg b d t) ↔
    ¬ (b.dot1 → t.bytes 0 3 = LLDP_TLV_ORG_DOT1 → (t.u8 3).toNat = LLDP_TLV_DOT1_PI →
      5 ≤ t.size → 1 + (t.u8 4).toNat ≤ t.size → 5 + (t.u8 4).toNat ≤ t.reach.length) := by
  have h31 : LLDP_TLV_ORG_DOT3 ≠ LLDP_TLV_ORG_DOT1 := by decide
  have hm1 : LLDP_TLV_ORG_MED ≠ LLDP_TLV_ORG_DOT1 := by decide
  have hm3 : LLDP_TLV_ORG_MED ≠ LLDP_TLV_ORG_DOT3 := by decide
  unfold applyOrg
  by_cases h4 : t.size < 4
  · simp only [h4, if_true, noFault_refuse.not_memoryFault, false_iff]; omega
  simp only [h4]
  by_cases h1 : t.bytes 0 3 = LLDP_TLV_ORG_DOT1
  · cases b.dot1 <;> simp [h1, noFault_ok.not_memoryFault, applyDot1_memoryFault]
  by_cases h3 : t.bytes 0 3 = LLDP_TLV_ORG_DOT3
  · cases b.dot3 <;> simp [h3, h31, noFault_ok.not_memoryFault, applyDot3_noFault.not_memoryFault]
  by_cases hm : t.bytes 0 3 = LLDP_TLV_ORG_MED
  · cases b.lldpmed <;>
      simp [hm, hm1, hm3, noFault_ok.not_memoryFault, applyMed_noFault.not_memoryFault]
  · simp [h1, h3, hm, noFault_ok.not_memoryFault]

/-- Only management addresses and organisationally specific TLVs can fault. -/
theorem applyTlv_noFault (hm : t.type ≠ LLDP_TLV_MGMT_ADDR) (ho : t.type ≠ LLDP_TLV_ORG) :
    NoFault (applyTlv b cos d t) := by
  unfold applyTlv
  split
  · exact noFault_ite noFault_ok noFault_refuse
  iterate 3 exact noFault_test
  iterate 3 exact noFault_choice
  · exact noFault_test
  · exact absurd ‹_› hm
  · exact absurd ‹_› ho
  · exact noFault_refuse

theorem applyTlv_mgmtAddr (h : t.type = LLDP_TLV_MGMT_ADDR) :
    applyTlv b cos d t = applyMgmtAddr d t := by
  simp [applyTlv, h]

theorem applyTlv_org (h : t.type = LLDP_TLV_ORG) : applyTlv b cos d t = applyOrg b d t := by
  simp [applyTlv, h]

theorem applyTlv_memoryFault : ¬ MemoryFault (applyTlv b cos d t) ↔ t.StaysInside b := by
  have hmo : LLDP_TLV_MGMT_ADDR ≠ LLDP_TLV_ORG := by decide
  unfold Tlv.StaysInside
  by_cases hm : t.type = LLDP_TLV_MGMT_ADDR
  · simp [applyTlv_mgmtAddr hm, applyMgmtAddr_memoryFault, hm, hmo, forall_const, and_true]
  by_cases ho : t.type = LLDP_TLV_ORG
  · simp [applyTlv_org ho, applyOrg_memoryFault, ho, hmo.symm, forall_const, true_and]
  · simp [(applyTlv_noFault hm ho).not_memoryFault, hm, ho, false_implies, and_self]

/-- A fault of an organisationally specific TLV is an over-read. -/
theorem applyOrg_fault {f : Fault} (h : applyOrg b d t = .error (.fault f)) : f = .oob := by
  unfold applyOrg at h
  split at h
  · cases h
  split at h
  · split at h
    · unfold applyDot1 applyPi at h
      split at h
      · exact absurd h (noFault_test f)
      · exact absurd h (noFault_test f)
      · exact absurd h (noFault_test f)
      · split at h
        · cases h
        split at h
        · cases h; rfl
        · exact absurd h (noFault_test f)
      · cases h
    · cases h
  split at h
  · split at h
    · exact absurd h (applyDot3_noFault f)
    · cases h
  split at h
  · split at h
    · exact absurd h (applyMed_noFault f)
    · cases h
  · cases h

/-- No branch runs for ever. -/
theorem applyTlv_ne_diverge : applyTlv b cos d t ≠ .error (.fault .diverge) := by
  by_cases hm : t.type = LLDP_TLV_MGMT_ADDR
  · rw [applyTlv_mgmtAddr hm]
    intro h
    have hw := applyMgmtAddr_way d t
    rw [h] at hw
    generalize hr : (Except.error (.fault .diverge) : Run Dec Dec) = r at hw
    cases hw with
    | otherFamily => exact noFault_test _ hr.symm
    | stored => exact noFault_test _ hr.symm
    | _ => cases hr
  by_cases ho : t.type = LLDP_TLV_ORG
  · rw [applyTlv_org ho]
    exact fun h => by cases applyOrg_fault h
  · exact applyTlv_noFault hm ho _

end Faults

/-- The first TLVs, and the end of the decoder. -/
theorem lldpDecode_fault_iff {b : Build} {stack : Buffer 32} {frame : Bytes} {f : Fault} :
    lldpDecode b stack frame = .error (.fault f) ↔ headerOk frame ∧
      ∃ p ∈ reached (applyTlv b (frame.drop 6)) (frameTlvs frame) { addrStrBuffer := stack },
        applyTlv b (frame.drop 6) p.1 p.2 = .error (.fault f) := by
  rw [lldpDecode_eq, ← foldlM_fault_iff, ← applyTlvs]
  cases headerOk frame
  · simp [refuse]
  · cases applyTlvs b (frame.drop 6) (frameTlvs frame) { addrStrBuffer := stack } with
    | error e => simp
    | ok d => simp [finish, refuse]; split <;> simp

/-- **Memory safety, exactly.** `lldp_decode` reads inside the frame and
copies inside `addr_str_buffer` if and only if every TLV it reaches is one
of the safe ones. -/
theorem lldpDecode_inside_iff (b : Build) (stack : Buffer 32) (frame : Bytes) :
    (lldpDecode b stack frame ≠ .error (.fault .oob) ∧
      lldpDecode b stack frame ≠ .error (.fault .overflow)) ↔
    (headerOk frame →
      EveryTlv b (fun _ t => t.StaysInside b) (stack.get 0) (frameTlvs frame)) := by
  have hreach (ts : List Tlv) :=
    @everyTlv_iff b (frame.drop 6) { addrStrBuffer := stack } ts
      (fun d t => ¬ MemoryFault (applyTlv b (frame.drop 6) d t)) (fun _ t => t.StaysInside b)
      (fun _ _ => applyTlv_memoryFault)
  rw [← hreach, ne_eq, ne_eq, lldpDecode_fault_iff, lldpDecode_fault_iff]
  simp only [MemoryFault, not_and, not_exists, not_or]
  exact ⟨fun h hh p hp => ⟨h.1 hh p hp, h.2 hh p hp⟩,
    fun h => ⟨fun hh p hp => (h hh p hp).1, fun hh p hp => (h hh p hp).2⟩⟩

def zeroStack : Buffer 32 := ⟨List.replicate 32 0, rfl⟩

/-- Three frames of one TLV each: an address string of 33 bytes, one that
ends five bytes behind the frame, and a protocol identity without its OUI. -/
theorem lldpDecode_leaves_frame :
    lldpDecode .full zeroStack
      (lldpFrame [2, 0, 0, 0, 0, 1] ([16, 39, 33, 1] ++ List.replicate 37 0)) =
        .error (.fault .overflow) ∧
    lldpDecode .full zeroStack (lldpFrame [2, 0, 0, 0, 0, 1] [16, 5, 5, 1, 192, 0, 2]) =
      .error (.fault .oob) ∧
    lldpDecode .full zeroStack
      (lldpFrame [2, 0, 0, 0, 0, 1] [254, 7, 0, 128, 194, 4, 6, 136, 142]) =
        .error (.fault .oob) := by
  decide

/-! ## Management addresses -/

def stateAfter : Run Dec Dec → Option Dec
  | .ok d => some d
  | .error (.refused d) => some d
  | .error (.fault _) => none

/-- The family byte and the address are the `addr_str_length` bytes of the
payload behind the length byte. -/
def FromPayload (t : Tlv) (m : Mgmt) : Prop :=
  ∃ family, lldpdAfFromLldpProto family = some m.mFamily ∧
    family :: m.mAddr = (t.payload.drop 1).take t.addrStrLength

/-- What the management address branch must do in state `d`: not fault, and
store nothing or an address from the TLV's own payload. -/
def MgmtSound (b : Build) (cos : Bytes) (d : Dec) (t : Tlv) : Prop :=
  t.type = LLDP_TLV_MGMT_ADDR →
    ∃ d', stateAfter (applyTlv b cos d t) = some d' ∧
      (d'.chassis.cMgmt = d.chassis.cMgmt ∨
        ∃ m, d'.chassis.cMgmt = d.chassis.cMgmt ++ [m] ∧ FromPayload t m)

def Tlv.MgmtFits (stale : UInt8) (t : Tlv) : Prop :=
  t.type = LLDP_TLV_MGMT_ADDR → 1 ≤ t.size → t.addrStrLength ≤ t.size →
    t.addrStrLength ≤ 32 ∧ t.addrStrLength + 1 ≤ t.reach.length ∧
      (5 ≤ t.size → t.addrStrLength + 6 ≤ t.reach.length ∧
        (lldpdAfFromLldpProto (t.familyByte stale) ≠ none →
          1 ≤ t.addrStrLength ∧ t.addrStrLength ≤ 17 ∧ t.addrStrLength + 1 ≤ t.size))

section Mgmt
variable {b : Build} {cos : Bytes} {d : Dec} {t : Tlv}

/-- Nothing outside the payload is stored when the string fits in it. -/
theorem fromPayload_iff {m : Mgmt} (hf : lldpdAfFromLldpProto (t.u8 1) = some m.mFamily)
    (ha : m.mAddr = t.bytes 2 (t.addrStrLength - 1)) (h1 : 1 ≤ t.addrStrLength)
    (hr : t.addrStrLength + 1 ≤ t.reach.length) :
    FromPayload t m ↔ t.addrStrLength + 1 ≤ t.size := by
  constructor
  · rintro ⟨family, -, he⟩
    have hlen := congrArg List.length he
    have hal : m.mAddr.length = t.addrStrLength - 1 := by
      rw [ha, Tlv.bytes, List.length_take, List.length_drop]; omega
    simp only [List.length_cons, List.length_take, List.length_drop] at hlen
    have : t.size = t.payload.length := rfl
    omega
  · intro hs
    refine ⟨t.u8 1, hf, ?_⟩
    have hs' : t.addrStrLength + 1 ≤ t.payload.length := hs
    have hb : (t.payload.drop 1).take t.addrStrLength = t.bytes 1 t.addrStrLength := by
      rw [Tlv.bytes, Tlv.reach, List.drop_append_of_le_length (by omega),
        List.take_append_of_le_length (by simp; omega)]
    have hlt : 1 < t.reach.length := by omega
    rw [hb, ha, Tlv.u8, Tlv.bytes, Tlv.bytes, List.drop_eq_getElem_cons hlt,
      show t.addrStrLength = (t.addrStrLength - 1) + 1 by omega, List.take_succ_cons]
    simp [hlt]

theorem stateAfter_ite {c : Prop} [Decidable c] :
    stateAfter (if c then refuse d else .ok d) = some d := by
  split <;> rfl

/-- Step lemma: one management address TLV. -/
theorem mgmtSound_iff : MgmtSound b cos d t ↔ t.MgmtFits (d.addrStrBuffer.get 0) := by
  refine imp_congr_right fun hty => ?_
  rw [applyTlv_mgmtAddr hty]
  have hw := applyMgmtAddr_way d t
  generalize applyMgmtAddr d t = r at hw ⊢
  cases hw with
  | short hs =>
    exact ⟨fun _ _ _ => by omega, fun _ => ⟨d, rfl, .inl rfl⟩⟩
  | oobAddr h1 hn hr =>
    constructor
    · rintro ⟨_, h, _⟩
      cases h
    · omega
  | overflow h1 hn hr h32 =>
    constructor
    · rintro ⟨_, h, _⟩
      cases h
    · omega
  | noIface d1 h1 hn hr h32 h5 hc =>
    exact ⟨fun _ _ _ => ⟨h32, hr, fun _ => by omega⟩, fun _ => ⟨d1, rfl, .inl (by rw [hc])⟩⟩
  | oobIface h5 hn hr h32 hr6 =>
    constructor
    · rintro ⟨_, h, _⟩
      cases h
    · omega
  | otherFamily d1 h5 hn hr6 h32 haf hc hb =>
    refine ⟨fun _ _ _ => ⟨h32, by omega, fun _ => ⟨hr6, absurd haf⟩⟩,
      fun _ => ⟨d1, stateAfter_ite, .inl (by rw [hc])⟩⟩
  | assertion af h5 hn hr6 h32 haf hlen =>
    constructor
    · rintro ⟨_, h, _⟩
      cases h
    · intro h
      have := ((h (by omega) hn).2.2 h5).2 (by rw [haf]; exact Option.some_ne_none _)
      omega
  | stored d1 m h5 hn hr6 h1 h17 hf ha hc hb =>
    have hp := fromPayload_iff hf ha h1 (by omega)
    constructor
    · rintro ⟨d', hd', hm⟩ _ _
      rw [stateAfter_ite, Option.some.injEq] at hd'
      subst hd'
      refine ⟨by omega, by omega, fun _ => ⟨hr6, fun _ => ⟨h1, h17, ?_⟩⟩⟩
      rcases hm with hm | ⟨m', hm, hfp⟩
      · rw [hc] at hm; simp at hm
      · rw [hc, List.append_cancel_left_eq, List.cons.injEq] at hm
        exact hp.1 (hm.1 ▸ hfp)
    · intro h
      have hfam : t.familyByte (d.addrStrBuffer.get 0) = t.u8 1 := by
        rw [Tlv.familyByte, if_neg]
        intro h0
        rw [Tlv.addrStrLength, h0] at h1
        exact absurd h1 (by decide)
      have hs := (((h (by omega) hn).2.2 h5).2 (by rw [hfam, hf]; exact Option.some_ne_none _)).2.2
      exact ⟨d1, stateAfter_ite, .inr ⟨m, hc, hp.2 hs⟩⟩

end Mgmt

/-- Only the management address branch asserts, and there an assertion is
unsound. -/
theorem MgmtSound.ne_assertion {b : Build} {cos : Bytes} {d : Dec} {t : Tlv}
    (h : MgmtSound b cos d t) : applyTlv b cos d t ≠ .error (.fault .assertion) := by
  intro ha
  by_cases hm : t.type = LLDP_TLV_MGMT_ADDR
  · obtain ⟨_, hs, _⟩ := h hm
    rw [ha] at hs; cases hs
  by_cases ho : t.type = LLDP_TLV_ORG
  · rw [applyTlv_org ho] at ha
    cases applyOrg_fault ha
  · exact applyTlv_noFault hm ho _ ha

/-- **Management addresses, exactly.** `lldp_decode` ends without a failed
`assert` and every management address TLV it reaches is handled without
undefined behaviour, storing at most an address from its own payload, if and
only if every such TLV fits. -/
theorem lldpDecode_mgmt_iff (b : Build) (stack : Buffer 32) (frame : Bytes) :
    (lldpDecode b stack frame ≠ .error (.fault .diverge) ∧
      lldpDecode b stack frame ≠ .error (.fault .assertion) ∧
      (headerOk frame →
        ∀ p ∈ reached (applyTlv b (frame.drop 6)) (frameTlvs frame) { addrStrBuffer := stack },
          MgmtSound b (frame.drop 6) p.1 p.2)) ↔
    (headerOk frame →
      EveryTlv b (fun stale t => t.MgmtFits stale) (stack.get 0) (frameTlvs frame)) := by
  have hreach := @everyTlv_iff b (frame.drop 6) { addrStrBuffer := stack } (frameTlvs frame)
    (MgmtSound b (frame.drop 6)) (fun stale t => t.MgmtFits stale) (fun _ _ => mgmtSound_iff)
  rw [← hreach]
  refine ⟨fun h => h.2.2, fun h => ⟨?_, ?_, h⟩⟩
  · rw [ne_eq, lldpDecode_fault_iff]
    rintro ⟨-, p, -, hp⟩
    exact applyTlv_ne_diverge hp
  · rw [ne_eq, lldpDecode_fault_iff]
    rintro ⟨hh, p, hp, ha⟩
    exact (h hh p hp).ne_assertion ha

/-- A 17-byte IPv4 address, an empty address string over a buffer that says
IPv6, and the same behind a TLV that leaves "IPv4" in the buffer: the daemon
aborts on a frame from the wire. The last frame stores an address whose last
byte is the first byte of the next TLV before it is refused. -/
theorem lldpDecode_mgmt_aborts :
    lldpDecode .full zeroStack
      (lldpFrame [2, 0, 0, 0, 0, 1] ([16, 24, 18, 1] ++ List.replicate 22 0)) =
        .error (.fault .assertion) ∧
    lldpDecode .full ⟨2 :: List.replicate 31 0, rfl⟩
      (lldpFrame [2, 0, 0, 0, 0, 1] [16, 6, 0, 2, 0, 0, 0, 1]) = .error (.fault .assertion) ∧
    lldpDecode .full zeroStack
      (lldpFrame [2, 0, 0, 0, 0, 1]
        [16, 11, 5, 1, 192, 0, 2, 1, 2, 0, 0, 0, 1, 16, 6, 0, 2, 0, 0, 0, 1]) =
        .error (.fault .assertion) ∧
    (stateAfter (lldpDecode .full zeroStack
      (lldpFrame [2, 0, 0, 0, 0, 1] [16, 5, 5, 1, 192, 0, 2, 99, 2, 0, 0, 0, 1]))).map
        (fun d => d.chassis.cMgmt.map fun m => m.mAddr) = some [[192, 0, 2, 99]] := by
  decide

end Lldpd.Lldp
