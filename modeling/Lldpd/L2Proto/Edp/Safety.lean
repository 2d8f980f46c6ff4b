import Lldpd.L2Proto.Edp.RoundTrip

/-!
# How far `edp_decode` reads

Three lengths meet in an EDP frame: what was received, what `edp_len` says and
what each TLV says. `edp_decode` compares each with the one around it before it
reads, so it stays inside the frame and inside each TLV
(`edpDecode_inside`), and the checksum is read up to `edp_len`
(`frameChecksumFrom_eq`).

The loop over the TLVs is cut at their headers (`Headed`): a TLV whose payload
fits is read without a fault whatever is in it (`decodeTlv_safe`), and the fuel
that the length of the frame gives is enough (`decodeLoop_fuel`).
-/
namespace Lldpd.Edp
open Core

/-! ## The checksum -/

/-- The walk of `frame_checksum` through the memory behind `cp`. `len` is what is
left of it, and the last test, `len & 1`, is made on -1 or -2.
mirrors frame.c:27-60 -/
def checksumWalk {σ : Type} (cisco : Bool) : Nat → Cursor → UInt32 → Run σ UInt32
  | 0, _, sum => .ok sum
  | 1, cp, sum => do
    let (v, _) ← cp.peekUint8
    return sum + oddByte cisco v
  | len + 2, cp, sum => do
    let (x, cp) ← cp.peekUint8
    let (y, cp) ← cp.peekUint8
    checksumWalk cisco len cp (sum + (x.toUInt32 <<< 8) + y.toUInt32)

/-- `frame_checksum` where its bytes are.
mirrors frame.c:20-66 -/
def frameChecksumFrom {σ : Type} (cp : Cursor) (len : Nat) (cisco : Bool) : Run σ UInt16 := do
  let sum ← checksumWalk cisco len cp 0
  return complementSum sum

section Checksum
variable {σ : Type} {cp : Bytes} {len : Nat}

theorem checksumWalk_eq (cisco : Bool) (len : Nat) (cp : Bytes) (sum : UInt32) :
    (checksumWalk cisco len ⟨cp, 0⟩ sum : Run σ UInt32) =
      if len ≤ cp.length then .ok (sum + checksumWords cisco (cp.take len))
      else .error (.fault .oob) := by
  induction len using Nat.twoStepInduction generalizing cp sum with
  | zero => simp [checksumWalk, checksumWords]
  | one =>
    cases cp with
    | nil => rfl
    | cons v r =>
      rfl
  | more len ih _ =>
    cases cp with
    | nil => rfl
    | cons x cp =>
      cases cp with
      | nil =>
        rfl
      | cons y r =>
        show checksumWalk cisco len ⟨r, 0⟩ _ = _
        rw [ih]
        have hlen : len + 2 ≤ (x :: y :: r).length ↔ len ≤ r.length := by simp
        simp only [hlen]
        by_cases hle : len ≤ r.length
        · simp only [List.take_succ_cons, checksumWords]
          congr 1
          simp [UInt32.add_assoc]
        · rw [if_neg hle, if_neg hle]

/-- The walk reads `len` bytes, odd or even, and no others. -/
theorem frameChecksumFrom_eq (cisco : Bool) (cp : Bytes) (len : Nat) :
    (frameChecksumFrom ⟨cp, 0⟩ len cisco : Run σ UInt16) =
      (Cursor.mk cp 0).peekBytes len >>= fun x => .ok (frameChecksum x.1 cisco) := by
  unfold frameChecksumFrom
  rw [checksumWalk_eq]
  by_cases hle : len ≤ cp.length
  · rw [if_pos hle, Cursor.peekBytes_of_le hle]
    simp only [UInt32.zero_add]
    rfl
  · rw [if_neg hle, Cursor.peekBytes_of_lt (Nat.lt_of_not_le hle)]
    rfl

end Checksum

/-! ## A TLV -/

def tlvFits (b : Build) (tlvType tlvLen : Nat) : Bool :=
  match tlvType with
  | EDP_TLV_INFO => 32 ≤ tlvLen
  | EDP_TLV_NULL => tlvLen = 0
  | EDP_TLV_VLAN => !b.dot1 || 12 ≤ tlvLen
  | _ => true

/-- A frame that is known to carry VLANs has some. -/
def Dec.VlansKept (b : Build) (d : Dec) : Prop :=
  b.dot1 = true → d.gotvlans = true → d.port.pVlans ≠ []

structure Kept (b : Build) (tlvType : Nat) (d d' : Dec) : Prop where
  cId : d'.chassis.cId = d.chassis.cId
  pVlans : d.VlansKept b → d'.VlansKept b
  gotend : tlvType ≠ EDP_TLV_NULL → d'.gotend = d.gotend

section Tlv
variable {b : Build} {payload : Bytes}

/-- `INFO`: sixteen bytes of the value are read. -/
theorem decodeInfo_payload (hlen : 32 ≤ payload.length) (d : Dec) :
    ∃ d', Kept b EDP_TLV_INFO d d' ∧
      ∀ more, decodeInfo payload.length ⟨payload ++ more, 0⟩ d = .ok d' := by
  have hslot := Cursor.peekUint16_append (σ := Dec) (show 2 ≤ payload.length by omega)
  have hport := Cursor.peekUint16_append (σ := Dec) (show 2 ≤ (payload.drop 2).length by simp; omega)
  have hskip (more : Bytes) : ((Cursor.mk ((payload.drop 2).drop 2 ++ more) 0).discard 2).discard 6 =
      ⟨(((payload.drop 2).drop 2).drop 2).drop 6 ++ more, 0⟩ := by
    rw [Cursor.discard_append (by simp; omega), Cursor.discard_append (by simp; omega)]
  have hversion := Cursor.peekBytes_append_of_le (σ := Dec)
    (show 4 ≤ ((((payload.drop 2).drop 2).drop 2).drop 6).length by simp; omega)
  unfold decodeInfo
  simp only [if_neg (Nat.not_lt.2 hlen), hslot, hport, hskip, hversion, ok_bind]
  refine ⟨_, ?_, fun more => rfl⟩
  exact ⟨rfl, fun h => h, fun _ => rfl⟩

/-- `VLAN`: twelve bytes, and the name up to the end of the value. -/
theorem decodeVlan_payload (hb : b.dot1 = true) (hlen : 12 ≤ payload.length) (d : Dec) :
    ∃ d', Kept b EDP_TLV_VLAN d d' ∧
      ∀ more, decodeVlan b payload.length ⟨payload ++ more, 0⟩ d = .ok d' := by
  have hflags := Cursor.discard_append (show 2 ≤ payload.length by omega)
  have hvid := Cursor.peekUint16_append (σ := Dec) (show 2 ≤ (payload.drop 2).length by simp; omega)
  have hreserved := Cursor.discard_append (show 4 ≤ ((payload.drop 2).drop 2).length by simp; omega)
  have haddress := Cursor.peekBytes_append_of_le (σ := Dec)
    (show 4 ≤ (((payload.drop 2).drop 2).drop 4).length by simp; omega)
  have hname (more : Bytes) :
      ((Cursor.mk ((((payload.drop 2).drop 2).drop 4).drop 4 ++ more) 0).peekBytes
        (payload.length - 12) : Run Dec _) = .ok (payload.drop 12, ⟨more, 0⟩) := by
    rw [List.drop_drop, List.drop_drop, List.drop_drop, ← List.length_drop,
      Cursor.peekBytes_append]
  unfold decodeVlan
  simp only [hb, Bool.not_true, Bool.false_eq_true, if_false, if_neg (Nat.not_lt.2 hlen), hflags, hvid,
    hreserved, haddress, ok_bind]
  by_cases hany : (((payload.drop 2).drop 2).drop 4).take 4 = [0, 0, 0, 0]
  · simp only [if_pos hany, pure_eq_ok, ok_bind, hname]
    refine ⟨_, ?_, fun more => rfl⟩
    refine ⟨rfl, fun _ _ _ => ?_, fun _ => rfl⟩
    simp
  · simp only [if_neg hany, lldpdAllocMgmt, pure_eq_ok, ok_bind, hname]
    refine ⟨_, ?_, fun more => rfl⟩
    refine ⟨rfl, fun _ _ _ => ?_, fun _ => rfl⟩
    simp

/-- A value of a length it may have is read, whatever follows it. -/
theorem decodeTlv_fits {type : Nat} (hfits : tlvFits b type payload.length = true) (d : Dec) :
    ∃ d', Kept b type d d' ∧
      ∀ more, decodeTlv b type payload.length ⟨payload ++ more, 0⟩ d = .ok d' := by
  unfold decodeTlv
  unfold tlvFits at hfits
  split
  · exact decodeInfo_payload (of_decide_eq_true hfits) d
  · simp only [Cursor.peekBytes_append]
    exact ⟨{ d with chassis.cName := some payload }, ⟨rfl, fun h => h, fun _ => rfl⟩,
      fun more => rfl⟩
  · refine ⟨{ d with gotend := true }, ⟨rfl, fun h => h, absurd rfl⟩, fun more => ?_⟩
    have hzero : payload.length = 0 := of_decide_eq_true hfits
    rw [if_neg (by simp [hzero])]
    rfl
  · cases hb : b.dot1 with
    | false =>
      refine ⟨{ d with gotvlans := true }, ⟨rfl, fun _ h => ?_, fun _ => rfl⟩, fun more => ?_⟩
      · rw [hb] at h
        exact absurd h Bool.false_ne_true
      · rw [decodeVlan, hb]
        rfl
    | true =>
      rw [hb] at hfits
      exact decodeVlan_payload hb (of_decide_eq_true hfits) d
  · exact ⟨{ d with hRxUnrecognizedCnt := d.hRxUnrecognizedCnt + 1 },
      ⟨rfl, fun h => h, fun _ => rfl⟩, fun more => rfl⟩

theorem decodeTlv_unfit {type : Nat} (hfits : tlvFits b type payload.length = false) (d : Dec)
    (more : Bytes) :
    decodeTlv b type payload.length ⟨payload ++ more, 0⟩ d = .error (.refused d) := by
  unfold decodeTlv
  unfold tlvFits at hfits
  split
  · have hlen : ¬ 32 ≤ payload.length := of_decide_eq_false hfits
    rw [decodeInfo, if_pos (by omega)]
    rfl
  · exact Bool.noConfusion hfits
  · have hlen : ¬ payload.length = 0 := of_decide_eq_false hfits
    rw [if_pos hlen]
    rfl
  · have hfits : (!b.dot1 || decide (12 ≤ payload.length)) = false := hfits
    rw [Bool.or_eq_false_iff, Bool.not_eq_false'] at hfits
    have hlen : ¬ 12 ≤ payload.length := of_decide_eq_false hfits.2
    rw [decodeVlan, hfits.1, Bool.not_true, if_neg Bool.false_ne_true, if_pos (by omega)]
    rfl
  · exact absurd hfits (by simp)

/-- What a TLV says is in its value. -/
theorem decodeTlv_append (b : Build) (type : Nat) (payload more : Bytes) (d : Dec) :
    decodeTlv b type payload.length ⟨payload ++ more, 0⟩ d =
      decodeTlv b type payload.length ⟨payload, 0⟩ d := by
  cases hfits : tlvFits b type payload.length with
  | true =>
    obtain ⟨d', -, h⟩ := decodeTlv_fits hfits d
    have hnil := h []
    rw [List.append_nil] at hnil
    rw [h, hnil]
  | false =>
    have hnil := decodeTlv_unfit hfits d []
    rw [List.append_nil] at hnil
    rw [decodeTlv_unfit hfits, hnil]

/-- A TLV is read, or refused for its length. -/
theorem decodeTlv_cases (b : Build) (type : Nat) (payload : Bytes) (d : Dec) :
    (tlvFits b type payload.length = true ∧
      ∃ d', Kept b type d d' ∧ decodeTlv b type payload.length ⟨payload, 0⟩ d = .ok d') ∨
      tlvFits b type payload.length = false ∧
        decodeTlv b type payload.length ⟨payload, 0⟩ d = .error (.refused d) := by
  rw [← decodeTlv_append b type payload []]
  cases hfits : tlvFits b type payload.length with
  | true =>
    obtain ⟨d', hkept, hok⟩ := decodeTlv_fits hfits d
    exact .inl ⟨rfl, d', hkept, hok []⟩
  | false => exact .inr ⟨rfl, decodeTlv_unfit hfits d []⟩

end Tlv

/-! ## The TLVs of a frame -/

/-- What the loop finds where it stands. -/
inductive Head where
  /-- not the four bytes of a header -/
  | short
  /-- no marker -/
  | noMarker
  /-- a size below that of the header -/
  | small
  /-- a size beyond the end of the frame -/
  | cut
  | tlv (type : Nat) (payload after : Bytes)

def headAt : Bytes → Head
  | m :: t :: y :: z :: r =>
    let size := (be16 y z).toNat
    if m ≠ EDP_TLV_MARKER then .noMarker
    else if size < 4 then .small
    else if r.length < size - 4 then .cut
    else .tlv t.toNat (r.take (size - 4)) (r.drop (size - 4))
  | _ => .short

def Head.step (b : Build) (rest : Bytes) (d : Dec) : Head → Run Dec (Dec × Bytes)
  | .short | .noMarker => .error (.refused d)
  | .small | .cut => .ok ({ d with gotend := true }, rest.drop 4)
  | .tlv type payload after => do
    let d ← decodeTlv b type payload.length ⟨payload, 0⟩ d
    return (d, after)

/-- The bytes that the loop stands at, by what it finds. -/
inductive Headed : Bytes → Prop
  | short {r : Bytes} (h : r.length < 4) : Headed r
  | noMarker {m t y z : UInt8} {r : Bytes} (hm : m ≠ EDP_TLV_MARKER) : Headed (m :: t :: y :: z :: r)
  | small {t y z : UInt8} {r : Bytes} (hs : (be16 y z).toNat < 4) :
    Headed (EDP_TLV_MARKER :: t :: y :: z :: r)
  | cut {t y z : UInt8} {r : Bytes} (hc : r.length + 4 < (be16 y z).toNat) :
    Headed (EDP_TLV_MARKER :: t :: y :: z :: r)
  | tlv {t y z : UInt8} {payload after : Bytes} (hs : (be16 y z).toNat = payload.length + 4) :
    Headed (EDP_TLV_MARKER :: t :: y :: z :: (payload ++ after))

section Head
variable {m t y z : UInt8} {r payload after : Bytes}

theorem headAt_short (h : r.length < 4) : headAt r = .short := by
  match r, h with
  | [], _ => rfl
  | [_], _ => rfl
  | [_, _], _ => rfl
  | [_, _, _], _ => rfl

theorem headAt_noMarker (hm : m ≠ EDP_TLV_MARKER) : headAt (m :: t :: y :: z :: r) = .noMarker :=
  if_pos hm

theorem headAt_small (hs : (be16 y z).toNat < 4) :
    headAt (EDP_TLV_MARKER :: t :: y :: z :: r) = .small := by
  simp only [headAt, ne_eq, not_true_eq_false, if_false, if_pos hs]

theorem headAt_cut (hc : r.length + 4 < (be16 y z).toNat) :
    headAt (EDP_TLV_MARKER :: t :: y :: z :: r) = .cut := by
  have hs : ¬ (be16 y z).toNat < 4 := by omega
  have hc : r.length < (be16 y z).toNat - 4 := by omega
  simp only [headAt, ne_eq, not_true_eq_false, if_false, if_neg hs, if_pos hc]

theorem headAt_tlv (hs : (be16 y z).toNat = payload.length + 4) :
    headAt (EDP_TLV_MARKER :: t :: y :: z :: (payload ++ after)) = .tlv t.toNat payload after := by
  simp [headAt, ne_eq, not_true_eq_false, hs,
    if_neg (Nat.not_lt.2 (Nat.le_add_left 4 payload.length))]

theorem headed (p : Bytes) : Headed p := by
  match p with
  | [] => exact .short (by decide)
  | [_] => exact .short (by simp)
  | [_, _] => exact .short (by simp)
  | [_, _, _] => exact .short (by simp)
  | m :: t :: y :: z :: r =>
    by_cases hm : m = EDP_TLV_MARKER
    · subst hm
      by_cases hs : (be16 y z).toNat < 4
      · exact .small hs
      by_cases hc : r.length + 4 < (be16 y z).toNat
      · exact .cut hc
      rw [← List.take_append_drop ((be16 y z).toNat - 4) r]
      apply Headed.tlv
      rw [List.length_take]
      omega
    · exact .noMarker hm

/-- Both bounds give the same step: a TLV is read inside its value. -/
theorem decodeStep_eq (b : Build) (bound : Bound) (rest : Bytes) (d : Dec) :
    decodeStep b bound rest d = (headAt rest).step b rest d := by
  have hfour (m t y z : UInt8) (r : Bytes) : ¬ (m :: t :: y :: z :: r).length < 4 := by
    simp only [List.length_cons]
    omega
  cases headed rest with
  | short h =>
    rw [headAt_short h, decodeStep, if_pos h]
    rfl
  | noMarker hm =>
    rw [headAt_noMarker hm, decodeStep, if_neg (hfour _ _ _ _ _)]
    simp only [Cursor.peekUint8_cons, ok_bind, pure_eq_ok, if_pos hm]
    rfl
  | small hs =>
    rw [headAt_small hs, decodeStep, if_neg (hfour _ _ _ _ _)]
    simp only [Cursor.peekUint8_cons, Cursor.peekUint16_cons, ok_bind, pure_eq_ok, ne_eq,
      not_true_eq_false, if_false, if_pos (Or.inl hs)]
    rfl
  | cut hc =>
    rw [headAt_cut hc, decodeStep, if_neg (hfour _ _ _ _ _)]
    simp only [Cursor.peekUint8_cons, Cursor.peekUint16_cons, ok_bind, pure_eq_ok, ne_eq,
      not_true_eq_false, if_false, if_pos (Or.inr (Nat.lt_sub_of_add_lt hc))]
    rfl
  | @tlv t y z payload after hs =>
    have hvalue : decodeTlv b t.toNat payload.length
        ⟨bound.window (payload ++ after) payload.length, 0⟩ d =
          decodeTlv b t.toNat payload.length ⟨payload, 0⟩ d := by
      cases bound with
      | frame => exact decodeTlv_append b t.toNat payload after d
      | tlv => rw [Bound.window, List.take_left]
    have hfit : ¬ (payload.length + 4 < 4 ∨ (payload ++ after).length < payload.length) := by
      rw [List.length_append]
      omega
    rw [headAt_tlv hs, decodeStep, if_neg (hfour _ _ _ _ _)]
    simp only [Cursor.peekUint8_cons, Cursor.peekUint16_cons, ok_bind, pure_eq_ok, ne_eq,
      not_true_eq_false, if_false, hs, Nat.add_sub_cancel, if_neg hfit, hvalue, List.drop_left]
    rfl

end Head

/-! ## The loop -/

section Loop
variable {b : Build} {bound : Bound} {fuel : Nat} {rest rest' : Bytes} {d d' : Dec}

/-- Every iteration consumes the header at least. -/
theorem Head.length_step (h : (headAt rest).step b rest d = .ok (d', rest')) :
    rest'.length + 4 ≤ rest.length := by
  cases headed rest with
  | short hlen =>
    rw [headAt_short hlen] at h
    cases h
  | noMarker hm =>
    rw [headAt_noMarker hm] at h
    cases h
  | small hs =>
    rw [headAt_small hs] at h
    cases h
    simp
  | cut hc =>
    rw [headAt_cut hc] at h
    cases h
    simp
  | tlv hs =>
    rw [headAt_tlv hs] at h
    obtain ⟨d0, -, hd⟩ := bind_eq_ok.1 h
    cases hd
    simp

/-- So the loop ends by itself, and both bounds give the same loop. -/
theorem decodeLoop_fuel (bound : Bound) {fuel fuel' : Nat} (h : rest.length < fuel)
    (h' : rest.length < fuel') (d : Dec) :
    decodeLoop b bound fuel rest d = decodeLoop b .frame fuel' rest d := by
  induction fuel generalizing fuel' rest d with
  | zero => exact absurd h (Nat.not_lt_zero _)
  | succ fuel ih =>
    match fuel', h' with
    | fuel' + 1, h' =>
      rw [decodeLoop, decodeLoop, decodeStep_eq, decodeStep_eq]
      split
      · rfl
      · cases hstep : (headAt rest).step b rest d with
        | error e => rfl
        | ok next =>
          have hlen := Head.length_step hstep
          exact ih (by omega) (by omega) next.1

theorem decodeTlv_safe (b : Build) (type : Nat) (payload : Bytes) (d : Dec) :
    Safe (decodeTlv b type payload.length ⟨payload, 0⟩ d) := by
  obtain ⟨-, d', -, hok⟩ | ⟨-, herror⟩ := decodeTlv_cases b type payload d
  · rw [hok]
    exact safe_ok d'
  · rw [herror]
    exact safe_refused d

theorem Head.step_safe (b : Build) (rest : Bytes) (d : Dec) (h : Head) : Safe (h.step b rest d) := by
  cases h with
  | short => exact safe_refused d
  | noMarker => exact safe_refused d
  | small => exact safe_ok _
  | cut => exact safe_ok _
  | tlv type payload after =>
    exact (decodeTlv_safe b type payload d).bind fun d' _ => safe_ok (d', after)

/-- Run lemma: the loop reads inside the frame, and inside each TLV. -/
theorem decodeLoop_safe (h : rest.length < fuel) (d : Dec) :
    Safe (decodeLoop b bound fuel rest d) := by
  induction fuel generalizing rest d with
  | zero => exact absurd h (Nat.not_lt_zero _)
  | succ fuel ih =>
    rw [decodeLoop, decodeStep_eq]
    split
    · exact safe_ok d
    · apply (Head.step_safe b rest d (headAt rest)).bind
      intro next hstep
      have hlen := Head.length_step hstep
      exact ih (by omega) next.1

/-- The VLANs that a TLV announced are there at the end. -/
theorem Head.step_vlansKept {head : Head} (h : head.step b rest d = .ok (d', rest'))
    (hv : d.VlansKept b) : d'.VlansKept b := by
  cases head with
  | short => cases h
  | noMarker => cases h
  | small =>
    cases h
    exact hv
  | cut =>
    cases h
    exact hv
  | tlv type payload after =>
    obtain ⟨d0, htlv, hd⟩ := bind_eq_ok.1 h
    cases hd
    obtain ⟨-, d'', hkept, hok⟩ | ⟨-, herror⟩ := decodeTlv_cases b type payload d
    · rw [hok] at htlv
      cases htlv
      exact hkept.pVlans hv
    · rw [herror] at htlv
      cases htlv

theorem decodeLoop_vlansKept (h : decodeLoop b bound fuel rest d = .ok d') (hv : d.VlansKept b) :
    d'.VlansKept b := by
  induction fuel generalizing rest d with
  | zero => cases h
  | succ fuel ih =>
    rw [decodeLoop, decodeStep_eq] at h
    split at h
    · cases h
      exact hv
    · obtain ⟨next, hstep, hrest⟩ := bind_eq_ok.1 h
      exact ih hrest (Head.step_vlansKept hstep hv)

end Loop

/-! ## The frame -/

section Frame
variable {b : Build} {cfg : Config}

/-- What the frame says before its first TLV. -/
def startDec (cfg : Config) (frame : Bytes) : Dec where
  chassis.cTtl := cfg.ttl
  chassis.cIdSubtype := LLDP_CHASSISID_SUBTYPE_LLADDR
  chassis.cId := some ((frame.drop 32).take 6)

theorem edpDecode_eq (b : Build) (bound : Bound) (cfg : Config) (frame : Bytes) :
    edpDecode b bound cfg frame =
      if headerOk frame then
        decodeLoop b .frame ((frame.drop 38).length + 1) (frame.drop 38)
          (startDec cfg frame) >>= finish b
      else .error (.refused {}) := by
  unfold edpDecode
  rw [decodeHeader_eq]
  by_cases hok : headerOk frame = true
  · rw [if_pos hok, if_pos hok, ok_bind]
    dsimp only
    rw [decodeLoop_fuel bound (Nat.lt_succ_self _) (Nat.lt_succ_self _)]
    rfl
  · rw [if_neg hok, if_neg hok]
    rfl

theorem finish_safe (b : Build) (d : Dec) : Safe (finish b d) := by
  unfold finish
  split
  · split
    · exact safe_ok _
    · exact safe_refused d
  · exact safe_ok _

theorem edpDecode_safe (b : Build) (bound : Bound) (cfg : Config) (frame : Bytes) :
    Safe (edpDecode b bound cfg frame) := by
  rw [edpDecode_eq]
  split
  · apply (decodeLoop_safe (Nat.lt_succ_self _) _).bind
    intro d _
    exact finish_safe b d
  · exact safe_refused _

/-- **`edp_decode` reads inside the frame**, with the checksum over the length that
the frame says, and each TLV inside its value, and it ends. -/
theorem edpDecode_inside (b : Build) (cfg : Config) (frame : Bytes) :
    (∀ bound f, edpDecode b bound cfg frame ≠ .error (.fault f)) ∧
      edpDecode b .tlv cfg frame = edpDecode b .frame cfg frame ∧
      (38 ≤ frame.length → edpLength frame ≤ frame.length - 22 →
        (frameChecksumFrom ⟨frame.drop 22, 0⟩ (edpLength frame) false : Run Dec UInt16) =
          .ok (frameChecksum ((frame.drop 22).take (edpLength frame)) false)) := by
  refine ⟨fun bound => edpDecode_safe b bound cfg frame, ?_, fun hlong hlen => ?_⟩
  · rw [edpDecode_eq, edpDecode_eq]
  · rw [frameChecksumFrom_eq, Cursor.peekBytes_of_le (by rw [List.length_drop]; omega)]
    rfl

def oddFrame : Bytes :=
  [0x00, 0xe0, 0x2b, 0, 0, 0, 2, 0, 0, 0, 0, 1, 0, 25, 0xaa, 0xaa, 3, 0x00, 0xe0, 0x2b, 0x00, 0xbb,
    1, 0, 0, 17, 0, 0, 0, 0, 0, 0, 2, 0, 0, 0, 0, 1, 0x99]

theorem edpDecode_inside_odd : edpLength oddFrame = 17 ∧
    (frameChecksumFrom ⟨oddFrame.drop 22, 0⟩ (edpLength oddFrame) false : Run Dec UInt16) =
      .ok (frameChecksum ((oddFrame.drop 22).take (edpLength oddFrame)) false) :=
  ⟨by decide, (edpDecode_inside .full {} oddFrame).2.2 (by decide) (by decide)⟩

end Frame

end Lldpd.Edp
