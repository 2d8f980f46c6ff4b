import Lldpd.Core.Reached
import Lldpd.L2Proto.Cdp.Decode

/-!
# Which CDP frames are read inside their bounds

`cdp_decode` is the fold of `applyTlv` over the TLVs of the frame
(`cdpDecode_eq`). Of all branches only the one for the addresses can read
where it should not: it counts down the bytes it has skipped but forgets those
of the addresses, so from the second address on the count is too high.

* `cdpDecode_inside_iff`: no PEEK leaves the frame or the TLV it belongs to if
  and only if every address TLV that is reached fits (`Tlv.Fits`).
-/
namespace Lldpd.Cdp
open Core

/-! ## The TLVs of a frame -/

/-- A TLV of a frame: `after` is the rest of the frame. -/
structure Tlv where
  type : Nat
  payload : Bytes
  after : Bytes := []
  deriving DecidableEq, Repr

namespace Tlv

def size (t : Tlv) : Nat := t.payload.length

/-- What a branch can read without a fault. -/
def window (t : Tlv) : Bound → Bytes
  | .frame => t.payload ++ t.after
  | .tlv => t.payload

theorem size_le_window (t : Tlv) (bound : Bound) : t.size ≤ (t.window bound).length := by
  cases bound <;> simp [window, size]

end Tlv

/-- The first TLV of `rest`, when its header and its payload are there. -/
def tlvAt : Bytes → Option Tlv
  | w :: x :: y :: z :: r =>
    let size := (be16 y z).toNat
    if size < 4 ∨ r.length < size - 4 then none
    else some ⟨(be16 w x).toNat, r.take (size - 4), r.drop (size - 4)⟩
  | _ => none

theorem tlvAt_after {rest : Bytes} {t : Tlv} (h : tlvAt rest = some t) :
    t.after.length + t.size + 4 = rest.length := by
  match rest, h with
  | w :: x :: y :: z :: r, h =>
    simp only [tlvAt] at h
    split at h
    · cases h
    · simp only [Option.some.injEq] at h; subst h
      simp only [Tlv.size, List.length_take, List.length_drop, List.length_cons]; omega

/-- The TLVs of a frame, up to the first one whose header is wrong. -/
def tlvs (rest : Bytes) : List Tlv :=
  match _h : tlvAt rest with
  | none => []
  | some t => t :: tlvs t.after
termination_by rest.length
decreasing_by have := tlvAt_after _h; omega

def complete (rest : Bytes) : Bool :=
  match _h : tlvAt rest with
  | none => rest.isEmpty
  | some t => complete t.after
termination_by rest.length
decreasing_by have := tlvAt_after _h; omega

def applyTlv (b : Build) (bound : Bound) (fdp : Bool) (d : Dec) (t : Tlv) : Run Dec Dec :=
  decodeTlv b fdp t.type t.size ⟨t.window bound, 0⟩ d

section Loop
variable {b : Build} {bound : Bound} {fdp : Bool} {rest : Bytes} {d : Dec}

theorem tlvs_of_none (h : tlvAt rest = none) : tlvs rest = [] ∧ complete rest = rest.isEmpty := by
  rw [tlvs, complete]
  constructor <;> split <;> first | rfl | (rename_i h'; rw [h] at h'; cases h')

theorem tlvs_of_some {t : Tlv} (h : tlvAt rest = some t) :
    tlvs rest = t :: tlvs t.after ∧ complete rest = complete t.after := by
  rw [tlvs, complete]
  constructor <;> split <;> rename_i h' <;> rw [h] at h' <;> cases h' <;> rfl

theorem decodeStep_eq : decodeStep b bound fdp rest d =
    match tlvAt rest with
    | none => .error (.refused d)
    | some t => applyTlv b bound fdp d t >>= fun d => .ok (d, t.after) := by
  match rest with
  | [] => rfl
  | [_] => rfl
  | [_, _] => rfl
  | [_, _, _] => rfl
  | w :: x :: y :: z :: r =>
    simp only [decodeStep, tlvAt, List.length_cons, Cursor.peekUint16_cons, ok_bind, pure_eq_ok,
      throw_eq_error]
    rw [if_neg (by omega)]
    by_cases h : (be16 y z).toNat < 4 ∨ r.length < (be16 y z).toNat - 4
    · simp only [h, if_true, error_bind]
    · have hlen : min ((be16 y z).toNat - 4) r.length = (be16 y z).toNat - 4 := by omega
      have hwin : bound.window r ((be16 y z).toNat - 4) =
          (Tlv.mk (be16 w x).toNat (r.take ((be16 y z).toNat - 4))
            (r.drop ((be16 y z).toNat - 4))).window bound := by
        cases bound <;> simp [Bound.window, Tlv.window]
      simp only [h, if_false, applyTlv, Tlv.size, List.length_take, hlen, hwin]

/-- **Run refinement**: the loop is the fold over the TLVs, and a wrong header
behind them refuses the frame. -/
theorem decodeLoop_eq {fuel : Nat} (hf : rest.length < fuel) :
    decodeLoop b bound fdp fuel rest d =
      (tlvs rest).foldlM (applyTlv b bound fdp) d >>= fun d =>
        if complete rest then .ok d else refuse d := by
  induction fuel generalizing rest d with
  | zero => omega
  | succ fuel ih =>
    cases ht : tlvAt rest with
    | none =>
      obtain ⟨hts, hco⟩ := tlvs_of_none ht
      simp [decodeLoop, decodeStep_eq, ht, hts, hco, List.foldlM_nil, pure_eq_ok, ok_bind, refuse,
        error_bind]
    | some t =>
      obtain ⟨hts, hco⟩ := tlvs_of_some ht
      have hlen := tlvAt_after ht
      have hne : rest ≠ [] := by rintro rfl; simp only [List.length_nil] at hlen; omega
      simp only [decodeLoop, hne, decodeStep_eq, ht, hts, hco, List.foldlM_cons]
      cases applyTlv b bound fdp d t with
      | error e => rfl
      | ok d' => exact ih (show t.after.length < fuel by omega)

end Loop

/-! ## The address loop -/

def protocolLen (entry : Bytes) : Nat := (entry.getD 1 0).toNat

def addressLen (entry : Bytes) : Nat :=
  (be16 (entry.getD (protocolLen entry + 2) 0) (entry.getD (protocolLen entry + 3) 0)).toNat

def isIpv4 (entry : Bytes) : Bool :=
  entry.take 3 == [1, 1, CDP_ADDRESS_PROTO_IP] && addressLen entry == 4

def entrySize (entry : Bytes) : Nat := protocolLen entry + 4 + addressLen entry

/-- The entries can be read: `left` is what can be read without a fault from
the next one on, `count` what the code believes to be left. Whenever the count
lets the loop read on, the bytes are there. -/
def EntriesFit : Nat → Bytes → Nat → Prop
  | 0, _, _ => True
  | nb + 1, left, count =>
    2 ≤ count → 2 ≤ left.length ∧
      (protocolLen left + 4 ≤ count → protocolLen left + 4 ≤ left.length ∧
        (entrySize left ≤ count → (isIpv4 left → 9 ≤ left.length) ∧
          EntriesFit nb (left.drop (entrySize left)) (count - (protocolLen left + 4))))

/-- The count covers the entries, so none of them is too short. -/
def EntriesCounted : Nat → Bytes → Nat → Prop
  | 0, _, _ => True
  | nb + 1, left, count =>
    entrySize left ≤ count ∧
      EntriesCounted nb (left.drop (entrySize left)) (count - (protocolLen left + 4))

def entryMgmt (entry : Bytes) : Mgmt :=
  ⟨.ipv4, (entry.drop 5).take 4, 0, by
    simp only [List.length_take, LLDPD_MGMT_MAXADDRSIZE]; omega⟩

def addEntry (entry : Bytes) (d : Dec) : Dec :=
  if isIpv4 entry then { d with chassis.cMgmt := d.chassis.cMgmt ++ [entryMgmt entry] } else d

/-! ### Ends and faults of nested tests -/

section Tests
variable {c : Prop} [Decidable c] {r : Run Dec Dec} {d : Dec} {f : Fault}

abbrev Ends (r : Run Dec Dec) : Prop := ∃ d, r = .ok d

abbrev Faults (r : Run Dec Dec) : Prop := ∃ f, r = .error (.fault f)

theorem ends_ite_refuse : Ends (if c then refuse d else r) ↔ ¬ c ∧ Ends r := by
  split <;> simp [Ends, refuse, *]

theorem ends_ite_fault : Ends (if c then .error (.fault f) else r) ↔ ¬ c ∧ Ends r := by
  split <;> simp [Ends, *]

theorem faults_ite_refuse : Faults (if c then refuse d else r) ↔ ¬ c ∧ Faults r := by
  split <;> simp [Faults, refuse, *]

theorem faults_ite_fault : Faults (if c then .error (.fault f) else r) ↔ c ∨ Faults r := by
  split <;> simp [Faults, *]

end Tests

section Addresses
variable {left after : Bytes} {past count nb : Nat} {d : Dec}

theorem isIpv4_cons {u v : UInt8} {r : Bytes} :
    isIpv4 (1 :: 1 :: CDP_ADDRESS_PROTO_IP :: u :: v :: r) = decide (be16 u v = 4) := by
  have hsize : addressLen (1 :: 1 :: CDP_ADDRESS_PROTO_IP :: u :: v :: r) = (be16 u v).toNat := rfl
  have hinj : (be16 u v).toNat = 4 ↔ be16 u v = 4 := by
    rw [← UInt16.toNat_inj]; rfl
  rw [Bool.eq_iff_iff, decide_eq_true_iff, ← hinj]
  simp [isIpv4, List.take_zero, Bool.true_and, hsize, beq_iff_eq]

/-- The address of an entry whose header is one of IPv4. -/
theorem peek_addr (r : Bytes) :
    ((Cursor.mk r past).peekBytes 4 : Run Dec _) =
      if r.length < 4 then .error (.fault .oob) else .ok (r.take 4, (Cursor.mk r past).discard 4) := by
  simp only [Cursor.peekBytes]
  by_cases h : r.length < 4
  · rw [if_pos h, if_neg (by omega)]
  · rw [if_neg h, if_pos (by omega)]

/-- The second look at an entry. -/
theorem decodeAddress_eq (h2 : 2 ≤ left.length) (h4 : protocolLen left + 4 ≤ left.length) :
    decodeAddress ⟨left, past⟩ d =
      if isIpv4 left ∧ left.length < 9 then .error (.fault .oob) else .ok (addEntry left d) := by
  match left, h2 with
  | x :: y :: r, _ =>
    by_cases hx : x = 1
    · by_cases hy : y = 1
      · subst hx hy
        match r, h4 with
        | z :: u :: v :: r, _ =>
          by_cases hz : z = CDP_ADDRESS_PROTO_IP
          · subst hz
            by_cases hs : be16 u v = 4
            · have hlt : r.length + 1 + 1 + 1 + 1 + 1 < 9 ↔ r.length < 4 := by omega
              simp only [decodeAddress, Cursor.peekUint8_cons, Cursor.peekUint16_cons, ok_bind,
                ne_eq, not_true_eq_false, if_false, hs, isIpv4_cons, decide_true, true_and,
                List.length_cons, hlt, peek_addr, addEntry]
              have halloc : lldpdAllocMgmt (some .ipv4) (r.take 4) 4 0 =
                  .ok (entryMgmt (1 :: 1 :: CDP_ADDRESS_PROTO_IP :: u :: v :: r)) := by
                simp [lldpdAllocMgmt, entryMgmt, LLDPD_MGMT_MAXADDRSIZE, List.take_take]
              split
              · rfl
              · simp [ok_bind, halloc]
            · simp [decodeAddress, isIpv4_cons, addEntry, hs]
          · simp [decodeAddress, isIpv4, addEntry, hz]
      · simp [decodeAddress, isIpv4, addEntry, hy]
    · simp [decodeAddress, isIpv4, addEntry, hx]

/-- Step lemma: one round of the loop, on the bytes that can be read. -/
theorem decodeAddresses_succ : decodeAddresses (nb + 1) count ⟨left, past⟩ d =
    if count < 2 then refuse d
    else if left.length < 2 then .error (.fault .oob)
    else if count < protocolLen left + 4 then refuse d
    else if left.length < protocolLen left + 4 then .error (.fault .oob)
    else if count < entrySize left then refuse d
    else if isIpv4 left ∧ left.length < 9 then .error (.fault .oob)
    else decodeAddresses nb (count - (protocolLen left + 4))
      ⟨left.drop (entrySize left), past + (entrySize left - left.length)⟩ (addEntry left d) := by
  rw [decodeAddresses]
  by_cases h2 : count < 2
  · simp [h2, error_bind, refuse]
  simp only [h2]
  match left with
  | [] => rfl
  | [x] => rfl
  | x :: y :: r =>
    have hp : protocolLen (x :: y :: r) = y.toNat := rfl
    have hdis : (Cursor.mk (x :: y :: r) past).discard 1 = ⟨y :: r, past⟩ := by
      simp [Cursor.discard]
    simp only [hdis, Cursor.peekUint8_cons, ok_bind, if_false, hp]
    by_cases h4 : count < y.toNat + 4
    · rw [if_pos h4, if_pos (by omega)]; rfl
    rw [if_neg h4, if_neg (by omega)]
    simp only [Cursor.discard]
    by_cases hl4 : (x :: y :: r).length < y.toNat + 4
    · rw [if_pos hl4, Cursor.peekUint16_of_lt (by simp at hl4 ⊢; omega)]; rfl
    have hlen : y.toNat + 2 ≤ r.length := by simp at hl4; omega
    have hsize : entrySize (x :: y :: r) = y.toNat + 4 + (be16 ((r.drop y.toNat).getD 0 0)
        ((r.drop y.toNat).getD 1 0)).toNat := by
      rw [entrySize, Cursor.getD_drop, Cursor.getD_drop]; rfl
    rw [if_neg hl4, Cursor.peekUint16_of_le (by simp; omega), ok_bind]
    generalize be16 ((r.drop y.toNat).getD 0 0) ((r.drop y.toNat).getD 1 0) = size at hsize ⊢
    simp only
    by_cases hc : count < entrySize (x :: y :: r)
    · rw [if_pos hc, if_pos (by omega)]; rfl
    rw [if_neg (by omega), decodeAddress_eq (by simp) (by rw [hp]; omega)]
    have hnext : ((r.drop y.toNat).drop 2).drop size.toNat =
        (x :: y :: r).drop (entrySize (x :: y :: r)) := by
      rw [hsize, List.drop_drop, List.drop_drop,
        show y.toNat + 4 + size.toNat = y.toNat + (2 + size.toNat) + 2 by omega]
      rfl
    have hpast : past + (y.toNat - r.length) + (size.toNat - ((r.drop y.toNat).drop 2).length) =
        past + (entrySize (x :: y :: r) - (x :: y :: r).length) := by
      rw [hsize]; simp only [List.length_drop, List.length_cons]; omega
    have hcount : count - 2 - y.toNat - 2 = count - (y.toNat + 4) := by omega
    rw [hnext, hpast, hcount]
    split <;> rfl

/-- **The address loop faults** exactly when it reads where there is nothing
to read. -/
theorem decodeAddresses_faults :
    Faults (decodeAddresses nb count ⟨left, past⟩ d) ↔ ¬ EntriesFit nb left count := by
  induction nb generalizing count left past d with
  | zero => simp [decodeAddresses, EntriesFit, Faults]
  | succ nb ih =>
    rw [decodeAddresses_succ, EntriesFit]
    simp only [faults_ite_refuse, faults_ite_fault, ih, Classical.not_imp,
      Classical.not_and_iff_not_or_not, Nat.not_lt, Nat.not_le]

/-- An entry that is inside the bytes and the count, and those behind it. -/
theorem entries_succ : EntriesFit (nb + 1) left count ∧ EntriesCounted (nb + 1) left count ↔
    2 ≤ left.length ∧ protocolLen left + 4 ≤ left.length ∧ entrySize left ≤ count ∧
      (isIpv4 left → 9 ≤ left.length) ∧
      EntriesFit nb (left.drop (entrySize left)) (count - (protocolLen left + 4)) ∧
      EntriesCounted nb (left.drop (entrySize left)) (count - (protocolLen left + 4)) := by
  have hle : protocolLen left + 4 ≤ entrySize left := by unfold entrySize; omega
  constructor
  · rintro ⟨hfit, hc, hcnt⟩
    obtain ⟨h2, hfit⟩ := hfit (by omega)
    obtain ⟨h4, hfit⟩ := hfit (by omega)
    obtain ⟨hv, hfit⟩ := hfit hc
    exact ⟨h2, h4, hc, hv, hfit, hcnt⟩
  · rintro ⟨h2, h4, hc, hv, hfit, hcnt⟩
    exact ⟨fun _ => ⟨h2, fun _ => ⟨h4, fun _ => ⟨hv, hfit⟩⟩⟩, hc, hcnt⟩

theorem decodeAddresses_ends : Ends (decodeAddresses nb count ⟨left, past⟩ d) ↔
    EntriesFit nb left count ∧ EntriesCounted nb left count := by
  induction nb generalizing count left past d with
  | zero => simp [decodeAddresses, EntriesFit, EntriesCounted, Ends]
  | succ nb ih =>
    have hle : protocolLen left + 4 ≤ entrySize left := by unfold entrySize; omega
    rw [decodeAddresses_succ, entries_succ]
    simp only [ends_ite_refuse, ends_ite_fault, ih, Nat.not_lt, not_and]
    constructor
    · rintro ⟨_, h2, _, h4, hc, hrest⟩
      exact ⟨h2, h4, hc, hrest⟩
    · rintro ⟨h2, h4, hc, hrest⟩
      exact ⟨by omega, h2, by omega, h4, hc, hrest⟩

/-- The addresses are all that the loop adds to. -/
theorem decodeAddresses_ok {d' : Dec} (h : decodeAddresses nb count ⟨left, past⟩ d = .ok d') :
    ∃ mgmt, d' = { d with chassis.cMgmt := mgmt } := by
  induction nb generalizing count left past d with
  | zero =>
    cases h
    exact ⟨d'.chassis.cMgmt, rfl⟩
  | succ nb ih =>
    rw [decodeAddresses_succ] at h
    iterate 6
      split at h
      · cases h
    obtain ⟨mgmt, rfl⟩ := ih h
    refine ⟨mgmt, ?_⟩
    unfold addEntry
    split <;> rfl

theorem protocolLen_append (h : 2 ≤ left.length) :
    protocolLen (left ++ after) = protocolLen left := by
  simp only [protocolLen, List.getD_eq_getElem?_getD]
  rw [List.getElem?_append_left (by omega)]

theorem entry_append (h2 : 2 ≤ left.length) (h4 : protocolLen left + 4 ≤ left.length) :
    entrySize (left ++ after) = entrySize left ∧ isIpv4 (left ++ after) = isIpv4 left := by
  have haddr : addressLen (left ++ after) = addressLen left := by
    simp only [addressLen, protocolLen_append h2, List.getD_eq_getElem?_getD]
    rw [List.getElem?_append_left (by omega), List.getElem?_append_left (by omega)]
  rw [entrySize, isIpv4, haddr, protocolLen_append h2, List.take_append_of_le_length (by omega)]
  exact ⟨rfl, rfl⟩

end Addresses

/-! ## The other branches -/

namespace Tlv

def u16 (t : Tlv) : UInt16 := be16 (t.payload.getD 0 0) (t.payload.getD 1 0)

def u32 (t : Tlv) : UInt32 :=
  be32 (t.payload.getD 0 0) (t.payload.getD 1 0) (t.payload.getD 2 0) (t.payload.getD 3 0)

def addresses (t : Tlv) : Nat :=
  iterations t.u32

def Fits (bound : Bound) (t : Tlv) : Prop :=
  t.type = CDP_TLV_ADDRESSES → 4 ≤ t.size →
    EntriesFit t.addresses ((t.window bound).drop 4) (t.size - 4)

def short (b : Build) (fdp : Bool) (t : Tlv) : Bool :=
  match t.type with
  | CDP_TLV_ADDRESSES => t.size < 4
  | CDP_TLV_PORT => t.size = 0
  | CDP_TLV_CAPABILITIES => !fdp && t.size < 4
  | CDP_TLV_NATIVEVLAN => b.dot1 && t.size < 2
  | _ => false

def Taken (b : Build) (bound : Bound) (fdp : Bool) (t : Tlv) : Prop :=
  t.short b fdp = false ∧ (t.type = CDP_TLV_ADDRESSES →
    EntriesFit t.addresses ((t.window bound).drop 4) (t.size - 4) ∧
    EntriesCounted t.addresses ((t.window bound).drop 4) (t.size - 4))

/-- What a TLV that is not an address TLV does when it is long enough. -/
def effect (b : Build) (fdp : Bool) (t : Tlv) (d : Dec) : Dec :=
  match t.type with
  | CDP_TLV_CHASSIS =>
    { d with
      chassis.cName := some t.payload
      chassis.cIdSubtype := LLDP_CHASSISID_SUBTYPE_LOCAL
      chassis.cId := some t.payload }
  | CDP_TLV_PORT =>
    { d with
      port.pDescr := some t.payload
      port.pIdSubtype := LLDP_PORTID_SUBTYPE_IFNAME
      port.pId := some t.payload }
  | CDP_TLV_CAPABILITIES =>
    let enabled := if fdp then fdpCapability t.payload
      else cdpCapability t.u32 d.chassis.cCapEnabled
    { d with chassis.cCapEnabled := enabled, chassis.cCapAvailable := enabled }
  | CDP_TLV_SOFTWARE => { d with software := some t.payload }
  | CDP_TLV_PLATFORM => { d with platform := some t.payload }
  | CDP_TLV_NATIVEVLAN =>
    if b.dot1 then
      { d with
        port.pPvid := t.u16
        port.pVlans := d.port.pVlans ++ [⟨ascii s!"VLAN #{t.u16.toNat}", t.u16⟩] }
    else { d with hRxUnrecognizedCnt := d.hRxUnrecognizedCnt + 1 }
  | _ => { d with hRxUnrecognizedCnt := d.hRxUnrecognizedCnt + 1 }

theorem getD_window (t : Tlv) (bound : Bound) {i : Nat} (h : i < t.size) :
    (t.window bound).getD i 0 = t.payload.getD i 0 := by
  cases bound with
  | tlv => rfl
  | frame =>
    simp only [window, List.getD_eq_getElem?_getD]
    rw [List.getElem?_append_left h]

/-- Reading the whole value. -/
theorem peek_payload (t : Tlv) (bound : Bound) :
    ((Cursor.mk (t.window bound) 0).peekBytes t.size : Run Dec _) =
      .ok (t.payload, ⟨(t.window bound).drop t.size, 0⟩) := by
  rw [Cursor.peekBytes_of_le (t.size_le_window bound)]
  cases bound <;> simp [window, size]

theorem peek_u16 (t : Tlv) (bound : Bound) (h : 2 ≤ t.size) :
    ((Cursor.mk (t.window bound) 0).peekUint16 : Run Dec _) =
      .ok (t.u16, ⟨(t.window bound).drop 2, 0⟩) := by
  have := t.size_le_window bound
  rw [u16, Cursor.peekUint16_of_le (by omega), t.getD_window bound (by omega),
    t.getD_window bound (by omega)]

theorem peek_u32 (t : Tlv) (bound : Bound) (h : 4 ≤ t.size) :
    ((Cursor.mk (t.window bound) 0).peekUint32 : Run Dec _) =
      .ok (t.u32, ⟨(t.window bound).drop 4, 0⟩) := by
  have := t.size_le_window bound
  rw [u32, Cursor.peekUint32_of_le (by omega), t.getD_window bound (by omega),
    t.getD_window bound (by omega), t.getD_window bound (by omega), t.getD_window bound (by omega)]

end Tlv

section Branches
variable {b : Build} {bound : Bound} {fdp : Bool} {d : Dec} {t : Tlv}

theorem short_addresses (h : t.type = CDP_TLV_ADDRESSES) : t.short b fdp = decide (t.size < 4) := by
  unfold Tlv.short
  rw [h]; rfl

theorem applyTlv_addresses (h : t.type = CDP_TLV_ADDRESSES) : applyTlv b bound fdp d t =
    if t.short b fdp then refuse d
    else decodeAddresses t.addresses (t.size - 4) ⟨(t.window bound).drop 4, 0⟩ d := by
  have hbranch : applyTlv b bound fdp d t = decodeAddressTlv t.size ⟨t.window bound, 0⟩ d := by
    unfold applyTlv
    rw [h]; rfl
  rw [hbranch, short_addresses h, decodeAddressTlv]
  by_cases hs : t.size < 4
  · simp [hs, refuse]
  · rw [t.peek_u32 bound (by omega)]
    simp [hs, Tlv.addresses]

theorem applyTlv_other (h : t.type ≠ CDP_TLV_ADDRESSES) : applyTlv b bound fdp d t =
    if t.short b fdp then refuse d else .ok (t.effect b fdp d) := by
  unfold applyTlv decodeTlv Tlv.short Tlv.effect
  generalize t.type = type at h ⊢
  split
  · simp [decodeChassis, t.peek_payload]
  · exact absurd rfl h
  · by_cases hz : t.size = 0 <;> simp [decodePort, t.peek_payload, hz, refuse]
  · cases fdp with
    | true => simp [decodeCapabilities, t.peek_payload]
    | false =>
      by_cases hz : t.size < 4
      · simp [decodeCapabilities, hz, refuse]
      · simp [decodeCapabilities, hz, t.peek_u32 bound (by omega)]
  · simp [t.peek_payload]
  · simp [t.peek_payload]
  · cases b.dot1 with
    | false => simp
    | true =>
      by_cases hz : t.size < 2
      · simp [decodeNativeVlan, hz, refuse]
      · simp [decodeNativeVlan, hz, t.peek_u16 bound (by omega)]
  · simp [*]

theorem applyTlv_ends : Ends (applyTlv b bound fdp d t) ↔ t.Taken b bound fdp := by
  unfold Tlv.Taken
  by_cases h : t.type = CDP_TLV_ADDRESSES
  · rw [applyTlv_addresses h, ends_ite_refuse, decodeAddresses_ends]
    simp [h]
  · rw [applyTlv_other h, ends_ite_refuse]
    simp [h, Ends]

theorem applyTlv_faults : Faults (applyTlv b bound fdp d t) ↔ ¬ t.Fits bound := by
  unfold Tlv.Fits
  by_cases h : t.type = CDP_TLV_ADDRESSES
  · rw [applyTlv_addresses h, faults_ite_refuse, decodeAddresses_faults, short_addresses h]
    simp [h]
  · rw [applyTlv_other h, faults_ite_refuse]
    simp [h]

end Branches

/-! ## The whole frame -/

/-- Destination, lengths, protocol and version. -/
def headerOk (b : Build) (frame : Bytes) : Bool :=
  26 ≤ frame.length ∧ (frame.take 6 = CDP_MULTICAST_ADDR ∨ b.fdp = true) ∧
    14 + (be16 (frame.getD 12 0) (frame.getD 13 0)).toNat ≤ frame.length ∧
    be16 (frame.getD 20 0) (frame.getD 21 0) = LLC_PID_CDP ∧
    (frame.getD 22 0 = 1 ∨ frame.getD 22 0 = 2)

def isFdp (frame : Bytes) : Bool := frame.take 6 ≠ CDP_MULTICAST_ADDR

theorem decodeHeader_eq (b : Build) (frame : Bytes) (d : Dec) : decodeHeader b frame d =
    if headerOk b frame then .ok ⟨isFdp frame, frame.getD 23 0, frame.drop 26⟩
    else .error (.refused d) := by
  unfold decodeHeader headerOk isFdp
  by_cases hl : frame.length < 26
  · simp [Nat.not_le.2 hl]
  have h26 : 26 ≤ frame.length := by omega
  have hge : ((frame.drop 14).length : Int) < (be16 (frame.getD 12 0) (frame.getD 13 0)).toNat ↔
      ¬ 14 + (be16 (frame.getD 12 0) (frame.getD 13 0)).toNat ≤ frame.length := by
    rw [List.length_drop]; omega
  have hdst : (frame.take 6 ≠ CDP_MULTICAST_ADDR ∧ (!b.fdp) = true) ↔
      ¬ (frame.take 6 = CDP_MULTICAST_ADDR ∨ b.fdp = true) := by
    simp [not_or]
  have hversion : (frame.getD 22 0 ≠ 1 ∧ frame.getD 22 0 ≠ 2) ↔
      ¬ (frame.getD 22 0 = 1 ∨ frame.getD 22 0 = 2) := not_or.symm
  simp (disch := omega) only [hl, if_false, Cursor.peekBytes_of_le, Cursor.discard_drop,
    Cursor.peekUint16_drop, Cursor.peekUint8_drop, ok_bind, Cursor.length_mk, hge, h26, true_and,
    decide_eq_true_eq, pure_eq_ok, throw_eq_error, error_bind, hdst, hversion,
    ite_not (frame.getD 22 0 = 1 ∨ _), refuse_unless]

/-- **The decoder**: header, fold over the TLVs, mandatory TLVs. -/
theorem cdpDecode_eq (b : Build) (bound : Bound) (frame : Bytes) : cdpDecode b bound frame =
    if headerOk b frame then
      ((tlvs (frame.drop 26)).foldlM (applyTlv b bound (isFdp frame))
          { chassis.cTtl := (frame.getD 23 0).toUInt16 } >>= fun d =>
        if complete (frame.drop 26) then .ok d else refuse d) >>= finish
    else refuse {} := by
  unfold cdpDecode
  rw [decodeHeader_eq]
  split
  · simp [decodeLoop_eq (Nat.lt_succ_self _)]
  · rfl

def EveryTlv (b : Build) (bound : Bound) (fdp : Bool) (P : Tlv → Prop) (ts : List Tlv) : Prop :=
  AllReached (fun _ t => t.Taken b bound fdp) (fun _ _ => ()) (fun _ t => P t) () ts

theorem everyTlv_iff {b : Build} {bound : Bound} {fdp : Bool} {d : Dec} {ts : List Tlv}
    {P : Dec → Tlv → Prop} {Q : Tlv → Prop} (h : ∀ d t, P d t ↔ Q t) :
    (∀ p ∈ reached (applyTlv b bound fdp) ts d, P p.1 p.2) ↔ EveryTlv b bound fdp Q ts :=
  forall_reached_iff (fun _ => ()) (fun _ _ => applyTlv_ends) (fun _ _ _ _ => rfl) h

theorem cdpDecode_fault_iff {b : Build} {bound : Bound} {frame : Bytes} {f : Fault} :
    cdpDecode b bound frame = .error (.fault f) ↔ headerOk b frame ∧
      ∃ p ∈ reached (applyTlv b bound (isFdp frame)) (tlvs (frame.drop 26))
        { chassis.cTtl := (frame.getD 23 0).toUInt16 },
        applyTlv b bound (isFdp frame) p.1 p.2 = .error (.fault f) := by
  rw [cdpDecode_eq, ← foldlM_fault_iff]
  cases headerOk b frame with
  | false => simp [refuse]
  | true =>
    generalize List.foldlM (applyTlv b bound (isFdp frame)) _ _ = r
    cases r with
    | error e => simp
    | ok d =>
      cases complete (frame.drop 26)
      · simp [refuse]
      · simp only [if_true, ok_bind, finish, refuse]
        split <;> simp

/-- **Memory safety, exactly.** No PEEK of `cdp_decode` leaves the frame
(`Bound.frame`), or the TLV it is made for (`Bound.tlv`), if and only if every
address TLV that is reached fits. -/
theorem cdpDecode_inside_iff (b : Build) (bound : Bound) (frame : Bytes) :
    (∀ f, cdpDecode b bound frame ≠ .error (.fault f)) ↔
      (headerOk b frame →
        EveryTlv b bound (isFdp frame) (fun t => t.Fits bound) (tlvs (frame.drop 26))) := by
  have hreach := @everyTlv_iff b bound (isFdp frame)
    { chassis.cTtl := (frame.getD 23 0).toUInt16 } (tlvs (frame.drop 26))
    (fun d t => ¬ Faults (applyTlv b bound (isFdp frame) d t)) (fun t => t.Fits bound)
    (fun _ _ => by rw [applyTlv_faults, Classical.not_not])
  rw [← hreach]
  simp only [ne_eq, cdpDecode_fault_iff, not_and, not_exists]
  exact ⟨fun h hh p hp f => h f hh p hp, fun h f hh p hp => h hh p hp f⟩

def cdpFrame (tlvs : Bytes) : Bytes :=
  CDP_MULTICAST_ADDR ++ [2, 0, 0, 0, 0, 1] ++ be16Bytes (UInt16.ofNat (12 + tlvs.length)) ++
    [0xaa, 0xaa, 0x03, 0x00, 0x00, 0x0c] ++ be16Bytes LLC_PID_CDP ++ [2, 180, 0, 0] ++ tlvs

/-- Two addresses are announced and one is there. Its four bytes are not taken
off the count, so the second one is looked for behind the TLV: outside the
frame, or in the next TLV. -/
theorem cdpDecode_leaves_tlv :
    cdpDecode .full .frame
      (cdpFrame [0, 2, 0, 17, 0, 0, 0, 2, 1, 1, 0xcc, 0, 4, 192, 0, 2, 1]) =
        .error (.fault .oob) ∧
    cdpDecode .full .tlv
      (cdpFrame [0, 2, 0, 17, 0, 0, 0, 2, 1, 1, 0xcc, 0, 4, 192, 0, 2, 1, 0, 6, 0, 5, 88]) =
        .error (.fault .oob) := by
  decide

end Lldpd.Cdp
