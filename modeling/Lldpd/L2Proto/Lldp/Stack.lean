import Lldpd.L2Proto.Lldp.Safety

/-!
# What the stack has a say in

`addr_str_buffer` starts with what the stack holds, and an empty address
string looks at it: such a TLV stores nothing or aborts. So the stack decides
whether a frame is decoded, and never what is read from it
(`lldpDecode_stack`).
-/
namespace Lldpd.Lldp
open Core

def Dec.withBuffer (d : Dec) (buf : Buffer 32) : Dec := { d with addrStrBuffer := buf }

def rebuffer (buf : Buffer 32) : Run Dec Dec → Run Dec Dec
  | .ok d => .ok (d.withBuffer buf)
  | .error (.refused d) => .error (.refused (d.withBuffer buf))
  | .error (.fault f) => .error (.fault f)

def Tlv.mgmt (t : Tlv) : List Mgmt :=
  if t.u8 0 = 0 then []
  else
    match lldpdAfFromLldpProto (t.u8 1) with
    | none => []
    | some af =>
      let n := t.addrStrLength
      let iface := if t.u8 (n + 1) = LLDP_MGMT_IFACE_IFINDEX then t.u32 (n + 2) else 0
      match lldpdAllocMgmt (some af) (t.bytes 2 (n - 1)) (n - 1) iface with
      | .error _ => []
      | .ok m => [m]

section Stack
variable {b : Build} {cos : Bytes} {d d' : Dec} {t : Tlv} {buf : Buffer 32}

/-- The state with the locals that only their own branches look at changed: the
buffer and the number of TLVs not recognised. -/
def Dec.mapLocals (fb : Buffer 32 → Buffer 32) (fc : Nat → Nat) (d : Dec) : Dec :=
  { d with addrStrBuffer := fb d.addrStrBuffer, hRxUnrecognizedCnt := fc d.hRxUnrecognizedCnt }

/-- The outcome with the state changed. -/
def mapDec (f : Dec → Dec) : Run Dec Dec → Run Dec Dec
  | .ok d => .ok (f d)
  | .error (.refused d) => .error (.refused (f d))
  | .error (.fault f) => .error (.fault f)

theorem mapDec_ite {f : Dec → Dec} {c : Prop} [Decidable c] {r r' : Run Dec Dec} :
    mapDec f (if c then r else r') = if c then mapDec f r else mapDec f r' := by
  split <;> rfl

section Locals
variable {fb : Buffer 32 → Buffer 32} {fc : Nat → Nat} (hfc : ∀ n, fc (n + 1) = fc n + 1)
include hfc

theorem unrecognized_mapLocals :
    (d.mapLocals fb fc).unrecognized = d.unrecognized.mapLocals fb fc := by
  simp [Dec.unrecognized, Dec.mapLocals, hfc]

theorem applyDot1_mapLocals :
    applyDot1 (d.mapLocals fb fc) t = mapDec (·.mapLocals fb fc) (applyDot1 d t) := by
  unfold applyDot1 applyPi
  split
  case h_5 => simp [*, mapDec, unrecognized_mapLocals hfc]
  all_goals
    simp only [mapDec_ite]
    rfl

theorem applyDot3_mapLocals :
    applyDot3 (d.mapLocals fb fc) t = mapDec (·.mapLocals fb fc) (applyDot3 d t) := by
  unfold applyDot3 applyPower
  split
  case h_5 => simp [*, mapDec, unrecognized_mapLocals hfc]
  all_goals
    simp only [mapDec_ite]
    rfl

omit hfc in
theorem medPowerType_mapLocals (power : UInt8) :
    medPowerType power (d.mapLocals fb fc) = (medPowerType power d).mapLocals fb fc := by
  unfold medPowerType
  split
  · rfl
  · split
    · rfl
    · rfl

omit hfc in
theorem setMedPower_mapLocals (power : UInt8) (val : UInt16) :
    setMedPower power val (d.mapLocals fb fc) = (setMedPower power val d).mapLocals fb fc := by
  unfold setMedPower
  rw [medPowerType_mapLocals]
  rfl

theorem applyMed_mapLocals :
    applyMed (d.mapLocals fb fc) t = mapDec (·.mapLocals fb fc) (applyMed d t) := by
  unfold applyMed applyMedPolicy applyMedLocation
  generalize (t.u8 3).toNat = subtype
  split
  case h_12 => simp [*, mapDec, unrecognized_mapLocals hfc]
  all_goals
    try simp only [mapDec_ite, setMedPower_mapLocals]
    rfl

theorem applyOrg_mapLocals :
    applyOrg b (d.mapLocals fb fc) t = mapDec (·.mapLocals fb fc) (applyOrg b d t) := by
  unfold applyOrg
  simp only [mapDec_ite, applyDot1_mapLocals hfc, applyDot3_mapLocals hfc, applyMed_mapLocals hfc,
    unrecognized_mapLocals hfc]
  rfl

theorem applyTlv_mapLocals (hm : t.type ≠ LLDP_TLV_MGMT_ADDR) :
    applyTlv b cos (d.mapLocals fb fc) t = mapDec (·.mapLocals fb fc) (applyTlv b cos d t) := by
  unfold applyTlv
  generalize t.type = type at hm
  split
  case h_9 => exact absurd rfl hm
  case h_10 => exact applyOrg_mapLocals hfc
  case h_11 => simp [*, mapDec, refuse]
  all_goals
    simp only [mapDec_ite]
    rfl

end Locals

theorem applyTlv_withBuffer (hm : t.type ≠ LLDP_TLV_MGMT_ADDR) :
    applyTlv b cos (d.withBuffer buf) t = rebuffer buf (applyTlv b cos d t) := by
  have hid (n : Nat) : id (n + 1) = id n + 1 := rfl
  have heq : d.withBuffer buf = d.mapLocals (fun _ => buf) id := rfl
  rw [heq]
  exact applyTlv_mapLocals hid hm

theorem slice_memcpy {buffer : Buffer 32}
    (h : d.addrStrBuffer.memcpy (t.bytes 1 t.addrStrLength) = some buffer)
    (hlen : t.addrStrLength + 1 ≤ t.reach.length) :
    buffer.slice 1 (t.addrStrLength - 1) = t.bytes 2 (t.addrStrLength - 1) := by
  obtain ⟨-, hb⟩ := Buffer.memcpy_eq_some h
  have hbl := Tlv.length_bytes hlen
  by_cases h0 : t.addrStrLength = 0
  · simp [h0, Buffer.slice, Tlv.bytes]
  · rw [Buffer.slice, hb, List.drop_append_of_le_length (by omega),
      List.take_append_of_le_length (by simp; omega), Tlv.bytes, List.drop_take, List.drop_drop,
      List.take_take, Nat.min_self]
    rfl

/-- What the branch stores comes from the TLV. -/
theorem applyMgmtAddr_mgmt (h : applyMgmtAddr d t = .ok d') :
    ∃ buffer, d' = { d with
      addrStrBuffer := buffer
      chassis.cMgmt := d.chassis.cMgmt ++ t.mgmt } := by
  unfold applyMgmtAddr at h
  simp only at h
  split at h
  · cases h
  split at h
  · cases h
  rename_i hr
  rw [Nat.not_lt] at hr
  split at h
  · cases h
  rename_i buffer hm
  have hfam := memcpy_familyByte hm hr
  have hslice := slice_memcpy hm hr
  split at h
  · cases h
  split at h
  · cases h
  rw [hfam, addrLength_eq] at h
  unfold Tlv.mgmt
  by_cases h0 : t.u8 0 = 0
  · rw [if_pos h0] at h ⊢
    rw [List.append_nil]
    split at h
    · split at h
      · cases h
      · cases h
        exact ⟨buffer, rfl⟩
    · split at h
      · cases h
      · rename_i halloc
        have hlen := (lldpdAllocMgmt_ok halloc).1
        rw [LLDPD_MGMT_MAXADDRSIZE] at hlen
        omega
  · rw [Tlv.familyByte, if_neg h0, if_neg h0, hslice] at h
    rw [if_neg h0]
    cases haf : lldpdAfFromLldpProto (t.u8 1) with
    | none =>
      rw [haf] at h
      simp only at h ⊢
      rw [List.append_nil]
      split at h
      · cases h
      · cases h
        exact ⟨buffer, rfl⟩
    | some af =>
      rw [haf] at h
      simp only at h ⊢
      split at h
      · cases h
      · rename_i m halloc
        have halloc' : lldpdAllocMgmt (some af) (t.bytes 2 (t.addrStrLength - 1))
          (t.addrStrLength - 1) (if t.u8 (t.addrStrLength + 1) = LLDP_MGMT_IFACE_IFINDEX then
            t.u32 (t.addrStrLength + 2) else 0) = .ok m := halloc
        rw [halloc']
        split at h
        · cases h
        · cases h
          exact ⟨buffer, rfl⟩

/-- Two states that differ in the buffer. -/
theorem applyTlv_stack {d2 : Dec} (h : applyTlv b cos d t = .ok d')
    (h2 : applyTlv b cos (d.withBuffer buf) t = .ok d2) : ∃ buf', d2 = d'.withBuffer buf' := by
  by_cases hm : t.type = LLDP_TLV_MGMT_ADDR
  · rw [applyTlv_mgmtAddr hm] at h h2
    obtain ⟨buffer, rfl⟩ := applyMgmtAddr_mgmt h
    obtain ⟨buffer2, rfl⟩ := applyMgmtAddr_mgmt h2
    exact ⟨buffer2, rfl⟩
  · rw [applyTlv_withBuffer hm, h] at h2
    cases h2
    exact ⟨buf, rfl⟩

theorem applyTlvs_stack {ts : List Tlv} {d2 : Dec} (h : applyTlvs b cos ts d = .ok d')
    (h2 : applyTlvs b cos ts (d.withBuffer buf) = .ok d2) : ∃ buf', d2 = d'.withBuffer buf' := by
  induction ts generalizing d buf with
  | nil =>
    cases h
    cases h2
    exact ⟨buf, rfl⟩
  | cons t ts ih =>
    rw [applyTlvs_cons, bind_eq_ok] at h h2
    obtain ⟨d1, h1, h⟩ := h
    obtain ⟨d1', h1', h2⟩ := h2
    obtain ⟨buf', rfl⟩ := applyTlv_stack h1 h1'
    exact ih h h2

end Stack

/-- A frame that is decoded over two stacks is decoded to the same. -/
theorem lldpDecode_stack {b : Build} {stack stack' : Buffer 32} {frame : Bytes} {d d' : Dec}
    (h : lldpDecode b stack frame = .ok d) (h' : lldpDecode b stack' frame = .ok d') :
    ∃ buf, d' = d.withBuffer buf := by
  obtain ⟨-, h1, -⟩ := lldpDecode_accepted h
  obtain ⟨-, h1', -⟩ := lldpDecode_accepted h'
  exact applyTlvs_stack h1 h1'

end Lldpd.Lldp
