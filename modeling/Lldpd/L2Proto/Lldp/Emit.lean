import Lldpd.L2Proto.Lldp.Send

/-!
# The frame `lldp_send` writes

* `pokeTlv_eq`: the three steps of a TLV write its header and its payload;
* `pokeTlvs_eq`: a run of them writes the concatenation, or nothing fits;
* `writePdu_eq`: the whole frame.

The length field holds nine bits of the payload's length, which is where
`lldpSend_wellFormed_iff` comes from: the frame is the sequence of TLVs it is
meant to be if and only if no field is longer than its TLV can say.
-/
namespace Lldpd.Lldp
open Core

namespace OutTlv

/-- The bytes of a TLV, with the length field as `POKE_END_LLDP_TLV` leaves it. -/
def encode (t : OutTlv) : Bytes :=
  be16Bytes (UInt16.ofNat (t.type * 512 + t.payload.length % 512)) ++ t.payload

@[simp] theorem encode_length (t : OutTlv) : t.encode.length = t.payload.length + 2 := by
  simp [encode]; omega

end OutTlv

/-- The positions of the TLVs of a run that starts at `s`. -/
def bounds (s : Nat) : List OutTlv → List (Nat × Nat)
  | [] => []
  | t :: ts => (s, s + t.encode.length) :: bounds (s + t.encode.length) ts

def encodeTlvs (ts : List OutTlv) : Bytes := ts.flatMap OutTlv.encode

section Poke
variable {p : Pdu} {t : OutTlv}

theorem poke_poke (p : Pdu) (a b : Bytes) : ((p.poke a).bind fun q => q.poke b) = p.poke (a ++ b) := by
  simp only [Pdu.poke, ← Packet.poke_append p.packet a b]
  cases p.packet.poke a with
  | none => rfl
  | some q => rfl

/-- A sequence of `POKE_*` is one write. -/
theorem pokes_eq (pokes : List Bytes) (p : Pdu) :
    pokes.foldlM Pdu.poke p = p.poke pokes.flatten := by
  have hnil (q : Pdu) : q.poke [] = some q := by simp [Pdu.poke]
  have hwrite : pokes.foldlM Pdu.poke p = p.poke (pokes.flatMap id) :=
    Packet.foldlM_write hnil poke_poke (fun _ _ => rfl) pokes p
  rw [hwrite, List.flatMap_id]

/-- Nine bits of length in a field whose low nine bits are zero. -/
theorem lengthField_eq {type len : Nat} (ht : type < 128) (hl : len < 512) :
    UInt16.ofNat (type * 512) ||| UInt16.ofNat len = UInt16.ofNat (type * 512 + len) := by
  have hor : 2 ^ 9 * type + len = 2 ^ 9 * type ||| len := Nat.two_pow_add_eq_or_of_lt hl type
  apply UInt16.toNat_inj.mp
  simp only [UInt16.toNat_or, UInt16.toNat_ofNat', Nat.mul_comm type 512]
  rw [Nat.mod_eq_of_lt (by omega), Nat.mod_eq_of_lt (a := len) (by omega),
    Nat.mod_eq_of_lt (by omega)]
  exact hor.symm

/-- **One TLV**: start, writes and end write its bytes and log its bounds. -/
theorem pokeTlv_eq (p : Pdu) (ht : t.type < 128) :
    p.pokeTlv t = (p.packet.poke t.encode).map fun q =>
      ⟨q, p.closed ++ [(p.packet.pos, p.packet.pos + t.encode.length)]⟩ := by
  let start := be16Bytes (UInt16.ofNat (t.type * 512))
  have hstart : p.pokeTlv t = (p.poke (start ++ t.payload)).map
      fun q => q.endLldpTlv p.packet.pos := by
    rw [← poke_poke]
    simp only [Pdu.pokeTlv, Pdu.startLldpTlv, pokes_eq]
    cases p.poke (be16Bytes (UInt16.ofNat (t.type * 512))) with
    | none => rfl
    | some q =>
      change ((q.poke t.payload).bind fun r => some (r.endLldpTlv p.packet.pos)) =
        (q.poke t.payload).map fun r => r.endLldpTlv p.packet.pos
      cases q.poke t.payload <;> rfl
  rw [hstart, Pdu.poke]
  cases hq : p.packet.poke (start ++ t.payload) with
  | none =>
    have hfull := Packet.poke_eq_none.1 hq
    rw [Packet.poke_eq_none.2 (by simp [start] at hfull ⊢; omega)]
    rfl
  | some q =>
    obtain ⟨-, -, hpos⟩ := Packet.poke_eq_some.1 hq
    have hlength : (start ++ t.payload).length = 2 + t.payload.length := by
      rw [List.length_append, be16Bytes_length]
    have hlen : q.pos - (p.packet.pos + 2) = t.payload.length := by omega
    have h0 : q.buf.getD p.packet.pos 0 = UInt8.ofNat ((UInt16.ofNat (t.type * 512)).toNat / 256) :=
      Packet.getD_of_poke hq (k := 0) (by omega)
    have h1 : q.buf.getD (p.packet.pos + 1) 0 = UInt8.ofNat (UInt16.ofNat (t.type * 512)).toNat :=
      Packet.getD_of_poke hq (by omega)
    simp only [Option.map_some, Pdu.endLldpTlv, hlen, h0, h1, be16_be16Bytes]
    rw [lengthField_eq ht (Nat.mod_lt _ (by decide)), OutTlv.encode,
      Packet.overwrite_of_poke hq (by simp [start])]
    rw [hpos]
    simp [start]

/-- **A run of TLVs** writes their concatenation. -/
theorem pokeTlvs_eq (ts : List OutTlv) (p : Pdu) (ht : ∀ t ∈ ts, t.type < 128) :
    ts.foldlM Pdu.pokeTlv p = (p.packet.poke (encodeTlvs ts)).map fun q =>
      ⟨q, p.closed ++ bounds p.packet.pos ts⟩ := by
  induction ts generalizing p with
  | nil => simp [encodeTlvs, bounds]
  | cons t ts ih =>
    rw [List.foldlM_cons, pokeTlv_eq p (ht t List.mem_cons_self), encodeTlvs, List.flatMap_cons,
      ← Packet.poke_append]
    cases hq : p.packet.poke t.encode with
    | none => rfl
    | some q =>
      obtain ⟨-, -, hpos⟩ := Packet.poke_eq_some.1 hq
      have hrest := ih ⟨q, p.closed ++ [(p.packet.pos, p.packet.pos + t.encode.length)]⟩
        fun t' h => ht t' (List.mem_cons_of_mem _ h)
      simp only [hpos] at hrest
      simp only [bounds]
      refine Eq.trans hrest ?_
      simp [encodeTlvs]

end Poke

/-! ## The whole frame -/

def lldpHeader (hw : Hardware) : Bytes :=
  LLDP_MULTICAST_ADDR ++ hw.hLladdr.1 ++ be16Bytes ETHERTYPE_LLDP

def pduTlvs (b : Build) (cfg : Config) (chassis : Chassis) (hw : Hardware) : List OutTlv :=
  bodyTlvs b cfg chassis hw.hLport ++ [endTlv]

theorem lldpHeader_length (hw : Hardware) : (lldpHeader hw).length = 14 := by
  simp [lldpHeader, LLDP_MULTICAST_ADDR, hw.hLladdr.2]

def pduSize (b : Build) (cfg : Config) (chassis : Chassis) (hw : Hardware) : Nat :=
  14 + (encodeTlvs (pduTlvs b cfg chassis hw)).length

section Body
variable {b : Build} {cfg : Config} {chassis : Chassis} {port : Port} {P : OutTlv → Prop}

theorem forall_bodyTlvs : (∀ t ∈ bodyTlvs b cfg chassis port, P t) ↔
    P (chassisIdTlv chassis) ∧ P (portIdTlv port) ∧ P (ttlTlv chassis) ∧
    (∀ t ∈ stringTlv b cfg.cLldpTlvSysNameEnable LLDP_TLV_SYSTEM_NAME chassis.cName, P t) ∧
    (∀ t ∈ stringTlv b cfg.cLldpTlvSysDescEnable LLDP_TLV_SYSTEM_DESCR chassis.cDescr, P t) ∧
    (∀ t ∈ capTlv b cfg chassis, P t) ∧ (∀ t ∈ mgmtTlvs b cfg chassis, P t) ∧
    (∀ t ∈ stringTlv b cfg.cLldpTlvPortDescEnable LLDP_TLV_PORT_DESCR port.pDescr, P t) ∧
    (∀ t ∈ dot1Tlvs b cfg port, P t) ∧ (∀ t ∈ dot3Tlvs b port, P t) ∧
    (∀ t ∈ medTlvs b chassis port, P t) := by
  simp only [bodyTlvs, basicTlvs, List.forall_mem_append, List.forall_mem_cons, List.not_mem_nil,
    false_implies, implies_true, and_true, and_assoc]

variable {flag : Bool} {s : Option Bytes}

theorem forall_stringTlv {type : Nat} :
    (∀ t ∈ stringTlv b flag type s, P t) ↔
      ((b.ovsdb → flag) → ∀ s', s = some s' → cstr s' ≠ [] → P ⟨type, [cstr s']⟩) := by
  unfold stringTlv
  cases b.ovsdb <;> cases flag <;> cases s with
  | none => simp
  | some s => by_cases h : cstr s = [] <;> simp [h]

theorem orgTlv_length {oui : Bytes} (h : oui.length = 3) (n : Nat) (pokes : List Bytes) :
    (orgTlv oui n pokes).payload.length = 4 + pokes.flatten.length := by
  simp [orgTlv, OutTlv.payload]; omega

theorem forall_dot1Tlvs : (∀ t ∈ dot1Tlvs b cfg port, P t) ↔
    (b.dot1 → (∀ t ∈ pvidTlv b cfg port, P t) ∧ (∀ t ∈ ppvidTlvs b cfg port, P t) ∧
      (∀ t ∈ vlanTlvs b cfg port, P t) ∧ (∀ t ∈ piTlvs b cfg port, P t)) := by
  unfold dot1Tlvs
  cases b.dot1 <;> simp [or_imp, forall_and]

theorem forall_dot3Tlvs : (∀ t ∈ dot3Tlvs b port, P t) ↔
    (b.dot3 → P (aggregationTlv port) ∧ P (macphyTlv port) ∧ (∀ t ∈ mfsTlv port, P t) ∧
      (∀ t ∈ powerTlv port, P t)) := by
  unfold dot3Tlvs
  cases b.dot3 <;> simp [or_imp, forall_and]

theorem forall_medTlvs : (∀ t ∈ medTlvs b chassis port, P t) ↔
    (b.lldpmed → port.pMedCapEnabled ≠ 0 →
      P (medCapTlv chassis) ∧ (∀ t ∈ inventoryTlvs chassis port, P t) ∧
      (∀ i, ∀ t ∈ locationTlv port i, P t) ∧ (∀ i, ∀ t ∈ policyTlv port i, P t) ∧
      (∀ t ∈ mdiTlv port, P t)) := by
  have hmap {n : Nat} (f : Fin n → List OutTlv) :
      (∀ t ∈ (List.finRange n).flatMap f, P t) ↔ ∀ i, ∀ t ∈ f i, P t := by
    simp only [List.mem_flatMap, List.mem_finRange, true_and]
    exact ⟨fun h i t ht => h t ⟨i, ht⟩, fun h t ⟨i, ht⟩ => h i t ht⟩
  unfold medTlvs
  cases b.lldpmed
  · simp
  · by_cases h : port.pMedCapEnabled = 0
    · simp [h]
    · simp only [h, ne_eq, not_false_eq_true, decide_true, Bool.and_true, if_true, forall_const,
        List.forall_mem_append, hmap, List.forall_mem_cons, List.not_mem_nil, false_implies,
        implies_true, and_true, and_assoc]

theorem forall_inventoryTlvs (h : ∀ value n, ∀ t ∈ inventoryTlv value n, P t) :
    ∀ t ∈ inventoryTlvs chassis port, P t := by
  unfold inventoryTlvs
  split
  · simp
  · simp only [List.forall_mem_append]
    exact ⟨⟨⟨⟨⟨⟨h _ _, h _ _⟩, h _ _⟩, h _ _⟩, h _ _⟩, h _ _⟩, h _ _⟩

/-- A type that is not the one of the End TLV and fits in its seven bits. -/
def OutTlv.GoodType (t : OutTlv) : Prop := 0 < t.type ∧ t.type < 128

theorem orgTlv_goodType (oui : Bytes) (n : Nat) (pokes : List Bytes) :
    (orgTlv oui n pokes).GoodType :=
  (by decide : 0 < LLDP_TLV_ORG ∧ LLDP_TLV_ORG < 128)

/-- Only the last TLV is an End TLV. -/
theorem bodyTlvs_goodType : ∀ t ∈ bodyTlvs b cfg chassis port, t.GoodType := by
  have hmem {c : Prop} [Decidable c] {ts : List OutTlv} (h : ∀ t ∈ ts, t.GoodType) :
      (∀ t ∈ (if c then [] else ts), t.GoodType) ∧ ∀ t ∈ (if c then ts else []), t.GoodType := by
    split <;> simpa using h
  have horg {oui : Bytes} {n : Nat} {pokes : List Bytes} :
      ∀ t ∈ [orgTlv oui n pokes], t.GoodType := by simp [orgTlv_goodType]
  have hty {n : Nat} {pokes : List Bytes} (h : 0 < n ∧ n < 128) : OutTlv.GoodType ⟨n, pokes⟩ := h
  rw [forall_bodyTlvs, forall_dot1Tlvs, forall_dot3Tlvs, forall_medTlvs]
  simp only [forall_stringTlv]
  refine ⟨hty (by decide), hty (by decide), hty (by decide), fun _ _ _ _ => hty (by decide),
    fun _ _ _ _ => hty (by decide), (hmem ?_).1, (hmem ?_).1, fun _ _ _ _ => hty (by decide),
    fun _ => ⟨(hmem horg).1, (hmem ?_).1, (hmem ?_).1, (hmem ?_).1⟩,
    fun _ => ⟨orgTlv_goodType _ _ _, orgTlv_goodType _ _ _, (hmem horg).1, (hmem horg).1⟩,
    fun _ _ => ⟨orgTlv_goodType _ _ _, forall_inventoryTlvs ?_, fun _ => (hmem horg).2,
      fun _ => (hmem horg).2, (hmem horg).2⟩⟩
  · simpa using hty (by decide)
  · exact List.forall_mem_map.2 fun _ _ => hty (by decide)
  · exact List.forall_mem_map.2 fun _ _ => orgTlv_goodType _ _ _
  · exact List.forall_mem_map.2 fun _ _ => orgTlv_goodType _ _ _
  · exact List.forall_mem_map.2 fun _ _ => orgTlv_goodType _ _ _
  · rintro (_ | s) n
    · simp [inventoryTlv]
    · exact horg

/-! ### How long the payloads are -/

/-- The lengths the nine bits can hold, field by field. A field that is not
sent does not count. -/
structure ShortFields (b : Build) (cfg : Config) (chassis : Chassis) (port : Port) : Prop where
  chassisId : (chassis.cId.getD []).length ≤ 510
  portId : (port.pId.getD []).length ≤ 510
  sysName : (b.ovsdb → cfg.cLldpTlvSysNameEnable) → ∀ s, chassis.cName = some s → strlen s ≤ 511
  sysDescr : (b.ovsdb → cfg.cLldpTlvSysDescEnable) → ∀ s, chassis.cDescr = some s → strlen s ≤ 511
  portDescr : (b.ovsdb → cfg.cLldpTlvPortDescEnable) → ∀ s, port.pDescr = some s → strlen s ≤ 511
  vlans : b.dot1 → (b.ovsdb → cfg.cLldpTlvPortVlanNameEnable) →
    ∀ vlan ∈ port.pVlans, strlen vlan.vName ≤ 504
  pids : b.dot1 → (b.ovsdb → cfg.cLldpTlvPortProtoIdEnable) →
    ∀ pi ∈ port.pPids, pi.pPi.length ≤ 506
  locations : b.lldpmed → port.pMedCapEnabled ≠ 0 → ∀ i : Fin LLDP_MED_LOCFORMAT_LAST,
    (port.pMedLocation.get i).format.toNat = i + 1 → (port.pMedLocation.get i).data.length ≤ 506

def OutTlv.Short (t : OutTlv) : Prop := t.payload.length ≤ 511

theorem orgTlv_short {oui : Bytes} (h : oui.length = 3) {n : Nat} {pokes : List Bytes} :
    (orgTlv oui n pokes).Short ↔ pokes.flatten.length ≤ 507 := by
  unfold OutTlv.Short
  rw [orgTlv_length h]; omega

theorem length_flatten_pair {x : UInt8} {bs : Bytes} : [[x], bs].flatten.length = bs.length + 1 := by
  simp

theorem stringTlv_short {type : Nat} :
    (∀ t ∈ stringTlv b flag type s, t.Short) ↔
      ((b.ovsdb → flag) → ∀ s', s = some s' → strlen s' ≤ 511) := by
  rw [forall_stringTlv]
  refine imp_congr_right fun _ => forall_congr' fun s' => imp_congr_right fun _ => ?_
  by_cases h : cstr s' = []
  · simp [h, strlen]
  · simp [h, OutTlv.Short, OutTlv.payload, strlen]

/-- A list the OVSDB build can switch off. -/
theorem forall_flagged {α : Type} {l : List α} {f : α → OutTlv} :
    (∀ t ∈ (if b.ovsdb && !flag then [] else l.map f), P t) ↔
      ((b.ovsdb → flag) → ∀ x ∈ l, P (f x)) := by
  cases b.ovsdb <;> cases flag <;> simp

theorem dot1Tlvs_short : (∀ t ∈ dot1Tlvs b cfg port, t.Short) ↔
    (b.dot1 → (b.ovsdb → cfg.cLldpTlvPortVlanNameEnable) →
      ∀ vlan ∈ port.pVlans, strlen vlan.vName ≤ 504) ∧
    (b.dot1 → (b.ovsdb → cfg.cLldpTlvPortProtoIdEnable) →
      ∀ pi ∈ port.pPids, pi.pPi.length ≤ 506) := by
  have hpvid : ∀ t ∈ pvidTlv b cfg port, t.Short := by
    unfold pvidTlv
    split <;> simp [@orgTlv_short LLDP_TLV_ORG_DOT1 rfl]
  have hppvid : ∀ t ∈ ppvidTlvs b cfg port, t.Short :=
    forall_flagged.2 fun _ _ _ => (orgTlv_short rfl).2 (by simp)
  have hvlan : (∀ t ∈ vlanTlvs b cfg port, t.Short) ↔
      ((b.ovsdb → cfg.cLldpTlvPortVlanNameEnable) →
        ∀ vlan ∈ port.pVlans, strlen vlan.vName ≤ 504) := by
    refine forall_flagged.trans (imp_congr_right fun _ => forall₂_congr fun vlan _ => ?_)
    rw [orgTlv_short rfl]; simp [strlen]; omega
  have hpi : (∀ t ∈ piTlvs b cfg port, t.Short) ↔
      ((b.ovsdb → cfg.cLldpTlvPortProtoIdEnable) →
        ∀ pi ∈ port.pPids, pi.pPi.length ≤ 506) := by
    refine forall_flagged.trans (imp_congr_right fun _ => forall₂_congr fun pi _ => ?_)
    rw [orgTlv_short rfl, length_flatten_pair]; omega
  rw [forall_dot1Tlvs, hvlan, hpi]
  exact ⟨fun h => ⟨fun hb => (h hb).2.2.1, fun hb => (h hb).2.2.2⟩,
    fun h hb => ⟨hpvid, hppvid, h.1 hb, h.2 hb⟩⟩

theorem dot3Tlvs_short : ∀ t ∈ dot3Tlvs b port, t.Short := by
  rw [forall_dot3Tlvs]
  refine fun _ => ⟨(orgTlv_short rfl).2 (by simp), (orgTlv_short rfl).2 (by simp), ?_, ?_⟩
  · unfold mfsTlv
    split <;> simp [@orgTlv_short LLDP_TLV_ORG_DOT3 rfl]
  · simp only [powerTlv]
    split
    · simp
    · split <;> simp [@orgTlv_short LLDP_TLV_ORG_DOT3 rfl]

theorem medTlvs_short : (∀ t ∈ medTlvs b chassis port, t.Short) ↔
    (b.lldpmed → port.pMedCapEnabled ≠ 0 → ∀ i : Fin LLDP_MED_LOCFORMAT_LAST,
      (port.pMedLocation.get i).format.toNat = i + 1 →
        (port.pMedLocation.get i).data.length ≤ 506) := by
  have hinv : ∀ value n, ∀ t ∈ inventoryTlv value n, t.Short := by
    rintro (_ | s) n
    · simp [inventoryTlv]
    · rw [inventoryTlv, List.forall_mem_singleton, orgTlv_short rfl, List.flatten_singleton,
        List.length_take]
      omega
  have hloc (i : Fin LLDP_MED_LOCFORMAT_LAST) : (∀ t ∈ locationTlv port i, t.Short) ↔
      ((port.pMedLocation.get i).format.toNat = i + 1 →
        (port.pMedLocation.get i).data.length ≤ 506) := by
    simp only [locationTlv]
    split
    · rw [List.forall_mem_singleton, orgTlv_short rfl, length_flatten_pair]
      omega
    · simp [*]
  have hpol (i : Fin LLDP_MED_APPTYPE_LAST) : ∀ t ∈ policyTlv port i, t.Short := by
    simp only [policyTlv]
    split <;> simp [@orgTlv_short LLDP_TLV_ORG_MED rfl]
  have hmdi : ∀ t ∈ mdiTlv port, t.Short := by
    simp only [mdiTlv]
    split <;> simp [@orgTlv_short LLDP_TLV_ORG_MED rfl]
  have hcap : (medCapTlv chassis).Short := (orgTlv_short rfl).2 (by simp)
  rw [forall_medTlvs]
  simp only [hloc]
  exact ⟨fun h hb hc => (h hb hc).2.2.1,
    fun h hb hc => ⟨hcap, forall_inventoryTlvs hinv, h hb hc, hpol, hmdi⟩⟩

theorem bodyTlvs_short : (∀ t ∈ bodyTlvs b cfg chassis port, t.Short) ↔
    ShortFields b cfg chassis port := by
  have hcap : ∀ t ∈ capTlv b cfg chassis, t.Short := by
    unfold capTlv
    split <;> simp [OutTlv.Short, OutTlv.payload]
  have hmgmt : ∀ t ∈ mgmtTlvs b cfg chassis, t.Short := by
    refine forall_flagged.2 fun _ mgmt _ => ?_
    have := mgmt.size_le
    have hlen : (mgmtTlv mgmt).payload.length = mgmt.mAddr.length + 8 := by
      unfold mgmtTlv OutTlv.payload
      split <;> simp
    unfold OutTlv.Short
    rw [hlen]; simp only [LLDPD_MGMT_MAXADDRSIZE] at this; omega
  have hid {n : Nat} {c : UInt8} {id : Bytes} :
      (OutTlv.mk n [[c], id]).Short ↔ id.length ≤ 510 := by
    unfold OutTlv.Short OutTlv.payload
    rw [length_flatten_pair]; omega
  have httl : (ttlTlv chassis).Short := by simp [OutTlv.Short, OutTlv.payload, ttlTlv]
  rw [forall_bodyTlvs, stringTlv_short, stringTlv_short, stringTlv_short, dot1Tlvs_short,
    medTlvs_short]
  constructor
  · rintro ⟨h1, h2, -, h4, h5, -, -, h8, h9, -, h11⟩
    exact ⟨hid.1 h1, hid.1 h2, h4, h5, h8, h9.1, h9.2, h11⟩
  · intro h
    exact ⟨hid.2 h.chassisId, hid.2 h.portId, httl, h.sysName, h.sysDescr, hcap, hmgmt, h.portDescr,
      ⟨h.vlans, h.pids⟩, dot3Tlvs_short, h.locations⟩

end Body

/-- **The frame**: header and TLVs, or nothing when they do not fit. -/
theorem writePdu_eq (b : Build) (cfg : Config) (chassis : Chassis) (hw : Hardware) :
    writePdu b cfg chassis hw =
      ((Packet.calloc hw.hMtu).poke (lldpHeader hw ++ encodeTlvs (pduTlvs b cfg chassis hw))).map
        fun q => ⟨q, bounds 14 (pduTlvs b cfg chassis hw)⟩ := by
  have htypes : ∀ t ∈ pduTlvs b cfg chassis hw, t.type < 128 := by
    simp only [pduTlvs, List.forall_mem_append]
    exact ⟨fun t ht => (bodyTlvs_goodType t ht).2, by simp [endTlv]⟩
  have hhead : writePdu b cfg chassis hw =
      ((⟨.calloc hw.hMtu, []⟩ : Pdu).poke (lldpHeader hw)).bind
        ((pduTlvs b cfg chassis hw).foldlM Pdu.pokeTlv) := by
    rw [lldpHeader, ← poke_poke, ← poke_poke]
    simp only [Option.bind_assoc]
    rfl
  rw [hhead, ← Packet.poke_append, Pdu.poke]
  cases hq : (Packet.calloc hw.hMtu).poke (lldpHeader hw) with
  | none => rfl
  | some q =>
    obtain ⟨-, -, hpos⟩ := Packet.poke_eq_some.1 hq
    have h14 : q.pos = 14 := by rw [hpos, lldpHeader_length]; rfl
    simp [Option.map_some, pokeTlvs_eq _ _ htypes, h14, List.nil_append]

theorem writePdu_none_iff {b : Build} {cfg : Config} {chassis : Chassis} {hw : Hardware} :
    writePdu b cfg chassis hw = none ↔ hw.hMtu < pduSize b cfg chassis hw := by
  rw [writePdu_eq, Option.map_eq_none_iff, Packet.poke_eq_none, List.length_append,
    lldpHeader_length]
  simp [Packet.calloc, pduSize]

theorem writePdu_some {b : Build} {cfg : Config} {chassis : Chassis} {hw : Hardware} {p : Pdu}
    (h : writePdu b cfg chassis hw = some p) :
    p.packet.written = lldpHeader hw ++ encodeTlvs (pduTlvs b cfg chassis hw) ∧
      p.closed = bounds 14 (pduTlvs b cfg chassis hw) := by
  rw [writePdu_eq, Option.map_eq_some_iff] at h
  obtain ⟨q, hq, rfl⟩ := h
  exact ⟨by simpa [Packet.written, Packet.calloc] using Packet.written_of_poke hq, rfl⟩

/-! ## Well-formed frames -/

def headerField (frame : Bytes) (s : Nat) : Nat :=
  (be16 (frame.getD s 0) (frame.getD (s + 1) 0)).toNat

/-- The TLVs written at the positions `closed`, from `s` to the end of the
frame: each length field says how many payload bytes were written, and the
last TLV, at the last two bytes of the frame, is the only End TLV. -/
def TlvSeq (frame : Bytes) : Nat → List (Nat × Nat) → Prop
  | _, [] => False
  | s, [(a, e)] => a = s ∧ e = s + 2 ∧ e = frame.length ∧ headerField frame s = 0
  | s, (a, e) :: rest =>
    a = s ∧ s + 2 ≤ e ∧ headerField frame s % 512 = e - (s + 2) ∧
      headerField frame s / 512 ≠ LLDP_TLV_END ∧ TlvSeq frame e rest

instance decidableTlvSeq (frame : Bytes) :
    (s : Nat) → (closed : List (Nat × Nat)) → Decidable (TlvSeq frame s closed)
  | _, [] => .isFalse id
  | s, [(a, e)] =>
    inferInstanceAs (Decidable (a = s ∧ e = s + 2 ∧ e = frame.length ∧ headerField frame s = 0))
  | s, (a, e) :: p :: rest =>
    have := decidableTlvSeq frame e (p :: rest)
    inferInstanceAs (Decidable (a = s ∧ s + 2 ≤ e ∧ headerField frame s % 512 = e - (s + 2) ∧
      headerField frame s / 512 ≠ LLDP_TLV_END ∧ TlvSeq frame e (p :: rest)))

def EthernetLldp (frame : Bytes) : Prop :=
  14 ≤ frame.length ∧ frame.take 6 = LLDP_MULTICAST_ADDR ∧
    (frame.drop 12).take 2 = be16Bytes ETHERTYPE_LLDP

theorem tlvSeq_cons {frame : Bytes} {s : Nat} {p : Nat × Nat} {rest : List (Nat × Nat)}
    (h : rest ≠ []) : TlvSeq frame s (p :: rest) ↔
      p.1 = s ∧ s + 2 ≤ p.2 ∧ headerField frame s % 512 = p.2 - (s + 2) ∧
        headerField frame s / 512 ≠ LLDP_TLV_END ∧ TlvSeq frame p.2 rest := by
  match rest, h with
  | _ :: _, _ => rfl

theorem headerField_encode (pre post : Bytes) {t : OutTlv} (ht : t.type < 128) :
    headerField (pre ++ (t.encode ++ post)) pre.length = t.type * 512 + t.payload.length % 512 := by
  have hf := be16_be16Bytes (UInt16.ofNat (t.type * 512 + t.payload.length % 512))
  simp only [headerField, OutTlv.encode, be16Bytes, List.getD_eq_getElem?_getD, List.cons_append]
  rw [List.getElem?_append_right (Nat.le_refl _), List.getElem?_append_right (by omega),
    Nat.sub_self, Nat.add_sub_cancel_left]
  simp only [List.getElem?_cons_zero, List.getElem?_cons_succ, Option.getD_some]
  rw [hf, UInt16.toNat_ofNat', Nat.mod_eq_of_lt (by omega)]

/-- Run lemma: the sequence is right when no payload is too long. -/
theorem tlvSeq_iff {ts : List OutTlv} (pre : Bytes) (ht : ∀ t ∈ ts, t.GoodType) :
    TlvSeq (pre ++ encodeTlvs (ts ++ [endTlv])) pre.length (bounds pre.length (ts ++ [endTlv])) ↔
      ∀ t ∈ ts, t.Short := by
  induction ts generalizing pre with
  | nil =>
    have hf : headerField (pre ++ (endTlv.encode ++ [])) pre.length = 0 :=
      headerField_encode pre [] (by decide)
    have hp : endTlv.payload = [] := rfl
    simp only [List.append_nil] at hf
    simp [TlvSeq, bounds, encodeTlvs, hf, hp]
  | cons t ts ih =>
    have hgood := ht t List.mem_cons_self
    have hf := headerField_encode pre (encodeTlvs (ts ++ [endTlv])) hgood.2
    have hne : bounds (pre.length + t.encode.length) (ts ++ [endTlv]) ≠ [] := by
      cases ts <;> simp [bounds]
    have hpre := ih (pre ++ t.encode) fun t' h => ht t' (List.mem_cons_of_mem _ h)
    rw [List.length_append, List.append_assoc] at hpre
    rw [List.forall_mem_cons, ← hpre, List.cons_append, bounds, tlvSeq_cons hne, encodeTlvs,
      List.flatMap_cons, ← encodeTlvs, hf, OutTlv.encode_length, OutTlv.Short]
    have htype : (t.type * 512 + t.payload.length % 512) / 512 ≠ LLDP_TLV_END := by
      have := hgood.1
      rw [LLDP_TLV_END]; omega
    constructor
    · rintro ⟨-, -, hlen, -, hrest⟩
      exact ⟨by omega, hrest⟩
    · rintro ⟨hlen, hrest⟩
      exact ⟨rfl, by omega, by omega, htype, hrest⟩

/-- The helper only touches the source address. -/
theorem interfacesSendHelper_append (cfg : Config) (hw : Hardware) {head : Bytes} (rest : Bytes)
    (h : 12 ≤ head.length) :
    interfacesSendHelper cfg hw (head ++ rest) = interfacesSendHelper cfg hw head ++ rest ∧
      (interfacesSendHelper cfg hw head).length = head.length ∧
      (interfacesSendHelper cfg hw head).take 6 = head.take 6 ∧
      (interfacesSendHelper cfg hw head).drop 12 = head.drop 12 := by
  have hget : (head ++ rest).getD 6 0 = head.getD 6 0 := by
    simp only [List.getD_eq_getElem?_getD]
    rw [List.getElem?_append_left (by omega)]
  have hpatch (bs : Bytes) (hb : bs.length ≤ 6) :
      patch (head ++ rest) 6 bs = patch head 6 bs ++ rest ∧
        (patch head 6 bs).length = head.length ∧ (patch head 6 bs).take 6 = head.take 6 ∧
        (patch head 6 bs).drop 12 = head.drop 12 := by
    refine ⟨patch_append (by omega), patch_length (by omega), patch_take (by omega), ?_⟩
    rw [patch, List.drop_append, List.drop_eq_nil_of_le (by simp; omega)]
    congr 1
    simp; omega
  unfold interfacesSendHelper mangleSource ETHER_ADDR_LEN
  split
  · split
    · rw [hget]
      split
      · exact hpatch _ (by simp)
      · exact hpatch _ (by simp)
    · exact hpatch _ (by simp)
    · exact hpatch _ (by simp)
    · exact ⟨rfl, rfl, rfl, rfl⟩
    · exact ⟨rfl, rfl, rfl, rfl⟩
  · exact ⟨rfl, rfl, rfl, rfl⟩

/-- What a call of `lldp_send` must do: the frame handed to the device is an
Ethernet header and a right sequence of TLVs, or the call returns `E2BIG` and
leaves the counter and the reference frame alone. -/
def SendsWellFormed (hw : Hardware) (r : Sent) : Prop :=
  match r.frame with
  | some frame => EthernetLldp frame ∧ TlvSeq frame 14 r.closed
  | none => r.ret = some .E2BIG ∧ r.hardware.hTxCnt = hw.hTxCnt ∧
      r.hardware.hLport.pLastframe = hw.hLport.pLastframe

instance (hw : Hardware) (r : Sent) : Decidable (SendsWellFormed hw r) := by
  unfold SendsWellFormed EthernetLldp
  split <;> infer_instance

theorem lldpSend_some {b : Build} {cfg : Config} {chassis : Chassis} {now : Int} {sendOk : Bool}
    {hw : Hardware} {p : Pdu} (hp : writePdu b cfg chassis hw = some p) :
    (lldpSend b cfg chassis now sendOk hw).frame =
        some (interfacesSendHelper cfg hw (lldpHeader hw) ++
          encodeTlvs (pduTlvs b cfg chassis hw)) ∧
      (lldpSend b cfg chassis now sendOk hw).closed = bounds 14 (pduTlvs b cfg chassis hw) := by
  obtain ⟨hwritten, hclosed⟩ := writePdu_some hp
  have h12 : 12 ≤ (lldpHeader hw).length := by rw [lldpHeader_length]; decide
  rw [← hclosed, ← (interfacesSendHelper_append cfg hw _ h12).1, ← hwritten]
  simp only [lldpSend, hp]
  cases sendOk <;> simp

theorem ethernetLldp_sent (cfg : Config) (hw : Hardware) (rest : Bytes) :
    EthernetLldp (interfacesSendHelper cfg hw (lldpHeader hw) ++ rest) := by
  have h14 := lldpHeader_length hw
  obtain ⟨-, hlen, htake, hdrop⟩ := interfacesSendHelper_append cfg hw []
    (by omega : 12 ≤ (lldpHeader hw).length)
  rw [h14] at hlen
  refine ⟨by simp [hlen], ?_, ?_⟩
  · rw [List.take_append_of_le_length (by omega), htake, lldpHeader]
    simp [LLDP_MULTICAST_ADDR]
  · rw [List.drop_append_of_le_length (by omega), hdrop, lldpHeader]
    rw [List.drop_append_of_le_length (by simp [LLDP_MULTICAST_ADDR, hw.hLladdr.2]),
      List.drop_eq_nil_of_le (by simp [LLDP_MULTICAST_ADDR, hw.hLladdr.2])]
    rfl

/-- **Well-formed emission, exactly.** Every call of `lldp_send` either sends
a frame whose length fields are right or sends nothing, if and only if the
frame does not fit in the MTU or no sent field is longer than its TLV can
say. -/
theorem lldpSend_wellFormed_iff (b : Build) (cfg : Config) (chassis : Chassis) (now : Int)
    (sendOk : Bool) (hw : Hardware) :
    SendsWellFormed hw (lldpSend b cfg chassis now sendOk hw) ↔
      hw.hMtu < pduSize b cfg chassis hw ∨ ShortFields b cfg chassis hw.hLport := by
  cases hp : writePdu b cfg chassis hw with
  | none =>
    simp only [lldpSend, hp, SendsWellFormed, and_self, true_iff]
    exact .inl (writePdu_none_iff.1 hp)
  | some p =>
    have hfits : ¬ hw.hMtu < pduSize b cfg chassis hw := fun h => by
      rw [writePdu_none_iff.2 h] at hp; cases hp
    obtain ⟨hframe, hclosed⟩ := @lldpSend_some b cfg chassis now sendOk hw p hp
    have hlen : (interfacesSendHelper cfg hw (lldpHeader hw)).length = 14 := by
      rw [(interfacesSendHelper_append cfg hw [] (by rw [lldpHeader_length]; decide)).2.1,
        lldpHeader_length]
    have hseq := tlvSeq_iff (interfacesSendHelper cfg hw (lldpHeader hw))
      (@bodyTlvs_goodType b cfg chassis hw.hLport)
    rw [hlen, bodyTlvs_short] at hseq
    simp only [SendsWellFormed, hframe, hclosed, ethernetLldp_sent, true_and, hfits, false_or]
    exact hseq

/-- A description of 512 bytes goes out with a length field of 0. -/
theorem lldpSend_long_descr :
    ¬ SendsWellFormed { hMtu := 600, hLport := { pIdSubtype := 7, pId := some [112] } }
      (lldpSend .full {}
        { cIdSubtype := 7, cId := some [97], cDescr := some (List.replicate 512 97) } 0 true
        { hMtu := 600, hLport := { pIdSubtype := 7, pId := some [112] } }) := by
  decide +kernel

end Lldpd.Lldp
