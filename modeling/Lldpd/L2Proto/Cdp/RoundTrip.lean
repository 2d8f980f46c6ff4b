import Mathlib.Data.Nat.Bitwise
import Lldpd.L2Proto.Cdp.Safety
import Lldpd.L2Proto.Cdp.Send

/-!
# What `cdp_send` says is what `cdp_decode` hears

The frame of `cdp_send` carries five to eight TLVs with a length of two bytes
each. `cdpDecode_cdpSend` says that a receiver accepts it and what it learns,
for CDP of both versions and for FDP. The length of a TLV is written as it
comes, so the addresses of a chassis can outgrow it like a string can
(`too_many_addresses`).

A receiver learns of a management address its four bytes, not its interface.
-/
namespace Lldpd.Cdp
open Lldpd.Core Lldpd.Lldp

/-! ## The TLVs of a frame that was written -/

/-- The TLVs as the decoder sees them, in front of `after`. -/
def attach : List OutTlv → Bytes → List Tlv
  | [], _ => []
  | t :: ts, after => ⟨t.type, t.payload, ts.flatMap encodeTlv ++ after⟩ :: attach ts after

theorem attach_append (xs ys : List OutTlv) (after : Bytes) :
    attach (xs ++ ys) after = attach xs (ys.flatMap encodeTlv ++ after) ++ attach ys after := by
  induction xs with
  | nil => rfl
  | cons x xs ih => simp [attach, ih]

structure Encodable (t : OutTlv) : Prop where
  type : t.type < 65536
  length : t.payload.length ≤ 65531

theorem tlvAt_encodeTlv {t : OutTlv} (h : Encodable t) (rest : Bytes) :
    tlvAt (encodeTlv t ++ rest) = some ⟨t.type, t.payload, rest⟩ := by
  have hlen := h.length
  have htype : (UInt16.ofNat t.type).toNat = t.type := by
    rw [UInt16.toNat_ofNat', Nat.mod_eq_of_lt h.type]
  have hsize : (UInt16.ofNat (t.payload.length + 4)).toNat = t.payload.length + 4 := by
    rw [UInt16.toNat_ofNat', Nat.mod_eq_of_lt (by omega)]
  simp only [encodeTlv, be16Bytes, List.cons_append, List.nil_append, tlvAt, be16_be16Bytes]
  rw [htype, hsize]
  simp

/-- Cutting what was written gives what was written. -/
theorem tlvs_encodeTlvs {ts : List OutTlv} (h : ∀ t ∈ ts, Encodable t) :
    tlvs (ts.flatMap encodeTlv) = attach ts [] ∧ complete (ts.flatMap encodeTlv) = true := by
  induction ts with
  | nil => exact tlvs_of_none rfl
  | cons t ts ih =>
    have hat := tlvAt_encodeTlv (h t List.mem_cons_self) (ts.flatMap encodeTlv)
    obtain ⟨hts, hco⟩ := tlvs_of_some hat
    obtain ⟨ihts, ihco⟩ := ih fun t ht => h t (List.mem_cons_of_mem _ ht)
    rw [List.flatMap_cons, hts, hco]
    refine ⟨?_, ihco⟩
    rw [ihts, attach, List.append_nil]

/-- A length that wraps below four stops the decoder. -/
theorem complete_of_wrapped {t : OutTlv} (h : (UInt16.ofNat (t.payload.length + 4)).toNat < 4)
    (rest : Bytes) : complete (encodeTlv t ++ rest) = false := by
  have hnone : tlvAt (encodeTlv t ++ rest) = none := by
    simp only [encodeTlv, be16Bytes, List.cons_append, List.nil_append, tlvAt, be16_be16Bytes]
    rw [if_pos (.inl h)]
  rw [(tlvs_of_none hnone).2]
  rfl

/-! ## Composition -/

/-- `xs`, in front of any bytes, takes the decoder from `d` to `d'`. -/
def Decodes (b : Build) (fdp : Bool) (xs : List OutTlv) (d d' : Dec) : Prop :=
  ∀ after, (attach xs after).foldlM (applyTlv b .frame fdp) d = .ok d'

section Compose
variable {b : Build} {fdp : Bool} {d d' d'' : Dec} {xs ys : List OutTlv}

theorem Decodes.nil : Decodes b fdp [] d d := fun _ => rfl

theorem Decodes.append (hx : Decodes b fdp xs d d') (hy : Decodes b fdp ys d' d'') :
    Decodes b fdp (xs ++ ys) d d'' := by
  intro after
  rw [attach_append, List.foldlM_append, hx]
  exact hy after

theorem Decodes.one {type : Nat} {value : Bytes} (hne : type ≠ CDP_TLV_ADDRESSES)
    (hs : Tlv.short b fdp ⟨type, value, []⟩ = false) :
    Decodes b fdp [⟨type, [value]⟩] d (Tlv.effect b fdp ⟨type, value, []⟩ d) := by
  intro after
  have hpay : OutTlv.payload ⟨type, [value]⟩ = value := by
    simp [OutTlv.payload]
  have hone : applyTlv b .frame fdp d ⟨type, value, after⟩ =
      .ok (Tlv.effect b fdp ⟨type, value, []⟩ d) := by
    rw [applyTlv_other hne]
    show (if Tlv.short b fdp ⟨type, value, []⟩ then refuse d
      else .ok (Tlv.effect b fdp ⟨type, value, []⟩ d)) = _
    rw [hs]
    rfl
  show applyTlv b .frame fdp d ⟨type, OutTlv.payload ⟨type, [value]⟩, after⟩ >>= _ = _
  rw [hpay, hone]
  rfl

end Compose

/-! ## The addresses -/

/-- What the receiver learns of a management address. -/
def heardMgmt (m : Mgmt) : Mgmt where
  mFamily := .ipv4
  mAddr := m.addrBytes.take 4
  mIface := 0
  size_le := Nat.le_trans (List.length_take_le _ _) (by decide)

def ipv4Mgmt (chassis : Chassis) : List Mgmt := chassis.cMgmt.filter fun mgmt => mgmt.mFamily = .ipv4

section Addresses
variable {b : Build} {fdp : Bool} {d : Dec} {chassis : Chassis}

theorem address_bytes (m : Mgmt) : ∃ w x y z, m.addrBytes.take 4 = [w, x, y, z] ∧
    (addressPokes m).flatten = [1, 1, CDP_ADDRESS_PROTO_IP, 0, 4, w, x, y, z] := by
  have hlen : (m.addrBytes.take 4).length = 4 := by
    rw [List.length_take, m.length_addrBytes]
    rfl
  unfold addressPokes
  generalize m.addrBytes.take 4 = a at hlen ⊢
  match a, hlen with
  | [w, x, y, z], _ => exact ⟨w, x, y, z, rfl, rfl⟩

theorem length_addresses (ms : List Mgmt) :
    (ms.flatMap fun m => (addressPokes m).flatten).length = 9 * ms.length := by
  induction ms with
  | nil => rfl
  | cons m ms ih =>
    obtain ⟨w, x, y, z, -, hm⟩ := address_bytes m
    rw [List.flatMap_cons, List.length_append, hm]
    simp only [List.length_cons, List.length_nil]
    omega

/-- Run lemma: the count goes down by five for each address of nine bytes. -/
theorem decodeAddresses_sent (ms : List Mgmt) {count : Nat} (h : 9 * ms.length ≤ count)
    (past : Nat) (rest : Bytes) (d : Dec) :
    decodeAddresses ms.length count ⟨(ms.flatMap fun m => (addressPokes m).flatten) ++ rest, past⟩ d =
      .ok { d with chassis.cMgmt := d.chassis.cMgmt ++ ms.map heardMgmt } := by
  induction ms generalizing count past d with
  | nil => simp [decodeAddresses]
  | cons m ms ih =>
    obtain ⟨w, x, y, z, haddr, hm⟩ := address_bytes m
    simp only [List.length_cons] at h
    rw [List.flatMap_cons, hm, List.append_assoc, List.length_cons, decodeAddresses_succ]
    generalize (ms.flatMap fun m => (addressPokes m).flatten) ++ rest = left at ih ⊢
    have hp : protocolLen ([1, 1, CDP_ADDRESS_PROTO_IP, 0, 4, w, x, y, z] ++ left) = 1 := rfl
    have he : entrySize ([1, 1, CDP_ADDRESS_PROTO_IP, 0, 4, w, x, y, z] ++ left) = 9 := by
      have ha : addressLen ([1, 1, CDP_ADDRESS_PROTO_IP, 0, 4, w, x, y, z] ++ left) = 4 := by
        show (be16 0 4).toNat = 4
        decide
      rw [entrySize, hp, ha]
    have hv : isIpv4 ([1, 1, CDP_ADDRESS_PROTO_IP, 0, 4, w, x, y, z] ++ left) = true :=
      isIpv4_cons.trans (by decide)
    have hl : ([1, 1, CDP_ADDRESS_PROTO_IP, 0, 4, w, x, y, z] ++ left).length = left.length + 9 := by
      simp
    have hmgmt : entryMgmt ([1, 1, CDP_ADDRESS_PROTO_IP, 0, 4, w, x, y, z] ++ left) = heardMgmt m := by
      simp only [heardMgmt, haddr]
      rfl
    rw [he, hl, if_neg (by omega), if_neg (by omega), if_neg (by omega), if_neg (by omega),
      if_neg (by omega), addEntry, if_pos hv, hmgmt]
    rw [show ([1, 1, CDP_ADDRESS_PROTO_IP, 0, 4, w, x, y, z] ++ left).drop 9 = left from rfl,
      ih (by omega)]
    simp

theorem address_payload (ms : List Mgmt) : OutTlv.payload ⟨CDP_TLV_ADDRESSES,
    be32Bytes (UInt32.ofNat ms.length) :: ms.flatMap addressPokes⟩ =
      be32Bytes (UInt32.ofNat ms.length) ++ ms.flatMap fun m => (addressPokes m).flatten := by
  have hflat : (ms.flatMap addressPokes).flatten = ms.flatMap fun m => (addressPokes m).flatten := by
    rw [List.flatMap_def, List.flatten_flatten, List.map_map]
    rfl
  rw [OutTlv.payload, List.flatten_cons, hflat]

theorem addressTlv_eq (chassis : Chassis) : addressTlv chassis =
    if ipv4Mgmt chassis = [] then [] else [⟨CDP_TLV_ADDRESSES,
      be32Bytes (UInt32.ofNat (ipv4Mgmt chassis).length) ::
        (ipv4Mgmt chassis).flatMap addressPokes⟩] := rfl

theorem length_address_payload (ms : List Mgmt) : (OutTlv.payload ⟨CDP_TLV_ADDRESSES,
    be32Bytes (UInt32.ofNat ms.length) :: ms.flatMap addressPokes⟩).length = 4 + 9 * ms.length := by
  rw [address_payload, List.length_append, length_addresses, be32Bytes_length]

theorem decodes_addresses (h : (ipv4Mgmt chassis).length ≤ 7280) :
    Decodes b fdp (addressTlv chassis) d
      { d with chassis.cMgmt := d.chassis.cMgmt ++ (ipv4Mgmt chassis).map heardMgmt } := by
  rw [addressTlv_eq]
  generalize ipv4Mgmt chassis = ms at h ⊢
  split
  · rename_i hnil
    rw [hnil, List.map_nil, List.append_nil]
    exact .nil
  · intro after
    have hcount : (UInt32.ofNat ms.length).toNat = ms.length := by
      rw [UInt32.toNat_ofNat', Nat.mod_eq_of_lt (by omega)]
    show applyTlv b .frame fdp d ⟨CDP_TLV_ADDRESSES, _, _⟩ >>= _ = _
    rw [address_payload, applyTlv_addresses rfl, short_addresses rfl]
    have hsize : Tlv.size ⟨CDP_TLV_ADDRESSES, be32Bytes (UInt32.ofNat ms.length) ++
        ms.flatMap fun m => (addressPokes m).flatten, [].flatMap encodeTlv ++ after⟩ =
        4 + 9 * ms.length := by
      rw [Tlv.size, List.length_append, length_addresses, be32Bytes_length]
    have hnb : Tlv.addresses ⟨CDP_TLV_ADDRESSES, be32Bytes (UInt32.ofNat ms.length) ++
        ms.flatMap fun m => (addressPokes m).flatten, [].flatMap encodeTlv ++ after⟩ = ms.length := by
      have hu : Tlv.u32 ⟨CDP_TLV_ADDRESSES, be32Bytes (UInt32.ofNat ms.length) ++
          ms.flatMap fun m => (addressPokes m).flatten, [].flatMap encodeTlv ++ after⟩ =
          UInt32.ofNat ms.length := be32_be32Bytes _
      rw [Tlv.addresses, hu, iterations, hcount, if_pos (by omega)]
    have hrun := decodeAddresses_sent ms (Nat.le_of_eq (Nat.add_sub_cancel_left 4 _).symm) 0 after d
    rw [hsize, hnb, if_neg (by simp)]
    show decodeAddresses ms.length (4 + 9 * ms.length - 4)
      ⟨(ms.flatMap fun m => (addressPokes m).flatten) ++ after, 0⟩ d >>= _ = _
    rw [hrun]
    rfl

theorem encodable_address (h : (ipv4Mgmt chassis).length ≤ 7280) :
    ∀ t ∈ addressTlv chassis, Encodable t := by
  intro t ht
  rw [addressTlv_eq] at ht
  split at ht
  · exact absurd ht List.not_mem_nil
  · rw [List.mem_singleton.1 ht]
    refine ⟨show CDP_TLV_ADDRESSES < 65536 by decide, ?_⟩
    rw [length_address_payload]
    omega

end Addresses

/-! ## The other TLVs -/

section Tlvs
variable {b : Build} {fdp : Bool} {d : Dec} {chassis : Chassis} {port : Port} {version : Nat}

theorem and_bit (c : UInt16) (k : Nat) (hk : k < 16) :
    c &&& UInt16.ofNat (Nat.pow 2 k) = 0 ∨
      c &&& UInt16.ofNat (Nat.pow 2 k) = UInt16.ofNat (Nat.pow 2 k) := by
  have hpow : Nat.pow 2 k < 65536 := Nat.pow_lt_pow_right (by decide) hk
  have hand : (c &&& UInt16.ofNat (Nat.pow 2 k)).toNat = (c.toNat.testBit k).toNat * Nat.pow 2 k := by
    rw [UInt16.toNat_and, UInt16.toNat_ofNat', Nat.mod_eq_of_lt hpow]
    exact Nat.and_two_pow c.toNat k
  cases hbit : c.toNat.testBit k with
  | false =>
    left
    apply UInt16.toNat_inj.1
    rw [hand, hbit]
    simp
  | true =>
    right
    apply UInt16.toNat_inj.1
    rw [hand, hbit, UInt16.toNat_ofNat', Nat.mod_eq_of_lt hpow]
    simp

def heardCapabilities (version : Nat) (enabled : UInt16) : UInt16 :=
  if version = 0 then
    if enabled &&& LLDP_CAP_ROUTER ≠ 0 then LLDP_CAP_ROUTER
    else if enabled &&& LLDP_CAP_BRIDGE ≠ 0 then LLDP_CAP_BRIDGE
    else if enabled &&& LLDP_CAP_REPEATER ≠ 0 then LLDP_CAP_REPEATER
    else LLDP_CAP_STATION
  else if enabled &&& (LLDP_CAP_ROUTER ||| LLDP_CAP_BRIDGE) = 0 then LLDP_CAP_STATION
  else enabled &&& (LLDP_CAP_ROUTER ||| LLDP_CAP_BRIDGE)

theorem cdpCapability_sent (c : UInt16) :
    cdpCapability ((if c &&& LLDP_CAP_ROUTER ≠ 0 then CDP_CAP_ROUTER else 0) |||
      (if c &&& LLDP_CAP_BRIDGE ≠ 0 then CDP_CAP_SWITCH else 0) ||| CDP_CAP_HOST) 0 =
    if c &&& (LLDP_CAP_ROUTER ||| LLDP_CAP_BRIDGE) = 0 then LLDP_CAP_STATION
    else c &&& (LLDP_CAP_ROUTER ||| LLDP_CAP_BRIDGE) := by
  have hboth : c &&& (LLDP_CAP_ROUTER ||| LLDP_CAP_BRIDGE) =
      (c &&& LLDP_CAP_ROUTER) ||| (c &&& LLDP_CAP_BRIDGE) := by
    apply UInt16.toNat_inj.1
    rw [UInt16.toNat_and, UInt16.toNat_or, UInt16.toNat_or, UInt16.toNat_and, UInt16.toNat_and,
      Nat.and_or_distrib_left]
  have hrouter : c &&& LLDP_CAP_ROUTER = 0 ∨ c &&& LLDP_CAP_ROUTER = LLDP_CAP_ROUTER :=
    and_bit c 4 (by decide)
  have hbridge : c &&& LLDP_CAP_BRIDGE = 0 ∨ c &&& LLDP_CAP_BRIDGE = LLDP_CAP_BRIDGE :=
    and_bit c 2 (by decide)
  rw [hboth]
  rcases hrouter with hr | hr
  · rcases hbridge with hb | hb
    · rw [hr, hb]
      decide
    · rw [hr, hb]
      decide
  · rcases hbridge with hb | hb
    · rw [hr, hb]
      decide
    · rw [hr, hb]
      decide

theorem decodes_capabilities (hfdp : fdp = decide (version = 0)) (hd : d.chassis.cCapEnabled = 0) :
    Decodes b fdp [capabilitiesTlv version chassis] d
      { d with
        chassis.cCapEnabled := heardCapabilities version chassis.cCapEnabled
        chassis.cCapAvailable := heardCapabilities version chassis.cCapEnabled } := by
  unfold capabilitiesTlv heardCapabilities
  by_cases hv : version = 0
  · subst hv
    subst hfdp
    have hone (name : Bytes) : Decodes b (decide (0 = 0)) [⟨CDP_TLV_CAPABILITIES, [name]⟩] d
        { d with chassis.cCapEnabled := fdpCapability name
                 chassis.cCapAvailable := fdpCapability name } := by
      exact .one (by decide) rfl
    simp only [ne_eq, not_true_eq_false, if_false]
    split
    · exact hone _
    · split
      · exact hone _
      · split
        · exact hone _
        · exact hone _
  · have hno : fdp = false := by rw [hfdp, decide_eq_false hv]
    subst hno
    have hone (caps : UInt32) : Decodes b false [⟨CDP_TLV_CAPABILITIES, [be32Bytes caps]⟩] d
        { d with chassis.cCapEnabled := cdpCapability caps 0
                 chassis.cCapAvailable := cdpCapability caps 0 } := by
      have hu : Tlv.u32 ⟨CDP_TLV_CAPABILITIES, be32Bytes caps, []⟩ = caps := be32_be32Bytes caps
      have heff : Tlv.effect b false ⟨CDP_TLV_CAPABILITIES, be32Bytes caps, []⟩ d =
          { d with
            chassis.cCapEnabled := cdpCapability
              (Tlv.u32 ⟨CDP_TLV_CAPABILITIES, be32Bytes caps, []⟩) d.chassis.cCapEnabled
            chassis.cCapAvailable := cdpCapability
              (Tlv.u32 ⟨CDP_TLV_CAPABILITIES, be32Bytes caps, []⟩) d.chassis.cCapEnabled } := rfl
      rw [hu, hd] at heff
      rw [← heff]
      exact .one (by decide) rfl
    rw [if_pos hv, if_neg hv, ← cdpCapability_sent]
    exact hone _

def heardVlan (pvid : UInt16) : Vlan := ⟨ascii s!"VLAN #{pvid.toNat}", pvid⟩

def TellsVlan (b : Build) (version : Nat) (port : Port) : Prop :=
  b.dot1 = true ∧ 2 ≤ version ∧ port.pPvid ≠ 0

instance : Decidable (TellsVlan b version port) := inferInstanceAs (Decidable (_ ∧ _))

def heardVlans (b : Build) (version : Nat) (port p : Port) : Port :=
  if TellsVlan b version port then
    { p with pPvid := port.pPvid, pVlans := p.pVlans ++ [heardVlan port.pPvid] }
  else p

theorem decodes_nativeVlan : Decodes b fdp (nativeVlanTlv b version port) d
    { d with port := heardVlans b version port d.port } := by
  unfold nativeVlanTlv heardVlans
  by_cases h : TellsVlan b version port
  · have hu : Tlv.u16 ⟨CDP_TLV_NATIVEVLAN, be16Bytes port.pPvid, []⟩ = port.pPvid :=
      be16_be16Bytes _
    have hshort : Tlv.short b fdp ⟨CDP_TLV_NATIVEVLAN, be16Bytes port.pPvid, []⟩ = false := by
      show (b.dot1 && false) = false
      rw [Bool.and_false]
    have hone : Decodes b fdp [⟨CDP_TLV_NATIVEVLAN, [be16Bytes port.pPvid]⟩] d _ :=
      .one (by decide) hshort
    have heff : Tlv.effect b fdp ⟨CDP_TLV_NATIVEVLAN, be16Bytes port.pPvid, []⟩ d =
        { d with port.pPvid := port.pPvid, port.pVlans := d.port.pVlans ++ [heardVlan port.pPvid] } := by
      show (if b.dot1 then _ else _) = _
      rw [if_pos h.1, hu]
      rfl
    rw [heff] at hone
    rw [if_pos h, if_pos (show b.dot1 = true ∧ 2 ≤ version ∧ port.pPvid ≠ 0 from h)]
    exact hone
  · rw [if_neg h, if_neg (show ¬ (b.dot1 = true ∧ 2 ≤ version ∧ port.pPvid ≠ 0) from h)]
    exact .nil

/-- A receiver counts the power TLV and does nothing else with it. -/
theorem decodes_power : ∃ n, Decodes b fdp (powerTlv b version port) d
    { d with hRxUnrecognizedCnt := n } := by
  unfold powerTlv
  split
  · exact ⟨d.hRxUnrecognizedCnt + 1, .one (by decide) rfl⟩
  · exact ⟨d.hRxUnrecognizedCnt, .nil⟩

end Tlvs

/-! ## The frame -/

/-- The senders of the round trip: what the TLVs and the header can hold. -/
structure Sendable (b : Build) (cfg : Config) (chassis : Chassis) (port : Port) (version : Nat)
    (name descr : Bytes) : Prop where
  known : version = 1 ∨ version = 2 ∨ version = 0 ∧ b.fdp = true
  cName : chassis.cName = some name
  name_ne : name ≠ []
  name_noNul : 0 ∉ name
  name_length : name.length ≤ 65531
  pDescr : port.pDescr = some descr
  descr_ne : descr ≠ []
  descr_noNul : 0 ∉ descr
  descr_length : descr.length ≤ 65531
  software_length : (optionalString chassis.cDescr).length ≤ 65531
  platform_length : (cstr (cfg.cPlatform.getD (ascii "Linux"))).length ≤ 65531
  ttl_pos : 1 ≤ chassis.cTtl.toNat
  ttl_le : chassis.cTtl.toNat ≤ 255

/-- What a receiver learns of the chassis from its first two TLVs. -/
def heardIds (chassis : Chassis) (name : Bytes) : Chassis where
  cTtl := chassis.cTtl
  cName := some name
  cIdSubtype := LLDP_CHASSISID_SUBTYPE_LOCAL
  cId := some name
  cMgmt := (ipv4Mgmt chassis).map heardMgmt

def heardChassis (version : Nat) (chassis : Chassis) (name : Bytes) : Chassis :=
  { heardIds chassis name with
    cCapEnabled := heardCapabilities version chassis.cCapEnabled
    cCapAvailable := heardCapabilities version chassis.cCapEnabled }

/-- What a receiver learns of the port, its VLAN apart. -/
def heardPort (descr : Bytes) : Port where
  pDescr := some descr
  pIdSubtype := LLDP_PORTID_SUBTYPE_IFNAME
  pId := some descr

/-- What a receiver has learnt at the end of the frame. -/
def heardDec (b : Build) (cfg : Config) (chassis : Chassis) (port : Port) (version : Nat)
    (name descr : Bytes) (n : Nat) : Dec where
  chassis := heardChassis version chassis name
  port := heardVlans b version port (heardPort descr)
  software := some (optionalString chassis.cDescr)
  platform := some (cstr (cfg.cPlatform.getD (ascii "Linux")))
  hRxUnrecognizedCnt := n

section Frame
variable {b : Build} {cfg : Config} {chassis : Chassis} {hw : Hardware} {version : Nat}
  {name descr : Bytes}

section
variable (h : Sendable b cfg chassis hw.hLport version name descr)
include h

theorem Sendable.optionalString_cName : optionalString chassis.cName = name := by
  rw [h.cName]
  exact cstr_eq_self h.name_noNul

theorem Sendable.optionalString_pDescr : optionalString hw.hLport.pDescr = descr := by
  rw [h.pDescr]
  exact cstr_eq_self h.descr_noNul

theorem decodes_cdpTlvs {fdp : Bool}
    (hmgmt : (ipv4Mgmt chassis).length ≤ 7280) (hfdp : fdp = decide (version = 0)) :
    ∃ n, Decodes b fdp (cdpTlvs b version cfg chassis hw.hLport) { chassis.cTtl := chassis.cTtl }
      (heardDec b cfg chassis hw.hLport version name descr n) := by
  have hlong : Tlv.short b fdp ⟨CDP_TLV_PORT, descr, []⟩ = false := by
    apply decide_eq_false
    intro hz
    exact h.descr_ne (List.length_eq_zero_iff.1 hz)
  have hids : Decodes b fdp ([⟨CDP_TLV_CHASSIS, [name]⟩] ++ addressTlv chassis)
      { chassis.cTtl := chassis.cTtl } { chassis := heardIds chassis name } :=
    Decodes.append (.one (by decide) rfl) (decodes_addresses hmgmt)
  have hport : Decodes b fdp [⟨CDP_TLV_PORT, [descr]⟩, capabilitiesTlv version chassis]
      { chassis := heardIds chassis name }
      { chassis := heardChassis version chassis name, port := heardPort descr } :=
    Decodes.append (.one (by decide) hlong) (decodes_capabilities hfdp rfl)
  have hvlan : Decodes b fdp (nativeVlanTlv b version hw.hLport)
      { chassis := heardChassis version chassis name, port := heardPort descr }
      { chassis := heardChassis version chassis name
        port := heardVlans b version hw.hLport (heardPort descr) } := decodes_nativeVlan
  have hlast : Decodes b fdp
      [⟨CDP_TLV_SOFTWARE, [optionalString chassis.cDescr]⟩,
        ⟨CDP_TLV_PLATFORM, [cstr (cfg.cPlatform.getD (ascii "Linux"))]⟩]
      { chassis := heardChassis version chassis name
        port := heardVlans b version hw.hLport (heardPort descr) }
      (heardDec b cfg chassis hw.hLport version name descr 0) :=
    Decodes.append (.one (by decide) rfl) (.one (by decide) rfl)
  obtain ⟨n, hpower⟩ := decodes_power
  refine ⟨n, ?_⟩
  unfold cdpTlvs
  rw [h.optionalString_cName, h.optionalString_pDescr]
  exact (((hids.append hport).append hvlan).append hlast).append hpower

theorem encodable_cdpTlvs (hmgmt : (ipv4Mgmt chassis).length ≤ 7280) :
    ∀ t ∈ cdpTlvs b version cfg chassis hw.hLport, Encodable t := by
  have hone (type : Nat) (value : Bytes) (ht : type < 65536) (hv : value.length ≤ 65531) :
      Encodable ⟨type, [value]⟩ := by
    refine ⟨ht, ?_⟩
    simpa [OutTlv.payload] using hv
  have hname := h.name_length
  rw [← h.optionalString_cName] at hname
  have hdescr := h.descr_length
  rw [← h.optionalString_pDescr] at hdescr
  intro t ht
  simp only [cdpTlvs, List.mem_append, List.mem_cons, List.not_mem_nil, or_false] at ht
  rcases ht with ((((ht | ht) | ht | ht) | ht) | ht | ht) | ht
  · rw [ht]
    exact hone _ _ (by decide) hname
  · exact encodable_address hmgmt t ht
  · rw [ht]
    exact hone _ _ (by decide) hdescr
  · rw [ht]
    unfold capabilitiesTlv
    split
    · exact hone _ _ (by decide) (by rw [be32Bytes_length]; decide)
    · apply hone _ _ (by decide)
      split
      · decide
      · split
        · decide
        · split <;> decide
  · unfold nativeVlanTlv at ht
    split at ht
    · rw [List.mem_singleton.1 ht]
      exact hone _ _ (by decide) (by rw [be16Bytes_length]; decide)
    · exact absurd ht List.not_mem_nil
  · rw [ht]
    exact hone _ _ (by decide) h.software_length
  · rw [ht]
    exact hone _ _ (by decide) h.platform_length
  · unfold powerTlv at ht
    split at ht
    · rw [List.mem_singleton.1 ht]
      exact hone _ _ (by decide) (by rw [be16Bytes_length]; decide)
    · exact absurd ht List.not_mem_nil

end

/-- The header as the receiver reads it: the helper of the interface changes
nothing but the source address. -/
theorem header_sent (cfg : Config) (chassis : Chassis) (hw : Hardware)
    (hv : version = 1 ∨ version = 2 ∨ version = 0 ∧ b.fdp = true) :
    headerOk b (interfacesSendHelper cfg hw (cdpPdu b cfg chassis hw version)) = true ∧
      isFdp (interfacesSendHelper cfg hw (cdpPdu b cfg chassis hw version)) = decide (version = 0) ∧
      (interfacesSendHelper cfg hw (cdpPdu b cfg chassis hw version)).getD 23 0 =
        chassis.cTtl.toUInt8 ∧
      (interfacesSendHelper cfg hw (cdpPdu b cfg chassis hw version)).drop 26 =
        cdpBody b cfg chassis hw version := by
  obtain ⟨happ, hlen, htake, -⟩ := interfacesSendHelper_append cfg hw
    (be16Bytes (UInt16.ofNat (12 + (cdpBody b cfg chassis hw version).length)) ++
      (llcHead version ++ (cdpHead chassis version ++
        (be16Bytes (cdpChecksum b cfg chassis hw version) ++ cdpBody b cfg chassis hw version))))
    (Nat.le_of_eq (length_etherHead hw version).symm)
  have hdst : (etherHead hw version).take 6 =
      if version = 0 then FDP_MULTICAST_ADDR else CDP_MULTICAST_ADDR := by
    unfold etherHead
    split <;> rfl
  unfold cdpPdu
  rw [happ]
  rw [length_etherHead] at hlen
  rw [hdst] at htake
  generalize interfacesSendHelper cfg hw (etherHead hw version) = head at hlen htake ⊢
  generalize cdpBody b cfg chassis hw version = body
  match head, hlen with
  | [a0, a1, a2, a3, a4, a5, a6, a7, a8, a9, a10, a11], _ =>
    have htaken (rest : Bytes) : ([a0, a1, a2, a3, a4, a5, a6, a7, a8, a9, a10, a11] ++ rest).take 6 =
        if version = 0 then FDP_MULTICAST_ADDR else CDP_MULTICAST_ADDR := htake
    refine ⟨?_, ?_, ?_, ?_⟩
    · unfold headerOk
      rw [htaken, decide_eq_true_eq]
      refine ⟨?_, ?_, ?_, ?_, ?_⟩
      · simp [length_llcHead, length_cdpHead]
        omega
      · rcases hv with rfl | rfl | ⟨rfl, hfdp⟩
        · exact .inl rfl
        · exact .inl rfl
        · exact .inr hfdp
      · show 14 + (be16 (UInt8.ofNat ((UInt16.ofNat (12 + body.length)).toNat / 256))
          (UInt8.ofNat (UInt16.ofNat (12 + body.length)).toNat)).toNat ≤ _
        simp [length_llcHead, length_cdpHead]
        omega
      · rcases hv with rfl | rfl | ⟨rfl, -⟩ <;> exact be16_be16Bytes LLC_PID_CDP
      · rcases hv with rfl | rfl | ⟨rfl, -⟩
        · exact .inl rfl
        · exact .inr rfl
        · exact .inl rfl
    · unfold isFdp
      rw [htaken]
      rcases hv with rfl | rfl | ⟨rfl, -⟩ <;> decide
    · rcases hv with rfl | rfl | ⟨rfl, -⟩ <;> rfl
    · rcases hv with rfl | rfl | ⟨rfl, -⟩ <;> rfl

end Frame

/-- What a receiver makes of the frame. -/
structure Heard (b : Build) (version : Nat) (cfg : Config) (chassis : Chassis) (port : Port)
    (name descr : Bytes) (d : Dec) : Prop where
  cName : d.chassis.cName = some name
  cIdSubtype : d.chassis.cIdSubtype = LLDP_CHASSISID_SUBTYPE_LOCAL
  cId : d.chassis.cId = some name
  cTtl : d.chassis.cTtl = chassis.cTtl
  cMgmt : d.chassis.cMgmt = (ipv4Mgmt chassis).map heardMgmt
  pDescr : d.port.pDescr = some descr
  pIdSubtype : d.port.pIdSubtype = LLDP_PORTID_SUBTYPE_IFNAME
  pId : d.port.pId = some descr
  cDescr : d.chassis.cDescr = some (cstr (cfg.cPlatform.getD (ascii "Linux")) ++
    ascii " running on\n" ++ optionalString chassis.cDescr)
  cCapEnabled : d.chassis.cCapEnabled = heardCapabilities version chassis.cCapEnabled
  cCapAvailable : d.chassis.cCapAvailable = heardCapabilities version chassis.cCapEnabled
  pPvid : d.port.pPvid = if TellsVlan b version port then port.pPvid else 0
  pVlans : d.port.pVlans = if TellsVlan b version port then [heardVlan port.pPvid] else []

theorem heardCapabilities_ne_zero (version : Nat) (enabled : UInt16) :
    heardCapabilities version enabled ≠ 0 := by
  unfold heardCapabilities
  split
  · split
    · decide
    · split
      · decide
      · split <;> decide
  · split
    · decide
    · assumption

/-- **What is sent is heard**: if the strings fit their TLVs, there are at most
7280 IPv4 addresses and the frame fits the MTU, `cdp_send` sends a frame that
`cdp_decode` accepts with what the chassis and the port say. -/
theorem cdpDecode_cdpSend (b : Build) (cfg : Config) (chassis : Chassis) (sendOk : Bool)
    (hw : Hardware) (version : Nat) (name descr : Bytes)
    (h : Sendable b cfg chassis hw.hLport version name descr)
    (hmgmt : (ipv4Mgmt chassis).length ≤ 7280)
    (hfit : (cdpPdu b cfg chassis hw version).length ≤ hw.hMtu) :
    ∃ frame, (cdpSend b cfg chassis sendOk hw version).frame = some frame ∧
      ∃ d, cdpDecode b .frame frame = .ok d ∧
        Heard b version cfg chassis hw.hLport name descr d := by
  refine ⟨interfacesSendHelper cfg hw (cdpPdu b cfg chassis hw version), ?_, ?_⟩
  · rw [cdpSend_frame, if_pos hfit]
  obtain ⟨hok, hfdp, httl, hbody⟩ := header_sent cfg chassis hw h.known
  obtain ⟨n, hdec⟩ := decodes_cdpTlvs h hmgmt hfdp
  obtain ⟨hts, hco⟩ := tlvs_encodeTlvs (encodable_cdpTlvs h hmgmt)
  have hbyte : chassis.cTtl.toUInt8.toUInt16 = chassis.cTtl := by
    apply UInt16.toNat_inj.1
    have := h.ttl_le
    simp only [UInt8.toNat_toUInt16, UInt16.toNat_toUInt8]
    omega
  have hrun : cdpDecode b .frame (interfacesSendHelper cfg hw (cdpPdu b cfg chassis hw version)) =
      finish (heardDec b cfg chassis hw.hLport version name descr n) := by
    rw [cdpDecode_eq, hok, httl, hbody, hbyte, cdpBody, hts, hco, hdec]
    rfl
  obtain ⟨port, hport⟩ : ∃ port, port = heardVlans b version hw.hLport (heardPort descr) := ⟨_, rfl⟩
  have hids : port.pId = some descr ∧ port.pIdSubtype = LLDP_PORTID_SUBTYPE_IFNAME ∧
      port.pDescr = some descr := by
    rw [hport, heardVlans]
    split <;> exact ⟨rfl, rfl, rfl⟩
  have hvlans : port.pPvid = (if TellsVlan b version hw.hLport then hw.hLport.pPvid else 0) ∧
      port.pVlans = if TellsVlan b version hw.hLport then [heardVlan hw.hLport.pPvid] else [] := by
    rw [hport, heardVlans]
    split <;> exact ⟨rfl, rfl⟩
  have hzero : chassis.cTtl ≠ 0 := by
    intro hz
    have := h.ttl_pos
    rw [hz] at this
    exact absurd this (by decide)
  have hcap := heardCapabilities_ne_zero version chassis.cCapEnabled
  rw [hrun, heardDec, ← hport]
  unfold finish
  rw [if_neg]
  · exact ⟨_, rfl, rfl, rfl, rfl, rfl, rfl, hids.2.2, hids.2.1, hids.1, rfl, rfl, rfl, hvlans.1,
      hvlans.2⟩
  · rw [hids.1, hids.2.2]
    simp [heardChassis, heardIds, description, hzero, hcap]

def addressesSender (n : Nat) : Chassis where
  cName := some (ascii "sw")
  cTtl := 120
  cCapEnabled := LLDP_CAP_BRIDGE
  cMgmt := List.replicate n ⟨.ipv4, [192, 0, 2, 1], 3, by decide⟩

def addressesPort : Hardware where
  hMtu := 70000
  hLport := { pDescr := some (ascii "eth0"), pPvid := 10 }

theorem sendable_addresses {version : Nat} (n : Nat) (hv : version = 1 ∨ version = 2) :
    Sendable .full {} (addressesSender n) addressesPort.hLport version (ascii "sw") (ascii "eth0") where
  known := hv.imp_right .inl
  cName := rfl
  name_ne := by decide
  name_noNul := by decide
  name_length := by decide
  pDescr := rfl
  descr_ne := by decide
  descr_noNul := by decide
  descr_length := by decide
  software_length := Nat.zero_le _
  platform_length := by decide
  ttl_pos := show 1 ≤ (120 : UInt16).toNat by decide
  ttl_le := show (120 : UInt16).toNat ≤ 255 by decide

theorem cdpDecode_cdpSend_addresses :
    ∃ frame, (cdpSend .full {} (addressesSender 2) true addressesPort 2).frame = some frame ∧
      ∃ d, cdpDecode .full .frame frame = .ok d ∧
        Heard .full 2 {} (addressesSender 2) addressesPort.hLport (ascii "sw") (ascii "eth0") d :=
  cdpDecode_cdpSend .full {} (addressesSender 2) true addressesPort 2 (ascii "sw") (ascii "eth0")
    (sendable_addresses 2 (.inr rfl)) (by decide) (by decide)

theorem ipv4Mgmt_addresses (n : Nat) : (ipv4Mgmt (addressesSender n)).length = n := by
  show ((List.replicate n _).filter _).length = n
  rw [List.filter_replicate_of_pos (by decide), List.length_replicate]

theorem cdpBody_addresses {n : Nat} (hn : n ≠ 0) : ∃ rest, rest.length = 29 ∧
    cdpBody .full {} (addressesSender n) addressesPort 1 =
      encodeTlv ⟨CDP_TLV_CHASSIS, [ascii "sw"]⟩ ++ (encodeTlv ⟨CDP_TLV_ADDRESSES,
        be32Bytes (UInt32.ofNat (ipv4Mgmt (addressesSender n)).length) ::
          (ipv4Mgmt (addressesSender n)).flatMap addressPokes⟩ ++ rest) := by
  have hne : ipv4Mgmt (addressesSender n) ≠ [] := by
    intro hnil
    have := ipv4Mgmt_addresses n
    rw [hnil] at this
    exact hn this.symm
  have haddr : addressTlv (addressesSender n) = _ := (addressTlv_eq _).trans (if_neg hne)
  unfold cdpBody cdpTlvs
  rw [haddr]
  exact ⟨_, rfl, rfl⟩

/-- A frame whose TLVs do not fill it is refused. -/
theorem cdpDecode_incomplete {b : Build} {frame : Bytes} (h : complete (frame.drop 26) = false)
    (d : Dec) : cdpDecode b .frame frame ≠ .ok d := by
  rw [cdpDecode_eq, h]
  split
  · cases (tlvs (frame.drop 26)).foldlM (applyTlv b .frame (isFdp frame))
      { chassis.cTtl := (frame.getD 23 0).toUInt16 } with
    | error e => exact fun hok => nomatch hok
    | ok d' => exact fun hok => nomatch hok
  · exact fun hok => nomatch hok

/-- The frame with 7281 addresses; the number is a variable so that nothing is computed with
the list of them. -/
theorem addresses_refused {n : Nat} (hn : n = 7281) :
    Sendable .full {} (addressesSender n) addressesPort.hLport 1 (ascii "sw") (ascii "eth0") ∧
      (cdpPdu .full {} (addressesSender n) addressesPort 1).length ≤ addressesPort.hMtu ∧
      ∃ frame, (cdpSend .full {} (addressesSender n) true addressesPort 1).frame = some frame ∧
        ∀ d, cdpDecode .full .frame frame ≠ .ok d := by
  obtain ⟨rest, hrest, hbody⟩ := cdpBody_addresses (n := n) (by omega)
  have hfit : (cdpPdu .full {} (addressesSender n) addressesPort 1).length ≤
      addressesPort.hMtu := by
    have hlen : (cdpBody .full {} (addressesSender n) addressesPort 1).length = 65572 := by
      have hsw : (encodeTlv ⟨CDP_TLV_CHASSIS, [ascii "sw"]⟩).length = 6 := by decide
      rw [hbody, List.length_append, List.length_append, hrest, hsw, encodeTlv, List.length_append,
        length_address_payload, ipv4Mgmt_addresses, hn]
      rfl
    unfold cdpPdu
    simp only [List.length_append, be16Bytes_length, length_cdpHead, hlen]
    decide
  refine ⟨sendable_addresses n (.inl rfl), hfit,
    interfacesSendHelper {} addressesPort (cdpPdu .full {} (addressesSender n) addressesPort 1),
    ?_, ?_⟩
  · rw [cdpSend_frame, if_pos hfit]
  · apply cdpDecode_incomplete
    obtain ⟨-, -, -, hdrop⟩ := header_sent {} (addressesSender n) addressesPort
      (.inl rfl)
    rw [hdrop, hbody]
    have hfirst := tlvAt_encodeTlv (t := ⟨CDP_TLV_CHASSIS, [ascii "sw"]⟩) ⟨by decide, by decide⟩
      (encodeTlv ⟨CDP_TLV_ADDRESSES,
        be32Bytes (UInt32.ofNat (ipv4Mgmt (addressesSender n)).length) ::
          (ipv4Mgmt (addressesSender n)).flatMap addressPokes⟩ ++ rest)
    rw [(tlvs_of_some hfirst).2]
    apply complete_of_wrapped
    rw [length_address_payload, ipv4Mgmt_addresses, hn]
    decide

/-- The strings are short and the frame fits the MTU, but the address TLV is
65533 + 4 bytes long and says that it is of one byte. -/
theorem too_many_addresses :
    Sendable .full {} (addressesSender 7281) addressesPort.hLport 1 (ascii "sw") (ascii "eth0") ∧
      (cdpPdu .full {} (addressesSender 7281) addressesPort 1).length ≤ addressesPort.hMtu ∧
      ∃ frame, (cdpSend .full {} (addressesSender 7281) true addressesPort 1).frame = some frame ∧
        ∀ d, cdpDecode .full .frame frame ≠ .ok d :=
  addresses_refused rfl

end Lldpd.Cdp
