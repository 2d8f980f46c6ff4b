import Lldpd.Core.Bits
import Lldpd.L2Proto.Lldp.Decodes

/-!
# What one daemon sends the other one reads

The LLDP-MED sections, and the composition of them all:

* `lldpDecode_lldpSend`: the frame `lldp_send` hands over is accepted, and the
  chassis and the port read from it are `receivedChassis` and `receivedPort`
  of the sender's.

A receiver collects in `p_med_cap_enabled` which MED TLVs it saw. That is
nothing the sender transmits, so the MED lemmas leave it open (`withCap`).
-/
namespace Lldpd.Lldp
open Core

/-! ## LLDP-MED -/

structure PolicyInRange (p : MedPolicy) : Prop where
  unknown : p.unknown.toNat ≤ 1
  tagged : p.tagged.toNat ≤ 1
  vid : p.vid.toNat < 4096
  priority : p.priority.toNat < 8
  dscp : p.dscp.toNat < 64

theorem policyWord_toNat {p : MedPolicy} (hp : PolicyInRange p) : (policyWord p).toNat =
    p.type.toNat * 2 ^ 24 + p.unknown.toNat * 2 ^ 23 + p.tagged.toNat * 2 ^ 22 +
      p.vid.toNat * 2 ^ 9 + p.priority.toNat * 2 ^ 6 + p.dscp.toNat := by
  obtain ⟨hu, ht, hv, hpr, hd⟩ := hp
  have hty := p.type.toNat_lt
  unfold policyWord
  simp only [UInt32.toNat_or, UInt32.toNat_shiftLeft, UInt8.toNat_toUInt32, UInt16.toNat_toUInt32,
    UInt8.toNat_mod, UInt16.toNat_mod, Nat.shiftLeft_eq]
  generalize p.type.toNat = type at *
  generalize p.unknown.toNat = unknown at *
  generalize p.tagged.toNat = tagged at *
  generalize p.vid.toNat = vid at *
  generalize p.priority.toNat = priority at *
  generalize p.dscp.toNat = dscp at *
  change type * 2 ^ 24 % 2 ^ 32 ||| unknown % 2 * 2 ^ 23 % 2 ^ 32 ||| tagged % 2 * 2 ^ 22 % 2 ^ 32 |||
    vid % 4096 * 2 ^ 9 % 2 ^ 32 ||| priority % 8 * 2 ^ 6 % 2 ^ 32 ||| dscp % 64 = _
  -- no part is cut, and each one lies below the ones in front of it
  rw [show type * 2 ^ 24 % 2 ^ 32 = type * 2 ^ 24 by omega,
    show unknown % 2 * 2 ^ 23 % 2 ^ 32 = unknown * 2 ^ 23 by omega,
    show tagged % 2 * 2 ^ 22 % 2 ^ 32 = tagged * 2 ^ 22 by omega,
    show vid % 4096 * 2 ^ 9 % 2 ^ 32 = vid * 2 ^ 9 by omega,
    show priority % 8 * 2 ^ 6 % 2 ^ 32 = priority * 2 ^ 6 by omega,
    show dscp % 64 = dscp by omega]
  have h24 : type * 2 ^ 24 ||| unknown * 2 ^ 23 = type * 2 ^ 24 + unknown * 2 ^ 23 :=
    or_eq_add (k := 24) (by omega) (by omega)
  rw [h24]
  have h23 := or_eq_add (k := 23) (x := type * 2 ^ 24 + unknown * 2 ^ 23) (y := tagged * 2 ^ 22)
    (by omega) (by omega)
  rw [h23]
  have h22 := or_eq_add (k := 22) (y := vid * 2 ^ 9)
    (x := type * 2 ^ 24 + unknown * 2 ^ 23 + tagged * 2 ^ 22) (by omega) (by omega)
  rw [h22]
  have h9 := or_eq_add (k := 9) (y := priority * 2 ^ 6)
    (x := type * 2 ^ 24 + unknown * 2 ^ 23 + tagged * 2 ^ 22 + vid * 2 ^ 9) (by omega) (by omega)
  rw [h9]
  exact or_eq_add (k := 6) (by omega) (by omega)

theorem policy_roundTrip {p : MedPolicy} (hp : PolicyInRange p) : medPolicyOf (policyWord p) = p := by
  have hw := policyWord_toNat hp
  obtain ⟨hu, ht, hv, hpr, hd⟩ := hp
  have hty := p.type.toNat_lt
  have htype : (policyWord p >>> 24).toUInt8 = p.type := by
    apply UInt8.toNat_inj.mp
    rw [UInt32.toNat_toUInt8, UInt32.toNat_shiftRight, Nat.shiftRight_eq_div_pow]
    change _ / 2 ^ 24 % 2 ^ 8 = _
    omega
  have hunknown : (if policyWord p &&& 0x800000 ≠ 0 then 1 else 0) = p.unknown := by
    have hbit := bit_ne_zero (w := policyWord p) (m := 0x800000) (k := 23) rfl
    rcases bit_cases hu with h | h <;> rw [h] at hw ⊢
    · rw [if_neg (by rw [hbit, hw]; simp; omega)]
    · rw [if_pos (by rw [hbit, hw]; simp; omega)]
  have htagged : (if policyWord p &&& 0x400000 ≠ 0 then 1 else 0) = p.tagged := by
    have hbit := bit_ne_zero (w := policyWord p) (m := 0x400000) (k := 22) rfl
    rcases bit_cases ht with h | h <;> rw [h] at hw ⊢
    · rw [if_neg (by rw [hbit, hw]; simp; omega)]
    · rw [if_pos (by rw [hbit, hw]; simp; omega)]
  have hvid : ((policyWord p &&& 0x001FFE00) >>> 9).toUInt16 = p.vid := by
    apply UInt16.toNat_inj.mp
    have hfield := field_toNat (w := policyWord p) (m := 0x001FFE00) (k := 9) (n := 12) (by decide) rfl
    change ((policyWord p &&& 0x001FFE00) >>> 9).toNat = _ at hfield
    rw [UInt32.toNat_toUInt16]; omega
  have hpriority : ((policyWord p &&& 0x1C0) >>> 6).toUInt8 = p.priority := by
    apply UInt8.toNat_inj.mp
    have hfield := field_toNat (w := policyWord p) (m := 0x1C0) (k := 6) (n := 3) (by decide) rfl
    change ((policyWord p &&& 0x1C0) >>> 6).toNat = _ at hfield
    rw [UInt32.toNat_toUInt8]; omega
  have hdscp : (policyWord p &&& 0x3F).toUInt8 = p.dscp := by
    apply UInt8.toNat_inj.mp
    rw [UInt32.toNat_toUInt8, UInt32.toNat_and]
    change (_ &&& 2 ^ 6 - 1) % 2 ^ 8 = _
    rw [Nat.and_two_pow_sub_one_eq_mod]; omega
  simp [medPolicyOf, htype, hunknown, htagged, hvid, hpriority, hdscp]

def Dec.withCap (d : Dec) (cap : UInt16) : Dec := { d with port.pMedCapEnabled := cap }

theorem withCap_medCap (d : Dec) (c cap : UInt16) :
    (d.withCap c).medCap cap = d.withCap (c ||| cap) := rfl

/-- `Decodes`, whatever the capabilities collected so far. -/
def MedDecodes (b : Build) (cos : Bytes) (xs : List OutTlv) (d d' : Dec) : Prop :=
  ∀ c, ∃ c', Decodes b cos xs (d.withCap c) (d'.withCap c')

section Med
variable {b : Build} {cos : Bytes} {d d' d'' : Dec} {xs ys : List OutTlv} {chassis : Chassis}
  {port : Port}

theorem MedDecodes.nil : MedDecodes b cos [] d d := fun c => ⟨c, .nil⟩

theorem MedDecodes.append (hx : MedDecodes b cos xs d d') (hy : MedDecodes b cos ys d' d'') :
    MedDecodes b cos (xs ++ ys) d d'' := by
  intro c
  obtain ⟨c', hx⟩ := hx c
  obtain ⟨c'', hy⟩ := hy c'
  exact ⟨c'', hx.append hy⟩

theorem applyTlv_med (hm : b.lldpmed = true) (n : Nat) (pokes : List Bytes) (after : Bytes) :
    applyTlv b cos d ⟨(orgTlv LLDP_TLV_ORG_MED n pokes).type,
        (orgTlv LLDP_TLV_ORG_MED n pokes).payload, after⟩ =
      applyMed d ⟨LLDP_TLV_ORG, 0x00 :: 0x12 :: 0xbb :: UInt8.ofNat n :: pokes.flatten, after⟩ := by
  refine applyTlv_sent_org ?_
  rw [applyOrg, if_neg not_size_lt_four, bytes_oui, if_neg (by decide), if_neg (by decide),
    if_pos (by decide), if_pos hm]

variable {n : Nat}

/-- One MED TLV whose branch adds the capability `cap`. -/
theorem MedDecodes.one {pokes : List Bytes} (hm : b.lldpmed = true) {f : UInt16 → UInt16}
    (h : ∀ c after, applyMed (d.withCap c)
      ⟨LLDP_TLV_ORG, 0x00 :: 0x12 :: 0xbb :: UInt8.ofNat n :: pokes.flatten, after⟩ =
        .ok (d'.withCap (f c))) : MedDecodes b cos [orgTlv LLDP_TLV_ORG_MED n pokes] d d' :=
  fun c => ⟨f c, Decodes.one fun after => by rw [applyTlv_med hm, h]⟩

theorem medDecodes_cap (hm : b.lldpmed = true) : MedDecodes b cos [medCapTlv chassis] d
    { d with
      chassis.cMedCapAvailable := chassis.cMedCapAvailable
      chassis.cMedType := chassis.cMedType } := by
  refine .one hm (f := (· ||| LLDP_MED_CAP_CAP)) fun c after => ?_
  rw [← withCap_medCap]
  simp [applyMed, Dec.withCap]

/-- An inventory string as it is received: cut, and absent when empty. -/
def receivedInventory (value : Option Bytes) : Option Bytes :=
  value.bind fun s => if s = [] then none else some (s.take 32)

theorem applyMed_inventory {t : Tlv} (hn : 5 ≤ n ∧ n ≤ 11) (ht : (t.u8 3).toNat = n) :
    applyMed d t =
      let s := if t.size ≤ 4 then none else some (t.bytes 4 (t.size - 4))
      .ok ({ d with chassis := setInventory n s d.chassis }.medCap LLDP_MED_CAP_IV) := by
  rcases (by omega : n = 5 ∨ n = 6 ∨ n = 7 ∨ n = 8 ∨ n = 9 ∨ n = 10 ∨ n = 11) with
    rfl | rfl | rfl | rfl | rfl | rfl | rfl <;> simp only [applyMed, ht]

theorem medDecodes_inventory (hm : b.lldpmed = true) {value : Option Bytes} (hn : 5 ≤ n ∧ n ≤ 11)
    (hv : ∀ s, value = some s → 0 ∉ s) (hd : setInventory n none d.chassis = d.chassis) :
    MedDecodes b cos (inventoryTlv value n) d
    { d with chassis := setInventory n (receivedInventory value) d.chassis } := by
  cases value with
  | none => simpa [inventoryTlv, receivedInventory, hd] using MedDecodes.nil
  | some s =>
    refine .one hm (f := (· ||| LLDP_MED_CAP_IV)) fun c after => ?_
    rw [← withCap_medCap, cstr_eq_self (hv s rfl),
      applyMed_inventory hn (by exact toNat_ofNat_le (by omega))]
    by_cases h : s = []
    · subst h
      simp [receivedInventory, Dec.withCap]
    · have hlen : 0 < s.length := List.length_pos_iff.2 h
      have hlong : ¬ (Tlv.mk LLDP_TLV_ORG
          (0 :: 18 :: 187 :: UInt8.ofNat n :: [s.take 32].flatten) after).size ≤ 4 := by
        simp only [Tlv.size, List.flatten_singleton, List.length_cons, List.length_take]
        omega
      simp only [hlong, if_false]
      simp [receivedInventory, h, Dec.withCap]

theorem foldl_set_finRange {α : Type} (x : Fin n → α) (v : Vector α n) :
    (List.finRange n).foldl (fun v i => v.set i (x i)) v = Vector.ofFn x := by
  have hget (is : List (Fin n)) (v : Vector α n) (j : Fin n) :
      (is.foldl (fun v i => v.set i (x i)) v)[j] = if j ∈ is then x j else v[j] := by
    induction is generalizing v with
    | nil => simp
    | cons i is ih =>
      rw [List.foldl_cons, ih]
      by_cases hj : j ∈ is
      · simp [hj]
      · by_cases hi : j = i
        · subst hi; simp [hj]
        · have hne : (i : Nat) ≠ j := fun h => hi (Fin.ext h.symm)
          simp [hi, hne]
  ext j hj
  simpa using hget (List.finRange n) v ⟨j, hj⟩

theorem setIfInBounds_fin {α : Type} (v : Vector α n) (i : Fin n) (x : α) :
    v.setIfInBounds i x = v.set i x := by
  ext j hj; simp [Vector.getElem_setIfInBounds, Vector.getElem_set]

/-- A table sent slot by slot into an empty table: `get` and `set` are the
receiver's table. -/
theorem MedDecodes.table {α : Type} {f : Fin n → List OutTlv} {x : Fin n → α} {empty : α}
    {get : Dec → Vector α n} {set : Dec → Vector α n → Dec}
    (hss : ∀ d v w, set (set d v) w = set d w) (hgs : ∀ d v, get (set d v) = v)
    (hsg : ∀ d, set d (get d) = d)
    (h : ∀ d i, (get d)[i] = empty → MedDecodes b cos (f i) d (set d ((get d).set i (x i))))
    (hd : get d = .replicate n empty) :
    MedDecodes b cos ((List.finRange n).flatMap f) d (set d (.ofFn x)) := by
  -- over a list of slots that are still empty
  have hrun (is : List (Fin n)) (hnd : is.Nodup) (d : Dec) (hemp : ∀ i ∈ is, (get d)[i] = empty) :
      MedDecodes b cos (is.flatMap f) d
        (set d (is.foldl (fun v (i : Fin n) => v.set i (x i)) (get d))) := by
    induction is generalizing d with
    | nil => rw [List.foldl_nil, hsg]; exact .nil
    | cons i is ih =>
      rw [List.nodup_cons] at hnd
      have htl := ih hnd.2 (set d ((get d).set i (x i))) fun j hj => by
        have hne : (i : Nat) ≠ j := fun h => hnd.1 (by rwa [Fin.ext h])
        rw [hgs]
        simpa [hne] using hemp j (List.mem_cons_of_mem _ hj)
      rw [hss, hgs] at htl
      exact (h d i (hemp i List.mem_cons_self)).append htl
  have hall := hrun (List.finRange n) (List.nodup_finRange n) d fun i _ => by rw [hd]; simp
  rwa [foldl_set_finRange] at hall

def receivedLocation (port : Port) (i : Fin LLDP_MED_LOCFORMAT_LAST) : MedLoc :=
  if (port.pMedLocation.get i).format.toNat = i + 1 then port.pMedLocation.get i else {}

theorem medDecodes_locations (hm : b.lldpmed = true) (hd : d.port.pMedLocation = .replicate _ {}) :
    MedDecodes b cos ((List.finRange LLDP_MED_LOCFORMAT_LAST).flatMap (locationTlv port)) d
      { d with port.pMedLocation := .ofFn (receivedLocation port) } := by
  refine @MedDecodes.table _ _ _ _ _ _ _ {} (fun d => d.port.pMedLocation)
    (fun d v => { d with port.pMedLocation := v }) (fun _ _ _ => rfl) (fun _ _ => rfl)
    (fun _ => rfl) (fun d i hemp => ?_) hd
  simp only [locationTlv, receivedLocation]
  generalize port.pMedLocation.get i = loc
  have hi : (i : Nat) < 3 := i.isLt
  split
  · refine .one hm (f := (· ||| LLDP_MED_CAP_LOCATION)) fun c after => ?_
    rw [← withCap_medCap, ← setIfInBounds_fin]
    have hidx : loc.format.toNat - 1 = i := by omega
    have hmin : loc.format.toNat ≠ 0 := by omega
    have hmax : ¬ LLDP_MED_LOCFORMAT_LAST < loc.format.toNat := by
      simp only [LLDP_MED_LOCFORMAT_LAST]; omega
    simp [applyMed, applyMedLocation, LLDP_TLV_MED_LOCATION, hmin, hmax, hidx, Dec.withCap]
  · have hset : d.port.pMedLocation.set i {} = d.port.pMedLocation := by
      rw [← hemp]; simp
    rw [hset]; exact .nil

def receivedPolicy (port : Port) (i : Fin LLDP_MED_APPTYPE_LAST) : MedPolicy :=
  if (port.pMedPolicy.get i).type.toNat = i + 1 then port.pMedPolicy.get i else {}

theorem medDecodes_policies (hm : b.lldpmed = true)
    (hp : ∀ i : Fin LLDP_MED_APPTYPE_LAST, (port.pMedPolicy.get i).type.toNat = i + 1 →
      PolicyInRange (port.pMedPolicy.get i)) (hd : d.port.pMedPolicy = .replicate _ {}) :
    MedDecodes b cos ((List.finRange LLDP_MED_APPTYPE_LAST).flatMap (policyTlv port)) d
      { d with port.pMedPolicy := .ofFn (receivedPolicy port) } := by
  refine @MedDecodes.table _ _ _ _ _ _ _ {} (fun d => d.port.pMedPolicy)
    (fun d v => { d with port.pMedPolicy := v }) (fun _ _ _ => rfl) (fun _ _ => rfl)
    (fun _ => rfl) (fun d i hemp => ?_) hd
  have hpi := hp i
  simp only [policyTlv, receivedPolicy]
  generalize port.pMedPolicy.get i = policy at hpi ⊢
  have hi : (i : Nat) < 8 := i.isLt
  split
  · rename_i hf
    have hrange := hpi hf
    have htype : (policyWord policy >>> 24).toNat = i + 1 := by
      have hword := policyWord_toNat hrange
      obtain ⟨hu, ht, hv, hpr, hds⟩ := hrange
      rw [UInt32.toNat_shiftRight, Nat.shiftRight_eq_div_pow]
      change _ / 2 ^ 24 = _
      omega
    have hmax : ¬ LLDP_MED_APPTYPE_LAST < (i : Nat) + 1 := by
      simp only [LLDP_MED_APPTYPE_LAST]; omega
    refine .one hm (f := (· ||| LLDP_MED_CAP_POLICY)) fun c after => ?_
    rw [← withCap_medCap, ← setIfInBounds_fin]
    simp [applyMed, applyMedPolicy, LLDP_TLV_MED_POLICY, htype, hmax, policy_roundTrip hrange,
      Dec.withCap]
  · have hset : d.port.pMedPolicy.set i {} = d.port.pMedPolicy := by rw [← hemp]; simp
    rw [hset]; exact .nil

/-- The source a power TLV can say: one that goes with the device type, and
otherwise that it is unknown. -/
def carriedSource (devicetype source : UInt8) : UInt8 :=
  let sources := if devicetype = LLDP_MED_POW_TYPE_PSE then
      [LLDP_MED_POW_SOURCE_PRIMARY, LLDP_MED_POW_SOURCE_BACKUP, LLDP_MED_POW_SOURCE_RESERVED]
    else [LLDP_MED_POW_SOURCE_PSE, LLDP_MED_POW_SOURCE_LOCAL, LLDP_MED_POW_SOURCE_BOTH]
  if source ∈ sources then source else LLDP_MED_POW_SOURCE_UNKNOWN

def receivedMedPower (p : MedPower) : MedPower :=
  if p.devicetype = LLDP_MED_POW_TYPE_PSE ∨ p.devicetype = LLDP_MED_POW_TYPE_PD then
    { p with source := carriedSource p.devicetype p.source }
  else {}

theorem medPowerSource_le (dt src : UInt8) : (medPowerSource dt src).toNat ≤ 3 := by
  unfold medPowerSource
  split <;> (repeat' split) <;> decide

/-- The two bits of the source, read back. -/
theorem carriedSource_pse (src : UInt8) :
    carriedSource LLDP_MED_POW_TYPE_PSE src =
      match medPowerSource LLDP_MED_POW_TYPE_PSE src with
      | 1 => LLDP_MED_POW_SOURCE_PRIMARY
      | 2 => LLDP_MED_POW_SOURCE_BACKUP
      | 3 => LLDP_MED_POW_SOURCE_RESERVED
      | _ => LLDP_MED_POW_SOURCE_UNKNOWN := by
  by_cases h1 : src = LLDP_MED_POW_SOURCE_PRIMARY
  · subst h1; decide
  by_cases h2 : src = LLDP_MED_POW_SOURCE_BACKUP
  · subst h2; decide
  by_cases h3 : src = LLDP_MED_POW_SOURCE_RESERVED
  · subst h3; decide
  simp [carriedSource, medPowerSource, h1, h2, h3]

theorem carriedSource_pd (src : UInt8) :
    carriedSource LLDP_MED_POW_TYPE_PD src =
      match medPowerSource LLDP_MED_POW_TYPE_PD src with
      | 1 => LLDP_MED_POW_SOURCE_PSE
      | 2 => LLDP_MED_POW_SOURCE_LOCAL
      | 3 => LLDP_MED_POW_SOURCE_BOTH
      | _ => LLDP_MED_POW_SOURCE_UNKNOWN := by
  have hne : LLDP_MED_POW_TYPE_PD ≠ LLDP_MED_POW_TYPE_PSE := by decide
  by_cases h1 : src = LLDP_MED_POW_SOURCE_PSE
  · subst h1; decide
  by_cases h2 : src = LLDP_MED_POW_SOURCE_LOCAL
  · subst h2; decide
  by_cases h3 : src = LLDP_MED_POW_SOURCE_BOTH
  · subst h3; decide
  simp [carriedSource, medPowerSource, hne, h1, h2, h3]

/-- Reading the power TLV of a PSE or a PD. -/
theorem setMedPower_sent {p : MedPower} (hprio : p.priority.toNat ≤ 3)
    (hdt : p.devicetype = LLDP_MED_POW_TYPE_PSE ∨ p.devicetype = LLDP_MED_POW_TYPE_PD) (d : Dec) :
    setMedPower (medPowerFlags p.devicetype p.source p.priority) p.val d =
      { d with port.pMedPower := receivedMedPower p }.medCap
        (if p.devicetype = LLDP_MED_POW_TYPE_PSE then LLDP_MED_CAP_MDI_PSE
          else LLDP_MED_CAP_MDI_PD) := by
  obtain ⟨dt, src, prio, val⟩ := p
  have hcode := medPowerSource_le dt src
  simp only [receivedMedPower]
  rcases hdt with rfl | rfl
  · rw [carriedSource_pse]
    unfold medPowerFlags
    generalize medPowerSource LLDP_MED_POW_TYPE_PSE src = code at hcode ⊢
    rcases three_cases hcode with rfl | rfl | rfl | rfl <;>
      rcases three_cases hprio with rfl | rfl | rfl | rfl <;> rfl
  · rw [carriedSource_pd]
    unfold medPowerFlags
    generalize medPowerSource LLDP_MED_POW_TYPE_PD src = code at hcode ⊢
    rcases three_cases hcode with rfl | rfl | rfl | rfl <;>
      rcases three_cases hprio with rfl | rfl | rfl | rfl <;> rfl

theorem medDecodes_mdi (hm : b.lldpmed = true) (hp : port.pMedPower.priority.toNat ≤ 3)
    (hd : d.port.pMedPower = {}) : MedDecodes b cos (mdiTlv port) d
    { d with port.pMedPower := receivedMedPower port.pMedPower } := by
  simp only [mdiTlv]
  split
  · rename_i hdt
    refine .one hm (f := (· ||| if port.pMedPower.devicetype = LLDP_MED_POW_TYPE_PSE then
      LLDP_MED_CAP_MDI_PSE else LLDP_MED_CAP_MDI_PD)) fun c after => ?_
    rw [← withCap_medCap]
    simp [applyMed, LLDP_TLV_MED_MDI, setMedPower_sent hp hdt, Dec.withCap]
  · rename_i hdt
    have hnone : { d with port.pMedPower := receivedMedPower port.pMedPower } = d := by
      rw [receivedMedPower, if_neg hdt, ← hd]
    rw [hnone]; exact .nil

/-- The inventory of a chassis, by subtype, in the order it is sent. -/
def inventory (ch : Chassis) : List (Nat × Option Bytes) :=
  [(LLDP_TLV_MED_IV_HW, ch.cMedHw), (LLDP_TLV_MED_IV_FW, ch.cMedFw),
    (LLDP_TLV_MED_IV_SW, ch.cMedSw), (LLDP_TLV_MED_IV_SN, ch.cMedSn),
    (LLDP_TLV_MED_IV_MANUF, ch.cMedManuf), (LLDP_TLV_MED_IV_MODEL, ch.cMedModel),
    (LLDP_TLV_MED_IV_ASSET, ch.cMedAsset)]

def receivedInventories (chassis : Chassis) (port : Port) (ch : Chassis) : Chassis :=
  if port.pMedCapEnabled &&& LLDP_MED_CAP_IV = 0 then ch
  else
    { ch with
      cMedHw := receivedInventory chassis.cMedHw
      cMedFw := receivedInventory chassis.cMedFw
      cMedSw := receivedInventory chassis.cMedSw
      cMedSn := receivedInventory chassis.cMedSn
      cMedManuf := receivedInventory chassis.cMedManuf
      cMedModel := receivedInventory chassis.cMedModel
      cMedAsset := receivedInventory chassis.cMedAsset }

theorem setInventory_comm {m : Nat} (h : n ≠ m) (x y : Option Bytes) (ch : Chassis) :
    setInventory n x (setInventory m y ch) = setInventory m y (setInventory n x ch) := by
  simp only [setInventory]
  split <;> split <;> first | rfl | exact absurd rfl h

/-- Strings sent one after the other to a chassis that has none of them. -/
theorem medDecodes_inventoryList (hm : b.lldpmed = true) {l : List (Nat × Option Bytes)}
    (hl : ∀ e ∈ l, (5 ≤ e.1 ∧ e.1 ≤ 11) ∧ ∀ s, e.2 = some s → 0 ∉ s) (hnd : (l.map Prod.fst).Nodup)
    (hd : ∀ e ∈ l, setInventory e.1 none d.chassis = d.chassis) :
    MedDecodes b cos (l.flatMap fun e => inventoryTlv e.2 e.1) d
      { d with
        chassis := l.foldl (fun ch e => setInventory e.1 (receivedInventory e.2) ch) d.chassis } := by
  induction l generalizing d with
  | nil => exact .nil
  | cons e l ih =>
    rw [List.map_cons, List.nodup_cons] at hnd
    obtain ⟨hn, hs⟩ := hl e List.mem_cons_self
    refine (medDecodes_inventory hm hn hs (hd e List.mem_cons_self)).append
      (ih (fun e' h => hl e' (List.mem_cons_of_mem _ h)) hnd.2 fun e' h => ?_)
    have hne : e'.1 ≠ e.1 := fun heq => hnd.1 (heq ▸ List.mem_map_of_mem h)
    rw [setInventory_comm hne, hd e' (List.mem_cons_of_mem _ h)]

theorem foldl_inventory (h : ¬ port.pMedCapEnabled &&& LLDP_MED_CAP_IV = 0) (ch : Chassis) :
    (inventory chassis).foldl (fun ch e => setInventory e.1 (receivedInventory e.2) ch) ch =
      receivedInventories chassis port ch := by
  rw [receivedInventories, if_neg h]
  cases ch; rfl

theorem setInventory_none {ch : Chassis} (h : ∀ e ∈ inventory ch, e.2 = none) (n : Nat) :
    setInventory n none ch = ch := by
  obtain ⟨⟩ := ch
  simp only [inventory, List.forall_mem_cons, List.not_mem_nil, false_implies, implies_true,
    and_true] at h
  obtain ⟨rfl, rfl, rfl, rfl, rfl, rfl, rfl⟩ := h
  simp only [setInventory]
  split <;> rfl

theorem medDecodes_inventories (hm : b.lldpmed = true)
    (hv : ∀ e ∈ inventory chassis, ∀ s, e.2 = some s → 0 ∉ s)
    (hd : ∀ e ∈ inventory d.chassis, e.2 = none) :
    MedDecodes b cos (inventoryTlvs chassis port) d
      { d with chassis := receivedInventories chassis port d.chassis } := by
  by_cases hiv : port.pMedCapEnabled &&& LLDP_MED_CAP_IV = 0
  · rw [inventoryTlvs, receivedInventories, if_pos hiv, if_pos hiv]; exact .nil
  · have hsubtype : ∀ e ∈ inventory chassis, 5 ≤ e.1 ∧ e.1 ≤ 11 := by simp [inventory]; decide
    have hnodup : ((inventory chassis).map Prod.fst).Nodup := by simp [inventory]
    have hall := @medDecodes_inventoryList b cos d hm _ (fun e h => ⟨hsubtype e h, hv e h⟩) hnodup
      fun e _ => setInventory_none hd e.1
    rw [foldl_inventory hiv] at hall
    rw [inventoryTlvs, if_neg hiv]
    simpa only [inventory, List.flatMap_cons, List.flatMap_nil, List.append_nil,
      List.append_assoc] using hall

def receivedMedChassis (chassis : Chassis) (port : Port) (ch : Chassis) : Chassis :=
  if port.pMedCapEnabled = 0 then ch
  else receivedInventories chassis port
    { ch with cMedCapAvailable := chassis.cMedCapAvailable, cMedType := chassis.cMedType }

def receivedMedPort (port p : Port) : Port :=
  if port.pMedCapEnabled = 0 then p
  else
    { p with
      pMedLocation := .ofFn (receivedLocation port)
      pMedPolicy := .ofFn (receivedPolicy port)
      pMedPower := receivedMedPower port.pMedPower }

theorem medDecodes_med (hm : b.lldpmed = true)
    (hv : ∀ e ∈ inventory chassis, ∀ s, e.2 = some s → 0 ∉ s)
    (hp : ∀ i : Fin LLDP_MED_APPTYPE_LAST, (port.pMedPolicy.get i).type.toNat = i + 1 →
      PolicyInRange (port.pMedPolicy.get i)) (hprio : port.pMedPower.priority.toNat ≤ 3)
    (hdc : ∀ e ∈ inventory d.chassis, e.2 = none) (hdl : d.port.pMedLocation = .replicate _ {})
    (hdp : d.port.pMedPolicy = .replicate _ {}) (hdm : d.port.pMedPower = {}) :
    MedDecodes b cos (medTlvs b chassis port) d
      { d with
        chassis := receivedMedChassis chassis port d.chassis
        port := receivedMedPort port d.port } := by
  unfold medTlvs receivedMedChassis receivedMedPort
  by_cases h : port.pMedCapEnabled = 0
  · simpa [h] using MedDecodes.nil
  · simp only [hm, h, ne_eq, not_false_eq_true, decide_true, Bool.and_self, if_true, if_false]
    have hcap := @medDecodes_cap b cos d chassis hm
    have hinv := hcap.append (@medDecodes_inventories b cos _ chassis port hm hv hdc)
    have hloc := hinv.append (@medDecodes_locations b cos _ port hm hdl)
    have hpol := hloc.append (@medDecodes_policies b cos _ port hm hp hdp)
    exact hpol.append (@medDecodes_mdi b cos _ port hm hprio hdm)

end Med

/-! ## The whole frame -/

/-- The fields of a local chassis and port that fit their encodings. -/
structure Encodable (chassis : Chassis) (port : Port) : Prop where
  chassisIdSubtype : 1 ≤ chassis.cIdSubtype.toNat ∧ chassis.cIdSubtype.toNat ≤ 7
  chassisId : ∃ id, chassis.cId = some id ∧ 1 ≤ id.length ∧ id.length ≤ 510
  portIdSubtype : 1 ≤ port.pIdSubtype.toNat ∧ port.pIdSubtype.toNat ≤ 7
  portId : ∃ id, port.pId = some id ∧ 1 ≤ id.length ∧ id.length ≤ 510
  sysName : ∀ s, chassis.cName = some s → 0 ∉ s ∧ s.length ≤ 511
  sysDescr : ∀ s, chassis.cDescr = some s → 0 ∉ s ∧ s.length ≤ 511
  portDescr : ∀ s, port.pDescr = some s → 0 ∉ s ∧ s.length ≤ 511
  vlans : ∀ vlan ∈ port.pVlans, 0 ∉ vlan.vName ∧ vlan.vName.length ≤ 255
  pids : ∀ pi ∈ port.pPids, pi.pPi.length ≤ 255
  autoneg : port.pMacphy.autonegSupport.toNat ≤ 1 ∧ port.pMacphy.autonegEnabled.toNat ≤ 1
  power : PowerInRange port.pPower
  inventory : ∀ e ∈ inventory chassis, ∀ s, e.2 = some s → 0 ∉ s
  locations : ∀ i : Fin LLDP_MED_LOCFORMAT_LAST, (port.pMedLocation.get i).data.length ≤ 506
  policies : ∀ i : Fin LLDP_MED_APPTYPE_LAST, (port.pMedPolicy.get i).type.toNat = i + 1 →
    PolicyInRange (port.pMedPolicy.get i)
  medPriority : port.pMedPower.priority.toNat ≤ 3

/-- The chassis of a receiver without MED. -/
def basicChassis (chassis : Chassis) : Chassis :=
  { cIdSubtype := chassis.cIdSubtype
    cId := chassis.cId
    cTtl := chassis.cTtl
    cName := sentString chassis.cName
    cDescr := sentString chassis.cDescr
    cCapAvailable := chassis.cCapAvailable
    cCapEnabled := chassis.cCapEnabled
    cMgmt := chassis.cMgmt }

def basicPort (port : Port) : Port :=
  { pIdSubtype := port.pIdSubtype
    pId := port.pId
    pDescr := sentString port.pDescr
    pPvid := port.pPvid
    pPpvids := port.pPpvids
    pVlans := port.pVlans
    pPids := port.pPids
    pAggregid := port.pAggregid
    pMacphy := port.pMacphy
    pMfs := port.pMfs
    pPower := receivedPower port.pPower }

def receivedChassis (chassis : Chassis) (port : Port) : Chassis :=
  receivedMedChassis chassis port (basicChassis chassis)

def receivedPort (port : Port) : Port := receivedMedPort port (basicPort port)

@[simp] theorem receivedChassis_cId (chassis : Chassis) (port : Port) :
    (receivedChassis chassis port).cId = chassis.cId := by
  unfold receivedChassis receivedMedChassis receivedInventories
  repeat' split
  all_goals rfl

@[simp] theorem receivedPort_pId (port : Port) : (receivedPort port).pId = port.pId := by
  unfold receivedPort receivedMedPort
  split <;> rfl

section Frame
variable {b : Build} {cfg : Config} {chassis : Chassis} {port : Port} {cos : Bytes}

theorem Encodable.shortFields (he : Encodable chassis port) : ShortFields b cfg chassis port := by
  have hstr {s : Bytes} (h : 0 ∉ s ∧ s.length ≤ 511) : strlen s ≤ 511 := by
    rw [strlen, cstr_eq_self h.1]; exact h.2
  obtain ⟨cid, hcid, -, hclen⟩ := he.chassisId
  obtain ⟨pid, hpid, -, hplen⟩ := he.portId
  exact
    { chassisId := by rw [hcid]; exact hclen
      portId := by rw [hpid]; exact hplen
      sysName := fun _ s h => hstr (he.sysName s h)
      sysDescr := fun _ s h => hstr (he.sysDescr s h)
      portDescr := fun _ s h => hstr (he.portDescr s h)
      vlans := fun _ _ vlan h => by
        have hv := he.vlans vlan h
        rw [strlen, cstr_eq_self hv.1]; omega
      pids := fun _ _ pi h => by have := he.pids pi h; omega
      locations := fun _ _ i _ => he.locations i }

/-- Everything in front of the MED TLVs. -/
theorem decodes_basic (hb : b.ovsdb = false) (h1 : b.dot1 = true) (h3 : b.dot3 = true)
    (he : Encodable chassis port) (stack : Buffer 32) : ∃ d,
    Decodes b cos (basicTlvs b cfg chassis port) { addrStrBuffer := stack } d ∧
    d.chassis = basicChassis chassis ∧ d.port = basicPort port ∧ d.ttlReceived = true := by
  obtain ⟨cid, hcid, hclen, -⟩ := he.chassisId
  obtain ⟨pid, hpid, hplen, -⟩ := he.portId
  have hids := ((@decodes_chassisId b cos { addrStrBuffer := stack } chassis hb he.chassisIdSubtype
    cid hcid hclen).append (decodes_portId he.portIdSubtype hpid hplen)).append
    (@decodes_ttl b cos _ chassis)
  have hstrs := (hids.append (@decodes_sysName b cos _ hb cfg.cLldpTlvSysNameEnable chassis.cName
    fun s h => (he.sysName s h).1)).append (@decodes_sysDescr b cos _ hb cfg.cLldpTlvSysDescEnable
    chassis.cDescr fun s h => (he.sysDescr s h).1)
  have hcaps := hstrs.append (@decodes_cap b cos _ chassis cfg hb)
  obtain ⟨buf, hmgmt⟩ := @decodes_mgmts b cos _ chassis cfg hb
  have hport := (hcaps.append hmgmt).append (@decodes_portDescr b cos _ hb
    cfg.cLldpTlvPortDescEnable port.pDescr fun s h => (he.portDescr s h).1)
  have hdot := (hport.append (@decodes_dot1 b cos _ port cfg hb h1 he.vlans he.pids)).append
    (@decodes_dot3 b cos _ port h3 he.autoneg.1 he.autoneg.2 he.power rfl)
  refine ⟨_, hdot, ?_, ?_, rfl⟩
  · simp [basicChassis, hcid]
  · have hzero (v : UInt16) : (if v = 0 then 0 else v) = v := by
      split
      · rename_i h; exact h.symm
      · rfl
    simp [basicPort, hpid, hzero]

theorem decodes_end {d : Dec} : Decodes b cos [endTlv] d { d with gotend := true } :=
  .one fun _ => rfl

/-- Everything `lldp_send` writes. -/
theorem decodes_pdu (hb : b.ovsdb = false) (h1 : b.dot1 = true) (h3 : b.dot3 = true)
    (hm : b.lldpmed = true) (he : Encodable chassis port) (stack : Buffer 32) : ∃ d,
    Decodes b cos (bodyTlvs b cfg chassis port ++ [endTlv]) { addrStrBuffer := stack } d ∧
    d.chassis = receivedChassis chassis port ∧
    d.port = { receivedPort port with pMedCapEnabled := d.port.pMedCapEnabled } ∧
    d.ttlReceived = true ∧ d.gotend = true := by
  obtain ⟨d, hbasic, hch, hpo, httl⟩ := @decodes_basic b cfg chassis port cos hb h1 h3 he stack
  have hmed := @medDecodes_med b cos d chassis port hm he.inventory he.policies he.medPriority
    (by rw [hch]; simp [inventory, basicChassis]) (by rw [hpo]; rfl) (by rw [hpo]; rfl)
    (by rw [hpo]; rfl)
  obtain ⟨cap, hmed⟩ := hmed d.port.pMedCapEnabled
  exact ⟨_, (hbasic.append hmed).append decodes_end, by simp [Dec.withCap, hch, receivedChassis],
    by simp [Dec.withCap, hpo, receivedPort], httl, rfl⟩

end Frame

/-- The header of what was sent passes the receiver's checks. -/
theorem headerOk_of_ethernetLldp {frame : Bytes} (h : EthernetLldp frame) : headerOk frame := by
  obtain ⟨hlen, hdst, htype⟩ := h
  rw [show be16Bytes ETHERTYPE_LLDP = [0x88, 0xcc] by decide] at htype
  have h12 : frame.getD 12 0 = 0x88 := by
    have := congrArg (·.getD 0 0) htype
    simpa [List.getElem?_take] using this
  have h13 : frame.getD 13 0 = 0xcc := by
    have := congrArg (·.getD 1 0) htype
    simpa [List.getElem?_take] using this
  simp only [headerOk, hlen, hdst, h12, h13]
  decide

/-- **Round trip.** In a build without OVSDB and with 802.1, 802.3 and MED,
the frame `lldp_send` hands over for fields that fit their encodings is
accepted, whatever the receiver's stack held, and what was sent is read. -/
theorem lldpDecode_lldpSend {b : Build} (hb : b.ovsdb = false) (h1 : b.dot1 = true)
    (h3 : b.dot3 = true) (hm : b.lldpmed = true) (cfg : Config) (chassis : Chassis) (now : Int)
    (sendOk : Bool) (hw : Hardware) (he : Encodable chassis hw.hLport)
    (hfit : pduSize b cfg chassis hw ≤ hw.hMtu) :
    ∃ frame, (lldpSend b cfg chassis now sendOk hw).frame = some frame ∧
      ∀ stack, ∃ d, lldpDecode b stack frame = .ok d ∧
        d.chassis = receivedChassis chassis hw.hLport ∧
        d.port = { receivedPort hw.hLport with pMedCapEnabled := d.port.pMedCapEnabled } := by
  obtain ⟨p, hp⟩ : ∃ p, writePdu b cfg chassis hw = some p :=
    Option.ne_none_iff_exists'.1 fun h => absurd (writePdu_none_iff.1 h) (by omega)
  refine ⟨_, (lldpSend_some hp).1, fun stack => ?_⟩
  have hdr := headerOk_of_ethernetLldp
    (ethernetLldp_sent cfg hw (encodeTlvs (pduTlvs b cfg chassis hw)))
  have hlen : (interfacesSendHelper cfg hw (lldpHeader hw)).length = 14 := by
    rw [(interfacesSendHelper_append cfg hw [] (by rw [lldpHeader_length]; decide)).2.1,
      lldpHeader_length]
  have htlvs : frameTlvs (interfacesSendHelper cfg hw (lldpHeader hw) ++
      encodeTlvs (pduTlvs b cfg chassis hw)) = attach (pduTlvs b cfg chassis hw) [] := by
    rw [frameTlvs, List.drop_append_of_le_length (by omega), List.drop_eq_nil_of_le (by omega)]
    exact tlvs_encodeTlvs bodyTlvs_goodType (bodyTlvs_short.2 he.shortFields)
  obtain ⟨d, hdec, hch, hpo, httl, hend⟩ := decodes_pdu hb h1 h3 hm he stack
  obtain ⟨cid, hcid, -⟩ := he.chassisId
  obtain ⟨pid, hpid, -⟩ := he.portId
  refine ⟨d, ?_, hch, hpo⟩
  have hmand : ¬ (d.chassis.cId = none ∨ d.port.pId = none ∨ !d.ttlReceived ∨ !d.gotend) := by
    rw [hch, hpo, receivedChassis_cId, receivedPort_pId, hcid, hpid, httl, hend]
    simp
  rw [lldpDecode_eq, if_pos hdr, htlvs, pduTlvs, hdec, ok_bind, finish, if_neg hmand]

def medSender (source : UInt8) : Hardware :=
  { hMtu := 120
    hLport :=
      { pIdSubtype := 7, pId := some [112], pMedCapEnabled := LLDP_MED_CAP_MDI_PSE
        pMedPower := ⟨LLDP_MED_POW_TYPE_PSE, source, 1, 154⟩ } }

theorem encodable_medSender (source : UInt8) :
    Encodable { cIdSubtype := 7, cId := some [97] } (medSender source).hLport := by
  have hempty {α : Type} (n : Nat) (x : α) (i : Fin n) : (Vector.replicate n x).get i = x :=
    Vector.getElem_replicate i.isLt
  constructor <;> simp [medSender, inventory, hempty]
  · exact ⟨by decide, by decide, by decide, by decide, by decide, by decide, by decide⟩

theorem lldpDecode_lldpSend_primary :
    ∃ frame, (lldpSend .full {} { cIdSubtype := 7, cId := some [97] } 0 true (medSender 2)).frame =
        some frame ∧
      ∀ stack, ∃ d, lldpDecode .full stack frame = .ok d ∧
        d.chassis = receivedChassis { cIdSubtype := 7, cId := some [97] } (medSender 2).hLport ∧
        d.port = { receivedPort (medSender 2).hLport with
          pMedCapEnabled := d.port.pMedCapEnabled } :=
  lldpDecode_lldpSend rfl rfl rfl rfl {} _ 0 true (medSender 2) (encodable_medSender 2)
    (by decide)

/-- A source that does not go with the device type comes back as unknown. -/
theorem lldpDecode_lldpSend_source_lost :
    Encodable { cIdSubtype := 7, cId := some [97] }
        (medSender LLDP_MED_POW_SOURCE_LOCAL).hLport ∧
      ((lldpSend .full {} { cIdSubtype := 7, cId := some [97] } 0 true
          (medSender LLDP_MED_POW_SOURCE_LOCAL)).frame.bind fun frame =>
        (lldpDecode .full zeroStack frame).toOption.map (·.port.pMedPower.source)) =
        some LLDP_MED_POW_SOURCE_UNKNOWN :=
  ⟨encodable_medSender _, by decide +kernel⟩

end Lldpd.Lldp
