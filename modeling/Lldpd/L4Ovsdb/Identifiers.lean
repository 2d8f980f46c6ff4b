import Lldpd.L4Ovsdb.Record

/-!
# The identifiers in a neighbor's record

`chassis_id` and `port_id` are built in the array `decode_str`, which still holds
the name of the subtype then. `decode_nw_addr` writes an identifier of six bytes
and leaves the array alone otherwise, so that a chassis with an identifier of
another length has its subtype for an identifier (`chassis_id_subtype_name`). A
port identifier that is not an address goes through `%s`.

`nbr_ids_iff`: of two neighbors with the same subtypes, the identifiers are
written from their own bytes and differ if and only if the neighbors' do, exactly
if records can be made of them, chassis identifiers and addresses have six bytes
and the other port identifiers differ in front of their first NUL, within 255
characters.
-/
namespace Lldpd.Ovsdb.Record
open Core

/-- `smap_get`. -/
def value (key : String) (m : List (Bytes × Bytes)) : Option Bytes :=
  (m.find? fun entry => entry.1 = cstr (ascii key)).map Prod.snd

/-- What `lldp_nbr_update` formats the port identifier with.
mirrors lldpd_ovsdb_if.c:3188-3192 -/
def formatPortId (n : NbrInfo) : Action :=
  if n.pIdSubtype = LLDP_PORTID_SUBTYPE_LLADDR then decodeNwAddr (n.pId.getD []) else decodePId n.pId

/-- The text does not depend on what was in `decode_str`. -/
def OwnText (format : Action) : Prop :=
  ∀ kv s s', (format ⟨kv, s⟩).map Enc.decodeStr = (format ⟨kv, s'⟩).map Enc.decodeStr

section
variable {b : Build} {inetNtop : InetNtop} {n n' : NbrInfo} {c c' : NbrChassis}
  {u u' : KeyVals × List (Bytes × Bytes)} {id id' : Bytes}

/-! ## Addresses -/

def hexDigit (c : UInt8) : Nat := if c.toNat < 58 then c.toNat - 48 else c.toNat - 87

theorem fmtHexByte_spec (v : UInt8) : ∃ x y, fmtHexByte v = [x, y] ∧ x ≠ 0 ∧ y ≠ 0 ∧
    hexDigit x * 16 + hexDigit y = v.toNat := by
  have hdigit : ∀ d < 16, UInt8.ofNat (Nat.digitChar d).toNat ≠ 0 ∧
      hexDigit (UInt8.ofNat (Nat.digitChar d).toNat) = d := by decide
  have hv := v.toNat_lt
  have hhi := hdigit (v.toNat / 16) (by omega)
  have hlo := hdigit (v.toNat % 16) (by omega)
  refine ⟨_, _, rfl, hhi.1, hlo.1, ?_⟩
  simp only [hlo.2]
  omega

theorem fmtHexByte_inj {v w : UInt8} (h : fmtHexByte v = fmtHexByte w) : v = w := by
  obtain ⟨x, y, hv, -, -, hv'⟩ := fmtHexByte_spec v
  obtain ⟨x', y', hw, -, -, hw'⟩ := fmtHexByte_spec w
  rw [hv, hw] at h
  simp only [List.cons.injEq, and_true] at h
  rw [h.1, h.2] at hv'
  exact UInt8.toNat_inj.1 (hv'.symm.trans hw')

theorem zero_notMem_nwAddrText (id : Bytes) : 0 ∉ nwAddrText id := by
  have hcolon : (0 : UInt8) ∉ ascii ":" := by decide
  have hbyte : ∀ v, 0 ∉ fmtHexByte v := by
    intro v
    obtain ⟨x, y, hv, hx, hy, -⟩ := fmtHexByte_spec v
    simp [hv, hx.symm, hy.symm]
  fun_induction nwAddrText id with
  | case1 => simp
  | case2 v => exact hbyte v
  | case3 v vs _ ih => simp [hbyte v, hcolon, ih]

theorem nwAddrText_inj (hlen : id.length = id'.length) (h : nwAddrText id = nwAddrText id') :
    id = id' := by
  have htwo : ∀ v w : UInt8, (fmtHexByte v).length = (fmtHexByte w).length := fun _ _ => rfl
  fun_induction nwAddrText id generalizing id' with
  | case1 => rw [List.length_eq_zero_iff.1 hlen.symm]
  | case2 v =>
    obtain ⟨w, rfl⟩ := List.length_eq_one_iff.1 hlen.symm
    rw [fmtHexByte_inj h]
  | case3 v vs hne ih =>
    obtain ⟨w, ws, rfl⟩ := List.exists_cons_of_length_pos (by rw [← hlen]; simp)
    have hws : ws ≠ [] := by
      rintro rfl
      exact hne (by simpa using hlen)
    rw [nwAddrText.eq_3 w ws hws] at h
    obtain ⟨hhead, htail⟩ := List.append_inj h (by simp [htwo v w])
    rw [fmtHexByte_inj (List.append_cancel_right hhead), ih (by simpa using hlen) htail]

/-! ## The values -/

theorem value_stored {es es' : List (String × Bytes)} {key : String} {val : Bytes}
    (h : ∀ k ∈ es.map Prod.fst, cstr (ascii k) ≠ cstr (ascii key)) :
    value key ((es ++ (key, val) :: es').map stored) = some (cstr (val.take (MAX_DESCR - 1))) := by
  have hnone : (es.map stored).find? (fun entry => entry.1 = cstr (ascii key)) = none := by
    rw [List.find?_eq_none]
    intro entry hentry
    obtain ⟨e, he, rfl⟩ := List.mem_map.1 hentry
    exact fun hkey => h e.1 (List.mem_map_of_mem he) (of_decide_eq_true hkey)
  simp [value, hnone, stored]

theorem value_chassisId (hntop : inetNtop.Good) (hc : n.chassis = some c)
    (hu : lldpNbrUpdate b inetNtop n = .ok u) :
    value "chassis_id" u.2 = some (cstr ((chassisIdText c).take 255)) := by
  rw [(lldpNbrUpdate_ok hntop (lldpNbrUpdate_short hu) hu).2.2, nbrRecord, hc]
  refine @value_stored [_, _, _, _] _ "chassis_id" _ ?_
  simp only [List.map_cons]
  decide

theorem value_portId (hntop : inetNtop.Good) (hu : lldpNbrUpdate b inetNtop n = .ok u) :
    value "port_id" u.2 = some (cstr ((portIdText n).take 255)) := by
  rw [(lldpNbrUpdate_ok hntop (lldpNbrUpdate_short hu) hu).2.2, nbrRecord]
  cases n.chassis with
  | none =>
    refine @value_stored [_, _, _, _, _, _] _ "port_id" _ ?_
    simp only [List.map_cons]
    decide
  | some c =>
    simp only [chassisRecord, listsRecord]
    split
    · refine @value_stored [_, _, _, _, _, _, _, _, _, _, _, _, _, _, _, _, _] _ "port_id" _ ?_
      simp only [List.map_cons]
      decide
    · refine @value_stored [_, _, _, _, _, _, _, _, _, _, _, _, _, _, _, _, _, _, _] _ "port_id" _ ?_
      simp only [List.map_cons]
      decide

/-! ## What the values tell -/

theorem ownText_decodeNwAddr : OwnText (decodeNwAddr id) ↔ id.length = 6 := by
  simp only [OwnText, decodeNwAddr_eq, Except.map]
  constructor
  · intro h
    by_contra hlen
    simpa [hlen] using h .init [] [1]
  · intro hlen
    simp [hlen]

theorem ownText_formatPortId : OwnText (formatPortId n) ↔
    (n.pIdSubtype = LLDP_PORTID_SUBTYPE_LLADDR → (n.pId.getD []).length = 6) := by
  unfold formatPortId
  split
  · rename_i hsub
    simp [ownText_decodeNwAddr, hsub]
  · rename_i hsub
    simp only [hsub, false_implies, iff_true]
    intro kv s s'
    rfl

theorem cstr_take_nwAddrText (hlen : id.length = 6) :
    cstr ((nwAddrText id).take 255) = nwAddrText id := by
  have hle := nwAddrText_length id
  rw [List.take_of_length_le (by omega), cstr_eq_self (zero_notMem_nwAddrText id)]

theorem nwAddr_values (hlen : id.length = 6) (hlen' : id'.length = 6) :
    some (cstr ((nwAddrText id).take 255)) = some (cstr ((nwAddrText id').take 255)) ↔ id = id' := by
  rw [cstr_take_nwAddrText hlen, cstr_take_nwAddrText hlen', Option.some.injEq]
  exact ⟨nwAddrText_inj (hlen.trans hlen'.symm), fun h => h ▸ rfl⟩

/-- Two neighbors with the same subtypes whose records are written. -/
theorem values_iff (hntop : inetNtop.Good) (hc : n.chassis = some c) (hc' : n'.chassis = some c')
    (hpsub : n.pIdSubtype = n'.pIdSubtype)
    (hu : lldpNbrUpdate b inetNtop n = .ok u) (hu' : lldpNbrUpdate b inetNtop n' = .ok u') :
    ((value "chassis_id" u.2 = value "chassis_id" u'.2 ↔ c.cId.getD [] = c'.cId.getD []) ∧
        (value "port_id" u.2 = value "port_id" u'.2 ↔ n.pId.getD [] = n'.pId.getD []) ∧
        OwnText (decodeNwAddr (c.cId.getD [])) ∧ OwnText (decodeNwAddr (c'.cId.getD [])) ∧
        OwnText (formatPortId n) ∧ OwnText (formatPortId n')) ↔
      (c.cId.getD []).length = 6 ∧ (c'.cId.getD []).length = 6 ∧
        if n.pIdSubtype = LLDP_PORTID_SUBTYPE_LLADDR then
          (n.pId.getD []).length = 6 ∧ (n'.pId.getD []).length = 6
        else (cstr (n.pId.getD [])).take 255 = (cstr (n'.pId.getD [])).take 255 →
          n.pId.getD [] = n'.pId.getD [] := by
  rw [value_chassisId hntop hc hu, value_chassisId hntop hc' hu', value_portId hntop hu,
    value_portId hntop hu', ownText_decodeNwAddr, ownText_decodeNwAddr, ownText_formatPortId,
    ownText_formatPortId]
  have hchassis (hlen : (c.cId.getD []).length = 6) (hlen' : (c'.cId.getD []).length = 6) :=
    nwAddr_values hlen hlen'
  have hcut (id : Bytes) : cstr ((cstr id).take 255) = (cstr id).take 255 :=
    cstr_eq_self fun h => zero_notMem_cstr id (List.mem_of_mem_take h)
  by_cases hsub : n.pIdSubtype = LLDP_PORTID_SUBTYPE_LLADDR
  · have hport (hlen : (n.pId.getD []).length = 6) (hlen' : (n'.pId.getD []).length = 6) :=
      nwAddr_values hlen hlen'
    simp only [chassisIdText, portIdText, hsub, ← hpsub, true_implies]
    constructor
    · rintro ⟨-, -, h1, h2, h3, h4⟩
      exact ⟨h1, h2, h3, h4⟩
    · rintro ⟨h1, h2, h3, h4⟩
      simp only [h1, h2, h3, h4]
      exact ⟨hchassis h1 h2, hport h3 h4, trivial, trivial, trivial, trivial⟩
  · simp only [chassisIdText, portIdText, hsub, ← hpsub, if_false, false_implies, hcut,
      Option.some.injEq]
    constructor
    · rintro ⟨-, h, h1, h2, -⟩
      exact ⟨h1, h2, h.1⟩
    · rintro ⟨h1, h2, h⟩
      simp only [h1, h2]
      exact ⟨by simpa using hchassis h1 h2, ⟨h, fun h => h ▸ rfl⟩, trivial, trivial, trivial, trivial⟩

/-- Two neighbors with the same subtypes: both have a record, equal values come from equal
identifiers and nothing else, and no value from what was in `decode_str`, if and only if
records can be made of them, chassis identifiers and addresses have six bytes and the other
port identifiers are told apart by their first 255 characters. -/
theorem nbr_ids_iff (hntop : inetNtop.Good) (hc : n.chassis = some c) (hc' : n'.chassis = some c')
    (hpsub : n.pIdSubtype = n'.pIdSubtype) :
    (∃ u u', (lldpNbrUpdate b inetNtop n = .ok u ∧
          ∀ offset ∈ u.1.offsets, offset ≤ KEY_VAL_STR_BUF_MAX) ∧
        (lldpNbrUpdate b inetNtop n' = .ok u' ∧
          ∀ offset ∈ u'.1.offsets, offset ≤ KEY_VAL_STR_BUF_MAX) ∧
        (value "chassis_id" u.2 = value "chassis_id" u'.2 ↔ c.cId.getD [] = c'.cId.getD []) ∧
        (value "port_id" u.2 = value "port_id" u'.2 ↔ n.pId.getD [] = n'.pId.getD []) ∧
        OwnText (decodeNwAddr (c.cId.getD [])) ∧ OwnText (decodeNwAddr (c'.cId.getD [])) ∧
        OwnText (formatPortId n) ∧ OwnText (formatPortId n')) ↔
      Recordable b inetNtop n ∧ Recordable b inetNtop n' ∧
        (c.cId.getD []).length = 6 ∧ (c'.cId.getD []).length = 6 ∧
        if n.pIdSubtype = LLDP_PORTID_SUBTYPE_LLADDR then
          (n.pId.getD []).length = 6 ∧ (n'.pId.getD []).length = 6
        else (cstr (n.pId.getD [])).take 255 = (cstr (n'.pId.getD [])).take 255 →
          n.pId.getD [] = n'.pId.getD [] := by
  rw [← update_inside_iff hntop, ← update_inside_iff hntop]
  constructor
  · rintro ⟨u, u', hu, hu', hvalues⟩
    exact ⟨⟨u, hu⟩, ⟨u', hu'⟩, (values_iff hntop hc hc' hpsub hu.1 hu'.1).1 hvalues⟩
  · rintro ⟨⟨u, hu⟩, ⟨u', hu'⟩, hids⟩
    exact ⟨u, u', hu, hu', (values_iff hntop hc hc' hpsub hu.1 hu'.1).2 hids⟩

end

/-- A neighbor on a port with the address `id`. -/
def lladdrNbr (id : Bytes) : NbrInfo :=
  Ovsdb.lldpNbrUpdate [(1, (ifnameDec []).chassis)]
    { pIdSubtype := LLDP_PORTID_SUBTYPE_LLADDR, pId := some id, pChassis := some 1,
      pProtocol := some .lldp }

theorem nbr_ids_lladdr :
    ∃ u u', lldpNbrUpdate ovsdbBuild (fun _ _ => none) (lladdrNbr [2, 0, 0, 0, 0, 1]) = .ok u ∧
      lldpNbrUpdate ovsdbBuild (fun _ _ => none) (lladdrNbr [2, 0, 0, 0, 0, 2]) = .ok u' ∧
      value "chassis_id" u.2 = value "chassis_id" u'.2 ∧
      value "port_id" u.2 ≠ value "port_id" u'.2 := by
  have hgood : InetNtop.Good (fun _ _ => none) := ⟨fun _ _ _ h => nomatch h⟩
  obtain ⟨u, u', ⟨hu, -⟩, ⟨hu', -⟩, hchassis, hport, -⟩ :=
    (@nbr_ids_iff ovsdbBuild _ (lladdrNbr [2, 0, 0, 0, 0, 1]) (lladdrNbr [2, 0, 0, 0, 0, 2])
      (nbrChassis (ifnameDec []).chassis) (nbrChassis (ifnameDec []).chassis) hgood rfl rfl rfl).2
      ⟨⟨⟨nofun, fun _ _ h => absurd h List.not_mem_nil⟩, nofun, by decide⟩,
        ⟨⟨nofun, fun _ _ h => absurd h List.not_mem_nil⟩, nofun, by decide⟩,
        by decide, by decide, by decide⟩
  exact ⟨u, u', hu, hu', hchassis.2 rfl, fun h => absurd (hport.1 h) (by decide)⟩

/-- A neighbor with a locally assigned chassis identifier. -/
def localNbr (id : Bytes) : NbrInfo :=
  Ovsdb.lldpNbrUpdate [(1, { cIdSubtype := 7, cId := some id, cTtl := 120 })]
    (ifnamePort (ascii "eth0" ++ [0]))

/-- The chassis identifiers `A` and `B` are both written as `local`, the name of
their subtype. -/
theorem chassis_id_subtype_name :
    ∃ u u', lldpNbrUpdate ovsdbBuild (fun _ _ => none) (localNbr (ascii "A")) = .ok u ∧
      lldpNbrUpdate ovsdbBuild (fun _ _ => none) (localNbr (ascii "B")) = .ok u' ∧
      value "chassis_id" u.2 = some (ascii "local") ∧
      value "chassis_id" u'.2 = some (ascii "local") := by
  have hgood : InetNtop.Good (fun _ _ => none) := ⟨fun _ _ _ h => nomatch h⟩
  obtain ⟨u, hu, -⟩ := (@update_inside_iff ovsdbBuild _ (localNbr (ascii "A")) hgood).2
    ⟨⟨fun _ => by decide, fun _ _ h => absurd h List.not_mem_nil⟩, fun _ => by decide, by decide⟩
  obtain ⟨u', hu', -⟩ := (@update_inside_iff ovsdbBuild _ (localNbr (ascii "B")) hgood).2
    ⟨⟨fun _ => by decide, fun _ _ h => absurd h List.not_mem_nil⟩, fun _ => by decide, by decide⟩
  refine ⟨u, u', hu, hu', ?_, ?_⟩
  · rw [value_chassisId hgood rfl hu]
    decide
  · rw [value_chassisId hgood rfl hu']
    decide

end Lldpd.Ovsdb.Record
