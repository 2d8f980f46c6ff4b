import Lldpd.L2Proto.Lldp.Emit
import Lldpd.L2Proto.Lldp.Safety

/-!
# Decoding the TLVs that were sent

`Decodes xs d d'` says that the TLVs `xs`, wherever they stand in a frame,
take the decoder from `d` to `d'`. It composes along the sections of
`lldp_send` (`Decodes.append`), and there is one lemma a section: what the
basic, the 802.1 and the 802.3 TLVs of a sender do to a receiver.
-/
namespace Lldpd.Lldp
open Core

/-! ## The TLVs of a frame that was written -/

/-- The TLVs as the decoder sees them, in front of `after`. -/
def attach : List OutTlv → Bytes → List Tlv
  | [], _ => []
  | t :: ts, after => ⟨t.type, t.payload, encodeTlvs ts ++ after⟩ :: attach ts after

theorem attach_append (xs ys : List OutTlv) (after : Bytes) :
    attach (xs ++ ys) after = attach xs (encodeTlvs ys ++ after) ++ attach ys after := by
  induction xs with
  | nil => rfl
  | cons x xs ih => simp [attach, ih, encodeTlvs]

theorem tlvAt_encode {t : OutTlv} (ht : t.type < 128) (hs : t.Short) (rest : Bytes) :
    tlvAt (t.encode ++ rest) = some ⟨t.type, t.payload, rest⟩ := by
  unfold OutTlv.Short at hs
  have hlen : t.payload.length % 512 = t.payload.length := Nat.mod_eq_of_lt (by omega)
  have hv : (UInt16.ofNat (t.type * 512 + t.payload.length)).toNat =
      t.type * 512 + t.payload.length := by
    rw [UInt16.toNat_ofNat', Nat.mod_eq_of_lt (by omega)]
  simp only [OutTlv.encode, be16Bytes, List.cons_append, tlvAt, hlen]
  rw [be16_be16Bytes, hv, show (t.type * 512 + t.payload.length) / 512 = t.type by omega,
    show (t.type * 512 + t.payload.length) % 512 = t.payload.length by omega]
  simp

/-- Cutting what was written gives what was written. -/
theorem tlvs_encodeTlvs {ts : List OutTlv} (ht : ∀ t ∈ ts, t.GoodType) (hs : ∀ t ∈ ts, t.Short) :
    tlvs (encodeTlvs (ts ++ [endTlv])) = attach (ts ++ [endTlv]) [] := by
  induction ts with
  | nil =>
    have hend : tlvAt (encodeTlvs [endTlv]) = some ⟨LLDP_TLV_END, [], []⟩ := by decide
    rw [List.nil_append, tlvs_of_some hend]; rfl
  | cons t ts ih =>
    have hgood := ht t List.mem_cons_self
    have hat := tlvAt_encode hgood.2 (hs t List.mem_cons_self) (encodeTlvs (ts ++ [endTlv]))
    have hne : t.type ≠ LLDP_TLV_END := Nat.pos_iff_ne_zero.1 hgood.1
    have henc : encodeTlvs (t :: ts ++ [endTlv]) = t.encode ++ encodeTlvs (ts ++ [endTlv]) := by
      simp [encodeTlvs]
    rw [henc, tlvs_of_some hat, if_neg hne,
      ih (fun t h => ht t (List.mem_cons_of_mem _ h)) fun t h => hs t (List.mem_cons_of_mem _ h)]
    simp [attach]

/-! ## Composition -/

def Decodes (b : Build) (cos : Bytes) (xs : List OutTlv) (d d' : Dec) : Prop :=
  ∀ after, applyTlvs b cos (attach xs after) d = .ok d'

section Compose
variable {b : Build} {cos : Bytes} {d d' d'' : Dec} {xs ys : List OutTlv}

theorem Decodes.nil : Decodes b cos [] d d := fun _ => rfl

theorem applyTlvs_append {xs ys : List Tlv} :
    applyTlvs b cos (xs ++ ys) d = applyTlvs b cos xs d >>= applyTlvs b cos ys := by
  simp only [applyTlvs, List.foldlM_append]; rfl

theorem Decodes.append (hx : Decodes b cos xs d d') (hy : Decodes b cos ys d' d'') :
    Decodes b cos (xs ++ ys) d d'' := by
  intro after
  rw [attach_append, applyTlvs_append, hx, ok_bind, hy]

theorem Decodes.one {t : OutTlv} (h : ∀ after, applyTlv b cos d ⟨t.type, t.payload, after⟩ = .ok d') :
    Decodes b cos [t] d d' := by
  intro after
  simp [attach, h, ok_bind, applyTlvs_nil]

/-- A list of TLVs of one kind that the decoder appends to a queue of its
own: `get` and `set` are the queue. -/
theorem Decodes.queue {α : Type} {l : List α} {f : α → OutTlv} {get : Dec → List α}
    {set : Dec → List α → Dec} (hss : ∀ d x y, set (set d x) y = set d y)
    (hgs : ∀ d x, get (set d x) = x) (hsg : ∀ d, set d (get d) = d)
    (h : ∀ d, ∀ x ∈ l, Decodes b cos [f x] d (set d (get d ++ [x]))) :
    Decodes b cos (l.map f) d (set d (get d ++ l)) := by
  induction l generalizing d with
  | nil => rw [List.append_nil, hsg]; exact .nil
  | cons x l ih =>
    have htl := ih (d := set d (get d ++ [x])) fun d y hy => h d y (List.mem_cons_of_mem _ hy)
    rw [hss, hgs, List.append_assoc] at htl
    exact (h d x List.mem_cons_self).append htl

end Compose

/-! ## Reading back what was poked -/

namespace Tlv
variable {type : Nat} {a : UInt8} {p after : Bytes} {i n : Nat} {v : UInt16} {w : UInt32}

@[simp] theorem u8_zero : (mk type (a :: p) after).u8 0 = a := rfl

@[simp] theorem u8_succ : (mk type (a :: p) after).u8 (i + 1) = (mk type p after).u8 i := rfl

@[simp] theorem u16_succ : (mk type (a :: p) after).u16 (i + 1) = (mk type p after).u16 i := rfl

@[simp] theorem u32_succ : (mk type (a :: p) after).u32 (i + 1) = (mk type p after).u32 i := rfl

@[simp] theorem bytes_succ :
    (mk type (a :: p) after).bytes (i + 1) n = (mk type p after).bytes i n := rfl

@[simp] theorem u16_be16Bytes : (mk type (be16Bytes v ++ p) after).u16 0 = v := be16_be16Bytes v

@[simp] theorem u16_be16Bytes_last : (mk type (be16Bytes v) after).u16 0 = v := be16_be16Bytes v

@[simp] theorem u16_be16Bytes_succ :
    (mk type (be16Bytes v ++ p) after).u16 (i + 2) = (mk type p after).u16 i := rfl

@[simp] theorem u8_be16Bytes_succ :
    (mk type (be16Bytes v ++ p) after).u8 (i + 2) = (mk type p after).u8 i := rfl

@[simp] theorem bytes_be16Bytes_succ :
    (mk type (be16Bytes v ++ p) after).bytes (i + 2) n = (mk type p after).bytes i n := rfl

@[simp] theorem u32_be32Bytes : (mk type (be32Bytes w ++ p) after).u32 0 = w := be32_be32Bytes w

@[simp] theorem u32_be32Bytes_last : (mk type (be32Bytes w) after).u32 0 = w := be32_be32Bytes w

variable {bs : Bytes}

@[simp] theorem bytes_prefix (h : n = bs.length) : (mk type (bs ++ p) after).bytes 0 n = bs := by
  simp [bytes, reach, h]

@[simp] theorem bytes_self (h : n = p.length) : (mk type p after).bytes 0 n = p := by
  simp [bytes, reach, h]

/-- Reads behind a string. -/
theorem u8_append : (mk type (bs ++ p) after).u8 (bs.length + i) = (mk type p after).u8 i := by
  simp only [u8, reach, List.append_assoc, List.getD_eq_getElem?_getD]
  rw [List.getElem?_append_right (by omega), Nat.add_sub_cancel_left]

theorem u32_append : (mk type (bs ++ p) after).u32 (bs.length + i) = (mk type p after).u32 i := by
  simp [u32, Nat.add_assoc, u8_append]

@[simp] theorem size_mk : (mk type p after).size = p.length := rfl

end Tlv

section Sections
variable {b : Build} {cos : Bytes} {d : Dec} {chassis : Chassis} {port : Port} {cfg : Config}

/-- The decoder keeps a string that is not empty. -/
def sentString (s : Option Bytes) : Option Bytes :=
  match s with
  | some s => if s = [] then none else some s
  | none => none

theorem idSubtype_ok {c : UInt8} (h : 1 ≤ c.toNat ∧ c.toNat ≤ 7) : ¬ (c = 0 ∨ 7 < c.toNat) := by
  rintro (rfl | h')
  · exact absurd h.1 (by decide)
  · omega

theorem decodes_chassisId (hb : b.ovsdb = false)
    (hs : 1 ≤ chassis.cIdSubtype.toNat ∧ chassis.cIdSubtype.toNat ≤ 7) {id : Bytes}
    (hid : chassis.cId = some id) (hlen : 1 ≤ id.length) :
    Decodes b cos [chassisIdTlv chassis] d
      { d with chassis.cIdSubtype := chassis.cIdSubtype, chassis.cId := some id } := by
  refine .one fun after => ?_
  have hsz : ¬ id.length + 1 < 2 := by omega
  simp [applyTlv, chassisIdTlv, OutTlv.payload, hid, hsz, idSubtype_ok hs, hb]

theorem decodes_portId (hs : 1 ≤ port.pIdSubtype.toNat ∧ port.pIdSubtype.toNat ≤ 7) {id : Bytes}
    (hid : port.pId = some id) (hlen : 1 ≤ id.length) :
    Decodes b cos [portIdTlv port] d
      { d with port.pIdSubtype := port.pIdSubtype, port.pId := some id } := by
  refine .one fun after => ?_
  have hsz : ¬ id.length + 1 < 2 := by omega
  simp [applyTlv, portIdTlv, OutTlv.payload, hid, hsz, idSubtype_ok hs]

theorem decodes_ttl : Decodes b cos [ttlTlv chassis] d
    { d with chassis.cTtl := chassis.cTtl, ttlReceived := true } := by
  refine .one fun after => ?_
  simp [applyTlv, ttlTlv, OutTlv.payload]

section
variable (hb : b.ovsdb = false)
include hb

/-- A string TLV: sent when the string is there and not empty, kept as it is.
`get` and `set` are the string of the receiver. -/
theorem decodes_string {flag : Bool} {type : Nat} {s : Option Bytes} (get : Dec → Option Bytes)
    (set : Dec → Option Bytes → Dec) (hsg : ∀ d, set d (get d) = d)
    (hset : ∀ d s after, s ≠ [] → applyTlv b cos d ⟨type, s, after⟩ = .ok (set d (some s)))
    (hs : ∀ s', s = some s' → 0 ∉ s') :
    Decodes b cos (stringTlv b flag type s) d (set d ((sentString s).or (get d))) := by
  cases s with
  | none => simpa [stringTlv, hb, sentString, hsg] using Decodes.nil
  | some s =>
    have hc : cstr s = s := cstr_eq_self (hs s rfl)
    by_cases h : s = []
    · subst h
      simpa [stringTlv, sentString, hc, hsg] using Decodes.nil
    · simp only [stringTlv, hb, if_false, hc, h, sentString]
      refine .one fun after => ?_
      simpa [OutTlv.payload] using hset d s after h

section
variable {flag : Bool} {s : Option Bytes} (hs : ∀ s', s = some s' → 0 ∉ s')
include hs

theorem decodes_sysName : Decodes b cos (stringTlv b flag LLDP_TLV_SYSTEM_NAME s) d
    { d with chassis.cName := (sentString s).or d.chassis.cName } :=
  decodes_string hb (fun d => d.chassis.cName) (fun d s => { d with chassis.cName := s })
    (fun _ => rfl) (fun d s after h => by simp [applyTlv, h]) hs

theorem decodes_sysDescr : Decodes b cos (stringTlv b flag LLDP_TLV_SYSTEM_DESCR s) d
    { d with chassis.cDescr := (sentString s).or d.chassis.cDescr } :=
  decodes_string hb (fun d => d.chassis.cDescr) (fun d s => { d with chassis.cDescr := s })
    (fun _ => rfl) (fun d s after h => by simp [applyTlv, h]) hs

theorem decodes_portDescr : Decodes b cos (stringTlv b flag LLDP_TLV_PORT_DESCR s) d
    { d with port.pDescr := (sentString s).or d.port.pDescr } :=
  decodes_string hb (fun d => d.port.pDescr) (fun d s => { d with port.pDescr := s })
    (fun _ => rfl) (fun d s after h => by simp [applyTlv, h]) hs

end

theorem decodes_cap : Decodes b cos (capTlv b cfg chassis) d { d with
      chassis.cCapAvailable := chassis.cCapAvailable
      chassis.cCapEnabled := chassis.cCapEnabled } := by
  simp only [capTlv, hb, Bool.false_and, Bool.false_eq_true, if_false]
  refine .one fun after => ?_
  simp [applyTlv, OutTlv.payload]

end

theorem lldpdAf_roundTrip (af : Af) : lldpdAfFromLldpProto (lldpdAfToLldpProto af) = some af := by
  cases af <;> rfl

/-- The interface part of a management address TLV. -/
def ifaceBytes (iface : UInt32) : Bytes :=
  (if iface = 0 then LLDP_MGMT_IFACE_UNKNOWN else LLDP_MGMT_IFACE_IFINDEX) :: be32Bytes iface

theorem mgmtTlv_payload (m : Mgmt) : (mgmtTlv m).payload =
    UInt8.ofNat (m.mAddr.length + 1) :: lldpdAfToLldpProto m.mFamily ::
      (m.mAddr ++ (ifaceBytes m.mIface ++ [0])) := by
  unfold mgmtTlv OutTlv.payload ifaceBytes
  split
  · rename_i h; simp [h]
  · simp

theorem decodes_mgmt (m : Mgmt) : ∃ buf, Decodes b cos [mgmtTlv m] d
    { d with addrStrBuffer := buf, chassis.cMgmt := d.chassis.cMgmt ++ [m] } := by
  have hmax := m.size_le
  simp only [LLDPD_MGMT_MAXADDRSIZE] at hmax
  obtain ⟨buf, hcopy, hbuf⟩ := d.addrStrBuffer.memcpy_of_le
    (by simp; omega : (lldpdAfToLldpProto m.mFamily :: m.mAddr).length ≤ 32)
  refine ⟨buf, .one fun after => ?_⟩
  have hn : (UInt8.ofNat (m.mAddr.length + 1)).toNat = m.mAddr.length + 1 := by
    rw [UInt8.toNat_ofNat', Nat.mod_eq_of_lt (by omega)]
  have hn1 : (UInt8.ofNat (m.mAddr.length + 1) - 1).toNat = m.mAddr.length := by
    rw [UInt8.toNat_sub_of_le _ _ (by rw [UInt8.le_iff_toNat_le, hn]; simp), hn]; rfl
  have hget : buf.get 0 = lldpdAfToLldpProto m.mFamily := by
    rw [Buffer.get, hbuf]; rfl
  have hslice : buf.slice 1 m.mAddr.length = m.mAddr := by
    rw [Buffer.slice, hbuf]; simp
  have halloc (iface : UInt32) (h : iface = m.mIface) :
      lldpdAllocMgmt (some m.mFamily) m.mAddr m.mAddr.length iface = .ok m := by
    simp only [lldpdAllocMgmt]
    rw [dif_neg (by simp only [LLDPD_MGMT_MAXADDRSIZE]; omega)]
    simp [h]
  have hiface (x : UInt32) (h : x = m.mIface) :
      (if (if m.mIface = 0 then LLDP_MGMT_IFACE_UNKNOWN else LLDP_MGMT_IFACE_IFINDEX) =
        LLDP_MGMT_IFACE_IFINDEX then x else 0) = m.mIface := by
    by_cases hz : m.mIface = 0
    · rw [if_pos hz, if_neg (by decide), hz]
    · rw [if_neg hz, if_pos rfl, h]
  rw [mgmtTlv_payload, applyTlv_mgmtAddr rfl]
  generalize ht : Tlv.mk (mgmtTlv m).type _ after = t
  have h0 : t.u8 0 = UInt8.ofNat (m.mAddr.length + 1) := by rw [← ht]; rfl
  have hsz : t.size = m.mAddr.length + 8 := by rw [← ht]; simp [ifaceBytes]
  have hrl : t.reach.length = m.mAddr.length + 8 + after.length := by
    rw [t.reach_length, hsz, ← ht]
  have hb1 : t.bytes 1 (m.mAddr.length + 1) = lldpdAfToLldpProto m.mFamily :: m.mAddr := by
    rw [← ht, Tlv.bytes_succ, ← List.cons_append]
    exact Tlv.bytes_prefix (by simp)
  have hsub : t.u8 (m.mAddr.length + 1 + 1) =
      if m.mIface = 0 then LLDP_MGMT_IFACE_UNKNOWN else LLDP_MGMT_IFACE_IFINDEX := by
    rw [← ht, Tlv.u8_succ, Tlv.u8_succ, ← Nat.add_zero m.mAddr.length, Tlv.u8_append]; rfl
  have hnum : t.u32 (m.mAddr.length + 1 + 2) = m.mIface := by
    rw [← ht, Tlv.u32_succ, Tlv.u32_succ, Tlv.u32_append, ifaceBytes, List.cons_append,
      Tlv.u32_succ, Tlv.u32_be32Bytes]
  simp only [applyMgmtAddr, h0, hn, hb1, hcopy, hget, lldpdAf_roundTrip, hn1, hslice, hsub, hnum,
    hiface _ rfl, halloc _ rfl]
  rw [if_neg (by omega), if_neg (by omega), if_neg (by omega), if_neg (by omega), if_neg (by omega)]

theorem decodes_mgmts (hb : b.ovsdb = false) : ∃ buf, Decodes b cos (mgmtTlvs b cfg chassis) d
    { d with addrStrBuffer := buf, chassis.cMgmt := d.chassis.cMgmt ++ chassis.cMgmt } := by
  simp only [mgmtTlvs, hb, Bool.false_and, Bool.false_eq_true, if_false]
  generalize chassis.cMgmt = ms
  induction ms generalizing d with
  | nil => exact ⟨d.addrStrBuffer, by simpa using Decodes.nil⟩
  | cons m ms ih =>
    obtain ⟨buf, hm⟩ := @decodes_mgmt b cos d m
    obtain ⟨buf', hms⟩ :=
      ih (d := { d with addrStrBuffer := buf, chassis.cMgmt := d.chassis.cMgmt ++ [m] })
    refine ⟨buf', ?_⟩
    have := hm.append hms
    simpa using this

/-! ### 802.1 -/

variable {dt x y z : UInt8} {after p : Bytes} {n type : Nat}

/-- An organisationally specific TLV that was sent goes to its organisation. -/
theorem applyTlv_sent_org {pokes : List Bytes} {r : Run Dec Dec}
    (h : applyOrg b d ⟨LLDP_TLV_ORG, x :: y :: z :: UInt8.ofNat n :: pokes.flatten, after⟩ = r) :
    applyTlv b cos d ⟨(orgTlv [x, y, z] n pokes).type, (orgTlv [x, y, z] n pokes).payload, after⟩ =
      r := h

theorem bytes_oui : (Tlv.mk type (x :: y :: z :: p) after).bytes 0 3 = [x, y, z] := rfl

theorem not_size_lt_four {n : UInt8} : ¬ (Tlv.mk type (x :: y :: z :: n :: p) after).size < 4 := by
  simp only [Tlv.size_mk, List.length_cons]
  omega

theorem applyTlv_dot1 (h1 : b.dot1 = true) (n : Nat) (pokes : List Bytes) (after : Bytes) :
    applyTlv b cos d ⟨(orgTlv LLDP_TLV_ORG_DOT1 n pokes).type,
        (orgTlv LLDP_TLV_ORG_DOT1 n pokes).payload, after⟩ =
      applyDot1 d ⟨LLDP_TLV_ORG, 0x00 :: 0x80 :: 0xc2 :: UInt8.ofNat n :: pokes.flatten, after⟩ := by
  refine applyTlv_sent_org ?_
  rw [applyOrg, if_neg not_size_lt_four, bytes_oui, if_pos (by decide), if_pos h1]

theorem decodes_pvid (hb : b.ovsdb = false) (h1 : b.dot1 = true) :
    Decodes b cos (pvidTlv b cfg port) d
      { d with port.pPvid := if port.pPvid = 0 then d.port.pPvid else port.pPvid } := by
  simp only [pvidTlv, hb, Bool.false_and, Bool.false_or, decide_eq_true_eq]
  split
  · exact .nil
  · refine .one fun after => ?_
    rw [applyTlv_dot1 h1]
    simp [applyDot1]

theorem decodes_ppvids (hb : b.ovsdb = false) (h1 : b.dot1 = true) :
    Decodes b cos (ppvidTlvs b cfg port) d
      { d with port.pPpvids := d.port.pPpvids ++ port.pPpvids } := by
  simp only [ppvidTlvs, hb, Bool.false_and, Bool.false_eq_true, if_false]
  refine @Decodes.queue _ _ _ _ _ _ (fun d => d.port.pPpvids)
    (fun d l => { d with port.pPpvids := l }) (fun _ _ _ => rfl) (fun _ _ => rfl) (fun _ => rfl)
    fun d x _ => .one fun after => ?_
  rw [applyTlv_dot1 h1]
  simp [applyDot1, LLDP_TLV_DOT1_PPVID]

/-- A length that went through a single byte. -/
theorem toNat_ofNat_le (h : n ≤ 255) : (UInt8.ofNat n).toNat = n := by
  rw [UInt8.toNat_ofNat', Nat.mod_eq_of_lt (by omega)]

theorem decodes_vlans (hb : b.ovsdb = false) (h1 : b.dot1 = true)
    (hv : ∀ vlan ∈ port.pVlans, 0 ∉ vlan.vName ∧ vlan.vName.length ≤ 255) :
    Decodes b cos (vlanTlvs b cfg port) d { d with port.pVlans := d.port.pVlans ++ port.pVlans } := by
  simp only [vlanTlvs, hb, Bool.false_and, Bool.false_eq_true, if_false]
  refine @Decodes.queue _ _ _ _ _ _ (fun d => d.port.pVlans)
    (fun d l => { d with port.pVlans := l }) (fun _ _ _ => rfl) (fun _ _ => rfl) (fun _ => rfl)
    fun d x hx => .one fun after => ?_
  obtain ⟨hnul, hlen⟩ := hv x hx
  have hn := toNat_ofNat_le hlen
  rw [applyTlv_dot1 h1]
  simp [applyDot1, LLDP_TLV_DOT1_VLANNAME, strlen, cstr_eq_self hnul, hn]
  omega

theorem decodes_pids (hb : b.ovsdb = false) (h1 : b.dot1 = true)
    (hp : ∀ pi ∈ port.pPids, pi.pPi.length ≤ 255) :
    Decodes b cos (piTlvs b cfg port) d { d with port.pPids := d.port.pPids ++ port.pPids } := by
  simp only [piTlvs, hb, Bool.false_and, Bool.false_eq_true, if_false]
  refine @Decodes.queue _ _ _ _ _ _ (fun d => d.port.pPids)
    (fun d l => { d with port.pPids := l }) (fun _ _ _ => rfl) (fun _ _ => rfl) (fun _ => rfl)
    fun d x hx => .one fun after => ?_
  have hn := toNat_ofNat_le (hp x hx)
  rw [applyTlv_dot1 h1]
  simp [applyDot1, applyPi, LLDP_TLV_DOT1_PI, hn, Tlv.reach_length]
  rw [if_neg (by omega), if_neg (by omega), if_neg (by omega)]

theorem decodes_dot1 (hb : b.ovsdb = false) (h1 : b.dot1 = true)
    (hv : ∀ vlan ∈ port.pVlans, 0 ∉ vlan.vName ∧ vlan.vName.length ≤ 255)
    (hp : ∀ pi ∈ port.pPids, pi.pPi.length ≤ 255) :
    Decodes b cos (dot1Tlvs b cfg port) d
      { d with
        port.pPvid := if port.pPvid = 0 then d.port.pPvid else port.pPvid
        port.pPpvids := d.port.pPpvids ++ port.pPpvids
        port.pVlans := d.port.pVlans ++ port.pVlans
        port.pPids := d.port.pPids ++ port.pPids } := by
  rw [dot1Tlvs, if_pos h1]
  exact (((decodes_pvid hb h1).append (decodes_ppvids hb h1)).append
    (decodes_vlans hb h1 hv)).append (decodes_pids hb h1 hp)

/-! ### 802.3 -/

theorem applyTlv_dot3 (h3 : b.dot3 = true) (n : Nat) (pokes : List Bytes) (after : Bytes) :
    applyTlv b cos d ⟨(orgTlv LLDP_TLV_ORG_DOT3 n pokes).type,
        (orgTlv LLDP_TLV_ORG_DOT3 n pokes).payload, after⟩ =
      applyDot3 d ⟨LLDP_TLV_ORG, 0x00 :: 0x12 :: 0x0f :: UInt8.ofNat n :: pokes.flatten, after⟩ := by
  refine applyTlv_sent_org ?_
  rw [applyOrg, if_neg not_size_lt_four, bytes_oui, if_neg (by decide), if_pos (by decide), if_pos h3]

theorem decodes_aggregation (h3 : b.dot3 = true) : Decodes b cos [aggregationTlv port] d
    { d with port.pAggregid := port.pAggregid } := by
  refine .one fun after => ?_
  rw [aggregationTlv, applyTlv_dot3 h3]
  simp [applyDot3, LLDP_TLV_DOT3_LA]

/-- A flag that fits in one bit. -/
theorem bit_cases (h : x.toNat ≤ 1) : x = 0 ∨ x = 1 := by
  rcases Nat.le_one_iff_eq_zero_or_eq_one.1 h with h | h
  · exact .inl (UInt8.toNat_inj.mp h)
  · exact .inr (UInt8.toNat_inj.mp h)

theorem macphy_roundTrip {m : Dot3Macphy} (hs : m.autonegSupport.toNat ≤ 1)
    (he : m.autonegEnabled.toNat ≤ 1) :
    macphyOf (m.autonegSupport ||| m.autonegEnabled <<< 1) m.autonegAdvertised m.mauType = m := by
  obtain ⟨s, e, adv, mau⟩ := m
  have hsup : (s ||| e <<< 1) &&& 0x1 = s := by
    rcases bit_cases hs with rfl | rfl <;> rcases bit_cases he with rfl | rfl <;> decide
  have hena : ((s ||| e <<< 1) &&& 0x2) >>> 1 = e := by
    rcases bit_cases hs with rfl | rfl <;> rcases bit_cases he with rfl | rfl <;> decide
  simp [macphyOf, hsup, hena]

theorem decodes_macphy (h3 : b.dot3 = true) (hs : port.pMacphy.autonegSupport.toNat ≤ 1)
    (he : port.pMacphy.autonegEnabled.toNat ≤ 1) : Decodes b cos [macphyTlv port] d
    { d with port.pMacphy := port.pMacphy } := by
  refine .one fun after => ?_
  rw [macphyTlv, applyTlv_dot3 h3]
  simp [applyDot3, macphy_roundTrip hs he]

theorem decodes_mfs (h3 : b.dot3 = true) : Decodes b cos (mfsTlv port) d
    { d with port.pMfs := if port.pMfs = 0 then d.port.pMfs else port.pMfs } := by
  unfold mfsTlv
  split
  · exact .nil
  · refine .one fun after => ?_
    rw [applyTlv_dot3 h3]
    simp [applyDot3, LLDP_TLV_DOT3_MFS]

structure PowerInRange (p : Dot3Power) : Prop where
  devicetype : p.devicetype.toNat ≤ 2
  supported : p.supported.toNat ≤ 1
  enabled : p.enabled.toNat ≤ 1
  paircontrol : p.paircontrol.toNat ≤ 1
  powertype : p.powertype.toNat ≤ 2
  source : p.source.toNat ≤ 3
  priority : p.priority.toNat ≤ 3

/-- What a receiver knows of the power TLV: nothing without a device type,
and nothing of 802.3at when that is off. -/
def receivedPower (p : Dot3Power) : Dot3Power :=
  if p.devicetype = 0 then {}
  else if p.powertype = LLDP_DOT3_POWER_8023AT_OFF then
    { p with source := 0, priority := 0, requested := 0, allocated := 0 }
  else p

theorem two_cases (h : x.toNat ≤ 2) (h0 : x ≠ 0) : x = 1 ∨ x = 2 := by
  have hx : x.toNat ≠ 0 := fun e => h0 (UInt8.toNat_inj.mp e)
  rcases (by omega : x.toNat = 1 ∨ x.toNat = 2) with h | h
  · exact .inl (UInt8.toNat_inj.mp h)
  · exact .inr (UInt8.toNat_inj.mp h)

theorem three_cases (h : x.toNat ≤ 3) : x = 0 ∨ x = 1 ∨ x = 2 ∨ x = 3 := by
  rcases (by omega : x.toNat = 0 ∨ x.toNat = 1 ∨ x.toNat = 2 ∨ x.toNat = 3) with h | h | h | h
  · exact .inl (UInt8.toNat_inj.mp h)
  · exact .inr (.inl (UInt8.toNat_inj.mp h))
  · exact .inr (.inr (.inl (UInt8.toNat_inj.mp h)))
  · exact .inr (.inr (.inr (UInt8.toNat_inj.mp h)))

/-- The four flags come back. -/
theorem powerFlags_roundTrip {s e pc : UInt8} (hdt : dt.toNat ≤ 2) (h0 : dt ≠ 0)
    (hs : s.toNat ≤ 1) (he : e.toNat ≤ 1) (hpc : pc.toNat ≤ 1) :
    (if powerFlags dt s e pc &&& 0x1 ≠ 0 then LLDP_DOT3_POWER_PSE else LLDP_DOT3_POWER_PD) = dt ∧
      (powerFlags dt s e pc &&& 0x2) >>> 1 = s ∧ (powerFlags dt s e pc &&& 0x4) >>> 2 = e ∧
      (powerFlags dt s e pc &&& 0x8) >>> 3 = pc := by
  rcases two_cases hdt h0 with rfl | rfl <;> rcases bit_cases hs with rfl | rfl <;>
    rcases bit_cases he with rfl | rfl <;> rcases bit_cases hpc with rfl | rfl <;> decide

theorem power8023atFlags_roundTrip {pt src prio : UInt8} (hpt : pt.toNat ≤ 2) (h0 : pt ≠ 0)
    (hdt : dt.toNat ≤ 2) (hd0 : dt ≠ 0) (hsrc : src.toNat ≤ 3) (hprio : prio.toNat ≤ 3) :
    (power8023atFlags pt dt src prio &&& 0x30) >>> 4 = src ∧
      power8023atFlags pt dt src prio &&& 0x3 = prio ∧
      (if power8023atFlags pt dt src prio &&& 0x80 ≠ 0 then LLDP_DOT3_POWER_8023AT_TYPE1
        else LLDP_DOT3_POWER_8023AT_TYPE2) = pt := by
  rcases two_cases hpt h0 with rfl | rfl <;> rcases two_cases hdt hd0 with rfl | rfl <;>
    rcases three_cases hsrc with rfl | rfl | rfl | rfl <;>
    rcases three_cases hprio with rfl | rfl | rfl | rfl <;> decide

theorem decodes_power (h3 : b.dot3 = true) (hp : PowerInRange port.pPower)
    (hd : d.port.pPower = {}) : Decodes b cos (powerTlv port) d
    { d with port.pPower := receivedPower port.pPower } := by
  simp only [powerTlv, receivedPower]
  split
  · have hd' : { d with port.pPower := {} } = d := by rw [← hd]
    rw [hd']; exact .nil
  · rename_i h0
    obtain ⟨hdt, hs, he, hpc, hpt, hsrc, hprio⟩ := hp
    obtain ⟨hf1, hf2, hf3, hf4⟩ := powerFlags_roundTrip hdt h0 hs he hpc
    refine .one fun after => ?_
    rw [applyTlv_dot3 h3]
    split
    · rename_i hoff
      simp [applyDot3, applyPower, LLDP_TLV_DOT3_POWER, hd, setPower, hf1, hf2, hf3, hf4, hoff]
    · rename_i hoff
      obtain ⟨ha1, ha2, ha3⟩ := power8023atFlags_roundTrip hpt hoff hdt h0 hsrc hprio
      simp [applyDot3, applyPower, LLDP_TLV_DOT3_POWER, setPower, setPower8023at, hf1, hf2, hf3,
        hf4, ha1, ha2, ha3]

theorem decodes_dot3 (h3 : b.dot3 = true) (hs : port.pMacphy.autonegSupport.toNat ≤ 1)
    (he : port.pMacphy.autonegEnabled.toNat ≤ 1) (hp : PowerInRange port.pPower)
    (hd : d.port.pPower = {}) : Decodes b cos (dot3Tlvs b port) d
    { d with
      port.pAggregid := port.pAggregid
      port.pMacphy := port.pMacphy
      port.pMfs := if port.pMfs = 0 then d.port.pMfs else port.pMfs
      port.pPower := receivedPower port.pPower } := by
  rw [dot3Tlvs, if_pos h3]
  exact (((decodes_aggregation h3).append (decodes_macphy h3 hs he)).append
    (decodes_mfs h3)).append (decodes_power h3 hp hd)

end Sections

end Lldpd.Lldp
