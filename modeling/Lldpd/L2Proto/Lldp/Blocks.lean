import Lldpd.L2Proto.Blocks
import Lldpd.L2Proto.Lldp.Refine

/-!
# What `lldp_decode` allocates

`tlvOps` lists what the branch of a TLV does with memory, also when it refuses
the TLV half-way, and `lldpOps` what the decoder does with a whole frame, up to
the TLV it refuses.

`shape_lldpDecode`: when a frame is accepted, its operations leave a block
behind every value that was decoded, and no others.
-/
namespace Lldpd.Lldp
open Core

/-! ## The branches -/

/-- mirrors lldp.c:628-653 -/
def idOps (t : Tlv) (op : Op) : List Op :=
  if t.size < 2 ∨ t.u8 0 = 0 ∨ 7 < (t.u8 0).toNat then [] else [op]

/-- mirrors lldp.c:663-680 -/
def stringOps (t : Tlv) (op : Op) : List Op := if t.size < 1 then [] else [op]

/-- `lldpd_alloc_mgmt` is called for a known family, behind the tests on the
size of the TLV. The TLV may still be refused because it was left.
mirrors lldp.c:686-713 -/
def mgmtAddrOps (d : Dec) (t : Tlv) : List Op :=
  if t.size < 1 ∨ t.size < (t.u8 0).toNat ∨ t.size < 5 then []
  else
    ((d.addrStrBuffer.memcpy (t.bytes 1 (t.u8 0).toNat)).bind fun buffer =>
      lldpdAfFromLldpProto (buffer.get 0)).elim [] fun _ => [.addMgmt]

/-- A structure, and behind a second test its string. -/
def pairOps (t : Tlv) (min all : Nat) : List Op :=
  if t.size < min then [] else if t.size < all then [.hold] else [.hold, .addHeld]

/-- mirrors lldp.c:723-807 -/
def dot1Ops (t : Tlv) : List Op :=
  match (t.u8 3).toNat with
  | LLDP_TLV_DOT1_VLANNAME => pairOps t 7 (7 + (t.u8 6).toNat)
  | LLDP_TLV_DOT1_PPVID => if t.size < 7 then [] else [.addPpvid]
  | LLDP_TLV_DOT1_PI => pairOps t 5 (1 + (t.u8 4).toNat)
  | _ => []

/-- `loctype` is from 1 to `LLDP_MED_LOCFORMAT_LAST`.
mirrors lldp.c:914-939 -/
def locationOps (t : Tlv) : List Op :=
  if t.size < 5 then []
  else if h : (t.u8 4).toNat < 1 ∨ LLDP_MED_LOCFORMAT_LAST < (t.u8 4).toNat then []
  else [.setPort (.location ⟨(t.u8 4).toNat - 1, by omega⟩)]

/-- A string, or NULL when there is none.
mirrors lldp.c:1000-1047 -/
def inventoryOps (t : Tlv) (f : ChassisPtr) : List Op :=
  if t.size ≤ 4 then [.nullChassis f] else [.setChassis f]

/-- mirrors lldp.c:880-1051 -/
def medOps (t : Tlv) : List Op :=
  match (t.u8 3).toNat with
  | LLDP_TLV_MED_LOCATION => locationOps t
  | LLDP_TLV_MED_IV_HW => inventoryOps t .medHw
  | LLDP_TLV_MED_IV_FW => inventoryOps t .medFw
  | LLDP_TLV_MED_IV_SW => inventoryOps t .medSw
  | LLDP_TLV_MED_IV_SN => inventoryOps t .medSn
  | LLDP_TLV_MED_IV_MANUF => inventoryOps t .medManuf
  | LLDP_TLV_MED_IV_MODEL => inventoryOps t .medModel
  | LLDP_TLV_MED_IV_ASSET => inventoryOps t .medAsset
  | _ => []

/-- mirrors lldp.c:714-1063 -/
def orgOps (b : Build) (t : Tlv) : List Op :=
  if t.size < 4 then []
  else if t.bytes 0 3 = LLDP_TLV_ORG_DOT1 then if b.dot1 then dot1Ops t else []
  else if t.bytes 0 3 = LLDP_TLV_ORG_DOT3 then []
  else if t.bytes 0 3 = LLDP_TLV_ORG_MED then if b.lldpmed then medOps t else []
  else []

/-- mirrors lldp.c:614-1068 -/
def tlvOps (b : Build) (d : Dec) (t : Tlv) : List Op :=
  match t.type with
  | LLDP_TLV_CHASSIS_ID => idOps t (.setChassis .id)
  | LLDP_TLV_PORT_ID => idOps t (.setPort .id)
  | LLDP_TLV_PORT_DESCR => stringOps t (.setPort .descr)
  | LLDP_TLV_SYSTEM_NAME => stringOps t (.setChassis .name)
  | LLDP_TLV_SYSTEM_DESCR => stringOps t (.setChassis .descr)
  | LLDP_TLV_MGMT_ADDR => mgmtAddrOps d t
  | LLDP_TLV_ORG => orgOps b t
  | _ => []

/-- What happens to the chassis and the port that `lldp_decode` starts with.
`stack` is what it finds in `addr_str_buffer`.
mirrors lldp.c:583-1087 -/
def lldpOps (b : Build) (stack : Buffer 32) (frame : Bytes) : List Op :=
  if headerOk frame then
    (reached (applyTlv b (frame.drop 6)) (frameTlvs frame) { addrStrBuffer := stack }).flatMap
      fun p => tlvOps b p.1 p.2
  else []

/-! ## Blocks and values -/

def Dec.shape (d : Dec) : DraftShape := shapeOf d.chassis d.port

section
variable {b : Build} {cos : Bytes} {d d' : Dec} {t : Tlv}

theorem shape_mgmtAddr (h : applyMgmtAddr d t = .ok d') :
    d'.shape = (mgmtAddrOps d t).foldl DraftShape.exec d.shape := by
  unfold applyMgmtAddr at h
  dsimp only at h
  split at h
  · cases h
  split at h
  · cases h
  split at h
  · cases h
  rename_i buffer hcopy
  split at h
  · cases h
  have hops : mgmtAddrOps d t = (lldpdAfFromLldpProto (buffer.get 0)).elim [] fun _ => [.addMgmt] := by
    rw [mgmtAddrOps, if_neg (by omega), hcopy]
    rfl
  rw [hops]
  split at h
  · cases h
  split at h
  · rename_i haf
    split at h <;> cases h
    rw [haf]
    rfl
  · rename_i af haf
    rw [haf]
    split at h
    · cases h
    · split at h <;> cases h
      refine shapeOf_eq rfl ?_ rfl rfl rfl
      exact List.length_append

theorem pairOps_of_le {min all : Nat} (h : ¬ (t.size < min ∨ t.size < all)) :
    pairOps t min all = [.hold, .addHeld] := by
  rw [pairOps, if_neg fun hlt => h (.inl hlt), if_neg fun hlt => h (.inr hlt)]

theorem shape_dot1 : applyDot1 d t = .ok d' →
    d'.shape = (dot1Ops t).foldl DraftShape.exec d.shape := by
  unfold applyDot1 applyPi dot1Ops
  generalize (t.u8 3).toNat = subtype
  split
  · intro h
    split at h <;> cases h
    rename_i hsize
    rw [pairOps_of_le hsize]
    exact shapeOf_push (n := 2) rfl (by simp; omega)
  · intro h
    split at h <;> cases h
    rfl
  · intro h
    split at h <;> cases h
    rename_i hsize
    rw [if_neg hsize]
    exact shapeOf_push (n := 1) rfl (by simp; omega)
  · intro h
    split at h
    · cases h
    rename_i hsize
    split at h
    · cases h
    split at h <;> cases h
    rw [pairOps_of_le hsize]
    exact shapeOf_push (n := 2) rfl (by simp; omega)
  · intro h
    cases h
    simp only [*]
    rfl

theorem shape_dot3 (h : applyDot3 d t = .ok d') : d'.shape = d.shape := by
  unfold applyDot3 applyPower at h
  split at h
  iterate 3
    · split at h <;> cases h
      rfl
  · split at h
    · cases h
    split at h <;> cases h <;> rfl
  · cases h
    rfl

theorem shape_inventory {subtype : Nat} (f : ChassisPtr)
    (hset : ∀ s, (setInventory subtype s d.chassis).cMgmt = d.chassis.cMgmt ∧
      (setInventory subtype s d.chassis).has = Function.update d.chassis.has f s.isSome) :
    ({ d with
        chassis := setInventory subtype
          (if t.size ≤ 4 then none else some (t.bytes 4 (t.size - 4))) d.chassis }.medCap
      LLDP_MED_CAP_IV).shape = (inventoryOps t f).foldl DraftShape.exec d.shape := by
  unfold inventoryOps
  split
  · exact shapeOf_eq (hset none).2 (congrArg _ (hset none).1) rfl rfl rfl
  · exact shapeOf_eq (hset (some _)).2 (congrArg _ (hset (some _)).1) rfl rfl rfl

theorem shape_setMedPower (power : UInt8) (val : UInt16) :
    (setMedPower power val d).shape = d.shape := by
  unfold setMedPower medPowerType
  split
  · rfl
  · split <;> rfl

theorem shape_location {i : Fin LLDP_MED_LOCFORMAT_LAST} (loc : MedLoc) (hloc : loc.format ≠ 0) :
    ({ d with port.pMedLocation := d.port.pMedLocation.setIfInBounds i.val loc }.medCap
      LLDP_MED_CAP_LOCATION).shape = d.shape.exec (.setPort (.location i)) := by
  refine shapeOf_eq rfl rfl ?_ rfl rfl
  funext f
  cases f with
  | location j =>
    have hget : (d.port.pMedLocation.setIfInBounds i.val loc)[j] =
        if i = j then loc else d.port.pMedLocation[j] := by
      simp [Vector.getElem_setIfInBounds, Fin.ext_iff]
    show decide ((d.port.pMedLocation.setIfInBounds i.val loc)[j].format ≠ 0) =
      Function.update d.port.has (.location i) true (.location j)
    rw [hget]
    by_cases hij : i = j
    · simp [hij, hloc]
    · simp [hij, Ne.symm hij, Port.has]
  | _ => rfl

theorem shape_med : applyMed d t = .ok d' →
    d'.shape = (medOps t).foldl DraftShape.exec d.shape := by
  unfold applyMed applyMedPolicy applyMedLocation medOps
  generalize (t.u8 3).toNat = subtype
  dsimp only
  split
  · intro h
    split at h <;> cases h
    rfl
  · intro h
    split at h
    · cases h
    split at h <;> cases h <;> rfl
  · intro h
    unfold locationOps
    split at h
    · cases h
    rename_i h5
    rw [if_neg h5]
    split at h <;> cases h <;> rename_i hloc
    · rw [dif_pos hloc]
      rfl
    · rw [dif_neg hloc]
      refine shape_location (i := ⟨(t.u8 4).toNat - 1, _⟩) ⟨t.u8 4, _⟩ ?_
      intro hzero
      apply hloc
      left
      simp [show t.u8 4 = 0 from hzero]
  · intro h
    split at h <;> cases h
    exact shape_setMedPower _ _
  iterate 7
    · intro h
      cases h
      refine shape_inventory _ fun s => ⟨rfl, ?_⟩
      funext g
      cases g <;> rfl
  · intro h
    cases h
    simp only [*]
    rfl

theorem shape_org (h : applyOrg b d t = .ok d') :
    d'.shape = (orgOps b t).foldl DraftShape.exec d.shape := by
  unfold applyOrg at h
  unfold orgOps
  split at h
  · cases h
  rename_i h4
  rw [if_neg h4]
  split at h
  · rename_i horg
    rw [if_pos horg]
    split at h
    · rename_i hb
      rw [if_pos hb]
      exact shape_dot1 h
    · rename_i hb
      rw [if_neg hb]
      cases h
      rfl
  rename_i h1
  rw [if_neg h1]
  split at h
  · rename_i horg
    rw [if_pos horg]
    split at h
    · exact shape_dot3 h
    · cases h
      rfl
  rename_i h3
  rw [if_neg h3]
  split at h
  · rename_i horg
    rw [if_pos horg]
    split at h
    · rename_i hb
      rw [if_pos hb]
      exact shape_med h
    · rename_i hb
      rw [if_neg hb]
      cases h
      rfl
  · rename_i hm
    rw [if_neg hm]
    cases h
    rfl

theorem shape_id (op : Op) {d1 : Dec} (hset : d1.shape = d.shape.exec op)
    (h : (if t.size < 2 ∨ t.u8 0 = 0 ∨ 7 < (t.u8 0).toNat then .error (.refused d)
      else .ok d1 : Run Dec Dec) = .ok d') :
    d'.shape = (idOps t op).foldl DraftShape.exec d.shape := by
  unfold idOps
  split at h <;> cases h
  rename_i hid
  rw [if_neg hid]
  exact hset

theorem shape_string (op : Op) {d1 : Dec} (hset : d1.shape = d.shape.exec op)
    (h : (if t.size < 1 then .ok d else .ok d1 : Run Dec Dec) = .ok d') :
    d'.shape = (stringOps t op).foldl DraftShape.exec d.shape := by
  unfold stringOps
  split at h <;> cases h <;> rename_i hsize
  · rw [if_pos hsize]
    rfl
  · rw [if_neg hsize]
    exact hset

/-- Step lemma. -/
theorem shape_applyTlv : applyTlv b cos d t = .ok d' →
    d'.shape = (tlvOps b d t).foldl DraftShape.exec d.shape := by
  unfold applyTlv tlvOps
  generalize t.type = type
  split
  · intro h
    split at h <;> cases h
    rfl
  · refine shape_id (.setChassis .id) (shapeOf_eq ?_ rfl rfl rfl rfl)
    funext f
    cases f <;> rfl
  · refine shape_id (.setPort .id) (shapeOf_eq rfl rfl ?_ rfl rfl)
    funext f
    cases f <;> rfl
  · intro h
    split at h <;> cases h
    rfl
  · refine shape_string (.setPort .descr) (shapeOf_eq rfl rfl ?_ rfl rfl)
    funext f
    cases f <;> rfl
  · refine shape_string (.setChassis .name) (shapeOf_eq ?_ rfl rfl rfl rfl)
    funext f
    cases f <;> rfl
  · refine shape_string (.setChassis .descr) (shapeOf_eq ?_ rfl rfl rfl rfl)
    funext f
    cases f <;> rfl
  · intro h
    split at h <;> cases h
    rfl
  · exact shape_mgmtAddr
  · exact shape_org
  · intro h
    cases h

/-- **The blocks of an accepted frame** are those of its chassis and its port. -/
theorem shape_lldpDecode {stack : Buffer 32} {frame : Bytes} (h : lldpDecode b stack frame = .ok d) :
    d.shape = (lldpOps b stack frame).foldl DraftShape.exec (shapeOf {} {}) := by
  obtain ⟨hheader, hfold, -⟩ := lldpDecode_accepted h
  rw [lldpOps, if_pos hheader]
  exact view_foldlM Dec.shape DraftShape.exec (tlvOps b) (fun _ _ _ => shape_applyTlv) hfold

end

end Lldpd.Lldp
