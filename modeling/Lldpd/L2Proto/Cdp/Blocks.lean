import Lldpd.L2Proto.Blocks
import Lldpd.L2Proto.Cdp.Safety

/-!
# What `cdp_decode` allocates

As for LLDP: `tlvOps` is what the branch of a TLV does with memory, `cdpOps`
what the decoder does with a frame, and `shape_cdpDecode` connects it with the
chassis and the port of a frame that is accepted.
-/
namespace Lldpd.Cdp
open Core

/-- The addresses up to the one that is too short: every IPv4 address goes to
`c_mgmt`.
mirrors cdp.c:402-448 -/
def addressOps : Nat → Nat → Bytes → List Op
  | 0, _, _ => []
  | nb + 1, count, left =>
    if count < 2 ∨ count < protocolLen left + 4 ∨ count < entrySize left then []
    else
      (if isIpv4 left then [.addMgmt] else []) ++
        addressOps nb (count - (protocolLen left + 4)) (left.drop (entrySize left))

/-- Name and id of the chassis, description and id of the port are two blocks
each.
mirrors cdp.c:384-529 -/
def tlvOps (b : Build) (t : Tlv) : List Op :=
  match t.type with
  | CDP_TLV_CHASSIS => [.setChassis .name, .setChassis .id]
  | CDP_TLV_ADDRESSES =>
    if t.size < 4 then [] else addressOps t.addresses (t.size - 4) ((t.window .frame).drop 4)
  | CDP_TLV_PORT => if t.size = 0 then [] else [.setPort .descr, .setPort .id]
  | CDP_TLV_NATIVEVLAN => if b.dot1 && 2 ≤ t.size then [.hold, .addHeld] else []
  | _ => []

/-- mirrors cdp.c:532-559 -/
def descriptionOps (d : Dec) : List Op :=
  if (description d).isSome then [.setChassis .descr] else []

def headerDec (frame : Bytes) : Dec := { chassis.cTtl := (frame.getD 23 0).toUInt16 }

/-- What happens to the chassis and the port that `cdp_decode` starts with.
mirrors cdp.c:300-573 -/
def cdpOps (b : Build) (frame : Bytes) : List Op :=
  if headerOk b frame then
    let apply := applyTlv b .frame (isFdp frame)
    let ts := tlvs (frame.drop 26)
    ((reached apply ts (headerDec frame)).flatMap fun p => tlvOps b p.2) ++
      ((ts.foldlM apply (headerDec frame)).toOption.elim [] fun d =>
        if complete (frame.drop 26) then descriptionOps d else [])
  else []

/-! ## Blocks and values -/

def Dec.shape (d : Dec) : DraftShape := shapeOf d.chassis d.port

section
variable {b : Build} {fdp : Bool} {d d' : Dec} {t : Tlv}

theorem shape_addEntry (entry : Bytes) : (addEntry entry d).shape =
    (if isIpv4 entry then [.addMgmt] else []).foldl DraftShape.exec d.shape := by
  unfold addEntry
  split
  · refine shapeOf_eq rfl ?_ rfl rfl rfl
    exact List.length_append
  · rfl

/-- The loop over the addresses, by induction on their number. -/
theorem shape_addresses {nb count past : Nat} {left : Bytes}
    (h : decodeAddresses nb count ⟨left, past⟩ d = .ok d') :
    d'.shape = (addressOps nb count left).foldl DraftShape.exec d.shape := by
  induction nb generalizing count left past d with
  | zero =>
    cases h
    rfl
  | succ nb ih =>
    rw [decodeAddresses_succ] at h
    split at h
    · cases h
    split at h
    · cases h
    split at h
    · cases h
    split at h
    · cases h
    split at h
    · cases h
    split at h
    · cases h
    rw [addressOps, if_neg (by omega), List.foldl_append, ← shape_addEntry]
    exact ih h

/-- The other branches, on a TLV that is long enough. -/
theorem shape_effect (hne : t.type ≠ CDP_TLV_ADDRESSES) (hs : t.short b fdp = false) :
    (t.effect b fdp d).shape = (tlvOps b t).foldl DraftShape.exec d.shape := by
  unfold Tlv.effect
  unfold Tlv.short at hs
  unfold tlvOps
  split <;> rename_i hty
  · rw [hty]
    refine shapeOf_eq ?_ rfl rfl rfl rfl
    funext f
    cases f <;> rfl
  · rw [hty] at hs ⊢
    have hsize : ¬ t.size = 0 := by simpa using hs
    simp only [hsize]
    refine shapeOf_eq rfl rfl ?_ rfl rfl
    funext f
    cases f <;> rfl
  · rw [hty]
    rfl
  · rw [hty]
    rfl
  · rw [hty]
    rfl
  · rw [hty] at hs ⊢
    cases hb : b.dot1 with
    | false => rfl
    | true =>
      have hsize : 2 ≤ t.size := by
        simp only [hb, Bool.true_and, decide_eq_false_iff_not] at hs
        omega
      simp only [hsize, Bool.true_and, decide_true, if_true]
      exact shapeOf_push (n := 2) rfl (by simp; omega)
  · -- an unknown type: none of those that allocate
    split <;> first | contradiction | rfl

/-- Step lemma. -/
theorem shape_applyTlv (h : applyTlv b .frame fdp d t = .ok d') :
    d'.shape = (tlvOps b t).foldl DraftShape.exec d.shape := by
  by_cases hty : t.type = CDP_TLV_ADDRESSES
  · rw [applyTlv_addresses hty, short_addresses hty] at h
    split at h
    · cases h
    rename_i hs
    have hops : tlvOps b t = addressOps t.addresses (t.size - 4) ((t.window .frame).drop 4) := by
      unfold tlvOps
      rw [hty]
      exact if_neg (by simpa using hs)
    rw [hops]
    exact shape_addresses h
  · rw [applyTlv_other hty] at h
    split at h <;> cases h
    rename_i hs
    exact shape_effect hty (by simpa using hs)

/-- **The blocks of an accepted frame** are those of its chassis and its port. -/
theorem shape_cdpDecode {frame : Bytes} (h : cdpDecode b .frame frame = .ok d) :
    d.shape = (cdpOps b frame).foldl DraftShape.exec (shapeOf {} {}) := by
  rw [cdpDecode_eq] at h
  unfold cdpOps
  split at h
  · rename_i hheader
    rw [if_pos hheader]
    obtain ⟨d1, hloop, hfin⟩ := bind_eq_ok.1 h
    obtain ⟨d2, hfold, hcomplete⟩ := bind_eq_ok.1 hloop
    change (tlvs (frame.drop 26)).foldlM (applyTlv b .frame (isFdp frame)) (headerDec frame) =
      .ok d2 at hfold
    have hshape := view_foldlM Dec.shape DraftShape.exec (fun _ t => tlvOps b t)
      (fun _ _ _ => shape_applyTlv) hfold
    split at hcomplete <;> cases hcomplete
    rename_i hcomplete
    simp only [hfold, Except.toOption, Option.elim_some, hcomplete, List.foldl_append]
    have hshape : d1.shape = List.foldl DraftShape.exec (shapeOf {} {}) _ := hshape
    rw [← hshape]
    unfold finish at hfin
    dsimp only at hfin
    split at hfin <;> cases hfin
    rename_i hmandatory
    have hdescr : (description d1).isSome := by
      rw [Option.isSome_iff_ne_none]
      intro hnone
      exact hmandatory (.inr (.inr (.inr (.inl hnone))))
    rw [descriptionOps, if_pos hdescr]
    refine shapeOf_eq ?_ rfl rfl rfl rfl
    funext f
    cases f with
    | descr => exact hdescr
    | _ => rfl
  · cases h

end

end Lldpd.Cdp
