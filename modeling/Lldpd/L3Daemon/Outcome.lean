import Lldpd.L2Proto.Cdp.Safety
import Lldpd.L2Proto.Lldp.Refine
import Lldpd.L3Daemon.Decode

/-!
# What the decoders leave alone

A decoder fills a port that `calloc` has made, and no TLV has a say in the
flags of the smart filter: a new neighbor is visible (`decodeMode_visible`).
EDP and SONMP frames carry no lifetime, so the one that the receiver has put
there in front of the TLVs is the one of the neighbor (`decodeMode_ttl`).
-/
namespace Lldpd
open Core

/-- The flags of the smart filter, for reception and for emission. -/
def Port.flags (p : Port) : Bool × Bool := (p.pHiddenIn, p.pHiddenOut)

namespace Lldp
variable {b : Build} {cos : Bytes} {d d' : Dec} {t : Tlv}

/-- Step lemma. -/
theorem flags_applyTlv (h : applyTlv b cos d t = .ok d') : d'.port.flags = d.port.flags := by
  unfold applyTlv at h
  split at h
  iterate 8
    · split at h <;> cases h <;> rfl
  · obtain ⟨_, _, _, rfl⟩ := applyMgmtAddr_ok h
    rfl
  · exact congrArg Basic.hidden (applyOrg_basic h)
  · cases h

theorem flags_lldpDecode {stack : Buffer 32} {frame : Bytes} (h : lldpDecode b stack frame = .ok d) :
    d.port.flags = (false, false) := by
  obtain ⟨-, hfold, -⟩ := lldpDecode_accepted h
  exact view_eq_of_foldlM (fun d : Dec => d.port.flags) (fun _ _ _ => flags_applyTlv) hfold

end Lldp

namespace Cdp
variable {b : Build} {fdp : Bool} {d d' : Dec} {t : Tlv}

/-- Step lemma. -/
theorem flags_applyTlv (h : applyTlv b .frame fdp d t = .ok d') : d'.port.flags = d.port.flags := by
  by_cases hty : t.type = CDP_TLV_ADDRESSES
  · rw [applyTlv_addresses hty] at h
    split at h
    · cases h
    · obtain ⟨mgmt, rfl⟩ := decodeAddresses_ok h
      rfl
  · rw [applyTlv_other hty] at h
    split at h <;> cases h
    unfold Tlv.effect
    repeat' split
    all_goals rfl

theorem flags_cdpDecode {frame : Bytes} (h : cdpDecode b .frame frame = .ok d) :
    d.port.flags = (false, false) := by
  rw [cdpDecode_eq] at h
  split at h
  · obtain ⟨d1, hloop, hfin⟩ := bind_eq_ok.1 h
    obtain ⟨d2, hfold, hcomplete⟩ := bind_eq_ok.1 hloop
    have hflags := view_eq_of_foldlM (fun d : Dec => d.port.flags) (fun _ _ _ => flags_applyTlv) hfold
    split at hcomplete <;> cases hcomplete
    unfold finish at hfin
    dsimp only at hfin
    split at hfin <;> cases hfin
    exact hflags
  · cases h

end Cdp

namespace Edp
variable {b : Build} {d d' : Dec}

/-- What the TLVs do not change: the flags and the lifetime. -/
def Dec.fixed (d : Dec) : (Bool × Bool) × UInt16 := (d.port.flags, d.chassis.cTtl)

variable {c : Cursor} {tlvLen : Nat} {bound : Bound}

theorem fixed_decodeInfo (h : decodeInfo tlvLen c d = .ok d') : d'.fixed = d.fixed := by
  unfold decodeInfo at h
  split at h
  · cases h
  obtain ⟨⟨slot, c⟩, -, h⟩ := bind_eq_ok.1 h
  obtain ⟨⟨port, c⟩, -, h⟩ := bind_eq_ok.1 h
  obtain ⟨⟨version, c⟩, -, h⟩ := bind_eq_ok.1 h
  cases h
  rfl

theorem fixed_decodeVlan (h : decodeVlan b tlvLen c d = .ok d') : d'.fixed = d.fixed := by
  unfold decodeVlan at h
  split at h
  · cases h
    rfl
  split at h
  · cases h
  obtain ⟨⟨vid, c⟩, -, h⟩ := bind_eq_ok.1 h
  obtain ⟨⟨address, c⟩, -, h⟩ := bind_eq_ok.1 h
  dsimp only at h
  split at h
  · obtain ⟨d1, hd1, h⟩ := bind_eq_ok.1 h
    obtain ⟨⟨name, c⟩, -, h⟩ := bind_eq_ok.1 h
    cases hd1
    cases h
    rfl
  · split at h
    · obtain ⟨d1, hd1, h⟩ := bind_eq_ok.1 h
      obtain ⟨⟨name, c⟩, -, h⟩ := bind_eq_ok.1 h
      cases hd1
      cases h
      rfl
    · cases h

/-- Step lemma. -/
theorem fixed_decodeTlv {tlvType : Nat}
    (h : decodeTlv b tlvType tlvLen c d = .ok d') : d'.fixed = d.fixed := by
  unfold decodeTlv at h
  split at h
  · exact fixed_decodeInfo h
  · obtain ⟨⟨name, c⟩, -, h⟩ := bind_eq_ok.1 h
    cases h
    rfl
  · split at h <;> cases h
    rfl
  · exact fixed_decodeVlan h
  · cases h
    rfl

theorem fixed_decodeStep {rest : Bytes} {r : Dec × Bytes}
    (h : decodeStep b bound rest d = .ok r) : r.1.fixed = d.fixed := by
  unfold decodeStep at h
  split at h
  · cases h
  obtain ⟨⟨marker, c⟩, -, h⟩ := bind_eq_ok.1 h
  dsimp only at h
  split at h
  · cases h
  obtain ⟨⟨tlvType, c⟩, -, h⟩ := bind_eq_ok.1 h
  obtain ⟨⟨size, c⟩, -, h⟩ := bind_eq_ok.1 h
  split at h
  · cases h
    rfl
  · obtain ⟨d1, htlv, h⟩ := bind_eq_ok.1 h
    cases h
    exact fixed_decodeTlv htlv

theorem fixed_decodeLoop {fuel : Nat} {rest : Bytes}
    (h : decodeLoop b bound fuel rest d = .ok d') : d'.fixed = d.fixed := by
  induction fuel generalizing rest d with
  | zero => cases h
  | succ fuel ih =>
    unfold decodeLoop at h
    split at h
    · cases h
      rfl
    · obtain ⟨r, hstep, h⟩ := bind_eq_ok.1 h
      exact (ih h).trans (fixed_decodeStep hstep)

theorem fixed_edpDecode {cfg : Config} {frame : Bytes}
    (h : edpDecode b bound cfg frame = .ok (.neighbor d)) :
    d.fixed = ((false, false), cfg.ttl) := by
  obtain ⟨r, -, h⟩ := bind_eq_ok.1 h
  obtain ⟨d1, hloop, hfin⟩ := bind_eq_ok.1 h
  have hfixed := fixed_decodeLoop hloop
  unfold finish at hfin
  split at hfin
  · split at hfin <;> cases hfin
  · cases hfin
    exact hfixed

end Edp

theorem Sonmp.fixed_sonmpDecode {cfg : Config} {frame : Bytes} {c : Chassis} {p : Port}
    (h : Sonmp.sonmpDecode cfg frame = .ok (c, p)) : p.flags = (false, false) ∧ c.cTtl = cfg.ttl := by
  unfold Sonmp.sonmpDecode at h
  split at h
  · cases h
  obtain ⟨⟨dst, cur⟩, -, h⟩ := bind_eq_ok.1 h
  dsimp only at h
  split at h
  · cases h
  obtain ⟨⟨pid, cur⟩, -, h⟩ := bind_eq_ok.1 h
  split at h
  · cases h
  obtain ⟨⟨address, cur⟩, -, h⟩ := bind_eq_ok.1 h
  obtain ⟨⟨seg, cur⟩, -, h⟩ := bind_eq_ok.1 h
  obtain ⟨mgmt, -, h⟩ := bind_eq_ok.1 h
  cases h
  exact ⟨rfl, rfl⟩

section
variable {b : Build} {cfg : Config} {stack : Buffer 32} {mode : Mode} {frame : Bytes}
  {c : Chassis} {p : Port} {n : Nat}

theorem decodeMode_visible (h : decodeMode b cfg stack mode frame = .ok (.neighbor c p, n)) :
    p.pHiddenIn = false ∧ p.pHiddenOut = false := by
  suffices p.flags = (false, false) from Prod.mk.inj this
  unfold decodeMode at h
  cases mode with
  | lldp =>
    dsimp only at h
    split at h <;> cases h
    exact Lldp.flags_lldpDecode ‹_›
  | sonmp =>
    dsimp only at h
    split at h <;> cases h
    rename_i hdec
    exact (Sonmp.fixed_sonmpDecode hdec :).1
  | edp =>
    dsimp only at h
    split at h <;> cases h
    exact (Prod.mk.inj (Edp.fixed_edpDecode ‹_›)).1
  | _ =>
    dsimp only at h
    split at h <;> cases h
    exact Cdp.flags_cdpDecode ‹_›

/-- A neighbor learnt by EDP or SONMP lives as long as the receiver says of
itself. -/
theorem decodeMode_ttl (hmode : mode = .edp ∨ mode = .sonmp)
    (h : decodeMode b cfg stack mode frame = .ok (.neighbor c p, n)) : c.cTtl = cfg.ttl := by
  unfold decodeMode at h
  rcases hmode with rfl | rfl
  · dsimp only at h
    split at h <;> cases h
    exact (Prod.mk.inj (Edp.fixed_edpDecode ‹_›)).2
  · dsimp only at h
    split at h <;> cases h
    rename_i hdec
    exact (Sonmp.fixed_sonmpDecode hdec :).2

end

end Lldpd
