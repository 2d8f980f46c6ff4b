import Lldpd.Core.Bpf
import Lldpd.L2Proto.Lldp.Safety
import Lldpd.L3Daemon.Decapsulate
import Lldpd.L3Daemon.Received

/-!
# The filter on the receiving sockets

The kernel runs `LLDPD_FILTER_F` on every frame and hands over those it accepts:
`lldpdFilterF_accepts_iff` runs it on every header, and `filter_loses_iff` says what
is lost by it.
-/
namespace Lldpd
open Lldpd.Core Lldpd.Core.Bpf

/-- mirrors lldpd.h:295-318 -/
def LLDPD_FILTER_F : List Insn :=
  [⟨0x30, 0, 0, 0x00000000⟩,
    ⟨0x54, 0, 0, 0x00000001⟩,
    ⟨0x15, 0, 14, 0x00000001⟩,
    ⟨0x28, 0, 0, 0x0000000c⟩,
    ⟨0x15, 0, 4, 0x000088cc⟩,
    ⟨0x20, 0, 0, 0x00000002⟩,
    ⟨0x15, 0, 2, 0xc200000e⟩,
    ⟨0x28, 0, 0, 0x00000000⟩,
    ⟨0x15, 12, 13, 0x00000180⟩,
    ⟨0x20, 0, 0, 0x00000002⟩,
    ⟨0x15, 0, 2, 0x52cccccc⟩,
    ⟨0x28, 0, 0, 0x00000000⟩,
    ⟨0x15, 8, 9, 0x000001e0⟩,
    ⟨0x15, 1, 0, 0x0ccccccc⟩,
    ⟨0x15, 0, 2, 0x81000100⟩,
    ⟨0x28, 0, 0, 0x00000000⟩,
    ⟨0x15, 4, 5, 0x00000100⟩,
    ⟨0x20, 0, 0, 0x00000002⟩,
    ⟨0x15, 0, 3, 0x2b000000⟩,
    ⟨0x28, 0, 0, 0x00000000⟩,
    ⟨0x15, 0, 1, 0x000000e0⟩,
    ⟨0x6, 0, 0, 0x0000ffff⟩,
    ⟨0x6, 0, 0, 0x00000000⟩]

/-- Every path through the program, from the numbers that it loads. The bit that it
tests first is set in all destinations but that of EDP. -/
theorem lldpdFilterF_accepts {frame : Bytes} {hi lo type : Nat} (hhi : load frame 0 2 = some hi)
    (hlo : load frame 2 4 = some lo) (htype : load frame 12 2 = some type) :
    accepts LLDPD_FILTER_F frame ↔
      (hi = 0x0180 ∧ lo = 0xc200000e) ∧ type = 0x88cc ∨ hi = 0x01e0 ∧ lo = 0x52cccccc ∨
        hi = 0x0100 ∧ lo = 0x0ccccccc ∨ hi = 0x0100 ∧ lo = 0x81000100 ∨
        hi = 0x00e0 ∧ lo = 0x2b000000 := by
  simp only [accepts, LLDPD_FILTER_F, run, load_first hhi, hhi, hlo, htype, Option.map_some]
  grind

theorem hi_eq (a b : UInt8) (k : Nat) :
    a.toNat * 256 + b.toNat = k ↔ a.toNat = k / 256 ∧ b.toNat = k % 256 := by
  have hb := b.toNat_lt
  omega

theorem lo_eq (a b c d : UInt8) (k : Nat) :
    ((a.toNat * 256 + b.toNat) * 256 + c.toNat) * 256 + d.toNat = k ↔
      (a.toNat = k / 16777216 ∧ b.toNat = k / 65536 % 256) ∧
        c.toNat = k / 256 % 256 ∧ d.toNat = k % 256 := by
  have hb := b.toNat_lt
  have hc := c.toNat_lt
  have hd := d.toNat_lt
  omega

/-- **The filter**: a frame with a whole header is accepted if and only if a decoder
looks for its destination, with the EtherType of LLDP where it is that of LLDP. -/
theorem lldpdFilterF_accepts_iff {frame : Bytes} (h : 14 ≤ frame.length) :
    accepts LLDPD_FILTER_F frame ↔
      frame.take 6 = Lldp.LLDP_MULTICAST_ADDR ∧ etherType frame = 0x88cc ∨
      frame.take 6 = Cdp.FDP_MULTICAST_ADDR ∨ frame.take 6 = Cdp.CDP_MULTICAST_ADDR ∨
      frame.take 6 = Sonmp.SONMP_MULTICAST_ADDR ∨ frame.take 6 = Edp.EDP_MULTICAST_ADDR := by
  match frame, h with
  | a :: b :: c :: d :: e :: f :: s0 :: s1 :: s2 :: s3 :: s4 :: s5 :: t :: u :: rest, h =>
    rw [lldpdFilterF_accepts (load_of_le (by simp)) (load_of_le (by simp)) (load_of_le (by simp))]
    simp [big, ← UInt8.toNat_inj, ← UInt16.toNat_inj, etherType, Lldp.LLDP_MULTICAST_ADDR,
      Cdp.FDP_MULTICAST_ADDR, Cdp.CDP_MULTICAST_ADDR, Sonmp.SONMP_MULTICAST_ADDR,
      Edp.EDP_MULTICAST_ADDR, hi_eq, lo_eq]
    grind

/-- A frame for CDP, and one for LLDP with another EtherType. -/
theorem lldpdFilterF_accepts_cdp :
    accepts LLDPD_FILTER_F (Cdp.CDP_MULTICAST_ADDR ++ List.replicate 8 0) ∧
      ¬ accepts LLDPD_FILTER_F (Lldp.LLDP_MULTICAST_ADDR ++ List.replicate 8 0) := by
  rw [lldpdFilterF_accepts_iff (by decide), lldpdFilterF_accepts_iff (by decide)]
  decide

theorem load_etherType {frame : Bytes} (h : 14 ≤ frame.length) :
    load frame 12 2 = some (etherType frame).toNat := by
  match frame, h with
  | _ :: _ :: _ :: _ :: _ :: _ :: _ :: _ :: _ :: _ :: _ :: _ :: t :: u :: rest, _ =>
    simp [load, big, etherType]

/-- **What the filter loses**: of the frames that announce a neighbor, those of LLDP with
a VLAN tag. `lldpd_decode` would cut it out, but the filter reads it as the EtherType. -/
theorem filter_loses_iff {b : Build} {s : Daemon} {stack : Buffer 32} {frame : Bytes} {mode : Mode}
    {c : Chassis} {p : Port} (h : Announces b s stack frame mode c p) :
    ¬ accepts LLDPD_FILTER_F frame ↔ mode = .lldp ∧ etherType frame = ETHERTYPE_VLAN := by
  obtain ⟨hlong, hguess, n, hdec⟩ := h
  have hdst : (decapsulate frame).take 6 = frame.take 6 := by
    unfold decapsulate
    split
    · simp [List.take_append, List.take_take]
      omega
    · rfl
  have hhi : (frame.drop 0).take 2 = (frame.take 6).take 2 := by simp [List.take_take]
  have hlo : (frame.drop 2).take 4 = (frame.take 6).drop 2 := by simp [List.drop_take]
  have htype : load frame 12 2 = _ := load_etherType (by omega)
  rw [lldpdFilterF_accepts (load_of_le (by omega)) (load_of_le (by omega)) htype, hhi, hlo, ← hdst]
  obtain ⟨proto, hfind, rfl⟩ := Option.map_eq_some_iff.1 (Option.ite_none_left_eq_some.1 hguess).2
  have hguess := (Bool.and_eq_true_iff.1 (List.find?_some hfind :)).2
  cases hmode : proto.mode with
  | lldp =>
    rw [hmode] at hdec
    have hheader : Lldp.headerOk (decapsulate frame) = true := by
      simp only [decodeMode] at hdec
      split at hdec
      · rename_i hd
        exact (Lldp.lldpDecode_accepted hd).1
      all_goals cases hdec
    simp only [Lldp.headerOk, decide_eq_true_eq] at hheader
    by_cases hvlan : etherType frame = ETHERTYPE_VLAN
    · simp [hheader, hvlan, Lldp.LLDP_MULTICAST_ADDR, big, ETHERTYPE_VLAN]
    · rw [show decapsulate frame = frame from if_neg hvlan] at hheader ⊢
      have htype : etherType frame = 0x88cc := hheader.2.2
      simp [hheader, htype, Lldp.LLDP_MULTICAST_ADDR, big, ETHERTYPE_VLAN]
  | _ =>
    simp_all [Mode.guess, Cdp.cdpGuess, Cdp.CDP_MULTICAST_ADDR, Sonmp.SONMP_MULTICAST_ADDR,
      Edp.EDP_MULTICAST_ADDR, Cdp.FDP_MULTICAST_ADDR, big]

theorem filter_loses_tagged : ∃ frame c p,
    Announces .full (Daemon.started {} lldpOnly) Lldp.zeroStack frame .lldp c p ∧
      ¬ accepts LLDPD_FILTER_F frame :=
  have h := ⟨by decide, by decide, _, rfl⟩
  ⟨Lldp.LLDP_MULTICAST_ADDR ++ [2, 0, 0, 0, 0, 1, 0x81, 0, 0, 1, 0x88, 0xcc, 2, 2, 7, 65,
    4, 2, 7, 65, 6, 2, 0, 120, 0, 0], _, _, h, (filter_loses_iff h).2 (by decide)⟩

end Lldpd
