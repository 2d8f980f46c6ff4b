import Lldpd.Core.Slices
import Lldpd.L3Daemon.Decode

/-!
# The VLAN tag in the receive buffer

`lldpd_decode` cuts a VLAN tag out by moving the rest of the frame four bytes
to the left. `decapsulate` says which bytes are left. Here the move is done in
memory, where it takes four bytes too many: `memmove` is given the number of bytes
behind the addresses, tag included, and starts to read behind the tag.

What is read last is behind the frame, and lands behind what is used of it.
`shiftVlan_handed`: the decoders see what they should. `shiftVlan_reads`: the four
bytes behind the frame are read, and are in the receive buffer if the frame
is four bytes shorter than the MTU.
-/
namespace Lldpd
open Core

/-- The memory from the receive buffer on, the length of the frame in it, and
the offsets that `memmove` has read. -/
structure Shifted where
  memory : Bytes
  s : Nat
  reads : List Nat
  deriving DecidableEq, Repr

def etherType (frame : Bytes) : UInt16 := be16 (frame.getD 12 0) (frame.getD 13 0)

/-- mirrors lldpd.c:507-515 -/
def shiftVlan (memory : Bytes) (s : Nat) : Shifted :=
  if etherType memory = ETHERTYPE_VLAN then
    let dst := 2 * Lldp.ETHER_ADDR_LEN
    let src := 2 * Lldp.ETHER_ADDR_LEN + 4
    let n := s - 2 * Lldp.ETHER_ADDR_LEN
    ⟨memmove memory dst src n, s - 4, List.range' src n⟩
  else ⟨memory, s, []⟩

section Shift
variable {memory : Bytes} {s hMtu : Nat}

theorem decapsulate_take (h : 18 ≤ s) :
    decapsulate (memory.take s) = if etherType memory = ETHERTYPE_VLAN then
      (memory.take s).take 12 ++ (memory.take s).drop 16 else memory.take s := by
  have htype : be16 ((memory.take s).getD 12 0) ((memory.take s).getD 13 0) = etherType memory := by
    simp only [etherType, List.getD_eq_getElem?_getD]
    rw [List.getElem?_take_of_lt (by omega), List.getElem?_take_of_lt (by omega)]
  rw [decapsulate, htype]

/-- **What is handed over** is the frame without the tag, whatever is in memory
behind it. -/
theorem shiftVlan_handed (h : 18 ≤ s) (hmem : s + 4 ≤ memory.length) :
    (shiftVlan memory s).memory.take (shiftVlan memory s).s = decapsulate (memory.take s) := by
  unfold shiftVlan
  rw [decapsulate_take h]
  split
  · have hfront : ((memory.take s).take 12).length = 12 := by
      rw [List.length_take, List.length_take]
      omega
    apply List.ext_getElem?
    intro i
    simp only [Lldp.ETHER_ADDR_LEN, List.getElem?_take]
    rw [getElem?_memmove (by omega) (by omega)]
    by_cases hi : i < 12
    · rw [if_pos (by omega), if_neg (by omega), List.getElem?_append_left (by omega),
        List.getElem?_take_of_lt hi, List.getElem?_take_of_lt (by omega)]
    · rw [List.getElem?_append_right (by omega), hfront, List.getElem?_drop, List.getElem?_take]
      by_cases hs : i < s - 4
      · rw [if_pos hs, if_pos (by omega), if_pos (by omega)]
      · rw [if_neg hs, if_neg (by omega)]
  · rfl

theorem shiftVlan_reads (h : 18 ≤ s) (hvlan : etherType memory = ETHERTYPE_VLAN) {i : Nat} :
    i ∈ (shiftVlan memory s).reads ↔ 16 ≤ i ∧ i < s + 4 := by
  rw [shiftVlan, if_pos hvlan, Lldp.ETHER_ADDR_LEN]
  simp only [List.mem_range'_1]
  omega

/-- **The shift of a frame with a tag**: the four bytes behind the frame are
read, so that the reads are in the receive buffer of `h_mtu` bytes if and only if there
is room for them. -/
theorem shiftVlan_inside_iff (h : 18 ≤ s) (hs : s ≤ hMtu) (hmem : hMtu + 4 ≤ memory.length)
    (hvlan : etherType memory = ETHERTYPE_VLAN) :
    let frame := memory.take s
    let r := shiftVlan memory s
    (r.s = s - 4 ∧ r.memory.take r.s = frame.take 12 ++ frame.drop 16) ∧
      (∀ i, s ≤ i → (i ∈ r.reads ↔ i < s + 4)) ∧
      ((∀ i ∈ r.reads, i < hMtu) ↔ s + 4 ≤ hMtu) := by
  intro frame r
  have hreads {i : Nat} : i ∈ r.reads ↔ 16 ≤ i ∧ i < s + 4 := shiftVlan_reads h hvlan
  refine ⟨⟨?_, ?_⟩, fun i hi => ?_, fun hin => ?_, fun hroom i hi => ?_⟩
  · simp [r, shiftVlan, if_pos hvlan]
  · have hhanded := shiftVlan_handed h (show s + 4 ≤ memory.length by omega)
    rwa [decapsulate_take h, if_pos hvlan] at hhanded
  · rw [hreads]
    omega
  · have hlast := hin (s + 3) (hreads.2 (by omega))
    omega
  · have := (hreads.1 hi).2
    omega

end Shift

theorem shiftVlan_inside_short :
    let memory : Bytes := List.replicate 12 0 ++ [0x81, 0x00, 0, 1] ++ List.replicate 10 7
    let r := shiftVlan memory 18
    (∀ i ∈ r.reads, i < 22) ∧ r.s = 14 ∧
      r.memory.take r.s = (memory.take 18).take 12 ++ (memory.take 18).drop 16 := by
  intro memory
  have h := @shiftVlan_inside_iff memory 18 22 (by decide) (by decide) (by decide) (by decide)
  exact ⟨h.2.2.2 (by decide), h.1⟩

/-- A frame of eighteen bytes in a buffer of eighteen bytes: not all bytes that are
read are in the frame, nor in the buffer. -/
theorem shiftVlan_leaves_buffer :
    let memory : Bytes := List.replicate 12 0 ++ [0x81, 0x00, 0, 1] ++ List.replicate 10 7
    etherType memory = ETHERTYPE_VLAN ∧ ¬ ∀ i ∈ (shiftVlan memory 18).reads, i < 18 := by
  decide

end Lldpd
