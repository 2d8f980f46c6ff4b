import Lldpd.Core.Bytes

/-!
# Classic BPF

The instructions that load from the packet into the accumulator, mask it,
compare it and return. Jumps go forward only, so that a run is a recursion on
the program: `skip` counts the instructions that a jump still has to pass. A load
behind the packet ends the run with 0.
-/
namespace Lldpd.Core.Bpf

/-- `struct sock_filter`. -/
structure Insn where
  code : Nat
  jt : Nat
  jf : Nat
  k : Nat
  deriving DecidableEq, Repr

/-- The number with the given bytes, the first one in front. -/
def big (bs : Bytes) : Nat := bs.foldl (fun n b => n * 256 + b.toNat) 0

def load (packet : Bytes) (k size : Nat) : Option Nat :=
  if k + size ≤ packet.length then some (big ((packet.drop k).take size)) else none

/-- What the program returns from the accumulator `a`. A program that the kernel
does not take (an unknown code, a jump behind its end) returns 0. -/
def run (packet : Bytes) : List Insn → (skip a : Nat) → Nat
  | [], _, _ => 0
  | _ :: rest, skip + 1, a => run packet rest skip a
  | ⟨code, jt, jf, k⟩ :: rest, 0, a =>
    match code with
    | 0x20 => ((load packet k 4).map (run packet rest 0)).getD 0
    | 0x28 => ((load packet k 2).map (run packet rest 0)).getD 0
    | 0x30 => ((load packet k 1).map (run packet rest 0)).getD 0
    | 0x54 => run packet rest 0 (a &&& k)
    | 0x15 => if a = k then run packet rest jt a else run packet rest jf a
    | 0x06 => k
    | _ => 0

def accepts (program : List Insn) (packet : Bytes) : Prop := run packet program 0 0 ≠ 0

instance (program : List Insn) (packet : Bytes) : Decidable (accepts program packet) :=
  inferInstanceAs (Decidable (_ ≠ _))

section Load
variable {packet : Bytes} {k size n : Nat}

theorem load_of_le (h : k + size ≤ packet.length) :
    load packet k size = some (big ((packet.drop k).take size)) := if_pos h

/-- The first of two bytes. -/
theorem load_first (h : load packet k 2 = some n) : load packet k 1 = some (n / 256) := by
  unfold load at h ⊢
  split at h
  · have hlen : (packet.drop k).length = packet.length - k := List.length_drop
    match hd : packet.drop k with
    | a :: b :: rest =>
      rw [hd] at h
      cases h
      have hb := b.toNat_lt
      simp [big]
      omega
    | [a] | [] =>
      simp [hd] at hlen
      omega
  · cases h

end Load

end Lldpd.Core.Bpf
