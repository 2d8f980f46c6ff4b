import Mathlib.Data.Fintype.Card
import Mathlib.Data.Set.Finite.Basic
import Mathlib.Logic.Relation

/-!
# Recursion along links

A function that calls itself for all nodes that a node is linked to, and keeps
no record of where it has been, ends if and only if no node that it comes to
lies on a cycle (`halts_iff`). The number of nodes that it comes to has to be
finite.
-/
namespace Lldpd.Core

variable {α : Type} (next : α → List α)

/-- The recursion ends with `fuel` calls inside of each other. -/
def halts : Nat → α → Bool
  | 0, _ => false
  | fuel + 1, a => (next a).all (halts fuel)

def Comes : α → α → Prop := Relation.ReflTransGen fun a b => b ∈ next a

def Cyclic (a : α) : Prop := Relation.TransGen (fun a b => b ∈ next a) a a

variable {next} {a b : α} {fuel : Nat}

theorem halts_mem (h : halts next (fuel + 1) a = true) (hb : b ∈ next a) :
    halts next fuel b = true :=
  List.all_eq_true.1 h b hb

theorem halts_mono {fuel' : Nat} (hle : fuel ≤ fuel') (h : halts next fuel a = true) :
    halts next fuel' a = true := by
  induction fuel generalizing fuel' a with
  | zero => cases h
  | succ fuel ih =>
    obtain ⟨fuel', rfl⟩ := Nat.exists_eq_add_of_le' (Nat.le_of_add_left_le hle)
    exact List.all_eq_true.2 fun b hb => ih (Nat.le_of_add_le_add_right hle) (halts_mem h hb)

/-- What ends at a node ends where it comes to. -/
theorem halts_comes (hab : Comes next a b) (h : ∃ fuel, halts next fuel a = true) :
    ∃ fuel, halts next fuel b = true := by
  induction hab with
  | refl => exact h
  | tail _ hc ih =>
    obtain ⟨fuel, hfuel⟩ := ih
    cases fuel with
    | zero => cases hfuel
    | succ fuel => exact ⟨fuel, halts_mem hfuel hc⟩

theorem not_cyclic_of_halts (h : halts next fuel a = true) : ¬ Cyclic next a := by
  induction fuel generalizing a with
  | zero => cases h
  | succ fuel ih =>
    intro hcyc
    -- the node behind `a` lies on the same cycle, and has less fuel
    obtain ⟨b, hab, hba⟩ := Relation.TransGen.head'_iff.1 hcyc
    exact ih (halts_mem h hab) (Relation.TransGen.tail'_iff.2 ⟨a, hba, hab⟩)

/-- One amount of fuel for all nodes of a list. -/
theorem exists_fuel {as : List α} (h : ∀ a ∈ as, ∃ fuel, halts next fuel a = true) :
    ∃ fuel, ∀ a ∈ as, halts next fuel a = true := by
  induction as with
  | nil => exact ⟨0, fun _ h => nomatch h⟩
  | cons a as ih =>
    obtain ⟨m, hm⟩ := h a List.mem_cons_self
    obtain ⟨n, hn⟩ := ih fun b hb => h b (List.mem_cons_of_mem _ hb)
    refine ⟨max m n, fun b hb => ?_⟩
    rcases List.mem_cons.1 hb with rfl | hb
    · exact halts_mono (Nat.le_max_left m n) hm
    · exact halts_mono (Nat.le_max_right m n) (hn b hb)

def After (next : α → List α) (a : α) (c b : { b // Comes next a b }) : Prop :=
  Relation.TransGen (fun a b => b ∈ next a) b.1 c.1

theorem after_wellFounded [Finite { b // Comes next a b }]
    (h : ∀ b, Comes next a b → ¬ Cyclic next b) : WellFounded (After next a) := by
  have htrans : IsTrans _ (After next a) := ⟨fun _ _ _ hcb hdc => hdc.trans hcb⟩
  have hirrefl : Std.Irrefl (After next a) := ⟨fun b hb => h b.1 b.2 hb⟩
  exact Finite.wellFounded_of_trans_of_irrefl _

/-- The recursion ends if and only if it does not come to a cycle. -/
theorem halts_iff [Finite { b // Comes next a b }] :
    (∃ fuel, halts next fuel a = true) ↔ ∀ b, Comes next a b → ¬ Cyclic next b := by
  constructor
  · intro h b hab
    obtain ⟨fuel, hfuel⟩ := halts_comes hab h
    exact not_cyclic_of_halts hfuel
  · intro h
    have hall : ∀ b : { b // Comes next a b }, ∃ fuel, halts next fuel b.1 = true := by
      intro b
      induction b using (after_wellFounded h).induction with
      | _ b ih =>
        obtain ⟨fuel, hfuel⟩ := exists_fuel fun c (hc : c ∈ next b.1) =>
          ih ⟨c, b.2.tail hc⟩ (.single hc)
        exact ⟨fuel + 1, List.all_eq_true.2 hfuel⟩
    exact hall ⟨a, .refl⟩

end Lldpd.Core
