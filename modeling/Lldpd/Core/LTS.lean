/-!
# Labelled transition systems

A state machine is an initial predicate and a labelled step relation. Two
notions carry every run-level result of the development:

* `LTS.Reachable`: the states of some run from an initial state;
* `LTS.Inductive`: a predicate that holds initially and that each step keeps;
  `LTS.Inductive.reachable` turns it into a fact about every reachable state.

`LTS.restrict` keeps the runs all of whose states satisfy a side condition,
and `LTS.guard` the runs all of whose steps are taken under one.

A machine refines another one when each of its steps is matched by some steps
of the other (`LTS.Steps`): `LTS.Reachable.steps`.
-/
namespace Lldpd.Core

/-- A labelled transition system. -/
structure LTS (S L : Type) where
  init : S → Prop
  step : S → L → S → Prop

namespace LTS

variable {S L : Type}

/-- The states of some run of `M`. -/
inductive Reachable (M : LTS S L) : S → Prop where
  | init {s : S} : M.init s → Reachable M s
  | step {s s' : S} {l : L} : Reachable M s → M.step s l s' → Reachable M s'

structure Inductive (M : LTS S L) (P : S → Prop) : Prop where
  init : ∀ s, M.init s → P s
  step : ∀ s l s', P s → M.step s l s' → P s'

variable {M : LTS S L} {s : S}

theorem Inductive.reachable {P : S → Prop} (h : M.Inductive P) (s : S)
    (hs : M.Reachable s) : P s := by
  induction hs with
  | init hi => exact h.init _ hi
  | step _ hst ih => exact h.step _ _ _ ih hst

/-- The machine of a partial step function: `none` means the step is not
possible from this state. -/
def ofFn (init : S → Prop) (f : S → L → Option S) : LTS S L where
  init := init
  step s l s' := f s l = some s'

variable {H init : S → Prop} {f : S → L → Option S} {ls : List L} {s s' : S}

/-- A run of any function that only takes steps of the machine. -/
theorem reachable_of_foldlM {g : S → L → Option S} (hg : ∀ l ∈ ls, ∀ s s', M.Reachable s →
    g s l = some s' → M.step s l s') (hs : M.Reachable s) (h : ls.foldlM g s = some s') :
    M.Reachable s' := by
  induction ls generalizing s with
  | nil =>
    cases h
    exact hs
  | cons l ls ih =>
    obtain ⟨s1, h1, h⟩ := Option.bind_eq_some_iff.1 h
    exact ih (fun l hl => hg l (List.mem_cons_of_mem _ hl))
      (.step hs (hg l List.mem_cons_self s s1 hs h1)) h

theorem reachable_foldlM (hs : (ofFn init f).Reachable s) (h : ls.foldlM f s = some s') :
    (ofFn init f).Reachable s' :=
  reachable_of_foldlM (fun _ _ _ _ _ hst => hst) hs h

/-- The runs of `M` in which every state satisfies `H`. -/
def restrict (M : LTS S L) (H : S → Prop) : LTS S L where
  init s := M.init s ∧ H s
  step s l s' := M.step s l s' ∧ H s ∧ H s'

/-- The runs of `M` in which every step `l` is taken from a state that
satisfies `G` for it. -/
def guard (M : LTS S L) (G : S → L → Prop) : LTS S L where
  init := M.init
  step s l s' := G s l ∧ M.step s l s'

theorem reachable_of_restrict (h : (M.restrict H).Reachable s) : M.Reachable s := by
  induction h with
  | init hi => exact .init hi.1
  | step _ hst ih => exact .step ih hst.1

theorem of_reachable_restrict (h : (M.restrict H).Reachable s) : H s := by
  cases h with
  | init hi => exact hi.2
  | step _ hst => exact hst.2.2

theorem reachable_restrict_foldlM [DecidablePred H] (hs : ((ofFn init f).restrict H).Reachable s)
    (h : ls.foldlM (fun s l => (f s l).filter (H ·)) s = some s') :
    ((ofFn init f).restrict H).Reachable s' := by
  refine reachable_of_foldlM (fun l _ s s' hs hst => ?_) hs h
  obtain ⟨h1, hH⟩ := Option.filter_eq_some_iff.1 hst
  exact ⟨h1, of_reachable_restrict hs, of_decide_eq_true hH⟩

theorem reachable_of_guard {G : S → L → Prop} (h : (M.guard G).Reachable s) : M.Reachable s := by
  induction h with
  | init hi => exact .init hi
  | step _ hst ih => exact .step ih hst.2

/-- Steps whose labels meet the side condition from any state. -/
theorem reachable_guard_foldlM {G : S → L → Prop} (hG : ∀ l ∈ ls, ∀ s, G s l)
    (hs : ((ofFn init f).guard G).Reachable s) (h : ls.foldlM f s = some s') :
    ((ofFn init f).guard G).Reachable s' :=
  reachable_of_foldlM (fun l hl s _ _ hst => ⟨hG l hl s, hst⟩) hs h

/-! ## Several steps -/

inductive Steps (M : LTS S L) : S → S → Prop where
  | refl (s : S) : Steps M s s
  | head {s s' s'' : S} {l : L} : M.step s l s' → Steps M s' s'' → Steps M s s''

namespace Steps
variable {M : LTS S L} {s s' s'' : S}

theorem single {l : L} (h : M.step s l s') : M.Steps s s' := .head h (.refl _)

theorem trans (h : M.Steps s s') (h' : M.Steps s' s'') : M.Steps s s'' := by
  induction h with
  | refl => exact h'
  | head hst _ ih => exact .head hst (ih h')

theorem mono {G G' : S → L → Prop} (hG : ∀ s l, G s l → G' s l) (h : (M.guard G).Steps s s') :
    (M.guard G').Steps s s' := by
  induction h with
  | refl => exact .refl _
  | head hst _ ih => exact .head ⟨hG _ _ hst.1, hst.2⟩ ih

theorem keeps {P : S → Prop} (hP : ∀ s l s', P s → M.step s l s' → P s') (h : M.Steps s s')
    (hs : P s) : P s' := by
  induction h with
  | refl => exact hs
  | head hst _ ih => exact ih (hP _ _ _ hs hst)

end Steps

theorem Reachable.steps {s' : S} (hs : M.Reachable s) (h : M.Steps s s') : M.Reachable s' :=
  h.keeps (fun _ _ _ ht hst => .step ht hst) hs

end LTS

end Lldpd.Core
