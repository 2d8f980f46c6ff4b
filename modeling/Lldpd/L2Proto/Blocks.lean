import Lldpd.Core.Arena
import Lldpd.Core.Reached
import Lldpd.L1Data.Structs

/-!
# What a decoder allocates

`lldp_decode` and `cdp_decode` build a chassis and a port out of blocks: the two
structures, the strings that their pointers refer to, and the elements of their
lists. `Op` is what a branch does to them, and a `Draft` what has been built so
far. A pointer is assigned without looking at what it was.

* `Draft.accounts_run`: all blocks stay accounted for; what a pointer referred
  to when it was overwritten is lost.
* `overwritten_start_iff`: nothing is overwritten if and only if no operation
  writes a pointer that an earlier one has filled (`Op.Spares`).
* `Draft.shape_run` says what the chassis and the port look like afterwards, and
  `shapeOf` what they have to look like for given values: a pointer is NULL when
  the value is `none`, and lists have their lengths.
-/
namespace Lldpd
open Core

/-! ## Pointers -/

/-- The pointers of a `struct lldpd_chassis` to what it owns. -/
inductive ChassisPtr where
  | id | name | descr | medHw | medFw | medSw | medSn | medManuf | medModel | medAsset
  deriving DecidableEq, Repr

/-- The pointers of a `struct lldpd_port` to what it owns, except `p_lastframe`:
no decoder writes it. -/
inductive PortPtr where
  | id | descr | location (i : Fin LLDP_MED_LOCFORMAT_LAST)
  deriving DecidableEq, Repr

instance : FinEnum ChassisPtr :=
  .ofNodupList [.id, .name, .descr, .medHw, .medFw, .medSw, .medSn, .medManuf, .medModel, .medAsset]
    (by intro f; cases f <;> decide) (by decide)

instance : FinEnum PortPtr :=
  .ofNodupList ([.id, .descr] ++ (List.finRange LLDP_MED_LOCFORMAT_LAST).map .location)
    (by intro f; cases f <;> simp) (by decide)

def Chassis.has (c : Chassis) : ChassisPtr → Bool
  | .id => c.cId.isSome
  | .name => c.cName.isSome
  | .descr => c.cDescr.isSome
  | .medHw => c.cMedHw.isSome
  | .medFw => c.cMedFw.isSome
  | .medSw => c.cMedSw.isSome
  | .medSn => c.cMedSn.isSome
  | .medManuf => c.cMedManuf.isSome
  | .medModel => c.cMedModel.isSome
  | .medAsset => c.cMedAsset.isSome

/-- The pointer is not NULL. The format of a location is written with its data. -/
def Port.has (q : Port) : PortPtr → Bool
  | .id => q.pId.isSome
  | .descr => q.pDescr.isSome
  | .location i => q.pMedLocation[i].format ≠ 0

/-- A management address is one block. -/
def Chassis.shape (c : Chassis) : Shape ChassisPtr := ⟨c.has, c.cMgmt.length⟩

/-- A VLAN and a protocol identity are two blocks each, a PPVID is one. -/
def Port.shape (q : Port) : Shape PortPtr :=
  ⟨q.has, 2 * q.pVlans.length + q.pPpvids.length + 2 * q.pPids.length⟩

/-! ## Operations -/

inductive Op where
  /-- `chassis->f = calloc(..)` -/
  | setChassis (f : ChassisPtr)
  /-- `chassis->f = NULL` -/
  | nullChassis (f : ChassisPtr)
  /-- `port->f = calloc(..)` -/
  | setPort (f : PortPtr)
  /-- A management address is added to `c_mgmt`. -/
  | addMgmt
  /-- `vlan = calloc(..)` or `pi = calloc(..)`, not in a list yet -/
  | hold
  /-- The string of it, and then it is added to its list. -/
  | addHeld
  /-- A PPVID is added to `p_ppvids`. -/
  | addPpvid
  deriving DecidableEq, Repr

/-- The chassis and the port a decoder is building. `held` is what its locals
`vlan` and `pi` refer to. -/
structure Draft where
  arena : Arena
  chassis : Obj ChassisPtr
  port : Obj PortPtr
  held : List Nat := []

namespace Draft

/-- The two `calloc`s at the start of a decoder.
mirrors lldp.c:561-575, cdp.c:283-295 -/
def start (m : Arena) : Draft :=
  let (chassis, m) := m.malloc
  let (port, m) := m.malloc
  { arena := m, chassis := { self := chassis }, port := { self := port } }

def exec (p : Draft) : Op → Draft
  | .setChassis f =>
    { p with arena := p.arena.malloc.2, chassis := p.chassis.set f (some p.arena.malloc.1) }
  | .nullChassis f => { p with chassis := p.chassis.set f none }
  | .setPort f => { p with arena := p.arena.malloc.2, port := p.port.set f (some p.arena.malloc.1) }
  | .addMgmt => { p with arena := p.arena.malloc.2, chassis := p.chassis.push [p.arena.malloc.1] }
  | .hold => { p with arena := p.arena.malloc.2, held := p.arena.malloc.1 :: p.held }
  | .addHeld =>
    { p with
      arena := p.arena.malloc.2
      port := p.port.push (p.arena.malloc.1 :: p.held)
      held := [] }
  | .addPpvid => { p with arena := p.arena.malloc.2, port := p.port.push [p.arena.malloc.1] }

def run (p : Draft) (ops : List Op) : Draft := ops.foldl exec p

/-- Everything the locals of the decoder lead to. -/
def own (p : Draft) : List Nat := p.held ++ p.chassis.blocks ++ p.port.blocks

/-- `malformed`: the locals, `lldpd_chassis_cleanup`, `lldpd_port_cleanup` and
`free(port)`.
mirrors lldp.c:1088-1096, cdp.c:575-579, lldpd-structs.c:30-67, 166-195 -/
def malformed (p : Draft) : Arena := p.arena.free p.own

end Draft

/-! ## What is overwritten -/

abbrev DraftPtr := ChassisPtr ⊕ PortPtr

def Draft.ptr (p : Draft) : DraftPtr → Option Nat
  | .inl f => p.chassis.ptr f
  | .inr f => p.port.ptr f

namespace Op

def allocates : Op → Bool
  | .nullChassis _ => false
  | _ => true

def target : Op → Option DraftPtr
  | .setChassis f | .nullChassis f => some (.inl f)
  | .setPort f => some (.inr f)
  | _ => none

/-- The pointer that is not NULL afterwards. -/
def stores : Op → Option DraftPtr
  | .setChassis f => some (.inl f)
  | .setPort f => some (.inr f)
  | _ => none

def overwrites (op : Op) (p : Draft) : List Nat := (op.target.bind p.ptr).toList

/-- `op'`, which comes later, leaves alone what `op` has stored. -/
def Spares (op op' : Op) : Prop := op.stores = none ∨ op.stores ≠ op'.target

instance (op op' : Op) : Decidable (op.Spares op') := inferInstanceAs (Decidable (_ ∨ _))

end Op

def overwritten : Draft → List Op → List Nat
  | _, [] => []
  | p, op :: ops => overwritten (p.exec op) ops ++ op.overwrites p

section
variable {p : Draft} {op op' : Op} {ops : List Op}

theorem exec_ptr (f : DraftPtr) : (p.exec op).ptr f =
    if op.target = some f then op.stores.map fun _ => p.arena.malloc.1 else p.ptr f := by
  cases op with
  | setChassis g | nullChassis g | setPort g =>
    cases f <;> simp [Draft.exec, Draft.ptr, Op.target, Op.stores, Obj.ptr_set, eq_comm]
  | addMgmt | hold | addHeld | addPpvid =>
    cases f <;> rfl

theorem exec_arena : (p.exec op).arena = if op.allocates then p.arena.malloc.2 else p.arena := by
  cases op <;> rfl

theorem target_of_stores (h : op.stores ≠ none) : op.target = op.stores := by
  cases op <;> first | rfl | exact absurd rfl h

theorem overwrites_eq_nil : op.overwrites p = [] ↔ ∀ f, op.target = some f → p.ptr f = none := by
  cases h : op.target with
  | none => simp [Op.overwrites, h]
  | some f => simp [Op.overwrites, h]

theorem overwrites_exec (hnil : op.overwrites p = []) :
    op'.overwrites (p.exec op) = [] ↔ op'.overwrites p = [] ∧ op.Spares op' := by
  rw [overwrites_eq_nil] at hnil
  cases hf : op'.target with
  | none =>
    have hspares : op.Spares op' := by
      by_cases hs : op.stores = none
      · exact .inl hs
      · exact .inr (hf ▸ hs)
    simp [Op.overwrites, hf, hspares]
  | some f =>
    have hexec := @exec_ptr p op f
    simp only [overwrites_eq_nil, Op.Spares, hf, Option.some.injEq, forall_eq', hexec]
    by_cases ht : op.target = some f
    · -- the same pointer: NULL before, and afterwards unless a block was stored
      rw [hnil f ht]
      by_cases hs : op.stores = none
      · simp [hs]
      · simp [← target_of_stores hs, ht]
    · rw [if_neg ht]
      have hspares : op.stores = none ∨ op.stores ≠ some f := by
        by_cases hs : op.stores = none
        · exact .inl hs
        · exact .inr fun h => ht ((target_of_stores hs).trans h)
      simp [hspares]

theorem overwritten_eq_nil : overwritten p ops = [] ↔
    (∀ op ∈ ops, op.overwrites p = []) ∧ ops.Pairwise Op.Spares := by
  induction ops generalizing p with
  | nil => simp [overwritten]
  | cons op ops ih =>
    simp only [overwritten, List.append_eq_nil_iff, ih, List.pairwise_cons]
    by_cases hnil : op.overwrites p = []
    · simp [hnil, overwrites_exec hnil, true_and, forall_and, and_assoc]
    · simp [hnil]

theorem overwritten_start_iff {m : Arena} :
    overwritten (Draft.start m) ops = [] ↔ ops.Pairwise Op.Spares := by
  have hstart : ∀ op : Op, op.overwrites (Draft.start m) = [] := by
    intro op
    rw [overwrites_eq_nil]
    intro f _
    cases f <;> rfl
  rw [overwritten_eq_nil]
  simp [hstart]

end

/-! ## The balance -/

namespace Draft

section
variable {n : Nat} {p : Draft} {rest lost : List Nat}

theorem accounts_start {m : Arena} (h : Accounts n m rest lost) :
    Accounts n (start m).arena ((start m).own ++ rest) lost := by
  refine h.malloc.malloc.congr fun x => ?_
  have hnone : ∀ (ι : Type) (l : List ι), l.filterMap (fun _ => (none : Option Nat)) = [] := by
    simp
  simp only [start, own, Obj.blocks, Obj.contents, hnone, List.nil_append, List.cons_append,
    List.count_cons]
  omega

theorem count_own (p : Draft) (x : Nat) : p.own.count x =
    p.held.count x + [p.chassis.self].count x + p.chassis.contents.count x +
      [p.port.self].count x + p.port.contents.count x := by
  simp only [own, Obj.blocks, List.count_append, List.count_cons, List.count_nil]
  omega

/-- What an operation adds to the blocks of the draft, and what it takes away. -/
theorem count_exec (p : Draft) (op : Op) (x : Nat) :
    (p.exec op).own.count x + (op.overwrites p).count x =
      (if op.allocates then [p.arena.malloc.1] else []).count x + p.own.count x := by
  rw [count_own, count_own]
  cases op with
  | setChassis f =>
    have hset := Obj.count_contents_set x f (some p.arena.malloc.1) p.chassis
    simp only [exec, Op.overwrites, Op.target, Option.bind_some, ptr, Obj.set, Op.allocates,
      if_true, Option.toList_some] at hset ⊢
    omega
  | nullChassis f =>
    have hset := Obj.count_contents_set x f none p.chassis
    simp only [exec, Op.overwrites, Op.target, Option.bind_some, ptr, Obj.set, Op.allocates,
      Bool.false_eq_true, if_false, Option.toList_none] at hset ⊢
    omega
  | setPort f =>
    have hset := Obj.count_contents_set x f (some p.arena.malloc.1) p.port
    simp only [exec, Op.overwrites, Op.target, Option.bind_some, ptr, Obj.set, Op.allocates,
      if_true, Option.toList_some] at hset ⊢
    omega
  | addMgmt =>
    have hpush := Obj.count_contents_push x [p.arena.malloc.1] p.chassis
    simp only [exec, Op.overwrites, Op.target, Option.bind_none, Option.toList_none, Obj.push,
      Op.allocates, if_true, List.count_nil] at hpush ⊢
    omega
  | hold =>
    simp only [exec, Op.overwrites, Op.target, Option.bind_none, Option.toList_none, Op.allocates,
      if_true, List.count_cons]
    omega
  | addHeld =>
    have hpush := Obj.count_contents_push x (p.arena.malloc.1 :: p.held) p.port
    simp only [exec, Op.overwrites, Op.target, Option.bind_none, Option.toList_none, Obj.push,
      Op.allocates, if_true, List.count_cons, List.count_nil] at hpush ⊢
    omega
  | addPpvid =>
    have hpush := Obj.count_contents_push x [p.arena.malloc.1] p.port
    simp only [exec, Op.overwrites, Op.target, Option.bind_none, Option.toList_none, Obj.push,
      Op.allocates, if_true, List.count_nil] at hpush ⊢
    omega

variable (h : Accounts n p.arena (p.own ++ rest) lost)
include h

theorem accounts_exec (op : Op) :
    Accounts n (p.exec op).arena ((p.exec op).own ++ rest) (op.overwrites p ++ lost) := by
  have hcount := count_exec p op
  rw [exec_arena]
  cases ha : op.allocates with
  | true =>
    refine h.malloc.lose fun x => ?_
    have hx := hcount x
    simp only [ha, if_true, List.count_cons, List.count_nil, List.count_append] at hx ⊢
    omega
  | false =>
    refine h.lose fun x => ?_
    have hx := hcount x
    simp only [ha, Bool.false_eq_true, if_false, List.count_nil, List.count_append] at hx ⊢
    omega

/-- **The balance of several operations.** -/
theorem accounts_run (ops : List Op) :
    Accounts n (p.run ops).arena ((p.run ops).own ++ rest) (overwritten p ops ++ lost) := by
  induction ops generalizing p lost with
  | nil => exact h
  | cons op ops ih =>
    have hrun := ih (accounts_exec h op)
    rw [← List.append_assoc] at hrun
    exact hrun

theorem accounts_malformed : Accounts n p.malformed rest lost :=
  h.free fun _ => List.count_append

end

end Draft

/-! ## What the draft looks like -/

structure DraftShape where
  chassis : Shape ChassisPtr := {}
  port : Shape PortPtr := {}
  held : Nat := 0

def DraftShape.exec (sh : DraftShape) : Op → DraftShape
  | .setChassis f => { sh with chassis := sh.chassis.set f true }
  | .nullChassis f => { sh with chassis := sh.chassis.set f false }
  | .setPort f => { sh with port := sh.port.set f true }
  | .addMgmt => { sh with chassis := sh.chassis.push 1 }
  | .hold => { sh with held := sh.held + 1 }
  | .addHeld => { sh with port := sh.port.push (sh.held + 1), held := 0 }
  | .addPpvid => { sh with port := sh.port.push 1 }

def shapeOf (c : Chassis) (q : Port) : DraftShape := { chassis := c.shape, port := q.shape }

theorem shapeOf_eq {c : Chassis} {q : Port} {sh : DraftShape} (hchassis : c.has = sh.chassis.ptr)
    (hmgmt : c.cMgmt.length = sh.chassis.items) (hport : q.has = sh.port.ptr)
    (hitems : 2 * q.pVlans.length + q.pPpvids.length + 2 * q.pPids.length = sh.port.items)
    (hheld : sh.held = 0) : shapeOf c q = sh := by
  obtain ⟨⟨_, _⟩, ⟨_, _⟩, _⟩ := sh
  subst hchassis hmgmt hport hitems hheld
  rfl

/-- Blocks queued in the port. -/
theorem shapeOf_push {c : Chassis} {q q' : Port} {n : Nat} (hport : q'.has = q.has)
    (hitems : 2 * q'.pVlans.length + q'.pPpvids.length + 2 * q'.pPids.length =
      2 * q.pVlans.length + q.pPpvids.length + 2 * q.pPids.length + n) :
    shapeOf c q' = { shapeOf c q with port := q.shape.push n } :=
  shapeOf_eq rfl rfl hport hitems rfl

/-- A chassis that was just allocated has nothing but NULL. -/
theorem shape_newChassis : ({} : Chassis).shape = {} := by
  refine congrArg (Shape.mk · 0) ?_
  funext f
  cases f <;> rfl

namespace Draft

def shape (p : Draft) : DraftShape := ⟨p.chassis.shape, p.port.shape, p.held.length⟩

theorem shape_start (m : Arena) : (start m).shape = shapeOf {} {} := by
  have hport : ({} : Port).shape = {} := by
    refine congrArg (Shape.mk · 0) ?_
    funext f
    cases f with
    | location i => simp [Port.has]
    | _ => rfl
  rw [shapeOf, shape_newChassis, hport]
  rfl

theorem shape_exec (p : Draft) (op : Op) : (p.exec op).shape = p.shape.exec op := by
  cases op with
  | setChassis f | nullChassis f | setPort f =>
    simp [shape, exec, DraftShape.exec, Obj.shape_set]
  | addMgmt | addHeld | addPpvid => simp [shape, exec, DraftShape.exec, Obj.shape_push]
  | hold => rfl

theorem shape_run (p : Draft) (ops : List Op) :
    (p.run ops).shape = ops.foldl DraftShape.exec p.shape := by
  induction ops generalizing p with
  | nil => rfl
  | cons op ops ih => rw [List.foldl_cons, ← shape_exec, ← ih, run, run, List.foldl_cons]

end Draft

end Lldpd
