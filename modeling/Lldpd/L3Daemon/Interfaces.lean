import Lldpd.Core.Bytes
import Lldpd.Core.Descent
import Mathlib.Data.List.Forall2

/-!
# VLANs and the interfaces below them (`netlink.c`, `interfaces.c`)

The kernel reports for every interface at most one interface below it and one
above it. `iface_append_vlan_to_lower` follows these links from a VLAN down to the
physical interfaces and does not remember where it has been: it ends if and only
if no interface that it comes to is linked, over others, to itself
(`vlan_propagates_iff`). The two ends of a veth pair that are both reported name
each other as the interface below.
-/
namespace Lldpd.Interfaces
open Core

/-- What the kernel says of an interface, and `type & IFACE_PHYSICAL_T`.
mirrors lldpd.h:333-353, netlink.c:126-193 -/
structure Device where
  index : Int
  name : Bytes
  lowerIdx : Int := -1
  upperIdx : Int := -1
  physical : Bool := false
  vlanid : Nat := 0
  deriving DecidableEq, Repr

structure Interface extends Device where
  lower : Option Nat
  upper : Option Nat
  deriving DecidableEq, Repr

/-- mirrors netlink.c:373-386 -/
def link (ifs : List Device) (iface1 : Device) (idx : Int) : Option Nat :=
  if idx ≠ -1 ∧ idx ≠ iface1.index then ifs.findIdx? fun iface2 => idx = iface2.index else none

/-- mirrors netlink.c:347-391 -/
def netlinkGetInterfaces (ifs : List Device) : List Interface :=
  ifs.map fun iface1 => { iface1 with
    upper := link ifs iface1 iface1.upperIdx
    lower := link ifs iface1 iface1.lowerIdx }

structure LocalPort where
  hIfname : Bytes
  hIfindex : Int
  pVlans : List (Bytes × Nat)
  deriving DecidableEq, Repr

/-- `lldpd_get_hardware` asks for the name and the index. -/
def LocalPort.Is (p : LocalPort) (d : Device) : Prop := p.hIfname = d.name ∧ p.hIfindex = d.index

instance (p : LocalPort) (d : Device) : Decidable (p.Is d) := inferInstanceAs (Decidable (_ ∧ _))

/-- Is the VLAN already here? `strncmp` reads `IFNAMSIZ` bytes of the names. -/
def LocalPort.Carries (vlan : Device) (p : LocalPort) : Prop :=
  p.pVlans.any (fun v => vlan.name.take 16 = v.1.take 16) = true

instance (vlan : Device) (p : LocalPort) : Decidable (p.Carries vlan) :=
  inferInstanceAs (Decidable (_ = true))

def LocalPort.append (vlan : Device) (p : LocalPort) : LocalPort :=
  { p with pVlans := p.pVlans ++ [(vlan.name, vlan.vlanid)] }

/-- mirrors interfaces.c:192-226, lldpd.c:138-148 -/
def ifaceAppendVlan (vlan lower : Device) : List LocalPort → List LocalPort
  | [] => []
  | p :: ports =>
    if p.Is lower then (if p.Carries vlan then p else p.append vlan) :: ports
    else p :: ifaceAppendVlan vlan lower ports

def belows (ifs : List Interface) (upper : Nat) : List Nat :=
  (List.range ifs.length).filter fun i => ifs[i]?.bind Interface.upper = some upper

/-- `none`: more than `fuel` calls inside of each other.
mirrors interfaces.c:236-273 -/
def ifaceAppendVlanToLower (ifs : List Interface) (vlan : Device) :
    Nat → Nat → List LocalPort → Option (List LocalPort)
  | 0, _, _ => none
  | fuel + 1, upper, ports =>
    match ifs[upper]? with
    | none => some ports
    | some iface =>
      match iface.lower with
      | some lower => ifaceAppendVlanToLower ifs vlan fuel lower ports
      | none =>
        if iface.physical then some (ifaceAppendVlan vlan iface.toDevice ports)
        else (belows ifs upper).foldlM
          (fun ports lower => ifaceAppendVlanToLower ifs vlan fuel lower ports) ports

/-! ## The links that are followed -/

def Lowest (ifs : List Interface) (i : Nat) (d : Device) : Prop :=
  ∃ iface, ifs[i]? = some iface ∧ iface.lower = none ∧ iface.physical = true ∧ iface.toDevice = d

/-- Where `iface_append_vlan_to_lower` goes from an interface. -/
def lowers (ifs : List Interface) (i : Nat) : List Nat :=
  (ifs[i]?).elim [] fun iface =>
    iface.lower.elim (if iface.physical then [] else belows ifs i) fun lower => [lower]

/-- It has come to a physical interface, or it goes on. -/
theorem append_succ (ifs : List Interface) (vlan : Device) (fuel i : Nat) (ports : List LocalPort) :
    (∃ d, Lowest ifs i d ∧ lowers ifs i = [] ∧
      ifaceAppendVlanToLower ifs vlan (fuel + 1) i ports = some (ifaceAppendVlan vlan d ports)) ∨
    (∀ d, ¬ Lowest ifs i d) ∧ ifaceAppendVlanToLower ifs vlan (fuel + 1) i ports =
      (lowers ifs i).foldlM (fun ports j => ifaceAppendVlanToLower ifs vlan fuel j ports) ports := by
  cases hi : ifs[i]? with
  | none =>
    refine .inr ⟨?_, ?_⟩
    · rintro d ⟨iface, h, -⟩
      cases hi.symm.trans h
    · rw [lowers, ifaceAppendVlanToLower, hi]
      rfl
  | some iface =>
    have hlowers : lowers ifs i =
        iface.lower.elim (if iface.physical then [] else belows ifs i) fun lower => [lower] := by
      rw [lowers, hi]
      rfl
    cases hl : iface.lower with
    | some lower =>
      refine .inr ⟨?_, ?_⟩
      · rintro d ⟨iface', h, hnone, -⟩
        cases hi.symm.trans h
        cases hl.symm.trans hnone
      · rw [hlowers, ifaceAppendVlanToLower, hi]
        dsimp only
        rw [hl]
        exact (bind_pure _).symm
    | none =>
      rw [hlowers, ifaceAppendVlanToLower, hi]
      dsimp only
      rw [hl]
      by_cases hp : iface.physical = true
      · rw [if_pos hp]
        exact .inl ⟨_, ⟨iface, hi, hl, hp, rfl⟩, rfl, if_pos hp⟩
      · rw [if_neg hp]
        refine .inr ⟨?_, if_neg hp⟩
        rintro d ⟨iface', h, -, hphys, -⟩
        cases hi.symm.trans h
        exact hp hphys

/-! ## When it ends -/

/-- Whether it ends does not depend on the ports. -/
theorem isSome_append (ifs : List Interface) (vlan : Device) (fuel i : Nat) (ports : List LocalPort) :
    (ifaceAppendVlanToLower ifs vlan fuel i ports).isSome = halts (lowers ifs) fuel i := by
  induction fuel generalizing i ports with
  | zero => rfl
  | succ fuel ih =>
    have hfold : ∀ (js : List Nat) (ports : List LocalPort),
        (js.foldlM (fun ports j => ifaceAppendVlanToLower ifs vlan fuel j ports) ports).isSome =
          js.all (halts (lowers ifs) fuel) := by
      intro js
      induction js with
      | nil =>
        intro ports
        rfl
      | cons j js ihjs =>
        intro ports
        rw [List.foldlM_cons, List.all_cons, ← ih j ports]
        cases ifaceAppendVlanToLower ifs vlan fuel j ports with
        | none => rfl
        | some ports' => exact ihjs ports'
    unfold halts
    rcases append_succ ifs vlan fuel i ports with ⟨d, -, hnil, h⟩ | ⟨-, h⟩
    · rw [h, hnil]
      rfl
    · rw [h]
      exact hfold _ ports

variable {i : Nat} {ifs : List Interface} {ports ports' : List LocalPort} {vlan : Device}

theorem link_lt {ifs : List Device} {d : Device} {idx : Int} (h : link ifs d idx = some i) :
    i < ifs.length := by
  unfold link at h
  split at h
  · exact (List.findIdx?_eq_some_iff_getElem.1 h).1
  · cases h

theorem lowers_lt {links : List Device} {j : Nat} (h : j ∈ lowers (netlinkGetInterfaces links) i) :
    j < links.length := by
  have hlen : (netlinkGetInterfaces links).length = links.length := List.length_map ..
  unfold lowers at h
  cases hi : (netlinkGetInterfaces links)[i]? with
  | none =>
    rw [hi] at h
    cases h
  | some iface =>
    rw [hi, Option.elim_some] at h
    cases hl : iface.lower with
    | some lower =>
      rw [hl] at h
      rw [List.mem_singleton.1 h]
      obtain ⟨d, -, rfl⟩ := List.mem_map.1 (List.mem_of_getElem? hi)
      exact link_lt hl
    | none =>
      rw [hl] at h
      split at h
      · cases h
      · have := List.mem_range.1 (List.mem_filter.1 h).1
        omega

theorem finite_comes (links : List Device) (start : Nat) :
    Finite { i // Comes (lowers (netlinkGetInterfaces links)) start i } := by
  apply Set.Finite.subset ((Set.finite_lt_nat links.length).insert start)
  intro i hi
  cases hi with
  | refl => exact Set.mem_insert _ _
  | tail _ h => exact Set.mem_insert_of_mem _ (lowers_lt h)

/-! ## What it adds -/

def Gets (vlan : Device) (Q : LocalPort → Prop) (p p' : LocalPort) : Prop :=
  p' = p ∨ Q p ∧ ¬ p.Carries vlan ∧ p' = p.append vlan

def Has (vlan d : Device) (ports : List LocalPort) : Prop :=
  ∀ p, ports.find? (fun p => p.Is d) = some p → p.Carries vlan

section Adds
variable {vlan d : Device} {Q Q' : LocalPort → Prop} {p p' p'' : LocalPort}
  {ports ports' ports'' : List LocalPort}

theorem carries_append : (p.append vlan).Carries vlan := by
  unfold LocalPort.Carries LocalPort.append
  rw [List.any_append, List.any_cons, decide_eq_true rfl, Bool.true_or, Bool.or_true]

theorem Gets.is (h : Gets vlan Q p p') (d : Device) : p'.Is d ↔ p.Is d := by
  rcases h with rfl | ⟨-, -, rfl⟩ <;> exact Iff.rfl

theorem Gets.carries (h : Gets vlan Q p p') (hp : p.Carries vlan) : p'.Carries vlan := by
  rcases h with rfl | ⟨-, hnot, -⟩
  · exact hp
  · exact absurd hp hnot

theorem Gets.mono (hQ : ∀ p, Q p → Q' p) (h : Gets vlan Q p p') : Gets vlan Q' p p' :=
  h.imp id fun ⟨hq, h⟩ => ⟨hQ p hq, h⟩

/-- A port that has got the VLAN does not get it again. -/
theorem Gets.trans (h : Gets vlan Q p p') (h' : Gets vlan Q p' p'') : Gets vlan Q p p'' := by
  rcases h with rfl | ⟨hq, hnot, rfl⟩
  · exact h'
  · rcases h' with rfl | ⟨-, hnot', -⟩
    · exact .inr ⟨hq, hnot, rfl⟩
    · exact absurd carries_append hnot'

theorem gets_refl (ports : List LocalPort) : List.Forall₂ (Gets vlan Q) ports ports :=
  List.forall₂_same.2 fun _ _ => .inl rfl

theorem gets_trans (h : List.Forall₂ (Gets vlan Q) ports ports')
    (h' : List.Forall₂ (Gets vlan Q) ports' ports'') : List.Forall₂ (Gets vlan Q) ports ports'' := by
  induction h generalizing ports'' with
  | nil => exact h'
  | cons hp _ ih =>
    cases h' with
    | cons hp' h' => exact .cons (hp.trans hp') (ih h')

theorem find?_is_of_pos (hd : p.Is d) : (p :: ports).find? (fun p => p.Is d) = some p := by
  rw [List.find?_cons, decide_eq_true hd]

theorem find?_is_of_neg (hd : ¬ p.Is d) :
    (p :: ports).find? (fun p => p.Is d) = ports.find? fun p => p.Is d := by
  rw [List.find?_cons, decide_eq_false hd]

theorem Has.mono (h : Has vlan d ports) (hgets : List.Forall₂ (Gets vlan Q) ports ports') :
    Has vlan d ports' := by
  induction hgets with
  | nil => exact h
  | @cons p p' ports ports' hp _ ih =>
    intro q hq
    by_cases hd : p.Is d
    · rw [find?_is_of_pos ((hp.is d).2 hd)] at hq
      cases hq
      exact hp.carries (h p (find?_is_of_pos hd))
    · rw [find?_is_of_neg (mt (hp.is d).1 hd)] at hq
      exact ih (fun q hq => h q ((find?_is_of_neg hd).trans hq)) q hq

theorem gets_append (vlan d : Device) (ports : List LocalPort) :
    List.Forall₂ (Gets vlan fun p => p.Is d) ports (ifaceAppendVlan vlan d ports) := by
  induction ports with
  | nil => exact .nil
  | cons p ports ih =>
    unfold ifaceAppendVlan
    split
    · rename_i hd
      refine .cons ?_ (gets_refl ports)
      split
      · exact .inl rfl
      · rename_i hnot
        exact .inr ⟨hd, hnot, rfl⟩
    · exact .cons (.inl rfl) ih

theorem has_append (vlan d : Device) (ports : List LocalPort) :
    Has vlan d (ifaceAppendVlan vlan d ports) := by
  induction ports with
  | nil =>
    intro p hp
    cases hp
  | cons p ports ih =>
    unfold ifaceAppendVlan
    by_cases hd : p.Is d
    · rw [if_pos hd]
      intro q hq
      by_cases hc : p.Carries vlan
      · rw [if_pos hc, find?_is_of_pos hd] at hq
        cases hq
        exact hc
      · have hd' : (p.append vlan).Is d := hd
        rw [if_neg hc, find?_is_of_pos hd'] at hq
        cases hq
        exact carries_append
    · rw [if_neg hd]
      intro q hq
      rw [find?_is_of_neg hd] at hq
      exact ih q hq

end Adds

/-- Only the ports of physical interfaces below have got the VLAN, each once, and
all of them have it. -/
structure Propagated (ifs : List Interface) (vlan : Device) (start : Nat)
    (ports ports' : List LocalPort) : Prop where
  once : List.Forall₂
    (Gets vlan fun p => ∃ i d, Comes (lowers ifs) start i ∧ Lowest ifs i d ∧ p.Is d) ports ports'
  all : ∀ i d, Comes (lowers ifs) start i → Lowest ifs i d → Has vlan d ports'

theorem Propagated.comes {j : Nat} (h : Propagated ifs vlan j ports ports')
    (hij : Comes (lowers ifs) i j) : List.Forall₂
      (Gets vlan fun p => ∃ k d, Comes (lowers ifs) i k ∧ Lowest ifs k d ∧ p.Is d) ports ports' := by
  refine h.once.imp fun p p' hp => hp.mono ?_
  rintro q ⟨k, d, hk, h⟩
  exact ⟨k, d, hij.trans hk, h⟩

theorem fold_propagated {f : List LocalPort → Nat → Option (List LocalPort)}
    (hf : ∀ j ports ports', f ports j = some ports' → Propagated ifs vlan j ports ports')
    {js : List Nat} (hjs : ∀ j ∈ js, j ∈ lowers ifs i) (h : js.foldlM f ports = some ports') :
    List.Forall₂ (Gets vlan fun p => ∃ k d, Comes (lowers ifs) i k ∧ Lowest ifs k d ∧ p.Is d)
        ports ports' ∧
      ∀ j ∈ js, ∀ k d, Comes (lowers ifs) j k → Lowest ifs k d → Has vlan d ports' := by
  induction js generalizing ports with
  | nil =>
    cases h
    exact ⟨gets_refl ports', fun _ h => nomatch h⟩
  | cons j js ih =>
    obtain ⟨ports1, h1, h⟩ := Option.bind_eq_some_iff.1 h
    have hj := hf j ports ports1 h1
    have hcomes : Comes (lowers ifs) i j := .single (hjs j List.mem_cons_self)
    obtain ⟨honce, hall⟩ := ih (fun k hk => hjs k (List.mem_cons_of_mem _ hk)) h
    refine ⟨gets_trans (hj.comes hcomes) honce, fun k hk l d hl hd => ?_⟩
    rcases List.mem_cons.1 hk with rfl | hk
    · exact (hj.all l d hl hd).mono honce
    · exact hall k hk l d hl hd

theorem append_propagated {fuel : Nat}
    (h : ifaceAppendVlanToLower ifs vlan fuel i ports = some ports') :
    Propagated ifs vlan i ports ports' := by
  induction fuel generalizing i ports ports' with
  | zero => cases h
  | succ fuel ih =>
    rcases append_succ ifs vlan fuel i ports with ⟨d, hd, hnil, h'⟩ | ⟨hnot, h'⟩
    · cases h'.symm.trans h
      refine ⟨(gets_append vlan d ports).imp fun p p' hp => hp.mono fun q hq =>
        ⟨i, d, .refl, hd, hq⟩, fun j d' hj hd' => ?_⟩
      -- nothing is below
      rcases Relation.ReflTransGen.cases_head hj with rfl | ⟨k, hk, -⟩
      · obtain ⟨iface, hi, -, -, rfl⟩ := hd
        obtain ⟨iface', hi', -, -, rfl⟩ := hd'
        cases hi.symm.trans hi'
        exact has_append vlan _ ports
      · rw [hnil] at hk
        cases hk
    · obtain ⟨honce, hall⟩ := fold_propagated (fun j ports ports' h => ih h) (fun _ hj => hj)
        (h'.symm.trans h)
      refine ⟨honce, fun j d hj hd => ?_⟩
      rcases Relation.ReflTransGen.cases_head hj with rfl | ⟨k, hk, hkj⟩
      · exact absurd hd (hnot d)
      · exact hall k hk j d hkj hd

/-- The VLAN comes to an end at the physical interfaces, and to each once, if and
only if no interface on the way is linked to itself. -/
theorem vlan_propagates_iff (links : List Device) (vlan : Device) (start : Nat)
    (ports : List LocalPort) :
    (∃ fuel ports', ifaceAppendVlanToLower (netlinkGetInterfaces links) vlan fuel start ports =
        some ports' ∧ Propagated (netlinkGetInterfaces links) vlan start ports ports') ↔
      ∀ i, Comes (lowers (netlinkGetInterfaces links)) start i →
        ¬ Cyclic (lowers (netlinkGetInterfaces links)) i := by
  have hfin := finite_comes links start
  rw [← halts_iff]
  constructor
  · rintro ⟨fuel, ports', h, -⟩
    refine ⟨fuel, ?_⟩
    rw [← isSome_append (netlinkGetInterfaces links) vlan fuel start ports, h]
    rfl
  · rintro ⟨fuel, h⟩
    rw [← isSome_append (netlinkGetInterfaces links) vlan fuel start ports] at h
    obtain ⟨ports', h⟩ := Option.isSome_iff_exists.1 h
    exact ⟨fuel, ports', h, append_propagated h⟩

/-- The two ends of a veth pair. -/
def veth : List Device :=
  [{ index := 1, name := ascii "veth0", lowerIdx := 2 },
   { index := 2, name := ascii "veth1", lowerIdx := 1 }]

theorem veth_never_ends (vlan : Device) (fuel : Nat) (ports : List LocalPort) :
    ifaceAppendVlanToLower (netlinkGetInterfaces veth) vlan fuel 0 ports = none ∧
      ifaceAppendVlanToLower (netlinkGetInterfaces veth) vlan fuel 1 ports = none := by
  induction fuel with
  | zero => exact ⟨rfl, rfl⟩
  | succ fuel ih => exact ⟨ih.2, ih.1⟩

/-- A VLAN on one end of the pair. -/
theorem veth_vlan_recurses : ∃ (links : List Device) (vlan : Device) (start : Nat),
    ∀ fuel ports, ifaceAppendVlanToLower (netlinkGetInterfaces links) vlan fuel start ports = none :=
  ⟨veth, { index := 3, name := ascii "veth0.7", lowerIdx := 1, vlanid := 7 }, 0,
    fun fuel ports => (veth_never_ends _ fuel ports).1⟩

end Lldpd.Interfaces
