import Lldpd.L2Proto.Edp.Covered
import Lldpd.L3Daemon.Simulation

/-!
# `edp_decode` and the neighbors of an interface

An EDP frame may announce a neighbor, or hand over VLANs and addresses to the
ports that are known of its sender. `edpDecodeOn` is the decoder with the table it
works on.

* `edpDecodeOn_covered`: what follows the bytes with a checksum has no say exactly
  if the covered part is `settled`.
* `edpTable_repeatable`: a frame with VLANs leaves the table it should, and can be
  repeated, exactly if it has no address and its sender has one port.
-/
namespace Lldpd
open Core

/-- `edp_decode`: the neighbor it returns, and the ports and the chassis it leaves.
mirrors edp.c:231-512 -/
def edpDecodeOn (b : Build) (cfg : Config) (frame : Bytes) (hRports : List Port)
    (gChassis : Heap Chassis) : Option (Chassis × Port) × List Port × Heap Chassis :=
  match Edp.edpHeard b cfg frame with
  | some (.neighbor d) => (some (d.chassis, d.port), hRports, gChassis)
  | some (.vlans d) => (none, attachVlans d.chassis hRports d.port.pVlans d.chassis.cMgmt gChassis)
  | none => (none, hRports, gChassis)

section Decode
variable {b : Build} {cfg : Config} {frame : Bytes} {now : Int} {stack : Buffer 32} {s : Daemon}
  {hw : Hardware} {ports : List Port} {h : Heap Chassis} {c : Chassis}

/-! ## The bytes behind the checksum -/

theorem edpDecodeOn_none (hnone : Edp.edpHeard b cfg frame = none) :
    edpDecodeOn b cfg frame ports h = (none, ports, h) := by
  unfold edpDecodeOn
  rw [hnone]

/-- Some table tells a frame that is accepted from one that is refused. -/
theorem edpDecodeOn_tells {r : Edp.Decoded} (hr : Edp.edpHeard b cfg frame = some r) :
    ∃ ports h, edpDecodeOn b cfg frame ports h ≠ (none, ports, h) := by
  cases r with
  | neighbor d =>
    refine ⟨[], [], fun heq => ?_⟩
    unfold edpDecodeOn at heq
    rw [hr] at heq
    cases heq
  | vlans d =>
    -- a port of the sender that has no VLANs
    refine ⟨[{ pProtocol := some .edp, pChassis := some 1 }], [(1, d.chassis)], fun heq => ?_⟩
    have hport : isEdpPort [(1, d.chassis)] d.chassis
        { pProtocol := some .edp, pChassis := some 1 } = true := by
      rw [isEdpPort_iff]
      exact ⟨rfl, d.chassis, rfl, rfl, rfl⟩
    unfold edpDecodeOn at heq
    rw [hr] at heq
    have hports := congrArg (fun x => x.2.1.map Port.pVlans) heq
    simp only [attachVlans, hport, if_true, List.map_cons, List.map_nil] at hports
    injection hports with hvlans
    exact Edp.edpHeard_vlans hr hvlans

/-- **What follows the covered part of a frame has no say** exactly if the covered part
settles what is heard: the loop over the TLVs is over before its end, or nothing can
have the frame accepted. -/
theorem edpDecodeOn_covered (b : Build) (cfg : Config) (w : Bytes) (hw : Edp.Covered w) :
    (∀ u v ports h, edpDecodeOn b cfg (w ++ u) ports h = edpDecodeOn b cfg (w ++ v) ports h) ↔
      Edp.settled b cfg w = true := by
  constructor
  · intro hsame
    by_contra hopen
    rw [Bool.not_eq_true] at hopen
    obtain ⟨u, hrefused⟩ := Edp.edpHeard_refused hw hopen
    obtain ⟨v, r, haccepted⟩ := Edp.edpHeard_accepted hw hopen
    obtain ⟨ports, h, hne⟩ := edpDecodeOn_tells haccepted
    apply hne
    rw [← hsame u v ports h, edpDecodeOn_none hrefused]
  · intro hsettled u v ports h
    unfold edpDecodeOn
    rw [Edp.edpHeard_settled hw hsettled u v]

end Decode

def vlanFrame : Bytes :=
  [0x00, 0xe0, 0x2b, 0, 0, 0, 2, 0, 0, 0, 0, 1, 0, 46, 0xaa, 0xaa, 3, 0x00, 0xe0, 0x2b, 0x00, 0xbb,
    1, 0, 0, 38, 74, 177, 0, 0, 0, 0, 2, 0, 0, 0, 0, 1,
    0x99, 5, 0, 18, 0, 0, 0, 10, 0, 0, 0, 0, 10, 0, 0, 1, 118, 0, 0x99, 0, 0, 4]

/-- Nothing that follows its last TLV is interpreted. -/
theorem edpDecodeOn_covered_vlan : Edp.Covered vlanFrame ∧ ∀ u v ports h,
    edpDecodeOn .full {} (vlanFrame ++ u) ports h = edpDecodeOn .full {} (vlanFrame ++ v) ports h := by
  have hcovered : Edp.Covered vlanFrame := by
    unfold Edp.Covered
    decide
  exact ⟨hcovered, (edpDecodeOn_covered .full {} vlanFrame hcovered).2 (by decide)⟩

def bareFrame : Bytes :=
  [0x00, 0xe0, 0x2b, 0, 0, 0, 2, 0, 0, 0, 0, 1, 0, 24, 0xaa, 0xaa, 3, 0x00, 0xe0, 0x2b, 0x00, 0xbb,
    1, 0, 0, 16, 252, 238, 0, 0, 0, 0, 2, 0, 0, 0, 0, 1]

/-- A neighbor is learnt from TLVs that have no checksum. -/
theorem edpDecodeOn_uncovered : Edp.Covered bareFrame ∧
    (edpDecodeOn .full {} (bareFrame ++ []) [] []).1 = none ∧
    (edpDecodeOn .full {} (bareFrame ++ [0x99, 2, 0, 36, 0, 0, 0, 7, 0, 0, 0, 0, 0, 0, 0, 0, 7, 6, 4, 99,
      0, 0, 0, 0, 0, 0, 0, 0, 0, 0, 0, 0, 0, 0, 0, 0, 0x99, 1, 0, 6, 97, 0, 0x99, 0, 0, 4])
      [] []).1.isSome = true := by
  refine ⟨?_, ?_, ?_⟩
  · unfold Edp.Covered
    decide
  · decide
  · decide

/-! ## A frame with VLANs, twice -/

/-- What the loop does to the ports: the first one of the sender gets the VLANs, the
others lose theirs. -/
def handVlans (P : Port → Bool) : List Vlan → List Port → List Port
  | _, [] => []
  | vlans, q :: ports =>
    if P q then { q with pVlans := vlans } :: handVlans P [] ports else q :: handVlans P vlans ports

section Twice
variable {b : Build} {cfg : Config} {frame : Bytes} {d : Edp.Dec} {c : Chassis} {h h' : Heap Chassis}
  {P : Port → Bool} {ports : List Port} {vlans : List Vlan} {mgmts : List Mgmt}

theorem isEdpPort_addAddresses (mgmts : List Mgmt) (h : Heap Chassis) (q q' : Port) (c : Chassis) :
    isEdpPort (addAddresses mgmts h q) c q' = isEdpPort h c q' := by
  unfold addAddresses
  cases q.pChassis with
  | none => rfl
  | some a =>
    unfold isEdpPort Port.chassis
    cases q'.pChassis with
    | none => rfl
    | some a' =>
      simp only [Option.bind_some, Heap.deref_write]
      by_cases ha : a' = a
      · simp only [if_pos ha]
        cases h.deref a' with
        | none => rfl
        | some oc => rfl
      · simp [if_neg ha]

theorem attachVlans_ports (ports : List Port) (vlans : List Vlan) (mgmts : List Mgmt)
    (h : Heap Chassis) :
    (attachVlans c ports vlans mgmts h).1 = handVlans (isEdpPort h c) vlans ports := by
  induction ports generalizing vlans mgmts h with
  | nil => rfl
  | cons q ports ih =>
    unfold attachVlans handVlans
    split
    · simp only
      rw [ih, funext fun q' => isEdpPort_addAddresses mgmts h q q' c]
    · simp only
      rw [ih]

theorem handVlans_of_none (vlans : List Vlan) (hnone : ∀ q ∈ ports, ¬ P q = true) :
    handVlans P vlans ports = ports := by
  induction ports with
  | nil => rfl
  | cons q ports ih =>
    rw [List.forall_mem_cons] at hnone
    rw [handVlans, if_neg hnone.1, ih hnone.2]

theorem handVlans_empty (ports : List Port) :
    ∀ q ∈ handVlans P [] ports, P q = true → q.pVlans = [] := by
  induction ports with
  | nil => intro q hq; cases hq
  | cons q0 ports ih =>
    intro q hmem hq
    rw [handVlans] at hmem
    split at hmem
    · rcases List.mem_cons.1 hmem with rfl | hmem
      · rfl
      · exact ih q hmem hq
    · rename_i hq0
      rcases List.mem_cons.1 hmem with rfl | hmem
      · exact absurd hq hq0
      · exact ih q hmem hq

section Hand
variable (hP : ∀ q vlans, P { q with pVlans := vlans } = P q)
include hP

/-- A second time changes nothing. -/
theorem handVlans_twice (vlans : List Vlan) (ports : List Port) :
    handVlans P vlans (handVlans P vlans ports) = handVlans P vlans ports := by
  induction ports generalizing vlans with
  | nil => rfl
  | cons q ports ih =>
    by_cases hq : P q = true
    · have hq' : P { q with pVlans := vlans } = true := (hP q vlans).trans hq
      rw [handVlans, if_pos hq, handVlans, if_pos hq', ih]
    · rw [handVlans, if_neg hq, handVlans, if_neg hq, ih]

theorem exists_handVlans {q : Port} (hmem : q ∈ ports) (hq : P q = true) (vlans : List Vlan) :
    ∃ q' ∈ handVlans P vlans ports, P q' = true := by
  induction ports generalizing vlans with
  | nil => cases hmem
  | cons q0 ports ih =>
    rw [handVlans]
    split
    · rename_i hq0
      exact ⟨_, List.mem_cons_self, (hP q0 vlans).trans hq0⟩
    · rename_i hq0
      rcases List.mem_cons.1 hmem with rfl | hmem
      · exact absurd hq hq0
      · obtain ⟨q', hmem', hq'⟩ := ih hmem vlans
        exact ⟨q', List.mem_cons_of_mem _ hmem', hq'⟩

theorem handVlans_all (hvlans : vlans ≠ []) (ports : List Port) :
    (∀ q ∈ handVlans P vlans ports, P q = true → q.pVlans = vlans) ↔ (ports.filter P).length ≤ 1 := by
  induction ports with
  | nil => simp [handVlans]
  | cons q0 ports ih =>
    by_cases hq0 : P q0 = true
    · rw [handVlans, if_pos hq0, List.filter_cons_of_pos hq0, List.length_cons]
      have hone : (ports.filter P).length + 1 ≤ 1 ↔ ∀ q ∈ ports, ¬ P q = true := by
        rw [← List.filter_eq_nil_iff, ← List.length_eq_zero_iff]
        omega
      rw [hone]
      constructor
      · intro hall q hmem hq
        obtain ⟨q', hmem', hq'⟩ := exists_handVlans hP hmem hq []
        have hgiven := hall q' (List.mem_cons_of_mem _ hmem') hq'
        exact hvlans (hgiven.symm.trans (handVlans_empty ports q' hmem' hq'))
      · intro hnone q hmem hq
        rcases List.mem_cons.1 hmem with rfl | hmem
        · rfl
        · rw [handVlans_of_none [] hnone] at hmem
          exact absurd hq (hnone q hmem)
    · rw [handVlans, if_neg hq0, List.filter_cons_of_neg hq0, ← ih]
      constructor
      · intro hall q hmem
        exact hall q (List.mem_cons_of_mem _ hmem)
      · intro hall q hmem hq
        rcases List.mem_cons.1 hmem with rfl | hmem
        · exact absurd hq hq0
        · exact hall q hmem hq

theorem find_handVlans (vlans : List Vlan) (ports : List Port) :
    (handVlans P vlans ports).find? P =
      (ports.find? P).map fun q => { q with pVlans := vlans } := by
  induction ports with
  | nil => rfl
  | cons q0 ports ih =>
    by_cases hq0 : P q0 = true
    · rw [handVlans, if_pos hq0, List.find?_cons_of_pos hq0]
      exact List.find?_cons_of_pos ((hP q0 vlans).trans hq0)
    · rw [handVlans, if_neg hq0, List.find?_cons_of_neg hq0, List.find?_cons_of_neg hq0, ih]

end Hand

theorem laterAddresses_eq_nil : laterAddresses mgmts = [] ↔ mgmts = [] := by
  constructor
  · intro hnil
    induction mgmts with
    | nil => rfl
    | cons m ms ih =>
      rw [laterAddresses] at hnil
      split at hnil
      · rename_i hany
        rw [ih hnil] at hany
        cases hany
      · cases hnil
  · rintro rfl
    rfl

def edpTable (b : Build) (cfg : Config) (frame : Bytes) (t : List Port × Heap Chassis) :
    List Port × Heap Chassis := (edpDecodeOn b cfg frame t.1 t.2).2

/-- What a frame with the VLANs `d.port.pVlans` should leave of the table `t`. -/
structure Repeatable (b : Build) (cfg : Config) (frame : Bytes) (d : Edp.Dec)
    (t : List Port × Heap Chassis) : Prop where
  /-- a second one changes no VLAN -/
  vlans : (edpTable b cfg frame (edpTable b cfg frame t)).1.map Port.pVlans =
    (edpTable b cfg frame t).1.map Port.pVlans
  /-- and no address -/
  addresses : ∀ a, ((edpTable b cfg frame (edpTable b cfg frame t)).2.deref a).map Chassis.cMgmt =
    ((edpTable b cfg frame t).2.deref a).map Chassis.cMgmt
  /-- no address is added to a chassis that has it -/
  noRepeat : ∀ a oc oc', t.2.deref a = some oc → (edpTable b cfg frame t).2.deref a = some oc' →
    (oc.cMgmt.map fun m => (m.mFamily, m.mAddr)).Nodup →
      (oc'.cMgmt.map fun m => (m.mFamily, m.mAddr)).Nodup
  /-- every port of the sender has the VLANs -/
  all : ∀ q ∈ (edpTable b cfg frame t).1,
    isEdpPort (edpTable b cfg frame t).2 d.chassis q = true → q.pVlans = d.port.pVlans

section Table
variable {t : List Port × Heap Chassis} {q : Port}

theorem isEdpPort_vlans (h : Heap Chassis) (c : Chassis) (q : Port) (vlans : List Vlan) :
    isEdpPort h c { q with pVlans := vlans } = isEdpPort h c q := rfl

theorem edpTable_vlans (hd : Edp.edpHeard b cfg frame = some (.vlans d))
    (hq : t.1.find? (isEdpPort t.2 d.chassis) = some q) :
    edpTable b cfg frame t = (handVlans (isEdpPort t.2 d.chassis) d.port.pVlans t.1,
      addAddresses d.chassis.cMgmt t.2 q) := by
  unfold edpTable edpDecodeOn
  rw [hd]
  refine Prod.ext (attachVlans_ports ..) ?_
  rw [attachVlans_chassis, hq]
  rfl

theorem edpTable_twice (hd : Edp.edpHeard b cfg frame = some (.vlans d))
    (hq : t.1.find? (isEdpPort t.2 d.chassis) = some q) :
    edpTable b cfg frame (edpTable b cfg frame t) =
      (handVlans (isEdpPort t.2 d.chassis) d.port.pVlans t.1,
        addAddresses d.chassis.cMgmt (addAddresses d.chassis.cMgmt t.2 q) q) := by
  have hP : isEdpPort (addAddresses d.chassis.cMgmt t.2 q) d.chassis = isEdpPort t.2 d.chassis :=
    funext fun q' => isEdpPort_addAddresses ..
  have hfirst := edpTable_vlans hd hq
  have hq' : (edpTable b cfg frame t).1.find? (isEdpPort (edpTable b cfg frame t).2 d.chassis) =
      some { q with pVlans := d.port.pVlans } := by
    rw [hfirst]
    rw [hP, find_handVlans (isEdpPort_vlans t.2 d.chassis), hq]
    rfl
  rw [edpTable_vlans hd hq', hfirst]
  rw [hP, handVlans_twice (isEdpPort_vlans t.2 d.chassis)]
  rfl

/-- **A frame with VLANs can be repeated**, and all ports of its sender get the VLANs, exactly
if it has no address and its sender has one port. -/
theorem edpTable_repeatable (b : Build) (cfg : Config) (frame : Bytes) (d : Edp.Dec)
    (t : List Port × Heap Chassis) (hd : Edp.edpHeard b cfg frame = some (.vlans d))
    (hknown : ∃ q ∈ t.1, isEdpPort t.2 d.chassis q = true) :
    Repeatable b cfg frame d t ↔
      d.chassis.cMgmt = [] ∧ (t.1.filter (isEdpPort t.2 d.chassis)).length = 1 := by
  obtain ⟨q0, hmem, hq0⟩ := hknown
  obtain ⟨q, hq⟩ := Option.isSome_iff_exists.1 (List.find?_isSome.2 ⟨q0, hmem, hq0⟩)
  have hone := edpTable_vlans hd hq
  have htwo := edpTable_twice hd hq
  have hvlans := Edp.edpHeard_vlans hd
  have hP : isEdpPort (addAddresses d.chassis.cMgmt t.2 q) d.chassis = isEdpPort t.2 d.chassis :=
    funext fun q' => isEdpPort_addAddresses ..
  have hall := handVlans_all (isEdpPort_vlans t.2 d.chassis) hvlans t.1
  have hsome : 1 ≤ (t.1.filter (isEdpPort t.2 d.chassis)).length :=
    List.length_pos_of_mem (List.mem_filter.2 ⟨hmem, hq0⟩)
  constructor
  · intro hr
    refine ⟨?_, ?_⟩
    · -- the chassis of the first port has the addresses twice
      obtain ⟨-, oc, hoc, -⟩ := isEdpPort_iff.1 (List.find?_some hq)
      obtain ⟨a, ha, hderef⟩ := Option.bind_eq_some_iff.1 hoc
      have hsame := hr.addresses a
      rw [htwo, hone] at hsame
      simp only [addAddresses, ha, Heap.deref_write, if_true, hderef, Option.map_some,
        Option.some.injEq, List.append_right_eq_self] at hsame
      exact laterAddresses_eq_nil.1 hsame
    · have hgiven := hr.all
      rw [hone] at hgiven
      have hle := hall.1 (by
        intro q' hq' hP'
        exact hgiven q' hq' ((congrFun hP q').trans hP'))
      omega
  · rintro ⟨hnil, hlen⟩
    rw [hnil, addAddresses_nil] at hone
    rw [hnil, addAddresses_nil, addAddresses_nil] at htwo
    refine ⟨?_, ?_, ?_, ?_⟩
    · rw [htwo, hone]
    · intro a
      rw [htwo, hone]
    · intro a oc oc' hoc hoc' hnodup
      rw [hone] at hoc'
      cases hoc.symm.trans hoc'
      exact hnodup
    · rw [hone]
      exact hall.2 (by omega)

end Table

end Twice

def vlansOf (frame : Bytes) : Edp.Dec :=
  match Edp.edpHeard .full {} frame with
  | some (.vlans d) => d
  | _ => {}

def quietFrame : Bytes :=
  [0x00, 0xe0, 0x2b, 0, 0, 0, 2, 0, 0, 0, 0, 1, 0, 46, 0xaa, 0xaa, 3, 0x00, 0xe0, 0x2b, 0x00, 0xbb,
    1, 0, 0, 38, 84, 178, 0, 0, 0, 0, 2, 0, 0, 0, 0, 1,
    0x99, 5, 0, 18, 0, 0, 0, 10, 0, 0, 0, 0, 0, 0, 0, 0, 118, 0, 0x99, 0, 0, 4]

def senderPorts (n : Nat) : List Port × Heap Chassis :=
  (List.replicate n { pProtocol := some .edp, pChassis := some 1 },
    [(1, { cIdSubtype := LLDP_CHASSISID_SUBTYPE_LLADDR, cId := some [2, 0, 0, 0, 0, 1] })])

theorem edpTable_repeatable_quiet :
    Repeatable .full {} quietFrame (vlansOf quietFrame) (senderPorts 1) :=
  (edpTable_repeatable .full {} quietFrame (vlansOf quietFrame) (senderPorts 1) (by decide)
    (by decide)).2 (by decide)

/-- The address comes twice, and only one of two ports gets the VLAN. -/
theorem edpTable_not_repeatable :
    (Edp.edpHeard .full {} vlanFrame = some (.vlans (vlansOf vlanFrame)) ∧
      ¬ Repeatable .full {} vlanFrame (vlansOf vlanFrame) (senderPorts 1)) ∧
    Edp.edpHeard .full {} quietFrame = some (.vlans (vlansOf quietFrame)) ∧
      ¬ Repeatable .full {} quietFrame (vlansOf quietFrame) (senderPorts 2) := by
  refine ⟨⟨by decide, fun hr => ?_⟩, by decide, fun hr => ?_⟩
  · exact absurd (hr.addresses 1) (by decide)
  · exact absurd hr.all (by decide)

end Lldpd
