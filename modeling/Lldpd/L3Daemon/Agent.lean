import Mathlib.Data.List.Nodup
import Lldpd.L3Daemon.Indexes

/-!
# The remote tables of the SNMP agent

A neighbor is one row of the remote table, and the rows of its VLANs, protocol
identities and management addresses extend its index. The agent does not store
indexes. It computes them, from the second in which the neighbor changed, the
number of the interface and the index of the chassis, and answers a GET with
the first row that has the index.

Two ports of one chassis that are heard on one interface within a second have
the same index, and only the first of them can be asked for
(`one_row_for_two`). `rows_addressable`: when no step makes two indexes
collide (`Separate`), every row is found by its index, in every run.
-/
namespace Lldpd.Agent
open Lldpd Lldpd.Core

abbrev Oid := List Nat

/-- `snmp_oid_compare`: lexicographic, and the shorter one first. -/
def snmpOidCompare : Oid → Oid → Ordering
  | [], [] => .eq
  | [], _ :: _ => .lt
  | _ :: _, [] => .gt
  | x :: xs, y :: ys => if x < y then .lt else if y < x then .gt else snmpOidCompare xs ys

/-- The calls of `header_index_add` and `header_index_best` of one request:
`best` is the best row so far. `exact` is a GET, the other one a GETNEXT.
mirrors agent.c:105-140 -/
def headerIndex {α : Type} (exact : Bool) (target : Oid) :
    Option (Oid × α) → List (Oid × α) → Option α
  | best, [] => if exact then none else best.map Prod.snd
  | best, row :: rest =>
    match snmpOidCompare row.1 target with
    | .lt => headerIndex exact target best rest
    | .eq => if exact then some row.2 else headerIndex exact target best rest
    | .gt =>
      if best.all fun b => snmpOidCompare row.1 b.1 = .lt then
        headerIndex exact target (some row) rest
      else headerIndex exact target best rest

/-- In hundredths of a second since the daemon has started.
mirrors agent.c:52-58 -/
def lastchange (starttime : Int) (pLastchange : Int) : Nat :=
  if starttime < pLastchange then ((pLastchange - starttime) * 100).toNat else 0

/-- What a row is about: the item `item` of the port `port` of the interface
`hardware`, by their places. -/
structure Entity where
  hardware : Nat
  port : Nat
  item : Nat
  deriving DecidableEq, Repr

/-- The rows of one neighbor, the port `j` of the interface `i`. `SMART_HIDDEN`
is `p_hidden_in`. A port whose chassis has been freed has no index: reading it
is undefined. -/
def portRows (starttime : Int) (ifindex : Nat) (gChassis : Heap Chassis)
    (items : Port → Chassis → List Oid) (i j : Nat) (port : Port) : List (Oid × Entity) :=
  if port.pHiddenIn then [] else
  match port.chassis gChassis with
  | none => []
  | some c => (items port c).zipIdx.map fun item =>
    ([lastchange starttime port.pLastchange, ifindex, c.cIndex.toNat] ++ item.1, ⟨i, j, item.2⟩)

section Tables
variable (starttime : Int) (ifindex : Nat → Nat) (s : Daemon)

/-- The loops of the `header_tpr*indexed_table` functions: the visible
neighbors of every interface, and of each one the `items` that have a row.
`ifindex` are the numbers of the interfaces.
mirrors agent.c:207-232, 262-296, 373-397, 466-491 -/
def tprRows (items : Port → Chassis → List Oid) : List (Oid × Entity) :=
  s.gHardware.zipIdx.flatMap fun hw =>
    hw.1.hRports.zipIdx.flatMap fun port =>
      portRows starttime (ifindex hw.2) s.gChassis items hw.2 port.2 port.1

/-- The remote table, and the part of it with LLDP-MED.
mirrors agent.c:207-232 -/
def headerTprindexedTable (withmed : Bool) : List (Oid × Entity) :=
  tprRows starttime ifindex s fun _ c => if withmed && c.cMedCapAvailable = 0 then [] else [[]]

def addressType : Af → Nat
  | .ipv4 => 1
  | .ipv6 => 2

/-- mirrors agent.c:276-291 -/
def mgmtIndex (mgmt : Mgmt) : Oid :=
  [addressType mgmt.mFamily, mgmt.mAddr.length] ++ mgmt.mAddr.map UInt8.toNat

/-- The management addresses. `sizeof(index)` is 168.
mirrors agent.c:262-296 -/
def headerTpripindexedTable : List (Oid × Entity) :=
  tprRows starttime ifindex s fun _ c =>
    (c.cMgmt.filter fun mgmt => mgmt.mAddr.length ≤ 168 - 5).map mgmtIndex

/-- The names of VLANs.
mirrors agent.c:373-397 -/
def headerTprvindexedTable : List (Oid × Entity) :=
  tprRows starttime ifindex s fun port _ => port.pVlans.map fun vlan => [vlan.vVid.toNat]

/-- The protocol identities.
mirrors agent.c:466-491 -/
def headerTprpiindexedTable : List (Oid × Entity) :=
  tprRows starttime ifindex s fun port _ =>
    port.pPids.map fun pi => [(frameChecksum pi.pPi false).toNat]

end Tables

/-- No two rows have the same index, and a GET for the index of a row finds
it. -/
structure Addressable (rows : List (Oid × Entity)) : Prop where
  distinct : (rows.map Prod.fst).Nodup
  found : ∀ row ∈ rows, headerIndex true row.1 none rows = some row.2

/-! ## Requests -/

@[simp] theorem snmpOidCompare_eq (xs ys : Oid) : snmpOidCompare xs ys = .eq ↔ xs = ys := by
  induction xs generalizing ys with
  | nil => cases ys <;> simp [snmpOidCompare]
  | cons x xs ih =>
    cases ys with
    | nil => simp [snmpOidCompare]
    | cons y ys =>
      by_cases hlt : x < y
      · simp [snmpOidCompare, hlt, Nat.ne_of_lt hlt]
      · by_cases hgt : y < x
        · simp [snmpOidCompare, hlt, hgt, Nat.ne_of_gt hgt]
        · have hxy : x = y := by omega
          simp [snmpOidCompare, hxy, ih]

/-- A GET is answered with the first row that has the index. -/
theorem headerIndex_exact {α : Type} (target : Oid) (best : Option (Oid × α))
    (rows : List (Oid × α)) :
    headerIndex true target best rows = (rows.find? fun row => row.1 = target).map Prod.snd := by
  induction rows generalizing best with
  | nil => rfl
  | cons row rows ih =>
    unfold headerIndex
    by_cases heq : row.1 = target
    · rw [(snmpOidCompare_eq _ _).2 heq, List.find?_cons_of_pos (by simpa using heq)]
      rfl
    · rw [List.find?_cons_of_neg (by simpa using heq)]
      cases hcmp : snmpOidCompare row.1 target with
      | lt => exact ih best
      | eq => exact absurd ((snmpOidCompare_eq _ _).1 hcmp) heq
      | gt =>
        simp only
        split
        · exact ih _
        · exact ih _

theorem addressable_of_nodup {rows : List (Oid × Entity)} (h : (rows.map Prod.fst).Nodup) :
    Addressable rows := by
  refine ⟨h, fun row hmem => ?_⟩
  rw [headerIndex_exact]
  induction rows with
  | nil => cases hmem
  | cons r rows ih =>
    rw [List.map_cons, List.nodup_cons] at h
    rcases List.mem_cons.1 hmem with rfl | hmem
    · simp
    · have hne : ¬ r.1 = row.1 := fun he => h.1 (he ▸ List.mem_map_of_mem hmem)
      rw [List.find?_cons_of_neg (by simpa using hne)]
      exact ih h.2 hmem

/-! ## Indexes that do not collide -/

section Collisions
variable {starttime : Int} {ifindex : Nat → Nat} {s : Daemon} {h : Heap Chassis}
  {items : Port → Chassis → List Oid}

theorem mem_portRows {n i j : Nat} {port : Port} {oid : Oid}
    (hmem : oid ∈ (portRows starttime n h items i j port).map Prod.fst) :
    ∃ c item, port.chassis h = some c ∧ item ∈ items port c ∧
      oid = [lastchange starttime port.pLastchange, n, c.cIndex.toNat] ++ item := by
  unfold portRows at hmem
  split at hmem
  · cases hmem
  · cases hc : port.chassis h with
    | none =>
      rw [hc] at hmem
      cases hmem
    | some c =>
      rw [hc] at hmem
      simp only [List.map_map, List.mem_map] at hmem
      obtain ⟨item, hitem, rfl⟩ := hmem
      exact ⟨c, item.1, rfl, List.fst_mem_of_mem_zipIdx hitem, rfl⟩

theorem portRows_nodup {n i j : Nat} {port : Port}
    (hitems : ∀ c, port.chassis h = some c → (items port c).Nodup) :
    ((portRows starttime n h items i j port).map Prod.fst).Nodup := by
  unfold portRows
  split
  · exact List.nodup_nil
  · cases hc : port.chassis h with
    | none => exact List.nodup_nil
    | some c =>
      have hfst : ((items port c).zipIdx.map Prod.fst).Nodup := by
        rw [List.zipIdx_map_fst]
        exact hitems c hc
      simp only [List.map_map]
      have hmap : (items port c).zipIdx.map (Prod.fst ∘ fun item =>
          ([lastchange starttime port.pLastchange, n, c.cIndex.toNat] ++ item.1,
            (⟨i, j, item.2⟩ : Entity))) =
          ((items port c).zipIdx.map Prod.fst).map
            ([lastchange starttime port.pLastchange, n, c.cIndex.toNat] ++ ·) := by
        rw [List.map_map]
        rfl
      rw [hmap]
      exact hfst.map (List.append_right_injective _)

/-- Ports that are told apart by the time of their last change or by the index
of their chassis. -/
def PortsApart (starttime : Int) (h : Heap Chassis) (q q' : Port) : Prop :=
  ∀ c c', q.chassis h = some c → q'.chassis h = some c' →
    lastchange starttime q.pLastchange = lastchange starttime q'.pLastchange → c.cIndex ≠ c'.cIndex

theorem tprRows_nodup
    (hifindex : ∀ i j, i < s.gHardware.length → j < s.gHardware.length → ifindex i = ifindex j → i = j)
    (hports : ∀ hw ∈ s.gHardware, hw.hRports.Pairwise (PortsApart starttime s.gChassis))
    (hitems : ∀ hw ∈ s.gHardware, ∀ q ∈ hw.hRports, ∀ c, q.chassis s.gChassis = some c →
      (items q c).Nodup) :
    ((tprRows starttime ifindex s items).map Prod.fst).Nodup := by
  have hplaces : s.gHardware.zipIdx.Pairwise fun x y => x.2 ≠ y.2 := by
    rw [← List.pairwise_map, List.zipIdx_map_snd]
    exact List.nodup_range'
  unfold tprRows
  rw [List.map_flatMap, List.nodup_flatMap]
  refine ⟨fun x hx => ?_, hplaces.imp_of_mem fun {x y} hx hy hne => ?_⟩
  · have hw := List.fst_mem_of_mem_zipIdx hx
    have hpairs : x.1.hRports.zipIdx.Pairwise fun p q => PortsApart starttime s.gChassis p.1 q.1 := by
      rw [← List.pairwise_map, List.zipIdx_map_fst]
      exact hports x.1 hw
    rw [List.map_flatMap, List.nodup_flatMap]
    refine ⟨fun p hp => portRows_nodup fun c hc => ?_, hpairs.imp fun {p q} hapart => ?_⟩
    · exact hitems x.1 hw p.1 (List.fst_mem_of_mem_zipIdx hp) c hc
    · intro oid hp hq
      obtain ⟨c, item, hc, -, rfl⟩ := mem_portRows hp
      obtain ⟨c', item', hc', -, heq⟩ := mem_portRows hq
      simp only [List.cons_append, List.cons.injEq, UInt16.toNat_inj] at heq
      exact hapart c c' hc hc' heq.1 heq.2.2.1
  · intro oid hoid hoid'
    simp only [List.map_flatMap] at hoid hoid'
    obtain ⟨p, -, hp⟩ := List.mem_flatMap.1 hoid
    obtain ⟨q, -, hq⟩ := List.mem_flatMap.1 hoid'
    obtain ⟨c, item, -, -, rfl⟩ := mem_portRows hp
    obtain ⟨c', item', -, -, heq⟩ := mem_portRows hq
    simp only [List.cons_append, List.cons.injEq] at heq
    exact hne (hifindex _ _ (List.snd_lt_of_mem_zipIdx hx) (List.snd_lt_of_mem_zipIdx hy) heq.2.1)

end Collisions

/-! ## Frames that keep the indexes apart -/

/-- The management addresses have different indexes. -/
def AddressesApart (mgmts : List Mgmt) : Prop :=
  (mgmts.map fun mgmt => (mgmt.mFamily, mgmt.mAddr)).Nodup

def VlansApart (vlans : List Vlan) : Prop := (vlans.map Vlan.vVid).Nodup

def PidsApart (pids : List Pi) : Prop := (pids.map fun pi => frameChecksum pi.pPi false).Nodup

/-- The neighbor that is learnt gets an index of its own: a new chassis one
that is free, and no other neighbor of the chassis on this interface has
changed in the same second. And what it brings has indexes of its own. -/
structure LearnsApart (starttime : Int) (s : Daemon) (hw : Hardware) (c : Chassis) (p : Port)
    (now : Int) : Prop where
  index : ochassis s hw c p = none → s.NextFree
  time : ∀ q ∈ kept s hw c p, ∀ a, ochassis s hw c p = some a →
    q.pChassis = some a → lastchange starttime q.pLastchange ≠ lastchange starttime now
  vlans : VlansApart p.pVlans
  pids : PidsApart p.pPids
  mgmt : AddressesApart c.cMgmt

/-- The VLANs of an EDP neighbor have different ids, and the addresses that
come with them are not yet those of its chassis. -/
structure NotesApart (s : Daemon) (hw : Hardware) (c : Chassis) (p : Port) : Prop where
  vlans : hw.hRports.any (isEdpPort s.gChassis c) = true → VlansApart p.pVlans
  mgmt : ∀ q oc, hw.hRports.find? (isEdpPort s.gChassis c) = some q →
    q.chassis s.gChassis = some oc → AddressesApart (oc.cMgmt ++ laterAddresses c.cMgmt)

/-- A step that lets no two indexes collide. -/
def Separate (b : Build) (starttime : Int) (s : Daemon) : Event → Prop
  | .decode i frame now stack => ∀ hw, s.gHardware[i]? = some hw →
      (∀ mode c p, Takes b s hw stack frame mode c p →
        LearnsApart starttime s hw c p now) ∧
      (hw.repeats frame = false → ∀ c p,
        TellsVlans b s stack frame c p → NotesApart s hw c p)
  | _ => True

/-! ## The invariant -/

def chassisInfo (c : Chassis) : Option Mode × List Mgmt := (c.cProtocol, c.cMgmt)

/-- Chassis, below the next address. The local one, at 0, has no protocol, the
others have distinct addresses. -/
structure Cells (next : Addr) (v : Heap (Option Mode × List Mgmt)) : Prop where
  nodup : v.addrs.Nodup
  bound : ∀ e ∈ v, e.1 < next
  localProtocol : ∀ e ∈ v, e.1 = 0 → e.2.1 = none
  mgmt : ∀ e ∈ v, e.1 ≠ 0 → AddressesApart e.2.2

def portInfo (q : Port) : Option Addr × Int × List Vlan × List Pi :=
  (q.pChassis, q.pLastchange, q.pVlans, q.pPids)

structure Ports (starttime : Int) (next : Addr) (ports : List Port) : Prop where
  apart : ports.Pairwise fun q q' => q.pChassis = q'.pChassis →
    lastchange starttime q.pLastchange ≠ lastchange starttime q'.pLastchange
  bound : ∀ q ∈ ports, ∀ a, q.pChassis = some a → a ≠ 0 ∧ a < next
  vlans : ∀ q ∈ ports, VlansApart q.pVlans
  pids : ∀ q ∈ ports, PidsApart q.pPids

structure Apart (starttime : Int) (s : Daemon) : Prop where
  indexed : s.Indexed
  next : s.nextAddr ≠ 0
  cells : Cells s.nextAddr (s.gChassis.view chassisInfo)
  ports : ∀ hw ∈ s.gHardware, Ports starttime s.nextAddr hw.hRports
  detached : ∀ hw ∈ s.detached, hw.hRports = []

section Invariant
variable {starttime : Int} {next : Addr} {v : Heap (Option Mode × List Mgmt)} {ports ports' : List Port}

theorem Cells.sublist {v' : Heap (Option Mode × List Mgmt)} (h : Cells next v) (hsub : v'.Sublist v) :
    Cells next v' :=
  ⟨h.nodup.sublist (hsub.map _), fun e he => h.bound e (hsub.subset he),
    fun e he => h.localProtocol e (hsub.subset he), fun e he => h.mgmt e (hsub.subset he)⟩

/-- A chassis that is not the local one is overwritten. -/
theorem Cells.write {a : Addr} {f : Option Mode × List Mgmt → Option Mode × List Mgmt}
    (h : Cells next v) (ha : a ≠ 0) (hf : ∀ x, (a, x) ∈ v → AddressesApart (f x).2) :
    Cells next (v.write a f) := by
  refine ⟨Heap.addrs_write.symm ▸ h.nodup, fun e he => ?_, fun e he h0 => ?_, fun e he h0 => ?_⟩
  all_goals obtain ⟨x, hx, heq⟩ := Heap.mem_write.1 he
  · exact h.bound (e.1, x) hx
  · have hne : ¬ e.1 = a := fun hea => ha (hea.symm.trans h0)
    rw [heq, if_neg hne]
    exact h.localProtocol (e.1, x) hx h0
  · rw [heq]
    split
    · rename_i hea
      exact hf x (hea ▸ hx)
    · exact h.mgmt (e.1, x) hx h0

theorem Cells.append {info : Option Mode × List Mgmt} (h : Cells next v) (h0 : next ≠ 0)
    (hmgmt : AddressesApart info.2) : Cells (next + 1) (v ++ [(next, info)]) := by
  have hnew : next ∉ v.addrs := by
    intro hmem
    obtain ⟨x, hx⟩ := Heap.mem_addrs.1 hmem
    exact Nat.lt_irrefl _ (h.bound _ hx)
  refine ⟨?_, fun e he => ?_, fun e he he0 => ?_, fun e he he0 => ?_⟩
  · rw [Heap.addrs_append]
    exact List.nodup_append_comm.1 (List.nodup_cons.2 ⟨hnew, h.nodup⟩)
  all_goals rcases List.mem_append.1 he with he | he
  · exact Nat.lt_succ_of_lt (h.bound e he)
  · rw [List.mem_singleton.1 he]
    exact Nat.lt_succ_self next
  · exact h.localProtocol e he he0
  · rw [List.mem_singleton.1 he] at he0
    exact absurd he0 h0
  · exact h.mgmt e he he0
  · rw [List.mem_singleton.1 he]
    exact hmgmt

theorem Ports.nil : Ports starttime next [] :=
  ⟨List.Pairwise.nil, fun _ hq => absurd hq List.not_mem_nil, fun _ hq => absurd hq List.not_mem_nil,
    fun _ hq => absurd hq List.not_mem_nil⟩

variable (h : Ports starttime next ports)
include h

theorem Ports.sublist (hsub : ports'.Sublist ports) : Ports starttime next ports' :=
  ⟨h.apart.sublist hsub, fun q hq => h.bound q (hsub.subset hq), fun q hq => h.vlans q (hsub.subset hq),
    fun q hq => h.pids q (hsub.subset hq)⟩

theorem Ports.mono {next' : Addr} (hle : next ≤ next') : Ports starttime next' ports :=
  ⟨h.apart, fun q hq a ha => ⟨(h.bound q hq a ha).1, Nat.lt_of_lt_of_le (h.bound q hq a ha).2 hle⟩,
    h.vlans, h.pids⟩

/-- One more neighbor. -/
theorem Ports.concat {p : Port} (hapart : ∀ q ∈ ports, q.pChassis = p.pChassis →
      lastchange starttime q.pLastchange ≠ lastchange starttime p.pLastchange)
    (hbound : ∀ a, p.pChassis = some a → a ≠ 0 ∧ a < next) (hvlans : VlansApart p.pVlans)
    (hpids : PidsApart p.pPids) : Ports starttime next (ports ++ [p]) := by
  refine ⟨List.pairwise_append.2 ⟨h.apart, List.pairwise_singleton _ _, fun q hq p' hp' => ?_⟩,
    fun q hq => ?_, fun q hq => ?_, fun q hq => ?_⟩
  · rw [List.mem_singleton.1 hp']
    exact hapart q hq
  all_goals rcases List.mem_append.1 hq with hq | hq
  · exact h.bound q hq
  · rw [List.mem_singleton.1 hq]
    exact hbound
  · exact h.vlans q hq
  · rw [List.mem_singleton.1 hq]
    exact hvlans
  · exact h.pids q hq
  · rw [List.mem_singleton.1 hq]
    exact hpids

/-- Only what the tables show of the ports matters. -/
theorem Ports.congr (heq : ports'.map portInfo = ports.map portInfo) :
    Ports starttime next ports' := by
  have hmem : ∀ q' ∈ ports', ∃ q ∈ ports, portInfo q' = portInfo q := by
    intro q' hq'
    have hinfo := List.mem_map_of_mem (f := portInfo) hq'
    rw [heq] at hinfo
    obtain ⟨q, hq, he⟩ := List.mem_map.1 hinfo
    exact ⟨q, hq, he.symm⟩
  refine ⟨?_, fun q' hq' => ?_, fun q' hq' => ?_, fun q' hq' => ?_⟩
  · have hpairs : (ports.map portInfo).Pairwise fun x y => x.1 = y.1 →
        lastchange starttime x.2.1 ≠ lastchange starttime y.2.1 := by
      rw [List.pairwise_map]
      exact h.apart
    rw [← heq, List.pairwise_map] at hpairs
    exact hpairs
  all_goals
    obtain ⟨q, hq, he⟩ := hmem q' hq'
    simp only [portInfo, Prod.mk.injEq] at he
  · rw [he.1]
    exact h.bound q hq
  · rw [he.2.2.1]
    exact h.vlans q hq
  · rw [he.2.2.2]
    exact h.pids q hq

end Invariant

/-! ## A frame -/

section Frame
variable {b : Build} {starttime now : Int} {frame : Bytes} {c : Chassis} {p : Port} {s : Daemon}
  {hw : Hardware} {h : Heap Chassis}

/-- The VLANs of a port are the new ones, if it is one of the sender, or none,
or the ones it had. -/
theorem mem_attachVlans {ports : List Port} {vlans : List Vlan} {mgmts : List Mgmt} {q' : Port}
    (hmem : q' ∈ (attachVlans c ports vlans mgmts h).1) :
    (∃ q ∈ ports, q'.pVlans = q.pVlans) ∨ q'.pVlans = [] ∨
      ports.any (isEdpPort h c) = true ∧ q'.pVlans = vlans := by
  induction ports generalizing vlans mgmts h with
  | nil => cases hmem
  | cons q ports ih =>
    unfold attachVlans at hmem
    cases hq : isEdpPort h c q with
    | true =>
      rw [if_pos hq] at hmem
      rcases List.mem_cons.1 hmem with rfl | hmem
      · exact .inr (.inr ⟨by simp [hq], rfl⟩)
      · rcases ih hmem with ⟨q0, hq0, heq⟩ | hnil | ⟨-, hnil⟩
        · exact .inl ⟨q0, List.mem_cons_of_mem _ hq0, heq⟩
        · exact .inr (.inl hnil)
        · exact .inr (.inl hnil)
    | false =>
      rw [if_neg (by simp [hq])] at hmem
      rcases List.mem_cons.1 hmem with rfl | hmem
      · exact .inl ⟨q', List.mem_cons_self, rfl⟩
      · rcases ih hmem with ⟨q0, hq0, heq⟩ | hnil | ⟨hany, heq⟩
        · exact .inl ⟨q0, List.mem_cons_of_mem _ hq0, heq⟩
        · exact .inr (.inl hnil)
        · exact .inr (.inr ⟨by simp [hany], heq⟩)

theorem info_refcount (c : Chassis) (n : UInt16) :
    chassisInfo { c with cRefcount := n } = chassisInfo c := rfl

/-- The chassis that a frame is about is not the local one. -/
theorem ochassis_remote {a : Addr} (hs : Apart starttime s)
    (hports : Ports starttime s.nextAddr hw.hRports) (hprotocol : c.cProtocol ≠ none)
    (ha : ochassis s hw c p = some a) : a ≠ 0 ∧ a < s.nextAddr := by
  unfold ochassis at ha
  cases hfind : oport s hw c p with
  | some q =>
    rw [hfind] at ha
    exact hports.bound q (List.mem_of_find?_eq_some hfind) a ha
  | none =>
    rw [hfind] at ha
    obtain ⟨oc, hmem, hkey⟩ := searchChassis_some ha
    have hcell : (a, chassisInfo oc) ∈ s.gChassis.view chassisInfo := List.mem_map.2 ⟨_, hmem, rfl⟩
    refine ⟨fun h0 => hprotocol ?_, hs.cells.bound _ hcell⟩
    have hoc : oc.cProtocol = c.cProtocol := congrArg Prod.fst hkey
    rw [← hoc]
    exact hs.cells.localProtocol _ hcell h0

theorem Apart.learn (hs : Apart starttime s) (hports : Ports starttime s.nextAddr hw.hRports)
    (hprotocol : c.cProtocol ≠ none) (hok : HasRoom s hw c p)
    (hl : LearnsApart starttime s hw c p now) :
    Ports starttime (learn b now frame c p s hw).2.nextAddr (learn b now frame c p s hw).1.hRports ∧
      Cells (learn b now frame c p s hw).2.nextAddr
        ((learn b now frame c p s hw).2.gChassis.view chassisInfo) ∧
      s.nextAddr ≤ (learn b now frame c p s hw).2.nextAddr := by
  have hkept : Ports starttime s.nextAddr (kept s hw c p) :=
    hports.sublist List.eraseP_sublist
  rw [learn_hRports hok, view_learn (fun _ _ _ => rfl) hok]
  cases ha : ochassis s hw c p with
  | some a =>
    obtain ⟨ha0, halt⟩ := ochassis_remote hs hports hprotocol ha
    rw [learn_known_chassis ha hok, Option.elim_some]
    refine ⟨hkept.concat (fun q hq hsame => hl.time q hq a ha hsame) ?_ hl.vlans hl.pids,
      hs.cells.write ha0 fun _ _ => hl.mgmt, Nat.le_refl _⟩
    intro a' ha'
    cases ha'
    exact ⟨ha0, halt⟩
  | none =>
    have hlt : s.nextAddr < s.nextAddr + 1 := Nat.lt_succ_self _
    rw [learn_newcomer ha hok]
    refine ⟨(hkept.mono hlt.le).concat (fun q hq hsame => ?_) ?_ hl.vlans hl.pids,
      hs.cells.append hs.next hl.mgmt, hlt.le⟩
    · exact absurd (hkept.bound q hq _ hsame).2 (Nat.lt_irrefl _)
    · intro a' ha'
      cases ha'
      exact ⟨hs.next, hlt⟩

/-- The VLANs of a neighbor arrive. -/
theorem Apart.note (hs : Apart starttime s) (hports : Ports starttime s.nextAddr hw.hRports)
    (hn : NotesApart s hw c p) :
    Ports starttime s.nextAddr (attachVlans c hw.hRports p.pVlans c.cMgmt s.gChassis).1 ∧
      Cells s.nextAddr
        ((attachVlans c hw.hRports p.pVlans c.cMgmt s.gChassis).2.view chassisInfo) := by
  have hsame : ∀ {β : Type} {k : Port → β}, (∀ q vlans, k { q with pVlans := vlans } = k q) →
      (attachVlans c hw.hRports p.pVlans c.cMgmt s.gChassis).1.map k = hw.hRports.map k :=
    fun hk => map_attachVlans hk ..
  refine ⟨⟨?_, fun q' hq' => ?_, fun q' hq' => ?_, fun q' hq' => ?_⟩, ?_⟩
  · have hpairs : (hw.hRports.map fun q => (q.pChassis, q.pLastchange)).Pairwise fun x y =>
        x.1 = y.1 → lastchange starttime x.2 ≠ lastchange starttime y.2 := by
      rw [List.pairwise_map]
      exact hports.apart
    rw [← hsame fun _ _ => rfl, List.pairwise_map] at hpairs
    exact hpairs
  · have hmem := List.mem_map_of_mem (f := Port.pChassis) hq'
    rw [hsame fun _ _ => rfl] at hmem
    obtain ⟨q, hq, heq⟩ := List.mem_map.1 hmem
    rw [← heq]
    exact hports.bound q hq
  · rcases mem_attachVlans hq' with ⟨q, hq, heq⟩ | hnil | ⟨hany, heq⟩
    · rw [heq]
      exact hports.vlans q hq
    · rw [hnil]
      exact List.nodup_nil
    · rw [heq]
      exact hn.vlans hany
  · have hmem := List.mem_map_of_mem (f := Port.pPids) hq'
    rw [hsame fun _ _ => rfl] at hmem
    obtain ⟨q, hq, heq⟩ := List.mem_map.1 hmem
    rw [← heq]
    exact hports.pids q hq
  · rw [attachVlans_chassis]
    cases hfind : hw.hRports.find? (isEdpPort s.gChassis c) with
    | none => exact hs.cells
    | some q =>
      simp only [Option.map_some, Option.getD_some, addAddresses]
      cases hq : q.pChassis with
      | none => exact hs.cells
      | some a =>
        have ha := hports.bound q (List.mem_of_find?_eq_some hfind) a hq
        have hview : (s.gChassis.write a fun oc =>
            { oc with cMgmt := oc.cMgmt ++ laterAddresses c.cMgmt }).view chassisInfo =
            (s.gChassis.view chassisInfo).write a fun x => (x.1, x.2 ++ laterAddresses c.cMgmt) :=
          Heap.view_write fun _ => rfl
        rw [hview]
        refine hs.cells.write ha.1 fun x hx => ?_
        -- the cell at `a` is the chassis of the port
        obtain ⟨⟨a', oc⟩, hmem, heq⟩ := List.mem_map.1 hx
        cases heq
        have hderef : s.gChassis.deref a' = some oc :=
          Heap.deref_of_mem (Heap.addrs_view ▸ hs.cells.nodup) hmem
        have hchassis : q.chassis s.gChassis = some oc := by
          rw [Port.chassis, hq]
          exact hderef
        exact hn.mgmt q oc hfind hchassis

/-- What a frame leaves on its interface and of the chassis. -/
theorem Apart.received {stack : Buffer 32} {hw' : Hardware} {s' : Daemon} (hs : Apart starttime s)
    (hports : Ports starttime s.nextAddr hw.hRports)
    (hlearns : ∀ mode c p, Takes b s hw stack frame mode c p →
      LearnsApart starttime s hw c p now)
    (hnotes : hw.repeats frame = false → ∀ c p,
      TellsVlans b s stack frame c p → NotesApart s hw c p)
    (h : Received b now stack frame s hw hw' s') :
    Ports starttime s'.nextAddr hw'.hRports ∧ Cells s'.nextAddr (s'.gChassis.view chassisInfo) ∧
      s.nextAddr ≤ s'.nextAddr := by
  cases h with
  | short hshort => exact ⟨hports, hs.cells, Nat.le_refl _⟩
  | duplicate hlong hdup =>
    exact ⟨hports.congr (map_refresh _ _ _ _ _ fun _ => rfl), hs.cells, Nat.le_refl _⟩
  | ignored hlong hdup hnone => exact ⟨hports, hs.cells, Nat.le_refl _⟩
  | vlans hlong hdup htells =>
    obtain ⟨hports', hcells⟩ := hs.note hports (hnotes (Bool.eq_false_iff.2 hdup) _ _ htells)
    exact ⟨hports', hcells, Nat.le_refl _⟩
  | refused ha hdup hfind hfull => exact ⟨hports, hs.cells, Nat.le_refl _⟩
  | learnt ht =>
    have hl := hlearns _ _ _ ht
    refine hs.learn hports ?_ ht.room ⟨hl.index, hl.time, hl.vlans, hl.pids, hl.mgmt⟩
    rw [ht.announces.protocol.1]
    exact Option.some_ne_none _

end Frame

/-! ## Runs -/

section Runs
variable {b : Build} {starttime : Int} {s s' : Daemon}

/-- The filter changes nothing else of the ports. -/
theorem map_hideInterface (cfg : Config) (hw : Hardware) :
    (hideInterface cfg hw).hRports.map portInfo = hw.hRports.map portInfo := by
  have hin : ∀ ports, (if Smart.incoming.on cfg.cSmart then lldpdHidePorts cfg .incoming ports
      else ports).map portInfo = ports.map portInfo := by
    intro ports
    split
    · exact map_hidePorts (fun _ _ => rfl) cfg ports
    · rfl
  unfold hideInterface
  simp only
  split
  · rw [map_hidePorts fun _ _ => rfl]
    exact hin _
  · exact hin _

theorem hideAll_ports {hw' : Hardware} (hmem : hw' ∈ (lldpdHideAll s).gHardware) :
    ∃ hw ∈ s.gHardware, hw'.hRports.map portInfo = hw.hRports.map portInfo := by
  unfold lldpdHideAll at hmem
  split at hmem
  · exact ⟨hw', hmem, rfl⟩
  · obtain ⟨hw, hw_mem, rfl⟩ := List.mem_map.1 hmem
    exact ⟨hw, hw_mem, map_hideInterface s.gConfig hw⟩

theorem Apart.decode {i : Nat} {frame : Bytes} {now : Int} {stack : Buffer 32} {hw : Hardware}
    {r : Hardware × Daemon} (hs : Apart starttime s)
    (hev : Separate b starttime s (.decode i frame now stack)) (hget : s.gHardware[i]? = some hw)
    (hdec : lldpdDecode b now stack frame s { hw with hRxCnt := hw.hRxCnt + 1 } = .ok r)
    (heq : s' = lldpdHideAll { r.2 with gHardware := r.2.gHardware.set i r.1 }) :
    Cells s'.nextAddr (s'.gChassis.view chassisInfo) ∧
      (∀ hw ∈ s'.gHardware, Ports starttime s'.nextAddr hw.hRports) ∧
      ∀ hw ∈ s'.detached, hw.hRports = [] := by
  subst heq
  obtain ⟨hlearns, hnotes⟩ := hev hw hget
  obtain ⟨hports, hcells, hle⟩ := @Apart.received b starttime now frame s
    { hw with hRxCnt := hw.hRxCnt + 1 } stack r.1 r.2 hs (hs.ports hw (List.mem_of_getElem? hget))
    (fun mode c p ht =>
      have hl := hlearns mode c p ⟨ht.announces, ht.anew, ht.room⟩
      ⟨hl.index, hl.time, hl.vlans, hl.pids, hl.mgmt⟩)
    (fun hdup c p htells =>
      have hn := hnotes hdup c p htells
      ⟨hn.vlans, hn.mgmt⟩) (Lldpd.received hdec)
  obtain ⟨heap, rid, n, hframe⟩ := lldpdDecode_frame hdec
  obtain ⟨hchassis, hnext⟩ := hideAll_chassis { r.2 with gHardware := r.2.gHardware.set i r.1 }
  rw [hchassis, hnext]
  refine ⟨hcells, fun hw' hmem => ?_, ?_⟩
  · obtain ⟨hw1, hmem1, heq⟩ := hideAll_ports hmem
    refine Ports.congr ?_ heq
    have hhw : r.2.gHardware = s.gHardware := by rw [hframe]
    rw [hhw] at hmem1
    rcases List.mem_or_eq_of_mem_set hmem1 with hmem1 | rfl
    · exact (hs.ports hw1 hmem1).mono hle
    · exact hports
  · rw [hideAll_detached, hframe]
    exact hs.detached

theorem Apart.step {ev : Event} (hs : Apart starttime s) (hev : Separate b starttime s ev)
    (h : s.smartStep b ev = some s') : Apart starttime s' := by
  have hnew : Newcomer b s ev → s.NextFree := by
    cases ev with
    | decode i frame now stack =>
      rintro ⟨hw, mode, c, p, hget, ht, hnone⟩
      exact ((hev hw hget).1 mode c p ht).index hnone
    | _ => exact fun hnew => hnew.elim
  obtain ⟨hindexed, hnext⟩ := smartStep_indexed hs.indexed hs.next h
  cases Daemon.smartStepped h with
  | decode hget hdec =>
    obtain ⟨hcells, hports, hdetached⟩ := hs.decode hev hget hdec rfl
    exact ⟨hindexed.2 hnew, hnext, hcells, hports, hdetached⟩
  | other hne hstep =>
    obtain ⟨hsub, haddr⟩ := step_view info_refcount hne hstep
    obtain ⟨hports, hdetached⟩ := step_ports hne hs.detached hstep
    refine ⟨hindexed.2 hnew, hnext, haddr ▸ hs.cells.sublist hsub, fun hw hmem => ?_, hdetached⟩
    rw [haddr]
    rcases hports hw hmem with hnil | ⟨hw0, hmem0, hsub⟩
    · rw [hnil]
      exact .nil
    · exact (hs.ports hw0 hmem0).sublist hsub

theorem apart_reachable {cfg : Config} {protocols : List Protocol}
    (hs : ((indexedDaemon b cfg protocols).guard (Separate b starttime)).Reachable s) :
    Apart starttime s := by
  induction hs with
  | init hi =>
    obtain ⟨hindexed, hnext⟩ := indexed_init (b := b) hi
    obtain ⟨⟨c, -, hprotocol, rfl⟩, -⟩ := hi
    refine ⟨hindexed, hnext, ⟨List.nodup_cons.2 ⟨List.not_mem_nil, List.nodup_nil⟩, ?_, ?_, ?_⟩,
      fun hw hmem => absurd hmem List.not_mem_nil, fun hw hmem => absurd hmem List.not_mem_nil⟩
    all_goals
      intro e he
      rw [List.mem_singleton.1 he]
    · exact Nat.one_pos
    · exact fun _ => hprotocol
    · exact absurd rfl
  | step _ hst ih => exact ih.step hst.1 hst.2

/-- Ports that are attached to different chassis have different indexes. -/
theorem Apart.portsApart (hs : Apart starttime s) {hw : Hardware} (hmem : hw ∈ s.gHardware) :
    hw.hRports.Pairwise (PortsApart starttime s.gChassis) := by
  refine (hs.ports hw hmem).apart.imp fun {q q'} hapart c c' hc hc' htime hindex => ?_
  obtain ⟨a, ha, hderef⟩ := Option.bind_eq_some_iff.1 hc
  obtain ⟨a', ha', hderef'⟩ := Option.bind_eq_some_iff.1 hc'
  have hcell : (a, c.cIndex) ∈ s.indexes := List.mem_map.2 ⟨_, Heap.mem_of_deref hderef, rfl⟩
  have hcell' : (a', c'.cIndex) ∈ s.indexes := List.mem_map.2 ⟨_, Heap.mem_of_deref hderef', rfl⟩
  have hsame := List.inj_on_of_nodup_map hs.indexed.distinct hcell hcell' hindex
  have haa : a = a' := congrArg Prod.fst hsame
  exact hapart (by rw [ha, ha', haa]) htime

theorem mgmtIndex_injective {m m' : Mgmt} (h : mgmtIndex m = mgmtIndex m') :
    (m.mFamily, m.mAddr) = (m'.mFamily, m'.mAddr) := by
  simp only [mgmtIndex, List.cons_append, List.cons.injEq] at h
  obtain ⟨hfamily, -, haddr⟩ := h
  have haf : m.mFamily = m'.mFamily := by
    cases hm : m.mFamily <;> cases hm' : m'.mFamily <;> simp [hm, hm', addressType] at hfamily ⊢
  have hbytes : m.mAddr = m'.mAddr :=
    List.map_injective_iff.2 (fun x y hxy => UInt8.toNat_inj.1 hxy) haddr
  rw [haf, hbytes]

/-- **Every row can be asked for**, in every run in which no step lets two
indexes collide. The numbers of the interfaces are distinct, as the kernel
gives them. -/
theorem rows_addressable (b : Build) (cfg : Config) (protocols : List Protocol) (starttime : Int)
    (ifindex : Nat → Nat) (s : Daemon)
    (hifindex : ∀ i j, i < s.gHardware.length → j < s.gHardware.length →
      ifindex i = ifindex j → i = j)
    (hs : ((indexedDaemon b cfg protocols).guard (Separate b starttime)).Reachable s) :
    (∀ withmed, Addressable (headerTprindexedTable starttime ifindex s withmed)) ∧
      Addressable (headerTprpiindexedTable starttime ifindex s) ∧
      Addressable (headerTprvindexedTable starttime ifindex s) ∧
      Addressable (headerTpripindexedTable starttime ifindex s) := by
  have hapart := apart_reachable hs
  have hnodup : ∀ items : Port → Chassis → List Oid,
      (∀ hw ∈ s.gHardware, ∀ q ∈ hw.hRports, ∀ c, q.chassis s.gChassis = some c →
        (items q c).Nodup) → Addressable (tprRows starttime ifindex s items) := fun items hitems =>
    addressable_of_nodup (tprRows_nodup hifindex (fun hw hmem => hapart.portsApart hmem) hitems)
  refine ⟨fun withmed => hnodup _ fun hw hmem q hq c hc => ?_,
    hnodup _ fun hw hmem q hq c hc => ?_, hnodup _ fun hw hmem q hq c hc => ?_,
    hnodup _ fun hw hmem q hq c hc => ?_⟩
  · split
    · exact List.nodup_nil
    · exact List.nodup_singleton _
  · have hpids := (hapart.ports hw hmem).pids q hq
    have hmap := hpids.map fun x y hxy =>
      UInt16.toNat_inj.1 (List.singleton_inj.1 hxy)
    rwa [List.map_map] at hmap
  · have hvlans := (hapart.ports hw hmem).vlans q hq
    have hmap := hvlans.map fun x y hxy =>
      UInt16.toNat_inj.1 (List.singleton_inj.1 hxy)
    rwa [List.map_map] at hmap
  · obtain ⟨a, ha, hderef⟩ := Option.bind_eq_some_iff.1 hc
    have hremote := ((hapart.ports hw hmem).bound q hq a ha).1
    have hmgmt : AddressesApart c.cMgmt := hapart.cells.mgmt (a, chassisInfo c)
      (List.mem_map.2 ⟨_, Heap.mem_of_deref hderef, rfl⟩) hremote
    exact List.pairwise_map.2 (((List.pairwise_map.1 hmgmt).sublist List.filter_sublist).imp
      fun hne heq => hne (mgmtIndex_injective heq))

/-- Whether the neighbor of a frame is learnt without a collision. -/
def learnsApart (starttime now : Int) (s : Daemon) (hw : Hardware) : Outcome → Bool
  | .neighbor c p =>
    (ochassis s hw c p = none → s.nextIndex ≠ 0 ∧ ∀ e ∈ s.indexes, e.2 ≠ s.nextIndex) ∧
      (∀ q ∈ kept s hw c p, ∀ a ∈ ochassis s hw c p,
        q.pChassis = some a → lastchange starttime q.pLastchange ≠ lastchange starttime now) ∧
      (p.pVlans.map Vlan.vVid).Nodup ∧ (p.pPids.map fun pi => frameChecksum pi.pPi false).Nodup ∧
      (c.cMgmt.map fun mgmt => (mgmt.mFamily, mgmt.mAddr)).Nodup
  | _ => false

theorem separate_of_learnsApart {b : Build} {s : Daemon} {i : Nat} {frame : Bytes} {now : Int}
    {stack : Buffer 32} {mode : Mode}
    (hguess : lldpdGuessType s.gProtocols (decapsulate frame) = some mode)
    (hcheck : ∀ hw ∈ s.gHardware[i]?, (decodeMode b s.gConfig stack mode
      (decapsulate frame)).toOption.any (learnsApart starttime now s hw ·.1) = true) :
    Separate b starttime s (.decode i frame now stack) := by
  intro hw hget
  replace hcheck := hcheck hw hget
  constructor
  · intro mode' c p ht
    cases hguess.symm.trans ht.announces.guess
    obtain ⟨n, hn⟩ := ht.announces.decode
    rw [hn] at hcheck
    simp only [Except.toOption, Option.any_some, learnsApart, decide_eq_true_eq] at hcheck
    obtain ⟨hfree, htime, hvlans, hpids, hmgmt⟩ := hcheck
    exact ⟨fun hnew => ⟨(hfree hnew).1, (hfree hnew).2⟩, htime, hvlans, hpids, hmgmt⟩
  · intro _ c p htells
    obtain ⟨mode', n, hguess', hdec⟩ := htells
    cases hguess.symm.trans hguess'
    rw [hdec] at hcheck
    cases hcheck

/-- A port of a chassis that has an address, two VLANs and the identity of LLDP. -/
def equipped (portId : UInt8) : Bytes :=
  Lldp.lldpFrame [2, 0, 0, 0, 0, 1]
    [2, 2, 7, 1, 4, 2, 7, portId, 6, 2, 0, 120, 16, 12, 5, 1, 192, 0, 2, 1, 2, 0, 0, 0, 1, 0,
      254, 8, 0, 0x80, 0xc2, 3, 0, 1, 1, 97, 254, 8, 0, 0x80, 0xc2, 3, 0, 2, 1, 98,
      254, 7, 0, 0x80, 0xc2, 4, 2, 0x88, 0xcc, 0, 0]

theorem rows_addressable_two : ∃ s,
    headerTprindexedTable 0 (· + 1) s false =
        [([500, 1, 1], ⟨0, 0, 0⟩), ([600, 1, 1], ⟨0, 1, 0⟩)] ∧
      (headerTprpiindexedTable 0 (· + 1) s).length = 2 ∧
      (headerTprvindexedTable 0 (· + 1) s).length = 4 ∧
      (headerTpripindexedTable 0 (· + 1) s).length = 2 ∧
      (∀ withmed, Addressable (headerTprindexedTable 0 (· + 1) s withmed)) ∧
      Addressable (headerTprpiindexedTable 0 (· + 1) s) ∧
      Addressable (headerTprvindexedTable 0 (· + 1) s) ∧
      Addressable (headerTpripindexedTable 0 (· + 1) s) := by
  have hs : ((indexedDaemon .full {} lldpOnly).guard (Separate .full 0)).Reachable oneScanned :=
    LTS.reachable_guard_foldlM (by simp [Separate]) (.init started_indexed) oneScanned_run
  have hfirst : Separate .full 0 oneScanned (.decode 0 (equipped 1) 5 Lldp.zeroStack) :=
    separate_of_learnsApart (show _ = some Mode.lldp by decide) (by decide)
  obtain ⟨s₁, hs₁, hguess, hcheck, s₂, hs₂, hrows, hpids, hvlans, hmgmt⟩ :
      ∃ s₁ ∈ oneScanned.smartStep .full (.decode 0 (equipped 1) 5 Lldp.zeroStack),
        lldpdGuessType s₁.gProtocols (decapsulate (equipped 2)) = some .lldp ∧
        (∀ hw ∈ s₁.gHardware[0]?, (decodeMode .full s₁.gConfig Lldp.zeroStack .lldp
          (decapsulate (equipped 2))).toOption.any (learnsApart 0 6 s₁ hw ·.1) = true) ∧
      ∃ s₂ ∈ s₁.smartStep .full (.decode 0 (equipped 2) 6 Lldp.zeroStack),
        headerTprindexedTable 0 (· + 1) s₂ false =
            [([500, 1, 1], ⟨0, 0, 0⟩), ([600, 1, 1], ⟨0, 1, 0⟩)] ∧
          (headerTprpiindexedTable 0 (· + 1) s₂).length = 2 ∧
          (headerTprvindexedTable 0 (· + 1) s₂).length = 4 ∧
          (headerTpripindexedTable 0 (· + 1) s₂).length = 2 := by
    decide
  refine ⟨s₂, hrows, hpids, hvlans, hmgmt, rows_addressable .full {} lldpOnly 0 (· + 1) s₂
    (fun i j _ _ hij => Nat.succ_inj.1 hij) ?_⟩
  exact .step (.step hs ⟨hfirst, hs₁⟩) ⟨separate_of_learnsApart hguess hcheck, hs₂⟩

/-- Two ports of one chassis, heard on one interface in one second. -/
def sameSecond : List Event :=
  [.allocHardware, .addHardware 0, .greeting 5,
    .decode 0 (announcement [1] [2] [65]) 5 Lldp.zeroStack]

/-- Two neighbors, one index: a GET finds the first one. -/
theorem one_row_for_two : ∃ s,
    (indexedDaemon .full {} lldpOnly).Reachable s ∧
      headerTprindexedTable 0 (· + 1) s false =
        [([500, 1, 1], ⟨0, 0, 0⟩), ([500, 1, 1], ⟨0, 1, 0⟩)] ∧
      headerIndex true [500, 1, 1] none (headerTprindexedTable 0 (· + 1) s false) =
        some ⟨0, 0, 0⟩ ∧
      ¬ Addressable (headerTprindexedTable 0 (· + 1) s false) := by
  obtain ⟨s, hrun, hrows⟩ :
      ∃ s ∈ sameSecond.foldlM (Daemon.smartStep .full) (Daemon.started {} lldpOnly),
        headerTprindexedTable 0 (· + 1) s false =
          [([500, 1, 1], ⟨0, 0, 0⟩), ([500, 1, 1], ⟨0, 1, 0⟩)] := by
    decide
  refine ⟨s, LTS.reachable_foldlM (.init started_indexed) hrun, hrows, ?_, fun h => ?_⟩
  · rw [hrows]
    rfl
  · have hdistinct := h.distinct
    rw [hrows] at hdistinct
    revert hdistinct
    decide

end Runs

end Lldpd.Agent
