import Mathlib.Data.Multiset.Bind
import Mathlib.Data.Multiset.Filter
import Lldpd.L3Daemon.Machine

/-!
# The neighbor table

What the daemon is for, without the lists, the clocks and the counters: a
number of interfaces, each with the neighbors heard on it, over a common store
of chassis. `Table.Step` says what one event may do to it:

* a neighbor is learnt: again (`relearn`), on a chassis that another frame
  has announced (`share`), or on a new one (`fresh`);
* a neighbor is told its VLANs in a frame of their own (`note`);
* an interface comes (`plug`), a neighbor goes (`forget`), an interface
  without neighbors goes (`unplug`);
* the chassis whose counter is zero are freed (`collect`).

What frames announce is a parameter (`Announcements`), so nothing here
depends on a protocol. That the daemon does nothing else is `L3Daemon.Simulation`.
-/
namespace Lldpd
open Core

/-! ## Names -/

def Chassis.key (c : Chassis) : Option Mode × UInt8 × Bytes :=
  (c.cProtocol, c.cIdSubtype, c.cId.getD [])

/-- What a frame says of a chassis: all but the count and the index. -/
def Chassis.info (c : Chassis) : Chassis := { c with cRefcount := 0, cIndex := 0 }

theorem key_of_info {c oc : Chassis} (h : oc.info = c.info) : oc.key = c.key := by
  have hinfo : ∀ c : Chassis, c.info.key = c.key := fun _ => rfl
  rw [← hinfo oc, h, hinfo]

/-- The MAC service access point, as the code compares it. -/
structure Msap where
  protocol : Option Mode
  portIdSubtype : UInt8
  portId : Bytes
  chassisIdSubtype : UInt8
  chassisId : Bytes
  deriving DecidableEq, Repr

def Msap.of (c : Chassis) (p : Port) : Msap :=
  ⟨p.pProtocol, p.pIdSubtype, p.pId.getD [], c.cIdSubtype, c.cId.getD []⟩

def Port.msap (p : Port) (h : Heap Chassis) : Option Msap := (p.chassis h).map (Msap.of · p)

/-- A port as the table has it: when it was heard does not matter. -/
def Port.untimed (p : Port) : Port := { p with pLastchange := 0, pLastupdate := 0 }

/-- The port of the neighbor that `frame` announced, on the chassis `a`. -/
def Port.learnt (p : Port) (frame : Bytes) (a : Addr) : Port := p.heardAt 0 frame a

/-! ## Tables -/

structure Row where
  lport : Port
  rports : Multiset Port

structure Table where
  rows : Multiset Row
  chassis : Heap Chassis
  next : Addr

namespace Table

/-- The remote ports of some interfaces. -/
def neighbors (rows : Multiset Row) : Multiset Port := rows.bind Row.rports

def ports (rows : Multiset Row) : Multiset Port := rows.bind fun r => r.lport ::ₘ r.rports

@[simp] theorem neighbors_zero : neighbors 0 = 0 := Multiset.zero_bind _

@[simp] theorem neighbors_cons (r : Row) (R : Multiset Row) :
    neighbors (r ::ₘ R) = r.rports + neighbors R := Multiset.cons_bind ..

@[simp] theorem ports_zero : ports 0 = 0 := Multiset.zero_bind _

@[simp] theorem ports_cons (r : Row) (R : Multiset Row) :
    ports (r ::ₘ R) = r.lport ::ₘ (r.rports + ports R) := by
  unfold ports
  rw [Multiset.cons_bind, Multiset.cons_add]

theorem forall_neighbors {P : Port → Prop} {l q : Port} {ps : Multiset Port} {R : Multiset Row} :
    (∀ p ∈ neighbors (⟨l, q ::ₘ ps⟩ ::ₘ R), P p) ↔ P q ∧ ∀ p ∈ ps + neighbors R, P p := by
  rw [neighbors_cons, Multiset.cons_add, Multiset.forall_mem_cons]

theorem forall_ports {P : Port → Prop} {l q : Port} {ps : Multiset Port} {R : Multiset Row} :
    (∀ p ∈ ports (⟨l, q ::ₘ ps⟩ ::ₘ R), P p) ↔ P l ∧ P q ∧ ∀ p ∈ ps + ports R, P p := by
  rw [ports_cons, Multiset.forall_mem_cons, Multiset.cons_add, Multiset.forall_mem_cons]

/-- A port comes to an interface. -/
theorem ports_row (l q : Port) (ps : Multiset Port) (R : Multiset Row) :
    ports (⟨l, q ::ₘ ps⟩ ::ₘ R) = q ::ₘ ports (⟨l, ps⟩ ::ₘ R) := by
  rw [ports_cons, ports_cons, Multiset.cons_add, Multiset.cons_swap]

variable {R : Multiset Row} {p : Port}

theorem mem_neighbors :
    p ∈ neighbors R ↔ ∃ r ∈ R, p ∈ r.rports := Multiset.mem_bind

theorem mem_ports : p ∈ ports R ↔ ∃ r ∈ R, p = r.lport ∨ p ∈ r.rports := by
  simp only [ports, Multiset.mem_bind, Multiset.mem_cons]

theorem mem_ports_of_neighbors (h : p ∈ neighbors R) : p ∈ ports R := by
  obtain ⟨r, hr, hp⟩ := mem_neighbors.1 h
  exact mem_ports.2 ⟨r, hr, .inr hp⟩

end Table

/-- What the frames of an installation announce, and how many neighbors of a
protocol an interface may have (0: any number). -/
structure Announcements where
  heard : Bytes → Chassis → Port → Prop
  heard_protocol : ∀ {f c p}, heard f c p → ∃ mode, c.cProtocol = some mode ∧ p.pProtocol = some mode
  maxNeighbors : Int

def Announcements.Room (e : Announcements) (ps : Multiset Port) (p : Port) : Prop :=
  e.maxNeighbors ≠ 0 →
    (ps.countP fun q => q.pProtocol = p.pProtocol : Int) < e.maxNeighbors

namespace Table

/-- What a step does. For `learn`: the chassis that is announced, where it is
stored, and the neighbors that were not the one that is learnt. -/
inductive Label where
  | learn (c : Chassis) (a : Addr) (others : Multiset Port)
  | note
  | plug
  | forget
  | unplug
  | collect

inductive Step (e : Announcements) : Table → Label → Table → Prop where
  | relearn {l q ps R h n f c p a} (hheard : e.heard f c p) (hq : q.pChassis = some a)
      (hmsap : q.msap h = some (.of c p)) :
      Step e ⟨⟨l, q ::ₘ ps⟩ ::ₘ R, h, n⟩ (.learn c a (ps + neighbors R))
        ⟨⟨l, p.learnt f a ::ₘ ps⟩ ::ₘ R, h.write a (lldpdMoveChassis c), n⟩
  | share {l ps R h n f c oc p a} (hheard : e.heard f c p)
      (hnew : ∀ q ∈ ps, q.msap h ≠ some (.of c p)) (hroom : e.Room ps p)
      (hmem : (a, oc) ∈ h) (hkey : oc.key = c.key) :
      Step e ⟨⟨l, ps⟩ ::ₘ R, h, n⟩ (.learn c a (ps + neighbors R))
        ⟨⟨l, p.learnt f a ::ₘ ps⟩ ::ₘ R, (h.write a (lldpdMoveChassis c)).write a .retain, n⟩
  | fresh {l ps R h n f c p index} (hheard : e.heard f c p)
      (hnew : ∀ q ∈ ps, q.msap h ≠ some (.of c p)) (hroom : e.Room ps p)
      (hkey : ∀ x ∈ h, x.2.key ≠ c.key) :
      Step e ⟨⟨l, ps⟩ ::ₘ R, h, n⟩ (.learn c n (ps + neighbors R))
        ⟨⟨l, p.learnt f n ::ₘ ps⟩ ::ₘ R,
          Heap.write (h ++ [(n, { c with cIndex := index, cRefcount := 0 })]) n .retain, n + 1⟩
  | note {l q ps R h n vlans mgmts} :
      Step e ⟨⟨l, q ::ₘ ps⟩ ::ₘ R, h, n⟩ .note
        ⟨⟨l, { q with pVlans := vlans } ::ₘ ps⟩ ::ₘ R, addAddresses mgmts h q, n⟩
  | plug {l R h n a} (hl : l.pChassis = some a) (hmem : a ∈ Heap.addrs h) :
      Step e ⟨R, h, n⟩ .plug ⟨⟨l, 0⟩ ::ₘ R, h.write a .retain, n⟩
  | forget {l q ps R h n} :
      Step e ⟨⟨l, q ::ₘ ps⟩ ::ₘ R, h, n⟩ .forget ⟨⟨l, ps⟩ ::ₘ R, lldpdPortCleanup h q, n⟩
  | unplug {l R h n} :
      Step e ⟨⟨l, 0⟩ ::ₘ R, h, n⟩ .unplug ⟨R, lldpdPortCleanup h l, n⟩
  | collect {R h n} :
      Step e ⟨R, h, n⟩ .collect ⟨R, h.filter fun x => x.2.cRefcount ≠ 0, n⟩

def Init (t : Table) : Prop :=
  ∃ c : Chassis, c.cRefcount = 1 ∧ c.cProtocol = none ∧ t = ⟨0, [(0, c)], 1⟩

def machine (e : Announcements) : LTS Table Label := ⟨Init, Step e⟩

end Table

end Lldpd
