import Lldpd.L2Proto.Cdp.Blocks
import Lldpd.L2Proto.Lldp.Blocks
import Lldpd.L3Daemon.Decode

/-!
# `lldpd_recv`

A frame from the socket to the table, twice: `lldpdRecv` is what happens to the
values, `memRecv` what happens to the memory. A `Memory` has the blocks of the
neighbors of the interface, of the chassis and of the timer, which is all that
a frame can change.

The notifications to clients and the descriptions of interfaces are built and
freed in one call, and left out. `lldpd_hide_all` allocates nothing.
-/
namespace Lldpd
open Core

/-! ## The tests of `lldpd_recv` -/

inductive Receipt where
  /-- `recv` failed. -/
  | failed
  | paused
  /-- No protocol is enabled. -/
  | disabled
  /-- The interface does not receive. -/
  | off
  /-- The link is down. -/
  | down
  | decoded (frame : Bytes)
  deriving DecidableEq, Repr

/-- The tests in front of `lldpd_decode`. The last three exist in the OVSDB
build only. `frame` is `none` when `h_ops->recv` returns -1.
mirrors lldpd.c:964-1006 -/
def receipt (b : Build) (cfg : Config) (hardware : Hardware) (frame : Option Bytes) : Receipt :=
  frame.elim .failed fun frame =>
    if cfg.cPaused then .paused
    else if b.ovsdb ∧ !cfg.cIsAnyProtocolEnabled then .disabled
    else if b.ovsdb ∧ (hardware.hEnableDir = .off ∨ hardware.hEnableDir = .tx) then .off
    else if b.ovsdb ∧ hardware.hLinkState = .down then .down
    else .decoded frame

/-- `lldpd_recv`.
mirrors lldpd.c:952-1015 -/
def lldpdRecv (b : Build) (now : Int) (stack : Buffer 32) (frame : Option Bytes) (s : Daemon)
    (hardware : Hardware) : Except Fault (Hardware × Daemon) :=
  match receipt b s.gConfig hardware frame with
  | .decoded frame =>
    lldpdDecode b now stack frame s { hardware with hRxCnt := hardware.hRxCnt + 1 }
  | _ => .ok (hardware, s)

/-! ## Memory -/

/-- A port of the table has the frame it was learnt from. -/
structure Rport where
  port : Obj PortPtr
  lastframe : Nat

def Rport.blocks (r : Rport) : List Nat := r.lastframe :: r.port.blocks

/-- The blocks that a frame can change, under the names of the fields that lead
to them: the neighbors of the interface, the chassis, and the timer of the
interface. -/
structure Memory where
  arena : Arena
  hRports : List Rport := []
  gChassis : Heap (Obj ChassisPtr) := []
  hTimer : Option Nat := none

namespace Memory

/-- Everything that `cfg` leads to. -/
def reach (m : Memory) : List Nat :=
  m.hRports.flatMap Rport.blocks ++ m.gChassis.flatMap (fun e => e.2.blocks) ++ m.hTimer.toList

/-- A known port is removed and freed.
mirrors lldpd.c:616-624 -/
def removePort (i : Option Nat) (m : Memory) : Memory :=
  { m with
    arena := m.arena.free ((i.bind (m.hRports[·]?)).elim [] Rport.blocks)
    hRports := i.elim m.hRports m.hRports.eraseIdx }

/-- `lldpd_move_chassis` frees what the known chassis had and, in the end, the
new structure. A new chassis goes to the end of the list.
mirrors lldpd.c:419-455, 625-636 -/
def placeChassis (chassis : Obj ChassisPtr) (ochassis : Option Addr) (next : Addr) (m : Memory) :
    Memory :=
  ochassis.elim { m with gChassis := m.gChassis ++ [(next, chassis)] } fun a =>
    { m with
      arena := m.arena.free (chassis.self :: (m.gChassis.deref a).elim [] Obj.contents)
      gChassis := m.gChassis.write a fun o => { chassis with self := o.self } }

/-- The frame is kept and the port goes to the end of the list.
mirrors lldpd.c:637-648 -/
def addPort (port : Obj PortPtr) (m : Memory) : Memory :=
  { m with
    arena := m.arena.malloc.2
    hRports := m.hRports ++ [⟨port, m.arena.malloc.1⟩] }

/-- `levent_schedule_pdu`.
mirrors event.c:786-809 -/
def schedulePdu (m : Memory) : Memory :=
  if m.hTimer.isSome then m
  else { m with arena := m.arena.malloc.2, hTimer := some m.arena.malloc.1 }

/-- `ovs_libevent_schedule_nbr`: a new event, which nobody frees. Only the
static `nbr_event` refers to it.
mirrors lldpd_ovsdb_if.c:1593-1602 -/
def scheduleNbr (b : Build) (m : Memory) : Memory :=
  if b.ovsdb then { m with arena := m.arena.malloc.2 } else m

end Memory

/-! ## The memory of `lldpd_recv` -/

/-- What the decoder of a mode does with its chassis and its port. SONMP and
EDP are not followed. -/
def decodeOps (b : Build) (stack : Buffer 32) (mode : Mode) (frame : Bytes) : List Op :=
  match mode with
  | .lldp => Lldp.lldpOps b stack frame
  | .cdpv1 | .cdpv2 | .fdp => Cdp.cdpOps b frame
  | .sonmp | .edp => []

/-- The rest of `lldpd_decode`, behind the decoder.
mirrors lldpd.c:566-718 -/
def memLearn (b : Build) (chassis : Chassis) (port : Port) (s : Daemon) (hardware : Hardware)
    (p : Draft) (m : Memory) : Memory :=
  let (oport, count) := searchMsap s.gChassis chassis port hardware.hRports 0
  if oport = none ∧ s.gConfig.cMaxNeighbors ≠ 0 ∧ s.gConfig.cMaxNeighbors - 1 < count then
    { m with arena := p.arena.free (p.port.blocks ++ p.chassis.blocks) }
  else
    let ochassis := match oport with
      | some oport => oport.pChassis
      | none => searchChassis s.gChassis chassis
    let m := { m with arena := p.arena }
    let m := m.removePort (hardware.hRports.findIdx? (sameMsap s.gChassis chassis port))
    let m := m.placeChassis p.chassis ochassis s.nextAddr
    let m := m.addPort p.port
    let m := if b.lldpmed ∧ oport.isNone ∧ chassis.cMedType ≠ 0 then m.schedulePdu else m
    m.scheduleNbr b

/-- `lldpd_decode` on a frame that the shortcut does not know.
mirrors lldpd.c:537-718 -/
def memDecodeFrame (b : Build) (stack : Buffer 32) (frame : Bytes) (s : Daemon)
    (hardware : Hardware) (m : Memory) : Except Fault Memory :=
  (lldpdGuessType s.gProtocols frame).elim (.ok m) fun mode => do
    let (outcome, _) ← decodeMode b s.gConfig stack mode frame
    let p := (Draft.start m.arena).run (decodeOps b stack mode frame)
    match outcome with
    | .neighbor chassis port =>
      return memLearn b chassis port s hardware p m
    | _ => return { m with arena := p.malformed }

/-- `lldpd_decode`.
mirrors lldpd.c:483-722 -/
def memDecode (b : Build) (stack : Buffer 32) (frame : Bytes) (s : Daemon) (hardware : Hardware)
    (m : Memory) : Except Fault Memory :=
  if frame.length < 18 then .ok m
  else if hardware.repeats frame then .ok (m.scheduleNbr b)
  else memDecodeFrame b stack (decapsulate frame) s hardware m

/-- `lldpd_recv`. When the link is down, the buffer is not freed.
mirrors lldpd.c:952-1015 -/
def memRecv (b : Build) (stack : Buffer 32) (frame : Option Bytes) (s : Daemon)
    (hardware : Hardware) (m : Memory) : Except Fault Memory :=
  let (buffer, arena) := m.arena.malloc
  let m := { m with arena := arena }
  match receipt b s.gConfig hardware frame with
  | .failed | .paused | .disabled | .off => .ok { m with arena := m.arena.free [buffer] }
  | .down => .ok m
  | .decoded frame => do
    let m ← memDecode b stack frame s hardware m
    return { m with arena := m.arena.free [buffer] }

end Lldpd
