import Lldpd.Core.Heap
import Lldpd.L1Data.Structs

/-!
# The daemon's interfaces, neighbors and chassis

`struct lldpd` and the functions that take things away from it:
`lldpd_remote_cleanup`, `lldpd_hardware_cleanup` and `lldpd_cleanup`, with
`lldpd_alloc_hardware` on the other side.

Chassis are objects on a heap and a port points to one of them. `g_chassis` is
the heap: the only way out of the list is `free`. A pointer to a freed chassis
reads as nothing and a write through it changes nothing; that none exists is
a theorem (`L3Daemon.RefCount`).
-/
namespace Lldpd
open Core

/-- An entry of `g_protocols`: what the code looks at when it receives. -/
structure Protocol where
  mode : Mode
  enabled : Bool
  deriving DecidableEq, Repr

/-- The part of `struct lldpd` that reception reads and writes. `detached` are
the interfaces that `lldpd_alloc_hardware` has made and nobody has added to
`g_hardware` yet, `nextAddr` is the address of the next chassis.
mirrors lldpd.h:103-134 -/
structure Daemon where
  gConfig : Config := {}
  gProtocols : List Protocol := []
  gHardware : List Hardware := []
  gChassis : Heap Chassis := []
  gLastrid : Nat := 0
  detached : List Hardware := []
  nextAddr : Addr := 0
  deriving DecidableEq, Repr

def Port.chassis (port : Port) (gChassis : Heap Chassis) : Option Chassis :=
  port.pChassis.bind gChassis.deref

def Chassis.retain (c : Chassis) : Chassis := { c with cRefcount := c.cRefcount + 1 }

def Chassis.release (c : Chassis) : Chassis := { c with cRefcount := c.cRefcount - 1 }

/-- `lldpd_port_cleanup(port, 1)`: what is left of it once the port itself is
gone.
mirrors lldpd-structs.c:166-195 -/
def lldpdPortCleanup (gChassis : Heap Chassis) (port : Port) : Heap Chassis :=
  match port.pChassis with
  | some a => gChassis.write a Chassis.release
  | none => gChassis

/-! ## Interfaces -/

/-- `LOCAL_CHASSIS(cfg)`, `TAILQ_FIRST` of the list. -/
def Daemon.localChassis (s : Daemon) : Option (Addr × Chassis) := s.gChassis.head?

/-- `lldpd_alloc_hardware`. The interface is not part of `g_hardware` yet.
mirrors lldpd.c:150-183 -/
def lldpdAllocHardware (b : Build) (s : Daemon) : Option Daemon := do
  let (a, chassis) ← s.localChassis
  let cap : UInt16 := if b.lldpmed ∧ chassis.cMedCapAvailable ≠ 0 then
      if s.gConfig.cNoinventory then LLDP_MED_CAP_CAP else LLDP_MED_CAP_CAP ||| LLDP_MED_CAP_IV
    else 0
  let hardware : Hardware := { hLport := { pChassis := some a, pMedCapEnabled := cap } }
  return { s with
    detached := s.detached ++ [hardware]
    gChassis := s.gChassis.write a Chassis.retain }

/-- `interfaces_helper_add_hardware`, for the interface number `i` of those
that are allocated.
mirrors interfaces.c:556-562 -/
def interfacesHelperAddHardware (s : Daemon) (i : Nat) : Option Daemon := do
  let hardware ← s.detached[i]?
  return { s with gHardware := s.gHardware ++ [hardware], detached := s.detached.eraseIdx i }

/-- `lldpd_hardware_cleanup`: the chassis once the interface is gone.
mirrors lldpd.c:213-227 -/
def lldpdHardwareCleanup (gChassis : Heap Chassis) (hardware : Hardware) : Heap Chassis :=
  lldpdPortCleanup gChassis hardware.hLport

/-! ## Expiry -/

def expired (now : Int) (gChassis : Heap Chassis) (port : Port) : Bool :=
  match port.chassis gChassis with
  | some c => decide (port.pLastupdate + c.cTtl.toNat ≤ now)
  | none => false

/-- One turn of the loop of `lldpd_remote_cleanup`. `expire` is whether a
callback was given.
mirrors lldpd-structs.c:127-162 -/
def remoteCleanupStep (b : Build) (expire all : Bool) (now : Int)
    (acc : Hardware × Heap Chassis) (port : Port) : Hardware × Heap Chassis :=
  let (hardware, gChassis) := acc
  let aged := !all && expire && expired now gChassis port
  let hardware := if !aged then hardware
    else if b.ovsdb then { hardware with hAgeoutCnt := hardware.hAgeoutCnt + 1 }
    else { hardware with
      hAgeoutCnt := hardware.hAgeoutCnt + 1
      hDeleteCnt := hardware.hDeleteCnt + 1 }
  if all || aged then
    let hardware := if b.ovsdb then
        { hardware with hDeleteCnt := hardware.hDeleteCnt + 1, hRportChangeOpcode := .del }
      else hardware
    (hardware, lldpdPortCleanup gChassis port)
  else ({ hardware with hRports := hardware.hRports ++ [port] }, gChassis)

/-- `lldpd_remote_cleanup`.
mirrors lldpd-structs.c:112-164 -/
def lldpdRemoteCleanup (b : Build) (expire all : Bool) (now : Int) (hardware : Hardware)
    (gChassis : Heap Chassis) : Hardware × Heap Chassis :=
  hardware.hRports.foldl (remoteCleanupStep b expire all now)
    ({ hardware with hRports := [] }, gChassis)

/-- One turn of the first loop of `lldpd_cleanup`: an interface that the last
scan did not see goes away with its neighbors.
mirrors lldpd.c:389-400 -/
def cleanupStep (b : Build) (now : Int) (acc : List Hardware × Heap Chassis)
    (hardware : Hardware) : List Hardware × Heap Chassis :=
  let (kept, gChassis) := acc
  if hardware.hFlags = 0 then
    let (hardware, gChassis) := lldpdRemoteCleanup b true true now hardware gChassis
    (kept, lldpdHardwareCleanup gChassis hardware)
  else
    let (hardware, gChassis) := lldpdRemoteCleanup b true false now hardware gChassis
    (kept ++ [hardware], gChassis)

/-- `lldpd_cleanup`. The notifications and the timer are left out.
mirrors lldpd.c:381-415 -/
def lldpdCleanup (b : Build) (now : Int) (s : Daemon) : Daemon :=
  let (gHardware, gChassis) := s.gHardware.foldl (cleanupStep b now) ([], s.gChassis)
  { s with
    gHardware := gHardware
    gChassis := gChassis.filter fun e => e.2.cRefcount ≠ 0 }

end Lldpd
