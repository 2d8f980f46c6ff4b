import Lldpd.Core.LTS
import Lldpd.L3Daemon.Decode

/-!
# The daemon as a state machine

What happens to the neighbor table while the daemon runs: interfaces come and
go, frames arrive on them, neighbors expire and the periodic cleanup runs, in
any order and at any time.
-/
namespace Lldpd
open Core

/-- What can happen. Interfaces are named by their place in the list. -/
inductive Event where
  /-- `lldpd_alloc_hardware` -/
  | allocHardware
  /-- The new interface works: `interfaces_helper_add_hardware`. -/
  | addHardware (i : Nat)
  /-- The new interface does not work: `lldpd_hardware_cleanup`. -/
  | hardwareCleanup (i : Nat)
  /-- The scan of the interfaces has seen this one, or not. -/
  | scan (i : Nat) (flags : Nat)
  /-- `lldpd_decode`, at the time `now` and with `stack` under it. -/
  | decode (i : Nat) (frame : Bytes) (now : Int) (stack : Buffer 32)
  /-- `lldpd_remote_cleanup` -/
  | remoteCleanup (i : Nat) (expire all : Bool) (now : Int)
  /-- `lldpd_cleanup` -/
  | cleanup (now : Int)

/-- One event. `none`: there is no such interface, or the code faults. -/
def Daemon.step (b : Build) (s : Daemon) : Event → Option Daemon
  | .allocHardware => lldpdAllocHardware b s
  | .addHardware i => interfacesHelperAddHardware s i
  | .hardwareCleanup i => do
    let hardware ← s.detached[i]?
    return { s with
      detached := s.detached.eraseIdx i
      gChassis := lldpdHardwareCleanup s.gChassis hardware }
  | .scan i flags => do
    let hardware ← s.gHardware[i]?
    return { s with gHardware := s.gHardware.set i { hardware with hFlags := flags } }
  | .decode i frame now stack => do
    let hardware ← s.gHardware[i]?
    match lldpdDecode b now stack frame s hardware with
    | .ok (hardware, s) => return { s with gHardware := s.gHardware.set i hardware }
    | .error _ => none
  | .remoteCleanup i expire all now => do
    let hardware ← s.gHardware[i]?
    let (hardware, gChassis) := lldpdRemoteCleanup b expire all now hardware s.gChassis
    return { s with gHardware := s.gHardware.set i hardware, gChassis := gChassis }
  | .cleanup now => some (lldpdCleanup b now s)

/-- What an event has done. -/
inductive Daemon.Stepped (b : Build) (s : Daemon) : Event → Daemon → Prop where
  | allocHardware {a c cap} (hlocal : s.localChassis = some (a, c)) :
      Stepped b s .allocHardware { s with
        detached := s.detached ++ [{ hLport := { pChassis := some a, pMedCapEnabled := cap } }]
        gChassis := s.gChassis.write a Chassis.retain }
  | addHardware {i hw} (hget : s.detached[i]? = some hw) : Stepped b s (.addHardware i)
      { s with gHardware := s.gHardware ++ [hw], detached := s.detached.eraseIdx i }
  | hardwareCleanup {i hw} (hget : s.detached[i]? = some hw) : Stepped b s (.hardwareCleanup i)
      { s with
        detached := s.detached.eraseIdx i
        gChassis := lldpdHardwareCleanup s.gChassis hw }
  | scan {i flags hw} (hget : s.gHardware[i]? = some hw) : Stepped b s (.scan i flags)
      { s with gHardware := s.gHardware.set i { hw with hFlags := flags } }
  | decode {i frame now stack hw r} (hget : s.gHardware[i]? = some hw)
      (hdec : lldpdDecode b now stack frame s hw = .ok r) :
      Stepped b s (.decode i frame now stack) { r.2 with gHardware := r.2.gHardware.set i r.1 }
  | remoteCleanup {i expire all now hw} (hget : s.gHardware[i]? = some hw) :
      Stepped b s (.remoteCleanup i expire all now) { s with
        gHardware := s.gHardware.set i (lldpdRemoteCleanup b expire all now hw s.gChassis).1
        gChassis := (lldpdRemoteCleanup b expire all now hw s.gChassis).2 }
  | cleanup {now} : Stepped b s (.cleanup now) (lldpdCleanup b now s)

theorem Daemon.stepped {b : Build} {s s' : Daemon} {ev : Event} (h : s.step b ev = some s') :
    s.Stepped b ev s' := by
  cases ev with
  | cleanup now =>
    cases h
    exact .cleanup
  | decode i frame now stack =>
    obtain ⟨hw, hget, h⟩ := Option.bind_eq_some_iff.1 h
    split at h
    · cases h
      exact .decode hget ‹_›
    · cases h
  | allocHardware | addHardware i | hardwareCleanup i | scan i flags
  | remoteCleanup i expire all now =>
    obtain ⟨_, hget, h⟩ := Option.bind_eq_some_iff.1 h
    cases h
    constructor
    exact hget

/-- The local chassis is the first one and holds a reference to itself.
mirrors lldpd.c:1767-1791, 1837-1839 -/
def Daemon.startUp (cfg : Config) (protocols : List Protocol) (s : Daemon) : Prop :=
  ∃ c : Chassis, c.cRefcount = 1 ∧ c.cProtocol = none ∧
    s = { gConfig := cfg, gProtocols := protocols, gChassis := [(0, c)], nextAddr := 1 }

def daemon (b : Build) (cfg : Config) (protocols : List Protocol) : LTS Daemon Event :=
  .ofFn (Daemon.startUp cfg protocols) (Daemon.step b)

def Daemon.run (b : Build) (s : Daemon) (events : List Event) : Option Daemon :=
  events.foldlM (Daemon.step b) s

def Daemon.started (cfg : Config) (protocols : List Protocol) : Daemon where
  gConfig := cfg
  gProtocols := protocols
  gChassis := [(0, { cRefcount := 1 })]
  nextAddr := 1

abbrev lldpOnly : List Protocol := [⟨.lldp, true⟩]

theorem started_startUp {cfg : Config} {protocols : List Protocol} :
    (Daemon.started cfg protocols).startUp cfg protocols :=
  ⟨{ cRefcount := 1 }, rfl, rfl, rfl⟩

theorem started_run_reachable {b : Build} {cfg : Config} {protocols : List Protocol}
    {events : List Event} {s : Daemon} (h : (Daemon.started cfg protocols).run b events = some s) :
    (daemon b cfg protocols).Reachable s :=
  LTS.reachable_foldlM (.init started_startUp) h

end Lldpd
