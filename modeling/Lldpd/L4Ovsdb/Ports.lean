import Lldpd.Core.LTS
import Lldpd.Core.Objects
import Lldpd.Core.Text
import Lldpd.L1Data.Structs

/-!
# Ports and interfaces

The OVSDB side keeps two tables with pointers between them: `all_interfaces`,
an entry for every interface that has a row or an `lldpd_hardware`, and
`all_ports`, an entry for every Port row with the interfaces that had hardware
when the row was looked at last. Rows come and go with `lldpd_reconfigure`,
hardware with the scan of the interfaces, and nobody tells the ports.

So a port may still refer to an interface that has lost its hardware, or that
has been freed. A function that follows a NULL pointer, or one to an object
that is no more, fails here (`BadPointer`).

The calls are steps of a machine, in any order that the tests of their callers
allow. A row is identified by its name. Two things are kept for the reader
only: the ports that have been configured on their row as it is
(`Cache.configured`), and the hardware whose VLANs the scan has removed and not
put back yet (`IfHardware.rescanned`).
-/
namespace Lldpd.Ovsdb
open Core

/-! ## Rows -/

/-- `enum ovsrec_port_vlan_mode_e`. -/
inductive PortVlanMode where
  | access | trunk | nativeTagged | nativeUntagged
  deriving DecidableEq, Repr

/-- A row of the Port table. In `vlanMode`, `some none` is a text that is none
of the modes. -/
structure PortRow where
  name : Text
  vlanMode : Option (Option PortVlanMode) := none
  vlanTag : Option UInt16 := none
  vlanTrunks : List UInt16 := []
  interfaces : List Text := []
  deriving DecidableEq, Repr

structure Db where
  interfaces : List Text := []
  ports : List PortRow := []
  vlans : List (UInt16 × Bytes) := []
  deriving DecidableEq, Repr

def Db.port (db : Db) (name : Text) : Option PortRow := db.ports.find? fun row => row.name = name

/-- mirrors lldpd_ovsdb_if.c:1243-1259 -/
def vlanNameLookupByVid (vid : UInt16) (db : Db) : Option Bytes := db.vlans.lookup vid

/-- The mode of a port.
mirrors lldpd_ovsdb_if.c:1106-1133 -/
def portVlanMode (row : PortRow) : PortVlanMode :=
  match row.vlanMode with
  | some (some mode) => mode
  | some none => .trunk
  | none => if row.vlanTag.isSome then .access else .trunk

/-! ## Tables -/

/-- mirrors lldpd_ovsdb_if.c:128-135 -/
structure InterfaceData where
  name : Text
  ifrow : Bool := false
  portdata : Option Addr := none
  hw : Option Addr := none
  deriving DecidableEq, Repr

/-- mirrors lldpd_ovsdb_if.c:141-151 -/
structure PortData where
  name : Text
  vlanMode : PortVlanMode := .access
  interfaces : List (Option Addr) := []
  deriving DecidableEq, Repr

/-- What is read and written of an `lldpd_hardware` here. -/
structure IfHardware where
  hIfname : Text
  hLport : Port := {}
  rescanned : Bool := false
  deriving DecidableEq, Repr

structure Cache where
  db : Db
  allInterfaces : Objects InterfaceData := ∅
  allPorts : Objects PortData := ∅
  hardware : Objects IfHardware := ∅
  gHardware : List Addr := []
  configured : List Text := []
  deriving DecidableEq

namespace Cache

def findInterface (s : Cache) (name : Text) : Option (Addr × InterfaceData) :=
  Objects.find InterfaceData.name name s.allInterfaces

def findPort (s : Cache) (name : Text) : Option (Addr × PortData) :=
  Objects.find PortData.name name s.allPorts

def setInterface (s : Cache) (a : Addr) (f : InterfaceData → InterfaceData) : Cache :=
  { s with allInterfaces := Objects.modify s.allInterfaces a f }

def setPort (s : Cache) (p : Addr) (f : PortData → PortData) : Cache :=
  { s with allPorts := Objects.modify s.allPorts p f }

def setHardware (s : Cache) (h : Addr) (f : IfHardware → IfHardware) : Cache :=
  { s with hardware := Objects.modify s.hardware h f }

end Cache

/-! ## Interfaces -/

/-- mirrors lldpd_ovsdb_if.c:613-633 -/
def delOldDbInterface (name : Text) (s : Cache) : Cache :=
  match s.findInterface name with
  | none => s
  | some (a, itf) =>
    if itf.hw.isNone then { s with allInterfaces := AList.erase a s.allInterfaces }
    else s.setInterface a fun itf => { itf with ifrow := false }

/-- `a` is the address of a new entry.
mirrors lldpd_ovsdb_if.c:635-664 -/
def addNewDbInterface (name : Text) (a : Addr) (s : Cache) : Cache :=
  match s.findInterface name with
  | none => { s with allInterfaces := AList.insert a { name := name, ifrow := true } s.allInterfaces }
  | some (a, _) => s.setInterface a fun itf => { itf with ifrow := true }

/-! ## VLANs of an interface -/

/-- mirrors lldpd_ovsdb_if.c:908-939 -/
def setLldpVlanNameTlv (vlan : UInt16) (hw : Addr) (s : Cache) : Except BadPointer Cache :=
  match vlanNameLookupByVid vlan s.db with
  | none => .ok s
  | some name => do
    let (hw, _) ← Objects.follow s.hardware (some hw)
    return s.setHardware hw fun hw =>
      { hw with hLport := { hw.hLport with pVlans := hw.hLport.pVlans ++ [⟨name, vlan⟩] } }

/-- mirrors lldpd_ovsdb_if.c:941-953 -/
def setLldpTrunkVlans (row : PortRow) (hw : Option Addr) (s : Cache) : Except BadPointer Cache :=
  match hw with
  | none => .ok s
  | some hw => row.vlanTrunks.foldlM (fun s vlan => setLldpVlanNameTlv vlan hw s) s

/-- mirrors lldpd_ovsdb_if.c:955-976 -/
def setLldpPvid (row : PortRow) (hw : Option Addr) (s : Cache) : Except BadPointer Cache :=
  match row.vlanTag, hw with
  | some nativeVid, some hw => do
    let (hw, _) ← Objects.follow s.hardware (some hw)
    setLldpVlanNameTlv nativeVid hw (s.setHardware hw fun hw =>
      { hw with hLport := { hw.hLport with pPvid := nativeVid } })
  | _, _ => .ok s

/-- The VLANs of a row for an interface. Its VLANs are put back.
mirrors lldpd_ovsdb_if.c:1144-1153, 2895-2898 -/
def setLldpVlans (mode : PortVlanMode) (row : PortRow) (hw : Option Addr) (s : Cache) :
    Except BadPointer Cache := do
  let s := match hw with
    | none => s
    | some hw => s.setHardware hw fun hw => { hw with rescanned := false }
  let s ← (if mode ≠ .trunk then setLldpPvid row hw s else .ok s)
  if mode ≠ .access then setLldpTrunkVlans row hw s else .ok s

/-- mirrors lldpd-structs.c:70-82 -/
def lldpdVlanCleanup (hw : Addr) (s : Cache) : Except BadPointer Cache := do
  let (hw, _) ← Objects.follow s.hardware (some hw)
  return s.setHardware hw fun hw => { hw with hLport := { hw.hLport with pVlans := [] } }

/-! ## Ports -/

/-- One turn of the loop of `del_old_port`.
mirrors lldpd_ovsdb_if.c:990-1006 -/
def delOldPortInterface (s : Cache) : Option Addr → Except BadPointer Cache
  | none => .ok s
  | some a => do
    let (_, itf) ← Objects.follow s.allInterfaces (some a)
    let (h, hw) ← Objects.follow s.hardware itf.hw
    match s.findInterface hw.hIfname with
    | none => return s
    | some (intf, _) =>
      let s := s.setInterface intf fun intf => { intf with portdata := none }
      let s ← lldpdVlanCleanup h s
      return s.setHardware h fun hw => { hw with hLport := { hw.hLport with pPvid := 0 } }

/-- mirrors lldpd_ovsdb_if.c:978-1024 -/
def delOldPort (name : Text) (s : Cache) : Except BadPointer Cache :=
  match s.findPort name with
  | none => .ok s
  | some (p, port) => do
    let s ← port.interfaces.foldlM delOldPortInterface s
    return { s with
      allPorts := AList.erase p s.allPorts
      configured := s.configured.filter (· ≠ name) }

/-- `p` is the address of the new entry.
mirrors lldpd_ovsdb_if.c:1026-1049 -/
def addNewPort (name : Text) (p : Addr) (s : Cache) : Cache :=
  match s.findPort name with
  | none => { s with allPorts := AList.insert p { name := name } s.allPorts }
  | some _ => s

/-- The interfaces of old lose their VLANs.
mirrors lldpd_ovsdb_if.c:1070-1077 -/
def cleanupInterface (s : Cache) : Option Addr → Except BadPointer Cache
  | none => .ok s
  | some a => do
    let (_, itf) ← Objects.follow s.allInterfaces (some a)
    match itf.hw with
    | none => return s
    | some hw => lldpdVlanCleanup hw s

/-- One turn of the loop over the interfaces of the row.
mirrors lldpd_ovsdb_if.c:1086-1154 -/
def reconfigureInterface (p : Addr) (row : PortRow) (s : Cache) (name : Text) :
    Except BadPointer Cache :=
  match s.findInterface name with
  | none => .ok (s.setPort p fun port => { port with interfaces := port.interfaces ++ [none] })
  | some (a, intf) =>
    let s := if intf.hw.isSome then s.setInterface a fun intf => { intf with portdata := some p }
      else s
    let s := s.setPort p fun port => { port with
      interfaces := port.interfaces ++ [if intf.hw.isSome then some a else none]
      vlanMode := portVlanMode row }
    setLldpVlans (portVlanMode row) row intf.hw s

/-- mirrors lldpd_ovsdb_if.c:1051-1156 -/
def lldpdReconfigurePort (p : Addr) (s : Cache) : Except BadPointer Cache := do
  let (_, port) ← Objects.follow s.allPorts (some p)
  match s.db.port port.name with
  | none => .error .dangling
  | some row => do
    let s ← port.interfaces.foldlM cleanupInterface s
    let s := s.setPort p fun port => { port with interfaces := [] }
    let s ← row.interfaces.foldlM (reconfigureInterface p row) s
    return { s with configured := port.name :: s.configured }

/-- `handle_port_config_mods`, for a row that is new or modified.
mirrors lldpd_ovsdb_if.c:1164-1178 -/
def configPort (name : Text) (s : Cache) : Except BadPointer Cache :=
  match s.db.port name, s.findPort name with
  | some _, some (p, _) => lldpdReconfigurePort p s
  | _, _ => .ok s

/-! ## Hardware -/

/-- The port of an interface: the first row that has the interface and is in
`all_ports`.
mirrors lldpd_ovsdb_if.c:2853-2868 -/
def portOf (s : Cache) (name : Text) : Option Addr :=
  s.db.ports.findSome? fun row =>
    if name ∈ row.interfaces then (s.findPort row.name).map Prod.fst else none

/-- `a` is the address of a new entry. The direction and the state of the link
are left out.
mirrors lldpd_ovsdb_if.c:2780-2876 -/
def addLldpdHardwareInterface (h : Addr) (name : Text) (a : Addr) (s : Cache) :
    Except BadPointer Cache :=
  match s.findInterface name with
  | none => .ok { s with
      allInterfaces := AList.insert a { name := name, hw := some h } s.allInterfaces }
  | some (a, itf) =>
    let s := s.setInterface a fun itf => { itf with hw := some h, portdata := none }
    match if itf.ifrow then portOf s name else none with
    | none => .ok s
    | some p =>
      lldpdReconfigurePort p (s.setInterface a fun itf => { itf with portdata := some p })

/-- mirrors lldpd_ovsdb_if.c:2750-2778 -/
def delLldpdHardwareInterface (name : Text) (s : Cache) : Cache :=
  match s.findInterface name with
  | none => s
  | some (a, itf) =>
    if !itf.ifrow then { s with allInterfaces := AList.erase a s.allInterfaces }
    else s.setInterface a fun itf => { itf with hw := none }

/-- `lldpd_hardware_cleanup`, the part that is about the tables.
mirrors lldpd.c:213-228 -/
def ifHardwareCleanup (h : Addr) (s : Cache) : Except BadPointer Cache := do
  let (h, hw) ← Objects.follow s.hardware (some h)
  let s := delLldpdHardwareInterface hw.hIfname s
  return { s with hardware := AList.erase h s.hardware }

/-- `lldpd_alloc_hardware`, at the address `h`.
mirrors lldpd.c:150-183 -/
def allocHardware (name : Text) (h : Addr) (s : Cache) : Cache :=
  { s with hardware := AList.insert h { hIfname := name } s.hardware }

/-- A new interface in `interfaces_helper_physical`; `works` is what `init`
says.
mirrors interfaces.c:579-608 -/
def createHardware (name : Text) (h a : Addr) (works : Bool) (s : Cache) :
    Except BadPointer Cache := do
  let s ← addLldpdHardwareInterface h name a (allocHardware name h s)
  if works then return { s with gHardware := s.gHardware ++ [h] } else ifHardwareCleanup h s

/-- A known interface in `interfaces_helper_physical`.
mirrors interfaces.c:609-612 -/
def seenHardware (h : Addr) (s : Cache) : Except BadPointer Cache := do
  let (h, _) ← Objects.follow s.hardware (some h)
  return s.setHardware h fun hw =>
    { hw with hLport := { hw.hLport with pVlans := [] }, rescanned := true }

/-- mirrors lldpd_ovsdb_if.c:2878-2902 -/
def addVlansFromOvsdb (name : Text) (s : Cache) : Except BadPointer Cache :=
  match s.findInterface name with
  | none => .ok s
  | some (_, itf) =>
    match itf.portdata with
    | none => .ok (match itf.hw with
      | none => s
      | some hw => s.setHardware hw fun hw => { hw with rescanned := false })
    | some p => do
      let (_, portdata) ← Objects.follow s.allPorts (some p)
      match s.findPort portdata.name, s.db.port portdata.name with
      | none, _ => return s
      | some (_, port), none =>
        if port.vlanMode = .trunk ∧ itf.hw = none then return s else .error .dangling
      | some (_, port), some row => setLldpVlans port.vlanMode row itf.hw s

/-- An interface that the scan has not found, in `lldpd_cleanup`.
mirrors lldpd.c:392-397 -/
def removeHardware (h : Addr) (s : Cache) : Except BadPointer Cache :=
  ifHardwareCleanup h { s with gHardware := s.gHardware.erase h }

/-! ## The machine -/

inductive CacheEvent where
  /-- The rows change. -/
  | db (db : Db)
  | delOldDbInterface (name : Text)
  | addNewDbInterface (name : Text) (a : Addr)
  | delOldPort (name : Text)
  | addNewPort (name : Text) (p : Addr)
  | configPort (name : Text)
  | create (name : Text) (h a : Addr) (works : Bool)
  | seen (h : Addr)
  | addVlans (name : Text)
  | remove (h : Addr)

def Cache.step (s : Cache) : CacheEvent → Except BadPointer Cache
  | .db db => .ok { s with
      db := db
      configured := s.configured.filter fun name => s.db.port name = db.port name }
  | .delOldDbInterface name => .ok (Ovsdb.delOldDbInterface name s)
  | .addNewDbInterface name a => .ok (Ovsdb.addNewDbInterface name a s)
  | .delOldPort name => Ovsdb.delOldPort name s
  | .addNewPort name p => .ok (Ovsdb.addNewPort name p s)
  | .configPort name => Ovsdb.configPort name s
  | .create name h a works => createHardware name h a works s
  | .seen h => seenHardware h s
  | .addVlans name => addVlansFromOvsdb name s
  | .remove h => removeHardware h s

/-- The tests of the callers, and that what is allocated is new.
mirrors lldpd_ovsdb_if.c:794-811, 1212-1233 -/
def Enabled (s : Cache) : CacheEvent → Prop
  | .delOldDbInterface name => name ∉ s.db.interfaces
  | .addNewDbInterface name a => name ∈ s.db.interfaces ∧ s.allInterfaces.lookup a = none
  | .delOldPort name => s.db.port name = none
  | .addNewPort name p => s.db.port name ≠ none ∧ s.allPorts.lookup p = none
  | .create _ h a _ => s.hardware.lookup h = none ∧ s.allInterfaces.lookup a = none
  | .seen h | .remove h => h ∈ s.gHardware
  | _ => True

instance (s : Cache) : (ev : CacheEvent) → Decidable (Enabled s ev)
  | .delOldDbInterface name => inferInstanceAs (Decidable (name ∉ s.db.interfaces))
  | .addNewDbInterface name a =>
    inferInstanceAs (Decidable (name ∈ s.db.interfaces ∧ s.allInterfaces.lookup a = none))
  | .delOldPort name => inferInstanceAs (Decidable (s.db.port name = none))
  | .addNewPort name p =>
    inferInstanceAs (Decidable (s.db.port name ≠ none ∧ s.allPorts.lookup p = none))
  | .create _ h a _ =>
    inferInstanceAs (Decidable (s.hardware.lookup h = none ∧ s.allInterfaces.lookup a = none))
  | .seen h | .remove h => inferInstanceAs (Decidable (h ∈ s.gHardware))
  | .db _ | .configPort _ | .addVlans _ => inferInstanceAs (Decidable True)

def caches : LTS Cache CacheEvent where
  init s := ∃ db, s = { db := db }
  step s ev s' := Enabled s ev ∧ s.step ev = .ok s'

/-- A run, if the callers allow it and no bad pointer is followed. -/
def Cache.run (evs : List CacheEvent) (s : Cache) : Option Cache :=
  evs.foldlM (fun s ev => if Enabled s ev then (s.step ev).toOption else none) s

theorem reachable_run {G : Cache → CacheEvent → Prop} {evs : List CacheEvent} {s s' : Cache}
    (hG : ∀ ev ∈ evs, ∀ s, G s ev) (hs : (caches.guard G).Reachable s) (h : s.run evs = some s') :
    (caches.guard G).Reachable s' := by
  induction evs generalizing s with
  | nil =>
    cases h
    exact hs
  | cons ev evs ih =>
    obtain ⟨s1, h1, h⟩ := Option.bind_eq_some_iff.1 h
    obtain ⟨hen, h1⟩ := Option.ite_none_right_eq_some.1 h1
    refine ih (fun ev hev => hG ev (List.mem_cons_of_mem _ hev)) (.step (l := ev) hs ?_) h
    refine ⟨hG ev List.mem_cons_self s, hen, ?_⟩
    cases hstep : s.step ev with
    | error e => rw [hstep] at h1; cases h1
    | ok s2 => rw [hstep] at h1; cases h1; rfl

end Lldpd.Ovsdb
