import Lldpd.L3Daemon.Work
import Lldpd.L4Ovsdb.Run

/-!
# Statistics in the database

`lldpd_stats_analyze` copies the counters of an interface to its Interface row.
The counters live in the `lldpd_hardware`, which starts with zeros, so the
first copy adds what the row holds from an earlier life of the daemon, once for
an entry of `all_interfaces` (`synced_from_db`).

`Interface` is what there is under the name of one interface: the entry with
its hardware, the row, and the transactions under way. The rest of the daemon
is input: a frame comes with the daemon that receives it, a neighbor goes by the
chassis that an event brings along.
-/
namespace Lldpd.Ovsdb.Statistics
open Core

/-! ## The row and the entry -/

/-- The columns of an Interface row that count here. In `lldpEnableDir`,
`some none` is a text that is none of the directions. A key that
`lldp_statistics` does not have is read as 0. -/
structure Row where
  lldpEnableDir : Option (Option HardwareEnableDir) := none
  linkState : LinkState := .down
  lldpStatistics : Counter → Int64 := fun _ => 0

/-- mirrors lldpd_ovsdb_if.c:128-135 -/
structure InterfaceData where
  ifrow : Bool := false
  syncedFromDb : Bool := false
  hw : Option Hardware := none

/-- mirrors lldpd_ovsdb_if.c:613-633 -/
def delOldDbInterface (itf : InterfaceData) : Option InterfaceData :=
  if itf.hw.isNone then none else some { itf with ifrow := false }

/-- mirrors lldpd_ovsdb_if.c:635-664 -/
def addNewDbInterface (itf : Option InterfaceData) : InterfaceData :=
  itf.elim { ifrow := true } fun itf => { itf with ifrow := true }

/-- mirrors lldpd_ovsdb_if.c:2750-2778 -/
def delLldpdHardwareInterface (itf : InterfaceData) : Option InterfaceData :=
  if !itf.ifrow then none else some { itf with hw := none }

/-- The direction in the row, for new hardware: `HARDWARE_ENABLE_DIR_OFF` is
what `calloc` leaves.
mirrors lldpd_ovsdb_if.c:2815-2841 -/
def initialDir (row : Option Row) : HardwareEnableDir :=
  (row.bind Row.lldpEnableDir).elim .rxtx fun dir => dir.getD .off

/-- `lldpd_alloc_hardware`, for an interface whose local port is `hLport`. The
port configuration is left out.
mirrors lldpd.c:150-183, lldpd_ovsdb_if.c:2780-2876 -/
def addLldpdHardwareInterface (hLport : Port) (row : Option Row) (itf : Option InterfaceData) :
    InterfaceData :=
  itf.elim { hw := some { hLport := hLport } } fun itf =>
    let row := if itf.ifrow then row else none
    { itf with hw := some { hLport := hLport
                            hEnableDir := initialDir row
                            hLinkState := row.elim .down Row.linkState } }

/-- The direction that a row asks for, if it asks for one.
mirrors lldpd_ovsdb_if.c:696-728 -/
def Row.dir (row : Row) : Option HardwareEnableDir := row.lldpEnableDir.getD (some .rxtx)

/-- `CHK_AND_APPLY_ITF_CONFIG_CHANGE`: the hardware goes with `lldpd_reset`,
and `lldpd_update_localports` makes it again if the interface is `found`.
mirrors lldpd_ovsdb_if.c:558-572, 665-674 -/
def applyDir (row : Row) (found : Option Port) (itf : InterfaceData) : InterfaceData :=
  if itf.hw.any fun hw => row.dir.any (hw.hEnableDir ≠ ·) then
    found.elim { itf with hw := none } fun hLport =>
      addLldpdHardwareInterface hLport row (delLldpdHardwareInterface itf)
  else itf

/-- `handle_interfaces_config_mods`, for a row that is new or modified.
mirrors lldpd_ovsdb_if.c:675-751 -/
def handleInterfacesConfigMods (row : Row) (found : Option Port) (itf : InterfaceData) :
    InterfaceData :=
  let itf := applyDir row found { itf with ifrow := true }
  { itf with hw := itf.hw.map fun hw => { hw with hLinkState := row.linkState } }

/-- mirrors lldpd_ovsdb_if.c:1750-1798 -/
def syncLldpCountersFromDb (row : Row) (hw : Hardware) : Hardware :=
  hw.mapCounters fun k cnt => cnt + (row.lldpStatistics k).toUInt64

/-- The entry behind it, and the values for the row, if there are any.
mirrors lldpd_ovsdb_if.c:1803-1854 -/
def lldpProcessOneInterfaceCounters (row : Option Row) (itf : InterfaceData) :
    InterfaceData × Option (Counter → Int64) :=
  match itf.hw, row with
  | some hw, some row =>
    if !itf.ifrow then (itf, none)
    else
      let hw := if itf.syncedFromDb then hw else syncLldpCountersFromDb row hw
      ({ itf with hw := some hw, syncedFromDb := true }, some fun k => (hw.counter k).toInt64)
  | _, _ => (itf, none)

/-! ## The machine -/

/-- What there is under the name of an interface. `statsTxn` and `confirmTxn`
are the statics of `lldpd_stats_analyze` and `lldpd_run`: a transaction under
way, with the values that it writes to the row, and with whether it writes
zeros. Two fields are kept for the reader: whether a clear request has been
performed since the last copy was committed, and how many things there were to
count for each counter, in all lives of the daemon. -/
structure Interface where
  itf : Option InterfaceData := none
  row : Option Row := none
  statsTxn : Option (Option (Counter → Int64)) := none
  confirmTxn : Option Bool := none
  cleared : Bool := false
  events : Counter → Nat

/-- What `lldpd_run` finds. `again`: the last transaction has to be repeated;
`counters`: a request to clear the counters is due; `info`: the neighbor in the
row as the loop over the interfaces leaves it; `changed`: it writes something. -/
structure RunInput where
  again : Bool := false
  counters : Bool := false
  changed : Bool := false
  info : IfRow := {}
  now : Int := 0
  gChassis : Heap Chassis := []

inductive Event where
  | work (w : Work)
  /-- The row comes, changes or goes, and `lldpd_reconfigure` sees it. -/
  | rowInserted (dir : Option (Option HardwareEnableDir)) (link : LinkState) (found : Option Port)
  | rowModified (dir : Option (Option HardwareEnableDir)) (link : LinkState) (found : Option Port)
  | rowDeleted
  /-- The scan finds the interface, or finds it no more. -/
  | hwAdded (hLport : Port)
  | hwDeleted
  /-- `lldpd_run` and `lldpd_stats_analyze`; `status` is what a commit returns. -/
  | run (input : RunInput) (status : TxnStatus)
  | statsRun (status : TxnStatus)
  /-- The daemon starts again. -/
  | restart

/-- mirrors lldpd_ovsdb_if.c:1994-2051 -/
def Interface.clearCounters (b : Build) (gChassis : Heap Chassis) (s : Interface) : Interface :=
  { s with
    itf := s.itf.map fun itf =>
      { itf with hw := itf.hw.map fun hw => (Ovsdb.clearCounters b hw gChassis).1 }
    cleared := true }

/-- The transaction that `lldpd_run` has before the commit: the clear request,
then the sweep over the rows. The clear of the neighbor table is
`lldpd_remote_cleanup`, an event of its own.
mirrors lldpd_ovsdb_if.c:2122-2267, 2492-2508 -/
def Interface.prepare (b : Build) (input : RunInput) (s : Interface) : Interface :=
  if s.confirmTxn.isSome then s
  else if input.again then { s with confirmTxn := some false }
  else
    let s := if input.counters then s.clearCounters b input.gChassis else s
    let zeros := agesOut input.now input.info
    { s with confirmTxn := if input.counters || input.changed || zeros then some zeros else none }

/-- mirrors lldpd_ovsdb_if.c:2510-2529 -/
def Interface.commitConfirm (status : TxnStatus) (s : Interface) : Interface :=
  match s.confirmTxn, status with
  | none, _ | _, .incomplete => s
  | some true, .success =>
    { s with
      row := s.row.map fun row => { row with lldpStatistics := fun _ => 0 }
      confirmTxn := none }
  | _, _ => { s with confirmTxn := none }

/-- mirrors lldpd_ovsdb_if.c:1925-1930 -/
def Interface.prepareStats (s : Interface) : Interface :=
  if s.statsTxn.isSome then s
  else s.itf.elim { s with statsTxn := some none } fun itf =>
    let (itf, values) := lldpProcessOneInterfaceCounters s.row itf
    { s with itf := some itf, statsTxn := some values }

/-- mirrors lldpd_ovsdb_if.c:1931-1935 -/
def Interface.commitStats (status : TxnStatus) (s : Interface) : Interface :=
  match s.statsTxn, status with
  | _, .incomplete => s
  | some (some values), .success =>
    { s with
      row := s.row.map fun row => { row with lldpStatistics := values }
      statsTxn := none
      cleared := false }
  | _, _ => { s with statsTxn := none }

/-- The daemon as it starts: an entry for the row, and no hardware yet. -/
def Interface.started (s : Interface) : Interface :=
  { row := s.row, itf := s.row.map fun _ => { ifrow := true }, cleared := s.cleared
    events := s.events }

def Interface.step (b : Build) (s : Interface) : Event → Option Interface
  | .work w => do
    let itf ← s.itf
    let hw ← itf.hw
    let hw' ← w.run b hw
    return { s with
      itf := some { itf with hw := some hw' }
      events := fun k => s.events k + gained b hw w k }
  | .rowInserted dir link found =>
    if s.row.isSome then none
    else
      let row := { lldpEnableDir := dir, linkState := link }
      some { s with
        row := some row
        itf := some (handleInterfacesConfigMods row found (addNewDbInterface s.itf)) }
  | .rowModified dir link found => do
    let row ← s.row
    let row := { row with lldpEnableDir := dir, linkState := link }
    return { s with row := some row, itf := s.itf.map (handleInterfacesConfigMods row found) }
  | .rowDeleted =>
    some { s with
      row := none
      itf := s.itf.bind delOldDbInterface
      statsTxn := s.statsTxn.map fun _ => none
      confirmTxn := s.confirmTxn.map fun _ => false }
  | .hwAdded hLport =>
    if s.itf.any fun itf => itf.hw.isSome then none
    else some { s with itf := some (addLldpdHardwareInterface hLport s.row s.itf) }
  | .hwDeleted =>
    if s.itf.any fun itf => itf.hw.isSome then
      some { s with itf := s.itf.bind delLldpdHardwareInterface }
    else none
  | .run input status => some ((s.prepare b input).commitConfirm status)
  | .statsRun status => some (s.prepareStats.commitStats status)
  | .restart => some s.started

/-- The daemon starts with a row that it has written in an earlier life, or
with none. -/
def interface (b : Build) : LTS Interface Event :=
  .ofFn (fun s => s = s.started ∧ ∀ row, s.row = some row → ∀ k,
      0 ≤ (row.lldpStatistics k).toInt ∧ (row.lldpStatistics k).toInt ≤ s.events k)
    (Interface.step b)

def Interface.synced (s : Interface) : Bool := s.itf.any InterfaceData.syncedFromDb

/-- What must not happen: an entry that is synced gets new hardware, the sweep
finds an expired neighbor in the row, and the counters are cleared while a copy
is under way. -/
def Undisturbed (s : Interface) : Event → Prop
  | .rowModified dir _ found => s.synced = true → found.isSome = true →
      ∀ hw, s.itf.bind InterfaceData.hw = some hw → ∀ d, dir.getD (some .rxtx) = some d →
        hw.hEnableDir = d
  | .hwAdded _ => s.synced = false
  | .run input _ => s.confirmTxn = none → input.again = false →
      agesOut input.now input.info = false ∧
        (input.counters = true → ∀ values, s.statsTxn ≠ some (some values))
  | _ => True

end Lldpd.Ovsdb.Statistics
