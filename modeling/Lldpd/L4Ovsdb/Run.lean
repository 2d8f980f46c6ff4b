import Lldpd.L4Ovsdb.Nbrs

/-!
# The daemon and the database

`lldpd_run` brings the neighbors to the database. It builds a transaction from
the notes of the interfaces (`lldpd_ovsdb_nbrs_run`), or from all interfaces
when the last one has to be repeated (`lldpd_ovsdb_nbrs_change_all`), and
commits it; a commit that is not complete is asked for again the next time.

`Ovs` is the daemon with the rows and the transaction under way, `ovs` the
machine of everything that can happen to them. An interface and its row are
found under the same number; `aligned_step` says that this stays so and what
an event of the daemon does to each pair.

Two fields of a `Slot` are kept for the reader only: whether a change has been
noted that is in no transaction yet (`owed`), and whether the transaction under
way contains one (`sent`). No function of the daemon looks at them.
-/
namespace Lldpd.Ovsdb
open Core

/-- `enum ovsdb_idl_txn_status`, what a commit returns. -/
inductive TxnStatus where
  | unchanged | incomplete | aborted | success | tryAgain | notLocked | error
  deriving DecidableEq, Repr

/-- What the database has of an interface: the row, if there is one, and the
row as the transaction under way leaves it, if it writes to it. -/
structure Slot where
  ifrow : Option IfRow := none
  written : Option IfRow := none
  owed : Bool := false
  sent : Bool := false
  deriving DecidableEq, Repr

/-- The row as the daemon reads it: a transaction sees what it has written. -/
def Slot.row (slot : Slot) : Option IfRow := slot.ifrow.map slot.written.getD

/-- `ovsrec_interface_set_lldp_neighbor_info`. -/
def Slot.write (slot : Slot) (row : IfRow) : Slot :=
  if slot.ifrow.isSome then { slot with written := some row } else slot

/-- The change that was noted is in the transaction now. -/
def Slot.send (slot : Slot) : Slot := { slot with sent := slot.sent || slot.owed, owed := false }

/-- A note of the interface is a change that the database has to get. -/
def Slot.record (slot : Slot) (hardware : Hardware) : Slot :=
  { slot with owed := slot.owed || hardware.hRportChangeOpcode != .noop }

/-- The daemon, the Interface rows of the interfaces in `g_hardware`, the
status of the System row, and the statics of `lldpd_run`: the transaction under
way, with the status that it writes if it writes one, and whether to try again.
`dropped`: an interface has gone with a change that the database has to get. -/
structure Ovs where
  daemon : Daemon
  slots : List Slot := []
  status : Status := ∅
  confirmTxn : Option (Option Status) := none
  confirmTxnTryAgain : Bool := false
  dropped : Bool := false

def Ovs.interfaces (o : Ovs) : List (Hardware × Slot) := o.daemon.gHardware.zip o.slots

def Ovs.withInterfaces (o : Ovs) (interfaces : List (Hardware × Slot)) : Ovs :=
  { o with
    daemon := { o.daemon with gHardware := interfaces.map Prod.fst }
    slots := interfaces.map Prod.snd }

@[simp] theorem interfaces_withInterfaces (o : Ovs) (interfaces : List (Hardware × Slot)) :
    (o.withInterfaces interfaces).interfaces = interfaces :=
  (List.zip_of_prod rfl rfl).symm

theorem length_withInterfaces (o : Ovs) (interfaces : List (Hardware × Slot)) :
    (o.withInterfaces interfaces).slots.length =
      (o.withInterfaces interfaces).daemon.gHardware.length := by
  simp [Ovs.withInterfaces]

/-! ## Building a transaction -/

def eachHardware (f : Hardware → Heap Chassis → Hardware × Heap Chassis) (s : Daemon) : Daemon :=
  let (gHardware, gChassis) := s.gHardware.foldl
    (fun acc hardware =>
      let (hardware, gChassis) := f hardware acc.2
      (acc.1 ++ [hardware], gChassis))
    ([], s.gChassis)
  { s with gHardware := gHardware, gChassis := gChassis }

/-- The clear requests: the interfaces, all rows, and the status.
mirrors lldpd_ovsdb_if.c:2137-2148 -/
def Ovs.clear (b : Build) (r : Clears) (o : Ovs) : Ovs :=
  let s := if r.table then eachHardware (clearTable b) o.daemon else o.daemon
  let s := if r.counters then eachHardware (clearCounters b) s else s
  let slots := if r.table || r.counters then o.slots.map (·.write {}) else o.slots
  { o with
    daemon := s
    slots := List.zipWith (fun hardware slot => slot.record hardware) s.gHardware slots }

/-- One turn of the loop of `lldpd_ovsdb_nbrs_run` over the interfaces.
mirrors lldpd_ovsdb_if.c:2154-2233 -/
def nbrsRunStep (gChassis : Heap Chassis) (x : Hardware × Slot) : Except Fault (Hardware × Slot) :=
  match x.2.row with
  | none => .ok x
  | some ifrow => do
    let write ← nbrWrite gChassis x.1 ifrow
    let hardware := { x.1 with hRportChangeOpcode := .noop }
    match write with
    | none => return (hardware, x.2)
    | some ifrow => return (hardware, (x.2.write ifrow).send)

theorem nbrsRunStep_cases {gChassis : Heap Chassis} {x y : Hardware × Slot}
    (h : nbrsRunStep gChassis x = .ok y) :
    (x.2.row = none ∧ y = x) ∨
      ∃ ifrow write, x.2.row = some ifrow ∧ nbrWrite gChassis x.1 ifrow = .ok write ∧
        y.1 = { x.1 with hRportChangeOpcode := .noop } ∧ (write = none → y.2 = x.2) ∧
        ∀ row, write = some row → y.2 = (x.2.write row).send := by
  unfold nbrsRunStep at h
  cases hrow : x.2.row with
  | none =>
    rw [hrow] at h
    cases h
    exact .inl ⟨rfl, rfl⟩
  | some ifrow =>
    rw [hrow] at h
    cases hw : nbrWrite gChassis x.1 ifrow with
    | error f =>
      have h : (nbrWrite gChassis x.1 ifrow >>= _) = _ := h
      rw [hw] at h
      cases h
    | ok write =>
      have h : (nbrWrite gChassis x.1 ifrow >>= _) = _ := h
      rw [hw] at h
      refine .inr ⟨ifrow, write, rfl, hw, ?_⟩
      cases write with
      | none =>
        cases h
        exact ⟨rfl, fun _ => rfl, fun _ h => (by cases h)⟩
      | some row =>
        cases h
        exact ⟨rfl, fun h => (by cases h), fun _ h => (by cases h; rfl)⟩

/-- `time(NULL) - last_update_db > port_ttl + 2`.
mirrors lldpd_ovsdb_if.c:2244-2254 -/
def agesOut (now : Int) (ifrow : IfRow) : Bool :=
  match ifrow.lldpNeighborInfo with
  | some info =>
    match info.chassis with
    | some c => c.cTtl.toNat + 2 < now - info.pLastupdate
    | none => false
  | none => false

/-- One turn of the loop over the rows. The statistics are left out.
mirrors lldpd_ovsdb_if.c:2247-2265 -/
def ageOut (now : Int) (slot : Slot) : Slot :=
  if slot.row.any (agesOut now) then slot.write {} else slot

/-- `lldpd_ovsdb_nbrs_run`, and the transaction that is left if something has
changed.
mirrors lldpd_ovsdb_if.c:2122-2267, 2493-2502 -/
def lldpdOvsdbNbrsRun (b : Build) (now : Int) (o : Ovs) : Except Fault Ovs := do
  let r ← clearRequests o.status
  let o := o.clear b r
  let interfaces ← o.interfaces.mapM (nbrsRunStep o.daemon.gChassis)
  let interfaces := interfaces.map fun x => (x.1, ageOut now x.2)
  let cleared := r.table || r.counters
  let nbrChange := cleared || interfaces.any fun x => x.2.written.isSome
  return { o.withInterfaces interfaces with
    confirmTxn := if nbrChange then some (if cleared then some r.status else none) else none }

theorem nbrsRun_cases {b : Build} {now : Int} {o o' : Ovs}
    (h : lldpdOvsdbNbrsRun b now o = .ok o') :
    ∃ r interfaces, clearRequests o.status = .ok r ∧
      (o.clear b r).interfaces.mapM (nbrsRunStep (o.clear b r).daemon.gChassis) = .ok interfaces ∧
      o' = { (o.clear b r).withInterfaces (interfaces.map fun x => (x.1, ageOut now x.2)) with
        confirmTxn :=
          if (r.table || r.counters) ||
              (interfaces.map fun x => (x.1, ageOut now x.2)).any fun x => x.2.written.isSome then
            some (if r.table || r.counters then some r.status else none)
          else none } ∧
      o'.interfaces = interfaces.map fun x => (x.1, ageOut now x.2) := by
  simp only [lldpdOvsdbNbrsRun] at h
  cases hr : clearRequests o.status with
  | error f => rw [hr] at h; cases h
  | ok r =>
    rw [hr] at h
    have h : ((o.clear b r).interfaces.mapM (nbrsRunStep (o.clear b r).daemon.gChassis) >>= _) = _ :=
      h
    cases hm : (o.clear b r).interfaces.mapM (nbrsRunStep (o.clear b r).daemon.gChassis) with
    | error f => rw [hm] at h; cases h
    | ok interfaces =>
      rw [hm] at h
      cases h
      exact ⟨r, interfaces, rfl, hm, rfl, interfaces_withInterfaces ..⟩

/-- One turn of the loop of `lldpd_ovsdb_nbrs_change_all`: the first neighbor
is written, or the row is cleared.
mirrors lldpd_ovsdb_if.c:2289-2308 -/
def changeAllStep (gChassis : Heap Chassis) (x : Hardware × Slot) : Hardware × Slot :=
  match x.2.row with
  | none => x
  | some _ =>
    ({ x.1 with hRportChangeOpcode := .noop },
      (x.2.write { lldpNeighborInfo := x.1.hRports.head?.map (lldpNbrUpdate gChassis) }).send)

/-- `lldpd_ovsdb_nbrs_change_all`.
mirrors lldpd_ovsdb_if.c:2275-2311, 2503-2507 -/
def lldpdOvsdbNbrsChangeAll (o : Ovs) : Ovs :=
  { o.withInterfaces (o.interfaces.map (changeAllStep o.daemon.gChassis)) with
    confirmTxn := some none }

/-! ## Committing it -/

def Slot.commit (slot : Slot) : Slot :=
  { slot with ifrow := slot.row, written := none, sent := false }

/-- The commit has failed: what it contained is still to be written. -/
def Slot.abort (slot : Slot) : Slot :=
  { slot with written := none, owed := slot.owed || slot.sent, sent := false }

/-- What becomes of the transaction `txn`.
mirrors lldpd_ovsdb_if.c:2510-2529 -/
def Ovs.commit (o : Ovs) (txn : Option Status) : TxnStatus → Ovs
  | .incomplete => o
  | .success =>
    { o with
      status := txn.getD o.status
      slots := o.slots.map Slot.commit
      confirmTxn := none
      confirmTxnTryAgain := false }
  | status =>
    { o with
      slots := o.slots.map Slot.abort
      confirmTxn := none
      confirmTxnTryAgain := status = .tryAgain }

/-- The transaction that `lldpd_run` has before the commit.
mirrors lldpd_ovsdb_if.c:2492-2508 -/
def Ovs.prepare (b : Build) (now : Int) (o : Ovs) : Except Fault Ovs :=
  match o.confirmTxn with
  | some _ => .ok o
  | none =>
    if o.confirmTxnTryAgain then .ok (lldpdOvsdbNbrsChangeAll o) else lldpdOvsdbNbrsRun b now o

/-- `lldpd_run`, for a daemon that holds the lock.
mirrors lldpd_ovsdb_if.c:2462-2530 -/
def lldpdRun (b : Build) (now : Int) (status : TxnStatus) (o : Ovs) : Except Fault Ovs := do
  let o ← o.prepare b now
  match o.confirmTxn with
  | none => return o
  | some txn => return o.commit txn status

theorem lldpdRun_cases {b : Build} {now : Int} {status : TxnStatus} {o o' : Ovs}
    (h : lldpdRun b now status o = .ok o') :
    ∃ o1, o.prepare b now = .ok o1 ∧ ((o1.confirmTxn = none ∧ o' = o1) ∨
      ∃ txn, o1.confirmTxn = some txn ∧ o' = o1.commit txn status) := by
  unfold lldpdRun at h
  cases hp : o.prepare b now with
  | error f => rw [hp] at h; cases h
  | ok o1 =>
    rw [hp] at h
    simp only [bind, Except.bind] at h
    split at h
    · rename_i htxn
      cases h
      exact ⟨_, rfl, .inl ⟨htxn, rfl⟩⟩
    · rename_i txn htxn
      cases h
      exact ⟨_, rfl, .inr ⟨txn, htxn, rfl⟩⟩

theorem prepare_cases {b : Build} {now : Int} {o o1 : Ovs} (h : o.prepare b now = .ok o1) :
    (o.confirmTxn.isSome = true ∧ o1 = o) ∨
    (o.confirmTxn = none ∧ o.confirmTxnTryAgain = true ∧ o1 = lldpdOvsdbNbrsChangeAll o) ∨
    (o.confirmTxn = none ∧ o.confirmTxnTryAgain = false ∧ lldpdOvsdbNbrsRun b now o = .ok o1) := by
  unfold Ovs.prepare at h
  cases htxn : o.confirmTxn with
  | some txn =>
    rw [htxn] at h
    cases h
    exact .inl ⟨rfl, rfl⟩
  | none =>
    rw [htxn] at h
    cases hagain : o.confirmTxnTryAgain with
    | true =>
      rw [hagain] at h
      cases h
      exact .inr (.inl ⟨rfl, rfl, rfl⟩)
    | false =>
      rw [hagain] at h
      exact .inr (.inr ⟨rfl, rfl, h⟩)

/-! ## The machine -/

inductive OvsEvent where
  /-- An event of the daemon. An interface that is added finds the row
  `ifrow`. -/
  | daemon (ev : Event) (ifrow : Option IfRow)
  /-- The Interface row of the interface number `i` comes or goes. -/
  | ifrow (i : Nat) (ifrow : Option IfRow)
  /-- The status of the System row is changed by others. -/
  | status (status : Status)
  /-- `lldpd_run`, at the time `now`; `status` is what a commit returns. -/
  | run (now : Int) (status : TxnStatus)

def slotsAfter (s : Daemon) (slots : List Slot) (ifrow : Option IfRow) : Event → List Slot
  | .addHardware _ => slots ++ [{ ifrow := ifrow }]
  | .cleanup _ => ((s.gHardware.zip slots).filter fun x => x.1.hFlags ≠ 0).map Prod.snd
  | _ => slots

/-- The event takes an interface away that has neighbors, or that the
database still has to hear of: nobody writes its row again. -/
def drops (o : Ovs) : Event → Bool
  | .cleanup _ => o.interfaces.any fun x => x.1.hFlags = 0 &&
      (x.2.owed || x.2.sent || x.1.hRportChangeOpcode ≠ .noop || !x.1.hRports.isEmpty)
  | _ => false

def Ovs.step (b : Build) (o : Ovs) : OvsEvent → Option Ovs
  | .daemon ev ifrow => do
    let s ← o.daemon.step b ev
    return { o with
      daemon := s
      slots := List.zipWith (fun hardware slot => slot.record hardware) s.gHardware
        (slotsAfter o.daemon o.slots ifrow ev)
      dropped := o.dropped || drops o ev }
  | .ifrow i ifrow => do
    let slot ← o.slots[i]?
    return { o with slots := o.slots.set i { slot with ifrow := ifrow, written := none } }
  | .status status => some { o with status := status }
  | .run now status => (lldpdRun b now status o).toOption

def ovs (b : Build) (cfg : Config) (protocols : List Protocol) : LTS Ovs OvsEvent :=
  .ofFn (fun o => ∃ s status, Daemon.startUp cfg protocols s ∧ o = { daemon := s, status := status })
    (Ovs.step b)

/-! ## Interfaces and their rows -/

theorem zip_zipWith_self {α β γ : Type} (f : α → β → γ) (l : List α) (r : List β) :
    l.zip (List.zipWith f l r) = (l.zip r).map fun x => (x.1, f x.1 x.2) := by
  induction l generalizing r with
  | nil => rfl
  | cons x l ih =>
    cases r with
    | nil => rfl
    | cons y r => simp [ih]

section Filter
variable {α β γ : Type} (p : α → Bool) (f : α → γ) (l : List α) (r : List β)

theorem filter_zip_fst (hlen : r.length = l.length) :
    ((l.zip r).filter fun x => p x.1).map Prod.fst = l.filter p := by
  rw [← Function.comp_def p Prod.fst, ← List.filter_map, List.map_fst_zip (Nat.le_of_eq hlen.symm)]

/-- What is left of a list, and of another one beside it, under a filter on the
first. -/
theorem zip_filter_map (hlen : r.length = l.length) :
    ((l.filter p).map f).zip (((l.zip r).filter fun x => p x.1).map Prod.snd) =
      ((l.zip r).filter fun x => p x.1).map fun x => (f x.1, x.2) := by
  rw [← filter_zip_fst p l r hlen, List.map_map]
  exact List.zip_map' ..

end Filter

section
variable {b : Build} {s s' : Daemon} {ev : Event} {slots : List Slot} {ifrow : Option IfRow}

/-- An event that neither adds nor removes interfaces leaves their number. -/
theorem step_length (hstep : s.step b ev = some s') (hadd : ∀ i, ev ≠ .addHardware i)
    (hcleanup : ∀ now, ev ≠ .cleanup now) : s'.gHardware.length = s.gHardware.length := by
  cases Daemon.stepped hstep with
  | allocHardware | hardwareCleanup => rfl
  | addHardware => exact absurd rfl (hadd _)
  | scan | remoteCleanup => exact List.length_set
  | @decode i frame now stack hw r hget hdec =>
    obtain ⟨_, _, _, hr⟩ := lldpdDecode_frame hdec
    rw [List.length_set, hr]
  | cleanup => exact absurd rfl (hcleanup _)

inductive Pair.Step (b : Build) (s s' : Daemon) (slots : List Slot) (ifrow : Option IfRow)
    (ev : Event) (hw' : Hardware) (slot : Slot) : Prop where
  | old {i hw} (hget : s.gHardware[i]? = some hw) (hslot : slots[i]? = some slot)
      (hst : Hardware.Step b s s' i hw ev hw') : Step b s s' slots ifrow ev hw' slot
  | new {i} (hev : ev = .addHardware i) (hget : s.detached[i]? = some hw')
      (hslot : slot = { ifrow := ifrow }) : Step b s s' slots ifrow ev hw' slot

/-- There is a row for every interface behind an event of the daemon, and each
pair comes from a pair, or the interface is new. -/
theorem aligned_step (hstep : s.step b ev = some s') (hlen : slots.length = s.gHardware.length) :
    (slotsAfter s slots ifrow ev).length = s'.gHardware.length ∧
      ∀ x ∈ s'.gHardware.zip (slotsAfter s slots ifrow ev),
        Pair.Step b s s' slots ifrow ev x.1 x.2 := by
  -- an interface that stays where it is
  have hstays : ∀ (k : Nat) hw' slot, s.follow k ev = some k → k < s.gHardware.length →
      s'.gHardware[k]? = some hw' → slots[k]? = some slot →
      Pair.Step b s s' slots ifrow ev hw' slot := by
    intro k hw' slot hfollow hk hget' hslot
    have hget := List.getElem?_eq_getElem hk
    obtain ⟨hw1, hget1, hst⟩ := @Watch.step_cases b ⟨s, k⟩ ⟨s', k⟩ ev _ hget hstep hfollow
    cases hget1.symm.trans hget'
    exact .old hget hslot hst
  by_cases hadd : ∃ i, ev = .addHardware i
  · obtain ⟨i, rfl⟩ := hadd
    obtain ⟨hw, hget, hst⟩ := Option.bind_eq_some_iff.1 hstep
    cases hst
    refine ⟨by simp [slotsAfter, hlen], fun x hx => ?_⟩
    have hzip : (s.gHardware ++ [hw]).zip (slots ++ [{ ifrow := ifrow }]) =
        s.gHardware.zip slots ++ [(hw, { ifrow := ifrow })] := List.zip_append hlen.symm
    have hx : x ∈ (s.gHardware ++ [hw]).zip (slots ++ [{ ifrow := ifrow }]) := hx
    rw [hzip, List.mem_append] at hx
    rcases hx with hx | hx
    · obtain ⟨k, hk⟩ := List.mem_iff_getElem?.1 hx
      obtain ⟨hget', hslot⟩ := List.getElem?_zip_eq_some.1 hk
      have hlt := (List.getElem?_eq_some_iff.1 hget').1
      exact hstays k _ _ rfl hlt ((List.getElem?_append_left hlt).trans hget') hslot
    · rw [List.mem_singleton.1 hx]
      exact .new rfl hget rfl
  by_cases hcleanup : ∃ now, ev = .cleanup now
  · obtain ⟨now, rfl⟩ := hcleanup
    cases hstep
    have hzip := zip_filter_map (fun hw : Hardware => decide (hw.hFlags ≠ 0))
      (Hardware.forget b false (goes true false now s.gChassis)) s.gHardware slots hlen
    constructor
    · have hfst := filter_zip_fst (fun hw : Hardware => decide (hw.hFlags ≠ 0)) _ _ hlen
      rw [cleanup_gHardware, ← hfst, slotsAfter, List.length_map, List.length_map, List.length_map]
    · intro x hx
      rw [cleanup_gHardware, slotsAfter, hzip] at hx
      obtain ⟨⟨hw, slot⟩, hmem, rfl⟩ := List.mem_map.1 hx
      obtain ⟨hmem, hkept⟩ := List.mem_filter.1 hmem
      obtain ⟨k, hk⟩ := List.mem_iff_getElem?.1 hmem
      obtain ⟨hget, hslot⟩ := List.getElem?_zip_eq_some.1 hk
      exact .old hget hslot (.cleanup (of_decide_eq_true hkept))
  have hadd : ∀ i, ev ≠ .addHardware i := fun i h => hadd ⟨i, h⟩
  have hcleanup : ∀ now, ev ≠ .cleanup now := fun now h => hcleanup ⟨now, h⟩
  have hslots : slotsAfter s slots ifrow ev = slots := by
    cases ev with
    | addHardware i => exact absurd rfl (hadd i)
    | cleanup now => exact absurd rfl (hcleanup now)
    | _ => rfl
  have hfollow : ∀ k, s.follow k ev = some k := by
    intro k
    cases ev with
    | cleanup now => exact absurd rfl (hcleanup now)
    | _ => rfl
  have hlength := step_length hstep hadd hcleanup
  rw [hslots]
  refine ⟨hlen.trans hlength.symm, fun x hx => ?_⟩
  obtain ⟨k, hk⟩ := List.mem_iff_getElem?.1 hx
  obtain ⟨hget', hslot⟩ := List.getElem?_zip_eq_some.1 hk
  have hlt := (List.getElem?_eq_some_iff.1 hget').1
  exact hstays k _ _ (hfollow k) (hlength ▸ hlt) hget' hslot

end

/-! ### Where the interfaces of a state come from -/

section
variable {b : Build} {o o' : Ovs} {ev : Event} {ifrow : Option IfRow}

theorem mem_interfaces {i : Nat} {hw : Hardware} {slot : Slot}
    (hget : o.daemon.gHardware[i]? = some hw) (hslot : o.slots[i]? = some slot) :
    (hw, slot) ∈ o.interfaces :=
  List.mem_iff_getElem?.2 ⟨i, List.getElem?_zip_eq_some.2 ⟨hget, hslot⟩⟩

theorem daemon_interfaces (hst : o.step b (.daemon ev ifrow) = some o')
    (hlen : o.slots.length = o.daemon.gHardware.length) :
    o.daemon.step b ev = some o'.daemon ∧ o'.slots.length = o'.daemon.gHardware.length ∧
      ∀ x ∈ o'.interfaces, ∃ slot, x.2 = slot.record x.1 ∧
        Pair.Step b o.daemon o'.daemon o.slots ifrow ev x.1 slot := by
  obtain ⟨s, hstep, hst⟩ := Option.bind_eq_some_iff.1 hst
  cases hst
  obtain ⟨hlen, hpairs⟩ := @aligned_step b o.daemon s ev o.slots ifrow hstep hlen
  refine ⟨hstep, ?_, fun x hx => ?_⟩
  · rw [List.length_zipWith, hlen, Nat.min_self]
  · have hx : x ∈ s.gHardware.zip (List.zipWith (fun hw slot => Slot.record slot hw) s.gHardware
        (slotsAfter o.daemon o.slots ifrow ev)) := hx
    rw [zip_zipWith_self] at hx
    obtain ⟨y, hy, rfl⟩ := List.mem_map.1 hx
    exact ⟨y.2, rfl, hpairs y hy⟩

/-- The transaction waits while the daemon goes on. -/
theorem daemon_txn (hst : o.step b (.daemon ev ifrow) = some o') :
    o'.confirmTxn = o.confirmTxn ∧ o'.confirmTxnTryAgain = o.confirmTxnTryAgain ∧
      o'.dropped = (o.dropped || drops o ev) := by
  obtain ⟨s, -, hst⟩ := Option.bind_eq_some_iff.1 hst
  cases hst
  exact ⟨rfl, rfl, rfl⟩

/-- An interface keeps its slot, or it is the one whose row comes or goes. -/
theorem ifrow_interfaces {i : Nat} (hst : o.step b (.ifrow i ifrow) = some o') :
    ∀ x ∈ o'.interfaces, x ∈ o.interfaces ∨
      ∃ slot, o.slots[i]? = some slot ∧ o.daemon.gHardware[i]? = some x.1 ∧
        x.2 = { slot with ifrow := ifrow, written := none } := by
  obtain ⟨slot, hslot, hst⟩ := Option.bind_eq_some_iff.1 hst
  cases hst
  intro x hx
  obtain ⟨k, hk⟩ := List.mem_iff_getElem?.1 hx
  obtain ⟨hget, hslot'⟩ := List.getElem?_zip_eq_some.1 hk
  by_cases hik : i = k
  · subst hik
    rw [List.getElem?_set_self (List.getElem?_eq_some_iff.1 hslot).1] at hslot'
    exact .inr ⟨slot, hslot, hget, (Option.some.inj hslot').symm⟩
  · rw [List.getElem?_set_ne hik] at hslot'
    exact .inl (mem_interfaces hget hslot')

/-- The same interfaces, with another record of each row. -/
theorem map_interfaces {f : Slot → Slot} {x : Hardware × Slot}
    (hx : x ∈ o.daemon.gHardware.zip (o.slots.map f)) :
    ∃ y ∈ o.interfaces, x = (y.1, f y.2) := by
  rw [List.zip_map_right] at hx
  obtain ⟨y, hy, rfl⟩ := List.mem_map.1 hx
  exact ⟨y, hy, rfl⟩

/-- A step of `lldpd_run` that does not end in a fault. -/
theorem run_of_step {now : Int} {status : TxnStatus} (hst : o.step b (.run now status) = some o') :
    lldpdRun b now status o = .ok o' :=
  eq_ok_of_toOption hst

end

end Lldpd.Ovsdb
