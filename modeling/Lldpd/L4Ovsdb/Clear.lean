import Mathlib.Data.List.AList
import Lldpd.Core.Cursor
import Lldpd.Core.LTS
import Lldpd.Core.Text

/-!
# Clear requests

`lldp clear neighbors` and `lldp clear counters` count a number up in the
status of the System row, and the daemon compares it with the number of the
last request it has performed. Both write the whole map from the copy they
have read.

The daemon answers a request to clear the table with a map of its own two
keys: every other key is lost, and with them a request to clear the counters
(`counters_request_lost`). `clear_requests_apart` says when the requests leave
each other alone: exactly when nothing else is in the map at that time and the
numbers fit their buffers, as far as one run of the daemon goes; and in every
run in which, besides, nobody commits between the reading and the writing of
somebody else.
-/
namespace Lldpd.Ovsdb
open Core

inductive StatusKey where
  | lldpNumClearTableRequested
  | lldpLastClearTablePerformed
  | lldpNumClearCountersRequested
  | lldpLastClearCountersPerformed
  | other (name : String)
  deriving DecidableEq, Repr

abbrev Status := AList fun _ : StatusKey => Text

inductive ClearKind where
  | table | counters
  deriving DecidableEq, Repr

def ClearKind.requested : ClearKind → StatusKey
  | .table => .lldpNumClearTableRequested
  | .counters => .lldpNumClearCountersRequested

def ClearKind.performed : ClearKind → StatusKey
  | .table => .lldpLastClearTablePerformed
  | .counters => .lldpLastClearCountersPerformed

def ClearKind.owns (kind : ClearKind) (key : StatusKey) : Prop :=
  key = kind.requested ∨ key = kind.performed

instance (kind : ClearKind) (key : StatusKey) : Decidable (kind.owns key) :=
  inferInstanceAs (Decidable (_ ∨ _))

def smapGetInt (status : Status) (key : StatusKey) (def_ : Int) : Int :=
  match status.lookup key with
  | some t => atoi t
  | none => def_

def sprintf (size : Nat) (t : Text) : Except Fault Text :=
  if t.length < size then .ok t else .error .overflow

def ClearKind.pending (kind : ClearKind) (status : Status) : Bool :=
  smapGetInt status kind.performed 0 < smapGetInt status kind.requested 0

/-! ## The daemon -/

/-- `lldpd_clear_nbr_table`, what it does with the status: the map that it
writes, if there is something to clear.
mirrors lldpd_ovsdb_if.c:2055-2109 -/
def lldpdClearNbrTable (status : Status) : Except Fault (Option Status) := do
  let clearTableRequested := smapGetInt status .lldpNumClearTableRequested 0
  let clearTablePerformed := smapGetInt status .lldpLastClearTablePerformed 0
  let clearTableStr ← sprintf 10 (printInt clearTableRequested)
  if clearTablePerformed < clearTableRequested then
    let smapStatus : Status := ∅
    let smapStatus := smapStatus.insert .lldpLastClearTablePerformed clearTableStr
    return some (smapStatus.insert .lldpNumClearTableRequested clearTableStr)
  else return none

/-- `lldpd_clear_counters`, what it does with the status.
mirrors lldpd_ovsdb_if.c:1993-2051 -/
def lldpdClearCounters (status : Status) : Except Fault (Option Status) := do
  let clearCounterRequested := smapGetInt status .lldpNumClearCountersRequested 0
  let lastClearCounter := smapGetInt status .lldpLastClearCountersPerformed 0
  let clearCounterStr ← sprintf 10 (printInt clearCounterRequested)
  if lastClearCounter < clearCounterRequested then
    let smapStatus := status.insert .lldpNumClearCountersRequested clearCounterStr
    return some (smapStatus.insert .lldpLastClearCountersPerformed clearCounterStr)
  else return none

structure Clears where
  table : Bool
  counters : Bool
  status : Status
  deriving DecidableEq

def Clears.performs (r : Clears) : ClearKind → Bool
  | .table => r.table
  | .counters => r.counters

/-- The two requests at the start of `lldpd_ovsdb_nbrs_run`. The second one
reads what the first one has written.
mirrors lldpd_ovsdb_if.c:2137-2148 -/
def clearRequests (status : Status) : Except Fault Clears := do
  let table ← lldpdClearNbrTable status
  let counters ← lldpdClearCounters (table.getD status)
  return ⟨table.isSome, counters.isSome, counters.getD (table.getD status)⟩

/-! ## The CLI -/

/-- A request is the next number. A number that is too large for an `int`
does not fit the buffer either. -/
def cliLldpClear (kind : ClearKind) (status : Status) : Except Fault Status := do
  let clear := smapGetInt status kind.requested 0 + 1
  let buffer ← sprintf 10 (printInt clear)
  return status.insert kind.requested buffer

/-- mirrors lldp_vty.c:371-418 -/
def cliLldpClearCounters : Status → Except Fault Status := cliLldpClear .counters

/-- mirrors lldp_vty.c:420-471 -/
def cliLldpClearNeighbors : Status → Except Fault Status := cliLldpClear .table

/-! ## One run on one map -/

/-- The daemon performs what is pending, leaves every other key alone and
answers each request with its number. -/
structure Handled (status : Status) (r : Clears) : Prop where
  performs : ∀ kind : ClearKind, r.performs kind = kind.pending status
  others : ∀ key, (∀ kind : ClearKind, kind.pending status = true → ¬ kind.owns key) →
    r.status.lookup key = status.lookup key
  answers : ∀ kind : ClearKind, kind.pending status = true →
    smapGetInt r.status kind.performed 0 = smapGetInt status kind.requested 0 ∧
      smapGetInt r.status kind.requested 0 = smapGetInt status kind.requested 0

/-- The CLI has made a request and touched nothing else. -/
structure Requested (kind : ClearKind) (status status' : Status) : Prop where
  counts : smapGetInt status' kind.requested 0 = smapGetInt status kind.requested 0 + 1
  others : ∀ key, key ≠ kind.requested → status'.lookup key = status.lookup key

/-- The number fits the buffers of the daemon and of the CLI. -/
def Fits (n : Int) : Prop := -100000000 < n ∧ n < 1000000000

instance (n : Int) : Decidable (Fits n) := inferInstanceAs (Decidable (_ ∧ _))

/-- A request to clear the table has the map for itself, and the numbers fit
their buffers. -/
structure Clearable (status : Status) : Prop where
  fits : ∀ kind : ClearKind, Fits (smapGetInt status kind.requested 0)
  alone : ClearKind.table.pending status = true →
    ∀ key, ¬ ClearKind.table.owns key → status.lookup key = none

section
variable {status status' : Status} {kind : ClearKind} {key : StatusKey} {n : Int}

theorem sprintf_fits (h : Fits n) : sprintf 10 (printInt n) = .ok (printInt n) :=
  if_pos (length_printInt.2 h)

theorem fits_of_sprintf {t : Text} (h : sprintf 10 (printInt n) = .ok t) : Fits n := by
  unfold sprintf at h
  split at h
  · rename_i hlt
    exact length_printInt.1 hlt
  · cases h

theorem atoi_fits (h : Fits n) : atoi (printInt n) = n :=
  atoi_printInt ⟨by unfold Fits at h; omega, by unfold Fits at h; omega⟩

@[simp] theorem smapGetInt_insert {t : Text} : smapGetInt (status.insert key t) key 0 = atoi t := by
  rw [smapGetInt, AList.lookup_insert]

theorem smapGetInt_congr (h : status'.lookup key = status.lookup key) :
    smapGetInt status' key 0 = smapGetInt status key 0 := by
  unfold smapGetInt
  rw [h]

theorem smapGetInt_none (h : status.lookup key = none) : smapGetInt status key 0 = 0 := by
  unfold smapGetInt
  rw [h]

def tableAnswer (n : Int) : Status :=
  ((∅ : Status).insert .lldpLastClearTablePerformed (printInt n)).insert
    .lldpNumClearTableRequested (printInt n)

def countersAnswer (status : Status) (n : Int) : Status :=
  (status.insert .lldpNumClearCountersRequested (printInt n)).insert
    .lldpLastClearCountersPerformed (printInt n)

/-- `lldpd_clear_nbr_table` and `lldpd_clear_counters`. -/
def ClearKind.clear : ClearKind → Status → Except Fault (Option Status)
  | .table => lldpdClearNbrTable
  | .counters => lldpdClearCounters

def ClearKind.answer (kind : ClearKind) (status : Status) : Status :=
  match kind with
  | .table => tableAnswer (smapGetInt status kind.requested 0)
  | .counters => countersAnswer status (smapGetInt status kind.requested 0)

section
variable (hfits : Fits (smapGetInt status kind.requested 0))
include hfits

theorem clear_eq : kind.clear status =
    if smapGetInt status kind.performed 0 < smapGetInt status kind.requested 0 then
      .ok (some (kind.answer status)) else .ok none := by
  cases kind with
  | table =>
    simp only [ClearKind.clear, lldpdClearNbrTable]
    exact congrArg (· >>= _) (sprintf_fits hfits)
  | counters =>
    simp only [ClearKind.clear, lldpdClearCounters]
    exact congrArg (· >>= _) (sprintf_fits hfits)

theorem clear_pending (h : kind.pending status = true) :
    kind.clear status = .ok (some (kind.answer status)) :=
  (clear_eq hfits).trans (if_pos (of_decide_eq_true h))

theorem clear_idle (h : kind.pending status = false) : kind.clear status = .ok none :=
  (clear_eq hfits).trans (if_neg (of_decide_eq_false h))

end

theorem clear_fits {r : Option Status} (h : kind.clear status = .ok r) :
    Fits (smapGetInt status kind.requested 0) := by
  cases kind <;>
  · obtain ⟨t, ht, -⟩ := bind_eq_ok.1 h
    exact fits_of_sprintf ht

theorem lookup_tableAnswer (h : ¬ ClearKind.table.owns key) :
    (tableAnswer n).lookup key = none := by
  have hreq : key ≠ .lldpNumClearTableRequested := fun he => h (.inl he)
  have hperf : key ≠ .lldpLastClearTablePerformed := fun he => h (.inr he)
  rw [tableAnswer, AList.lookup_insert_ne hreq, AList.lookup_insert_ne hperf, AList.lookup_empty]

theorem lookup_countersAnswer (h : ¬ ClearKind.counters.owns key) :
    (countersAnswer status n).lookup key = status.lookup key := by
  have hreq : key ≠ .lldpNumClearCountersRequested := fun he => h (.inl he)
  have hperf : key ≠ .lldpLastClearCountersPerformed := fun he => h (.inr he)
  rw [countersAnswer, AList.lookup_insert_ne hperf, AList.lookup_insert_ne hreq]

theorem tableAnswer_answers (h : Fits n) :
    smapGetInt (tableAnswer n) ClearKind.table.performed 0 = n ∧
      smapGetInt (tableAnswer n) ClearKind.table.requested 0 = n := by
  refine ⟨?_, smapGetInt_insert.trans (atoi_fits h)⟩
  rw [tableAnswer, smapGetInt_congr (AList.lookup_insert_ne (by decide))]
  exact smapGetInt_insert.trans (atoi_fits h)

theorem countersAnswer_answers (h : Fits n) :
    smapGetInt (countersAnswer status n) ClearKind.counters.performed 0 = n ∧
      smapGetInt (countersAnswer status n) ClearKind.counters.requested 0 = n := by
  refine ⟨smapGetInt_insert.trans (atoi_fits h), ?_⟩
  rw [countersAnswer, smapGetInt_congr (AList.lookup_insert_ne (by decide))]
  exact smapGetInt_insert.trans (atoi_fits h)

theorem pending_of_lookup_none (h : ∀ key, kind.owns key → status.lookup key = none) :
    kind.pending status = false := by
  rw [ClearKind.pending, smapGetInt_none (h _ (.inr rfl)), smapGetInt_none (h _ (.inl rfl))]
  decide

theorem not_owns_counters (h : ClearKind.counters.owns key) : ¬ ClearKind.table.owns key := by
  rcases h with rfl | rfl <;> decide

/-- The counters have to wait when the table is cleared: their request is
not in the map any more. -/
theorem clearRequests_table (hfits : Fits (smapGetInt status ClearKind.table.requested 0))
    (h : ClearKind.table.pending status = true) : clearRequests status =
      .ok ⟨true, false, tableAnswer (smapGetInt status ClearKind.table.requested 0)⟩ := by
  have hnone : ∀ key, ClearKind.counters.owns key →
      (tableAnswer (smapGetInt status ClearKind.table.requested 0)).lookup key = none :=
    fun key hkey => lookup_tableAnswer (not_owns_counters hkey)
  have hzero : Fits (smapGetInt (tableAnswer (smapGetInt status ClearKind.table.requested 0))
      ClearKind.counters.requested 0) := by
    rw [smapGetInt_none (hnone _ (.inl rfl))]
    decide
  show (ClearKind.table.clear status >>= _) = _
  rw [clear_pending hfits h]
  show (ClearKind.counters.clear (tableAnswer _) >>= _) = _
  rw [clear_idle hzero (pending_of_lookup_none hnone)]
  rfl

theorem clearRequests_idle (htable : Fits (smapGetInt status ClearKind.table.requested 0))
    (hcounters : Fits (smapGetInt status ClearKind.counters.requested 0))
    (h : ClearKind.table.pending status = false) : clearRequests status =
      .ok ⟨false, ClearKind.counters.pending status,
        if ClearKind.counters.pending status = true then
          countersAnswer status (smapGetInt status ClearKind.counters.requested 0)
        else status⟩ := by
  show (ClearKind.table.clear status >>= _) = _
  rw [clear_idle htable h]
  show (ClearKind.counters.clear status >>= _) = _
  cases hp : ClearKind.counters.pending status with
  | true => rw [clear_pending hcounters hp]; rfl
  | false => rw [clear_idle hcounters hp]; rfl

theorem clearRequests_fits {r : Clears} (h : clearRequests status = .ok r) :
    Fits (smapGetInt status ClearKind.table.requested 0) ∧
      (ClearKind.table.pending status = false →
        Fits (smapGetInt status ClearKind.counters.requested 0)) := by
  obtain ⟨table, ht, h⟩ := bind_eq_ok.1 h
  obtain ⟨counters, hc, -⟩ := bind_eq_ok.1 h
  have hfits := @clear_fits status .table _ ht
  refine ⟨hfits, fun hidle => ?_⟩
  cases ht.symm.trans (clear_idle hfits hidle)
  exact @clear_fits status .counters _ hc

theorem handled_of_clearable (h : Clearable status) :
    ∃ r, clearRequests status = .ok r ∧ Handled status r := by
  cases hp : ClearKind.table.pending status with
  | true =>
    have halone := h.alone hp
    have hidle : ClearKind.counters.pending status = false :=
      pending_of_lookup_none fun key hkey => halone key (not_owns_counters hkey)
    refine ⟨_, clearRequests_table (h.fits _) hp, ?_, ?_, ?_⟩
    · intro kind
      cases kind with
      | table => exact hp.symm
      | counters => exact hidle.symm
    · intro key hkey
      rw [halone key (hkey _ hp)]
      exact lookup_tableAnswer (hkey _ hp)
    · intro kind hkind
      cases kind with
      | table => exact tableAnswer_answers (h.fits .table)
      | counters => rw [hidle] at hkind; cases hkind
  | false =>
    refine ⟨_, clearRequests_idle (h.fits _) (h.fits _) hp, ?_, ?_, ?_⟩
    · intro kind
      cases kind with
      | table => exact hp.symm
      | counters => rfl
    · intro key hkey
      split
      · rename_i hc
        exact lookup_countersAnswer (hkey _ hc)
      · rfl
    · intro kind hkind
      cases kind with
      | table => rw [hp] at hkind; cases hkind
      | counters =>
        rw [if_pos hkind]
        exact countersAnswer_answers (h.fits .counters)

theorem clearable_of_handled {r : Clears} (hr : clearRequests status = .ok r)
    (h : Handled status r) : Clearable status := by
  obtain ⟨hfits, hcounters⟩ := clearRequests_fits hr
  cases hp : ClearKind.table.pending status with
  | false =>
    refine ⟨fun kind => ?_, fun ht => ?_⟩
    · cases kind with
      | table => exact hfits
      | counters => exact hcounters hp
    · rw [hp] at ht
      cases ht
  | true =>
    -- the counters were not cleared, so nothing was to be cleared there
    rw [clearRequests_table hfits hp] at hr
    cases hr
    have hidle : false = ClearKind.counters.pending status := h.performs .counters
    have halone : ∀ key, ¬ ClearKind.table.owns key → status.lookup key = none := by
      intro key hkey
      rw [← h.others key, lookup_tableAnswer hkey]
      intro kind hkind
      cases kind with
      | table => exact hkey
      | counters => rw [← hidle] at hkind; cases hkind
    refine ⟨fun kind => ?_, fun _ => halone⟩
    cases kind with
    | table => exact hfits
    | counters =>
      rw [smapGetInt_none (halone _ (not_owns_counters (.inl rfl)))]
      decide

theorem handled_iff (status : Status) :
    (∃ r, clearRequests status = .ok r ∧ Handled status r) ↔ Clearable status :=
  ⟨fun ⟨_, hr, h⟩ => clearable_of_handled hr h, handled_of_clearable⟩

theorem cliLldpClear_ok (h : cliLldpClear kind status = .ok status') :
    Fits (smapGetInt status kind.requested 0 + 1) ∧
      status' = status.insert kind.requested (printInt (smapGetInt status kind.requested 0 + 1)) := by
  simp only [cliLldpClear] at h
  cases hs : sprintf 10 (printInt (smapGetInt status kind.requested 0 + 1)) with
  | error f => rw [hs] at h; cases h
  | ok t =>
    have hfits := fits_of_sprintf hs
    rw [sprintf_fits hfits] at h
    cases h
    exact ⟨hfits, rfl⟩

theorem requested_of_ok (h : cliLldpClear kind status = .ok status') :
    Requested kind status status' := by
  obtain ⟨hfits, rfl⟩ := cliLldpClear_ok h
  exact ⟨smapGetInt_insert.trans (atoi_fits hfits), fun key hkey => AList.lookup_insert_ne hkey⟩

theorem requested_iff (kind : ClearKind) (status : Status) :
    (∃ status', cliLldpClear kind status = .ok status' ∧ Requested kind status status') ↔
      Fits (smapGetInt status kind.requested 0 + 1) := by
  constructor
  · rintro ⟨status', h, -⟩
    exact (cliLldpClear_ok h).1
  · intro hfits
    have hok : cliLldpClear kind status =
        .ok (status.insert kind.requested (printInt (smapGetInt status kind.requested 0 + 1))) := by
      simp only [cliLldpClear, sprintf_fits hfits]
      rfl
    exact ⟨_, hok, requested_of_ok hok⟩

end

/-! ## The CLI and the daemon side by side -/

structure CliTxn where
  read : Status
  kind : ClearKind
  write : Status

structure DaemonTxn where
  read : Status
  clears : Clears

/-- The status in the database, and the transactions under way. -/
structure Clearing where
  status : Status
  cli : Option CliTxn := none
  daemon : Option DaemonTxn := none

inductive ClearEvent where
  /-- `lldp clear neighbors`, `lldp clear counters` -/
  | cli (kind : ClearKind)
  /-- `cli_do_config_finish` -/
  | cliFinish (success : Bool)
  /-- `lldpd_ovsdb_nbrs_run` -/
  | run
  /-- `ovsdb_idl_txn_commit` -/
  | commit (success : Bool)
  /-- Somebody else changes a key of their own. -/
  | write (name : String) (value : Option Text)

def Clearing.step (s : Clearing) : ClearEvent → Option Clearing
  | .cli kind =>
    match s.cli, cliLldpClear kind s.status with
    | none, .ok status => some { s with cli := some ⟨s.status, kind, status⟩ }
    | _, _ => none
  | .cliFinish success => do
    let txn ← s.cli
    return { s with cli := none, status := if success then txn.write else s.status }
  | .run =>
    match s.daemon, clearRequests s.status with
    | none, .ok r =>
      some { s with daemon := if r.table || r.counters then some ⟨s.status, r⟩ else none }
    | _, _ => none
  | .commit success => do
    let txn ← s.daemon
    return { s with daemon := none, status := if success then txn.clears.status else s.status }
  | .write name value =>
    some { s with status := match value with
      | some t => s.status.insert (.other name) t
      | none => s.status.erase (.other name) }

def clearing : LTS Clearing ClearEvent :=
  .ofFn (fun s => s.cli = none ∧ s.daemon = none) Clearing.step

/-- The numbers fit, a request to clear the table is alone in the map, and
nobody has committed since the map was read. -/
def Apart (s : Clearing) : ClearEvent → Prop
  | .cliFinish true => ∀ txn, s.cli = some txn → txn.read = s.status
  | .run => Clearable s.status
  | .commit true => ∀ txn, s.daemon = some txn → txn.read = s.status
  | _ => True

/-- A commit of the CLI is a request, a commit of the daemon performs what was
pending, and nothing else changes but what somebody else writes. -/
def Clean (s s' : Clearing) : ClearEvent → Prop
  | .cliFinish true => ∃ txn, s.cli = some txn ∧ Requested txn.kind s.status s'.status
  | .commit true => ∃ txn, s.daemon = some txn ∧ s'.status = txn.clears.status ∧
      Handled s.status txn.clears
  | .write name _ => ∀ key, key ≠ .other name → s'.status.lookup key = s.status.lookup key
  | _ => s'.status = s.status

/-- The transactions under way are right for what they have read. -/
structure Clearing.Sound (s : Clearing) : Prop where
  cli : ∀ txn, s.cli = some txn → Requested txn.kind txn.read txn.write
  daemon : ∀ txn, s.daemon = some txn → Handled txn.read txn.clears

theorem sound_reachable {s : Clearing} (hs : (clearing.guard Apart).Reachable s) : s.Sound := by
  induction hs with
  | init hi =>
    refine ⟨fun txn htxn => ?_, fun txn htxn => ?_⟩
    · rw [hi.1] at htxn
      cases htxn
    · rw [hi.2] at htxn
      cases htxn
  | @step s s' ev hs hst ih =>
    obtain ⟨hapart, hst⟩ := hst
    have hst : s.step ev = some s' := hst
    cases ev with
    | cli kind =>
      simp only [Clearing.step] at hst
      split at hst
      · rename_i hok
        cases hst
        refine ⟨fun txn htxn => ?_, ih.daemon⟩
        cases htxn
        exact requested_of_ok hok
      · cases hst
    | cliFinish success =>
      obtain ⟨txn, htxn, hst⟩ := Option.bind_eq_some_iff.1 hst
      cases hst
      exact ⟨fun _ h => (by cases h), ih.daemon⟩
    | run =>
      simp only [Clearing.step] at hst
      split at hst
      · rename_i r _ hok
        cases hst
        refine ⟨ih.cli, fun txn htxn => ?_⟩
        split at htxn
        · cases htxn
          obtain ⟨r', hr', hhandled⟩ := handled_of_clearable hapart
          cases hok.symm.trans hr'
          exact hhandled
        · cases htxn
      · cases hst
    | commit success =>
      obtain ⟨txn, htxn, hst⟩ := Option.bind_eq_some_iff.1 hst
      cases hst
      exact ⟨ih.cli, fun _ h => (by cases h)⟩
    | write name value =>
      cases hst
      exact ⟨ih.cli, ih.daemon⟩

theorem clean_step {s s' : Clearing} {ev : ClearEvent} (hsound : s.Sound) (hapart : Apart s ev)
    (hst : s.step ev = some s') : Clean s s' ev := by
  cases ev with
  | cli kind =>
    simp only [Clearing.step] at hst
    split at hst
    · cases hst
      rfl
    · cases hst
  | cliFinish success =>
    obtain ⟨txn, htxn, hst⟩ := Option.bind_eq_some_iff.1 hst
    cases hst
    cases success with
    | false => rfl
    | true =>
      refine ⟨txn, htxn, ?_⟩
      rw [← hapart txn htxn]
      exact hsound.cli txn htxn
  | run =>
    simp only [Clearing.step] at hst
    split at hst
    · cases hst
      rfl
    · cases hst
  | commit success =>
    obtain ⟨txn, htxn, hst⟩ := Option.bind_eq_some_iff.1 hst
    cases hst
    cases success with
    | false => rfl
    | true =>
      refine ⟨txn, htxn, rfl, ?_⟩
      rw [← hapart txn htxn]
      exact hsound.daemon txn htxn
  | write name value =>
    cases hst
    intro key hkey
    cases value with
    | none => exact AList.lookup_erase_ne hkey
    | some t => exact AList.lookup_insert_ne hkey

/-- One run of the daemon, and one command of the CLI, do what they should
exactly when the map is `Clearable` and the next number fits. In every run of
both in which this is so, and in which nobody commits between the reading and
the writing of somebody else, a commit changes the keys of the requests that it
performs, or makes, and no others. -/
theorem clear_requests_apart (status : Status) (kind : ClearKind) :
    ((∃ r, clearRequests status = .ok r ∧ Handled status r) ↔ Clearable status) ∧
    ((∃ status', cliLldpClear kind status = .ok status' ∧ Requested kind status status') ↔
      Fits (smapGetInt status kind.requested 0 + 1)) ∧
    ∀ s, (clearing.guard Apart).Reachable s → ∀ ev s', (clearing.guard Apart).step s ev s' →
      Clean s s' ev :=
  ⟨handled_iff status, requested_iff kind status, fun _ hs _ _ hst =>
    clean_step (sound_reachable hs) hst.1 hst.2⟩

/-- Both requests are pending, and somebody has a key of their own. -/
def bothRequested : Status :=
  AList.insert .lldpNumClearTableRequested ['1']
    (AList.insert .lldpNumClearCountersRequested ['1'] (AList.singleton (.other "boot_time") ['9']))

/-- The daemon clears the table. The request to clear the counters is not
performed, and neither it nor the other key is in the map that is committed. -/
theorem counters_request_lost : ∃ r, clearRequests bothRequested = .ok r ∧
    ClearKind.counters.pending bothRequested = true ∧ r.table = true ∧ r.counters = false ∧
      r.status.lookup .lldpNumClearCountersRequested = none ∧
      bothRequested.lookup (.other "boot_time") = some ['9'] ∧
      r.status.lookup (.other "boot_time") = none :=
  ⟨_, clearRequests_table (by decide) (by decide), by decide, rfl, rfl,
    lookup_tableAnswer (by decide), by decide, lookup_tableAnswer (by decide)⟩

def countersRequested : Status :=
  AList.insert .lldpNumClearCountersRequested ['1'] (AList.singleton (.other "boot_time") ['9'])

theorem countersRequested_clearable : Clearable countersRequested := by
  refine ⟨fun kind => ?_, fun h => ?_⟩
  · cases kind <;> decide
  · cases h

theorem clear_requests_apart_counters : ∃ s s', (clearing.guard Apart).Reachable s ∧
    (clearing.guard Apart).step s (.commit true) s' ∧ Clean s s' (.commit true) ∧
      s.status = countersRequested ∧ ClearKind.counters.pending s'.status = false ∧
      s'.status.lookup (.other "boot_time") = some ['9'] := by
  have hclearable := countersRequested_clearable
  have htable : ClearKind.table.pending countersRequested = false := by decide
  have hrun := clearRequests_idle (hclearable.fits _) (hclearable.fits _) htable
  generalize hanswer : countersAnswer countersRequested _ = answer at hrun
  have hinit : clearing.init ⟨countersRequested, none, none⟩ := ⟨rfl, rfl⟩
  have hstep : (clearing.guard Apart).step ⟨countersRequested, none, none⟩ .run
      ⟨countersRequested, none, some ⟨countersRequested, false, true, answer⟩⟩ := by
    refine ⟨hclearable, ?_⟩
    show Clearing.step _ _ = _
    simp only [Clearing.step, hrun]
    rfl
  have hreach := LTS.Reachable.step (M := clearing.guard Apart) (.init hinit) hstep
  have hcommit : (clearing.guard Apart).step
      ⟨countersRequested, none, some ⟨countersRequested, false, true, answer⟩⟩ (.commit true)
      ⟨answer, none, none⟩ := by
    refine ⟨fun txn htxn => ?_, rfl⟩
    cases htxn
    rfl
  refine ⟨_, _, hreach, hcommit, (clear_requests_apart countersRequested .counters).2.2 _ hreach _ _
    hcommit, rfl, ?_⟩
  rw [← hanswer]
  exact ⟨by decide, by decide⟩

end Lldpd.Ovsdb
