import Lldpd.L3Daemon.Follow
import Lldpd.L3Daemon.Limit
import Lldpd.L4Ovsdb.Clear

/-!
# Neighbors in the database

The Interface row of an interface describes one neighbor at most. The daemon
notes in `h_rport_change_opcode` what has happened to the neighbors since the
last time, one note for all of them, and `lldpd_ovsdb_nbrs_run` acts on it: it
writes the first neighbor, or only when that was heard last, or clears the
row.

A frame that changes nothing at all still wipes the note out, if it is long
enough to be looked at: `pending_change_kept` says exactly which frames do not,
and `pending_change_wiped` shows one that does.

A row holds texts. Here it holds what the texts stand for.
-/
namespace Lldpd.Ovsdb
open Core

/-- What a row says of the chassis.
mirrors lldpd_ovsdb_if.c:3100-3162 -/
structure NbrChassis where
  cRefcount : UInt16
  cIndex : UInt16
  cProtocol : Option Mode
  cIdSubtype : UInt8
  cId : Option Bytes
  cName : Option Bytes
  cDescr : Option Bytes
  cCapAvailable : UInt16
  cCapEnabled : UInt16
  cTtl : UInt16
  cMgmt : List Mgmt
  deriving DecidableEq, Repr

/-- What a row says of a neighbor.
mirrors lldpd_ovsdb_if.c:3164-3313 -/
structure NbrInfo where
  chassis : Option NbrChassis
  pLastchange : Int
  pLastupdate : Int
  pProtocol : Option Mode
  pHiddenIn : Bool
  pHiddenOut : Bool
  pIdSubtype : UInt8
  pId : Option Bytes
  pDescr : Option Bytes
  pMfs : UInt16
  pMacphy : Dot3Macphy
  pPower : Dot3Power
  pPvid : UInt16
  pVlans : List Vlan
  pPpvids : List Ppvid
  pPids : List Pi
  deriving DecidableEq, Repr

def nbrChassis (pChassis : Chassis) : NbrChassis where
  cRefcount := pChassis.cRefcount
  cIndex := pChassis.cIndex
  cProtocol := pChassis.cProtocol
  cIdSubtype := pChassis.cIdSubtype
  cId := pChassis.cId
  cName := pChassis.cName
  cDescr := pChassis.cDescr
  cCapAvailable := pChassis.cCapAvailable
  cCapEnabled := pChassis.cCapEnabled
  cTtl := pChassis.cTtl
  cMgmt := pChassis.cMgmt

/-- `lldp_nbr_update`: the description of a neighbor.
mirrors lldpd_ovsdb_if.c:3065-3338 -/
def lldpNbrUpdate (gChassis : Heap Chassis) (pNbr : Port) : NbrInfo where
  chassis := (pNbr.chassis gChassis).map nbrChassis
  pLastchange := pNbr.pLastchange
  pLastupdate := pNbr.pLastupdate
  pProtocol := pNbr.pProtocol
  pHiddenIn := pNbr.pHiddenIn
  pHiddenOut := pNbr.pHiddenOut
  pIdSubtype := pNbr.pIdSubtype
  pId := pNbr.pId
  pDescr := pNbr.pDescr
  pMfs := pNbr.pMfs
  pMacphy := pNbr.pMacphy
  pPower := pNbr.pPower
  pPvid := pNbr.pPvid
  pVlans := pNbr.pVlans
  pPpvids := pNbr.pPpvids
  pPids := pNbr.pPids

/-- An Interface row: `lldp_neighbor_info`, `none` when the map is empty. -/
structure IfRow where
  lldpNeighborInfo : Option NbrInfo := none
  deriving DecidableEq, Repr

/-! ## The note and the row -/

/-- `"%llx"` of the time fits `last_update_s[10]`. -/
def HexFits (t : Int) : Prop := 0 ≤ t ∧ t < 68719476736

instance (t : Int) : Decidable (HexFits t) := inferInstanceAs (Decidable (_ ∧ _))

/-- A sign of life is not enough for a row that has no lifetime: it is written
in full.
mirrors lldpd_ovsdb_if.c:2167-2174 -/
def opcodeFor (op : NbrOpcode) (ifrow : IfRow) : NbrOpcode :=
  if op = .upd ∧ (ifrow.lldpNeighborInfo.bind NbrInfo.chassis).isNone then .add else op

/-- The body of the loop of `lldpd_ovsdb_nbrs_run`: what an interface writes to
its row, if it writes anything. `h_rport_change_opcode` is `LLDPD_AF_NBR_NOOP`
behind it.
mirrors lldpd_ovsdb_if.c:2163-2232 -/
def nbrWrite (gChassis : Heap Chassis) (hardware : Hardware) (ifrow : IfRow) :
    Except Fault (Option IfRow) :=
  match opcodeFor hardware.hRportChangeOpcode ifrow with
  | .add | .mod =>
    .ok (hardware.hRports.head?.map fun port =>
      { lldpNeighborInfo := some (lldpNbrUpdate gChassis port) })
  | .upd =>
    match hardware.hRports.head? with
    | none => .ok none
    | some port =>
      if HexFits port.pLastupdate then
        .ok (some { lldpNeighborInfo := ifrow.lldpNeighborInfo.map fun info =>
          { info with pLastupdate := port.pLastupdate } })
      else .error .overflow
  | .del => .ok (some { lldpNeighborInfo := none })
  | .noop => .ok none

/-! ## Clear requests -/

/-- What `lldpd_clear_nbr_table` does to an interface.
mirrors lldpd_ovsdb_if.c:2088-2092 -/
def clearTable (b : Build) (hardware : Hardware) (gChassis : Heap Chassis) :
    Hardware × Heap Chassis :=
  lldpdRemoteCleanup b false true 0 hardware gChassis

/-- What `lldpd_clear_counters` does to an interface.
mirrors lldpd_ovsdb_if.c:2024-2035 -/
def clearCounters (b : Build) (hardware : Hardware) (gChassis : Heap Chassis) :
    Hardware × Heap Chassis :=
  let hardware := { hardware with
    hTxCnt := 0
    hRxCnt := 0
    hRxDiscardedCnt := 0
    hRxUnrecognizedCnt := 0
    hAgeoutCnt := 0
    hDropCnt := 0 }
  let (hardware, gChassis) := lldpdRemoteCleanup b false true 0 hardware gChassis
  ({ hardware with hDeleteCnt := 0 }, gChassis)

theorem clearTable_eq (b : Build) (hw : Hardware) (h : Heap Chassis) :
    clearTable b hw h =
      (hw.forget b true fun _ => true, hw.hRports.foldl lldpdPortCleanup h) := by
  have hgoes : goes false true 0 h = fun _ => true := rfl
  rw [clearTable, remoteCleanup_eq, hgoes, List.filter_true]

theorem clearCounters_eq (b : Build) (hw : Hardware) (h : Heap Chassis) :
    clearCounters b hw h =
      ({ hw.forget b true fun _ => true with
          hTxCnt := 0
          hRxCnt := 0
          hRxDiscardedCnt := 0
          hRxUnrecognizedCnt := 0
          hAgeoutCnt := 0
          hDropCnt := 0
          hDeleteCnt := 0 },
        hw.hRports.foldl lldpdPortCleanup h) := by
  have hgoes : goes false true 0 h = fun _ => true := rfl
  simp only [clearCounters, remoteCleanup_eq, hgoes, List.filter_true]
  rfl

@[simp] theorem forget_all_hRports (b : Build) (hw : Hardware) :
    (hw.forget b true fun _ => true).hRports = [] :=
  List.filter_eq_nil_iff.2 fun _ _ => Bool.false_ne_true

/-! ## Frames that change nothing -/

/-- The frame is too short to be looked at, or it is the last frame of a
neighbor again and no row is to be cleared. -/
def Harmless (frame : Bytes) (hw : Hardware) : Prop :=
  frame.length < 18 ∨
    hw.repeats frame = true ∧ hw.hRportChangeOpcode ≠ .del

section
variable {b : Build} {now : Int} {stack : Buffer 32} {frame : Bytes} {s : Daemon} {hw : Hardware}

theorem nbrWrite_congr {hw' : Hardware} (hop : hw'.hRportChangeOpcode = hw.hRportChangeOpcode)
    (hports : hw'.hRports = hw.hRports) (h : Heap Chassis) (ifrow : IfRow) :
    nbrWrite h hw' ifrow = nbrWrite h hw ifrow := by
  unfold nbrWrite
  rw [hop, hports]

theorem nbrWrite_noop (hop : hw.hRportChangeOpcode = .noop) (h : Heap Chassis) (ifrow : IfRow) :
    nbrWrite h hw ifrow = .ok none := by
  unfold nbrWrite
  rw [hop]
  rfl

/-- What an interface writes, note by note. -/
theorem nbrWrite_cases {h : Heap Chassis} {ifrow : IfRow} {w : Option IfRow}
    (hok : nbrWrite h hw ifrow = .ok w) :
    (hw.hRportChangeOpcode = .noop ∧ w = none) ∨
    (hw.hRportChangeOpcode = .del ∧ w = some {}) ∨
    (hw.hRportChangeOpcode ≠ .noop ∧ hw.hRportChangeOpcode ≠ .del ∧
      w = hw.hRports.head?.map fun q => { lldpNeighborInfo := some (lldpNbrUpdate h q) }) ∨
    (hw.hRportChangeOpcode = .upd ∧ (ifrow.lldpNeighborInfo.bind NbrInfo.chassis).isSome = true ∧
      w = hw.hRports.head?.map fun q => { lldpNeighborInfo := ifrow.lldpNeighborInfo.map fun info =>
        { info with pLastupdate := q.pLastupdate } }) := by
  unfold nbrWrite opcodeFor at hok
  cases hop : hw.hRportChangeOpcode with
  | noop =>
    rw [hop] at hok
    cases hok
    exact .inl ⟨rfl, rfl⟩
  | del =>
    rw [hop] at hok
    cases hok
    exact .inr (.inl ⟨rfl, rfl⟩)
  | add =>
    rw [hop] at hok
    cases hok
    exact .inr (.inr (.inl ⟨by decide, by decide, rfl⟩))
  | mod =>
    rw [hop] at hok
    cases hok
    exact .inr (.inr (.inl ⟨by decide, by decide, rfl⟩))
  | upd =>
    rw [hop] at hok
    cases hinfo : (ifrow.lldpNeighborInfo.bind NbrInfo.chassis).isNone with
    | true =>
      rw [hinfo] at hok
      cases hok
      exact .inr (.inr (.inl ⟨by decide, by decide, rfl⟩))
    | false =>
      rw [hinfo] at hok
      refine .inr (.inr (.inr ⟨rfl, by simpa using hinfo, ?_⟩))
      cases hports : hw.hRports with
      | nil =>
        rw [hports] at hok
        cases hok
        rfl
      | cons q qs =>
        rw [hports] at hok
        have hok : (if HexFits q.pLastupdate then _ else _) = _ := hok
        split at hok
        · cases hok
          rfl
        · cases hok

/-- The last frame of the neighbor that is learnt is new to the interface. -/
theorem learnt_hRports_ne {mode : Mode} {c : Chassis} {p : Port} {cnt : UInt64}
    (ht : Takes b s hw stack frame mode c p) :
    (learn b now (decapsulate frame) c p s
      ((hw.reset b).unrecognized cnt)).1.hRports ≠ hw.hRports := by
  intro heq
  obtain ⟨a, hports⟩ := @Takes.hRports b now frame c p s hw stack mode cnt ht
  rw [heq] at hports
  apply ht.anew
  rw [Hardware.repeats, hports]
  simp [isDuplicate, Port.heardAt]

/-- A frame that is looked at and is not known leaves the ports alone only if
it also wipes out the note. -/
theorem wiped (hb : b.ovsdb = true) {r : Hardware × Daemon}
    (hdec : lldpdDecode b now stack frame s hw = .ok r) (hports : r.1.hRports = hw.hRports)
    (hlong : 18 ≤ frame.length) (hdup : ¬ hw.repeats frame = true) :
    r.1.hRportChangeOpcode = .noop := by
  have hreset : (hw.reset b).hRportChangeOpcode = .noop := if_pos hb
  obtain ⟨hw', s'⟩ := r
  have hreceived := received hdec
  cases hreceived with
  | short hshort => omega
  | duplicate _ h => exact absurd h hdup
  | ignored _ _ _ => exact hreset
  | vlans _ _ _ => exact hreset
  | refused _ _ _ _ => exact hreset
  | learnt ht => exact absurd hports (learnt_hRports_ne ht)

/-- Among the frames that leave the ports of an interface alone, `Harmless`
ones keep a pending change, and the database is written as without them. All
others lose it: unless it is the frame of a neighbor again, nothing is
written. -/
theorem pending_change_kept (b : Build) (hb : b.ovsdb = true) (now : Int) (stack : Buffer 32)
    (frame : Bytes) (s : Daemon) (hw : Hardware) (hop : hw.hRportChangeOpcode ≠ .noop)
    (r : Hardware × Daemon) (hdec : lldpdDecode b now stack frame s hw = .ok r)
    (hports : r.1.hRports = hw.hRports) :
    (r.1.hRportChangeOpcode = hw.hRportChangeOpcode ↔ Harmless frame hw) ∧
      (Harmless frame hw → ∀ ifrow,
        nbrWrite r.2.gChassis r.1 ifrow = nbrWrite s.gChassis hw ifrow) ∧
      (¬ Harmless frame hw → ¬ hw.repeats frame = true →
        ∀ ifrow, nbrWrite r.2.gChassis r.1 ifrow = .ok none) := by
  by_cases hshort : frame.length < 18
  · obtain rfl := lldpdDecode_short hshort hdec
    exact ⟨⟨fun _ => .inl hshort, fun _ => rfl⟩, fun _ _ => rfl, fun h => absurd (.inl hshort) h⟩
  by_cases hdup : hw.repeats frame = true
  · -- the shortcut keeps all notes but one
    have hrefresh := @lldpdDecode_duplicate b now stack frame s hw (Nat.not_lt.1 hshort) hdup
    obtain rfl := Except.ok.inj (hrefresh.symm.trans hdec)
    have hkept : (refresh b now hw.hRportChangeOpcode (decapsulate frame)
        (hw.reset b)).hRportChangeOpcode = hw.hRportChangeOpcode ↔ Harmless frame hw := by
      unfold refresh Harmless
      simp only [hb, hshort, hdup, Bool.not_true, Bool.false_eq_true, if_false]
      revert hop
      cases hw.hRportChangeOpcode <;> decide
    refine ⟨hkept, fun hharmless ifrow => ?_, fun _ h => absurd hdup h⟩
    exact nbrWrite_congr (hkept.2 hharmless) hports _ _
  · have hnoop := wiped hb hdec hports (Nat.not_lt.1 hshort) hdup
    have hbad : ¬ Harmless frame hw := fun h => h.elim hshort fun h => hdup h.1
    refine ⟨⟨fun h => ?_, fun h => absurd h hbad⟩, fun h => absurd h hbad, fun _ _ ifrow => ?_⟩
    · exact absurd (h.symm.trans hnoop) hop
    · exact nbrWrite_noop hnoop _ _

end

/-- Every protocol and every extension, with the OVSDB integration. -/
def openSwitch : Build := { Build.full with ovsdb := true }

/-- A frame of `n` zero bytes: no protocol knows it. -/
def noise (n : Nat) : Bytes := List.replicate n 0

/-- A neighbor has been learnt and not been written yet, and noise follows. -/
theorem noise_behind_neighbor : ∃ s hw r,
    (Daemon.started {} lldpOnly).run openSwitch oneNeighbor = some s ∧
      s.gHardware[0]? = some hw ∧ hw.hRportChangeOpcode = .add ∧ hw.hRports ≠ [] ∧
      lldpdDecode openSwitch 1 Lldp.zeroStack (noise 18) s hw = .ok r ∧
      r.1.hRports = hw.hRports ∧ r.1.hRportChangeOpcode = .noop := by
  obtain ⟨s, hs, hw, hget, hop, hne, r, hr, hkept⟩ :
      ∃ s ∈ (Daemon.started {} lldpOnly).run openSwitch oneNeighbor,
      ∃ hw ∈ s.gHardware[0]?, hw.hRportChangeOpcode = .add ∧ hw.hRports ≠ [] ∧
      ∃ r ∈ (lldpdDecode openSwitch 1 Lldp.zeroStack (noise 18) s hw).toOption,
        r.1.hRports = hw.hRports ∧ r.1.hRportChangeOpcode = .noop := by
    decide
  exact ⟨s, hw, r, hs, hget, hop, hne, eq_ok_of_toOption hr, hkept⟩

theorem pending_change_kept_noise : ∃ s hw r,
    (Daemon.started {} lldpOnly).run openSwitch oneNeighbor = some s ∧
      s.gHardware[0]? = some hw ∧ hw.hRportChangeOpcode = .add ∧
      lldpdDecode openSwitch 1 Lldp.zeroStack (noise 18) s hw = .ok r ∧
      r.1.hRports = hw.hRports ∧ ¬ Harmless (noise 18) hw := by
  obtain ⟨s, hw, r, hs, hget, hop, -, hr, hports, hnoop⟩ := noise_behind_neighbor
  have hpending : hw.hRportChangeOpcode ≠ .noop := by
    rw [hop]
    decide
  obtain ⟨hkept, -⟩ := pending_change_kept openSwitch rfl 1 Lldp.zeroStack (noise 18) s hw
    hpending r hr hports
  exact ⟨s, hw, r, hs, hget, hop, hr, hports, fun h => hpending ((hkept.2 h).symm.trans hnoop)⟩

/-- The neighbor is about to be written. A frame that no protocol knows comes
in between, and nothing is written. -/
theorem pending_change_wiped : ∃ s hw r,
    (Daemon.started {} lldpOnly).run openSwitch oneNeighbor = some s ∧
      s.gHardware[0]? = some hw ∧ hw.hRportChangeOpcode = .add ∧
      nbrWrite s.gChassis hw {} ≠ .ok none ∧
      lldpdDecode openSwitch 1 Lldp.zeroStack (noise 18) s hw = .ok r ∧
      r.1.hRports = hw.hRports ∧ r.1.hRportChangeOpcode = .noop ∧
      nbrWrite r.2.gChassis r.1 {} = .ok none := by
  obtain ⟨s, hw, r, hs, hget, hop, hne, hr, hports, hnoop⟩ := noise_behind_neighbor
  refine ⟨s, hw, r, hs, hget, hop, ?_, hr, hports, hnoop, nbrWrite_noop hnoop _ _⟩
  obtain ⟨q, qs, hq⟩ := List.exists_cons_of_ne_nil hne
  unfold nbrWrite
  rw [hop, hq]
  simp [opcodeFor]

end Lldpd.Ovsdb
