import Lldpd.L4Ovsdb.Statistics

/-!
# The statistics never count backwards

A clear request apart, the row never counts backwards (`monotone_reachable`)
as long as

* an entry that is synced does not get new hardware: a change of the direction
  makes it again, with zeros, and nothing is added to them;
* the sweep of `lldpd_ovsdb_nbrs_run` does not find the neighbor of the row
  expired: it writes zeros;
* no clear request is performed while a copy is still under way.

`direction_resets_counters` is a run where the first of them fails.

The invariant orders the row, the copy under way and the counters. A counter of
an entry that is not synced may be behind the row, but together they have not
counted more than there was.
-/
namespace Lldpd.Ovsdb.Statistics
open Core

/-! ## The counters, the copy under way and the row -/

theorem toInt_toInt64 {x : UInt64} (h : x.toNat < 2 ^ 63) : x.toInt64.toInt = x.toNat := by
  apply BitVec.toInt_eq_toNat_of_lt
  show 2 * x.toNat < 2 ^ 64
  omega

theorem toNat_toUInt64 {v : Int64} (h : 0 ≤ v.toInt) : (v.toUInt64.toNat : Int) = v.toInt := by
  have hv : v.toInt = v.toBitVec.toInt := rfl
  have hnat : v.toUInt64.toNat = v.toBitVec.toNat := rfl
  rw [hv, BitVec.toInt_eq_toNat_cond] at h ⊢
  split <;> omega

def Interface.stat (s : Interface) (k : Counter) : Int :=
  s.row.elim 0 fun row => (row.lldpStatistics k).toInt

def Interface.Bounded (s : Interface) : Prop := ∀ k, s.events k < 2 ^ 63

/-- What is known of a counter of the hardware: before the sync, that the row
can be added to it; behind it, that it is not behind the row. -/
def Interface.Counts (s : Interface) (synced : Bool) (k : Counter) (cnt : Nat) : Prop :=
  if synced then cnt ≤ s.events k ∧ (s.cleared = false → s.stat k ≤ cnt)
  else cnt + s.stat k ≤ s.events k

structure Interface.Inv (s : Interface) : Prop where
  stat : ∀ k, 0 ≤ s.stat k ∧ s.stat k ≤ s.events k
  zeros : s.confirmTxn ≠ some true
  hw : ∀ itf hw, s.itf = some itf → itf.hw = some hw →
    ∀ k, s.Counts itf.syncedFromDb k (hw.counter k).toNat
  /-- The copy under way is between the row and the counters. -/
  entry : ∀ values, s.statsTxn = some (some values) →
    s.row.isSome = true ∧ ∃ itf, s.itf = some itf ∧ itf.ifrow = true ∧ itf.syncedFromDb = true
  values : ∀ values, s.statsTxn = some (some values) → ∀ k,
    0 ≤ (values k).toInt ∧ (values k).toInt ≤ s.events k ∧
      (s.cleared = false → s.stat k ≤ (values k).toInt) ∧
      ∀ itf hw, s.itf = some itf → itf.hw = some hw → (values k).toInt ≤ (hw.counter k).toNat

section
variable {b : Build} {s s' : Interface}

section
variable (hi : s.Inv)
include hi

theorem Interface.Inv.counts_zero {synced : Bool} (k : Counter)
    (h : synced = true → s.stat k = 0) : s.Counts synced k 0 := by
  have hk := hi.stat k
  unfold Counts
  split
  · rename_i hs
    have h := h hs
    omega
  · omega

theorem inv_work (hb : s'.Bounded) {w : Work} (h : s.step b (.work w) = some s') : s'.Inv := by
  obtain ⟨itf, hitf, h⟩ := Option.bind_eq_some_iff.1 h
  obtain ⟨hw, hhw, h⟩ := Option.bind_eq_some_iff.1 h
  obtain ⟨hw', hrun, h⟩ := Option.bind_eq_some_iff.1 h
  cases h
  have hcnt : ∀ k, (hw'.counter k).toNat = (hw.counter k).toNat + gained b hw w k := by
    intro k
    have hbound : s.events k + gained b hw w k < 2 ^ 63 := hb k
    have hk := hi.hw itf hw hitf hhw k
    have hstat := hi.stat k
    have hle : (hw.counter k).toNat ≤ s.events k := by
      unfold Interface.Counts at hk
      split at hk <;> omega
    rw [work_counter hrun k, UInt64.toNat_add, UInt64.toNat_ofNat']
    omega
  refine ⟨fun k => ?_, hi.zeros, ?_, ?_, ?_⟩
  · have hk := hi.stat k
    show 0 ≤ s.stat k ∧ s.stat k ≤ ((s.events k + gained b hw w k : Nat) : Int)
    omega
  · rintro _ _ ⟨⟩ ⟨⟩ k
    have hk := hi.hw itf hw hitf hhw k
    rw [hcnt k]
    unfold Interface.Counts at hk ⊢
    show if itf.syncedFromDb = true then (hw.counter k).toNat + gained b hw w k ≤
        s.events k + gained b hw w k ∧ (s.cleared = false → s.stat k ≤
          (((hw.counter k).toNat + gained b hw w k : Nat) : Int)) else
        (((hw.counter k).toNat + gained b hw w k : Nat) : Int) + s.stat k ≤
          ((s.events k + gained b hw w k : Nat) : Int)
    split at hk
    · rename_i hs
      rw [if_pos hs]
      refine ⟨by omega, fun hc => ?_⟩
      have := hk.2 hc
      omega
    · rename_i hs
      rw [if_neg hs]
      omega
  · intro values hv
    obtain ⟨hrow, itf', hitf', hrest⟩ := hi.entry values hv
    cases hitf.symm.trans hitf'
    exact ⟨hrow, _, rfl, hrest⟩
  · intro values hv k
    obtain ⟨h0, hle, hstat, hcur⟩ := hi.values values hv k
    have hcur := hcur itf hw hitf hhw
    refine ⟨h0, ?_, hstat, ?_⟩
    · show (values k).toInt ≤ ((s.events k + gained b hw w k : Nat) : Int)
      omega
    · rintro _ _ ⟨⟩ ⟨⟩
      rw [hcnt k]
      omega

omit hi in
/-- What becomes of the hardware when the row changes: it stays, or the
direction has changed and it is made again. -/
theorem configMods_cases (row : Row) (found : Option Port) (itf : InterfaceData) :
    (handleInterfacesConfigMods row found itf).ifrow = true ∧
      (handleInterfacesConfigMods row found itf).syncedFromDb = itf.syncedFromDb ∧
      ∀ hw', (handleInterfacesConfigMods row found itf).hw = some hw' →
        ∃ hw, itf.hw = some hw ∧ ((∀ k, hw'.counter k = hw.counter k) ∨
          (∀ k, hw'.counter k = 0) ∧ found.isSome = true ∧
            ∃ d, row.dir = some d ∧ hw.hEnableDir ≠ d) := by
  unfold handleInterfacesConfigMods applyDir
  split
  · rename_i hany
    obtain ⟨hw, hhw, hany⟩ := (Option.any_eq_true _ _).1 hany
    obtain ⟨d, hd, hne⟩ := (Option.any_eq_true _ _).1 hany
    cases found with
    | none => exact ⟨rfl, rfl, fun _ h => (by cases h)⟩
    | some hLport =>
      refine ⟨rfl, rfl, fun hw' h => ⟨hw, hhw, .inr ⟨?_, rfl, d, hd, of_decide_eq_true hne⟩⟩⟩
      cases h
      intro k
      cases k <;> rfl
  · refine ⟨rfl, rfl, fun hw' h => ?_⟩
    obtain ⟨hw, hhw, rfl⟩ := Option.map_eq_some_iff.1 h
    refine ⟨hw, hhw, .inl fun k => ?_⟩
    cases k <;> rfl

/-- Another entry under the same row: its hardware has to be known like that
of the old one. -/
theorem Interface.Inv.of_itf {row : Option Row} {itf : Option InterfaceData}
    (hrow : ∀ k, { s with row := row, itf := itf : Interface }.stat k = s.stat k)
    (hsome : s.row.isSome = true → row.isSome = true)
    (hhw : ∀ itf' hw, itf = some itf' → itf'.hw = some hw → ∀ k,
      s.Counts itf'.syncedFromDb k (hw.counter k).toNat ∧
        ∀ values, s.statsTxn = some (some values) → (values k).toInt ≤ (hw.counter k).toNat)
    (hentry : ∀ old, s.itf = some old → old.ifrow = true → old.syncedFromDb = true →
      ∃ itf', itf = some itf' ∧ itf'.ifrow = true ∧ itf'.syncedFromDb = true) :
    { s with row := row, itf := itf : Interface }.Inv where
  stat k := by
    rw [hrow k]
    exact hi.stat k
  zeros := hi.zeros
  hw itf' hw h h' k := by
    unfold Counts
    rw [hrow k]
    exact (hhw itf' hw h h' k).1
  entry values hv := by
    obtain ⟨hs, old, hold, hold', hold''⟩ := hi.entry values hv
    exact ⟨hsome hs, hentry old hold hold' hold''⟩
  values values hv k := by
    obtain ⟨h0, hle, hstat, -⟩ := hi.values values hv k
    rw [hrow k]
    exact ⟨h0, hle, hstat, fun itf' hw h h' => (hhw itf' hw h h' k).2 values hv⟩

variable {dir : Option (Option HardwareEnableDir)} {found : Option Port} {link : LinkState}

theorem inv_rowInserted (h : s.step b (.rowInserted dir link found) = some s') : s'.Inv := by
  cases hrow : s.row with
  | some row => simp [Interface.step, hrow] at h
  | none =>
    have hstat : ∀ k, s.stat k = 0 := by
      intro k
      unfold Interface.stat
      rw [hrow]
      rfl
    have hnone : ∀ values, s.statsTxn ≠ some (some values) := by
      intro values hv
      have := (hi.entry values hv).1
      rw [hrow] at this
      cases this
    simp only [Interface.step, hrow, Option.isSome_none, Bool.false_eq_true, if_false,
      Option.some.injEq] at h
    subst h
    refine hi.of_itf (fun k => (hstat k).symm) (fun _ => rfl) ?_ ?_
    · rintro _ hw' ⟨⟩ hhw k
      obtain ⟨-, hsynced, hcases⟩ := configMods_cases { lldpEnableDir := dir, linkState := link } found
        (addNewDbInterface s.itf)
      refine ⟨?_, fun values hv => absurd hv (hnone values)⟩
      obtain ⟨hw, hhw, hsame | ⟨hzero, -⟩⟩ := hcases hw' hhw
      · rw [hsame k, hsynced]
        cases hitf : s.itf with
        | none => rw [hitf] at hhw; cases hhw
        | some itf =>
          rw [hitf] at hhw
          exact hi.hw itf hw hitf hhw k
      · rw [hzero k]
        exact hi.counts_zero k fun _ => hstat k
    · intro old hold hifrow hs
      obtain ⟨hifrow', hsynced, -⟩ := configMods_cases
        { lldpEnableDir := dir, linkState := link } found (addNewDbInterface s.itf)
      refine ⟨_, rfl, hifrow', hsynced.trans ?_⟩
      rw [hold]
      exact hs

theorem inv_rowModified (hg : Undisturbed s (.rowModified dir link found))
    (h : s.step b (.rowModified dir link found) = some s') : s'.Inv := by
  obtain ⟨row, hrow, h⟩ := Option.bind_eq_some_iff.1 h
  cases h
  refine hi.of_itf (fun k => ?_) (fun _ => rfl) ?_ ?_
  · unfold Interface.stat
    rw [hrow]
    rfl
  · intro itf' hw' hitf' hhw' k
    obtain ⟨itf, hitf, rfl⟩ := Option.map_eq_some_iff.1 hitf'
    obtain ⟨-, hsynced, hcases⟩ := configMods_cases
      { row with lldpEnableDir := dir, linkState := link } found itf
    obtain ⟨hw, hhw, hsame | ⟨hzero, hfound, d, hd, hne⟩⟩ := hcases hw' hhw'
    · rw [hsame k, hsynced]
      exact ⟨hi.hw itf hw hitf hhw k, fun values hv => (hi.values values hv k).2.2.2 itf hw hitf hhw⟩
    · -- hardware is made again only for an entry that is not synced
      have hs : itf.syncedFromDb = false := by
        cases hs : itf.syncedFromDb with
        | false => rfl
        | true =>
          have hany : s.synced = true := by
            unfold Interface.synced
            rw [hitf]
            exact hs
          exact absurd (hg hany hfound hw (by rw [hitf]; exact hhw) d hd) hne
      rw [hzero k, hsynced, hs]
      refine ⟨hi.counts_zero k (fun h => nomatch h), fun values hv => ?_⟩
      obtain ⟨-, itf1, hitf1, -, hs1⟩ := hi.entry values hv
      cases hitf.symm.trans hitf1
      cases hs.symm.trans hs1
  · intro old hold hifrow hs
    obtain ⟨hifrow', hsynced, -⟩ := configMods_cases
      { row with lldpEnableDir := dir, linkState := link } found old
    exact ⟨_, by rw [hold]; rfl, hifrow', hsynced.trans hs⟩

theorem inv_rowDeleted (h : s.step b .rowDeleted = some s') : s'.Inv := by
  cases h
  have htxn : ∀ values : Counter → Int64,
      (s.statsTxn.map fun _ => none) ≠ some (some values) := by
    intro values hv
    obtain ⟨_, -, hv⟩ := Option.map_eq_some_iff.1 hv
    cases hv
  refine ⟨fun k => ⟨Int.le_refl 0, ?_⟩, ?_, ?_, fun values hv => absurd hv (htxn values),
    fun values hv => absurd hv (htxn values)⟩
  · exact Int.natCast_nonneg _
  · intro hz
    obtain ⟨_, -, hz⟩ := Option.map_eq_some_iff.1 hz
    cases hz
  · intro itf' hw hitf' hhw k
    obtain ⟨itf, hitf, hdel⟩ := Option.bind_eq_some_iff.1 hitf'
    unfold delOldDbInterface at hdel
    split at hdel
    · cases hdel
    cases hdel
    have hk := hi.hw itf hw hitf hhw k
    have hstat := hi.stat k
    unfold Interface.Counts at hk ⊢
    show if itf.syncedFromDb = true then (hw.counter k).toNat ≤ s.events k ∧
        (s.cleared = false → 0 ≤ ((hw.counter k).toNat : Int)) else
        ((hw.counter k).toNat : Int) + 0 ≤ s.events k
    split at hk
    · rename_i hs
      rw [if_pos hs]
      exact ⟨hk.1, fun _ => Int.natCast_nonneg _⟩
    · rename_i hs
      rw [if_neg hs]
      omega

theorem inv_hwAdded {hLport : Port} (hg : Undisturbed s (.hwAdded hLport))
    (h : s.step b (.hwAdded hLport) = some s') : s'.Inv := by
  obtain ⟨-, h⟩ := Option.ite_none_left_eq_some.1 h
  cases h
  have hnone : ∀ values, s.statsTxn ≠ some (some values) := by
    intro values hv
    obtain ⟨-, itf, hitf, -, hs⟩ := hi.entry values hv
    have hg : s.synced = false := hg
    unfold Interface.synced at hg
    rw [hitf, Option.any_some, hs] at hg
    cases hg
  refine hi.of_itf (fun k => rfl) id ?_ ?_
  · rintro _ hw' ⟨⟩ hhw k
    refine ⟨?_, fun values hv => absurd hv (hnone values)⟩
    have hg : s.synced = false := hg
    unfold Interface.synced at hg
    cases hitf : s.itf with
    | none =>
      rw [hitf] at hhw
      cases hhw
      have hzero : ({ hLport := hLport : Hardware }.counter k).toNat = 0 := by cases k <;> rfl
      rw [hzero]
      exact hi.counts_zero k fun h => nomatch h
    | some itf =>
      rw [hitf] at hhw hg
      cases hhw
      have hs : itf.syncedFromDb = false := hg
      have hzero : ∀ dir link, ({ hLport := hLport, hEnableDir := dir, hLinkState := link :
          Hardware }.counter k).toNat = 0 := by
        intro dir link
        cases k <;> rfl
      rw [hzero]
      refine hi.counts_zero k fun h => ?_
      cases hs.symm.trans h
  · intro old hold _ hs
    have hg : s.synced = false := hg
    unfold Interface.synced at hg
    rw [hold, Option.any_some, hs] at hg
    cases hg

theorem inv_hwDeleted (h : s.step b .hwDeleted = some s') : s'.Inv := by
  obtain ⟨-, h⟩ := Option.ite_none_right_eq_some.1 h
  cases h
  refine hi.of_itf (fun k => rfl) id ?_ ?_
  · intro itf' hw hitf' hhw
    obtain ⟨itf, hitf, hdel⟩ := Option.bind_eq_some_iff.1 hitf'
    obtain ⟨-, hdel⟩ := Option.ite_none_left_eq_some.1 hdel
    cases hdel
    cases hhw
  · intro old hold hifrow hs
    refine ⟨{ old with hw := none }, ?_, hifrow, hs⟩
    rw [hold, Option.bind_some]
    unfold delLldpdHardwareInterface
    rw [hifrow]
    rfl

/-- Without a copy under way there is nothing to know of it. -/
theorem Interface.Inv.without {txn : Option (Option (Counter → Int64))}
    (h : ∀ values, txn ≠ some (some values)) : { s with statsTxn := txn : Interface }.Inv :=
  ⟨hi.stat, hi.zeros, hi.hw, fun values hv => absurd hv (h values),
    fun values hv => absurd hv (h values)⟩

theorem inv_clearCounters (gChassis : Heap Chassis)
    (hnone : ∀ values, s.statsTxn ≠ some (some values)) : (s.clearCounters b gChassis).Inv := by
  refine ⟨hi.stat, hi.zeros, ?_, fun values hv => absurd hv (hnone values),
    fun values hv => absurd hv (hnone values)⟩
  intro itf' hw' hitf' hhw' k
  obtain ⟨itf, hitf, rfl⟩ := Option.map_eq_some_iff.1 hitf'
  obtain ⟨hw, hhw, rfl⟩ := Option.map_eq_some_iff.1 hhw'
  have hk := hi.hw itf hw hitf hhw k
  have hle : ((Ovsdb.clearCounters b hw gChassis).1.counter k).toNat ≤ (hw.counter k).toNat := by
    rw [clearCounters_eq]
    cases k with
    | insert => exact Nat.le_refl _
    | _ => exact Nat.zero_le _
  unfold Interface.Counts at hk ⊢
  split at hk
  · rename_i hs
    rw [if_pos hs]
    exact ⟨Nat.le_trans hle hk.1, fun h => nomatch h⟩
  · rename_i hs
    rw [if_neg hs]
    refine Int.le_trans (Int.add_le_add_right (Int.ofNat_le.2 hle) _) hk

theorem inv_run {input : RunInput} {status : TxnStatus} (hg : Undisturbed s (.run input status)) :
    ((s.prepare b input).commitConfirm status).Inv ∧
      ∀ k, ((s.prepare b input).commitConfirm status).stat k = s.stat k := by
  have hprepare : (s.prepare b input).Inv ∧ ∀ k, (s.prepare b input).stat k = s.stat k := by
    unfold Interface.prepare
    split
    · exact ⟨hi, fun _ => rfl⟩
    rename_i htxn
    split
    · exact ⟨⟨hi.stat, (fun h => nomatch h), hi.hw, hi.entry, hi.values⟩, fun _ => rfl⟩
    rename_i hagain
    obtain ⟨hages, hcopy⟩ := hg (by simpa using htxn) (by simpa using hagain)
    have hclear : (if input.counters then s.clearCounters b input.gChassis else s).Inv ∧
        ∀ k, (if input.counters then s.clearCounters b input.gChassis else s).stat k = s.stat k := by
      split
      · rename_i hc
        exact ⟨inv_clearCounters hi _ (hcopy hc), fun _ => rfl⟩
      · exact ⟨hi, fun _ => rfl⟩
    rw [hages]
    refine ⟨⟨hclear.1.stat, ?_, hclear.1.hw, hclear.1.entry, hclear.1.values⟩, hclear.2⟩
    intro hzeros
    have hzeros : (if _ then some false else none) = some true := hzeros
    split at hzeros <;> cases hzeros
  obtain ⟨hi1, hstat⟩ := hprepare
  have hdone : { s.prepare b input with confirmTxn := none : Interface }.Inv :=
    ⟨hi1.stat, (fun h => nomatch h), hi1.hw, hi1.entry, hi1.values⟩
  unfold Interface.commitConfirm
  split
  · exact ⟨hi1, hstat⟩
  · exact ⟨hi1, hstat⟩
  · rename_i hz
    exact absurd hz hi1.zeros
  · exact ⟨hdone, hstat⟩

omit hi in
/-- The hardware that is copied: the counters of the row are added to it if
that has not been done. -/
def InterfaceData.restored (itf : InterfaceData) (row : Row) (hw : Hardware) : Hardware :=
  if itf.syncedFromDb then hw else syncLldpCountersFromDb row hw

omit hi in
theorem process_cases (row : Option Row) (itf : InterfaceData) :
    lldpProcessOneInterfaceCounters row itf = (itf, none) ∨
      ∃ row' hw, row = some row' ∧ itf.hw = some hw ∧ itf.ifrow = true ∧
        lldpProcessOneInterfaceCounters row itf =
          ({ itf with hw := some (itf.restored row' hw), syncedFromDb := true },
            some fun k => ((itf.restored row' hw).counter k).toInt64) := by
  unfold lldpProcessOneInterfaceCounters
  split
  · rename_i hw row' hhw
    split
    · exact .inl rfl
    · rename_i hifrow
      exact .inr ⟨row', hw, rfl, hhw, by simpa using hifrow, rfl⟩
  · exact .inl rfl

theorem restored_counts (hb : s.Bounded) {itf : InterfaceData} {row : Row}
    {hw : Hardware} (hitf : s.itf = some itf) (hrow : s.row = some row) (hhw : itf.hw = some hw)
    (k : Counter) : s.Counts true k ((itf.restored row hw).counter k).toNat := by
  have hk := hi.hw itf hw hitf hhw k
  unfold InterfaceData.restored
  split
  · rename_i hs
    rw [hs] at hk
    exact hk
  · rename_i hs
    have hstat := hi.stat k
    have hbound := hb k
    have hval : s.stat k = (row.lldpStatistics k).toInt := by
      unfold Interface.stat
      rw [hrow]
      rfl
    have hadd := toNat_toUInt64 (hval ▸ hstat.1)
    unfold Interface.Counts at hk ⊢
    rw [if_neg hs] at hk
    rw [if_pos rfl]
    unfold syncLldpCountersFromDb
    rw [counter_mapCounters, UInt64.toNat_add]
    omega

theorem inv_prepareStats (hb : s.Bounded) : s.prepareStats.Inv := by
  have hnone : ∀ values : Counter → Int64, (some none : Option (Option (Counter → Int64))) ≠
      some (some values) := fun _ h => nomatch h
  unfold Interface.prepareStats
  split
  · exact hi
  cases hitf : s.itf with
  | none =>
    have hi := hi.without hnone
    rw [hitf] at hi
    exact hi
  | some itf =>
    rw [Option.elim_some]
    obtain hp | ⟨row, hw, hrow, hhw, hifrow, hp⟩ := process_cases s.row itf
    · have hi := hi.without hnone
      rw [hitf] at hi
      rw [hp]
      exact hi
    · have hcnt := restored_counts hi hb hitf hrow hhw
      rw [hp]
      refine ⟨hi.stat, hi.zeros, ?_, ?_, ?_⟩
      · rintro _ _ ⟨⟩ ⟨⟩ k
        exact hcnt k
      · intro values _
        exact ⟨by rw [hrow]; rfl, _, rfl, hifrow, rfl⟩
      · rintro values hv k
        cases hv
        obtain ⟨hle, hstat⟩ := hcnt k
        rw [toInt_toInt64 (Nat.lt_of_le_of_lt hle (hb k))]
        refine ⟨Int.natCast_nonneg _, Int.ofNat_le.2 hle, hstat, ?_⟩
        rintro _ _ ⟨⟩ ⟨⟩
        exact Int.le_refl _

theorem inv_commitStats {status : TxnStatus} : (s.commitStats status).Inv := by
  unfold Interface.commitStats
  split
  · exact hi
  · rename_i values htxn
    obtain ⟨hsome, itf, hitf, -, hs⟩ := hi.entry values htxn
    obtain ⟨row, hrow⟩ := Option.isSome_iff_exists.1 hsome
    have hstat : ∀ k, { s with
        row := s.row.map fun row => { row with lldpStatistics := values }
        statsTxn := none
        cleared := false : Interface }.stat k = (values k).toInt := by
      intro k
      rw [hrow]
      rfl
    refine ⟨fun k => ?_, hi.zeros, ?_, fun _ h => (by cases h), fun _ h => (by cases h)⟩
    · obtain ⟨h0, hle, -⟩ := hi.values values htxn k
      rw [hstat k]
      exact ⟨h0, hle⟩
    · intro itf' hw hitf' hhw k
      cases hitf.symm.trans hitf'
      have hk := hi.hw itf hw hitf hhw k
      obtain ⟨-, -, -, hcur⟩ := hi.values values htxn k
      rw [hs] at hk ⊢
      unfold Interface.Counts
      rw [hstat k]
      exact ⟨hk.1, fun _ => hcur itf hw hitf hhw⟩
  · exact hi.without fun _ h => nomatch h

/-- A copy that is committed is not behind the row that it replaces. -/
theorem commitStats_stat (status : TxnStatus) (k : Counter) :
    s.stat k ≤ (s.commitStats status).stat k ∨ s.cleared = true := by
  unfold Interface.commitStats
  split
  · exact .inl (Int.le_refl _)
  · rename_i values htxn
    obtain ⟨row, hrow⟩ := Option.isSome_iff_exists.1 (hi.entry values htxn).1
    cases hc : s.cleared with
    | true => exact .inr rfl
    | false =>
      have hle := (hi.values values htxn k).2.2.1 hc
      refine .inl (Int.le_trans hle (Int.le_of_eq ?_))
      rw [hrow]
      rfl
  · exact .inl (Int.le_refl _)

end

theorem inv_started (hi : ∀ k, 0 ≤ s.stat k ∧ s.stat k ≤ s.events k) : s.started.Inv := by
  refine ⟨hi, (fun h => nomatch h), ?_, (fun _ h => nomatch h), (fun _ h => nomatch h)⟩
  intro itf hw hitf hhw
  obtain ⟨_, -, rfl⟩ := Option.map_eq_some_iff.1 hitf
  cases hhw

@[simp] theorem events_prepare (input : RunInput) : (s.prepare b input).events = s.events := by
  unfold Interface.prepare
  split
  · rfl
  split
  · rfl
  cases input.counters <;> rfl

@[simp] theorem events_commitConfirm (status : TxnStatus) :
    (s.commitConfirm status).events = s.events := by
  unfold Interface.commitConfirm
  split <;> rfl

theorem prepareStats_row :
    s.prepareStats.events = s.events ∧ s.prepareStats.row = s.row ∧
      s.prepareStats.cleared = s.cleared := by
  unfold Interface.prepareStats
  split
  · exact ⟨rfl, rfl, rfl⟩
  · cases s.itf <;> exact ⟨rfl, rfl, rfl⟩

@[simp] theorem events_commitStats (status : TxnStatus) :
    (s.commitStats status).events = s.events := by
  unfold Interface.commitStats
  split <;> rfl

variable {ev : Event}

theorem events_le (h : s.step b ev = some s') (k : Counter) : s.events k ≤ s'.events k := by
  cases ev with
  | work w =>
    obtain ⟨itf, -, h⟩ := Option.bind_eq_some_iff.1 h
    obtain ⟨hw, -, h⟩ := Option.bind_eq_some_iff.1 h
    obtain ⟨hw', -, h⟩ := Option.bind_eq_some_iff.1 h
    cases h
    exact Nat.le_add_right _ _
  | rowInserted dir link found =>
    obtain ⟨-, h⟩ := Option.ite_none_left_eq_some.1 h
    cases h
    exact Nat.le_refl _
  | rowModified dir link found =>
    obtain ⟨row, -, h⟩ := Option.bind_eq_some_iff.1 h
    cases h
    exact Nat.le_refl _
  | hwAdded hLport =>
    obtain ⟨-, h⟩ := Option.ite_none_left_eq_some.1 h
    cases h
    exact Nat.le_refl _
  | hwDeleted =>
    obtain ⟨-, h⟩ := Option.ite_none_right_eq_some.1 h
    cases h
    exact Nat.le_refl _
  | run input status =>
    cases h
    rw [events_commitConfirm, events_prepare]
  | statsRun status =>
    cases h
    rw [events_commitStats, prepareStats_row.1]
  | rowDeleted =>
    cases h
    exact Nat.le_refl _
  | restart =>
    cases h
    exact Nat.le_refl _

theorem step_inv (hi : s.Inv) (hb : s'.Bounded) (hg : Undisturbed s ev)
    (h : s.step b ev = some s') : s'.Inv := by
  have hb0 : s.Bounded := fun k => Nat.lt_of_le_of_lt (events_le h k) (hb k)
  cases ev with
  | work w => exact inv_work hi hb h
  | rowInserted dir link found => exact inv_rowInserted hi h
  | rowModified dir link found => exact inv_rowModified hi hg h
  | rowDeleted => exact inv_rowDeleted hi h
  | hwAdded hLport => exact inv_hwAdded hi hg h
  | hwDeleted => exact inv_hwDeleted hi h
  | run input status =>
    cases h
    exact (inv_run hi hg).1
  | statsRun status =>
    cases h
    exact inv_commitStats (inv_prepareStats hi hb0)
  | restart =>
    cases h
    exact inv_started hi.stat

theorem step_stat (hi : s.Inv) (hb : s'.Bounded) (hg : Undisturbed s ev) (h : s.step b ev = some s')
    (hrow : s.row ≠ none) (hrow' : s'.row ≠ none) (k : Counter) :
    s.stat k ≤ s'.stat k ∨ s.cleared = true := by
  have hb0 : s.Bounded := fun k => Nat.lt_of_le_of_lt (events_le h k) (hb k)
  cases ev with
  | work w =>
    obtain ⟨itf, -, h⟩ := Option.bind_eq_some_iff.1 h
    obtain ⟨hw, -, h⟩ := Option.bind_eq_some_iff.1 h
    obtain ⟨hw', -, h⟩ := Option.bind_eq_some_iff.1 h
    cases h
    exact .inl (Int.le_refl _)
  | rowInserted dir link found =>
    obtain ⟨hsome, -⟩ := Option.ite_none_left_eq_some.1 h
    exact absurd (Option.not_isSome_iff_eq_none.1 hsome) hrow
  | rowModified dir link found =>
    obtain ⟨row, hrow, h⟩ := Option.bind_eq_some_iff.1 h
    cases h
    unfold Interface.stat
    rw [hrow]
    exact .inl (Int.le_refl _)
  | rowDeleted =>
    cases h
    exact absurd rfl hrow'
  | hwAdded hLport =>
    obtain ⟨-, h⟩ := Option.ite_none_left_eq_some.1 h
    cases h
    exact .inl (Int.le_refl _)
  | hwDeleted =>
    obtain ⟨-, h⟩ := Option.ite_none_right_eq_some.1 h
    cases h
    exact .inl (Int.le_refl _)
  | run input status =>
    cases h
    exact .inl (Int.le_of_eq ((inv_run hi hg).2 k).symm)
  | statsRun status =>
    cases h
    obtain ⟨-, hsame, hcleared⟩ := @prepareStats_row s
    have hstat : s.prepareStats.stat k = s.stat k := by
      unfold Interface.stat
      rw [hsame]
    rw [← hstat, ← hcleared]
    exact commitStats_stat (inv_prepareStats hi hb0) status k
  | restart =>
    cases h
    exact .inl (Int.le_refl _)

theorem bounded_inductive (b : Build) :
    ((interface b).guard Undisturbed).Inductive fun s => s.Bounded → s.Inv where
  init s h _ := by
    obtain ⟨hstarted, hrow⟩ := h
    rw [hstarted]
    apply inv_started
    intro k
    unfold Interface.stat
    cases hr : s.row with
    | none => exact ⟨Int.le_refl 0, Int.natCast_nonneg _⟩
    | some row => exact hrow row hr k
  step s ev s' hs hst hb :=
    step_inv (hs fun k => Nat.lt_of_le_of_lt (events_le hst.2 k) (hb k)) hb hst.1 hst.2

end

/-- The row of an interface never counts backwards, unless a clear request has
been performed since the last copy: in every undisturbed run in which there are
fewer than 2^63 things to count. -/
theorem monotone_reachable (b : Build) (s s' : Interface) (ev : Event)
    (hs : ((interface b).guard Undisturbed).Reachable s)
    (hst : ((interface b).guard Undisturbed).step s ev s') (hb : ∀ k, s'.events k < 2 ^ 63)
    (row row' : Row) (hrow : s.row = some row) (hrow' : s'.row = some row') (k : Counter) :
    row.lldpStatistics k ≤ row'.lldpStatistics k ∨ s.cleared = true := by
  have hb0 : s.Bounded := fun k => Nat.lt_of_le_of_lt (events_le hst.2 k) (hb k)
  have hi := (bounded_inductive b).reachable s hs hb0
  have hstat := step_stat hi hb hst.1 hst.2 (by rw [hrow]; simp) (by rw [hrow']; simp) k
  unfold Interface.stat at hstat
  rw [hrow, hrow'] at hstat
  exact hstat.imp_left Int64.le_iff_toInt_le.2

/-- A daemon that has been restarted: the row counts to 5 everywhere. -/
def restarted : Interface where
  row := some { lldpStatistics := fun _ => 5 }
  itf := some { ifrow := true }
  events := fun _ => 5

theorem restarted_init (b : Build) : (interface b).init restarted := by
  refine ⟨rfl, fun row hrow k => ?_⟩
  cases hrow
  exact ⟨by show (0 : Int) ≤ (5 : Int64).toInt; decide, by show (5 : Int64).toInt ≤ (5 : Nat); decide⟩

/-- Two frames cannot be read, with a copy after each of them. -/
theorem monotone_reachable_restarted : ∃ s s' row row',
    ((interface openSwitch).guard Undisturbed).Reachable s ∧
      ((interface openSwitch).guard Undisturbed).step s (.statsRun .success) s' ∧
      s.row = some row ∧ s'.row = some row' ∧ s.cleared = false ∧
      row.lldpStatistics .rxDiscarded = 6 ∧ row'.lldpStatistics .rxDiscarded = 7 ∧
      ∀ k, row.lldpStatistics k ≤ row'.lldpStatistics k := by
  obtain ⟨s0, h0, s, hs, s', hst, row, hrow, row', hrow', hcleared, hevents, h6, h7⟩ :
      ∃ s0 ∈ restarted.step openSwitch (.hwAdded {}),
      ∃ s ∈ [Event.work .discard, .statsRun .success, .work .discard].foldlM
        (Interface.step openSwitch) s0,
      ∃ s' ∈ s.step openSwitch (.statsRun .success), ∃ row ∈ s.row, ∃ row' ∈ s'.row,
        s.cleared = false ∧ (∀ k ∈ lldpInterfaceStatisticsKeys, s'.events k < 2 ^ 63) ∧
          row.lldpStatistics .rxDiscarded = 6 ∧ row'.lldpStatistics .rxDiscarded = 7 := by
    decide
  have hstart : ((interface openSwitch).guard Undisturbed).Reachable s0 :=
    .step (l := .hwAdded {}) (.init (restarted_init openSwitch)) ⟨rfl, h0⟩
  have hreach := LTS.reachable_guard_foldlM (by simp [Undisturbed]) hstart hs
  have hb : ∀ k, s'.events k < 2 ^ 63 := fun k => hevents k (mem_keys k)
  refine ⟨s, s', row, row', hreach, ⟨trivial, hst⟩, hrow, hrow', hcleared, h6, h7, fun k => ?_⟩
  have hmono := monotone_reachable openSwitch s s'
    (.statsRun .success) hreach ⟨trivial, hst⟩ hb row row' hrow hrow' k
  rw [hcleared] at hmono
  exact hmono.resolve_right Bool.false_ne_true

/-- The direction of the interface is set to `off` between two copies. No clear
request has ever been performed. -/
theorem direction_resets_counters : ∃ s s' row row',
    (interface openSwitch).Reachable s ∧
      (interface openSwitch).step s (.statsRun .success) s' ∧ s.row = some row ∧
      s'.row = some row' ∧ s.cleared = false ∧ (∀ k, s'.events k < 2 ^ 63) ∧
      row.lldpStatistics .rxDiscarded = 6 ∧ row'.lldpStatistics .rxDiscarded = 0 := by
  obtain ⟨s, hs, s', hst, row, hrow, row', hrow', hcleared, hevents, h6, h0⟩ :
      ∃ s ∈ [Event.hwAdded {}, .work .discard, .statsRun .success,
        .rowModified (some (some .off)) .up (some {})].foldlM (Interface.step openSwitch) restarted,
      ∃ s' ∈ s.step openSwitch (.statsRun .success), ∃ row ∈ s.row, ∃ row' ∈ s'.row,
        s.cleared = false ∧ (∀ k ∈ lldpInterfaceStatisticsKeys, s'.events k < 2 ^ 63) ∧
          row.lldpStatistics .rxDiscarded = 6 ∧ row'.lldpStatistics .rxDiscarded = 0 := by
    decide
  have hb : ∀ k, s'.events k < 2 ^ 63 := fun k => hevents k (mem_keys k)
  exact ⟨s, s', row, row', LTS.reachable_foldlM (.init (restarted_init openSwitch)) hs, hst, hrow,
    hrow', hcleared, hb, h6, h0⟩

end Lldpd.Ovsdb.Statistics
