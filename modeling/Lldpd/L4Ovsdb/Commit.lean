import Lldpd.L3Daemon.Shortcut
import Lldpd.L4Ovsdb.Run

/-!
# No change is lost

`lldpd_ovsdb_nbrs_run` takes a note back when it builds the transaction, and
`lldpd_run` hears later whether that was committed. A commit that has to be
tried again schedules a rewrite of all rows, but after any other failure
nothing is scheduled and the note is gone (`change_lost_on_error`).

`changes_kept`: a change that was noted is still noted, or in the transaction
under way, or waits for the rewrite, or was in a transaction that ended in
success, in every run in which

* commits end in success or are to be tried again;
* no frame wipes a note out (`L4Ovsdb.Nbrs`);
* an interface is removed, or loses its row, only when the database has
  nothing to hear of it.
-/
namespace Lldpd.Ovsdb
open Core

/-- The frame is not looked at, or known, or learnt. -/
def Noted (b : Build) (s : Daemon) (hw : Hardware) (stack : Buffer 32) (frame : Bytes) : Prop :=
  frame.length < 18 ∨ hw.repeats frame = true ∨
    ∃ mode c p, Takes b s hw stack frame mode c p

def Attentive (b : Build) (o : Ovs) : OvsEvent → Prop
  | .daemon (.decode i frame _ stack) _ => ∀ hw, o.daemon.gHardware[i]? = some hw →
      hw.hRportChangeOpcode ≠ .noop → Noted b o.daemon hw stack frame
  | .daemon (.cleanup _) _ => ∀ x ∈ o.interfaces, x.1.hFlags = 0 →
      x.1.hRports = [] ∧ x.1.hRportChangeOpcode = .noop ∧ o.confirmTxn = none ∧
        o.confirmTxnTryAgain = false
  | .ifrow i _ => ∀ slot, o.slots[i]? = some slot → slot.ifrow.isSome = true →
      o.confirmTxn = none ∧ o.confirmTxnTryAgain = false
  | .run _ status => status = .success ∨ status = .tryAgain ∨ status = .incomplete
  | _ => True

/-- A change that the database has to get is noted or waits for the rewrite,
and one that was sent is in the transaction under way. -/
structure Ovs.NothingLost (o : Ovs) : Prop where
  dropped : o.dropped = false
  owed : ∀ x ∈ o.interfaces, x.2.owed = true →
    x.1.hRportChangeOpcode ≠ .noop ∨ o.confirmTxnTryAgain = true
  sent : ∀ x ∈ o.interfaces, x.2.sent = true → o.confirmTxn.isSome = true

/-! ## The notes -/

/-- A note on a neighbor means that there is one. -/
def Grounded (hw : Hardware) : Prop :=
  hw.hRportChangeOpcode = .noop ∨ hw.hRportChangeOpcode = .del ∨ hw.hRports ≠ []

section
variable {b : Build} {s s' : Daemon} {hw hw' : Hardware}

theorem forget_none {all : Bool} {gone : Port → Bool} (hnone : ∀ q ∈ hw.hRports, gone q = false) :
    (hw.forget b all gone).hRportChangeOpcode = hw.hRportChangeOpcode ∧
      (hw.forget b all gone).hRports = hw.hRports := by
  have hany : hw.hRports.any gone = false := by
    rw [List.any_eq_false]
    intro q hq
    rw [hnone q hq]
    decide
  constructor
  · show (if b.ovsdb && hw.hRports.any gone then _ else _) = _
    rw [hany, Bool.and_false]
    rfl
  · refine List.filter_eq_self.2 fun q hq => ?_
    rw [hnone q hq]
    rfl

variable (hb : b.ovsdb = true)
include hb

theorem grounded_forget (all : Bool) (gone : Port → Bool)
    (h : Grounded hw) : Grounded (hw.forget b all gone) := by
  cases hany : hw.hRports.any gone with
  | true =>
    refine .inr (.inl ?_)
    show (if b.ovsdb && hw.hRports.any gone then _ else _) = _
    rw [hb, hany]
    rfl
  | false =>
    obtain ⟨hop, hports⟩ := @forget_none b hw all gone fun q hq =>
      Bool.eq_false_of_not_eq_true (List.any_eq_false.1 hany q hq)
    unfold Grounded
    rw [hop, hports]
    exact h

variable {r : Hardware × Daemon} {stack : Buffer 32} {frame : Bytes}

theorem grounded_decode {now : Int} (hdec : lldpdDecode b now stack frame s hw = .ok r)
    (h : Grounded hw) : Grounded r.1 := by
  have hreset : (hw.reset b).hRportChangeOpcode = .noop := if_pos hb
  obtain ⟨hw', s'⟩ := r
  have hr := received hdec
  simp only at hr ⊢
  cases hr with
  | short _ => exact h
  | duplicate _ hdup =>
    refine .inr (.inr fun hnil => ?_)
    have hmap := map_refresh b now hw.hRportChangeOpcode (decapsulate frame) (hw.reset b)
      (k := fun _ => ()) fun _ => rfl
    rw [hnil] at hmap
    exact hRports_ne_nil hdup (List.map_eq_nil_iff.1 hmap.symm)
  | ignored _ _ _ => exact .inl hreset
  | vlans _ _ _ => exact .inl hreset
  | refused _ _ _ _ => exact .inl hreset
  | learnt ht =>
    refine .inr (.inr ?_)
    obtain ⟨a, hports⟩ := ht.hRports
    rw [hports]
    simp

theorem grounded_step {i : Nat} {ev : Event}
    (hst : Hardware.Step b s s' i hw ev hw') (h : Grounded hw) : Grounded hw' := by
  cases hst with
  | scan => exact h
  | decode hdec _ => exact grounded_decode hb hdec h
  | remoteCleanup => exact grounded_forget hb _ _ h
  | cleanup => exact grounded_forget hb _ _ h
  | other _ => exact h

omit hb in
/-- A note stays a note. -/
theorem forget_op_ne_noop (all : Bool) (gone : Port → Bool) (h : hw.hRportChangeOpcode ≠ .noop) :
    (hw.forget b all gone).hRportChangeOpcode ≠ .noop := by
  show (if b.ovsdb && hw.hRports.any gone then NbrOpcode.del else _) ≠ _
  split
  · decide
  · exact h

theorem refresh_opcode (now : Int) (cur : NbrOpcode) (frame : Bytes) :
    (refresh b now cur frame hw).hRportChangeOpcode =
      if cur = .mod ∨ cur = .add then cur else .upd := by
  show (if !b.ovsdb then _ else _) = _
  rw [hb]
  rfl

theorem learnt_opcode (op : NbrOpcode) (known : Bool) :
    op.learnt b known = .mod ∨ op.learnt b known = .add := by
  unfold NbrOpcode.learnt
  rw [hb]
  cases known with
  | true => exact .inl rfl
  | false => exact .inr rfl

theorem decode_op_ne_noop {now : Int} (hdec : lldpdDecode b now stack frame s hw = .ok r)
    (hnoted : Noted b s hw stack frame) (h : hw.hRportChangeOpcode ≠ .noop) :
    r.1.hRportChangeOpcode ≠ .noop := by
  rcases hnoted with hshort | hdup | ⟨mode, c, p, ht⟩
  · obtain rfl := lldpdDecode_short hshort hdec
    exact h
  · by_cases hshort : frame.length < 18
    · obtain rfl := lldpdDecode_short hshort hdec
      exact h
    · have hrefresh := @lldpdDecode_duplicate b now stack frame s hw (Nat.not_lt.1 hshort) hdup
      obtain rfl := Except.ok.inj (hrefresh.symm.trans hdec)
      rw [refresh_opcode hb]
      split
      · exact h
      · decide
  · obtain ⟨cnt, hlearn⟩ := ht.lldpdDecode now
    obtain rfl := Except.ok.inj (hlearn.symm.trans hdec)
    obtain ⟨known, a, fast, heq⟩ := @Takes.learn_eq b now frame c p s hw stack mode cnt ht
    rw [heq]
    show hw.hRportChangeOpcode.learnt b known ≠ _
    rcases learnt_opcode hb hw.hRportChangeOpcode known with hop | hop <;> rw [hop] <;> decide

theorem step_op_ne_noop {i : Nat} {ev : Event}
    (hst : Hardware.Step b s s' i hw ev hw') (h : hw.hRportChangeOpcode ≠ .noop)
    (hnoted : ∀ frame now stack, ev = .decode i frame now stack → Noted b s hw stack frame) :
    hw'.hRportChangeOpcode ≠ .noop := by
  cases hst with
  | scan => exact h
  | decode hdec _ => exact decode_op_ne_noop hb hdec (hnoted _ _ _ rfl) h
  | remoteCleanup => exact forget_op_ne_noop _ _ h
  | cleanup => exact forget_op_ne_noop _ _ h
  | other _ => exact h

end

/-! ## One interface -/

/-- The invariant, for an interface and its row: `txn` is whether a transaction
is under way, `again` whether the rewrite is scheduled. -/
structure Kept (txn again : Bool) (hw : Hardware) (slot : Slot) : Prop where
  grounded : Grounded hw
  owed : slot.owed = true → hw.hRportChangeOpcode ≠ .noop ∨
    (txn = false ∧ again = true ∧ slot.ifrow.isSome = true)
  sent : slot.sent = true → txn = true ∧ slot.ifrow.isSome = true
  written : slot.written.isSome = true → txn = true

section
variable {b : Build} {txn again : Bool} {hw hw' : Hardware} {slot : Slot}

theorem record_owed : (slot.record hw).owed = true ↔
    slot.owed = true ∨ hw.hRportChangeOpcode ≠ .noop := by
  show (slot.owed || hw.hRportChangeOpcode != .noop) = true ↔ _
  rw [Bool.or_eq_true, bne_iff_ne]

/-- An interface that goes on with its notes. -/
theorem Kept.record (h : Kept txn again hw slot) (hgrounded : Grounded hw')
    (hnote : hw.hRportChangeOpcode ≠ .noop → hw'.hRportChangeOpcode ≠ .noop) :
    Kept txn again hw' (slot.record hw') := by
  refine ⟨hgrounded, fun howed => ?_, h.sent, h.written⟩
  rcases record_owed.1 howed with howed | hop
  · exact (h.owed howed).imp_left hnote
  · exact .inl hop

theorem kept_new (hop : hw.hRportChangeOpcode = .noop) (ifrow : Option IfRow) :
    Kept txn again hw (Slot.record { ifrow := ifrow } hw) := by
  refine ⟨.inl hop, fun howed => ?_, fun h => ?_, fun h => ?_⟩
  · rcases record_owed.1 howed with h | h
    · cases h
    · exact absurd hop h
  · cases h
  · cases h

/-- The row of an interface that the database knows everything of comes or
goes. -/
theorem Kept.ifrow (h : Kept txn again hw slot)
    (hidle : slot.ifrow.isSome = true → txn = false ∧ again = false) (ifrow : Option IfRow) :
    Kept txn again hw { slot with ifrow := ifrow, written := none } := by
  refine ⟨h.grounded, fun howed => ?_, fun hsent => ?_, fun hwritten => ?_⟩
  · rcases h.owed howed with hop | ⟨-, hagain, hsome⟩
    · exact .inl hop
    · rw [(hidle hsome).2] at hagain
      cases hagain
  · obtain ⟨htxn, hsome⟩ := h.sent hsent
    rw [(hidle hsome).1] at htxn
    cases htxn
  · cases hwritten

end

/-! ## The transaction -/

section
variable {b : Build} {o o' : Ovs} {again : Bool}

theorem mem_of_mapM {α β ε : Type} {f : α → Except ε β} {l : List α} {r : List β}
    (h : l.mapM f = .ok r) : ∀ y ∈ r, ∃ x ∈ l, f x = .ok y := by
  induction l generalizing r with
  | nil =>
    cases h
    simp
  | cons x l ih =>
    rw [List.mapM_cons] at h
    cases hx : f x with
    | error e => rw [hx] at h; cases h
    | ok y =>
      rw [hx] at h
      cases hl : l.mapM f with
      | error e =>
        rw [hl] at h
        cases h
      | ok ys =>
        rw [hl] at h
        cases h
        intro z hz
        rcases List.mem_cons.1 hz with rfl | hz
        · exact ⟨x, List.mem_cons_self, hx⟩
        · obtain ⟨x', hx', hf⟩ := ih hl z hz
          exact ⟨x', List.mem_cons_of_mem _ hx', hf⟩

theorem eachHardware_gHardware {f : Hardware → Heap Chassis → Hardware × Heap Chassis}
    {g : Hardware → Hardware} (hf : ∀ hw h, (f hw h).1 = g hw) (s : Daemon) :
    (eachHardware f s).gHardware = s.gHardware.map g := by
  have hfold : ∀ (l kept : List Hardware) (h : Heap Chassis),
      (l.foldl (fun acc hw => (acc.1 ++ [(f hw acc.2).1], (f hw acc.2).2)) (kept, h)).1 =
        kept ++ l.map g := by
    intro l
    induction l with
    | nil => simp
    | cons hw l ih =>
      intro kept h
      rw [List.foldl_cons, ih, hf, List.append_assoc]
      rfl
  exact hfold s.gHardware [] s.gChassis

def cleared (b : Build) (r : Clears) (hw : Hardware) : Hardware :=
  let hw := if r.table then (clearTable b hw []).1 else hw
  if r.counters then (clearCounters b hw []).1 else hw

theorem clear_gHardware (b : Build) (r : Clears) (o : Ovs) :
    (o.clear b r).daemon.gHardware = o.daemon.gHardware.map (cleared b r) := by
  have htable : ∀ hw h, (clearTable b hw h).1 = (clearTable b hw []).1 := fun hw h => by
    rw [clearTable_eq, clearTable_eq]
  have hcounters : ∀ hw h, (clearCounters b hw h).1 = (clearCounters b hw []).1 := fun hw h => by
    rw [clearCounters_eq, clearCounters_eq]
  unfold Ovs.clear cleared
  cases r.table <;> cases r.counters <;>
    simp [eachHardware_gHardware htable, eachHardware_gHardware hcounters]

theorem interfaces_clear (b : Build) (r : Clears) (o : Ovs) :
    (o.clear b r).interfaces = o.interfaces.map fun x => (cleared b r x.1,
      Slot.record (if r.table || r.counters then x.2.write {} else x.2) (cleared b r x.1)) := by
  have hslots : (o.clear b r).slots = List.zipWith (fun hw slot => slot.record hw)
      (o.daemon.gHardware.map (cleared b r))
      (o.slots.map fun slot => if r.table || r.counters then slot.write {} else slot) := by
    rw [← clear_gHardware]
    show List.zipWith _ _ (if r.table || r.counters then _ else _) = _
    cases r.table || r.counters <;> simp [Ovs.clear]
  rw [Ovs.interfaces, clear_gHardware, hslots, zip_zipWith_self, List.zip_map, List.map_map]
  rfl

/-- The invariant while the transaction is built: what is sent is written. -/
structure Built (hw : Hardware) (slot : Slot) : Prop where
  grounded : Grounded hw
  owed : slot.owed = true → hw.hRportChangeOpcode ≠ .noop
  sent : slot.sent = true → slot.written.isSome = true ∧ slot.ifrow.isSome = true

variable {hw : Hardware} {slot : Slot}

theorem Kept.built (h : Kept false false hw slot) : Built hw slot := by
  refine ⟨h.grounded, fun howed => ?_, fun hsent => ?_⟩
  · rcases h.owed howed with hop | ⟨-, hagain, -⟩
    · exact hop
    · cases hagain
  · cases (h.sent hsent).1

@[simp] theorem write_ifrow (slot : Slot) (row : IfRow) : (slot.write row).ifrow = slot.ifrow := by
  unfold Slot.write
  split <;> rfl

@[simp] theorem write_owed (slot : Slot) (row : IfRow) : (slot.write row).owed = slot.owed := by
  unfold Slot.write
  split <;> rfl

@[simp] theorem write_sent (slot : Slot) (row : IfRow) : (slot.write row).sent = slot.sent := by
  unfold Slot.write
  split <;> rfl

theorem write_written (row : IfRow) (h : slot.ifrow.isSome = true) :
    (slot.write row).written = some row := by
  unfold Slot.write
  rw [if_pos h]

theorem Built.write (h : Built hw slot) (row : IfRow) : Built hw (slot.write row) := by
  refine ⟨h.grounded, ?_, ?_⟩
  · rw [write_owed]
    exact h.owed
  · rw [write_sent, write_ifrow]
    intro hsent
    have hsome := (h.sent hsent).2
    rw [write_written row hsome]
    exact ⟨rfl, hsome⟩

/-- What a cleanup of all ports keeps of note and ports, the requests keep. -/
theorem cleared_keeps {P : NbrOpcode → List Port → Prop} (r : Clears)
    (hP : ∀ hw : Hardware, P hw.hRportChangeOpcode hw.hRports →
      P (hw.forget b true fun _ => true).hRportChangeOpcode
        (hw.forget b true fun _ => true).hRports)
    {hw : Hardware} (h : P hw.hRportChangeOpcode hw.hRports) :
    P (cleared b r hw).hRportChangeOpcode (cleared b r hw).hRports := by
  have htable : ∀ hw : Hardware, P hw.hRportChangeOpcode hw.hRports →
      P (clearTable b hw []).1.hRportChangeOpcode (clearTable b hw []).1.hRports := by
    intro hw h
    rw [clearTable_eq]
    exact hP hw h
  have hcounters : ∀ hw : Hardware, P hw.hRportChangeOpcode hw.hRports →
      P (clearCounters b hw []).1.hRportChangeOpcode (clearCounters b hw []).1.hRports := by
    intro hw h
    rw [clearCounters_eq]
    exact hP hw h
  unfold cleared
  cases r.table with
  | true =>
    cases r.counters with
    | true => exact hcounters _ (htable _ h)
    | false => exact htable _ h
  | false =>
    cases r.counters with
    | true => exact hcounters _ h
    | false => exact h

theorem Built.clear (hb : b.ovsdb = true) (r : Clears)
    (h : Built hw slot) : Built (cleared b r hw) (slot.record (cleared b r hw)) := by
  have hgrounded : Grounded (cleared b r hw) :=
    cleared_keeps (P := fun op ports => op = .noop ∨ op = .del ∨ ports ≠ []) r
      (fun _ hg => grounded_forget hb true _ hg) h.grounded
  have hnote : hw.hRportChangeOpcode ≠ .noop → (cleared b r hw).hRportChangeOpcode ≠ .noop :=
    fun hop => cleared_keeps (P := fun op _ => op ≠ .noop) r
      (fun _ hn => forget_op_ne_noop true _ hn) hop
  refine ⟨hgrounded, fun howed => ?_, h.sent⟩
  rcases record_owed.1 howed with howed | hop
  · exact hnote (h.owed howed)
  · exact hop

/-- What is noted is written. -/
theorem nbrWrite_some {ifrow : IfRow} {h : Heap Chassis} {w : Option IfRow}
    (hgrounded : Grounded hw) (hop : hw.hRportChangeOpcode ≠ .noop)
    (hw' : nbrWrite h hw ifrow = .ok w) : w.isSome = true := by
  have hcons : hw.hRportChangeOpcode ≠ .del → ∃ q qs, hw.hRports = q :: qs := by
    intro hdel
    rcases hgrounded with h | h | h
    · exact absurd h hop
    · exact absurd h hdel
    · exact List.exists_cons_of_ne_nil h
  rcases nbrWrite_cases hw' with ⟨h, -⟩ | ⟨-, rfl⟩ | ⟨-, hdel, rfl⟩ | ⟨hupd, -, rfl⟩
  · exact absurd h hop
  · rfl
  · obtain ⟨q, qs, hq⟩ := hcons hdel
    rw [hq]
    rfl
  · obtain ⟨q, qs, hq⟩ := hcons (by rw [hupd]; decide)
    rw [hq]
    rfl

theorem row_isSome : slot.row.isSome = slot.ifrow.isSome :=
  Option.isSome_map ..

theorem Built.nbrsRunStep {x y : Hardware × Slot} {h : Heap Chassis} (hbuilt : Built x.1 x.2)
    (hy : nbrsRunStep h x = .ok y) : Built y.1 y.2 := by
  rcases nbrsRunStep_cases hy with ⟨-, rfl⟩ | ⟨ifrow, w, hrow, hw, hhw, hnone, hwrite⟩
  · exact hbuilt
  have hnoop : y.1.hRportChangeOpcode = .noop := by rw [hhw]
  cases w with
  | none =>
    have hidle : x.2.owed = false := by
      refine Bool.eq_false_of_not_eq_true fun howed => ?_
      cases nbrWrite_some hbuilt.grounded (hbuilt.owed howed) hw
    rw [hnone rfl]
    refine ⟨.inl hnoop, fun howed => ?_, hbuilt.sent⟩
    rw [hidle] at howed
    cases howed
  | some row =>
    have hsome : x.2.ifrow.isSome = true := by
      rw [← row_isSome, hrow]
      rfl
    rw [hwrite row rfl]
    refine ⟨.inl hnoop, fun howed => (by cases howed), fun _ => ?_⟩
    show (x.2.write row).written.isSome = true ∧ (x.2.write row).ifrow.isSome = true
    rw [write_written row hsome, write_ifrow]
    exact ⟨rfl, hsome⟩

theorem Built.ageOut (h : Built hw slot) (now : Int) : Built hw (ageOut now slot) := by
  unfold Ovsdb.ageOut
  split
  · exact h.write _
  · exact h

/-- Every interface is `Built` in the transaction of `lldpd_ovsdb_nbrs_run`. -/
theorem nbrsRun_kept (hb : b.ovsdb = true) {now : Int}
    (hkept : ∀ x ∈ o.interfaces, Kept false false x.1 x.2)
    (h : lldpdOvsdbNbrsRun b now o = .ok o') :
    ∀ x ∈ o'.interfaces, Kept o'.confirmTxn.isSome false x.1 x.2 := by
  obtain ⟨r, interfaces, -, hm, rfl, hifs⟩ := nbrsRun_cases h
  intro x hx
  rw [hifs] at hx
  -- through the requests, the loop over the interfaces and the loop over the rows
  have hbuilt : Built x.1 x.2 := by
    obtain ⟨y, hy, rfl⟩ := List.mem_map.1 hx
    obtain ⟨z, hz, hstep⟩ := mem_of_mapM hm y hy
    rw [interfaces_clear] at hz
    obtain ⟨w, hw, rfl⟩ := List.mem_map.1 hz
    refine (Built.nbrsRunStep ?_ hstep).ageOut now
    refine Built.clear hb r ?_
    split
    · exact (hkept w hw).built.write _
    · exact (hkept w hw).built
  have htxn : x.2.written.isSome = true → Option.isSome (if (r.table || r.counters) ||
      (interfaces.map fun x => (x.1, ageOut now x.2)).any fun x => x.2.written.isSome then
        some (if r.table || r.counters then some r.status else none) else none) = true := by
    intro hwritten
    rw [if_pos]
    · rfl
    · rw [Bool.or_eq_true, List.any_eq_true]
      exact .inr ⟨x, hx, hwritten⟩
  exact ⟨hbuilt.grounded, fun howed => .inl (hbuilt.owed howed),
    fun hsent => ⟨htxn (hbuilt.sent hsent).1, (hbuilt.sent hsent).2⟩, htxn⟩

theorem changeAll_kept (hkept : ∀ x ∈ o.interfaces, Kept false true x.1 x.2) :
    ∀ x ∈ (lldpdOvsdbNbrsChangeAll o).interfaces, Kept true true x.1 x.2 := by
  intro x hx
  have hx : x ∈ (o.withInterfaces (o.interfaces.map (changeAllStep o.daemon.gChassis))).interfaces :=
    hx
  rw [interfaces_withInterfaces] at hx
  obtain ⟨y, hy, rfl⟩ := List.mem_map.1 hx
  have hk := hkept y hy
  unfold changeAllStep
  cases hrow : y.2.row with
  | none =>
    have hnone : ¬ y.2.ifrow.isSome = true := by
      rw [← row_isSome, hrow]
      decide
    refine ⟨hk.grounded, fun howed => ?_, fun hsent => ?_, fun _ => rfl⟩
    · rcases hk.owed howed with hop | ⟨-, -, hsome⟩
      · exact .inl hop
      · exact absurd hsome hnone
    · exact absurd (hk.sent hsent).2 hnone
  | some ifrow =>
    have hsome : y.2.ifrow.isSome = true := by
      rw [← row_isSome, hrow]
      rfl
    refine ⟨.inl rfl, fun howed => (by cases howed), fun _ => ⟨rfl, ?_⟩, fun _ => rfl⟩
    show (y.2.write _).ifrow.isSome = true
    rw [write_ifrow]
    exact hsome

theorem commit_kept {txn : Option Status} {status : TxnStatus} (htxn : o.confirmTxn = some txn)
    (hkept : ∀ x ∈ o.interfaces, Kept true o.confirmTxnTryAgain x.1 x.2)
    (hstatus : status = .success ∨ status = .tryAgain ∨ status = .incomplete) :
    ∀ x ∈ (o.commit txn status).interfaces,
      Kept (o.commit txn status).confirmTxn.isSome (o.commit txn status).confirmTxnTryAgain
        x.1 x.2 := by
  have howed : ∀ x ∈ o.interfaces, x.2.owed = true → x.1.hRportChangeOpcode ≠ .noop := by
    intro x hx howed
    rcases (hkept x hx).owed howed with hop | ⟨h, -, -⟩
    · exact hop
    · cases h
  rcases hstatus with rfl | rfl | rfl
  · intro x hx
    obtain ⟨y, hy, rfl⟩ := map_interfaces (o := o) hx
    exact ⟨(hkept y hy).grounded, fun h => .inl (howed y hy h), fun h => (by cases h),
      fun h => (by cases h)⟩
  · intro x hx
    obtain ⟨y, hy, rfl⟩ := map_interfaces (o := o) hx
    refine ⟨(hkept y hy).grounded, fun h => ?_, fun h => (by cases h), fun h => (by cases h)⟩
    rcases Bool.or_eq_true _ _ ▸ h with h | h
    · exact .inl (howed y hy h)
    · exact .inr ⟨rfl, rfl, ((hkept y hy).sent h).2⟩
  · intro x hx
    show Kept o.confirmTxn.isSome _ _ _
    rw [htxn]
    exact hkept x hx

end

/-! ## All interfaces -/

structure Ovs.AllKept (o : Ovs) : Prop where
  length : o.slots.length = o.daemon.gHardware.length
  dropped : o.dropped = false
  detached : ∀ hw ∈ o.daemon.detached, hw.hRportChangeOpcode = .noop
  interfaces : ∀ x ∈ o.interfaces, Kept o.confirmTxn.isSome o.confirmTxnTryAgain x.1 x.2

section
variable {b : Build} {cfg : Config} {protocols : List Protocol} {o o' : Ovs}

theorem Ovs.AllKept.nothingLost (h : o.AllKept) : o.NothingLost :=
  ⟨h.dropped, fun x hx howed => ((h.interfaces x hx).owed howed).imp_right fun h => h.2.1,
    fun x hx hsent => ((h.interfaces x hx).sent hsent).1⟩

variable {ifrow : Option IfRow}

/-- No interface goes that the database has to hear of. -/
theorem drops_eq_false {ev : Event} (h : o.AllKept)
    (hatt : Attentive b o (.daemon ev ifrow)) : drops o ev = false := by
  cases ev with
  | cleanup now =>
    refine List.any_eq_false.2 fun x hx => ?_
    by_cases hflags : x.1.hFlags = 0
    · obtain ⟨hports, hop, htxn, hagain⟩ := hatt x hx hflags
      have hk := h.interfaces x hx
      rw [htxn, hagain] at hk
      have howed : x.2.owed = false := Bool.eq_false_of_not_eq_true fun howed =>
        hk.built.owed howed hop
      have hsent : x.2.sent = false := Bool.eq_false_of_not_eq_true fun hsent =>
        absurd (hk.sent hsent).1 (by decide)
      simp [howed, hsent, hop, hports]
    · simp [hflags]
  | _ => rfl

theorem daemon_kept (hb : b.ovsdb = true) {ev : Event} (h : o.AllKept)
    (hatt : Attentive b o (.daemon ev ifrow)) (hst : o.step b (.daemon ev ifrow) = some o') :
    o'.AllKept := by
  obtain ⟨hstep, hlen, hpairs⟩ := daemon_interfaces hst h.length
  obtain ⟨htxn, hagain, hdropped⟩ := daemon_txn hst
  refine ⟨hlen, ?_, step_detached (fun _ => rfl) hstep h.detached, fun x hx => ?_⟩
  · rw [hdropped, h.dropped, drops_eq_false h hatt]
    rfl
  · obtain ⟨slot, hslot, hpair⟩ := hpairs x hx
    rw [htxn, hagain, hslot]
    cases hpair with
    | @old i hw hget hslot hst =>
      have hk := h.interfaces _ (mem_interfaces hget hslot)
      refine hk.record (grounded_step hb hst hk.grounded) fun hop => ?_
      refine step_op_ne_noop hb hst hop fun frame now stack hev => ?_
      subst hev
      exact hatt hw hget hop
    | @new i hev hget hslot =>
      rw [hslot]
      exact kept_new (h.detached _ (List.mem_of_getElem? hget)) ifrow

theorem ifrow_kept {i : Nat} (h : o.AllKept)
    (hatt : Attentive b o (.ifrow i ifrow)) (hst : o.step b (.ifrow i ifrow) = some o') :
    o'.AllKept := by
  have hfrom := ifrow_interfaces hst
  obtain ⟨slot, hslot, hst⟩ := Option.bind_eq_some_iff.1 hst
  cases hst
  refine ⟨List.length_set.trans h.length, h.dropped, h.detached, fun x hx => ?_⟩
  rcases hfrom x hx with hx | ⟨slot, hslot, hget, heq⟩
  · exact h.interfaces x hx
  · rw [heq]
    refine (h.interfaces _ (mem_interfaces hget hslot)).ifrow (fun hsome => ?_) ifrow
    obtain ⟨htxn, hagain⟩ := hatt slot hslot hsome
    exact ⟨by rw [htxn]; rfl, hagain⟩

theorem detached_clear (b : Build) (r : Clears) (o : Ovs) :
    (o.clear b r).daemon.detached = o.daemon.detached := by
  unfold Ovs.clear
  cases r.table <;> cases r.counters <;> rfl

variable (hb : b.ovsdb = true)
include hb

theorem prepare_kept {now : Int} (h : o.AllKept) (hprepare : o.prepare b now = .ok o') :
    o'.AllKept := by
  rcases prepare_cases hprepare with ⟨-, rfl⟩ | ⟨htxn, hagain, rfl⟩ | ⟨htxn, hagain, hrun⟩
  · exact h
  · have hkept := h.interfaces
    rw [htxn, hagain] at hkept
    refine ⟨length_withInterfaces _ _, h.dropped, h.detached, fun x hx => ?_⟩
    show Kept true o.confirmTxnTryAgain x.1 x.2
    rw [hagain]
    exact changeAll_kept hkept x hx
  · have hkept := h.interfaces
    rw [htxn, hagain] at hkept
    have hbuilt := nbrsRun_kept hb hkept hrun
    obtain ⟨r, interfaces, -, -, rfl, -⟩ := nbrsRun_cases hrun
    refine ⟨length_withInterfaces _ _, h.dropped, ?_, fun x hx => ?_⟩
    · show ∀ hw ∈ (o.clear b r).daemon.detached, _
      rw [detached_clear]
      exact h.detached
    · have hbuilt := hbuilt x hx
      rw [← hagain] at hbuilt
      exact hbuilt

theorem run_kept {now : Int} {status : TxnStatus} (h : o.AllKept)
    (hstatus : status = .success ∨ status = .tryAgain ∨ status = .incomplete)
    (hrun : lldpdRun b now status o = .ok o') : o'.AllKept := by
  obtain ⟨o1, hprepare, ⟨-, rfl⟩ | ⟨txn, htxn, rfl⟩⟩ := lldpdRun_cases hrun
  · exact prepare_kept hb h hprepare
  · have h1 := prepare_kept hb h hprepare
    have hkept := h1.interfaces
    rw [htxn] at hkept
    refine ⟨?_, ?_, ?_, commit_kept htxn hkept hstatus⟩
    · rcases hstatus with rfl | rfl | rfl
      · exact (List.length_map _).trans h1.length
      · exact (List.length_map _).trans h1.length
      · exact h1.length
    · rcases hstatus with rfl | rfl | rfl <;> exact h1.dropped
    · rcases hstatus with rfl | rfl | rfl <;> exact h1.detached

theorem allKept_reachable (hs : ((ovs b cfg protocols).guard (Attentive b)).Reachable o) :
    o.AllKept := by
  induction hs with
  | init hi =>
    obtain ⟨s, status, ⟨c, -, -, rfl⟩, rfl⟩ := hi
    refine ⟨rfl, rfl, fun hw hmem => ?_, fun x hx => ?_⟩
    · cases hmem
    · cases hx
  | @step o o' ev _ hst ih =>
    obtain ⟨hatt, hst⟩ := hst
    cases ev with
    | daemon ev ifrow => exact daemon_kept hb ih hatt hst
    | ifrow i ifrow => exact ifrow_kept ih hatt hst
    | status status =>
      cases hst
      exact ⟨ih.length, ih.dropped, ih.detached, ih.interfaces⟩
    | run now status => exact run_kept hb ih hatt (run_of_step hst)

end

/-- In every run in which commits end in success or are to be tried again, no
frame wipes a note out, and no interface or row goes that the database has to
hear of, no change of a neighbor is lost. -/
theorem changes_kept (b : Build) (hb : b.ovsdb = true) (cfg : Config) (protocols : List Protocol)
    (o : Ovs) (hs : ((ovs b cfg protocols).guard (Attentive b)).Reachable o) : o.NothingLost :=
  (allKept_reachable hb hs).nothingLost

def oneRow : Ovs := { daemon := oneInterface, slots := [{ ifrow := some {} }] }

def oneDetached : Ovs :=
  { daemon := { oneInterface with gHardware := [], detached := oneInterface.gHardware } }

theorem oneRow_reachable {G : Ovs → OvsEvent → Prop}
    (halloc : G { daemon := Daemon.started {} lldpOnly } (.daemon .allocHardware none))
    (hadd : G oneDetached (.daemon (.addHardware 0) (some {}))) :
    ((ovs openSwitch {} lldpOnly).guard G).Reachable oneRow := by
  have hinit : (ovs openSwitch {} lldpOnly).init { daemon := Daemon.started {} lldpOnly } :=
    ⟨_, ∅, started_startUp, rfl⟩
  have halloc : ((ovs openSwitch {} lldpOnly).guard G).step
      { daemon := Daemon.started {} lldpOnly } (.daemon .allocHardware none) oneDetached :=
    ⟨halloc, rfl⟩
  have hadd : ((ovs openSwitch {} lldpOnly).guard G).step oneDetached
      (.daemon (.addHardware 0) (some {})) oneRow := ⟨hadd, rfl⟩
  exact .step (.step (.init hinit) halloc) hadd

def heardOnRow : OvsEvent :=
  .daemon (.greeting 0) none

theorem heardOnRow_attentive : Attentive openSwitch oneRow heardOnRow := by
  intro hw hget hop
  cases hget
  exact absurd rfl hop

theorem changes_kept_again : ∃ o,
    ((ovs openSwitch {} lldpOnly).guard (Attentive openSwitch)).Reachable o ∧
      o.NothingLost ∧ ∃ hw slot, o.interfaces = [(hw, slot)] ∧ slot.owed = true ∧
        hw.hRportChangeOpcode = .noop ∧ o.confirmTxnTryAgain = true := by
  obtain ⟨o, hheard, o', hrun, ⟨hw, slot⟩, -, hone, howed, hop, hagain⟩ :
      ∃ o ∈ oneRow.step openSwitch heardOnRow, ∃ o' ∈ o.step openSwitch (.run 0 .tryAgain),
      ∃ x ∈ o'.interfaces, o'.interfaces = [x] ∧ x.2.owed = true ∧
        x.1.hRportChangeOpcode = .noop ∧ o'.confirmTxnTryAgain = true := by
    decide
  have hreach : ((ovs openSwitch {} lldpOnly).guard (Attentive openSwitch)).Reachable o' :=
    .step (l := .run 0 .tryAgain) (.step (oneRow_reachable trivial trivial)
      ⟨heardOnRow_attentive, hheard⟩)
      ⟨.inr (.inl rfl), hrun⟩
  exact ⟨o', hreach, changes_kept openSwitch rfl {} lldpOnly o' hreach, hw, slot, hone,
    howed, hop, hagain⟩

/-- The commit of a new neighbor fails for good. The neighbor is still there
and the row is still empty, but the note is gone, no transaction is under way
and no rewrite is scheduled. -/
theorem change_lost_on_error : ∃ o o' hw slot,
    (ovs openSwitch {} lldpOnly).Reachable oneRow ∧
      oneRow.step openSwitch heardOnRow = some o ∧ o.step openSwitch (.run 0 .error) = some o' ∧
      o'.interfaces = [(hw, slot)] ∧ hw.hRports ≠ [] ∧ slot.ifrow = some {} ∧
      slot.owed = true ∧ hw.hRportChangeOpcode = .noop ∧ o'.confirmTxn = none ∧
      o'.confirmTxnTryAgain = false := by
  obtain ⟨o, hheard, o', hrun, ⟨hw, slot⟩, -, hone, hports, hrow, howed, hop, htxn, hagain⟩ :
      ∃ o ∈ oneRow.step openSwitch heardOnRow, ∃ o' ∈ o.step openSwitch (.run 0 .error),
      ∃ x ∈ o'.interfaces, o'.interfaces = [x] ∧ x.1.hRports ≠ [] ∧ x.2.ifrow = some {} ∧
        x.2.owed = true ∧ x.1.hRportChangeOpcode = .noop ∧ o'.confirmTxn.isNone = true ∧
          o'.confirmTxnTryAgain = false := by
    decide
  exact ⟨o, o', hw, slot, LTS.reachable_of_guard (oneRow_reachable (G := fun _ _ => True) trivial
    trivial), hheard, hrun, hone, hports, hrow, howed, hop, Option.isNone_iff_eq_none.1 htxn, hagain⟩

end Lldpd.Ovsdb
