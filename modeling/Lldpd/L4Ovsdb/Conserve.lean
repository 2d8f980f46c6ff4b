import Lldpd.L3Daemon.Counters
import Lldpd.L4Ovsdb.Nbrs

/-!
# Conservation of neighbors

The CLI shows the number of neighbors as the difference of two counters: the
ports inserted and the ports deleted. Frames, expiry and a request to clear
the table keep the difference in step with the table. A request to clear the
counters empties the table and sets one of the two back, so from then on the
difference is too large by what had been inserted (`cleared_counters_drift`).

`neighbors_conserved` is about one interface and whatever happens to it, with
any other interfaces around: the difference is the number of its neighbors as
long as the counters are cleared only while nothing has been inserted, and the
figure of the CLI is the sum of these numbers.
-/
namespace Lldpd.Ovsdb
open Core

/-- What happens to an interface. The rest of the daemon, and the chassis at
that time, may be anything. -/
inductive IfEvent where
  /-- `lldpd_decode` -/
  | decode (s : Daemon) (frame : Bytes) (now : Int) (stack : Buffer 32)
  /-- `lldpd_remote_cleanup`: from `lldpd_cleanup`, or to clear the table -/
  | remoteCleanup (expire all : Bool) (gChassis : Heap Chassis) (now : Int)
  /-- `lldpd_clear_counters` -/
  | clearCounters (gChassis : Heap Chassis)
  /-- The scan of the interfaces. -/
  | scan (flags : Nat)

def ifStep (b : Build) (hw : Hardware) : IfEvent → Option Hardware
  | .decode s frame now stack => (lldpdDecode b now stack frame s hw).toOption.map Prod.fst
  | .remoteCleanup expire all gChassis now =>
    some (lldpdRemoteCleanup b expire all now hw gChassis).1
  | .clearCounters gChassis => some (clearCounters b hw gChassis).1
  | .scan flags => some { hw with hFlags := flags }

/-- An interface, from the moment it has no neighbors and its counters are
zero. -/
def interface (b : Build) : LTS Hardware IfEvent :=
  .ofFn (fun hw => hw.hRports = [] ∧ hw.hInsertCnt = 0 ∧ hw.hDeleteCnt = 0) (ifStep b)

/-- The counters are cleared only while nothing has been inserted. -/
def NoneInserted (hw : Hardware) : IfEvent → Prop
  | .clearCounters _ => hw.hInsertCnt = 0
  | _ => True

/-- The difference of the counters is the number of neighbors. -/
def Conserved (hw : Hardware) : Prop :=
  hw.hInsertCnt - hw.hDeleteCnt = UInt64.ofNat hw.hRports.length

/-- `Total neighbor entries`. The rows have the counters of the interfaces, and
the CLI adds them up in an `unsigned int`.
mirrors lldp_vty.c:1308-1373 -/
def totalNeighborEntries (interfaces : List Hardware) : UInt32 :=
  let totalInsertCount := interfaces.foldl (fun n hw => n + hw.hInsertCnt.toUInt32) 0
  let totalDeleteCount := interfaces.foldl (fun n hw => n + hw.hDeleteCnt.toUInt32) 0
  totalInsertCount - totalDeleteCount

section
variable {b : Build} {hw hw' : Hardware}

theorem conserved_iff :
    Conserved hw ↔ hw.hInsertCnt = UInt64.ofNat hw.hRports.length + hw.hDeleteCnt :=
  UInt64.sub_eq_iff_eq_add

variable {r : Hardware × Daemon} {stack : Buffer 32} {frame : Bytes}

theorem decode_hDeleteCnt {now : Int} {s : Daemon} (h : lldpdDecode b now stack frame s hw = .ok r) :
    r.1.hDeleteCnt = hw.hDeleteCnt := by
  obtain ⟨hw', s'⟩ := r
  have hr := received h
  cases hr with
  | short _ => rfl
  | duplicate _ _ => rfl
  | ignored _ _ _ => rfl
  | vlans _ _ _ => rfl
  | refused _ _ _ _ => rfl
  | @learnt cnt mode c p ht =>
    obtain ⟨known, a, fast, heq⟩ := @Takes.learn_eq b now frame c p s hw stack mode cnt ht
    rw [heq]

theorem conserved_decode {now : Int} {s : Daemon} (h : lldpdDecode b now stack frame s hw = .ok r)
    (hc : Conserved hw) : Conserved r.1 := by
  obtain ⟨-, hinsert, hlen⟩ := decode_adds h
  rw [conserved_iff] at hc ⊢
  rw [hinsert, hlen, decode_hDeleteCnt h, hc, UInt64.ofNat_add]
  cases takesNew b s hw stack frame with
  | true =>
    rw [UInt64.add_assoc, UInt64.add_comm hw.hDeleteCnt, UInt64.add_assoc]
    rfl
  | false =>
    show _ + 0 = UInt64.ofNat hw.hRports.length + 0 + hw.hDeleteCnt
    rw [UInt64.add_zero, UInt64.add_zero]

/-- Every port that goes is counted as deleted. -/
theorem conserved_forget (hb : b.ovsdb = true) (all : Bool) (gone : Port → Bool)
    (hc : Conserved hw) : Conserved (hw.forget b all gone) := by
  have hlen : hw.hRports.length =
      (hw.hRports.filter fun p => !gone p).length + hw.hRports.countP gone := by
    rw [← List.countP_eq_length_filter, List.length_eq_countP_add_countP gone, Nat.add_comm]
    simp
  rw [conserved_iff] at hc ⊢
  show hw.hInsertCnt = UInt64.ofNat (hw.hRports.filter fun p => !gone p).length +
    (hw.hDeleteCnt + if all && !b.ovsdb then 0 else UInt64.ofNat (hw.hRports.countP gone))
  rw [hc, hlen, hb, Bool.not_true, Bool.and_false, if_neg (by decide), UInt64.ofNat_add,
    UInt64.add_assoc, UInt64.add_comm hw.hDeleteCnt]

theorem conserved_remoteCleanup (hb : b.ovsdb = true) (expire all : Bool) (now : Int)
    (h : Heap Chassis) (hc : Conserved hw) :
    Conserved (lldpdRemoteCleanup b expire all now hw h).1 := by
  rw [remoteCleanup_eq]
  exact conserved_forget hb all _ hc

/-- The table is empty behind it and nothing is deleted, but what was inserted
stays. -/
theorem conserved_clearCounters (h : Heap Chassis) :
    Conserved (clearCounters b hw h).1 ↔ hw.hInsertCnt = 0 := by
  rw [conserved_iff, clearCounters_eq]
  rw [forget_all_hRports]
  exact Iff.rfl

theorem conserved_step (hb : b.ovsdb = true) {ev : IfEvent} (hg : NoneInserted hw ev)
    (hst : ifStep b hw ev = some hw') (hc : Conserved hw) : Conserved hw' := by
  cases ev with
  | decode s frame now stack =>
    obtain ⟨r, hdec, rfl⟩ := Option.map_eq_some_iff.1 hst
    exact conserved_decode (eq_ok_of_toOption hdec) hc
  | remoteCleanup expire all gChassis now =>
    cases hst
    exact conserved_remoteCleanup hb _ _ _ _ hc
  | clearCounters gChassis =>
    cases hst
    exact (conserved_clearCounters gChassis).2 hg
  | scan flags =>
    cases hst
    exact hc

theorem conserved_reachable (hb : b.ovsdb = true)
    (hs : ((interface b).guard NoneInserted).Reachable hw) : Conserved hw := by
  induction hs with
  | init hi =>
    obtain ⟨hports, hinsert, hdelete⟩ := hi
    rw [conserved_iff, hports, hinsert, hdelete]
    rfl
  | step _ hst ih => exact conserved_step hb hst.1 hst.2 ih

variable {interfaces : List Hardware}

/-- The sums, from any number on. -/
theorem foldl_counts (hc : ∀ hw ∈ interfaces, Conserved hw) (ins del : UInt32) :
    interfaces.foldl (fun n hw => n + hw.hInsertCnt.toUInt32) ins -
        interfaces.foldl (fun n hw => n + hw.hDeleteCnt.toUInt32) del =
      ins - del + UInt32.ofNat (interfaces.flatMap fun hw => hw.hRports).length := by
  induction interfaces generalizing ins del with
  | nil => simp
  | cons hw interfaces ih =>
    have hhw := conserved_iff.1 (hc hw List.mem_cons_self)
    rw [List.foldl_cons, hhw, List.flatMap_cons, List.length_append, UInt32.ofNat_add,
      UInt64.toUInt32_add, UInt64.toUInt32_ofNat']
    grind

theorem totalNeighborEntries_eq (hc : ∀ hw ∈ interfaces, Conserved hw) :
    totalNeighborEntries interfaces =
      UInt32.ofNat (interfaces.flatMap fun hw => hw.hRports).length := by
  rw [totalNeighborEntries, foldl_counts hc]
  simp

end

/-- Whatever happens to an interface: as long as the counters are cleared only
while nothing has been inserted, inserted minus deleted is the number of its
neighbors. Clearing them at another time breaks that. The figure of the CLI is
the number of neighbors of all interfaces together. -/
theorem neighbors_conserved (b : Build) (hb : b.ovsdb = true) :
    (∀ hw, ((interface b).guard NoneInserted).Reachable hw →
      hw.hInsertCnt - hw.hDeleteCnt = UInt64.ofNat hw.hRports.length) ∧
    (∀ hw gChassis, (clearCounters b hw gChassis).1.hInsertCnt -
        (clearCounters b hw gChassis).1.hDeleteCnt =
          UInt64.ofNat (clearCounters b hw gChassis).1.hRports.length ↔ hw.hInsertCnt = 0) ∧
    ∀ interfaces, (∀ hw ∈ interfaces, ((interface b).guard NoneInserted).Reachable hw) →
      totalNeighborEntries interfaces =
        UInt32.ofNat (interfaces.flatMap fun hw => hw.hRports).length :=
  ⟨fun _ hs => conserved_reachable hb hs, fun _ gChassis => conserved_clearCounters gChassis,
    fun _ hs => totalNeighborEntries_eq fun hw hmem => conserved_reachable hb (hs hw hmem)⟩

def heardOnce : IfEvent :=
  .decode (Daemon.started {} lldpOnly) hello 0 Lldp.zeroStack

theorem neighbors_conserved_one : ∃ hw,
    ((interface openSwitch).guard NoneInserted).Reachable hw ∧ hw.hRports.length = 1 ∧
      hw.hInsertCnt - hw.hDeleteCnt = 1 ∧ totalNeighborEntries [hw] = 1 := by
  obtain ⟨hw, hst, hlen⟩ : ∃ hw ∈ ifStep openSwitch {} heardOnce, hw.hRports.length = 1 := by
    decide
  have hstep : ((interface openSwitch).guard NoneInserted).step {} heardOnce hw := ⟨trivial, hst⟩
  have hreach : ((interface openSwitch).guard NoneInserted).Reachable hw :=
    .step (.init ⟨rfl, rfl, rfl⟩) hstep
  obtain ⟨hconserved, -, htotal⟩ := neighbors_conserved openSwitch rfl
  have hdiff := hconserved hw hreach
  have hfigure := htotal [hw] fun hw' h => by
    rw [List.mem_singleton.1 h]
    exact hreach
  rw [hlen] at hdiff
  rw [List.flatMap_singleton, hlen] at hfigure
  exact ⟨hw, hreach, hlen, hdiff, hfigure⟩

/-- A neighbor is heard and the counters are cleared. No neighbor is left and
the CLI shows one. -/
theorem cleared_counters_drift : ∃ hw hw',
    ifStep openSwitch {} heardOnce = some hw ∧ ifStep openSwitch hw (.clearCounters []) = some hw' ∧
      hw'.hRports = [] ∧ hw'.hInsertCnt - hw'.hDeleteCnt = 1 ∧ totalNeighborEntries [hw'] = 1 := by
  obtain ⟨hw, hst, hw', hst', hdrift⟩ : ∃ hw ∈ ifStep openSwitch {} heardOnce,
      ∃ hw' ∈ ifStep openSwitch hw (.clearCounters []), hw'.hRports = [] ∧
        hw'.hInsertCnt - hw'.hDeleteCnt = 1 ∧ totalNeighborEntries [hw'] = 1 := by
    decide
  exact ⟨hw, hw', hst, hst', hdrift⟩

end Lldpd.Ovsdb
