import Lldpd.L2Proto.Cdp.Send
import Lldpd.L2Proto.Edp.Send
import Lldpd.L2Proto.Sonmp.Send
import Lldpd.L3Daemon.Counters
import Lldpd.L3Daemon.Recv

/-!
# What the counters count

An interface has eight counters. `Work` is what happens to it while it is
there: frames come in, cannot be read, or are sent, and neighbors go. `gained`
says by how much each of these is to move each counter, and `work_counter` that
it does. Nothing but a clear request takes a counter back.
-/
namespace Lldpd
open Core

inductive Counter where
  | tx | rx | rxDiscarded | rxUnrecognized | ageout | insert | delete | drop
  deriving DecidableEq, Repr

/-- mirrors lldpd_ovsdb_if.c:1735-1744 -/
def lldpInterfaceStatisticsKeys : List Counter :=
  [.tx, .rx, .rxDiscarded, .rxUnrecognized, .ageout, .insert, .delete, .drop]

theorem mem_keys (k : Counter) : k ∈ lldpInterfaceStatisticsKeys := by
  cases k <;> decide

def Hardware.counter (hw : Hardware) : Counter → UInt64
  | .tx => hw.hTxCnt
  | .rx => hw.hRxCnt
  | .rxDiscarded => hw.hRxDiscardedCnt
  | .rxUnrecognized => hw.hRxUnrecognizedCnt
  | .ageout => hw.hAgeoutCnt
  | .insert => hw.hInsertCnt
  | .delete => hw.hDeleteCnt
  | .drop => hw.hDropCnt

def Hardware.mapCounters (f : Counter → UInt64 → UInt64) (hw : Hardware) : Hardware :=
  { hw with
    hTxCnt := f .tx hw.hTxCnt
    hRxCnt := f .rx hw.hRxCnt
    hRxDiscardedCnt := f .rxDiscarded hw.hRxDiscardedCnt
    hRxUnrecognizedCnt := f .rxUnrecognized hw.hRxUnrecognizedCnt
    hAgeoutCnt := f .ageout hw.hAgeoutCnt
    hInsertCnt := f .insert hw.hInsertCnt
    hDeleteCnt := f .delete hw.hDeleteCnt
    hDropCnt := f .drop hw.hDropCnt }

@[simp] theorem counter_mapCounters (f : Counter → UInt64 → UInt64) (hw : Hardware) (k : Counter) :
    (hw.mapCounters f).counter k = f k (hw.counter k) := by
  cases k <;> rfl

/-- What happens to the hardware of an interface between two copies. The daemon
and the chassis are those of the moment. -/
inductive Work where
  /-- `lldpd_recv` -/
  | recv (s : Daemon) (now : Int) (stack : Buffer 32) (frame : Option Bytes)
  /-- The frame cannot be read from the socket. -/
  | discard
  | lldpSend (cfg : Config) (chassis : Chassis) (now : Int) (sendOk : Bool)
  | cdpSend (cfg : Config) (chassis : Chassis) (sendOk : Bool) (version : Nat)
  | edpSend (cfg : Config) (chassis : Chassis) (hIfname : Text) (hIfindex : Int)
      (sendOk : Nat → Bool) (seq : Nat)
  | sonmpSend (cfg : Config) (chassis : Chassis) (hIfindex : Int) (sendOk : Nat → Bool)
  /-- `lldpd_remote_cleanup` -/
  | remoteCleanup (expire all : Bool) (now : Int) (gChassis : Heap Chassis)

/-- The hardware afterwards, if the code does not fault.
mirrors interfaces-linux.c:95-102, 516-523 for `discard` -/
def Work.run (b : Build) (hw : Hardware) : Work → Option Hardware
  | .recv s now stack frame => (lldpdRecv b now stack frame s hw).toOption.map Prod.fst
  | .discard => some { hw with hRxDiscardedCnt := hw.hRxDiscardedCnt + 1 }
  | .lldpSend cfg chassis now sendOk => some (Lldp.lldpSend b cfg chassis now sendOk hw).hardware
  | .cdpSend cfg chassis sendOk version =>
    some (Cdp.cdpSend b cfg chassis sendOk hw version).hardware
  | .edpSend cfg chassis hIfname hIfindex sendOk seq =>
    some (Edp.edpSend b cfg chassis hIfname hIfindex sendOk seq hw).hardware
  | .sonmpSend cfg chassis hIfindex sendOk =>
    some (Sonmp.sonmpSend cfg chassis hIfindex sendOk hw).hardware
  | .remoteCleanup expire all now gChassis =>
    some (lldpdRemoteCleanup b expire all now hw gChassis).1

def unrecognizedTlvs (b : Build) (s : Daemon) (hw : Hardware) (stack : Buffer 32) (frame : Bytes) :
    Nat :=
  if frame.length < 18 ∨ hw.repeats frame then 0
  else (lldpdGuessType s.gProtocols (decapsulate frame)).elim 0 fun mode =>
    (decodeMode b s.gConfig stack mode (decapsulate frame)).toOption.elim 0 Prod.snd

def decodeGained (b : Build) (s : Daemon) (hw : Hardware) (stack : Buffer 32) (frame : Bytes) :
    Counter → Nat
  | .rxUnrecognized => unrecognizedTlvs b s hw stack frame
  | .insert => if takesNew b s hw stack frame then 1 else 0
  | _ => 0

def recvGained (b : Build) (s : Daemon) (hw : Hardware) (stack : Buffer 32) (frame : Option Bytes)
    (k : Counter) : Nat :=
  match receipt b s.gConfig hw frame with
  | .decoded frame => if k = .rx then 1 else decodeGained b s hw stack frame k
  | _ => 0

/-- How many things an event gives a counter to count. -/
def gained (b : Build) (hw : Hardware) : Work → Counter → Nat
  | .recv s _ stack frame, k => recvGained b s hw stack frame k
  | .discard, k => if k = .rxDiscarded then 1 else 0
  | .lldpSend cfg chassis now sendOk, k =>
    if k = .tx ∧ (Lldp.lldpSend b cfg chassis now sendOk hw).ret = none then 1 else 0
  | .cdpSend cfg chassis sendOk version, k =>
    if k = .tx ∧ (Cdp.cdpSend b cfg chassis sendOk hw version).ret = .sent then 1 else 0
  | .edpSend cfg chassis hIfname hIfindex sendOk seq, k =>
    if k = .tx ∧ (Edp.edpSend b cfg chassis hIfname hIfindex sendOk seq hw).ret = none then 1 else 0
  | .sonmpSend cfg chassis hIfindex sendOk, k =>
    if k = .tx ∧ (Sonmp.sonmpSend cfg chassis hIfindex sendOk hw).ret = .sent then 1 else 0
  | .remoteCleanup expire all now gChassis, k =>
    if k = .ageout ∧ !all ∨ k = .delete ∧ (!all ∨ b.ovsdb) then
      hw.hRports.countP (goes expire all now gChassis)
    else 0

section
variable {b : Build} {s : Daemon} {hw : Hardware} {stack : Buffer 32} {now : Int} {frame : Bytes}

theorem learn_counter {c : Chassis} {p : Port} {k : Counter} (hk : k ≠ .insert) :
    (learn b now frame c p s hw).1.counter k = hw.counter k := by
  unfold learn
  simp only
  split
  · rfl
  · rw [addPort_eq]
    split <;> cases k <;> first | rfl | exact absurd rfl hk

variable {r : Hardware × Daemon}

theorem decode_unrecognized (h : lldpdDecode b now stack frame s hw = .ok r) :
    r.1.counter .rxUnrecognized =
      hw.counter .rxUnrecognized + UInt64.ofNat (unrecognizedTlvs b s hw stack frame) := by
  have hzero : ∀ x : UInt64, x = x + UInt64.ofNat 0 := fun x => (UInt64.add_zero x).symm
  unfold lldpdDecode at h
  split at h
  · rename_i hshort
    have hnone : unrecognizedTlvs b s hw stack frame = 0 := if_pos (.inl hshort)
    cases h
    rw [hnone]
    exact hzero _
  rename_i hlong
  simp only at h
  split at h
  · rename_i hdup
    have hnone : unrecognizedTlvs b s hw stack frame = 0 := if_pos (.inr hdup)
    cases h
    rw [hnone]
    exact hzero _
  rename_i hdup
  have htlvs : unrecognizedTlvs b s hw stack frame = _ := if_neg fun h => h.elim hlong hdup
  rw [htlvs]
  unfold decodeFrame at h
  cases hguess : lldpdGuessType s.gProtocols (decapsulate frame) with
  | none =>
    rw [hguess] at h
    cases h
    exact hzero _
  | some mode =>
    simp only [hguess] at h
    rw [Option.elim_some]
    cases hdec : decodeMode b s.gConfig stack mode (decapsulate frame) with
    | error f => rw [hdec] at h; cases h
    | ok o =>
      obtain ⟨outcome, n⟩ := o
      rw [hdec] at h
      cases outcome with
      | malformed => cases h; rfl
      | vlans c p => cases h; rfl
      | neighbor c p =>
        cases h
        exact learn_counter (by decide)

theorem decode_counter (h : lldpdDecode b now stack frame s hw = .ok r) (k : Counter) :
    r.1.counter k = hw.counter k + UInt64.ofNat (decodeGained b s hw stack frame k) := by
  by_cases hk : k = .rxUnrecognized
  · subst hk
    exact decode_unrecognized h
  by_cases hk' : k = .insert
  · subst hk'
    refine (decode_adds h).insert.trans ?_
    unfold decodeGained
    cases takesNew b s hw stack frame <;> rfl
  have hzero : decodeGained b s hw stack frame k = 0 := by
    cases k <;> first | rfl | contradiction
  rw [hzero]
  refine Eq.trans ?_ (UInt64.add_zero _).symm
  have hr := received h
  obtain ⟨hw', s'⟩ := r
  cases hr with
  | learnt ht =>
    refine (learn_counter hk').trans ?_
    cases k <;> first | rfl | contradiction
  | _ => cases k <;> first | rfl | contradiction

theorem recv_counter {frame : Option Bytes} (h : lldpdRecv b now stack frame s hw = .ok r)
    (k : Counter) :
    r.1.counter k = hw.counter k + UInt64.ofNat (recvGained b s hw stack frame k) := by
  cases hf : receipt b s.gConfig hw frame with
  | decoded f =>
    have hgained : recvGained b s hw stack frame k =
        if k = .rx then 1 else decodeGained b s hw stack f k := by
      unfold recvGained
      rw [hf]
    unfold lldpdRecv at h
    rw [hf] at h
    rw [hgained, decode_counter h k]
    cases k with
    | rx => exact UInt64.add_zero _
    | _ => rfl
  | _ =>
    have hgained : recvGained b s hw stack frame k = 0 := by
      unfold recvGained
      rw [hf]
    unfold lldpdRecv at h
    rw [hf] at h
    cases h
    rw [hgained]
    exact (UInt64.add_zero _).symm

/-- A transmission is counted if it is one. -/
theorem counter_tx (k : Counter) (sent : Prop) [Decidable sent] :
    (if sent then { hw with hTxCnt := hw.hTxCnt + 1 } else hw).counter k =
      hw.counter k + UInt64.ofNat (if k = .tx ∧ sent then 1 else 0) := by
  by_cases h : sent
  · simp only [h, and_true]
    cases k <;> first | rfl | exact (UInt64.add_zero _).symm
  · simp [h]

theorem lldpSend_counter (cfg : Config) (chassis : Chassis) (sendOk : Bool) (k : Counter) :
    (Lldp.lldpSend b cfg chassis now sendOk hw).hardware.counter k = hw.counter k + UInt64.ofNat
      (if k = .tx ∧ (Lldp.lldpSend b cfg chassis now sendOk hw).ret = none then 1 else 0) := by
  rw [← counter_tx]
  unfold Lldp.lldpSend
  split
  · rfl
  cases sendOk with
  | false => rfl
  | true =>
    simp only [Bool.not_true, Bool.false_eq_true, if_false]
    split <;> cases k <;> rfl

theorem cdpSend_hardware (cfg : Config) (chassis : Chassis) (sendOk : Bool) (version : Nat) :
    (Cdp.cdpSend b cfg chassis sendOk hw version).hardware =
      if (Cdp.cdpSend b cfg chassis sendOk hw version).ret = .sent then
        { hw with hTxCnt := hw.hTxCnt + 1 }
      else hw := by
  unfold Cdp.cdpSend
  cases Cdp.writeCdp b cfg chassis hw version with
  | none => rfl
  | some p => cases sendOk <;> rfl

theorem edpDone_hardware (r : Except Errno Unit × Edp.Sender) : (Edp.edpDone hw r).hardware =
    if (Edp.edpDone hw r).ret = none then { hw with hTxCnt := hw.hTxCnt + 1 } else hw := by
  obtain ⟨_ | _, sender⟩ := r <;> rfl

theorem sonmpSend_hardware (cfg : Config) (chassis : Chassis) (hIfindex : Int)
    (sendOk : Nat → Bool) :
    (Sonmp.sonmpSend cfg chassis hIfindex sendOk hw).hardware =
      if (Sonmp.sonmpSend cfg chassis hIfindex sendOk hw).ret = .sent then
        { hw with hTxCnt := hw.hTxCnt + 1 }
      else hw := by
  unfold Sonmp.sonmpSend
  cases Sonmp.writeSonmp chassis hIfindex hw with
  | none => rfl
  | some p =>
    simp only [Option.elim_some]
    cases sendOk 0 <;> cases sendOk 1 <;> rfl

theorem forget_counter (all : Bool) (gone : Port → Bool) (k : Counter) :
    (hw.forget b all gone).counter k = hw.counter k + UInt64.ofNat
      (if k = .ageout ∧ !all ∨ k = .delete ∧ (!all ∨ b.ovsdb) then hw.hRports.countP gone else 0) := by
  cases k with
  | ageout => cases all <;> simp [Hardware.counter, Hardware.forget]
  | delete => cases all <;> cases hb : b.ovsdb <;> simp [Hardware.counter, Hardware.forget, hb]
  | _ => exact (UInt64.add_zero _).symm

/-- Every event moves every counter by what it is to count. -/
theorem work_counter {w : Work} {hw' : Hardware} (h : w.run b hw = some hw') (k : Counter) :
    hw'.counter k = hw.counter k + UInt64.ofNat (gained b hw w k) := by
  cases w with
  | recv s now stack frame =>
    obtain ⟨r, hr, rfl⟩ := Option.map_eq_some_iff.1 h
    exact recv_counter (eq_ok_of_toOption hr) k
  | discard =>
    cases h
    cases k <;> first | rfl | exact (UInt64.add_zero _).symm
  | lldpSend cfg chassis now sendOk =>
    cases h
    exact lldpSend_counter cfg chassis sendOk k
  | cdpSend cfg chassis sendOk version =>
    cases h
    rw [cdpSend_hardware]
    exact counter_tx k _
  | edpSend cfg chassis hIfname hIfindex sendOk seq =>
    cases h
    rw [Edp.edpSend, edpDone_hardware]
    exact counter_tx k _
  | sonmpSend cfg chassis hIfindex sendOk =>
    cases h
    rw [sonmpSend_hardware]
    exact counter_tx k _
  | remoteCleanup expire all now gChassis =>
    cases h
    rw [remoteCleanup_eq]
    exact forget_counter ..

end

end Lldpd
