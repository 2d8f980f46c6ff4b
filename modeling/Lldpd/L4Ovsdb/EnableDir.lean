import Lldpd.L4Ovsdb.Statistics

/-!
# Transmission and reception, from the command line

Four commands switch transmission and reception of an interface. They share one
key of `other_config`, where no value stands for both directions, for the daemon
and for the commands that switch off. The commands that switch on take it for
neither.
-/
namespace Lldpd.Ovsdb.EnableDir
open Lldpd.Ovsdb.Statistics

/-- `lldp_tx_rx`. -/
inductive LldpTxRx where
  | tx | rx
  deriving DecidableEq, Repr

theorem LldpTxRx.eq_of_ne {a b c : LldpTxRx} (ha : a ≠ c) (hb : b ≠ c) : a = b := by
  cases a <;> cases b <;> cases c <;> simp_all

/-- The value of the key, as in `Row`. -/
abbrev StateValue := Option (Option HardwareEnableDir)

/-- What is stored by `lldp transmit` and `lldp receive`.
mirrors lldp_vty.c:1873-1902 -/
def lldpOvsdbIfLldpState : LldpTxRx → StateValue → StateValue
  | .tx, none | .tx, some (some .off) => some (some .tx)
  | .tx, some (some .rx) => some (some .rxtx)
  | .rx, none | .rx, some (some .off) => some (some .rx)
  | .rx, some (some .tx) => some (some .rxtx)
  | _, stateValue => stateValue

/-- What is stored by `no lldp transmit` and `no lldp receive`.
mirrors lldp_vty.c:1983-2026 -/
def lldpOvsdbIfLldpNodirstate : LldpTxRx → StateValue → StateValue
  | .tx, none | .tx, some (some .rxtx) => some (some .rx)
  | .tx, some (some .tx) => some (some .off)
  | .rx, none | .rx, some (some .rxtx) => some (some .tx)
  | .rx, some (some .rx) => some (some .off)
  | _, stateValue => stateValue

structure Command where
  no : Bool
  state : LldpTxRx
  deriving DecidableEq, Repr

/-- A command on an interface. An interface that has been split refuses it.
Transactions are taken to be committed. -/
def command (isSplit : Bool) (stateValue : StateValue) (c : Command) : StateValue :=
  if isSplit then stateValue
  else if c.no then lldpOvsdbIfLldpNodirstate c.state stateValue
  else lldpOvsdbIfLldpState c.state stateValue

def commands (isSplit : Bool) (cs : List Command) (stateValue : StateValue) : StateValue :=
  cs.foldl (command isSplit) stateValue

/-- Whether a direction is on in the daemon.
mirrors lldpd.c:991-992, 1026-1027 -/
def enables : HardwareEnableDir → LldpTxRx → Bool
  | dir, .tx => dir ≠ .off ∧ dir ≠ .rx
  | dir, .rx => dir ≠ .off ∧ dir ≠ .tx

theorem enables_rxtx (state : LldpTxRx) : enables .rxtx state = true := by cases state <;> rfl

/-- A switch after some commands: as the last one for it says. -/
def switch (state : LldpTxRx) (cs : List Command) (on : Bool) : Bool :=
  cs.foldl (fun on c => if c.state = state then !c.no else on) on

/-- The daemon takes a direction from the row, and it is that of two switches that
were on before. -/
def Independent (isSplit : Bool) (cs : List Command) : Prop :=
  ∃ dir, Row.dir { lldpEnableDir := commands isSplit cs none } = some dir ∧
    ∀ state, enables dir state = switch state cs true

/-- The first command, without a value before it: the other direction gets what
`no` says. -/
theorem command_none (c : Command) : ∃ dir, command false none c = some (some dir) ∧
    ∀ state, enables dir state = if c.state = state then !c.no else c.no := by
  obtain ⟨no, state⟩ := c
  cases no <;> cases state <;> exact ⟨_, rfl, by intro s; cases s <;> rfl⟩

/-- Step lemma: once there is a value, a command sets one switch. -/
theorem command_some (dir : HardwareEnableDir) (c : Command) :
    ∃ dir', command false (some (some dir)) c = some (some dir') ∧
      ∀ state, enables dir' state = switch state [c] (enables dir state) := by
  obtain ⟨no, state⟩ := c
  cases no <;> cases state <;> cases dir <;> exact ⟨_, rfl, by intro s; cases s <;> rfl⟩

theorem commands_some (dir : HardwareEnableDir) (cs : List Command) :
    ∃ dir', commands false cs (some (some dir)) = some (some dir') ∧
      ∀ state, enables dir' state = switch state cs (enables dir state) := by
  induction cs generalizing dir with
  | nil => exact ⟨dir, rfl, fun _ => rfl⟩
  | cons c cs ih =>
    obtain ⟨dir1, h1, hs1⟩ := command_some dir c
    obtain ⟨dir', h', hs'⟩ := ih dir1
    refine ⟨dir', by rw [← h', ← h1]; rfl, fun state => ?_⟩
    rw [hs', hs1]
    rfl

/-- What a switch was does not count once there is a command for it. -/
theorem switch_eq_iff {state : LldpTxRx} {cs : List Command} {on on' : Bool} :
    switch state cs on = switch state cs on' ↔ on = on' ∨ ∃ c ∈ cs, c.state = state := by
  induction cs generalizing on on' with
  | nil => simp [switch]
  | cons c cs ih =>
    by_cases hc : c.state = state
    · simp [switch, hc]
    · simpa [switch, hc] using ih

theorem independent_split (cs : List Command) :
    Independent true cs ↔ ∀ state, switch state cs true = true := by
  have hrefused : commands true cs none = none := by
    induction cs with
    | nil => rfl
    | cons c cs ih => exact ih
  simp only [Independent, hrefused, Row.dir, Option.getD_none, Option.some.injEq, exists_eq_left',
    enables_rxtx, @eq_comm _ true]

theorem independent_cons (c : Command) (cs : List Command) :
    Independent false (c :: cs) ↔ c.no ∨ ∃ c' ∈ cs, c'.state ≠ c.state := by
  obtain ⟨dir, hdir, hfirst⟩ := command_none c
  obtain ⟨dir', hdir', hs⟩ := commands_some dir cs
  have hvalue : commands false (c :: cs) none = some (some dir') := by
    rw [← hdir', ← hdir]
    rfl
  have hswitch (state : LldpTxRx) : enables dir' state = switch state (c :: cs) true ↔
      (c.state = state ∨ c.no) ∨ ∃ c' ∈ cs, c'.state = state := by
    rw [hs, hfirst]
    refine switch_eq_iff.trans (or_congr_left ?_)
    by_cases hc : c.state = state <;> simp [hc]
  simp only [Independent, hvalue, Row.dir, Option.getD_some, Option.some.injEq, exists_eq_left',
    hswitch]
  constructor
  · intro h
    have htx := h .tx
    have hrx := h .rx
    cases hc : c.state <;> grind
  · intro h state
    by_cases hstate : c.state = state
    · exact .inl (.inl hstate)
    · cases h with
      | inl hno => exact .inl (.inr hno)
      | inr hother =>
        obtain ⟨c', hmem, hne⟩ := hother
        exact .inr ⟨c', hmem, LldpTxRx.eq_of_ne hne (Ne.symm hstate)⟩

/-- **The switches are independent** if and only if the first command switches off
or there is one for the other direction as well; on an interface that has been
split, if and only if both are to be on. -/
theorem independent_iff (isSplit : Bool) (cs : List Command) :
    Independent isSplit cs ↔
      if isSplit then ∀ state, switch state cs true = true
      else ∀ c ∈ cs.head?, c.no ∨ ∃ c' ∈ cs, c'.state ≠ c.state := by
  cases isSplit with
  | true => exact independent_split cs
  | false =>
    cases cs with
    | nil => simp [Independent, commands, Row.dir, switch, enables_rxtx]
    | cons c cs => simp [independent_cons]

/-- `lldp transmit` alone: the daemon stops to receive. -/
theorem independent_transmit : ¬ Independent false [⟨false, .tx⟩] ∧
    (Row.dir { lldpEnableDir := commands false [⟨false, .tx⟩] none } = some .tx) := by
  simp [independent_cons, commands, command, lldpOvsdbIfLldpState, Row.dir]

end Lldpd.Ovsdb.EnableDir
