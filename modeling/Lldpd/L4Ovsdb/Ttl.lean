import Lldpd.Core.LTS
import Lldpd.L2Proto.Cdp.Send
import Lldpd.L3Daemon.Outcome

/-!
# The TTL of the local chassis

`c_tx_interval * c_tx_hold` is stored in the 16 bits of `c_ttl` at start-up, by
`SET_CONFIG` and by a change of the System row, and for the neighbors learnt by
EDP and SONMP. Only the System row saturates; the others keep the low 16 bits,
so a client that asks for 32768 seconds with a hold of 2 makes the daemon
announce a TTL of 0 (`ttl_wraps`). CDP keeps the low byte.

In every run, all of them agree with the saturated product exactly when the
product in force passes 16 bits and one byte unharmed (`ttl_agrees_iff`). Which
of the paths has stored the TTL makes no difference then.

The product is an `int`: beyond 31 bits it has no value in C, and here the one
of two's complement.
-/
namespace Lldpd.Ovsdb
open Core

/-- The value of an `int` that overflows, in two's complement. -/
def wrapInt (n : Int) : Int :=
  if n % 0x100000000 < 0x80000000 then n % 0x100000000 else n % 0x100000000 - 0x100000000

/-- `MIN(UINT16_MAX, c_tx_interval * c_tx_hold)`, stored in `c_ttl`.
mirrors lldpd_ovsdb_if.c:1418-1422, 1439-1443 -/
def ttlMin (cfg : Config) : UInt16 :=
  UInt16.ofNat (min 65535 (wrapInt (cfg.cTxInterval * cfg.cTxHold)) % 65536).toNat

structure LocalTtl where
  config : Config
  cTtl : UInt16
  deriving DecidableEq, Repr

/-- `SYSTEM_OTHER_CONFIG_MAP_LLDP_TX_INTERVAL_MIN` and the like: the constants
are those of the schema. -/
structure TtlRanges where
  intervalMin : Int
  intervalMax : Int
  holdMin : Int
  holdMax : Int
  interval_nonneg : 0 ≤ intervalMin
  hold_nonneg : 0 ≤ holdMin

namespace LocalTtl

/-- The two values as `SET_CONFIG` stores them. The rest of the function leaves
them and the TTL alone.
mirrors client.c:70-89 -/
def clientHandleSetConfiguration (s : LocalTtl) (cTxInterval cTxHold : Int) : LocalTtl :=
  let s :=
    -- an interval below 0 asks for a transmission
    if cTxInterval ≠ s.config.cTxInterval ∧ cTxInterval ≠ 0 ∧ ¬ cTxInterval < 0 then
      let config := { s.config with cTxInterval := cTxInterval }
      { config := config, cTtl := config.ttl }
    else s
  if cTxHold ≠ s.config.cTxHold ∧ 0 < cTxHold then
    let config := { s.config with cTxHold := cTxHold }
    { config := config, cTtl := config.ttl }
  else s

/-- The two values as a change of the System row stores them.
mirrors lldpd_ovsdb_if.c:1408-1449 -/
def lldpdApplyGlobalChanges (ranges : TtlRanges) (s : LocalTtl) (txTimer txHoldMultiplier : Int) :
    LocalTtl :=
  let s :=
    if txTimer ≠ s.config.cTxInterval ∧ ranges.intervalMin ≤ txTimer ∧
        txTimer ≤ ranges.intervalMax then
      let config := { s.config with cTxInterval := txTimer }
      { config := config, cTtl := ttlMin config }
    else s
  if txHoldMultiplier ≠ s.config.cTxHold ∧ ranges.holdMin ≤ txHoldMultiplier ∧
      txHoldMultiplier ≤ ranges.holdMax then
    let config := { s.config with cTxHold := txHoldMultiplier }
    { config := config, cTtl := ttlMin config }
  else s

end LocalTtl

inductive TtlEvent where
  | setConfig (cTxInterval cTxHold : Int)
  | system (txTimer txHoldMultiplier : Int)
  deriving DecidableEq, Repr

def LocalTtl.step (ranges : TtlRanges) (s : LocalTtl) : TtlEvent → LocalTtl
  | .setConfig cTxInterval cTxHold => s.clientHandleSetConfiguration cTxInterval cTxHold
  | .system txTimer txHoldMultiplier => s.lldpdApplyGlobalChanges ranges txTimer txHoldMultiplier

/-- The TTL of the local chassis, from start-up on (`LLDPD_TX_INTERVAL` is 30,
`LLDPD_TX_HOLD` is 4).
mirrors lldpd.c:1734-1735, 1791 -/
def localTtl (ranges : TtlRanges) : LTS LocalTtl TtlEvent :=
  LTS.ofFn
    (fun s => s.config.cTxInterval = 30 ∧ s.config.cTxHold = 4 ∧ s.cTtl = s.config.ttl)
    fun s ev => some (s.step ranges ev)

/-! ## What the TTLs should be -/

/-- The saturated product of the values in force. -/
def LocalTtl.target (s : LocalTtl) : Int := min 65535 (s.config.cTxInterval * s.config.cTxHold)

/-- All TTLs that come from the product agree with it, as far as their width
allows. -/
structure LocalTtl.Agrees (s : LocalTtl) : Prop where
  chassis : (s.cTtl.toNat : Int) = s.target
  /-- A TTL of 0 would tell the neighbors to forget the chassis. -/
  alive : s.cTtl = 0 → s.config.cTxInterval = 0 ∨ s.config.cTxHold = 0
  /-- EDP and SONMP. -/
  learnt : ∀ b stack mode frame c p n, mode = .edp ∨ mode = .sonmp →
    decodeMode b s.config stack mode frame = .ok (.neighbor c p, n) → (c.cTtl.toNat : Int) = s.target
  /-- The byte behind the version in a CDP or FDP frame. -/
  cdp : ∀ b chassis sendOk hw version frame, chassis.cTtl = s.cTtl →
    (Cdp.cdpSend b s.config chassis sendOk hw version).frame = some frame →
      frame[23]? = some (UInt8.ofNat (min 255 s.cTtl.toNat))

/-- A product that 16 bits hold, or cut to all ones, and a saturated product
that a byte holds, or cuts to all ones. -/
def TtlFits (n : Int) : Prop :=
  (n ≤ 65535 ∨ n % 65536 = 65535) ∧ (min 65535 n ≤ 255 ∨ min 65535 n % 256 = 255)

instance (n : Int) : Decidable (TtlFits n) := by
  unfold TtlFits
  infer_instance

section
variable {ranges : TtlRanges} {s : LocalTtl}

/-! ## The stored values -/

theorem toNat_ttl (cfg : Config) :
    (cfg.ttl.toNat : Int) = cfg.cTxInterval * cfg.cTxHold % 65536 := by
  have h := Int.emod_nonneg (cfg.cTxInterval * cfg.cTxHold) (show (65536 : Int) ≠ 0 by decide)
  unfold Config.ttl
  rw [UInt16.toNat_ofNat', Nat.mod_eq_of_lt (by omega), Int.toNat_of_nonneg h]

theorem toNat_ttlMin (cfg : Config) : ((ttlMin cfg).toNat : Int) =
    min 65535 (wrapInt (cfg.cTxInterval * cfg.cTxHold)) % 65536 := by
  have h := Int.emod_nonneg (min 65535 (wrapInt (cfg.cTxInterval * cfg.cTxHold)))
    (show (65536 : Int) ≠ 0 by decide)
  unfold ttlMin
  rw [UInt16.toNat_ofNat', Nat.mod_eq_of_lt (by omega), Int.toNat_of_nonneg h]

/-- The invariant of a run: the TTL is the one of the values in force, by one of
the two ways to store it. -/
structure LocalTtl.Stored (s : LocalTtl) : Prop where
  interval : 0 ≤ s.config.cTxInterval
  hold : 0 ≤ s.config.cTxHold
  ttl : s.cTtl = s.config.ttl ∨ s.cTtl = ttlMin s.config

theorem stored_setConfig (hs : s.Stored) (cTxInterval cTxHold : Int) :
    (s.clientHandleSetConfiguration cTxInterval cTxHold).Stored := by
  unfold LocalTtl.clientHandleSetConfiguration
  dsimp only
  by_cases hi : cTxInterval ≠ s.config.cTxInterval ∧ cTxInterval ≠ 0 ∧ ¬ cTxInterval < 0
  · rw [if_pos hi]
    split
    · rename_i hh
      exact ⟨Int.not_lt.1 hi.2.2, Int.le_of_lt hh.2, .inl rfl⟩
    · exact ⟨Int.not_lt.1 hi.2.2, hs.hold, .inl rfl⟩
  · rw [if_neg hi]
    split
    · rename_i hh
      exact ⟨hs.interval, Int.le_of_lt hh.2, .inl rfl⟩
    · exact hs

theorem stored_system (hs : s.Stored) (txTimer txHoldMultiplier : Int) :
    (s.lldpdApplyGlobalChanges ranges txTimer txHoldMultiplier).Stored := by
  unfold LocalTtl.lldpdApplyGlobalChanges
  dsimp only
  by_cases hi : txTimer ≠ s.config.cTxInterval ∧ ranges.intervalMin ≤ txTimer ∧
      txTimer ≤ ranges.intervalMax
  · have hinterval : 0 ≤ txTimer := Int.le_trans ranges.interval_nonneg hi.2.1
    rw [if_pos hi]
    split
    · rename_i hh
      exact ⟨hinterval, Int.le_trans ranges.hold_nonneg hh.2.1, .inr rfl⟩
    · exact ⟨hinterval, hs.hold, .inr rfl⟩
  · rw [if_neg hi]
    split
    · rename_i hh
      exact ⟨hs.interval, Int.le_trans ranges.hold_nonneg hh.2.1, .inr rfl⟩
    · exact hs

theorem stored_reachable (hs : (localTtl ranges).Reachable s) : s.Stored := by
  induction hs with
  | init hi =>
    obtain ⟨hinterval, hhold, httl⟩ := hi
    exact ⟨by omega, by omega, .inl httl⟩
  | @step s s' ev _ hst ih =>
    obtain rfl := Option.some.inj hst
    cases ev with
    | setConfig cTxInterval cTxHold => exact stored_setConfig ih cTxInterval cTxHold
    | system txTimer txHoldMultiplier => exact stored_system ih txTimer txHoldMultiplier

/-- Both ways to store the product agree when it passes 16 bits. -/
theorem LocalTtl.Stored.toNat_cTtl (hs : s.Stored)
    (hfits : s.config.cTxInterval * s.config.cTxHold ≤ 65535 ∨
      s.config.cTxInterval * s.config.cTxHold % 65536 = 65535) :
    (s.cTtl.toNat : Int) = s.target := by
  have hnonneg : 0 ≤ s.config.cTxInterval * s.config.cTxHold := Int.mul_nonneg hs.interval hs.hold
  unfold LocalTtl.target
  rcases hs.ttl with httl | httl
  · rw [httl, toNat_ttl]
    omega
  · rw [httl, toNat_ttlMin]
    unfold wrapInt
    split <;> omega

/-! ## The condition -/

/-- A hello whose fields are all zero. -/
def zeroHello : Bytes :=
  Sonmp.SONMP_MULTICAST_ADDR ++ List.replicate 6 0 ++ List.replicate 8 0 ++
    be16Bytes Sonmp.LLC_PID_SONMP_HELLO ++ List.replicate 8 0

theorem decode_zeroHello (b : Build) (cfg : Config) (stack : Buffer 32) :
    ∃ c p, decodeMode b cfg stack .sonmp zeroHello = .ok (.neighbor c p, 0) := ⟨_, _, rfl⟩

/-- On an interface whose MTU is large enough a frame is sent. -/
theorem exists_cdpSend (b : Build) (cfg : Config) (chassis : Chassis) (version : Nat) :
    ∃ hw frame, (Cdp.cdpSend b cfg chassis true hw version).frame = some frame := by
  let hw : Hardware := { hMtu := (Cdp.cdpPdu b cfg chassis {} version).length }
  have hfits : (Cdp.cdpPdu b cfg chassis hw version).length ≤ hw.hMtu := Nat.le_refl _
  exact ⟨hw, _, (Cdp.cdpSend_frame b cfg chassis hw version true).trans (if_pos hfits)⟩

/-- The byte of CDP, on both sides. -/
theorem toUInt8_eq_iff (t : UInt16) :
    t.toUInt8 = UInt8.ofNat (min 255 t.toNat) ↔ t.toNat ≤ 255 ∨ t.toNat % 256 = 255 := by
  rw [← UInt8.toNat_inj, UInt16.toNat_toUInt8, UInt8.toNat_ofNat']
  omega

end

/-- **All TTLs agree** with the saturated product, in every run, exactly when
the product of the values in force passes 16 bits and the saturated one passes a
byte. -/
theorem ttl_agrees_iff (ranges : TtlRanges) (s : LocalTtl) (hs : (localTtl ranges).Reachable s) :
    s.Agrees ↔ TtlFits (s.config.cTxInterval * s.config.cTxHold) := by
  have hstored := stored_reachable hs
  have hnonneg : 0 ≤ s.config.cTxInterval * s.config.cTxHold :=
    Int.mul_nonneg hstored.interval hstored.hold
  constructor
  · intro h
    have hwide : s.config.cTxInterval * s.config.cTxHold ≤ 65535 ∨
        s.config.cTxInterval * s.config.cTxHold % 65536 = 65535 := by
      obtain ⟨c, p, hdec⟩ := decode_zeroHello Build.full s.config ⟨List.replicate 32 0, rfl⟩
      have hlearnt := h.learnt _ _ .sonmp _ c p 0 (.inr rfl) hdec
      rw [decodeMode_ttl (.inr rfl) hdec, toNat_ttl] at hlearnt
      unfold LocalTtl.target at hlearnt
      omega
    refine ⟨hwide, ?_⟩
    obtain ⟨hw, frame, hframe⟩ := exists_cdpSend Build.full s.config { cTtl := s.cTtl } 1
    have hbyte := h.cdp _ _ _ _ _ frame rfl hframe
    rw [Cdp.cdpSend_ttl _ _ _ _ _ hframe] at hbyte
    have hnarrow := (toUInt8_eq_iff s.cTtl).1 (Option.some.inj hbyte)
    have hchassis := h.chassis
    unfold LocalTtl.target at hchassis
    omega
  · rintro ⟨hwide, hnarrow⟩
    have hchassis := hstored.toNat_cTtl hwide
    refine ⟨hchassis, fun hzero => ?_, ?_, ?_⟩
    · rw [hzero] at hchassis
      unfold LocalTtl.target at hchassis
      have hproduct : s.config.cTxInterval * s.config.cTxHold = 0 := by
        have : ((0 : UInt16).toNat : Int) = 0 := rfl
        omega
      exact Int.mul_eq_zero.1 hproduct
    · intro b stack mode frame c p n hmode hdec
      rw [decodeMode_ttl hmode hdec, toNat_ttl]
      unfold LocalTtl.target
      omega
    · intro b chassis sendOk hw version frame httl hframe
      rw [Cdp.cdpSend_ttl _ _ _ _ _ hframe, httl]
      refine congrArg some ((toUInt8_eq_iff s.cTtl).2 ?_)
      unfold LocalTtl.target at hchassis
      omega

def someRanges : TtlRanges := ⟨5, 32768, 2, 10, by decide, by decide⟩

/-- A client asks for 20 seconds and a hold of 6. -/
def shorter : LocalTtl := LocalTtl.step someRanges ⟨{}, Config.ttl {}⟩ (.setConfig 20 6)

theorem ttl_agrees_iff_shorter : shorter.Agrees :=
  (ttl_agrees_iff someRanges shorter (.step (.init ⟨rfl, rfl, rfl⟩) rfl)).2 (by decide)

/-- A client asks for 32768 seconds and a hold of 2: the TTL is 0. When the
database asks for the same, it is 65535, and a neighbor learnt by SONMP still
gets 0. -/
theorem ttl_wraps :
    let s := LocalTtl.step someRanges ⟨{}, Config.ttl {}⟩ (.setConfig 32768 2)
    let s' := LocalTtl.step someRanges ⟨{}, Config.ttl {}⟩ (.system 32768 2)
    ((localTtl someRanges).Reachable s ∧ s.target = 65535 ∧ s.cTtl = 0) ∧
      (localTtl someRanges).Reachable s' ∧ s'.target = 65535 ∧ s'.cTtl = 65535 ∧
        s'.config.ttl = 0 :=
  ⟨⟨.step (.init ⟨rfl, rfl, rfl⟩) rfl, by decide, by decide⟩,
    .step (.init ⟨rfl, rfl, rfl⟩) rfl, by decide, by decide, by decide⟩

end Lldpd.Ovsdb
