import Lldpd.L3Daemon.Table

/-!
# What a frame does

`Received` lists the exits of `lldpd_decode`: the frame is too short, it is
the last frame of a neighbor again, it announces no neighbor, it carries the
VLANs of an EDP neighbor, the neighbor is refused, or it is learnt. Every call
takes one of them (`received`), and what it leaves behind is said for each
field that the counters and the database look at.
-/
namespace Lldpd
open Core

/-! ## The searches -/

variable {c : Chassis} {h : Heap Chassis} {p : Port}

theorem sameMsap_iff {q : Port} : sameMsap h c p q = true ↔ q.msap h = some (.of c p) := by
  unfold sameMsap Port.msap
  cases q.chassis h with
  | none => simp
  | some oc =>
    simp only [Chassis.sameId, Bool.and_eq_true, beq_iff_eq, Option.map_some, Option.some.injEq,
      Msap.of, Msap.mk.injEq]
    constructor
    · rintro ⟨⟨⟨h1, h2⟩, h3⟩, h4, h5⟩
      exact ⟨h1.symm, h2.symm, h3.symm, h4.symm, h5.symm⟩
    · rintro ⟨h1, h2, h3, h4, h5⟩
      exact ⟨⟨⟨h1.symm, h2.symm⟩, h3.symm⟩, h4.symm, h5.symm⟩

theorem searchMsap_fst (h : Heap Chassis) (c : Chassis) (p : Port) (l : List Port) (k : Nat) :
    (searchMsap h c p l k).1 = l.find? (sameMsap h c p) := by
  induction l generalizing k with
  | nil => rfl
  | cons q l ih =>
    unfold searchMsap
    by_cases hs : sameMsap h c p q
    · have hp : p.pProtocol = q.pProtocol := by
        simp only [sameMsap, Bool.and_eq_true, beq_iff_eq] at hs
        exact hs.1.1.1
      rw [if_pos hp, if_pos hs, List.find?_cons_of_pos hs]
    · rw [List.find?_cons_of_neg hs]
      split
      · exact ih _
      · exact ih _

theorem searchMsap_snd {l : List Port} {k : Nat} (hn : (searchMsap h c p l k).1 = none) :
    (searchMsap h c p l k).2 = k + l.countP fun q => q.pProtocol = p.pProtocol := by
  induction l generalizing k with
  | nil => rfl
  | cons q l ih =>
    unfold searchMsap at hn ⊢
    by_cases hp : p.pProtocol = q.pProtocol
    · simp only [if_pos hp] at hn ⊢
      split at hn
      · cases hn
      · rename_i hs
        rw [if_neg hs, ih hn, List.countP_cons_of_pos (by simp [hp])]
        omega
    · simp only [if_neg hp] at hn ⊢
      rw [ih hn, List.countP_cons_of_neg (by simp [Ne.symm hp])]

theorem perm_cons_eraseP {α : Type} {f : α → Bool} {l : List α} {x : α} (h : l.find? f = some x) :
    l.Perm (x :: l.eraseP f) := by
  obtain ⟨hx, as, bs, rfl, has⟩ := List.find?_eq_some_iff_append.1 h
  rw [List.eraseP_append_right _ (by simpa using has), List.eraseP_cons_of_pos hx]
  exact List.perm_middle

/-- When the one with this value is gone, none is left. -/
theorem ne_of_mem_eraseP {α β : Type} {f : α → Option β} {g : α → Bool} {l : List α} {x y : α} {z : β}
    (hn : (l.filterMap f).Nodup) (hx : l.find? g = some x) (hxz : f x = some z)
    (hy : y ∈ l.eraseP g) : f y ≠ some z := by
  intro hyz
  have hp := (perm_cons_eraseP hx).filterMap f
  rw [List.filterMap_cons_some hxz] at hp
  exact (List.nodup_cons.1 (hp.nodup_iff.1 hn)).1 (List.mem_filterMap.2 ⟨y, hy, hyz⟩)

/-- The neighbor that is taken away was the only one with its MSAP. -/
theorem not_mem_eraseP {q : Port} {l : List Port}
    (hn : (l.filterMap (·.msap h)).Nodup) (hq : q ∈ l.eraseP (sameMsap h c p)) :
    q.msap h ≠ some (.of c p) := by
  cases hfind : l.find? (sameMsap h c p) with
  | none =>
    intro hm
    exact List.find?_eq_none.1 hfind q (List.mem_of_mem_eraseP hq) (sameMsap_iff.2 hm)
  | some q' =>
    have hm' := sameMsap_iff.1 (List.find?_some hfind)
    exact ne_of_mem_eraseP (f := fun q : Port => q.msap h) hn hfind hm' hq

theorem searchChassis_some {a : Addr}
    (hs : searchChassis h c = some a) : ∃ oc, (a, oc) ∈ h ∧ oc.key = c.key := by
  obtain ⟨⟨a', oc⟩, hf, rfl⟩ := Option.map_eq_some_iff.1 hs
  have hp := List.find?_some hf
  simp only [Chassis.sameId, Bool.and_eq_true, beq_iff_eq] at hp
  refine ⟨oc, List.mem_of_find?_eq_some hf, ?_⟩
  rw [Chassis.key, Chassis.key, hp.1, hp.2.1, hp.2.2]

theorem searchChassis_none (hs : searchChassis h c = none) : ∀ x ∈ h, x.2.key ≠ c.key := by
  intro x hx hk
  have hp := List.find?_eq_none.1 (Option.map_eq_none_iff.1 hs) x hx
  simp only [Chassis.key, Prod.mk.injEq] at hk
  simp [Chassis.sameId, hk] at hp

/-! ## A neighbor that is learnt -/

theorem addPort_eq (b : Build) (cfg : Config) (known : Bool) (med : UInt8) (hw : Hardware)
    (p : Port) : addPort b cfg known med hw p =
      { hw with
        hRports := hw.hRports ++ [p]
        hInsertCnt := hw.hInsertCnt + if known then 0 else 1
        hTxFast :=
          if b.lldpmed ∧ !known ∧ med ≠ 0 ∧ cfg.cEnableFastStart ∧ hw.hTxFast = 0 then
            cfg.cTxFastInit
          else hw.hTxFast
        hRportChangeOpcode :=
          if b.ovsdb ∧ hw.hRportChangeOpcode = .noop then .add else hw.hRportChangeOpcode } := by
  unfold addPort
  cases known with
  | true =>
    simp only [Bool.not_true, Bool.false_eq_true, false_and, and_false, if_true, if_false,
      UInt64.add_zero]
    split <;> rfl
  | false =>
    simp only [Bool.not_false, true_and, Bool.false_eq_true, if_false]
    repeat' split
    all_goals rfl

theorem addPort_hRports (b : Build) (cfg : Config) (known : Bool) (med : UInt8) (hw : Hardware)
    (p : Port) : (addPort b cfg known med hw p).hRports = hw.hRports ++ [p] := by
  rw [addPort_eq]

def Full (s : Daemon) (hw : Hardware) (p : Port) : Prop :=
  s.gConfig.cMaxNeighbors ≠ 0 ∧
    s.gConfig.cMaxNeighbors - 1 < hw.hRports.countP fun q => q.pProtocol = p.pProtocol

/-- A neighbor that is new needs room. -/
def HasRoom (s : Daemon) (hw : Hardware) (c : Chassis) (p : Port) : Prop :=
  oport s hw c p = none → ¬ Full s hw p

section Learn
variable {b : Build} {now : Int} {frame : Bytes} {c : Chassis} {p : Port} {s : Daemon}
  {hw : Hardware}

theorem searchMsap_oport : (searchMsap s.gChassis c p hw.hRports 0).1 = oport s hw c p :=
  searchMsap_fst ..

theorem kept_of_none (hfind : oport s hw c p = none) : kept s hw c p = hw.hRports :=
  List.eraseP_of_forall_not fun q hq hm => List.find?_eq_none.1 hfind q hq hm

theorem refuses_iff : ((searchMsap s.gChassis c p hw.hRports 0).1 = none ∧
    s.gConfig.cMaxNeighbors ≠ 0 ∧
      s.gConfig.cMaxNeighbors - 1 < (searchMsap s.gChassis c p hw.hRports 0).2) ↔
    oport s hw c p = none ∧ Full s hw p := by
  rw [← searchMsap_oport]
  refine and_congr_right fun hnone => ?_
  rw [searchMsap_snd hnone, Nat.zero_add]
  rfl

/-- A new neighbor on a full interface is left out. -/
theorem learn_refused (hfind : oport s hw c p = none)
    (hfull : Full s hw p) : learn b now frame c p s hw = (hw, s) := by
  exact if_pos (refuses_iff.2 ⟨hfind, hfull⟩)

/-- `ochassis`: the chassis in the list that the neighbor of a frame is
attached to, by the entry of the neighbor or by its ids.
mirrors lldpd.c:579-614 -/
def ochassis (s : Daemon) (hw : Hardware) (c : Chassis) (p : Port) : Option Addr :=
  match oport s hw c p with
  | some oport => oport.pChassis
  | none => searchChassis s.gChassis c

/-- The chassis once the entry that a neighbor had is gone.
mirrors lldpd.c:616-624 -/
def released (s : Daemon) (hw : Hardware) (c : Chassis) (p : Port) : Heap Chassis :=
  match oport s hw c p with
  | some oport => lldpdPortCleanup s.gChassis oport
  | none => s.gChassis

/-- A neighbor that there is room for: the parts that `learn` is made of. -/
theorem learn_place (hok : HasRoom s hw c p) :
    let place := placeChassis { s with gChassis := released s hw c p } c (ochassis s hw c p)
    let known := (oport s hw c p).isSome
    learn b now frame c p s hw =
      (addPort b s.gConfig known c.cMedType
          { hw with
            hRports := kept s hw c p
            hRportChangeOpcode := if known && b.ovsdb then .mod else hw.hRportChangeOpcode }
          (p.heardAt now frame ((ochassis s hw c p).getD s.nextAddr)),
        { place.2 with gChassis := place.2.gChassis.write place.1 .retain }) := by
  have hcond := refuses_iff.not.2 fun h => hok h.1 h.2
  unfold ochassis released
  refine (if_neg hcond).trans ?_
  rw [searchMsap_oport]
  cases hfind : oport s hw c p with
  | some q => cases hq : q.pChassis <;> simp [hq, placeChassis]
  | none =>
    have herase := kept_of_none hfind
    cases hsearch : searchChassis s.gChassis c <;> simp [herase, placeChassis]

/-- The port of the neighbor is attached to the chassis. -/
theorem learn_hRports (hok : HasRoom s hw c p) :
    (learn b now frame c p s hw).1.hRports = kept s hw c p ++
      [p.heardAt now frame ((ochassis s hw c p).getD s.nextAddr)] := by
  rw [learn_place hok, addPort_hRports]

theorem learn_known_chassis {a : Addr} (ha : ochassis s hw c p = some a) (hok : HasRoom s hw c p) :
    (learn b now frame c p s hw).2 = { s with
      gChassis := ((released s hw c p).write a (lldpdMoveChassis c)).write a .retain } := by
  rw [learn_place hok, ha]
  rfl

/-- The chassis is new: it comes last and has the next index. -/
theorem learn_newcomer (ha : ochassis s hw c p = none) (hok : HasRoom s hw c p) :
    (learn b now frame c p s hw).2 = { s with
      gLastrid := s.gLastrid + 1
      gChassis := Heap.write (released s hw c p ++
        [(s.nextAddr, { c with cIndex := UInt16.ofNat (s.gLastrid + 1), cRefcount := 0 })])
          s.nextAddr .retain
      nextAddr := s.nextAddr + 1 } := by
  rw [learn_place hok, ha]
  rfl

/-- The rest of the daemon does not change. -/
theorem learn_frame : ∃ h rid n, (learn b now frame c p s hw).2 =
    { s with gChassis := h, gLastrid := rid, nextAddr := n } := by
  unfold learn
  simp only
  split
  · exact ⟨_, _, _, rfl⟩
  · unfold placeChassis
    repeat' split
    all_goals exact ⟨_, _, _, rfl⟩

section View
variable {β : Type} {g : Chassis → β} (hg : ∀ c n, g { c with cRefcount := n } = g c)
  {h : Heap Chassis}
include hg

theorem view_retain (a : Addr) : (h.write a .retain).view g = h.view g :=
  Heap.view_write_same fun c => hg c _

theorem view_portCleanup (port : Port) : (lldpdPortCleanup h port).view g = h.view g := by
  unfold lldpdPortCleanup
  split
  · exact Heap.view_write_same fun c => hg c _
  · rfl

theorem view_released : (released s hw c p).view g = s.gChassis.view g := by
  unfold released
  split
  · exact view_portCleanup hg _
  · rfl

end View

/-- What `learn` does to the chassis, but for their indexes and reference counts. -/
theorem view_learn {β : Type} {g : Chassis → β}
    (hg : ∀ c i n, g { c with cIndex := i, cRefcount := n } = g c)
    (hok : HasRoom s hw c p) :
    (learn b now frame c p s hw).2.gChassis.view g =
      (ochassis s hw c p).elim (s.gChassis.view g ++ [(s.nextAddr, g c)])
        fun a => (s.gChassis.view g).write a fun _ => g c := by
  have hcount : ∀ c n, g { c with cRefcount := n } = g c := fun c n => hg c c.cIndex n
  have hrel : (released s hw c p).view g = s.gChassis.view g := view_released hcount
  cases ha : ochassis s hw c p with
  | some a =>
    have hmove : ((released s hw c p).write a (lldpdMoveChassis c)).view g =
        ((released s hw c p).view g).write a fun _ => g c := Heap.view_write fun _ => hg c _ _
    rw [learn_known_chassis ha hok, view_retain hcount, hmove, hrel]
    rfl
  | none =>
    rw [learn_newcomer ha hok, view_retain hcount, Heap.view_append, hrel]
    show _ ++ [(s.nextAddr, g _)] = _
    rw [hg]
    rfl

end Learn

/-! ## The exits -/

theorem decodeMode_protocol {b : Build} {cfg : Config} {stack : Buffer 32} {mode : Mode}
    {frame : Bytes} {n : Nat} (h : decodeMode b cfg stack mode frame = .ok (.neighbor c p, n)) :
    c.cProtocol = some mode ∧ p.pProtocol = some mode := by
  unfold decodeMode at h
  cases mode <;> dsimp only at h <;> split at h <;> cases h <;> exact ⟨rfl, rfl⟩

structure Announces (b : Build) (s : Daemon) (stack : Buffer 32) (frame : Bytes) (mode : Mode)
    (chassis : Chassis) (port : Port) : Prop where
  long : 18 ≤ frame.length
  guess : lldpdGuessType s.gProtocols (decapsulate frame) = some mode
  decode : ∃ n, decodeMode b s.gConfig stack mode (decapsulate frame) = .ok (.neighbor chassis port, n)

theorem Announces.protocol {b : Build} {s : Daemon} {stack : Buffer 32} {frame : Bytes} {mode : Mode}
    (ha : Announces b s stack frame mode c p) :
    c.cProtocol = some mode ∧ p.pProtocol = some mode :=
  ha.decode.elim fun _ => decodeMode_protocol

/-- The interface as `lldpd_decode` has it behind the length test: a pending
change is forgotten.
mirrors lldpd.c:502-505 -/
def Hardware.reset (b : Build) (hw : Hardware) : Hardware :=
  { hw with hRportChangeOpcode := if b.ovsdb then .noop else hw.hRportChangeOpcode }

def Hardware.unrecognized (hw : Hardware) (cnt : UInt64) : Hardware :=
  { hw with hRxUnrecognizedCnt := cnt }

def TellsVlans (b : Build) (s : Daemon) (stack : Buffer 32) (frame : Bytes) (chassis : Chassis)
    (port : Port) : Prop :=
  ∃ mode n, lldpdGuessType s.gProtocols (decapsulate frame) = some mode ∧
    decodeMode b s.gConfig stack mode (decapsulate frame) = .ok (.vlans chassis port, n)

/-- The frame is decoded, and the neighbor that it announces is learnt. -/
structure Takes (b : Build) (s : Daemon) (hw : Hardware) (stack : Buffer 32) (frame : Bytes)
    (mode : Mode) (chassis : Chassis) (port : Port) : Prop where
  announces : Announces b s stack frame mode chassis port
  anew : ¬ hw.repeats frame = true
  room : HasRoom s hw chassis port

/-- The exits of `lldpd_decode`, with the interface and the daemon they leave. -/
inductive Received (b : Build) (now : Int) (stack : Buffer 32) (frame : Bytes) (s : Daemon)
    (hw : Hardware) : Hardware → Daemon → Prop where
  | short (hshort : frame.length < 18) : Received b now stack frame s hw hw s
  | duplicate (hlong : 18 ≤ frame.length)
      (hdup : hw.repeats frame = true) :
      Received b now stack frame s hw
        (refresh b now hw.hRportChangeOpcode (decapsulate frame) (hw.reset b)) s
  | ignored {cnt} (hlong : 18 ≤ frame.length)
      (hdup : ¬ hw.repeats frame = true)
      (hnone : ∀ mode c p, ¬ Announces b s stack frame mode c p) :
      Received b now stack frame s hw ((hw.reset b).unrecognized cnt) s
  | vlans {cnt c p} (hlong : 18 ≤ frame.length)
      (hdup : ¬ hw.repeats frame = true)
      (htells : TellsVlans b s stack frame c p) :
      Received b now stack frame s hw
        { (hw.reset b).unrecognized cnt with
          hRports := (attachVlans c hw.hRports p.pVlans c.cMgmt s.gChassis).1 }
        { s with gChassis := (attachVlans c hw.hRports p.pVlans c.cMgmt s.gChassis).2 }
  | refused {cnt mode c p} (ha : Announces b s stack frame mode c p)
      (hdup : ¬ hw.repeats frame = true)
      (hfind : oport s hw c p = none)
      (hfull : Full s hw p) :
      Received b now stack frame s hw ((hw.reset b).unrecognized cnt) s
  | learnt {cnt mode c p} (ht : Takes b s hw stack frame mode c p) :
      Received b now stack frame s hw
        (learn b now (decapsulate frame) c p s
          ((hw.reset b).unrecognized cnt)).1
        (learn b now (decapsulate frame) c p s
          ((hw.reset b).unrecognized cnt)).2

section
variable {b : Build} {now : Int} {stack : Buffer 32} {frame : Bytes} {s : Daemon} {hw : Hardware}
  {mode : Mode} {c : Chassis} {p : Port} {r : Hardware × Daemon}

/-- The result of `decodeFrame` in terms of `learn` and `attachVlans`. -/
theorem decodeFrame_cases (h : decodeFrame b now stack frame s hw = .ok r) :
    ∃ cnt, (r = (hw.unrecognized cnt, s) ∧ ∀ mode c p n, lldpdGuessType s.gProtocols frame = some mode →
        decodeMode b s.gConfig stack mode frame ≠ .ok (.neighbor c p, n)) ∨
      ∃ mode c p n, lldpdGuessType s.gProtocols frame = some mode ∧
        ((decodeMode b s.gConfig stack mode frame = .ok (.vlans c p, n) ∧
          r = ({ hw.unrecognized cnt with
              hRports := (attachVlans c hw.hRports p.pVlans c.cMgmt s.gChassis).1 },
            { s with gChassis := (attachVlans c hw.hRports p.pVlans c.cMgmt s.gChassis).2 })) ∨
        (decodeMode b s.gConfig stack mode frame = .ok (.neighbor c p, n) ∧
          r = learn b now frame c p s
            (hw.unrecognized cnt))) := by
  unfold decodeFrame at h
  cases hguess : lldpdGuessType s.gProtocols frame with
  | none =>
    rw [hguess] at h
    cases h
    exact ⟨hw.hRxUnrecognizedCnt, .inl ⟨rfl, fun _ _ _ _ hmode => by cases hmode⟩⟩
  | some mode =>
    simp only [hguess] at h
    cases hdec : decodeMode b s.gConfig stack mode frame with
    | error f => rw [hdec] at h; cases h
    | ok o =>
      obtain ⟨outcome, n⟩ := o
      rw [hdec] at h
      refine ⟨hw.hRxUnrecognizedCnt + UInt64.ofNat n, ?_⟩
      cases outcome with
      | malformed =>
        cases h
        refine .inl ⟨rfl, fun mode' c p n' hmode hn' => ?_⟩
        cases hmode
        cases hdec.symm.trans hn'
      | vlans c p =>
        cases h
        exact .inr ⟨mode, c, p, n, rfl, .inl ⟨hdec, rfl⟩⟩
      | neighbor c p =>
        cases h
        exact .inr ⟨mode, c, p, n, rfl, .inr ⟨hdec, rfl⟩⟩

theorem hRports_ne_nil (hdup : hw.repeats frame = true) : hw.hRports ≠ [] := by
  intro hnil
  rw [Hardware.repeats, hnil] at hdup
  cases hdup

theorem lldpdDecode_short {r : Hardware × Daemon} (hshort : frame.length < 18)
    (h : lldpdDecode b now stack frame s hw = .ok r) : r = (hw, s) :=
  Except.ok.inj (h.symm.trans (if_pos hshort))

theorem lldpdDecode_duplicate (hlong : 18 ≤ frame.length) (hdup : hw.repeats frame = true) :
    lldpdDecode b now stack frame s hw =
      .ok (refresh b now hw.hRportChangeOpcode (decapsulate frame) (hw.reset b), s) := by
  unfold lldpdDecode
  rw [if_neg (Nat.not_lt.2 hlong)]
  exact if_pos hdup

theorem lldpdDecode_anew (hlong : 18 ≤ frame.length) (hdup : ¬ hw.repeats frame = true) :
    lldpdDecode b now stack frame s hw = decodeFrame b now stack (decapsulate frame) s (hw.reset b) := by
  unfold lldpdDecode
  rw [if_neg (Nat.not_lt.2 hlong)]
  exact if_neg hdup

theorem received (h : lldpdDecode b now stack frame s hw = .ok r) :
    Received b now stack frame s hw r.1 r.2 := by
  by_cases hshort : frame.length < 18
  · rw [lldpdDecode, if_pos hshort] at h
    cases h
    exact .short hshort
  have hlong := Nat.not_lt.1 hshort
  by_cases hdup : hw.repeats frame = true
  · rw [lldpdDecode_duplicate hlong hdup] at h
    cases h
    exact .duplicate hlong hdup
  rw [lldpdDecode_anew hlong hdup] at h
  obtain ⟨cnt, ⟨rfl, hnone⟩ | ⟨mode, c, p, n, hguess, ⟨hdec, rfl⟩ | ⟨hdec, rfl⟩⟩⟩ :=
    decodeFrame_cases h
  · refine .ignored hlong hdup fun mode c p ha => ?_
    obtain ⟨n, hn⟩ := ha.decode
    exact hnone mode c p n ha.guess hn
  · exact .vlans hlong hdup ⟨mode, n, hguess, hdec⟩
  · have ha : Announces b s stack frame mode c p := ⟨hlong, hguess, n, hdec⟩
    by_cases hrefuse : oport s hw c p = none ∧ Full s hw p
    · rw [@learn_refused b now (decapsulate frame) _ _ s ((hw.reset b).unrecognized cnt)
        hrefuse.1 hrefuse.2]
      exact .refused ha hdup hrefuse.1 hrefuse.2
    · exact .learnt ⟨ha, hdup, fun hfind hfull => hrefuse ⟨hfind, hfull⟩⟩

theorem lldpdDecode_frame (h : lldpdDecode b now stack frame s hw = .ok r) :
    ∃ heap rid n, r.2 = { s with gChassis := heap, gLastrid := rid, nextAddr := n } := by
  obtain ⟨hw', s'⟩ := r
  cases received h with
  | short | duplicate | ignored | vlans | refused => exact ⟨_, _, _, rfl⟩
  | learnt => exact learn_frame

theorem Announces.lldpdDecode (ha : Announces b s stack frame mode c p)
    (hdup : ¬ hw.repeats frame = true) (now : Int) :
    ∃ cnt, lldpdDecode b now stack frame s hw =
      .ok (learn b now (decapsulate frame) c p s
        ((hw.reset b).unrecognized cnt)) := by
  obtain ⟨hlong, hguess, n, hdec⟩ := ha
  refine ⟨hw.hRxUnrecognizedCnt + UInt64.ofNat n, ?_⟩
  rw [lldpdDecode_anew hlong hdup, decodeFrame]
  simp only [hguess, hdec]
  rfl

theorem Takes.lldpdDecode (ht : Takes b s hw stack frame mode c p) (now : Int) :
    ∃ cnt, lldpdDecode b now stack frame s hw =
      .ok (learn b now (decapsulate frame) c p s
        ((hw.reset b).unrecognized cnt)) :=
  ht.announces.lldpdDecode ht.anew now

theorem TellsVlans.lldpdDecode (ht : TellsVlans b s stack frame c p) (hlong : 18 ≤ frame.length)
    (hdup : ¬ hw.repeats frame = true) (now : Int) : ∃ cnt, lldpdDecode b now stack frame s hw =
      .ok ({ (hw.reset b).unrecognized cnt with
          hRports := (attachVlans c hw.hRports p.pVlans c.cMgmt s.gChassis).1 },
        { s with gChassis := (attachVlans c hw.hRports p.pVlans c.cMgmt s.gChassis).2 }) := by
  obtain ⟨mode, n, hguess, hdec⟩ := ht
  refine ⟨hw.hRxUnrecognizedCnt + UInt64.ofNat n, ?_⟩
  rw [lldpdDecode_anew hlong hdup, decodeFrame]
  simp only [hguess, hdec]
  rfl

end

/-- The change that is pending once a neighbor is learnt. -/
def NbrOpcode.learnt (b : Build) (known : Bool) (cur : NbrOpcode) : NbrOpcode :=
  if !b.ovsdb then cur else if known then .mod else .add

section Learnt
variable {b : Build} {now : Int} {frame : Bytes} {c : Chassis} {p : Port} {s : Daemon}
  {hw : Hardware}

/-- What is left of the interface when a neighbor is learnt. `known` is
whether it was there before. -/
theorem learn_eq {known : Bool} {cnt : UInt64} (hknown : (oport s hw c p).isSome = known)
    (hok : known = false → ¬ Full s hw p) :
    ∃ a fast, (learn b now frame c p s ((hw.reset b).unrecognized cnt)).1 =
      { hw with
        hRxUnrecognizedCnt := cnt
        hRports := kept s hw c p ++ [p.heardAt now frame a]
        hInsertCnt := hw.hInsertCnt + if known then 0 else 1
        hTxFast := fast
        hRportChangeOpcode := hw.hRportChangeOpcode.learnt b known } := by
  subst hknown
  have hop (known : Bool) : (if b.ovsdb ∧ (if known && b.ovsdb then .mod else
      ((hw.reset b).unrecognized cnt).hRportChangeOpcode) = .noop then .add
      else if known && b.ovsdb then .mod else ((hw.reset b).unrecognized cnt).hRportChangeOpcode) =
      hw.hRportChangeOpcode.learnt b known := by
    unfold NbrOpcode.learnt Hardware.reset
    cases b.ovsdb <;> cases known <;> rfl
  rw [@learn_place b now frame c p s ((hw.reset b).unrecognized cnt)
    fun hfind => hok (Option.isSome_eq_false_iff.2 (Option.isNone_iff_eq_none.2 hfind)), addPort_eq]
  simp only [hop]
  exact ⟨_, _, rfl⟩

theorem Takes.learn_eq {stack : Buffer 32} {mode : Mode} {cnt : UInt64}
    (ht : Takes b s hw stack frame mode c p) :
    ∃ known a fast, (learn b now (decapsulate frame) c p s
        ((hw.reset b).unrecognized cnt)).1 =
      { hw with
        hRxUnrecognizedCnt := cnt
        hRports :=
          kept s hw c p ++
            [p.heardAt now (decapsulate frame) a]
        hInsertCnt := hw.hInsertCnt + if known then 0 else 1
        hTxFast := fast
        hRportChangeOpcode := hw.hRportChangeOpcode.learnt b known } :=
  ⟨_, Lldpd.learn_eq rfl fun hnone =>
    ht.room (Option.isNone_iff_eq_none.1 (Option.isSome_eq_false_iff.1 hnone))⟩

theorem Takes.hRports {stack : Buffer 32} {mode : Mode} {cnt : UInt64}
    (ht : Takes b s hw stack frame mode c p) :
    ∃ a, (learn b now (decapsulate frame) c p s
        ((hw.reset b).unrecognized cnt)).1.hRports =
      kept s hw c p ++
        [p.heardAt now (decapsulate frame) a] := by
  obtain ⟨known, a, fast, heq⟩ := @Takes.learn_eq b now frame c p s hw stack mode cnt ht
  exact ⟨a, by rw [heq]⟩

end Learnt

end Lldpd
