import Lldpd.L3Daemon.Follow
import Lldpd.L3Daemon.Limit

/-!
# Counting new neighbors

`h_insert_cnt` counts the remote ports that are added to an interface, and
`h_drop_cnt` is there for the neighbors that are refused because the table is
full. It is read by the traps, by SNMP and by the OVSDB statistics and cleared
with the other counters, but nothing ever increments it: a refused neighbor is
not counted at all (`refused_uncounted`). `new_neighbors_counted` says what is
counted in every run, and that the account is right exactly as long as no new
neighbor is refused.
-/
namespace Lldpd
open Core

def Hardware.isFull (hw : Hardware) (cfg : Config) (mode : Mode) : Bool :=
  cfg.cMaxNeighbors ≠ 0 && cfg.cMaxNeighbors - 1 < hw.count mode

def newNeighbor (b : Build) (s : Daemon) (hw : Hardware) (stack : Buffer 32) (frame : Bytes) :
    Option Mode :=
  if frame.length < 18 ∨ hw.repeats frame then none
  else
    match lldpdGuessType s.gProtocols (decapsulate frame) with
    | none => none
    | some mode =>
      match decodeMode b s.gConfig stack mode (decapsulate frame) with
      | .ok (.neighbor c p, _) =>
        if (oport s hw c p).isSome then none else some mode
      | _ => none

section
variable {b : Build} {now : Int} {stack : Buffer 32} {frame : Bytes} {s : Daemon} {hw : Hardware}
  {mode : Mode}

theorem isFull_iff {p : Port} (hp : p.pProtocol = some mode) :
    hw.isFull s.gConfig mode = true ↔ Full s hw p := by
  unfold Hardware.isFull Full
  rw [Bool.and_eq_true, decide_eq_true_eq, decide_eq_true_eq, hp]
  rfl

theorem newNeighbor_announces {c : Chassis} {p : Port} (ha : Announces b s stack frame mode c p)
    (hdup : ¬ hw.repeats frame = true) :
    newNeighbor b s hw stack frame = if (oport s hw c p).isSome then none else some mode := by
  obtain ⟨hlong, hguess, n, hdec⟩ := ha
  have hcond : ¬ (frame.length < 18 ∨ hw.repeats frame = true) := by
    rintro (hshort | hd)
    · omega
    · exact hdup hd
  unfold newNeighbor
  rw [if_neg hcond]
  simp [hguess, hdec]

theorem announces_of_newNeighbor (h : newNeighbor b s hw stack frame = some mode) :
    ∃ c p, Announces b s stack frame mode c p := by
  unfold newNeighbor at h
  split at h
  · cases h
  split at h
  · cases h
  rename_i mode' hguess
  split at h
  · rename_i c p n hdec
    split at h
    · cases h
    · cases h
      exact ⟨c, p, by omega, hguess, n, hdec⟩
  · cases h

theorem newNeighbor_eq_none (hnone : ∀ mode c p, ¬ Announces b s stack frame mode c p) :
    newNeighbor b s hw stack frame = none := by
  cases h : newNeighbor b s hw stack frame with
  | none => rfl
  | some mode =>
    obtain ⟨c, p, ha⟩ := announces_of_newNeighbor h
    exact absurd ha (hnone mode c p)

def takesNew (b : Build) (s : Daemon) (hw : Hardware) (stack : Buffer 32) (frame : Bytes) : Bool :=
  (newNeighbor b s hw stack frame).any fun mode => !hw.isFull s.gConfig mode

theorem refresh_hRports_length (cur : NbrOpcode) (f : Bytes) :
    (refresh b now cur f hw).hRports.length = hw.hRports.length := by
  have hmap := map_refresh b now cur f hw (k := fun _ => ()) fun _ => rfl
  have hlen := congrArg List.length hmap
  rwa [List.length_map, List.length_map] at hlen

theorem attachVlans_length (c : Chassis) (rest : List Port) (vlans : List Vlan) (mgmts : List Mgmt)
    (h : Heap Chassis) : (attachVlans c rest vlans mgmts h).1.length = rest.length := by
  induction rest generalizing vlans mgmts h with
  | nil => rfl
  | cons q rest ih =>
    unfold attachVlans
    split
    · simp [ih]
    · simp [ih]

/-- A port is added and counted, or neither. -/
structure Adds (added : Bool) (hw hw' : Hardware) : Prop where
  drop : hw'.hDropCnt = hw.hDropCnt
  insert : hw'.hInsertCnt = hw.hInsertCnt + if added then 1 else 0
  length : hw'.hRports.length = hw.hRports.length + if added then 1 else 0

theorem adds_none {added : Bool} {hw hw' : Hardware} (hadded : added = false)
    (hdrop : hw'.hDropCnt = hw.hDropCnt) (hinsert : hw'.hInsertCnt = hw.hInsertCnt)
    (hlen : hw'.hRports.length = hw.hRports.length) : Adds added hw hw' := by
  subst hadded
  exact ⟨hdrop, hinsert.trans (UInt64.add_zero _).symm, hlen⟩

theorem decode_adds {r : Hardware × Daemon} (h : lldpdDecode b now stack frame s hw = .ok r) :
    Adds (takesNew b s hw stack frame) hw r.1 := by
  have hnot : newNeighbor b s hw stack frame = none → takesNew b s hw stack frame = false := by
    intro hnone
    unfold takesNew
    rw [hnone]
    rfl
  obtain ⟨hw', s'⟩ := r
  have hr := received h
  cases hr with
  | short hshort => exact adds_none (hnot (if_pos (.inl hshort))) rfl rfl rfl
  | duplicate hlong hdup =>
    exact adds_none (hnot (if_pos (.inr hdup))) rfl rfl (refresh_hRports_length _ _)
  | ignored hlong hdup hnone => exact adds_none (hnot (newNeighbor_eq_none hnone)) rfl rfl rfl
  | @vlans cnt c p hlong hdup htells =>
    obtain ⟨mode, n, hguess, hdec⟩ := htells
    refine adds_none (hnot (newNeighbor_eq_none ?_)) rfl rfl (attachVlans_length _ _ _ _ _)
    intro mode' c' p' ha
    cases hguess.symm.trans ha.guess
    obtain ⟨n', hdec'⟩ := ha.decode
    cases hdec.symm.trans hdec'
  | refused ha hdup hfind hfull =>
    refine adds_none ?_ rfl rfl rfl
    unfold takesNew
    rw [newNeighbor_announces ha hdup, hfind, if_neg (by simp), Option.any_some,
      (isFull_iff ha.protocol.2).2 hfull]
    rfl
  | @learnt cnt mode c p ht =>
    obtain ⟨ha, hdup, hok⟩ := ht
    have hnew := newNeighbor_announces ha hdup
    cases hfind : oport s hw c p with
    | some q =>
      obtain ⟨a, fast, heq⟩ := @learn_eq b now (decapsulate frame) c
        p s hw true cnt (by rw [hfind]; rfl) (by simp)
      rw [hfind] at hnew
      rw [heq]
      refine adds_none (hnot hnew) rfl (UInt64.add_zero _) ?_
      rw [List.length_append, (perm_cons_eraseP hfind).length_eq]
      rfl
    | none =>
      have hroom := hok hfind
      obtain ⟨a, fast, heq⟩ := @learn_eq b now (decapsulate frame) c
        p s hw false cnt (by rw [hfind]; rfl) (fun _ => hroom)
      have hadded : takesNew b s hw stack frame = true := by
        rw [hfind] at hnew
        unfold takesNew
        rw [hnew, if_neg (by simp), Option.any_some,
          Bool.eq_false_of_not_eq_true fun hfull => hroom ((isFull_iff ha.protocol.2).1 hfull)]
        rfl
      rw [hadded, heq]
      refine ⟨rfl, rfl, ?_⟩
      rw [List.length_append, kept_of_none hfind]
      rfl

end

/-! ## Runs -/

/-- The protocol of the new neighbor that the event announces on the interface. -/
def Visit.newNeighbor (b : Build) (v : Visit) : Option Mode :=
  match v.event with
  | .decode i frame _ stack =>
    if i = v.place then Lldpd.newNeighbor b v.daemon v.hardware stack frame else none
  | _ => none

/-- The event is a frame that adds a remote port to the interface. -/
def Visit.addsPort (v : Visit) : Bool :=
  match v.event with
  | .decode i _ _ _ => i = v.place && v.hardware.hRports.length < v.after.hRports.length
  | _ => false

def Visit.findsFull (b : Build) (v : Visit) : Bool :=
  (v.newNeighbor b).any fun mode => v.hardware.isFull v.daemon.gConfig mode

/-- One of the two counters counts it: that of the ports that are added, or
that of the neighbors that are refused. -/
def Visit.CountedOnce (v : Visit) : Prop :=
  (v.after.hRports.length = v.hardware.hRports.length + 1 ∧
      v.after.hInsertCnt = v.hardware.hInsertCnt + 1 ∧ v.after.hDropCnt = v.hardware.hDropCnt) ∨
    (v.after.hRports.length = v.hardware.hRports.length ∧
      v.after.hInsertCnt = v.hardware.hInsertCnt ∧ v.after.hDropCnt = v.hardware.hDropCnt + 1)

structure Visit.Accounts (b : Build) (v : Visit) : Prop where
  drop : v.after.hDropCnt = v.hardware.hDropCnt
  insert : v.after.hInsertCnt = v.hardware.hInsertCnt + if v.addsPort then 1 else 0
  adds : v.addsPort = (v.newNeighbor b).any fun mode => !v.hardware.isFull v.daemon.gConfig mode
  length : (v.newNeighbor b).isSome →
    v.after.hRports.length = v.hardware.hRports.length + if v.addsPort then 1 else 0

section Runs
variable {b : Build} {v : Visit}

theorem accounts_of_not_decode (hdrop : v.after.hDropCnt = v.hardware.hDropCnt)
    (hinsert : v.after.hInsertCnt = v.hardware.hInsertCnt)
    (hev : ∀ frame now stack, v.event ≠ .decode v.place frame now stack) : v.Accounts b := by
  have hadds : v.addsPort = false := by
    unfold Visit.addsPort
    split
    · rename_i i frame now stack hdec
      have hne : i ≠ v.place := fun hi => hev frame now stack (hi ▸ hdec)
      simp [hne]
    · rfl
  have hnew : v.newNeighbor b = none := by
    unfold Visit.newNeighbor
    split
    · rename_i i frame now stack hdec
      have hne : i ≠ v.place := fun hi => hev frame now stack (hi ▸ hdec)
      exact if_neg hne
    · rfl
  refine ⟨hdrop, ?_, ?_, ?_⟩
  · rw [hadds, hinsert]
    exact (UInt64.add_zero _).symm
  · rw [hadds, hnew]
    rfl
  · rw [hnew]
    intro hsome
    cases hsome

/-- The step lemma: all that happens to an interface is accounted for. -/
theorem accounts_step {s s' : Daemon} {i : Nat} {hw hw' : Hardware} {ev : Event}
    (h : Hardware.Step b s s' i hw ev hw') : Visit.Accounts b ⟨s, i, hw, ev, hw', s'⟩ := by
  cases h with
  | scan => exact accounts_of_not_decode rfl rfl (by simp)
  | @decode frame now stack r hdec hs' =>
    obtain ⟨hdrop, hinsert, hlen⟩ := decode_adds hdec
    have hadds : Visit.addsPort ⟨s, i, hw, .decode i frame now stack, r.1, s'⟩ =
        takesNew b s hw stack frame := by
      show (decide (i = i) && decide (hw.hRports.length < r.1.hRports.length)) = _
      rw [hlen]
      cases takesNew b s hw stack frame <;> simp
    refine ⟨hdrop, ?_, ?_, ?_⟩
    · rw [hadds]
      exact hinsert
    · rw [hadds]
      show takesNew b s hw stack frame = (if i = i then _ else _ : Option Mode).any _
      rw [if_pos rfl]
      rfl
    · rw [hadds]
      exact fun _ => hlen
  | remoteCleanup => exact accounts_of_not_decode rfl rfl (by simp)
  | cleanup => exact accounts_of_not_decode rfl rfl (by simp)
  | other hev =>
    refine accounts_of_not_decode rfl rfl fun frame now stack he => ?_
    have he : ev = .decode i frame now stack := he
    subst he
    simp [Event.concerns] at hev

variable {protocols : List Protocol} {vs : List Visit} {cfg : Config} {w w' : Watch}

theorem accounts_run (hrun : Watch.Run (daemon b cfg protocols) w vs w') : ∀ v ∈ vs, v.Accounts b :=
  hrun.forall_visits (fun _ _ _ hst => hst) fun _ _ _ _ _ _ => accounts_step

theorem addsPort_eq (hacc : v.Accounts b) (hfull : v.findsFull b = false) :
    v.addsPort = (v.newNeighbor b).isSome := by
  rw [hacc.adds]
  unfold Visit.findsFull at hfull
  cases hnew : v.newNeighbor b with
  | none => rfl
  | some mode =>
    rw [hnew, Option.any_some] at hfull
    rw [Option.any_some, hfull]
    rfl

/-- A new neighbor is counted unless it finds the table full. -/
theorem countedOnce_iff (hacc : v.Accounts b) (hnew : (v.newNeighbor b).isSome) :
    v.CountedOnce ↔ v.findsFull b = false := by
  have hlen := hacc.length hnew
  have hinsert := hacc.insert
  cases hfull : v.findsFull b with
  | false =>
    rw [addsPort_eq hacc hfull, hnew] at hlen hinsert
    exact ⟨fun _ => rfl, fun _ => .inl ⟨hlen, hinsert, hacc.drop⟩⟩
  | true =>
    have hadds : v.addsPort = false := by
      obtain ⟨mode, hmode⟩ := Option.isSome_iff_exists.1 hnew
      unfold Visit.findsFull at hfull
      rw [hmode, Option.any_some] at hfull
      rw [hacc.adds, hmode, Option.any_some, hfull]
      rfl
    rw [hadds] at hlen
    constructor
    · rintro (⟨hlen', -, -⟩ | ⟨-, -, hdrop⟩)
      · rw [hlen] at hlen'
        simp at hlen'
      · rw [hacc.drop] at hdrop
        simp at hdrop
    · intro hfalse
      cases hfalse

theorem counters_run (hrun : Watch.Run (daemon b cfg protocols) w vs w') {hw hw' : Hardware}
    (hget : w.hardware = some hw) (hget' : w'.hardware = some hw') :
    hw'.hDropCnt = hw.hDropCnt ∧
      hw'.hInsertCnt = hw.hInsertCnt + UInt64.ofNat (vs.countP Visit.addsPort) := by
  have hacc := accounts_run hrun
  induction hrun generalizing hw with
  | nil w =>
    cases hget.symm.trans hget'
    exact ⟨rfl, (UInt64.add_zero _).symm⟩
  | @cons w w1 w' ev hw0 hw1 vs hget0 hstep hfollow hget1 hrun ih =>
    cases hget0.symm.trans hget
    obtain ⟨hdrop, hinsert⟩ := ih hget1 hget' fun v hv => hacc v (List.mem_cons_of_mem _ hv)
    have hv := hacc _ List.mem_cons_self
    refine ⟨hdrop.trans hv.drop, ?_⟩
    rw [hinsert, hv.insert, List.countP_cons, UInt64.ofNat_add, UInt64.add_assoc,
      UInt64.add_comm (UInt64.ofNat _)]
    split <;> rfl

/-- In every run, for an interface that is there during all of it:
`h_insert_cnt` grows by the number of ports that are added. Every new neighbor
is counted exactly once if and only if none of them finds the table full, and
then the two counters together grow by the number of new neighbors. -/
theorem new_neighbors_counted (b : Build) (cfg : Config) (protocols : List Protocol) (w w' : Watch)
    (vs : List Visit) (hw hw' : Hardware) (hget : w.hardware = some hw)
    (hrun : Watch.Run (daemon b cfg protocols) w vs w') (hget' : w'.hardware = some hw') :
    hw'.hInsertCnt = hw.hInsertCnt + UInt64.ofNat (vs.countP Visit.addsPort) ∧
      ((∀ v ∈ vs, (v.newNeighbor b).isSome → v.CountedOnce) ↔
        ∀ v ∈ vs, v.findsFull b = false) ∧
      ((∀ v ∈ vs, v.findsFull b = false) →
        hw'.hInsertCnt + hw'.hDropCnt = hw.hInsertCnt + hw.hDropCnt +
          UInt64.ofNat (vs.countP fun v => (v.newNeighbor b).isSome)) := by
  have hacc := accounts_run hrun
  obtain ⟨hdrop, hinsert⟩ := counters_run hrun hget hget'
  refine ⟨hinsert, ?_, ?_⟩
  · constructor
    · intro hall v hv
      cases hnew : v.newNeighbor b with
      | none =>
        unfold Visit.findsFull
        rw [hnew]
        rfl
      | some mode =>
        have hsome : (v.newNeighbor b).isSome := by rw [hnew]; rfl
        exact (countedOnce_iff (hacc v hv) hsome).1 (hall v hv hsome)
    · intro hall v hv hnew
      exact (countedOnce_iff (hacc v hv) hnew).2 (hall v hv)
  · intro hall
    have hcount : vs.countP Visit.addsPort = vs.countP fun v => (v.newNeighbor b).isSome :=
      List.countP_congr fun v hv => by rw [addsPort_eq (hacc v hv) (hall v hv)]
    rw [hdrop, hinsert, hcount, UInt64.add_assoc, UInt64.add_assoc, UInt64.add_comm hw.hDropCnt]

end Runs

theorem new_neighbors_counted_two : ∃ w w' vs hw hw', w.hardware = some hw ∧
    Watch.Run (daemon .full {} lldpOnly) w vs w' ∧ w'.hardware = some hw' ∧ hw.hInsertCnt = 0 ∧
      hw'.hInsertCnt = 2 ∧ UInt64.ofNat (vs.countP Visit.addsPort) = 2 := by
  obtain ⟨s, -, hw, hget, hzero, w', hrun, hw2, hget2, htwo⟩ :
      ∃ s ∈ (Daemon.started {} lldpOnly).run .full (twoNeighbors.take 2),
      ∃ hw ∈ Watch.hardware ⟨s, 0⟩, hw.hInsertCnt = 0 ∧
      ∃ w ∈ (twoNeighbors.drop 2).foldlM (Watch.step .full) ⟨s, 0⟩,
      ∃ hw ∈ w.hardware, hw.hInsertCnt = 2 := by
    decide
  obtain ⟨vs, hw', hvs, hget', -⟩ := Watch.run_exists {} lldpOnly hget hrun
  cases hget2.symm.trans hget'
  have hcount := (new_neighbors_counted .full {} lldpOnly ⟨s, 0⟩ w' vs hw hw2 hget hvs
    hget').1
  rw [hzero, htwo, UInt64.zero_add] at hcount
  exact ⟨⟨s, 0⟩, w', vs, hw, hw2, hget, hvs, hget', hzero, htwo, hcount.symm⟩

/-- A limit of one: the second neighbor is new, it is refused, and no counter
moves. -/
theorem refused_uncounted : ∃ s hw r,
    (Daemon.started { cMaxNeighbors := 1 } lldpOnly).run .full oneNeighbor = some s ∧
      s.gHardware[0]? = some hw ∧
      newNeighbor .full s hw Lldp.zeroStack (announcement [1] [2] [65]) = some .lldp ∧
      lldpdDecode .full 0 Lldp.zeroStack (announcement [1] [2] [65]) s hw = .ok r ∧
      r.1.hInsertCnt = hw.hInsertCnt ∧ r.1.hDropCnt = hw.hDropCnt ∧
      r.1.hRports = hw.hRports := by
  obtain ⟨s, hs, hw, hget, hnew, r, hr, hcounts⟩ :
      ∃ s ∈ (Daemon.started { cMaxNeighbors := 1 } lldpOnly).run .full oneNeighbor,
      ∃ hw ∈ s.gHardware[0]?,
        newNeighbor .full s hw Lldp.zeroStack (announcement [1] [2] [65]) = some .lldp ∧
      ∃ r ∈ (lldpdDecode .full 0 Lldp.zeroStack (announcement [1] [2] [65]) s hw).toOption,
        r.1.hInsertCnt = hw.hInsertCnt ∧ r.1.hDropCnt = hw.hDropCnt ∧
          r.1.hRports = hw.hRports := by
    decide
  exact ⟨s, hw, r, hs, hget, hnew, eq_ok_of_toOption hr, hcounts⟩

end Lldpd
