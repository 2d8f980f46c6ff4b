import Lldpd.L3Daemon.Smart

/-!
# Which neighbors the smart filter shows

`lldpd_hide_ports` uses one array for two things: first it counts the ports of
each protocol, then it marks the protocols that stay. Here is what comes out of
it, in terms of the protocols with the fewest ports (`Shown`): all their ports
are visible, or the first of these ports when one neighbor is asked for. The
filter touches only the flag of its direction, and a second run changes nothing
(`lldpdHidePorts_shows`).
-/
namespace Lldpd
open Core

def Smart.oneProtoFlag : Smart → UInt32
  | .incoming => SMART_INCOMING_ONE_PROTO
  | .outgoing => SMART_OUTGOING_ONE_PROTO

def Smart.oneNeighFlag : Smart → UInt32
  | .incoming => SMART_INCOMING_ONE_NEIGH
  | .outgoing => SMART_OUTGOING_ONE_NEIGH

/-- A protocol with the smallest number of ports that is not zero. -/
def Fewest (rports : List Port) (p : Option Mode) : Prop :=
  occurrences rports p ≠ 0 ∧
    ∀ q ∈ protocolIndices, occurrences rports q ≠ 0 → occurrences rports p ≤ occurrences rports q

def Shown (first : Bool) (rports : List Port) (p : Option Mode) : Prop :=
  Fewest rports p ∧ (first = true → ∀ q ∈ protocolIndices, Fewest rports q →
    protocolIndices.idxOf p ≤ protocolIndices.idxOf q)

instance (rports : List Port) (p : Option Mode) : Decidable (Fewest rports p) :=
  inferInstanceAs (Decidable (_ ∧ _))

instance (first : Bool) (rports : List Port) (p : Option Mode) : Decidable (Shown first rports p) :=
  inferInstanceAs (Decidable (_ ∧ _))

section Protocols
variable {rports : List Port} {p : Option Mode}

theorem fewest_iff : some (occurrences rports p) =
    ((protocolIndices.map (occurrences rports)).filter (· ≠ 0)).min? ↔ Fewest rports p := by
  have hmem (n : Nat) : n ∈ (protocolIndices.map (occurrences rports)).filter (· ≠ 0) ↔
      (∃ q ∈ protocolIndices, occurrences rports q = n) ∧ n ≠ 0 := by
    rw [List.mem_filter, List.mem_map, decide_eq_true_eq]
  rw [eq_comm, List.min?_eq_some_iff, hmem]
  constructor
  · rintro ⟨⟨-, hne⟩, hle⟩
    refine ⟨hne, fun q hq hcount => hle _ ((hmem _).2 ⟨⟨q, hq, rfl⟩, hcount⟩)⟩
  · rintro ⟨hne, hle⟩
    refine ⟨⟨⟨p, mem_protocolIndices p, rfl⟩, hne⟩, fun n hn => ?_⟩
    obtain ⟨⟨q, hq, rfl⟩, hcount⟩ := (hmem n).1 hn
    exact hle q hq hcount

/-- The first element with a property. -/
theorem mem_take_filter {α : Type} [BEq α] [LawfulBEq α] {P : α → Bool} {x : α} (l : List α) :
    x ∈ (l.filter P).take 1 ↔
      x ∈ l ∧ P x = true ∧ ∀ y ∈ l, P y = true → l.idxOf x ≤ l.idxOf y := by
  induction l with
  | nil => simp
  | cons a l ih =>
    by_cases ha : P a = true
    · rw [List.filter_cons_of_pos ha, List.take_succ_cons, List.take_zero, List.mem_singleton]
      constructor
      · rintro rfl
        refine ⟨List.mem_cons_self, ha, fun y _ _ => ?_⟩
        rw [List.idxOf_cons_self]
        exact Nat.zero_le _
      · rintro ⟨-, -, hfirst⟩
        have hzero := hfirst a List.mem_cons_self ha
        rw [List.idxOf_cons_self] at hzero
        by_contra hne
        rw [List.idxOf_cons_ne _ (Ne.symm hne)] at hzero
        omega
    · rw [List.filter_cons_of_neg ha, ih]
      have hskip {y : α} (hy : P y = true) : (a :: l).idxOf y = l.idxOf y + 1 := by
        apply List.idxOf_cons_ne
        rintro rfl
        exact ha hy
      constructor
      · rintro ⟨hx, hPx, hfirst⟩
        refine ⟨List.mem_cons_of_mem _ hx, hPx, fun y hy hPy => ?_⟩
        rcases List.mem_cons.1 hy with rfl | hy
        · exact absurd hPy ha
        · rw [hskip hPx, hskip hPy]
          exact Nat.succ_le_succ (hfirst y hy hPy)
      · rintro ⟨hx, hPx, hfirst⟩
        rcases List.mem_cons.1 hx with rfl | hx
        · exact absurd hPx ha
        · refine ⟨hx, hPx, fun y hy hPy => ?_⟩
          have hle := hfirst y (List.mem_cons_of_mem _ hy) hPy
          rw [hskip hPx, hskip hPy] at hle
          exact Nat.le_of_succ_le_succ hle

theorem mem_enabledProtocols (first : Bool) (rports : List Port) (p : Option Mode) :
    p ∈ enabledProtocols first rports ↔ Shown first rports p := by
  unfold enabledProtocols Shown
  cases first with
  | true =>
    rw [if_pos rfl, mem_take_filter]
    simp only [decide_eq_true_eq, fewest_iff, mem_protocolIndices, true_and, forall_const]
  | false =>
    rw [if_neg Bool.false_ne_true, List.mem_filter, decide_eq_true_eq, fewest_iff]
    simp [mem_protocolIndices]

end Protocols

/-! ## The flags -/

section Flags
variable {cfg : Config} {dir : Smart} {rports : List Port}

theorem Smart.oneProto_eq (dir : Smart) (cSmart : UInt32) :
    dir.oneProto cSmart = decide (cSmart &&& dir.oneProtoFlag ≠ 0) := by
  unfold Smart.oneProto
  rw [UInt32.and_assoc]
  cases dir with
  | incoming => rfl
  | outgoing => rfl

theorem Smart.oneNeigh_eq (dir : Smart) (cSmart : UInt32) :
    dir.oneNeigh cSmart = decide (cSmart &&& dir.oneNeighFlag ≠ 0) := by
  unfold Smart.oneNeigh
  rw [UInt32.and_assoc]
  cases dir with
  | incoming => rfl
  | outgoing => rfl

theorem Smart.hide_hide (dir : Smart) (flag flag' : Bool) (port : Port) :
    dir.hide flag (dir.hide flag' port) = dir.hide flag port := by
  cases dir with
  | incoming => rfl
  | outgoing => rfl

/-- The first pass: a port is hidden unless its protocol is shown. -/
def hideProtocols (dir : Smart) (first : Bool) (rports : List Port) (port : Port) : Port :=
  dir.hide (!decide (Shown first rports port.pProtocol)) port

theorem hidePorts_eq (cfg : Config) (dir : Smart) (rports : List Port) :
    lldpdHidePorts cfg dir rports =
      if dir.oneNeigh cfg.cSmart then
        hideRest dir false (rports.map (hideProtocols dir (dir.oneProto cfg.cSmart) rports))
      else rports.map (hideProtocols dir (dir.oneProto cfg.cSmart) rports) := by
  have hfirst : (fun port : Port => dir.hide
      (!(enabledProtocols (dir.oneProto cfg.cSmart) rports).contains port.pProtocol) port) =
        hideProtocols dir (dir.oneProto cfg.cSmart) rports := by
    funext port
    congr 2
    rw [Bool.eq_iff_iff, List.contains_iff_mem, mem_enabledProtocols, decide_eq_true_eq]
  unfold lldpdHidePorts
  dsimp only
  rw [hfirst]

/-- Behind a visible port all are hidden. -/
theorem hideRest_found (dir : Smart) (ports : List Port) :
    hideRest dir true ports = ports.map (dir.hide true) := by
  induction ports with
  | nil => rfl
  | cons q ports ih =>
    rw [hideRest, Bool.true_or, ih]
    rfl

/-- In front of one nothing changes. -/
theorem hideRest_append {xs : List Port} {port : Port} (hxs : ∀ x ∈ xs, dir.hidden x = true)
    (hport : dir.hidden port = false) (ys : List Port) :
    hideRest dir false (xs ++ port :: ys) = xs ++ port :: ys.map (dir.hide true) := by
  induction xs with
  | nil =>
    rw [List.nil_append, hideRest]
    simp only [Bool.false_eq_true, if_false, Bool.false_or, hport, Bool.not_false, hideRest_found]
    rfl
  | cons x xs ih =>
    rw [List.forall_mem_cons] at hxs
    rw [List.cons_append, hideRest]
    simp only [Bool.false_eq_true, if_false, Bool.false_or, hxs.1, Bool.not_true, ih hxs.2]
    rfl

theorem exists_first (first : Bool) (h : rports ≠ []) : ∃ xs port ys, rports = xs ++ port :: ys ∧
    Shown first rports port.pProtocol ∧ ∀ x ∈ xs, ¬ Shown first rports x.pProtocol := by
  obtain ⟨port, hport, henabled⟩ := exists_enabled first h
  rw [mem_enabledProtocols] at henabled
  have hsome : (rports.find? fun q => decide (Shown first rports q.pProtocol)).isSome = true :=
    List.find?_isSome.2 ⟨port, hport, decide_eq_true henabled⟩
  obtain ⟨q, hq⟩ := Option.isSome_iff_exists.1 hsome
  obtain ⟨hshown, xs, ys, heq, hxs⟩ := List.find?_eq_some_iff_append.1 hq
  refine ⟨xs, q, ys, heq, of_decide_eq_true hshown, fun x hx hshown => ?_⟩
  have hnot := hxs x hx
  rw [decide_eq_true hshown] at hnot
  cases hnot

/-- The filter counts protocols, and it does not change them. -/
theorem shown_hidePorts (cfg : Config) (dir : Smart) (first : Bool) (rports : List Port) :
    Shown first (lldpdHidePorts cfg dir rports) = Shown first rports := by
  have hcount : occurrences (lldpdHidePorts cfg dir rports) = occurrences rports := by
    funext protocol
    have hmap : (lldpdHidePorts cfg dir rports).map Port.pProtocol = rports.map Port.pProtocol :=
      map_hidePorts (fun _ _ => Smart.pProtocol_hide) cfg rports
    unfold occurrences
    have hcountP (l : List Port) : l.countP (fun port => port.pProtocol == protocol) =
        (l.map Port.pProtocol).countP (· == protocol) := by
      rw [List.countP_map]
      rfl
    rw [hcountP, hcountP, hmap]
  unfold Shown Fewest
  rw [hcount]

/-- A second run. -/
theorem hidePorts_twice (cfg : Config) (dir : Smart) (rports : List Port) :
    lldpdHidePorts cfg dir (lldpdHidePorts cfg dir rports) = lldpdHidePorts cfg dir rports := by
  have hsame : hideProtocols dir (dir.oneProto cfg.cSmart) (lldpdHidePorts cfg dir rports) =
      hideProtocols dir (dir.oneProto cfg.cSmart) rports := by
    funext port
    unfold hideProtocols
    congr 2
    rw [Bool.eq_iff_iff, decide_eq_true_eq, decide_eq_true_eq, shown_hidePorts]
  have hmap : (lldpdHidePorts cfg dir rports).map
      (hideProtocols dir (dir.oneProto cfg.cSmart) rports) =
        rports.map (hideProtocols dir (dir.oneProto cfg.cSmart) rports) := by
    apply map_hidePorts
    intro flag q
    unfold hideProtocols
    rw [Smart.hide_hide, Smart.pProtocol_hide]
  rw [hidePorts_eq cfg dir (lldpdHidePorts cfg dir rports), hsame, hmap, ← hidePorts_eq]

/-- **What the filter shows.** With `first` for `ONE_PROTO`: without `ONE_NEIGH` the ports
whose protocol is shown, with `ONE_NEIGH` the first one of them. -/
theorem lldpdHidePorts_shows (cfg : Config) (dir : Smart) (rports : List Port) (hne : rports ≠ [])
    (first : Bool) (hfirst : first = decide (cfg.cSmart &&& dir.oneProtoFlag ≠ 0)) :
    (cfg.cSmart &&& dir.oneNeighFlag = 0 → lldpdHidePorts cfg dir rports =
      rports.map fun port => dir.hide (!decide (Shown first rports port.pProtocol)) port) ∧
    (cfg.cSmart &&& dir.oneNeighFlag ≠ 0 → ∃ xs port ys, rports = xs ++ port :: ys ∧
      Shown first rports port.pProtocol ∧ (∀ x ∈ xs, ¬ Shown first rports x.pProtocol) ∧
      lldpdHidePorts cfg dir rports =
        xs.map (dir.hide true) ++ dir.hide false port :: ys.map (dir.hide true)) ∧
    lldpdHidePorts cfg dir (lldpdHidePorts cfg dir rports) = lldpdHidePorts cfg dir rports := by
  rw [← Smart.oneProto_eq] at hfirst
  subst hfirst
  refine ⟨fun hoff => ?_, fun hon => ?_, hidePorts_twice cfg dir rports⟩
  · rw [hidePorts_eq, Smart.oneNeigh_eq, if_neg (by simp [hoff])]
    rfl
  · obtain ⟨xs, port, ys, heq, hport, hxs⟩ := exists_first (dir.oneProto cfg.cSmart) hne
    refine ⟨xs, port, ys, heq, hport, hxs, ?_⟩
    have hmap := congrArg (List.map (hideProtocols dir (dir.oneProto cfg.cSmart) rports)) heq
    have hhidden : ∀ x ∈ xs, hideProtocols dir (dir.oneProto cfg.cSmart) rports x = dir.hide true x := by
      intro x hx
      rw [hideProtocols, decide_eq_false (hxs x hx), Bool.not_false]
    have hvisible : hideProtocols dir (dir.oneProto cfg.cSmart) rports port = dir.hide false port := by
      rw [hideProtocols, decide_eq_true hport, Bool.not_true]
    have hafter : (ys.map (hideProtocols dir (dir.oneProto cfg.cSmart) rports)).map (dir.hide true) =
        ys.map (dir.hide true) := by
      rw [List.map_map]
      exact List.map_congr_left fun y _ => Smart.hide_hide dir ..
    rw [hidePorts_eq, Smart.oneNeigh_eq, if_pos (decide_eq_true hon), hmap, List.map_append,
      List.map_cons, hvisible, List.map_congr_left hhidden, hideRest_append, hafter]
    · intro x hx
      obtain ⟨x0, -, rfl⟩ := List.mem_map.1 hx
      exact Smart.hidden_hide
    · exact Smart.hidden_hide

/-- Two neighbors by LLDP, one by CDP and one by EDP. -/
def fourPorts : List Port :=
  [{ pProtocol := some .lldp }, { pProtocol := some .cdpv1 }, { pProtocol := some .lldp },
    { pProtocol := some .edp }]

theorem lldpdHidePorts_shows_four :
    lldpdHidePorts { cSmart := SMART_INCOMING_FILTER } .incoming fourPorts = fourPorts.map fun port =>
      Smart.incoming.hide (!decide (Shown false fourPorts port.pProtocol)) port :=
  (lldpdHidePorts_shows { cSmart := SMART_INCOMING_FILTER } .incoming fourPorts
    (List.cons_ne_nil _ _) false (by decide)).1 (by decide)

example : (lldpdHidePorts oneEachWay .incoming fourPorts).map Port.pHiddenIn =
    [true, false, true, true] := by
  decide

end Flags

end Lldpd
