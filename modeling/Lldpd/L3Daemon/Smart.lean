import Lldpd.L3Daemon.Follow
import Lldpd.L3Daemon.Outcome
import Lldpd.L3Daemon.Limit

/-!
# The smart filter

When several neighbors are heard on one interface, most of them are probably
not connected to it. `lldpd_hide_ports` keeps those of the protocol with the
fewest neighbors and hides the others. The filter runs after each received
frame, over all interfaces, and always leaves one visible neighbor
(`exists_visible_hidePorts`).

It does not run when neighbors expire. A visible neighbor that leaves by
`lldpd_cleanup` leaves hidden ones behind, and then the interface has neighbors
but shows none (`expiry_hides_all`). As long as no hidden neighbor outlasts the
visible ones of its interface, there is one (`visible_reachable`).
-/
namespace Lldpd
open Core

def SMART_INCOMING_FILTER : UInt32 := 0x01
def SMART_INCOMING_ONE_PROTO : UInt32 := 0x02
def SMART_INCOMING_ONE_NEIGH : UInt32 := 0x04
def SMART_OUTGOING_FILTER : UInt32 := 0x08
def SMART_OUTGOING_ONE_PROTO : UInt32 := 0x10
def SMART_OUTGOING_ONE_NEIGH : UInt32 := 0x20

/-! ## The filter -/

/-- `mask`: what is hidden, for reception or for emission.
mirrors lldpd-structs.h:316-328 -/
inductive Smart where
  | incoming | outgoing
  deriving DecidableEq, Repr

namespace Smart

def mask : Smart → UInt32
  | .incoming => SMART_INCOMING_FILTER ||| SMART_INCOMING_ONE_PROTO ||| SMART_INCOMING_ONE_NEIGH
  | .outgoing => SMART_OUTGOING_FILTER ||| SMART_OUTGOING_ONE_PROTO ||| SMART_OUTGOING_ONE_NEIGH

def on (dir : Smart) (cSmart : UInt32) : Bool :=
  match dir with
  | .incoming => cSmart &&& SMART_INCOMING_FILTER ≠ 0
  | .outgoing => cSmart &&& SMART_OUTGOING_FILTER ≠ 0

def oneProto (dir : Smart) (cSmart : UInt32) : Bool :=
  cSmart &&& dir.mask &&& (SMART_OUTGOING_ONE_PROTO ||| SMART_INCOMING_ONE_PROTO) ≠ 0

def oneNeigh (dir : Smart) (cSmart : UInt32) : Bool :=
  cSmart &&& dir.mask &&& (SMART_OUTGOING_ONE_NEIGH ||| SMART_INCOMING_ONE_NEIGH) ≠ 0

def hidden (dir : Smart) (port : Port) : Bool :=
  match dir with
  | .incoming => port.pHiddenIn
  | .outgoing => port.pHiddenOut

def hide (dir : Smart) (flag : Bool) (port : Port) : Port :=
  match dir with
  | .incoming => { port with pHiddenIn := flag }
  | .outgoing => { port with pHiddenOut := flag }

end Smart

def protocolIndices : List (Option Mode) :=
  [none, some .lldp, some .cdpv1, some .cdpv2, some .sonmp, some .edp, some .fdp]

/-- `protocols[i]` behind the first loop: how many ports a protocol has. -/
def occurrences (rports : List Port) (protocol : Option Mode) : Nat :=
  rports.countP fun port => port.pProtocol == protocol

/-- The protocols that `protocols[]` enables behind the third loop: those with
the fewest ports, or only the first of them. `min` is `none` where the code
has `(unsigned int)-1`.
mirrors lldpd.c:853-874 -/
def enabledProtocols (oneProto : Bool) (rports : List Port) : List (Option Mode) :=
  let min := ((protocolIndices.map (occurrences rports)).filter (· ≠ 0)).min?
  let enabled := protocolIndices.filter fun i => some (occurrences rports i) = min
  if oneProto then enabled.take 1 else enabled

/-- The loop that leaves one neighbor. `found` is whether there was one.
mirrors lldpd.c:884-900 -/
def hideRest (dir : Smart) : Bool → List Port → List Port
  | _, [] => []
  | found, port :: rest =>
    let port := if found then dir.hide true port else port
    port :: hideRest dir (found || !dir.hidden port) rest

/-- `lldpd_hide_ports`, on the ports of the interface.
mirrors lldpd.c:842-933 -/
def lldpdHidePorts (cfg : Config) (dir : Smart) (rports : List Port) : List Port :=
  let enabled := enabledProtocols (dir.oneProto cfg.cSmart) rports
  let rports := rports.map fun port => dir.hide (!enabled.contains port.pProtocol) port
  if dir.oneNeigh cfg.cSmart then hideRest dir false rports else rports

def hideInterface (cfg : Config) (hardware : Hardware) : Hardware :=
  let rports := hardware.hRports
  let rports := if Smart.incoming.on cfg.cSmart then lldpdHidePorts cfg .incoming rports else rports
  let rports := if Smart.outgoing.on cfg.cSmart then lldpdHidePorts cfg .outgoing rports else rports
  { hardware with hRports := rports }

/-- `lldpd_hide_all`.
mirrors lldpd.c:936-950 -/
def lldpdHideAll (s : Daemon) : Daemon :=
  if s.gConfig.cSmart = 0 then s
  else { s with gHardware := s.gHardware.map (hideInterface s.gConfig) }

/-! ## The daemon with the filter -/

/-- One event. `decode` is what `lldpd_recv` does with a frame that its tests
let through; the others change nothing.
mirrors lldpd.c:1011-1013 -/
def Daemon.smartStep (b : Build) (s : Daemon) (ev : Event) : Option Daemon :=
  match ev with
  | .decode i frame now stack => do
    let hardware ← s.gHardware[i]?
    match lldpdDecode b now stack frame s { hardware with hRxCnt := hardware.hRxCnt + 1 } with
    | .ok (hardware, s) => return lldpdHideAll { s with gHardware := s.gHardware.set i hardware }
    | .error _ => none
  | ev => s.step b ev

inductive Daemon.SmartStepped (b : Build) (s : Daemon) : Event → Daemon → Prop where
  | decode {i frame now stack hw r} (hget : s.gHardware[i]? = some hw)
      (hdec : lldpdDecode b now stack frame s { hw with hRxCnt := hw.hRxCnt + 1 } = .ok r) :
      SmartStepped b s (.decode i frame now stack)
        (lldpdHideAll { r.2 with gHardware := r.2.gHardware.set i r.1 })
  | other {ev s'} (hev : ∀ i frame now stack, ev ≠ .decode i frame now stack)
      (h : s.step b ev = some s') : SmartStepped b s ev s'

theorem Daemon.smartStepped {b : Build} {s s' : Daemon} {ev : Event}
    (h : s.smartStep b ev = some s') : s.SmartStepped b ev s' := by
  unfold smartStep at h
  split at h
  · obtain ⟨hw, hget, h⟩ := Option.bind_eq_some_iff.1 h
    split at h
    · cases h
      exact .decode hget ‹_›
    · cases h
  · exact .other ‹_› h

def smartDaemon (b : Build) (cfg : Config) (protocols : List Protocol) : LTS Daemon Event :=
  .ofFn (Daemon.startUp cfg protocols) (Daemon.smartStep b)

/-- An interface with a neighbor has one that is visible, and one that is
visible for emission when there is a filter for it. -/
def ShowsOne (cfg : Config) (rports : List Port) : Prop :=
  rports ≠ [] → (∃ port ∈ rports, port.pHiddenIn = false) ∧
    (Smart.outgoing.on cfg.cSmart → ∃ port ∈ rports, port.pHiddenOut = false)

/-- While the lifetime of a hidden neighbor runs (`p_lastupdate + c_ttl`), so does that of
a visible one. -/
def Outlasts (dir : Smart) (now : Int) (gChassis : Heap Chassis) (rports : List Port) : Prop :=
  ∀ q ∈ rports, dir.hidden q = true → expired now gChassis q = false →
    ∃ port ∈ rports, dir.hidden port = false ∧ expired now gChassis port = false

/-- An expiry meets no interface with a hidden neighbor that outlasts the visible ones. -/
def LeavesVisible (s : Daemon) (ev : Event) : Prop :=
  let outlast now rports := Outlasts .incoming now s.gChassis rports ∧
    (Smart.outgoing.on s.gConfig.cSmart → Outlasts .outgoing now s.gChassis rports)
  match ev with
  | .cleanup now => ∀ hw ∈ s.gHardware, hw.hFlags ≠ 0 → outlast now hw.hRports
  | .remoteCleanup i true false now => ∀ hw ∈ s.gHardware[i]?, outlast now hw.hRports
  | _ => True

instance (dir : Smart) (now : Int) (gChassis : Heap Chassis) (rports : List Port) :
    Decidable (Outlasts dir now gChassis rports) :=
  inferInstanceAs (Decidable (∀ q ∈ rports, _))

instance (s : Daemon) (now : Int) : Decidable (LeavesVisible s (.cleanup now)) :=
  inferInstanceAs (Decidable (∀ hw ∈ s.gHardware, hw.hFlags ≠ 0 → _ ∧ (_ → _)))

/-! ## What the filter does -/

namespace Smart
variable {dir dir' : Smart} {port : Port} {flag : Bool}

@[simp] theorem hidden_hide : dir.hidden (dir.hide flag port) = flag := by cases dir <;> rfl

theorem hidden_hide_of_ne (h : dir' ≠ dir) : dir'.hidden (dir.hide flag port) = dir'.hidden port := by
  cases dir <;> cases dir' <;> first | rfl | exact absurd rfl h

theorem pProtocol_hide : (dir.hide flag port).pProtocol = port.pProtocol := by cases dir <;> rfl

end Smart

section Filter
variable {cfg : Config} {dir dir' : Smart} {rports : List Port}

theorem mem_protocolIndices (protocol : Option Mode) : protocol ∈ protocolIndices := by
  cases protocol with
  | none => decide
  | some mode => cases mode <;> decide

/-- Some port has a protocol that stays enabled: the minimum is one of the
counts that are not zero. -/
theorem exists_enabled (oneProto : Bool) (h : rports ≠ []) :
    ∃ port ∈ rports, port.pProtocol ∈ enabledProtocols oneProto rports := by
  obtain ⟨port, hport⟩ := List.exists_mem_of_ne_nil rports h
  have hcount : occurrences rports port.pProtocol ≠ 0 := by
    apply Nat.ne_of_gt
    exact List.countP_pos_iff.2 ⟨port, hport, beq_self_eq_true _⟩
  have hmem : occurrences rports port.pProtocol ∈
      (protocolIndices.map (occurrences rports)).filter (· ≠ 0) := by
    rw [List.mem_filter, decide_eq_true_eq]
    exact ⟨List.mem_map_of_mem (mem_protocolIndices _), hcount⟩
  obtain ⟨min, hmin⟩ := Option.isSome_iff_exists.1
    (List.isSome_min?_of_mem hmem)
  have hleast := List.min?_mem hmin
  rw [List.mem_filter, decide_eq_true_eq] at hleast
  obtain ⟨i, hi, heq⟩ := List.mem_map.1 hleast.1
  -- the first protocol that reaches the minimum is enabled in either case
  have henabled : i ∈ protocolIndices.filter fun i => some (occurrences rports i) = some min := by
    rw [List.mem_filter, decide_eq_true_eq, heq]
    exact ⟨hi, rfl⟩
  obtain ⟨j, rest, hcons⟩ := List.exists_cons_of_ne_nil (List.ne_nil_of_mem henabled)
  have hj : j ∈ protocolIndices.filter fun i => some (occurrences rports i) = some min := by
    rw [hcons]
    exact List.mem_cons_self
  rw [List.mem_filter, decide_eq_true_eq] at hj
  have hpos : 0 < occurrences rports j := by
    have := Option.some.inj hj.2
    omega
  obtain ⟨q, hq, hproto⟩ := List.countP_pos_iff.1 hpos
  refine ⟨q, hq, ?_⟩
  rw [eq_of_beq hproto]
  unfold enabledProtocols
  simp only [hmin, hcons]
  split <;> simp

theorem exists_visible_hideRest (h : ∃ port ∈ rports, dir.hidden port = false) :
    ∃ port ∈ hideRest dir false rports, dir.hidden port = false := by
  induction rports with
  | nil => exact h
  | cons p rports ih =>
    cases hp : dir.hidden p with
    | false => exact ⟨p, by simp [hideRest], hp⟩
    | true =>
      simp only [List.exists_mem_cons_iff, hp, Bool.true_eq_false, false_or] at h
      obtain ⟨q, hq, hvisible⟩ := ih h
      refine ⟨q, ?_, hvisible⟩
      simp only [hideRest, hp, Bool.false_eq_true, if_false, Bool.not_true, Bool.or_false]
      exact List.mem_cons_of_mem _ hq

/-- **The filter leaves a visible neighbor.** -/
theorem exists_visible_hidePorts (cfg : Config) (dir : Smart) (h : rports ≠ []) :
    ∃ port ∈ lldpdHidePorts cfg dir rports, dir.hidden port = false := by
  have hvisible : ∃ port ∈ rports.map fun port => dir.hide
      (!(enabledProtocols (dir.oneProto cfg.cSmart) rports).contains port.pProtocol) port,
      dir.hidden port = false := by
    obtain ⟨port, hport, henabled⟩ := exists_enabled (dir.oneProto cfg.cSmart) h
    refine ⟨_, List.mem_map_of_mem hport, ?_⟩
    simpa using henabled
  unfold lldpdHidePorts
  split
  · exact exists_visible_hideRest hvisible
  · exact hvisible

/-- What the flag of a direction does not show stays. -/
theorem map_hideRest {β : Type} {k : Port → β} {dir : Smart} (hk : ∀ flag q, k (dir.hide flag q) = k q)
    (found : Bool) (ports : List Port) : (hideRest dir found ports).map k = ports.map k := by
  induction ports generalizing found with
  | nil => rfl
  | cons q ports ih =>
    unfold hideRest
    rw [List.map_cons, ih]
    cases found with
    | true => exact congrArg (· :: _) (hk true q)
    | false => rfl

theorem map_hidePorts {β : Type} {k : Port → β} {dir : Smart} (hk : ∀ flag q, k (dir.hide flag q) = k q)
    (cfg : Config) (ports : List Port) : (lldpdHidePorts cfg dir ports).map k = ports.map k := by
  unfold lldpdHidePorts
  split
  · rw [map_hideRest hk, List.map_map]
    exact List.map_congr_left fun q _ => hk _ q
  · rw [List.map_map]
    exact List.map_congr_left fun q _ => hk _ q

/-- The flags of the other direction stay. -/
theorem map_hidden_hidePorts (h : dir' ≠ dir) :
    (lldpdHidePorts cfg dir rports).map dir'.hidden = rports.map dir'.hidden :=
  map_hidePorts (fun _ _ => Smart.hidden_hide_of_ne h) cfg rports

theorem hidePorts_eq_nil : lldpdHidePorts cfg dir rports = [] ↔ rports = [] := by
  constructor
  · intro h
    refine Classical.byContradiction fun hne => ?_
    obtain ⟨port, hport, -⟩ := exists_visible_hidePorts cfg dir hne
    rw [h] at hport
    cases hport
  · rintro rfl
    exact ite_self _

/-- Nothing is hidden for reception where there is no filter for it. -/
def Unhidden (cfg : Config) (rports : List Port) : Prop :=
  Smart.incoming.on cfg.cSmart = false → ∀ port ∈ rports, port.pHiddenIn = false

theorem unhidden_of_map {rports' : List Port} (hu : Unhidden cfg rports)
    (h : rports'.map Port.pHiddenIn = rports.map Port.pHiddenIn) : Unhidden cfg rports' := by
  intro hoff port hport
  have hmem := List.mem_map_of_mem (f := Port.pHiddenIn) hport
  rw [h] at hmem
  obtain ⟨q, hq, heq⟩ := List.mem_map.1 hmem
  rw [← heq]
  exact hu hoff q hq

theorem showsOne_of_unhidden (hu : Unhidden cfg rports) (hin : Smart.incoming.on cfg.cSmart = false)
    (hout : Smart.outgoing.on cfg.cSmart = false) : ShowsOne cfg rports := by
  intro hne
  obtain ⟨port, hport⟩ := List.exists_mem_of_ne_nil rports hne
  refine ⟨⟨port, hport, hu hin port hport⟩, fun hon => ?_⟩
  rw [hout] at hon
  cases hon

/-- What the loop of `lldpd_hide_all` leaves on an interface. -/
theorem hideInterface_shows {hw : Hardware} (hu : Unhidden cfg hw.hRports) :
    ShowsOne cfg (hideInterface cfg hw).hRports ∧ Unhidden cfg (hideInterface cfg hw).hRports := by
  unfold hideInterface
  dsimp only
  generalize hr : (if Smart.incoming.on cfg.cSmart = true then
    lldpdHidePorts cfg .incoming hw.hRports else hw.hRports) = r
  have hin : r ≠ [] → ∃ port ∈ r, port.pHiddenIn = false := by
    intro hne
    cases hon : Smart.incoming.on cfg.cSmart with
    | true =>
      rw [if_pos hon] at hr
      subst hr
      exact exists_visible_hidePorts cfg .incoming fun hnil => hne (hidePorts_eq_nil.2 hnil)
    | false =>
      rw [if_neg (by simp [hon])] at hr
      subst hr
      obtain ⟨port, hport⟩ := List.exists_mem_of_ne_nil _ hne
      exact ⟨port, hport, hu hon port hport⟩
  have hr' : Unhidden cfg r := by
    intro hoff
    rw [if_neg (by simp [hoff])] at hr
    subst hr
    exact hu hoff
  cases hout : Smart.outgoing.on cfg.cSmart with
  | false =>
    exact ⟨fun hne => ⟨hin hne, fun hon => by rw [hout] at hon; cases hon⟩, hr'⟩
  | true =>
    have hne : Smart.incoming ≠ Smart.outgoing := by decide
    have hmap : (lldpdHidePorts cfg .outgoing r).map Port.pHiddenIn = r.map Port.pHiddenIn :=
      map_hidden_hidePorts hne
    refine ⟨fun hne => ?_, unhidden_of_map hr' hmap⟩
    have hne : r ≠ [] := fun hnil => hne (hidePorts_eq_nil.2 hnil)
    refine ⟨?_, fun _ => exists_visible_hidePorts cfg .outgoing hne⟩
    obtain ⟨port, hport, hvisible⟩ := hin hne
    have hmem := List.mem_map_of_mem (f := Port.pHiddenIn) hport
    rw [← hmap, hvisible] at hmem
    exact List.mem_map.1 hmem

end Filter

/-! ## Runs -/

section Runs
variable {b : Build} {cfg : Config} {protocols : List Protocol} {s s' : Daemon}

structure Daemon.Shows (cfg : Config) (s : Daemon) : Prop where
  config : s.gConfig = cfg
  detached : ∀ hw ∈ s.detached, hw.hRports = []
  unhidden : ∀ hw ∈ s.gHardware, Unhidden cfg hw.hRports
  shows : ∀ hw ∈ s.gHardware, ShowsOne cfg hw.hRports

variable {hw : Hardware} {now : Int} {r : Hardware × Daemon} {stack : Buffer 32} {frame : Bytes}

/-- A frame brings no hidden port to the interface. -/
theorem unhidden_decode (hu : Unhidden cfg hw.hRports)
    (h : lldpdDecode b now stack frame s hw = .ok r) :
    Unhidden cfg r.1.hRports := by
  obtain ⟨hw', s'⟩ := r
  cases received h with
  | short => exact hu
  | duplicate => exact unhidden_of_map hu (map_refresh b now _ _ (hw.reset b) fun _ => rfl)
  | ignored => exact hu
  | vlans => exact unhidden_of_map hu (map_attachVlans (fun _ _ => rfl) _ _ _ _ _)
  | refused => exact hu
  | @learnt cnt mode c p ht =>
    obtain ⟨a, hports⟩ := @Takes.hRports b now frame c p s hw stack mode cnt ht
    rw [hports]
    intro hoff port hport
    rcases List.mem_append.1 hport with hport | hport
    · exact hu hoff port (List.mem_of_mem_eraseP hport)
    · rw [List.mem_singleton.1 hport]
      obtain ⟨n, hdec⟩ := ht.announces.decode
      exact (decodeMode_visible hdec).1

/-- The ports that an expiry leaves are as they were. -/
theorem unhidden_forget {all : Bool} {gone : Port → Bool} (hu : Unhidden cfg hw.hRports) :
    Unhidden cfg (hw.forget b all gone).hRports :=
  fun hoff port hport => hu hoff port (List.mem_filter.1 hport).1

/-- Of the ports that an expiry leaves one is visible. -/
theorem exists_visible_kept {dir : Smart} {h : Heap Chassis} {rports : List Port}
    (hout : Outlasts dir now h rports) (hne : rports.filter (fun q => !expired now h q) ≠ []) :
    ∃ port ∈ rports.filter fun q => !expired now h q, dir.hidden port = false := by
  obtain ⟨q, hq⟩ := List.exists_mem_of_ne_nil _ hne
  obtain ⟨hmem, hkept⟩ := List.mem_filter.1 hq
  cases hhidden : dir.hidden q with
  | false => exact ⟨q, hq, hhidden⟩
  | true =>
    obtain ⟨port, hport, hvisible, hlives⟩ := hout q hmem hhidden (by simpa using hkept)
    exact ⟨port, List.mem_filter.2 ⟨hport, by simp [hlives]⟩, hvisible⟩

/-- Only what expires can leave hidden neighbors behind. -/
theorem Daemon.Shows.forget (hs : s.Shows cfg) {expire all : Bool} (hmem : hw ∈ s.gHardware)
    (hout : expire = true → all = false →
      Outlasts .incoming now s.gChassis hw.hRports ∧
        (Smart.outgoing.on cfg.cSmart → Outlasts .outgoing now s.gChassis hw.hRports)) :
    ShowsOne cfg (hw.forget b all (goes expire all now s.gChassis)).hRports := by
  show ShowsOne cfg (hw.hRports.filter fun port => !goes expire all now s.gChassis port)
  unfold goes
  cases all with
  | true => simp [ShowsOne]
  | false =>
    cases expire with
    | false => simpa using hs.shows hw hmem
    | true =>
      obtain ⟨hin, hout⟩ := hout rfl rfl
      simp only [Bool.false_or, Bool.true_and]
      exact fun hne => ⟨exists_visible_kept hin hne, fun hon => exists_visible_kept (hout hon) hne⟩

/-- One interface of those that are shown changes. -/
theorem Daemon.Shows.set (hs : s.Shows cfg) (hu : Unhidden cfg hw.hRports)
    (hshow : ShowsOne cfg hw.hRports) (i : Nat) (h : Heap Chassis) :
    Daemon.Shows cfg { s with gHardware := s.gHardware.set i hw, gChassis := h } where
  config := hs.config
  detached := hs.detached
  unhidden := by
    intro hw' hmem
    rcases List.mem_or_eq_of_mem_set hmem with hmem | rfl
    · exact hs.unhidden hw' hmem
    · exact hu
  shows := by
    intro hw' hmem
    rcases List.mem_or_eq_of_mem_set hmem with hmem | rfl
    · exact hs.shows hw' hmem
    · exact hshow

/-- The filter repairs what a frame has done to the interfaces. -/
theorem shows_hideAll (hc : s.gConfig = cfg) (hd : ∀ hw ∈ s.detached, hw.hRports = [])
    (hu : ∀ hw ∈ s.gHardware, Unhidden cfg hw.hRports) : (lldpdHideAll s).Shows cfg := by
  subst hc
  unfold lldpdHideAll
  split
  · rename_i hzero
    refine ⟨rfl, hd, hu, fun hw hmem => ?_⟩
    apply showsOne_of_unhidden (hu hw hmem) <;> rw [hzero] <;> rfl
  · refine ⟨rfl, hd, fun hw hmem => ?_, fun hw hmem => ?_⟩
    · obtain ⟨hw0, hmem0, rfl⟩ := List.mem_map.1 hmem
      exact (hideInterface_shows (hu hw0 hmem0)).2
    · obtain ⟨hw0, hmem0, rfl⟩ := List.mem_map.1 hmem
      exact (hideInterface_shows (hu hw0 hmem0)).1

theorem Daemon.Shows.decode (hs : s.Shows cfg) {i : Nat} (hget : s.gHardware[i]? = some hw)
    (hdec : lldpdDecode b now stack frame s { hw with hRxCnt := hw.hRxCnt + 1 } = .ok r) :
    (lldpdHideAll { r.2 with gHardware := r.2.gHardware.set i r.1 }).Shows cfg := by
  have hmem := List.mem_of_getElem? hget
  have hu0 : Unhidden cfg { hw with hRxCnt := hw.hRxCnt + 1 : Hardware }.hRports :=
    hs.unhidden hw hmem
  have hu := unhidden_decode hu0 hdec
  obtain ⟨heap, rid, n, hr⟩ := lldpdDecode_frame hdec
  refine shows_hideAll ?_ ?_ fun hw' hmem' => ?_
  · rw [hr]
    exact hs.config
  · rw [hr]
    exact hs.detached
  · rw [hr] at hmem'
    rcases List.mem_or_eq_of_mem_set hmem' with hmem' | rfl
    · exact hs.unhidden hw' hmem'
    · exact hu

theorem Daemon.Shows.step (hs : s.Shows cfg) {ev : Event} (hev : LeavesVisible s ev)
    (h : s.smartStep b ev = some s') : s'.Shows cfg := by
  have hempty : ∀ hw ∈ s.detached, Unhidden cfg hw.hRports ∧ ShowsOne cfg hw.hRports := by
    intro hw hmem
    rw [hs.detached hw hmem]
    exact ⟨fun _ _ hport => absurd hport List.not_mem_nil, absurd rfl⟩
  cases Daemon.smartStepped h with
  | decode hget hdec => exact hs.decode hget hdec
  | other hne hstep =>
    have hdetached := step_detached (fun _ => rfl) hstep hs.detached
    cases Daemon.stepped hstep with
    | allocHardware | hardwareCleanup => exact ⟨hs.config, hdetached, hs.unhidden, hs.shows⟩
    | @addHardware i hw hget =>
      have hnew := hempty hw (List.mem_of_getElem? hget)
      refine ⟨hs.config, hdetached, ?_, ?_⟩
      · intro hw' hmem
        rcases List.mem_append.1 hmem with hmem | hmem
        · exact hs.unhidden hw' hmem
        · rw [List.mem_singleton.1 hmem]
          exact hnew.1
      · intro hw' hmem
        rcases List.mem_append.1 hmem with hmem | hmem
        · exact hs.shows hw' hmem
        · rw [List.mem_singleton.1 hmem]
          exact hnew.2
    | @scan i flags hw hget =>
      have hmem := List.mem_of_getElem? hget
      have hu : Unhidden cfg { hw with hFlags := flags : Hardware }.hRports := hs.unhidden hw hmem
      exact hs.set hu (hs.shows hw hmem) i s.gChassis
    | decode => exact absurd rfl (hne _ _ _ _)
    | @remoteCleanup i expire all now hw hget =>
      rw [remoteCleanup_eq]
      have hmem := List.mem_of_getElem? hget
      refine hs.set (unhidden_forget (hs.unhidden hw hmem)) (hs.forget hmem ?_) i _
      rintro rfl rfl
      rw [← hs.config]
      exact hev hw hget
    | cleanup =>
      refine ⟨hs.config, hs.detached, ?_, ?_⟩
      · rw [cleanup_gHardware]
        intro hw hmem
        obtain ⟨hw0, hmem0, rfl⟩ := List.mem_map.1 hmem
        exact unhidden_forget (hs.unhidden hw0 (List.mem_filter.1 hmem0).1)
      · rw [cleanup_gHardware]
        intro hw hmem
        obtain ⟨hw0, hmem0, rfl⟩ := List.mem_map.1 hmem
        rw [List.mem_filter, decide_eq_true_eq] at hmem0
        refine hs.forget hmem0.1 fun _ _ => ?_
        rw [← hs.config]
        exact hev hw0 hmem0.1 hmem0.2

theorem shows_inductive (b : Build) (cfg : Config) (protocols : List Protocol) :
    ((smartDaemon b cfg protocols).guard LeavesVisible).Inductive (Daemon.Shows cfg) where
  init := by
    rintro s ⟨c, -, -, rfl⟩
    exact ⟨rfl, fun _ hmem => absurd hmem List.not_mem_nil,
      fun _ hmem => absurd hmem List.not_mem_nil, fun _ hmem => absurd hmem List.not_mem_nil⟩
  step := fun _ _ _ hs hst => hs.step hst.1 hst.2

/-- **There is always a visible neighbor**, in every run in which no expiry meets
a hidden neighbor that outlasts the visible ones. -/
theorem visible_reachable (b : Build) (cfg : Config) (protocols : List Protocol) (s : Daemon)
    (hs : ((smartDaemon b cfg protocols).guard LeavesVisible).Reachable s) :
    ∀ hw ∈ s.gHardware, hw.hRports ≠ [] → (∃ port ∈ hw.hRports, port.pHiddenIn = false) ∧
      (cfg.cSmart &&& SMART_OUTGOING_FILTER ≠ 0 →
        ∃ port ∈ hw.hRports, port.pHiddenOut = false) := by
  intro hw hmem hne
  obtain ⟨hin, hout⟩ := ((shows_inductive b cfg protocols).reachable s hs).shows hw hmem hne
  exact ⟨hin, fun hon => hout (decide_eq_true hon)⟩

/-- `lldpd -H 12`: one neighbor in both directions. -/
def oneEachWay : Config :=
  { cSmart := SMART_INCOMING_FILTER ||| SMART_INCOMING_ONE_NEIGH |||
      SMART_OUTGOING_FILTER ||| SMART_OUTGOING_ONE_NEIGH }

/-- One interface and two neighbors: the second one is hidden. -/
def secondHidden : List Event :=
  [.allocHardware, .addHardware 0, .scan 0 1,
    .greeting 0,
    .decode 0 (announcement [2] [1] [66]) 100 Lldp.zeroStack]

def firstRenewed : List Event :=
  secondHidden ++ [.greeting 110]

def firstFlags (s : Daemon) : Option (List (Bool × Bool)) :=
  s.gHardware[0]?.map fun hw => hw.hRports.map Port.flags

/-- It is the second neighbor that expires. -/
theorem visible_reachable_renewed : ∃ s hw,
    ((smartDaemon .full oneEachWay lldpOnly).guard LeavesVisible).Reachable s ∧
      hw ∈ s.gHardware ∧ hw.hRports.map Port.flags = [(false, false)] ∧
      (hw.hRports ≠ [] → (∃ port ∈ hw.hRports, port.pHiddenIn = false) ∧
        (oneEachWay.cSmart &&& SMART_OUTGOING_FILTER ≠ 0 →
          ∃ port ∈ hw.hRports, port.pHiddenOut = false)) := by
  obtain ⟨s, hrun, hleaves, hw, hmem, hflags⟩ :
      ∃ s ∈ firstRenewed.foldlM (Daemon.smartStep .full)
        (Daemon.started oneEachWay lldpOnly), LeavesVisible s (.cleanup 225) ∧
      ∃ hw ∈ (lldpdCleanup .full 225 s).gHardware, hw.hRports.map Port.flags = [(false, false)] := by
    decide
  have hstart : ((smartDaemon .full oneEachWay lldpOnly).guard LeavesVisible).Reachable
      (Daemon.started oneEachWay lldpOnly) := .init started_startUp
  have hs := LTS.reachable_guard_foldlM (by simp [firstRenewed, secondHidden, LeavesVisible]) hstart hrun
  have hs' := LTS.Reachable.step hs ⟨hleaves, rfl⟩
  exact ⟨_, hw, hs', hmem, hflags, visible_reachable _ _ _ _ hs' hw hmem⟩

/-- The neighbor that is visible expires, the hidden one stays and is still
hidden, for reception and for emission. -/
theorem expiry_hides_all : ∃ s s' hw,
    (smartDaemon .full oneEachWay lldpOnly).Reachable s ∧
      firstFlags s = some [(false, false), (true, true)] ∧
      s.smartStep .full (.cleanup 130) = some s' ∧ hw ∈ s'.gHardware ∧
      hw.hRports.map Port.flags = [(true, true)] ∧ hw.hRports ≠ [] ∧
      ¬ ∃ port ∈ hw.hRports, port.pHiddenIn = false := by
  obtain ⟨s, hrun, hfirst, hw, hmem, hflags, hne, hhidden⟩ :
      ∃ s ∈ secondHidden.foldlM (Daemon.smartStep .full)
        (Daemon.started oneEachWay lldpOnly),
        firstFlags s = some [(false, false), (true, true)] ∧
      ∃ hw ∈ (lldpdCleanup .full 130 s).gHardware, hw.hRports.map Port.flags = [(true, true)] ∧
        hw.hRports ≠ [] ∧ ¬ ∃ port ∈ hw.hRports, port.pHiddenIn = false := by
    decide
  exact ⟨s, _, hw, LTS.reachable_foldlM (.init started_startUp) hrun, hfirst,
    rfl, hmem, hflags, hne, hhidden⟩

end Runs

end Lldpd
