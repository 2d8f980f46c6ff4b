import Lldpd.L3Daemon.Smart

/-!
# `lldpd_send`

What the daemon sends on an interface: the protocols that are forced, those
that a visible neighbor speaks, and the first enabled one when there is
nothing else to say.

With `SMART_OUTGOING_ONE_PROTO`, the filter leaves the neighbors of one
protocol visible, and nothing but the filter makes a neighbor visible: frames
are learnt in front of it, expiry only takes neighbors away. So of the
protocols that are merely enabled at most one is sent, on every interface and
in every run (`one_protocol_sent`).
-/
namespace Lldpd
open Core

def IFF_RUNNING : Nat := 0x40

/-- The modes of `protos[]`, in its order.
mirrors lldpd.c:52-76 -/
def protos (b : Build) : List Mode :=
  [.lldp] ++ (if b.cdp then [.cdpv1, .cdpv2] else []) ++ (if b.sonmp then [.sonmp] else []) ++
    (if b.edp then [.edp] else []) ++ (if b.fdp then [.fdp] else [])

/-- The tests at the start of `lldpd_send`.
mirrors lldpd.c:1024-1033 -/
def maySend (b : Build) (cfg : Config) (cReceiveonly : Bool) (hardware : Hardware) : Bool :=
  !(cReceiveonly || cfg.cPaused) &&
    !(b.ovsdb && (hardware.hEnableDir = .off || hardware.hEnableDir = .rx ||
      hardware.hLinkState = .down)) &&
    hardware.hFlags &&& IFF_RUNNING ≠ 0

/-- Whether the first loop sends a protocol: it is forced, or it is enabled
and a neighbor that is not hidden speaks it.
mirrors lldpd.c:1038-1064 -/
def sends (enabled : Mode → Nat) (hardware : Hardware) (mode : Mode) : Bool :=
  if enabled mode = 0 then false
  else if 1 < enabled mode then true
  else hardware.hRports.any fun port => !port.pHiddenOut && port.pProtocol = some mode

/-- `lldpd_send`: the protocols whose `send` is called, in this order.
`enabled` is the column of `g_protocols`.
mirrors lldpd.c:1017-1087 -/
def lldpdSend (b : Build) (cfg : Config) (cReceiveonly : Bool) (enabled : Mode → Nat)
    (hardware : Hardware) : List Mode :=
  if maySend b cfg cReceiveonly hardware then
    let sent := (protos b).filter (sends enabled hardware)
    if sent = [] then ((protos b).find? fun mode => enabled mode ≠ 0).toList else sent
  else []

/-! ## The daemon, while protocols are switched on and off -/

inductive SendEvent where
  | event (ev : Event)
  /-- `lldpd_apply_global_changes`: LLDP is switched on or off.
  mirrors lldpd_ovsdb_if.c:1517-1545 -/
  | protocols (gProtocols : List Protocol)

def Daemon.sendStep (b : Build) (s : Daemon) : SendEvent → Option Daemon
  | .event ev => s.smartStep b ev
  | .protocols gProtocols => some { s with gProtocols := gProtocols }

def sendingDaemon (b : Build) (cfg : Config) : LTS Daemon SendEvent :=
  .ofFn (fun s => ∃ protocols, Daemon.startUp cfg protocols s) (Daemon.sendStep b)

/-- The neighbors that are not hidden for emission speak one protocol. -/
def OneSpoken (rports : List Port) : Prop :=
  ∀ q ∈ rports, ∀ q' ∈ rports, q.pHiddenOut = false → q'.pHiddenOut = false →
    q.pProtocol = q'.pProtocol

/-! ## What the filter leaves visible -/

section Filter
variable {cfg : Config} {rports : List Port}

theorem oneSpoken_sublist {rports' : List Port} (h : OneSpoken rports)
    (hsub : rports'.Sublist rports) : OneSpoken rports' :=
  fun q hq q' hq' => h q (hsub.subset hq) q' (hsub.subset hq')

/-- A neighbor that is visible behind the last loop was visible before it. -/
theorem visible_of_hideRest {dir : Smart} {found : Bool} {q : Port}
    (hq : q ∈ hideRest dir found rports) (hvisible : dir.hidden q = false) : q ∈ rports := by
  induction rports generalizing found with
  | nil => exact hq
  | cons p rports ih =>
    rcases List.mem_cons.1 hq with rfl | hq
    · cases found with
      | true =>
        rw [if_pos rfl, Smart.hidden_hide] at hvisible
        cases hvisible
      | false => exact List.mem_cons_self
    · exact List.mem_cons_of_mem _ (ih hq)

/-- A visible neighbor speaks an enabled protocol. -/
theorem enabled_of_visible {dir : Smart} {q : Port} (hq : q ∈ lldpdHidePorts cfg dir rports)
    (hvisible : dir.hidden q = false) :
    q.pProtocol ∈ enabledProtocols (dir.oneProto cfg.cSmart) rports := by
  have hmem : q ∈ rports.map fun port => dir.hide
      (!(enabledProtocols (dir.oneProto cfg.cSmart) rports).contains port.pProtocol) port := by
    unfold lldpdHidePorts at hq
    split at hq
    · exact visible_of_hideRest hq hvisible
    · exact hq
  obtain ⟨port, -, rfl⟩ := List.mem_map.1 hmem
  rw [Smart.hidden_hide, Bool.not_eq_false', List.contains_iff_mem] at hvisible
  rw [Smart.pProtocol_hide]
  exact hvisible

theorem hidePorts_oneSpoken (hone : Smart.outgoing.oneProto cfg.cSmart = true) :
    OneSpoken (lldpdHidePorts cfg .outgoing rports) := by
  intro q hq q' hq' hvisible hvisible'
  have henabled := enabled_of_visible hq hvisible
  have henabled' := enabled_of_visible hq' hvisible'
  unfold enabledProtocols at henabled henabled'
  simp only [hone, if_true] at henabled henabled'
  generalize protocolIndices.filter _ = l at henabled henabled'
  cases l with
  | nil => cases henabled
  | cons x l =>
    simp only [List.take_succ_cons, List.take_zero, List.mem_singleton] at henabled henabled'
    rw [henabled, henabled']

theorem hideInterface_oneSpoken (hon : Smart.outgoing.on cfg.cSmart = true)
    (hone : Smart.outgoing.oneProto cfg.cSmart = true) (hw : Hardware) :
    OneSpoken (hideInterface cfg hw).hRports := by
  unfold hideInterface
  simp only [hon]
  exact hidePorts_oneSpoken hone

end Filter

/-! ## Runs -/

section Runs
variable {b : Build} {cfg : Config} {s s' : Daemon}

structure Daemon.Speaks (cfg : Config) (s : Daemon) : Prop where
  config : s.gConfig = cfg
  detached : ∀ hw ∈ s.detached, hw.hRports = []
  one : ∀ hw ∈ s.gHardware, OneSpoken hw.hRports

theorem step_config {ev : Event} (hev : ∀ i frame now stack, ev ≠ .decode i frame now stack)
    (h : s.step b ev = some s') : s'.gConfig = s.gConfig := by
  cases Daemon.stepped h with
  | decode => exact absurd rfl (hev _ _ _ _)
  | _ => rfl

theorem Daemon.Speaks.step {ev : Event} (hs : s.Speaks cfg)
    (hon : Smart.outgoing.on cfg.cSmart = true) (hone : Smart.outgoing.oneProto cfg.cSmart = true)
    (h : s.smartStep b ev = some s') : s'.Speaks cfg := by
  cases Daemon.smartStepped h with
  | @decode i frame now stack hw r hget hdec =>
    obtain ⟨heap, rid, n, hframe⟩ := lldpdDecode_frame hdec
    have hconfig : r.2.gConfig = cfg := by
      rw [hframe]
      exact hs.config
    have hdetached : r.2.detached = s.detached := by rw [hframe]
    -- there is a filter, so the whole list of interfaces goes through it
    have hsmart : cfg.cSmart ≠ 0 := by
      intro h0
      rw [h0] at hon
      cases hon
    unfold lldpdHideAll
    simp only [hconfig, if_neg hsmart]
    refine ⟨rfl, hdetached ▸ hs.detached, fun hw' hmem => ?_⟩
    obtain ⟨hw0, -, rfl⟩ := List.mem_map.1 hmem
    exact hideInterface_oneSpoken hon hone hw0
  | other hne hstep =>
    obtain ⟨hports, hdetached⟩ := step_ports hne hs.detached hstep
    refine ⟨(step_config hne hstep).trans hs.config, hdetached, fun hw hmem => ?_⟩
    rcases hports hw hmem with hnil | ⟨hw0, hmem0, hsub⟩
    · rw [hnil]
      exact fun q hq => absurd hq List.not_mem_nil
    · exact oneSpoken_sublist (hs.one hw0 hmem0) hsub

theorem speaks_reachable (hon : Smart.outgoing.on cfg.cSmart = true)
    (hone : Smart.outgoing.oneProto cfg.cSmart = true) (hs : (sendingDaemon b cfg).Reachable s) :
    s.Speaks cfg := by
  induction hs with
  | init hi =>
    obtain ⟨protocols, c, -, -, rfl⟩ := hi
    exact ⟨rfl, fun _ hmem => absurd hmem List.not_mem_nil, fun _ hmem => absurd hmem List.not_mem_nil⟩
  | @step s s' ev _ hst ih =>
    cases ev with
    | event ev => exact ih.step hon hone hst
    | protocols gProtocols =>
      cases hst
      exact ⟨ih.config, ih.detached, ih.one⟩

theorem protos_nodup (b : Build) : (protos b).Nodup := by
  unfold protos
  cases b.cdp <;> cases b.sonmp <;> cases b.edp <;> cases b.fdp <;> decide

/-- A list without repetition whose elements are all equal. -/
theorem length_le_one {α : Type} {l : List α} (hnodup : l.Nodup)
    (heq : ∀ x ∈ l, ∀ y ∈ l, x = y) : l.length ≤ 1 := by
  cases l with
  | nil => exact Nat.zero_le _
  | cons x l =>
    cases l with
    | nil => exact Nat.le_refl _
    | cons y l =>
      have hxy := heq x List.mem_cons_self y (List.mem_cons_of_mem _ List.mem_cons_self)
      rw [hxy] at hnodup
      exact absurd List.mem_cons_self (List.nodup_cons.1 hnodup).1

/-- A protocol that is merely enabled is sent for a neighbor. -/
theorem spoken_of_sends {enabled : Mode → Nat} {hw : Hardware} {mode : Mode}
    (hsends : sends enabled hw mode = true) (henabled : enabled mode = 1) :
    ∃ port ∈ hw.hRports, port.pHiddenOut = false ∧ port.pProtocol = some mode := by
  unfold sends at hsends
  simp only [henabled, Nat.one_ne_zero, Nat.lt_irrefl, if_false, List.any_eq_true,
    Bool.and_eq_true, Bool.not_eq_true', decide_eq_true_eq] at hsends
  exact hsends

/-- **One protocol is enough**: with `SMART_OUTGOING_FILTER` and
`SMART_OUTGOING_ONE_PROTO`, and whatever is enabled when `lldpd_send` is
called, it sends at most one protocol that is not forced. -/
theorem one_protocol_sent (b : Build) (cfg : Config) (s : Daemon) (hw : Hardware)
    (cReceiveonly : Bool) (enabled : Mode → Nat)
    (hfilter : cfg.cSmart &&& SMART_OUTGOING_FILTER ≠ 0)
    (hone : cfg.cSmart &&& SMART_OUTGOING_ONE_PROTO ≠ 0)
    (hs : (sendingDaemon b cfg).Reachable s) (hmem : hw ∈ s.gHardware) :
    ((lldpdSend b cfg cReceiveonly enabled hw).filter fun mode => enabled mode = 1).length ≤ 1 := by
  have honeProto : Smart.outgoing.oneProto cfg.cSmart = true := by
    unfold Smart.oneProto
    rw [UInt32.and_assoc]
    exact decide_eq_true hone
  have hspoken := (speaks_reachable (decide_eq_true hfilter) honeProto hs).one hw hmem
  unfold lldpdSend
  split
  · simp only
    split
    · refine Nat.le_trans (List.length_filter_le _ _) ?_
      cases (protos b).find? fun mode => enabled mode ≠ 0 with
      | none => exact Nat.zero_le _
      | some mode => exact Nat.le_refl _
    · refine length_le_one ((protos_nodup b).sublist
        (List.filter_sublist.trans List.filter_sublist)) fun m hm m' hm' => ?_
      simp only [List.mem_filter, decide_eq_true_eq] at hm hm'
      obtain ⟨q, hq, hvisible, hmode⟩ := spoken_of_sends hm.1.2 hm.2
      obtain ⟨q', hq', hvisible', hmode'⟩ := spoken_of_sends hm'.1.2 hm'.2
      have hsame := hspoken q hq q' hq' hvisible hvisible'
      rw [hmode, hmode'] at hsame
      exact Option.some.inj hsame
  · exact Nat.zero_le _

def oneProtoOut : Config := { cSmart := SMART_OUTGOING_FILTER ||| SMART_OUTGOING_ONE_PROTO }

def sonmpHello : Bytes :=
  Sonmp.SONMP_MULTICAST_ADDR ++ [0x02, 0, 0, 0, 0, 0x02, 0, 19] ++
    [0xaa, 0xaa, 0x03, 0x00, 0x00, 0x81, 0x01, 0xa2] ++ [192, 0, 2, 1] ++ [0, 0, 1] ++ [1, 12, 1, 1]

def lldpAndSonmp (mode : Mode) : Nat := if mode = .lldp ∨ mode = .sonmp then 1 else 0

/-- A neighbor of each of the two protocols: LLDP is sent. -/
theorem one_protocol_sent_of_two : ∃ s hw,
    (sendingDaemon .full oneProtoOut).Reachable s ∧ hw ∈ s.gHardware ∧
      hw.hRports.map Port.pProtocol = [some .lldp, some .sonmp] ∧
      lldpdSend .full oneProtoOut false lldpAndSonmp hw = [.lldp] ∧
      ((lldpdSend .full oneProtoOut false lldpAndSonmp hw).filter fun mode =>
        lldpAndSonmp mode = 1).length ≤ 1 := by
  obtain ⟨s, hrun, hw, hget, hprotos, hsent⟩ :
      ∃ s ∈ [.event .allocHardware, .event (.addHardware 0), .event (.scan 0 0x40),
        .event (.greeting 0),
        .event (.decode 0 sonmpHello 1 Lldp.zeroStack)].foldlM (Daemon.sendStep .full)
        (Daemon.started oneProtoOut [⟨.lldp, true⟩, ⟨.sonmp, true⟩]),
      ∃ hw ∈ s.gHardware[0]?, hw.hRports.map Port.pProtocol = [some .lldp, some .sonmp] ∧
        lldpdSend .full oneProtoOut false lldpAndSonmp hw = [.lldp] := by
    decide
  have hmem := List.mem_of_getElem? hget
  have hs : (sendingDaemon .full oneProtoOut).Reachable s :=
    LTS.reachable_foldlM (.init ⟨_, { cRefcount := 1 }, rfl, rfl, rfl⟩) hrun
  exact ⟨s, hw, hs, hmem, hprotos, hsent,
    one_protocol_sent .full oneProtoOut s hw false lldpAndSonmp (by decide) (by decide) hs hmem⟩

end Runs

end Lldpd
