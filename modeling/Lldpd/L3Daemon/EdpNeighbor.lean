import Lldpd.L2Proto.Edp.RoundTrip
import Lldpd.L3Daemon.Shortcut

/-!
# An EDP sender and its neighbor

`edp_send` on one side, `lldpd_decode` on the other: the first frame makes the
sender a neighbor and the second one, which is refused, gives the neighbor its
VLANs (`edp_neighbor`).

What can go wrong (`edp_neighbor_lost`):

* a packet is longer than its 16-bit length can say;
* the length of a frame is taken for the type of a VLAN tag;
* a first frame is the last frame of the neighbor again, because the sender
  counts its frames from 0 when it starts. The receiver then keeps the VLANs
  and the chassis it had: only a second frame changes the VLANs, and the name
  is the last one that any interface has heard.
-/
namespace Lldpd
open Core

/-! ## The sender -/

/-- A sender that is identified by a MAC address and has something to say. -/
structure EdpSender where
  b : Build
  cfg : Config
  chassis : Chassis
  hIfname : Text
  hIfindex : Int
  seq : Nat
  hw : Hardware
  mac : Bytes
  name : Bytes
  dot1 : b.dot1 = true
  cIdSubtype : chassis.cIdSubtype = LLDP_CHASSISID_SUBTYPE_LLADDR
  cId : chassis.cId = some mac
  mac_length : mac.length = 6
  cName : chassis.cName = some name
  name_noNul : 0 ∉ name
  vlan_noNul : ∀ v ∈ hw.hLport.pVlans, 0 ∉ v.vName

namespace EdpSender
variable (x : EdpSender)

def body (state : Nat) : Bytes := Edp.edpBody x.chassis x.hIfname x.hIfindex x.hw state

def frames : List Bytes :=
  (Edp.edpSend x.b x.cfg x.chassis x.hIfname x.hIfindex (fun _ => true) x.seq x.hw).sender.frames

def Sends (state : Nat) : Prop := state = 0 ∨ state = 1 ∧ x.hw.hLport.pVlans ≠ []

def Fits : Prop := ∀ state, x.Sends state → 38 + (x.body state).length ≤ x.hw.hMtu

/-- The EDP packets, sixteen bytes and the TLVs, fit their length, and no
length of a frame is `ETHERTYPE_VLAN`. -/
def Describable : Prop :=
  ∀ state, x.Sends state →
    16 + (x.body state).length ≤ 65535 ∧ UInt16.ofNat (24 + (x.body state).length) ≠ ETHERTYPE_VLAN

def frame (state : Nat) : Bytes :=
  Lldp.interfacesSendHelper x.cfg x.hw (Edp.edpPdu x.chassis x.hw (x.seq + state) (x.body state))

/-- The identifier of its port: the slot and the port that are transmitted,
counted from 1. -/
def portId : Bytes := Edp.portId (Edp.slotPort x.hIfname x.hIfindex)

/-- The chassis that a receiver learns from the first frame. -/
def heardChassis (cfg : Config) : Chassis :=
  { Edp.heardChassis cfg x.chassis with cProtocol := some .edp }

def heardPort : Port := { Edp.heardPort x.hIfname x.hIfindex with pProtocol := some .edp }

variable {x}

theorem getD_cId : x.chassis.cId.getD [] = x.mac := by
  rw [x.cId]
  rfl

theorem length_cId : (x.chassis.cId.getD []).length = 6 := by
  rw [getD_cId, x.mac_length]

theorem frames_eq (h : x.Fits) :
    x.frames = x.frame 0 :: if x.hw.hLport.pVlans = [] then [] else [x.frame 1] :=
  Edp.edpSend_frames x.cfg x.hIfname x.hIfindex length_cId x.cIdSubtype x.dot1 x.seq
    (h 0 (.inl rfl)) fun hne => h 1 (.inr ⟨rfl, hne⟩)

/-! ### Its frames at the receiver -/

section Frame
variable {state : Nat}

theorem length_frame (x : EdpSender) (state : Nat) : 38 ≤ (x.frame state).length := by
  obtain ⟨src, hsrc, hframe⟩ := Edp.pdu_sent x.cfg x.chassis x.hw (x.seq + state) (x.body state)
  unfold frame
  rw [hframe, List.length_append, List.length_append, hsrc, Edp.length_edpTail length_cId]
  show 38 ≤ 6 + (6 + (26 + (x.body state).length))
  omega

/-- Destination, the length of the frame and the length of the packet. -/
theorem frame_fields (x : EdpSender) (state : Nat) :
    (x.frame state).take 6 = Edp.EDP_MULTICAST_ADDR ∧
      be16 ((x.frame state).getD 12 0) ((x.frame state).getD 13 0) =
        UInt16.ofNat (24 + (x.body state).length) ∧
      be16 ((x.frame state).getD 24 0) ((x.frame state).getD 25 0) =
        UInt16.ofNat (16 + (x.body state).length) := by
  obtain ⟨src, hsrc, hframe⟩ := Edp.pdu_sent x.cfg x.chassis x.hw (x.seq + state) (x.body state)
  unfold frame
  rw [hframe]
  match src, hsrc with
  | [_, _, _, _, _, _], _ => exact ⟨rfl, be16_be16Bytes _, be16_be16Bytes _⟩

theorem decapsulate_frame (hlen : UInt16.ofNat (24 + (x.body state).length) ≠ ETHERTYPE_VLAN) :
    decapsulate (x.frame state) = x.frame state := by
  apply if_neg
  rw [(x.frame_fields state).2.1]
  exact hlen

variable {protocols : List Protocol}

/-- Only EDP knows a frame with its address. -/
theorem guess_frame (hedp : ⟨.edp, true⟩ ∈ protocols) :
    lldpdGuessType protocols (x.frame state) = some .edp := by
  have hdst := (x.frame_fields state).1
  have hmac {addr : Bytes} (hg : ((x.frame state).take 6 == addr) = true) :
      Edp.EDP_MULTICAST_ADDR = addr := by
    rw [hdst] at hg
    exact eq_of_beq hg
  have hcdp {version : UInt8} (hg : Cdp.cdpGuess (x.frame state) version = true) :
      Edp.EDP_MULTICAST_ADDR = Cdp.CDP_MULTICAST_ADDR := by
    unfold Cdp.cdpGuess at hg
    simp only [Bool.and_eq_true] at hg
    exact hmac hg.1.2
  have hother (mode : Mode) (hg : mode.guess (x.frame state) = true) : mode = .edp := by
    cases mode with
    | edp => rfl
    | lldp => exact absurd (hmac hg) (by decide)
    | cdpv1 => exact absurd (hcdp hg) (by decide)
    | cdpv2 => exact absurd (hcdp hg) (by decide)
    | sonmp => exact absurd (hmac hg) (by decide)
    | fdp => exact absurd (hmac hg) (by decide)
  have hedpGuess : Mode.guess .edp (x.frame state) = true := by
    show ((x.frame state).take 6 == Edp.EDP_MULTICAST_ADDR) = true
    rw [hdst]
    decide
  unfold lldpdGuessType
  rw [if_neg (by have := x.length_frame state; omega)]
  cases hfind : protocols.find? fun p => p.enabled && p.mode.guess (x.frame state) with
  | none =>
    have := List.find?_eq_none.1 hfind _ hedp
    simp [hedpGuess] at this
  | some p =>
    have hp := List.find?_some hfind
    rw [Bool.and_eq_true] at hp
    rw [Option.map_some, hother _ hp.2]

/-- The first frame announces the sender. -/
theorem announces {b : Build} {cfg : Config} {s : Daemon}
    (hedp : ⟨.edp, true⟩ ∈ protocols) (hs : s.Steady cfg protocols) (hx : x.Describable)
    (stack : Buffer 32) : Announces b s stack (x.frame 0) .edp
      (x.heardChassis cfg) x.heardPort := by
  obtain ⟨hlen, htype⟩ := hx 0 (.inl rfl)
  have hlong := x.length_frame 0
  obtain ⟨d, hd, hc, hp⟩ := @Edp.edpDecode_first b x.chassis x.hIfname x.hIfindex x.hw x.cfg cfg
    x.seq length_cId (show (x.body 0).length ≤ 65519 by omega)
  refine ⟨by omega, ?_, d.hRxUnrecognizedCnt, ?_⟩
  · rw [decapsulate_frame htype, hs.protocols]
    exact guess_frame hedp
  · rw [decapsulate_frame htype, hs.config, heardChassis, heardPort, ← hc, ← hp]
    unfold decodeMode
    rw [show Edp.edpDecode b .frame cfg (x.frame 0) = _ from hd]
    rfl

theorem tellsVlans {b : Build} {cfg : Config} {s : Daemon}
    (hb : b.dot1 = true) (hedp : ⟨.edp, true⟩ ∈ protocols) (hs : s.Steady cfg protocols)
    (hx : x.Describable) (hvlans : x.hw.hLport.pVlans ≠ []) (stack : Buffer 32) : ∃ c p,
      TellsVlans b s stack (x.frame 1) c p ∧ c.cIdSubtype = LLDP_CHASSISID_SUBTYPE_LLADDR ∧
      c.cId = some x.mac ∧ c.cMgmt = [] ∧ p.pVlans = x.hw.hLport.pVlans.map Edp.heardVlan := by
  obtain ⟨hlen, htype⟩ := hx 1 (.inr ⟨rfl, hvlans⟩)
  obtain ⟨d, hd, hsub, hid, hmgmt, hheard⟩ := @Edp.edpDecode_second b x.chassis x.hIfname x.hIfindex
    x.hw x.cfg cfg (x.seq + 1) hb length_cId hvlans (show (x.body 1).length ≤ 65519 by omega)
  rw [getD_cId] at hid
  refine ⟨d.chassis, d.port, ⟨.edp, d.hRxUnrecognizedCnt, ?_, ?_⟩, hsub, hid, hmgmt, hheard⟩
  · rw [decapsulate_frame htype, hs.protocols]
    exact guess_frame hedp
  · rw [decapsulate_frame htype, hs.config]
    unfold decodeMode
    rw [show Edp.edpDecode b .frame cfg (x.frame 1) = _ from hd]

end Frame

end EdpSender

/-! ## The receiver -/

theorem filter_eq_singleton {α β : Type} {P : α → Bool} {f : α → Option β} {l : List α} {x : α}
    {m : β} (hn : (l.filterMap f).Nodup) (hx : x ∈ l) (hP : P x = true)
    (h : ∀ y ∈ l, P y = true → f y = some m) : l.filter P = [x] := by
  have hx' : x ∈ l.filter P := List.mem_filter.2 ⟨hx, hP⟩
  have hsome : ∀ y ∈ l.filter P, f y = some m := fun y hy =>
    h y (List.mem_filter.1 hy).1 (List.mem_filter.1 hy).2
  -- each of them gives the same value, which is there once
  have hall : (l.filter P).filterMap f = List.replicate (l.filter P).length m := by
    rw [List.filterMap_congr hsome, List.filterMap_eq_map', List.map_const']
  have hnodup := hn.sublist ((@List.filter_sublist _ P l).filterMap f)
  rw [hall] at hnodup
  have hone := List.nodup_replicate.1 hnodup
  obtain ⟨y, hy⟩ := List.length_eq_one_iff.1 (le_antisymm hone (List.length_pos_of_mem hx'))
  rw [hy] at hx' ⊢
  rw [List.mem_singleton.1 hx']

namespace EdpSender
variable {x : EdpSender} {b : Build} {cfg : Config} {protocols : List Protocol} {s : Daemon}
  {hw : Hardware} {i : Nat} {q : Port}

/-- What a receiver compares the chassis of its ports with. -/
def heard (x : EdpSender) : Chassis where
  cIdSubtype := LLDP_CHASSISID_SUBTYPE_LLADDR
  cId := some x.mac

def IsPort (x : EdpSender) (h : Heap Chassis) (q : Port) : Prop := isEdpPort h x.heard q = true

/-- The MSAP that the first frame announces. -/
def msap (x : EdpSender) : Msap :=
  ⟨some .edp, LLDP_PORTID_SUBTYPE_IFNAME, x.portId, LLDP_CHASSISID_SUBTYPE_LLADDR, x.mac⟩

/-- The interface has one EDP port of the sender, with the identifiers and
the name that were sent. -/
structure Known (x : EdpSender) (h : Heap Chassis) (hw : Hardware) (q : Port) : Prop where
  only : hw.hRports.filter (isEdpPort h x.heard) = [q]
  chassis : ∃ c, q.chassis h = some c ∧ c.cIdSubtype = LLDP_CHASSISID_SUBTYPE_LLADDR ∧
    c.cId = some x.mac ∧ c.cName.map cstr = some x.name
  pIdSubtype : q.pIdSubtype = LLDP_PORTID_SUBTYPE_IFNAME
  pId : q.pId = some x.portId

/-- Ids and names of the VLANs are those of the sender, in order. -/
def HasVlans (x : EdpSender) (q : Port) : Prop :=
  q.pVlans.map (fun v => (v.vVid, cstr v.vName)) =
    x.hw.hLport.pVlans.map fun v => (v.vVid, v.vName)

theorem msap_announced (cfg : Config) : .of (x.heardChassis cfg) x.heardPort = x.msap := by
  unfold Msap.of
  rw [show (x.heardChassis cfg).cId = some (x.chassis.cId.getD []) from rfl, getD_cId]
  rfl

variable {h : Heap Chassis} {stack : Buffer 32}

structure Ready (x : EdpSender) (s : Daemon) (hw : Hardware) : Prop where
  others : ∀ q ∈ hw.hRports, x.IsPort s.gChassis q →
    q.pIdSubtype = LLDP_PORTID_SUBTYPE_IFNAME ∧ q.pId = some x.portId
  room : (∃ q ∈ hw.hRports, x.IsPort s.gChassis q) ∨ s.gConfig.cMaxNeighbors = 0 ∨
    hw.count .edp < s.gConfig.cMaxNeighbors

/-- An EDP port of the sender has its MSAP. -/
theorem Ready.msap_eq (hr : x.Ready s hw) (hq : q ∈ hw.hRports) (hport : x.IsPort s.gChassis q) :
    q.msap s.gChassis = some x.msap := by
  obtain ⟨hproto, oc, hoc, hsub, hcid⟩ := isEdpPort_iff.1 hport
  obtain ⟨hpsub, hpid⟩ := hr.others q hq hport
  unfold Port.msap
  rw [hoc, Option.map_some, Msap.of, hproto, hpsub, hpid, hsub, hcid]
  rfl

theorem isPort_of_msap (hm : q.msap h = some x.msap) : x.IsPort h q := by
  obtain ⟨oc, hoc, hof⟩ := Option.map_eq_some_iff.1 hm
  simp only [Msap.of, msap, Msap.mk.injEq] at hof
  exact isEdpPort_iff.2 ⟨hof.1, oc, hoc, hof.2.2.2.1, hof.2.2.2.2⟩

/-- The first frame is the last frame of the neighbor again. -/
theorem known_again (hs : (daemon b cfg protocols).Reachable s) (hmem : hw ∈ s.gHardware)
    (hr : x.Ready s hw) (hq : q ∈ hw.hRports) (hm : q.msap s.gChassis = some x.msap)
    (hname : ∃ c, q.chassis s.gChassis = some c ∧ c.cName.map cstr = some x.name) :
    x.Known s.gChassis hw q := by
  obtain ⟨-, -, hi⟩ := identity_table hs
  obtain ⟨c, hc, hcname⟩ := hname
  have hport := isPort_of_msap hm
  obtain ⟨hsub, hid⟩ := hr.others q hq hport
  refine ⟨?_, ⟨c, hc, ?_, ?_, hcname⟩, hsub, hid⟩
  · exact filter_eq_singleton (distinct_table hi hmem) hq hport fun _ => hr.msap_eq
  · obtain ⟨-, oc, hoc, hsub, -⟩ := isEdpPort_iff.1 hport
    cases hc.symm.trans hoc
    exact hsub
  · obtain ⟨-, oc, hoc, -, hcid⟩ := isEdpPort_iff.1 hport
    cases hc.symm.trans hoc
    have hlen := x.mac_length
    cases hopt : c.cId with
    | some mac =>
      rw [hopt] at hcid
      exact congrArg some hcid
    | none =>
      rw [hopt] at hcid
      have hnil : x.mac = [] := hcid.symm
      rw [hnil] at hlen
      cases hlen

/-- A sign of life changes nothing. -/
theorem known_refresh (hk : x.Known h hw q) (b : Build) (now : Int)
    (cur : NbrOpcode) (frame : Bytes) :
    ∃ q', x.Known h (refresh b now cur frame hw) q' ∧ q'.pVlans = q.pVlans := by
  have hfilter (l : List Port) : (l.filter (isEdpPort h x.heard)).map Port.untimed =
      (l.map Port.untimed).filter (isEdpPort h x.heard) := by
    rw [List.filter_map]
    rfl
  have hone : ((refresh b now cur frame hw).hRports.filter (isEdpPort h x.heard)).map Port.untimed =
      [q.untimed] := by
    rw [hfilter, map_refresh b now cur frame hw fun _ => rfl, ← hfilter, hk.only]
    rfl
  obtain ⟨q', honly, hsame⟩ := List.map_eq_singleton_iff.1 hone
  have hfield {β : Type} (f : Port → β) (hf : ∀ p : Port, f p.untimed = f p) : f q' = f q := by
    rw [← hf q', ← hf q, hsame]
  refine ⟨q', ⟨honly, ?_, ?_, ?_⟩, ?_⟩
  · rw [hfield (fun p => p.chassis h) fun _ => rfl]
    exact hk.chassis
  · exact (hfield Port.pIdSubtype fun _ => rfl).trans hk.pIdSubtype
  · exact (hfield Port.pId fun _ => rfl).trans hk.pId
  · exact hfield Port.pVlans fun _ => rfl

variable {r : Hardware × Daemon}

theorem known_learnt (hs : (daemon b cfg protocols).Reachable s) (hget : s.gHardware[i]? = some hw)
    (hready : x.Ready s hw) (now : Int) (cnt : UInt64)
    (ht : Takes b s hw stack (x.frame 0) .edp (x.heardChassis cfg) x.heardPort)
    (hr : learn b now (decapsulate (x.frame 0)) (x.heardChassis cfg) x.heardPort s
      ((hw.reset b).unrecognized cnt) = r) :
    ∃ q, x.Known r.2.gChassis r.1 q ∧ q.pVlans = [] := by
  obtain ⟨hsteady, hl, hi⟩ := identity_table hs
  have hheard := ht.announces.heard hsteady
  have hmem := List.mem_of_getElem? hget
  have hdistinct := distinct_table hi hmem
  have hlt : ∀ y ∈ hw.hRports, ∀ a, y.pChassis = some a → a < s.nextAddr := fun y hy =>
    hl.ports_lt y.untimed (Table.mem_ports_of_neighbors (mem_neighbors_table hmem hy))
  obtain ⟨a, hports, hstep⟩ := @learn_step _ b now _ _ _ s ((hw.reset b).unrecognized cnt) hheard
    (by rw [hsteady.config]; rfl) ht.room (rowsOf (s.others i))
  rw [table_get hget] at hl hi
  obtain ⟨oc, hd, hinfo⟩ := Table.deref_learnt hl hstep
  obtain ⟨hkept, -⟩ := Table.keys_step hl hi hstep
  rw [hr] at hports hd hkept
  have hfield {β : Type} (f : Chassis → β) (hf : ∀ c : Chassis, f c.info = f c) :
      f oc = f (x.heardChassis cfg) := by
    rw [← hf oc, hinfo, hf]
  have hsub : oc.cIdSubtype = LLDP_CHASSISID_SUBTYPE_LLADDR := hfield Chassis.cIdSubtype fun _ => rfl
  have hcid : oc.cId = some x.mac := by
    rw [hfield Chassis.cId fun _ => rfl, ← getD_cId]
    rfl
  have hname : oc.cName.map cstr = some x.name := by
    have htext : oc.cName = some (cstr (x.chassis.cName.getD []) ++ [0]) :=
      hfield Chassis.cName fun _ => rfl
    rw [htext, x.cName, Option.getD_some, cstr_eq_self x.name_noNul, Option.map_some,
      cstr_append_zero x.name_noNul]
  have hnew : isEdpPort r.2.gChassis x.heard
      (x.heardPort.heardAt now (decapsulate (x.frame 0)) a) = true :=
    isEdpPort_iff.2 ⟨rfl, oc, hd, hsub, by rw [hcid]; rfl⟩
  have hold : (kept s hw (x.heardChassis cfg) x.heardPort).filter
      (isEdpPort r.2.gChassis x.heard) = [] := by
    apply List.filter_eq_nil_iff.2
    intro y hy hport
    have hyl := List.mem_of_mem_eraseP hy
    obtain ⟨hproto, c', hc', hsub', hcid'⟩ := isEdpPort_iff.1 hport
    obtain ⟨c, hc, hkey⟩ := Table.chassis_of_keysKept hkept (hlt y hyl) hc'
    simp only [Chassis.key, Prod.mk.injEq] at hkey
    have hbefore : x.IsPort s.gChassis y :=
      isEdpPort_iff.2 ⟨hproto, c, hc, hkey.2.1.trans hsub', hkey.2.2.trans hcid'⟩
    have hy' := hready.msap_eq hyl hbefore
    rw [← msap_announced cfg] at hy'
    exact not_mem_eraseP hdistinct hy hy'
  refine ⟨_, ⟨?_, ⟨oc, show Port.chassis (x.heardPort.heardAt now (decapsulate (x.frame 0)) a)
    r.2.gChassis = some oc from hd, hsub, hcid, hname⟩, rfl, rfl⟩, rfl⟩
  rw [hports, List.filter_append, List.filter_cons_of_pos hnew]
  exact congrArg (· ++ _) hold

/-- A port that was last heard in this very first frame is not learnt from it
again: its chassis must still have the name, and its VLANs stay until a second
frame comes. -/
def Current (x : EdpSender) (s : Daemon) (hw : Hardware) : Prop :=
  ∀ q ∈ hw.hRports, q.pLastframe = some (x.frame 0) →
    (∃ c, q.chassis s.gChassis = some c ∧ c.cName.map cstr = some x.name) ∧
      (x.hw.hLport.pVlans = [] → q.pVlans = [])

theorem Ready.takes (hs : (daemon b cfg protocols).Reachable s) (hedp : ⟨.edp, true⟩ ∈ protocols)
    (hx : x.Describable) (hr : x.Ready s hw) {stack : Buffer 32}
    (hdup : ¬ hw.hRports.any (isDuplicate (decapsulate (x.frame 0))) = true) :
    Takes b s hw stack (x.frame 0) .edp (x.heardChassis cfg) x.heardPort := by
  obtain ⟨hsteady, -, -⟩ := identity_table hs
  refine ⟨announces hedp hsteady hx stack, hdup, fun hnone hfull => ?_⟩
  rcases hr.room with ⟨q, hq, hport⟩ | hzero | hroom
  · have hm := hr.msap_eq hq hport
    rw [← msap_announced cfg] at hm
    exact List.find?_eq_none.1 hnone q hq (sameMsap_iff.2 hm)
  · exact hfull.1 hzero
  · have hcount : s.gConfig.cMaxNeighbors - 1 < hw.count .edp := hfull.2
    omega

theorem step_decode {now : Int} {frame : Bytes} (hget : s.gHardware[i]? = some hw)
    (h : lldpdDecode b now stack frame s hw = .ok r) :
    ∃ s', s.step b (.decode i frame now stack) = some s' ∧ s'.gHardware[i]? = some r.1 ∧
      s'.gChassis = r.2.gChassis := by
  obtain ⟨heap, rid, n, hr⟩ := lldpdDecode_frame h
  refine ⟨{ r.2 with gHardware := r.2.gHardware.set i r.1 }, ?_, ?_, rfl⟩
  · unfold Daemon.step
    simp only [hget, h, Option.bind_eq_bind, Option.bind_some]
    rfl
  · rw [hr]
    obtain ⟨hlt, -⟩ := List.getElem?_eq_some_iff.1 hget
    exact List.getElem?_set_self hlt

theorem first_frame (hs : (daemon b cfg protocols).Reachable s)
    (hget : s.gHardware[i]? = some hw) (hedp : ⟨.edp, true⟩ ∈ protocols) (hx : x.Describable)
    (hr : x.Ready s hw) (hc : x.Current s hw) (now : Int) (stack : Buffer 32) : ∃ s' hw' q,
      s.step b (.decode i (x.frame 0) now stack) = some s' ∧ s'.gHardware[i]? = some hw' ∧
      x.Known s'.gChassis hw' q ∧ (x.hw.hLport.pVlans = [] → q.pVlans = []) := by
  obtain ⟨hsteady, -, hi⟩ := identity_table hs
  have ha := announces (b := b) hedp hsteady hx stack
  by_cases hdup : hw.hRports.any (isDuplicate (decapsulate (x.frame 0))) = true
  · -- the neighbor has sent it before
    obtain ⟨q, hq, hqdup⟩ := List.any_eq_true.1 hdup
    have hlast : q.pLastframe = some (x.frame 0) := by
      rw [decapsulate_frame (hx 0 (.inl rfl)).2] at hqdup
      exact eq_of_beq hqdup
    obtain ⟨⟨c, hoc, hname⟩, hvlans⟩ := hc q hq hlast
    have hm := msap_of_duplicate hi (List.mem_of_getElem? hget) hq (by rw [hoc]; rfl) hqdup
      (ha.heard hsteady)
    have hk := known_again hs (List.mem_of_getElem? hget) hr hq
      (hm.trans (congrArg some (msap_announced cfg))) ⟨c, hoc, hname⟩
    have hdec := @lldpdDecode_duplicate b now stack _ s hw ha.long hdup
    obtain ⟨s', hstep, hget', hheap⟩ := step_decode hget hdec
    have hreset : x.Known s.gChassis (hw.reset b) q := ⟨hk.only, hk.chassis, hk.pIdSubtype, hk.pId⟩
    obtain ⟨q', hk', hsame⟩ := known_refresh hreset b now hw.hRportChangeOpcode
      (decapsulate (x.frame 0))
    refine ⟨s', _, q', hstep, hget', ?_, fun hnone => hsame.trans (hvlans hnone)⟩
    rw [hheap]
    exact hk'
  · have ht := @Ready.takes x b cfg protocols s hw hs hedp hx hr stack hdup
    obtain ⟨cnt, hdec⟩ := ht.lldpdDecode now
    obtain ⟨s', hstep, hget', hheap⟩ := step_decode hget hdec
    obtain ⟨q, hk, hnone⟩ := known_learnt hs hget hr now cnt ht rfl
    refine ⟨s', _, q, hstep, hget', ?_, fun _ => hnone⟩
    rw [hheap]
    exact hk

/-- A frame with VLANs is the last frame of no neighbor. -/
theorem not_duplicate (hs : (daemon b cfg protocols).Reachable s) (hget : s.gHardware[i]? = some hw)
    {frame : Bytes} {c : Chassis} {p : Port} (ht : TellsVlans b s stack frame c p) :
    ¬ hw.repeats frame = true := by
  intro hdup
  obtain ⟨hsteady, -, hi⟩ := identity_table hs
  obtain ⟨q, hq, hqdup⟩ := List.any_eq_true.1 hdup
  obtain ⟨f, c', p', hf, hheard, -⟩ :=
    hi.stands _ (mem_neighbors_table (List.mem_of_getElem? hget) hq)
  have hlast : q.pLastframe = some (decapsulate frame) := eq_of_beq hqdup
  cases hlast.symm.trans hf
  obtain ⟨mode, n, hguess, hdec⟩ := ht
  obtain ⟨mode', stack', n', hguess', hdec'⟩ := hheard
  rw [hsteady.protocols] at hguess
  rw [hsteady.config] at hdec
  cases hguess.symm.trans hguess'
  exact decodeMode_ne_vlans hdec' hdec

/-- The one port of the sender gets the VLANs. -/
theorem attachVlans_only {c : Chassis} {ports : List Port}
    (honly : ports.filter (isEdpPort h c) = [q]) (vlans : List Vlan) :
    (attachVlans c ports vlans [] h).1.filter (isEdpPort h c) = [{ q with pVlans := vlans }] ∧
      (attachVlans c ports vlans [] h).2 = h := by
  induction ports with
  | nil => cases honly
  | cons q' ports ih =>
    unfold attachVlans
    cases hq' : isEdpPort h c q' with
    | true =>
      rw [List.filter_cons_of_pos hq'] at honly
      obtain ⟨rfl, hnone⟩ := List.cons.inj honly
      have hrest : ∀ y ∈ ports, isEdpPort h c y = false := by
        intro y hy
        simpa using List.filter_eq_nil_iff.1 hnone y hy
      have hport : isEdpPort h c { q' with pVlans := vlans } = true := hq'
      rw [if_pos rfl, addAddresses_nil, attachVlans_eq_self hrest]
      refine ⟨?_, rfl⟩
      rw [List.filter_cons_of_pos hport, hnone]
    | false =>
      have hneg : ¬ isEdpPort h c q' = true := by
        rw [hq']
        exact Bool.false_ne_true
      rw [List.filter_cons_of_neg hneg] at honly
      rw [if_neg Bool.false_ne_true]
      rw [List.filter_cons_of_neg hneg]
      exact ih honly

theorem second_frame (hs : (daemon b cfg protocols).Reachable s)
    (hget : s.gHardware[i]? = some hw) (hb : b.dot1 = true) (hedp : ⟨.edp, true⟩ ∈ protocols)
    (hx : x.Describable) (hvlans : x.hw.hLport.pVlans ≠ []) (hk : x.Known s.gChassis hw q)
    (now : Int) (stack : Buffer 32) : ∃ s' hw',
      s.step b (.decode i (x.frame 1) now stack) = some s' ∧ s'.gHardware[i]? = some hw' ∧
      x.Known s'.gChassis hw' { q with pVlans := x.hw.hLport.pVlans.map Edp.heardVlan } := by
  obtain ⟨hsteady, -, -⟩ := identity_table hs
  obtain ⟨c, p, ht, hsub, hid, hmgmt, hheard⟩ := tellsVlans hb hedp hsteady hx hvlans stack
  have hlong := x.length_frame 1
  obtain ⟨cnt, hdec⟩ := ht.lldpdDecode (by omega) (not_duplicate hs hget ht) now
  have hsame : isEdpPort s.gChassis c = isEdpPort s.gChassis x.heard := by
    unfold isEdpPort
    rw [hsub, hid]
    rfl
  obtain ⟨hports, hheap⟩ := attachVlans_only (hsame ▸ hk.only) p.pVlans
  rw [hmgmt, hheap] at hdec
  obtain ⟨s', hstep, hget', hheap'⟩ := step_decode hget hdec
  refine ⟨s', _, hstep, hget', ?_⟩
  rw [hheap', ← hheard]
  refine ⟨?_, hk.chassis, hk.pIdSubtype, hk.pId⟩
  rw [← hsame]
  exact hports

theorem hasVlans_heard (q : Port) :
    x.HasVlans { q with pVlans := x.hw.hLport.pVlans.map Edp.heardVlan } := by
  unfold HasVlans
  rw [List.map_map]
  apply List.map_congr_left
  intro v hv
  have hnoNul := x.vlan_noNul v hv
  show (v.vVid, cstr (cstr v.vName ++ [0])) = (v.vVid, v.vName)
  rw [cstr_eq_self hnoNul, cstr_append_zero hnoNul]

end EdpSender

def Delivers (i : Nat) (frame : Bytes) (ev : Event) : Prop :=
  ∃ now stack, ev = .decode i frame now stack

/-! ## The neighbor -/

theorem nul_not_mem (n : Nat) : (0 : UInt8) ∉ List.replicate n 97 := by
  intro h
  cases List.eq_of_mem_replicate h

def edpSender (n : Nat) (vlans : List Vlan) (hvlans : ∀ v ∈ vlans, 0 ∉ v.vName)
    (hIfname : Text) : EdpSender where
  b := .full
  cfg := {}
  chassis :=
    { cIdSubtype := LLDP_CHASSISID_SUBTYPE_LLADDR
      cId := some [2, 0, 0, 0, 0, 1]
      cName := some (List.replicate n 97) }
  hIfname := hIfname
  hIfindex := 3
  seq := 0
  hw := { hLport := { pVlans := vlans }, hMtu := 70000 }
  mac := [2, 0, 0, 0, 0, 1]
  name := List.replicate n 97
  dot1 := rfl
  cIdSubtype := rfl
  cId := rfl
  mac_length := rfl
  cName := rfl
  name_noNul := nul_not_mem n
  vlan_noNul := hvlans

def edpReceiver : Daemon :=
  { Daemon.started {} [⟨.edp, true⟩] with
    gHardware := [{ hLport := { pChassis := some 0 } }]
    gChassis := [(0, { cRefcount := 2 })] }

theorem edpReceiver_reachable : (daemon .full {} [⟨.edp, true⟩]).Reachable edpReceiver :=
  @started_run_reachable .full {} [⟨.edp, true⟩] [.allocHardware, .addHardware 0] edpReceiver rfl

def EdpSender.deliver (x : EdpSender) : List Event :=
  x.frames.map fun frame => .decode 0 frame 1 Lldp.zeroStack

theorem EdpSender.delivers (x : EdpSender) : List.Forall₂ (Delivers 0) x.frames x.deliver :=
  List.forall₂_map_right_iff.2 (List.forall₂_same.2 fun _ _ => ⟨1, Lldp.zeroStack, rfl⟩)

theorem vlan_noNul : ∀ v ∈ [(⟨[118], 10⟩ : Vlan)], 0 ∉ v.vName := by decide

def vlanSender : EdpSender := edpSender 1 [⟨[118], 10⟩] vlan_noNul ['e']

theorem vlanSender_fits : vlanSender.Fits := by
  intro state hstate
  rcases hstate with rfl | ⟨rfl, -⟩ <;> decide

theorem vlanSender_describable : vlanSender.Describable := by
  intro state hstate
  rcases hstate with rfl | ⟨rfl, -⟩ <;> decide

/-- **The two frames make a neighbor**, with the ids, the name and the VLANs
of the sender, and no second one. -/
theorem edp_neighbor (x : EdpSender) (hfits : x.Fits) (hx : x.Describable) (b : Build)
    (hb : b.dot1 = true) (cfg : Config) (protocols : List Protocol)
    (hedp : ⟨.edp, true⟩ ∈ protocols) (s : Daemon) (hs : (daemon b cfg protocols).Reachable s)
    (i : Nat) (hw : Hardware) (hget : s.gHardware[i]? = some hw) (hr : x.Ready s hw)
    (hc : x.Current s hw) (events : List Event)
    (hevents : List.Forall₂ (Delivers i) x.frames events) :
    x.frames.length = (if x.hw.hLport.pVlans = [] then 1 else 2) ∧
      ∃ s' hw' q, s.run b events = some s' ∧ s'.gHardware[i]? = some hw' ∧
        x.Known s'.gChassis hw' q ∧ x.HasVlans q := by
  rw [EdpSender.frames_eq hfits] at hevents ⊢
  obtain ⟨_, rest, ⟨now, stack, rfl⟩, hrest, rfl⟩ := List.forall₂_cons_left_iff.1 hevents
  obtain ⟨s1, hw1, q1, hstep, hget1, hk1, hnone⟩ :=
    EdpSender.first_frame hs hget hedp hx hr hc now stack
  by_cases hvlans : x.hw.hLport.pVlans = []
  · rw [if_pos hvlans] at hrest ⊢
    rw [List.forall₂_nil_left_iff.1 hrest, if_pos hvlans]
    refine ⟨rfl, s1, hw1, q1, ?_, hget1, hk1, ?_⟩
    · unfold Daemon.run
      rw [List.foldlM_cons, hstep]
      rfl
    · unfold EdpSender.HasVlans
      rw [hnone hvlans, hvlans]
      rfl
  · rw [if_neg hvlans] at hrest ⊢
    obtain ⟨_, rest', ⟨now', stack', rfl⟩, hrest', rfl⟩ := List.forall₂_cons_left_iff.1 hrest
    rw [List.forall₂_nil_left_iff.1 hrest', if_neg hvlans]
    obtain ⟨s2, hw2, hstep2, hget2, hk2⟩ :=
      EdpSender.second_frame (hs.step hstep) hget1 hb hedp hx hvlans hk1 now' stack'
    refine ⟨rfl, s2, hw2, _, ?_, hget2, hk2, EdpSender.hasVlans_heard q1⟩
    unfold Daemon.run
    rw [List.foldlM_cons, hstep, Option.bind_eq_bind, Option.bind_some, List.foldlM_cons, hstep2]
    rfl

/-- One VLAN, and a receiver that knows nobody yet. -/
theorem edp_neighbor_vlan : vlanSender.frames.length = 2 ∧ ∃ s' hw' q,
    edpReceiver.run .full vlanSender.deliver = some s' ∧ s'.gHardware[0]? = some hw' ∧
      vlanSender.Known s'.gChassis hw' q ∧
      q.pVlans.map (fun v => (v.vVid, cstr v.vName)) = [(10, [118])] := by
  have hready : vlanSender.Ready edpReceiver { hLport := { pChassis := some 0 } } := by
    refine ⟨fun q hq => ?_, .inr (.inl rfl)⟩
    cases hq
  have hcurrent : vlanSender.Current edpReceiver { hLport := { pChassis := some 0 } } := by
    intro q hq
    cases hq
  exact edp_neighbor vlanSender vlanSender_fits vlanSender_describable .full rfl {} [⟨.edp, true⟩]
    (List.mem_singleton_self _) edpReceiver edpReceiver_reachable 0 _ rfl hready hcurrent
    vlanSender.deliver vlanSender.delivers

/-! ## A first frame that is lost -/

namespace EdpSender
variable {x : EdpSender}

instance (h : Heap Chassis) (q : Port) : Decidable (x.IsPort h q) :=
  inferInstanceAs (Decidable (_ = true))

instance (q : Port) : Decidable (x.HasVlans q) := inferInstanceAs (Decidable (_ = _))

instance (s : Daemon) (hw : Hardware) : Decidable (x.Ready s hw) :=
  decidable_of_iff ((∀ q ∈ hw.hRports, x.IsPort s.gChassis q →
      q.pIdSubtype = LLDP_PORTID_SUBTYPE_IFNAME ∧ q.pId = some x.portId) ∧
    ((∃ q ∈ hw.hRports, x.IsPort s.gChassis q) ∨ s.gConfig.cMaxNeighbors = 0 ∨
      hw.count .edp < s.gConfig.cMaxNeighbors)) ⟨fun h => ⟨h.1, h.2⟩, fun h => ⟨h.others, h.room⟩⟩

def Misses (x : EdpSender) (h : Heap Chassis) (hw : Hardware) : Prop :=
  ∀ q ∈ hw.hRports, ¬ (((q.chassis h).bind fun c => c.cName.map cstr) = some x.name ∧ x.HasVlans q)

instance (h : Heap Chassis) (hw : Hardware) : Decidable (x.Misses h hw) :=
  inferInstanceAs (Decidable (∀ _ ∈ _, _))

def Lost (x : EdpSender) : Prop :=
  x.Fits ∧ ∃ s hw s' hw', (daemon .full {} [⟨.edp, true⟩]).Reachable s ∧
    s.gHardware[0]? = some hw ∧ x.Ready s hw ∧ s.run .full x.deliver = some s' ∧
    s'.gHardware[0]? = some hw' ∧ ¬ ∃ q, x.Known s'.gChassis hw' q ∧ x.HasVlans q

theorem not_known_of_misses {h : Heap Chassis} {hw : Hardware} (hm : x.Misses h hw) :
    ¬ ∃ q, x.Known h hw q ∧ x.HasVlans q := by
  rintro ⟨q, hk, hvlans⟩
  have hq : q ∈ hw.hRports.filter (isEdpPort h x.heard) := by
    rw [hk.only]
    exact List.mem_singleton_self q
  obtain ⟨c, hc, -, -, hname⟩ := hk.chassis
  refine hm q (List.mem_filter.1 hq).1 ⟨?_, hvlans⟩
  rw [hc, Option.bind_some, hname]

theorem lost_of_run (hfits : x.Fits) {before : List Event}
    (hrun : ∃ s ∈ (Daemon.started {} [⟨.edp, true⟩]).run .full before,
      ∃ hw ∈ s.gHardware[0]?, x.Ready s hw ∧ ∃ s' ∈ s.run .full x.deliver,
      ∃ hw' ∈ s'.gHardware[0]?, x.Misses s'.gChassis hw') : x.Lost := by
  obtain ⟨s, hs, hw, hget, hready, s', hs', hw', hget', hmiss⟩ := hrun
  exact ⟨hfits, s, hw, s', hw', started_run_reachable hs, hget, hready, hs', hget',
    not_known_of_misses hmiss⟩

/-- A frame whose header is refused makes no neighbor. -/
theorem lost_of_header (hfits : x.Fits) (hvlans : x.hw.hLport.pVlans = [])
    (hdst : (decapsulate (x.frame 0)).take 6 = Edp.EDP_MULTICAST_ADDR)
    (hbad : Edp.headerOk (decapsulate (x.frame 0)) = false) : x.Lost := by
  have hlong := x.length_frame 0
  have hguess : lldpdGuessType [⟨.edp, true⟩] (decapsulate (x.frame 0)) = some .edp := by
    have hlen := congrArg List.length hdst
    rw [List.length_take] at hlen
    have hsix : Edp.EDP_MULTICAST_ADDR.length = 6 := rfl
    unfold lldpdGuessType
    rw [if_neg (by omega)]
    have hedp : Mode.guess .edp (decapsulate (x.frame 0)) = true := by
      show ((decapsulate (x.frame 0)).take 6 == Edp.EDP_MULTICAST_ADDR) = true
      rw [hdst]
      decide
    rw [List.find?_cons_of_pos (by rw [hedp]; rfl)]
    rfl
  have hrefused : Edp.edpDecode .full .frame {} (decapsulate (x.frame 0)) = .error (.refused {}) := by
    unfold Edp.edpDecode
    rw [Edp.decodeHeader_eq, hbad]
    rfl
  have hdec : ∃ hw', lldpdDecode .full 1 Lldp.zeroStack (x.frame 0) edpReceiver
      { hLport := { pChassis := some 0 } } = .ok (hw', edpReceiver) ∧ hw'.hRports = [] := by
    unfold lldpdDecode
    rw [if_neg (by omega)]
    simp only [List.any_nil, Bool.false_eq_true, if_false]
    unfold decodeFrame
    rw [show edpReceiver.gProtocols = [⟨.edp, true⟩] from rfl, hguess]
    unfold decodeMode
    dsimp only
    rw [show edpReceiver.gConfig = {} from rfl, hrefused]
    exact ⟨_, rfl, rfl⟩
  obtain ⟨hw', hdec, hnone⟩ := hdec
  obtain ⟨s', hstep, hget', -⟩ := step_decode (s := edpReceiver) (i := 0) rfl hdec
  refine ⟨hfits, edpReceiver, _, s', hw', edpReceiver_reachable, rfl, ?_, ?_, hget', ?_⟩
  · refine ⟨fun q hq => ?_, .inr (.inl rfl)⟩
    cases hq
  · unfold deliver
    rw [frames_eq hfits, if_pos hvlans, List.map_cons, List.map_nil]
    unfold Daemon.run
    rw [List.foldlM_cons, hstep]
    rfl
  · rintro ⟨q, hk, -⟩
    have honly := hk.only
    rw [hnone] at honly
    cases honly

/-- The name is what makes a first frame long. -/
theorem length_body (x : EdpSender) : (x.body 0).length = 45 + x.name.length := by
  unfold body Edp.edpBody Edp.stateTlvs
  rw [if_pos rfl]
  have hpay : (Edp.displayTlv x.chassis).payload = x.name ++ [0] := by
    unfold Edp.displayTlv
    rw [x.cName, Option.getD_some, cstr_eq_self x.name_noNul]
    rfl
  have hdisplay : (Edp.encodeTlv (Edp.displayTlv x.chassis)).length = 5 + x.name.length := by
    unfold Edp.encodeTlv
    rw [hpay]
    simp only [List.length_cons, List.length_append, be16Bytes_length, List.length_nil]
    omega
  have hinfo : (Edp.encodeTlv (Edp.infoTlv x.hIfname x.hIfindex)).length = 36 := rfl
  have hnull : (Edp.encodeTlv ⟨Edp.EDP_TLV_NULL, []⟩).length = 4 := rfl
  rw [List.flatMap_cons, List.flatMap_cons, List.flatMap_nil, List.append_nil, List.length_append,
    List.length_append, hnull]
  omega

/-- A packet of 65536 bytes says that it has none. -/
theorem headerOk_overlong (hlen : (x.body 0).length = 65520) :
    Edp.headerOk (x.frame 0) = false := by
  have hzero : Edp.edpLength (x.frame 0) = 0 := by
    unfold Edp.edpLength
    rw [(x.frame_fields 0).2.2, hlen]
    decide
  unfold Edp.headerOk
  rw [hzero, List.take_zero]
  exact decide_eq_false fun h => absurd h.2.2.2.2.2.2 (by decide)

/-- Behind the bytes that are cut out, the length is where the protocol was. -/
theorem headerOk_tagged (hlen : (x.body 0).length = 33000) :
    (decapsulate (x.frame 0)).take 6 = Edp.EDP_MULTICAST_ADDR ∧
      Edp.headerOk (decapsulate (x.frame 0)) = false := by
  obtain ⟨hdst, htype, hpacket⟩ := x.frame_fields 0
  have hlong := x.length_frame 0
  have htag : decapsulate (x.frame 0) = (x.frame 0).take 12 ++ (x.frame 0).drop 16 := by
    apply if_pos
    rw [htype, hlen]
    decide
  have hbehind (i : Nat) (hi : 12 ≤ i) :
      ((x.frame 0).take 12 ++ (x.frame 0).drop 16).getD i 0 = (x.frame 0).getD (i + 4) 0 := by
    have hlen12 : ((x.frame 0).take 12).length = 12 := by rw [List.length_take]; omega
    rw [List.getD_eq_getElem?_getD, List.getElem?_append_right (by omega), List.getElem?_drop,
      ← List.getD_eq_getElem?_getD]
    congr 1
    omega
  rw [htag]
  refine ⟨?_, decide_eq_false fun h => absurd h.2.2.1 ?_⟩
  · rw [List.take_append_of_le_length (by simp; omega), List.take_take]
    exact hdst
  · rw [hbehind 20 (by omega), hbehind 21 (by omega), hpacket, hlen]
    decide

end EdpSender

section
open EdpSender

theorem no_vlans : ∀ v ∈ ([] : List Vlan), 0 ∉ v.vName := by decide

def quietSender (n : Nat) : EdpSender := edpSender n [] no_vlans ['e']

theorem length_quietSender (n : Nat) : ((quietSender n).body 0).length = 45 + n := by
  rw [length_body]
  show 45 + (List.replicate n (97 : UInt8)).length = 45 + n
  rw [List.length_replicate]

variable {n : Nat}

theorem fits_quietSender (hn : n ≤ 69917) : (quietSender n).Fits := by
  intro state hstate
  rcases hstate with rfl | ⟨-, hne⟩
  · rw [length_quietSender]
    show 38 + (45 + n) ≤ 70000
    omega
  · exact absurd rfl hne

theorem lost_overlong (hn : n = 65475) : (quietSender n).Lost := by
  have hlen : ((quietSender n).body 0).length = 65520 := by
    rw [length_quietSender, hn]
  have hnotag : decapsulate ((quietSender n).frame 0) = (quietSender n).frame 0 :=
    decapsulate_frame (by rw [hlen]; decide)
  apply lost_of_header (fits_quietSender (by omega)) rfl
  · rw [hnotag]
    exact (frame_fields _ 0).1
  · rw [hnotag]
    exact headerOk_overlong hlen

theorem lost_tagged (hn : n = 32955) : (quietSender n).Lost := by
  have hlen : ((quietSender n).body 0).length = 33000 := by
    rw [length_quietSender, hn]
  obtain ⟨hdst, hbad⟩ := headerOk_tagged hlen
  exact lost_of_header (fits_quietSender (by omega)) rfl hdst hbad

/-- The same chassis under another name. -/
def renamedSender : EdpSender := edpSender 2 [] no_vlans ['f']

theorem describable_quietSender (hn : n ≤ 32954) : (quietSender n).Describable := by
  intro state hstate
  rcases hstate with rfl | ⟨-, hne⟩
  · rw [length_quietSender]
    refine ⟨by omega, fun htype => ?_⟩
    have hnat := congrArg UInt16.toNat htype
    rw [UInt16.toNat_ofNat'] at hnat
    have hvlan : ETHERTYPE_VLAN.toNat = 33024 := by decide
    omega
  · exact absurd rfl hne

/-- **The frames do not make a neighbor** of a packet that is too long, of one
with the length of a tag, and of one that is the last frame of the neighbor
again, when the sender had a VLAN before or when another interface has heard
another name. -/
theorem edp_neighbor_lost : (quietSender 65475).Lost ∧ (quietSender 32955).Lost ∧
    ((quietSender 1).Describable ∧ (quietSender 1).Lost) ∧
    (vlanSender.Describable ∧ vlanSender.Lost) := by
  refine ⟨lost_overlong rfl, lost_tagged rfl, ⟨describable_quietSender (by decide), ?_⟩,
    vlanSender_describable, ?_⟩
  · apply @lost_of_run _ (fits_quietSender (by decide))
      ([.allocHardware, .addHardware 0] ++ vlanSender.deliver)
    decide +kernel
  · apply @lost_of_run _ vlanSender_fits
      ([.allocHardware, .allocHardware, .addHardware 0, .addHardware 0] ++
        vlanSender.deliver ++ renamedSender.frames.map (.decode 1 · 0 Lldp.zeroStack))
    decide +kernel

end

end Lldpd
