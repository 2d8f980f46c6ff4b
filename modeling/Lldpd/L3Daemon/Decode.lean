import Lldpd.L2Proto.Cdp.Decode
import Lldpd.L2Proto.Edp.Decode
import Lldpd.L2Proto.Lldp.Decode
import Lldpd.L2Proto.Sonmp.Decode
import Lldpd.L3Daemon.Daemon

/-!
# `lldpd_decode`

What the daemon does with a frame: the shortcut for a frame it has seen, the
choice of a decoder, the search for the neighbor and for its chassis, and the
update of the table.
-/
namespace Lldpd
open Core

def ETHERTYPE_VLAN : UInt16 := 0x8100

/-! ## The decoders -/

/-- What a decoder makes of a frame. -/
inductive Outcome where
  /-- `return 1` -/
  | neighbor (chassis : Chassis) (port : Port)
  /-- `return -1`, after EDP has handed over its VLANs -/
  | vlans (chassis : Chassis) (port : Port)
  /-- `return -1` -/
  | malformed
  deriving DecidableEq, Repr

/-- The neighbor is noted to be one of the protocol.
mirrors lldpd.c:549-550 -/
def Outcome.heard (mode : Mode) (chassis : Chassis) (port : Port) : Outcome :=
  .neighbor { chassis with cProtocol := some mode } { port with pProtocol := some mode }

/-- `cfg->g_protocols[i].decode` by mode: the outcome and the increments of
`h_rx_unrecognized_cnt`. `stack` is what `lldp_decode` finds on its stack. -/
def decodeMode (b : Build) (cfg : Config) (stack : Buffer 32) (mode : Mode) (frame : Bytes) :
    Except Fault (Outcome × Nat) :=
  match mode with
  | .lldp =>
    match Lldp.lldpDecode b stack frame with
    | .ok d => .ok (.heard mode d.chassis d.port, d.hRxUnrecognizedCnt)
    | .error (.refused d) => .ok (.malformed, d.hRxUnrecognizedCnt)
    | .error (.fault f) => .error f
  | .cdpv1 | .cdpv2 | .fdp =>
    match Cdp.cdpDecode b .frame frame with
    | .ok d => .ok (.heard mode d.chassis d.port, d.hRxUnrecognizedCnt)
    | .error (.refused d) => .ok (.malformed, d.hRxUnrecognizedCnt)
    | .error (.fault f) => .error f
  | .sonmp =>
    match Sonmp.sonmpDecode cfg frame with
    | .ok (chassis, port) => .ok (.heard mode chassis port, 0)
    | .error (.refused _) => .ok (.malformed, 0)
    | .error (.fault f) => .error f
  | .edp =>
    match Edp.edpDecode b .frame cfg frame with
    | .ok (.neighbor d) => .ok (.heard mode d.chassis d.port, d.hRxUnrecognizedCnt)
    | .ok (.vlans d) => .ok (.vlans d.chassis d.port, d.hRxUnrecognizedCnt)
    | .error (.refused d) => .ok (.malformed, d.hRxUnrecognizedCnt)
    | .error (.fault f) => .error f

/-- Whether a frame is one of the protocol: its detector or its address.
mirrors lldpd.c:52-76 -/
def Mode.guess (mode : Mode) (frame : Bytes) : Bool :=
  match mode with
  | .lldp => frame.take 6 == Lldp.LLDP_MULTICAST_ADDR
  | .cdpv1 => Cdp.cdpGuess frame 1
  | .cdpv2 => Cdp.cdpGuess frame 2
  | .sonmp => frame.take 6 == Sonmp.SONMP_MULTICAST_ADDR
  | .edp => frame.take 6 == Edp.EDP_MULTICAST_ADDR
  | .fdp => frame.take 6 == Cdp.FDP_MULTICAST_ADDR

/-- `lldpd_guess_type`. `none` is -1.
mirrors lldpd.c:457-481 -/
def lldpdGuessType (gProtocols : List Protocol) (frame : Bytes) : Option Mode :=
  if frame.length < 6 then none
  else (gProtocols.find? fun p => p.enabled && p.mode.guess frame).map (·.mode)

/-! ## The VLANs of EDP -/

/-- An address that comes again later in the list is not added now. In an EDP
frame all of them are IPv4 addresses.
mirrors edp.c:474-488 -/
def laterAddresses : List Mgmt → List Mgmt
  | [] => []
  | m :: ms =>
    if ms.any fun m' => m'.mFamily == m.mFamily && m'.mAddr == m.mAddr then laterAddresses ms
    else m :: laterAddresses ms

def addAddresses (mgmts : List Mgmt) (gChassis : Heap Chassis) (oport : Port) : Heap Chassis :=
  match oport.pChassis with
  | some a => gChassis.write a fun oc => { oc with cMgmt := oc.cMgmt ++ laterAddresses mgmts }
  | none => gChassis

/-- The test of the loop: a port learnt by EDP from this sender. -/
def isEdpPort (gChassis : Heap Chassis) (chassis : Chassis) (oport : Port) : Bool :=
  oport.pProtocol == some .edp &&
    match oport.chassis gChassis with
    | some oc => oc.cIdSubtype == chassis.cIdSubtype && oc.cId.getD [] == chassis.cId.getD []
    | none => false

/-- The loop of `edp_decode` over the ports of the interface. The first one
that matches gets the VLANs and the addresses, the others lose their VLANs.
mirrors edp.c:455-488 -/
def attachVlans (chassis : Chassis) :
    List Port → List Vlan → List Mgmt → Heap Chassis → List Port × Heap Chassis
  | [], _, _, gChassis => ([], gChassis)
  | oport :: rest, vlans, mgmts, gChassis =>
    if isEdpPort gChassis chassis oport then
      let (rest, gChassis) :=
        attachVlans chassis rest [] [] (addAddresses mgmts gChassis oport)
      ({ oport with pVlans := vlans } :: rest, gChassis)
    else
      let (rest, gChassis) := attachVlans chassis rest vlans mgmts gChassis
      (oport :: rest, gChassis)

/-! ## The table -/

/-- `lldpd_move_chassis`: reference count and index stay.
mirrors lldpd.c:417-455 -/
def lldpdMoveChassis (chassis ochassis : Chassis) : Chassis :=
  { chassis with cRefcount := ochassis.cRefcount, cIndex := ochassis.cIndex }

def Chassis.sameId (c oc : Chassis) : Bool :=
  c.cIdSubtype == oc.cIdSubtype && c.cId.getD [] == oc.cId.getD []

/-- The test of the first search: protocol, port id and chassis id.
mirrors lldpd.c:570-578 -/
def sameMsap (gChassis : Heap Chassis) (chassis : Chassis) (port oport : Port) : Bool :=
  port.pProtocol == oport.pProtocol && port.pIdSubtype == oport.pIdSubtype &&
    port.pId.getD [] == oport.pId.getD [] &&
    match oport.chassis gChassis with
    | some oc => chassis.sameId oc
    | none => false

/-- The entry that the port of a frame has already. -/
abbrev oport (s : Daemon) (hardware : Hardware) (chassis : Chassis) (port : Port) : Option Port :=
  hardware.hRports.find? (sameMsap s.gChassis chassis port)

abbrev kept (s : Daemon) (hardware : Hardware) (chassis : Chassis) (port : Port) : List Port :=
  hardware.hRports.eraseP (sameMsap s.gChassis chassis port)

/-- The first search: the port, if it is known, and the ports of the protocol
that were seen.
mirrors lldpd.c:566-584 -/
def searchMsap (gChassis : Heap Chassis) (chassis : Chassis) (port : Port) :
    List Port → Nat → Option Port × Nat
  | [], count => (none, count)
  | oport :: rest, count =>
    if port.pProtocol = oport.pProtocol then
      if sameMsap gChassis chassis port oport then (some oport, count + 1)
      else searchMsap gChassis chassis port rest (count + 1)
    else searchMsap gChassis chassis port rest count

/-- The second search: the chassis, by protocol and id.
mirrors lldpd.c:604-614 -/
def searchChassis (gChassis : Heap Chassis) (chassis : Chassis) : Option Addr :=
  (gChassis.find? fun e => chassis.cProtocol == e.2.cProtocol && chassis.sameId e.2).map (·.1)

/-- The chassis of a decoded frame takes its place: over a known one, or at
the end of the list.
mirrors lldpd.c:625-636 -/
def placeChassis (s : Daemon) (chassis : Chassis) (ochassis : Option Addr) : Addr × Daemon :=
  match ochassis with
  | some a => (a, { s with gChassis := s.gChassis.write a (lldpdMoveChassis chassis) })
  | none =>
    let chassis := { chassis with cIndex := UInt16.ofNat (s.gLastrid + 1), cRefcount := 0 }
    (s.nextAddr,
      { s with
        gLastrid := s.gLastrid + 1
        gChassis := s.gChassis ++ [(s.nextAddr, chassis)]
        nextAddr := s.nextAddr + 1 })

/-- The port as it goes to the table: what was heard, when, and on which
chassis.
mirrors lldpd.c:638-643 -/
def Port.heardAt (port : Port) (now : Int) (frame : Bytes) (a : Addr) : Port :=
  { port with
    pLastchange := now
    pLastupdate := now
    pLastframe := some frame
    pChassis := some a }

/-- The interface once `port` is known or new (`known`).
mirrors lldpd.c:637-717 -/
def addPort (b : Build) (cfg : Config) (known : Bool) (medType : UInt8) (hardware : Hardware)
    (port : Port) : Hardware :=
  let hardware := { hardware with hRports := hardware.hRports ++ [port] }
  let hardware := if known then hardware else { hardware with hInsertCnt := hardware.hInsertCnt + 1 }
  let hardware :=
    if b.lldpmed ∧ !known ∧ medType ≠ 0 ∧ cfg.cEnableFastStart ∧ hardware.hTxFast = 0 then
      { hardware with hTxFast := cfg.cTxFastInit }
    else hardware
  if b.ovsdb ∧ hardware.hRportChangeOpcode = .noop then { hardware with hRportChangeOpcode := .add }
  else hardware

/-- The rest of `lldpd_decode`, behind the decoder: `frame` is kept for the
shortcut. A neighbor the interface has no room for leaves no trace.
mirrors lldpd.c:566-718 -/
def learn (b : Build) (now : Int) (frame : Bytes) (chassis : Chassis) (port : Port) (s : Daemon)
    (hardware : Hardware) : Hardware × Daemon :=
  let (oport, count) := searchMsap s.gChassis chassis port hardware.hRports 0
  if oport = none ∧ s.gConfig.cMaxNeighbors ≠ 0 ∧ s.gConfig.cMaxNeighbors - 1 < count then
    (hardware, s)
  else
    let ochassis := match oport with
      | some oport => oport.pChassis
      | none => searchChassis s.gChassis chassis
    let (hardware, gChassis) := match oport with
      | some oport =>
        ({ hardware with
            hRports := hardware.hRports.eraseP (sameMsap s.gChassis chassis port)
            hRportChangeOpcode := if b.ovsdb then .mod else hardware.hRportChangeOpcode },
          lldpdPortCleanup s.gChassis oport)
      | none => (hardware, s.gChassis)
    let (a, s) := placeChassis { s with gChassis := gChassis } chassis ochassis
    (addPort b s.gConfig oport.isSome chassis.cMedType hardware (port.heardAt now frame a),
      { s with gChassis := s.gChassis.write a Chassis.retain })

/-- The VLAN tag is cut out.
mirrors lldpd.c:507-515 -/
def decapsulate (frame : Bytes) : Bytes :=
  if be16 (frame.getD 12 0) (frame.getD 13 0) = ETHERTYPE_VLAN then frame.take 12 ++ frame.drop 16
  else frame

/-- Applies `f` to the first element that satisfies `p`. -/
def modifyFirst {α : Type} (p : α → Bool) (f : α → α) : List α → List α
  | [] => []
  | x :: l => if p x then f x :: l else x :: modifyFirst p f l

def isDuplicate (frame : Bytes) (oport : Port) : Bool := oport.pLastframe == some frame

/-- The frame is the last one of a neighbor again. -/
abbrev Hardware.repeats (hardware : Hardware) (frame : Bytes) : Bool :=
  hardware.hRports.any (isDuplicate (decapsulate frame))

/-- The shortcut: the same frame again only counts as a sign of life. `cur`
is the change that was pending.
mirrors lldpd.c:517-535 -/
def refresh (b : Build) (now : Int) (cur : NbrOpcode) (frame : Bytes) (hardware : Hardware) :
    Hardware :=
  { hardware with
    hRports := modifyFirst (isDuplicate frame) (fun oport => { oport with pLastupdate := now })
      hardware.hRports
    hRportChangeOpcode :=
      if !b.ovsdb then hardware.hRportChangeOpcode
      else if cur = .mod ∨ cur = .add then cur
      else .upd }

/-- `lldpd_decode` on a frame that the shortcut does not know.
mirrors lldpd.c:537-718 -/
def decodeFrame (b : Build) (now : Int) (stack : Buffer 32) (frame : Bytes) (s : Daemon)
    (hardware : Hardware) : Except Fault (Hardware × Daemon) :=
  match lldpdGuessType s.gProtocols frame with
  | none => .ok (hardware, s)
  | some mode => do
    let (outcome, unrecognized) ← decodeMode b s.gConfig stack mode frame
    let hardware := { hardware with
      hRxUnrecognizedCnt := hardware.hRxUnrecognizedCnt + UInt64.ofNat unrecognized }
    match outcome with
    | .malformed => return (hardware, s)
    | .vlans chassis port =>
      let (rports, gChassis) :=
        attachVlans chassis hardware.hRports port.pVlans chassis.cMgmt s.gChassis
      return ({ hardware with hRports := rports }, { s with gChassis := gChassis })
    | .neighbor chassis port =>
      return learn b now frame chassis port s hardware

/-- `lldpd_decode` on one interface. The protocol that guesses the type is the
first enabled one of its mode, so its decoder is the one that is called.
mirrors lldpd.c:483-722 -/
def lldpdDecode (b : Build) (now : Int) (stack : Buffer 32) (frame : Bytes) (s : Daemon)
    (hardware : Hardware) : Except Fault (Hardware × Daemon) :=
  if frame.length < 18 then .ok (hardware, s)
  else
    let cur := hardware.hRportChangeOpcode
    let hardware := { hardware with hRportChangeOpcode := if b.ovsdb then .noop else cur }
    let frame := decapsulate frame
    if hardware.hRports.any (isDuplicate frame) then .ok (refresh b now cur frame hardware, s)
    else decodeFrame b now stack frame s hardware

end Lldpd
