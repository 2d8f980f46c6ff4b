import Lldpd.L1Data.Structs

/-!
# `sonmp_decode`

The decoder of SONMP hellos, under the words of `src/daemon/sonmp.c`. A frame
of this protocol has no TLVs: an address, a segment and the kind of chassis.
-/
namespace Lldpd.Sonmp
open Core

def SONMP_MULTICAST_ADDR : Bytes := [0x01, 0x00, 0x81, 0x00, 0x01, 0x00]
def LLC_PID_SONMP_HELLO : UInt16 := 0x01a2
def SONMP_SIZE : Nat := 22

/-- The entries in front of the terminating one.
mirrors sonmp.c:29-182 -/
def sonmpChassisTypes : List (Nat × String) :=
  [(1, "unknown (via SONMP)"), (2, "Nortel 3000"), (3, "Nortel 3030"), (4, "Nortel 2310"),
    (5, "Nortel 2810"), (6, "Nortel 2912"), (7, "Nortel 2914"), (8, "Nortel 271x"),
    (9, "Nortel 2813"), (10, "Nortel 2814"), (11, "Nortel 2915"), (12, "Nortel 5000"),
    (13, "Nortel 2813SA"), (14, "Nortel 2814SA"), (15, "Nortel 810M"), (16, "Nortel EtherCell"),
    (17, "Nortel 5005"), (18, "Alcatel Ethernet workgroup conc."), (20, "Nortel 2715SA"),
    (21, "Nortel 2486"), (22, "Nortel 28000 series"), (23, "Nortel 23000 series"),
    (24, "Nortel 5DN00x series"), (25, "BayStack Ethernet"), (26, "Nortel 23100 series"),
    (27, "Nortel 100Base-T Hub"), (28, "Nortel 3000 Fast Ethernet"), (29, "Nortel Orion switch"),
    (30, "unknown"), (31, "Nortel DDS "), (32, "Nortel Centillion"), (33, "Nortel Centillion"),
    (34, "Nortel Centillion"), (35, "BayStack 301"), (36, "BayStack TokenRing Hub"),
    (37, "Nortel FVC Multimedia Switch"), (38, "Nortel Switch Node"), (39, "BayStack 302 Switch"),
    (40, "BayStack 350 Switch"), (41, "BayStack 150 Ethernet Hub"),
    (42, "Nortel Centillion 50N switch"), (43, "Nortel Centillion 50T switch"),
    (44, "BayStack 303 and 304 Switches"), (45, "BayStack 200 Ethernet Hub"),
    (46, "BayStack 250 10/100 Ethernet Hub"), (48, "BayStack 450 10/100/1000 Switches"),
    (49, "BayStack 410 10/100 Switches"), (50, "Nortel Ethernet Routing 1200 L3 Switch"),
    (51, "Nortel Ethernet Routing 1250 L3 Switch"), (52, "Nortel Ethernet Routing 1100 L3 Switch"),
    (53, "Nortel Ethernet Routing 1150 L3 Switch"), (54, "Nortel Ethernet Routing 1050 L3 Switch"),
    (55, "Nortel Ethernet Routing 1051 L3 Switch"), (56, "Nortel Ethernet Routing 8610 L3 Switch"),
    (57, "Nortel Ethernet Routing 8606 L3 Switch"), (58, "Nortel Ethernet Routing Switch 8010"),
    (59, "Nortel Ethernet Routing Switch 8006"), (60, "BayStack 670 wireless access point"),
    (61, "Nortel Ethernet Routing Switch 740 "), (62, "Nortel Ethernet Routing Switch 750 "),
    (63, "Nortel Ethernet Routing Switch 790"),
    (64, "Nortel Business Policy Switch 2000 10/100 Switches"),
    (65, "Nortel Ethernet Routing 8110 L2 Switch"), (66, "Nortel Ethernet Routing 8106 L2 Switch"),
    (67, "BayStack 3580 Gig Switch"), (68, "BayStack 10 Power Supply Unit"),
    (69, "BayStack 420 10/100 Switch"), (70, "OPTera Metro 1200 Ethernet Service Module"),
    (71, "Nortel Ethernet Routing Switch 8010co"), (72, "Nortel Ethernet Routing 8610co L3 switch"),
    (73, "Nortel Ethernet Routing 8110co L2 switch"), (74, "Nortel Ethernet Routing 8003"),
    (75, "Nortel Ethernet Routing 8603 L3 switch"), (76, "Nortel Ethernet Routing 8103 L2 switch"),
    (77, "BayStack 380 10/100/1000 Switch"), (78, "Nortel Ethernet Switch 470-48T"),
    (79, "OPTera Metro 1450 Ethernet Service Module"),
    (80, "OPTera Metro 1400 Ethernet Service Module"), (81, "Alteon Switch Family"),
    (82, "Ethernet Switch 460-24T-PWR"), (83, "OPTera Metro 8010 OPM L2 Switch"),
    (84, "OPTera Metro 8010co OPM L2 Switch"), (85, "OPTera Metro 8006 OPM L2 Switch"),
    (86, "OPTera Metro 8003 OPM L2 Switch"), (87, "Alteon 180e"), (88, "Alteon AD3"),
    (89, "Alteon 184"), (90, "Alteon AD4"), (91, "Nortel Ethernet Routing 1424 L3 switch"),
    (92, "Nortel Ethernet Routing 1648 L3 switch"), (93, "Nortel Ethernet Routing 1612 L3 switch"),
    (94, "Nortel Ethernet Routing 1624 L3 switch "), (95, "BayStack 380-24F Fiber 1000 Switch"),
    (96, "Nortel Ethernet Routing Switch 5510-24T"),
    (97, "Nortel Ethernet Routing Switch 5510-48T"), (98, "Nortel Ethernet Switch 470-24T"),
    (99, "Nortel Networks Wireless LAN Access Point 2220"),
    (100, "Ethernet Routing RBS 2402 L3 switch"), (101, "Alteon Application Switch 2424  "),
    (102, "Alteon Application Switch 2224 "), (103, "Alteon Application Switch 2208 "),
    (104, "Alteon Application Switch 2216"), (105, "Alteon Application Switch 3408"),
    (106, "Alteon Application Switch 3416"),
    (107, "Nortel Networks Wireless LAN SecuritySwitch 2250"), (108, "Ethernet Switch 425-48T"),
    (109, "Ethernet Switch 425-24T"), (110, "Nortel Networks Wireless LAN Access Point 2221"),
    (111, "Nortel Metro Ethernet Service Unit 24-T SPF switch"),
    (112, "Nortel Metro Ethernet Service Unit 24-T LX DC switch"),
    (113, "Nortel Ethernet Routing Switch 8300 10-slot chassis"),
    (114, "Nortel Ethernet Routing Switch 8300 6-slot chassis"),
    (115, "Nortel Ethernet Routing Switch 5520-24T-PWR"),
    (116, "Nortel Ethernet Routing Switch 5520-48T-PWR"), (117, "Nortel Networks VPN Gateway 3050"),
    (118, "Alteon SSL 310 10/100"), (119, "Alteon SSL 310 10/100 Fiber"),
    (120, "Alteon SSL 310 10/100 FIPS"), (121, "Alteon SSL 410 10/100/1000"),
    (122, "Alteon SSL 410 10/100/1000 Fiber"), (123, "Alteon Application Switch 2424-SSL"),
    (124, "Nortel Ethernet Switch 325-24T"), (125, "Nortel Ethernet Switch 325-24G"),
    (126, "Nortel Networks Wireless LAN Access Point 2225"),
    (127, "Nortel Networks Wireless LAN SecuritySwitch 2270"),
    (128, "Nortel 24-port Ethernet Switch 470-24T-PWR"),
    (129, "Nortel 48-port Ethernet Switch 470-48T-PWR"),
    (130, "Nortel Ethernet Routing Switch 5530-24TFD"), (131, "Nortel Ethernet Switch 3510-24T"),
    (132, "Nortel Metro Ethernet Service Unit 12G AC L3 switch"),
    (133, "Nortel Metro Ethernet Service Unit 12G DC L3 switch"),
    (134, "Nortel Secure Access Switch"), (135, "Networks VPN Gateway 3070"),
    (136, "OPTera Metro 3500"), (137, "SMB BES 1010 24T"), (138, "SMB BES 1010 48T"),
    (139, "SMB BES 1020 24T PWR"), (140, "SMB BES 1020 48T PWR"), (141, "SMB BES 2010 24T"),
    (142, "SMB BES 2010 48T"), (143, "SMB BES 2020 24T PWR"), (144, "SMB BES 2020 48T PWR"),
    (145, "SMB BES 110 24T"), (146, "SMB BES 110 48T"), (147, "SMB BES 120 24T PWR"),
    (148, "SMB BES 120 48T PWR"), (149, "SMB BES 210 24T"), (150, "SMB BES 210 48T"),
    (151, "SMB BES 220 24T PWR"), (152, "SMB BES 220 48T PWR"), (153, "OME 6500")]

/-- The description of the terminating entry. -/
def unknownChassis : String := "unknown (via SONMP)"

/-- mirrors sonmp.c:349-358 -/
def chassisDescription (rchassis : UInt8) : String :=
  match sonmpChassisTypes.find? (·.1 == rchassis.toNat) with
  | some (_, description) => description
  | none => unknownChassis

def hex (n : Nat) : String := String.ofList (Nat.toDigits 16 n)

def hex2 (n : Nat) : String := if n < 16 then "0" ++ hex n else hex n

/-- mirrors sonmp.c:379-400 -/
def portDescription (x y z : Nat) : String :=
  if x = 0 ∧ y = 0 then "port " ++ toString z
  else if x = 0 then "port " ++ toString y ++ "/" ++ toString z
  else "port " ++ hex x ++ ":" ++ hex y ++ ":" ++ hex z

def inetNtoa (address : Bytes) : String :=
  ".".intercalate (address.map fun x => toString x.toNat)

/-- `sonmp_decode`. `.ok` is `return 1` with the new chassis and port. The
length test does not cover the eight bytes read behind the LLC header.
mirrors sonmp.c:282-410 -/
def sonmpDecode (cfg : Config) (frame : Bytes) : Run Unit (Chassis × Port) := do
  if frame.length < SONMP_SIZE then throw (.refused ())
  let (dst, c) ← (Cursor.mk frame 0).peekBytes 6
  if dst ≠ SONMP_MULTICAST_ADDR then throw (.refused ())
  let (pid, c) ← (((c.discard 6).discard 2).discard 6).peekUint16
  if pid ≠ LLC_PID_SONMP_HELLO then throw (.refused ())
  let (address, c) ← c.peekBytes 4
  let (seg, c) ← c.peekBytes 3
  let (rchassis, _) ← c.peekUint8
  let mgmt ← match lldpdAllocMgmt (some .ipv4) address 4 0 with
    | .ok mgmt => pure mgmt
    | .error _ => throw (.fault .assertion)
  let x := (seg.getD 0 0).toNat
  let y := (seg.getD 1 0).toNat
  let z := (seg.getD 2 0).toNat
  let chassis : Chassis :=
    { cIdSubtype := LLDP_CHASSISID_SUBTYPE_ADDR
      cId := some (1 :: address)
      cName := some (ascii (inetNtoa address))
      cDescr := some (ascii (chassisDescription rchassis))
      cMgmt := [mgmt]
      cTtl := cfg.ttl }
  let port : Port :=
    { pIdSubtype := LLDP_PORTID_SUBTYPE_LOCAL
      pId := some (ascii (hex2 x ++ "-" ++ hex2 y ++ "-" ++ hex2 z))
      pDescr := some (ascii (portDescription x y z)) }
  return (chassis, port)

end Lldpd.Sonmp
