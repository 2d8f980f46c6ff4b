import Lldpd.Core.Format
import Lldpd.L4Ovsdb.Nbrs

/-!
# The texts of a neighbor (`lldp_nbr_update`)

A neighbor goes to its Interface row as a map from names to texts. The
function builds all names and all texts one behind the other in one array of
4096 bytes, with the length of what it has written so far in `offset`, and
hands pointers into the array to `smap_add`. Lists are built in arrays of
their own and names of values in `decode_str`; every array has its bound here.

`inet_ntop` is a parameter. `v_name`, `c_name`, `c_descr` and `p_descr` have a
NUL behind their last byte, `p_id` and `p_pi` have not. The test hook that
replaces the management addresses and the log messages are left out.
-/
namespace Lldpd.Ovsdb.Record
open Core

def KEY_VAL_STR_BUF_MAX : Nat := 4096
def MAX_DESCR : Nat := 256
def KEY_VAL_MAX : Nat := 64
def MGMT_IF_MAX : Nat := 16
def STR_BUF_DECODE_MAX : Nat := 1024
def INET6_ADDRSTRLEN : Nat := 46
def VLAN_LIST_STR_MAX : Nat := 4096 * 256
def VLAN_LIST_INT_MAX : Nat := 4096 * 16
def MGMTIP_LIST_MAX : Nat := MGMT_IF_MAX * INET6_ADDRSTRLEN

def LLDP_PORTID_SUBTYPE_LLADDR : UInt8 := 3

/-! ## Tables of names -/

/-- `LLDP_CHASSISID_SUBTYPE_INDEX`.
mirrors lldpd_ovsdb_if.c:291-300 -/
def chassisIdSubtypes : List (Option String) :=
  [none, "chassis", "if_alias", "port", "link_local_addr", "addr", "if_name", "local"]

/-- `LLDP_PORTID_SUBTYPE_INDEX`.
mirrors lldpd_ovsdb_if.c:303-312 -/
def portIdSubtypes : List (Option String) :=
  ["unknown", "if_alias", "port", "link_local_addr", "addr", "if_name", "agent_cid", "if_name"]

/-- `LLDP_DOT3_MAU_INDEX`.
mirrors lldpd_ovsdb_if.c:315-354 -/
def dot3Maus : List (Option String) :=
  [none, "AUI", "10 BASE5", none, none, "10 BASE5", "10 BASEFP", "10 BASEFB", "10 BASEFL",
    "10 BROAD36", "10 BASETHD", "10 BASETFD", "10 BASEFLHD", "10 BASEFLFD", "10 BASET4",
    "100 BASETXHD", "100 BASETXFD", "100 BASEFXHD", "100 BASEFXFD", "100 BASET2HD", "100 BASET2FD",
    "1000 BASEXHD", "1000 BASEXFD", "1000 BASELXHD", "1000 BASELXFD", "1000 BASESXHD",
    "1000 BASESXFD", "1000 BASECXHD", "1000 BASECXFD", "1000 BASETHD", "1000 BASETFD",
    "10 GIGBASEX", "10 GIGBASELX4", "10 GIGBASEER", "10 GIGBASEER", "10 GIGBASELR",
    "10 GIGBASESR", "10 GIGBASEW", "10 GIGBASEEW", "10 GIGBASELW", "10 GIGBASESW"]

/-- `LLDP_MODE_INDEX`.
mirrors lldpd_ovsdb_if.c:532-539 -/
def modes : List (Option String) := [none, "LLDP", "CDPV1", "CDPV2", "SONMP", "EDP", "FDP"]

/-- `LLDP_DOT3_LINK_AUTONEG_INDEX`, by bit.
mirrors lldpd_ovsdb_if.c:391-423 -/
def dot3LinkAutonegs : List String :=
  ["1000 BASE_TFD", "1000 BASE_T", "1000 BASE_XFD", "1000 BASE_X", "FDX_BPAUSE", "FDX_SPAUSE",
    "FDX_APAUSE", "FDX_PAUSE", "100 BASE_T2FD", "100 BASE_T2", "100 BASE_TXFD", "100 BASE_TX",
    "100 BASE_T4", "10 BASET_FD", "10 BASE_T", "Other"]

/-- `LLDP_CAP_INDEX`, by bit.
mirrors lldpd_ovsdb_if.c:426-435 -/
def caps : List String :=
  ["Other", "Repeater", "Bridge", "WLAN", "Router", "Telephone", "DOCSIS", "Station"]

def modeNumber : Option Mode → Nat
  | none => 0
  | some .lldp => 1
  | some .cdpv1 => 2
  | some .cdpv2 => 3
  | some .sonmp => 4
  | some .edp => 5
  | some .fdp => 6

/-- What `decode_property` leaves in `decode_str`.
mirrors lldpd_ovsdb_if.c:229-241 -/
def propertyText (table : List (Option String)) (property : Nat) : Bytes :=
  match (table[property]?).join with
  | none => ascii " "
  | some name => ascii name

/-- One round of the loop of `decode_features`; `t` is empty as long as `n` is 0. -/
def addFeature (features : Nat) (t : Bytes) (entry : String × Nat) : Bytes :=
  if features.testBit entry.2 then
    if t = [] then ascii entry.1 else t ++ ascii ", " ++ ascii entry.1
  else t

/-- What `decode_features` leaves in `decode_str`.
mirrors lldpd_ovsdb_if.c:201-222 -/
def featuresText (table : List String) (features : Nat) : Bytes :=
  match table.zipIdx.foldl (addFeature features) [] with
  | [] => ascii " "
  | t => t

/-- `xx:yy:...:zz`.
mirrors lldpd_ovsdb_if.c:255-261 -/
def nwAddrText : Bytes → Bytes
  | [] => []
  | [c] => fmtHexByte c
  | c :: cs => fmtHexByte c ++ ascii ":" ++ nwAddrText cs

/-! ## The array of names and texts -/

structure KeyVals where
  pbuf : Buffer KEY_VAL_STR_BUF_MAX
  offset : Nat := 0
  keyArray : List Nat := []
  valArray : List Nat := []
  deriving DecidableEq, Repr

def KeyVals.init : KeyVals := { pbuf := ⟨List.replicate KEY_VAL_STR_BUF_MAX 0, List.length_replicate⟩ }

def KeyVals.offsets (kv : KeyVals) : List Nat := kv.keyArray ++ kv.valArray ++ [kv.offset]

/-- `LLDP_ENCODE_KEY_VAL`. `snprintf` writes `MAX_DESCR - 1` characters at most
and returns how many there were.
mirrors lldpd_ovsdb_if.c:2918-2926 -/
def lldpEncodeKeyVal (key : String) (val : Bytes) (kv : KeyVals) : Except Fault KeyVals := do
  if KEY_VAL_MAX ≤ kv.keyArray.length then throw .overflow
  let keyVec := kv.offset
  let pbuf ← kv.pbuf.sprintf keyVec (ascii key)
  let valVec := keyVec + (ascii key).length + 1
  let pbuf ← pbuf.sprintf valVec (val.take (MAX_DESCR - 1))
  return { pbuf := pbuf, offset := valVec + val.length + 1, keyArray := kv.keyArray ++ [keyVec],
           valArray := kv.valArray ++ [valVec] }

/-- The locals of `lldp_nbr_update`; `decodeStr` is the string in `decode_str`. -/
structure Enc where
  kv : KeyVals := .init
  decodeStr : Bytes := []

abbrev Action := Enc → Except Fault Enc

def setDecodeStr (t : Bytes) : Action := fun e =>
  if t.length + 1 ≤ STR_BUF_DECODE_MAX then .ok { e with decodeStr := t } else .error .overflow

def encode (key : String) (val : Bytes) : Action := fun e => do
  return { e with kv := ← lldpEncodeKeyVal key val e.kv }

def encodeDecodeStr (key : String) : Action := fun e => encode key e.decodeStr e

/-- `LLDP_ENCODE_KEY_VAL_INT`.
mirrors lldpd_ovsdb_if.c:2928-2936 -/
def encodeInt (key : String) (val : Int) : Action := encode key (fmtInt val)

/-- `LLDP_ENCODE_KEY_VAL_DBL`.
mirrors lldpd_ovsdb_if.c:2938-2947 -/
def encodeDbl (key : String) (val : Int) : Action := encode key (fmtHex val)

def encodeStr (key : String) (val : Option Bytes) : Action := encode key (cstr (val.getD []))

def encodeProperty (key : String) (table : List (Option String)) (property : Nat) : Action :=
  fun e => do
    let e ← setDecodeStr (propertyText table property) e
    encodeDecodeStr key e

def encodeFeatures (key : String) (table : List String) (features : Nat) : Action := fun e => do
  let e ← setDecodeStr (featuresText table features) e
  encodeDecodeStr key e

/-- `decode_nw_addr`. An identifier of another length leaves `decode_str` as it
is.
mirrors lldpd_ovsdb_if.c:247-266 -/
def decodeNwAddr (id : Bytes) : Action := fun e =>
  if id.length = 6 then setDecodeStr (nwAddrText id) e else .ok e

/-- mirrors lldpd_ovsdb_if.c:3112-3119 -/
def encodeChassisId (pChassis : NbrChassis) : Action := fun e => do
  let e ← encodeProperty "chassis_id_subtype" chassisIdSubtypes pChassis.cIdSubtype.toNat e
  let e ← decodeNwAddr (pChassis.cId.getD []) e
  encodeDecodeStr "chassis_id" e

def decodePId (pId : Option Bytes) : Action := fun e => do
  let t ← readStr (pId.getD [])
  setDecodeStr t e

/-- mirrors lldpd_ovsdb_if.c:3183-3194 -/
def encodePortId (pNbr : NbrInfo) : Action := fun e => do
  let e ← encodeProperty "port_id_subtype" portIdSubtypes pNbr.pIdSubtype.toNat e
  let e ← if pNbr.pIdSubtype = LLDP_PORTID_SUBTYPE_LLADDR then decodeNwAddr (pNbr.pId.getD []) e
    else decodePId pNbr.pId e
  encodeDecodeStr "port_id" e

/-! ## Lists -/

/-- What `smap_list_set` makes of the list.
mirrors lldpd_ovsdb_if.c:2953-2958 -/
def listAdd (svec val : Bytes) : Bytes := svec ++ (if svec = [] then [] else ascii ",") ++ val

def smapListSet (size : Nat) (svec val : Bytes) : Except Fault Bytes :=
  if (listAdd svec val).length + 1 ≤ size then .ok (listAdd svec val) else .error .overflow

/-- The loop of `lldp_create_vlan_list`, `lldp_create_pi_list` and
`lldp_create_ppvid_list`: two lists are written side by side. -/
def createList {α : Type} (size₀ size₁ : Nat) (text₀ : α → Except Fault Bytes) (text₁ : α → Bytes)
    (entries : List α) (lists : Bytes × Bytes) : Except Fault (Bytes × Bytes) :=
  entries.foldlM (fun lists x => do
    let t ← text₀ x
    let list₀ ← smapListSet size₀ lists.1 t
    let list₁ ← smapListSet size₁ lists.2 (text₁ x)
    return (list₀, list₁)) lists

/-- mirrors lldpd_ovsdb_if.c:3015-3028 -/
def lldpCreateVlanList (pVlans : List Vlan) : Except Fault (Bytes × Bytes) :=
  createList VLAN_LIST_STR_MAX VLAN_LIST_INT_MAX (fun vlan => readStr (vlan.vName ++ [0]))
    (fun vlan => fmtInt vlan.vVid.toNat) pVlans ([], [])

/-- mirrors lldpd_ovsdb_if.c:3030-3043 -/
def lldpCreatePiList (pPids : List Pi) : Except Fault (Bytes × Bytes) :=
  createList VLAN_LIST_STR_MAX VLAN_LIST_INT_MAX (fun pi => readStr pi.pPi)
    (fun pi => fmtInt pi.pPi.length) pPids ([], [])

/-- mirrors lldpd_ovsdb_if.c:3045-3059 -/
def lldpCreatePpvidList (pPpvids : List Ppvid) : Except Fault (Bytes × Bytes) :=
  createList VLAN_LIST_INT_MAX VLAN_LIST_INT_MAX (fun ppvid => .ok (fmtInt ppvid.pCapStatus.toNat))
    (fun ppvid => fmtInt ppvid.pPpvid.toNat) pPpvids ([], [])

/-- `inet_ntop` of a family and the 16 bytes of `m_addr`. -/
abbrev InetNtop := Af → Bytes → Option Bytes

/-- `m_iface` is unsigned and goes to `%d`. -/
def mIfaceText (mgmtip : Mgmt) : Bytes := fmtInt ((mgmtip.mIface.toNat : Int).bmod 4294967296)

def mgmtTexts (inetNtop : InetNtop) (cMgmt : List Mgmt) : List (Bytes × Mgmt) :=
  (cMgmt.take MGMT_IF_MAX).filterMap fun mgmtip =>
    (inetNtop mgmtip.mFamily mgmtip.addrBytes).map (·, mgmtip)

/-- mirrors lldpd_ovsdb_if.c:2984-3013 -/
def lldpCreateMgmtipList (inetNtop : InetNtop) (cMgmt : List Mgmt) :
    Except Fault (Bytes × Bytes) :=
  createList MGMTIP_LIST_MAX MGMTIP_LIST_MAX (fun entry => .ok entry.1)
    (fun entry => mIfaceText entry.2) (mgmtTexts inetNtop cMgmt) ([], [])

def encodeLists {α : Type} (key₀ key₁ : String) (queue : List α)
    (lists : Except Fault (Bytes × Bytes)) : Action := fun e =>
  if queue = [] then .ok e
  else do
    let l ← lists
    let e ← encode key₀ l.1 e
    encode key₁ l.2 e

/-! ## The function -/

def run (actions : List Action) : Action := fun e => actions.foldlM (fun e action => action e) e

/-- mirrors lldpd_ovsdb_if.c:3100-3162 -/
def chassisActions (inetNtop : InetNtop) (pChassis : NbrChassis) : List Action :=
  [encodeInt "chassis_refcount" pChassis.cRefcount.toNat,
    encodeInt "chassis_index" pChassis.cIndex.toNat,
    encodeProperty "chassis_protocol" modes (modeNumber pChassis.cProtocol),
    encodeChassisId pChassis,
    encodeInt "chassis_id_len" (pChassis.cId.getD []).length,
    encodeStr "chassis_name" pChassis.cName,
    encodeStr "chassis_description" pChassis.cDescr,
    encodeFeatures "chassis_capability_available" caps pChassis.cCapAvailable.toNat,
    encodeFeatures "chassis_capability_enabled" caps pChassis.cCapEnabled.toNat,
    encodeInt "chassis_ttl" pChassis.cTtl.toNat,
    encodeLists "mgmt_ip_list" "mgmt_iface_list" pChassis.cMgmt
      (lldpCreateMgmtipList inetNtop pChassis.cMgmt)]

/-- mirrors lldpd_ovsdb_if.c:3164-3202 -/
def portActions (pNbr : NbrInfo) : List Action :=
  [encodeDbl "port_lastchange" pNbr.pLastchange,
    encodeDbl "port_lastupdate" pNbr.pLastupdate,
    encodeProperty "port_protocol" modes (modeNumber pNbr.pProtocol),
    encodeInt "port_hidden_in" pNbr.pHiddenIn.toNat,
    encodeInt "port_hidden_out" pNbr.pHiddenOut.toNat,
    encodePortId pNbr,
    encodeInt "port_id_len" (pNbr.pId.getD []).length,
    encodeStr "port_description" pNbr.pDescr,
    encodeInt "port_mfs" pNbr.pMfs.toNat]

/-- mirrors lldpd_ovsdb_if.c:3204-3263 -/
def dot3Actions (pMacphy : Dot3Macphy) (pPower : Dot3Power) : List Action :=
  [encodeFeatures "macphy_autoneg_support" dot3LinkAutonegs pMacphy.autonegSupport.toNat,
    encodeFeatures "macphy_autoneg_enabled" dot3LinkAutonegs pMacphy.autonegEnabled.toNat,
    encodeFeatures "macphy_autoneg_advertised" dot3LinkAutonegs pMacphy.autonegAdvertised.toNat,
    encodeProperty "macphy_mau_type" dot3Maus pMacphy.mauType.toNat,
    encodeInt "power_devicetype" pPower.devicetype.toNat,
    encodeInt "power_supported" pPower.supported.toNat,
    encodeInt "power_enabled" pPower.enabled.toNat,
    encodeInt "power_paircontrol" pPower.paircontrol.toNat,
    encodeInt "power_pairs" pPower.pairs.toNat,
    encodeInt "power_class" pPower.class'.toNat,
    encodeInt "power_powertype" pPower.powertype.toNat,
    encodeInt "power_source" pPower.source.toNat,
    encodeInt "power_priority" pPower.priority.toNat,
    encodeInt "power_requested" pPower.requested.toNat,
    encodeInt "power_allocated" pPower.allocated.toNat]

/-- mirrors lldpd_ovsdb_if.c:3269-3313 -/
def dot1Actions (pNbr : NbrInfo) : List Action :=
  [encodeLists "vlan_name_list" "vlan_id_list" pNbr.pVlans (lldpCreateVlanList pNbr.pVlans),
    encodeLists "ppvids_cap_list" "ppvids_ppvid_list" pNbr.pPpvids
      (lldpCreatePpvidList pNbr.pPpvids),
    encodeLists "pids_name_list" "pids_len_list" pNbr.pPids (lldpCreatePiList pNbr.pPids)]

def nbrActions (b : Build) (inetNtop : InetNtop) (pNbr : NbrInfo) : List Action :=
  (match pNbr.chassis with
    | none => []
    | some pChassis => chassisActions inetNtop pChassis) ++
  portActions pNbr ++
  (if b.dot3 then dot3Actions pNbr.pMacphy pNbr.pPower else []) ++
  encodeInt "port_pvid" pNbr.pPvid.toNat ::
  (if b.dot1 then dot1Actions pNbr else [])

/-- What `smap_add` reads behind the pointers.
mirrors lldpd_ovsdb_if.c:3328-3338 -/
def smapAdds (kv : KeyVals) : Except Fault (List (Bytes × Bytes)) :=
  (kv.keyArray.zip kv.valArray).mapM fun vecs => do
    return (← kv.pbuf.str vecs.1, ← kv.pbuf.str vecs.2)

/-- `lldp_nbr_update`, with the array it leaves and the map.
mirrors lldpd_ovsdb_if.c:3065-3338 -/
def lldpNbrUpdate (b : Build) (inetNtop : InetNtop) (pNbr : NbrInfo) :
    Except Fault (KeyVals × List (Bytes × Bytes)) := do
  let e ← run (nbrActions b inetNtop pNbr) {}
  return (e.kv, ← smapAdds e.kv)

end Lldpd.Ovsdb.Record
