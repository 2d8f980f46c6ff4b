import Lldpd.Core.Cursor

/-!
# The data model (`lldpd-structs.h`)

Chassis, ports and what hangs off them, as the decoders fill them and the
emitters read them. Machine integers keep their width. A `char *` with an
explicit length is a byte string (`none` for NULL), a NUL-terminated `char *`
is the content of its buffer without the final NUL (`Core.cstr` is what `str*`
functions see of it), a `TAILQ` is a list in queue order. A struct that the C
code gets from `calloc` is the structure's default value.

Pointers between objects are heap addresses (`Addr`): a port names its
chassis, several ports may name the same one.

The `#ifdef`s of the source are the fields of `Build`: a build without a
feature leaves the fields of that feature at their defaults.

What `mirrors` names are a file of the source, by its name, and its lines.
-/
namespace Lldpd
open Core

/-- Compile-time options (`ENABLE_*`). -/
structure Build where
  ovsdb : Bool
  dot1 : Bool
  dot3 : Bool
  lldpmed : Bool
  cdp : Bool
  fdp : Bool
  edp : Bool
  sonmp : Bool
  deriving DecidableEq, Repr

/-- Every protocol and every extension, without the OVSDB integration. -/
def Build.full : Build := ⟨false, true, true, true, true, true, true, true⟩

abbrev Addr := Nat

/-- `LLDPD_MODE_*`: the protocol an object was learnt from. 0, the value of
the local chassis and of a fresh object, is `none` of `Option Mode`.
mirrors lldp-const.h:211-218 -/
inductive Mode where
  | lldp | cdpv1 | cdpv2 | sonmp | edp | fdp
  deriving DecidableEq, Repr

/-! ## Management addresses -/

/-- `LLDPD_AF_*`; `LLDPD_AF_UNSPEC` is `none` of `Option Af`.
mirrors lldpd-structs.h:149-154 -/
inductive Af where
  | ipv4 | ipv6
  deriving DecidableEq, Repr

def LLDPD_MGMT_MAXADDRSIZE : Nat := 16

/-- `mAddr` holds the first `m_addrsize` bytes of the union; the others are
zero. `lldpd_alloc_mgmt` is the only constructor and refuses a family or a
size outside of what the fields can hold.
mirrors lldpd-structs.h:168-178 -/
structure Mgmt where
  mFamily : Af
  mAddr : Bytes
  mIface : UInt32
  size_le : mAddr.length ≤ LLDPD_MGMT_MAXADDRSIZE
  deriving DecidableEq, Repr

def Mgmt.addrBytes (m : Mgmt) : Bytes :=
  m.mAddr ++ List.replicate (LLDPD_MGMT_MAXADDRSIZE - m.mAddr.length) 0

theorem Mgmt.length_addrBytes (m : Mgmt) : m.addrBytes.length = LLDPD_MGMT_MAXADDRSIZE := by
  have := m.size_le
  simp only [Mgmt.addrBytes, List.length_append, List.length_replicate]
  omega

inductive Errno where
  | EAFNOSUPPORT | EOVERFLOW | ENOMEM | E2BIG | ENETDOWN | EINVAL
  deriving DecidableEq, Repr

/-- `addr` is the memory behind `addrptr`, `addrsize` the number of bytes
the caller asks for. `calloc` succeeds.
mirrors lldpd.c:185-211 -/
def lldpdAllocMgmt (family : Option Af) (addr : Bytes) (addrsize : Nat) (iface : UInt32) :
    Except Errno Mgmt :=
  match family with
  | none => .error .EAFNOSUPPORT
  | some af =>
    if h : LLDPD_MGMT_MAXADDRSIZE < addrsize then .error .EOVERFLOW
    else .ok
      { mFamily := af, mAddr := addr.take addrsize, mIface := iface,
        size_le := by simp only [List.length_take]; omega }

theorem lldpdAllocMgmt_ok {af : Af} {addr : Bytes} {n : Nat} {iface : UInt32} {m : Mgmt}
    (h : lldpdAllocMgmt (some af) addr n iface = .ok m) :
    n ≤ LLDPD_MGMT_MAXADDRSIZE ∧ m.mFamily = af ∧ m.mAddr = addr.take n ∧ m.mIface = iface := by
  simp only [lldpdAllocMgmt] at h
  split at h
  · cases h
  · cases h; exact ⟨by omega, rfl, rfl, rfl⟩

theorem lldpdAllocMgmt_error {af : Af} {addr : Bytes} {n : Nat} {iface : UInt32} {e : Errno}
    (h : lldpdAllocMgmt (some af) addr n iface = .error e) : LLDPD_MGMT_MAXADDRSIZE < n := by
  simp only [lldpdAllocMgmt] at h
  split at h
  · assumption
  · cases h

/-! ## Organisationally specific data -/

/-- mirrors lldpd-structs.h:52-56 -/
structure Ppvid where
  pCapStatus : UInt8
  pPpvid : UInt16
  deriving DecidableEq, Repr

/-- mirrors lldpd-structs.h:61-65 -/
structure Vlan where
  vName : Bytes
  vVid : UInt16
  deriving DecidableEq, Repr

/-- `p_pi_len` is the length of `pPi`.
mirrors lldpd-structs.h:71-75 -/
structure Pi where
  pPi : Bytes
  deriving DecidableEq, Repr

/-- The unused `index` is left out.
mirrors lldpd-structs.h:83-91 -/
structure MedPolicy where
  type : UInt8 := 0
  unknown : UInt8 := 0
  tagged : UInt8 := 0
  vid : UInt16 := 0
  priority : UInt8 := 0
  dscp : UInt8 := 0
  deriving DecidableEq, Repr

/-- `data_len` is the length of `data`; the unused `index` is left out.
mirrors lldpd-structs.h:94-99 -/
structure MedLoc where
  format : UInt8 := 0
  data : Bytes := []
  deriving DecidableEq, Repr

/-- mirrors lldpd-structs.h:104-109 -/
structure MedPower where
  devicetype : UInt8 := 0
  source : UInt8 := 0
  priority : UInt8 := 0
  val : UInt16 := 0
  deriving DecidableEq, Repr

/-- mirrors lldpd-structs.h:114-119 -/
structure Dot3Macphy where
  autonegSupport : UInt8 := 0
  autonegEnabled : UInt8 := 0
  autonegAdvertised : UInt16 := 0
  mauType : UInt16 := 0
  deriving DecidableEq, Repr

/-- mirrors lldpd-structs.h:121-134 -/
structure Dot3Power where
  devicetype : UInt8 := 0
  supported : UInt8 := 0
  enabled : UInt8 := 0
  paircontrol : UInt8 := 0
  pairs : UInt8 := 0
  class' : UInt8 := 0
  powertype : UInt8 := 0
  source : UInt8 := 0
  priority : UInt8 := 0
  requested : UInt16 := 0
  allocated : UInt16 := 0
  deriving DecidableEq, Repr

def LLDP_MED_APPTYPE_LAST : Nat := 8
def LLDP_MED_LOCFORMAT_LAST : Nat := 3

def LLDP_MED_CAP_CAP : UInt16 := 0x01
def LLDP_MED_CAP_POLICY : UInt16 := 0x02
def LLDP_MED_CAP_LOCATION : UInt16 := 0x04
def LLDP_MED_CAP_MDI_PSE : UInt16 := 0x08
def LLDP_MED_CAP_MDI_PD : UInt16 := 0x10
def LLDP_MED_CAP_IV : UInt16 := 0x20

/-! ## Chassis and ports -/

def LLDP_CHASSISID_SUBTYPE_LLADDR : UInt8 := 4
def LLDP_CHASSISID_SUBTYPE_ADDR : UInt8 := 5
def LLDP_CHASSISID_SUBTYPE_LOCAL : UInt8 := 7
def LLDP_PORTID_SUBTYPE_IFNAME : UInt8 := 5
def LLDP_PORTID_SUBTYPE_LOCAL : UInt8 := 7

def LLDP_CAP_REPEATER : UInt16 := 0x02
def LLDP_CAP_BRIDGE : UInt16 := 0x04
def LLDP_CAP_ROUTER : UInt16 := 0x10
def LLDP_CAP_STATION : UInt16 := 0x80

/-- mirrors lldpd-structs.h:183-213 -/
structure Chassis where
  cRefcount : UInt16 := 0
  cIndex : UInt16 := 0
  cProtocol : Option Mode := none
  cIdSubtype : UInt8 := 0
  cId : Option Bytes := none
  cName : Option Bytes := none
  cDescr : Option Bytes := none
  cCapAvailable : UInt16 := 0
  cCapEnabled : UInt16 := 0
  cTtl : UInt16 := 0
  cMgmt : List Mgmt := []
  cMedCapAvailable : UInt16 := 0
  cMedType : UInt8 := 0
  cMedHw : Option Bytes := none
  cMedFw : Option Bytes := none
  cMedSw : Option Bytes := none
  cMedSn : Option Bytes := none
  cMedManuf : Option Bytes := none
  cMedModel : Option Bytes := none
  cMedAsset : Option Bytes := none
  deriving DecidableEq, Repr

/-- mirrors lldpd-structs.h:235-273 -/
structure Port where
  pChassis : Option Addr := none
  pLastchange : Int := 0
  pLastupdate : Int := 0
  pLastframe : Option Bytes := none
  pProtocol : Option Mode := none
  pHiddenIn : Bool := false
  pHiddenOut : Bool := false
  pIdSubtype : UInt8 := 0
  pId : Option Bytes := none
  pDescr : Option Bytes := none
  pMfs : UInt16 := 0
  pAggregid : UInt32 := 0
  pMacphy : Dot3Macphy := {}
  pPower : Dot3Power := {}
  pMedCapEnabled : UInt16 := 0
  pMedPolicy : Vector MedPolicy LLDP_MED_APPTYPE_LAST := .replicate _ {}
  pMedLocation : Vector MedLoc LLDP_MED_LOCFORMAT_LAST := .replicate _ {}
  pMedPower : MedPower := {}
  pPvid : UInt16 := 0
  pVlans : List Vlan := []
  pPpvids : List Ppvid := []
  pPids : List Pi := []
  deriving DecidableEq, Repr

/-! ## Configuration and interfaces -/

/-- `LLDP_BOND_SLAVE_SRC_MAC_TYPE_*`.
mirrors lldp-const.h:222-226 -/
inductive BondSlaveSrcMac where
  | unknown | real | zero | fixed | locallyAdministered
  deriving DecidableEq, Repr

/-- The part of `lldpd_config` that emission and reception read. The
`c_lldp_tlv_*_enable` flags exist in the OVSDB build only.
mirrors lldpd-structs.h:332-375 -/
structure Config where
  cTxInterval : Int := 30
  cTxHold : Int := 4
  cMaxNeighbors : Int := 0
  cSmart : UInt32 := 0
  cPaused : Bool := false
  cIsAnyProtocolEnabled : Bool := false
  cEnableFastStart : Bool := false
  cTxFastInit : Int := 0
  cNoinventory : Bool := false
  cPlatform : Option Bytes := none
  cBondSlaveSrcMacType : BondSlaveSrcMac := .unknown
  cLldpTlvSysNameEnable : Bool := true
  cLldpTlvSysCapEnable : Bool := true
  cLldpTlvSysDescEnable : Bool := true
  cLldpTlvMgmtAddrEnable : Bool := true
  cLldpTlvPortDescEnable : Bool := true
  cLldpTlvPortVlanidEnable : Bool := true
  cLldpTlvPortProtoVlanidEnable : Bool := true
  cLldpTlvPortVlanNameEnable : Bool := true
  cLldpTlvPortProtoIdEnable : Bool := true
  deriving DecidableEq, Repr

def Config.ttl (cfg : Config) : UInt16 := UInt16.ofNat (cfg.cTxInterval * cfg.cTxHold % 65536).toNat

/-- `LLDPD_AF_NBR_*`, what the OVSDB thread has to do with the neighbors of
an interface. -/
inductive NbrOpcode where
  | noop | add | del | mod | upd
  deriving DecidableEq, Repr

/-- mirrors lldpd-structs.h:397-402 -/
inductive HardwareEnableDir where
  | off | rx | tx | rxtx
  deriving DecidableEq, Repr

inductive LinkState where
  | down | up
  deriving DecidableEq, Repr

abbrev Lladdr := Buffer 6

def Lladdr.zero : Lladdr := ⟨[0, 0, 0, 0, 0, 0], rfl⟩

/-- File descriptors, timers and the name are left out. `hEnableDir`,
`hLinkState` and `hRportChangeOpcode` exist in the OVSDB build only.
mirrors lldpd-structs.h:415-453 -/
structure Hardware where
  hMangle : Bool := false
  hMtu : Nat := 0
  hFlags : Nat := 0
  hLladdr : Lladdr := .zero
  hTxCnt : UInt64 := 0
  hRxCnt : UInt64 := 0
  hRxDiscardedCnt : UInt64 := 0
  hRxUnrecognizedCnt : UInt64 := 0
  hAgeoutCnt : UInt64 := 0
  hInsertCnt : UInt64 := 0
  hDeleteCnt : UInt64 := 0
  hDropCnt : UInt64 := 0
  hLport : Port := {}
  hRports : List Port := []
  hTxFast : Int := 0
  hEnableDir : HardwareEnableDir := .off
  hLinkState : LinkState := .down
  hRportChangeOpcode : NbrOpcode := .noop
  deriving DecidableEq, Repr

end Lldpd
