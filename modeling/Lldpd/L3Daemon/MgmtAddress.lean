import Lldpd.L1Data.Structs
import Lldpd.L3Daemon.Pattern

/-!
# The management addresses of the local chassis

`interfaces_helper_mgmt` chooses, among the addresses of the system, those that the
daemon announces. The pattern of the configuration is an address, or a list of
patterns for the text of an address. A list in which every element starts with
`!` only excludes addresses, and then one address of each family is taken; whether
it is such a list is found out by walking over the commas.

* `allnegative_iff`: the walk, against the elements of the list;
* `mgmtLoop_eq`: the loop over the addresses of one family;
* `interfacesHelperMgmt_selects`: what is announced.

`fnmatch`, `inet_pton` and `inet_ntop` are parameters. The build is the one without OVSDB.
-/
namespace Lldpd.MgmtAddress
open Lldpd.Core Lldpd.Pattern

/-- The functions of the C library that are called. -/
structure Libc where
  fnmatch : Text → Text → Bool
  inetPton : Af → Text → Option Bytes
  inetNtop : Af → Bytes → Option Text

def addrSize : Af → Nat
  | .ipv4 => 4
  | .ipv6 => 16

def families : List Af := [.ipv4, .ipv6]

/-- An address of the system. It may be of a family that `lldpd` does not know.
mirrors lldpd.h:354-362 -/
structure InterfacesAddress where
  family : Option Af
  addr : Bytes
  index : UInt32
  size : ∀ af ∈ family, addr.length = addrSize af

/-- `IN_IS_ADDR_GLOBAL` and `IN6_IS_ADDR_GLOBAL`: `127.0.0.1` and `0.0.0.0` are not,
`::1` and the link-local addresses `fe80::/10` are not.
mirrors interfaces.c:358-370 -/
def isAddrGlobal (af : Af) (addr : Bytes) : Bool :=
  match af with
  | .ipv4 => addr ≠ [127, 0, 0, 1] && addr ≠ [0, 0, 0, 0]
  | .ipv6 => addr ≠ List.replicate 15 0 ++ [1] &&
    !(addr.getD 0 0 == 0xfe && addr.getD 1 0 &&& 0xc0 == 0x80)

/-- `while ((sep = strchr(sep, ',')) && (*(++sep) == '!'));`: whether `sep` is `NULL`
in the end.
mirrors interfaces.c:440-442 -/
def sepIsNull : Text → Bool
  | [] => true
  | c :: sep => if c = ',' then sep[0]? = some '!' && sepIsNull sep else sepIsNull sep

/-- mirrors interfaces.c:434-443 -/
def allnegative : Option Text → Bool
  | none => true
  | some pattern => pattern[0]? = some '!' && sepIsNull pattern

section Helper
variable (lib : Libc) (cMgmtPattern : Option Text)

/-- The loop over the addresses, for one family. `allneg` is `allnegative`. A
failed `lldpd_alloc_mgmt` that is not for want of memory fails the assertion.
mirrors interfaces.c:451-492 -/
def mgmtLoop (allneg : Bool) (af : Af) :
    List InterfacesAddress → List Mgmt → Except Fault (List Mgmt)
  | [], cMgmt => .ok cMgmt
  | addr :: addrs, cMgmt =>
    if addr.family ≠ some af then mgmtLoop allneg af addrs cMgmt
    else if !isAddrGlobal af addr.addr then mgmtLoop allneg af addrs cMgmt
    else
      match lib.inetNtop af addr.addr with
      | none => mgmtLoop allneg af addrs cMgmt
      | some addrstrbuf =>
        if cMgmtPattern.all fun pattern =>
            patternMatch lib.fnmatch addrstrbuf pattern (if allneg then 1 else 0) ≠ 0 then
          match lldpdAllocMgmt (some af) addr.addr (addrSize af) addr.index with
          | .error _ => .error .assertion
          | .ok mgmt =>
            if allneg then .ok (cMgmt ++ [mgmt]) else mgmtLoop allneg af addrs (cMgmt ++ [mgmt])
        else mgmtLoop allneg af addrs cMgmt

def isExact (pattern : Text) : Bool := pattern.all fun c => c ∉ ['!', ',', '*', '?']

/-- The address that is the pattern: the first family whose `inet_pton` takes it.
mirrors interfaces.c:402-431 -/
def exactMgmt (pattern : Text) : List Mgmt :=
  match families.findSome? fun af => (lib.inetPton af pattern).map (af, ·) with
  | none => []
  | some (af, addr) =>
    match lldpdAllocMgmt (some af) addr (addrSize af) 0 with
    | .error _ => []
    | .ok mgmt => [mgmt]

/-- `interfaces_helper_mgmt`.
mirrors interfaces.c:377-495 -/
def interfacesHelperMgmt (addrs : List InterfacesAddress) (chassis : Chassis) :
    Except Fault Chassis :=
  -- lldpd_chassis_mgmt_cleanup
  let chassis := { chassis with cMgmt := [] }
  if cMgmtPattern.any isExact then
    .ok { chassis with cMgmt := exactMgmt lib (cMgmtPattern.getD []) }
  else do
    let cMgmt ← families.foldlM
      (fun cMgmt af => mgmtLoop lib cMgmtPattern (allnegative cMgmtPattern) af addrs cMgmt)
      chassis.cMgmt
    return { chassis with cMgmt := cMgmt }

end Helper

/-! ## The walk over the commas -/

/-- The pieces between the commas, the first one apart. -/
theorem splitOn_cons (t : Text) : ∃ first rest, t.splitOn ',' = first :: rest ∧
    (first[0]? = some '!' ↔ t[0]? = some '!') := by
  cases t with
  | nil => exact ⟨[], [], List.splitOn_nil ',', by simp⟩
  | cons c t =>
    rw [List.splitOn_cons_eq_if_modifyHead]
    by_cases hc : c = ','
    · subst hc
      exact ⟨[], t.splitOn ',', rfl, by simp⟩
    · obtain ⟨first, rest, hsplit⟩ := List.exists_cons_of_ne_nil (List.splitOn_ne_nil ',' t)
      exact ⟨c :: first, rest, by simp [hc, hsplit], by simp⟩

/-- The loop asks for a `!` behind each comma. -/
theorem sepIsNull_iff (t : Text) : sepIsNull t ↔ ∀ e ∈ (t.splitOn ',').tail, e[0]? = some '!' := by
  induction t with
  | nil => simp [sepIsNull]
  | cons c t ih =>
    obtain ⟨first, rest, hsplit, hfirst⟩ := splitOn_cons t
    rw [hsplit] at ih
    rw [sepIsNull, List.splitOn_cons_eq_if_modifyHead, hsplit]
    by_cases hc : c = ','
    · simp [hc, ih, hfirst]
    · simp [hc, ih]

/-- **All negative**: every element starts with `!`. -/
theorem allnegative_iff (pattern : Text) :
    allnegative (some pattern) ↔ ∀ e ∈ pattern.splitOn ',', e[0]? = some '!' := by
  obtain ⟨first, rest, hsplit, hfirst⟩ := splitOn_cons pattern
  have hnull := sepIsNull_iff pattern
  rw [hsplit] at hnull ⊢
  simp [allnegative, hnull, hfirst]

/-! ## The choice -/

section Choice
variable (lib : Libc) (cMgmtPattern : Option Text)

def accepted (af : Af) (addr : Bytes) : Bool :=
  (lib.inetNtop af addr).any fun addrstrbuf => cMgmtPattern.all fun pattern =>
    patternMatch lib.fnmatch addrstrbuf pattern (if allnegative cMgmtPattern then 1 else 0) ≠ 0

def mgmtOf (af : Af) (addr : Bytes) (index : UInt32) : Mgmt where
  mFamily := af
  mAddr := addr.take (addrSize af)
  mIface := index
  size_le := by
    rw [List.length_take, LLDPD_MGMT_MAXADDRSIZE]
    cases af <;> simp only [addrSize] <;> omega

def eligible (af : Af) (addr : InterfacesAddress) : Bool :=
  addr.family = some af && isAddrGlobal af addr.addr && accepted lib cMgmtPattern af addr.addr

def candidates (addrs : List InterfacesAddress) (af : Af) : List Mgmt :=
  (addrs.filter (eligible lib cMgmtPattern af)).map fun addr => mgmtOf af addr.addr addr.index

variable {lib cMgmtPattern}

theorem allocMgmt_eq (af : Af) (addr : Bytes) (index : UInt32) :
    lldpdAllocMgmt (some af) addr (addrSize af) index = .ok (mgmtOf af addr index) := by
  cases af <;> rfl

theorem mgmtLoop_cons (af : Af) (addr : InterfacesAddress) (addrs : List InterfacesAddress)
    (cMgmt : List Mgmt) :
    mgmtLoop lib cMgmtPattern (allnegative cMgmtPattern) af (addr :: addrs) cMgmt =
      if eligible lib cMgmtPattern af addr then
        if allnegative cMgmtPattern then .ok (cMgmt ++ [mgmtOf af addr.addr addr.index])
        else mgmtLoop lib cMgmtPattern (allnegative cMgmtPattern) af addrs
          (cMgmt ++ [mgmtOf af addr.addr addr.index])
      else mgmtLoop lib cMgmtPattern (allnegative cMgmtPattern) af addrs cMgmt := by
  rw [mgmtLoop, allocMgmt_eq]
  unfold eligible accepted
  by_cases hf : addr.family = some af
  · by_cases hg : isAddrGlobal af addr.addr
    · cases hn : lib.inetNtop af addr.addr with
      | none => simp [hf, hg]
      | some addrstrbuf => simp [hf, hg]
    · simp [hg]
  · simp [hf]

/-- The loop stops behind the first address when all elements are negative. -/
theorem mgmtLoop_eq (af : Af) (addrs : List InterfacesAddress) (cMgmt : List Mgmt) :
    mgmtLoop lib cMgmtPattern (allnegative cMgmtPattern) af addrs cMgmt =
      .ok (cMgmt ++ if allnegative cMgmtPattern then (candidates lib cMgmtPattern addrs af).take 1
        else candidates lib cMgmtPattern addrs af) := by
  induction addrs generalizing cMgmt with
  | nil => simp [mgmtLoop, candidates]
  | cons addr addrs ih =>
    rw [mgmtLoop_cons]
    by_cases he : eligible lib cMgmtPattern af addr
    · have hcons : candidates lib cMgmtPattern (addr :: addrs) af =
          mgmtOf af addr.addr addr.index :: candidates lib cMgmtPattern addrs af := by
        simp [candidates, he]
      rw [if_pos he, hcons]
      by_cases hneg : allnegative cMgmtPattern
      · simp [hneg]
      · rw [ih]
        simp [hneg]
    · have hskip : candidates lib cMgmtPattern (addr :: addrs) af =
          candidates lib cMgmtPattern addrs af := by
        simp [candidates, he]
      rw [if_neg he, hskip]
      exact ih cMgmt

end Choice

def writtenMgmt (lib : Libc) (pattern : Text) : List Mgmt :=
  match lib.inetPton .ipv4 pattern, lib.inetPton .ipv6 pattern with
  | some addr, _ => [mgmtOf .ipv4 addr 0]
  | none, some addr => [mgmtOf .ipv6 addr 0]
  | none, none => []

theorem exactMgmt_eq (lib : Libc) (pattern : Text) :
    exactMgmt lib pattern = writtenMgmt lib pattern := by
  unfold exactMgmt writtenMgmt families
  cases h4 : lib.inetPton .ipv4 pattern with
  | some addr => simp [h4, allocMgmt_eq]
  | none =>
    cases h6 : lib.inetPton .ipv6 pattern with
    | some addr => simp [h4, h6, allocMgmt_eq]
    | none => simp [h4, h6]

theorem interfacesHelperMgmt_eq (lib : Libc) (cMgmtPattern : Option Text)
    (addrs : List InterfacesAddress) (chassis : Chassis) :
    let cMgmt :=
      if cMgmtPattern.any isExact then writtenMgmt lib (cMgmtPattern.getD [])
      else if allnegative cMgmtPattern then
        (candidates lib cMgmtPattern addrs .ipv4).take 1 ++
          (candidates lib cMgmtPattern addrs .ipv6).take 1
      else candidates lib cMgmtPattern addrs .ipv4 ++ candidates lib cMgmtPattern addrs .ipv6
    interfacesHelperMgmt lib cMgmtPattern addrs chassis = .ok { chassis with cMgmt := cMgmt } := by
  intro cMgmt
  unfold interfacesHelperMgmt
  simp only [cMgmt]
  split
  · rw [exactMgmt_eq]
  · simp only [families, List.foldlM_cons, List.foldlM_nil, mgmtLoop_eq, List.nil_append]
    split
    · rfl
    · rfl

def selected (lib : Libc) (cMgmtPattern : Option Text) (addrs : List InterfacesAddress) : List Mgmt :=
  let one (af : Af) := (candidates lib cMgmtPattern addrs af).take 1
  match cMgmtPattern with
  | none => one .ipv4 ++ one .ipv6
  | some pattern =>
    if isExact pattern then writtenMgmt lib pattern
    else if (tokens pattern).all fun e => e[0]? = some '!' then one .ipv4 ++ one .ipv6
    else candidates lib cMgmtPattern addrs .ipv4 ++ candidates lib cMgmtPattern addrs .ipv6

/-- **The management addresses**: the one that is the pattern; otherwise one of each family, or
all, of the global addresses that are accepted, IPv4 in front of IPv6 and in the order of the
system. -/
theorem interfacesHelperMgmt_selects (lib : Libc) (cMgmtPattern : Option Text)
    (hp : ∀ pattern ∈ cMgmtPattern, pattern ≠ [] → [] ∉ pattern.splitOn ',')
    (addrs : List InterfacesAddress) (chassis : Chassis) :
    interfacesHelperMgmt lib cMgmtPattern addrs chassis =
      .ok { chassis with cMgmt := selected lib cMgmtPattern addrs } := by
  rw [interfacesHelperMgmt_eq]
  cases cMgmtPattern with
  | none => rfl
  | some pattern =>
    simp only [selected, Option.any_some, Option.getD_some]
    by_cases hexact : isExact pattern
    · rw [if_pos hexact, if_pos hexact]
    · have hne : pattern ≠ [] := fun hnil => hexact (by rw [hnil]; rfl)
      have htokens : tokens pattern = pattern.splitOn ',' := by
        refine List.filter_eq_self.2 fun e he => ?_
        have hempty : e ≠ [] := fun hnil => hp pattern rfl hne (hnil ▸ he)
        simpa using hempty
      have hneg : ((tokens pattern).all fun e => e[0]? = some '!') = allnegative (some pattern) := by
        rw [Bool.eq_iff_iff, allnegative_iff, htokens]
        simp
      rw [if_neg hexact, if_neg hexact, hneg]

/-- The pattern `!10.*` and the addresses 10.0.0.1, 192.0.2.1 and 192.0.2.2. -/
theorem interfacesHelperMgmt_selects_first :
    let dotted (addr : Bytes) : Text :=
      List.intercalate ['.'] (addr.map fun b => Nat.toDigits 10 b.toNat)
    let lib : Libc := ⟨glob, fun _ _ => none, fun _ addr => some (dotted addr)⟩
    let addrs : List InterfacesAddress := [
      ⟨some .ipv4, [10, 0, 0, 1], 1, fun _ h => by cases h; rfl⟩,
      ⟨some .ipv4, [192, 0, 2, 1], 2, fun _ h => by cases h; rfl⟩,
      ⟨some .ipv4, [192, 0, 2, 2], 3, fun _ h => by cases h; rfl⟩]
    interfacesHelperMgmt lib (some ['!', '1', '0', '.', '*']) addrs {} =
      .ok { cMgmt := [mgmtOf .ipv4 [192, 0, 2, 1] 2] } := by
  intro dotted lib addrs
  have hselected : selected lib (some ['!', '1', '0', '.', '*']) addrs =
      [mgmtOf .ipv4 [192, 0, 2, 1] 2] := by decide
  rw [interfacesHelperMgmt_selects lib _ (fun p hp _ => by cases hp; decide) addrs, hselected]

end Lldpd.MgmtAddress
