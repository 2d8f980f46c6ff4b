import Lldpd.Core.Text
import Lldpd.L2Proto.Lldp.Decode
import Lldpd.L4Control.Server

/-!
# `SET_PORT` (`client_handle_set_port`)

A client may ask to change four settings of one local port: a policy, a location
and the power of LLDP-MED, and the power of 802.3. The handler checks each one
just before it applies it. A request that is refused for its location has changed
the policy by then (`HalfDone`); every other request is carried out as a whole, on
the port it names, or not at all (`setPort_allOrNothing`).
-/
namespace Lldpd.Control
open Core

/-- `struct lldpd_port_set`. A pointer that is NULL is `none`.
mirrors lldpd-structs.h:293-303 -/
structure PortSet where
  ifname : Option Text := none
  medPolicy : Option MedPolicy := none
  medLocation : Option MedLoc := none
  medPower : Option MedPower := none
  dot3Power : Option Dot3Power := none
  deriving DecidableEq, Repr

/-- An interface: `h_ifname` and `h_lport`. -/
abbrev LocalPort := Text × Port

/-! ## The handler -/

def withPolicy (policy : MedPolicy) (port : Port) : Port :=
  { port with
    pMedPolicy := port.pMedPolicy.setIfInBounds (policy.type.toNat - 1) policy
    pMedCapEnabled := port.pMedCapEnabled ||| LLDP_MED_CAP_POLICY }

/-- The location is copied to its place, with its data. -/
def withLocation (loc : MedLoc) (port : Port) : Port :=
  { port with
    pMedLocation := port.pMedLocation.setIfInBounds (loc.format.toNat - 1) loc
    pMedCapEnabled := port.pMedCapEnabled ||| LLDP_MED_CAP_LOCATION }

/-- The policy of a request; `none` is a type that does not exist.
mirrors client.c:298-308 -/
def setPolicy (set : PortSet) (port : Port) : Option Port :=
  match set.medPolicy with
  | none => some port
  | some policy =>
    if policy.type = 0 then some port
    else if LLDP_MED_APPTYPE_LAST < policy.type.toNat then none
    else some (withPolicy policy port)

/-- The location of a request; `none` is a format that does not exist.
mirrors client.c:309-325 -/
def setLocation (set : PortSet) (port : Port) : Option Port :=
  match set.medLocation with
  | none => some port
  | some loc =>
    if loc.format = 0 then some port
    else if LLDP_MED_LOCFORMAT_LAST < loc.format.toNat then none
    else some (withLocation loc port)

def powerCaps (devicetype : UInt8) (caps : UInt16) : UInt16 :=
  if devicetype = Lldp.LLDP_MED_POW_TYPE_PD then
    (caps ||| LLDP_MED_CAP_MDI_PD) &&& ~~~LLDP_MED_CAP_MDI_PSE
  else if devicetype = Lldp.LLDP_MED_POW_TYPE_PSE then
    (caps ||| LLDP_MED_CAP_MDI_PSE) &&& ~~~LLDP_MED_CAP_MDI_PD
  else caps

/-- mirrors client.c:326-340 -/
def setMedPower (set : PortSet) (port : Port) : Port :=
  match set.medPower with
  | none => port
  | some power =>
    { port with
      pMedPower := power
      pMedCapEnabled := powerCaps power.devicetype port.pMedCapEnabled }

/-- mirrors client.c:342-348 -/
def setDot3Power (b : Build) (set : PortSet) (port : Port) : Port :=
  match set.dot3Power with
  | none => port
  | some power => if b.dot3 then { port with pPower := power } else port

/-- The body of the loop: the port as it is left, and `ret`.
mirrors client.c:295-350 -/
def setSettings (b : Build) (set : PortSet) (port : Port) : Port × Bool :=
  if b.lldpmed then
    match setPolicy set port with
    | none => (port, false)
    | some port =>
      match setLocation set port with
      | none => (port, false)
      | some port => (setDot3Power b set (setMedPower set port), true)
  else (setDot3Power b set port, true)

/-- The loop over the interfaces ends at the first one with the name.
mirrors client.c:293-351 -/
def setNamed (b : Build) (set : PortSet) (name : Text) : List LocalPort → List LocalPort × Bool
  | [] => ([], false)
  | (hIfname, port) :: rest =>
    if hIfname = name then
      let (port, ret) := setSettings b set port
      ((hIfname, port) :: rest, ret)
    else
      let (rest, ret) := setNamed b set name rest
      ((hIfname, port) :: rest, ret)

/-- `client_handle_set_port`, behind `lldpd_port_set_unserialize`. `false` is `NONE`.
mirrors client.c:271-369 -/
def clientHandleSetPort (b : Build) (set : Option PortSet) (gHardware : List LocalPort) :
    List LocalPort × Bool :=
  match set with
  | none => (gHardware, false)
  | some set =>
    match set.ifname with
    | none => (gHardware, false)
    | some name => setNamed b set name gHardware

/-! ## What a request asks for -/

def requestedCaps (b : Build) (set : PortSet) (caps : UInt16) : UInt16 :=
  if !b.lldpmed then caps
  else
    let caps := if set.medPolicy.any (·.type ≠ 0) then caps ||| LLDP_MED_CAP_POLICY else caps
    let caps := if set.medLocation.any (·.format ≠ 0) then caps ||| LLDP_MED_CAP_LOCATION else caps
    (set.medPower.map fun power => powerCaps power.devicetype caps).getD caps

structure Requested (b : Build) (set : PortSet) (port port' : Port) : Prop where
  policy : ∀ i : Fin LLDP_MED_APPTYPE_LAST, port'.pMedPolicy.get i =
    (set.medPolicy.filter fun policy => b.lldpmed && policy.type.toNat == i.val + 1).getD
      (port.pMedPolicy.get i)
  location : ∀ i : Fin LLDP_MED_LOCFORMAT_LAST, port'.pMedLocation.get i =
    (set.medLocation.filter fun loc => b.lldpmed && loc.format.toNat == i.val + 1).getD
      (port.pMedLocation.get i)
  medPower : port'.pMedPower = (set.medPower.filter fun _ => b.lldpmed).getD port.pMedPower
  dot3Power : port'.pPower = (set.dot3Power.filter fun _ => b.dot3).getD port.pPower
  caps : port'.pMedCapEnabled = requestedCaps b set port.pMedCapEnabled
  others : { port' with
    pMedPolicy := port.pMedPolicy
    pMedLocation := port.pMedLocation
    pMedPower := port.pMedPower
    pPower := port.pPower
    pMedCapEnabled := port.pMedCapEnabled } = port

/-- The answer `NONE` leaves everything, the answer `SET_PORT` has changed the named port as
the request asks. -/
structure AllOrNothing (b : Build) (request : Option PortSet) (before after : List LocalPort)
    (answer : HmsgType) : Prop where
  answered : answer = .none ∨ answer = .setPort
  nothing : answer = .none → after = before
  all : answer = .setPort → ∃ set name xs port port' ys, request = some set ∧
    set.ifname = some name ∧ before = xs ++ (name, port) :: ys ∧ (∀ x ∈ xs, x.1 ≠ name) ∧
    after = xs ++ (name, port') :: ys ∧ Requested b set port port'

def HalfDone (b : Build) (request : Option PortSet) (before : List LocalPort) : Prop :=
  b.lldpmed = true ∧ ∃ set name policy loc port, request = some set ∧ set.ifname = some name ∧
    set.medPolicy = some policy ∧ policy.type ≠ 0 ∧ policy.type.toNat ≤ LLDP_MED_APPTYPE_LAST ∧
    set.medLocation = some loc ∧ LLDP_MED_LOCFORMAT_LAST < loc.format.toNat ∧
    before.lookup name = some port ∧ withPolicy policy port ≠ port

/-! ## The settings -/

section Settings
variable {b : Build} {set : PortSet} {port : Port}

/-- A location is refused when its format is behind the last one. -/
theorem setLocation_eq_none : setLocation set port = none ↔
    ∃ loc, set.medLocation = some loc ∧ LLDP_MED_LOCFORMAT_LAST < loc.format.toNat := by
  unfold setLocation
  cases set.medLocation with
  | none => simp
  | some loc =>
    by_cases hzero : loc.format = 0
    · simp [hzero]
    · simp [hzero]

theorem filter_true {α : Type} (o : Option α) : (o.filter fun _ => true) = o := by
  cases o with
  | none => rfl
  | some x => rfl

/-- An element is replaced by the one that is asked for. -/
theorem get_replaced {α : Type} {n : Nat} (v : Vector α n) (x : α) {k : Nat} (hk : k ≠ 0)
    (i : Fin n) : (v.setIfInBounds (k - 1) x).get i =
      ((some x).filter fun _ => k == i.val + 1).getD (v.get i) := by
  have hget (u : Vector α n) : u.get i = u[i.val] := rfl
  rw [hget, Vector.getElem_setIfInBounds, Option.filter_some]
  by_cases hi : k = i.val + 1
  · rw [if_pos (by omega), if_pos (by simp [hi])]
    rfl
  · rw [if_neg (by omega), if_neg (by simp [hi])]
    rfl

theorem setPolicy_some {port' : Port} (h : setPolicy set port = some port') :
    ∃ policies, port' = { port with
        pMedPolicy := policies
        pMedCapEnabled := if set.medPolicy.any (·.type ≠ 0) then
          port.pMedCapEnabled ||| LLDP_MED_CAP_POLICY else port.pMedCapEnabled } ∧
      ∀ i : Fin LLDP_MED_APPTYPE_LAST, policies.get i =
        (set.medPolicy.filter fun policy => policy.type.toNat == i.val + 1).getD
          (port.pMedPolicy.get i) := by
  unfold setPolicy at h
  cases hset : set.medPolicy with
  | none =>
    rw [hset] at h
    cases h
    exact ⟨port.pMedPolicy, rfl, fun i => rfl⟩
  | some policy =>
    rw [hset] at h
    dsimp only at h
    split at h
    · rename_i hzero
      cases h
      refine ⟨port.pMedPolicy, by simp [hzero], fun i => ?_⟩
      rw [Option.filter_some, if_neg (by simp [hzero])]
      rfl
    · rename_i hne
      split at h
      · cases h
      · cases h
        refine ⟨port.pMedPolicy.setIfInBounds (policy.type.toNat - 1) policy, by simp [withPolicy, hne],
          fun i => ?_⟩
        have hk : policy.type.toNat ≠ 0 := fun hk => hne (UInt8.toNat_inj.1 hk)
        rw [get_replaced _ _ hk, Option.filter_some, Option.filter_some]

theorem setLocation_some {port' : Port} (h : setLocation set port = some port') :
    ∃ locations, port' = { port with
        pMedLocation := locations
        pMedCapEnabled := if set.medLocation.any (·.format ≠ 0) then
          port.pMedCapEnabled ||| LLDP_MED_CAP_LOCATION else port.pMedCapEnabled } ∧
      ∀ i : Fin LLDP_MED_LOCFORMAT_LAST, locations.get i =
        (set.medLocation.filter fun loc => loc.format.toNat == i.val + 1).getD
          (port.pMedLocation.get i) := by
  unfold setLocation at h
  cases hset : set.medLocation with
  | none =>
    rw [hset] at h
    cases h
    exact ⟨port.pMedLocation, rfl, fun i => rfl⟩
  | some loc =>
    rw [hset] at h
    dsimp only at h
    split at h
    · rename_i hzero
      cases h
      refine ⟨port.pMedLocation, by simp [hzero], fun i => ?_⟩
      rw [Option.filter_some, if_neg (by simp [hzero])]
      rfl
    · rename_i hne
      split at h
      · cases h
      · cases h
        refine ⟨port.pMedLocation.setIfInBounds (loc.format.toNat - 1) loc, by simp [withLocation, hne],
          fun i => ?_⟩
        have hk : loc.format.toNat ≠ 0 := fun hk => hne (UInt8.toNat_inj.1 hk)
        rw [get_replaced _ _ hk, Option.filter_some, Option.filter_some]

theorem setMedPower_eq (set : PortSet) (port : Port) : setMedPower set port =
    { port with
      pMedPower := set.medPower.getD port.pMedPower
      pMedCapEnabled := (set.medPower.map fun power =>
        powerCaps power.devicetype port.pMedCapEnabled).getD port.pMedCapEnabled } := by
  unfold setMedPower
  cases set.medPower with
  | none => rfl
  | some power => rfl

theorem setDot3Power_eq (b : Build) (set : PortSet) (port : Port) : setDot3Power b set port =
    { port with pPower := (set.dot3Power.filter fun _ => b.dot3).getD port.pPower } := by
  unfold setDot3Power
  cases set.dot3Power with
  | none => rfl
  | some power =>
    cases b.dot3 with
    | true => rfl
    | false => rfl

theorem setSettings_requested (h : (setSettings b set port).2 = true) :
    Requested b set port (setSettings b set port).1 := by
  unfold setSettings at h ⊢
  cases hb : b.lldpmed with
  | false =>
    rw [setDot3Power_eq]
    constructor
    · simp [hb]
    · simp [hb]
    · simp [hb]
    · rfl
    · simp [requestedCaps, hb]
    · rfl
  | true =>
    rw [hb] at h
    rw [if_pos rfl]
    cases hpolicy : setPolicy set port with
    | none =>
      rw [hpolicy] at h
      cases h
    | some port1 =>
      rw [hpolicy] at h
      dsimp only at h ⊢
      cases hlocation : setLocation set port1 with
      | none =>
        rw [hlocation] at h
        cases h
      | some port2 =>
        obtain ⟨policies, rfl, hpolicies⟩ := setPolicy_some hpolicy
        obtain ⟨locations, rfl, hlocations⟩ := setLocation_some hlocation
        dsimp only
        rw [setMedPower_eq, setDot3Power_eq]
        constructor
        · simpa [hb] using hpolicies
        · simpa [hb] using hlocations
        · rw [hb, filter_true]
        · rfl
        · simp [requestedCaps, hb]
        · rfl

/-- A request that is refused has not changed the port, or its policy has. -/
theorem setSettings_refused (h : (setSettings b set port).2 = false) : b.lldpmed = true ∧
    ((setSettings b set port).1 = port ∨ ∃ policy loc, set.medPolicy = some policy ∧ policy.type ≠ 0 ∧
      policy.type.toNat ≤ LLDP_MED_APPTYPE_LAST ∧ set.medLocation = some loc ∧
      LLDP_MED_LOCFORMAT_LAST < loc.format.toNat ∧
      (setSettings b set port).1 = withPolicy policy port) := by
  unfold setSettings at h ⊢
  cases hb : b.lldpmed with
  | false =>
    rw [hb] at h
    cases h
  | true =>
    refine ⟨rfl, ?_⟩
    rw [hb] at h
    cases hpolicy : setPolicy set port with
    | none => exact .inl rfl
    | some port1 =>
      rw [hpolicy] at h
      dsimp only at h ⊢
      cases hlocation : setLocation set port1 with
      | some port2 =>
        rw [hlocation] at h
        cases h
      | none =>
        obtain ⟨loc, hloc, hformat⟩ := setLocation_eq_none.1 hlocation
        unfold setPolicy at hpolicy
        cases hset : set.medPolicy with
        | none =>
          rw [hset] at hpolicy
          cases hpolicy
          exact .inl rfl
        | some policy =>
          rw [hset] at hpolicy
          dsimp only at hpolicy
          split at hpolicy
          · cases hpolicy
            exact .inl rfl
          · rename_i hne
            split at hpolicy
            · cases hpolicy
            · rename_i hlast
              cases hpolicy
              exact .inr ⟨policy, loc, rfl, hne, Nat.not_lt.1 hlast, hloc, hformat, rfl⟩

/-- And a policy in front of a location that is refused is applied. -/
theorem setSettings_halfDone {policy : MedPolicy} {loc : MedLoc} (hb : b.lldpmed = true)
    (hpolicy : set.medPolicy = some policy) (hne : policy.type ≠ 0)
    (hlast : policy.type.toNat ≤ LLDP_MED_APPTYPE_LAST) (hloc : set.medLocation = some loc)
    (hformat : LLDP_MED_LOCFORMAT_LAST < loc.format.toNat) (port : Port) :
    setSettings b set port = (withPolicy policy port, false) := by
  have hfirst : setPolicy set port = some (withPolicy policy port) := by
    rw [setPolicy, hpolicy]
    dsimp only
    rw [if_neg hne, if_neg (Nat.not_lt.2 hlast)]
  have hsecond : setLocation set (withPolicy policy port) = none :=
    setLocation_eq_none.2 ⟨loc, hloc, hformat⟩
  rw [setSettings, if_pos hb, hfirst]
  dsimp only
  rw [hsecond]

end Settings

/-! ## The ports -/

section Ports
variable {b : Build} {set : PortSet} {name : Text} {ports : List LocalPort} {port : Port}

theorem setNamed_of_none (h : ports.lookup name = none) :
    setNamed b set name ports = (ports, false) := by
  induction ports with
  | nil => rfl
  | cons p ports ih =>
    obtain ⟨hIfname, port⟩ := p
    rw [List.lookup_cons] at h
    split at h
    · cases h
    · rename_i hne
      have hname : ¬ hIfname = name := by
        rintro rfl
        simp at hne
      rw [setNamed, if_neg hname, ih h]

theorem setNamed_of_some (b : Build) (set : PortSet) (h : ports.lookup name = some port) : ∃ xs ys,
    ports = xs ++ (name, port) :: ys ∧ (∀ x ∈ xs, x.1 ≠ name) ∧
    setNamed b set name ports =
      (xs ++ (name, (setSettings b set port).1) :: ys, (setSettings b set port).2) := by
  induction ports with
  | nil => cases h
  | cons p ports ih =>
    obtain ⟨hIfname, port0⟩ := p
    rw [List.lookup_cons] at h
    split at h
    · rename_i heq
      cases h
      cases eq_of_beq heq
      refine ⟨[], ports, rfl, fun x hx => absurd hx List.not_mem_nil, ?_⟩
      rw [setNamed, if_pos rfl]
      rfl
    · rename_i hne
      have hname : ¬ hIfname = name := by
        rintro rfl
        simp at hne
      obtain ⟨xs, ys, hports, hxs, hset⟩ := ih h
      refine ⟨(hIfname, port0) :: xs, ys, by rw [hports]; rfl, ?_, ?_⟩
      · intro x hx
        rcases List.mem_cons.1 hx with rfl | hx
        · exact hname
        · exact hxs x hx
      · rw [setNamed, if_neg hname, hset]
        rfl

theorem allOrNothing_refused (b : Build) (request : Option PortSet) (ports : List LocalPort) :
    AllOrNothing b request ports ports (replyDone .setPort false).1 :=
  ⟨.inl rfl, fun _ => rfl, fun h => HmsgType.noConfusion h⟩

/-- **A request is carried out as a whole or not at all**, except for a policy in front of
a location that is refused. -/
theorem setPort_allOrNothing (b : Build) (request : Option PortSet) (ports : List LocalPort) :
    AllOrNothing b request ports (clientHandleSetPort b request ports).1
        (replyDone .setPort (clientHandleSetPort b request ports).2).1 ↔
      ¬ HalfDone b request ports := by
  constructor
  · rintro hall ⟨hb, set, name, policy, loc, port, rfl, hname, hpolicy, hne, hlast, hloc, hformat,
      hport, hchanges⟩
    obtain ⟨xs, ys, hports, -, hset⟩ := setNamed_of_some b set hport
    rw [setSettings_halfDone hb hpolicy hne hlast hloc hformat] at hset
    have hhandle : clientHandleSetPort b (some set) ports =
        (xs ++ (name, withPolicy policy port) :: ys, false) := by
      rw [← hset, clientHandleSetPort, hname]
    rw [hhandle] at hall
    have hsame := hall.nothing rfl
    rw [hports] at hsame
    have hcons := List.append_cancel_left hsame
    injection hcons with hhead
    injection hhead with _ hpolicy'
    exact hchanges hpolicy'
  · intro hnot
    cases request with
    | none => exact allOrNothing_refused b none ports
    | some set =>
      unfold clientHandleSetPort
      dsimp only
      cases hname : set.ifname with
      | none => exact allOrNothing_refused b (some set) ports
      | some name =>
        dsimp only
        cases hport : ports.lookup name with
        | none =>
          rw [setNamed_of_none hport]
          exact allOrNothing_refused b (some set) ports
        | some port =>
          obtain ⟨xs, ys, hports, hxs, hset⟩ := setNamed_of_some b set hport
          rw [hset]
          dsimp only
          cases hret : (setSettings b set port).2 with
          | true =>
            refine ⟨.inr rfl, HmsgType.noConfusion, fun _ => ?_⟩
            exact ⟨set, name, xs, port, _, ys, rfl, hname, hports, hxs, rfl,
              setSettings_requested hret⟩
          | false =>
            refine ⟨.inl rfl, fun _ => ?_, HmsgType.noConfusion⟩
            obtain ⟨hb, hsame | ⟨policy, loc, hpolicy, hne, hlast, hloc, hformat, hleft⟩⟩ :=
              setSettings_refused hret
            · rw [hsame, hports]
            · rw [hleft, hports]
              congr 2
              refine Prod.ext rfl (Classical.byContradiction fun hchanges => hnot ?_)
              exact ⟨hb, set, name, policy, loc, port, rfl, hname, hpolicy, hne, hlast, hloc,
                hformat, hport, hchanges⟩

end Ports

def halfRequest : PortSet where
  ifname := some ['e', '0']
  medPolicy := some { type := 1, vid := 10 }
  medLocation := some { format := 4 }

/-- It is refused, and the port has the policy. -/
theorem setPort_halfDone :
    ¬ AllOrNothing .full (some halfRequest) [(['e', '0'], {})]
      (clientHandleSetPort .full (some halfRequest) [(['e', '0'], {})]).1
      (replyDone .setPort (clientHandleSetPort .full (some halfRequest) [(['e', '0'], {})]).2).1 := by
  intro hall
  exact absurd (hall.nothing (by decide)) (by decide)

end Lldpd.Control
