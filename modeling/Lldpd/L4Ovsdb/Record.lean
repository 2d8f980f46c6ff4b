import Mathlib.Data.List.Forall2
import Lldpd.L2Proto.Lldp.ChassisId
import Lldpd.L4Ovsdb.Texts

/-!
# Which neighbors fit their record

`nbrRecord` is the list of names and texts that `lldp_nbr_update` makes of a
neighbor, and `lldpNbrUpdate_ok` says that the map is this list, each text cut
to 255 characters. Nothing in the source bounds its size: `offset` moves by
the length of the whole text, the list of VLAN names is as long as the frame
allows. And two of the fields it prints with `%s` are not strings: a port
identifier and a protocol identity are as long as their TLV says and have no
NUL behind them.

* `record_inside_iff`: exactly which decoded neighbors are written inside the
  array, from sources that end;
* `ifname_unterminated`: an ordinary frame whose port identifier is an
  interface name.

A group of statements of the source is an `Action`, and `Writes` says which
entries it writes. Only two actions can fail.
-/
namespace Lldpd.Ovsdb.Record
open Core

/-! ## What a neighbor comes to -/

def joined (texts : List Bytes) : Bytes := texts.foldl listAdd []

def chassisIdText (pChassis : NbrChassis) : Bytes :=
  if (pChassis.cId.getD []).length = 6 then nwAddrText (pChassis.cId.getD [])
  else propertyText chassisIdSubtypes pChassis.cIdSubtype.toNat

def portIdText (pNbr : NbrInfo) : Bytes :=
  if pNbr.pIdSubtype = LLDP_PORTID_SUBTYPE_LLADDR then
    if (pNbr.pId.getD []).length = 6 then nwAddrText (pNbr.pId.getD [])
    else propertyText portIdSubtypes pNbr.pIdSubtype.toNat
  else cstr (pNbr.pId.getD [])

def listsRecord {α : Type} (key₀ key₁ : String) (queue : List α) (texts₀ texts₁ : List Bytes) :
    List (String × Bytes) :=
  if queue = [] then [] else [(key₀, joined texts₀), (key₁, joined texts₁)]

def chassisRecord (inetNtop : InetNtop) (pChassis : NbrChassis) : List (String × Bytes) :=
  [("chassis_refcount", fmtInt pChassis.cRefcount.toNat),
    ("chassis_index", fmtInt pChassis.cIndex.toNat),
    ("chassis_protocol", propertyText modes (modeNumber pChassis.cProtocol)),
    ("chassis_id_subtype", propertyText chassisIdSubtypes pChassis.cIdSubtype.toNat),
    ("chassis_id", chassisIdText pChassis),
    ("chassis_id_len", fmtInt (pChassis.cId.getD []).length),
    ("chassis_name", cstr (pChassis.cName.getD [])),
    ("chassis_description", cstr (pChassis.cDescr.getD [])),
    ("chassis_capability_available", featuresText caps pChassis.cCapAvailable.toNat),
    ("chassis_capability_enabled", featuresText caps pChassis.cCapEnabled.toNat),
    ("chassis_ttl", fmtInt pChassis.cTtl.toNat)] ++
  listsRecord "mgmt_ip_list" "mgmt_iface_list" pChassis.cMgmt
    ((mgmtTexts inetNtop pChassis.cMgmt).map fun entry => entry.1)
    ((mgmtTexts inetNtop pChassis.cMgmt).map fun entry => mIfaceText entry.2)

def portRecord (pNbr : NbrInfo) : List (String × Bytes) :=
  [("port_lastchange", fmtHex pNbr.pLastchange),
    ("port_lastupdate", fmtHex pNbr.pLastupdate),
    ("port_protocol", propertyText modes (modeNumber pNbr.pProtocol)),
    ("port_hidden_in", fmtInt pNbr.pHiddenIn.toNat),
    ("port_hidden_out", fmtInt pNbr.pHiddenOut.toNat),
    ("port_id_subtype", propertyText portIdSubtypes pNbr.pIdSubtype.toNat),
    ("port_id", portIdText pNbr),
    ("port_id_len", fmtInt (pNbr.pId.getD []).length),
    ("port_description", cstr (pNbr.pDescr.getD [])),
    ("port_mfs", fmtInt pNbr.pMfs.toNat)]

def dot3Record (pMacphy : Dot3Macphy) (pPower : Dot3Power) : List (String × Bytes) :=
  [("macphy_autoneg_support", featuresText dot3LinkAutonegs pMacphy.autonegSupport.toNat),
    ("macphy_autoneg_enabled", featuresText dot3LinkAutonegs pMacphy.autonegEnabled.toNat),
    ("macphy_autoneg_advertised", featuresText dot3LinkAutonegs pMacphy.autonegAdvertised.toNat),
    ("macphy_mau_type", propertyText dot3Maus pMacphy.mauType.toNat),
    ("power_devicetype", fmtInt pPower.devicetype.toNat),
    ("power_supported", fmtInt pPower.supported.toNat),
    ("power_enabled", fmtInt pPower.enabled.toNat),
    ("power_paircontrol", fmtInt pPower.paircontrol.toNat),
    ("power_pairs", fmtInt pPower.pairs.toNat),
    ("power_class", fmtInt pPower.class'.toNat),
    ("power_powertype", fmtInt pPower.powertype.toNat),
    ("power_source", fmtInt pPower.source.toNat),
    ("power_priority", fmtInt pPower.priority.toNat),
    ("power_requested", fmtInt pPower.requested.toNat),
    ("power_allocated", fmtInt pPower.allocated.toNat)]

def dot1Record (pNbr : NbrInfo) : List (String × Bytes) :=
  listsRecord "vlan_name_list" "vlan_id_list" pNbr.pVlans
    (pNbr.pVlans.map fun vlan => cstr vlan.vName)
    (pNbr.pVlans.map fun vlan => fmtInt vlan.vVid.toNat) ++
  (listsRecord "ppvids_cap_list" "ppvids_ppvid_list" pNbr.pPpvids
    (pNbr.pPpvids.map fun ppvid => fmtInt ppvid.pCapStatus.toNat)
    (pNbr.pPpvids.map fun ppvid => fmtInt ppvid.pPpvid.toNat) ++
  listsRecord "pids_name_list" "pids_len_list" pNbr.pPids (pNbr.pPids.map fun pi => cstr pi.pPi)
    (pNbr.pPids.map fun pi => fmtInt pi.pPi.length))

/-- The names and the texts of a neighbor. -/
def nbrRecord (b : Build) (inetNtop : InetNtop) (pNbr : NbrInfo) : List (String × Bytes) :=
  (match pNbr.chassis with
    | none => []
    | some pChassis => chassisRecord inetNtop pChassis) ++
  portRecord pNbr ++
  (if b.dot3 then dot3Record pNbr.pMacphy pNbr.pPower else []) ++
  ("port_pvid", fmtInt pNbr.pPvid.toNat) ::
  (if b.dot1 then dot1Record pNbr else [])

/-- The bytes names and texts take, with a NUL behind each. -/
def recordSize : List (String × Bytes) → Nat
  | [] => 0
  | (key, val) :: es => ((ascii key).length + 1) + (val.length + 1) + recordSize es

/-- What is printed with `%s` has a NUL. -/
structure Terminated (b : Build) (pNbr : NbrInfo) : Prop where
  pId : pNbr.pIdSubtype ≠ LLDP_PORTID_SUBTYPE_LLADDR → 0 ∈ pNbr.pId.getD []
  pPi : b.dot1 → ∀ pi ∈ pNbr.pPids, 0 ∈ pi.pPi

/-- What is assumed of `inet_ntop`: its text fits `INET6_ADDRSTRLEN` bytes with
its NUL. -/
structure InetNtop.Good (inetNtop : InetNtop) : Prop where
  length : ∀ af addr t, inetNtop af addr = some t → t.length < INET6_ADDRSTRLEN

/-! ## Writing a record -/

section Put
variable {key : String} {val : Bytes} {kv kv' : KeyVals} {es : List (String × Bytes)}

def put (es : List (String × Bytes)) (kv : KeyVals) : Except Fault KeyVals :=
  es.foldlM (fun kv entry => lldpEncodeKeyVal entry.1 entry.2 kv) kv

theorem put_cons {entry : String × Bytes} :
    put (entry :: es) kv = lldpEncodeKeyVal entry.1 entry.2 kv >>= put es := List.foldlM_cons

theorem put_append {es' : List (String × Bytes)} : put (es ++ es') kv = put es kv >>= put es' :=
  List.foldlM_append

theorem lldpEncodeKeyVal_eq_ok : lldpEncodeKeyVal key val kv = .ok kv' ↔
    kv.keyArray.length < KEY_VAL_MAX ∧ ∃ pbuf,
      kv.pbuf.sprintf kv.offset (ascii key) = .ok pbuf ∧
      pbuf.sprintf (kv.offset + (ascii key).length + 1) (val.take (MAX_DESCR - 1)) = .ok kv'.pbuf ∧
      kv'.offset = kv.offset + (ascii key).length + 1 + val.length + 1 ∧
      kv'.keyArray = kv.keyArray ++ [kv.offset] ∧
      kv'.valArray = kv.valArray ++ [kv.offset + (ascii key).length + 1] := by
  unfold lldpEncodeKeyVal
  by_cases hmax : KEY_VAL_MAX ≤ kv.keyArray.length
  · rw [if_pos hmax]
    constructor
    · intro h
      cases h
    · omega
  · rw [if_neg hmax]
    simp only [bind_eq_ok]
    constructor
    · intro h
      obtain ⟨pbuf, h1, pbuf', h2, h⟩ := h
      cases h
      exact ⟨by omega, pbuf, h1, h2, rfl, rfl, rfl⟩
    · intro h
      obtain ⟨-, pbuf, h1, h2, ho, hk, hv⟩ := h
      refine ⟨pbuf, h1, kv'.pbuf, h2, ?_⟩
      rw [← ho, ← hk, ← hv]
      rfl

theorem put_offset (h : put es kv = .ok kv') : kv'.offset = kv.offset + recordSize es := by
  induction es generalizing kv with
  | nil =>
    cases h
    rfl
  | cons entry es ih =>
    rw [put_cons, bind_eq_ok] at h
    obtain ⟨kv1, h1, h⟩ := h
    obtain ⟨-, pbuf, -, -, ho, -⟩ := lldpEncodeKeyVal_eq_ok.1 h1
    have hrest := ih h
    simp only [recordSize]
    omega

theorem put_offsets (h : put es kv = .ok kv') (hkv : ∀ o ∈ kv.offsets, o ≤ kv.offset) :
    ∀ o ∈ kv'.offsets, o ≤ kv'.offset := by
  induction es generalizing kv with
  | nil =>
    cases h
    exact hkv
  | cons entry es ih =>
    rw [put_cons, bind_eq_ok] at h
    obtain ⟨kv1, h1, h⟩ := h
    obtain ⟨-, pbuf, -, -, ho, hk, hv⟩ := lldpEncodeKeyVal_eq_ok.1 h1
    apply ih h
    intro o hmem
    simp only [KeyVals.offsets, hk, hv, List.mem_append, List.mem_singleton] at hmem hkv
    rcases hmem with ((hmem | hmem) | hmem | hmem) | hmem
    · have := hkv o (.inl (.inl hmem))
      omega
    · omega
    · have := hkv o (.inl (.inr hmem))
      omega
    · omega
    · omega

/-- A record that fits is written. -/
theorem put_of_le (hsize : kv.offset + recordSize es ≤ KEY_VAL_STR_BUF_MAX)
    (hmax : kv.keyArray.length + es.length ≤ KEY_VAL_MAX) : ∃ kv', put es kv = .ok kv' := by
  induction es generalizing kv with
  | nil => exact ⟨kv, rfl⟩
  | cons entry es ih =>
    simp only [recordSize, List.length_cons] at hsize hmax
    have hcut : (entry.2.take (MAX_DESCR - 1)).length ≤ entry.2.length :=
      (List.take_sublist _ _).length_le
    have hkey : kv.offset + (ascii entry.1).length + 1 ≤ KEY_VAL_STR_BUF_MAX := by omega
    have hval : kv.offset + (ascii entry.1).length + 1 + (entry.2.take (MAX_DESCR - 1)).length + 1 ≤
        KEY_VAL_STR_BUF_MAX := by omega
    obtain ⟨pbuf, h1⟩ := kv.pbuf.sprintf_of_le hkey
    obtain ⟨pbuf', h2⟩ := pbuf.sprintf_of_le hval
    have hput : lldpEncodeKeyVal entry.1 entry.2 kv = .ok
        { pbuf := pbuf', offset := kv.offset + (ascii entry.1).length + 1 + entry.2.length + 1,
          keyArray := kv.keyArray ++ [kv.offset],
          valArray := kv.valArray ++ [kv.offset + (ascii entry.1).length + 1] } :=
      lldpEncodeKeyVal_eq_ok.2 ⟨by omega, pbuf, h1, h2, rfl, rfl, rfl⟩
    rw [put_cons, hput]
    apply ih
    · show kv.offset + (ascii entry.1).length + 1 + entry.2.length + 1 + recordSize es ≤ _
      omega
    · rw [List.length_append, List.length_singleton]
      omega

end Put

/-! ## Actions that write a record -/

/-- The action writes these entries whatever is there already, or, when `ok`
does not hold, runs into a fault. What it leaves in `decode_str` is its own
business. -/
def Writes (action : Action) (ok : Prop) (es : List (String × Bytes)) : Prop :=
  ∀ e, (ok → ∃ t, action e = (put es e.kv).map fun kv => ⟨kv, t⟩) ∧
    (¬ ok → ∃ f, action e = .error f)

section Writes
variable {action next : Action} {actions actions' : List Action} {ok ok' : Prop}
  {es es' : List (String × Bytes)}

theorem writes_of_eq {t : Bytes} (h : ∀ e, action e = (put es e.kv).map fun kv => ⟨kv, t⟩) :
    Writes action True es := fun e => ⟨fun _ => ⟨t, h e⟩, fun hn => absurd trivial hn⟩

theorem writes_nil : Writes (run []) True [] :=
  fun e => ⟨fun _ => ⟨e.decodeStr, rfl⟩, fun h => absurd trivial h⟩

theorem Writes.then (hf : Writes action ok es) (hg : Writes next ok' es') :
    Writes (fun e => action e >>= next) (ok ∧ ok') (es ++ es') := by
  intro e
  dsimp only
  constructor
  · intro h
    obtain ⟨t, ht⟩ := (hf e).1 h.1
    cases hput : put es e.kv with
    | error f =>
      refine ⟨t, ?_⟩
      rw [put_append, ht, hput]
      rfl
    | ok kv =>
      obtain ⟨t', ht'⟩ := (hg ⟨kv, t⟩).1 h.2
      refine ⟨t', ?_⟩
      rw [put_append, ht, hput]
      exact ht'
  · intro h
    by_cases hok : ok
    · obtain ⟨t, ht⟩ := (hf e).1 hok
      cases hput : put es e.kv with
      | error f => exact ⟨f, by rw [ht, hput]; rfl⟩
      | ok kv =>
        obtain ⟨f, hf'⟩ := (hg ⟨kv, t⟩).2 fun hok' => h ⟨hok, hok'⟩
        refine ⟨f, ?_⟩
        rw [ht, hput]
        exact hf'
    · obtain ⟨f, hf'⟩ := (hf e).2 hok
      exact ⟨f, by rw [hf']; rfl⟩

theorem Writes.congr (h : Writes action ok es) (hok : ok ↔ ok') : Writes action ok' es := by
  intro e
  rw [← hok]
  exact h e

/-- An action that always succeeds, in front of others. -/
theorem Writes.cons {entry : String × Bytes} (ha : Writes action True [entry])
    (hs : Writes (run actions) ok es) : Writes (run (action :: actions)) ok (entry :: es) :=
  (ha.then hs).congr (iff_of_eq (true_and ok))

theorem Writes.cons₂ {entry entry' : String × Bytes} (ha : Writes action ok [entry, entry'])
    (hs : Writes (run actions) True es) :
    Writes (run (action :: actions)) ok (entry :: entry' :: es) :=
  (ha.then hs).congr (iff_of_eq (and_true ok))

theorem Writes.cons_lists (ha : Writes action ok es) (hs : Writes (run actions) ok' es') :
    Writes (run (action :: actions)) (ok ∧ ok') (es ++ es') := ha.then hs

theorem Writes.one (ha : Writes action ok es) : Writes (run [action]) ok es := by
  have hall := (ha.then writes_nil).congr (iff_of_eq (and_true ok))
  rw [List.append_nil] at hall
  exact hall

theorem run_append : run (actions ++ actions') = fun e => run actions e >>= run actions' :=
  funext fun _ => List.foldlM_append

theorem Writes.append (hf : Writes (run actions) ok es) (hg : Writes (run actions') ok' es') :
    Writes (run (actions ++ actions')) (ok ∧ ok') (es ++ es') := by
  rw [run_append]
  exact hf.then hg

end Writes

/-! ## The texts fit `decode_str` -/

section Texts
variable {table : List (Option String)} {names : List String} {t : Bytes}

def Short (name : String) : Prop := (ascii name).length ≤ 30

instance (name : String) : Decidable (Short name) := inferInstanceAs (Decidable (_ ≤ _))

theorem short_tables : (∀ entry ∈ chassisIdSubtypes ++ portIdSubtypes ++ dot3Maus ++ modes,
    ∀ name ∈ entry, Short name) ∧ ∀ name ∈ dot3LinkAutonegs ++ caps, Short name := by
  decide

theorem propertyText_length (h : ∀ entry ∈ table, ∀ name ∈ entry, Short name) (property : Nat) :
    (propertyText table property).length ≤ 30 := by
  unfold propertyText
  cases hj : (table[property]?).join with
  | none => decide
  | some name =>
    rw [Option.join_eq_some_iff] at hj
    exact h _ (List.mem_of_getElem? hj) name rfl

theorem addFeature_length (features : Nat) {entry : String × Nat} (h : Short entry.1) :
    (addFeature features t entry).length ≤ t.length + 32 := by
  have hsep : (ascii ", ").length = 2 := by decide
  unfold Short at h
  unfold addFeature
  split
  · split
    · omega
    · simp only [List.length_append]
      omega
  · omega

theorem foldl_addFeature_length (features : Nat) {l : List (String × Nat)}
    (h : ∀ entry ∈ l, Short entry.1) :
    (l.foldl (addFeature features) t).length ≤ t.length + 32 * l.length := by
  induction l generalizing t with
  | nil => simp
  | cons entry l ih =>
    have hone := addFeature_length (t := t) features (h entry List.mem_cons_self)
    have hrest := ih (t := addFeature features t entry) fun x hx => h x (List.mem_cons_of_mem _ hx)
    simp only [List.foldl_cons, List.length_cons]
    omega

theorem featuresText_length (h : ∀ name ∈ names, Short name) (features : Nat) :
    (featuresText names features).length ≤ 1 + 32 * names.length := by
  have hsp : (ascii " ").length = 1 := by decide
  have hall := foldl_addFeature_length (t := []) features (l := names.zipIdx)
    fun entry hentry => h _ (List.fst_mem_of_mem_zipIdx hentry)
  unfold featuresText
  cases hf : names.zipIdx.foldl (addFeature features) [] with
  | nil =>
    show (ascii " ").length ≤ _
    omega
  | cons c t =>
    rw [hf] at hall
    simp only [List.length_zipIdx, List.length_nil] at hall
    show (c :: t).length ≤ _
    omega

theorem nwAddrText_length (id : Bytes) : (nwAddrText id).length ≤ 3 * id.length := by
  have hsep : (ascii ":").length = 1 := by decide
  have htwo : ∀ c, (fmtHexByte c).length = 2 := fun _ => rfl
  induction id with
  | nil => simp [nwAddrText]
  | cons c cs ih =>
    cases cs with
    | nil => simp [nwAddrText, htwo]
    | cons c' cs =>
      simp only [nwAddrText, List.length_append, htwo, List.length_cons] at ih ⊢
      omega

end Texts

/-! ## What each action writes -/

section Actions
variable {key : String} {table : List (Option String)} {names : List String} {e : Enc}

theorem encode_eq (val : Bytes) :
    encode key val e = (put [(key, val)] e.kv).map fun kv => ⟨kv, e.decodeStr⟩ := by
  unfold encode
  rw [put_cons]
  cases lldpEncodeKeyVal key val e.kv <;> rfl

theorem writes_encode (val : Bytes) : Writes (encode key val) True [(key, val)] :=
  fun e => ⟨fun _ => ⟨e.decodeStr, encode_eq val⟩, fun h => absurd trivial h⟩

theorem setDecodeStr_eq {t : Bytes} (h : t.length < 1024) :
    setDecodeStr t e = .ok { e with decodeStr := t } := if_pos h

theorem encodeProperty_eq (h : ∀ entry ∈ table, ∀ name ∈ entry, Short name) (property : Nat) :
    encodeProperty key table property e =
      (put [(key, propertyText table property)] e.kv).map
        fun kv => ⟨kv, propertyText table property⟩ := by
  have hlen := propertyText_length h property
  unfold encodeProperty
  rw [setDecodeStr_eq (by omega)]
  exact encode_eq _

theorem writes_encodeProperty (h : ∀ entry ∈ table, ∀ name ∈ entry, Short name) (property : Nat) :
    Writes (encodeProperty key table property) True [(key, propertyText table property)] :=
  writes_of_eq fun _ => encodeProperty_eq h property

theorem writes_encodeFeatures (h : ∀ name ∈ names, Short name) (hn : names.length ≤ 16)
    (features : Nat) :
    Writes (encodeFeatures key names features) True [(key, featuresText names features)] := by
  have hlen := featuresText_length h features
  refine writes_of_eq (t := featuresText names features) fun e => ?_
  unfold encodeFeatures
  rw [setDecodeStr_eq (by omega)]
  exact encode_eq _

theorem decodeNwAddr_eq (id : Bytes) : decodeNwAddr id e =
    .ok { e with decodeStr := if id.length = 6 then nwAddrText id else e.decodeStr } := by
  have hlen := nwAddrText_length id
  unfold decodeNwAddr
  split
  · rw [setDecodeStr_eq (by omega)]
  · rfl

/-- Two entries, the second with what is in `decode_str` behind the first. -/
theorem encode_then {first next : Action} {es : List (String × Bytes)} {s t : Bytes}
    (hfirst : first e = (put es e.kv).map fun kv => ⟨kv, s⟩)
    (hnext : ∀ kv, next ⟨kv, s⟩ = .ok ⟨kv, t⟩) :
    (do let e ← first e; let e ← next e; encodeDecodeStr key e) =
      (put (es ++ [(key, t)]) e.kv).map fun kv => ⟨kv, t⟩ := by
  rw [hfirst, put_append]
  cases put es e.kv with
  | error f => rfl
  | ok kv =>
    show (next ⟨kv, s⟩ >>= encodeDecodeStr key) = _
    rw [hnext]
    exact encode_eq _

theorem writes_encodeChassisId (pChassis : NbrChassis) : Writes (encodeChassisId pChassis) True
    [("chassis_id_subtype", propertyText chassisIdSubtypes pChassis.cIdSubtype.toNat),
      ("chassis_id", chassisIdText pChassis)] := by
  have htable : ∀ entry ∈ chassisIdSubtypes, ∀ name ∈ entry, Short name :=
    fun entry h => short_tables.1 entry (by simp [h])
  refine writes_of_eq (t := chassisIdText pChassis) fun e => ?_
  exact encode_then (encodeProperty_eq htable _) fun kv => decodeNwAddr_eq _

theorem short_portIdSubtypes : ∀ entry ∈ portIdSubtypes, ∀ name ∈ entry, Short name :=
  fun entry h => short_tables.1 entry (by simp [h])

theorem writes_encodePortId {pNbr : NbrInfo}
    (hlen : pNbr.pIdSubtype ≠ LLDP_PORTID_SUBTYPE_LLADDR → (cstr (pNbr.pId.getD [])).length < 1024) :
    Writes (encodePortId pNbr)
      (pNbr.pIdSubtype ≠ LLDP_PORTID_SUBTYPE_LLADDR → 0 ∈ pNbr.pId.getD [])
      [("port_id_subtype", propertyText portIdSubtypes pNbr.pIdSubtype.toNat),
        ("port_id", portIdText pNbr)] := by
  have hfirst (e : Enc) : encodeProperty "port_id_subtype" portIdSubtypes _ e = _ :=
    encodeProperty_eq short_portIdSubtypes pNbr.pIdSubtype.toNat
  intro e
  unfold encodePortId portIdText
  by_cases hll : pNbr.pIdSubtype = LLDP_PORTID_SUBTYPE_LLADDR
  · simp only [hll, ne_eq, not_true_eq_false, false_implies, true_implies]
    rw [hll] at hfirst
    exact ⟨⟨_, encode_then (hfirst e) fun kv => decodeNwAddr_eq _⟩, trivial⟩
  · simp only [hll, if_false, ne_eq, not_false_eq_true, true_implies]
    constructor
    · intro hz
      refine ⟨_, encode_then (hfirst e) fun kv => ?_⟩
      unfold decodePId
      rw [readStr_of_mem hz, ok_bind, setDecodeStr_eq (hlen hll)]
    · intro hz
      rw [hfirst]
      cases put [("port_id_subtype", propertyText portIdSubtypes pNbr.pIdSubtype.toNat)] e.kv with
      | error f => exact ⟨f, rfl⟩
      | ok kv =>
        refine ⟨.oob, ?_⟩
        unfold decodePId
        rw [readStr_of_notMem hz]
        rfl

end Actions

/-! ## Lists -/

section Lists
variable {α β : Type} {size₀ size₁ : Nat} {text₀ : α → Except Fault Bytes} {text₁ t₀ : α → Bytes}
  {good : α → Prop} {l : List α} {queue : List β} {s s' : Bytes} {texts : List Bytes}

theorem listAdd_length (s s' : Bytes) : s.length ≤ (listAdd s s').length ∧
    (listAdd s s').length ≤ s.length + 1 + s'.length := by
  have hsep : (ascii ",").length = 1 := by decide
  unfold listAdd
  simp only [List.length_append]
  split
  · exact ⟨by omega, by simp only [List.length_nil]; omega⟩
  · omega

theorem foldl_listAdd_le : s.length ≤ (texts.foldl listAdd s).length := by
  induction texts generalizing s with
  | nil => exact Nat.le_refl _
  | cons t ts ih => exact Nat.le_trans (listAdd_length s t).1 ih

theorem foldl_listAdd_length {k : Nat} (h : ∀ t ∈ texts, t.length < k) :
    (texts.foldl listAdd s).length ≤ s.length + k * texts.length := by
  induction texts generalizing s with
  | nil => simp
  | cons t ts ih =>
    have ht := h t List.mem_cons_self
    have hadd := (listAdd_length s t).2
    have hrest := ih (s := listAdd s t) fun x hx => h x (List.mem_cons_of_mem _ hx)
    simp only [List.foldl_cons, List.length_cons, Nat.mul_succ]
    omega

/-- The first text has no comma in front. -/
theorem joined_length {k : Nat} (h : ∀ t ∈ texts, t.length < k) (hne : texts ≠ []) :
    (joined texts).length < k * texts.length := by
  cases texts with
  | nil => exact absurd rfl hne
  | cons t ts =>
    have ht := h t List.mem_cons_self
    have hfirst : listAdd [] t = t := rfl
    have hrest := foldl_listAdd_length (s := t) fun x hx => h x (List.mem_cons_of_mem _ hx)
    simp only [joined, List.foldl_cons, hfirst, List.length_cons, Nat.mul_succ]
    omega

theorem smapListSet_eq_ok {size : Nat} {r : Bytes} : smapListSet size s s' = .ok r ↔
    (listAdd s s').length < size ∧ r = listAdd s s' := by
  unfold smapListSet
  split
  · rename_i h
    constructor
    · intro he
      cases he
      exact ⟨h, rfl⟩
    · intro he
      rw [he.2]
  · rename_i h
    constructor
    · intro he
      cases he
    · intro he
      exact absurd he.1 h

/-- The two arrays hold the whole lists, or there was a fault. -/
theorem createList_eq_ok {lists r : Bytes × Bytes}
    (hgood : ∀ x t, text₀ x = .ok t ↔ good x ∧ t = t₀ x)
    (h0 : lists.1.length < size₀) (h1 : lists.2.length < size₁) :
    createList size₀ size₁ text₀ text₁ l lists = .ok r ↔
      (∀ x ∈ l, good x) ∧ ((l.map t₀).foldl listAdd lists.1).length < size₀ ∧
      ((l.map text₁).foldl listAdd lists.2).length < size₁ ∧
      r = ((l.map t₀).foldl listAdd lists.1, (l.map text₁).foldl listAdd lists.2) := by
  induction l generalizing lists with
  | nil =>
    constructor
    · intro h
      cases h
      exact ⟨fun x hx => absurd hx List.not_mem_nil, h0, h1, rfl⟩
    · intro h
      rw [h.2.2.2]
      rfl
  | cons x l ih =>
    have hcons : createList size₀ size₁ text₀ text₁ (x :: l) lists = (do
        let t ← text₀ x
        let list0 ← smapListSet size₀ lists.1 t
        let list1 ← smapListSet size₁ lists.2 (text₁ x)
        createList size₀ size₁ text₀ text₁ l (list0, list1)) := by
      unfold createList
      simp [bind_assoc]
    rw [hcons]
    simp only [bind_eq_ok, hgood, smapListSet_eq_ok, List.forall_mem_cons, List.map_cons,
      List.foldl_cons]
    constructor
    · intro h
      obtain ⟨_, ⟨hx, rfl⟩, _, ⟨hs0, rfl⟩, _, ⟨hs1, rfl⟩, h⟩ := h
      obtain ⟨hl, h⟩ := (ih hs0 hs1).1 h
      exact ⟨⟨hx, hl⟩, h⟩
    · intro h
      obtain ⟨⟨hx, hl⟩, hs0, hs1, h⟩ := h
      have hs0' := Nat.lt_of_le_of_lt foldl_listAdd_le hs0
      have hs1' := Nat.lt_of_le_of_lt foldl_listAdd_le hs1
      exact ⟨_, ⟨hx, rfl⟩, _, ⟨hs0', rfl⟩, _, ⟨hs1', rfl⟩, (ih hs0' hs1').2 ⟨hl, hs0, hs1, h⟩⟩

def Fit (size₀ size₁ : Nat) (texts₀ texts₁ : List Bytes) : Prop :=
  (joined texts₀).length < size₀ ∧ (joined texts₁).length < size₁

theorem writes_encodeLists {key0 key1 : String} (h0 : 0 < size₀) (h1 : 0 < size₁)
    (hgood : ∀ x t, text₀ x = .ok t ↔ good x ∧ t = t₀ x) (hq : queue = [] → l = []) :
    Writes (encodeLists key0 key1 queue (createList size₀ size₁ text₀ text₁ l ([], [])))
      ((∀ x ∈ l, good x) ∧ Fit size₀ size₁ (l.map t₀) (l.map text₁))
      (listsRecord key0 key1 queue (l.map t₀) (l.map text₁)) := by
  have hlists {r : Bytes × Bytes} : createList size₀ size₁ text₀ text₁ l ([], []) = .ok r ↔ _ :=
    createList_eq_ok hgood h0 h1
  intro e
  unfold encodeLists listsRecord
  by_cases hqe : queue = []
  · subst hqe
    rw [hq rfl]
    exact ⟨fun _ => ⟨e.decodeStr, rfl⟩,
      fun h => absurd ⟨fun x hx => absurd hx List.not_mem_nil, h0, h1⟩ h⟩
  · rw [if_neg hqe, if_neg hqe]
    constructor
    · intro h
      rw [hlists.2 ⟨h.1, h.2.1, h.2.2, rfl⟩]
      exact ((writes_encode _).then (writes_encode _) e).1 ⟨trivial, trivial⟩
    · intro h
      cases hc : createList size₀ size₁ text₀ text₁ l ([], []) with
      | error f => exact ⟨f, rfl⟩
      | ok r =>
        obtain ⟨hl, hs0, hs1, -⟩ := hlists.1 hc
        exact absurd ⟨hl, hs0, hs1⟩ h

end Lists

/-! ## The map -/

section Smap
variable {kv kv' : KeyVals} {m : List (Bytes × Bytes)} {es : List (String × Bytes)}

def stored (entry : String × Bytes) : Bytes × Bytes :=
  (cstr (ascii entry.1), cstr (entry.2.take (MAX_DESCR - 1)))

def Ends (kv : KeyVals) (vec : Nat) (t : Bytes) : Prop :=
  kv.pbuf.str vec = .ok t ∧ vec + t.length < kv.offset

/-- The pointers read back as the entries of the map. -/
structure Reads (kv : KeyVals) (m : List (Bytes × Bytes)) : Prop where
  length : kv.keyArray.length = kv.valArray.length
  ends : List.Forall₂ (fun vecs entry => Ends kv vecs.1 entry.1 ∧ Ends kv vecs.2 entry.2)
    (kv.keyArray.zip kv.valArray) m

theorem smapAdds_of_reads (h : Reads kv m) : smapAdds kv = .ok m := by
  obtain ⟨-, hends⟩ := h
  unfold smapAdds
  generalize kv.keyArray.zip kv.valArray = vecs at hends
  induction hends with
  | nil => rfl
  | cons hx _ ih =>
    rw [List.mapM_cons, hx.1.1, hx.2.1, ih]
    rfl

/-- Step lemma: an entry goes behind the others. -/
theorem lldpEncodeKeyVal_reads {entry : String × Bytes} (hm : Reads kv m)
    (h : lldpEncodeKeyVal entry.1 entry.2 kv = .ok kv') : Reads kv' (m ++ [stored entry]) := by
  obtain ⟨-, pbuf, h1, h2, ho, hk, hv⟩ := lldpEncodeKeyVal_eq_ok.1 h
  have hkey := strlen_le (ascii entry.1)
  have hval : strlen (entry.2.take (MAX_DESCR - 1)) ≤ entry.2.length :=
    Nat.le_trans (strlen_le _) (List.take_sublist _ _).length_le
  unfold strlen at hkey hval
  -- a string in front of `offset` is not touched
  have hkeep {vec : Nat} {t : Bytes} (he : Ends kv vec t) : Ends kv' vec t := by
    have hend := he.2
    refine ⟨Buffer.str_sprintf_behind h2 (Buffer.str_sprintf_behind h1 he.1 he.2) ?_, ?_⟩ <;> omega
  constructor
  · rw [hk, hv, List.length_append, List.length_append, hm.length]
    rfl
  · rw [hk, hv, List.zip_append hm.length]
    refine List.rel_append ?_ (.cons ⟨⟨?_, ?_⟩, ?_, ?_⟩ .nil)
    · exact hm.ends.imp fun _ _ he => ⟨hkeep he.1, hkeep he.2⟩
    · have hbehind : kv.offset + (cstr (ascii entry.1)).length <
          kv.offset + (ascii entry.1).length + 1 := by omega
      exact Buffer.str_sprintf_behind h2 (Buffer.str_sprintf_same h1) hbehind
    · show kv.offset + (cstr (ascii entry.1)).length < _
      omega
    · exact Buffer.str_sprintf_same h2
    · show kv.offset + (ascii entry.1).length + 1 + (cstr (entry.2.take (MAX_DESCR - 1))).length < _
      omega

theorem put_reads (hm : Reads kv m) (h : put es kv = .ok kv') : Reads kv' (m ++ es.map stored) := by
  induction es generalizing kv m with
  | nil =>
    cases h
    rw [List.map_nil, List.append_nil]
    exact hm
  | cons entry es ih =>
    rw [put_cons, bind_eq_ok] at h
    obtain ⟨kv1, h1, h⟩ := h
    have hrest := ih (lldpEncodeKeyVal_reads hm h1) h
    rw [List.append_assoc] at hrest
    exact hrest

end Smap

/-! ## The whole function -/

section Update
variable {b : Build} {inetNtop : InetNtop} {pNbr : NbrInfo}

theorem mem_mgmtTexts {cMgmt : List Mgmt} {entry : Bytes × Mgmt}
    (h : entry ∈ mgmtTexts inetNtop cMgmt) : ∃ af addr, inetNtop af addr = some entry.1 := by
  obtain ⟨mgmtip, -, hmap⟩ := List.mem_filterMap.1 h
  obtain ⟨t, ht, rfl⟩ := Option.map_eq_some_iff.1 hmap
  exact ⟨_, _, ht⟩

theorem mgmtTexts_length (cMgmt : List Mgmt) : (mgmtTexts inetNtop cMgmt).length ≤ 16 :=
  Nat.le_trans (List.length_filterMap_le _ _) (List.length_take_le _ _)

/-- Sixteen texts of 45 characters with commas between them and a NUL behind
fill the array. -/
theorem joined_mgmt {texts : List Bytes} (h : ∀ t ∈ texts, t.length < INET6_ADDRSTRLEN)
    (hlen : texts.length ≤ 16) : (joined texts).length < MGMTIP_LIST_MAX := by
  have hmax : MGMTIP_LIST_MAX = 736 := rfl
  have h46 : INET6_ADDRSTRLEN = 46 := rfl
  rw [h46] at h
  by_cases hne : texts = []
  · rw [hne]
    decide
  · have := joined_length h hne
    omega

theorem fit_mgmt (hntop : inetNtop.Good) (cMgmt : List Mgmt) :
    Fit MGMTIP_LIST_MAX MGMTIP_LIST_MAX ((mgmtTexts inetNtop cMgmt).map fun entry => entry.1)
      ((mgmtTexts inetNtop cMgmt).map fun entry => mIfaceText entry.2) := by
  have h46 : INET6_ADDRSTRLEN = 46 := rfl
  constructor
  · apply joined_mgmt
    · intro t ht
      obtain ⟨entry, hentry, rfl⟩ := List.mem_map.1 ht
      obtain ⟨af, addr, hsome⟩ := mem_mgmtTexts hentry
      exact hntop.length af addr _ hsome
    · rw [List.length_map]
      exact mgmtTexts_length cMgmt
  · apply joined_mgmt
    · intro t ht
      obtain ⟨entry, -, rfl⟩ := List.mem_map.1 ht
      have hint : IsInt ((entry.2.mIface.toNat : Int).bmod 4294967296) := by
        have := Int.le_bmod (x := (entry.2.mIface.toNat : Int)) (m := 4294967296) (by decide)
        have := Int.bmod_lt (x := (entry.2.mIface.toNat : Int)) (m := 4294967296) (by decide)
        unfold IsInt
        omega
      have := length_fmtInt hint
      unfold mIfaceText
      omega
    · rw [List.length_map]
      exact mgmtTexts_length cMgmt

theorem short_caps : ∀ name ∈ caps, Short name :=
  fun name h => short_tables.2 name (List.mem_append_right _ h)

theorem short_dot3LinkAutonegs : ∀ name ∈ dot3LinkAutonegs, Short name :=
  fun name h => short_tables.2 name (List.mem_append_left _ h)

theorem short_modes : ∀ entry ∈ modes, ∀ name ∈ entry, Short name :=
  fun entry h => short_tables.1 entry (List.mem_append_right _ h)

theorem short_dot3Maus : ∀ entry ∈ dot3Maus, ∀ name ∈ entry, Short name :=
  fun entry h => short_tables.1 entry (by simp [h])

/-- A text that needs no reading. -/
theorem ok_good {α : Type} (text : α → Bytes) (x : α) (t : Bytes) :
    (.ok (text x) : Except Fault Bytes) = .ok t ↔ True ∧ t = text x := by
  rw [Except.ok.injEq, true_and, eq_comm]

theorem readStr_good {block t : Bytes} : readStr block = .ok t ↔ 0 ∈ block ∧ t = cstr block := by
  unfold readStr
  split
  · rename_i h
    rw [eq_comm]
    simp [h]
  · rename_i h
    simp [h]

theorem vName_good (vlan : Vlan) (t : Bytes) :
    readStr (vlan.vName ++ [0]) = .ok t ↔ True ∧ t = cstr vlan.vName := by
  rw [readStr_append_zero]
  exact ok_good (fun vlan => cstr vlan.vName) vlan t

theorem writes_mgmt (hntop : inetNtop.Good) (cMgmt : List Mgmt) :
    Writes (encodeLists "mgmt_ip_list" "mgmt_iface_list" cMgmt
        (lldpCreateMgmtipList inetNtop cMgmt)) True
      (listsRecord "mgmt_ip_list" "mgmt_iface_list" cMgmt
        ((mgmtTexts inetNtop cMgmt).map fun entry => entry.1)
        ((mgmtTexts inetNtop cMgmt).map fun entry => mIfaceText entry.2)) := by
  have hempty : cMgmt = [] → mgmtTexts inetNtop cMgmt = [] := by
    intro h
    rw [h]
    rfl
  have hsize : 0 < MGMTIP_LIST_MAX := by decide
  exact (writes_encodeLists hsize hsize (ok_good fun entry : Bytes × Mgmt => entry.1) hempty).congr
    (iff_true_intro ⟨fun _ _ => trivial, fit_mgmt hntop _⟩)

theorem writes_chassis (hntop : inetNtop.Good) (pChassis : NbrChassis) :
    Writes (run (chassisActions inetNtop pChassis)) True (chassisRecord inetNtop pChassis) :=
  .cons (writes_encode _) <| .cons (writes_encode _) <|
    .cons (writes_encodeProperty short_modes _) <| .cons₂ (writes_encodeChassisId _) <|
    .cons (writes_encode _) <| .cons (writes_encode _) <| .cons (writes_encode _) <|
    .cons (writes_encodeFeatures short_caps (by decide) _) <|
    .cons (writes_encodeFeatures short_caps (by decide) _) <| .cons (writes_encode _) <|
    .one (writes_mgmt hntop pChassis.cMgmt)

theorem writes_port
    (hlen : pNbr.pIdSubtype ≠ LLDP_PORTID_SUBTYPE_LLADDR → (cstr (pNbr.pId.getD [])).length < 1024) :
    Writes (run (portActions pNbr))
      (pNbr.pIdSubtype ≠ LLDP_PORTID_SUBTYPE_LLADDR → 0 ∈ pNbr.pId.getD []) (portRecord pNbr) :=
  .cons (writes_encode _) <| .cons (writes_encode _) <|
    .cons (writes_encodeProperty short_modes _) <| .cons (writes_encode _) <|
    .cons (writes_encode _) <| .cons₂ (writes_encodePortId hlen) <|
    .cons (writes_encode _) <| .cons (writes_encode _) <| .cons (writes_encode _) writes_nil

theorem writes_dot3 (pMacphy : Dot3Macphy) (pPower : Dot3Power) :
    Writes (run (dot3Actions pMacphy pPower)) True (dot3Record pMacphy pPower) :=
  .cons (writes_encodeFeatures short_dot3LinkAutonegs (by decide) _) <|
    .cons (writes_encodeFeatures short_dot3LinkAutonegs (by decide) _) <|
    .cons (writes_encodeFeatures short_dot3LinkAutonegs (by decide) _) <|
    .cons (writes_encodeProperty short_dot3Maus _) <| .cons (writes_encode _) <|
    .cons (writes_encode _) <| .cons (writes_encode _) <| .cons (writes_encode _) <|
    .cons (writes_encode _) <| .cons (writes_encode _) <| .cons (writes_encode _) <|
    .cons (writes_encode _) <| .cons (writes_encode _) <| .cons (writes_encode _) <|
    .cons (writes_encode _) writes_nil

structure FitDot1 (pNbr : NbrInfo) : Prop where
  vlans : Fit VLAN_LIST_STR_MAX VLAN_LIST_INT_MAX (pNbr.pVlans.map fun vlan => cstr vlan.vName)
    (pNbr.pVlans.map fun vlan => fmtInt vlan.vVid.toNat)
  ppvids : Fit VLAN_LIST_INT_MAX VLAN_LIST_INT_MAX
    (pNbr.pPpvids.map fun ppvid => fmtInt ppvid.pCapStatus.toNat)
    (pNbr.pPpvids.map fun ppvid => fmtInt ppvid.pPpvid.toNat)
  pids : Fit VLAN_LIST_STR_MAX VLAN_LIST_INT_MAX (pNbr.pPids.map fun pi => cstr pi.pPi)
    (pNbr.pPids.map fun pi => fmtInt pi.pPi.length)

theorem writes_dot1 : Writes (run (dot1Actions pNbr))
    ((∀ pi ∈ pNbr.pPids, 0 ∈ pi.pPi) ∧ FitDot1 pNbr) (dot1Record pNbr) := by
  have hstr : 0 < VLAN_LIST_STR_MAX := by decide
  have hint : 0 < VLAN_LIST_INT_MAX := by decide
  have hall : Writes (run (dot1Actions pNbr)) _ (dot1Record pNbr) :=
    .cons_lists (writes_encodeLists hstr hint vName_good id) <|
      .cons_lists (writes_encodeLists hint hint
        (ok_good fun ppvid : Ppvid => fmtInt ppvid.pCapStatus.toNat) id) <|
      .one (writes_encodeLists hstr hint (fun pi _ => readStr_good) id)
  apply hall.congr
  constructor
  · intro h
    exact ⟨h.2.2.1, h.1.2, h.2.1.2, h.2.2.2⟩
  · intro h
    exact ⟨⟨fun _ _ => trivial, h.2.vlans⟩, ⟨fun _ _ => trivial, h.2.ppvids⟩, h.1, h.2.pids⟩

theorem writes_nbr (hntop : inetNtop.Good)
    (hlen : pNbr.pIdSubtype ≠ LLDP_PORTID_SUBTYPE_LLADDR → (cstr (pNbr.pId.getD [])).length < 1024) :
    Writes (run (nbrActions b inetNtop pNbr)) (Terminated b pNbr ∧ (b.dot1 → FitDot1 pNbr))
      (nbrRecord b inetNtop pNbr) := by
  have hchassis : Writes (run (match pNbr.chassis with
      | none => []
      | some pChassis => chassisActions inetNtop pChassis)) True
      (match pNbr.chassis with
      | none => []
      | some pChassis => chassisRecord inetNtop pChassis) := by
    cases pNbr.chassis with
    | none => exact writes_nil
    | some pChassis => exact writes_chassis hntop pChassis
  have hdot3 : Writes (run (if b.dot3 then dot3Actions pNbr.pMacphy pNbr.pPower else [])) True
      (if b.dot3 then dot3Record pNbr.pMacphy pNbr.pPower else []) := by
    split
    · exact writes_dot3 _ _
    · exact writes_nil
  have hdot1 : Writes (run (if b.dot1 then dot1Actions pNbr else []))
      (b.dot1 → (∀ pi ∈ pNbr.pPids, 0 ∈ pi.pPi) ∧ FitDot1 pNbr)
      (if b.dot1 then dot1Record pNbr else []) := by
    split
    · rename_i h
      exact writes_dot1.congr (by simp [h])
    · rename_i h
      exact writes_nil.congr (by simp [h])
  apply ((((hchassis.append (writes_port hlen)).append hdot3).append
    (.cons (writes_encode _) hdot1))).congr
  constructor
  · intro h
    exact ⟨⟨h.1.1.2, fun hb => (h.2 hb).1⟩, fun hb => (h.2 hb).2⟩
  · intro h
    exact ⟨⟨⟨trivial, h.1.pId⟩, trivial⟩, fun hb => ⟨h.1.pPi hb, h.2 hb⟩⟩

theorem listsRecord_length {α : Type} {key0 key1 : String} {queue : List α}
    {texts0 texts1 : List Bytes} : (listsRecord key0 key1 queue texts0 texts1).length ≤ 2 := by
  unfold listsRecord
  split
  · exact Nat.zero_le _
  · exact Nat.le_refl _

theorem nbrRecord_length : (nbrRecord b inetNtop pNbr).length ≤ KEY_VAL_MAX := by
  have hchassis (c : NbrChassis) : (chassisRecord inetNtop c).length ≤ 13 := by
    unfold chassisRecord
    rw [List.length_append]
    exact Nat.add_le_add_left listsRecord_length 11
  have hdot1 : (dot1Record pNbr).length ≤ 6 := by
    unfold dot1Record
    rw [List.length_append, List.length_append]
    exact Nat.add_le_add listsRecord_length (Nat.add_le_add listsRecord_length listsRecord_length)
  have hport : (portRecord pNbr).length = 10 := rfl
  have hdot3 : (dot3Record pNbr.pMacphy pNbr.pPower).length = 15 := rfl
  have hmax : KEY_VAL_MAX = 64 := rfl
  unfold nbrRecord
  simp only [List.length_append, List.length_cons]
  cases pNbr.chassis with
  | none =>
    simp only [List.length_nil]
    split <;> split <;> simp only [List.length_nil, hdot3] <;> omega
  | some c =>
    have := hchassis c
    simp only
    split <;> split <;> simp only [List.length_nil, hdot3] <;> omega

variable {es : List (String × Bytes)}

theorem length_lt_recordSize {entry : String × Bytes} (h : entry ∈ es) :
    entry.2.length < recordSize es := by
  induction es with
  | nil => exact absurd h List.not_mem_nil
  | cons first es ih =>
    simp only [recordSize]
    rcases List.mem_cons.1 h with rfl | h
    · omega
    · have := ih h
      omega

/-- A list that is longer than its own array is longer than `pbuf`. -/
theorem fit_of_recordSize {α : Type} {key0 key1 : String} {queue : List α}
    {texts0 texts1 : List Bytes} {size₀ size₁ : Nat}
    (hsub : ∀ entry ∈ listsRecord key0 key1 queue texts0 texts1, entry ∈ es)
    (hq : queue = [] → texts0 = [] ∧ texts1 = []) (hsize : recordSize es ≤ KEY_VAL_STR_BUF_MAX)
    (h0 : KEY_VAL_STR_BUF_MAX ≤ size₀) (h1 : KEY_VAL_STR_BUF_MAX ≤ size₁) :
    Fit size₀ size₁ texts0 texts1 := by
  have hmax : KEY_VAL_STR_BUF_MAX = 4096 := rfl
  unfold listsRecord at hsub
  by_cases hqe : queue = []
  · obtain ⟨rfl, rfl⟩ := hq hqe
    constructor
    · show 0 < size₀
      omega
    · show 0 < size₁
      omega
  · rw [if_neg hqe] at hsub
    have hfirst : (joined texts0).length < recordSize es :=
      length_lt_recordSize (hsub (key0, joined texts0) (by simp))
    have hsecond : (joined texts1).length < recordSize es :=
      length_lt_recordSize (hsub (key1, joined texts1) (by simp))
    constructor <;> omega

theorem fitDot1_of_recordSize (hb : b.dot1 = true)
    (hsize : recordSize (nbrRecord b inetNtop pNbr) ≤ KEY_VAL_STR_BUF_MAX) : FitDot1 pNbr := by
  have hstr : KEY_VAL_STR_BUF_MAX ≤ VLAN_LIST_STR_MAX := by decide
  have hint : KEY_VAL_STR_BUF_MAX ≤ VLAN_LIST_INT_MAX := by decide
  have hsub : ∀ entry ∈ dot1Record pNbr, entry ∈ nbrRecord b inetNtop pNbr := by
    intro entry h
    unfold nbrRecord
    rw [if_pos hb]
    exact List.mem_append_right _ (List.mem_cons_of_mem _ h)
  constructor
  · exact fit_of_recordSize (fun entry h => hsub entry (List.mem_append_left _ h))
      (by rintro h; rw [h]; exact ⟨rfl, rfl⟩) hsize hstr hint
  · exact fit_of_recordSize
      (fun entry h => hsub entry (List.mem_append_right _ (List.mem_append_left _ h)))
      (by rintro h; rw [h]; exact ⟨rfl, rfl⟩) hsize hint hint
  · exact fit_of_recordSize
      (fun entry h => hsub entry (List.mem_append_right _ (List.mem_append_right _ h)))
      (by rintro h; rw [h]; exact ⟨rfl, rfl⟩) hsize hstr hint

variable {u : KeyVals × List (Bytes × Bytes)}

/-- **What the function does**, when it gets to its end: the entries of the
record, and the map that is read back from them. -/
theorem lldpNbrUpdate_ok (hntop : inetNtop.Good)
    (hlen : pNbr.pIdSubtype ≠ LLDP_PORTID_SUBTYPE_LLADDR → (cstr (pNbr.pId.getD [])).length < 1024)
    (h : lldpNbrUpdate b inetNtop pNbr = .ok u) :
    (Terminated b pNbr ∧ (b.dot1 → FitDot1 pNbr)) ∧
      put (nbrRecord b inetNtop pNbr) .init = .ok u.1 ∧
      u.2 = (nbrRecord b inetNtop pNbr).map stored := by
  have hw := writes_nbr (b := b) hntop hlen {}
  obtain ⟨e, hrun, h⟩ := bind_eq_ok.1 h
  obtain ⟨m, hm, h⟩ := bind_eq_ok.1 h
  cases h
  by_cases hok : Terminated b pNbr ∧ (b.dot1 → FitDot1 pNbr)
  · obtain ⟨t, ht⟩ := hw.1 hok
    rw [ht] at hrun
    obtain ⟨kv, hput, rfl⟩ := map_eq_ok.1 hrun
    have hreads := put_reads ⟨rfl, .nil⟩ hput
    have hread := smapAdds_of_reads hreads
    rw [hm] at hread
    cases hread
    exact ⟨hok, hput, rfl⟩
  · obtain ⟨f, hf⟩ := hw.2 hok
    rw [hf] at hrun
    cases hrun

theorem run_error {action : Action} {actions : List Action} (hmem : action ∈ actions)
    (h : ∀ e, ∃ f, action e = .error f) (e : Enc) : ∃ f, run actions e = .error f := by
  induction actions generalizing e with
  | nil => cases hmem
  | cons a actions ih =>
    have hcons : run (a :: actions) e = a e >>= run actions := List.foldlM_cons
    rw [hcons]
    cases ha : a e with
    | error f => exact ⟨f, rfl⟩
    | ok e' =>
      rcases List.mem_cons.1 hmem with rfl | hmem
      · obtain ⟨f, hf⟩ := h e
        cases ha.symm.trans hf
      · exact ih hmem e'

/-- A text that does not fit `decode_str` is not written. -/
theorem lldpNbrUpdate_short (hu : lldpNbrUpdate b inetNtop pNbr = .ok u)
    (hsub : pNbr.pIdSubtype ≠ LLDP_PORTID_SUBTYPE_LLADDR) : (cstr (pNbr.pId.getD [])).length < 1024 := by
  by_contra hlong
  have hfail : ∀ e, ∃ f, encodePortId pNbr e = .error f := by
    intro e
    simp only [encodePortId, hsub]
    cases encodeProperty "port_id_subtype" portIdSubtypes pNbr.pIdSubtype.toNat e with
    | error f => exact ⟨f, rfl⟩
    | ok e =>
      by_cases hz : 0 ∈ pNbr.pId.getD []
      · have hset : ¬ (cstr (pNbr.pId.getD [])).length + 1 ≤ STR_BUF_DECODE_MAX := hlong
        simp [decodePId, readStr_of_mem hz, setDecodeStr, hset, bind, Except.bind]
      · simp [decodePId, readStr_of_notMem hz, bind, Except.bind]
  obtain ⟨f, hf⟩ := @run_error _ (nbrActions b inetNtop pNbr)
    (by simp [nbrActions, portActions]) hfail {}
  rw [lldpNbrUpdate, hf] at hu
  cases hu

/-- A record can be made of the neighbor: what is printed ends, the port identifier fits
`decode_str`, and names and texts fit 4096 bytes. -/
structure Recordable (b : Build) (inetNtop : InetNtop) (pNbr : NbrInfo) : Prop where
  terminated : Terminated b pNbr
  short : pNbr.pIdSubtype ≠ LLDP_PORTID_SUBTYPE_LLADDR → (cstr (pNbr.pId.getD [])).length < 1024
  size : recordSize (nbrRecord b inetNtop pNbr) ≤ KEY_VAL_STR_BUF_MAX

theorem update_inside_iff (hntop : inetNtop.Good) :
    (∃ u, lldpNbrUpdate b inetNtop pNbr = .ok u ∧
        ∀ offset ∈ u.1.offsets, offset ≤ KEY_VAL_STR_BUF_MAX) ↔
      Recordable b inetNtop pNbr := by
  have hinit : KeyVals.init.offset = 0 := rfl
  constructor
  · intro h
    obtain ⟨u, hu, hoff⟩ := h
    have hlen := lldpNbrUpdate_short hu
    obtain ⟨hok, hput, -⟩ := lldpNbrUpdate_ok hntop hlen hu
    have hend := put_offset hput
    have hlast := hoff u.1.offset (by simp [KeyVals.offsets])
    exact ⟨hok.1, hlen, by omega⟩
  · intro h
    obtain ⟨hterm, hlen, hsize⟩ := h
    have hoffset : KeyVals.init.offset + recordSize (nbrRecord b inetNtop pNbr) ≤
        KEY_VAL_STR_BUF_MAX := by omega
    have hmax : KeyVals.init.keyArray.length + (nbrRecord b inetNtop pNbr).length ≤ KEY_VAL_MAX := by
      show 0 + _ ≤ _
      rw [Nat.zero_add]
      exact nbrRecord_length
    obtain ⟨kv, hput⟩ := put_of_le hoffset hmax
    obtain ⟨t, ht⟩ := (writes_nbr hntop hlen {}).1
      ⟨hterm, fun hb => fitDot1_of_recordSize hb hsize⟩
    have hread := smapAdds_of_reads (put_reads ⟨rfl, .nil⟩ hput)
    refine ⟨(kv, [] ++ (nbrRecord b inetNtop pNbr).map stored), ?_, ?_⟩
    · unfold lldpNbrUpdate
      rw [ht, hput]
      show (smapAdds kv >>= fun m => pure (kv, m)) = _
      rw [hread]
      rfl
    · intro o ho
      have hall := put_offsets hput (by simp [KeyVals.offsets, KeyVals.init]) o ho
      have hend := put_offset hput
      omega

end Update

/-! ## The neighbors `lldp_decode` returns -/

section Decoded
variable {b : Build} {cos : Bytes} {d d' : Lldp.Dec} {t : Lldp.Tlv}

/-- The size of a TLV has nine bits. -/
theorem tlvs_size (rest : Bytes) : ∀ t ∈ Lldp.tlvs rest, t.size < 512 := by
  induction hn : rest.length using Nat.strongRecOn generalizing rest with
  | _ n ih =>
    cases ht : Lldp.tlvAt rest with
    | none =>
      rw [Lldp.tlvs_of_none ht]
      intro t h
      exact absurd h List.not_mem_nil
    | some t =>
      have hafter := Lldp.tlvAt_after ht
      have hsize : t.size < 512 := by
        unfold Lldp.tlvAt at ht
        split at ht
        · dsimp only at ht
          split at ht
          · cases ht
          · cases ht
            simp only [Lldp.Tlv.size, List.length_take]
            omega
        · cases ht
      rw [Lldp.tlvs_of_some ht]
      intro t' h
      rcases List.mem_cons.1 h with rfl | h
      · exact hsize
      · split at h
        · exact absurd h List.not_mem_nil
        · exact ih t.after.length (by omega) t.after rfl t' h

/-- Step lemma: a port identifier is one byte shorter than its TLV. -/
theorem applyTlv_pId (hd : (d.port.pId.getD []).length < 511) (ht : t.size < 512)
    (h : Lldp.applyTlv b cos d t = .ok d') : (d'.port.pId.getD []).length < 511 := by
  unfold Lldp.applyTlv at h
  split at h
  case h_3 =>
    split at h
    · cases h
    · cases h
      simp only [Option.getD_some, Lldp.Tlv.bytes, List.length_take]
      omega
  case h_9 =>
    obtain ⟨_, _, _, rfl⟩ := Lldp.applyMgmtAddr_ok h
    exact hd
  case h_10 =>
    rw [show d'.port.pId = d.port.pId from congrArg Lldp.Basic.pId (Lldp.applyOrg_basic h)]
    exact hd
  case h_11 => cases h
  all_goals
    split at h <;> cases h <;> exact hd

/-- Run lemma. -/
theorem applyTlvs_pId {ts : List Lldp.Tlv} (hd : (d.port.pId.getD []).length < 511)
    (hts : ∀ t ∈ ts, t.size < 512) (h : Lldp.applyTlvs b cos ts d = .ok d') :
    (d'.port.pId.getD []).length < 511 := by
  induction ts generalizing d with
  | nil =>
    cases h
    exact hd
  | cons t ts ih =>
    rw [Lldp.applyTlvs_cons, bind_eq_ok] at h
    obtain ⟨d1, h1, h⟩ := h
    exact ih (applyTlv_pId hd (hts t List.mem_cons_self) h1)
      (fun x hx => hts x (List.mem_cons_of_mem _ hx)) h

theorem lldpDecode_pId {stack : Buffer 32} {frame : Bytes}
    (h : Lldp.lldpDecode b stack frame = .ok d) : (d.port.pId.getD []).length < 511 := by
  obtain ⟨-, hd, -⟩ := Lldp.lldpDecode_accepted h
  exact applyTlvs_pId (by show 0 < 511; omega) (tlvs_size _) hd

end Decoded

/-- A port as the decoder returned it, with what `lldpd_decode` and the smart
filter note on it. -/
def Heard (port p : Port) : Prop :=
  p = { port with
    pChassis := p.pChassis, pLastchange := p.pLastchange, pLastupdate := p.pLastupdate,
    pLastframe := p.pLastframe, pProtocol := p.pProtocol, pHiddenIn := p.pHiddenIn,
    pHiddenOut := p.pHiddenOut }

/-- **The neighbor record, exactly.** For every frame that `lldp_decode` takes
and whatever chassis the port has by then, `lldp_nbr_update` stays inside its
arrays, reads only strings that end and keeps `offset` at 4096 or less if and
only if the port identifier, unless it is printed as an address, and every
protocol identity contain a NUL, and all names and texts take no more than
4096 bytes with a NUL behind each. -/
theorem record_inside_iff (b : Build) (inetNtop : InetNtop) (hntop : inetNtop.Good)
    (stack : Buffer 32) (frame : Bytes) (d : Lldp.Dec)
    (hdec : Lldp.lldpDecode b stack frame = .ok d) (p : Port) (hp : Heard d.port p)
    (gChassis : Heap Chassis) :
    (∃ u, lldpNbrUpdate b inetNtop (Ovsdb.lldpNbrUpdate gChassis p) = .ok u ∧
        ∀ offset ∈ u.1.offsets, offset ≤ KEY_VAL_STR_BUF_MAX) ↔
      Terminated b (Ovsdb.lldpNbrUpdate gChassis p) ∧
      recordSize (nbrRecord b inetNtop (Ovsdb.lldpNbrUpdate gChassis p)) ≤ KEY_VAL_STR_BUF_MAX := by
  have hlen := lldpDecode_pId hdec
  have hid : p.pId = d.port.pId := by
    rw [hp]
  have hshort : (cstr (p.pId.getD [])).length < 1024 := by
    have hle := strlen_le (p.pId.getD [])
    unfold strlen at hle
    rw [hid] at hle ⊢
    omega
  rw [update_inside_iff hntop]
  exact ⟨fun h => ⟨h.terminated, h.size⟩, fun h => ⟨h.1, fun _ => hshort, h.2⟩⟩

def ifnameFrame (name : Bytes) : Bytes :=
  Lldp.lldpFrame [2, 0, 0, 0, 0, 1]
    ([2, 7, 4, 2, 0, 0, 0, 0, 1, 4, UInt8.ofNat (name.length + 1), 5] ++ name ++
      [6, 2, 0, 120, 0, 0])

def ifnameDec (name : Bytes) : Lldp.Dec where
  chassis := { cIdSubtype := 4, cId := some [2, 0, 0, 0, 0, 1], cTtl := 120 }
  port := { pIdSubtype := 5, pId := some name }
  addrStrBuffer := Lldp.zeroStack
  gotend := true
  ttlReceived := true

def ovsdbBuild : Build := { Build.full with ovsdb := true }

def ifnamePort (name : Bytes) : Port :=
  { (ifnameDec name).port with pChassis := some 1, pProtocol := some .lldp }

theorem record_inside_eth0 :
    ∃ u, lldpNbrUpdate ovsdbBuild (fun _ _ => none)
        (Ovsdb.lldpNbrUpdate [(1, (ifnameDec (ascii "eth0" ++ [0])).chassis)]
          (ifnamePort (ascii "eth0" ++ [0]))) = .ok u ∧
      ∀ offset ∈ u.1.offsets, offset ≤ KEY_VAL_STR_BUF_MAX := by
  have hterm : Terminated ovsdbBuild (Ovsdb.lldpNbrUpdate
      [(1, (ifnameDec (ascii "eth0" ++ [0])).chassis)] (ifnamePort (ascii "eth0" ++ [0]))) :=
    ⟨fun _ => by decide, fun _ _ h => absurd h List.not_mem_nil⟩
  exact (record_inside_iff ovsdbBuild (fun _ _ => none) ⟨fun _ _ _ h => nomatch h⟩ Lldp.zeroStack
    (ifnameFrame (ascii "eth0" ++ [0])) (ifnameDec (ascii "eth0" ++ [0])) (by decide)
    (ifnamePort (ascii "eth0" ++ [0])) rfl
    [(1, (ifnameDec (ascii "eth0" ++ [0])).chassis)]).2 ⟨hterm, by decide⟩

/-- The port identifier `eth0` is sent without a NUL: the frame is accepted and
`lldp_nbr_update` reads behind the four bytes. -/
theorem ifname_unterminated :
    Lldp.lldpDecode ovsdbBuild Lldp.zeroStack (ifnameFrame (ascii "eth0")) =
        .ok (ifnameDec (ascii "eth0")) ∧
      lldpNbrUpdate ovsdbBuild (fun _ _ => none)
        (Ovsdb.lldpNbrUpdate [(1, (ifnameDec (ascii "eth0")).chassis)]
          (ifnamePort (ascii "eth0"))) = .error .oob := by
  have hrun : (match lldpNbrUpdate ovsdbBuild (fun _ _ => none)
      (Ovsdb.lldpNbrUpdate [(1, (ifnameDec (ascii "eth0")).chassis)] (ifnamePort (ascii "eth0"))) with
    | .error f => decide (f = .oob)
    | .ok _ => false) = true := by decide +kernel
  refine ⟨by decide, ?_⟩
  generalize lldpNbrUpdate _ _ _ = r at hrun ⊢
  cases r with
  | error f => rw [of_decide_eq_true hrun]
  | ok u => cases hrun

end Lldpd.Ovsdb.Record
