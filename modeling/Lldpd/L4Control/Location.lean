import Lldpd.L2Proto.Lldp.Safety
import Lldpd.L4Control.FixedPoint

/-!
# Locations of LLDP-MED in the library (`lib/atom-private.c`)

A location is an array of bytes, and what they mean depends on its format. A
client asks for the format first: only one that fits the length of the array is
answered.

* `location_inside_iff`: what is read of a location with a format is inside the
  array, but for a civic address of three bytes. There the country is one byte
  longer than the array, and the length of what is behind it wraps.
* `civic_list_iff`: the elements that are appended to a civic address are those
  that are read. Their number of bytes is kept in one byte and compared with a
  `char`, so more than 255 of them, or 127, hide the format.
-/
namespace Lldpd.Location
open Core FixedPoint

def LLDP_MED_LOCFORMAT_COORD : UInt8 := 1
def LLDP_MED_LOCFORMAT_CIVIC : UInt8 := 2
def LLDP_MED_LOCFORMAT_ELIN : UInt8 := 3

/-- `lldpctl_error_t` -/
inductive Error where
  | notExist | badValue | nomem
  deriving DecidableEq, Repr

/-! ## Reading -/

/-- A `char` of a platform, as a number. -/
def charValue (signed : Bool) (b : UInt8) : Int :=
  if signed ∧ 128 ≤ b.toNat then b.toNat - 256 else b.toNat

def load (data : Bytes) (i : Nat) : Run Error UInt8 :=
  match data[i]? with
  | some b => .ok b
  | none => .error (.fault .oob)

/-- `memcpy` from `data + i` -/
def copy (data : Bytes) (i n : Nat) : Run Error Bytes :=
  if i + n ≤ data.length then .ok ((data.drop i).take n) else .error (.fault .oob)

/-- The format, if the array is as long as it says.
mirrors atom-private.c:1858-1873 -/
def getFormat (signed : Bool) (loc : MedLoc) : Run Error UInt8 :=
  if loc.format = LLDP_MED_LOCFORMAT_COORD then
    if loc.data.length ≠ 16 then .error (.refused .notExist) else .ok LLDP_MED_LOCFORMAT_COORD
  else if loc.format = LLDP_MED_LOCFORMAT_CIVIC then
    if loc.data.length < 3 then .error (.refused .notExist)
    else do
      let b ← load loc.data 0
      if loc.data.length - 1 ≠ charValue signed b then .error (.refused .notExist)
      else .ok LLDP_MED_LOCFORMAT_CIVIC
  else if loc.format = LLDP_MED_LOCFORMAT_ELIN then .ok LLDP_MED_LOCFORMAT_ELIN
  else .ok 0

/-- A getter that answers for one format only. -/
def only {α : Type} (format : UInt8) (loc : MedLoc) (r : Run Error α) : Run Error α :=
  if loc.format ≠ format then .error (.refused .notExist) else r

def getGeoid (signed : Bool) (loc : MedLoc) : Run Error Int :=
  only LLDP_MED_LOCFORMAT_COORD loc ((load loc.data 15).map (charValue signed))

def getAltitudeUnit (loc : MedLoc) : Run Error UInt8 :=
  only LLDP_MED_LOCFORMAT_COORD loc ((load loc.data 10).map fun b : UInt8 => (b &&& 0xf0) >>> 4)

/-- What `read_fixed_precision` prints. -/
def readFixedPrecision (loc : MedLoc) (shift intbits fltbits : Nat) : Run Error FpNumber :=
  only LLDP_MED_LOCFORMAT_COORD loc ((fpBuftofp loc.data intbits fltbits shift).mapError fun
    | .outside => .fault .oob
    | .diverge => .fault .diverge
    | _ => .fault .overflow)

def getLatitude (loc : MedLoc) : Run Error FpNumber := readFixedPrecision loc 0 9 25

def getLongitude (loc : MedLoc) : Run Error FpNumber := readFixedPrecision loc 40 9 25

def getAltitude (loc : MedLoc) : Run Error FpNumber := readFixedPrecision loc 84 22 8

def getCountry (loc : MedLoc) : Run Error Bytes := only LLDP_MED_LOCFORMAT_CIVIC loc (copy loc.data 2 2)

def getElin (loc : MedLoc) : Run Error Bytes :=
  only LLDP_MED_LOCFORMAT_ELIN loc (copy loc.data 0 loc.data.length)

/-- mirrors private.h:237-243 -/
structure CaElement where
  type : Int
  value : Bytes
  deriving DecidableEq, Repr

/-- A loop over the elements from `data + i` on, with `left` bytes to go. An element that is
not all there ends it.
mirrors atom-private.c:2234-2259 -/
def walk (data : Bytes) : Nat → Nat → Nat → Run Error (List CaElement)
  | 0, _, _ => .error (.fault .diverge)
  | turns + 1, i, left =>
    if left < 2 then .ok []
    else do
      let len ← load data (i + 1)
      if left < 2 + len.toNat then .ok []
      else
        let type ← load data i
        let value ← copy data (i + 2) len.toNat
        let els ← walk data turns (i + 2 + len.toNat) (left - (2 + len.toNat))
        .ok (⟨type.toNat, value⟩ :: els)

/-- `data_len - 4` as a `size_t` -/
def behindCountry (len : Nat) : Nat := if len < 4 then 18446744073709551616 + len - 4 else len - 4

/-- The elements of a civic address. No turn of the loop is without two bytes of the array.
mirrors atom-private.c:2222-2232 -/
def caElements (loc : MedLoc) : Run Error (List CaElement) :=
  only LLDP_MED_LOCFORMAT_CIVIC loc
    (walk loc.data (loc.data.length + 1) 4 (behindCountry loc.data.length))

/-! ## Writing -/

/-- A new element, before it has a type and a value. -/
def newCaelement : CaElement := ⟨-1, []⟩

/-- mirrors atom-private.c:2305-2332 -/
def setType (hardware : Bool) (type : Int) (el : CaElement) : Run Error CaElement :=
  if hardware = false then .error (.refused .notExist)
  else if type ≤ 0 ∨ 128 < type then .error (.refused .badValue)
  else .ok { el with type := type }

/-- mirrors atom-private.c:2356-2392 -/
def setValue (hardware : Bool) (value : Bytes) (el : CaElement) : Run Error CaElement :=
  if hardware = false then .error (.refused .notExist)
  else if 251 < strlen value + 1 then .error (.refused .badValue)
  else .ok { el with value := cstr value }

def CaElement.encode (el : CaElement) : Bytes :=
  [UInt8.ofInt el.type, UInt8.ofNat el.value.length] ++ el.value

/-- mirrors atom-private.c:2168-2215 -/
def setCaElement (hardware malloc : Bool) (loc : MedLoc) (el : CaElement) : Run Error MedLoc :=
  if hardware = false then .error (.refused .notExist)
  else if loc.format ≠ LLDP_MED_LOCFORMAT_CIVIC ∨ loc.data.length < 3 then .error (.refused .badValue)
  else if malloc = false then .error (.refused .nomem)
  else .ok { loc with
    data := (loc.data ++ el.encode).modify 0 (· + UInt8.ofNat (2 + el.value.length)) }

/-- What the format CIVIC stores in a location.
mirrors atom-private.c:1915-1929 -/
def civic : MedLoc := ⟨LLDP_MED_LOCFORMAT_CIVIC, [3, 2, 85, 83]⟩

/-! ## Inside the array -/

/-- No getter reads outside of the array, and the loop over the elements ends. -/
structure Inside (signed : Bool) (loc : MedLoc) : Prop where
  geoid : Safe (getGeoid signed loc)
  altitudeUnit : Safe (getAltitudeUnit loc)
  latitude : Safe (getLatitude loc)
  longitude : Safe (getLongitude loc)
  altitude : Safe (getAltitude loc)
  country : Safe (getCountry loc)
  elin : Safe (getElin loc)
  caElements : Safe (caElements loc)

section Reads
variable {signed : Bool} {loc : MedLoc} {data : Bytes} {i n : Nat} {α β : Type}

theorem safe_only {format : UInt8} {r : Run Error α} (h : loc.format = format → Safe r) :
    Safe (only format loc r) := by
  unfold only
  split
  · exact safe_refused _
  · rename_i hf
    exact h (not_not.1 hf)

theorem load_of_lt (h : i < data.length) : load data i = .ok data[i] := by
  unfold load
  rw [List.getElem?_eq_getElem h]

theorem copy_of_le (h : i + n ≤ data.length) : copy data i n = .ok ((data.drop i).take n) := if_pos h

theorem safe_load_map (h : i < data.length) (f : UInt8 → α) : Safe ((load data i).map f) := by
  rw [load_of_lt h]
  exact safe_ok _

theorem safe_readFixedPrecision {shift intbits fltbits : Nat} (hbits : 0 < fltbits)
    (h : loc.format = LLDP_MED_LOCFORMAT_COORD → shift + 6 + intbits + fltbits < 8 * loc.data.length) :
    Safe (readFixedPrecision loc shift intbits fltbits) := by
  apply safe_only
  intro hf
  obtain ⟨fp, hfp⟩ := fpBuftofp_inside hbits (h hf)
  rw [hfp]
  exact safe_ok _

/-- An element that is there lies inside what is left. -/
theorem safe_walk {turns left : Nat} (hturns : left < turns) (h : i + left ≤ data.length) :
    Safe (walk data turns i left) := by
  induction turns generalizing i left with
  | zero => omega
  | succ turns ih =>
    unfold walk
    split
    · exact safe_ok _
    rw [load_of_lt (by omega), ok_bind]
    split
    · exact safe_ok _
    rw [load_of_lt (by omega), copy_of_le (by omega)]
    apply Safe.bind (ih (by omega) (by omega))
    intro els _
    exact safe_ok _

theorem inside_of_long (hcoord : loc.format = LLDP_MED_LOCFORMAT_COORD → loc.data.length = 16)
    (hcivic : loc.format = LLDP_MED_LOCFORMAT_CIVIC → 4 ≤ loc.data.length) : Inside signed loc where
  geoid := safe_only fun hf => safe_load_map (by have := hcoord hf; omega) _
  altitudeUnit := safe_only fun hf => safe_load_map (by have := hcoord hf; omega) _
  latitude := safe_readFixedPrecision (by decide) fun hf => by rw [hcoord hf]; decide
  longitude := safe_readFixedPrecision (by decide) fun hf => by rw [hcoord hf]; decide
  altitude := safe_readFixedPrecision (by decide) fun hf => by rw [hcoord hf]; decide
  country := safe_only fun hf => by
    rw [copy_of_le (hcivic hf)]
    exact safe_ok _
  elin := safe_only fun _ => by
    rw [copy_of_le (by omega)]
    exact safe_ok _
  caElements := safe_only fun hf => by
    have hlen := hcivic hf
    unfold behindCountry
    rw [if_neg (by omega)]
    exact safe_walk (by omega) (by omega)

end Reads

/-- **What is read is inside of the array**, of every location that has a format, unless it is
a civic address of three bytes. -/
theorem location_inside_iff (signed : Bool) (loc : MedLoc) (format : UInt8)
    (h : getFormat signed loc = .ok format) :
    Inside signed loc ↔ ¬ (loc.format = LLDP_MED_LOCFORMAT_CIVIC ∧ loc.data.length = 3) := by
  constructor
  · rintro hin ⟨hf, hlen⟩
    refine hin.country .oob ?_
    unfold getCountry only copy
    rw [if_neg (not_not.2 hf), if_neg (by omega)]
  · intro hlen
    unfold getFormat at h
    refine inside_of_long (fun hf => ?_) (fun hf => ?_)
    · rw [if_pos hf] at h
      split at h
      · cases h
      · rename_i hsize
        exact not_not.1 hsize
    · have hne : loc.format ≠ LLDP_MED_LOCFORMAT_COORD := by
        rw [hf]
        decide
      rw [if_neg hne, if_pos hf] at h
      split at h
      · cases h
      · have hne3 : loc.data.length ≠ 3 := fun h3 => hlen ⟨hf, h3⟩
        omega

/-- A country and three elements, one of them empty. -/
def civicAddress : MedLoc :=
  ⟨LLDP_MED_LOCFORMAT_CIVIC, [12, 2, 85, 83, 1, 2, 67, 65, 6, 1, 77, 19, 0]⟩

theorem location_inside_civic : getFormat true civicAddress = .ok LLDP_MED_LOCFORMAT_CIVIC ∧
    caElements civicAddress = .ok [⟨1, [67, 65]⟩, ⟨6, [77]⟩, ⟨19, []⟩] ∧ Inside true civicAddress :=
  ⟨by decide, by decide, (location_inside_iff true civicAddress LLDP_MED_LOCFORMAT_CIVIC
    (by decide)).2 (by decide)⟩

/-- A frame whose location is a civic address of three bytes. -/
def shortCivic : Bytes :=
  Lldp.LLDP_MULTICAST_ADDR ++ [2, 0, 0, 0, 0, 1, 0x88, 0xcc, 2, 2, 7, 65, 4, 2, 7, 65, 6, 2, 0, 120,
    0xfe, 8, 0x00, 0x12, 0xbb, 3, 2, 2, 2, 85, 0, 0]

/-- It is stored and has a format, and its country and its elements are outside. -/
theorem location_outside : ∃ d ∈ (Lldp.lldpDecode .full Lldp.zeroStack shortCivic).toOption,
    ∃ loc ∈ d.port.pMedLocation[1]?, getFormat true loc = .ok LLDP_MED_LOCFORMAT_CIVIC ∧
      getCountry loc = .error (.fault .oob) ∧ caElements loc = .error (.fault .oob) := by
  decide

/-! ## A list of elements -/

/-- An element that both setters have accepted. -/
def Accepted (el : CaElement) : Prop :=
  ∃ type value, (setType true type newCaelement >>= setValue true value) = .ok el

def total (els : List CaElement) : Nat := (els.map fun el => 2 + el.value.length).sum

def appendAll (els : List CaElement) : Run Error MedLoc := els.foldlM (setCaElement true true) civic

section Elements
variable {els : List CaElement} {el : CaElement}

theorem Accepted.bounds (h : Accepted el) :
    0 < el.type ∧ el.type ≤ 128 ∧ el.value.length ≤ 250 := by
  obtain ⟨type, value, h⟩ := h
  unfold setType setValue at h
  rw [if_neg (by decide)] at h
  split at h
  · cases h
  rw [ok_bind, if_neg (by decide)] at h
  split at h
  · cases h
  cases h
  unfold strlen at *
  dsimp only
  omega

theorem length_encode (el : CaElement) : el.encode.length = 2 + el.value.length := by
  rw [CaElement.encode, List.length_append]
  rfl

theorem length_flatMap_encode (els : List CaElement) :
    (els.flatMap CaElement.encode).length = total els := by
  rw [total]
  simp [length_encode]

/-- Run lemma: every element is appended, and the first byte counts modulo 256. -/
theorem foldlM_setCaElement (n : Nat) (bs : Bytes) :
    els.foldlM (setCaElement true true)
        ⟨LLDP_MED_LOCFORMAT_CIVIC, UInt8.ofNat n :: 2 :: 85 :: 83 :: bs⟩ =
      .ok ⟨LLDP_MED_LOCFORMAT_CIVIC,
        UInt8.ofNat (n + total els) :: 2 :: 85 :: 83 :: (bs ++ els.flatMap CaElement.encode)⟩ := by
  induction els generalizing n bs with
  | nil => simp [total]
  | cons el els ih =>
    have hstep : setCaElement true true ⟨LLDP_MED_LOCFORMAT_CIVIC,
        UInt8.ofNat n :: 2 :: 85 :: 83 :: bs⟩ el =
        .ok ⟨LLDP_MED_LOCFORMAT_CIVIC,
          UInt8.ofNat (n + (2 + el.value.length)) :: 2 :: 85 :: 83 :: (bs ++ el.encode)⟩ := by
      simp [setCaElement]
    rw [List.foldlM_cons, hstep, ok_bind, ih, List.append_assoc, Nat.add_assoc]
    rfl

def appended (els : List CaElement) : MedLoc :=
  ⟨LLDP_MED_LOCFORMAT_CIVIC,
    UInt8.ofNat (3 + total els) :: 2 :: 85 :: 83 :: els.flatMap CaElement.encode⟩

theorem appendAll_eq (els : List CaElement) : appendAll els = .ok (appended els) :=
  foldlM_setCaElement 3 []

theorem length_appended (els : List CaElement) : (appended els).data.length = 4 + total els := by
  simp only [appended, List.length_cons, length_flatMap_encode]
  omega

theorem head_appended (els : List CaElement) :
    (appended els).data.head? = some (UInt8.ofNat (3 + total els)) := rfl

/-- The length is compared with its byte as a `char`. -/
theorem getFormat_appended (signed : Bool) (els : List CaElement) : getFormat signed (appended els) =
    if 3 + total els ≤ if signed then 127 else 255 then .ok LLDP_MED_LOCFORMAT_CIVIC
    else .error (.refused .notExist) := by
  have hfits : ((4 + total els : Nat) : Int) - 1 ≠ charValue signed (UInt8.ofNat (3 + total els)) ↔
      ¬ 3 + total els ≤ if signed then 127 else 255 := by
    unfold charValue
    rw [UInt8.toNat_ofNat']
    cases signed with
    | false =>
      simp only [Bool.false_eq_true, false_and, if_false]
      omega
    | true =>
      simp only [true_and, if_true]
      split <;> omega
  have hload : load (appended els).data 0 = .ok (UInt8.ofNat (3 + total els)) := rfl
  have hformat : (appended els).format = LLDP_MED_LOCFORMAT_CIVIC := rfl
  unfold getFormat
  rw [hformat, if_neg (by decide), if_pos rfl, length_appended, if_neg (by omega), hload, ok_bind]
  simp only [hfits, ite_not]

theorem toNat_ofInt_type (h : Accepted el) : ((UInt8.ofInt el.type).toNat : Int) = el.type := by
  obtain ⟨hpos, hle, -⟩ := h.bounds
  unfold UInt8.ofInt
  rw [UInt8.toNat_ofNat']
  omega

theorem toNat_ofNat_length (h : Accepted el) :
    (UInt8.ofNat el.value.length).toNat = el.value.length := by
  obtain ⟨-, -, hlen⟩ := h.bounds
  rw [UInt8.toNat_ofNat', Nat.mod_eq_of_lt (by omega)]

theorem load_eq_of_drop {data rest : Bytes} {i k : Nat} (h : data.drop i = rest) :
    load data (i + k) = load rest k := by
  unfold load
  rw [← h, List.getElem?_drop]

/-- The loop reads what was appended, whatever is in front. -/
theorem walk_encode {data : Bytes} {i turns : Nat} (h : ∀ el ∈ els, Accepted el)
    (hdata : data.drop i = els.flatMap CaElement.encode) (hturns : total els < turns) :
    walk data turns i (total els) = .ok els := by
  induction els generalizing i turns with
  | nil =>
    match turns, hturns with
    | turns + 1, _ => rfl
  | cons el els ih =>
    match turns, hturns with
    | turns + 1, hturns =>
      have hel := h el List.mem_cons_self
      have htotal : total (el :: els) = 2 + el.value.length + total els := rfl
      have hcons : data.drop i = UInt8.ofInt el.type :: UInt8.ofNat el.value.length ::
          (el.value ++ els.flatMap CaElement.encode) := by
        rw [hdata]
        simp [CaElement.encode]
      have hvalue : data.drop (i + 2) = el.value ++ els.flatMap CaElement.encode := by
        rw [← List.drop_drop, hcons]
        rfl
      have hrest : data.drop (i + 2 + el.value.length) = els.flatMap CaElement.encode := by
        rw [← List.drop_drop, hvalue, List.drop_left]
      have hlength : i + 2 + el.value.length ≤ data.length := by
        have := congrArg List.length hcons
        simp only [List.length_drop, List.length_cons, List.length_append] at this
        omega
      have hcopy : copy data (i + 2) el.value.length = .ok el.value := by
        rw [copy_of_le hlength, hvalue, List.take_left]
      have htail := @ih (i + 2 + el.value.length) turns (fun el hel => h el (List.mem_cons_of_mem _ hel))
        hrest (by omega)
      have htype : load data i = .ok (UInt8.ofInt el.type) := load_eq_of_drop (k := 0) hcons
      have hlen : load data (i + 1) = .ok (UInt8.ofNat el.value.length) := load_eq_of_drop hcons
      rw [walk, if_neg (by omega), hlen, ok_bind, toNat_ofNat_length hel, if_neg (by omega), htype,
        ok_bind, hcopy, ok_bind, htotal, Nat.add_sub_cancel_left, htail, ok_bind, toNat_ofInt_type hel]

end Elements

/-- **The elements that are appended are read back**, and nothing is refused. Their length is
right while it fits its byte, and there is a format while it fits a `char`. -/
theorem civic_list_iff (signed : Bool) (els : List CaElement) (h : ∀ el ∈ els, Accepted el) :
    ∃ loc, appendAll els = .ok loc ∧ caElements loc = .ok els ∧
      ((loc.data.head?.map UInt8.toNat = some (loc.data.length - 1)) ↔ 3 + total els ≤ 255) ∧
      (getFormat signed loc = .ok LLDP_MED_LOCFORMAT_CIVIC ↔
        3 + total els ≤ if signed then 127 else 255) := by
  refine ⟨_, appendAll_eq els, ?_, ?_, ?_⟩
  · unfold caElements only behindCountry
    rw [if_neg (fun hne => hne rfl), length_appended, if_neg (by omega), Nat.add_sub_cancel_left]
    exact walk_encode h rfl (by omega)
  · rw [head_appended, length_appended, Option.map_some, UInt8.toNat_ofNat', Option.some_inj]
    omega
  · rw [getFormat_appended]
    by_cases hfits : 3 + total els ≤ if signed then 127 else 255
    · rw [if_pos hfits]
      exact iff_of_true rfl hfits
    · rw [if_neg hfits]
      exact iff_of_false nofun hfits

theorem civic_list_three : ∃ loc, appendAll [⟨1, [67, 65]⟩, ⟨6, [77]⟩, ⟨19, []⟩] = .ok loc ∧
    caElements loc = .ok [⟨1, [67, 65]⟩, ⟨6, [77]⟩, ⟨19, []⟩] ∧
    loc.data.head?.map UInt8.toNat = some (loc.data.length - 1) ∧
    getFormat true loc = .ok LLDP_MED_LOCFORMAT_CIVIC := by
  have haccepted : ∀ el ∈ ([⟨1, [67, 65]⟩, ⟨6, [77]⟩, ⟨19, []⟩] : List CaElement), Accepted el :=
    List.forall_mem_cons.2 ⟨⟨1, [67, 65], by decide⟩, List.forall_mem_cons.2
      ⟨⟨6, [77], by decide⟩, List.forall_mem_singleton.2 ⟨19, [], by decide⟩⟩⟩
  obtain ⟨loc, happend, hread, hlength, hformat⟩ := civic_list_iff true _ haccepted
  exact ⟨loc, happend, hread, hlength.2 (by decide), hformat.2 (by decide)⟩

/-- An element of type 1 that has `n` letters. -/
def letters (n : Nat) : CaElement := ⟨1, List.replicate n 97⟩

theorem accepted_letters {n : Nat} (h : n ≤ 250) : Accepted (letters n) := by
  have hnoNul : 0 ∉ List.replicate n (97 : UInt8) := fun hmem =>
    absurd (List.eq_of_mem_replicate hmem) (by decide)
  refine ⟨1, List.replicate n 97, ?_⟩
  rw [show setType true 1 newCaelement = .ok ⟨1, []⟩ from rfl, ok_bind, setValue, if_neg (by decide),
    strlen, cstr_eq_self hnoNul, List.length_replicate, if_neg (by omega)]
  rfl

/-- One element of 123 bytes is too much for a `char` with a sign, and two of 125 bytes for
every byte: the location has no format any more, and its length says 1. -/
theorem civic_format_lost : Accepted (letters 123) ∧ Accepted (letters 125) ∧
    (∃ loc, appendAll [letters 123] = .ok loc ∧ getFormat true loc = .error (.refused .notExist)) ∧
    ∃ loc, appendAll [letters 125, letters 125] = .ok loc ∧ loc.data.length = 258 ∧
      loc.data.head? = some 1 ∧ getFormat false loc = .error (.refused .notExist) := by
  have hone : total [letters 123] = 125 := by simp [total, letters]
  have htwo : total [letters 125, letters 125] = 254 := by simp [total, letters]
  refine ⟨accepted_letters (by decide), accepted_letters (by decide),
    ⟨_, appendAll_eq _, ?_⟩, ⟨_, appendAll_eq _, ?_, ?_, ?_⟩⟩
  · rw [getFormat_appended, hone]
    rfl
  · rw [length_appended, htwo]
  · rw [head_appended, htwo]
    rfl
  · rw [getFormat_appended, htwo]
    rfl

end Lldpd.Location
