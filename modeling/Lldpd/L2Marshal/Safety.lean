import Lldpd.Core.Text
import Lldpd.L2Marshal.Unserialize

/-!
# What any message does

The message comes from whoever is connected, so nothing is known of its bytes. A
call reads only the message and writes only to the objects that it has made, the
recursion ends, and it returns 0 or how much it has read: `unserialize_returns`.

* `lengths_some` is what the tests at the start of a call ensure.
* `SafeBelow` says what a call does, for messages shorter than a bound. A field's
  record lies behind the header of its structure, so it is shorter than the whole,
  and the fuel that the bound stands for is enough.
* `Reads` is that one call comes to another one. A string that does not fit makes
  all of them return 0.

The length of a structure is kept in an `int`. One of 2^32 bytes has the length 0,
and its fields are not in the object that is made (`unserialize_huge`).
-/
namespace Lldpd.Marshal
open Core

variable {ι : Type}

structure Info.Inside (tbl : Table ι) (info : Info ι) : Prop where
  string : info.form ≠ .struct → info.pointers = [] ∧ info.size = 0
  field : ∀ f ∈ info.pointers, f.offset + f.width tbl ≤ info.size
  length : ∀ f ∈ info.pointers, f.offset2 ≠ 0 → f.offset2 + 4 ≤ info.size

def FieldsInside (tbl : Table ι) : Prop := ∀ t, (tbl t).Inside tbl

/-- No structure is so large that its length wraps to another one. -/
def Countable (tbl : Table ι) : Prop := ∀ t, serializedSize + (tbl t).size < 0x100000000

theorem isInt_toInt32 (n : Int) : IsInt (toInt32 n) := by
  unfold IsInt toInt32
  omega

/-! ## The tests on the length -/

/-- What is known when a call goes on. -/
structure Measured (info : Info ι) (buffer : Bytes) (skip : Bool) (totalLen size : Int) : Prop where
  header : serializedSize ≤ totalLen
  le : totalLen ≤ buffer.length
  copied : skip = false → 0 ≤ size ∧ serializedSize + size.toNat ≤ buffer.length
  struct : skip = false → info.form = .struct → size = info.size

/-- The length of the header and of the structure, when it is not too much. -/
theorem total_of_le {size len : Nat} (hsmall : serializedSize + size < 0x100000000)
    (hlen : len < 0x80000000) (h : toSize (toInt32 ((serializedSize : Nat) + size)) ≤ len) :
    toInt32 ((serializedSize : Nat) + size) = serializedSize + size ∧ serializedSize + size ≤ len := by
  unfold toInt32 toSize at *
  omega

variable {osize size totalLen : Int}

theorem size_of_le {len : Nat} (hsize : IsInt size) (hlen : len < 0x80000000)
    (h : toSize size ≤ len) : 0 ≤ size ∧ size.toNat ≤ len := by
  unfold IsInt toSize at *
  omega

/-- A string has no structure, so only the header is in front of it. -/
theorem measured_string {tbl : Table ι} {info : Info ι} {buffer : Bytes} {skip : Bool}
    {copied : Nat} (hin : info.Inside tbl) (hform : info.form ≠ .struct)
    (hlen : buffer.length < 0x80000000) (hle : copied ≤ info.size)
    (hroom : serializedSize + copied ≤ buffer.length) (hosize : IsInt osize)
    (h : (if buffer.length - serializedSize < toSize osize then none
      else some (toInt32 ((serializedSize : Nat) + copied + osize), osize)) = some (totalLen, size)) :
    Measured info buffer skip totalLen size := by
  have hzero := (hin.string hform).2
  split at h
  · cases h
  rename_i hfits
  obtain ⟨hpos, hle'⟩ := size_of_le hosize (by omega) (Nat.not_lt.1 hfits)
  obtain ⟨htot, hsize⟩ := Prod.mk.inj (Option.some.inj h)
  rw [toInt32_of_lt (by omega) (by omega)] at htot
  rw [← hsize]
  exact ⟨by omega, by omega, fun _ => ⟨hpos, by omega⟩, fun _ hstruct => absurd hstruct hform⟩

theorem lengths_some {tbl : Table ι} {info : Info ι} {buffer : Bytes} {skip : Bool}
    (hin : info.Inside tbl) (hsmall : serializedSize + info.size < 0x100000000)
    (hlen : buffer.length < 0x80000000) (hosize : IsInt osize)
    (h : lengths info buffer skip osize = some (totalLen, size)) :
    Measured info buffer skip totalLen size := by
  unfold lengths at h
  generalize hcopied : (if skip then 0 else info.size) = copied at h
  have hle : copied ≤ info.size := by
    rw [← hcopied]
    split
    · exact Nat.zero_le _
    · exact Nat.le_refl _
  by_cases hfirst : buffer.length < serializedSize ∨
      buffer.length < toSize (toInt32 ((serializedSize : Nat) + copied))
  · rw [if_pos hfirst] at h
    cases h
  rw [if_neg hfirst] at h
  obtain ⟨htotal, hroom⟩ := total_of_le (by omega) hlen (Nat.not_lt.1 fun hlt => hfirst (.inr hlt))
  rw [htotal] at h
  cases hform : info.form with
  | struct =>
    rw [hform] at h
    obtain ⟨htot, hsize⟩ := Prod.mk.inj (Option.some.inj h)
    dsimp only at hsize
    rw [← hsize]
    refine ⟨by omega, by omega, fun hskip => ?_, fun hskip _ => ?_⟩
    · subst hskip
      have hall : info.size = copied := hcopied
      rw [toInt32_of_lt (by omega) (by omega)]
      omega
    · subst hskip
      have hall : info.size = copied := hcopied
      exact toInt32_of_lt (by omega) (by omega)
  | nullString =>
    rw [hform, if_neg (by decide)] at h
    exact measured_string hin (by rw [hform]; decide) hlen hle hroom (isInt_toInt32 _) h
  | fixedString =>
    rw [hform] at h
    exact measured_string hin (by rw [hform]; decide) hlen hle hroom hosize h

/-! ## The objects -/

def Room (pointers : List (Gc ι)) (output : Place) (size : Nat) : Prop :=
  ∃ gc, pointers[output.object]? = some gc ∧ output.base + size ≤ gc.object.length

def Extends (pointers pointers' : List (Gc ι)) : Prop :=
  ∀ (i : Nat) (gc : Gc ι), pointers[i]? = some gc →
    ∃ gc' : Gc ι, pointers'[i]? = some gc' ∧ gc'.object.length = gc.object.length

section Objects
variable {pointers pointers' pointers'' : List (Gc ι)} {output : Place} {size offset n : Nat}

theorem Extends.refl (pointers : List (Gc ι)) : Extends pointers pointers :=
  fun _ gc h => ⟨gc, h, rfl⟩

theorem Extends.trans (h : Extends pointers pointers') (h' : Extends pointers' pointers'') :
    Extends pointers pointers'' := by
  intro i gc hgc
  obtain ⟨gc', hgc', hlen⟩ := h i gc hgc
  obtain ⟨gc'', hgc'', hlen'⟩ := h' i gc' hgc'
  exact ⟨gc'', hgc'', hlen'.trans hlen⟩

variable (h : Room pointers output size)
include h

theorem Room.extends (hext : Extends pointers pointers') : Room pointers' output size := by
  obtain ⟨gc, hgc, hle⟩ := h
  obtain ⟨gc', hgc', hlen⟩ := hext _ gc hgc
  exact ⟨gc', hgc', by omega⟩

theorem load_of_room (hle : offset + n ≤ size) : ∃ bs, load pointers output offset n = .ok bs := by
  obtain ⟨gc, hgc, hroom⟩ := h
  unfold load
  rw [hgc]
  dsimp only
  rw [if_pos (by omega)]
  exact ⟨_, rfl⟩

theorem store_of_room {bs : Bytes} (hle : offset + bs.length ≤ size) :
    ∃ pointers', store pointers output offset bs = .ok pointers' ∧ Extends pointers pointers' := by
  obtain ⟨gc, hgc, hroom⟩ := h
  unfold store
  rw [hgc]
  dsimp only
  rw [if_pos (by omega)]
  refine ⟨_, rfl, ?_⟩
  intro i gc' hgc'
  by_cases hi : output.object = i
  · subst hi
    cases hgc.symm.trans hgc'
    exact ⟨_, List.getElem?_set_self (List.getElem?_eq_some_iff.1 hgc).1, patch_length (by omega)⟩
  · exact ⟨gc', (List.getElem?_set_ne hi).trans hgc', rfl⟩

end Objects

/-! ## What a call does -/

/-- It returns 0, or how much of the message it has read. -/
def Returns (pointers : List (Gc ι)) (len : Nat) (r : Except (Halt ι) (Int × List (Gc ι))) : Prop :=
  (∃ pointers', r = .error (.refused pointers')) ∨
    ∃ n pointers', r = .ok (n, pointers') ∧ (serializedSize : Int) ≤ n ∧ n ≤ len ∧
      Extends pointers pointers'

/-- What holds of the arguments of a call, for messages shorter than `bound`. -/
structure Proper (tbl : Table ι) (bound : Nat) (mi : ι) (buffer : Bytes) (output : Place)
    (pointers : List (Gc ι)) (skip : Bool) (osize : Int) : Prop where
  bound : buffer.length < bound
  len : buffer.length < 0x80000000
  osize : IsInt osize
  room : skip = true → Room pointers output (tbl mi).size

def SafeBelow (tbl : Table ι) (bound : Nat) (rec : Unserialize ι) : Prop :=
  ∀ mi buffer output pointers skip osize,
    Proper tbl bound mi buffer output pointers skip osize →
      Returns pointers buffer.length (rec mi buffer output pointers skip osize)

/-- What holds in front of a field of a structure of `size` bytes. -/
structure Going (buffer : Bytes) (output : Place) (size : Nat) (st : Unserializing ι) : Prop where
  header : (serializedSize : Int) ≤ st.totalLen
  le : st.totalLen ≤ buffer.length
  osize : IsInt st.osize
  room : Room st.pointers output size

/-- A field is dealt with, or the call returns 0. -/
def Goes (buffer : Bytes) (output : Place) (size : Nat) (pointers : List (Gc ι))
    (r : Except (Halt ι) (Unserializing ι)) : Prop :=
  (∃ pointers', r = .error (.refused pointers')) ∨
    ∃ st, r = .ok st ∧ Going buffer output size st ∧ Extends pointers st.pointers

section Calls
variable {tbl : Table ι} {mem : Memory} {rec : Unserialize ι} {buffer : Bytes} {output : Place}
  {size : Nat} {st : Unserializing ι} {f : Subinfo ι}

/-- The length that goes with a field. -/
def osizeOf (output : Place) (st : Unserializing ι) (f : Subinfo ι) : Except (Halt ι) Int :=
  if f.offset2 = 0 then .ok st.osize
  else (load st.pointers output f.offset2 4).map fun bs => toInt32 (leNat bs)

theorem osizeOf_eq (hg : Going buffer output size st) (h2 : f.offset2 ≠ 0 → f.offset2 + 4 ≤ size) :
    ∃ osize, osizeOf output st f = .ok osize ∧ IsInt osize := by
  unfold osizeOf
  split
  · exact ⟨_, rfl, hg.osize⟩
  · rename_i hne
    obtain ⟨bs, hbs⟩ := load_of_room hg.room (h2 hne)
    rw [hbs]
    exact ⟨_, rfl, isInt_toInt32 _⟩

theorem nextOffset_eq {totalLen : Int} {len : Nat} (hlen : len < 0x80000000) (h : 0 ≤ totalLen)
    (hle : totalLen ≤ len) : nextOffset totalLen = totalLen.toNat + padlen totalLen.toNat ∧
      toSize totalLen = totalLen.toNat := by
  have hsize : toSize totalLen = totalLen.toNat := toSize_of_nonneg h (by omega)
  unfold nextOffset
  unfold padlen
  omega

theorem next_safe (hsafe : SafeBelow tbl buffer.length rec) (hlen : buffer.length < 0x80000000)
    (hg : Going buffer output size st) (hin : f.offset + f.width tbl ≤ size)
    (h2 : f.offset2 ≠ 0 → f.offset2 + 4 ≤ size) :
    Goes buffer output size st.pointers (unserializeNext mem rec buffer output st f) := by
  have hheader := hg.header
  have hle := hg.le
  unfold serializedSize at hheader
  obtain ⟨hnext, hsize⟩ := nextOffset_eq hlen (by omega) hle
  obtain ⟨osize, hosize, hint⟩ := osizeOf_eq hg h2
  unfold osizeOf at hosize
  unfold unserializeNext
  rw [hosize, ok_bind]
  dsimp only
  by_cases hroom : buffer.length < nextOffset st.totalLen
  · unfold nextOffset at hroom
    rw [if_pos hroom]
    exact .inl ⟨_, rfl⟩
  have hfits := hroom
  unfold nextOffset at hfits
  rw [if_neg hfits]
  have hproper : Proper tbl buffer.length f.mi (buffer.drop (nextOffset st.totalLen))
      { output with base := output.base + f.offset } st.pointers (f.kind = .substruct) osize := by
    refine ⟨?_, ?_, hint, ?_⟩
    · rw [List.length_drop]
      omega
    · rw [List.length_drop]
      omega
    · intro hsub
      obtain ⟨gc, hgc, hgcle⟩ := hg.room
      have hwidth : f.width tbl = (tbl f.mi).size := if_pos (of_decide_eq_true hsub)
      exact ⟨gc, hgc, by dsimp only; omega⟩
  rcases hsafe _ _ _ _ _ _ hproper with ⟨pointers', hsub⟩ | ⟨n, pointers', hsub, hn, hn', hext⟩
  · unfold nextOffset at hsub
    rw [hsub]
    exact .inl ⟨_, rfl⟩
  · unfold nextOffset at hsub
    rw [hsub, ok_bind]
    unfold serializedSize at hn
    rw [if_neg (by omega)]
    rw [List.length_drop] at hn'
    have htotal : toInt32 (st.totalLen + toSize n + padlen (toSize st.totalLen)) =
        st.totalLen + n + padlen st.totalLen.toNat := by
      rw [hsize, toSize_of_nonneg (by omega) (by omega)]
      rw [toInt32_of_lt (by omega) (by omega)]
      omega
    have hgoing : ∀ pointers'' : List (Gc ι), Room pointers'' output size → Going buffer output size
        ⟨pointers'', toInt32 (st.totalLen + toSize n + padlen (toSize st.totalLen)), osize⟩ := by
      intro pointers'' hroom'
      refine ⟨?_, ?_, hint, hroom'⟩
      · dsimp only
        unfold serializedSize
        omega
      · dsimp only
        omega
    by_cases hp : f.kind = .pointer
    · rw [if_pos hp]
      have hwidth : f.width tbl = pointerSize := width_of_ne (by rw [hp]; decide)
      have hle8 : f.offset + (leBytes pointerSize (mem.address st.pointers.length)).length ≤ size := by
        rw [length_leBytes]
        omega
      obtain ⟨pointers'', hstore, hext'⟩ := store_of_room (hg.room.extends hext) hle8
      rw [hstore]
      exact .inr ⟨_, rfl, hgoing _ ((hg.room.extends hext).extends hext'), hext.trans hext'⟩
    · rw [if_neg hp]
      exact .inr ⟨_, rfl, hgoing _ (hg.room.extends hext), hext⟩

theorem field_safe (mem : Memory) (hsafe : SafeBelow tbl buffer.length rec)
    (hlen : buffer.length < 0x80000000) (hg : Going buffer output size st)
    (hin : f.offset + f.width tbl ≤ size) (h2 : f.offset2 ≠ 0 → f.offset2 + 4 ≤ size) :
    Goes buffer output size st.pointers (unserializeField mem rec buffer output st f) := by
  -- a pointer that is written over
  have hstored : ∀ bs : Bytes, bs.length = pointerSize → f.kind ≠ .substruct →
      Goes buffer output size st.pointers
        (store st.pointers output f.offset bs >>= fun pointers =>
          pure { st with pointers := pointers }) := by
    intro bs hbs hk
    rw [width_of_ne hk] at hin
    have hle : f.offset + bs.length ≤ size := by omega
    obtain ⟨pointers', hstore, hext⟩ := store_of_room hg.room hle
    rw [hstore]
    exact .inr ⟨_, rfl, ⟨hg.header, hg.le, hg.osize, hg.room.extends hext⟩, hext⟩
  unfold unserializeField
  cases hk : f.kind with
  | ignore => exact hstored _ List.length_replicate (by rw [hk]; decide)
  | substruct => exact next_safe hsafe hlen hg hin h2
  | pointer =>
    have hin8 := hin
    rw [width_of_ne (by rw [hk]; decide)] at hin8
    obtain ⟨bs, hbs⟩ := load_of_room hg.room hin8
    dsimp only
    rw [hbs, ok_bind]
    split
    · exact .inr ⟨st, rfl, hg, .refl _⟩
    cases st.pointers.find? (fun gc => gc.orig = leNat bs) with
    | some gc => exact hstored _ (length_leBytes _ _) (by rw [hk]; decide)
    | none => exact next_safe hsafe hlen hg hin h2

theorem fields_safe (mem : Memory) {fs : List (Subinfo ι)} (hsafe : SafeBelow tbl buffer.length rec)
    (hlen : buffer.length < 0x80000000) (hg : Going buffer output size st)
    (hin : ∀ f ∈ fs, f.offset + f.width tbl ≤ size)
    (h2 : ∀ f ∈ fs, f.offset2 ≠ 0 → f.offset2 + 4 ≤ size) :
    Goes buffer output size st.pointers
      (fs.foldlM (unserializeField mem rec buffer output) st) := by
  induction fs generalizing st with
  | nil => exact .inr ⟨st, rfl, hg, .refl _⟩
  | cons f fs ih =>
    rw [List.foldlM_cons]
    rcases field_safe mem hsafe hlen hg (hin f List.mem_cons_self) (h2 f List.mem_cons_self)
      with ⟨pointers', hf⟩ | ⟨st1, hf, hg1, hext1⟩
    · rw [hf]
      exact .inl ⟨_, rfl⟩
    · rw [hf]
      rcases ih hg1 (fun g hg => hin g (List.mem_cons_of_mem _ hg))
        (fun g hg => h2 g (List.mem_cons_of_mem _ hg)) with ⟨pointers', hfs⟩ | ⟨st', hfs, hg', hext'⟩
      · exact .inl ⟨_, hfs⟩
      · exact .inr ⟨st', hfs, hg', hext1.trans hext'⟩

end Calls

/-! ## The recursion -/

structure Call (ι : Type) where
  mi : ι
  buffer : Bytes
  output : Place := { object := 0 }
  pointers : List (Gc ι) := []
  skip : Bool := false
  osize : Int := 0

namespace Call
variable (tbl : Table ι) (mem : Memory) (c : Call ι)

def run (fuel : Nat) : Except (Halt ι) (Int × List (Gc ι)) :=
  marshalUnserialize tbl mem fuel c.mi c.buffer c.output c.pointers c.skip c.osize

/-- `*output` once the main structure is there. -/
def place : Place := if c.skip then c.output else { object := c.pointers.length }

/-- The call up to the loop over the fields. -/
def start : Except (Halt ι) (Unserializing ι) :=
  match lengths (tbl c.mi) c.buffer c.skip c.osize with
  | none => .error (.refused c.pointers)
  | some (totalLen, size) => do
    let pointers ←
      (if c.skip then .ok c.pointers else marshalAlloc tbl mem c.mi c.buffer size c.pointers)
    return { pointers := pointers, totalLen := totalLen, osize := c.osize }

def sub (st : Unserializing ι) (f : Subinfo ι) (osize : Int) : Call ι where
  mi := f.mi
  buffer := c.buffer.drop (nextOffset st.totalLen)
  output := { c.place with base := c.place.base + f.offset }
  pointers := st.pointers
  skip := f.kind = .substruct
  osize := osize

theorem run_succ (fuel : Nat) : c.run tbl mem (fuel + 1) = do
    let st ← c.start tbl mem
    let st ← (tbl c.mi).pointers.foldlM
      (unserializeField mem (marshalUnserialize tbl mem fuel) c.buffer c.place) st
    return (st.totalLen, st.pointers) := by
  unfold run marshalUnserialize start
  cases lengths (tbl c.mi) c.buffer c.skip c.osize with
  | none => rfl
  | some x =>
    dsimp only
    cases (if c.skip then .ok c.pointers
      else marshalAlloc tbl mem c.mi c.buffer x.2 c.pointers : Except (Halt ι) (List (Gc ι))) with
    | error e => rfl
    | ok pointers => rfl

end Call

section Recursion
variable {tbl : Table ι} {mem : Memory} {c c' : Call ι} {bound : Nat}

abbrev Call.Proper (tbl : Table ι) (bound : Nat) (c : Call ι) : Prop :=
  Marshal.Proper tbl bound c.mi c.buffer c.output c.pointers c.skip c.osize

theorem start_safe (mem : Memory) (hin : FieldsInside tbl) (hsmall : Countable tbl)
    (hc : c.Proper tbl bound) :
    Goes c.buffer c.place (tbl c.mi).size c.pointers (c.start tbl mem) := by
  unfold Call.start
  cases hm : lengths (tbl c.mi) c.buffer c.skip c.osize with
  | none => exact .inl ⟨_, rfl⟩
  | some x =>
    obtain ⟨totalLen, size⟩ := x
    have hmeasured := lengths_some (hin c.mi) (hsmall c.mi) hc.len hc.osize hm
    dsimp only
    unfold Call.place
    cases hskip : c.skip with
    | true => exact .inr ⟨_, rfl, ⟨hmeasured.header, hmeasured.le, hc.osize, hc.room hskip⟩, .refl _⟩
    | false =>
      obtain ⟨hpos, hcopied⟩ := hmeasured.copied hskip
      rw [if_neg (by decide), if_neg (by decide)]
      unfold marshalAlloc
      split
      · exact .inl ⟨_, rfl⟩
      rw [if_neg (by omega)]
      have hobject : (tbl c.mi).size ≤ (slice c.buffer serializedSize size.toNat ++
          List.replicate (extra (tbl c.mi)) 0).length := by
        rw [List.length_append, length_slice hcopied]
        by_cases hform : (tbl c.mi).form = .struct
        · have := hmeasured.struct hskip hform
          omega
        · have := ((hin c.mi).string hform).2
          omega
      refine .inr ⟨_, rfl, ⟨hmeasured.header, hmeasured.le, hc.osize, ?_⟩, ?_⟩
      · refine ⟨_, List.getElem?_concat_length, ?_⟩
        dsimp only
        omega
      · intro i gc hgc
        have hlt := (List.getElem?_eq_some_iff.1 hgc).1
        exact ⟨gc, (List.getElem?_append_left hlt).trans hgc, rfl⟩

/-- Fuel for one more than the message is long is enough. -/
theorem marshalUnserialize_safe (mem : Memory) (hin : FieldsInside tbl) (hsmall : Countable tbl)
    (fuel : Nat) :
    SafeBelow tbl fuel (marshalUnserialize tbl mem fuel) := by
  induction fuel with
  | zero =>
    intro mi buffer output pointers skip osize hc
    exact absurd hc.bound (Nat.not_lt_zero _)
  | succ fuel ih =>
    intro mi buffer output pointers skip osize hc
    have hbelow : SafeBelow tbl buffer.length (marshalUnserialize tbl mem fuel) := by
      intro mi' buffer' output' pointers' skip' osize' hc'
      exact ih _ _ _ _ _ _ ⟨by have := hc'.bound; have := hc.bound; omega, hc'.len, hc'.osize, hc'.room⟩
    have hrun := Call.run_succ tbl mem ⟨mi, buffer, output, pointers, skip, osize⟩ fuel
    unfold Call.run at hrun
    rw [hrun]
    rcases start_safe mem (c := ⟨mi, buffer, output, pointers, skip, osize⟩) hin hsmall hc
      with ⟨pointers', hstart⟩ | ⟨st, hstart, hg, hext⟩
    · rw [hstart]
      exact .inl ⟨_, rfl⟩
    rw [hstart, ok_bind]
    rcases fields_safe mem hbelow hc.len hg (hin mi).field (hin mi).length
      with ⟨pointers', hfields⟩ | ⟨st', hfields, hg', hext'⟩
    · rw [hfields]
      exact .inl ⟨_, rfl⟩
    · rw [hfields]
      exact .inr ⟨_, _, rfl, hg'.header, hg'.le, hext.trans hext'⟩

/-! ## Strings that do not fit -/

/-- The call `c` calls itself as `c'`: the fields in front of `f` are dealt with, and the
record of `f` comes next. -/
structure Asks (tbl : Table ι) (mem : Memory) (fuel : Nat) (c c' : Call ι) : Prop where
  field : ∃ before f after st osize, (tbl c.mi).pointers = before ++ f :: after ∧
    (c.start tbl mem >>= before.foldlM
      (unserializeField mem (marshalUnserialize tbl mem fuel) c.buffer c.place)) = .ok st ∧
    f.kind ≠ .ignore ∧
    (f.kind = .pointer → ∃ bs, load st.pointers c.place f.offset pointerSize = .ok bs ∧
      leNat bs ≠ 0 ∧ st.pointers.find? (fun gc => gc.orig = leNat bs) = none) ∧
    osizeOf c.place st f = .ok osize ∧ nextOffset st.totalLen ≤ c.buffer.length ∧
    c' = c.sub st f osize

inductive Reads (tbl : Table ι) (mem : Memory) : Nat → Call ι → Nat → Call ι → Prop where
  | here (fuel : Nat) (c : Call ι) : Reads tbl mem fuel c fuel c
  | sub {fuel fuel' : Nat} {c c' c'' : Call ι} : Asks tbl mem fuel c c' →
      Reads tbl mem fuel c' fuel' c'' → Reads tbl mem (fuel + 1) c fuel' c''

/-- A string of fixed length that is negative or more than the rest of the message, or a
string without an end. -/
def Call.StringTooLong (tbl : Table ι) (c : Call ι) : Prop :=
  ((tbl c.mi).form = .fixedString ∧
    (c.osize < 0 ∨ (c.buffer.length : Int) < serializedSize + c.osize)) ∨
  ((tbl c.mi).form = .nullString ∧ 0 ∉ c.buffer.drop serializedSize)

theorem lengths_tooLong (hc : c.Proper tbl bound) (h : c.StringTooLong tbl) :
    lengths (tbl c.mi) c.buffer c.skip c.osize = none := by
  have hlen := hc.len
  have hosize := hc.osize
  unfold IsInt at hosize
  unfold lengths
  generalize toInt32 ((serializedSize : Nat) +
    ((if c.skip then 0 else (tbl c.mi).size : Nat) : Int)) = totalLen
  by_cases hfirst : c.buffer.length < serializedSize ∨ c.buffer.length < toSize totalLen
  · rw [if_pos hfirst]
  rw [if_neg hfirst]
  rcases h with ⟨hform, hbad⟩ | ⟨hform, hbad⟩
  · rw [hform, if_neg (by decide)]
    apply if_pos
    show c.buffer.length - serializedSize < toSize c.osize
    unfold toSize
    omega
  · rw [hform, if_neg (by decide)]
    apply if_pos
    show c.buffer.length - serializedSize <
      toSize (toInt32 (strlen (c.buffer.drop serializedSize) + 1))
    have hend : strlen (c.buffer.drop serializedSize) = c.buffer.length - serializedSize := by
      unfold strlen
      rw [cstr_eq_self hbad, List.length_drop]
    unfold toSize toInt32
    omega

/-- The calls that a call makes are proper. -/
theorem Asks.proper (hin : FieldsInside tbl) (hsmall : Countable tbl) {fuel : Nat}
    (hc : c.Proper tbl (fuel + 1)) (h : Asks tbl mem fuel c c') : c'.Proper tbl fuel := by
  obtain ⟨before, f, after, st, osize, hfields, hst, -, -, hosize, hnext, rfl⟩ := h.field
  have hmem : ∀ g ∈ before ++ [f], g ∈ (tbl c.mi).pointers := by
    intro g hg
    rw [hfields]
    rcases List.mem_append.1 hg with hg | hg
    · exact List.mem_append_left _ hg
    · rw [List.mem_singleton.1 hg]
      exact List.mem_append_right _ List.mem_cons_self
  have hf := hmem f (List.mem_append_right _ List.mem_cons_self)
  have hbelow : SafeBelow tbl c.buffer.length (marshalUnserialize tbl mem fuel) := by
    intro mi' buffer' output' pointers' skip' osize' hc'
    have := hc'.bound
    have := hc.bound
    exact marshalUnserialize_safe mem hin hsmall fuel _ _ _ _ _ _ ⟨by omega, hc'.len, hc'.osize,
      hc'.room⟩
  obtain ⟨st0, hstart, hbefore⟩ := bind_eq_ok.1 hst
  have hgoing : Going c.buffer c.place (tbl c.mi).size st := by
    rcases start_safe mem hin hsmall hc with ⟨pointers', hbad⟩ | ⟨st1, hstart', hg, -⟩
    · rw [hstart] at hbad
      cases hbad
    cases hstart.symm.trans hstart'
    have hloop : Goes c.buffer c.place (tbl c.mi).size st0.pointers (before.foldlM
        (unserializeField mem (marshalUnserialize tbl mem fuel) c.buffer c.place) st0) :=
      fields_safe mem hbelow hc.len hg
        (fun g hg' => (hin c.mi).field g (hmem g (List.mem_append_left _ hg')))
        (fun g hg' => (hin c.mi).length g (hmem g (List.mem_append_left _ hg')))
    rcases hloop with ⟨pointers', hbad⟩ | ⟨st2, hst2, hg2, -⟩
    · rw [hbefore] at hbad
      cases hbad
    cases hbefore.symm.trans hst2
    exact hg2
  have hheader := hgoing.header
  unfold serializedSize at hheader
  obtain ⟨hoffset, -⟩ := nextOffset_eq hc.len (by omega) hgoing.le
  obtain ⟨osize', hosize', hint⟩ := osizeOf_eq hgoing ((hin c.mi).length f hf)
  cases hosize.symm.trans hosize'
  have hlen : (c.sub st f osize).buffer.length = c.buffer.length - nextOffset st.totalLen :=
    List.length_drop
  have := hc.bound
  have := hc.len
  refine ⟨by omega, by omega, hint, fun hsub => ?_⟩
  obtain ⟨gc, hgc, hle⟩ := hgoing.room
  have hfield := (hin c.mi).field f hf
  have hwidth : f.width tbl = (tbl f.mi).size := if_pos (of_decide_eq_true hsub)
  refine ⟨gc, hgc, ?_⟩
  show c.place.base + f.offset + (tbl f.mi).size ≤ gc.object.length
  omega

/-- A call that calls itself and gets 0 returns 0. -/
theorem Asks.refused {fuel : Nat} (h : Asks tbl mem fuel c c') {pointers : List (Gc ι)}
    (hsub : c'.run tbl mem fuel = .error (.refused pointers)) :
    c.run tbl mem (fuel + 1) = .error (.refused pointers) := by
  obtain ⟨before, f, after, st, osize, hfields, hst, hk, hnew, hosize, hnext, rfl⟩ := h.field
  obtain ⟨st0, hstart, hbefore⟩ := bind_eq_ok.1 hst
  have hrecord : unserializeNext mem (marshalUnserialize tbl mem fuel) c.buffer c.place st f =
      .error (.refused pointers) := by
    unfold osizeOf at hosize
    unfold nextOffset at hnext
    unfold unserializeNext
    rw [hosize, ok_bind]
    rw [if_neg (Nat.not_lt.2 hnext)]
    unfold Call.run Call.sub nextOffset at hsub
    rw [hsub]
    rfl
  have hfield : unserializeField mem (marshalUnserialize tbl mem fuel) c.buffer c.place st f =
      .error (.refused pointers) := by
    unfold unserializeField
    cases hkind : f.kind with
    | ignore => exact absurd hkind hk
    | substruct => exact hrecord
    | pointer =>
      obtain ⟨bs, hbs, hne, hfind⟩ := hnew hkind
      rw [hbs, ok_bind, if_neg hne, hfind]
      exact hrecord
  rw [Call.run_succ, hstart, ok_bind, hfields, List.foldlM_append, hbefore, ok_bind,
    List.foldlM_cons, hfield]
  rfl

/-- A string that does not fit makes all calls return 0. -/
theorem Reads.refused (hin : FieldsInside tbl) (hsmall : Countable tbl) {fuel fuel' : Nat}
    (h : Reads tbl mem fuel c fuel' c') (hc : c.Proper tbl fuel) (hbad : c'.StringTooLong tbl) :
    ∃ pointers, c.run tbl mem fuel = .error (.refused pointers) := by
  induction h with
  | here fuel c =>
    cases fuel with
    | zero => exact absurd hc.bound (Nat.not_lt_zero _)
    | succ fuel =>
      rw [Call.run_succ]
      unfold Call.start
      rw [lengths_tooLong hc hbad]
      exact ⟨_, rfl⟩
  | sub hasks _ ih =>
    obtain ⟨pointers, hsub⟩ := ih (hasks.proper hin hsmall hc) hbad
    exact ⟨pointers, hasks.refused hsub⟩

end Recursion

/-! ## A message -/

/-- Any message, whatever is in it: the call reads and writes only what it may, it returns 0
and all objects that it has made are freed, or it returns a length between that of a header
and that of the message and the objects are kept. If it comes to a string that does not
fit, it returns 0. -/
theorem unserialize_returns (tbl : Table ι) (hin : FieldsInside tbl) (hsmall : Countable tbl)
    (mem : Memory) (mi : ι) (buffer : Bytes) (hlen : buffer.length ≤ 0x7fffffff) :
    ∃ out, unserialize tbl mem mi buffer = .ok out ∧
      ((out.returned = 0 ∧ out.freed = out.made.map Gc.pointer) ∨
        (serializedSize ≤ out.returned ∧ out.returned ≤ buffer.length ∧ out.freed = [])) ∧
      ((∃ fuel c, Reads tbl mem (buffer.length + 1) { mi := mi, buffer := buffer } fuel c ∧
        c.StringTooLong tbl) → out.returned = 0) := by
  have hc : Call.Proper tbl (buffer.length + 1) { mi := mi, buffer := buffer } :=
    ⟨Nat.lt_succ_self _, Nat.lt_succ_of_le hlen, ⟨(by decide : (-2147483648 : Int) ≤ 0),
      (by decide : (0 : Int) < 2147483648)⟩, Bool.noConfusion⟩
  have hrefused : (∃ fuel c, Reads tbl mem (buffer.length + 1) { mi := mi, buffer := buffer } fuel c ∧
      c.StringTooLong tbl) → ∃ pointers, marshalUnserialize tbl mem (buffer.length + 1) mi buffer
        { object := 0 } [] false 0 = .error (.refused pointers) := by
    intro ⟨fuel, c, hreads, hbad⟩
    exact hreads.refused hin hsmall hc hbad
  unfold unserialize
  split
  · exact ⟨_, rfl, .inl ⟨rfl, rfl⟩, fun _ => rfl⟩
  rcases marshalUnserialize_safe mem hin hsmall (buffer.length + 1) _ _ _ _ _ _ hc
    with ⟨pointers, hrun⟩ | ⟨n, pointers, hrun, hn, hn', -⟩
  · rw [hrun]
    exact ⟨_, rfl, .inl ⟨rfl, rfl⟩, fun _ => rfl⟩
  · rw [hrun] at hrefused ⊢
    unfold serializedSize at hn
    have hn' : n ≤ buffer.length := hn'
    have hreturned : toSize n = n.toNat := toSize_of_nonneg (by omega) (by omega)
    refine ⟨_, rfl, .inr ⟨?_, ?_, ?_⟩, fun hbad => ?_⟩
    · dsimp only
      unfold serializedSize
      omega
    · dsimp only
      omega
    · exact if_pos (decide_eq_true (by omega))
    · obtain ⟨pointers', hbad⟩ := hrefused hbad
      cases hbad

def textTable : Table Bool
  | true => { size := 8, pointers := [{ offset := 0, kind := .pointer, mi := false }] }
  | false => { form := .nullString }

/-- The structure, and a string that does not end. -/
def openText : Bytes :=
  leBytes 8 1 ++ leBytes 8 0 ++ leBytes 8 2 ++ (leBytes 8 2 ++ leBytes 8 0 ++ ascii "lldp")

theorem fieldsInside_textTable : FieldsInside textTable := by
  intro t
  cases t with
  | true =>
    refine ⟨absurd rfl, fun f hf => ?_, fun f hf h2 => ?_⟩
    · rw [List.mem_singleton.1 hf]
      exact Nat.le_refl 8
    · rw [List.mem_singleton.1 hf] at h2
      exact absurd rfl h2
  | false =>
    exact ⟨fun _ => ⟨rfl, rfl⟩, fun f hf => absurd hf List.not_mem_nil,
      fun f hf => absurd hf List.not_mem_nil⟩

theorem unserialize_returns_openText : ∃ out : Unserialized Bool,
    unserialize textTable ⟨fun k => k + 1, fun _ _ => true, true⟩ true openText = .ok out ∧
      out.returned = 0 ∧ out.freed = out.made.map Gc.pointer ∧ out.made.length = 1 := by
  have hcount : Countable textTable := by
    intro t
    cases t
    · exact (by decide : 16 + 0 < 0x100000000)
    · exact (by decide : 16 + 8 < 0x100000000)
  obtain ⟨out, hout, hreturns, -⟩ := unserialize_returns textTable fieldsInside_textTable hcount
    ⟨fun k => k + 1, fun _ _ => true, true⟩ true openText (by decide)
  have hmade : out.returned = 0 ∧ out.made.length = 1 := by
    have hrun : unserialize textTable ⟨fun k => k + 1, fun _ _ => true, true⟩ true openText =
        .ok ⟨0, [⟨1, 1, true, leBytes 8 2⟩], [1]⟩ := by decide
    rw [hrun] at hout
    cases hout
    exact ⟨rfl, rfl⟩
  rcases hreturns with ⟨-, hfreed⟩ | ⟨hlong, -⟩
  · exact ⟨out, hout, hmade.1, hfreed, hmade.2⟩
  · rw [hmade.1] at hlong
    exact absurd hlong (by decide)

/-- A structure of 2^32 bytes with a pointer in front. -/
def hugeTable : Table Unit := fun _ =>
  { size := 0x100000000, pointers := [{ offset := 0, kind := .pointer, mi := () }] }

/-- The length is 16 again, the object has no byte, and its pointer is read all the same. -/
theorem unserialize_huge : FieldsInside hugeTable ∧
    unserialize hugeTable ⟨fun k => k + 1, fun _ _ => true, true⟩ () (List.replicate 16 0) =
      .error .bounds := by
  refine ⟨?_, by decide⟩
  intro t
  refine ⟨absurd rfl, fun f hf => ?_, fun f hf h2 => ?_⟩
  · rw [List.mem_singleton.1 hf]
    show 0 + pointerSize ≤ 0x100000000
    decide
  · rw [List.mem_singleton.1 hf] at h2
    exact absurd rfl h2

end Lldpd.Marshal
