import Lldpd.Core.Except
import Lldpd.L2Marshal.Info

/-!
# `marshal_unserialize_`

A message is a sequence of records, one for each object and for each embedded
structure: a header with a number and a size that nobody reads, and the bytes of
the object. A pointer in these bytes is a number. If an object with this number
has been made it is the one meant, and else its record comes next.

The objects are made one after the other, where `calloc` puts them, and written
to as the pointers in them are replaced. An access that is not inside of what it
should be in is an error of its own (`Halt.bounds`), and so is a recursion that
is too deep for `fuel`. A call that returns 0 (`Halt.refused`) leaves behind the
objects that have been made, for the outermost call to free.
-/
namespace Lldpd.Marshal
open Core

variable {ι : Type}

/-- `sizeof(struct marshal_serialized)`.
mirrors marshal.c:41-46 -/
def serializedSize : Nat := 16

/-- `(padlen - (n % padlen)) % padlen`.
mirrors marshal.c:185-186, 351-352 -/
def padlen (n : Nat) : Nat := (8 - n % 8) % 8

/-- An object that has been made, for the descriptor `mi`.
mirrors marshal.c:221-225 -/
structure Gc (ι : Type) where
  pointer : Nat
  orig : Nat
  mi : ι
  object : Bytes
  deriving DecidableEq, Repr

/-- What `calloc` does for the list of the objects and for the object number `k`:
where it is, and whether there is memory for so many bytes. -/
structure Memory where
  address : Nat → Nat
  gives : Nat → Nat → Bool
  list : Bool := true

/-- Why there is no result: the function returns 0, with the objects made so far,
or it does what it must not do. -/
inductive Halt (ι : Type) where
  | refused (pointers : List (Gc ι))
  | bounds
  | fuel
  deriving DecidableEq, Repr

structure Place where
  object : Nat
  base : Nat := 0
  deriving DecidableEq, Repr

section Access
variable (pointers : List (Gc ι)) (output : Place)

def load (offset n : Nat) : Except (Halt ι) Bytes :=
  match pointers[output.object]? with
  | none => .error .bounds
  | some gc =>
    if output.base + offset + n ≤ gc.object.length then .ok (slice gc.object (output.base + offset) n)
    else .error .bounds

def store (offset : Nat) (bs : Bytes) : Except (Halt ι) (List (Gc ι)) :=
  match pointers[output.object]? with
  | none => .error .bounds
  | some gc =>
    if output.base + offset + bs.length ≤ gc.object.length then
      .ok (pointers.set output.object
        { gc with object := patch gc.object (output.base + offset) bs })
    else .error .bounds

end Access

/-- `total_len` and `size` behind the tests on the length of the message. A
string is as long as it is in the message, or as the field `osize` says.
mirrors marshal.c:265-307 -/
def lengths (info : Info ι) (buffer : Bytes) (skip : Bool) (osize : Int) : Option (Int × Int) :=
  let totalLen := toInt32 (serializedSize + if skip then 0 else info.size)
  if buffer.length < serializedSize ∨ buffer.length < toSize totalLen then none
  else
    let size := match info.form with
      | .struct => toInt32 info.size
      | .nullString => toInt32 (strlen (buffer.drop serializedSize) + 1)
      | .fixedString => osize
    if info.form = .struct then some (totalLen, size)
    else if buffer.length - serializedSize < toSize size then none
    else some (toInt32 (totalLen + size), size)

/-- The byte that ends a string of fixed length. -/
def extra (info : Info ι) : Nat := if info.form = .fixedString then 1 else 0

/-- `marshal_alloc`, and the main structure copied from the message.
mirrors marshal.c:228-244, 309-318 -/
def marshalAlloc (tbl : Table ι) (mem : Memory) (mi : ι) (buffer : Bytes) (size : Int)
    (pointers : List (Gc ι)) : Except (Halt ι) (List (Gc ι)) :=
  if mem.gives pointers.length (toSize (size + extra (tbl mi))) = false then
    .error (.refused pointers)
  else if buffer.length < serializedSize + size.toNat then .error .bounds
  else .ok (pointers ++ [{
    pointer := mem.address pointers.length
    orig := leNat (slice buffer 0 8)
    mi := mi
    object := slice buffer serializedSize size.toNat ++ List.replicate (extra (tbl mi)) 0 }])

/-- What the loop over the fields changes. -/
structure Unserializing (ι : Type) where
  pointers : List (Gc ι)
  totalLen : Int
  osize : Int

/-- The function itself, for the fields. -/
abbrev Unserialize (ι : Type) :=
  ι → Bytes → Place → List (Gc ι) → Bool → Int → Except (Halt ι) (Int × List (Gc ι))

def nextOffset (totalLen : Int) : Nat :=
  (toSize totalLen + padlen (toSize totalLen)) % 0x10000000000000000

/-- A field whose record comes next.
mirrors marshal.c:348-366 -/
def unserializeNext (mem : Memory) (unserialize : Unserialize ι) (buffer : Bytes)
    (output : Place) (st : Unserializing ι) (current : Subinfo ι) :
    Except (Halt ι) (Unserializing ι) := do
  let osize ←
    (if current.offset2 = 0 then .ok st.osize
    else (load st.pointers output current.offset2 4).map fun bs => toInt32 (leNat bs))
  let pad := padlen (toSize st.totalLen)
  let next := (toSize st.totalLen + pad) % 0x10000000000000000
  if buffer.length < next then .error (.refused st.pointers)
  else do
    let (sublen, pointers) ← unserialize current.mi (buffer.drop next)
      { output with base := output.base + current.offset } st.pointers
      (current.kind = .substruct) osize
    if sublen = 0 then .error (.refused pointers)
    else do
      let pointers ←
        (if current.kind = .pointer then
          store pointers output current.offset (leBytes pointerSize (mem.address st.pointers.length))
        else .ok pointers)
      return {
        pointers := pointers, totalLen := toInt32 (st.totalLen + toSize sublen + pad), osize := osize }

/-- One turn of the loop over the fields.
mirrors marshal.c:320-367 -/
def unserializeField (mem : Memory) (unserialize : Unserialize ι) (buffer : Bytes)
    (output : Place) (st : Unserializing ι) (current : Subinfo ι) :
    Except (Halt ι) (Unserializing ι) :=
  match current.kind with
  | .ignore => do
    let pointers ← store st.pointers output current.offset (List.replicate pointerSize 0)
    return { st with pointers := pointers }
  | .substruct => unserializeNext mem unserialize buffer output st current
  | .pointer => do
    let orig := leNat (← load st.pointers output current.offset pointerSize)
    if orig = 0 then return st
    match st.pointers.find? fun gc => gc.orig = orig with
    | some gc => do
      let pointers ← store st.pointers output current.offset (leBytes pointerSize gc.pointer)
      return { st with pointers := pointers }
    | none => unserializeNext mem unserialize buffer output st current

/-- `marshal_unserialize_`, called for an object of its own or, with `skip`, for
the structure at `output`. `osize` is the length of a string. The result is
`total_len`, and the objects.
mirrors marshal.c:261-375 -/
def marshalUnserialize (tbl : Table ι) (mem : Memory) : Nat → Unserialize ι
  | 0, _, _, _, _, _, _ => .error .fuel
  | fuel + 1, mi, buffer, output, pointers, skip, osize =>
    match lengths (tbl mi) buffer skip osize with
    | none => .error (.refused pointers)
    | some (totalLen, size) => do
      let output := if skip then output else { object := pointers.length }
      let pointers ←
        (if skip then .ok pointers else marshalAlloc tbl mem mi buffer size pointers)
      let st ← (tbl mi).pointers.foldlM
        (unserializeField mem (marshalUnserialize tbl mem fuel) buffer output)
        { pointers := pointers, totalLen := totalLen, osize := osize }
      return (st.totalLen, st.pointers)

/-- What a call for a whole message returns, the objects that it has made, and the
addresses that it has freed. -/
structure Unserialized (ι : Type) where
  returned : Nat
  made : List (Gc ι)
  freed : List Nat
  deriving DecidableEq, Repr

/-- mirrors marshal.c:245-258 -/
def marshalFree (pointers : List (Gc ι)) (gconly : Bool) : List Nat :=
  if gconly then [] else pointers.map Gc.pointer

/-- `marshal_unserialize`, for a whole message.
mirrors marshal.h:160-161, marshal.c:282-290, 369-374 -/
def unserialize (tbl : Table ι) (mem : Memory) (mi : ι) (buffer : Bytes) :
    Except (Halt ι) (Unserialized ι) :=
  if mem.list = false then .ok ⟨0, [], []⟩
  else
    match marshalUnserialize tbl mem (buffer.length + 1) mi buffer { object := 0 } [] false 0 with
    | .ok (totalLen, pointers) =>
      .ok ⟨toSize totalLen, pointers, marshalFree pointers (0 < totalLen)⟩
    | .error (.refused pointers) => .ok ⟨0, pointers, marshalFree pointers false⟩
    | .error halt => .error halt

end Lldpd.Marshal
