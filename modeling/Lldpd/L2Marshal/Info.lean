import Lldpd.Core.Slices

/-!
# Descriptors of structures (`marshal.h`)

A `marshal_info` says how large a structure is and where it has pointers,
embedded structures and pointers to forget. The descriptors of a program refer
to each other; `Table` gives them names.
-/
namespace Lldpd.Marshal
open Core

variable {ι : Type}

/-- mirrors marshal.h:31-39 -/
inductive SubinfoKind where
  | pointer | substruct | ignore
  deriving DecidableEq, Repr

/-- mirrors marshal.h:42-47 -/
structure Subinfo (ι : Type) where
  offset : Nat
  offset2 : Nat := 0
  kind : SubinfoKind
  mi : ι
  deriving DecidableEq, Repr

/-- What the code asks the name of a descriptor for. -/
inductive Form where
  | struct | nullString | fixedString
  deriving DecidableEq, Repr

/-- mirrors marshal.h:54-65 -/
structure Info (ι : Type) where
  form : Form := .struct
  size : Nat := 0
  pointers : List (Subinfo ι) := []
  deriving DecidableEq, Repr

abbrev Table (ι : Type) := ι → Info ι

def pointerSize : Nat := 8

/-- The bytes of its structure that a field stands for. -/
def Subinfo.width (tbl : Table ι) (f : Subinfo ι) : Nat :=
  if f.kind = .substruct then (tbl f.mi).size else pointerSize

theorem width_of_ne {tbl : Table ι} {f : Subinfo ι} (h : f.kind ≠ .substruct) :
    f.width tbl = pointerSize :=
  if_neg h

end Lldpd.Marshal
