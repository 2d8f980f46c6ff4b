import Lldpd.Core.Bre

/-!
# Files that are opened as root (`priv-linux.c`)

The unprivileged process sends a path and the privileged one opens it if a
pattern of a table is found in it. The patterns are not anchored, so a path that
only has an authorised path somewhere in it is opened too, and a `[^.]` that
should start a name also takes a `/`.

`Authorised` is that the whole path matches a pattern, `Listed` that it is one of
the files the table means, with names that are one component of a path.
-/
namespace Lldpd.Priv
open Lldpd.Core Lldpd.Core.Bre

/-- mirrors priv-linux.c:70-84, lldpd.h:69-70 -/
def authorized : List Bytes := [
  ascii "/proc/sys/net/ipv4/ip_forward",
  ascii "/proc/net/bonding/[^.][^/]*",
  ascii "/proc/self/net/bonding/[^.][^/]*",
  ascii "/sys/class/net/[^.][^/]*/brforward",
  ascii "/sys/class/net/[^.][^/]*/brport",
  ascii "/sys/class/net/[^.][^/]*/brif/[^.][^/]*/port_no",
  ascii "/sys/class/dmi/id/product_version",
  ascii "/sys/class/dmi/id/product_serial",
  ascii "/sys/class/dmi/id/product_name",
  ascii "/sys/class/dmi/id/bios_version",
  ascii "/sys/class/dmi/id/sys_vendor",
  ascii "/sys/class/dmi/id/chassis_asset_tag"]

/-- `fatal`: a pattern cannot be compiled. `opens`: the file is opened. -/
inductive Reply where
  | fatal
  | refused
  | opens (file : Bytes)
  deriving DecidableEq, Repr

/-- mirrors priv-linux.c:96-111 -/
def search : List Bytes → Bytes → Reply
  | [], _ => .refused
  | f :: authorized, file =>
    match regcomp f with
    | none => .fatal
    | some preg => if regexec preg file then .opens file else search authorized file

/-- `asroot_open`: both `regexec` and `open` read the request up to its first NUL.
mirrors priv-linux.c:67-123 -/
def asrootOpen (request : Bytes) : Reply := search authorized (cstr request)

/-! ## What the table means -/

def Authorised (path : Bytes) : Prop :=
  ∃ f ∈ authorized, ∃ preg, regcomp f = some preg ∧ Matches preg path

/-- A path is made of fixed text and of names. -/
inductive Segment where
  | text (bs : Bytes)
  | name
  deriving DecidableEq, Repr

/-- One component of a path that does not start with a dot. -/
def Name (n : Bytes) : Prop := n ≠ [] ∧ n.head? ≠ some 0x2e ∧ 0x2f ∉ n

def Spells : List Segment → Bytes → Prop
  | [], path => path = []
  | .text bs :: segs, path => ∃ rest, path = bs ++ rest ∧ Spells segs rest
  | .name :: segs, path => ∃ n rest, path = n ++ rest ∧ Name n ∧ Spells segs rest

def listed : List (List Segment) := [
  [.text (ascii "/proc/sys/net/ipv4/ip_forward")],
  [.text (ascii "/proc/net/bonding/"), .name],
  [.text (ascii "/proc/self/net/bonding/"), .name],
  [.text (ascii "/sys/class/net/"), .name, .text (ascii "/brforward")],
  [.text (ascii "/sys/class/net/"), .name, .text (ascii "/brport")],
  [.text (ascii "/sys/class/net/"), .name, .text (ascii "/brif/"), .name, .text (ascii "/port_no")],
  [.text (ascii "/sys/class/dmi/id/product_version")],
  [.text (ascii "/sys/class/dmi/id/product_serial")],
  [.text (ascii "/sys/class/dmi/id/product_name")],
  [.text (ascii "/sys/class/dmi/id/bios_version")],
  [.text (ascii "/sys/class/dmi/id/sys_vendor")],
  [.text (ascii "/sys/class/dmi/id/chassis_asset_tag")]]

def Listed (path : Bytes) : Prop := ∃ segs ∈ listed, Spells segs path

def Segment.items : Segment → List Item
  | .text bs => bs.map fun c => ⟨⟨false, [c]⟩, false⟩
  | .name => [⟨⟨true, [0x2e]⟩, false⟩, ⟨⟨true, [0x2f]⟩, true⟩]

theorem regcomp_authorized :
    authorized.map regcomp = listed.map fun segs => some (segs.flatMap Segment.items) := by
  decide

theorem has_literal (c : UInt8) : (Elem.mk false [c]).has c = true := by
  simp [Elem.has]

theorem has_except {c d : UInt8} : (Elem.mk true [d]).has c = true ↔ c ≠ d := by
  unfold Elem.has
  rw [List.any_cons, List.any_nil, Bool.or_false, bne_iff_ne, ne_eq, beq_iff_eq]
  exact not_congr eq_comm

theorem matches_text (bs : Bytes) : Matches (Segment.text bs).items bs := by
  induction bs with
  | nil => exact .nil
  | cons c bs ih => exact .one (has_literal c) ih

theorem matches_name {n : Bytes} (h : Name n) : Matches Segment.name.items n := by
  obtain ⟨hne, hdot, hslash⟩ := h
  cases n with
  | nil => exact absurd rfl hne
  | cons c n =>
    refine .one (has_except.2 fun hc => hdot (by rw [hc]; rfl)) ?_
    rw [← List.append_nil n]
    refine .star (fun d hd => has_except.2 ?_) .nil
    rintro rfl
    exact hslash (List.mem_cons_of_mem _ hd)

variable {path : Bytes}

theorem matches_spells {segs : List Segment} (h : Spells segs path) :
    Matches (segs.flatMap Segment.items) path := by
  induction segs generalizing path with
  | nil =>
    cases h
    exact .nil
  | cons seg segs ih =>
    cases seg with
    | text bs =>
      obtain ⟨rest, rfl, h⟩ := h
      exact (matches_text bs).append (ih h)
    | name =>
      obtain ⟨n, rest, rfl, hn, h⟩ := h
      exact (matches_name hn).append (ih h)

theorem Listed.authorised (h : Listed path) : Authorised path := by
  obtain ⟨segs, hsegs, h⟩ := h
  have hmem : some (segs.flatMap Segment.items) ∈ authorized.map regcomp := by
    rw [regcomp_authorized]
    exact List.mem_map_of_mem hsegs
  obtain ⟨f, hf, hpreg⟩ := List.mem_map.1 hmem
  exact ⟨f, hf, _, hpreg, matches_spells h⟩

/-! ## What is opened -/

theorem search_iff {fs : List Bytes} (hcomp : ∀ f ∈ fs, regcomp f ≠ none) {file : Bytes} :
    search fs file = .opens path ↔
      path = file ∧ ∃ f ∈ fs, ∃ preg, regcomp f = some preg ∧ regexec preg file = true := by
  induction fs with
  | nil =>
    constructor
    · intro h
      cases h
    · rintro ⟨-, f, hf, -⟩
      cases hf
  | cons f fs ih =>
    have ih := ih fun g hg => hcomp g (List.mem_cons_of_mem _ hg)
    obtain ⟨preg, hpreg⟩ := Option.ne_none_iff_exists'.1 (hcomp f List.mem_cons_self)
    unfold search
    rw [hpreg]
    dsimp only
    by_cases hexec : regexec preg file = true
    · rw [if_pos hexec]
      constructor
      · rintro ⟨⟩
        exact ⟨rfl, f, List.mem_cons_self, preg, hpreg, hexec⟩
      · rintro ⟨rfl, -⟩
        rfl
    · rw [if_neg hexec, ih]
      constructor
      · rintro ⟨rfl, g, hg, h⟩
        exact ⟨rfl, g, List.mem_cons_of_mem _ hg, h⟩
      · rintro ⟨rfl, g, hg, preg', hpreg', h⟩
        rcases List.mem_cons.1 hg with rfl | hg
        · cases hpreg.symm.trans hpreg'
          exact absurd h hexec
        · exact ⟨rfl, g, hg, preg', hpreg', h⟩

theorem regcomp_ne_none : ∀ f ∈ authorized, regcomp f ≠ none := by
  intro f hf hnone
  have hmem : regcomp f ∈ authorized.map regcomp := List.mem_map_of_mem hf
  rw [hnone, regcomp_authorized] at hmem
  obtain ⟨segs, -, hsome⟩ := List.mem_map.1 hmem
  cases hsome

/-- A file is opened if an authorised path is somewhere in the request. -/
theorem asrootOpen_iff {request : Bytes} : asrootOpen request = .opens path ↔
    path = cstr request ∧ ∃ before x after, cstr request = before ++ x ++ after ∧ Authorised x := by
  unfold asrootOpen
  rw [search_iff regcomp_ne_none]
  constructor
  · rintro ⟨rfl, f, hf, preg, hpreg, hexec⟩
    obtain ⟨before, x, after, h, hx⟩ := regexec_iff.1 hexec
    exact ⟨rfl, before, x, after, h, f, hf, preg, hpreg, hx⟩
  · rintro ⟨rfl, before, x, after, h, f, hf, preg, hpreg, hx⟩
    exact ⟨rfl, f, hf, preg, hpreg, regexec_iff.2 ⟨before, x, after, h, hx⟩⟩

/-- Only files of the table are opened for a request if and only if it does not
have an authorised path in it without being one of these files. -/
theorem open_confined_iff (request : Bytes) :
    (∀ path, asrootOpen request = .opens path → Authorised path ∧ Listed path) ↔
      ∀ before x after, cstr request = before ++ x ++ after → Authorised x →
        Listed (cstr request) := by
  constructor
  · intro h before x after heq hx
    exact (h _ (asrootOpen_iff.2 ⟨rfl, before, x, after, heq, hx⟩)).2
  · intro h path hpath
    obtain ⟨rfl, before, x, after, heq, hx⟩ := asrootOpen_iff.1 hpath
    have hlisted := h before x after heq hx
    exact ⟨hlisted.authorised, hlisted⟩

/-- Whether the whole of a path matches can be computed. -/
theorem authorised_iff : Authorised path ↔
    authorized.any (fun f => (regcomp f).any fun preg => (behind preg path).any (· = [])) = true := by
  simp only [List.any_eq_true, Option.any_eq_true, decide_eq_true_eq]
  constructor
  · rintro ⟨f, hf, preg, hpreg, hm⟩
    exact ⟨f, hf, preg, hpreg, [], mem_behind.2 ⟨path, hm, (List.append_nil _).symm⟩, rfl⟩
  · rintro ⟨f, hf, preg, hpreg, r, hr, rfl⟩
    obtain ⟨x, hx, rfl⟩ := mem_behind.1 hr
    rw [List.append_nil]
    exact ⟨f, hf, preg, hpreg, hx⟩

/-- A path through one of the directories, back up and to another file. -/
def outside : Bytes := ascii "/proc/net/bonding/bond0/../../../../etc/shadow"

theorem opens_outside : asrootOpen outside = .opens outside ∧ ¬ Authorised outside := by
  refine ⟨by decide, ?_⟩
  rw [authorised_iff]
  decide

end Lldpd.Priv
