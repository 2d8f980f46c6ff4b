import Lldpd.Core.Bytes

/-!
# Splitting a line into words (`client/tokenizer.c`)

`tokenize_line` goes over the line twice. The first pass resolves quotes and
backslashes: it writes the characters that remain into a buffer, each with a flag
that says whether it was quoted, and a marker where a quote opens, so that a
quoted word is a word even if it is empty. The second pass splits the buffer at
blanks that are not quoted and leaves the markers out. Both passes work on the
buffer as it is in memory; an access outside of it is `none`.

**Results.** `tokenizeLine_correct`: quoted words are split into these words, and
every line is either split or refused because of a quote or a backslash that is
still open at an unquoted `#` or at the end, without an access outside of the
buffer. The passes are compared with what they do to pairs of a character and a
flag (`scan_eq`, `split_eq`). Memory is assumed not to run out.
-/
namespace Lldpd.Client
open Core

def ifs : List UInt8 := [0x20, 0x0a, 0x09]
def quotes : List UInt8 := [0x27, 0x22]
def escape : UInt8 := 0x5c
def comment : UInt8 := 0x23
/-- Marks a word, and is not part of it. -/
def empty : UInt8 := 2

/-- `'!'` and `' '`. -/
def flag (quoted : Bool) : UInt8 := if quoted then 0x21 else 0x20

structure Scan where
  escaped : Bool := false
  quote : Option UInt8 := none
  ipos : Nat := 0
  input : Bytes

/-- Two bytes at `ipos`. -/
def Scan.put (s : Scan) (c : UInt8) (quoted : Bool) : Option Scan :=
  if s.ipos + 1 < s.input.length then
    some { s with
      input := (s.input.set s.ipos c).set (s.ipos + 1) (flag quoted), ipos := s.ipos + 2 }
  else none

/-- The first pass.
mirrors tokenizer.c:46-63 -/
def scan : Bytes → Scan → Option Scan
  | [], s => some s
  | c :: line, s =>
    if c = comment ∧ !s.escaped ∧ s.quote = none then some s
    else if !s.escaped ∧ c = escape then scan line { s with escaped := true }
    else if !s.escaped ∧ c ∈ quotes ∧ s.quote = none then
      ({ s with quote := some c }.put empty true).bind fun s => scan line s
    else if !s.escaped ∧ s.quote = some c then scan line { s with quote := none }
    else ({ s with escaped := false }.put c (s.escaped || s.quote.isSome)).bind fun s => scan line s

/-- The second pass, from the position on that is looked at, with the word that
has been begun.
mirrors tokenizer.c:73-102 -/
def split : Bytes → Option Bytes → Option (List Bytes)
  | [], _ => none
  | [c], _ => if c = 0 then some [] else none
  | c :: f :: input, word =>
    if c = 0 then some []
    else match word with
      | none => if f = 0x20 ∧ c ∈ ifs then split input none else split input (some [c])
      | some w =>
        if f ≠ 0x20 ∨ c ∉ ifs then split input (some (w ++ [c]))
        else (split input none).map ((w.filter (· ≠ empty)) :: ·)

/-- What is returned, and the words.
mirrors tokenizer.c:30-111 -/
def tokenizeLine (line : Bytes) : Option (Nat × List Bytes) :=
  (scan line { input := List.replicate (2 * line.length + 3) 0 }).bind fun s =>
    if s.escaped ∨ s.quote ≠ none then some (1, [])
    else (s.put 0x20 false).bind fun s => (split s.input none).map fun words => (0, words)

/-! ## The passes on pairs -/

/-- What the first pass writes, and its state at the end. -/
def scanned : Bytes → Bool → Option UInt8 → List (UInt8 × Bool) × Bool × Option UInt8
  | [], e, q => ([], e, q)
  | c :: line, e, q =>
    if c = comment ∧ !e ∧ q = none then ([], e, q)
    else if !e ∧ c = escape then scanned line true q
    else if !e ∧ c ∈ quotes ∧ q = none then
      ((empty, true) :: (scanned line e (some c)).1, (scanned line e (some c)).2)
    else if !e ∧ q = some c then scanned line e none
    else ((c, e || q.isSome) :: (scanned line false q).1, (scanned line false q).2)

def splitted : List (UInt8 × Bool) → Option Bytes → List Bytes
  | [], _ => []
  | (c, quoted) :: ps, none =>
    if !quoted ∧ c ∈ ifs then splitted ps none else splitted ps (some [c])
  | (c, quoted) :: ps, some w =>
    if quoted ∨ c ∉ ifs then splitted ps (some (w ++ [c]))
    else w.filter (· ≠ empty) :: splitted ps none

def flat (ps : List (UInt8 × Bool)) : Bytes := ps.flatMap fun p => [p.1, flag p.2]

@[simp] theorem flat_nil : flat [] = [] := rfl
@[simp] theorem flat_cons (p : UInt8 × Bool) (ps : List (UInt8 × Bool)) :
    flat (p :: ps) = p.1 :: flag p.2 :: flat ps := rfl
@[simp] theorem flat_append (ps ps' : List (UInt8 × Bool)) :
    flat (ps ++ ps') = flat ps ++ flat ps' := List.flatMap_append
@[simp] theorem length_flat (ps : List (UInt8 × Bool)) : (flat ps).length = 2 * ps.length := by
  induction ps with
  | nil => rfl
  | cons p ps ih => simp [ih]; omega

/-- The buffer behind the pairs is 0. -/
def buffer (ps : List (UInt8 × Bool)) (k : Nat) : Bytes := flat ps ++ List.replicate k 0

theorem put_eq (e : Bool) (q : Option UInt8) (ps : List (UInt8 × Bool)) (k : Nat) (c : UInt8)
    (quoted : Bool) :
    Scan.put ⟨e, q, 2 * ps.length, buffer ps (k + 2)⟩ c quoted =
      some ⟨e, q, 2 * (ps ++ [(c, quoted)]).length, buffer (ps ++ [(c, quoted)]) k⟩ := by
  have hset : ((buffer ps (k + 2)).set (2 * ps.length) c).set (2 * ps.length + 1) (flag quoted) =
      buffer (ps ++ [(c, quoted)]) k := by
    simp [buffer, List.replicate_succ]
  rw [Scan.put, if_pos (by simp [buffer]), hset]
  simp [Nat.mul_add]

variable {blanks line : Bytes}

theorem scan_eq {e : Bool} {q : Option UInt8} {ps : List (UInt8 × Bool)} {k : Nat}
    (hk : 2 * line.length ≤ k) :
    ∃ k', k' + 2 * (scanned line e q).1.length = k ∧
      scan line ⟨e, q, 2 * ps.length, buffer ps k⟩ =
        some ⟨(scanned line e q).2.1, (scanned line e q).2.2,
          2 * (ps ++ (scanned line e q).1).length, buffer (ps ++ (scanned line e q).1) k'⟩ := by
  induction line generalizing e q ps k with
  | nil => exact ⟨k, by simp [scanned], by simp [scan, scanned]⟩
  | cons c line ih =>
    rw [List.length_cons] at hk
    -- the two bytes that a character takes
    have hput : ∀ c quoted e q, ∃ k', k' + 2 * ((scanned line e q).1.length + 1) = k ∧
        ((Scan.put ⟨e, q, 2 * ps.length, buffer ps k⟩ c quoted).bind fun s => scan line s) =
          some ⟨(scanned line e q).2.1, (scanned line e q).2.2,
            2 * (ps ++ (c, quoted) :: (scanned line e q).1).length,
            buffer (ps ++ (c, quoted) :: (scanned line e q).1) k'⟩ := by
      intro c quoted e q
      obtain ⟨k, rfl⟩ := Nat.exists_eq_add_of_le' (show 2 ≤ k by omega)
      obtain ⟨k', hk', h⟩ := @ih e q (ps ++ [(c, quoted)]) k (by omega)
      refine ⟨k', by omega, ?_⟩
      rw [put_eq, Option.bind_some, h]
      simp
    rw [scan, scanned]
    by_cases h1 : c = comment ∧ (!e) = true ∧ q = none
    · simp only [if_pos h1]
      exact ⟨k, by simp, by simp⟩
    by_cases h2 : (!e) = true ∧ c = escape
    · simp only [if_neg h1, if_pos h2]
      exact ih (by omega)
    by_cases h3 : (!e) = true ∧ c ∈ quotes ∧ q = none
    · simp only [if_neg h1, if_neg h2, if_pos h3]
      exact hput empty true e (some c)
    by_cases h4 : (!e) = true ∧ q = some c
    · simp only [if_neg h1, if_neg h2, if_neg h3, if_pos h4]
      exact ih (by omega)
    · simp only [if_neg h1, if_neg h2, if_neg h3, if_neg h4]
      exact hput c (e || q.isSome) false q

theorem split_eq {ps : List (UInt8 × Bool)} (h0 : ∀ p ∈ ps, p.1 ≠ 0) (word : Option Bytes) (k : Nat) :
    split (buffer ps (k + 1)) word = some (splitted ps word) := by
  have hflag : ∀ quoted, flag quoted = 0x20 ↔ quoted = false := by decide
  induction ps generalizing word with
  | nil => cases k <;> simp [buffer, split, splitted, List.replicate_succ]
  | cons p ps ih =>
    obtain ⟨c, quoted⟩ := p
    have hc : c ≠ 0 := h0 (c, quoted) List.mem_cons_self
    have ih := fun word => ih (fun p hp => h0 p (List.mem_cons_of_mem _ hp)) word
    simp only [buffer] at ih
    cases word with
    | none =>
      simp only [buffer, flat_cons, List.cons_append, split, splitted, hc, if_false, hflag, ih,
        Bool.not_eq_true']
      split <;> rfl
    | some w =>
      simp only [buffer, flat_cons, List.cons_append, split, splitted, hc, if_false, hflag, ih,
        ne_eq, Bool.not_eq_false]
      split <;> rfl

theorem length_scanned (line : Bytes) (e : Bool) (q : Option UInt8) :
    (scanned line e q).1.length ≤ line.length := by
  fun_induction scanned line e q <;> simp <;> omega

theorem scanned_ne_zero (h0 : 0 ∉ line) (e : Bool) (q : Option UInt8) :
    ∀ p ∈ (scanned line e q).1, p.1 ≠ 0 := by
  fun_induction scanned line e q <;> simp_all [empty] <;> grind

/-- Both passes. -/
theorem tokenizeLine_eq (h0 : 0 ∉ line) :
    tokenizeLine line = some (if (scanned line false none).2 = (false, none) then
      (0, splitted ((scanned line false none).1 ++ [(0x20, false)]) none) else (1, [])) := by
  obtain ⟨k, hk, h⟩ := @scan_eq line false none [] (2 * line.length + 3) (by omega)
  have hlen := length_scanned line false none
  obtain ⟨k, rfl⟩ := Nat.exists_eq_add_of_le' (show 3 ≤ k by omega)
  unfold tokenizeLine
  rw [show (List.replicate (2 * line.length + 3) 0 : Bytes) = buffer [] (2 * line.length + 3) from rfl]
  rw [show (0 : Nat) = 2 * ([] : List (UInt8 × Bool)).length from rfl, h]
  have hzero : ∀ p ∈ (scanned line false none).1 ++ [(0x20, false)], p.1 ≠ 0 := by
    simpa [or_imp, forall_and] using scanned_ne_zero h0 false none
  generalize scanned line false none = r at *
  obtain ⟨ps, e, q⟩ := r
  by_cases hopen : (e, q) = (false, none)
  · cases hopen
    simp [put_eq, split_eq hzero]
  · cases e <;> simp_all

/-! ## What is left open -/

/-- From inside the quote `q`, or outside of quotes: everything is closed at an
unquoted `#` or at the end of the line. -/
inductive Closed : Option UInt8 → Bytes → Prop
  | done : Closed none []
  | comment (rest : Bytes) : Closed none (comment :: rest)
  | escaped {q : Option UInt8} (c : UInt8) {rest : Bytes} :
      Closed q rest → Closed q (escape :: c :: rest)
  | opening {q : UInt8} {rest : Bytes} :
      q ∈ quotes → Closed (some q) rest → Closed none (q :: rest)
  | closing {q : UInt8} {rest : Bytes} :
      q ∈ quotes → Closed none rest → Closed (some q) (q :: rest)
  | plain {q : Option UInt8} {c : UInt8} {rest : Bytes} : c ≠ escape → q ≠ some c →
      (q = none → c ∉ quotes ∧ c ≠ Client.comment) → Closed q rest → Closed q (c :: rest)

theorem closed_iff {e : Bool} {q : Option UInt8} (hq : ∀ c ∈ q, c ∈ quotes) :
    (scanned line e q).2 = (false, none) ↔
      if e then ∃ c rest, line = c :: rest ∧ Closed q rest else Closed q line := by
  have hesc : escape ∉ quotes := by decide
  have hcom : comment ∉ quotes ∧ comment ≠ escape := by decide
  induction line generalizing e q with
  | nil =>
    cases e with
    | true => simp [scanned]
    | false =>
      simp only [scanned, Prod.mk.injEq, true_and, Bool.false_eq_true, if_false]
      constructor
      · rintro rfl
        exact .done
      · intro h
        cases h
        rfl
  | cons c line ih =>
    cases e with
    | true =>
      rw [if_pos rfl]
      have hstep : (scanned (c :: line) true q).2 = (scanned line false q).2 := by simp [scanned]
      have hline : (scanned line false q).2 = (false, none) ↔ Closed q line := by
        simpa using @ih false q hq
      rw [hstep, hline]
      exact ⟨fun h => ⟨c, line, rfl, h⟩, fun ⟨_, _, heq, h⟩ => (List.cons.inj heq).2 ▸ h⟩
    | false =>
      have h1 := @ih true q hq
      have h2 := @ih false q hq
      have h3 := @ih false none (by simp)
      have h4 : c ∈ quotes → _ := fun hc => @ih false (some c) (by simpa using hc)
      simp only [if_true, if_false, Bool.false_eq_true] at h1 h2 h3 h4 ⊢
      simp only [scanned]
      constructor
      · intro h
        split at h
        · rename_i hc
          obtain ⟨rfl, -, rfl⟩ := hc
          exact .comment line
        split at h
        · rename_i hc
          obtain ⟨d, rest, rfl, hd⟩ := h1.1 h
          exact hc.2 ▸ .escaped d hd
        split at h
        · rename_i hc
          obtain ⟨-, hc, rfl⟩ := hc
          exact .opening hc ((h4 hc).1 h)
        split at h
        · rename_i hc
          obtain ⟨-, rfl⟩ := hc
          exact .closing (hq c rfl) (h3.1 h)
        · exact .plain (by simp_all) (by simp_all) (by grind) (h2.1 h)
      · intro h
        cases h <;> simp_all <;> grind

/-! ## Quoted words -/

/-- A word in quotes, with every character escaped. -/
def quoted (q : UInt8) (w : Bytes) : Bytes := q :: (w.flatMap fun c => [escape, c]) ++ [q]

/-- A line with the words in quotes, and blanks between them. -/
inductive Quoting : List Bytes → Bytes → Prop
  | nil : Quoting [] []
  | one {q : UInt8} (w : Bytes) : q ∈ quotes → Quoting [w] (quoted q w)
  | cons {q : UInt8} (w : Bytes) {blanks : Bytes} {ws : List Bytes} {line : Bytes} :
      q ∈ quotes → blanks ≠ [] → (∀ c ∈ blanks, c ∈ ifs) → Quoting ws line →
      Quoting (w :: ws) (quoted q w ++ blanks ++ line)

theorem scanned_quoted {q : UInt8} (hq : q ∈ quotes) (w rest : Bytes) :
    scanned (quoted q w ++ rest) false none =
      ((empty, true) :: (w.map (·, true)) ++ (scanned rest false none).1,
        (scanned rest false none).2) := by
  have hbody : ∀ w : Bytes, scanned ((w.flatMap fun c => [escape, c]) ++ q :: rest) false (some q) =
      (w.map (·, true) ++ (scanned rest false none).1, (scanned rest false none).2) := by
    intro w
    have hne : q ≠ escape := fun h => absurd (h ▸ hq) (by decide)
    induction w with
    | nil => simp [scanned, hne]
    | cons c w ih => simp [scanned, ih]
  have hne : q ≠ escape ∧ q ≠ comment :=
    ⟨fun h => absurd (h ▸ hq) (by decide), fun h => absurd (h ▸ hq) (by decide)⟩
  simp [quoted, scanned, hne, hq, hbody]

theorem scanned_blanks (h : ∀ c ∈ blanks, c ∈ ifs) (rest : Bytes) :
    scanned (blanks ++ rest) false none =
      (blanks.map (·, false) ++ (scanned rest false none).1, (scanned rest false none).2) := by
  have hplain : ∀ c ∈ ifs, c ≠ comment ∧ c ≠ escape ∧ c ∉ quotes := by
    simp [ifs, comment, escape, quotes]
  induction blanks with
  | nil => rfl
  | cons c blanks ih =>
    obtain ⟨h1, h2, h3⟩ := hplain c (h c List.mem_cons_self)
    simp [scanned, h1, h2, h3, ih fun d hd => h d (List.mem_cons_of_mem c hd)]

theorem splitted_word (w v : Bytes) (ps : List (UInt8 × Bool)) :
    splitted (w.map (·, true) ++ ps) (some v) = splitted ps (some (v ++ w)) := by
  induction w generalizing v with
  | nil => simp
  | cons c w ih => simp [splitted, ih]

/-- A quoted word that a blank follows. -/
theorem splitted_quoted {w : Bytes} (hw : empty ∉ w) {c : UInt8} (hc : c ∈ ifs)
    (ps : List (UInt8 × Bool)) :
    splitted ((empty, true) :: w.map (·, true) ++ (c, false) :: ps) none = w :: splitted ps none := by
  have hfilter : (empty :: w).filter (· ≠ empty) = w := by
    simpa using fun c (hc : c ∈ w) (heq : c = empty) => hw (heq ▸ hc)
  simp only [List.cons_append, splitted]
  rw [if_neg (by simp), splitted_word]
  simp only [splitted, hc, not_true_eq_false, or_false, Bool.false_eq_true, if_false]
  rw [List.singleton_append, hfilter]

theorem splitted_blanks (h : ∀ c ∈ blanks, c ∈ ifs) (ps : List (UInt8 × Bool)) :
    splitted (blanks.map (·, false) ++ ps) none = splitted ps none := by
  induction blanks with
  | nil => rfl
  | cons c blanks ih =>
    simp [splitted, h c List.mem_cons_self, ih fun d hd => h d (List.mem_cons_of_mem c hd)]

theorem scanned_quoting {ws : List Bytes} (h : Quoting ws line) (hws : ∀ w ∈ ws, empty ∉ w) :
    (scanned line false none).2 = (false, none) ∧
      splitted ((scanned line false none).1 ++ [(0x20, false)]) none = ws := by
  induction h with
  | nil => simp [scanned, splitted, ifs]
  | one w hq =>
    have hscan := scanned_quoted hq w []
    rw [List.append_nil] at hscan
    rw [hscan]
    refine ⟨rfl, ?_⟩
    simpa [scanned, splitted] using splitted_quoted (hws w (by simp)) (by simp [ifs]) []
  | @cons q w blanks ws line hq hne hblanks _ ih =>
    obtain ⟨hopen, hsplit⟩ := ih fun v hv => hws v (List.mem_cons_of_mem w hv)
    rw [List.append_assoc, scanned_quoted hq, scanned_blanks hblanks]
    refine ⟨hopen, ?_⟩
    obtain ⟨c, blanks, rfl⟩ := List.exists_cons_of_ne_nil hne
    have hword := splitted_quoted (hws w (by simp)) (hblanks c (by simp))
      (blanks.map (·, false) ++ ((scanned line false none).1 ++ [(0x20, false)]))
    rw [splitted_blanks fun d hd => hblanks d (List.mem_cons_of_mem c hd), hsplit] at hword
    simpa using hword

theorem zero_notMem_quoting {ws : List Bytes} (h : Quoting ws line) (hws : ∀ w ∈ ws, 0 ∉ w) :
    0 ∉ line := by
  have hifs : (0 : UInt8) ∉ ifs := by decide
  have hesc : (0 : UInt8) ≠ escape := by decide
  have hquoted : ∀ {q w}, q ∈ quotes → 0 ∉ w → 0 ∉ quoted q w := by
    intro q w hq hw
    have hq0 : (0 : UInt8) ≠ q := fun h => absurd (h ▸ hq) (by decide)
    simpa [quoted, hq0, hesc] using hw
  induction h with
  | nil => simp
  | one w hq => exact hquoted hq (hws w (by simp))
  | cons w hq _ hblanks _ ih =>
    have ih := ih fun v hv => hws v (List.mem_cons_of_mem w hv)
    simp only [List.mem_append, not_or]
    exact ⟨⟨hquoted hq (hws w (by simp)), fun h0 => hifs (hblanks 0 h0)⟩, ih⟩

/-- Words without NUL and without the marker, in quotes and with blanks between
them, are what the line is split into. Every line is read inside the buffer, and
is refused if and only if something is left open. -/
theorem tokenizeLine_correct :
    (∀ ws line, (∀ w ∈ ws, 0 ∉ w ∧ empty ∉ w) → Quoting ws line →
      tokenizeLine line = some (0, ws)) ∧
    ∀ line : Bytes, 0 ∉ line →
      (∃ rc words, tokenizeLine line = some (rc, words) ∧ (rc = 0 ∨ rc = 1)) ∧
      ((∃ words, tokenizeLine line = some (1, words)) ↔ ¬ Closed none line) := by
  constructor
  · intro ws line hws hquoting
    obtain ⟨hclosed, hsplit⟩ := scanned_quoting hquoting fun w hw => (hws w hw).2
    rw [tokenizeLine_eq (zero_notMem_quoting hquoting fun w hw => (hws w hw).1), if_pos hclosed, hsplit]
  · intro line h0
    have hclosed : (scanned line false none).2 = (false, none) ↔ Closed none line := by
      simpa using @closed_iff line false none (by simp)
    rw [tokenizeLine_eq h0]
    split <;> simp_all

end Lldpd.Client
