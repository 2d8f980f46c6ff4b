import Lldpd.L4Control.Commands
import Mathlib.Data.List.Perm.Basic

/-!
# Abbreviated and completed words (`client/commands.c`)

A word of a command may be abbreviated as long as one node only starts with it.
The search stops at a node whose token is the word, or at the second node that
starts with it, whichever comes first in the list: with two longer tokens in
front of it the word itself is ambiguous (`matchToken_order`).

**Results.**
* `matchToken_resolve_iff`: for siblings with distinct tokens, every order of
  them gives `resolve`, the node with the token or else the only one that starts
  with the word, if and only if a word that is a token abbreviates at most one
  other.
* `complete_iff`: what is completed is the longest common start of the words that
  are not hidden, with a blank if it is one of them, if and only if a hidden word
  neither ends the list nor is the start that is completed. A hidden word that
  ends the list makes the start empty (`complete_hidden_last`).
-/
namespace Lldpd.Client
open Core

variable {κ : Type}

/-! ## Abbreviations -/

section Resolve
variable (can : CmdNode κ → Bool) (token : Bytes)

def starts (c : CmdNode κ) : Bool := c.token.any (fun t => token.isPrefixOf t) && can c

def isToken (c : CmdNode κ) : Bool := decide (c.token = some token) && can c

/-- The only one of several candidates. -/
def only : List (CmdNode κ) → Choice κ
  | [] => .unknown
  | [c] => .best c
  | _ => .ambiguous

/-- What a word stands for. -/
def resolve (nodes : List (CmdNode κ)) : Choice κ :=
  match nodes.find? (isToken can token) with
  | some c => .best c
  | none => only (nodes.filter (starts can token))

variable {can token} {c : CmdNode κ} {nodes nodes' : List (CmdNode κ)}

theorem starts_of_isToken (h : isToken can token c = true) : starts can token c = true := by
  simp only [isToken, Bool.and_eq_true, decide_eq_true_eq] at h
  simp [starts, h.1, h.2]

theorem matchToken_isToken (h : isToken can token c = true) (best : Option (CmdNode κ)) :
    matchToken can token (c :: nodes) best = .best c := by
  have hif : (c.token.any (token.isPrefixOf) && can c) = true := starts_of_isToken h
  simp only [isToken, Bool.and_eq_true, decide_eq_true_eq] at h
  rw [matchToken, if_pos hif, if_pos h.1]

/-- As long as no token is the word, what starts with it is collected. -/
theorem matchToken_append (hnot : ∀ c ∈ nodes, isToken can token c = false)
    (best : Option (CmdNode κ)) :
    matchToken can token (nodes ++ nodes') best =
      match best.toList ++ nodes.filter (starts can token) with
      | [] => matchToken can token nodes' none
      | [b] => matchToken can token nodes' (some b)
      | _ => .ambiguous := by
  induction nodes generalizing best with
  | nil => cases best <;> simp
  | cons c nodes ih =>
    have hc := hnot c List.mem_cons_self
    have ih := fun best => ih (fun d hd => hnot d (List.mem_cons_of_mem c hd)) best
    cases hs : starts can token c with
    | false =>
      have hif : ¬ (c.token.any (token.isPrefixOf) && can c) = true := by
        simpa [starts] using hs
      rw [List.cons_append, matchToken, if_neg hif, ih, List.filter_cons_of_neg (by simp [hs])]
    | true =>
      have hif : (c.token.any (token.isPrefixOf) && can c) = true := hs
      have hne : c.token ≠ some token := by
        intro ht
        simp [isToken, ht, (Bool.and_eq_true_iff.1 hif).2] at hc
      rw [List.cons_append, matchToken, if_pos hif, if_neg hne, List.filter_cons_of_pos hs]
      cases best with
      | none => simp [ih]
      | some b => simp

theorem matchToken_none (hnot : ∀ c ∈ nodes, isToken can token c = false) :
    matchToken can token nodes none = only (nodes.filter (starts can token)) := by
  rw [← List.append_nil nodes, matchToken_append hnot, List.append_nil]
  cases hf : nodes.filter (starts can token) with
  | nil => simp [matchToken, only]
  | cons b l => cases l <;> simp [matchToken, only]

def Distinct (nodes : List (CmdNode κ)) : Prop :=
  nodes.Pairwise fun c d => c.token = none ∨ c.token ≠ d.token

theorem Distinct.token_unique (hd : Distinct nodes) :
    (nodes.filter (isToken can token)).length ≤ 1 := by
  have hp := hd.filter (isToken can token)
  have hall : ∀ c ∈ nodes.filter (isToken can token), c.token = some token := by
    intro c hc
    simpa [isToken] using (Bool.and_eq_true_iff.1 (List.mem_filter.1 hc).2).1
  rcases hl : nodes.filter (isToken can token) with _ | ⟨c, _ | ⟨d, l⟩⟩
  · simp
  · simp
  · rw [hl] at hp hall
    have hcd := (List.pairwise_cons.1 hp).1 d List.mem_cons_self
    simp [hall c (by simp), hall d (by simp)] at hcd

theorem only_perm {l l' : List (CmdNode κ)} (h : l.Perm l') : only l = only l' := by
  rcases l with _ | ⟨c, _ | ⟨d, l⟩⟩
  · rw [h.nil_eq]
  · rw [List.singleton_perm.1 h]
  · rcases l' with _ | ⟨c', _ | ⟨d', l'⟩⟩
    · simp at h
    · simpa using h.length_eq
    · rfl

/-- A word that is a token is the start of at most one other. -/
def Clear (can : CmdNode κ → Bool) (token : Bytes) (nodes : List (CmdNode κ)) : Prop :=
  (∃ c ∈ nodes, isToken can token c = true) → (nodes.filter (starts can token)).length ≤ 2

theorem matchToken_clear (hclear : Clear can token nodes) :
    matchToken can token nodes none = resolve can token nodes := by
  unfold resolve
  cases hf : nodes.find? (isToken can token) with
  | none => exact matchToken_none fun c hc => by simpa using List.find?_eq_none.1 hf c hc
  | some c =>
    obtain ⟨hc, front, rest, rfl, hfront⟩ := List.find?_eq_some_iff_append.1 hf
    have hlen := hclear ⟨c, by simp, hc⟩
    have hnot : ∀ d ∈ front, isToken can token d = false := by simpa using hfront
    rw [List.filter_append, List.filter_cons_of_pos (starts_of_isToken hc)] at hlen
    rw [matchToken_append hnot]
    rcases hl : front.filter (starts can token) with _ | ⟨b, _ | ⟨_, _⟩⟩
    · exact matchToken_isToken hc none
    · exact matchToken_isToken hc (some b)
    · simp [hl] at hlen

theorem resolve_perm (hd : Distinct nodes) (h : nodes'.Perm nodes) :
    resolve can token nodes' = resolve can token nodes := by
  have hperm := h.filter (isToken can token)
  have hunique : (nodes.filter (isToken can token)).length ≤ 1 := hd.token_unique
  unfold resolve
  rw [← List.head?_filter, ← List.head?_filter]
  rcases hl : nodes.filter (isToken can token) with _ | ⟨c, _ | ⟨_, _⟩⟩
  · rw [hl] at hperm
    rw [hperm.eq_nil]
    exact only_perm (h.filter _)
  · rw [hl] at hperm
    simp [List.perm_singleton.1 hperm]
  · simp [hl] at hunique

/-- The longer tokens may all stand in front of the others. -/
theorem matchToken_front (hd : Distinct nodes)
    (hlen : 3 ≤ (nodes.filter (starts can token)).length) :
    ∃ nodes', nodes'.Perm nodes ∧ matchToken can token nodes' none = .ambiguous := by
  let longer : CmdNode κ → Bool := fun c => starts can token c && !isToken can token c
  refine ⟨_, List.filter_append_perm longer nodes, ?_⟩
  have hnot : ∀ c ∈ nodes.filter longer, isToken can token c = false := by simp [longer]
  have hstarts : (nodes.filter longer).filter (starts can token) = nodes.filter longer :=
    List.filter_eq_self.2 (by simp +contextual [longer])
  have htwo : 2 ≤ (nodes.filter longer).length := by
    have hsum := @List.length_eq_length_filter_add _ (nodes.filter (starts can token))
      (isToken can token)
    have hunique := @Distinct.token_unique _ can token _ (hd.filter (starts can token))
    have heq : (nodes.filter (starts can token)).filter (fun c => !isToken can token c) =
        nodes.filter longer := by
      rw [List.filter_filter]
      exact List.filter_congr fun c _ => Bool.and_comm _ _
    rw [heq] at hsum
    omega
  rw [matchToken_append hnot, hstarts]
  rcases hl : nodes.filter longer with _ | ⟨_, _ | ⟨_, _⟩⟩
  · simp [hl] at htwo
  · simp [hl] at htwo
  · rfl

/-- For siblings with distinct tokens and whatever may be executed: in every
order the choice is what the word stands for, if and only if the word is clear. -/
theorem matchToken_resolve_iff (can : CmdNode κ → Bool) (token : Bytes)
    (nodes : List (CmdNode κ)) (hd : Distinct nodes) :
    (∀ nodes', nodes'.Perm nodes →
        matchToken can token nodes' none = resolve can token nodes) ↔
      Clear can token nodes := by
  constructor
  · intro h
    by_contra hclear
    obtain ⟨⟨c, hc, htoken⟩, hlen⟩ := Classical.not_imp.1 hclear
    obtain ⟨nodes', hperm, hamb⟩ := matchToken_front hd (Nat.lt_of_not_le hlen)
    have hres := (h nodes' hperm).symm.trans hamb
    unfold resolve at hres
    cases hf : nodes.find? (isToken can token) with
    | none => exact absurd htoken (by simpa using List.find?_eq_none.1 hf c hc)
    | some d => simp [hf] at hres
  · intro hclear nodes' hperm
    have hclear' : Clear can token nodes' := by
      rintro ⟨c, hc, htoken⟩
      rw [(hperm.filter _).length_eq]
      exact hclear ⟨c, hperm.mem_iff.1 hc, htoken⟩
    rw [matchToken_clear hclear', resolve_perm hd hperm]

/-- The tokens `a` and `ab`, and the word `a`. -/
theorem matchToken_resolve_two :
    let nodes := [oneWord (ascii "a") false .exit, oneWord (ascii "ab") false .exit]
    ∀ nodes', nodes'.Perm nodes → matchToken (fun _ => true) (ascii "a") nodes' none =
      resolve (fun _ => true) (ascii "a") nodes :=
  (matchToken_resolve_iff _ _ _ (by simp [Distinct, oneWord, CmdNode.token]; decide)).2
    fun _ => by decide

/-- Behind `ab` and `abc` the token `a` is not found, in front of them it is. -/
theorem matchToken_order :
    let nodes := [ascii "ab", ascii "abc", ascii "a"].map (oneWord · false .exit)
    let root := fun nodes => CmdNode.mk none false false none none nodes
    (∃ c ∈ nodes, isToken (fun _ => true) (ascii "a") c = true) ∧
      matchToken (fun _ => true) (ascii "a") nodes none = .ambiguous ∧
      (commandsExecute callbacks ⟨false, false⟩ (root nodes) [ascii "a"]).2.1 = false ∧
      (commandsExecute callbacks ⟨false, false⟩ (root nodes.reverse) [ascii "a"]).2.1 = true :=
  ⟨⟨oneWord (ascii "a") false .exit, by simp, by decide⟩, rfl, by decide, by decide⟩

end Resolve

/-! ## Completion -/

/-- One turn of the loop over the columns: the byte that all words have at `n`.
`c` is 0 behind a hidden word, also behind the last one.
mirrors commands.c:467-477 -/
def column (n : Nat) : List CandidateWord → Option UInt8 → Bool → Option UInt8
  | [], p, c => if c then p else none
  | (_, true) :: words, p, _ => column n words p false
  | (none, false) :: _, _, _ => none
  | (some t, false) :: words, p, _ =>
    if t = newline then none
    else match t[n]? with
      | none => none
      | some b => if p.all (· = b) then column n words (some b) true else none

/-- The columns from `n` on, `fuel` of them. -/
def columns (words : List CandidateWord) : Nat → Nat → Bytes
  | 0, _ => []
  | fuel + 1, n => (column n words none true).elim [] fun b => b :: columns words fuel (n + 1)

def maxl (words : List CandidateWord) : Nat :=
  words.foldl (fun m w => max m (w.1.elim 0 List.length)) 10

/-- The common start of the words, and `*word`.
mirrors commands.c:461-495 -/
def completeWord (words : List CandidateWord) (typed : Bytes) (all : Bool) : Bytes × Option Bytes :=
  let p := columns words (maxl words) 0
  (p, if !all ∧ p ≠ newline ∧ 0 < p.length ∧ typed.length < p.length then
      some (if words.any fun w => w.1 = some p then p ++ [0x20] else p)
    else none)

/-- mirrors commands.c:535-544 -/
def commandsComplete (cb : Callbacks κ) (root : CmdNode κ) (argv : List Bytes)
    (all privileged : Bool) : Option Bytes :=
  let r := commandsExecute cb ⟨privileged, true⟩ root argv
  if r.2.1 then (completeWord r.2.2 (argv.getLast?.getD []) all).2 else none

section Complete
variable {words : List CandidateWord} {typed q : Bytes} {n : Nat} {b : UInt8}

def visible (words : List CandidateWord) : List (Option Bytes) :=
  (words.filter fun w => !w.2).map Prod.fst

/-- The longest common start, which is empty if there is something to be entered
that is not a word. -/
def LongestStart (ts : List (Option Bytes)) (p : Bytes) : Prop :=
  if ts = [] ∨ none ∈ ts ∨ some newline ∈ ts then p = []
  else ∀ q, q <+: p ↔ ∀ t, some t ∈ ts → q <+: t

def endsHidden (words : List CandidateWord) : Bool := words.getLast?.any Prod.snd

@[simp] theorem visible_cons (w : CandidateWord) :
    visible (w :: words) = if w.2 then visible words else w.1 :: visible words := by
  obtain ⟨t, _ | _⟩ := w <;> simp [visible]

theorem endsHidden_cons (w : CandidateWord) :
    endsHidden (w :: words) = if words = [] then w.2 else endsHidden words := by
  cases words <;> simp [endsHidden, List.getLast?_cons_cons]

/-- A word that has `b` at `n`. -/
def Agrees (n : Nat) (b : UInt8) (t : Option Bytes) : Prop :=
  ∃ t', t = some t' ∧ t' ≠ newline ∧ t'[n]? = some b

theorem column_iff (p : Option UInt8) (c : Bool) :
    column n words p c = some b ↔ (if words = [] then c = true else endsHidden words = false) ∧
      (∀ t ∈ visible words, Agrees n b t) ∧ (p = some b ∨ p = none ∧ visible words ≠ []) := by
  induction words generalizing p c with
  | nil => simp [column, visible]
  | cons w words ih =>
    rw [endsHidden_cons]
    obtain ⟨_ | t, _ | _⟩ := w
    · simp [column, Agrees]
    · by_cases hw : words = [] <;> simp [column, ih, hw]
    · by_cases ht : t = newline
      · simp [column, ht, Agrees]
      cases hb : t[n]? with
      | none => simp [column, ht, hb, Agrees]
      | some b' =>
        by_cases hp : p.all (· = b') = true
        · by_cases hw : words = []
          · cases p <;> simp_all [column, Agrees, visible]
          · cases p <;> simp_all [column, Agrees]
            grind
        · cases p <;> simp_all [column, Agrees]
          grind
    · by_cases hw : words = [] <;> simp [column, ih, hw]

theorem prefix_columns_iff (fuel : Nat) : q <+: columns words fuel n ↔
    q.length ≤ fuel ∧ ∀ i b, q[i]? = some b → column (n + i) words none true = some b := by
  induction fuel generalizing n q with
  | zero => cases q <;> simp [columns]
  | succ fuel ih =>
    cases q with
    | nil => simp
    | cons b q =>
      have hshift : (∀ i b', (b :: q)[i]? = some b' → column (n + i) words none true = some b') ↔
          column n words none true = some b ∧
            ∀ i b', q[i]? = some b' → column (n + 1 + i) words none true = some b' := by
        constructor
        · intro h
          refine ⟨h 0 b rfl, fun i b' hi => ?_⟩
          rw [Nat.add_assoc, Nat.add_comm 1 i]
          exact h (i + 1) b' hi
        · rintro ⟨h0, h⟩ (_ | i) b' hi
          · cases hi
            exact h0
          · rw [← Nat.add_assoc, Nat.add_right_comm]
            exact h i b' hi
      rw [hshift, columns]
      cases hc : column n words none true with
      | none => simp
      | some b' =>
        simp only [Option.elim_some, List.cons_prefix_cons, ih, List.length_cons,
          Nat.add_le_add_iff_right, Option.some.injEq]
        constructor
        · rintro ⟨rfl, hlen, h⟩
          exact ⟨hlen, rfl, h⟩
        · rintro ⟨hlen, rfl, h⟩
          exact ⟨rfl, hlen, h⟩

theorem length_le_maxl {t : Bytes} (ht : some t ∈ visible words) : t.length ≤ maxl words := by
  have hfold : ∀ (words : List CandidateWord) m,
      m ≤ words.foldl (fun m w => max m (w.1.elim 0 List.length)) m ∧
      (some t ∈ visible words →
        t.length ≤ words.foldl (fun m w => max m (w.1.elim 0 List.length)) m) := by
    intro words
    induction words with
    | nil => simp [visible]
    | cons w words ih =>
      intro m
      have ih := ih (max m (w.1.elim 0 List.length))
      refine ⟨Nat.le_trans (Nat.le_max_left _ _) ih.1, fun hmem => ?_⟩
      rw [visible_cons] at hmem
      split at hmem
      · exact ih.2 hmem
      · rcases List.mem_cons.1 hmem with heq | hmem
        · rw [← heq] at ih
          rw [List.foldl_cons, ← heq]
          exact Nat.le_trans (Nat.le_max_right _ _) ih.1
        · exact ih.2 hmem
  exact (hfold words 10).2 ht

/-- Without a hidden word at the end, what is found is the longest common start. -/
theorem longestStart_columns (hend : endsHidden words = false) :
    LongestStart (visible words) (columns words (maxl words) 0) := by
  have hcol : ∀ i b, column i words none true = some b ↔
      visible words ≠ [] ∧ ∀ t ∈ visible words, Agrees i b t := by
    intro i b
    rw [column_iff]
    by_cases hw : words = [] <;> simp [hw, hend, and_comm, visible]
  unfold LongestStart
  split
  · rename_i hodd
    have hnone : ∀ b, column 0 words none true ≠ some b := by
      intro b hb
      obtain ⟨hne, hall⟩ := (hcol 0 b).1 hb
      rcases hodd with h | h | h
      · exact hne h
      · obtain ⟨t, ht, -⟩ := hall none h
        cases ht
      · obtain ⟨t, ht, hnl, -⟩ := hall _ h
        exact hnl (Option.some.inj ht).symm
    cases hm : maxl words with
    | zero => rfl
    | succ m => simp [columns, Option.eq_none_iff_forall_ne_some.2 hnone]
  · rename_i hplain
    simp only [not_or] at hplain
    obtain ⟨hne, hnone, hnl⟩ := hplain
    intro q
    have hword : ∀ t ∈ visible words, ∃ t', t = some t' ∧ t' ≠ newline := by
      intro t ht
      cases t with
      | none => exact absurd ht hnone
      | some t' => exact ⟨t', rfl, fun h => hnl (h ▸ ht)⟩
    rw [prefix_columns_iff]
    constructor
    · rintro ⟨-, hq⟩ t ht
      rw [List.prefix_iff_getElem?]
      intro i hi
      obtain ⟨t', heq, -, hget⟩ := ((hcol (0 + i) _).1 (hq i _ (List.getElem?_eq_getElem hi))).2 _ ht
      cases heq
      simpa using hget
    · intro hq
      obtain ⟨t, ht⟩ := List.exists_mem_of_ne_nil _ hne
      obtain ⟨t, rfl, -⟩ := hword t ht
      refine ⟨Nat.le_trans (hq t ht).length_le (length_le_maxl ht), fun i b hi => ?_⟩
      rw [Nat.zero_add, hcol]
      refine ⟨hne, fun t ht => ?_⟩
      obtain ⟨t, rfl, hnl⟩ := hword t ht
      obtain ⟨r, rfl⟩ := hq t ht
      exact ⟨q ++ r, rfl, hnl, by rw [List.getElem?_append_left (by grind), hi]⟩

theorem columns_endsHidden (hend : endsHidden words = true) : columns words (maxl words) 0 = [] := by
  have hne : words ≠ [] := by
    rintro rfl
    simp [endsHidden] at hend
  cases hm : maxl words with
  | zero => rfl
  | succ m =>
    have hnone : column 0 words none true = none := by
      rw [Option.eq_none_iff_forall_ne_some]
      simp [column_iff, hne, hend]
    simp [columns, hnone]

theorem LongestStart.unique {ts : List (Option Bytes)} {p p' : Bytes} (h : LongestStart ts p)
    (h' : LongestStart ts p') : p = p' := by
  unfold LongestStart at h h'
  split at h
  · rw [h, (by simpa [*] using h' : p' = [])]
  · rename_i hplain
    rw [if_neg hplain] at h'
    have hle := (h' p).2 ((h p).1 (List.prefix_refl p))
    have hge := (h p').2 ((h' p').1 (List.prefix_refl p'))
    exact hle.eq_of_length (Nat.le_antisymm hle.length_le hge.length_le)

theorem mem_words_iff {t : Option Bytes} :
    (∃ w ∈ words, w.1 = t) ↔ t ∈ visible words ∨ (t, true) ∈ words := by
  simp only [visible, List.mem_map, List.mem_filter]
  constructor
  · rintro ⟨⟨t, _ | _⟩, hw, rfl⟩
    · exact .inl ⟨_, ⟨hw, rfl⟩, rfl⟩
    · exact .inr hw
  · rintro (⟨w, ⟨hw, -⟩, rfl⟩ | hw)
    · exact ⟨w, hw, rfl⟩
    · exact ⟨_, hw, rfl⟩

/-- No hidden word shows: one that ends the list has nothing to cut short, and
the start that is completed is not a hidden word alone. -/
structure Unseen (words : List CandidateWord) (typed : Bytes) : Prop where
  last : endsHidden words = true → LongestStart (visible words) []
  word : ∀ p, LongestStart (visible words) p → typed.length < p.length → p ≠ newline →
    (some p, true) ∈ words → some p ∈ visible words

/-- For all candidates and a word that is typed: what is completed is the longest
common start of the visible words, followed by a blank if and only if it is one of
them and longer than what is typed, if and only if no hidden word shows. -/
theorem complete_iff (words : List CandidateWord) (typed : Bytes) :
    (LongestStart (visible words) (completeWord words typed false).1 ∧
      ((completeWord words typed false).2 = some ((completeWord words typed false).1 ++ [0x20]) ↔
        some (completeWord words typed false).1 ∈ visible words ∧
          typed.length < (completeWord words typed false).1.length)) ↔
      Unseen words typed := by
  simp only [completeWord]
  generalize hp : columns words (maxl words) 0 = p
  have hblank : ((if !false ∧ p ≠ newline ∧ 0 < p.length ∧ typed.length < p.length then
        some (if words.any fun w => w.1 = some p then p ++ [0x20] else p) else none) =
          some (p ++ [0x20])) ↔ p ≠ newline ∧ typed.length < p.length ∧
        (some p ∈ visible words ∨ (some p, true) ∈ words) := by
    have hany : (words.any fun w => w.1 = some p) = true ↔
        some p ∈ visible words ∨ (some p, true) ∈ words := by
      rw [← mem_words_iff]
      simp
    rw [← hany]
    split
    · rename_i hcond
      cases words.any fun w => w.1 = some p <;> simp [hcond.2.1, hcond.2.2.2]
    · rename_i hcond
      simp only [reduceCtorEq, false_iff]
      exact fun h => hcond ⟨rfl, h.1, by omega, h.2.1⟩
  rw [hblank]
  constructor
  · rintro ⟨hstart, hiff⟩
    refine ⟨fun hend => ?_, fun p' hstart' htyped hnl hmem => ?_⟩
    · rwa [← hp, columns_endsHidden hend] at hstart
    · obtain rfl := hstart'.unique hstart
      exact (hiff.1 ⟨hnl, htyped, .inr hmem⟩).1
  · intro hu
    cases hend : endsHidden words with
    | true =>
      rw [columns_endsHidden hend] at hp
      subst hp
      exact ⟨hu.last hend, by simp⟩
    | false =>
      have hstart : LongestStart (visible words) p := hp ▸ longestStart_columns hend
      refine ⟨hstart, fun ⟨hnl, htyped, hmem⟩ => ⟨?_, htyped⟩,
        fun ⟨hmem, htyped⟩ => ⟨?_, htyped, .inl hmem⟩⟩
      · exact hmem.elim id (hu.word p hstart htyped hnl)
      · intro hnl
        rw [hnl] at hmem hstart
        rw [LongestStart, if_pos (.inr (.inr hmem))] at hstart
        exact absurd hstart (by decide)

/-- `up` with the words `update` and `upgrade`, the second one hidden or not. -/
def upTree (hidden : Bool) : List (CmdNode Label) :=
  [oneWord (ascii "update") false .update,
    .mk (some (ascii "upgrade")) false hidden none none []]

/-- The hidden word is the last one, and nothing is completed. In front of the
other one it is not seen. -/
theorem complete_hidden_last :
    let root := fun nodes => CmdNode.mk none false false none none nodes
    (commandsExecute callbacks ⟨false, true⟩ (root (upTree true)) [ascii "up"]).2.2 =
        [(some (ascii "update"), false), (some (ascii "upgrade"), true)] ∧
      commandsComplete callbacks (root (upTree true)) [ascii "up"] false false = none ∧
      commandsComplete callbacks (root (upTree true).reverse) [ascii "up"] false false =
        some (ascii "update ") := by
  decide

end Complete

end Lldpd.Client
