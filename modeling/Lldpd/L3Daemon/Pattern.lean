import Lldpd.Core.Tokens

/-!
# Lists of patterns (`pattern.c`)

An interface or an address is compared with a list of patterns in one pass, which
stops at the first `!!` element that matches. The matching itself is `fnmatch`, a
parameter here: all that is asked of it is that a pattern that starts with `!` does
not match a string that does not (`Sound`).

* `matchTokens_eq`: the pass against `verdict`, which says what each kind of element has to
  do with the result;
* `patternMatch_accepts`: whether a string is accepted does not depend on the order of
  the elements;
* `patternMatch_exact_iff`: whether it is an exact match does. The `!!` element that
  stops the pass decides, and one with a wildcard may be in front of the exact one.
-/
namespace Lldpd.Pattern
open Core

def tokens (patterns : Text) : List Text := strtoks ',' patterns

/-- The loop, with `blacklisted` and `found`. `fnmatch` is whether it returns 0.
mirrors pattern.c:56-76 -/
def matchTokens (fnmatch : Text → Text → Bool) (string : Text) : List Text → Bool → Nat → Nat
  | [], _, found => found
  | pattern :: rest, blacklisted, found =>
    if pattern[0]? = some '!' ∧ pattern[1]? = some '!' ∧ fnmatch (pattern.drop 2) string then
      if pattern.drop 2 = string then 2 else 1
    else if pattern[0]? = some '!' ∧ fnmatch (pattern.drop 1) string then
      matchTokens fnmatch string rest true 0
    else if !blacklisted ∧ fnmatch pattern string then
      matchTokens fnmatch string rest blacklisted
        (if pattern = string then 2 else if found < 2 then 1 else found)
    else matchTokens fnmatch string rest blacklisted found

/-- `pattern_match`. `strdup` succeeds.
mirrors pattern.c:44-80 -/
def patternMatch (fnmatch : Text → Text → Bool) (string patterns : Text) (found : Nat) : Nat :=
  matchTokens fnmatch string (tokens patterns) false (if found = 0 then 0 else 1)

/-- The part of `struct interfaces_device` that `interfaces_helper_whitelist` changes:
`physical` is `type & IFACE_PHYSICAL_T`. -/
structure Iface where
  name : Text
  flags : Nat
  physical : Bool
  deriving DecidableEq, Repr

/-- mirrors interfaces.c:165-188 -/
def interfacesHelperWhitelist (fnmatch : Text → Text → Bool) (cIfacePattern : Option Text)
    (interfaces : List Iface) : List Iface :=
  match cIfacePattern with
  | none => interfaces
  | some patterns => interfaces.map fun iface =>
    match patternMatch fnmatch iface.name patterns 0 with
    | 0 => { iface with flags := 0 }
    | 2 => { iface with physical := true }
    | _ => iface

/-! ## What the elements of a list say -/

def Sound (fnmatch : Text → Text → Bool) : Prop :=
  ∀ pattern string : Text, string[0]? ≠ some '!' → fnmatch ('!' :: pattern) string = false

section Elements
variable (fnmatch : Text → Text → Bool) (string : Text)

/-- `!!p` where `p` matches. -/
def white (e : Text) : Bool :=
  e[0]? = some '!' && e[1]? = some '!' && fnmatch (e.drop 2) string

/-- `!p` where `p` matches. -/
def black (e : Text) : Bool := e[0]? = some '!' && fnmatch (e.drop 1) string

def plain (e : Text) : Bool := e[0]? ≠ some '!' && fnmatch e string

/-- The result, from the elements: the first `!!` element that matches, the `!`
elements, the plain ones. -/
def verdict (es : List Text) (found : Nat) : Nat :=
  match es.find? (white fnmatch string) with
  | some e => if e.drop 2 = string then 2 else 1
  | none =>
    if es.any (black fnmatch string) then 0
    else if string ∈ es ∧ fnmatch string string then 2
    else if es.any (plain fnmatch string) then max found 1
    else found

end Elements

section Loop
variable {fnmatch : Text → Text → Bool} {string e : Text} {es : List Text} {found : Nat}

/-- A turn of the loop. -/
theorem matchTokens_cons (blacklisted : Bool) :
    matchTokens fnmatch string (e :: es) blacklisted found =
      if white fnmatch string e then if e.drop 2 = string then 2 else 1
      else if black fnmatch string e then matchTokens fnmatch string es true 0
      else if !blacklisted ∧ fnmatch e string then
        matchTokens fnmatch string es blacklisted
          (if e = string then 2 else if found < 2 then 1 else found)
      else matchTokens fnmatch string es blacklisted found := by
  simp [matchTokens, white, black, and_assoc]

/-- Behind a `!` element that matches only a `!!` element counts. -/
theorem matchTokens_blacklisted :
    matchTokens fnmatch string es true 0 =
      match es.find? (white fnmatch string) with
      | some e => if e.drop 2 = string then 2 else 1
      | none => 0 := by
  induction es with
  | nil => rfl
  | cons e es ih =>
    rw [matchTokens_cons]
    by_cases hw : white fnmatch string e
    · simp [hw]
    · simp [hw, ih]

theorem fnmatch_eq_plain (hs : string[0]? ≠ some '!') (hsound : Sound fnmatch) (e : Text) :
    fnmatch e string = plain fnmatch string e := by
  cases e with
  | nil => simp [plain]
  | cons c e =>
    by_cases hc : c = '!'
    · subst hc
      simp [plain, hsound e string hs]
    · simp [plain, hc]

/-- **The pass**, against what the elements say. -/
theorem matchTokens_eq (hs : string[0]? ≠ some '!') (hsound : Sound fnmatch) :
    matchTokens fnmatch string es false found = verdict fnmatch string es found := by
  induction es generalizing found with
  | nil => simp [matchTokens, verdict]
  | cons e es ih =>
    rw [matchTokens_cons]
    unfold verdict
    rw [List.find?_cons]
    by_cases hw : white fnmatch string e
    · simp [hw]
    by_cases hb : black fnmatch string e
    · simp [hw, hb, matchTokens_blacklisted]
    have hplain := fnmatch_eq_plain hs hsound e
    by_cases hm : fnmatch e string
    · -- the element is a plain one and matches
      rw [hm] at hplain
      have hmax : (if found < 2 then 1 else found) = max found 1 := by
        split <;> omega
      simp only [hw, hb, hm, ← hplain, hmax, List.any_cons, Bool.not_false, and_self, if_true,
        Bool.true_or, Bool.false_or, Bool.false_eq_true, if_false, ih]
      unfold verdict
      cases es.find? (white fnmatch string) with
      | some _ => rfl
      | none =>
        by_cases heq : e = string
        · subst heq
          simp [hm]
        · have hmem : string ∈ e :: es ↔ string ∈ es := by simp [Ne.symm heq]
          simp [hmem, heq]
    · have hmem : string ∈ e :: es ∧ fnmatch string string ↔ string ∈ es ∧ fnmatch string string := by
        rw [List.mem_cons]
        constructor
        · intro h
          obtain ⟨rfl | hin, hself⟩ := h
          · exact absurd hself hm
          · exact ⟨hin, hself⟩
        · exact fun h => ⟨.inr h.1, h.2⟩
      have hnot : plain fnmatch string e = false := by
        rw [← hplain]
        simpa using hm
      simp only [hw, hb, hm, hnot, hmem, List.any_cons, Bool.false_or, Bool.false_eq_true, and_false,
        if_false, ih]
      rfl

end Loop

/-! ## Acceptance -/

section Accepted
variable {fnmatch : Text → Text → Bool} {string : Text} {es es' : List Text} {found : Nat}

/-- The rule of precedence: `!!`, then `!`, then the plain elements and the default. -/
def Accepted (fnmatch : Text → Text → Bool) (string : Text) (es : List Text) (found : Nat) : Prop :=
  (∃ p, '!' :: '!' :: p ∈ es ∧ fnmatch p string) ∨
    (∀ p, '!' :: p ∈ es → ¬ fnmatch p string) ∧
      (found ≠ 0 ∨ ∃ e ∈ es, e[0]? ≠ some '!' ∧ fnmatch e string)

theorem white_iff (e : Text) :
    white fnmatch string e ↔ ∃ p, e = '!' :: '!' :: p ∧ fnmatch p string := by
  match e with
  | [] => simp [white]
  | [c] => simp [white]
  | c :: d :: p => simp [white, and_assoc]

theorem black_iff (e : Text) : black fnmatch string e ↔ ∃ p, e = '!' :: p ∧ fnmatch p string := by
  cases e with
  | nil => simp [black]
  | cons c p => simp [black, and_assoc]

theorem exists_white :
    (∃ e ∈ es, white fnmatch string e) ↔ ∃ p, '!' :: '!' :: p ∈ es ∧ fnmatch p string := by
  simp only [white_iff]
  constructor
  · intro h
    obtain ⟨_, hmem, p, rfl, hm⟩ := h
    exact ⟨p, hmem, hm⟩
  · intro h
    obtain ⟨p, hmem, hm⟩ := h
    exact ⟨_, hmem, p, rfl, hm⟩

theorem any_black : es.any (black fnmatch string) ↔ ¬ ∀ p, '!' :: p ∈ es → ¬ fnmatch p string := by
  simp only [List.any_eq_true, black_iff, not_forall, Classical.not_not]
  constructor
  · intro h
    obtain ⟨_, hmem, p, rfl, hm⟩ := h
    exact ⟨p, hmem, hm⟩
  · intro h
    obtain ⟨p, hmem, hm⟩ := h
    exact ⟨_, hmem, p, rfl, hm⟩

theorem any_plain : es.any (plain fnmatch string) ↔
    ∃ e ∈ es, e[0]? ≠ some '!' ∧ fnmatch e string := by
  simp [plain]

theorem verdict_ne_zero (hs : string[0]? ≠ some '!') :
    verdict fnmatch string es found ≠ 0 ↔ Accepted fnmatch string es found := by
  unfold verdict Accepted
  rw [← exists_white]
  cases hfind : es.find? (white fnmatch string) with
  | some e =>
    have hw := List.find?_some hfind
    have hmem := List.mem_of_find?_eq_some hfind
    refine ⟨fun _ => .inl ⟨e, hmem, hw⟩, fun _ => ?_⟩
    simp only
    split
    · decide
    · decide
  | none =>
    have hnone : ¬ ∃ e ∈ es, white fnmatch string e := by
      simpa using List.find?_eq_none.1 hfind
    simp only [hnone, false_or, ← any_plain]
    by_cases hb : es.any (black fnmatch string)
    · rw [if_pos hb]
      exact ⟨absurd rfl, fun h => absurd h.1 (any_black.1 hb)⟩
    have hclear : ∀ p, '!' :: p ∈ es → ¬ fnmatch p string :=
      Classical.not_not.1 fun h => hb (any_black.2 h)
    rw [if_neg hb]
    simp only [and_iff_right hclear]
    by_cases hself : string ∈ es ∧ fnmatch string string
    · have hplain : es.any (plain fnmatch string) := any_plain.2 ⟨string, hself.1, hs, hself.2⟩
      rw [if_pos hself]
      exact ⟨fun _ => .inr hplain, fun _ => by decide⟩
    rw [if_neg hself]
    by_cases hp : es.any (plain fnmatch string)
    · rw [if_pos hp]
      exact ⟨fun _ => .inr hp, fun _ => by omega⟩
    · simp [hp]

theorem accepted_perm (h : es.Perm es') :
    Accepted fnmatch string es found ↔ Accepted fnmatch string es' found := by
  simp [Accepted, h.mem_iff]

end Accepted

/-! ## Exact matches -/

section Exact
variable {fnmatch : Text → Text → Bool} {string : Text} {es es' : List Text} {found : Nat}

def Literal (string : Text) (es : List Text) : Prop := string ∈ es ∨ '!' :: '!' :: string ∈ es

instance : Decidable (Literal string es) := inferInstanceAs (Decidable (_ ∨ _))

def OnlyItself (fnmatch : Text → Text → Bool) (string : Text) (es : List Text) : Prop :=
  fnmatch string string ∧ ∀ p, '!' :: '!' :: p ∈ es → fnmatch p string → p = string

theorem literal_perm (h : es.Perm es') : Literal string es ↔ Literal string es' := by
  simp [Literal, h.mem_iff]

theorem onlyItself_perm (h : es.Perm es') :
    OnlyItself fnmatch string es ↔ OnlyItself fnmatch string es' := by
  simp [OnlyItself, h.mem_iff]

/-- The result is 2 at most for a string that is an element. -/
theorem literal_of_verdict (hf : found ≤ 1) (h : verdict fnmatch string es found = 2) :
    Literal string es ∧ fnmatch string string := by
  unfold verdict at h
  cases hfind : es.find? (white fnmatch string) with
  | some e =>
    obtain ⟨p, rfl, hm⟩ := (white_iff e).1 (List.find?_some hfind)
    have hmem := List.mem_of_find?_eq_some hfind
    rw [hfind] at h
    by_cases hp : p = string
    · exact ⟨.inr (hp ▸ hmem), hp ▸ hm⟩
    · simp [hp] at h
  | none =>
    rw [hfind] at h
    simp only at h
    split at h
    · cases h
    split at h
    · rename_i hself
      exact ⟨.inl hself.1, hself.2⟩
    · split at h
      · omega
      · omega

/-- Without another `!!` element that matches, a string that is accepted and an element
gives 2. -/
theorem verdict_of_onlyItself (hs : string[0]? ≠ some '!')
    (haccepted : Accepted fnmatch string es found) (hliteral : Literal string es)
    (honly : OnlyItself fnmatch string es) : verdict fnmatch string es found = 2 := by
  have hne := (verdict_ne_zero hs).2 haccepted
  unfold verdict at hne ⊢
  cases hfind : es.find? (white fnmatch string) with
  | some e =>
    obtain ⟨p, rfl, hm⟩ := (white_iff e).1 (List.find?_some hfind)
    have hp := honly.2 p (List.mem_of_find?_eq_some hfind) hm
    simp [hp]
  | none =>
    have hnot : '!' :: '!' :: string ∉ es := by
      intro hmem
      have hw := List.find?_eq_none.1 hfind _ hmem
      exact hw ((white_iff _).2 ⟨string, rfl, honly.1⟩)
    have hmem : string ∈ es := hliteral.resolve_right hnot
    rw [hfind] at hne
    simp only at hne ⊢
    split
    · rename_i hb
      simp [hb] at hne
    · rw [if_pos ⟨hmem, honly.1⟩]

/-- A `!!` element that matches and comes first decides. -/
theorem verdict_white {p : Text} (hm : fnmatch p string) (hp : p ≠ string) :
    verdict fnmatch string (('!' :: '!' :: p) :: es) found = 1 := by
  have hw : white fnmatch string ('!' :: '!' :: p) := (white_iff _).2 ⟨p, rfl, hm⟩
  unfold verdict
  rw [List.find?_cons_of_pos hw]
  simp [hp]

theorem verdict_le (hf : found ≤ 1) : verdict fnmatch string es found ≤ 2 := by
  unfold verdict
  split
  · split <;> omega
  · split
    · omega
    split
    · omega
    split
    · omega
    · omega

end Exact

/-! ## An `fnmatch` -/

/-- `fnmatch` for patterns of ordinary characters, `*` and `?`. -/
def glob : Text → Text → Bool
  | [], string => string.isEmpty
  | '*' :: pattern, string => (List.range (string.length + 1)).any fun k => glob pattern (string.drop k)
  | '?' :: pattern, _ :: string => glob pattern string
  | c :: pattern, d :: string => c = d && glob pattern string
  | _ :: _, [] => false

theorem glob_sound : Sound glob := by
  intro pattern string hs
  cases string with
  | nil => simp [glob]
  | cons c string =>
    have hc : '!' ≠ c := fun h => hs (by simp [← h])
    simp [glob, hc]

/-! ## `pattern_match` -/

section Match
variable {fnmatch : Text → Text → Bool} {string : Text} (hsound : Sound fnmatch)
  (hs : string[0]? ≠ some '!') (patterns : Text) (found : Nat)
include hsound hs

theorem patternMatch_eq : patternMatch fnmatch string patterns found =
      verdict fnmatch string (tokens patterns) (if found = 0 then 0 else 1) :=
  matchTokens_eq hs hsound

theorem patternMatch_ne_zero : patternMatch fnmatch string patterns found ≠ 0 ↔
      Accepted fnmatch string (tokens patterns) found := by
  rw [patternMatch_eq hsound hs, verdict_ne_zero hs]
  unfold Accepted
  split <;> simp [*]

/-- **Acceptance**: a `!!` element that matches accepts, otherwise a `!` element that
matches refuses, otherwise the default or a plain element that matches accepts. The
order of the elements has no say. -/
theorem patternMatch_accepts :
    (patternMatch fnmatch string patterns found ≠ 0 ↔
      (∃ p, '!' :: '!' :: p ∈ tokens patterns ∧ fnmatch p string) ∨
        (∀ p, '!' :: p ∈ tokens patterns → ¬ fnmatch p string) ∧
          (found ≠ 0 ∨ ∃ e ∈ tokens patterns, e[0]? ≠ some '!' ∧ fnmatch e string)) ∧
    ∀ patterns', (tokens patterns').Perm (tokens patterns) →
      (patternMatch fnmatch string patterns' found ≠ 0 ↔
        patternMatch fnmatch string patterns found ≠ 0) := by
  have haccepted (patterns : Text) := patternMatch_ne_zero hsound hs patterns found
  refine ⟨haccepted patterns, fun patterns' hperm => ?_⟩
  rw [haccepted, haccepted, accepted_perm hperm]

omit hsound hs in
/-- `!e*,!!eth*` and `eth0`. -/
theorem patternMatch_accepts_eth :
    patternMatch glob ['e', 't', 'h', '0']
      ['!', 'e', '*', ',', '!', '!', 'e', 't', 'h', '*'] 0 ≠ 0 :=
  (patternMatch_accepts glob_sound (by decide) _ 0).1.2
    (.inl ⟨['e', 't', 'h', '*'], by decide, by decide⟩)

theorem patternMatch_le_two : patternMatch fnmatch string patterns found ≤ 2 := by
  rw [patternMatch_eq hsound hs]
  apply verdict_le
  split <;> omega

/-- A 2, when no other `!!` element is in the way. -/
theorem patternMatch_eq_two
    (h : Accepted fnmatch string (tokens patterns) found → Literal string (tokens patterns) →
      OnlyItself fnmatch string (tokens patterns)) :
    patternMatch fnmatch string patterns found = 2 ↔
      patternMatch fnmatch string patterns found ≠ 0 ∧ Literal string (tokens patterns) := by
  have hdefault : (if found = 0 then 0 else 1) ≤ 1 := by
    split <;> omega
  rw [← patternMatch_ne_zero hsound hs, patternMatch_eq hsound hs] at h
  rw [patternMatch_eq hsound hs]
  constructor
  · intro htwo
    exact ⟨by omega, (literal_of_verdict hdefault htwo).1⟩
  · intro hboth
    exact verdict_of_onlyItself hs ((verdict_ne_zero hs).1 hboth.1) hboth.2 (h hboth.1 hboth.2)

/-- **Exact matches**: 2 says that the string is accepted and an element, and does so for
every order of the elements, if and only if such a string matches itself and is the only `!!`
element that matches it. -/
theorem patternMatch_exact_iff :
    (∀ patterns', (tokens patterns').Perm (tokens patterns) →
      (patternMatch fnmatch string patterns' found = 2 ↔
        patternMatch fnmatch string patterns' found ≠ 0 ∧ Literal string (tokens patterns')) ∧
      patternMatch fnmatch string patterns' found = patternMatch fnmatch string patterns found) ↔
    (Accepted fnmatch string (tokens patterns) found → Literal string (tokens patterns) →
      OnlyItself fnmatch string (tokens patterns)) := by
  constructor
  · intro h haccepted hliteral
    have hdefault : (if found = 0 then 0 else 1) ≤ 1 := by
      split <;> omega
    have htwo : patternMatch fnmatch string patterns found = 2 :=
      (h patterns (List.Perm.refl _)).1.2
        ⟨(patternMatch_ne_zero hsound hs patterns found).2 haccepted, hliteral⟩
    have hself := htwo
    rw [patternMatch_eq hsound hs] at hself
    refine ⟨(literal_of_verdict hdefault hself).2, fun p hmem hm => ?_⟩
    refine Decidable.byContradiction fun hp => ?_
    -- the same elements, with that one in front
    have hperm : (('!' :: '!' :: p) :: (tokens patterns).erase ('!' :: '!' :: p)).Perm
        (tokens patterns) := (List.perm_cons_erase hmem).symm
    have htokens : tokens (List.intercalate [','] _) = _ :=
      strtoks_intercalate fun token ht => mem_strtoks (hperm.subset ht)
    have hsame := (h _ (htokens ▸ hperm)).2
    rw [patternMatch_eq hsound hs, htokens, verdict_white hm hp, htwo] at hsame
    cases hsame
  · intro h patterns' hperm
    have hne : patternMatch fnmatch string patterns' found ≠ 0 ↔
        patternMatch fnmatch string patterns found ≠ 0 := by
      rw [patternMatch_ne_zero hsound hs, patternMatch_ne_zero hsound hs, accepted_perm hperm]
    have hliteral : Literal string (tokens patterns') ↔ Literal string (tokens patterns) :=
      literal_perm hperm
    have hexact := patternMatch_eq_two hsound hs patterns found h
    have hexact' := patternMatch_eq_two hsound hs patterns' found fun haccepted' hliteral' =>
      (onlyItself_perm hperm).2 (h ((accepted_perm hperm).1 haccepted') (hliteral.1 hliteral'))
    refine ⟨hexact', ?_⟩
    have hle := patternMatch_le_two hsound hs patterns found
    have hle' := patternMatch_le_two hsound hs patterns' found
    -- both are 2 or neither is, and both are 0 or neither is
    have htwo : patternMatch fnmatch string patterns' found = 2 ↔
        patternMatch fnmatch string patterns found = 2 := by
      rw [hexact, hexact', hne, hliteral]
    omega

omit hsound hs in
/-- `e*,!!eth0` and `eth0`. -/
theorem patternMatch_exact_eth :
    let eth : Text := ['e', 't', 'h', '0']
    let patterns : Text := ['e', '*', ',', '!', '!', 'e', 't', 'h', '0']
    OnlyItself glob eth (tokens patterns) ∧ (patternMatch glob eth patterns 0 = 2 ↔
      patternMatch glob eth patterns 0 ≠ 0 ∧ Literal eth (tokens patterns)) := by
  intro eth patterns
  have htokens : tokens patterns = [['e', '*'], '!' :: '!' :: eth] := by decide
  have honly : OnlyItself glob eth (tokens patterns) := by
    refine ⟨by decide, fun p hmem _ => ?_⟩
    rw [htokens] at hmem
    simpa using hmem
  exact ⟨honly, (((patternMatch_exact_iff glob_sound (by decide) patterns 0).2 fun _ _ => honly)
    patterns (List.Perm.refl _)).1⟩

omit hsound hs in
/-- `!!eth0,!!e*` makes `eth0` a physical interface and `!!e*,!!eth0` does not. -/
theorem patternMatch_ordered :
    let eth : Text := ['e', 't', 'h', '0']
    let exactFirst : Text := ['!', '!', 'e', 't', 'h', '0', ',', '!', '!', 'e', '*']
    let exactLast : Text := ['!', '!', 'e', '*', ',', '!', '!', 'e', 't', 'h', '0']
    patternMatch glob eth exactFirst 0 = 2 ∧ patternMatch glob eth exactLast 0 = 1 ∧
      interfacesHelperWhitelist glob (some exactFirst) [⟨eth, 1, false⟩] = [⟨eth, 1, true⟩] ∧
      interfacesHelperWhitelist glob (some exactLast) [⟨eth, 1, false⟩] = [⟨eth, 1, false⟩] := by
  decide

end Match

end Lldpd.Pattern
