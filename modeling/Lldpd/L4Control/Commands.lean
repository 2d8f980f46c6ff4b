import Lldpd.Core.Bytes

/-!
# The interpreter of `lldpcli` (`client/commands.c`)

A command is entered word by word along a tree of nodes. `_commands_execute`
serves three purposes: it runs a command, it completes one (`word` is not NULL),
and it shows what can come next, if a node has put `help` or `complete` into the
environment. The end of a command is a node too, with the token `<CR>`, and
nothing tells this token from an argument that reads `<CR>`, or `<`, or that is
empty. A node that is privileged may be entered by anybody once `complete` is in
the environment.

The callbacks of the nodes are known by labels. `validate` reads the environment,
and `execute` may also put something into it or pop nodes from the stack, which
is all that `client.h` lets it do. Printing is left out.
-/
namespace Lldpd.Client
open Core

variable {κ : Type}

/-- mirrors commands.c:65-88 -/
inductive CmdNode (κ : Type) where
  | mk (token : Option Bytes) (privileged hidden : Bool) (validate execute : Option κ)
      (subentries : List (CmdNode κ))

namespace CmdNode

def token : CmdNode κ → Option Bytes | mk t _ _ _ _ _ => t
def privileged : CmdNode κ → Bool | mk _ p _ _ _ _ => p
def hidden : CmdNode κ → Bool | mk _ _ h _ _ _ => h
def validate : CmdNode κ → Option κ | mk _ _ _ v _ _ => v
def execute : CmdNode κ → Option κ | mk _ _ _ _ e _ => e
def subentries : CmdNode κ → List (CmdNode κ) | mk _ _ _ _ _ s => s

end CmdNode

/-- mirrors client.h:59 -/
def newline : Bytes := ascii "<CR>"

/-- mirrors commands.c:46-52 -/
structure CmdEnv (κ : Type) where
  elements : List (Bytes × Option Bytes) := []
  stack : List (CmdNode κ) := []
  argv : List Bytes
  argp : Nat := 0

/-- mirrors commands.c:209-217 -/
def CmdEnv.get (env : CmdEnv κ) (key : Bytes) : Option Bytes :=
  (env.elements.find? fun el => el.1 = key).map fun el => el.2.getD el.1

/-- What a callback does with the environment: `cmdenv_put`, `cmdenv_pop`. -/
inductive Act where
  | put (key : Bytes) (value : Option Bytes)
  | pop (n : Nat)
  deriving DecidableEq, Repr

/-- mirrors commands.c:227-266 -/
def CmdEnv.act (env : CmdEnv κ) : Act → CmdEnv κ
  | .put key value => { env with elements := env.elements ++ [(key, value)] }
  | .pop n => { env with stack := env.stack.drop n }

/-- The callbacks; `execute` says whether it has returned 1. -/
structure Callbacks (κ : Type) where
  validate : κ → CmdEnv κ → Bool
  execute : κ → CmdEnv κ → List Act × Bool

structure Mode where
  priv : Bool
  completion : Bool
  deriving DecidableEq, Repr

section Model
variable (cb : Callbacks κ) (mode : Mode)

def CmdEnv.help (env : CmdEnv κ) : Bool := !mode.completion && (env.get (ascii "help")).isSome

/-- Are we asking for possible completions? -/
def CmdEnv.complete (env : CmdEnv κ) : Bool :=
  !mode.completion && (env.get (ascii "complete")).isSome

/-- mirrors commands.c:360-363 -/
def canExecute (env : CmdEnv κ) (candidate : CmdNode κ) : Bool :=
  (!candidate.privileged || mode.priv || env.complete mode) &&
    candidate.validate.all fun v => cb.validate v env

inductive Choice (κ : Type) where
  | unknown
  | ambiguous
  | best (node : CmdNode κ)

/-- The first loop over the subentries.
mirrors commands.c:383-402 -/
def matchToken (can : CmdNode κ → Bool) (token : Bytes) :
    List (CmdNode κ) → Option (CmdNode κ) → Choice κ
  | [], best => best.elim .unknown .best
  | candidate :: rest, best =>
    if candidate.token.any (fun t => token.isPrefixOf t) && can candidate then
      if candidate.token = some token then .best candidate
      else best.elim (matchToken can token rest (some candidate)) fun _ => .ambiguous
    else matchToken can token rest best

/-- Both loops.
mirrors commands.c:383-412 -/
def choose (can : CmdNode κ → Bool) (token : Bytes) (subentries : List (CmdNode κ)) : Choice κ :=
  match matchToken can token subentries none with
  | .unknown => (subentries.find? fun c => c.token.isNone && can c).elim .unknown .best
  | choice => choice

/-- `none` when there is nothing to process.
mirrors commands.c:369-379 -/
def CmdEnv.nextToken (env : CmdEnv κ) : Option Bytes :=
  if mode.completion ∧ env.argp + 1 = env.argv.length then none
  else if env.argp < env.argv.length then env.argv[env.argp]?
  else if env.argp = env.argv.length ∧ !env.help mode ∧ !env.complete mode then some newline
  else none

/-- A callback that has been run, with the environment in front of it. -/
structure Executed (κ : Type) where
  env : CmdEnv κ
  node : CmdNode κ

/-- What the loop leaves: `rc`, the environment, `help` and `complete` as they
were last asked for, the environments that it has been through and the callbacks
that it has run. -/
structure Outcome (κ : Type) where
  failed : Bool
  env : CmdEnv κ
  help : Bool
  complete : Bool
  visited : List (CmdEnv κ)
  executed : List (Executed κ)

/-- One turn of the loop, with the node on top of the stack: the node that has
been entered, what is left of the environment and whether to go on, or whether
this is an error. -/
def turn (current : CmdNode κ) (env : CmdEnv κ) : (CmdNode κ × CmdEnv κ × Bool) ⊕ Bool :=
  match env.nextToken mode with
  | none => .inr false
  | some token =>
    match choose (canExecute cb mode env) token current.subentries with
    | .ambiguous => .inr true
    | .unknown => .inr (env.argp ≠ env.argv.length)
    | .best node =>
      let pushed := { env with stack := node :: env.stack }
      let (acts, ok) := node.execute.elim ([], true) fun e => cb.execute e pushed
      .inl (node, acts.foldl CmdEnv.act pushed, ok)

/-- The loop. `fuel` bounds the number of turns, of which there are at most
`argc + 2`.
mirrors commands.c:368-429 -/
def executeLoop : Nat → Bool → Bool → CmdEnv κ → Outcome κ
  | 0, help, complete, env => ⟨true, env, help, complete, [], []⟩
  | fuel + 1, help, complete, env =>
    match env.stack with
    | [] => ⟨false, env, help, complete, [], []⟩
    | current :: _ =>
      match turn cb mode current env with
      | .inr failed => ⟨failed, env, env.help mode, env.complete mode, [env], []⟩
      | .inl (node, env', ok) =>
        let ran := if node.execute.isSome then [⟨env, node⟩] else []
        if ok then
          let out := executeLoop fuel (env.help mode) (env.complete mode)
            { env' with argp := env.argp + 1 }
          { out with visited := env :: out.visited, executed := ran ++ out.executed }
        else ⟨true, env', env.help mode, env.complete mode, [env], ran⟩

abbrev CandidateWord := Option Bytes × Bool

/-- mirrors commands.c:431-460 -/
def candidateWords (out : Outcome κ) : List CandidateWord :=
  if !mode.completion && !out.help && !out.complete then []
  else if out.failed then []
  else if out.env.argp + 1 = out.env.argv.length || out.help || out.complete then
    (out.env.stack.head?.elim [] CmdNode.subentries |>.filter fun c =>
      (c.token.all fun t => out.help || out.complete ||
        (out.env.argv.getLast?.any fun a => a.isPrefixOf t)) &&
      canExecute cb mode out.env c).map fun c => (c.token, c.hidden)
  else []

/-- `_commands_execute`: what has been run, whether it is a success, and the words
to complete with.
mirrors commands.c:339-530 -/
def commandsExecute (root : CmdNode κ) (argv : List Bytes) :
    Outcome κ × Bool × List CandidateWord :=
  let out := executeLoop cb mode (argv.length + 3) false false { stack := [root], argv := argv }
  (out, !out.failed && (mode.completion || out.help || out.complete ||
    out.env.argp = argv.length + 1), candidateWords cb mode out)

end Model

/-! ## What is entered -/

section Choice
variable {can : CmdNode κ → Bool} {token : Bytes} {node : CmdNode κ} {nodes : List (CmdNode κ)}

theorem matchToken_best {best : Option (CmdNode κ)}
    (h : matchToken can token nodes best = .best node) :
    best = some node ∨ node ∈ nodes ∧ can node = true ∧ ∃ t, node.token = some t ∧ token <+: t := by
  induction nodes generalizing best with
  | nil =>
    cases best with
    | none => cases h
    | some b =>
      cases h
      exact .inl rfl
  | cons c nodes ih =>
    unfold matchToken at h
    split at h
    · rename_i hc
      obtain ⟨hstart, hcan⟩ := Bool.and_eq_true_iff.1 hc
      obtain ⟨t, ht, hpre⟩ := (Option.any_eq_true _ _).1 hstart
      have hcand : c ∈ c :: nodes ∧ can c = true ∧ ∃ t, c.token = some t ∧ token <+: t :=
        ⟨List.mem_cons_self, hcan, t, ht, List.isPrefixOf_iff_prefix.1 hpre⟩
      split at h
      · cases h
        exact .inr hcand
      · cases best with
        | some b => cases h
        | none =>
          rcases ih h with hb | ⟨hmem, hrest⟩
          · cases hb
            exact .inr hcand
          · exact .inr ⟨List.mem_cons_of_mem _ hmem, hrest⟩
    · rcases ih h with hb | ⟨hmem, hrest⟩
      · exact .inl hb
      · exact .inr ⟨List.mem_cons_of_mem _ hmem, hrest⟩

/-- A node that is entered may be, and its token starts with the argument. -/
theorem choose_best (h : choose can token nodes = .best node) :
    node ∈ nodes ∧ can node = true ∧ ∀ t, node.token = some t → token <+: t := by
  unfold choose at h
  cases hm : matchToken can token nodes none with
  | ambiguous =>
    rw [hm] at h
    cases h
  | best b =>
    rw [hm] at h
    cases h
    rcases matchToken_best hm with hb | ⟨hmem, hcan, t, ht, hpre⟩
    · cases hb
    · refine ⟨hmem, hcan, fun t' ht' => ?_⟩
      cases ht.symm.trans ht'
      exact hpre
  | unknown =>
    rw [hm] at h
    cases hf : nodes.find? (fun c => c.token.isNone && can c) with
    | none =>
      rw [hf] at h
      cases h
    | some b =>
      rw [hf] at h
      cases h
      have hfound := List.find?_some hf
      obtain ⟨hnone, hcan⟩ := Bool.and_eq_true_iff.1 hfound
      refine ⟨List.mem_of_find?_eq_some hf, hcan, fun t ht => ?_⟩
      rw [ht] at hnone
      cases hnone

end Choice

/-! ## What is run -/

section Run
variable {cb : Callbacks κ} {mode : Mode}

/-- A node of the tree at `env` that has been entered for the argument. -/
structure Entered (cb : Callbacks κ) (mode : Mode) (e : Executed κ) : Prop where
  current : ∃ current rest token, e.env.stack = current :: rest ∧
    e.env.nextToken mode = some token ∧
    choose (canExecute cb mode e.env) token current.subentries = .best e.node
  execute : e.node.execute.isSome = true

variable {current node : CmdNode κ}

theorem turn_inl {env env' : CmdEnv κ} {ok : Bool}
    (h : turn cb mode current env = .inl (node, env', ok)) :
    ∃ token, env.nextToken mode = some token ∧
      choose (canExecute cb mode env) token current.subentries = .best node := by
  unfold turn at h
  cases ht : env.nextToken mode with
  | none =>
    rw [ht] at h
    cases h
  | some token =>
    rw [ht] at h
    dsimp only at h
    cases hc : choose (canExecute cb mode env) token current.subentries with
    | ambiguous =>
      rw [hc] at h
      cases h
    | unknown =>
      rw [hc] at h
      cases h
    | best b =>
      rw [hc] at h
      cases h
      exact ⟨token, rfl, hc⟩

/-- What has been run has been entered, at an environment that has been gone
through. -/
theorem executed_entered {fuel : Nat} {help complete : Bool} {env : CmdEnv κ} {e : Executed κ}
    (he : e ∈ (executeLoop cb mode fuel help complete env).executed) :
    e.env ∈ (executeLoop cb mode fuel help complete env).visited ∧ Entered cb mode e := by
  induction fuel generalizing help complete env with
  | zero => cases he
  | succ fuel ih =>
    unfold executeLoop at he ⊢
    cases hs : env.stack with
    | nil =>
      rw [hs] at he
      cases he
    | cons current rest =>
      rw [hs] at he
      dsimp only at he ⊢
      cases ht : turn cb mode current env with
      | inr failed =>
        rw [ht] at he
        cases he
      | inl x =>
        obtain ⟨node, env', ok⟩ := x
        rw [ht] at he
        have hran : ∀ e' ∈ (if node.execute.isSome then [(⟨env, node⟩ : Executed κ)] else []),
            e'.env = env ∧ Entered cb mode e' := by
          intro e' he'
          split at he'
          · rename_i hexec
            rw [List.mem_singleton.1 he']
            obtain ⟨token, htoken, hchoose⟩ := turn_inl ht
            exact ⟨rfl, ⟨current, rest, token, hs, htoken, hchoose⟩, hexec⟩
          · cases he'
        cases ok with
        | false =>
          obtain ⟨henv, hentered⟩ := hran e he
          exact ⟨by rw [henv]; exact List.mem_cons_self, hentered⟩
        | true =>
          rcases List.mem_append.1 he with he | he
          · obtain ⟨henv, hentered⟩ := hran e he
            exact ⟨by rw [henv]; exact List.mem_cons_self, hentered⟩
          · obtain ⟨hvisited, hentered⟩ := ih he
            exact ⟨List.mem_cons_of_mem _ hvisited, hentered⟩

theorem foldl_act (acts : List Act) (env : CmdEnv κ) :
    (acts.foldl CmdEnv.act env).argv = env.argv := by
  induction acts generalizing env with
  | nil => rfl
  | cons a acts ih =>
    rw [List.foldl_cons, ih]
    cases a <;> rfl

theorem turn_argv {env env' : CmdEnv κ} {ok : Bool}
    (h : turn cb mode current env = .inl (node, env', ok)) :
    env'.argv = env.argv ∧ env.argp ≤ env.argv.length := by
  obtain ⟨token, htoken, hchoose⟩ := turn_inl h
  unfold turn at h
  rw [htoken] at h
  dsimp only at h
  rw [hchoose] at h
  cases h
  refine ⟨foldl_act _ _, ?_⟩
  unfold CmdEnv.nextToken at htoken
  split at htoken
  · cases htoken
  split at htoken
  · omega
  split at htoken
  · omega
  · cases htoken

/-- Every turn takes an argument, so turns beyond them are not needed. -/
theorem executeLoop_fuel {fuel n : Nat} {help complete : Bool} {env : CmdEnv κ}
    (hp : env.argp ≤ env.argv.length + 1) (hfuel : env.argv.length + 2 ≤ fuel + env.argp) :
    executeLoop cb mode (fuel + n) help complete env =
      executeLoop cb mode fuel help complete env := by
  induction fuel generalizing help complete env with
  | zero => omega
  | succ fuel ih =>
    rw [Nat.add_right_comm, executeLoop, executeLoop]
    cases hs : env.stack with
    | nil => rfl
    | cons current rest =>
      dsimp only
      cases ht : turn cb mode current env with
      | inr failed => rfl
      | inl x =>
        obtain ⟨node, env', ok⟩ := x
        obtain ⟨hargv, hle⟩ := turn_argv ht
        dsimp only
        rw [@ih (env.help mode) (env.complete mode) { env' with argp := env.argp + 1 }]
        · show env.argp + 1 ≤ env'.argv.length + 1
          rw [hargv]
          omega
        · show env'.argv.length + 2 ≤ fuel + (env.argp + 1)
          rw [hargv]
          omega

/-- **The loop ends**: however many turns it may take, it stops as in
`commandsExecute`, for every tree of commands and all callbacks. -/
theorem executeLoop_ends (root : CmdNode κ) (argv : List Bytes) (n : Nat) :
    executeLoop cb mode (argv.length + 3 + n) false false { stack := [root], argv := argv } =
      (commandsExecute cb mode root argv).1 :=
  executeLoop_fuel (Nat.zero_le _) (by simp)

def CmdEnv.Dry (mode : Mode) (env : CmdEnv κ) : Prop :=
  mode.completion = true ∨ env.help mode = true ∨ env.complete mode = true

instance (env : CmdEnv κ) : Decidable (env.Dry mode) := inferInstanceAs (Decidable (_ ∨ _))

/-- What is looked at next leads to no callback of a node that `p` holds for. -/
def CmdEnv.avoids (mode : Mode) (p : CmdNode κ → Bool) (env : CmdEnv κ) : Bool :=
  env.stack.head?.all fun current => current.subentries.all fun c =>
    !(p c && c.execute.isSome) ||
      (env.nextToken mode).all fun token => c.token.any fun t => !token.isPrefixOf t

/-- What is looked at next cannot be taken for the end of the command if
the line is not to be run, and it leads to no privileged callback if `complete` is
in the environment of somebody without privileges. -/
structure CmdEnv.Heeds (mode : Mode) (env : CmdEnv κ) : Prop where
  newline : env.Dry mode → env.avoids mode (fun c => c.token == some newline) = true
  privileged : mode.priv = false → env.complete mode = true →
    env.avoids mode CmdNode.privileged = true

instance (env : CmdEnv κ) : Decidable (env.Heeds mode) :=
  decidable_of_iff (_ ∧ _) ⟨fun h => ⟨h.1, h.2⟩, fun h => ⟨h.newline, h.privileged⟩⟩

/-- As long as every argument heeds this, no callback of a privileged node is run
without privileges, and none of the end of a command if the line is not to be
run. -/
theorem execute_confined (cb : Callbacks κ) (mode : Mode) (root : CmdNode κ) (argv : List Bytes)
    (hheeds : ∀ env ∈ (commandsExecute cb mode root argv).1.visited, env.Heeds mode)
    (e : Executed κ) (he : e ∈ (commandsExecute cb mode root argv).1.executed) :
    (mode.priv = false → e.node.privileged = false) ∧
      (e.env.Dry mode → e.node.token ≠ some newline) := by
  obtain ⟨hvisited, ⟨current, rest, token, hs, htoken, hchoose⟩, hexec⟩ := executed_entered he
  have hh := hheeds e.env hvisited
  obtain ⟨hmem, hcan, hstart⟩ := choose_best hchoose
  have hchosen : ∀ p, e.env.avoids mode p = true → p e.node = false := by
    intro p hall
    cases hp : p e.node with
    | false => rfl
    | true =>
      unfold CmdEnv.avoids at hall
      rw [hs] at hall
      have hany := List.all_eq_true.1 hall e.node hmem
      rw [hp, hexec, htoken] at hany
      obtain ⟨t, ht, hnot⟩ := (Option.any_eq_true _ _).1 hany
      rw [List.isPrefixOf_iff_prefix.2 (hstart t ht)] at hnot
      cases hnot
  refine ⟨fun hpriv => ?_, fun hdry => ?_⟩
  · cases hp : e.node.privileged with
    | false => rfl
    | true =>
      -- it has been let in because of `complete`
      have hcomplete : e.env.complete mode = true := by
        have := (Bool.and_eq_true_iff.1 hcan).1
        rw [hp, hpriv] at this
        exact this
      exact hp.symm.trans (hchosen _ (hh.privileged hpriv hcomplete))
  · exact ne_of_beq_false (hchosen _ (hh.newline hdry))

end Run

/-! ## The commands of `lldpcli` -/

/-- The callbacks of the commands below. -/
inductive Label where
  | storeEnvAndPop (key : Bytes)
  | update | pause | resume | exit
  deriving DecidableEq, Repr

/-- mirrors commands.c:606-621 -/
def callbacks : Callbacks Label where
  validate _ _ := true
  execute l _ :=
    match l with
    | .storeEnvAndPop key => ([.put key none, .pop 1], true)
    | _ => ([], true)

def oneWord (word : Bytes) (privileged : Bool) (l : Label) : CmdNode Label :=
  .mk (some word) false false none none
    [.mk (some newline) privileged false none (some l) []]

/-- Without `show`, `watch`, `configure` and `unconfigure`.
mirrors lldpcli.c:325-351 -/
def registerCommands : CmdNode Label :=
  .mk none false false none none [
    oneWord (ascii "update") true .update,
    .mk (some (ascii "complete")) false true none (some (.storeEnvAndPop (ascii "complete"))) [],
    .mk (some (ascii "help")) false false none (some (.storeEnvAndPop (ascii "help"))) [],
    oneWord (ascii "pause") false .pause,
    oneWord (ascii "resume") false .resume,
    oneWord (ascii "exit") false .exit]

/-- `help update`, without privileges: the arguments heed this, and `help` is
run. -/
theorem execute_confined_help :
    (∀ env ∈ (commandsExecute callbacks ⟨false, false⟩ registerCommands
        [ascii "help", ascii "update"]).1.visited, env.Heeds ⟨false, false⟩) ∧
      ∃ e ∈ (commandsExecute callbacks ⟨false, false⟩ registerCommands
        [ascii "help", ascii "update"]).1.executed, e.node.privileged = false := by
  have hheeds : ∀ env ∈ (commandsExecute callbacks ⟨false, false⟩ registerCommands
      [ascii "help", ascii "update"]).1.visited, env.Heeds ⟨false, false⟩ := by decide
  obtain ⟨e, he, -⟩ := List.any_eq_true.1 (by decide :
    (commandsExecute callbacks ⟨false, false⟩ registerCommands
      [ascii "help", ascii "update"]).1.executed.any (fun _ => true) = true)
  exact ⟨hheeds, e, he, (execute_confined _ _ _ _ hheeds e he).1 rfl⟩

/-- `complete update <CR>`, without privileges, is run. -/
theorem complete_runs_update :
    ∃ e ∈ (commandsExecute callbacks ⟨false, false⟩ registerCommands
        [ascii "complete", ascii "update", ascii "<CR>"]).1.executed,
      e.node.privileged = true ∧ e.node.token = some newline ∧ e.node.execute = some .update ∧
        e.env.complete ⟨false, false⟩ = true := by
  obtain ⟨e, he, h⟩ := List.any_eq_true.1 (by decide :
    (commandsExecute callbacks ⟨false, false⟩ registerCommands
      [ascii "complete", ascii "update", ascii "<CR>"]).1.executed.any (fun e =>
        e.node.privileged = true ∧ e.node.token = some newline ∧ e.node.execute = some .update ∧
          e.env.complete ⟨false, false⟩ = true) = true)
  exact ⟨e, he, of_decide_eq_true h⟩

end Lldpd.Client
