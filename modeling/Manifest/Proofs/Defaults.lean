import Manifest.Proofs.Frame
import Manifest.Proofs.RegionLogic

/-!
# What a call leaves of the caller's captures

The body of a closure is evaluated above variables of its own, and all that it does is dropped with
them. The defaults of parameters without an argument are evaluated before that, where the call is
made. So whatever a call does to the environment of its caller, its defaults do it.

* `Closure.defaultsBlock` — these defaults, as a block.
* `Evaluator.eval_captureFree` — an expression that matches and calls in choices only rebinds names
  and leaves the captures alone.
* `Evaluator.callClosure_leavesDefaults` — a call leaves the environment that the block of defaults
  leaves. If none of them sets captures, the caller has the captures that it had.
-/

namespace Manifest

/-! ## Defaults -/

/-- The defaults of parameters without an argument. -/
def unsuppliedDefaults (given : List (Param × Option Value)) : List Expr :=
  given.filterMap fun g => if g.2.isSome then none else g.1.default

/-- The default of a parameter without an argument is needed before those that follow. -/
theorem unsuppliedDefaults_cons_default {p : Param} {e : Expr} (h : p.default = some e)
    (rest : List (Param × Option Value)) :
    unsuppliedDefaults ((p, none) :: rest) = e :: unsuppliedDefaults rest :=
  List.filterMap_cons_some h

/-- A parameter without a default needs none. -/
theorem unsuppliedDefaults_cons_required {p : Param} (h : p.default = none)
    (rest : List (Param × Option Value)) :
    unsuppliedDefaults ((p, none) :: rest) = unsuppliedDefaults rest :=
  List.filterMap_cons_none h

namespace Closure

/-- The defaults that a call with so many arguments by position evaluates. -/
def missingDefaults (c : Closure) (given : Nat) : List Expr :=
  (c.lambda.params.drop given).filterMap (·.default)

/-- The block `{ d₁; …; dₖ }` of these defaults. -/
def defaultsBlock (c : Closure) (given : Nat) : Expr :=
  ⟨.block (c.missingDefaults given), c.lambda.span⟩

end Closure

namespace Evaluator

open EvalM

/-- The defaults that are needed are those of the parameters beyond the arguments. -/
theorem unsuppliedDefaults_byPosition (params : List Param) (args : List Value) :
    unsuppliedDefaults (byPosition params args) =
      (params.drop args.length).filterMap (·.default) := by
  have hfirst : unsuppliedDefaults ((params.zip args).map fun g => (g.1, some g.2)) = [] :=
    List.filterMap_eq_nil_iff.2 (List.forall_mem_map.2 fun _ _ => rfl)
  rw [byPosition_eq_append, unsuppliedDefaults, List.filterMap_append, ← unsuppliedDefaults, hfirst,
    List.nil_append, List.filterMap_map]
  rfl

section Binding

variable {E : Evaluator} {invoke : Invoke} {s t : State}

/-- Binding parameters leaves what evaluating the defaults of those without an argument leaves, one
after the other and up to the first that fails. -/
theorem bindParams_leavesDefaults {given : List (Param × Option Value)} {vars : Bindings}
    {r : Except EvalError (Bindings × List String)}
    (h : bindParams (E.evalExpr invoke) given vars s = some (r, t)) (last : Value) :
    ∃ r', E.evalBlock invoke (unsuppliedDefaults given) last s = some (r', t) := by
  induction given generalizing vars s r last with
  | nil =>
    cases h
    exact ⟨.ok last, rfl⟩
  | cons g rest ih =>
    obtain ⟨p, _ | v⟩ := g
    · cases hdefault : p.default with
      | none =>
        -- the parameter is missing, which is told once all others are bound
        simp only [bindParams, hdefault] at h
        rw [unsuppliedDefaults_cons_required hdefault]
        rcases bind_eq_some h with ⟨e, hfails, -⟩ | ⟨a, u, hbinds, hpure⟩
        · exact ih hfails last
        · cases hpure
          exact ih hbinds last
      | some e =>
        simp only [bindParams, hdefault] at h
        rw [unsuppliedDefaults_cons_default hdefault, evalBlock]
        rcases bind_eq_some h with ⟨err, hfails, -⟩ | ⟨v, u, heval, hrest⟩
        · exact ⟨.error err, by rw [bind_apply, hfails]⟩
        · rw [bind_of_ok heval]
          exact ih hrest v
    · exact ih h last

/-- So does finding the variables for the body. With too many arguments no default is evaluated, and
there is none to evaluate. -/
theorem varsByPosition_leavesDefaults {c : Closure} {args : List Value}
    {r : Except EvalError Bindings}
    (h : varsByPosition (E.evalExpr invoke) c args s = some (r, t)) (last : Value) :
    ∃ r', E.evalBlock invoke (c.missingDefaults args.length) last s = some (r', t) := by
  rw [varsByPosition] at h
  split at h
  · next hmany =>
    have hnone : c.missingDefaults args.length = [] := by
      rw [Closure.missingDefaults, List.drop_eq_nil_of_le (Nat.le_of_lt hmany)]
      rfl
    cases h
    rw [hnone]
    exact ⟨.ok last, rfl⟩
  · rw [Closure.missingDefaults, ← unsuppliedDefaults_byPosition]
    rcases bind_eq_some h with ⟨e, hfails, -⟩ | ⟨a, u, hbinds, hrest⟩
    · exact bindParams_leavesDefaults hfails last
    · -- that parameters are missing is told without a further step
      have hsame : t = u := by
        dsimp only at hrest
        split at hrest <;> cases hrest <;> rfl
      rw [hsame]
      exact bindParams_leavesDefaults hbinds last

end Binding

end Evaluator

/-! ## Expressions that set captures in choices only -/

/-- Outside of choices (`false`) names are bound at most; inside (`true`) captures may also come on
top of the stack. -/
def State.Moves : Bool → State → State → Prop
  | false, s, t => Rebinds s.env.stack t.env.stack
  | true, s, t => Advances s.env.stack t.env.stack

namespace State.Moves

variable {b : Bool} {s t u : State}

theorem of_rebinds (h : Rebinds s.env.stack t.env.stack) : s.Moves b t := by
  cases b with
  | false => exact h
  | true => exact .of_rebinds h

theorem of_env_eq (h : t.env = s.env) : s.Moves b t :=
  of_rebinds (h ▸ .refl _)

theorem trans (hst : s.Moves b t) (htu : t.Moves b u) : s.Moves b u := by
  cases b with
  | false => exact Rebinds.trans hst htu
  | true => exact Advances.trans hst htu

end State.Moves

namespace EvalM

/-- Every run of a step moves the stack no further than may be. -/
def Moves {α : Type} (b : Bool) (m : EvalM α) : Prop :=
  ∀ ⦃s r t⦄, m s = some (r, t) → s.Moves b t

section

variable {α β : Type} {b : Bool}

theorem moves_of_env_eq {m : EvalM α} (h : ∀ ⦃s r t⦄, m s = some (r, t) → t.env = s.env) :
    Moves b m :=
  fun _ _ _ hs => .of_env_eq (h hs)

theorem moves_compile (engine : RegexEngine) (source : String) :
    Moves b (compile engine source) := by
  refine moves_of_env_eq fun s r t h => ?_
  rw [compile] at h
  split at h <;> cases h
  · exact s.env_notePattern source
  · rfl

theorem moves_set (name : String) (value : Value) : Moves b (changeEnv (·.set name value)) := by
  intro s r t h
  cases h
  exact .of_rebinds (s.env.rebinds_set name value)

theorem moves_setCaptures (m : Option Captures) : Moves true (changeEnv (·.setCaptures m)) := by
  intro s r t h
  cases h
  exact s.env.advances_setCaptures m

theorem Moves.bind {m : EvalM α} {f : α → EvalM β} (hm : Moves b m) (hf : ∀ a, Moves b (f a)) :
    Moves b (m >>= f) := by
  intro s r t h
  rcases bind_eq_some h with ⟨e, hfails, -⟩ | ⟨a, u, hfirst, hnext⟩
  · exact hm hfails
  · exact (hm hfirst).trans (hf a hnext)

theorem Moves.located {m : EvalM α} (hm : Moves b m) (kind : String) (span : Span) :
    Moves b (located kind span m) := by
  intro s r t h
  obtain ⟨r', hrun, -⟩ := located_eq_some h
  exact hm hrun

/-- Captures that come on top above a fence are gone once the choice is over. -/
theorem Moves.choice {m : EvalM α} (hm : Moves true m) :
    Moves b (guarded (changeEnv (·.openFence) >>= fun _ => m)) := by
  intro s r t h
  obtain ⟨u, hrun, rfl⟩ := guarded_eq_some h
  have hadvances : Advances s.fenced.env.stack u.env.stack := hm hrun
  exact .of_rebinds (Environment.rebinds_restore rfl hadvances)

end

/-- To move the stack no further than may be is a logic of steps. -/
def movesLogic : RegionLogic .captureFree where
  Rel b := fun m _ => Moves b m
  answer _ := moves_of_env_eq fun _ _ _ h => by cases h; rfl
  raise _ := moves_of_env_eq fun _ _ _ h => by cases h; rfl
  lookup _ := moves_of_env_eq fun _ _ _ h => by cases h; rfl
  compile := moves_compile
  captured _ _ := moves_of_env_eq fun _ _ _ h => by cases h; rfl
  record _ _ := moves_of_env_eq fun _ _ _ h => by cases h; rfl
  set _ name value _ := moves_set name value
  setCaptures {b} h m := by
    cases b with
    | false => exact absurd rfl (h rfl).1
    | true => exact moves_setCaptures m
  bind hm hf := hm.bind fun a => hf a (NodeSet.owns_all a)
  located _ hm := hm.located _ _
  choice hm := hm.choice

end EvalM

namespace Evaluator

open EvalM

variable {E : Evaluator} {n : Nat} {s t : State} {r : Except EvalError Value}

/-- An expression that matches and calls in choices only moves the stack no further than a choice
does: it rebinds names. -/
theorem eval_captureFree (hbinds : E.functions.BindsOnly) {e : Expr} (he : e.CaptureFree)
    (h : E.eval n e s = some (r, t)) : Rebinds s.env.stack t.env.stack := by
  have hmoves : movesLogic.Rel false (E.evalExpr (E.invoke n) e)
      ((E.under E.mode E.callLimit).evalExpr (E.invoke n) e) := by
    refine RegionLogic.rel_evalExpr (fun inner => movesLogic.rel_lookupVariable E inner) ?_
      fun _ => he
    intro b hcalls name args place _
    cases b with
    | false => exact absurd rfl (hcalls rfl).2
    | true => exact invoke_advances hbinds n name args place
  exact hmoves h

/-! ## Calls -/

variable {c : Closure} {args : List Value}

/-- A call leaves the environment that the defaults of parameters without an argument leave. -/
theorem callClosure_env_eq (hbinds : E.functions.BindsOnly)
    (h : E.callClosure (n + 1) c args s = some (r, t)) :
    ∃ r' u, E.eval n (c.defaultsBlock args.length) s = some (r', u) ∧ t.env = u.env := by
  -- what the variables leave is what the body leaves, and that is what the block leaves
  obtain ⟨r', u, hvars, henv⟩ : ∃ r' u,
      varsByPosition (E.eval n) c args s = some (r', u) ∧ t.env = u.env := by
    rw [callClosure_succ, callWith] at h
    rcases bind_eq_some h with ⟨e, hfails, -⟩ | ⟨vars, u, hvars, henter⟩
    · exact ⟨_, t, hfails, rfl⟩
    · exact ⟨_, u, hvars, enterWith_keepsEnv (eval_advances hbinds n c.lambda.body) henter⟩
  obtain ⟨r'', hblock⟩ := varsByPosition_leavesDefaults hvars .absent
  cases r'' with
  | ok v => exact ⟨.ok v, u, located_eq_ok.2 hblock, henv⟩
  | error e => exact ⟨_, u, located_of_error hblock _ _, henv⟩

/-- A block of expressions that are free of captures is. -/
theorem captureFree_defaultsBlock {given : Nat}
    (h : ∀ e ∈ c.missingDefaults given, e.CaptureFree) : (c.defaultsBlock given).CaptureFree := by
  intro x hx a ha
  cases hx with
  | here => cases ha
  | inside _ hpart hinside => exact h _ hpart x hinside a ha

/-- **Hygiene of calls**: the body of a closure leaves the environment of its caller alone. After
the call, that is what evaluating the defaults of the parameters without an argument leaves of it,
so there is at most a layer of captures more. If none of the defaults matches or calls, but in a
choice, the nesting level is what it was, and so is everything that a number stands for. -/
theorem callClosure_leavesDefaults (hbinds : E.functions.BindsOnly)
    (h : E.callClosure (n + 1) c args s = some (r, t)) :
    (∃ r' u, E.eval n (c.defaultsBlock args.length) s = some (r', u) ∧ t.env = u.env) ∧
      KeepsLayers s.env t.env ∧
      ((∀ e ∈ c.missingDefaults args.length, e.CaptureFree) →
        t.env.level = s.env.level ∧
          ∀ name, isNumericName name = true → t.env.get? name = s.env.get? name) := by
  obtain ⟨r', u, hblock, henv⟩ := callClosure_env_eq hbinds h
  refine ⟨⟨r', u, hblock, henv⟩, ?_, fun hfree => ?_⟩
  · rw [henv]
    exact keepsLayers_of_advances (eval_advances hbinds n _ hblock)
  · have hrebinds := eval_captureFree hbinds (captureFree_defaultsBlock hfree) hblock
    rw [henv]
    exact ⟨Environment.level_of_rebinds hrebinds,
      fun _ hname => Environment.get?_of_rebinds hrebinds hname⟩

/-- The closure `|$x = if "ab" =~ "b" { touch() }| { "ab" =~ "b" }`. -/
def matchingInside : Closure :=
  ⟨⟨0, [⟨"x", some matchThenTouch, ⟨1, 30⟩⟩], Library.bareMatch, ⟨0, 47⟩⟩, []⟩

/-- A default that matches in a choice leaves no captures behind, nor does the body. What the
default binds stays. -/
theorem callClosure_leavesDefaults_choice : ∃ t,
    Library.evaluator.callClosure 1 matchingInside [] (.initial (.ofGlobals [])) =
        some (.ok (.boolean true), t) ∧
      t.env.get? "touched" = some (.boolean true) ∧ t.env.level = 0 ∧ t.env.get? "0" = none := by
  obtain ⟨t, h, htouched⟩ : ∃ t,
      Library.evaluator.callClosure 1 matchingInside [] (.initial (.ofGlobals [])) =
          some (.ok (.boolean true), t) ∧
        t.env.get? "touched" = some (.boolean true) := ⟨_, rfl, rfl⟩
  obtain ⟨-, -, hkeeps⟩ := callClosure_leavesDefaults Library.functions_bindsOnly h
  obtain ⟨hlevel, hget⟩ := hkeeps fun e he => by
    obtain rfl : e = matchThenTouch := List.mem_singleton.1 he
    exact Expr.captureFree_of_isChoice rfl
  exact ⟨t, h, htouched, hlevel, hget "0" rfl⟩

/-- The closure `|$x = "ab" =~ "b"| { }`. -/
def matchingDefault : Closure :=
  ⟨⟨0, [⟨"x", some Library.bareMatch, ⟨1, 17⟩⟩], ⟨.nop, ⟨19, 22⟩⟩, ⟨0, 22⟩⟩, []⟩

/-- A default that matches elsewhere sets the captures of the caller. -/
theorem callClosure_setsCaptures : Library.functions.BindsOnly ∧
    ([] : List Value).length ≤ matchingDefault.arity ∧ ∃ t,
      Library.evaluator.callClosure 1 matchingDefault [] (.initial (.ofGlobals [])) =
          some (.ok .absent, t) ∧
        t.env.level ≠ (Environment.ofGlobals []).level ∧
        t.env.get? "0" ≠ (Environment.ofGlobals []).get? "0" := by
  refine ⟨Library.functions_bindsOnly, by decide, ?_⟩
  obtain ⟨t, h, hlevel, hgroup⟩ : ∃ t,
      Library.evaluator.callClosure 1 matchingDefault [] (.initial (.ofGlobals [])) =
          some (.ok .absent, t) ∧
        t.env.level = 1 ∧ t.env.get? "0" = some (.string "b") := ⟨_, rfl, rfl, rfl⟩
  have hbefore : (Environment.ofGlobals []).get? "0" = none := rfl
  refine ⟨t, h, ?_, ?_⟩
  · rw [hlevel]
    exact Nat.one_ne_zero
  · rw [hgroup, hbefore]
    exact Option.some_ne_none _

end Evaluator

end Manifest
