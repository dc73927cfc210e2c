import Manifest.Proofs.Lawful

/-!
# Calls obey every law

Calls stand between brackets: a frame is pushed before a call and popped after it. Here the bracket
is any function on steps (`Bracket`), and `framed` is the one that evaluation uses.

* `Evaluator.callClosureIn`, `Evaluator.evalIn` — calls and evaluation within a bracket of choice;
  `callClosureIn_framed` says that with `framed` they are the calls of the evaluator.
* `Procedure.Uses` and `Procedure.PassesOn` — what a host function does to the scope, and which
  errors of its callbacks it leaves as they are.
* `callClosureIn_refines` — calls refine if brackets do, by induction on the fuel. From it follow
  that evaluation and calls obey every law, and that more fuel never changes a run that ended
  (`eval_mono`).
-/

namespace Manifest

/-! ## Host functions -/

namespace Procedure

/-- A procedure makes only changes of a kind to the scope, apart from what its callbacks do. -/
def Uses (allows : Environment.Change → Prop) : Procedure → Prop
  | .done _ => True
  | .lookup _ next => ∀ v, (next v).Uses allows
  | .change c next => allows c ∧ next.Uses allows
  | .capture next => ∀ vars, (next vars).Uses allows
  | .level next => ∀ n, (next n).Uses allows
  | .log _ next => next.Uses allows
  | .readLog next => ∀ lines, (next lines).Uses allows
  | .call _ _ next => ∀ r, (next r).Uses allows

/-- A procedure ends with an error that is given, whatever it does before. -/
def EndsWith (e : EvalError) : Procedure → Prop
  | .done outcome => outcome = .error e
  | .lookup _ next => ∀ v, (next v).EndsWith e
  | .change _ next => next.EndsWith e
  | .capture next => ∀ vars, (next vars).EndsWith e
  | .level next => ∀ n, (next n).EndsWith e
  | .log _ next => next.EndsWith e
  | .readLog next => ∀ lines, (next lines).EndsWith e
  | .call _ _ next => ∀ r, (next r).EndsWith e

/-- A procedure ends with every error of a kind that a callback ends with. -/
def PassesOn (kind : Cause → Prop) : Procedure → Prop
  | .done _ => True
  | .lookup _ next => ∀ v, (next v).PassesOn kind
  | .change _ next => next.PassesOn kind
  | .capture next => ∀ vars, (next vars).PassesOn kind
  | .level next => ∀ n, (next n).PassesOn kind
  | .log _ next => next.PassesOn kind
  | .readLog next => ∀ lines, (next lines).PassesOn kind
  | .call _ _ next =>
    (∀ r, (next r).PassesOn kind) ∧ ∀ e, kind e.cause → (next (.error e)).EndsWith e

/-- Where every change is allowed, every procedure keeps to it. -/
theorem uses_of_forall {allows : Environment.Change → Prop} (h : ∀ c, allows c) (p : Procedure) :
    p.Uses allows := by
  induction p with
  | done outcome => trivial
  | lookup name next ih => exact ih
  | change c next ih => exact ⟨h c, ih⟩
  | capture next ih => exact ih
  | level next ih => exact ih
  | log line next ih => exact ih
  | readLog next ih => exact ih
  | call callable args next ih => exact ih

/-- Every procedure passes on what there is none of. -/
theorem passesOn_of_forall_not {kind : Cause → Prop} (h : ∀ c, ¬ kind c) (p : Procedure) :
    p.PassesOn kind := by
  induction p with
  | done outcome => trivial
  | lookup name next ih => exact ih
  | change c next ih => exact ih
  | capture next ih => exact ih
  | level next ih => exact ih
  | log line next ih => exact ih
  | readLog next ih => exact ih
  | call callable args next ih => exact ⟨ih, fun e he => absurd he (h e.cause)⟩

end Procedure

/-- All functions of a table make only changes of a kind to the scope. -/
def FunctionTable.Uses (functions : FunctionTable) (allows : Environment.Change → Prop) : Prop :=
  ∀ name args, (functions.procedure name args).Uses allows

/-- All functions of a table pass on errors of a kind. -/
def FunctionTable.PassesOn (functions : FunctionTable) (kind : Cause → Prop) : Prop :=
  ∀ name args, (functions.procedure name args).PassesOn kind

namespace FunctionTable

theorem uses_of_forall {functions : FunctionTable} {allows : Environment.Change → Prop}
    (h : ∀ c, allows c) : functions.Uses allows :=
  fun _ _ => Procedure.uses_of_forall h _

theorem passesOn_of_forall_not {functions : FunctionTable} {kind : Cause → Prop}
    (h : ∀ c, ¬ kind c) : functions.PassesOn kind :=
  fun _ _ => Procedure.passesOn_of_forall_not h _

end FunctionTable

/-! ## Brackets -/

/-- What stands around a call, given its frame. -/
abbrev Bracket := Frame → EvalM Value → EvalM Value

/-- A bracket refines another one if it does around all steps. -/
def Bracket.Refines (L : Law) (B B' : Bracket) : Prop :=
  ∀ frame {m m'}, EvalM.Refines L m m' → EvalM.Refines L (B frame m) (B' frame m')

/-- A frame around a step refines a frame under another limit, if the same frames are refused there
but for some that are refused with an excused error. -/
theorem Bracket.framed_refines {L : Law} {limit limit' : Option Nat}
    (hpush : ∀ frame calls,
      CallStack.push? limit' frame calls = CallStack.push? limit frame calls ∨
        ∃ e, CallStack.push? limit frame calls = .error e ∧ L.excuses e.cause) :
    Bracket.Refines L (EvalM.framed limit) (EvalM.framed limit') := by
  intro frame m m' hm s r t h
  rcases EvalM.framed_eq_some h with ⟨e, hp, rfl, rfl⟩ | ⟨r', u, hp, hs, rfl, rfl⟩
  · -- the first frame is refused
    refine ⟨L.refl _, ?_⟩
    rcases hpush frame t.calls with hsame | ⟨e', hp', hexc⟩
    · exact .inl (by rw [EvalM.framed, hsame, hp])
    · rw [hp] at hp'
      cases hp'
      exact .inr ⟨e, rfl, hexc⟩
  · -- the first frame is pushed, and so is the second one
    have hp' : CallStack.push? limit' frame s.calls = .ok (frame :: s.calls) := by
      rcases hpush frame s.calls with hsame | ⟨e, hrefused, -⟩
      · rw [hsame, hp]
      · rw [hp] at hrefused
        cases hrefused
    obtain ⟨hrel, hsame | ⟨e, rfl, hexc⟩⟩ := hm hs
    · exact ⟨L.frame hrel, .inl (by simp only [EvalM.framed, hp', hsame])⟩
    · exact ⟨L.frame hrel, .inr ⟨_, rfl, by rwa [CallStack.cause_attach]⟩⟩

namespace Evaluator

open EvalM

/-- A call of a host function within a bracket. -/
def invokeIn (E : Evaluator) (B : Bracket) (call : CallBack) : Invoke := fun name args place => do
  let v ← B (CallStack.functionFrame name place)
    (E.runProcedure call (E.functions.procedure name args))
  pure (if E.functions.producesValue name then v else .absent)

/-- The evaluation of a closure's body within a bracket. -/
def enterIn (B : Bracket) (eval : Expr → EvalM Value) (c : Closure) (vars : Bindings) :
    EvalM Value :=
  B (CallStack.closureFrame c.lambda.span) (guarded do
    changeEnv (·.openLocals vars)
    eval c.lambda.body)

/-- A call of a closure, within a bracket and with arguments by position. -/
def callClosureIn (E : Evaluator) (B : Bracket) : Nat → Closure → List Value → EvalM Value
  | 0, _, _ => outOfFuel
  | n + 1, c, args => do
    let eval := E.evalExpr (E.invokeIn B (callValueWith (E.callClosureIn B n)))
    let vars ← varsByPosition eval c args
    enterIn B eval c vars

/-- The value of an expression, with calls within a bracket. -/
def evalIn (E : Evaluator) (B : Bracket) (n : Nat) : Expr → EvalM Value :=
  E.evalExpr (E.invokeIn B (callValueWith (E.callClosureIn B n)))

/-- A call of a closure, within a bracket and with arguments by name. -/
def callNamedIn (E : Evaluator) (B : Bracket) (n : Nat) (c : Closure) (named : Bindings)
    (spillOver : Bool) : EvalM Value := do
  let vars ← varsByName (E.evalIn B n) c named spillOver
  enterIn B (E.evalIn B n) c vars

/-- Calls within frames are the calls of the evaluator. -/
theorem callClosureIn_framed (E : Evaluator) (n : Nat) :
    E.callClosureIn (framed E.callLimit) n = E.callClosure n := by
  induction n with
  | zero => rfl
  | succ n ih =>
    funext c args
    rw [callClosureIn, ih]
    rfl

theorem invokeIn_framed (E : Evaluator) (n : Nat) :
    E.invokeIn (framed E.callLimit) (callValueWith (E.callClosureIn (framed E.callLimit) n)) =
      E.invoke n := by
  rw [callClosureIn_framed]
  rfl

theorem evalIn_framed (E : Evaluator) (n : Nat) : E.evalIn (framed E.callLimit) n = E.eval n := by
  rw [evalIn, invokeIn_framed]
  rfl

theorem callNamedIn_framed (E : Evaluator) (n : Nat) :
    E.callNamedIn (framed E.callLimit) n = E.callNamed n := by
  funext c named spillOver
  rw [callNamedIn, evalIn_framed]
  rfl

/-! ## Refinement -/

/-- Two ways to evaluate that a law can compare: the second evaluator has a mode and a limit of its
own, and its calls stand between brackets of their own. -/
structure Comparable (L : Law) (E : Evaluator) (mode : Mode) (limit : Option Nat)
    (B B' : Bracket) : Prop where
  /-- looking a variable up obeys the law -/
  lookups : ∀ inner,
    Refines L (E.lookupVariable inner) ((E.under mode limit).lookupVariable inner)
  /-- the brackets obey the law -/
  brackets : Bracket.Refines L B B'
  /-- host functions do what the law allows -/
  uses : E.functions.Uses L.allows
  /-- host functions pass on what the law excuses -/
  passesOn : E.functions.PassesOn L.excuses

section Comparison

variable {L : Law} {E : Evaluator} {mode : Mode} {limit : Option Nat} {B B' : Bracket}

/-- Inversion for a callback: it ended, and the procedure went on with whatever came of it. -/
theorem runProcedure_call_eq_some {call : CallBack} {callable : Value} {args : List Value}
    {next : Except EvalError Value → Procedure} {s t : State} {r : Except EvalError Value}
    (h : E.runProcedure call (.call callable args next) s = some (r, t)) :
    ∃ r' u, call callable args s = some (r', u) ∧
      E.runProcedure call (next r') u = some (r, t) := by
  rw [runProcedure_call] at h
  rcases hs : call callable args s with _ | ⟨r', u⟩ <;> rw [hs] at h
  · cases h
  · exact ⟨r', u, rfl, h⟩

/-- A procedure that ends with a given error does so in every run. -/
theorem eq_error_of_endsWith {call : CallBack} {p : Procedure} {e : EvalError}
    (hends : p.EndsWith e) {s t : State} {r : Except EvalError Value}
    (h : E.runProcedure call p s = some (r, t)) : r = .error e := by
  induction p generalizing s with
  | done outcome =>
    obtain rfl : outcome = .error e := hends
    cases h
    rfl
  | lookup name next ih => exact ih _ (hends _) h
  | change c next ih => exact ih hends h
  | capture next ih => exact ih _ (hends _) h
  | level next ih => exact ih _ (hends _) h
  | log line next ih => exact ih hends h
  | readLog next ih => exact ih _ (hends _) h
  | call callable args next ih =>
    obtain ⟨r', u, -, hrun⟩ := runProcedure_call_eq_some h
    exact ih r' (hends r') hrun

/-- A procedure that keeps to a law refines itself if its callbacks do. -/
theorem runProcedure_refines {call call' : CallBack}
    (hcall : ∀ v args, Refines L (call v args) (call' v args)) {p : Procedure}
    (huses : p.Uses L.allows) (hpasses : p.PassesOn L.excuses) :
    Refines L (E.runProcedure call p) ((E.under mode limit).runProcedure call' p) := by
  induction p with
  | done outcome => exact refines_ofExcept outcome
  | lookup name next ih => exact fun s _ _ h => ih _ (huses _) (hpasses _) h
  | change c next ih =>
    intro s r t h
    obtain ⟨hrel, hrest⟩ := ih huses.2 hpasses h
    exact ⟨L.trans (L.change s c huses.1) hrel, hrest⟩
  | capture next ih => exact fun s _ _ h => ih _ (huses _) (hpasses _) h
  | level next ih => exact fun s _ _ h => ih _ (huses _) (hpasses _) h
  | log line next ih =>
    intro s r t h
    obtain ⟨hrel, hrest⟩ := ih huses hpasses h
    exact ⟨L.trans (L.log s line) hrel, hrest⟩
  | readLog next ih => exact fun s _ _ h => ih _ (huses _) (hpasses _) h
  | call callable args next ih =>
    intro s r t h
    obtain ⟨r', u, hs, hrun⟩ := runProcedure_call_eq_some h
    obtain ⟨hrel, hcallback⟩ := hcall _ _ hs
    obtain ⟨hrel', hrest⟩ := ih r' (huses r') (hpasses.1 r') hrun
    refine ⟨L.trans hrel hrel', ?_⟩
    rcases hcallback with hsame | ⟨e, rfl, hexc⟩
    · rw [runProcedure_call, hsame]
      exact hrest
    · -- the callback ended with an excused error, and so does the procedure
      exact .inr ⟨e, eq_error_of_endsWith (hpasses.2 e hexc) hrun, hexc⟩

theorem invokeIn_refines (h : Comparable L E mode limit B B') {call call' : CallBack}
    (hcall : ∀ v args, Refines L (call v args) (call' v args)) (name : String) (args : List Value)
    (place : Span) :
    Refines L (E.invokeIn B call name args place)
      ((E.under mode limit).invokeIn B' call' name args place) :=
  (h.brackets _ (runProcedure_refines hcall (h.uses name args) (h.passesOn name args))).bind
    fun _ => refines_pure _

theorem callValueWith_refines {call call' : Closure → List Value → EvalM Value}
    (hcall : ∀ c args, Refines L (call c args) (call' c args)) (v : Value) (args : List Value) :
    Refines L (callValueWith call v args) (callValueWith call' v args) := by
  cases v with
  | closure c => exact hcall c args
  | _ => exact refines_failWith _

theorem enterIn_refines {eval eval' : Expr → EvalM Value}
    (heval : ∀ e, Refines L (eval e) (eval' e)) (hB : Bracket.Refines L B B') (c : Closure)
    (vars : Bindings) : Refines L (enterIn B eval c vars) (enterIn B' eval' c vars) :=
  hB _ (Refines.bracket (heval c.lambda.body) rfl)

/-- Calls refine if brackets do, with at least as much fuel. -/
theorem callClosureIn_refines (h : Comparable L E mode limit B B') {n n' : Nat} (hn : n ≤ n')
    (c : Closure) (args : List Value) :
    Refines L (E.callClosureIn B n c args) ((E.under mode limit).callClosureIn B' n' c args) := by
  induction n generalizing n' c args with
  | zero => exact fun _ _ _ hs => by cases hs
  | succ n ih =>
    obtain ⟨n', rfl⟩ : ∃ k, n' = k + 1 := ⟨n' - 1, by omega⟩
    -- callbacks have one unit of fuel less, on both sides
    have hcall := callValueWith_refines fun c args => ih (by omega : n ≤ n') c args
    have heval := evalExpr_refines h.lookups (invokeIn_refines h hcall)
    exact (varsByPosition_refines heval c args).bind fun vars =>
      enterIn_refines heval h.brackets c vars

/-- Evaluation refines if brackets do, with at least as much fuel. -/
theorem evalIn_refines (h : Comparable L E mode limit B B') {n n' : Nat} (hn : n ≤ n')
    (e : Expr) : Refines L (E.evalIn B n e) ((E.under mode limit).evalIn B' n' e) :=
  evalExpr_refines h.lookups
    (invokeIn_refines h (callValueWith_refines (callClosureIn_refines h hn))) e

theorem callNamedIn_refines (h : Comparable L E mode limit B B') {n n' : Nat} (hn : n ≤ n')
    (c : Closure) (named : Bindings) (spillOver : Bool) :
    Refines L (E.callNamedIn B n c named spillOver)
      ((E.under mode limit).callNamedIn B' n' c named spillOver) :=
  (varsByName_refines (evalIn_refines h hn) c named spillOver).bind fun vars =>
    enterIn_refines (evalIn_refines h hn) h.brackets c vars

end Comparison

/-! ## Every run obeys every law -/

section Obedience

variable {L : Law} {E : Evaluator}

/-- An evaluator compares to itself under every law that its host functions keep to. -/
theorem comparable_self (huses : E.functions.Uses L.allows)
    (hpasses : E.functions.PassesOn L.excuses) :
    Comparable L E E.mode E.callLimit (framed E.callLimit) (framed E.callLimit) where
  lookups := E.refines_lookupVariable
  brackets := Bracket.framed_refines fun _ _ => .inl rfl
  uses := huses
  passesOn := hpasses

variable (huses : E.functions.Uses L.allows) (hpasses : E.functions.PassesOn L.excuses) (n : Nat)

include huses hpasses

/-- Every call of a host function obeys every law that host functions keep to. -/
theorem invoke_obeys (name : String) (args : List Value) (place : Span) :
    Obeys L (E.invoke n name args place) := by
  have hself := comparable_self huses hpasses
  rw [← invokeIn_framed]
  exact (invokeIn_refines hself (callValueWith_refines
    (callClosureIn_refines hself (Nat.le_refl n))) name args place).obeys

/-- Every evaluation does. -/
theorem eval_obeys (e : Expr) : Obeys L (E.eval n e) :=
  (evalExpr_refines E.refines_lookupVariable
    (fun name args place => (invoke_obeys huses hpasses n name args place).refines) e).obeys

end Obedience

/-! ## Fuel -/

/-- The law that forbids nothing. -/
def anyRun : Law where
  allows _ := True
  excuses _ := False
  rel _ _ := True
  refl _ := trivial
  trans _ _ := trivial
  note _ _ := trivial
  record _ _ := trivial
  log _ _ := trivial
  set _ _ _ := trivial
  setCaptures _ _ := trivial
  change _ _ _ := trivial
  layer _ _ := trivial
  frame _ := trivial

/-- **Fuel monotonicity**: a run that ended ends in the same way with more fuel. -/
theorem eval_mono {E : Evaluator} {n n' : Nat} (hn : n ≤ n') {e : Expr} {s : State}
    {o : Outcome Value} (h : E.eval n e s = some o) : E.eval n' e s = some o := by
  have hself : Comparable anyRun E E.mode E.callLimit (framed E.callLimit) (framed E.callLimit) :=
    comparable_self (FunctionTable.uses_of_forall fun _ => trivial)
      (FunctionTable.passesOn_of_forall_not fun _ h => h)
  rw [← evalIn_framed] at h ⊢
  obtain ⟨-, hsame | ⟨_, -, hexc⟩⟩ := evalIn_refines hself hn e h
  · exact hsame
  · exact hexc.elim

end Evaluator

end Manifest
