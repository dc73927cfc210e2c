import Manifest.Proofs.Calls

/-!
# Logics of calls

A *logic of calls* has a logic of steps for everything that there may be to know of the active
calls, a rule for frames, and rules for what only host functions do. Then it relates every call of a
host function or a closure to itself, and so every evaluation.

* `Procedure.Keeps` — a host function hands on nothing but values and errors of a kind, as long as
  it is handed nothing else. `Procedure.KeepsOrdered` says so of functions that are only shown local
  variables in the order of their names, as all are.
* `CallLogic` — the rules.
* `CallLogic.rel_callClosure`, `CallLogic.rel_eval` — calls and evaluation, by induction on the
  fuel.
-/

namespace Manifest

/-! ## What host functions hand on -/

namespace Procedure

variable {values : Value → Prop} {errors : EvalError → Prop}

/-- A procedure binds only values of a kind, calls values back with nothing else, and ends with a
value of that kind or with an error of a kind, as long as it is given no other values and errors. -/
def Keeps (values : Value → Prop) (errors : EvalError → Prop) : Procedure → Prop
  | .done (.ok v) => values v
  | .done (.error e) => errors e
  | .lookup _ next => ∀ found, Carrier.All values found → (next found).Keeps values errors
  | .change c next => Carrier.All values c.values ∧ next.Keeps values errors
  | .capture next => ∀ vars : Bindings, Carrier.All values vars → (next vars).Keeps values errors
  | .level next => ∀ n, (next n).Keeps values errors
  | .log _ next => next.Keeps values errors
  | .readLog next => ∀ lines, (next lines).Keeps values errors
  | .call callable args next =>
    (values callable ∧ Carrier.All values args) ∧
      (∀ v, values v → (next (.ok v)).Keeps values errors) ∧
      ∀ e, errors e → (next (.error e)).Keeps values errors

/-- As `Keeps`, where the local variables that are shown to the procedure are in the order of their
names. -/
def KeepsOrdered (values : Value → Prop) (errors : EvalError → Prop) : Procedure → Prop
  | .done (.ok v) => values v
  | .done (.error e) => errors e
  | .lookup _ next => ∀ found, Carrier.All values found → (next found).KeepsOrdered values errors
  | .change c next => Carrier.All values c.values ∧ next.KeepsOrdered values errors
  | .capture next => ∀ vars : Bindings, vars.Ordered → Carrier.All values vars →
    (next vars).KeepsOrdered values errors
  | .level next => ∀ n, (next n).KeepsOrdered values errors
  | .log _ next => next.KeepsOrdered values errors
  | .readLog next => ∀ lines, (next lines).KeepsOrdered values errors
  | .call callable args next =>
    (values callable ∧ Carrier.All values args) ∧
      (∀ v, values v → (next (.ok v)).KeepsOrdered values errors) ∧
      ∀ e, errors e → (next (.error e)).KeepsOrdered values errors

/-- What a procedure keeps to in any order it keeps to in the order of names. -/
theorem Keeps.ordered {p : Procedure} (h : p.Keeps values errors) :
    p.KeepsOrdered values errors := by
  induction p with
  | done outcome => cases outcome <;> exact h
  | lookup name next ih => exact fun found hfound => ih found (h found hfound)
  | change c next ih => exact ⟨h.1, ih h.2⟩
  | capture next ih => exact fun vars _ hvars => ih vars (h vars hvars)
  | level next ih => exact fun n => ih n (h n)
  | log line next ih => exact ih h
  | readLog next ih => exact fun lines => ih lines (h lines)
  | call callable args next ih =>
    exact ⟨h.1, fun v hv => ih (.ok v) (h.2.1 v hv), fun e he => ih (.error e) (h.2.2 e he)⟩

/-- Every procedure hands on nothing but what there is. -/
theorem keeps_of_forall (hvalues : ∀ v, values v) (herrors : ∀ e, errors e) (p : Procedure) :
    p.Keeps values errors := by
  induction p with
  | done outcome =>
    cases outcome with
    | ok v => exact hvalues v
    | error e => exact herrors e
  | lookup name next ih => exact fun found _ => ih found
  | change c next ih => exact ⟨fun v _ => hvalues v, ih⟩
  | capture next ih => exact fun vars _ => ih vars
  | level next ih => exact ih
  | log line next ih => exact ih
  | readLog next ih => exact ih
  | call callable args next ih =>
    exact ⟨⟨hvalues _, fun v _ => hvalues v⟩, fun v _ => ih (.ok v), fun e _ => ih (.error e)⟩

/-- A procedure keeps to two kinds of errors if it keeps to each of them. -/
theorem Keeps.and_errors {errors' : EvalError → Prop} {p : Procedure} (h : p.Keeps values errors)
    (h' : p.Keeps (fun _ => True) errors') : p.Keeps values fun e => errors e ∧ errors' e := by
  have hall : ∀ {α : Type} [Carrier α] (a : α), Carrier.All (fun _ => True) a :=
    Carrier.all_of_forall fun _ => trivial
  induction p with
  | done outcome =>
    cases outcome with
    | ok v => exact h
    | error e => exact ⟨h, h'⟩
  | lookup name next ih =>
    exact fun found hfound => ih found (h found hfound) (h' found (hall found))
  | change c next ih => exact ⟨h.1, ih h.2 h'.2⟩
  | capture next ih => exact fun vars hvars => ih vars (h vars hvars) (h' vars (hall vars))
  | level next ih => exact fun n => ih n (h n) (h' n)
  | log line next ih => exact ih h h'
  | readLog next ih => exact fun lines => ih lines (h lines) (h' lines)
  | call callable args next ih =>
    exact ⟨h.1, fun v hv => ih (.ok v) (h.2.1 v hv) (h'.2.1 v trivial),
      fun e he => ih (.error e) (h.2.2 e he.1) (h'.2.2 e he.2)⟩

end Procedure

/-! ## The rules -/

/-- Logics of steps within a set of expressions, one for everything that there may be to know of the
active calls, with rules for calls. -/
structure CallLogic (E : Evaluator) (N : NodeSet) (ι : Type) where
  /-- how steps relate to each other, given what is known of the active calls -/
  steps : ι → StepLogic N
  /-- what is known once a frame has been added -/
  enter : Frame → ι → ι
  /-- the errors that steps may end with -/
  errors : ι → EvalError → Prop
  /-- the changes that host functions make to the scope -/
  allows : Environment.Change → Prop
  outOfFuel : ∀ i, (steps i).Rel (EvalM.outOfFuel : EvalM Value) EvalM.outOfFuel
  raise : ∀ {i} {e : EvalError}, errors i e →
    (steps i).Rel (EvalM.raise e : EvalM Value) (EvalM.raise e)
  attempt : ∀ {i} {m m' : EvalM Value} {next next' : Except EvalError Value → EvalM Value},
    (steps i).Rel m m' → (∀ r, N.Answers (errors i) r → (steps i).Rel (next r) (next' r)) →
    (steps i).Rel (EvalM.attempt m next) (EvalM.attempt m' next')
  change : ∀ {i} {c : Environment.Change}, allows c → N.Owns c.values →
    (steps i).Rel (EvalM.changeEnv (·.apply c)) (EvalM.changeEnv (·.apply c))
  level : ∀ i, (steps i).Rel (EvalM.read (·.env.level)) (EvalM.read (·.env.level))
  log : ∀ i line, (steps i).Rel (EvalM.change fun s => { s with log := s.log ++ [line] })
    (EvalM.change fun s => { s with log := s.log ++ [line] })
  readLog : ∀ i, (steps i).Rel (EvalM.read (·.log)) (EvalM.read (·.log))
  /-- a frame is added and dropped again -/
  framed : ∀ {i} {m m' : EvalM Value} (frame : Frame), (steps (enter frame i)).Rel m m' →
    (steps i).Rel (EvalM.framed E.callLimit frame m) (EvalM.framed E.callLimit frame m')
  uses : E.functions.Uses allows
  keeps : ∀ i name {args : List Value}, N.Owns args →
    (E.functions.procedure name args).KeepsOrdered N.Owns (errors i)

namespace CallLogic

open EvalM Evaluator NodeSet

variable {E : Evaluator} {N : NodeSet} {ι : Type} (C : CallLogic E N ι)

/-! ## Host functions -/

/-- What a host function does is related to itself if its callbacks are. -/
theorem rel_runProcedure {i : ι} {call : CallBack}
    (hcall : ∀ {v args}, N.Owns v → N.Owns args → (C.steps i).Rel (call v args) (call v args))
    {p : Procedure} (huses : p.Uses C.allows) (hkeeps : p.KeepsOrdered N.Owns (C.errors i)) :
    (C.steps i).Rel (E.runProcedure call p) (E.runProcedure call p) := by
  induction p with
  | done outcome =>
    cases outcome with
    | ok v => exact (C.steps i).answer hkeeps
    | error e => exact C.raise hkeeps
  | lookup name next ih =>
    exact (C.steps i).bind ((C.steps i).lookup name) fun found hfound =>
      ih found (huses found) (hkeeps found hfound)
  | change c next ih =>
    exact (C.steps i).bind (C.change huses.1 hkeeps.1) fun _ _ => ih huses.2 hkeeps.2
  | capture next ih =>
    have hordered : E.runProcedure call (.capture next) =
        E.captured >>= fun vars => E.runProcedure call (next (NameMap.ofList vars)) :=
      E.captured_bind fun vars => E.runProcedure call (next vars)
    rw [hordered]
    exact (C.steps i).bind ((C.steps i).captured E) fun vars hvars =>
      ih _ (huses _) (hkeeps _ (NameMap.ordered_ofList vars) (owns_bindAll owns_nil hvars))
  | level next ih => exact (C.steps i).bind (C.level i) fun n _ => ih n (huses n) (hkeeps n)
  | log line next ih => exact (C.steps i).bind (C.log i line) fun _ _ => ih huses hkeeps
  | readLog next ih =>
    exact (C.steps i).bind (C.readLog i) fun lines _ => ih lines (huses lines) (hkeeps lines)
  | call callable args next ih =>
    obtain ⟨⟨hcallable, hargs⟩, hok, herror⟩ := hkeeps
    refine C.attempt (hcall hcallable hargs) fun r hr => ?_
    cases r with
    | ok v => exact ih (.ok v) (huses _) (hok v hr)
    | error e => exact ih (.error e) (huses _) (herror e hr)

/-! ## Calls -/

variable {C} {n : Nat}

/-- A call of a host function is related to itself if calls of closures are. -/
theorem rel_invoke_of
    (hcall : ∀ i {c args}, N.Owns (Value.closure c) → N.Owns args →
      (C.steps i).Rel (E.callClosure n c args) (E.callClosure n c args))
    (i : ι) (name : String) {args : List Value} (place : Span) (hargs : N.Owns args) :
    (C.steps i).Rel (E.invoke n name args place) (E.invoke n name args place) := by
  refine (C.steps i).bind (C.framed _ (C.rel_runProcedure (fun {v args} hv hargs => ?_)
    (C.uses name args) (C.keeps _ name hargs))) fun v hv => (C.steps i).answer ?_
  · cases v with
    | closure c => exact hcall _ hv hargs
    | _ => exact (C.steps _).rel_failWith rfl rfl
  · split
    · exact hv
    · exact owns_of_isAtom rfl

/-- Evaluating an expression of the set is related to itself if calls of closures are. -/
theorem rel_eval_of
    (hcall : ∀ i {c args}, N.Owns (Value.closure c) → N.Owns args →
      (C.steps i).Rel (E.callClosure n c args) (E.callClosure n c args))
    (i : ι) {e : Expr} (he : N.Mem e) : (C.steps i).Rel (E.eval n e) (E.eval n e) := by
  have hrel : (C.steps i).Rel (E.evalExpr (E.invoke n) e)
      ((E.under E.mode E.callLimit).evalExpr (E.invoke n) e) :=
    StepLogic.rel_evalExpr ((C.steps i).rel_lookupVariable E)
      (fun name _ place hargs => rel_invoke_of hcall i name place hargs) he
  exact hrel

/-- The body of a closure is evaluated in a frame and a layer of its own. -/
theorem rel_enterWith {eval : Expr → EvalM Value}
    (heval : ∀ i {e}, N.Mem e → (C.steps i).Rel (eval e) (eval e)) (i : ι) {c : Closure}
    {vars : Bindings} (hlambda : N.HasLambda c.lambda) (hvars : N.Owns vars) :
    (C.steps i).Rel (E.enterWith eval c vars) (E.enterWith eval c vars) := by
  refine C.framed _ ((C.steps _).bracket rfl ?_ (heval _ (hlambda _ List.mem_cons_self)))
  intro vars' h
  cases h
  exact hvars

variable (C n)

/-- Every call of a closure is related to itself. -/
theorem rel_callClosure (i : ι) {c : Closure} {args : List Value} (hc : N.Owns (Value.closure c))
    (hargs : N.Owns args) :
    (C.steps i).Rel (E.callClosure n c args) (E.callClosure n c args) := by
  -- on the fuel; the body runs in a frame of its own, so the claim is about any calls
  induction n generalizing i c args with
  | zero => exact C.outOfFuel i
  | succ n ih =>
    have heval : ∀ i {e}, N.Mem e → (C.steps i).Rel (E.eval n e) (E.eval n e) :=
      fun i _ he => rel_eval_of (fun i _ _ => ih i) i he
    rw [callClosure_succ]
    exact (C.steps i).bind (StepLogic.rel_varsByPosition (heval i) hc hargs) fun vars hvars =>
      rel_enterWith heval i (owns_closure.1 hc).1 hvars

/-- Every evaluation of an expression of the set is related to itself. -/
theorem rel_eval (i : ι) {e : Expr} (he : N.Mem e) :
    (C.steps i).Rel (E.eval n e) (E.eval n e) :=
  rel_eval_of (fun i _ _ => C.rel_callClosure n i) i he

end CallLogic

end Manifest
