import Manifest.Evaluator.Expression

/-!
# Calls

* `Evaluator.runProcedure` — what a host function does to the state, given what calling a value
  back does.
* `Evaluator.invokeWith` — a call of a host function, inside a frame of its own.
* `Evaluator.varsByPosition` and `Evaluator.varsByName` — the variables that a call gives to the
  body of a closure. Missing arguments take the default of their parameter, which is evaluated
  where the call is made.
* `Evaluator.callWith` and `Evaluator.callNamedWith` — a call of a closure, with arguments by
  position or by name, given how expressions are evaluated. The body is evaluated in a layer of
  variables of its own.
-/

namespace Manifest

/-- What calling a value does. -/
abbrev CallBack := Value → List Value → EvalM Value

namespace Evaluator

open EvalM

/-! ## Host functions -/

/-- What a procedure does to the state. -/
def runProcedure (E : Evaluator) (call : CallBack) : Procedure → EvalM Value
  | .done outcome => ofExcept outcome
  | .lookup name next => fun s => E.runProcedure call (next (s.env.get? name)) s
  | .change c next => fun s => E.runProcedure call next { s with env := s.env.apply c }
  | .capture next => fun s => E.runProcedure call (next (E.capturedIn s.env)) s
  | .level next => fun s => E.runProcedure call (next s.env.level) s
  | .log line next => fun s => E.runProcedure call next { s with log := s.log ++ [line] }
  | .readLog next => fun s => E.runProcedure call (next s.log) s
  | .call callable args next =>
    attempt (call callable args) fun r => E.runProcedure call (next r)

/-- A procedure that calls a value goes on with whatever comes of it. -/
theorem runProcedure_call (E : Evaluator) (call : CallBack) (callable : Value) (args : List Value)
    (next : Except EvalError Value → Procedure) (s : State) :
    E.runProcedure call (.call callable args next) s =
      match call callable args s with
      | none => none
      | some (r, t) => E.runProcedure call (next r) t := by
  rw [runProcedure, attempt]
  rcases call callable args s with _ | ⟨r, t⟩ <;> rfl

/-- Calls a host function. The result of a function that produces no value is discarded. -/
def invokeWith (E : Evaluator) (call : CallBack) : Invoke := fun name args place => do
  let v ← framed E.callLimit (CallStack.functionFrame name place)
    (E.runProcedure call (E.functions.procedure name args))
  pure (if E.functions.producesValue name then v else .absent)

/-! ## Closures -/

/-- How many arguments a lambda takes at least. -/
def argumentBound (lambda : Lambda) : ArgumentBound :=
  if lambda.requiredCount < lambda.params.length then .atLeast lambda.requiredCount
  else .exactly lambda.requiredCount

/-- Adds the variables of parameters to others: each with its argument or the value of its default.
Answers also with the names of the parameters that have neither. -/
def bindParams (eval : Expr → EvalM Value) :
    List (Param × Option Value) → Bindings → EvalM (Bindings × List String)
  | [], vars => pure (vars, [])
  | (p, some v) :: rest, vars => bindParams eval rest (vars.insert p.name v)
  | (p, none) :: rest, vars =>
    match p.default with
    | some e => do
      let v ← eval e
      bindParams eval rest (vars.insert p.name v)
    | none => do
      let (vars, missing) ← bindParams eval rest vars
      pure (vars, p.name :: missing)

/-- Evaluates the body of a closure with the given variables. -/
def enterWith (E : Evaluator) (eval : Expr → EvalM Value) (c : Closure) (vars : Bindings) :
    EvalM Value :=
  framed E.callLimit (CallStack.closureFrame c.lambda.span) (guarded do
    changeEnv (·.openLocals vars)
    eval c.lambda.body)

/-- Pairs parameters with arguments by position. -/
def byPosition : List Param → List Value → List (Param × Option Value)
  | [], _ => []
  | p :: ps, [] => (p, none) :: byPosition ps []
  | p :: ps, v :: vs => (p, some v) :: byPosition ps vs

/-- Pairs parameters with arguments by name. -/
def byName (params : List Param) (named : Bindings) : List (Param × Option Value) :=
  params.map fun p => (p, named.get? p.name)

/-- The variables that the body of a closure gets from arguments by position. -/
def varsByPosition (eval : Expr → EvalM Value) (c : Closure) (args : List Value) :
    EvalM Bindings :=
  if c.arity < args.length then failWith (.tooManyArguments args.length c.arity)
  else do
    let (vars, missing) ← bindParams eval (byPosition c.lambda.params args) c.captures
    if missing.isEmpty then pure vars
    else failWith (.tooFewArguments args.length (argumentBound c.lambda) missing)

/-- Calls a closure with arguments by position. -/
def callWith (E : Evaluator) (eval : Expr → EvalM Value) (c : Closure) (args : List Value) :
    EvalM Value := do
  let vars ← varsByPosition eval c args
  E.enterWith eval c vars

/-- The remark on parameters that a call by name left out. -/
def missingNote (missing : List String) : Note :=
  ⟨"missing parameters: " ++ commaSeparated missing, none⟩

/-- The variables that the body of a closure gets from arguments by name. When arguments may spill
over, those that are no parameters become variables too. -/
def varsByName (eval : Expr → EvalM Value) (c : Closure) (named : Bindings) (spillOver : Bool) :
    EvalM Bindings :=
  if !spillOver && c.arity < named.length then
    failWith (.tooManyArguments named.length c.arity)
  else do
    let start := if spillOver then NameMap.insertAll c.captures named else c.captures
    let (vars, missing) ← bindParams eval (byName c.lambda.params named) start
    if missing.isEmpty then pure vars
    else
      raise ((EvalError.ofCause
        (.tooFewArguments named.length (argumentBound c.lambda) missing)).withNote
        (missingNote missing))

/-- Calls a closure with arguments by name. -/
def callNamedWith (E : Evaluator) (eval : Expr → EvalM Value) (c : Closure) (named : Bindings)
    (spillOver : Bool) : EvalM Value := do
  let vars ← varsByName eval c named spillOver
  E.enterWith eval c vars

/-- Calls a value, given how closures are called; nothing else can be called. -/
def callValueWith (call : Closure → List Value → EvalM Value) : CallBack
  | .closure c, args => call c args
  | v, _ => failWith (.noHandlerFound "invoke" v.typeName)

end Evaluator

end Manifest
