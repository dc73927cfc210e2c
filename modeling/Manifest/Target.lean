import Manifest.Environment
import Manifest.Value.Entries

/-!
# Targets of assignments

A target is a name or a list of targets.

* `Target.ofExpr` — the target that an expression denotes: a variable, or a list of targets.
* `Target.assign` — binds the names of a target to the parts of a value. A list takes an array
  place by place, a hash by looking up its names as keys, and any other value as a whole for every
  member. Names are bound one after the other; the first that may not be bound ends the
  assignment, and earlier ones stay bound.
-/

namespace Manifest

/-- What can be assigned to. -/
inductive Target where
  | variable (name : String)
  | list (targets : List Target)

/-! ## From expressions -/

/-- The name that the inside of a variable stands for. -/
def variableName? : Form → Option String
  | .qualifiedName name => some name
  | .literal (.integer n) => if 0 ≤ n.toInt then some (toString n.toInt) else none
  | _ => none

mutual

/-- The target that an expression denotes. An error points at the innermost expression that is
no target. -/
def Target.ofExpr : Expr → Except EvalError Target
  | ⟨form, span⟩ => (Target.ofForm form).mapError (·.withNode form.kind span)
termination_by structural e => e

/-- The target that a form denotes. -/
def Target.ofForm : Form → Except EvalError Target
  | .variable inner =>
    match variableName? inner.form with
    | some name => .ok (.variable name)
    | none => fault (.illegalVariableExpression inner.kind)
  | .list items =>
    match Target.ofExprs items with
    | .ok targets => .ok (.list targets)
    | .error e => .error e
  | form => fault (.illegalAssignment form.kind)
termination_by structural f => f

/-- The targets that expressions denote; the first one that denotes none decides the error. -/
def Target.ofExprs : List Expr → Except EvalError (List Target)
  | [] => .ok []
  | e :: rest =>
    match Target.ofExpr e with
    | .error err => .error err
    | .ok target =>
      match Target.ofExprs rest with
      | .error err => .error err
      | .ok targets => .ok (target :: targets)
termination_by structural es => es

end

/-! ## Assignment -/

/-- The outcome of binding names: the environment afterwards, and the error that ended it, if
any. -/
abbrev BindOutcome := Except EvalError Unit × Environment

/-- Goes on binding after names that could be bound. -/
def BindOutcome.andThen (first : BindOutcome) (next : Environment → BindOutcome) : BindOutcome :=
  match first with
  | (.ok _, env) => next env
  | (.error e, env) => (.error e, env)

namespace Environment

/-- Binds one name, unless it belongs to another namespace or to a captured group. -/
def assign (env : Environment) (name : String) (value : Value) : BindOutcome :=
  if isQualifiedName name then (fault (.crossScopeAssignment name), env)
  else if isNumericName name then (fault (.illegalNumericAssignment name), env)
  else (.ok (), env.set name value)

end Environment

mutual

/-- Binds the names of a target to the parts of a value. -/
def Target.assign : Target → Value → Environment → BindOutcome
  | .variable name, value, env => env.assign name value
  | .list targets, value, env =>
    match value with
    | .array items => Target.assignItems targets items env
    | .hash entries => Target.assignFields targets entries env
    | scalar => Target.assignEach targets scalar env
termination_by structural t => t

/-- Binds targets to items place by place, as far as both go. -/
def Target.assignItems : List Target → List Value → Environment → BindOutcome
  | target :: targets, item :: items, env =>
    (target.assign item env).andThen (Target.assignItems targets items)
  | _, _, env => (.ok (), env)
termination_by structural ts => ts

/-- Binds names to what a hash has under them, and lists to the members of the same hash. -/
def Target.assignFields : List Target → Entries → Environment → BindOutcome
  | [], _, env => (.ok (), env)
  | .variable name :: targets, entries, env =>
    (env.assign name ((Entries.get? entries (.string name)).getD .absent)).andThen
      (Target.assignFields targets entries)
  | target :: targets, entries, env =>
    (target.assign (.hash entries) env).andThen (Target.assignFields targets entries)
termination_by structural ts => ts

/-- Binds every target to the same value. -/
def Target.assignEach : List Target → Value → Environment → BindOutcome
  | [], _, env => (.ok (), env)
  | target :: targets, value, env =>
    (target.assign value env).andThen (Target.assignEach targets value)
termination_by structural ts => ts

end

end Manifest
