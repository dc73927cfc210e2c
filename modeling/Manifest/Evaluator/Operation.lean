import Manifest.Collection
import Manifest.Evaluator.Basic
import Manifest.Evaluator.Monad
import Manifest.Index
import Manifest.Target

/-!
# Operations on values

What an expression does once its operands have been evaluated: arithmetic on numbers and
collections, matching, variables, relationships, and assignment.
-/

namespace Manifest

/-! ## Arithmetic -/

/-- Applies an arithmetic operator. A collection on the left gives `+`, `-` and `<<` their meaning
for collections. -/
def Value.combine (op : ArithmeticOp) (left right : Value) : Except EvalError Value :=
  if left.isCollection && op.joinsCollections then
    match op with
    | .shiftLeft =>
      match left.append? right with
      | some v => .ok v
      | none => fault (.operatorNotApplicable op.symbol left)
    | .sub =>
      (left.delete right).mapError fun e =>
        .ofCause (.runtimeArithmetic op.symbol right e.message)
    | _ =>
      (left.concatenate right).mapError fun e =>
        .ofCause (.runtimeArithmetic op.symbol right e.message)
  else left.arithmetic op right

namespace Evaluator

open EvalM

/-! ## Variables -/

/-- The value of a variable, given the expression of its name. A name without a value is an error
where variables are strict; a number without a value never is. -/
def lookupVariable (E : Evaluator) (inner : Expr) : EvalM Value :=
  match inner.form with
  | .qualifiedName name => do
    match ← read (·.env.get? name) with
    | some v => pure v
    | none => if E.mode.strictVariables then failWith (.unknownVariable name) else pure .absent
  | form =>
    match variableName? form with
    | some name => do pure ((← read (·.env.get? name)).getD .absent)
    | none => failWith (.illegalVariableExpression form.kind)

/-- The local variables that a lambda captures when it is evaluated. -/
def captured (E : Evaluator) : EvalM Bindings :=
  read fun s => E.capturedIn s.env

/-! ## Matching -/

/-- Matches a text and sets the captures of the current level; a failed match clears them. -/
def capture (r : Regex) (text : String) : EvalM Bool := do
  let m := r.captures? text
  changeEnv (·.setCaptures m)
  pure m.isSome

/-- The regular expression that the right operand of a match stands for. -/
def patternOf (E : Evaluator) : Value → EvalM Regex
  | .regex r => pure r
  | .string source => compile E.engine source
  | v => failWith (.matchPatternInvalid v.display ("a " ++ v.typeName ++ " is not a pattern"))

/-- Applies a match operator. -/
def matchOperands (E : Evaluator) (op : MatchOp) (left right : Value) : EvalM Value := do
  let r ← E.patternOf right
  match left with
  | .string text => do
    let found ← capture r text
    pure (.boolean (match op with
      | .matches => found
      | .differs => !found))
  | v => failWith (.matchOperandNotString v)

/-- Whether the subject of a choice matches a pattern: a regular expression that matches its text,
a type that accepts it, or an equal value. -/
def selects (E : Evaluator) (subject : Value) : Value → EvalM Bool
  | .regex r =>
    match subject with
    | .string text => capture r text
    | _ => pure false
  | .type t => pure (t.accepts subject.inferredType)
  | pattern => pure (E.comparator.equals subject pattern)

/-- Whether the subject matches one of several patterns, tried in order. -/
def selectsAny (E : Evaluator) (subject : Value) : List Value → EvalM Bool
  | [] => pure false
  | pattern :: rest => do
    if ← E.selects subject pattern then pure true else E.selectsAny subject rest

/-! ## Relationships -/

/-- Records the edges of a relationship; the right operand is the result. -/
def relate (op : RelationshipOp) (left right : Value) : EvalM Value := do
  record (op.edges left right)
  pure right

/-! ## Assignment -/

/-- Binds a target to a value, which is also the result. -/
def assignTarget (target : Target) (value : Value) : EvalM Value := do
  bindNames (target.assign value)
  pure value

/-- Assigns a value to the target that an expression denotes. -/
def assign (target : Expr) (value : Value) : EvalM Value := do
  let t ← ofExcept (Target.ofExpr target)
  located target.kind target.span (assignTarget t value)

/-- The new value of a variable in a compound assignment. -/
def compoundValue (op : AssignOp) (arith : ArithmeticOp) (current value : Value) :
    Except EvalError Value :=
  match arith with
  | .add =>
    (Value.combine .add current value).mapError fun e =>
      .ofCause (.appendFailed op.symbol e.message)
  | _ =>
    (current.delete value).mapError fun e => .ofCause (.appendFailed op.symbol e.message)

/-- Combines a variable with a value and binds it to the result. A variable without a value is
left alone: adding to it gives the value itself, and removing from it gives nothing. -/
def assignCompound (op : AssignOp) (arith : ArithmeticOp) (name : String) (value : Value) :
    EvalM Value := do
  let current ← read (·.env.get? name)
  match current.getD .absent with
  | .absent => pure (if arith = .add then value else .absent)
  | current => do
    let combined ← ofExcept (compoundValue op arith current value)
    assignTarget (.variable name) combined

/-- The name that a compound assignment is about. -/
def compoundName (target : Expr) : Except EvalError String :=
  match Target.ofExpr target with
  | .error e => .error e
  | .ok (.variable name) => .ok name
  | .ok (.list _) => .error ((EvalError.ofCause (.illegalAssignment target.kind)).atExpr target)

/-- Whether a compound assignment has a meaning: only adding and removing do. -/
def isCompound : ArithmeticOp → Bool
  | .add | .sub => true
  | _ => false

end Evaluator

end Manifest
