import Manifest.Value.Text

/-!
# Errors

* `Cause` — what went wrong, with the values and names involved.
* `Cause.message` — the sentence for the reader.
* `EvalError` — a cause together with the place it arose at, the calls that were active there, and
  notes.

The place and the active calls are attached once, by the innermost expression and the innermost
call; later attempts leave them alone.
-/

namespace Manifest

/-! ## Causes -/

/-- How many arguments a call should have had at least. -/
inductive ArgumentBound where
  | exactly (n : Nat)
  | atLeast (n : Nat)
deriving DecidableEq

namespace ArgumentBound

/-- The number in the bound. -/
def count : ArgumentBound → Nat
  | .exactly n | .atLeast n => n

/-- The text of a bound. -/
def text : ArgumentBound → String
  | .exactly n => toString n
  | .atLeast n => "min " ++ toString n

end ArgumentBound

/-- What went wrong. -/
inductive Cause where
  | illegalAssignment (target : String)
  | crossScopeAssignment (name : String)
  | illegalNumericAssignment (name : String)
  | illegalVariableExpression (kind : String)
  | illegalExpression (kind : String)
  | unsupportedOperator (op : String)
  | operatorNotApplicable (op : String) (operand : Value)
  | runtimeArithmetic (op : String) (operand : Value) (detail : String)
  | appendFailed (op detail : String)
  | comparisonNotPossible (op : String) (left right : Value)
  | matchPatternInvalid (pattern detail : String)
  | matchOperandNotString (operand : Value)
  | typeCoercion (value : Value) (target : String)
  | tooManyArguments (given total : Nat)
  | tooFewArguments (given : Nat) (bound : ArgumentBound) (missing : List String)
  | unknownFunction (name : String)
  | recursionLimitExceeded (limit : Nat)
  | unknownVariable (name : String)
  | noHandlerFound (family kind : String)
  /-- a fault that a host function raised -/
  | custom (message : String)

/-- The sentence that reports a cause. -/
def Cause.message : Cause → String
  | .illegalAssignment target => "illegal attempt to assign to '" ++ target ++ "'"
  | .crossScopeAssignment name =>
    "cannot assign to a variable in another namespace: '$" ++ name ++ "'"
  | .illegalNumericAssignment name =>
    "illegal attempt to assign to the numeric match result variable '$" ++ name ++ "'"
  | .illegalVariableExpression kind => "illegal variable expression: " ++ kind
  | .illegalExpression kind => "illegal expression: " ++ kind ++ " is unacceptable here"
  | .unsupportedOperator op => "unsupported operator '" ++ op ++ "'"
  | .operatorNotApplicable op operand =>
    "operator '" ++ op ++ "' is not applicable to " ++ operand.typeName
  | .runtimeArithmetic op _ detail => "error while evaluating '" ++ op ++ "': " ++ detail
  | .appendFailed op detail => "'" ++ op ++ "' failed: " ++ detail
  | .comparisonNotPossible op left right =>
    "comparison of " ++ left.typeName ++ " " ++ op ++ " " ++ right.typeName ++ " is not possible"
  | .matchPatternInvalid pattern detail =>
    "cannot match with pattern " ++ Quoted.encode pattern ++ ": " ++ detail
  | .matchOperandNotString operand => "can only match a String, got " ++ operand.typeName
  | .typeCoercion value target => "cannot convert " ++ value.typeName ++ " to " ++ target
  | .tooManyArguments given total =>
    "too many arguments: " ++ toString given ++ " for " ++ toString total
  | .tooFewArguments given bound _ =>
    "too few arguments: " ++ toString given ++ " for " ++ bound.text
  | .unknownFunction name => "unknown function: '" ++ name ++ "'"
  | .recursionLimitExceeded limit =>
    "maximum call depth exceeded (limit: " ++ toString limit ++ ")"
  | .unknownVariable name => "unknown variable: '$" ++ name ++ "'"
  | .noHandlerFound family kind => "no '" ++ family ++ "' rule for " ++ kind
  | .custom message => message

/-! ## Calls and notes -/

/-- An active call. -/
structure Frame where
  /-- the name of the function; closures share one -/
  name : String
  /-- where the call stands; for a closure, where its lambda does -/
  span : Option Span
deriving DecidableEq

/-- The calls that were active at an error, most recent first. -/
abbrev Backtrace := List Frame

/-- One line of a backtrace. -/
def Frame.line (index : Nat) (f : Frame) : String :=
  let place := match f.span with
    | some s => " at " ++ s.text
    | none => ""
  "  " ++ toString index ++ ": " ++ f.name ++ place ++ "\n"

/-- The text of a backtrace: a heading and a numbered line for every call, or nothing when there
was none. -/
def Backtrace.text (b : Backtrace) : String :=
  if b.isEmpty then ""
  else "call backtrace:\n" ++ String.join (b.zipIdx.map fun (f, i) => f.line i)

/-- A remark on an error. -/
structure Note where
  /-- what it says -/
  message : String
  /-- where it points, if anywhere -/
  span : Option Span
deriving DecidableEq

/-! ## Errors -/

/-- An error of an evaluation. -/
structure EvalError where
  /-- what went wrong -/
  cause : Cause
  /-- where it arose -/
  span : Option Span
  /-- the kind of the expression it arose at -/
  node : Option String
  /-- the calls that were active where it arose -/
  backtrace : Option Backtrace
  /-- remarks, oldest first -/
  notes : List Note

namespace EvalError

/-- An error of which nothing but the cause is known. -/
def ofCause (cause : Cause) : EvalError :=
  ⟨cause, none, none, none, []⟩

/-- The sentence that reports the error. -/
def message (e : EvalError) : String :=
  e.cause.message

/-- Attaches the place of an expression, unless a place is attached already. -/
def withNode (kind : String) (span : Span) (e : EvalError) : EvalError :=
  match e.span with
  | some _ => e
  | none => { e with span := some span, node := some kind }

/-- Attaches the place of an expression, unless a place is attached already. -/
def atExpr (x : Expr) (e : EvalError) : EvalError :=
  e.withNode x.kind x.span

/-- Sets the place. -/
def withSpan (span : Span) (e : EvalError) : EvalError :=
  { e with span := some span }

/-- Attaches the active calls, unless some are attached already. -/
def withBacktrace (b : Backtrace) (e : EvalError) : EvalError :=
  match e.backtrace with
  | some _ => e
  | none => { e with backtrace := some b }

/-- Adds a note. -/
def withNote (n : Note) (e : EvalError) : EvalError :=
  { e with notes := e.notes ++ [n] }

/-- A place does not change what went wrong. -/
@[simp]
theorem cause_withNode (kind : String) (span : Span) (e : EvalError) :
    (e.withNode kind span).cause = e.cause := by
  rw [withNode]
  split <;> rfl

/-- An error that an expression gave its place to has a place. -/
theorem span_withNode_ne_none (kind : String) (span : Span) (e : EvalError) :
    (e.withNode kind span).span ≠ none := by
  rw [withNode]
  split
  · next s hs => simp [hs]
  · simp

/-- An error that has a place keeps it. -/
theorem withNode_eq_self {e : EvalError} (h : e.span ≠ none) (kind : String) (span : Span) :
    e.withNode kind span = e := by
  obtain ⟨place, hplace⟩ := Option.ne_none_iff_exists'.1 h
  rw [withNode, hplace]

/-- Active calls do not change what went wrong. -/
@[simp]
theorem cause_withBacktrace (b : Backtrace) (e : EvalError) :
    (e.withBacktrace b).cause = e.cause := by
  rw [withBacktrace]
  split <;> rfl

/-- Nor do they change the place. -/
@[simp]
theorem span_withBacktrace (b : Backtrace) (e : EvalError) :
    (e.withBacktrace b).span = e.span := by
  rw [withBacktrace]
  split <;> rfl

@[simp]
theorem node_withBacktrace (b : Backtrace) (e : EvalError) :
    (e.withBacktrace b).node = e.node := by
  rw [withBacktrace]
  split <;> rfl

end EvalError

/-- The error with a given cause, thrown. -/
def fault {α : Type} (cause : Cause) : Except EvalError α :=
  .error (.ofCause cause)

end Manifest
