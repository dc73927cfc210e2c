import Manifest.Comparator
import Manifest.Environment
import Manifest.Host.Function
import Manifest.Regex.Engine

/-!
# Evaluators

An evaluator is a choice of the rules that programs are evaluated by: how strictly variables are
treated, how deep calls may go, how values are compared, which functions there are, and which engine
there is for regular expressions.
-/

namespace Manifest

/-- How strictly programs are treated. -/
inductive Mode where
  /-- unknown variables have no value, and calls may go as deep as they like -/
  | standard
  /-- unknown variables are errors, and the depth of calls is limited -/
  | strict
deriving DecidableEq

namespace Mode

/-- Whether unknown variables are errors. -/
def strictVariables : Mode → Bool
  | .standard => false
  | .strict => true

/-- How deep calls may go. -/
def callLimit : Mode → Option Nat
  | .standard => none
  | .strict => some 500

/-- The name of the mode. -/
def name : Mode → String
  | .standard => "Standard"
  | .strict => "Strict"

end Mode

/-- The rules that programs are evaluated by. What is not among them is fixed, so that no evaluator
can have it otherwise: which types accept which, how collections are indexed, and how relationships
are recorded. -/
structure Evaluator where
  /-- how strictly programs are treated -/
  mode : Mode
  /-- how deep calls may go; none for any depth -/
  callLimit : Option Nat
  /-- how values are compared -/
  comparator : Comparator
  /-- the functions that programs can call -/
  functions : FunctionTable
  /-- whether lambdas capture the local variables -/
  capturing : Bool
  /-- how regular expressions are compiled and searched for -/
  [engine : RegexEngine]

namespace Evaluator

/-- The evaluator of a mode, without any functions. -/
def ofMode (mode : Mode) : Evaluator :=
  ⟨mode, mode.callLimit, .standard, [], true⟩

/-- What a lambda captures when it is evaluated in an environment. -/
def capturedIn (E : Evaluator) (env : Environment) : Bindings :=
  if E.capturing then env.capture else []

end Evaluator

end Manifest
