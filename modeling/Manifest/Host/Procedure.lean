import Manifest.Environment

/-!
# Host procedures

A host function is given its arguments and then runs a procedure: a tree of the steps it takes
with the scope and the evaluator that called it. A procedure can look variables up, see what a
closure made here would capture, ask for the nesting level, change the scope in any way that an
environment can be changed, write to the log and read it back, and call values back. It has no
other way to act, and every path through it is finite.
-/

namespace Manifest

/-- What a host function does, step by step. -/
inductive Procedure where
  /-- ends with a value or an error -/
  | done (outcome : Except EvalError Value)
  /-- looks a variable up -/
  | lookup (name : String) (next : Option Value → Procedure)
  /-- changes the scope -/
  | change (c : Environment.Change) (next : Procedure)
  /-- asks for the local variables -/
  | capture (next : Bindings → Procedure)
  /-- asks for the nesting level -/
  | level (next : Nat → Procedure)
  /-- writes a line to the log -/
  | log (line : String) (next : Procedure)
  /-- reads the log back -/
  | readLog (next : List String → Procedure)
  /-- calls a value, and goes on with its value or its error -/
  | call (callable : Value) (args : List Value) (next : Except EvalError Value → Procedure)

namespace Procedure

/-- Ends with a value. -/
def answer (v : Value) : Procedure :=
  .done (.ok v)

/-- Ends with an error. -/
def raise (e : EvalError) : Procedure :=
  .done (.error e)

/-- Ends with an error of the host's own. -/
def complain (message : String) : Procedure :=
  raise (.ofCause (.custom message))

/-- Binds a variable. -/
def bind (name : String) (value : Value) (next : Procedure) : Procedure :=
  .change (.set name value) next

/-- Calls a value and passes on whatever comes of it. -/
def delegate (callable : Value) (args : List Value) : Procedure :=
  .call callable args .done

/-- Calls a value and goes on with its value; an error ends the procedure. -/
def callThen (callable : Value) (args : List Value) (next : Value → Procedure) : Procedure :=
  .call callable args fun
    | .ok v => next v
    | .error e => raise e

/-- Writes lines to the log. -/
def logAll (lines : List String) (next : Procedure) : Procedure :=
  lines.foldr .log next

end Procedure

end Manifest
