import Manifest.Evaluator.Call

/-!
# Running programs

The rules for expressions and those for calls refer to each other, and a closure can reach itself,
so that a program may run for ever. Every run therefore has some *fuel*: how deep closures may
call each other. A run that needs more has no outcome.

* `callClosure` ties the knot: with fuel left, a closure is called by rules that have one unit less.
* `eval`, `call`, `callNamed`, `callValue` — the rules with a given fuel.
* `fuel` — enough for an evaluator with a limit on the depth of calls, since every closure is
  called by a function that occupies a frame of its own.
-/

namespace Manifest.Evaluator

/-- Calls a closure with arguments by position. -/
def callClosure (E : Evaluator) : Nat → Closure → List Value → EvalM Value
  | 0, _, _ => EvalM.outOfFuel
  | n + 1, c, args =>
    E.callWith (E.evalExpr (E.invokeWith (callValueWith (E.callClosure n)))) c args

/-- What a call of a host function does. -/
def invoke (E : Evaluator) (n : Nat) : Invoke :=
  E.invokeWith (callValueWith (E.callClosure n))

/-- The value of an expression. -/
def eval (E : Evaluator) (n : Nat) : Expr → EvalM Value :=
  E.evalExpr (E.invoke n)

/-- Calls a value with arguments by position. -/
def callValue (E : Evaluator) (n : Nat) : CallBack :=
  callValueWith (E.callClosure n)

/-- Calls a closure with arguments by name. -/
def callNamed (E : Evaluator) (n : Nat) (c : Closure) (named : Bindings) (spillOver : Bool) :
    EvalM Value :=
  E.callNamedWith (E.eval n) c named spillOver

/-- With fuel, a closure is called by the rules with one unit less. -/
theorem callClosure_succ (E : Evaluator) (n : Nat) (c : Closure) (args : List Value) :
    E.callClosure (n + 1) c args = E.callWith (E.eval n) c args :=
  rfl

/-- The fuel of a run: one more than the depth that calls may reach, or so much that no machine
can use it up. -/
def fuel (E : Evaluator) : Nat :=
  match E.callLimit with
  | some limit => limit + 1
  | none => 0x4000000000000000

/-- Evaluates an expression. -/
def evaluate (E : Evaluator) (e : Expr) : EvalM Value :=
  E.eval E.fuel e

/-- Calls a closure with arguments by position. -/
def call (E : Evaluator) (c : Closure) (args : List Value) : EvalM Value :=
  E.callClosure E.fuel c args

/-- Calls a closure with arguments by name. -/
def callByName (E : Evaluator) (c : Closure) (named : Bindings) (spillOver : Bool) :
    EvalM Value :=
  E.callNamed E.fuel c named spillOver

/-- Calls any value with arguments by position. -/
def callAny (E : Evaluator) (callable : Value) (args : List Value) : EvalM Value :=
  E.callValue E.fuel callable args

end Manifest.Evaluator
