import Manifest.Evaluator.Describe
import Manifest.Evaluator.Run

/-!
# Sessions

A session is a series of steps that one evaluator takes in one environment. Between steps the
environment stays, errors included. A step evaluates or calls something, assigns, or works on the
environment directly.
-/

namespace Manifest

/-! ## Steps -/

/-- A value in a step: a given one, or that of a variable when the step is taken. -/
inductive Operand where
  | value (v : Value)
  | variable (name : String)

/-- A step of a session. -/
inductive Step where
  /-- evaluates an expression -/
  | eval (e : Expr)
  /-- evaluates one expression for every name, and binds the name to the value -/
  | evalEach (e : Expr) (into : List String)
  /-- assigns to what an expression denotes -/
  | assign (target : Expr) (value : Operand)
  /-- assigns to a target -/
  | assignTarget (target : Target) (value : Operand)
  /-- calls a value with arguments by position -/
  | call (callable : Operand) (args : List Operand)
  /-- calls a closure with arguments by name -/
  | callByName (callable : Operand) (named : Bindings) (spillOver : Bool)
  /-- takes steps and restores the nesting level afterwards -/
  | guarded (steps : List Step)
  /-- describes the evaluator -/
  | describe
  /-- describes the recorded edges -/
  | describeEdges
  /-- names the mode -/
  | mode
  | get (name : String)
  | set (name : String) (value : Operand)
  | has (name : String)
  | level
  | restore (level : Nat)
  | openLocals (vars : Bindings)
  | openFence
  | setCaptures (m : Option Captures)
  /-- asks for what a closure made here would capture -/
  | capture

/-- The answer to a step. -/
inductive Answer where
  | nothing
  | outcome (r : Except EvalError Value)
  | outcomes (rs : List (Except EvalError Value))
  | found (v : Option Value)
  | flag (b : Bool)
  | number (n : Nat)
  | text (s : String)
  | bindings (b : Bindings)
  /-- the level that is restored, and for every step its answer, the level after it, and whether
  there is a match -/
  | guarded (level : Nat) (steps : List (Answer × Nat × Bool))

/-- What a session works with. -/
structure Session where
  /-- the rules of evaluation -/
  evaluator : Evaluator
  /-- whether the reader sees the recorded edges -/
  watched : Bool

/-! ## Taking steps -/

/-- The value of an operand in a state. -/
def Operand.resolve (s : State) : Operand → Value
  | .value v => v
  | .variable name => (s.env.get? name).getD .absent

/-- The answer that is the outcome of an evaluation. -/
def Answer.ofEval (m : EvalM Value) (s : State) : Option (Answer × State) :=
  (m s).map fun (r, t) => (.outcome r, t)

namespace Session

/-- Evaluates an expression for every name and binds the name to the value. -/
def evalEach (S : Session) (e : Expr) :
    List String → State → Option (List (Except EvalError Value) × State)
  | [], s => some ([], s)
  | name :: rest, s =>
    match S.evaluator.evaluate e s with
    | none => none
    | some (r, t) =>
      let t := match r with
        | .ok v => { t with env := t.env.set name v }
        | .error _ => t
      (S.evalEach e rest t).map fun (rs, u) => (r :: rs, u)

mutual

/-- Takes a step. There is no answer when an evaluation ran out of fuel. -/
def take (S : Session) : Step → State → Option (Answer × State)
  | .eval e, s => Answer.ofEval (S.evaluator.evaluate e) s
  | .evalEach e into, s => (S.evalEach e into s).map fun (rs, t) => (.outcomes rs, t)
  | .assign target value, s => Answer.ofEval (Evaluator.assign target (value.resolve s)) s
  | .assignTarget target value, s =>
    Answer.ofEval (Evaluator.assignTarget target (value.resolve s)) s
  | .call callable args, s =>
    Answer.ofEval (S.evaluator.callAny (callable.resolve s) (args.map (·.resolve s))) s
  | .callByName callable named spillOver, s =>
    match callable.resolve s with
    | .closure c => Answer.ofEval (S.evaluator.callByName c named spillOver) s
    | v => Answer.ofEval (EvalM.failWith (.noHandlerFound "invoke" v.typeName)) s
  | .guarded steps, s =>
    (S.takeInner steps s).map fun (answers, t) =>
      (.guarded s.env.level answers, { t with env := t.env.restore s.env.level })
  | .describe, s => some (.text (S.evaluator.debug s), s)
  | .describeEdges, s => some (.text (edgesText (if S.watched then s.edges else [])), s)
  | .mode, s => some (.text S.evaluator.mode.name, s)
  | .get name, s => some (.found (s.env.get? name), s)
  | .set name value, s => some (.nothing, { s with env := s.env.set name (value.resolve s) })
  | .has name, s => some (.flag (s.env.has name), s)
  | .level, s => some (.number s.env.level, s)
  | .restore level, s => some (.nothing, { s with env := s.env.restore level })
  | .openLocals vars, s => some (.nothing, { s with env := s.env.openLocals vars })
  | .openFence, s => some (.nothing, { s with env := s.env.openFence })
  | .setCaptures m, s => some (.nothing, { s with env := s.env.setCaptures m })
  | .capture, s =>
    some (.bindings (S.evaluator.capturedIn s.env), s)
termination_by structural step => step

/-- Takes the steps inside a guarded one. -/
def takeInner (S : Session) : List Step → State → Option (List (Answer × Nat × Bool) × State)
  | [], s => some ([], s)
  | step :: rest, s =>
    match S.take step s with
    | none => none
    | some (answer, t) =>
      (S.takeInner rest t).map fun (answers, u) =>
        ((answer, t.env.level, t.env.has "0") :: answers, u)
termination_by structural steps => steps

end

/-! ## Reports -/

/-- What a step of a session answers, and how it leaves the session. -/
structure Report where
  /-- the answer to the step -/
  answer : Answer
  /-- the nesting level afterwards -/
  level : Nat
  /-- the number of active calls afterwards -/
  depth : Nat
  /-- the global variables afterwards -/
  globals : Bindings
  /-- the local variables afterwards -/
  locals : Bindings
  /-- the lines that the step added to the log -/
  log : List String
  /-- the edges that the step recorded, as far as the reader sees them -/
  edges : List Edge

/-- The report on a step, given the states before and after it. -/
def report (S : Session) (before after : State) (answer : Answer) : Report where
  answer := answer
  level := after.env.level
  depth := after.calls.length
  globals := after.env.globals
  locals := after.env.capture
  log := after.log.drop before.log.length
  edges := if S.watched then after.edges.drop before.edges.length else []

/-- Takes steps one after the other and reports on each. -/
def run (S : Session) : List Step → State → Option (List Report)
  | [], _ => some []
  | step :: rest, s =>
    match S.take step s with
    | none => none
    | some (answer, t) => (S.run rest t).map (S.report s t answer :: ·)

end Session

end Manifest
