import Manifest.Evaluator.Basic
import Manifest.Evaluator.Monad

/-!
# Describing an evaluation

The texts of evaluators and of what they have recorded, inside diagnostics.
-/

namespace Manifest

/-- A list between brackets. -/
def bracketed (texts : List String) : String :=
  "[" ++ commaSeparated texts ++ "]"

/-- The fields of a record between braces. -/
def recordText (name : String) (fields : List String) : String :=
  name ++ " \x7b " ++ commaSeparated fields ++ " \x7d"

/-- The text of a limit. -/
def limitText : Option Nat → String
  | none => "None"
  | some n => "Some(" ++ toString n ++ ")"

/-- The text of a span that may be missing. -/
def spanText : Option Span → String
  | none => "None"
  | some s => "Some(" ++ s.text ++ ")"

/-- The text of a frame. -/
def Frame.debug (f : Frame) : String :=
  recordText "CallFrame" ["name: " ++ Quoted.encode f.name, "call_span: " ++ spanText f.span]

/-- The text of the active calls, oldest first, and of the limit on their depth. -/
def CallStack.debug (calls : CallStack) (limit : Option Nat) : String :=
  recordText "CallStack"
    ["frames: " ++ bracketed (calls.reverse.map Frame.debug), "max_depth: " ++ limitText limit]

/-- The text of a record that is shared with its reader. -/
def sharedText (items : List String) : String :=
  "SharedRecord(" ++ bracketed items ++ ")"

/-- The text of recorded edges. -/
def edgesText (edges : List Edge) : String :=
  recordText "RelationshipRecorder" ["edges: " ++ sharedText (edges.map Edge.debug)]

/-- The text of a log. -/
def logText (log : List String) : String :=
  sharedText (log.map Quoted.encode)

/-- The text of an evaluator in a state. -/
def Evaluator.debug (E : Evaluator) (s : State) : String :=
  recordText "Evaluator"
    ["mode: " ++ E.mode.name, "call_stack: " ++ s.calls.debug E.callLimit,
      "cached_patterns: " ++ toString s.patterns.length, ".."]

end Manifest
