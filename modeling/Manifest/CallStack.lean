import Manifest.Error

/-!
# Active calls

Every call of a function or a closure adds a frame to the stack of active calls while it runs. The
depth of the stack may be limited. An error that leaves a frame takes the active calls along.
-/

namespace Manifest

/-- The active calls, most recent first. -/
abbrev CallStack := List Frame

namespace CallStack

/-- The frame of a function, called at a place. -/
def functionFrame (name : String) (place : Span) : Frame :=
  ⟨name, some place⟩

/-- The frame of a closure, whose lambda stands at a place. -/
def closureFrame (place : Span) : Frame :=
  ⟨"<closure>", some place⟩

/-- Adds a frame, unless the stack is as deep as it may be. -/
def push? (limit : Option Nat) (frame : Frame) (calls : CallStack) : Except EvalError CallStack :=
  match limit with
  | some most =>
    if most ≤ calls.length then fault (.recursionLimitExceeded most) else .ok (frame :: calls)
  | none => .ok (frame :: calls)

/-- Attaches the active calls to an error, if there are any and it has none yet. -/
def attach (calls : CallStack) (e : EvalError) : EvalError :=
  if calls.isEmpty then e else e.withBacktrace calls

/-- Active calls do not change what went wrong. -/
@[simp]
theorem cause_attach (calls : CallStack) (e : EvalError) : (calls.attach e).cause = e.cause := by
  rw [attach]
  split
  · rfl
  · exact EvalError.cause_withBacktrace calls e

/-- Nor do they change the place. -/
@[simp]
theorem span_attach (calls : CallStack) (e : EvalError) : (calls.attach e).span = e.span := by
  rw [attach]
  split
  · rfl
  · exact EvalError.span_withBacktrace calls e

@[simp]
theorem node_attach (calls : CallStack) (e : EvalError) : (calls.attach e).node = e.node := by
  rw [attach]
  split
  · rfl
  · exact EvalError.node_withBacktrace calls e

end CallStack

end Manifest
