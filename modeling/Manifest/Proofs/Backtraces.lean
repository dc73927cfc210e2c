import Manifest.Proofs.Contract
import Manifest.Proofs.Termination

/-!
# Backtraces are snapshots of the innermost calls

An error that leaves a frame takes the active calls along, unless it has some already. So the first
frame that it leaves decides: the backtrace is the stack of calls there, which has the calls on top
with which evaluation was started. The limit on the depth of calls is reached just where a backtrace
is as long as the limit.

* `EvalError.TracedAbove` — what there is to say of an error where certain calls are active.
* `tracing` — the contract that errors are such.
* `Evaluator.eval_error_traced` — every evaluation meets it.
-/

namespace Manifest

/-! ## Host functions that return errors -/

/-- An error that has left no call and is not about their depth. -/
def EvalError.Untraced (e : EvalError) : Prop :=
  e.backtrace = none ∧ e.cause.isRecursionLimit = false

/-- The functions of a table end only with errors of their own, which are of a kind, and with errors
of callbacks as they are. -/
def FunctionTable.RaisesOnly (functions : FunctionTable) (own : EvalError → Prop) : Prop :=
  ∀ errors : EvalError → Prop, (∀ e, own e → errors e) → ∀ name args,
    (functions.procedure name args).Keeps (fun _ => True) errors

/-! ## Errors where calls are active -/

/-- An error of a step that is taken while certain calls are active: a backtrace has more calls, on
top of these; and if it is that the limit on the depth of calls has been reached, then this is the
limit there is, and there are as many calls as it allows, here or in the backtrace. -/
structure EvalError.TracedAbove (limit : Option Nat) (calls : CallStack) (e : EvalError) :
    Prop where
  backtrace : ∀ b, e.backtrace = some b → calls.length < b.length ∧ calls <:+ b
  recursion : ∀ m, e.cause = .recursionLimitExceeded m → limit = some m ∧
    ((e.backtrace = none ∧ calls.length = m) ∨ ∃ b, e.backtrace = some b ∧ b.length = m)

namespace EvalError

variable {limit : Option Nat} {calls : CallStack} {e : EvalError}

theorem TracedAbove.of_untraced (h : e.Untraced) : e.TracedAbove limit calls where
  backtrace b hb := by
    rw [h.1] at hb
    cases hb
  recursion m hm := by
    have hcause := h.2
    rw [hm] at hcause
    cases hcause

/-- A place is neither a backtrace nor a cause. -/
theorem TracedAbove.withNode (h : e.TracedAbove limit calls) (kind : String) (span : Span) :
    (e.withNode kind span).TracedAbove limit calls := by
  rw [EvalError.withNode]
  split
  · exact h
  · exact ⟨h.backtrace, h.recursion⟩

/-- An error that leaves a frame takes the active calls along, if no frame before it did. -/
theorem TracedAbove.attach {frame : Frame} (h : e.TracedAbove limit (frame :: calls)) :
    (CallStack.attach (frame :: calls) e).TracedAbove limit calls := by
  have hattach : CallStack.attach (frame :: calls) e = e.withBacktrace (frame :: calls) := rfl
  rw [hattach, withBacktrace]
  cases hb : e.backtrace with
  | some b =>
    -- the error has left a frame before
    obtain ⟨hlonger, htop⟩ := h.backtrace b hb
    refine ⟨fun b' hb' => ?_, fun m hm => ?_⟩
    · obtain rfl : b = b' := Option.some.inj (hb.symm.trans hb')
      exact ⟨Nat.lt_of_succ_lt hlonger, (List.suffix_cons frame calls).trans htop⟩
    · obtain ⟨hlimit, ⟨hnone, -⟩ | hlength⟩ := h.recursion m hm
      · rw [hb] at hnone
        cases hnone
      · exact ⟨hlimit, .inr hlength⟩
  | none =>
    -- this is the first frame that it leaves
    refine ⟨fun b' hb' => ?_, fun m hm => ?_⟩
    · cases hb'
      exact ⟨Nat.lt_succ_self _, List.suffix_cons frame calls⟩
    · obtain ⟨hlimit, ⟨-, hlength⟩ | ⟨b, hsome, -⟩⟩ := h.recursion m hm
      · exact ⟨hlimit, .inr ⟨frame :: calls, rfl, hlength⟩⟩
      · rw [hb] at hsome
        cases hsome

end EvalError

/-! ## The contract -/

open EvalM NodeSet

/-- While certain calls are active, within the limit, errors are those of such a step. -/
def tracing (limit : Option Nat) (calls : CallStack) : Contract .all where
  holds s := s.calls = calls ∧ ∀ most ∈ limit, calls.length ≤ most
  errors := EvalError.TracedAbove limit calls
  own he := .of_untraced ⟨he.backtrace, he.cause⟩
  withNode _ he := he.withNode _ _
  get? _ _ := owns_all _
  capture _ := owns_all _
  note hs source := ⟨(State.calls_notePattern _ source).trans hs.1, hs.2⟩
  record hs _ := hs
  log hs _ := hs
  change hs _ _ := hs

/-- A frame refuses an error of its own, or adds itself to what an error is traced above. -/
theorem tracing_framed {limit : Option Nat} {calls : CallStack} {m : EvalM Value} (frame : Frame)
    (hm : (tracing limit (frame :: calls)).Meets m) :
    (tracing limit calls).Meets (framed limit frame m) := by
  rintro s r t ⟨hcalls, hroom⟩ h
  rcases framed_eq_some h with ⟨e, hp, rfl, rfl⟩ | ⟨r', u, hp, hrun, rfl, rfl⟩
  · -- there is no room for the frame, since there are as many calls as the limit allows
    refine ⟨⟨hcalls, hroom⟩, ?_⟩
    obtain ⟨most, rfl, rfl⟩ := CallStack.push?_eq_error hp
    have hfull : most ≤ t.calls.length := by
      refine Nat.le_of_not_lt fun hlt => ?_
      rw [CallStack.push?_of_room (by simpa using hlt)] at hp
      cases hp
    rw [hcalls] at hfull
    refine ⟨fun b hb => (nomatch hb), fun m hm => ?_⟩
    cases hm
    exact ⟨rfl, .inl ⟨rfl, Nat.le_antisymm (hroom most rfl) hfull⟩⟩
  · rw [hcalls] at hp hrun
    obtain ⟨-, hlower⟩ := CallStack.push?_eq_ok hp
    obtain ⟨⟨hu, -⟩, hr⟩ := hm ⟨rfl, fun most hmost => hlower most hmost⟩ hrun
    refine ⟨⟨congrArg List.tail hu, hroom⟩, ?_⟩
    cases r' with
    | ok v => exact hr
    | error e =>
      rw [hu]
      exact hr.attach

namespace Evaluator

variable {E : Evaluator}

/-- Tracing is a logic of calls, for host functions that return the errors of their callbacks. -/
def tracedCalls (hraises : E.functions.RaisesOnly EvalError.Untraced) :
    CallLogic E .all CallStack :=
  Contract.calls (tracing E.callLimit) List.cons (fun frame hm => tracing_framed frame hm) (by
    intro calls name args _
    have howns : NodeSet.all.Owns = fun _ : Value => True :=
      funext fun v => eq_true (owns_all v)
    rw [howns]
    exact (hraises _ (fun _ he => EvalError.TracedAbove.of_untraced he) name args).ordered)

/-- **Backtraces are snapshots of the innermost calls**: an error of an evaluation that was started
while certain calls were active has no backtrace, or one with more calls, on top of these. If it is
that the limit on the depth of calls has been reached, then that limit is the evaluator's, and the
calls that were active at the start are as many as it allows, or those of the backtrace are. -/
theorem eval_error_traced (hraises : E.functions.RaisesOnly EvalError.Untraced) {n : Nat} {p : Expr}
    {s t : State} {e : EvalError} (hroom : ∀ most ∈ E.callLimit, s.calls.length ≤ most)
    (h : E.eval n p s = some (.error e, t)) :
    (∀ b, e.backtrace = some b → s.calls.length < b.length ∧ s.calls <:+ b) ∧
      ∀ m, e.cause = .recursionLimitExceeded m → E.callLimit = some m ∧
        ((e.backtrace = none ∧ s.calls.length = m) ∨
          ∃ b, e.backtrace = some b ∧ b.length = m) := by
  have hmeets : (tracing E.callLimit s.calls).Meets (E.eval n p) :=
    (tracedCalls hraises).rel_eval n s.calls (mem_all p)
  obtain ⟨-, htraced⟩ := hmeets ⟨rfl, hroom⟩ h
  exact ⟨htraced.backtrace, htraced.recursion⟩

/-- The function `again` alone, which calls what the variable `f` holds. -/
def againTable : FunctionTable :=
  NameMap.ofList [("again", ⟨Library.again, true⟩)]

theorem againTable_raisesOnly : againTable.RaisesOnly EvalError.Untraced := by
  intro errors hown name args
  refine FunctionTable.procedure_ofList ?_ (hown _ ⟨rfl, rfl⟩)
  simp only [List.map_cons, List.map_nil, List.forall_mem_cons]
  refine ⟨fun _ _ => ⟨⟨trivial, fun _ _ => trivial⟩, fun _ _ => trivial, fun _ he => he⟩, ?_⟩
  simp

/-- A closure that calls itself until the limit is reached, started inside another call: the error
tells all the calls up to the limit, with the one that was there at the start at the end. -/
theorem eval_error_traced_again : ∃ e t,
    (⟨.strict, some 3, .standard, againTable, true⟩ : Evaluator).eval 4 againCall
        { selfCallingState with calls := [CallStack.functionFrame "main" ⟨0, 4⟩] } =
      some (.error e, t) ∧ e.cause = .recursionLimitExceeded 3 ∧
    ∃ b, e.backtrace = some b ∧ b.length = 3 ∧ [CallStack.functionFrame "main" ⟨0, 4⟩] <:+ b := by
  obtain ⟨e, t, h, hcause, hsome⟩ : ∃ e t,
      (⟨.strict, some 3, .standard, againTable, true⟩ : Evaluator).eval 4 againCall
          { selfCallingState with calls := [CallStack.functionFrame "main" ⟨0, 4⟩] } =
        some (.error e, t) ∧ e.cause = .recursionLimitExceeded 3 ∧ e.backtrace.isSome = true :=
    ⟨_, _, rfl, rfl, rfl⟩
  obtain ⟨b, hb⟩ := Option.isSome_iff_exists.1 hsome
  obtain ⟨htop, hlimit⟩ := eval_error_traced againTable_raisesOnly (by simp) h
  obtain ⟨-, ⟨hnone, -⟩ | ⟨b', hb', hlength⟩⟩ := hlimit 3 hcause
  · rw [hb] at hnone
    cases hnone
  · obtain rfl : b = b' := Option.some.inj (hb.symm.trans hb')
    exact ⟨e, t, h, hcause, b, hb, hlength, (htop b hb).2⟩

end Evaluator

end Manifest
