import Manifest.Proofs.Library

/-!
# Strict evaluation refines lenient evaluation

An evaluator *relaxes* another one if it has the same services but lets more pass: it may let
unknown variables be, and calls may go at least as deep. There are two errors that come of
strictness alone (`Cause.IsStrictness`). A run that does not end with one of them runs under the
relaxed evaluator as it did before, to the same outcome and the same state
(`Evaluator.eval_of_relaxes`).

The comparison is the law `leniency`, which excuses the errors of strictness and asks nothing of the
states. Such an error reaches the end of the run because nothing on the way absorbs it: neither an
expression nor a frame does, and host functions pass it on.
-/

namespace Manifest

/-- The errors of strictness: a variable has to exist, or a call may not go deeper. -/
def Cause.IsStrictness : Cause → Prop
  | .unknownVariable _ | .recursionLimitExceeded _ => True
  | _ => False

/-- Runs are the same but for errors of strictness. -/
def leniency : Law :=
  { Evaluator.anyRun with excuses := Cause.IsStrictness }

/-- A limit leaves at least the room that another one leaves. -/
def Roomier (limit limit' : Option Nat) : Prop :=
  ∀ most' ∈ limit', ∃ most ∈ limit, most ≤ most'

/-- Where there is room for a frame, a roomier limit leaves room as well. -/
theorem CallStack.push?_of_roomier {limit limit' : Option Nat} (h : Roomier limit limit')
    (frame : Frame) (calls : CallStack) :
    push? limit' frame calls = push? limit frame calls ∨
      ∃ e, push? limit frame calls = .error e ∧ leniency.excuses e.cause := by
  rcases hp : push? limit frame calls with e | after
  · obtain ⟨most, -, rfl⟩ := push?_eq_error hp
    exact .inr ⟨_, rfl, trivial⟩
  · obtain ⟨rfl, hroom⟩ := push?_eq_ok hp
    refine .inl (push?_of_room (fun most' hmost' => ?_) frame)
    obtain ⟨most, hmost, hle⟩ := h most' hmost'
    exact Nat.lt_of_lt_of_le (hroom most hmost) hle

namespace Evaluator

open EvalM

/-- The second evaluator has the services of the first one and is at most as strict. -/
structure Relaxes (E E' : Evaluator) : Prop where
  comparator : E'.comparator = E.comparator
  functions : E'.functions = E.functions
  capturing : E'.capturing = E.capturing
  engine : E'.engine = E.engine
  /-- unknown variables are treated alike, or they are no errors -/
  mode : E'.mode = E.mode ∨ E'.mode = .standard
  /-- calls may go at least as deep -/
  room : Roomier E.callLimit E'.callLimit

/-- An evaluator with the same services differs in mode and limit only. -/
theorem Relaxes.eq_under {E E' : Evaluator} (h : E.Relaxes E') :
    E' = E.under E'.mode E'.callLimit := by
  obtain ⟨mode, limit, comparator, functions, capturing, engine⟩ := E'
  obtain ⟨rfl, rfl, rfl, rfl, -, -⟩ := h
  rfl

/-- Looking a variable up differs only in whether one without a value is an error. -/
theorem lookupVariable_lenient (E : Evaluator) {mode : Mode} (limit : Option Nat)
    (hmode : mode = E.mode ∨ mode = .standard) (inner : Expr) :
    Refines leniency (E.lookupVariable inner) ((E.under mode limit).lookupVariable inner) := by
  rcases hmode with rfl | rfl
  · exact E.refines_lookupVariable inner
  · rw [lookupVariable, lookupVariable]
    split
    · next name _ =>
      refine (refines_read _).bind fun found => ?_
      cases found with
      | some v => exact refines_pure v
      | none =>
        cases E.mode with
        | standard => exact refines_pure _
        | strict =>
          -- only the first evaluator fails here, with an error of strictness
          intro s r t h
          cases h
          exact ⟨trivial, .inr ⟨_, rfl, trivial⟩⟩
    · split
      · exact (refines_read _).bind fun _ => refines_pure _
      · exact refines_failWith _

/-- Evaluators of which the second one relaxes the first one compare. -/
theorem Relaxes.comparable {E E' : Evaluator} (h : E.Relaxes E')
    (hpasses : E.functions.PassesOn Cause.IsStrictness) :
    Comparable leniency E E'.mode E'.callLimit (framed E.callLimit) (framed E'.callLimit) where
  lookups := E.lookupVariable_lenient E'.callLimit h.mode
  brackets := Bracket.framed_refines (CallStack.push?_of_roomier h.room)
  uses := FunctionTable.uses_of_forall fun _ => trivial
  passesOn := hpasses

/-- **Strict refines lenient**: a run that does not end with an error of strictness, with the fuel
of `evaluate` or any other, is also a run of every evaluator that relaxes its own. The value or the
error is the same with all that belongs to it, and so is the state: environment, active calls, and
recorded edges. -/
theorem eval_of_relaxes {E E' : Evaluator} (h : E.Relaxes E')
    (hpasses : E.functions.PassesOn Cause.IsStrictness) {n n' : Nat} (hn : n ≤ n') {e : Expr}
    {s t : State} {r : Except EvalError Value} (hrun : E.eval n e s = some (r, t))
    (hr : ∀ err, r = .error err → ¬ err.cause.IsStrictness) : E'.eval n' e s = some (r, t) := by
  have heval := evalIn_refines (h.comparable hpasses) hn e
  rw [evalIn_framed] at heval
  obtain ⟨-, hsame | ⟨err, hfailed, hexc⟩⟩ := heval hrun
  · have hframed : (E.under E'.mode E'.callLimit).evalIn (framed E'.callLimit) n' =
        E'.eval n' := by
      rw [← h.eq_under, evalIn_framed]
    rwa [hframed] at hsame
  · exact absurd hexc (hr err hfailed)

/-- The program `apply() || { fail() }`. -/
def failingApply : Expr :=
  ⟨.callNamed ⟨.qualifiedName "apply", ⟨0, 5⟩⟩ []
    (some ⟨0, [], ⟨.callNamed ⟨.qualifiedName "fail", ⟨13, 17⟩⟩ [] none, ⟨13, 19⟩⟩, ⟨8, 21⟩⟩),
    ⟨0, 21⟩⟩

/-- What `failingApply` ends with: the place of `fail()`, and the three calls that were active. -/
def failingApplyError : EvalError where
  cause := .custom "boom"
  span := some ⟨13, 19⟩
  node := some "CallNamedFunction"
  backtrace := some [CallStack.functionFrame "fail" ⟨13, 17⟩, CallStack.closureFrame ⟨8, 21⟩,
    CallStack.functionFrame "apply" ⟨0, 5⟩]
  notes := []

/-- The library evaluator that lets everything pass. -/
def lenientLibrary : Evaluator :=
  Library.evaluator.under .standard none

/-- A failure below a closure is the same without limits, active calls included. -/
theorem eval_of_relaxes_failingApply :
    Library.evaluator.Relaxes lenientLibrary ∧
      Library.evaluator.eval 1 failingApply (.initial (.ofGlobals [])) =
        some (.error failingApplyError, .initial (.ofGlobals [])) ∧
      lenientLibrary.eval 1 failingApply (.initial (.ofGlobals [])) =
        some (.error failingApplyError, .initial (.ofGlobals [])) := by
  have hrelaxes : Library.evaluator.Relaxes lenientLibrary :=
    ⟨rfl, rfl, rfl, rfl, .inr rfl, fun _ h => by cases h⟩
  have hrun : Library.evaluator.eval 1 failingApply (.initial (.ofGlobals [])) =
      some (.error failingApplyError, .initial (.ofGlobals [])) := rfl
  refine ⟨hrelaxes, hrun, ?_⟩
  refine eval_of_relaxes hrelaxes (Library.functions_passesOn _) (Nat.le_refl 1) hrun ?_
  intro err herr
  cases herr
  exact fun h => h

end Evaluator

end Manifest
