import Manifest.Proofs.Library

/-!
# Active calls are balanced and bounded

Whatever host functions do, a run ends with the active calls that it started with, and on the way
the stack of active calls is never deeper than the limit.

* `CallEvent` — what happens to the active calls: something is started in a frame of its own, and a
  frame is popped. Nothing else touches them.
* `EvalM.monitored` — a frame as `EvalM.framed` has it, but with a monitor: a run has no outcome if
  the monitor rejects an event. So a run that ends under a monitor of lawful events
  (`CallEvent.IsLawful`) has seen no others.
* `Evaluator.Attempts` — a call gets past its checks and its arguments, so that all that is left is
  to start it.
* `Evaluator.perform_balanced` — all of it, for every way into the evaluator.
-/

namespace Manifest

/-! ## Events -/

/-- What happens to the active calls. -/
inductive CallEvent where
  /-- a host function or the body of a closure is started, above the calls that are active -/
  | start (calls : CallStack)
  /-- the topmost of the active calls is dropped -/
  | pop (calls : CallStack)

/-- What may happen under a limit: something is started where there is room for its frame, and a
frame is dropped where there is one. The calls are never deeper than the limit. -/
def CallEvent.IsLawful (limit : Option Nat) : CallEvent → Prop
  | .start calls => ∀ most ∈ limit, calls.length < most
  | .pop calls => calls ≠ [] ∧ ∀ most ∈ limit, calls.length ≤ most

namespace EvalM

/-- A step that is started above some calls and that a pop comes after. There is no outcome if the
monitor rejects one of the two. -/
def watched (accepts : CallEvent → Bool) (calls : CallStack) (m : EvalM Value) : EvalM Value :=
  fun s =>
    if accepts (.start calls) then
      match m s with
      | none => none
      | some (r, t) => if accepts (.pop t.calls) then some (r, t) else none
    else none

/-- A frame around a watched step. -/
def monitored (accepts : CallEvent → Bool) (limit : Option Nat) : Bracket :=
  fun frame m s => framed limit frame (watched accepts s.calls m) s

end EvalM

/-! ## The law of balance -/

/-- The active calls stay the same. -/
def balance : Law where
  allows _ := True
  excuses _ := False
  rel s t := t.calls = s.calls
  refl _ := rfl
  trans hst htu := htu.trans hst
  note := State.calls_notePattern
  record _ _ := rfl
  log _ _ := rfl
  set _ _ _ := rfl
  setCaptures _ _ := rfl
  change _ _ _ := rfl
  layer _ h := h
  frame h := congrArg List.tail h

/-- Around a balanced step no monitor notices anything but what is lawful. -/
theorem Bracket.monitored_refines {accepts : CallEvent → Bool} {limit : Option Nat}
    (haccepts : ∀ event : CallEvent, event.IsLawful limit → accepts event = true) :
    Bracket.Refines balance (EvalM.framed limit) (EvalM.monitored accepts limit) := by
  intro frame m m' hm s r t h
  rcases EvalM.framed_eq_some h with ⟨e, hp, rfl, rfl⟩ | ⟨r', u, hp, hs, rfl, rfl⟩
  · -- nothing is started, so the monitor is not asked
    refine ⟨rfl, .inl ?_⟩
    rw [EvalM.monitored, EvalM.framed, hp]
  · obtain ⟨hcalls, hsame | ⟨_, -, hexc⟩⟩ := hm hs
    · -- the step is balanced, so the frame that is popped is the one that was pushed
      have hcalls' : u.calls = frame :: s.calls := hcalls
      obtain ⟨-, hroom⟩ := CallStack.push?_eq_ok hp
      have hstart := haccepts (.start s.calls) hroom
      have hpop : accepts (.pop u.calls) = true := by
        rw [hcalls']
        exact haccepts _ ⟨List.cons_ne_nil _ _, hroom⟩
      refine ⟨balance.frame hcalls, .inl ?_⟩
      simp only [EvalM.monitored, EvalM.framed, EvalM.watched, hp, hstart, hsame, hpop, if_true]
    · exact hexc.elim

namespace Evaluator

open EvalM

/-! ## Ways into the evaluator -/

/-- What an evaluator can be asked to do. -/
inductive Task where
  /-- evaluates an expression -/
  | evaluate (e : Expr)
  /-- calls a closure with arguments by position -/
  | call (c : Closure) (args : List Value)
  /-- calls a closure with arguments by name -/
  | callByName (c : Closure) (named : Bindings) (spillOver : Bool)
  /-- calls any value with arguments by position -/
  | callValue (v : Value) (args : List Value)

/-- Does a task, with calls within a bracket. -/
def performIn (E : Evaluator) (B : Bracket) (n : Nat) : Task → EvalM Value
  | .evaluate e => E.evalIn B n e
  | .call c args => E.callClosureIn B n c args
  | .callByName c named spillOver => E.callNamedIn B n c named spillOver
  | .callValue v args => callValueWith (E.callClosureIn B n) v args

/-- Does a task. -/
def perform (E : Evaluator) (n : Nat) : Task → EvalM Value
  | .evaluate e => E.eval n e
  | .call c args => E.callClosure n c args
  | .callByName c named spillOver => E.callNamed n c named spillOver
  | .callValue v args => E.callValue n v args

/-- Calls within frames are the calls of the evaluator. -/
theorem performIn_framed (E : Evaluator) (n : Nat) :
    E.performIn (framed E.callLimit) n = E.perform n := by
  funext task
  cases task with
  | evaluate e => rw [performIn, evalIn_framed, perform]
  | call c args => rw [performIn, callClosureIn_framed, perform]
  | callByName c named spillOver => rw [performIn, callNamedIn_framed, perform]
  | callValue v args =>
    rw [performIn, callClosureIn_framed]
    rfl

/-- Every task is balanced, and a monitor of what is lawful makes no difference to it. -/
theorem perform_refines (E : Evaluator) {accepts : CallEvent → Bool}
    (haccepts : ∀ event : CallEvent, event.IsLawful E.callLimit → accepts event = true) (n : Nat)
    (task : Task) :
    Refines balance (E.perform n task) (E.performIn (monitored accepts E.callLimit) n task) := by
  have hcompare : Comparable balance E E.mode E.callLimit (framed E.callLimit)
      (monitored accepts E.callLimit) :=
    { lookups := E.refines_lookupVariable
      brackets := Bracket.monitored_refines haccepts
      uses := FunctionTable.uses_of_forall fun _ => trivial
      passesOn := FunctionTable.passesOn_of_forall_not fun _ h => h }
  have hcall := callClosureIn_refines hcompare (Nat.le_refl n)
  rw [← performIn_framed]
  cases task with
  | evaluate e => exact evalIn_refines hcompare (Nat.le_refl n) e
  | call c args => exact hcall c args
  | callByName c named spillOver =>
    exact callNamedIn_refines hcompare (Nat.le_refl n) c named spillOver
  | callValue v args => exact callValueWith_refines hcall v args

/-! ## Calls at the limit -/

section Balance

variable (E : Evaluator) (n : Nat)

/-- Every call of a host function is balanced. -/
theorem invoke_balanced (name : String) (args : List Value) (place : Span) :
    Obeys balance (E.invoke n name args place) :=
  invoke_obeys (L := balance) (FunctionTable.uses_of_forall fun _ => trivial)
    (FunctionTable.passesOn_of_forall_not fun _ h => h) n name args place

/-- Every evaluation is. -/
theorem eval_balanced (e : Expr) : Obeys balance (E.eval n e) :=
  eval_obeys (L := balance) (FunctionTable.uses_of_forall fun _ => trivial)
    (FunctionTable.passesOn_of_forall_not fun _ h => h) n e

/-- So is the evaluation of arguments. -/
theorem evalItems_balanced (args : List Expr) : Obeys balance (E.evalItems (E.invoke n) args) :=
  (evalItems_refines E.refines_lookupVariable
    (fun name args place => (E.invoke_balanced n name args place).refines) args).obeys

end Balance

/-- At the limit no host function is started. -/
theorem invoke_at_limit {E : Evaluator} (n : Nat) (name : String) (args : List Value)
    (place : Span) {s : State} (h : E.callLimit = some s.calls.length) :
    E.invoke n name args place s =
      some (.error (.ofCause (.recursionLimitExceeded s.calls.length)), s) := by
  rw [invoke, invokeWith, bind_apply, framed_of_full _ _ h (Nat.le_refl _)]

/-- Making the closure of a call site always succeeds and changes nothing. -/
theorem lambdaArgument_eq_ok (E : Evaluator) (lambda : Option Lambda) (s : State) :
    ∃ f, E.lambdaArgument lambda s = some (.ok f, s) := by
  cases lambda with
  | none => exact ⟨[], rfl⟩
  | some l => exact ⟨_, rfl⟩

/-- An error of a form is the error of the expression, but for its place. -/
theorem eval_of_error {E : Evaluator} {n : Nat} {form : Form} {s u : State} {e : EvalError}
    (h : E.evalForm (E.invoke n) form s = some (.error e, u)) (span : Span) :
    ∃ e', E.eval n ⟨form, span⟩ s = some (.error e', u) ∧ e'.cause = e.cause :=
  ⟨_, located_of_error h form.kind span, EvalError.cause_withNode _ _ _⟩

/-- A task is a call that passes its checks and whose arguments and defaults evaluate, which leads
from one state to another; all that is left is to start what is called. -/
inductive Attempts (E : Evaluator) : Nat → Task → State → State → Prop where
  | named {n : Nat} {name : String} {place span : Span} {args : List Expr}
    {lambda : Option Lambda} {vs : List Value} {s u : State} (known : E.functions.has name = true)
    (arguments : E.evalItems (E.invoke n) args s = some (.ok vs, u)) :
    Attempts E n (.evaluate ⟨.callNamed ⟨.qualifiedName name, place⟩ args lambda, span⟩) s u
  | method {n : Nat} {receiver : Expr} {name : String} {place dot span : Span} {args : List Expr}
    {lambda : Option Lambda} {v : Value} {vs : List Value} {s s' u : State}
    (known : E.functions.has name = true) (first : E.eval n receiver s = some (.ok v, s'))
    (arguments : E.evalItems (E.invoke n) args s' = some (.ok vs, u)) :
    Attempts E n (.evaluate ⟨.callMethod
      ⟨.namedAccess receiver ⟨.qualifiedName name, place⟩, dot⟩ args lambda, span⟩) s u
  | closure {n : Nat} {c : Closure} {args : List Value} {vars : Bindings} {s u : State}
    (arguments : varsByPosition (E.eval n) c args s = some (.ok vars, u)) :
    Attempts E (n + 1) (.call c args) s u
  | byName {n : Nat} {c : Closure} {named : Bindings} {spillOver : Bool} {vars : Bindings}
    {s u : State} (arguments : varsByName (E.eval n) c named spillOver s = some (.ok vars, u)) :
    Attempts E n (.callByName c named spillOver) s u
  | value {n : Nat} {c : Closure} {args : List Value} {s u : State}
    (inner : Attempts E n (.call c args) s u) :
    Attempts E n (.callValue (.closure c) args) s u

/-- At the limit a call is refused once its arguments are there. -/
theorem Attempts.at_limit {E : Evaluator} {n : Nat} {task : Task} {s u : State}
    (h : E.Attempts n task s u) (hlimit : E.callLimit = some s.calls.length) :
    ∃ e, E.perform n task s = some (.error e, u) ∧
      e.cause = .recursionLimitExceeded s.calls.length := by
  induction h with
  | @named n name place span args lambda vs s u known arguments =>
    -- evaluating the arguments is balanced, so the limit is still reached after it
    have hcalls : u.calls = s.calls := E.evalItems_balanced n args arguments
    obtain ⟨f, hf⟩ := lambdaArgument_eq_ok E lambda u
    rw [← hcalls] at hlimit ⊢
    refine eval_of_error (e := .ofCause (.recursionLimitExceeded u.calls.length)) ?_ span
    rw [evalForm_callNamed, if_pos known, bind_of_ok arguments, bind_of_ok hf]
    exact invoke_at_limit n name _ place hlimit
  | @method n receiver name place dot span args lambda v vs s s' u known first arguments =>
    have hcalls : u.calls = s.calls :=
      Eq.trans (E.evalItems_balanced n args arguments) (E.eval_balanced n receiver first)
    obtain ⟨f, hf⟩ := lambdaArgument_eq_ok E lambda u
    rw [← hcalls] at hlimit ⊢
    refine eval_of_error (e := .ofCause (.recursionLimitExceeded u.calls.length)) ?_ span
    rw [eval] at first
    rw [evalForm_callMethod, if_pos known, bind_of_ok first, bind_of_ok arguments, bind_of_ok hf]
    exact invoke_at_limit n name _ place hlimit
  | @closure n c args vars s u arguments =>
    have hcalls : u.calls = s.calls :=
      (varsByPosition_refines (fun e => (E.eval_balanced n e).refines) c args).obeys arguments
    rw [← hcalls] at hlimit ⊢
    refine ⟨.ofCause (.recursionLimitExceeded u.calls.length), ?_, rfl⟩
    rw [perform, callClosure_succ, callWith, bind_of_ok arguments]
    exact framed_of_full _ _ hlimit (Nat.le_refl _)
  | @byName n c named spillOver vars s u arguments =>
    have hcalls : u.calls = s.calls :=
      (varsByName_refines (fun e => (E.eval_balanced n e).refines) c named spillOver).obeys
        arguments
    rw [← hcalls] at hlimit ⊢
    refine ⟨.ofCause (.recursionLimitExceeded u.calls.length), ?_, rfl⟩
    rw [perform, callNamed, callNamedWith, bind_of_ok arguments]
    exact framed_of_full _ _ hlimit (Nat.le_refl _)
  | value inner ih => exact ih hlimit

/-! ## The result -/

/-- **Balance and bound of active calls**, whatever host functions do: a run ends with the active
calls that it started with. A monitor that accepts what is lawful accepts all that happens on the
way, so that there is always something to pop and nothing is started without room for its frame.
A call at the limit fails as soon as its arguments are there. -/
theorem perform_balanced {E : Evaluator} {n : Nat} {task : Task} {s t : State}
    {r : Except EvalError Value} (h : E.perform n task s = some (r, t)) :
    t.calls = s.calls ∧
      (∀ accepts : CallEvent → Bool,
        (∀ event : CallEvent, event.IsLawful E.callLimit → accepts event = true) →
        E.performIn (monitored accepts E.callLimit) n task s = some (r, t)) ∧
      ∀ most u, E.callLimit = some most → s.calls.length = most → E.Attempts n task s u →
        ∃ e, r = .error e ∧ e.cause = .recursionLimitExceeded most ∧ t = u := by
  refine ⟨?_, fun accepts haccepts => ?_, fun most u hlimit hdepth hattempts => ?_⟩
  · have hany : ∀ event : CallEvent, event.IsLawful E.callLimit →
        (fun _ : CallEvent => true) event = true := fun _ _ => rfl
    exact (E.perform_refines hany n task).obeys h
  · obtain ⟨-, hsame | ⟨_, -, hexc⟩⟩ := E.perform_refines haccepts n task h
    · exact hsame
    · exact hexc.elim
  · obtain ⟨e, he, hcause⟩ := hattempts.at_limit (hdepth ▸ hlimit)
    rw [he] at h
    cases h
    exact ⟨e, rfl, hdepth ▸ hcause, rfl⟩

/-- A state in which one call is active. -/
def oneDeep : State :=
  { State.initial (.ofGlobals []) with calls := [CallStack.functionFrame "apply" ⟨0, 5⟩] }

/-- With one call active and no room for a second one, `touch()` is refused, and the one call is
still active. -/
theorem perform_balanced_touch : ∃ e t,
    (Library.evaluator.under .strict (some 1)).perform 0 (.evaluate Library.touchCall) oneDeep =
        some (.error e, t) ∧
      e.cause = .recursionLimitExceeded 1 ∧ t.calls = oneDeep.calls := by
  obtain ⟨r, t, h⟩ : ∃ r t, (Library.evaluator.under .strict (some 1)).perform 0
      (.evaluate Library.touchCall) oneDeep = some (r, t) := ⟨_, _, rfl⟩
  obtain ⟨hcalls, -, hlimit⟩ := perform_balanced h
  obtain ⟨e, rfl, hcause, -⟩ := hlimit 1 oneDeep rfl rfl (.named rfl rfl)
  exact ⟨e, t, h, hcause, hcalls⟩

end Evaluator

end Manifest
