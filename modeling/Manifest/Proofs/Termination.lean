import Manifest.Proofs.Library

/-!
# A limit on calls makes evaluation end

A closure can reach itself: through a variable, through what it captured, or through the default of
a parameter, which is evaluated before the closure has a frame. So the size of a program says
nothing about the length of its runs; but a limit on the depth of calls does. Every closure is
called by a host function, which occupies a frame, so that the stack grows from one closure to the
next. Where there is no room for another frame, no host function runs and no closure is called.

* `EvalM.EndsAt depth m` — started with that many active calls, `m` has an outcome and leaves as
  many. Every construct of the language keeps this (`EvalM.endsAt`), and a frame only needs it of
  the step inside, one deeper, and only if there is room for the frame (`EndsAt.framed`).
* `Evaluator.eval_endsAt` — evaluation ends if its fuel is enough for the frames there is room for,
  by induction on the fuel.
* `Evaluator.evaluate_terminates` — every evaluation ends.

What a host function does is a tree of steps without infinite paths (`Procedure`): it may call back
as often as it likes and absorb errors, and ends if its callbacks do.
-/

namespace Manifest

/-! ## Steps that end -/

namespace EvalM

variable {α β : Type} {depth : Nat}

/-- Started with a number of active calls, a step has an outcome and leaves as many. -/
def EndsAt (depth : Nat) (m : EvalM α) : Prop :=
  ∀ ⦃s : State⦄, s.calls.length = depth → ∃ r t, m s = some (r, t) ∧ t.calls.length = depth

/-- A step that always has an outcome and leaves the active calls alone ends. -/
theorem endsAt_of_answers {m : EvalM α} (h : ∀ s, ∃ r t, m s = some (r, t) ∧ t.calls = s.calls) :
    EndsAt depth m := by
  intro s hs
  obtain ⟨r, t, hm, ht⟩ := h s
  exact ⟨r, t, hm, by rw [ht, hs]⟩

theorem endsAt_pure (a : α) : EndsAt depth (pure a : EvalM α) :=
  endsAt_of_answers fun s => ⟨_, s, rfl, rfl⟩

theorem endsAt_raise (e : EvalError) : EndsAt depth (raise e : EvalM α) :=
  endsAt_of_answers fun s => ⟨_, s, rfl, rfl⟩

theorem endsAt_failWith (cause : Cause) : EndsAt depth (failWith cause : EvalM α) :=
  endsAt_raise _

theorem endsAt_read (f : State → α) : EndsAt depth (read f) :=
  endsAt_of_answers fun s => ⟨_, s, rfl, rfl⟩

theorem endsAt_changeEnv (f : Environment → Environment) : EndsAt depth (changeEnv f) :=
  endsAt_of_answers fun s => ⟨_, { s with env := f s.env }, rfl, rfl⟩

theorem endsAt_record (edges : List Edge) : EndsAt depth (record edges) :=
  endsAt_of_answers fun s => ⟨_, { s with edges := s.edges ++ edges }, rfl, rfl⟩

theorem endsAt_compile (engine : RegexEngine) (source : String) :
    EndsAt depth (compile engine source) := by
  refine endsAt_of_answers fun s => ?_
  rw [compile]
  split
  · exact ⟨_, _, rfl, s.calls_notePattern source⟩
  · exact ⟨_, _, rfl, rfl⟩

/-- Two steps end if both do. -/
theorem EndsAt.bind {m : EvalM α} {f : α → EvalM β} (hm : EndsAt depth m)
    (hf : ∀ a, EndsAt depth (f a)) : EndsAt depth (m >>= f) := by
  intro s hs
  obtain ⟨r, u, hrun, hu⟩ := hm hs
  cases r with
  | error e => exact ⟨.error e, u, by rw [bind_apply, hrun], hu⟩
  | ok a =>
    rw [bind_of_ok hrun]
    exact hf a hu

theorem EndsAt.located {m : EvalM α} (hm : EndsAt depth m) (kind : String) (span : Span) :
    EndsAt depth (located kind span m) := by
  intro s hs
  obtain ⟨r, t, hrun, ht⟩ := hm hs
  rw [EvalM.located, hrun]
  cases r with
  | ok a => exact ⟨_, t, rfl, ht⟩
  | error e => exact ⟨_, t, rfl, ht⟩

theorem EndsAt.guarded {m : EvalM α} (hm : EndsAt depth m) : EndsAt depth (guarded m) := by
  intro s hs
  obtain ⟨r, t, hrun, ht⟩ := hm hs
  rw [EvalM.guarded, hrun]
  exact ⟨r, _, rfl, ht⟩

/-- A step inside a frame ends if it does so one deeper, should there be room for the frame. -/
theorem EndsAt.framed {m : EvalM α} {most : Nat} (hm : depth < most → EndsAt (depth + 1) m)
    (frame : Frame) : EndsAt depth (framed (some most) frame m) := by
  intro s hs
  rcases hp : CallStack.push? (some most) frame s.calls with e | calls
  · -- no room: the step is not taken
    refine ⟨.error e, s, ?_, hs⟩
    rw [EvalM.framed, hp]
  · obtain ⟨rfl, hroom⟩ := CallStack.push?_eq_ok hp
    have hlt : depth < most := hs ▸ hroom most rfl
    obtain ⟨r, t, hrun, ht⟩ := hm hlt (s := { s with calls := frame :: s.calls })
      (by rw [List.length_cons, hs])
    refine ⟨r.mapError (CallStack.attach t.calls), { t with calls := t.calls.tail }, ?_, ?_⟩
    · simp only [EvalM.framed, hp, hrun]
    · rw [List.length_tail, ht, Nat.add_sub_cancel]

/-- Ending has a clause for everything that evaluation is made of. -/
def endsAt (depth : Nat) : Congruence where
  Rel m _ := EndsAt depth m
  answer := endsAt_pure
  raise := endsAt_raise
  lookup _ := endsAt_read _
  captured _ := endsAt_read _
  compile := endsAt_compile
  record := endsAt_record
  set _ _ := endsAt_changeEnv _
  setCaptures _ := endsAt_changeEnv _
  bind := EndsAt.bind
  located kind span hm := hm.located kind span
  bracket _ hm := ((endsAt_changeEnv _).bind fun _ => hm).guarded

end EvalM

/-! ## Calls that end -/

namespace Evaluator

open EvalM

variable {E : Evaluator} {depth most : Nat}

/-- What a host function does ends if its callbacks do. -/
theorem runProcedure_endsAt {call : CallBack} (hcall : ∀ v args, EndsAt depth (call v args))
    (p : Procedure) : EndsAt depth (E.runProcedure call p) := by
  induction p with
  | done outcome => exact (endsAt depth).ofExcept outcome
  | lookup name next ih => exact fun s hs => ih _ hs
  | change c next ih => exact fun s hs => ih (s := { s with env := s.env.apply c }) hs
  | capture next ih => exact fun s hs => ih _ hs
  | level next ih => exact fun s hs => ih _ hs
  | log line next ih => exact fun s hs => ih (s := { s with log := s.log ++ [line] }) hs
  | readLog next ih => exact fun s hs => ih _ hs
  | call callable args next ih =>
    intro s hs
    obtain ⟨r, t, hrun, ht⟩ := hcall callable args hs
    rw [runProcedure_call, hrun]
    exact ih r ht

/-- Calling a value ends if calling closures does. -/
theorem callValueWith_endsAt {call : Closure → List Value → EvalM Value}
    (hcall : ∀ c args, EndsAt depth (call c args)) (v : Value) (args : List Value) :
    EndsAt depth (callValueWith call v args) := by
  cases v with
  | closure c => exact hcall c args
  | _ => exact endsAt_failWith _

/-- A call of a host function ends if closures that are called one deeper do, should there be room
for the function. -/
theorem invoke_endsAt (hlimit : E.callLimit = some most) {n : Nat}
    (hcall : depth < most → ∀ c args, EndsAt (depth + 1) (E.callClosure n c args)) (name : String)
    (args : List Value) (place : Span) : EndsAt depth (E.invoke n name args place) := by
  have hframed : EndsAt depth (framed E.callLimit (CallStack.functionFrame name place)
      (E.runProcedure (callValueWith (E.callClosure n)) (E.functions.procedure name args))) := by
    rw [hlimit]
    refine EndsAt.framed (fun hroom => ?_) _
    exact runProcedure_endsAt (callValueWith_endsAt (hcall hroom)) _
  exact hframed.bind fun _ => endsAt_pure _

/-- A call of a closure ends if evaluating the defaults of its parameters does, and evaluating its
body, should there be room for it. -/
theorem callWith_endsAt (hlimit : E.callLimit = some most) {eval : Expr → EvalM Value}
    (hdefaults : ∀ e, EndsAt depth (eval e))
    (hbody : depth < most → ∀ e, EndsAt (depth + 1) (eval e)) (c : Closure) (args : List Value) :
    EndsAt depth (E.callWith eval c args) := by
  have hvars : (endsAt depth).Rel (varsByPosition eval c args) (varsByPosition eval c args) :=
    varsByPosition_rel hdefaults c args
  refine EndsAt.bind hvars fun vars => ?_
  rw [enterWith, hlimit]
  refine EndsAt.framed (fun hroom => ?_) _
  exact ((endsAt_changeEnv _).bind fun _ => hbody hroom c.lambda.body).guarded

/-- Evaluating an expression ends if calling host functions does. -/
theorem evalExpr_endsAt {invoke : Invoke}
    (hcall : ∀ name args place, EndsAt depth (invoke name args place)) (e : Expr) :
    EndsAt depth (E.evalExpr invoke e) := by
  have hrel : (endsAt depth).Rel (E.evalExpr invoke e)
      ((E.under E.mode E.callLimit).evalExpr invoke e) :=
    evalExpr_rel E.lookupVariable_rel hcall e
  exact hrel

/-- Evaluation ends if its fuel is enough for the frames that there is room for. -/
theorem eval_endsAt (hlimit : E.callLimit = some most) {n : Nat} (hn : most ≤ n + depth)
    (e : Expr) : EndsAt depth (E.eval n e) := by
  induction n generalizing depth e with
  | zero =>
    -- no fuel is needed, since there is no room for the function that would call a closure
    refine evalExpr_endsAt (invoke_endsAt hlimit fun hroom => ?_) e
    omega
  | succ n ih =>
    refine evalExpr_endsAt (invoke_endsAt hlimit fun _ c args => ?_) e
    -- the function has a frame of its own, so that the fuel left is enough for the closure
    rw [callClosure_succ]
    refine callWith_endsAt hlimit (fun default => ?_) (fun _ body => ?_) c args
    · exact ih (by omega) default
    · exact ih (by omega) body

/-- **Every evaluation ends** where calls may not go deeper than a limit: in a value or in an error,
from every state, whatever closures it holds and however they reach each other. The outcome does not
depend on the fuel, as soon as it is enough for the frames that there is room for. -/
theorem evaluate_terminates (hlimit : E.callLimit = some most) (e : Expr) (s : State) :
    ∃ r t, E.evaluate e s = some (r, t) ∧
      ∀ n, most ≤ n + s.calls.length → E.eval n e s = some (r, t) := by
  have hfuel : E.fuel = most + 1 := by
    rw [fuel, hlimit]
  obtain ⟨r, t, hrun, -⟩ :=
    eval_endsAt hlimit (n := most - s.calls.length) (by omega) e (s := s) rfl
  refine ⟨r, t, ?_, fun n hn => ?_⟩
  · rw [evaluate, hfuel]
    exact eval_mono (by omega) hrun
  · exact eval_mono (by omega) hrun

/-- The program `again()`, which calls what the variable `f` holds. -/
def againCall : Expr :=
  ⟨.callNamed ⟨.qualifiedName "again", ⟨0, 5⟩⟩ [] none, ⟨0, 7⟩⟩

/-- The closure `|$x = again()| { 1 }`: without an argument it calls itself before its body. -/
def selfCalling : Closure :=
  ⟨⟨0, [⟨"x", some againCall, ⟨0, 13⟩⟩], ⟨.literal (.integer 1), ⟨16, 17⟩⟩, ⟨0, 19⟩⟩, []⟩

/-- A state in which `f` holds that closure. -/
def selfCallingState : State :=
  .initial (.ofGlobals [("f", .closure selfCalling)])

/-- What `again()` ends with there: `again` called itself until the limit of three was reached. -/
def againError : EvalError where
  cause := .recursionLimitExceeded 3
  span := some ⟨0, 7⟩
  node := some "CallNamedFunction"
  backtrace := some (List.replicate 3 (CallStack.functionFrame "again" ⟨0, 5⟩))
  notes := []

/-- The closure never gets as far as to evaluate its body, but calling it ends. -/
theorem evaluate_terminates_again :
    (Library.evaluator.under .strict (some 3)).evaluate againCall selfCallingState =
        some (.error againError, selfCallingState) ∧
      ∀ n, 3 ≤ n → (Library.evaluator.under .strict (some 3)).eval n againCall selfCallingState =
        some (.error againError, selfCallingState) := by
  have hrun : (Library.evaluator.under .strict (some 3)).evaluate againCall selfCallingState =
      some (.error againError, selfCallingState) := rfl
  obtain ⟨r, t, hends, henough⟩ := evaluate_terminates
    (E := Library.evaluator.under .strict (some 3)) rfl againCall selfCallingState
  rw [hrun] at hends
  cases hends
  exact ⟨hrun, henough⟩

end Evaluator

end Manifest
