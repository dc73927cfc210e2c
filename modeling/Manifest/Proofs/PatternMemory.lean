import Manifest.Proofs.CallLogic

/-!
# Compiled patterns are only remembered

A state remembers the patterns that have been compiled. Nothing that is evaluated can tell what it
remembers: a pattern that is compiled again is the same, and neither variables nor host functions
have access to the memory. So two runs that start in states which differ in that memory alone come
to the same, and leave states which again differ in nothing else.

* `State.forget`, `EvalM.forget` — states and steps without that memory.
* `EvalM.Agrees` — two steps agree if all that they differ in is what they remember. This is a logic
  of calls (`Evaluator.agreementCalls`).
* `Evaluator.eval_agrees` — evaluation agrees with itself, whatever is remembered.
-/

namespace Manifest

/-! ## Forgetting -/

/-- The state as if no pattern had been compiled. -/
def State.forget (s : State) : State :=
  { s with patterns := [] }

@[simp]
theorem State.forget_notePattern (s : State) (source : String) :
    (s.notePattern source).forget = s.forget := by
  rw [notePattern]
  split <;> rfl

namespace EvalM

variable {α β : Type}

/-- The step, followed by forgetting which patterns have been compiled. -/
def forget (m : EvalM α) : EvalM α := fun s =>
  (m s).map fun o => (o.1, o.2.forget)

/-- Steps that are the same but for what is remembered have the same outcomes. -/
theorem exists_of_forget_eq {m m' : EvalM α} {s t : State} {r : Except EvalError α}
    (h : m.forget s = m'.forget s) (hm : m s = some (r, t)) :
    ∃ t', m' s = some (r, t') ∧ t'.forget = t.forget := by
  rw [forget, forget, hm] at h
  obtain ⟨⟨r', t'⟩, hm', heq⟩ := Option.map_eq_some_iff.1 h.symm
  obtain ⟨rfl, hforget⟩ := Prod.mk.inj heq
  exact ⟨t', hm', hforget⟩

/-- In states that differ in what they remember alone, two steps have the same outcome and leave
such states again. -/
def Agrees (m m' : EvalM α) : Prop :=
  ∀ ⦃s s' : State⦄, s.forget = s'.forget →
    m s = none ∧ m' s' = none ∨
      ∃ r t t', m s = some (r, t) ∧ m' s' = some (r, t') ∧ t.forget = t'.forget

/-- Steps that agree are the same but for what is remembered. -/
theorem Agrees.forget_eq {m m' : EvalM α} (h : Agrees m m') (s : State) :
    m.forget s = m'.forget s := by
  rw [forget, forget]
  rcases h (rfl : s.forget = s.forget) with ⟨hs, hs'⟩ | ⟨r, t, t', hs, hs', ht⟩
  · rw [hs, hs']
  · rw [hs, hs']
    exact congrArg (fun u => some (r, u)) ht

theorem Agrees.symm {m m' : EvalM α} (h : Agrees m m') : Agrees m' m := by
  intro s s' hs
  rcases h hs.symm with ⟨hnone, hnone'⟩ | ⟨r, t, t', hrun, hrun', ht⟩
  · exact .inl ⟨hnone', hnone⟩
  · exact .inr ⟨r, t', t, hrun', hrun, ht.symm⟩

theorem Agrees.trans {m m' m'' : EvalM α} (h : Agrees m m') (h' : Agrees m' m'') :
    Agrees m m'' := by
  intro s s' hs
  rcases h hs with ⟨hnone, hnone'⟩ | ⟨r, t, t', hrun, hrun', ht⟩
  · rcases h' (rfl : s'.forget = s'.forget) with ⟨-, hnone''⟩ | ⟨r', u, u', hmid, -, -⟩
    · exact .inl ⟨hnone, hnone''⟩
    · cases hnone'.symm.trans hmid
  · rcases h' (rfl : s'.forget = s'.forget) with ⟨hmid, -⟩ | ⟨r', u, u', hmid, hrun'', hu⟩
    · cases hrun'.symm.trans hmid
    · cases hrun'.symm.trans hmid
      exact .inr ⟨r, t, u', hrun, hrun'', ht.trans hu⟩

/-! ## Steps -/

theorem agrees_raise (e : EvalError) : Agrees (raise e : EvalM α) (raise e) :=
  fun s s' h => .inr ⟨.error e, s, s', rfl, rfl, h⟩

/-- A step that reads what is there without the memory. -/
theorem agrees_read {f : State → α} (hf : ∀ s : State, f s = f s.forget) :
    Agrees (read f) (read f) := by
  intro s s' h
  have hsame : f s = f s' := by rw [hf s, h, ← hf s']
  exact .inr ⟨.ok (f s), s, s', rfl, by rw [hsame]; rfl, h⟩

/-- A step that changes what is there without the memory. -/
theorem agrees_change {f : State → State} (hf : ∀ s : State, (f s).forget = f s.forget) :
    Agrees (change f) (change f) :=
  fun s s' h => .inr ⟨.ok (), f s, f s', rfl, rfl, by rw [hf s, h, ← hf s']⟩

theorem agrees_changeEnv (f : Environment → Environment) :
    Agrees (changeEnv f) (changeEnv f) :=
  agrees_change fun _ => rfl

/-- A pattern that can be compiled is there, be it remembered or not. -/
theorem agrees_compile_pure {engine : RegexEngine} {source : String} {r : Regex}
    (h : Regex.ofSource source = .ok r) : Agrees (compile engine source) (pure r) := by
  intro s s' hs
  refine .inr ⟨.ok r, s.notePattern source, s', by rw [compile, h], rfl, ?_⟩
  rw [State.forget_notePattern, hs]

theorem agrees_compile (engine : RegexEngine) (source : String) :
    Agrees (compile engine source) (compile engine source) := by
  cases h : Regex.ofSource source with
  | ok r => exact (agrees_compile_pure h).trans (agrees_compile_pure h).symm
  | error cause =>
    intro s s' hs
    exact .inr ⟨_, s, s', by rw [compile, h], by rw [compile, h], hs⟩

theorem Agrees.bind {m m' : EvalM α} {f f' : α → EvalM β} (hm : Agrees m m')
    (hf : ∀ a, Agrees (f a) (f' a)) : Agrees (m >>= f) (m' >>= f') := by
  intro s s' h
  rcases hm h with ⟨hs, hs'⟩ | ⟨r, t, t', hs, hs', ht⟩
  · exact .inl ⟨by rw [bind_apply, hs], by rw [bind_apply, hs']⟩
  · cases r with
    | error e => exact .inr ⟨.error e, t, t', by rw [bind_apply, hs], by rw [bind_apply, hs'], ht⟩
    | ok a =>
      rw [bind_of_ok hs, bind_of_ok hs']
      exact hf a ht

theorem Agrees.attempt {m m' : EvalM α} {next next' : Except EvalError α → EvalM β}
    (hm : Agrees m m') (hnext : ∀ r, Agrees (next r) (next' r)) :
    Agrees (attempt m next) (attempt m' next') := by
  intro s s' h
  rcases hm h with ⟨hs, hs'⟩ | ⟨r, t, t', hs, hs', ht⟩
  · exact .inl ⟨by rw [EvalM.attempt, hs], by rw [EvalM.attempt, hs']⟩
  · have hrest := hnext r ht
    rwa [EvalM.attempt, EvalM.attempt, hs, hs']

theorem Agrees.located {m m' : EvalM α} (hm : Agrees m m') (kind : String) (span : Span) :
    Agrees (located kind span m) (located kind span m') := by
  intro s s' h
  rw [EvalM.located, EvalM.located]
  rcases hm h with ⟨hs, hs'⟩ | ⟨r, t, t', hs, hs', ht⟩
  · exact .inl ⟨by rw [hs], by rw [hs']⟩
  · rw [hs, hs']
    cases r with
    | ok a => exact .inr ⟨_, t, t', rfl, rfl, ht⟩
    | error e => exact .inr ⟨_, t, t', rfl, rfl, ht⟩

/-- The level is there without the memory, and so is what restoring it leaves. -/
theorem Agrees.guarded {m m' : EvalM α} (hm : Agrees m m') :
    Agrees (guarded m) (guarded m') := by
  intro s s' h
  have hlevel : s.env.level = s'.env.level := congrArg (·.env.level) h
  rw [EvalM.guarded, EvalM.guarded, hlevel]
  rcases hm h with ⟨hs, hs'⟩ | ⟨r, t, t', hs, hs', ht⟩
  · exact .inl ⟨by rw [hs], by rw [hs']⟩
  · rw [hs, hs']
    exact .inr ⟨r, _, _, rfl, rfl,
      congrArg (fun t : State => { t with env := t.env.restore s'.env.level }) ht⟩

theorem Agrees.framed {m m' : EvalM α} (hm : Agrees m m') (limit : Option Nat) (frame : Frame) :
    Agrees (framed limit frame m) (framed limit frame m') := by
  intro s s' h
  have hcalls : s.calls = s'.calls := congrArg (·.calls) h
  rw [EvalM.framed, EvalM.framed, hcalls]
  cases hp : CallStack.push? limit frame s'.calls with
  | error e => exact .inr ⟨.error e, s, s', rfl, rfl, h⟩
  | ok calls =>
    have hin : ({ s with calls := calls } : State).forget =
        ({ s' with calls := calls } : State).forget :=
      congrArg (fun t : State => { t with calls := calls }) h
    rcases hm hin with ⟨hs, hs'⟩ | ⟨r, t, t', hs, hs', ht⟩
    · exact .inl ⟨by simp only [hs], by simp only [hs']⟩
    · have hframes : t.calls = t'.calls := congrArg (·.calls) ht
      refine .inr ⟨r.mapError (CallStack.attach t'.calls), { t with calls := t'.calls.tail },
        { t' with calls := t'.calls.tail }, by simp only [hs, hframes], by simp only [hs'], ?_⟩
      exact congrArg (fun u : State => { u with calls := t'.calls.tail }) ht

theorem Agrees.ite {m m' n n' : EvalM α} (c : Prop) [Decidable c] (hm : Agrees m m')
    (hn : Agrees n n') : Agrees (if c then m else n) (if c then m' else n') := by
  split
  · exact hm
  · exact hn

/-- Agreement is a logic of steps. -/
def agreement : StepLogic .all where
  Rel := Agrees
  answer _ := agrees_read fun _ => rfl
  raise _ := agrees_raise _
  lookup _ := agrees_read fun _ => rfl
  captured _ := agrees_read fun _ => rfl
  compile := agrees_compile
  record _ := agrees_change fun _ => rfl
  set _ _ _ := agrees_changeEnv _
  setCaptures _ := agrees_changeEnv _
  bind hm hf := hm.bind fun a => hf a (NodeSet.owns_all a)
  located _ hm := hm.located _ _
  bracket _ _ hm := ((agrees_changeEnv _).bind fun _ => hm).guarded

end EvalM

/-! ## Evaluation -/

namespace Evaluator

open EvalM

/-- Of host functions nothing is asked. -/
theorem uses_anything (E : Evaluator) : E.functions.Uses fun _ => True :=
  FunctionTable.uses_of_forall fun _ => trivial

theorem keeps_anything (E : Evaluator) (_ : Unit) (name : String) {args : List Value}
    (_ : NodeSet.all.Owns args) :
    (E.functions.procedure name args).KeepsOrdered NodeSet.all.Owns fun _ => True :=
  (Procedure.keeps_of_forall NodeSet.owns_all (fun _ => trivial) _).ordered

/-- Agreement is a logic of calls, whatever host functions do. -/
def agreementCalls (E : Evaluator) : CallLogic E .all Unit where
  steps _ := agreement
  enter _ i := i
  errors _ _ := True
  allows _ := True
  outOfFuel _ _ _ _ := .inl ⟨rfl, rfl⟩
  raise _ := agrees_raise _
  attempt hm hnext := hm.attempt fun r => hnext r (NodeSet.answers_all r)
  change _ _ := agrees_changeEnv _
  level _ := agrees_read fun _ => rfl
  log _ _ := agrees_change fun _ => rfl
  readLog _ := agrees_read fun _ => rfl
  framed frame hm := hm.framed E.callLimit frame
  uses := E.uses_anything
  keeps := E.keeps_anything

section

variable (E : Evaluator) (n : Nat)

/-- What an expression comes to does not depend on the patterns that have been compiled. -/
theorem eval_agrees (e : Expr) : Agrees (E.eval n e) (E.eval n e) :=
  E.agreementCalls.rel_eval n () (NodeSet.mem_all e)

theorem invoke_agrees (name : String) (args : List Value) (place : Span) :
    Agrees (E.invoke n name args place) (E.invoke n name args place) :=
  CallLogic.rel_invoke_of (fun i => E.agreementCalls.rel_callClosure n i) () name place
    (NodeSet.owns_all args)

theorem selects_agrees (subject pattern : Value) :
    Agrees (E.selects subject pattern) (E.selects subject pattern) :=
  agreement.region.rel_selects E E.mode E.callLimit subject pattern

theorem selectsAny_agrees (subject : Value) (patterns : List Value) :
    Agrees (E.selectsAny subject patterns) (E.selectsAny subject patterns) :=
  agreement.region.rel_selectsAny E E.mode E.callLimit subject patterns

end

section

variable {E : Evaluator} {n : Nat}

/-- A candidate is tried in the same way, whatever is remembered. -/
theorem evalCandidate_agrees (subject : Value) (e : Expr) :
    Agrees (E.evalCandidate (E.invoke n) subject e) (E.evalCandidate (E.invoke n) subject e) := by
  have hrel : Agrees (E.evalCandidate (E.invoke n) subject e)
      ((E.under E.mode E.callLimit).evalCandidate (E.invoke n) subject e) :=
    RegionLogic.rel_evalCandidate (L := agreement.region) (agreement.rel_lookupVariable E)
      (fun _ name args place _ => E.invoke_agrees n name args place) subject (NodeSet.mem_all e)
  exact hrel

theorem evalCandidates_agrees (subject : Value) (candidates : List Expr) :
    Agrees (E.evalCandidates (E.invoke n) subject candidates)
      (E.evalCandidates (E.invoke n) subject candidates) := by
  have hrel : Agrees (E.evalCandidates (E.invoke n) subject candidates)
      ((E.under E.mode E.callLimit).evalCandidates (E.invoke n) subject candidates) :=
    RegionLogic.rel_evalCandidates (L := agreement.region) (agreement.rel_lookupVariable E)
      (fun _ name args place _ => E.invoke_agrees n name args place) subject
      fun e _ => NodeSet.mem_all e
  exact hrel

/-- And so are options, as far as what they fall back on agrees. -/
theorem evalOptions_agrees (subject : Value) (options : List CaseOption)
    {fallback fallback' : EvalM Value} (h : Agrees fallback fallback') :
    Agrees (E.evalOptions (E.invoke n) subject options fallback)
      (E.evalOptions (E.invoke n) subject options fallback') := by
  have hrel : Agrees (E.evalOptions (E.invoke n) subject options fallback)
      ((E.under E.mode E.callLimit).evalOptions (E.invoke n) subject options fallback') :=
    agreement.rel_evalOptions (agreement.rel_lookupVariable E)
      (fun name args place _ => E.invoke_agrees n name args place) subject
      (fun e _ => NodeSet.mem_all e) h
  exact hrel

end

end Evaluator

end Manifest
