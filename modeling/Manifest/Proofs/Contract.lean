import Manifest.Proofs.CallLogic

/-!
# Contracts

A *contract* is about single runs within a set of expressions: it says what holds of every state,
and which errors a step may end with. A step meets it (`Contract.Meets`) if it keeps what holds of
states, its values have no closures but those of the set, and its errors are such errors.

Meeting a contract is a logic of steps (`Contract.logic`). Contracts for all that there may be to
know of the active calls make a logic of calls (`Contract.calls`), if frames lead from one to the
other.
-/

namespace Manifest

/-- What holds of every state, and the errors that a step may end with. -/
structure Contract (N : NodeSet) where
  /-- what holds of every state -/
  holds : State → Prop
  /-- the errors that a step may end with -/
  errors : EvalError → Prop
  own : ∀ {e}, e.IsOwn N → errors e
  withNode : ∀ {x e}, N.Mem x → errors e → errors (e.withNode x.kind x.span)
  get? : ∀ {s}, holds s → ∀ name, N.Owns (s.env.get? name)
  capture : ∀ {s}, holds s → N.Owns s.env.capture
  note : ∀ {s}, holds s → ∀ source, holds (s.notePattern source)
  record : ∀ {s}, holds s → ∀ edges, holds { s with edges := s.edges ++ edges }
  log : ∀ {s}, holds s → ∀ line, holds { s with log := s.log ++ [line] }
  change : ∀ {s}, holds s → ∀ {c : Environment.Change}, N.Owns c.values →
    holds { s with env := s.env.apply c }

namespace Contract

open EvalM NodeSet

variable {N : NodeSet} {α β : Type} [Carrier α] [Carrier β]

/-- Whenever a step ends, it has kept the contract. -/
def Meets (K : Contract N) (m : EvalM α) : Prop :=
  ∀ ⦃s r t⦄, K.holds s → m s = some (r, t) → K.holds t ∧ N.Answers K.errors r

variable (K : Contract N)

/-! ## Elementary steps -/

theorem meets_pure {a : α} (ha : N.Owns a) : K.Meets (pure a) := by
  rintro s r t hs h
  cases h
  exact ⟨hs, ha⟩

theorem meets_raise {e : EvalError} (he : K.errors e) : K.Meets (raise e : EvalM α) := by
  rintro s r t hs h
  cases h
  exact ⟨hs, he⟩

theorem meets_read {f : State → α} (hf : ∀ {s}, K.holds s → N.Owns (f s)) : K.Meets (read f) := by
  rintro s r t hs h
  cases h
  exact ⟨hs, hf hs⟩

theorem meets_change {f : State → State} (hf : ∀ {s}, K.holds s → K.holds (f s)) :
    K.Meets (EvalM.change f) := by
  rintro s r t hs h
  cases h
  exact ⟨hf hs, trivial⟩

theorem meets_compile (engine : RegexEngine) (source : String) :
    K.Meets (compile engine source) := by
  rintro s r t hs h
  rw [compile] at h
  split at h <;> cases h
  · exact ⟨K.note hs source, trivial⟩
  · exact ⟨hs, K.own (isOwn_of_noOperands rfl rfl)⟩

theorem meets_captured (E : Evaluator) : K.Meets E.captured := by
  refine K.meets_read fun hs => ?_
  rw [Evaluator.capturedIn]
  split
  · exact K.capture hs
  · exact owns_nil

variable {K}

/-! ## Sequences and brackets -/

theorem Meets.bind {m : EvalM α} {f : α → EvalM β} (hm : K.Meets m)
    (hf : ∀ a, N.Owns a → K.Meets (f a)) : K.Meets (m >>= f) := by
  intro s r t hs h
  rcases bind_eq_some h with ⟨e, herror, rfl⟩ | ⟨a, u, hok, hrest⟩
  · exact hm hs herror
  · obtain ⟨hu, ha⟩ := hm hs hok
    exact hf a ha hu hrest

theorem Meets.attempt {m : EvalM α} {next : Except EvalError α → EvalM β} (hm : K.Meets m)
    (hnext : ∀ r, N.Answers K.errors r → K.Meets (next r)) : K.Meets (attempt m next) := by
  intro s r t hs h
  rw [EvalM.attempt] at h
  rcases hrun : m s with _ | ⟨r', u⟩ <;> rw [hrun] at h
  · cases h
  · obtain ⟨hu, hr⟩ := hm hs hrun
    exact hnext r' hr hu h

theorem Meets.located {m : EvalM α} {e : Expr} (he : N.Mem e) (hm : K.Meets m) :
    K.Meets (located e.kind e.span m) := by
  intro s r t hs h
  obtain ⟨r', hrun, rfl⟩ := located_eq_some h
  obtain ⟨ht, hr⟩ := hm hs hrun
  refine ⟨ht, ?_⟩
  cases r' with
  | ok a => exact hr
  | error err => exact K.withNode he hr

/-- A layer that is opened and dropped again changes the scope like anyone may. -/
theorem Meets.bracket {m : EvalM α} {l : Layer} (hl : l.captures? = none) (hvars : N.Owns l.vars?)
    (hm : K.Meets m) : K.Meets (guarded (changeEnv (·.push l) >>= fun _ => m)) := by
  intro s r t hs h
  obtain ⟨u, hrun, rfl⟩ := guarded_eq_some h
  have hopen : K.holds { s with env := s.env.push l } := by
    cases l with
    | locals vars =>
      refine K.change hs (c := .openLocals vars) fun v hv => ?_
      obtain ⟨b, hb, rfl⟩ := List.mem_map.1 hv
      exact (hvars vars rfl b hb).2
    | captures m => cases hl
    | fence => exact K.change hs (c := .openFence) owns_nil
  obtain ⟨hu, hr⟩ := hm hopen hrun
  exact ⟨K.change hu (c := .restore s.env.level) owns_nil, hr⟩

/-- A frame is added and dropped again, if nothing is said of the active calls. -/
theorem Meets.framed {limit : Option Nat} {m : EvalM Value} (frame : Frame)
    (hcalls : ∀ {s} calls, K.holds s → K.holds { s with calls := calls })
    (hlimit : ∀ most, K.errors (.ofCause (.recursionLimitExceeded most)))
    (hattach : ∀ {e} calls, K.errors e → K.errors (CallStack.attach calls e)) (hm : K.Meets m) :
    K.Meets (framed limit frame m) := by
  intro s r t hs h
  rcases framed_eq_some h with ⟨e, hp, rfl, rfl⟩ | ⟨r', u, -, hrun, rfl, rfl⟩
  · obtain ⟨most, -, rfl⟩ := CallStack.push?_eq_error hp
    exact ⟨hs, hlimit most⟩
  · obtain ⟨hu, hr⟩ := hm (hcalls (frame :: s.calls) hs) hrun
    refine ⟨hcalls u.calls.tail hu, ?_⟩
    cases r' with
    | ok v => exact hr
    | error e => exact hattach u.calls hr

/-! ## Logics -/

/-- Meeting a contract is a logic of steps. -/
def logic (K : Contract N) : StepLogic N where
  Rel m _ := K.Meets m
  answer := K.meets_pure
  raise he := K.meets_raise (K.own he)
  lookup name := K.meets_read fun hs => K.get? hs name
  captured := K.meets_captured
  compile := K.meets_compile
  record edges := K.meets_change fun hs => K.record hs edges
  set name value hv := K.meets_change fun hs =>
    K.change hs (c := .set name value) (owns_singleton.2 hv)
  setCaptures m := K.meets_change fun hs => K.change hs (c := .setCaptures m) owns_nil
  bind := Meets.bind
  located := Meets.located
  bracket := Meets.bracket

/-- Contracts for all that there may be to know of the active calls make a logic of calls, if they
are kept by frames and by host functions. -/
def calls {E : Evaluator} {ι : Type} (K : ι → Contract N) (enter : Frame → ι → ι)
    (hframed : ∀ {i} {m : EvalM Value} (frame : Frame), (K (enter frame i)).Meets m →
      (K i).Meets (framed E.callLimit frame m))
    (hkeeps : ∀ i name {args : List Value}, N.Owns args →
      (E.functions.procedure name args).KeepsOrdered N.Owns (K i).errors) : CallLogic E N ι where
  steps i := (K i).logic
  enter := enter
  errors i := (K i).errors
  allows _ := True
  outOfFuel _ _ _ _ _ h := nomatch h
  raise := (K _).meets_raise
  attempt := Meets.attempt
  change _ hvalues := (K _).meets_change fun hs => (K _).change hs hvalues
  level _ := (K _).meets_read fun _ => trivial
  log i line := (K i).meets_change fun hs => (K i).log hs line
  readLog _ := (K _).meets_read fun _ _ _ => trivial
  framed := hframed
  uses := FunctionTable.uses_of_forall fun _ => trivial
  keeps := hkeeps

end Contract

end Manifest
