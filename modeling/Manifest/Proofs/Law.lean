import Manifest.Evaluator.Run

/-!
# Laws of evaluation

A *law* says how the state after a step relates to the state before it. It has to hold of every
elementary step (a pattern that is compiled, an edge, a line of the log, a binding, a capture) and
of the two brackets that evaluation is made of: a layer that is opened and dropped again, and a
frame that is pushed and popped again.

* `EvalM.Refines L m m'` — every run of `m` obeys the law `L`, and `m'` runs the same way, unless
  the run ends with an error that the law excuses. With `m' = m` this is the law for `m` alone.
* `EvalM.Refines.bind`, `.located`, `.bracket`, `.framed` — refinement of what steps are made of.

The induction over expressions is in `Manifest.Proofs.Lawful`.
-/

namespace Manifest

/-! ## Inversion -/

namespace EvalM

variable {α β : Type}

/-- Inversion for `bind`: either the first step failed, or the second one ran after it. -/
theorem bind_eq_some {m : EvalM α} {f : α → EvalM β} {s t : State} {r : Except EvalError β}
    (h : (m >>= f) s = some (r, t)) :
    (∃ e, m s = some (.error e, t) ∧ r = .error e) ∨
      ∃ a u, m s = some (.ok a, u) ∧ f a u = some (r, t) := by
  rw [bind_apply] at h
  rcases hm : m s with _ | ⟨_ | _, u⟩ <;> rw [hm] at h
  · cases h
  · cases h
    exact .inl ⟨_, rfl, rfl⟩
  · exact .inr ⟨_, u, rfl, h⟩

/-- What comes after a step that succeeded. -/
theorem bind_of_ok {m : EvalM α} {a : α} {s u : State} (h : m s = some (.ok a, u))
    (f : α → EvalM β) : (m >>= f) s = f a u := by
  rw [bind_apply, h]

/-- Inversion for `bind` that succeeds: both steps did. -/
theorem bind_eq_ok {m : EvalM α} {f : α → EvalM β} {s t : State} {b : β} :
    (m >>= f) s = some (.ok b, t) ↔ ∃ a u, m s = some (.ok a, u) ∧ f a u = some (.ok b, t) := by
  refine ⟨fun h => ?_, fun ⟨a, u, hm, hf⟩ => ?_⟩
  · rcases bind_eq_some h with ⟨e, -, he⟩ | hboth
    · cases he
    · exact hboth
  · rw [bind_of_ok hm, hf]

/-- Two steps have an outcome if the first one has one and the second one has one after it. -/
theorem isSome_bind {m : EvalM α} {f : α → EvalM β} {s : State} (hm : (m s).isSome = true)
    (hf : ∀ a u, m s = some (.ok a, u) → (f a u).isSome = true) :
    ((m >>= f) s).isSome = true := by
  rw [bind_apply]
  rcases hs : m s with _ | ⟨_ | a, u⟩
  · rw [hs] at hm
    cases hm
  · rfl
  · exact hf a u hs

/-- Inversion for `located`: the place is all that it adds. -/
theorem located_eq_some {kind : String} {span : Span} {m : EvalM α} {s t : State}
    {r : Except EvalError α} (h : located kind span m s = some (r, t)) :
    ∃ r', m s = some (r', t) ∧ r = r'.mapError (·.withNode kind span) := by
  rw [located] at h
  rcases hm : m s with _ | ⟨_ | _, u⟩ <;> rw [hm] at h <;> cases h
  · exact ⟨_, rfl, rfl⟩
  · exact ⟨_, rfl, rfl⟩

/-- A value needs no place. -/
theorem located_eq_ok {kind : String} {span : Span} {m : EvalM α} {s t : State} {a : α} :
    located kind span m s = some (.ok a, t) ↔ m s = some (.ok a, t) := by
  refine ⟨fun h => ?_, fun h => by rw [located, h]⟩
  obtain ⟨r, hm, hr⟩ := located_eq_some h
  cases r with
  | error e => cases hr
  | ok b =>
    cases hr
    exact hm

/-- An error with a place has the cause that it had without. -/
theorem located_eq_error {kind : String} {span : Span} {m : EvalM α} {s t : State} {e : EvalError}
    (h : located kind span m s = some (.error e, t)) :
    ∃ e', m s = some (.error e', t) ∧ e.cause = e'.cause := by
  obtain ⟨r, hm, hr⟩ := located_eq_some h
  cases r with
  | ok a => cases hr
  | error e' =>
    cases hr
    exact ⟨e', hm, EvalError.cause_withNode _ _ _⟩

/-- A step with a place has an outcome if the step does. -/
theorem isSome_located {kind : String} {span : Span} {m : EvalM α} {s : State} :
    (located kind span m s).isSome = (m s).isSome := by
  rw [located]
  rcases m s with _ | ⟨_ | _, _⟩ <;> rfl

/-- An error gets a place. -/
theorem located_of_error {m : EvalM α} {e : EvalError} {s t : State}
    (h : m s = some (.error e, t)) (kind : String) (span : Span) :
    located kind span m s = some (.error (e.withNode kind span), t) := by
  rw [located, h]

/-- A value that was at hand. -/
theorem ofExcept_eq_ok {x : Except EvalError α} {s t : State} {a : α} :
    ofExcept x s = some (.ok a, t) ↔ x = .ok a ∧ t = s := by
  refine ⟨fun h => ?_, fun ⟨hx, ht⟩ => by rw [hx, ht]; rfl⟩
  cases x <;> cases h
  exact ⟨rfl, rfl⟩

/-- What comes after a value that was at hand. -/
theorem ofExcept_bind_eq_ok {x : Except EvalError α} {f : α → EvalM β} {s t : State} {b : β} :
    (ofExcept x >>= f) s = some (.ok b, t) ↔ ∃ a, x = .ok a ∧ f a s = some (.ok b, t) := by
  rw [bind_eq_ok]
  constructor
  · rintro ⟨a, u, hfirst, hf⟩
    obtain ⟨hx, rfl⟩ := ofExcept_eq_ok.1 hfirst
    exact ⟨a, hx, hf⟩
  · rintro ⟨a, hx, hf⟩
    exact ⟨a, s, ofExcept_eq_ok.2 ⟨hx, rfl⟩, hf⟩

/-- An error that was at hand, or one of what comes after a value. -/
theorem ofExcept_bind_eq_error {x : Except EvalError α} {f : α → EvalM β} {s t : State}
    {e : EvalError} (h : (ofExcept x >>= f) s = some (.error e, t)) :
    (x = .error e ∧ t = s) ∨ ∃ a, x = .ok a ∧ f a s = some (.error e, t) := by
  cases x with
  | error err =>
    cases h
    exact .inl ⟨rfl, rfl⟩
  | ok a => exact .inr ⟨a, rfl, h⟩

/-- What is at hand is an outcome. -/
theorem isSome_ofExcept (x : Except EvalError α) (s : State) : (ofExcept x s).isSome = true := by
  cases x <;> rfl

/-- Inversion for `guarded`: the step ran, and the level was restored. -/
theorem guarded_eq_some {m : EvalM α} {s t : State} {r : Except EvalError α}
    (h : guarded m s = some (r, t)) :
    ∃ u, m s = some (r, u) ∧ t = { u with env := u.env.restore s.env.level } := by
  rw [guarded] at h
  rcases hm : m s with _ | ⟨r', u⟩ <;> rw [hm] at h <;> cases h
  exact ⟨u, rfl, rfl⟩

end EvalM

/-- The state in which a choice begins: above a fence of its own. -/
def State.fenced (s : State) : State :=
  { s with env := s.env.openFence }

/-- A choice is what it comes to above its fence, once the level is restored. -/
theorem EvalM.choice_of_fenced {α : Type} {m : EvalM α} {s t : State} {r : Except EvalError α}
    (h : m s.fenced = some (r, t)) :
    guarded (changeEnv (·.openFence) >>= fun _ => m) s =
      some (r, { t with env := t.env.restore s.env.level }) := by
  have hbody : (changeEnv (·.openFence) >>= fun _ => m) s = some (r, t) := h
  rw [guarded, hbody]

namespace CallStack

/-- A frame is added at most once, on top, and only where the limit leaves room for it. -/
theorem push?_eq_ok {limit : Option Nat} {frame : Frame} {calls after : CallStack}
    (h : push? limit frame calls = .ok after) :
    after = frame :: calls ∧ ∀ most ∈ limit, calls.length < most := by
  cases limit with
  | none =>
    cases h
    exact ⟨rfl, fun most hmost => by cases hmost⟩
  | some most =>
    rw [push?] at h
    split at h <;> cases h
    next hroom =>
      refine ⟨rfl, fun most' hmost => ?_⟩
      cases hmost
      exact Nat.lt_of_not_le hroom

/-- A frame is added wherever the limit leaves room for it. -/
theorem push?_of_room {limit : Option Nat} {calls : CallStack}
    (h : ∀ most ∈ limit, calls.length < most) (frame : Frame) :
    push? limit frame calls = .ok (frame :: calls) := by
  cases limit with
  | none => rfl
  | some most => exact if_neg (Nat.not_le.2 (h most rfl))

/-- A frame is refused only because of the limit. -/
theorem push?_eq_error {limit : Option Nat} {frame : Frame} {calls : CallStack} {e : EvalError}
    (h : push? limit frame calls = .error e) :
    ∃ most ∈ limit, e = .ofCause (.recursionLimitExceeded most) := by
  cases limit with
  | none => cases h
  | some most =>
    rw [push?] at h
    split at h <;> cases h
    exact ⟨most, rfl, rfl⟩

/-- A limit that has been reached leaves no room for a frame. -/
theorem push?_of_full {limit : Option Nat} {most : Nat} {calls : CallStack}
    (hlimit : most ∈ limit) (hfull : most ≤ calls.length) (frame : Frame) :
    push? limit frame calls = fault (.recursionLimitExceeded most) := by
  rw [Option.mem_def.1 hlimit]
  exact if_pos hfull

end CallStack

/-- Where there is no room for a frame, what it is for is not started. -/
theorem EvalM.framed_of_full {α : Type} {limit : Option Nat} {most : Nat} (frame : Frame)
    (m : EvalM α) {s : State} (hlimit : most ∈ limit) (hfull : most ≤ s.calls.length) :
    framed limit frame m s = some (.error (.ofCause (.recursionLimitExceeded most)), s) := by
  rw [framed, CallStack.push?_of_full hlimit hfull]
  rfl

/-- Inversion for `framed`: either the frame was refused and nothing happened, or the step ran below
it and the frame was dropped. -/
theorem EvalM.framed_eq_some {α : Type} {limit : Option Nat} {frame : Frame} {m : EvalM α}
    {s t : State} {r : Except EvalError α} (h : framed limit frame m s = some (r, t)) :
    (∃ e, CallStack.push? limit frame s.calls = .error e ∧ r = .error e ∧ t = s) ∨
      ∃ r' u, CallStack.push? limit frame s.calls = .ok (frame :: s.calls) ∧
        m { s with calls := frame :: s.calls } = some (r', u) ∧
        r = r'.mapError (CallStack.attach u.calls) ∧ t = { u with calls := u.calls.tail } := by
  rw [framed] at h
  rcases hp : CallStack.push? limit frame s.calls with e | calls <;> rw [hp] at h
  · cases h
    exact .inl ⟨e, rfl, rfl, rfl⟩
  · obtain ⟨rfl, -⟩ := CallStack.push?_eq_ok hp
    dsimp only at h
    rcases hm : m { s with calls := frame :: s.calls } with _ | ⟨r', u⟩ <;> rw [hm] at h <;> cases h
    exact .inr ⟨r', u, rfl, rfl, rfl, rfl⟩

/-! ## Laws -/

/-- What evaluation has to keep to. -/
structure Law where
  /-- what host functions may do to the scope -/
  allows : Environment.Change → Prop
  /-- the errors that a second run need not share -/
  excuses : Cause → Prop
  /-- how the state after a step relates to the state before it -/
  rel : State → State → Prop
  refl : ∀ s, rel s s
  trans : ∀ {s t u}, rel s t → rel t u → rel s u
  note : ∀ s source, rel s (s.notePattern source)
  record : ∀ s edges, rel s { s with edges := s.edges ++ edges }
  log : ∀ s line, rel s { s with log := s.log ++ [line] }
  set : ∀ s name value, rel s { s with env := s.env.set name value }
  setCaptures : ∀ s m, rel s { s with env := s.env.setCaptures m }
  change : ∀ s c, allows c → rel s { s with env := s.env.apply c }
  /-- a layer that is no captures is opened and dropped again -/
  layer : ∀ {s t l}, l.captures? = none → rel { s with env := s.env.push l } t →
    rel s { t with env := t.env.restore s.env.level }
  /-- a frame is pushed and popped again -/
  frame : ∀ {s t frame}, rel { s with calls := frame :: s.calls } t →
    rel s { t with calls := t.calls.tail }

namespace EvalM

variable {α β : Type} {L : Law}

/-- Every run of a step obeys a law. -/
def Obeys (L : Law) (m : EvalM α) : Prop :=
  ∀ ⦃s r t⦄, m s = some (r, t) → L.rel s t

/-- Every run of the first step obeys a law, and the second step runs the same way, unless the
law excuses the error that the run ends with. -/
def Refines (L : Law) (m m' : EvalM α) : Prop :=
  ∀ ⦃s r t⦄, m s = some (r, t) →
    L.rel s t ∧ (m' s = some (r, t) ∨ ∃ e, r = .error e ∧ L.excuses e.cause)

/-- A step that obeys a law refines itself. -/
theorem Obeys.refines {m : EvalM α} (h : Obeys L m) : Refines L m m :=
  fun _ _ _ hs => ⟨h hs, .inl hs⟩

/-- A step that refines another one obeys the law. -/
theorem Refines.obeys {m m' : EvalM α} (h : Refines L m m') : Obeys L m :=
  fun _ _ _ hs => (h hs).1

/-! ### Small steps -/

/-- A step that leaves the state alone obeys every law. -/
theorem obeys_of_still {m : EvalM α} (h : ∀ {s r t}, m s = some (r, t) → t = s) : Obeys L m := by
  intro s r t hs
  obtain rfl := h hs
  exact L.refl t

theorem refines_pure (a : α) : Refines L (pure a) (pure a) :=
  (obeys_of_still fun h => by cases h; rfl).refines

theorem refines_raise (e : EvalError) : Refines L (raise e : EvalM α) (raise e) :=
  (obeys_of_still fun h => by cases h; rfl).refines

theorem refines_failWith (cause : Cause) : Refines L (failWith cause : EvalM α) (failWith cause) :=
  refines_raise _

theorem refines_ofExcept (x : Except EvalError α) : Refines L (ofExcept x) (ofExcept x) := by
  cases x with
  | ok a => exact refines_pure a
  | error e => exact refines_raise e

theorem refines_read (f : State → α) : Refines L (read f) (read f) :=
  (obeys_of_still fun h => by cases h; rfl).refines

theorem refines_compile (engine : RegexEngine) (source : String) :
    Refines L (compile engine source) (compile engine source) := by
  refine Obeys.refines fun s r t h => ?_
  rw [compile] at h
  split at h <;> cases h
  · exact L.note s source
  · exact L.refl _

theorem refines_record (edges : List Edge) : Refines L (record edges) (record edges) :=
  Obeys.refines fun s _ _ h => by cases h; exact L.record s edges

theorem refines_set (name : String) (value : Value) :
    Refines L (changeEnv (·.set name value)) (changeEnv (·.set name value)) :=
  Obeys.refines fun s _ _ h => by cases h; exact L.set s name value

theorem refines_setCaptures (m : Option Captures) :
    Refines L (changeEnv (·.setCaptures m)) (changeEnv (·.setCaptures m)) :=
  Obeys.refines fun s _ _ h => by cases h; exact L.setCaptures s m

/-! ### Sequences and brackets -/

/-- What comes after a step refines if both halves do. -/
theorem Refines.bind {m m' : EvalM α} {f f' : α → EvalM β} (hm : Refines L m m')
    (hf : ∀ a, Refines L (f a) (f' a)) : Refines L (m >>= f) (m' >>= f') := by
  intro s r t h
  rcases bind_eq_some h with ⟨e, hs, rfl⟩ | ⟨a, u, hs, ht⟩
  · -- the first half failed, and the second one was not reached
    obtain ⟨hrel, hsame | ⟨e', he, hexc⟩⟩ := hm hs
    · exact ⟨hrel, .inl (by rw [bind_apply, hsame])⟩
    · cases he
      exact ⟨hrel, .inr ⟨e, rfl, hexc⟩⟩
  · -- the first half succeeded, so that no error of it can have been excused
    obtain ⟨hrel, hsame | ⟨e, he, -⟩⟩ := hm hs
    · obtain ⟨hrel', hsame' | hexc⟩ := hf a ht
      · exact ⟨L.trans hrel hrel', .inl (by rw [bind_apply, hsame]; exact hsame')⟩
      · exact ⟨L.trans hrel hrel', .inr hexc⟩
    · cases he

/-- A choice refines if both branches do. -/
theorem Refines.ite {m m' n n' : EvalM α} (c : Prop) [Decidable c] (hm : Refines L m m')
    (hn : Refines L n n') : Refines L (if c then m else n) (if c then m' else n') := by
  split
  · exact hm
  · exact hn

/-- Attaching a place changes neither the state nor the cause of an error. -/
theorem Refines.located {m m' : EvalM α} (hm : Refines L m m') (kind : String) (span : Span) :
    Refines L (located kind span m) (located kind span m') := by
  intro s r t h
  obtain ⟨r', hs, rfl⟩ := located_eq_some h
  obtain ⟨hrel, hsame | ⟨e, rfl, hexc⟩⟩ := hm hs
  · refine ⟨hrel, .inl ?_⟩
    rw [← h, EvalM.located, EvalM.located, hs, hsame]
  · exact ⟨hrel, .inr ⟨_, rfl, by rwa [EvalError.cause_withNode]⟩⟩

/-- A bracket: a layer is opened and, after the step, dropped again. -/
theorem Refines.bracket {m m' : EvalM α} (hm : Refines L m m') {l : Layer}
    (hl : l.captures? = none) :
    Refines L (guarded (changeEnv (·.push l) >>= fun _ => m))
      (guarded (changeEnv (·.push l) >>= fun _ => m')) := by
  intro s r t h
  obtain ⟨u, hs, rfl⟩ := guarded_eq_some h
  -- `u` is where the step ended, before the level was restored
  have hin : m { s with env := s.env.push l } = some (r, u) := hs
  obtain ⟨hrel, hsame | hexc⟩ := hm hin
  · refine ⟨L.layer hl hrel, .inl ?_⟩
    have hs' : (changeEnv (·.push l) >>= fun _ => m') s = some (r, u) := hsame
    rw [EvalM.guarded, hs']
  · exact ⟨L.layer hl hrel, .inr hexc⟩

end EvalM

end Manifest
