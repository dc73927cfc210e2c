import Manifest.CallStack
import Manifest.Environment
import Manifest.Relationship

/-!
# Evaluation steps

* `State` — what evaluation reads and changes: the environment, the active calls, and what has
  been recorded so far.
* `EvalM` — a step of evaluation: from a state to a value or an error, and the state it leaves.
  An error leaves a state too, since what was done before it stays done. A step may also have no
  outcome at all, when it ran out of fuel.
* `EvalM.located`, `EvalM.guarded`, `EvalM.framed` — the three brackets around a step: for the
  place of an error, for the nesting level, and for the active calls.
-/

namespace Manifest

/-! ## States -/

/-- What evaluation reads and changes. -/
structure State where
  /-- variables and captures -/
  env : Environment
  /-- the active calls -/
  calls : CallStack
  /-- the edges recorded, oldest first -/
  edges : List Edge
  /-- the sources of the patterns that have been compiled -/
  patterns : List String
  /-- the lines of the log, oldest first -/
  log : List String

namespace State

/-- The state before anything was evaluated. -/
def initial (env : Environment) : State :=
  ⟨env, [], [], [], []⟩

/-- Notes a pattern that has been compiled. -/
def notePattern (s : State) (source : String) : State :=
  if s.patterns.contains source then s else { s with patterns := source :: s.patterns }

/-- Noting a pattern changes neither variables nor captures. -/
@[simp]
theorem env_notePattern (s : State) (source : String) : (s.notePattern source).env = s.env := by
  rw [notePattern]
  split <;> rfl

/-- Nor does it change the active calls. -/
@[simp]
theorem calls_notePattern (s : State) (source : String) :
    (s.notePattern source).calls = s.calls := by
  rw [notePattern]
  split <;> rfl

end State

/-! ## Steps -/

/-- The outcome of a step: a value or an error, and the state afterwards. -/
abbrev Outcome (α : Type) := Except EvalError α × State

/-- A step of evaluation. It has no outcome when it ran out of fuel. -/
def EvalM (α : Type) : Type := State → Option (Outcome α)

namespace EvalM

variable {α β : Type}

/-- Answers without changing anything. -/
@[inline]
protected def pure (a : α) : EvalM α := fun s => some (.ok a, s)

/-- Goes on with the value of a step, unless it failed. -/
@[inline]
protected def bind (m : EvalM α) (f : α → EvalM β) : EvalM β := fun s =>
  match m s with
  | none => none
  | some (.error e, t) => some (.error e, t)
  | some (.ok a, t) => f a t

instance : Monad EvalM where
  pure := EvalM.pure
  bind := EvalM.bind

theorem pure_apply (a : α) (s : State) : (pure a : EvalM α) s = some (.ok a, s) :=
  rfl

theorem bind_apply (m : EvalM α) (f : α → EvalM β) (s : State) :
    (m >>= f) s =
      match m s with
      | none => none
      | some (.error e, t) => some (.error e, t)
      | some (.ok a, t) => f a t :=
  rfl

instance : LawfulMonad EvalM :=
  LawfulMonad.mk' EvalM
    (fun m => by
      funext s
      change (m >>= fun a => pure (id a)) s = m s
      rw [bind_apply]
      rcases m s with _ | ⟨_ | _, _⟩ <;> rfl)
    (fun _ _ => rfl)
    (fun m f g => by
      funext s
      simp only [bind_apply]
      rcases m s with _ | ⟨_ | _, _⟩ <;> rfl)

/-- Fails. -/
@[inline]
def raise (e : EvalError) : EvalM α := fun s => some (.error e, s)

/-- Fails for a given cause. -/
@[inline]
def failWith (cause : Cause) : EvalM α := raise (.ofCause cause)

/-- Goes on with whatever comes of a step, be it a value or an error. -/
@[inline]
def attempt (m : EvalM α) (next : Except EvalError α → EvalM β) : EvalM β := fun s =>
  match m s with
  | none => none
  | some (r, t) => next r t

/-- Has no outcome. -/
def outOfFuel : EvalM α := fun _ => none

/-- Answers with a value or an error that is at hand. -/
@[inline]
def ofExcept : Except EvalError α → EvalM α
  | .ok a => EvalM.pure a
  | .error e => raise e

/-- Answers with something read from the state. -/
@[inline]
def read (f : State → α) : EvalM α := fun s => some (.ok (f s), s)

/-- Changes the state. -/
@[inline]
def change (f : State → State) : EvalM Unit := fun s => some (.ok (), f s)

/-- Changes the environment. -/
@[inline]
def changeEnv (f : Environment → Environment) : EvalM Unit :=
  change fun s => { s with env := f s.env }

/-! ## Brackets -/

/-- Attaches a place to an error that has none. -/
@[inline]
def located (kind : String) (span : Span) (m : EvalM α) : EvalM α := fun s =>
  match m s with
  | none => none
  | some (.ok a, t) => some (.ok a, t)
  | some (.error e, t) => some (.error (e.withNode kind span), t)

/-- Restores the nesting level afterwards, whatever the outcome. -/
@[inline]
def guarded (m : EvalM α) : EvalM α := fun s =>
  match m s with
  | none => none
  | some (r, t) => some (r, { t with env := t.env.restore s.env.level })

/-- Adds a frame to the active calls for the length of a step. At the limit the step is not taken.
An error that leaves the step takes the active calls along. -/
@[inline]
def framed (limit : Option Nat) (frame : Frame) (m : EvalM α) : EvalM α := fun s =>
  match CallStack.push? limit frame s.calls with
  | .error e => some (.error e, s)
  | .ok calls =>
    match m { s with calls := calls } with
    | none => none
    | some (r, t) =>
      some (r.mapError (CallStack.attach t.calls), { t with calls := t.calls.tail })

/-! ## Small steps -/

/-- The regular expression of a source. -/
def compile (engine : RegexEngine) (source : String) : EvalM Regex := fun s =>
  match Regex.ofSource source with
  | .ok r => some (.ok r, s.notePattern source)
  | .error cause => some (.error (.ofCause (.matchPatternInvalid source cause)), s)

/-- Records edges. -/
def record (edges : List Edge) : EvalM Unit :=
  change fun s => { s with edges := s.edges ++ edges }

/-- Binds the names of a target, step by step. -/
def bindNames (f : Environment → Except EvalError Unit × Environment) : EvalM Unit := fun s =>
  let (r, env) := f s.env
  some (r, { s with env := env })

end EvalM

end Manifest
