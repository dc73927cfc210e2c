import Manifest.Proofs.Distribution
import Manifest.Proofs.Library

/-!
# What a failed assignment leaves behind

Names are looked at when their turn comes, and what was bound before stays bound; so an assignment
that fails may have bound some of its names (`Target.assign_notAtomic`). It has bound exactly those
that come before the first name that may not be bound, each to its part of the value, and has
changed nothing else (`StopsAt`).

* `assignTarget_apply` — what an assignment to a target does, in closed form.
* `Evaluator.assign_stops` — what a failed assignment leaves behind, for targets, for expressions
  that denote targets, and for the operator.
-/

namespace Manifest

/-- Assigning one value to `[$a, $1]` fails at `$1`, when `$a` has been bound already. -/
theorem Target.assign_notAtomic :
    (Target.list [.variable "a", .variable "1"]).assign (.integer 5) (.ofGlobals []) =
        (fault (.illegalNumericAssignment "1"), .ofGlobals [("a", .integer 5)]) ∧
      Environment.ofGlobals [("a", .integer 5)] ≠ .ofGlobals [] := by
  refine ⟨rfl, fun h => ?_⟩
  cases congrArg Environment.globals h

/-- What bindings that could not all be made leave behind. -/
structure StopsAt (bindings : List (String × Value)) (e : EvalError) (before after : State) :
    Prop where
  /-- the error is about the first name that may not be bound -/
  refused : ∃ name, Environment.firstRefused? bindings = some name ∧ e.cause = refusal name
  /-- the bindings before it have been made, and nothing else has changed -/
  bound : after =
    { before with env := before.env.setAll (Environment.bindablePart bindings) }
  /-- if it comes first, nothing has changed at all -/
  unchanged : (∀ b ∈ bindings.head?, isBindable b.1 = false) → after = before

/-- Bindings that stop at a name stop there with every error that has the same cause. -/
theorem StopsAt.of_cause {bindings : List (String × Value)} {e e' : EvalError}
    {before after : State} (h : StopsAt bindings e before after) (hcause : e'.cause = e.cause) :
    StopsAt bindings e' before after := by
  obtain ⟨name, hname, he⟩ := h.refused
  exact ⟨⟨name, hname, hcause.trans he⟩, h.bound, h.unchanged⟩

namespace Evaluator

open EvalM

/-! ## Targets -/

/-- Assigning to a target binds the names before the first one that may not be bound. -/
theorem assignTarget_apply (target : Target) (value : Value) (s : State) :
    assignTarget target value s =
      some (match Environment.firstRefused? (target.bindings value) with
        | none => .ok value
        | some name => fault (refusal name),
      { s with env := s.env.setAll (Environment.bindablePart (target.bindings value)) }) := by
  have hbind : bindNames (target.assign value) s =
      some ((s.env.assignAll (target.bindings value)).1,
        { s with env := (s.env.assignAll (target.bindings value)).2 }) := by
    rw [bindNames, target.assign_eq_assignAll]
  rw [assignTarget, bind_apply, hbind, Environment.assignAll_eq]
  cases Environment.firstRefused? (target.bindings value) with
  | none => rfl
  | some name => rfl

/-- An assignment to a target that succeeds has made all its bindings. -/
theorem assignTarget_eq_ok {target : Target} {value v : Value} {s t : State} :
    assignTarget target value s = some (.ok v, t) ↔
      (∀ b ∈ target.bindings value, isBindable b.1 = true) ∧ v = value ∧
        t = { s with env := s.env.setAll (target.bindings value) } := by
  rw [assignTarget_apply, ← Environment.firstRefused?_eq_none]
  refine ⟨fun h => ?_, fun ⟨hnone, hv, ht⟩ => ?_⟩
  · rcases hname : Environment.firstRefused? (target.bindings value) with _ | name <;>
      rw [hname] at h <;> cases h
    have hall := Environment.firstRefused?_eq_none.1 hname
    exact ⟨rfl, rfl, by rw [Environment.bindablePart_eq_self hall]⟩
  · have hall := Environment.firstRefused?_eq_none.1 hnone
    rw [hnone, hv, ht, Environment.bindablePart_eq_self hall]

/-- An assignment to a target fails exactly if one of the names that get a value may not be
bound. -/
theorem assignTarget_fails_iff {target : Target} {value : Value} {s : State} :
    (∃ e t, assignTarget target value s = some (.error e, t)) ↔
      ∃ b ∈ target.bindings value, isBindable b.1 = false := by
  rw [assignTarget_apply]
  rcases hname : Environment.firstRefused? (target.bindings value) with _ | name
  · have hall := Environment.firstRefused?_eq_none.1 hname
    refine ⟨fun ⟨e, t, h⟩ => (by cases h), fun ⟨b, hb, hrefused⟩ => ?_⟩
    rw [hall b hb] at hrefused
    cases hrefused
  · exact ⟨fun _ => Environment.exists_of_firstRefused? hname, fun _ => ⟨_, _, rfl⟩⟩

/-- A failed assignment to a target. -/
theorem assignTarget_stopsAt {target : Target} {value : Value} {s t : State} {e : EvalError}
    (h : assignTarget target value s = some (.error e, t)) :
    StopsAt (target.bindings value) e s t := by
  rw [assignTarget_apply] at h
  rcases hname : Environment.firstRefused? (target.bindings value) with _ | name <;>
    rw [hname] at h <;> cases h
  refine ⟨⟨name, hname, rfl⟩, rfl, fun hhead => ?_⟩
  -- a first name that is refused leaves nothing before it
  have hnone : Environment.bindablePart (target.bindings value) = [] := by
    rcases hbindings : target.bindings value with _ | ⟨b, rest⟩
    · rfl
    · have hb : isBindable b.1 = false := hhead b (by rw [hbindings]; rfl)
      rw [Environment.bindablePart_cons, hb]
      rfl
  rw [hnone, Environment.setAll_nil]

/-! ## Expressions that denote targets -/

/-- How assigning a value to an expression fails. `start` is the state in which the assignment
began, and `before` that in which the value was there. -/
inductive FailsToAssign (left : Expr) (value : Value) (e : EvalError) (start before : State) :
    State → Prop
  /-- the expression denotes no target, and nothing has happened -/
  | noTarget {err : EvalError} (illegal : Target.ofExpr left = .error err)
    (cause : e.cause = err.cause) : FailsToAssign left value e start before start
  /-- a name of the target may not be bound -/
  | refused {target : Target} {after : State} (found : Target.ofExpr left = .ok target)
    (stops : StopsAt (target.bindings value) e before after) :
    FailsToAssign left value e start before after

/-- **What a failed assignment leaves behind**: an assignment fails exactly if one of the names that
get a value may not be bound. Whether it assigns to a target, to an expression, or by the operator,
it has then bound exactly the names that come before the one that the error is about. -/
theorem assign_stops (E : Evaluator) (n : Nat) (value : Value) :
    (∀ target s, (∃ e t, assignTarget target value s = some (.error e, t)) ↔
      ∃ b ∈ target.bindings value, isBindable b.1 = false) ∧
    (∀ target s e t, assignTarget target value s = some (.error e, t) →
      StopsAt (target.bindings value) e s t) ∧
    (∀ left s e t, assign left value s = some (.error e, t) →
      FailsToAssign left value e s s t) ∧
    ∀ left right span s u e t, E.eval n right s = some (.ok value, u) →
      E.eval n ⟨.assignment .assign left right, span⟩ s = some (.error e, t) →
      FailsToAssign left value e s u t := by
  refine ⟨fun target s => assignTarget_fails_iff, fun target s e t h => assignTarget_stopsAt h,
    fun left s e t h => ?_, fun left right span s u e t hright h => ?_⟩
  · rw [assign] at h
    rcases ofExcept_bind_eq_error h with ⟨hnone, rfl⟩ | ⟨target, hfound, hplaced⟩
    · exact .noTarget hnone rfl
    · obtain ⟨e', hrun, hcause⟩ := located_eq_error hplaced
      exact .refused hfound ((assignTarget_stopsAt hrun).of_cause hcause)
  · obtain ⟨e', hform, hcause⟩ := located_eq_error h
    rw [evalForm_assign] at hform
    rcases ofExcept_bind_eq_error hform with ⟨hnone, rfl⟩ | ⟨target, hfound, hrest⟩
    · exact .noTarget hnone hcause
    · -- the right side gives the value before the target is bound
      have hrun : assignTarget target value u = some (.error e', t) := by
        rw [← hrest]
        exact (bind_of_ok hright _).symm
      exact .refused hfound ((assignTarget_stopsAt hrun).of_cause hcause)

/-- The list `[$a, $1]` as a target. -/
def splitTarget : Expr :=
  ⟨.list [⟨.variable ⟨.qualifiedName "a", ⟨1, 3⟩⟩, ⟨1, 3⟩⟩,
    ⟨.variable ⟨.literal (.integer 1), ⟨5, 7⟩⟩, ⟨5, 7⟩⟩], ⟨0, 8⟩⟩

/-- The program `[$a, $1] = 5`. -/
def splitAssignment : Expr :=
  ⟨.assignment .assign splitTarget ⟨.literal (.integer 5), ⟨11, 12⟩⟩, ⟨0, 12⟩⟩

/-- A state in which nothing is bound. -/
def nothingBound : State :=
  .initial (.ofGlobals [])

/-- A state in which only `$a` is bound, to five. -/
def firstBound : State :=
  .initial (.ofGlobals [("a", .integer 5)])

/-- The error that `$1` causes. -/
def groupRefused : EvalError :=
  .ofCause (.illegalNumericAssignment "1")

/-- Assigning five to `[$a, $1]` leaves `$a` bound in all three ways. -/
theorem assign_stops_split :
    (assignTarget (.list [.variable "a", .variable "1"]) (.integer 5) nothingBound =
        some (.error groupRefused, firstBound) ∧
      StopsAt [("a", .integer 5), ("1", .integer 5)] groupRefused nothingBound firstBound) ∧
    (∃ e, assign splitTarget (.integer 5) nothingBound = some (.error e, firstBound) ∧
      FailsToAssign splitTarget (.integer 5) e nothingBound nothingBound firstBound) ∧
    ∃ e, Library.evaluator.eval 0 splitAssignment nothingBound = some (.error e, firstBound) ∧
      FailsToAssign splitTarget (.integer 5) e nothingBound nothingBound firstBound := by
  obtain ⟨-, htarget, hexpr, hoperator⟩ := assign_stops Library.evaluator 0 (.integer 5)
  refine ⟨⟨rfl, ?_⟩, ⟨_, rfl, hexpr _ _ _ _ rfl⟩, ⟨_, rfl, ?_⟩⟩
  · exact htarget (.list [.variable "a", .variable "1"]) _ _ _ rfl
  · exact hoperator splitTarget ⟨.literal (.integer 5), ⟨11, 12⟩⟩ ⟨0, 12⟩ nothingBound
      nothingBound _ _ rfl rfl

end Evaluator

end Manifest
