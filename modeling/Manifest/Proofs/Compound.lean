import Manifest.Proofs.Reserved

/-!
# Adding to a variable

`$x += y` stands for `$x = $x + y`, but not by definition: the first form reads the variable after
its right side has been evaluated and calls its errors by another name, the second one reads it
before. Where the variable has a value and the right side leaves that alone, the two come to the
same (`Evaluator.eval_addAssign`): they succeed with the same value or both fail, and leave the same
state. An error may be another one.
-/

namespace Manifest

/-- An expression is the variable of a name, which may be written as a word or as a number. -/
def Expr.IsVariable (e : Expr) (name : String) : Prop :=
  ∃ inner, e.form = .variable inner ∧ variableName? inner.form = some name

namespace EvalM

variable {α β : Type}

/-- Outcomes that agree on everything but which error it is. -/
inductive SameButError : Option (Outcome α) → Option (Outcome α) → Prop
  /-- neither run ends -/
  | endless : SameButError none none
  /-- both runs succeed, with the same value and in the same state -/
  | ok (a : α) (t : State) : SameButError (some (.ok a, t)) (some (.ok a, t))
  /-- both runs fail, in the same state -/
  | error (e e' : EvalError) (t : State) : SameButError (some (.error e, t)) (some (.error e', t))

namespace SameButError

theorem refl (o : Option (Outcome α)) : SameButError o o := by
  rcases o with _ | ⟨e | a, t⟩
  · exact .endless
  · exact .error e e t
  · exact .ok a t

/-- The place of an error does not matter. -/
theorem located {m m' : EvalM α} {s : State} (h : SameButError (m s) (m' s)) (kind kind' : String)
    (span span' : Span) :
    SameButError (EvalM.located kind span m s) (EvalM.located kind' span' m' s) := by
  rw [EvalM.located, EvalM.located]
  generalize m s = o at h
  generalize m' s = o' at h
  cases h with
  | endless => exact .endless
  | ok a t => exact .ok a t
  | error e e' t => exact .error _ _ t

/-- If one run succeeds, the other one does the same. -/
theorem eq_ok {a : α} {t : State} {o : Option (Outcome α)}
    (h : SameButError (some (.ok a, t)) o) : o = some (.ok a, t) := by
  cases h
  rfl

end SameButError

end EvalM

namespace Evaluator

open EvalM

variable {E : Evaluator} {n : Nat} {x : String} {left again y : Expr} {s : State}

/-- The target of a variable is its name. -/
theorem ofExpr_of_isVariable (h : left.IsVariable x) : Target.ofExpr left = .ok (.variable x) := by
  obtain ⟨form, span⟩ := left
  obtain ⟨inner, rfl, hname⟩ := h
  rw [Target.ofExpr, Target.ofForm, hname]
  rfl

/-- A variable that stands for something has that value. -/
theorem eval_of_isVariable (h : again.IsVariable x) {v : Value} (hv : s.env.get? x = some v) :
    E.eval n again s = some (.ok v, s) := by
  obtain ⟨form, span⟩ := again
  obtain ⟨⟨form, place⟩, rfl, hname⟩ := h
  refine located_eq_ok.2 ?_
  have hlookup : E.lookupVariable ⟨form, place⟩ s = some (.ok v, s) := by
    cases form with
    | qualifiedName name =>
      cases hname
      exact (bind_of_ok (read_variable x s) _).trans (by rw [hv]; rfl)
    | literal value =>
      simp only [lookupVariable, hname]
      rw [bind_of_ok (read_variable x s), hv]
      rfl
    | _ => cases hname
  exact hlookup

/-- Adding to a variable: what is added is evaluated first, then the variable is looked at. -/
theorem evalForm_addAssign (hleft : left.IsVariable x) :
    E.evalForm (E.invoke n) (.assignment (.compound .add) left y) =
      E.eval n y >>= assignCompound (.compound .add) .add x := by
  have hname : compoundName left = .ok x := compoundName_eq_ok.2 (ofExpr_of_isVariable hleft)
  rw [evalForm_compound, hname]
  rfl

/-- Assigning to a variable: the value is evaluated first, then the variable is bound. -/
theorem evalForm_assignVariable (hleft : left.IsVariable x) (right : Expr) :
    E.evalForm (E.invoke n) (.assignment .assign left right) =
      E.eval n right >>= assignTarget (.variable x) := by
  rw [evalForm_assign, ofExpr_of_isVariable hleft]
  rfl

/-- A sum of which the left operand is a variable that stands for something. -/
theorem eval_sum (hagain : again.IsVariable x) {v : Value} (hv : s.env.get? x = some v)
    (place : Span) :
    E.eval n ⟨.arithmetic .add again y, place⟩ s =
      located (Form.arithmetic .add again y).kind place
        (E.eval n y >>= fun w => ofExcept (v.combine .add w)) s := by
  have hform : E.evalForm (E.invoke n) (.arithmetic .add again y) s =
      (E.eval n y >>= fun w => ofExcept (v.combine .add w)) s :=
    bind_of_ok (eval_of_isVariable hagain hv) _
  have heval : E.eval n ⟨.arithmetic .add again y, place⟩ s =
      located (Form.arithmetic .add again y).kind place
        (E.evalForm (E.invoke n) (.arithmetic .add again y)) s := rfl
  rw [heval, located, located, hform]

/-- **Adding to a variable is assigning a sum to it**, if the variable has a value and evaluating
what is added leaves it that value: `$x += y` and `$x = $x + y` succeed with the same value or both
fail, and leave the same state; and either ends if the other one does. -/
theorem eval_addAssign (hleft : left.IsVariable x) (hagain : again.IsVariable x) {v : Value}
    (hx : s.env.get? x = some v) (hv : v ≠ .absent)
    (hkeeps : ∀ w u, E.eval n y s = some (.ok w, u) → u.env.get? x = s.env.get? x)
    (span span' place : Span) :
    SameButError (E.eval n ⟨.assignment (.compound .add) left y, span⟩ s)
      (E.eval n ⟨.assignment .assign left ⟨.arithmetic .add again y, place⟩, span'⟩ s) := by
  refine SameButError.located ?_ _ _ _ _
  rw [evalForm_addAssign hleft, evalForm_assignVariable hleft, bind_apply, bind_apply,
    eval_sum hagain hx, located, bind_apply]
  rcases hy : E.eval n y s with _ | ⟨e | w, u⟩
  · exact .endless
  · exact .error _ _ u
  · -- both forms now combine the same values, and then bind the same name
    have hu : (u.env.get? x).getD .absent = v := by rw [hkeeps w u hy, hx, Option.getD_some]
    dsimp only
    rw [assignCompound_of_set (hu ▸ hv), hu, compoundValue]
    cases v.combine .add w with
    | error e => exact .error _ _ u
    | ok c => exact .refl _

/-- The variable `$x`. -/
def variableX : Expr :=
  ⟨.variable ⟨.qualifiedName "x", ⟨0, 2⟩⟩, ⟨0, 2⟩⟩

/-- The number two. -/
def two : Expr :=
  ⟨.literal (.integer 2), ⟨6, 7⟩⟩

/-- Adding two to an array appends it, in both forms. -/
theorem eval_addAssign_array :
    let s := State.initial (.ofGlobals [("x", .array [.integer 1])])
    ∃ t, Library.evaluator.eval 0 ⟨.assignment (.compound .add) variableX two, ⟨0, 7⟩⟩ s =
        some (.ok (.array [.integer 1, .integer 2]), t) ∧
      Library.evaluator.eval 0
          ⟨.assignment .assign variableX ⟨.arithmetic .add variableX two, ⟨5, 11⟩⟩, ⟨0, 11⟩⟩ s =
        some (.ok (.array [.integer 1, .integer 2]), t) := by
  intro s
  have hvariable : variableX.IsVariable "x" := ⟨_, rfl, rfl⟩
  obtain ⟨t, ht⟩ : ∃ t, Library.evaluator.eval 0
      ⟨.assignment (.compound .add) variableX two, ⟨0, 7⟩⟩ s =
        some (.ok (.array [.integer 1, .integer 2]), t) := ⟨_, rfl⟩
  have hsame := eval_addAssign (E := Library.evaluator) (n := 0) (y := two) (s := s) hvariable
    hvariable rfl nofun (fun w u h => by cases h; rfl) ⟨0, 7⟩ ⟨0, 11⟩ ⟨5, 11⟩
  rw [ht] at hsame
  exact ⟨t, ht, hsame.eq_ok⟩

end Evaluator

end Manifest
