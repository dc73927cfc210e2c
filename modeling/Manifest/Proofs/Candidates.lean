import Manifest.Proofs.Choices

/-!
# Candidates and operators

A `case` with one candidate and a `default` chooses between two results, as an `if` does. It asks
of its subject what an operator asks of two operands: whether the candidate's value is equal to it
or, for a regular expression and a text, whether it matches. So the `if` that tests `==` or `=~`
comes to the same, and its branches see the same captures.

Types are the exception, since `==` between types is identity while a type as a candidate accepts
what is below it. For the same reason `==` does not leave a type and another value to the
comparator, as a candidate does; so the comparator has to know that they are not equal.

* `Comparator.KnowsTypes` — a type equals nothing but types. Both comparators that are provided
  know this.
* `Evaluator.choiceBetween` — what `if` and `case` have in common: a question and two results.
* `Evaluator.eval_caseOf_eq_ifThen` — the `case` and the `if` agree.
-/

namespace Manifest

/-! ## Comparators and types -/

namespace Comparator

/-- A type equals nothing but types. -/
def KnowsTypes (c : Comparator) : Prop :=
  ∀ (t : TypeRef) (v : Value), (∀ s, v ≠ .type s) → c.equals (.type t) v = false

theorem standard_knowsTypes : standard.KnowsTypes := by
  intro t v hv
  cases v with
  | type s => exact absurd rfl (hv s)
  | _ => rfl

theorem caseSensitive_knowsTypes : caseSensitive.KnowsTypes := by
  intro t v hv
  cases v with
  | type s => exact absurd rfl (hv s)
  | _ => rfl

/-- Whether two values are equal is always known. -/
theorem holds_eq_ok (c : Comparator) (a b : Value) : ∃ equal, c.holds .eq a b = .ok equal := by
  cases a with
  | type s => cases b <;> exact ⟨_, rfl⟩
  | _ => exact ⟨_, rfl⟩

/-- Equality with a value that is no type is up to the comparator. -/
theorem KnowsTypes.holds_eq {c : Comparator} (hc : c.KnowsTypes) (a : Value) {b : Value}
    (hb : ∀ t, b ≠ .type t) : c.holds .eq a b = .ok (c.equals a b) := by
  cases a with
  | type s =>
    rw [hc s b hb]
    cases b with
    | type t => exact absurd rfl (hb t)
    | _ => rfl
  | _ => rfl

end Comparator

/-- Whether a value, as a candidate, selects more than what is equal to it. -/
def Value.isPattern : Value → Bool
  | .regex _ | .type _ => true
  | _ => false

namespace Evaluator

open EvalM

variable (E : Evaluator)

/-! ## Questions with two results -/

section Choice

variable (invoke : Invoke)

/-- A question that decides between two results. It is asked above a fence. -/
def choiceBetween (question : EvalM Bool) (yes no : Expr) : EvalM Value :=
  guarded do
    changeEnv (·.openFence)
    let holds ← question
    if holds then E.evalExpr invoke yes else E.evalExpr invoke no

variable {question question' : EvalM Bool} {yes no : Expr} {s : State}

/-- Only the answer matters, and the state that it leaves. -/
theorem choiceBetween_congr (h : question s.fenced = question' s.fenced) :
    E.choiceBetween invoke question yes no s = E.choiceBetween invoke question' yes no s := by
  refine guarded_congr ?_
  rw [bind_apply, bind_apply, h]

theorem placed_choiceBetween (h : Placed question) :
    Placed (E.choiceBetween invoke question yes no) := by
  refine ((placed_changeEnv _).bind fun _ => h.bind fun holds => ?_).guarded
  cases holds with
  | true => exact E.placed_evalExpr invoke yes
  | false => exact E.placed_evalExpr invoke no

/-- An `if` asks whether its test is true. -/
theorem evalForm_ifThen (test yes no : Expr) :
    E.evalForm invoke (.ifThen test yes (some no)) =
      E.choiceBetween invoke (do
        let v ← E.evalExpr invoke test
        pure v.isTruthy) yes no := by
  simp only [choiceBetween, bind_assoc, pure_bind]
  rfl

/-- The form `case test { candidate: { yes } default: { no } }`, given where the options and the
marker stand. -/
def caseOfCandidate (test candidate yes no : Expr) (optionAt markerAt defaultAt : Span) : Form :=
  .caseOf test [⟨[candidate], yes, optionAt⟩, ⟨[⟨.default, markerAt⟩], no, defaultAt⟩]

/-- A `case` with one candidate asks whether it selects the subject. -/
theorem evalForm_caseOfCandidate (test : Expr) {candidate : Expr}
    (hmarker : candidate.isDefault = false) (hsplice : candidate.isUnfold = false) (yes no : Expr)
    (optionAt markerAt defaultAt : Span) :
    E.evalForm invoke (caseOfCandidate test candidate yes no optionAt markerAt defaultAt) =
      E.choiceBetween invoke (do
        let subject ← E.evalExpr invoke test
        let v ← E.evalExpr invoke candidate
        E.selects subject v) yes no := by
  have hoptions : ∀ subject : Value,
      E.evalOptions invoke subject
          [⟨[candidate], yes, optionAt⟩, ⟨[⟨.default, markerAt⟩], no, defaultAt⟩] (pure .absent) =
        (do
          let v ← E.evalExpr invoke candidate
          let found ← E.selects subject v
          if found then E.evalExpr invoke yes else E.evalExpr invoke no) := by
    intro subject
    rw [evalOptions_singleton, if_neg (Bool.eq_false_iff.1 hmarker),
      evalCandidate_of_not_unfold E invoke subject hsplice, bind_assoc]
    rfl
  change guarded (changeEnv (·.openFence) >>= fun _ =>
    E.evalExpr invoke test >>= fun subject => E.evalOptions invoke subject _ _) = _
  simp only [hoptions, choiceBetween, bind_assoc]

end Choice

/-- Two forms that ask questions with one answer come to the same, wherever they stand. -/
theorem eval_eq_of_question {n : Nat} {form form' : Form} {question question' : EvalM Bool}
    {yes no : Expr} {s : State}
    (hform : E.evalForm (E.invoke n) form = E.choiceBetween (E.invoke n) question yes no)
    (hform' : E.evalForm (E.invoke n) form' = E.choiceBetween (E.invoke n) question' yes no)
    (hplaced : Placed question) (hplaced' : Placed question')
    (h : question s.fenced = question' s.fenced) (place place' : Span) :
    E.eval n ⟨form, place⟩ s = E.eval n ⟨form', place'⟩ s := by
  have hleft : Placed (E.evalForm (E.invoke n) form) := by
    rw [hform]
    exact E.placed_choiceBetween _ hplaced
  have hright : Placed (E.evalForm (E.invoke n) form') := by
    rw [hform']
    exact E.placed_choiceBetween _ hplaced'
  calc E.eval n ⟨form, place⟩ s
    _ = E.evalForm (E.invoke n) form s := congrFun (hleft.located_eq _ place) s
    _ = E.choiceBetween (E.invoke n) question yes no s := congrFun hform s
    _ = E.choiceBetween (E.invoke n) question' yes no s := E.choiceBetween_congr _ h
    _ = E.evalForm (E.invoke n) form' s := (congrFun hform' s).symm
    _ = E.eval n ⟨form', place'⟩ s := (congrFun (hright.located_eq _ place') s).symm

/-! ## Subject and candidate as operands -/

/-- The values of two expressions, one after the other. -/
def evalPair (invoke : Invoke) (left right : Expr) : EvalM (Value × Value) := do
  let a ← E.evalExpr invoke left
  let b ← E.evalExpr invoke right
  pure (a, b)

section Operands

variable (invoke : Invoke) (left right : Expr)

theorem placed_evalPair : Placed (E.evalPair invoke left right) :=
  (E.placed_evalExpr invoke left).bind fun _ =>
    (E.placed_evalExpr invoke right).bind fun _ => placed_pure _

/-- What comes after both operands. -/
theorem evalPair_bind {α : Type} (f : Value × Value → EvalM α) :
    E.evalPair invoke left right >>= f = (do
      let a ← E.evalExpr invoke left
      let b ← E.evalExpr invoke right
      f (a, b)) := by
  simp only [evalPair, bind_assoc, pure_bind]

/-- A test for equality has no error of its own, so that it does not matter where it stands. -/
theorem evalExpr_equality (place : Span) :
    E.evalExpr invoke ⟨.comparison .eq left right, place⟩ = (do
      let p ← E.evalPair invoke left right
      ofExcept ((E.comparator.holds .eq p.1 p.2).map .boolean)) := by
  have hplaced : Placed (E.evalForm invoke (.comparison .eq left right)) := by
    refine (E.placed_evalExpr invoke left).bind fun a => ?_
    refine (E.placed_evalExpr invoke right).bind fun b => ?_
    obtain ⟨equal, hequal⟩ := E.comparator.holds_eq_ok a b
    rw [hequal]
    exact placed_pure _
  rw [evalPair_bind]
  exact hplaced.located_eq _ place

end Operands

variable {E}

/-- A candidate that is no pattern selects what is equal to it. -/
theorem selects_of_not_pattern (hE : E.comparator.KnowsTypes) (a : Value) {b : Value}
    (hb : b.isPattern = false) :
    E.selects a b = (do
      let v ← ofExcept ((E.comparator.holds .eq a b).map Value.boolean)
      pure v.isTruthy) := by
  have htype : ∀ t, b ≠ .type t := by
    rintro t rfl
    cases hb
  have hselects : E.selects a b = pure (E.comparator.equals a b) := by
    cases b with
    | regex _ | type _ => cases hb
    | _ => rfl
  rw [hselects, hE.holds_eq a htype]
  cases E.comparator.equals a b <;> rfl

/-- A text is matched with a regular expression as an operand just as with one as a candidate. -/
theorem evalExpr_matching_of_ok {n : Nat} {left right : Expr} {text : String} {r : Regex}
    {s t : State}
    (h : E.evalPair (E.invoke n) left right s = some (.ok (.string text, .regex r), t))
    (place : Span) :
    (do
      let v ← E.evalExpr (E.invoke n) ⟨.matching .matches left right, place⟩
      pure v.isTruthy) s = E.selects (.string text) (.regex r) t := by
  obtain ⟨found, u, hfound, hmatch⟩ : ∃ found u, capture r text t = some (.ok found, u) ∧
      E.matchOperands .matches (.string text) (.regex r) t = some (.ok (.boolean found), u) :=
    ⟨_, _, rfl, rfl⟩
  have hform : E.evalForm (E.invoke n) (.matching .matches left right) s =
      some (.ok (.boolean found), u) := by
    have hrun := bind_of_ok h fun p => E.matchOperands .matches p.1 p.2
    rw [evalPair_bind] at hrun
    exact hrun.trans hmatch
  have htest : E.evalExpr (E.invoke n) ⟨.matching .matches left right, place⟩ s =
      some (.ok (.boolean found), u) := located_eq_ok.2 hform
  have hselects : E.selects (.string text) (.regex r) t = some (.ok found, u) := hfound
  rw [bind_of_ok htest, hselects]
  cases found <;> rfl

/-- **Candidates agree with the operators**: a `case` with one candidate comes to the same as the
`if` that tests `==`, unless subject and candidate have values of which the second one is a pattern;
and if these are a text and a regular expression, it comes to the same as the `if` that tests `=~`.
The same state is left, and it does not matter where anything stands. -/
theorem eval_caseOf_eq_ifThen (hE : E.comparator.KnowsTypes) (n : Nat) (test : Expr)
    {candidate : Expr} (hmarker : candidate.isDefault = false)
    (hsplice : candidate.isUnfold = false) (yes no : Expr)
    (optionAt markerAt defaultAt testAt place place' : Span) (s : State) :
    ((∀ a b t, E.evalPair (E.invoke n) test candidate s.fenced = some (.ok (a, b), t) →
        b.isPattern = false) →
      E.eval n ⟨caseOfCandidate test candidate yes no optionAt markerAt defaultAt, place⟩ s =
        E.eval n ⟨.ifThen ⟨.comparison .eq test candidate, testAt⟩ yes (some no), place'⟩ s) ∧
    ∀ text r t, E.evalPair (E.invoke n) test candidate s.fenced =
        some (.ok (.string text, .regex r), t) →
      E.eval n ⟨caseOfCandidate test candidate yes no optionAt markerAt defaultAt, place⟩ s =
        E.eval n ⟨.ifThen ⟨.matching .matches test candidate, testAt⟩ yes (some no), place'⟩ s := by
  have hcase := E.evalForm_caseOfCandidate (E.invoke n) test hmarker hsplice yes no optionAt
    markerAt defaultAt
  rw [← E.evalPair_bind _ test candidate fun p => E.selects p.1 p.2] at hcase
  have hplaced : Placed (do
      let p ← E.evalPair (E.invoke n) test candidate
      E.selects p.1 p.2) :=
    (E.placed_evalPair _ test candidate).bind fun p => E.placed_selects p.1 p.2
  have hplacedTest : ∀ e : Expr, Placed (do
      let v ← E.evalExpr (E.invoke n) e
      pure v.isTruthy) :=
    fun e => (E.placed_evalExpr _ e).bind fun _ => placed_pure _
  constructor
  · intro hpattern
    have hif := E.evalForm_ifThen (E.invoke n) ⟨.comparison .eq test candidate, testAt⟩ yes no
    refine E.eval_eq_of_question hcase hif hplaced (hplacedTest _) ?_ place place'
    rw [evalExpr_equality, bind_assoc]
    refine bind_congr_of_ok fun p t hp => ?_
    exact congrFun (selects_of_not_pattern hE _ (hpattern _ _ t hp)) t
  · intro text r t hpair
    have hif := E.evalForm_ifThen (E.invoke n) ⟨.matching .matches test candidate, testAt⟩ yes no
    refine E.eval_eq_of_question hcase hif hplaced (hplacedTest _) ?_ place place'
    rw [evalExpr_matching_of_ok hpair, bind_of_ok hpair]

/-- The text `"ab"`. -/
def abText : Expr :=
  ⟨.literal (.string "ab"), ⟨5, 9⟩⟩

/-- The text `"AB"`. -/
def capitalText : Expr :=
  ⟨.literal (.string "AB"), ⟨12, 16⟩⟩

/-- The regular expression `/(a)b/`. -/
def groupPattern : Expr :=
  ⟨.regex "(a)b", ⟨12, 18⟩⟩

/-- The variable `$1`. -/
def firstGroup : Expr :=
  ⟨.variable ⟨.literal (.integer 1), ⟨23, 24⟩⟩, ⟨22, 24⟩⟩

/-- The text `"other"`. -/
def otherText : Expr :=
  ⟨.literal (.string "other"), ⟨38, 45⟩⟩

/-- The program `case "ab" { candidate: { $1 } default: { "other" } }`. -/
def abCase (candidate : Expr) : Expr :=
  ⟨caseOfCandidate abText candidate firstGroup otherText ⟨12, 26⟩ ⟨27, 34⟩ ⟨27, 47⟩, ⟨0, 49⟩⟩

/-- The program `if test { $1 } else { "other" }`. -/
def abIf (test : Form) : Expr :=
  ⟨.ifThen ⟨test, ⟨53, 68⟩⟩ firstGroup (some otherText), ⟨50, 86⟩⟩

/-- The first group is there after a match, written either way; and texts that differ in case are
equal, written either way, which captures nothing. -/
theorem eval_caseOf_eq_ifThen_group :
    (∃ t, Library.evaluator.eval 0 (abCase groupPattern) (.initial (.ofGlobals [])) =
        some (.ok (.string "a"), t) ∧
      Library.evaluator.eval 0 (abIf (.matching .matches abText groupPattern))
        (.initial (.ofGlobals [])) = some (.ok (.string "a"), t)) ∧
    ∃ t, Library.evaluator.eval 0 (abCase capitalText) (.initial (.ofGlobals [])) =
        some (.ok .absent, t) ∧
      Library.evaluator.eval 0 (abIf (.comparison .eq abText capitalText))
        (.initial (.ofGlobals [])) = some (.ok .absent, t) := by
  have hagree := fun candidate hmarker hsplice =>
    @eval_caseOf_eq_ifThen Library.evaluator Comparator.standard_knowsTypes 0 abText candidate
      hmarker hsplice firstGroup otherText ⟨12, 26⟩ ⟨27, 34⟩ ⟨27, 47⟩ ⟨53, 68⟩ ⟨0, 49⟩ ⟨50, 86⟩
      (.initial (.ofGlobals []))
  have hgroup := (hagree groupPattern rfl rfl).2 _ _ _ rfl
  have hcapital := (hagree capitalText rfl rfl).1 fun a b t h => by
    cases h
    rfl
  exact ⟨⟨_, rfl, hgroup.symm.trans rfl⟩, ⟨_, rfl, hcapital.symm.trans rfl⟩⟩

end Evaluator

end Manifest
