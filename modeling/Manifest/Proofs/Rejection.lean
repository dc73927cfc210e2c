import Manifest.Proofs.Assignment

/-!
# Expressions that are rejected before anything is evaluated

Only a variable, or a list of what can be assigned to, can stand on the left of an assignment; only
a bare word can name a function. Such shapes are looked at first. So an assignment or a call with an
illegal shape, or a call of a function that there is not, fails before any part of it is evaluated:
whatever its right side, its receiver, its arguments and its lambda are, nothing happens.

* `Expr.IsTarget` — what can be assigned to.
* `Expr.OffendsFirstIn` — from left to right, the first expression that keeps another one from being
  assigned to. The error points there.
* `Form.IsMisshapen`, `Rejected` — the forms that fail for their shape alone, and with which error.
* `Evaluator.eval_misshapen` — what denotes a target, where the error points if an expression
  denotes none, and that misshapen forms have no effect.
-/

namespace Manifest

/-! ## What can be assigned to -/

namespace Expr

/-- What can be assigned to: a variable whose name is a bare word or a number that is not negative,
or a list of what can be assigned to. -/
inductive IsTarget : Expr → Prop
  | word (name : String) (place span : Span) :
    IsTarget ⟨.variable ⟨.qualifiedName name, place⟩, span⟩
  | number {n : Int64} (nonneg : 0 ≤ n.toInt) (place span : Span) :
    IsTarget ⟨.variable ⟨.literal (.integer n), place⟩, span⟩
  | list {items : List Expr} (members : ∀ e ∈ items, IsTarget e) (span : Span) :
    IsTarget ⟨.list items, span⟩

/-- From left to right, the first expression that is neither a list nor a target itself. -/
inductive OffendsFirstIn (x : Expr) : Expr → Prop
  | here (noList : ∀ items, x.form ≠ .list items) (noTarget : ¬ x.IsTarget) : OffendsFirstIn x x
  | inside {before after : List Expr} {part : Expr} (legal : ∀ e ∈ before, e.IsTarget)
    (h : OffendsFirstIn x part) (span : Span) :
    OffendsFirstIn x ⟨.list (before ++ part :: after), span⟩

/-- What is wrong with an expression that is neither a list nor a target. -/
def offence (x : Expr) : Cause :=
  match x.form with
  | .variable inner => .illegalVariableExpression inner.kind
  | form => .illegalAssignment form.kind

/-- The error that an expression causes which is neither a list nor a target. -/
def offenceError (x : Expr) : EvalError :=
  (EvalError.ofCause x.offence).atExpr x

/-- The name of a variable can be told exactly if it is a target. -/
theorem isTarget_variable_iff {inner : Expr} {span : Span} :
    IsTarget ⟨.variable inner, span⟩ ↔ ∃ name, variableName? inner.form = some name := by
  refine ⟨fun h => ?_, fun ⟨name, h⟩ => ?_⟩
  · cases h with
    | word name => exact ⟨name, rfl⟩
    | number nonneg => exact ⟨_, if_pos nonneg⟩
  · obtain ⟨form, place⟩ := inner
    cases form with
    | qualifiedName word => exact .word word place span
    | literal value =>
      cases value with
      | integer n =>
        rw [variableName?] at h
        split at h
        · next nonneg => exact .number nonneg place span
        · cases h
      | _ => cases h
    | _ => cases h

mutual

/-- An expression is a target, or something in it offends first. -/
theorem isTarget_or_offends : ∀ e : Expr, e.IsTarget ∨ ∃ x : Expr, x.OffendsFirstIn e
  | ⟨form, span⟩ => formIsTarget_or_offends form span
termination_by structural e => e

theorem formIsTarget_or_offends : ∀ (form : Form) (span : Span),
    IsTarget ⟨form, span⟩ ∨ ∃ x : Expr, x.OffendsFirstIn ⟨form, span⟩
  | form, span => by
    cases form with
    | list items =>
      rcases areTargets_or_offend items with hall | ⟨x, before, part, after, rfl, hlegal, hx⟩
      · exact .inl (.list hall span)
      · exact .inr ⟨x, .inside hlegal hx span⟩
    | _ => exact (Classical.em _).imp_right fun htarget => ⟨_, .here nofun htarget⟩
termination_by structural form => form

theorem areTargets_or_offend : ∀ items : List Expr, (∀ e ∈ items, e.IsTarget) ∨
    ∃ (x : Expr) (before : List Expr) (part : Expr) (after : List Expr),
      items = before ++ part :: after ∧ (∀ e ∈ before, e.IsTarget) ∧ x.OffendsFirstIn part
  | [] => .inl (List.forall_mem_nil _)
  | e :: rest => by
    rcases isTarget_or_offends e with he | ⟨x, hx⟩
    · rcases areTargets_or_offend rest with hall | ⟨x, before, part, after, rfl, hlegal, hx⟩
      · exact .inl (List.forall_mem_cons.2 ⟨he, hall⟩)
      · exact .inr ⟨x, e :: before, part, after, rfl, List.forall_mem_cons.2 ⟨he, hlegal⟩, hx⟩
    · exact .inr ⟨x, [], e, rest, rfl, List.forall_mem_nil _, hx⟩
termination_by structural items => items

end

end Expr

namespace Target

/-- Expressions denote targets if each of them does. -/
theorem exists_ofExprs {items : List Expr} (h : ∀ e ∈ items, ∃ target, ofExpr e = .ok target) :
    ∃ targets, ofExprs items = .ok targets := by
  induction items with
  | nil => exact ⟨[], rfl⟩
  | cons e rest ih =>
    obtain ⟨⟨target, hhead⟩, hrest⟩ := List.forall_mem_cons.1 h
    obtain ⟨targets, htargets⟩ := ih hrest
    exact ⟨target :: targets, by rw [ofExprs, hhead, htargets]⟩

/-- A list denotes the targets of its members. -/
theorem ofExpr_list {items : List Expr} {targets : List Target} (h : ofExprs items = .ok targets)
    (span : Span) : ofExpr ⟨.list items, span⟩ = .ok (.list targets) := by
  rw [ofExpr, ofForm, h]
  rfl

/-- The first of several expressions that denotes no target decides the error. -/
theorem ofExprs_eq_error {before after : List Expr} {part : Expr} {err : EvalError}
    (hbefore : ∀ e ∈ before, ∃ target, ofExpr e = .ok target) (hpart : ofExpr part = .error err) :
    ofExprs (before ++ part :: after) = .error err := by
  induction before with
  | nil => rw [List.nil_append, ofExprs, hpart]
  | cons e rest ih =>
    obtain ⟨⟨target, hhead⟩, hrest⟩ := List.forall_mem_cons.1 hbefore
    rw [List.cons_append, ofExprs, hhead, ih hrest]

end Target

namespace Expr

/-- What can be assigned to denotes a target. -/
theorem IsTarget.exists_ofExpr {e : Expr} (h : e.IsTarget) :
    ∃ target, Target.ofExpr e = .ok target := by
  induction h with
  | word name => exact ⟨.variable name, rfl⟩
  | @number k nonneg =>
    refine ⟨.variable (toString k.toInt), ?_⟩
    rw [Target.ofExpr, Target.ofForm, variableName?, if_pos nonneg]
    rfl
  | list _ span ih =>
    obtain ⟨targets, htargets⟩ := Target.exists_ofExprs ih
    exact ⟨.list targets, Target.ofExpr_list htargets span⟩

/-- Whatever offends first decides the error. -/
theorem OffendsFirstIn.ofExpr_eq {x e : Expr} (h : x.OffendsFirstIn e) :
    Target.ofExpr e = .error x.offenceError := by
  induction h with
  | here noList noTarget =>
    obtain ⟨form, span⟩ := x
    cases form with
    | list items => exact absurd rfl (noList items)
    | «variable» inner =>
      have hname : variableName? inner.form = none :=
        Option.eq_none_iff_forall_ne_some.2 fun name h =>
          noTarget (isTarget_variable_iff.2 ⟨name, h⟩)
      rw [Target.ofExpr, Target.ofForm, hname]
      rfl
    | _ => rfl
  | inside legal _ span ih =>
    rw [Target.ofExpr, Target.ofForm,
      Target.ofExprs_eq_error (fun e he => (legal e he).exists_ofExpr) ih]
    -- the list does not take the place of the part
    exact congrArg Except.error (EvalError.withNode_eq_self (Option.some_ne_none _) _ _)

/-- An expression denotes a target exactly if it can be assigned to. -/
theorem exists_ofExpr_iff {e : Expr} : (∃ target, Target.ofExpr e = .ok target) ↔ e.IsTarget := by
  refine ⟨fun ⟨target, htarget⟩ => ?_, IsTarget.exists_ofExpr⟩
  rcases isTarget_or_offends e with h | ⟨x, hx⟩
  · exact h
  · rw [hx.ofExpr_eq] at htarget
    cases htarget

/-- The error of an expression that denotes no target is that of what offends first. -/
theorem ofExpr_eq_error_iff {e : Expr} {err : EvalError} :
    Target.ofExpr e = .error err ↔ ∃ x : Expr, x.OffendsFirstIn e ∧ err = x.offenceError := by
  refine ⟨fun h => ?_, fun ⟨x, hx, herr⟩ => herr ▸ hx.ofExpr_eq⟩
  rcases isTarget_or_offends e with htarget | ⟨x, hx⟩
  · obtain ⟨target, hok⟩ := htarget.exists_ofExpr
    rw [hok] at h
    cases h
  · rw [hx.ofExpr_eq] at h
    cases h
    exact ⟨x, hx, rfl⟩

end Expr

/-! ## Forms that are rejected -/

/-- The shape of an assignment or a call is illegal, or the function that is called does not exist.
Right sides, receivers, arguments and lambdas have no part in that. -/
def Form.IsMisshapen (functions : FunctionTable) : Form → Prop
  | .assignment op left _ => ¬ left.IsTarget ∨ ∃ arith, op = .compound arith ∧
    (Evaluator.isCompound arith = false ∨ ∃ items, left.form = .list items)
  | .callNamed functor _ _ => ∀ name, functor.form = .qualifiedName name →
    functions.has name = false
  | .callMethod functor _ _ => ∀ receiver method name, functor.form = .namedAccess receiver method →
    method.form = .qualifiedName name → functions.has name = false
  | _ => False

/-- The error of an expression at a place where its form makes no sense. -/
def Expr.misplacedError (e : Expr) : EvalError :=
  (EvalError.ofCause (.illegalExpression e.kind)).atExpr e

/-- The forms that are rejected, each with its error. -/
inductive Rejected (functions : FunctionTable) : Form → EvalError → Prop
  /-- an assignment to something that is no target -/
  | target {left x : Expr} (first : x.OffendsFirstIn left) (right : Expr) :
    Rejected functions (.assignment .assign left right) x.offenceError
  /-- a compound assignment that has no meaning, whatever it assigns to -/
  | operator {op : ArithmeticOp} (h : Evaluator.isCompound op = false) (left right : Expr) :
    Rejected functions (.assignment (.compound op) left right)
      (.ofCause (.unsupportedOperator (AssignOp.compound op).symbol))
  /-- any other compound assignment to something that is no target -/
  | compoundTarget {op : ArithmeticOp} (h : Evaluator.isCompound op = true) {left x : Expr}
    (first : x.OffendsFirstIn left) (right : Expr) :
    Rejected functions (.assignment (.compound op) left right) x.offenceError
  /-- any other compound assignment to a list of targets -/
  | compoundList {op : ArithmeticOp} (h : Evaluator.isCompound op = true) {items : List Expr}
    (legal : ∀ e ∈ items, e.IsTarget) (place : Span) (right : Expr) :
    Rejected functions (.assignment (.compound op) ⟨.list items, place⟩ right)
      ((EvalError.ofCause (.illegalAssignment (Form.list items).kind)).atExpr ⟨.list items, place⟩)
  /-- a call of something that is no bare word -/
  | functor {functor : Expr} (h : ∀ name, functor.form ≠ .qualifiedName name) (args : List Expr)
    (lambda : Option Lambda) :
    Rejected functions (.callNamed functor args lambda) functor.misplacedError
  /-- a call with a receiver, of something that has none -/
  | method {functor : Expr} (h : ∀ receiver name, functor.form ≠ .namedAccess receiver name)
    (args : List Expr) (lambda : Option Lambda) :
    Rejected functions (.callMethod functor args lambda) functor.misplacedError
  /-- a call with a receiver, of something that is no bare word -/
  | methodName {name : Expr} (h : ∀ word, name.form ≠ .qualifiedName word) (receiver : Expr)
    (dot : Span) (args : List Expr) (lambda : Option Lambda) :
    Rejected functions (.callMethod ⟨.namedAccess receiver name, dot⟩ args lambda)
      name.misplacedError
  /-- a call of a function that there is not -/
  | unknown {name : String} (h : functions.has name = false) (place : Span) (args : List Expr)
    (lambda : Option Lambda) :
    Rejected functions (.callNamed ⟨.qualifiedName name, place⟩ args lambda)
      (.ofCause (.unknownFunction name))
  /-- a call with a receiver, of a function that there is not -/
  | unknownMethod {name : String} (h : functions.has name = false) (receiver : Expr)
    (place dot : Span) (args : List Expr) (lambda : Option Lambda) :
    Rejected functions
      (.callMethod ⟨.namedAccess receiver ⟨.qualifiedName name, place⟩, dot⟩ args lambda)
      (.ofCause (.unknownFunction name))

section Coverage

variable {functions : FunctionTable}

/-- A compound assignment is rejected if it has no meaning, or if its target is no variable. -/
theorem exists_rejected_compound {arith : ArithmeticOp} {left : Expr}
    (h : ¬ left.IsTarget ∨ Evaluator.isCompound arith = false ∨ ∃ items, left.form = .list items)
    (right : Expr) : ∃ err, Rejected functions (.assignment (.compound arith) left right) err := by
  rcases hmeaning : Evaluator.isCompound arith with _ | _
  · exact ⟨_, .operator hmeaning left right⟩
  · rcases left.isTarget_or_offends with htarget | ⟨x, hx⟩
    · rcases h with hillegal | hnone | ⟨items, hlist⟩
      · exact absurd htarget hillegal
      · cases hmeaning.symm.trans hnone
      · obtain ⟨form, place⟩ := left
        obtain rfl : form = .list items := hlist
        cases htarget with
        | list members => exact ⟨_, .compoundList hmeaning members place right⟩
    · exact ⟨_, .compoundTarget hmeaning hx right⟩

/-- A call is rejected unless a bare word names a function that there is. -/
theorem exists_rejected_callNamed {functor : Expr}
    (h : ∀ name, functor.form = .qualifiedName name → functions.has name = false)
    (args : List Expr) (lambda : Option Lambda) :
    ∃ err, Rejected functions (.callNamed functor args lambda) err := by
  by_cases hname : ∃ name, functor.form = .qualifiedName name
  · obtain ⟨form, place⟩ := functor
    obtain ⟨name, rfl⟩ := hname
    exact ⟨_, .unknown (h name rfl) place args lambda⟩
  · exact ⟨_, .functor (fun name hform => hname ⟨name, hform⟩) args lambda⟩

/-- So is a call with a receiver. -/
theorem exists_rejected_callMethod {functor : Expr}
    (h : ∀ receiver method name, functor.form = .namedAccess receiver method →
      method.form = .qualifiedName name → functions.has name = false)
    (args : List Expr) (lambda : Option Lambda) :
    ∃ err, Rejected functions (.callMethod functor args lambda) err := by
  by_cases hmethod : ∃ receiver method, functor.form = .namedAccess receiver method
  · obtain ⟨form, dot⟩ := functor
    obtain ⟨receiver, method, rfl⟩ := hmethod
    by_cases hname : ∃ name, method.form = .qualifiedName name
    · obtain ⟨form, place⟩ := method
      obtain ⟨name, rfl⟩ := hname
      exact ⟨_, .unknownMethod (h _ _ name rfl rfl) receiver place dot args lambda⟩
    · exact ⟨_, .methodName (fun name hform => hname ⟨name, hform⟩) receiver dot args lambda⟩
  · exact ⟨_, .method (fun receiver method hform => hmethod ⟨receiver, method, hform⟩) args lambda⟩

/-- Whatever is misshapen is rejected. -/
theorem Form.IsMisshapen.exists_rejected {form : Form} (h : form.IsMisshapen functions) :
    ∃ err, Rejected functions form err := by
  cases form with
  | assignment op left right =>
    cases op with
    | assign =>
      rcases left.isTarget_or_offends with htarget | ⟨x, hx⟩
      · rcases h with hillegal | ⟨arith, hop, -⟩
        · exact absurd htarget hillegal
        · cases hop
      · exact ⟨_, .target hx right⟩
    | compound arith =>
      refine exists_rejected_compound (h.imp_right ?_) right
      rintro ⟨_, hop, hcompound⟩
      cases hop
      exact hcompound
  | callNamed functor args lambda => exact exists_rejected_callNamed h args lambda
  | callMethod functor args lambda => exact exists_rejected_callMethod h args lambda
  | _ => exact h.elim

end Coverage

namespace Evaluator

open EvalM

variable {E : Evaluator} {n : Nat}

/-- The evaluation of a form that is rejected fails at once, with its error and nothing else. -/
theorem evalForm_rejected {form : Form} {err : EvalError} (h : Rejected E.functions form err)
    (s : State) : E.evalForm (E.invoke n) form s = some (.error err, s) := by
  cases h with
  | target first right =>
    rw [evalForm_assign, first.ofExpr_eq]
    rfl
  | operator hop left right =>
    rw [evalForm_compound, if_neg (ne_true_of_eq_false hop)]
    rfl
  | compoundTarget hop first right =>
    rw [evalForm_compound, if_pos hop, compoundName, first.ofExpr_eq]
    rfl
  | compoundList hop legal place right =>
    obtain ⟨targets, htargets⟩ := Target.exists_ofExprs fun e he => (legal e he).exists_ofExpr
    rw [evalForm_compound, if_pos hop, compoundName, Target.ofExpr_list htargets]
    rfl
  | @functor functor hname args lambda =>
    obtain ⟨form, span⟩ := functor
    cases form with
    | qualifiedName name => exact absurd rfl (hname name)
    | _ => rfl
  | @method functor hname args lambda =>
    obtain ⟨form, span⟩ := functor
    cases form with
    | namedAccess receiver name => exact absurd rfl (hname receiver name)
    | _ => rfl
  | @methodName name hname receiver dot args lambda =>
    obtain ⟨form, span⟩ := name
    cases form with
    | qualifiedName word => exact absurd rfl (hname word)
    | _ => rfl
  | unknown hunknown =>
    rw [evalForm_callNamed, if_neg (ne_true_of_eq_false hunknown)]
    rfl
  | unknownMethod hunknown =>
    rw [evalForm_callMethod, if_neg (ne_true_of_eq_false hunknown)]
    rfl

/-- **What is misshapen has no effect.** An expression denotes a target exactly if it can be
assigned to, and the error that it causes otherwise points at the first expression in it that
offends. An assignment or a call whose shape is illegal, or whose function does not exist, fails in
every state and leaves that as it was, whatever else is in it. -/
theorem eval_misshapen (E : Evaluator) :
    (∀ e : Expr, (∃ target, Target.ofExpr e = .ok target) ↔ e.IsTarget) ∧
    (∀ (e : Expr) err, Target.ofExpr e = .error err → ∃ x : Expr, x.OffendsFirstIn e ∧
      err.cause = x.offence ∧ err.span = some x.span ∧ err.node = some x.kind) ∧
    ∀ form : Form, form.IsMisshapen E.functions → ∃ err, Rejected E.functions form err ∧
      ∀ span n s, E.eval n ⟨form, span⟩ s = some (.error (err.withNode form.kind span), s) := by
  refine ⟨fun e => Expr.exists_ofExpr_iff, fun e err h => ?_, fun form h => ?_⟩
  · obtain ⟨x, hx, rfl⟩ := Expr.ofExpr_eq_error_iff.1 h
    exact ⟨x, hx, rfl, rfl, rfl⟩
  · obtain ⟨err, herr⟩ := h.exists_rejected
    exact ⟨err, herr, fun span n s => located_of_error (evalForm_rejected herr s) _ _⟩

/-- The list `[$a, -5]`, of which the second member is no target. -/
def spoiledList : Expr :=
  ⟨.list [⟨.variable ⟨.qualifiedName "a", ⟨1, 3⟩⟩, ⟨1, 3⟩⟩,
    ⟨.literal (.integer (-5)), ⟨5, 7⟩⟩], ⟨0, 8⟩⟩

/-- Neither `[$a, -5] = touch()` nor `unheard(touch())` calls `touch`. -/
theorem eval_misshapen_touch :
    (∃ e, Library.evaluator.eval 0 ⟨.assignment .assign spoiledList Library.touchCall, ⟨0, 18⟩⟩
        nothingBound = some (.error e, nothingBound)) ∧
      ∃ e, Library.evaluator.eval 0
        ⟨.callNamed ⟨.qualifiedName "unheard", ⟨0, 7⟩⟩ [Library.touchCall] none, ⟨0, 16⟩⟩
          nothingBound = some (.error e, nothingBound) := by
  obtain ⟨htarget, -, heval⟩ := eval_misshapen Library.evaluator
  refine ⟨?_, ?_⟩
  · have hspoiled : ¬ spoiledList.IsTarget := fun h => by
      obtain ⟨target, hok⟩ := (htarget spoiledList).2 h
      cases hok
    obtain ⟨_, -, hrun⟩ := heval (.assignment .assign spoiledList Library.touchCall) (.inl hspoiled)
    exact ⟨_, hrun ⟨0, 18⟩ 0 nothingBound⟩
  · obtain ⟨_, -, hrun⟩ := heval
      (.callNamed ⟨.qualifiedName "unheard", ⟨0, 7⟩⟩ [Library.touchCall] none)
      fun name hname => by
        cases hname
        rfl
    exact ⟨_, hrun ⟨0, 16⟩ 0 nothingBound⟩

end Evaluator

end Manifest
