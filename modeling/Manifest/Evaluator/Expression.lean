import Manifest.Evaluator.Operation

/-!
# Evaluation of expressions

Expressions are evaluated by recursion on their tree. What a call does once its function and its
arguments are known is not part of the tree, since it may run a closure whose body is any
expression; so the rules here are given an `invoke` for it. `Manifest.Evaluator.Run` supplies it.

Every rule of the language is one equation of `evalForm`. The other functions evaluate the parts
of a form: items with splices, segments of texts, candidates of a choice.
-/

namespace Manifest

/-- What a call does: from the name of the function, its arguments, and the place of the name. -/
abbrev Invoke := String → List Value → Span → EvalM Value

namespace Evaluator

open EvalM

/-- The closure that a lambda makes here, as the last arguments of its call. -/
def lambdaArgument (E : Evaluator) : Option Lambda → EvalM (List Value)
  | none => pure []
  | some lambda => do pure [.closure ⟨lambda, ← E.captured⟩]

/-- The kind of error that stands for a form where it makes no sense. -/
def misplaced {α : Type} (e : Expr) : EvalM α :=
  raise ((EvalError.ofCause (.illegalExpression e.kind)).atExpr e)

mutual

/-- The value of an expression. Errors without a place get that of the expression. -/
def evalExpr (E : Evaluator) (invoke : Invoke) : Expr → EvalM Value
  | ⟨form, span⟩ => located form.kind span (E.evalForm invoke form)
termination_by structural e => e

/-- The value of a form. -/
def evalForm (E : Evaluator) (invoke : Invoke) : Form → EvalM Value
  | .nop => pure .absent
  | .absent => pure .absent
  | .virtualQuery _ => pure .absent
  | .exportedQuery _ => pure .absent
  | .collect _ _ => pure .absent
  | .default => pure .default
  | .literal value => pure (.ofLiteral value)
  | .regex source => do pure (.regex (← compile E.engine source))
  | .qualifiedName name => pure (.string name)
  | .reservedWord word => pure (.string word)
  | .qualifiedReference name =>
    pure (.type (.named (LetterCase.capitalizeSegments name)))
  | .variable inner => E.lookupVariable inner
  | .unary .not operand => do
    let v ← E.evalExpr invoke operand
    pure (.boolean !v.isTruthy)
  | .unary .neg operand => do
    let v ← E.evalExpr invoke operand
    ofExcept v.negate
  | .unfold inner => do
    let v ← E.evalExpr invoke inner
    pure (.array v.unfold)
  | .arithmetic op left right => do
    let a ← E.evalExpr invoke left
    let b ← E.evalExpr invoke right
    ofExcept (a.combine op b)
  | .comparison op left right => do
    let a ← E.evalExpr invoke left
    let b ← E.evalExpr invoke right
    ofExcept ((E.comparator.holds op a b).map .boolean)
  | .matching op left right => do
    let a ← E.evalExpr invoke left
    let b ← E.evalExpr invoke right
    E.matchOperands op a b
  | .membership left right => do
    let a ← E.evalExpr invoke left
    let b ← E.evalExpr invoke right
    pure (.boolean (E.comparator.includes b a))
  | .conjunction left right => do
    let a ← E.evalExpr invoke left
    if a.isTruthy then do
      let b ← E.evalExpr invoke right
      pure (.boolean b.isTruthy)
    else pure (.boolean false)
  | .disjunction left right => do
    let a ← E.evalExpr invoke left
    if a.isTruthy then pure (.boolean true)
    else do
      let b ← E.evalExpr invoke right
      pure (.boolean b.isTruthy)
  | .relationship op left right => do
    let a ← E.evalExpr invoke left
    let b ← E.evalExpr invoke right
    relate op a b
  | .assignment .assign left right => do
    let target ← ofExcept (Target.ofExpr left)
    let value ← E.evalExpr invoke right
    assignTarget target value
  | .assignment (.compound op) left right =>
    if isCompound op then do
      let name ← ofExcept (compoundName left)
      let value ← E.evalExpr invoke right
      assignCompound (.compound op) op name value
    else failWith (.unsupportedOperator (AssignOp.compound op).symbol)
  | .parenthesized inner => E.evalExpr invoke inner
  | .program inner => E.evalExpr invoke inner
  | .text inner => E.evalExpr invoke inner
  | .heredoc _ inner => E.evalExpr invoke inner
  | .block statements => E.evalBlock invoke statements .absent
  | .ifThen test yes no => guarded do
    changeEnv (·.openFence)
    let v ← E.evalExpr invoke test
    if v.isTruthy then E.evalExpr invoke yes else E.evalOption invoke no
  | .unlessThen test yes no => guarded do
    changeEnv (·.openFence)
    let v ← E.evalExpr invoke test
    if v.isTruthy then E.evalOption invoke no else E.evalExpr invoke yes
  | .caseOf test options => guarded do
    changeEnv (·.openFence)
    let subject ← E.evalExpr invoke test
    E.evalOptions invoke subject options (pure .absent)
  | .selector test entries => guarded do
    changeEnv (·.openFence)
    let subject ← E.evalExpr invoke test
    E.evalEntries invoke subject entries
  | .access receiver keys => do
    let v ← E.evalExpr invoke receiver
    let ks ← E.evalItems invoke keys
    ofExcept (v.access ks)
  | .namedAccess receiver name => failWith (.illegalExpression (Form.namedAccess receiver name).kind)
  | .callNamed functor args lambda =>
    match functor with
    | ⟨.qualifiedName name, span⟩ =>
      if E.functions.has name then do
        let vs ← E.evalItems invoke args
        let f ← E.lambdaArgument lambda
        invoke name (vs ++ f) span
      else failWith (.unknownFunction name)
    | functor => misplaced functor
  | .callMethod functor args lambda =>
    match functor with
    | ⟨.namedAccess receiver ⟨.qualifiedName name, span⟩, _⟩ =>
      if E.functions.has name then do
        let v ← E.evalExpr invoke receiver
        let vs ← E.evalItems invoke args
        let f ← E.lambdaArgument lambda
        invoke name (v :: vs ++ f) span
      else failWith (.unknownFunction name)
    | ⟨.namedAccess _ name, _⟩ => misplaced name
    | functor => misplaced functor
  | .list items => do
    let vs ← E.evalItems invoke items
    pure (.array vs)
  | .hash entries => E.evalHash invoke entries []
  | .interpolation segments => do
    let texts ← E.evalSegments invoke segments
    pure (.string (String.join texts))
termination_by structural f => f

/-- The value of the last statement, or of what came before when there is none. -/
def evalBlock (E : Evaluator) (invoke : Invoke) : List Expr → Value → EvalM Value
  | [], last => pure last
  | e :: rest, _ => do
    let v ← E.evalExpr invoke e
    E.evalBlock invoke rest v
termination_by structural es => es

/-- The value of a branch that may be missing. -/
def evalOption (E : Evaluator) (invoke : Invoke) : Option Expr → EvalM Value
  | none => pure .absent
  | some e => E.evalExpr invoke e
termination_by structural e => e

/-- The values that an expression contributes to a list: those of a splice, or its own. -/
def evalItem (E : Evaluator) (invoke : Invoke) : Expr → EvalM (List Value)
  | ⟨.unfold inner, _⟩ => do
    let v ← E.evalExpr invoke inner
    pure v.unfold
  | ⟨form, span⟩ => do
    let v ← located form.kind span (E.evalForm invoke form)
    pure [v]
termination_by structural e => e

/-- The values that expressions contribute to a list. -/
def evalItems (E : Evaluator) (invoke : Invoke) : List Expr → EvalM (List Value)
  | [] => pure []
  | e :: rest => do
    let vs ← E.evalItem invoke e
    let ws ← E.evalItems invoke rest
    pure (vs ++ ws)
termination_by structural es => es

/-- The value of a hash literal, given the entries that were evaluated before. -/
def evalHash (E : Evaluator) (invoke : Invoke) : List HashEntry → Entries → EvalM Value
  | [], entries => pure (.hash entries)
  | ⟨key, value⟩ :: rest, entries => do
    let k ← E.evalExpr invoke key
    let v ← E.evalExpr invoke value
    E.evalHash invoke rest (entries.insert k v)
termination_by structural es => es

/-- The value of a segment of a text. A bare word or an integer inside it names a variable. -/
def evalSegment (E : Evaluator) (invoke : Invoke) : Expr → EvalM Value
  | ⟨.text ⟨.qualifiedName name, inner⟩, span⟩ =>
    located (Form.text ⟨.qualifiedName name, inner⟩).kind span
      (E.lookupVariable ⟨.qualifiedName name, inner⟩)
  | ⟨.text ⟨.literal (.integer n), inner⟩, span⟩ =>
    located (Form.text ⟨.literal (.integer n), inner⟩).kind span
      (E.lookupVariable ⟨.literal (.integer n), inner⟩)
  | ⟨form, span⟩ => located form.kind span (E.evalForm invoke form)
termination_by structural e => e

/-- The texts of the segments of a text. -/
def evalSegments (E : Evaluator) (invoke : Invoke) : List Expr → EvalM (List String)
  | [] => pure []
  | e :: rest => do
    let v ← E.evalSegment invoke e
    let texts ← E.evalSegments invoke rest
    pure (v.interpolated :: texts)
termination_by structural es => es

/-- Whether a candidate of a choice selects the subject; a splice does when one of its elements
does. -/
def evalCandidate (E : Evaluator) (invoke : Invoke) (subject : Value) : Expr → EvalM Bool
  | ⟨.unfold inner, _⟩ => do
    let v ← E.evalExpr invoke inner
    E.selectsAny subject v.unfold
  | ⟨form, span⟩ => do
    let v ← located form.kind span (E.evalForm invoke form)
    E.selects subject v
termination_by structural e => e

/-- Whether one of the candidates of an option selects the subject. The `default` marker does
not. -/
def evalCandidates (E : Evaluator) (invoke : Invoke) (subject : Value) : List Expr → EvalM Bool
  | [] => pure false
  | e :: rest =>
    if e.isDefault then E.evalCandidates invoke subject rest
    else do
      let found ← E.evalCandidate invoke subject e
      if found then pure true else E.evalCandidates invoke subject rest
termination_by structural es => es

/-- The value of the first option that is selected or, failing that, of the last one with the
`default` marker. -/
def evalOptions (E : Evaluator) (invoke : Invoke) (subject : Value) :
    List CaseOption → EvalM Value → EvalM Value
  | [], fallback => fallback
  | ⟨candidates, result, _⟩ :: rest, fallback => do
    let found ← E.evalCandidates invoke subject candidates
    if found then E.evalExpr invoke result
    else
      E.evalOptions invoke subject rest
        (if candidates.any (·.isDefault) then E.evalExpr invoke result else fallback)
termination_by structural os => os

/-- The value of the first entry whose pattern selects the subject or is the `default` marker. -/
def evalEntries (E : Evaluator) (invoke : Invoke) (subject : Value) :
    List SelectorEntry → EvalM Value
  | [] => pure .absent
  | ⟨pattern, result⟩ :: rest =>
    if pattern.isDefault then E.evalExpr invoke result
    else do
      let found ← E.evalCandidate invoke subject pattern
      if found then E.evalExpr invoke result else E.evalEntries invoke subject rest
termination_by structural es => es

end

/-! ## Single forms -/

variable (E : Evaluator) (invoke : Invoke)

/-- An assignment: the target is found first, then the value. -/
theorem evalForm_assign (left right : Expr) :
    E.evalForm invoke (.assignment .assign left right) = (do
      let target ← ofExcept (Target.ofExpr left)
      let value ← E.evalExpr invoke right
      assignTarget target value) :=
  rfl

/-- A compound assignment: the name is found first, then the value. -/
theorem evalForm_compound (op : ArithmeticOp) (left right : Expr) :
    E.evalForm invoke (.assignment (.compound op) left right) =
      if isCompound op then do
        let name ← ofExcept (compoundName left)
        let value ← E.evalExpr invoke right
        assignCompound (.compound op) op name value
      else failWith (.unsupportedOperator (AssignOp.compound op).symbol) :=
  rfl

/-- A call of a function: the arguments are evaluated first, then the lambda makes its closure. -/
theorem evalForm_callNamed (name : String) (place : Span) (args : List Expr)
    (lambda : Option Lambda) :
    E.evalForm invoke (.callNamed ⟨.qualifiedName name, place⟩ args lambda) =
      if E.functions.has name then do
        let vs ← E.evalItems invoke args
        let f ← E.lambdaArgument lambda
        invoke name (vs ++ f) place
      else failWith (.unknownFunction name) :=
  rfl

/-- A call with a receiver, which is the first argument. -/
theorem evalForm_callMethod (receiver : Expr) (name : String) (place dot : Span)
    (args : List Expr) (lambda : Option Lambda) :
    E.evalForm invoke
        (.callMethod ⟨.namedAccess receiver ⟨.qualifiedName name, place⟩, dot⟩ args lambda) =
      if E.functions.has name then do
        let v ← E.evalExpr invoke receiver
        let vs ← E.evalItems invoke args
        let f ← E.lambdaArgument lambda
        invoke name (v :: vs ++ f) place
      else failWith (.unknownFunction name) :=
  rfl

/-- A candidate that is no splice selects the subject by its value. -/
theorem evalCandidate_of_not_unfold (subject : Value) {e : Expr} (he : e.isUnfold = false) :
    E.evalCandidate invoke subject e = (do
      let v ← E.evalExpr invoke e
      E.selects subject v) := by
  obtain ⟨form, span⟩ := e
  cases form with
  | unfold inner => cases he
  | _ => rfl

end Evaluator

end Manifest
