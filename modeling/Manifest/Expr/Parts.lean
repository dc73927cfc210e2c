import Manifest.Expr

/-!
# Parts of expressions

Expressions are made of expressions. Here these are the *parts* of an expression, whatever its
kind; the body of a lambda and the defaults of its parameters are parts of the call that the lambda
stands at.

* `Form.parts` — the parts.
* `Expr.OccursIn` — to be an expression, one of its parts, a part of these, and so on.
* `NodeSet` — a set of expressions that has the parts of its members, such as all that occur in a
  program (`NodeSet.of`).
-/

namespace Manifest

/-- The expressions that a lambda is made of: its body and the defaults of its parameters. -/
def Lambda.parts (l : Lambda) : List Expr :=
  l.body :: l.params.filterMap (·.default)

/-- The expressions that a form is made of. -/
def Form.parts : Form → List Expr
  | .nop | .absent | .default | .literal _ | .regex _ => []
  | .qualifiedName _ | .qualifiedReference _ | .reservedWord _ => []
  | .variable inner | .unary _ inner | .unfold inner | .parenthesized inner => [inner]
  | .program inner | .text inner | .heredoc _ inner => [inner]
  | .arithmetic _ left right | .comparison _ left right | .matching _ left right => [left, right]
  | .membership left right | .conjunction left right | .disjunction left right => [left, right]
  | .relationship _ left right | .assignment _ left right => [left, right]
  | .block items | .list items | .interpolation items => items
  | .ifThen test yes no | .unlessThen test yes no => test :: yes :: no.toList
  | .caseOf test options => test :: options.flatMap fun o => o.result :: o.candidates
  | .selector test entries => test :: entries.flatMap fun e => [e.pattern, e.result]
  | .access receiver keys => receiver :: keys
  | .namedAccess receiver name => [receiver, name]
  | .callNamed functor args lambda | .callMethod functor args lambda =>
    functor :: (args ++ lambda.toList.flatMap Lambda.parts)
  | .hash entries => entries.flatMap fun e => [e.key, e.value]
  | .virtualQuery query | .exportedQuery query => query.toList
  | .collect typeName query => [typeName, query]

/-- The expressions that an expression is made of. -/
def Expr.parts (e : Expr) : List Expr :=
  e.form.parts

/-- An expression occurs in itself, and in whatever has a part that it occurs in. -/
inductive Expr.OccursIn (x : Expr) : Expr → Prop where
  | here : OccursIn x x
  | inside {e part : Expr} (hpart : part ∈ e.parts) (h : OccursIn x part) : OccursIn x e

/-- Occurrence is transitive. -/
theorem Expr.OccursIn.trans {x y e : Expr} (hxy : x.OccursIn y) (hy : y.OccursIn e) :
    x.OccursIn e := by
  induction hy with
  | here => exact hxy
  | inside hpart _ ih => exact .inside hpart ih

/-! ## Sets of expressions -/

/-- A set of expressions that has the parts of its members, and what is known of the values that
they are evaluated with. -/
structure NodeSet where
  /-- what the set consists of -/
  Mem : Expr → Prop
  parts_mem : ∀ {e part : Expr}, Mem e → part ∈ e.parts → Mem part
  /-- whether the keys of all values are known to be distinct -/
  DistinctKeys : Prop

namespace NodeSet

/-- All expressions. -/
def all : NodeSet :=
  ⟨fun _ => True, fun _ _ => trivial, False⟩

theorem mem_all (e : Expr) : all.Mem e :=
  trivial

/-- All expressions, evaluated with values whose keys are distinct. -/
def allDistinct : NodeSet :=
  { all with DistinctKeys := True }

/-- The expressions that occur in one. -/
def of (e : Expr) : NodeSet :=
  ⟨fun x => x.OccursIn e, fun hx hpart => .trans (.inside hpart .here) hx, False⟩

/-- The set has the parts of a lambda, be the lambda part of a call in the set or not. -/
def HasLambda (N : NodeSet) (l : Lambda) : Prop :=
  ∀ e ∈ l.parts, N.Mem e

end NodeSet

end Manifest
