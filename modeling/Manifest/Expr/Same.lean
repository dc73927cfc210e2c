import Manifest.Expr

/-!
# Equality of trees

Two trees are the same when they have the same forms at the same spans throughout. Floats are
compared as numbers, so that a tree that holds a number which is none differs from itself, and
the two zeros are the same. Lambdas are compared by what they say, not by their identity.
-/

namespace Manifest

/-- Equality of literals; floats as numbers. -/
def Literal.same : Literal → Literal → Bool
  | .integer a, .integer b => a == b
  | .float a, .float b => a.toFloat == b.toFloat
  | .boolean a, .boolean b => a == b
  | .string a, .string b => a == b
  | _, _ => false

mutual

/-- Equality of expressions. -/
def Expr.same : Expr → Expr → Bool
  | ⟨f, s⟩, ⟨g, t⟩ => f.same g && s == t
termination_by structural e => e

/-- Equality of forms. -/
def Form.same : Form → Form → Bool
  | .nop, .nop => true
  | .absent, .absent => true
  | .default, .default => true
  | .literal a, .literal b => a.same b
  | .regex a, .regex b => a == b
  | .qualifiedName a, .qualifiedName b => a == b
  | .qualifiedReference a, .qualifiedReference b => a == b
  | .reservedWord a, .reservedWord b => a == b
  | .variable a, .variable b => a.same b
  | .unary op a, .unary op' b => op == op' && a.same b
  | .unfold a, .unfold b => a.same b
  | .arithmetic op a c, .arithmetic op' b d => op == op' && a.same b && c.same d
  | .comparison op a c, .comparison op' b d => op == op' && a.same b && c.same d
  | .matching op a c, .matching op' b d => op == op' && a.same b && c.same d
  | .membership a c, .membership b d => a.same b && c.same d
  | .conjunction a c, .conjunction b d => a.same b && c.same d
  | .disjunction a c, .disjunction b d => a.same b && c.same d
  | .relationship op a c, .relationship op' b d => op == op' && a.same b && c.same d
  | .assignment op a c, .assignment op' b d => op == op' && a.same b && c.same d
  | .parenthesized a, .parenthesized b => a.same b
  | .block as, .block bs => sameAll as bs
  | .program a, .program b => a.same b
  | .ifThen a c x, .ifThen b d y => a.same b && c.same d && sameOption x y
  | .unlessThen a c x, .unlessThen b d y => a.same b && c.same d && sameOption x y
  | .caseOf a xs, .caseOf b ys => a.same b && sameOptions xs ys
  | .selector a xs, .selector b ys => a.same b && sameSelectorEntries xs ys
  | .access a xs, .access b ys => a.same b && sameAll xs ys
  | .namedAccess a c, .namedAccess b d => a.same b && c.same d
  | .callNamed a xs l, .callNamed b ys m => a.same b && sameAll xs ys && sameLambda l m
  | .callMethod a xs l, .callMethod b ys m => a.same b && sameAll xs ys && sameLambda l m
  | .list xs, .list ys => sameAll xs ys
  | .hash xs, .hash ys => sameHashEntries xs ys
  | .interpolation xs, .interpolation ys => sameAll xs ys
  | .text a, .text b => a.same b
  | .heredoc l a, .heredoc m b => l == m && a.same b
  | .virtualQuery x, .virtualQuery y => sameOption x y
  | .exportedQuery x, .exportedQuery y => sameOption x y
  | .collect a c, .collect b d => a.same b && c.same d
  | _, _ => false
termination_by structural f => f

/-- Equality of lists of expressions. -/
def sameAll : List Expr → List Expr → Bool
  | [], [] => true
  | a :: as, b :: bs => a.same b && sameAll as bs
  | _, _ => false
termination_by structural as => as

/-- Equality of expressions that may be missing. -/
def sameOption : Option Expr → Option Expr → Bool
  | none, none => true
  | some a, some b => a.same b
  | _, _ => false
termination_by structural a => a

/-- Equality of the options of a `case`. -/
def sameOptions : List CaseOption → List CaseOption → Bool
  | [], [] => true
  | ⟨cs, r, s⟩ :: as, ⟨ds, q, t⟩ :: bs =>
    sameAll cs ds && r.same q && s == t && sameOptions as bs
  | _, _ => false
termination_by structural as => as

/-- Equality of the entries of a selector. -/
def sameSelectorEntries : List SelectorEntry → List SelectorEntry → Bool
  | [], [] => true
  | ⟨p, r⟩ :: as, ⟨q, t⟩ :: bs => p.same q && r.same t && sameSelectorEntries as bs
  | _, _ => false
termination_by structural as => as

/-- Equality of the entries of a hash literal. -/
def sameHashEntries : List HashEntry → List HashEntry → Bool
  | [], [] => true
  | ⟨k, v⟩ :: as, ⟨l, w⟩ :: bs => k.same l && v.same w && sameHashEntries as bs
  | _, _ => false
termination_by structural as => as

/-- Equality of lambdas that may be missing. -/
def sameLambda : Option Lambda → Option Lambda → Bool
  | none, none => true
  | some ⟨_, ps, b, s⟩, some ⟨_, qs, c, t⟩ => sameParams ps qs && b.same c && s == t
  | _, _ => false
termination_by structural l => l

/-- Equality of lists of parameters. -/
def sameParams : List Param → List Param → Bool
  | [], [] => true
  | ⟨n, d, s⟩ :: as, ⟨m, e, t⟩ :: bs =>
    n == m && sameOption d e && s == t && sameParams as bs
  | _, _ => false
termination_by structural as => as

end

end Manifest
