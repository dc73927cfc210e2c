import Manifest.Binary64
import Manifest.Operator
import Manifest.Span

/-!
# Expressions

A program is a tree of expressions. An expression is a `Form`, which says what it is, at a
`Span`, which says where it stands. The forms are closed: every construct of the language is one
of them.

Every form has the name of its kind, which errors mention.
-/

namespace Manifest

/-! ## The tree -/

/-- A literal, which evaluates to itself. -/
inductive Literal where
  | integer (value : Int64)
  | float (value : Binary64)
  | boolean (value : Bool)
  | string (value : String)

mutual

/-- An expression: what it is and where it stands. -/
structure Expr where
  /-- what the expression is -/
  form : Form
  /-- where it stands -/
  span : Span

/-- What an expression is. -/
inductive Form where
  /-- the empty statement -/
  | nop
  /-- `undef` -/
  | absent
  /-- `default` -/
  | default
  /-- a literal -/
  | literal (value : Literal)
  /-- `/pattern/` -/
  | regex (source : String)
  /-- a bare word, such as `present` or `foo::bar` -/
  | qualifiedName (name : String)
  /-- a capitalised type name, such as `Integer` -/
  | qualifiedReference (name : String)
  /-- a keyword that stands for itself -/
  | reservedWord (word : String)
  /-- `$name` or `$1`; the inner expression is a bare word or an integer -/
  | variable (inner : Expr)
  /-- `!operand` or `-operand` -/
  | unary (op : UnaryOp) (operand : Expr)
  /-- `*inner`, which splices its elements where a list is expected -/
  | unfold (inner : Expr)
  | arithmetic (op : ArithmeticOp) (left right : Expr)
  | comparison (op : ComparisonOp) (left right : Expr)
  | matching (op : MatchOp) (left right : Expr)
  /-- `left in right` -/
  | membership (left right : Expr)
  | conjunction (left right : Expr)
  | disjunction (left right : Expr)
  | relationship (op : RelationshipOp) (left right : Expr)
  | assignment (op : AssignOp) (left right : Expr)
  | parenthesized (inner : Expr)
  | block (statements : List Expr)
  | program (inner : Expr)
  | ifThen (test yes : Expr) (no : Option Expr)
  | unlessThen (test yes : Expr) (no : Option Expr)
  | caseOf (test : Expr) (options : List CaseOption)
  | selector (test : Expr) (entries : List SelectorEntry)
  /-- `receiver[keys]` -/
  | access (receiver : Expr) (keys : List Expr)
  /-- `receiver.name`, which only means something in front of arguments -/
  | namedAccess (receiver name : Expr)
  /-- `name(args) |params| { body }` -/
  | callNamed (functor : Expr) (args : List Expr) (lambda : Option Lambda)
  /-- `receiver.name(args) |params| { body }` -/
  | callMethod (functor : Expr) (args : List Expr) (lambda : Option Lambda)
  | list (items : List Expr)
  | hash (entries : List HashEntry)
  /-- a text with embedded expressions -/
  | interpolation (segments : List Expr)
  /-- `${inner}` inside a text -/
  | text (inner : Expr)
  | heredoc (language : Option String) (inner : Expr)
  | virtualQuery (query : Option Expr)
  | exportedQuery (query : Option Expr)
  | collect (typeName query : Expr)

/-- An option of a `case`: any of its candidates selects its result. -/
structure CaseOption where
  /-- the patterns that are tried, in order -/
  candidates : List Expr
  /-- what the option evaluates to -/
  result : Expr
  /-- where the option stands -/
  span : Span

/-- An entry `pattern => result` of a selector. -/
structure SelectorEntry where
  /-- the pattern that is tried -/
  pattern : Expr
  /-- what the entry evaluates to -/
  result : Expr

/-- An entry `key => value` of a hash literal. -/
structure HashEntry where
  /-- the expression of the key -/
  key : Expr
  /-- the expression of the value -/
  value : Expr

/-- A lambda at a call site. The identity tells the lambdas of a program apart: two lambdas are
one and the same node exactly when their identities agree. -/
structure Lambda where
  /-- the identity of the node -/
  id : Nat
  /-- the parameters, in order -/
  params : List Param
  /-- what a call evaluates -/
  body : Expr
  /-- where the lambda stands -/
  span : Span

/-- A parameter of a lambda. -/
structure Param where
  /-- the name that the argument is bound to -/
  name : String
  /-- the expression that stands in for a missing argument -/
  default : Option Expr
  /-- where the parameter stands -/
  span : Span

end

/-! ## Kinds -/

/-- The name of a literal's kind. -/
def Literal.kind : Literal → String
  | .integer _ => "LiteralInteger"
  | .float _ => "LiteralFloat"
  | .boolean _ => "LiteralBoolean"
  | .string _ => "LiteralString"

namespace Form

/-- The name of a form's kind. -/
def kind : Form → String
  | .nop => "Nop"
  | .absent => "Undef"
  | .default => "Default"
  | .literal value => value.kind
  | .regex _ => "LiteralRegex"
  | .qualifiedName _ => "QualifiedName"
  | .qualifiedReference _ => "QualifiedReference"
  | .reservedWord _ => "ReservedWord"
  | .variable _ => "Variable"
  | .unary .not _ => "Not"
  | .unary .neg _ => "UnaryMinus"
  | .unfold _ => "Unfold"
  | .arithmetic .. => "Arithmetic"
  | .comparison .. => "Comparison"
  | .matching .. => "Match"
  | .membership .. => "In"
  | .conjunction .. => "And"
  | .disjunction .. => "Or"
  | .relationship .. => "Relationship"
  | .assignment .. => "Assignment"
  | .parenthesized _ => "Parenthesized"
  | .block _ => "Block"
  | .program _ => "Program"
  | .ifThen .. => "If"
  | .unlessThen .. => "Unless"
  | .caseOf .. => "Case"
  | .selector .. => "Selector"
  | .access .. => "Access"
  | .namedAccess .. => "NamedAccess"
  | .callNamed .. => "CallNamedFunction"
  | .callMethod .. => "CallMethod"
  | .list _ => "LiteralList"
  | .hash _ => "LiteralHash"
  | .interpolation _ => "ConcatenatedString"
  | .text _ => "Text"
  | .heredoc .. => "Heredoc"
  | .virtualQuery _ => "VirtualQuery"
  | .exportedQuery _ => "ExportedQuery"
  | .collect .. => "Collect"

/-- Whether the form is the `default` marker. -/
def isDefault : Form → Bool
  | .default => true
  | _ => false

/-- Whether the form splices its elements. -/
def isUnfold : Form → Bool
  | .unfold _ => true
  | _ => false

end Form

namespace Expr

/-- The name of an expression's kind. -/
def kind (e : Expr) : String :=
  e.form.kind

/-- Whether the expression is the `default` marker. -/
def isDefault (e : Expr) : Bool :=
  e.form.isDefault

/-- Whether the expression splices its elements. -/
def isUnfold (e : Expr) : Bool :=
  e.form.isUnfold

end Expr

/-! ## Parameters -/

/-- Whether a call has to supply the parameter. -/
def Param.isRequired (p : Param) : Bool :=
  p.default.isNone

/-- How many parameters a call has to supply. -/
def Lambda.requiredCount (l : Lambda) : Nat :=
  l.params.countP (·.isRequired)

end Manifest
