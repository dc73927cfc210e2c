/-!
# Operators

One type per family of operators, each with its symbol in programs and messages and with its
name. Families are kept apart because every family has an evaluation rule of its own.
-/

namespace Manifest

/-! ## Arithmetic -/

/-- The arithmetic operators. -/
inductive ArithmeticOp where
  | add
  | sub
  | mul
  | div
  | mod
  | shiftLeft
  | shiftRight
deriving DecidableEq

namespace ArithmeticOp

/-- The symbol of the operator. -/
def symbol : ArithmeticOp → String
  | .add => "+"
  | .sub => "-"
  | .mul => "*"
  | .div => "/"
  | .mod => "%"
  | .shiftLeft => "<<"
  | .shiftRight => ">>"

/-- The name of the operator. -/
def name : ArithmeticOp → String
  | .add => "Add"
  | .sub => "Sub"
  | .mul => "Mul"
  | .div => "Div"
  | .mod => "Mod"
  | .shiftLeft => "Shl"
  | .shiftRight => "Shr"

/-- Whether the operator also combines collections: `+` joins, `-` removes, `<<` appends. -/
def joinsCollections : ArithmeticOp → Bool
  | .add | .sub | .shiftLeft => true
  | _ => false

/-- Whether the operator knows integers only. -/
def integersOnly : ArithmeticOp → Bool
  | .mod | .shiftLeft | .shiftRight => true
  | _ => false

end ArithmeticOp

/-! ## Comparison and matching -/

/-- The comparison operators. -/
inductive ComparisonOp where
  | eq
  | notEq
  | lt
  | le
  | gt
  | ge
deriving DecidableEq

namespace ComparisonOp

/-- The symbol of the operator. -/
def symbol : ComparisonOp → String
  | .eq => "=="
  | .notEq => "!="
  | .lt => "<"
  | .le => "<="
  | .gt => ">"
  | .ge => ">="

/-- The name of the operator. -/
def name : ComparisonOp → String
  | .eq => "Eq"
  | .notEq => "NotEq"
  | .lt => "Lt"
  | .le => "LtEq"
  | .gt => "Gt"
  | .ge => "GtEq"

end ComparisonOp

/-- The operators that match a text against a pattern. -/
inductive MatchOp where
  | matches
  | differs
deriving DecidableEq

namespace MatchOp

/-- The symbol of the operator. -/
def symbol : MatchOp → String
  | .matches => "=~"
  | .differs => "!~"

/-- The name of the operator. -/
def name : MatchOp → String
  | .matches => "Match"
  | .differs => "NotMatch"

end MatchOp

/-! ## Relationships -/

/-- The operators that order resources. -/
inductive RelationshipOp where
  /-- `->`, left before right -/
  | before
  /-- `~>`, left before right, and right is told -/
  | notifies
  /-- `<-`, right before left -/
  | after
  /-- `<~`, right before left, and left is told -/
  | subscribes
deriving DecidableEq

namespace RelationshipOp

/-- The symbol of the operator. -/
def symbol : RelationshipOp → String
  | .before => "->"
  | .notifies => "~>"
  | .after => "<-"
  | .subscribes => "<~"

/-- The name of the operator. -/
def name : RelationshipOp → String
  | .before => "Before"
  | .notifies => "Notify"
  | .after => "After"
  | .subscribes => "Subscribe"

end RelationshipOp

/-! ## Assignment -/

/-- The assignment operators. A compound form exists for every arithmetic operator, though only
`+=` and `-=` can be evaluated. -/
inductive AssignOp where
  | assign
  | compound (op : ArithmeticOp)
deriving DecidableEq

namespace AssignOp

/-- The symbol of the operator. -/
def symbol : AssignOp → String
  | .assign => "="
  | .compound op => op.symbol ++ "="

/-- The name of the operator. -/
def name : AssignOp → String
  | .assign => "Assign"
  | .compound op => "Compound(" ++ op.name ++ ")"

end AssignOp

/-! ## Unary operators -/

/-- The operators with one operand. -/
inductive UnaryOp where
  | not
  | neg
deriving DecidableEq

namespace UnaryOp

/-- The symbol of the operator. -/
def symbol : UnaryOp → String
  | .not => "!"
  | .neg => "-"

/-- The name of the operator. -/
def name : UnaryOp → String
  | .not => "Not"
  | .neg => "Neg"

end UnaryOp

end Manifest
