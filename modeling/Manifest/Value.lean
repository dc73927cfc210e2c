import Manifest.Expr
import Manifest.NameMap
import Manifest.Regex

/-!
# Values

What expressions evaluate to. Besides scalars and collections there are type references, regular
expressions, and closures: lambdas together with the local bindings that were visible where they
were made.

A hash is the list of its entries in the order of insertion. Its keys are pairwise distinct, which
the operations in `Manifest.Value.Entries` keep.
-/

namespace Manifest

mutual

/-- A value. -/
inductive Value where
  /-- the absence of a value -/
  | absent
  /-- the `default` marker -/
  | default
  | boolean (b : Bool)
  | integer (n : Int64)
  | float (x : Binary64)
  | string (s : String)
  | array (items : List Value)
  | hash (entries : List (Value × Value))
  | type (t : TypeRef)
  | regex (r : Regex)
  | closure (c : Closure)

/-- A reference to a type: its name and what it is specialised to. -/
structure TypeRef where
  /-- the name of the type -/
  name : String
  /-- what the type is specialised to; empty for the plain type -/
  params : List Value

/-- A lambda with the local bindings that were visible where it was made. -/
structure Closure where
  /-- the lambda -/
  lambda : Lambda
  /-- the values captured, by name -/
  captures : List (String × Value)

end

/-- What names are bound to. -/
abbrev Bindings := NameMap Value

namespace TypeRef

/-- The plain type of a name. -/
def named (name : String) : TypeRef :=
  ⟨name, []⟩

/-- Whether the type is specialised. -/
def isParameterized (t : TypeRef) : Bool :=
  !t.params.isEmpty

end TypeRef

/-- The number of parameters of a closure. -/
def Closure.arity (c : Closure) : Nat :=
  c.lambda.params.length

namespace Value

/-- The name of the type that a value has, as messages call it. -/
def typeName : Value → String
  | .absent => "Undef"
  | .default => "Default"
  | .boolean _ => "Boolean"
  | .integer _ => "Integer"
  | .float _ => "Float"
  | .string _ => "String"
  | .array _ => "Array"
  | .hash _ => "Hash"
  | .type _ => "Type"
  | .regex _ => "Regexp"
  | .closure _ => "Callable"

/-- Everything counts as true but the absence of a value and `false`. -/
def isTruthy : Value → Bool
  | .absent | .boolean false => false
  | _ => true

/-- Whether the value is the absence of one. -/
def isAbsent : Value → Bool
  | .absent => true
  | _ => false

/-- Whether the value is the `default` marker. -/
def isDefault : Value → Bool
  | .default => true
  | _ => false

/-- Whether the value is an array or a hash. -/
def isCollection : Value → Bool
  | .array _ | .hash _ => true
  | _ => false

/-- The value that a literal stands for. -/
def ofLiteral : Literal → Value
  | .integer n => .integer n
  | .float x => .float x
  | .boolean b => .boolean b
  | .string s => .string s

/-- The value of a group of a match: its text, or nothing for a group that took no part. -/
def ofGroup : Option String → Value
  | some text => .string text
  | none => .absent

end Value

end Manifest
