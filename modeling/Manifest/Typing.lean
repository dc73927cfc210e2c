import Manifest.Error
import Manifest.Text.Case
import Manifest.Value.Identity

/-!
# Types

Types form a tree with `Any` at its root; a name that is not listed lies right below the root.

* `parent?` — the tree.
* `TypeRef.accepts` — whether values of one type do where another is expected. A specialised type
  accepts itself alone.
* `Value.inferredType` — the type of a value.
* `TypeRef.ofExpr` — the type that a type name in a program stands for.
-/

namespace Manifest

namespace TypeName

/-- The type right above a type. -/
def parent? (name : String) : Option String :=
  match name with
  | "Any" => none
  | "Integer" | "Float" => some "Numeric"
  | "Numeric" | "String" | "Boolean" | "Regexp" => some "Scalar"
  | "Scalar" => some "Data"
  | "Array" | "Hash" => some "Collection"
  | _ => some "Any"

/-- How far below the root a type lies. -/
def depth (name : String) : Nat :=
  match name with
  | "Any" => 0
  | "Integer" | "Float" => 4
  | "Numeric" | "String" | "Boolean" | "Regexp" => 3
  | "Scalar" | "Array" | "Hash" => 2
  | _ => 1

/-- A type lies below its parent. -/
theorem depth_parent {name above : String} (h : parent? name = some above) :
    depth above < depth name := by
  unfold parent? at h
  split at h <;> cases h <;> simp_all [depth]

/-- Whether a type is another one or lies below it. -/
def isWithin (name ancestor : String) : Bool :=
  if name = ancestor then true
  else
    match _h : parent? name with
    | some above => isWithin above ancestor
    | none => false
termination_by depth name
decreasing_by exact depth_parent (by assumption)

end TypeName

namespace TypeRef

/-- Whether values of the source type do where the target type is expected. -/
def accepts (target source : TypeRef) : Bool :=
  if target.isParameterized then target.identical source
  else TypeName.isWithin source.name target.name

/-- The type that a type name in a program stands for. -/
def ofExpr (e : Expr) : Except EvalError TypeRef :=
  match e.form with
  | .qualifiedReference name => .ok (named (LetterCase.capitalizeSegments name))
  | form => fault (.illegalExpression form.kind)

end TypeRef

/-- The type of a value, as far as its kind tells. -/
def Value.inferredType (v : Value) : TypeRef :=
  .named v.typeName

end Manifest
