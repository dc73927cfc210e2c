import Manifest.Number.Arithmetic
import Manifest.Text.Case
import Manifest.Typing
import Manifest.Value.Entries

/-!
# Comparison

The equality of the language is coarser than identity: texts are equal when they differ in case
only, and an integer equals the float it is rounded to. Elements of arrays are compared in turn;
hashes must have identical keys with equal values. Ordering exists between numbers and between
texts.

* `Comparator` — a choice of equality, ordering and membership.
* `Comparator.standard` and `Comparator.caseSensitive` — the two that are provided.
* `Comparator.holds` — the six comparison operators; between types they speak of assignability.
-/

namespace Manifest

/-! ## Equality -/

/-- Two numbers as floats, unless both are integers. -/
def floatPair? : Value → Value → Option (Float × Float)
  | .integer a, .float y => some ((Integer.toBinary64 a).toFloat, y.toFloat)
  | .float x, .integer b => some (x.toFloat, (Integer.toBinary64 b).toFloat)
  | .float x, .float y => some (x.toFloat, y.toFloat)
  | _, _ => none

/-- Equality of values that are not taken apart. -/
def Value.scalarEquals (a b : Value) : Bool :=
  match floatPair? a b with
  | some (x, y) => x == y
  | none => a.identical b

mutual

/-- Whether two values are equal in the language. -/
def Value.equals : Value → Value → Bool
  | .string s, .string t => s == t || LetterCase.lower s == LetterCase.lower t
  | .array xs, .array ys => Value.equalsAll xs ys
  | .hash xs, .hash ys => xs.length == ys.length && Value.equalsEntries xs ys
  | a, b => a.scalarEquals b
termination_by structural a => a

/-- Whether two lists have equal values at every place. -/
def Value.equalsAll : List Value → List Value → Bool
  | [], [] => true
  | x :: xs, y :: ys => x.equals y && Value.equalsAll xs ys
  | _, _ => false
termination_by structural xs => xs

/-- Whether every entry is found under its key in another list of entries, with an equal value. -/
def Value.equalsEntries : List (Value × Value) → List (Value × Value) → Bool
  | [], _ => true
  | (k, v) :: rest, ys =>
    (match Entries.get? ys k with
      | some w => v.equals w
      | none => false) && Value.equalsEntries rest ys
termination_by structural xs => xs

end

/-! ## Ordering -/

/-- The order of two floats; none when one of them is undefined. -/
def floatOrder? (x y : Float) : Option Ordering :=
  if x < y then some .lt
  else if x == y then some .eq
  else if y < x then some .gt
  else none

/-- The order of two values: numbers by size, texts by their small letters. -/
def Value.order? : Value → Value → Option Ordering
  | .integer a, .integer b => some (compare a.toInt b.toInt)
  | .string s, .string t => some (compare (LetterCase.lower s) (LetterCase.lower t))
  | a, b => (floatPair? a b).bind fun (x, y) => floatOrder? x y

/-! ## Membership -/

/-- Whether one list of characters occurs in another without a gap. -/
def occursIn (needle : List Char) : List Char → Bool
  | [] => needle.isEmpty
  | c :: rest => needle.isPrefixOf (c :: rest) || occursIn needle rest

/-- Whether an element is the one that is looked for. A pattern is looked for among texts. -/
def Value.isSought (sought element : Value) : Bool :=
  match sought with
  | .regex r =>
    match element with
    | .string s => r.isMatch s
    | _ => false
  | _ => element.equals sought

/-- Whether a value is in a collection: a part of a text, whatever its case, or a pattern that it
matches; an element of an array; a key of a hash. -/
def Value.includes (collection value : Value) : Bool :=
  match collection with
  | .string s =>
    match value with
    | .string t => occursIn (LetterCase.lower t).toList (LetterCase.lower s).toList
    | .regex r => r.isMatch s
    | _ => false
  | .array items => items.any value.isSought
  | .hash entries => (Entries.keys entries).any value.isSought
  | _ => false

/-! ## Comparators -/

/-- A choice of equality, ordering and membership. -/
structure Comparator where
  /-- equality -/
  equals : Value → Value → Bool
  /-- ordering, where there is one -/
  order? : Value → Value → Option Ordering
  /-- whether the first value has the second one in it -/
  includes : Value → Value → Bool

namespace Comparator

/-- The comparison of the language. -/
def standard : Comparator :=
  ⟨Value.equals, Value.order?, Value.includes⟩

/-- Equality is identity; ordering and membership are those of the language. -/
def caseSensitive : Comparator :=
  ⟨Value.identical, Value.order?, Value.includes⟩

/-! ## Operators -/

/-- Whether an order satisfies a comparison operator. -/
def orderHolds : ComparisonOp → Ordering → Bool
  | .eq, o => o.isEq
  | .notEq, o => o.isNe
  | .lt, o => o.isLT
  | .le, o => o.isLE
  | .gt, o => o.isGT
  | .ge, o => o.isGE

/-- A comparison between two types: the greater accepts the smaller. -/
def typesHold (op : ComparisonOp) (left right : TypeRef) : Bool :=
  match op with
  | .eq => left.identical right
  | .notEq => !left.identical right
  | .le => left.accepts right
  | .lt => !left.identical right && left.accepts right
  | .ge => right.accepts left
  | .gt => !left.identical right && right.accepts left

/-- The error of a comparison between values that have no order. -/
def impossible {α : Type} (op : ComparisonOp) (left right : Value) : Except EvalError α :=
  fault (.comparisonNotPossible op.symbol left right)

/-- Whether a comparison holds. -/
def holds (c : Comparator) (op : ComparisonOp) (left right : Value) : Except EvalError Bool :=
  match left with
  | .type s =>
    match right with
    | .type t => .ok (typesHold op s t)
    | _ =>
      match op with
      | .eq => .ok false
      | .notEq => .ok true
      | _ => impossible op left right
  | _ =>
    match op with
    | .eq => .ok (c.equals left right)
    | .notEq => .ok !c.equals left right
    | _ =>
      match c.order? left right with
      | some o => .ok (orderHolds op o)
      | none => impossible op left right

end Comparator

end Manifest
