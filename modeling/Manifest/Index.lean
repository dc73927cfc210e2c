import Manifest.Error
import Manifest.Value.Entries

/-!
# Access by keys

* An array or a text takes one key, a position, or two, a start and a count. Positions and starts
  count from the end when negative; a negative count says how far from the end the slice stops.
* A hash takes one key, or several for the values found under them.
* A plain type takes what it is specialised to.
-/

namespace Manifest

/-! ## Positions -/

/-- The place of an index among `length` elements; none when it is out of bounds. -/
def resolveIndex (length : Nat) (index : Int) : Option Nat :=
  let place := if index < 0 then length + index else index
  if 0 ≤ place ∧ place < length then some place.toNat else none

/-- Where a slice starts. -/
def sliceStart (length : Nat) (start : Int) : Int :=
  if start < 0 then max (length + start) 0 else min start length

/-- Where a slice stops, given where it starts, before it is brought within bounds. -/
def sliceStop (length : Nat) (start count : Int) : Int :=
  if count < 0 then length + count + 1 else start + count

/-- The bounds of a slice: its first place and the place after its last one. -/
def sliceBounds (length : Nat) (start count : Int) : Nat × Nat :=
  let first := sliceStart length start
  let stop := min (max (sliceStop length first count) first) length
  (first.toNat, stop.toNat)

/-- A slice of a list. -/
def slice {α : Type} (items : List α) (start count : Int) : List α :=
  let (first, stop) := sliceBounds items.length start count
  (items.drop first).take (stop - first)

/-! ## Access -/

namespace Value

/-- The integer that a key is. -/
def integerKey : Value → Except EvalError Int
  | .integer n => .ok n.toInt
  | v => fault (.typeCoercion v "Integer")

/-- The error of a wrong number of keys. -/
def wrongKeyCount {α : Type} (receiver : Value) (given : Nat) : Except EvalError α :=
  fault (.custom (receiver.typeName ++ "[] takes 1 or 2 keys, got " ++ toString given))

/-- Access to a list of elements, given what to make of one element and of a slice. -/
def accessList {α : Type} (receiver : Value) (items : List α) (one : Option α → Value)
    (several : List α → Value) : List Value → Except EvalError Value
  | [index] =>
    match integerKey index with
    | .ok i => .ok (one ((resolveIndex items.length i).bind (items[·]?)))
    | .error e => .error e
  | [start, count] =>
    match integerKey start with
    | .ok s =>
      match integerKey count with
      | .ok n => .ok (several (slice items s n))
      | .error e => .error e
    | .error e => .error e
  | keys => wrongKeyCount receiver keys.length

/-- Access to a value by keys. -/
def access (receiver : Value) (keys : List Value) : Except EvalError Value :=
  match receiver with
  | .array items => accessList receiver items (·.getD .absent) .array keys
  | .string s =>
    accessList receiver s.toList (fun c => .string (String.ofList c.toList))
      (fun cs => .string (String.ofList cs)) keys
  | .hash entries =>
    match keys with
    | [] => wrongKeyCount receiver 0
    | [key] => .ok ((Entries.get? entries key).getD .absent)
    | _ => .ok (.array (keys.filterMap (Entries.get? entries)))
  | .type t =>
    if t.isParameterized || keys.isEmpty then fault (.operatorNotApplicable "[]" receiver)
    else .ok (.type ⟨t.name, keys⟩)
  | _ => fault (.operatorNotApplicable "[]" receiver)

end Value

end Manifest
