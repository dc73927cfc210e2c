import Manifest.Value.Entries
import Manifest.Value.Parts

/-!
# The algebra of collections

* `concatenate` — joins two values. An array takes the elements of the right operand, a hash its
  entries; any other value counts as an array of itself.
* `delete` — removes from an array the elements of the right operand, from a hash its keys.
* `append?` — adds one element to an array.
* `unfold` — the elements that a value contributes where it is spliced.
-/

namespace Manifest

/-- Why two values could not be joined or one not be removed from the other. -/
inductive CollectionError where
  | oddElementCount (length : Nat)
  | notAPair (index : Nat)
  | notMergeable (right : String)
  | notACollection (left : String)
deriving DecidableEq

/-- The sentence that reports the error. -/
def CollectionError.message : CollectionError → String
  | .oddElementCount length =>
    "an Array with an odd number of elements (" ++ toString length
      ++ ") cannot be merged into a Hash"
  | .notAPair index => "element " ++ toString index ++ " is not a [key, value] pair"
  | .notMergeable right => "a " ++ right ++ " cannot be merged into a Hash"
  | .notACollection left => "can only delete from an Array or Hash, got " ++ left

/-! ## Elements -/

/-- An entry as an array of its key and its value. -/
def pairValue (entry : Value × Value) : Value :=
  .array [entry.1, entry.2]

namespace Value

/-- The elements of a value in a join or a difference: those of an array, the pairs of a hash, and
otherwise the value itself. -/
def elements : Value → List Value
  | .array items => items
  | .hash entries => entries.map pairValue
  | v => [v]

/-- The elements that a value contributes where it is spliced. The absence of a value contributes
none. -/
def unfold : Value → List Value
  | .absent => []
  | v => v.elements

/-- What holds of a value all the way down, and of any array by itself, holds of the elements. -/
theorem all_elements {p : Value → Prop} (harray : ∀ items, p (.array items)) {v : Value}
    (h : v.All p) : ∀ w ∈ v.elements, w.All p := by
  cases v with
  | array items => exact h.parts
  | hash entries =>
    intro w hw
    obtain ⟨e, he, rfl⟩ := List.mem_map.1 hw
    obtain ⟨hkey, hvalue⟩ := (all_hash.1 h).2 e he
    exact all_array.2 ⟨harray _, List.forall_mem_cons.2 ⟨hkey, List.forall_mem_singleton.2 hvalue⟩⟩
  | _ => exact List.forall_mem_singleton.2 h

theorem all_unfold {p : Value → Prop} (harray : ∀ items, p (.array items)) {v : Value}
    (h : v.All p) : ∀ w ∈ v.unfold, w.All p := by
  cases v with
  | absent => exact List.forall_mem_nil _
  | _ => exact all_elements harray h

end Value

/-! ## Entries from arrays -/

namespace Entries

/-- The entries of a list of pairs; `index` counts the elements before it. -/
def ofPairs (index : Nat) : List Value → Except CollectionError (List (Value × Value))
  | [] => .ok []
  | .array [k, v] :: rest => (ofPairs (index + 1) rest).map ((k, v) :: ·)
  | _ :: _ => .error (.notAPair index)

/-- The entries of a list in which keys and values take turns; a last key without a value is left
out. -/
def ofFlat : List Value → List (Value × Value)
  | k :: v :: rest => (k, v) :: ofFlat rest
  | _ => []

/-- The entries of an array. One that starts with an array is a list of pairs; in any other, keys
and values take turns. -/
def ofItems (items : List Value) : Except CollectionError Entries :=
  match items with
  | [] => .ok []
  | .array _ :: _ => (ofPairs 0 items).map ofList
  | _ =>
    if items.length % 2 = 0 then .ok (ofList (ofFlat items))
    else .error (.oddElementCount items.length)

end Entries

/-! ## Operations -/

namespace Value

/-- Joins two values. -/
def concatenate (left right : Value) : Except CollectionError Value :=
  match left with
  | .array items => .ok (.array (items ++ right.elements))
  | .hash entries =>
    match right with
    | .hash new => .ok (.hash (Entries.insertAll entries new))
    | .array items => (Entries.ofItems items).map fun new => .hash (Entries.insertAll entries new)
    | other => .error (.notMergeable other.typeName)
  | scalar => .ok (.array (scalar :: right.elements))

/-- The keys that a value removes from a hash. -/
def removedKeys : Value → List Value
  | .array items => items
  | .hash entries => Entries.keys entries
  | v => [v]

/-- Removes from a collection what the right operand lists. -/
def delete (left right : Value) : Except CollectionError Value :=
  match left with
  | .array items =>
    .ok (.array (items.filter fun item => !right.elements.any fun e => e.identical item))
  | .hash entries => .ok (.hash (right.removedKeys.foldl Entries.erase entries))
  | other => .error (.notACollection other.typeName)

/-- Adds one element to an array; `none` for anything else. -/
def append? (left right : Value) : Option Value :=
  match left with
  | .array items => some (.array (items ++ [right]))
  | _ => none

end Value

end Manifest
