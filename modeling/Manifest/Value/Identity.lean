import Manifest.Value

/-!
# Identity of values

The finest equality of values, by which hashes tell their keys apart. Numbers are identical only
within their type, and floats bit by bit, so that the two zeros differ and an undefined float is
identical to itself, though not to its opposite; texts are identical letter by letter, and regular
expressions when their sources are; hashes whatever the order of their entries; closures when they
come from the same lambda and captured identical bindings.

The equality of the language, which is coarser, is in `Manifest.Comparator`.
-/

namespace Manifest

mutual

/-- Whether two values are identical. -/
def Value.identical : Value → Value → Bool
  | .absent, .absent => true
  | .default, .default => true
  | .boolean a, .boolean b => a == b
  | .integer a, .integer b => a == b
  | .float a, .float b => a == b
  | .string a, .string b => a == b
  | .array xs, .array ys => Value.identicalAll xs ys
  | .hash xs, .hash ys => xs.length == ys.length && Value.entriesWithin xs ys
  | .type a, .type b => a.identical b
  | .regex a, .regex b => a.source == b.source
  | .closure a, .closure b => a.identical b
  | _, _ => false
termination_by structural v => v

/-- Whether two type references are identical: one name, identical parameters. -/
def TypeRef.identical : TypeRef → TypeRef → Bool
  | ⟨n, xs⟩, ⟨m, ys⟩ => n == m && Value.identicalAll xs ys
termination_by structural t => t

/-- Whether two closures are identical: one lambda, identical captures. -/
def Closure.identical : Closure → Closure → Bool
  | ⟨l, xs⟩, ⟨m, ys⟩ => l.id == m.id && xs.length == ys.length && Value.bindingsWithin xs ys
termination_by structural c => c

/-- Whether two lists have identical values at every place. -/
def Value.identicalAll : List Value → List Value → Bool
  | [], [] => true
  | x :: xs, y :: ys => x.identical y && Value.identicalAll xs ys
  | _, _ => false
termination_by structural xs => xs

/-- Whether every entry is found under its key in another list of entries, with an identical
value. -/
def Value.entriesWithin : List (Value × Value) → List (Value × Value) → Bool
  | [], _ => true
  | (k, v) :: rest, ys =>
    (match ys.find? fun e => k.identical e.1 with
      | some e => v.identical e.2
      | none => false) && Value.entriesWithin rest ys
termination_by structural xs => xs

/-- Whether every binding is found under its name in another list of bindings, with an identical
value. -/
def Value.bindingsWithin : List (String × Value) → List (String × Value) → Bool
  | [], _ => true
  | (n, v) :: rest, ys =>
    (match ys.lookup n with
      | some w => v.identical w
      | none => false) && Value.bindingsWithin rest ys
termination_by structural xs => xs

end

end Manifest
