import Manifest.Value.Entries

/-!
# Digests of values

A hash finds a key by a code that is computed from the key, and only tells those keys apart whose
codes agree. What the code is computed from is the *digest* of the key. The digest says less than
the key does: of a hash only the number of its entries, so that their order does not matter, and of
a closure only the lambda.

* `Value.digest` — what the code of a value is computed from.
* `Entries.locate?` — the entry under a key, found by codes first.
-/

namespace Manifest

/-- A part of a digest. -/
inductive DigestPart where
  /-- the name of a type that values have -/
  | kind (typeName : String)
  | boolean (b : Bool)
  | integer (n : Int64)
  | float (x : Binary64)
  | text (s : String)
  /-- how many elements or entries there are -/
  | length (n : Nat)
  /-- the identity of a lambda -/
  | lambda (id : Nat)

/-- What the code of a value is computed from. -/
abbrev Digest := List DigestPart

mutual

/-- What the code of a value is computed from. -/
def Value.digest : Value → Digest
  | .absent => [.kind "Undef"]
  | .default => [.kind "Default"]
  | .boolean b => [.kind "Boolean", .boolean b]
  | .integer n => [.kind "Integer", .integer n]
  | .float x => [.kind "Float", .float x]
  | .string s => [.kind "String", .text s]
  | .array items => .kind "Array" :: .length items.length :: Value.digestAll items
  | .hash entries => [.kind "Hash", .length entries.length]
  | .type t => .kind "Type" :: t.digest
  | .regex r => [.kind "Regexp", .text r.source]
  | .closure c => [.kind "Callable", .lambda c.lambda.id]
termination_by structural v => v

/-- What the code of a type reference is computed from. -/
def TypeRef.digest : TypeRef → Digest
  | ⟨name, params⟩ => .text name :: .length params.length :: Value.digestAll params
termination_by structural t => t

/-- What the codes of several values are computed from. -/
def Value.digestAll : List Value → Digest
  | [] => []
  | v :: rest => v.digest ++ Value.digestAll rest
termination_by structural vs => vs

end

namespace Entries

/-- The entry under a key: among the entries whose keys have the same code, the one whose key is
identical. -/
def locate? (code : Digest → UInt64) (entries : Entries) (key : Value) : Option (Value × Value) :=
  entries.find? fun e => code e.1.digest == code key.digest && key.identical e.1

end Entries

end Manifest
