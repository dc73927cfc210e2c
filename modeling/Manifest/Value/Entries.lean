import Manifest.Value.Identity

/-!
# Entries of a hash

A hash is a list of entries with pairwise distinct keys, in the order in which the keys were first
inserted. Keys are told apart by `Value.identical`.
-/

namespace Manifest

/-- The entries of a hash, in order of insertion. -/
abbrev Entries := List (Value × Value)

namespace Entries

/-- The value under a key. -/
def get? (entries : Entries) (key : Value) : Option Value :=
  (entries.find? fun e => key.identical e.1).map (·.2)

/-- Puts a value under a key. A key that is there already keeps its place. -/
def insert (key value : Value) : Entries → Entries
  | [] => [(key, value)]
  | (k, v) :: rest => if key.identical k then (k, value) :: rest else (k, v) :: insert key value rest

/-- Inserts entries one after the other; later ones win. -/
def insertAll (entries : Entries) (new : Entries) : Entries :=
  new.foldl (fun es e => es.insert e.1 e.2) entries

/-- The entries of a list of keys and values, in which later ones win. -/
def ofList (pairs : List (Value × Value)) : Entries :=
  insertAll [] pairs

/-- Removes the entry under a key; the others keep their order. -/
def erase (entries : Entries) (key : Value) : Entries :=
  entries.filter fun e => !key.identical e.1

/-- The keys, in order. -/
def keys (entries : Entries) : List Value :=
  entries.map (·.1)

end Entries

end Manifest
