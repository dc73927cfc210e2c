/-!
# Nested parts

A part of a source together with the depth to which other parts are nested in it. A list of
parts that is taken as one part nests them one level deeper, unless it has only one of them.
-/

namespace Manifest

/-- A part with its depth. -/
structure Nested (α : Type) where
  /-- the part -/
  part : α
  /-- how many levels of other parts it has -/
  nesting : Nat

namespace Nested

variable {α β : Type}

/-- A part without parts of its own. -/
def leaf (a : α) : Nested α :=
  ⟨a, 0⟩

/-- Makes something else of a part, at the same depth. -/
def map (f : α → β) (a : Nested α) : Nested β :=
  ⟨f a.part, a.nesting⟩

/-- Makes a part the only one of another part. -/
def enclose (f : α → β) (a : Nested α) : Nested β :=
  ⟨f a.part, a.nesting + 1⟩

/-- Makes two parts into one. -/
def pair (f : α → α → α) (a b : Nested α) : Nested α :=
  ⟨f a.part b.part, max a.nesting b.nesting + 1⟩

/-- Makes any number of parts into one. -/
def gather (f : List α → α) : List (Nested α) → Nested α
  | [] => leaf (f [])
  | [a] => a
  | as => ⟨f (as.map part), (as.map nesting).foldl max 0 + 1⟩

end Nested

end Manifest
