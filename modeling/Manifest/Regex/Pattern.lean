import Manifest.Text.CharSet.Word

/-!
# Patterns

The abstract form of a regular expression: texts, sets of characters, assertions about a position,
sequences, ordered alternatives, repetitions that prefer more or fewer rounds, and numbered
groups.

Patterns are put together in a normal form (`Pattern.sequence`, `Pattern.alternatives`,
`Pattern.repetition`): neighbouring texts are one text, sequences and alternatives are flat and
lean to the right, alternatives between single characters are one set, and what all alternatives
begin with stands before them.
-/

namespace Manifest

/-! ## Assertions -/

/-- A condition on a position of the text. -/
inductive Assertion where
  | textStart
  | textEnd
  | wordBoundary
  | noWordBoundary
deriving DecidableEq

/-- Whether a position satisfies the condition, given the characters before and after it. -/
def Assertion.holds (before after : Option Char) : Assertion → Bool
  | .textStart => before.isNone
  | .textEnd => after.isNone
  | .wordBoundary => before.any CharSet.word.contains != after.any CharSet.word.contains
  | .noWordBoundary => before.any CharSet.word.contains == after.any CharSet.word.contains

/-! ## Patterns -/

/-- A regular expression. -/
inductive Pattern where
  /-- the empty text -/
  | empty
  /-- some characters one after the other -/
  | text (cs : List Char)
  /-- one character of a set -/
  | one (s : CharSet)
  /-- the empty text at a position that satisfies a condition -/
  | check (a : Assertion)
  /-- one pattern after the other -/
  | seq (first rest : Pattern)
  /-- the first pattern or, failing that, the rest -/
  | alt (first rest : Pattern)
  /-- the body at least `least` and at most `most` times; more rounds are preferred when
  `greedy`, fewer otherwise -/
  | repeated (least : Nat) (most : Option Nat) (greedy : Bool) (body : Pattern)
  /-- a numbered group -/
  | group (index : Nat) (body : Pattern)
deriving DecidableEq

namespace Pattern

/-! ## Measures -/

/-- Whether a match takes no characters whatever the text is. -/
def isZeroWidth : Pattern → Bool
  | .empty => true
  | .text _ => false
  | .one _ => false
  | .check _ => true
  | .seq p q => p.isZeroWidth && q.isZeroWidth
  | .alt p q => p.isZeroWidth && q.isZeroWidth
  | .repeated _ _ _ p => p.isZeroWidth
  | .group _ p => p.isZeroWidth

/-- The least number of characters that a match takes; `none` if there is a set in the pattern
without any character. -/
def leastLength? : Pattern → Option Nat
  | .empty => some 0
  | .text cs => some cs.length
  | .one s => if s = .empty then none else some 1
  | .check _ => some 0
  | .seq p q => do pure ((← p.leastLength?) + (← q.leastLength?))
  | .alt p q => do pure (min (← p.leastLength?) (← q.leastLength?))
  | .repeated least _ _ p => p.leastLength?.map (least * ·)
  | .group _ p => p.leastLength?

/-- Whether every match takes a character. -/
def takesCharacter (p : Pattern) : Bool :=
  p.leastLength?.any (0 < ·)

/-- The highest number of a group in the pattern; 0 when there is none. -/
def lastGroup : Pattern → Nat
  | .empty | .text _ | .one _ | .check _ => 0
  | .seq p q => max p.lastGroup q.lastGroup
  | .alt p q => max p.lastGroup q.lastGroup
  | .repeated _ _ _ p => p.lastGroup
  | .group index p => max index p.lastGroup

/-! ## Sets -/

/-- One character of a set; the character itself if there is just one. -/
def ofSet (s : CharSet) : Pattern :=
  match s.single? with
  | some c => .text [c]
  | none => .one s

/-- The character of a text of one character. -/
def char? : Pattern → Option Char
  | .text [c] => some c
  | _ => none

/-- The set of a pattern that takes one character of a set. -/
def set? : Pattern → Option CharSet
  | .one s => some s
  | _ => none

/-! ## Sequences -/

/-- The patterns of a sequence, in order. -/
def items : Pattern → List Pattern
  | .empty => []
  | .seq p q => p :: q.items
  | p => [p]

/-- The sequence of given patterns. -/
def ofItems : List Pattern → Pattern
  | [] => .empty
  | [p] => p
  | p :: rest => .seq p (ofItems rest)

/-- Puts a pattern in front of a sequence; two texts become one. -/
def join (p : Pattern) (rest : List Pattern) : List Pattern :=
  match p, rest with
  | .text cs, .text ds :: rest => .text (cs ++ ds) :: rest
  | p, rest => p :: rest

/-- Patterns one after the other. -/
def sequence (ps : List Pattern) : Pattern :=
  ofItems ((ps.flatMap items).foldr join [])

/-! ## Alternatives -/

/-- The alternatives of a pattern, in the order in which they are tried. -/
def branches : Pattern → List Pattern
  | .alt p q => p :: q.branches
  | p => [p]

/-- A choice between given patterns. -/
def ofBranches : List Pattern → Pattern
  | [] => .one .empty
  | [p] => p
  | p :: rest => .alt p (ofBranches rest)

/-- A choice between patterns, one set if all of them are characters or all of them are sets. -/
def choice (ps : List Pattern) : Pattern :=
  let ps := ps.flatMap branches
  match ps.mapM char?, ps.mapM set? with
  | some cs, _ => ofSet (.ofChars cs)
  | none, some sets => ofSet (.unions sets)
  | none, none => ofBranches ps

/-- What two lists begin with. -/
def commonStart : List Pattern → List Pattern → List Pattern
  | p :: ps, q :: qs => if p = q then p :: commonStart ps qs else []
  | _, _ => []

/-- The patterns of a sequence of at least two. -/
def items? : Pattern → Option (List Pattern)
  | .seq p q => some (p :: q.items)
  | _ => none

/-- What all patterns begin with if all of them are sequences. -/
def sharedItems (ps : List Pattern) : List Pattern :=
  match ps.mapM items? with
  | some (start :: starts) => starts.foldl commonStart start
  | _ => []

/-- Patterns of which the first one that leads to a match is taken. What all of them begin with is
taken only once. -/
def alternatives (ps : List Pattern) : Pattern :=
  let ps := ps.flatMap branches
  let shared := sharedItems ps
  if shared.isEmpty then choice ps
  else sequence (shared ++ [choice (ps.map fun p => ofItems (p.items.drop shared.length))])

/-! ## Repetitions -/

/-- A pattern that is repeated. What takes no characters is taken once at most, and without any
round there is nothing left of the pattern, its groups included. -/
def repetition (least : Nat) (most : Option Nat) (greedy : Bool) (p : Pattern) : Pattern :=
  let (least, most) :=
    if p.isZeroWidth then (min least 1, some (min (most.getD 1) 1)) else (least, most)
  if most = some 0 then .empty
  else if least = 1 && most = some 1 then p
  else .repeated least most greedy p

end Pattern

end Manifest
