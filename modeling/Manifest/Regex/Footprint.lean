import Manifest.Regex.Pattern
import Manifest.Text.ByteRange
import Std.Data.TreeMap.Basic

/-!
# The room that a pattern takes

To be searched for, a pattern is laid out as an automaton over bytes, once to be run forward and
once to be run backward, and each of the two has to fit into a room of fixed size. A counted
repetition lays its body out once for every round, so that a short source can take much room.

* `Footprint` — the room that has been taken: states, and what they hold.
* `Layout` — a step of laying out, which fails when there is no room left.
* `Pattern.fits` — whether there is room for both automata.
-/

namespace Manifest

/-- The room that states take: their number, and the bytes of what they hold beyond their own
fixed size. -/
structure Footprint where
  states : Nat
  content : Nat

namespace Footprint

/-- The bytes of a state without what it holds. -/
def stateSize : Nat := 32

/-- The bytes of a transition that a state holds. -/
def transitionSize : Nat := 8

/-- The bytes of a link to another state that a branching state holds. -/
def linkSize : Nat := 4

/-- The bytes that an automaton may take. -/
def limit : Nat := 10 * 0x100000

/-- The bytes that have been taken. -/
def size (f : Footprint) : Nat :=
  stateSize * f.states + f.content

/-- Takes more room. -/
def grow (f : Footprint) (states content : Nat) : Footprint :=
  ⟨f.states + states, f.content + content⟩

end Footprint

/-! ## Laying out -/

/-- A step of laying out, after which the room taken is still within the limit. -/
abbrev Layout := StateT Footprint Option

/-- The way in which an automaton goes through a text. -/
inductive Direction where
  | forward
  | backward
deriving DecidableEq

namespace Layout

/-- Takes room for states that hold `content` bytes in all; answers with the number of the first
one. -/
def add (states : Nat) (content : Nat) : Layout Nat := fun f =>
  if (f.grow states content).size ≤ Footprint.limit then some (f.states, f.grow states content)
  else none

/-- Takes room for states that hold nothing. -/
def plain (states : Nat) : Layout Unit := do
  let _ ← add states 0

/-- Takes room for a branching state with two links. -/
def fork : Layout Unit := do
  let _ ← add 1 (2 * Footprint.linkSize)

/-- Lays the same out several times. -/
def times (m : Layout Unit) : Nat → Layout Unit
  | 0, f => some ((), f)
  | n + 1, f =>
    match m f with
    | some (_, g) => times m n g
    | none => none

/-- Two steps in the order in which an automaton of the given direction meets them. -/
def inOrder (d : Direction) (m n : Layout Unit) : Layout Unit :=
  match d with
  | .forward => do m; n
  | .backward => do n; m

/-! ## Shared states -/

/-- The states of a set that can be shared, each at its place, with where they lead and
their number. A place is taken over by the last state that falls on it. -/
abbrev Shared := Std.TreeMap Nat (List Nat × Nat)

/-- How many places there are for shared states. -/
def places : Direction → Nat
  | .forward => 10000
  | .backward => 1000

/-- The place of a state, scattered by the numbers that say where it leads. -/
def place (d : Direction) (key : List Nat) : Nat :=
  let code : UInt64 :=
    key.foldl (fun code n => (code ^^^ n.toUInt64) * 1099511628211) 14695981039346656037
  code.toNat % places d

/-- The number of the state that leads where `key` says: of a shared one, or else of a new one
that holds `content` bytes. -/
def share (d : Direction) (key : List Nat) (content : Nat) (shared : Shared) :
    Layout (Nat × Shared) := do
  let i := place d key
  match shared[i]?.filter (·.1 = key) with
  | some (_, state) => pure (state, shared)
  | none =>
    let state ← add 1 content
    pure (state, shared.insert i (key, state))

/-! ## Sets -/

/-- The state from which lists of byte ranges, sorted and of one length at most `depth`, lead to
the target. Neighbours that begin alike go on from the same state. -/
def prefixTree (target : Nat) : Nat → List (List ByteRange) → Shared → Layout (Nat × Shared)
  | 0, _, shared => pure (target, shared)
  | depth + 1, ways, shared =>
    if ways.all List.isEmpty then pure (target, shared)
    else do
      let groups := ways.splitBy fun v w => v.head? = w.head?
      let (key, shared) ← groups.foldlM (fun (key, shared) group => do
        let (next, shared) ← prefixTree target depth (group.map List.tail) shared
        let bytes := (group.head?.bind List.head?).toList
        pure (key ++ bytes.flatMap fun r => [r.first, r.last, next], shared)) ([], shared)
      share .forward key (groups.length * Footprint.transitionSize) shared

/-- The states for byte ranges that are met from the last byte of a character to the first, in
front of a state that the first one leads to. -/
def chain (target : Nat) (ways : List (List ByteRange)) : Layout Shared :=
  ways.foldlM (fun shared way => do
    let (_, shared) ← way.foldlM
      (fun (next, shared) r => share .backward [next, r.first, r.last] 0 shared) (target, shared)
    pure shared) ∅

/-- One character of a set. A single state is enough if each character is a single byte. -/
def set (d : Direction) (s : CharSet) : Layout Unit := do
  let ways := s.ranges.flatMap fun r => ByteRange.ofRange r.1 r.2
  if s.boundaries.all (· ≤ 0x80) then
    plain 1
    let _ ← add 1 (ways.length * Footprint.transitionSize)
  else
    match d with
    | .forward =>
      let target ← add 1 0
      let _ ← prefixTree target 4 ways ∅
    | .backward =>
      plain 1
      let target ← add 1 (ways.length * Footprint.linkSize)
      let _ ← chain target ways

/-! ## Choices -/

/-- A choice between steps. -/
def choice : List (Layout Unit) → Layout Unit
  | [] => plain 1
  | [m] => m
  | m :: n :: rest => do
    m
    n
    plain 2
    let _ ← add 0 ((rest.length + 2) * Footprint.linkSize)
    rest.forM id

/-- The runs of words between the empty ones. -/
def runsOf (words : List (List Nat)) : List (List (List Nat)) :=
  words.foldr
    (fun word runs =>
      match word, runs with
      | [], runs => [] :: runs
      | word, run :: rest => (word :: run) :: rest
      | word, [] => [[word]])
    [[]]

/-- The runs of words that can share their first bytes. An empty word stands between two runs, since
it comes before all that follow it and after all that precede it; but of the empty words in front of
all others only one counts. -/
def runs : List (List Nat) → List (List (List Nat))
  | [] :: words => [] :: runsOf (words.dropWhile List.isEmpty)
  | words => runsOf words

/-- A choice between words shorter than `depth`, as a tree in which the words of a run share their
first bytes: a state for every run, and one that branches to them and, between two of them, to the
end. -/
def wordTree : Nat → List (List Nat) → Layout Unit
  | 0, _ => pure ()
  | depth + 1, words => do
    let runs := runs words
    for run in runs do
      let bytes := (run.filterMap List.head?).eraseDups
      for byte in bytes do
        let tails := run.filterMap fun word => if word.head? = some byte then some word.tail else none
        if !tails.all List.isEmpty then wordTree depth tails
      if bytes.length = 1 then plain 1
      if 1 < bytes.length then
        let _ ← add 1 (bytes.length * Footprint.transitionSize)
    let taken := (runs.filter (!·.isEmpty)).length
    let _ ← add 1 ((taken + runs.length - 1) * Footprint.linkSize)

/-- A choice between texts. -/
def words (d : Direction) (texts : List (List Char)) : Layout Unit := do
  let words := texts.map fun cs =>
    let bytes := cs.flatMap ByteRange.bytes
    match d with
    | .forward => bytes
    | .backward => bytes.reverse
  plain 1
  wordTree ((words.map List.length).foldl max 0 + 1) words

end Layout

/-! ## Patterns -/

namespace Pattern

/-- The texts of a choice between texts only. -/
def texts? : Pattern → Option (List (List Char))
  | .alt (.text cs) (.text ds) => some [cs, ds]
  | .alt (.text cs) q => q.texts?.map (cs :: ·)
  | _ => none

/-- A pattern, given its alternatives. -/
def layoutOf (d : Direction) (p : Pattern) (alternatives : List (Layout Unit)) : Layout Unit :=
  match p.texts? with
  | some texts => Layout.words d texts
  | none => Layout.choice alternatives

/-- Rounds of a repetition. -/
def rounds (takesCharacter : Bool) (body : Layout Unit) : Nat → Option Nat → Layout Unit
  | 0, none => do
    if takesCharacter then
      Layout.fork
      body
    else
      body
      Layout.fork
      Layout.fork
      Layout.plain 1
  | least, none => do
    Layout.times body least
    Layout.fork
  | 0, some 1 => do
    Layout.fork
    body
    Layout.plain 1
  | least, some most => do
    if least = 0 then Layout.plain 1 else Layout.times body least
    if least < most then
      Layout.plain 1
      Layout.times (do Layout.fork; body) (most - least)

/-- The alternatives of a pattern. -/
def layouts (d : Direction) : Pattern → List (Layout Unit)
  | .empty => [Layout.plain 1]
  | .text cs => [Layout.plain (cs.map Char.utf8Size).sum]
  | .one s => [Layout.set d s]
  | .check _ => [Layout.plain 1]
  | .seq p q => [Layout.inOrder d (layoutOf d p (p.layouts d)) (layoutOf d q (q.layouts d))]
  | .alt p q => layoutOf d p (p.layouts d) :: q.layouts d
  | .repeated least most _ p => [rounds p.takesCharacter (layoutOf d p (p.layouts d)) least most]
  | .group _ p =>
    match d with
    | .forward => [do Layout.plain 1; layoutOf d p (p.layouts d); Layout.plain 1]
    | .backward => [layoutOf d p (p.layouts d)]

/-- Whether a match can only begin where an automaton of the given direction does. -/
def isAnchored (d : Direction) : Pattern → Bool
  | .check .textStart => d = .forward
  | .check .textEnd => d = .backward
  | .seq p q =>
    match d with
    | .forward => p.isAnchored d || (p.isZeroWidth && q.isAnchored d)
    | .backward => q.isAnchored d || (q.isZeroWidth && p.isAnchored d)
  | .alt p q => p.isAnchored d && q.isAnchored d
  | .repeated least _ _ p => 0 < least && p.isAnchored d
  | .group _ p => p.isAnchored d
  | _ => false

/-- The automaton of a pattern. Unless a match can only begin at one end, a loop that takes any
byte comes first. Only the forward automaton notes where groups, and the whole match, begin and
end. -/
def automaton (d : Direction) (p : Pattern) : Layout Unit := do
  if p.isAnchored d then Layout.plain 1
  else
    Layout.fork
    Layout.plain 1
    let _ ← Layout.add 1 Footprint.transitionSize
  match d with
  | .forward =>
    Layout.plain 1
    layoutOf d p (p.layouts d)
    Layout.plain 2
  | .backward =>
    layoutOf d p (p.layouts d)
    Layout.plain 1

/-- Whether there is room for the automata of the pattern. -/
def fits (p : Pattern) : Bool :=
  [Direction.forward, .backward].all fun d => (p.automaton d ⟨0, 0⟩).isSome

end Pattern

end Manifest
