import Manifest.Regex.Pattern

/-!
# Searching for a pattern

A pattern is turned into a machine whose states lie in one array, and the machine is run on a
text depth first: of two ways on, the preferred one is followed to its end before the other is
tried, and positions are tried as a start from left to right. No state is entered twice at one
position, because what has failed there once fails again; so the search ends after as many rounds
as there are pairs of states and positions.
-/

namespace Manifest

/-! ## Machines -/

/-- A state of a machine, with the numbers of the states that can follow. -/
inductive SearchState where
  /-- takes one character of a set -/
  | take (s : CharSet) (next : Nat)
  /-- goes on if the position satisfies a condition -/
  | check (a : Assertion) (next : Nat)
  /-- tries one way, then the other -/
  | split (first second : Nat)
  /-- notes the position in a slot -/
  | note (slot next : Nat)
  /-- the end of the pattern -/
  | accept

namespace Pattern

/-- Chains `n` copies of a construction, the last one first. -/
def chain (build : Nat → Array SearchState → Nat × Array SearchState) :
    Nat → Nat → Array SearchState → Nat × Array SearchState
  | 0, next, states => (next, states)
  | n + 1, next, states =>
    let (entry, states) := build next states
    chain build n entry states

/-- Going round or leaving, in the order that `greedy` asks for. -/
def fork (greedy : Bool) (round leave : Nat) : SearchState :=
  if greedy then .split round leave else .split leave round

/-- Adds states that take given characters in front of the state `next`. -/
def buildText (cs : List Char) (next : Nat) (states : Array SearchState) :
    Nat × Array SearchState :=
  cs.foldr (fun c (next, states) => (states.size, states.push (.take (.single c) next)))
    (next, states)

/-- Adds the states of a pattern in front of the state `next`; answers with the state to enter.
A loop whose body can be empty is entered through its body, so that one empty round is made
before it is left. -/
def build : Pattern → Nat → Array SearchState → Nat × Array SearchState
  | .empty, next, states => (next, states)
  | .text cs, next, states => buildText cs next states
  | .one s, next, states => (states.size, states.push (.take s next))
  | .check a, next, states => (states.size, states.push (.check a next))
  | .seq p q, next, states =>
    let (middle, states) := q.build next states
    p.build middle states
  | .alt p q, next, states =>
    let (second, states) := q.build next states
    let (first, states) := p.build next states
    (states.size, states.push (.split first second))
  | .group index p, next, states =>
    let (entry, states) := p.build states.size (states.push (.note (2 * index + 1) next))
    (states.size, states.push (.note (2 * index) entry))
  | .repeated least (some most) greedy p, next, states =>
    let optional (onward : Nat) (states : Array SearchState) : Nat × Array SearchState :=
      let (entry, states) := p.build onward states
      (states.size, states.push (fork greedy entry next))
    let (middle, states) := chain optional (most - least) next states
    chain p.build least middle states
  | .repeated least none greedy p, next, states =>
    let loop := states.size
    let (entry, states) := p.build loop (states.push .accept)
    let states := states.setIfInBounds loop (fork greedy entry next)
    if 0 < least then chain p.build (least - 1) entry states
    else if p.takesCharacter then (loop, states)
    else (states.size, states.push (fork greedy entry next))

end Pattern

/-! ## The search -/

/-- A point that the search has still to go on from. -/
structure SearchPoint where
  /-- the state of the machine -/
  state : Nat
  /-- the position in the text -/
  position : Nat
  /-- the slots noted on the way, latest first -/
  slots : List (Nat × Nat)

namespace SearchPoint

/-- The points that follow, in the order of preference. -/
def next (text : Array Char) (p : SearchPoint) : SearchState → List SearchPoint
  | .take set s =>
    match text[p.position]? with
    | some c => if set.contains c then [⟨s, p.position + 1, p.slots⟩] else []
    | none => []
  | .check a s =>
    let before := if p.position = 0 then none else text[p.position - 1]?
    if a.holds before text[p.position]? then [⟨s, p.position, p.slots⟩] else []
  | .split first second => [⟨first, p.position, p.slots⟩, ⟨second, p.position, p.slots⟩]
  | .note slot s => [⟨s, p.position, (slot, p.position) :: p.slots⟩]
  | .accept => []

end SearchPoint

/-- Goes on from the points in order until one reaches the end of the pattern; answers with the
slots noted on the way. The first argument bounds the rounds. -/
def searchFrom (states : Array SearchState) (text : Array Char) :
    Nat → List SearchPoint → Array Bool → Option (List (Nat × Nat))
  | 0, _, _ => none
  | _ + 1, [], _ => none
  | n + 1, p :: rest, seen =>
    let mark := p.state * (text.size + 1) + p.position
    if seen.getD mark true then searchFrom states text n rest seen
    else
      match states[p.state]? with
      | none => searchFrom states text n rest seen
      | some .accept => some ((1, p.position) :: p.slots)
      | some state => searchFrom states text n (p.next text state ++ rest) (seen.setIfInBounds mark true)

/-- The text between two noted slots. -/
def slotText (text : Array Char) (slots : List (Nat × Nat)) (index : Nat) : Option String :=
  match slots.lookup (2 * index), slots.lookup (2 * index + 1) with
  | some start, some stop => some (String.ofList (text.extract start stop).toList)
  | _, _ => none

namespace Pattern

/-- The groups of the leftmost match in a text, the whole match first. A group that took no part
has no text. -/
def search (p : Pattern) (text : String) : Option (List (Option String)) :=
  let chars := text.toList.toArray
  let (entry, states) := p.build 0 #[.accept]
  let starts := (List.range (chars.size + 1)).map fun i => ⟨entry, i, [(0, i)]⟩
  let rounds := (2 * states.size + 1) * (chars.size + 1) + 1
  let seen := Array.replicate (states.size * (chars.size + 1)) false
  (searchFrom states chars rounds starts seen).map fun slots =>
    (List.range (p.lastGroup + 1)).map (slotText chars slots)

end Pattern

end Manifest
