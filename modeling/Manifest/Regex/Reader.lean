import Manifest.Regex.Nested
import Manifest.Regex.Pattern
import Manifest.Text.CaseFold
import Manifest.Text.CharSet.Ascii

/-!
# Reading patterns

The reader knows the part of the usual syntax that `Manifest.Regex.Engine` describes. It takes the
source of a regular expression piece by piece: a character, an escape, a class in brackets, an
operator, or the start or end of a group. Open groups are kept in a stack of levels. A source is
refused when a piece is malformed, an operator has nothing to repeat, a group is not closed, or its
parts are nested too deeply.
-/

namespace Manifest

namespace PatternReader

/-! ## Pieces -/

/-- A set in the given case mode. -/
def inMode (anyCase : Bool) (s : CharSet) : CharSet :=
  if anyCase then CaseFold.close s else s

/-- A character, in the given case mode. -/
def single (anyCase : Bool) (c : Char) : Pattern :=
  .ofSet (inMode anyCase (.single c))

/-- The sets that a letter after a backslash names; a capital names the complement. -/
def namedSet? : Char → Option CharSet
  | 'd' => some CharSet.decimalDigit
  | 'D' => some CharSet.decimalDigit.compl
  | 'w' => some CharSet.word
  | 'W' => some CharSet.word.compl
  | 's' => some CharSet.whiteSpace
  | 'S' => some CharSet.whiteSpace.compl
  | _ => none

/-- The character that an escape stands for: a control character by its letter, punctuation by
itself. -/
def escapedChar? (c : Char) : Option Char :=
  match c with
  | 'n' => some '\n'
  | 't' => some '\t'
  | 'r' => some '\r'
  | 'f' => some (Char.ofNat 12)
  | 'v' => some (Char.ofNat 11)
  | 'a' => some (Char.ofNat 7)
  | '<' | '>' => none
  | c => if c.toNat < 0x80 && !c.isAlphanum then some c else none

/-- The condition that a letter after a backslash names. -/
def namedAssertion? : Char → Option Assertion
  | 'b' => some .wordBoundary
  | 'B' => some .noWordBoundary
  | 'A' => some .textStart
  | 'z' => some .textEnd
  | _ => none

/-- What an escape outside brackets stands for. -/
def escape? (anyCase : Bool) (c : Char) : Option Pattern :=
  match namedSet? c, namedAssertion? c with
  | some s, _ => some (.ofSet s)
  | none, some a => some (.check a)
  | none, none => (escapedChar? c).map (single anyCase)

/-- What follows white space. -/
def skipSpace (text : List Char) : List Char :=
  text.dropWhile CharSet.whiteSpace.contains

/-- A whole number of 32 bits, white space around it allowed, in front of the rest of a source. -/
def count? (text : List Char) : Option (Nat × List Char) :=
  let text := skipSpace text
  let digits := text.takeWhile Char.isDigit
  let count := digits.foldl (fun n c => 10 * n + (c.toNat - '0'.toNat)) 0
  if digits.isEmpty || 0x100000000 ≤ count then none
  else some (count, skipSpace (text.dropWhile Char.isDigit))

/-- The bounds of a counted repetition, after its opening brace. -/
def bounds? (text : List Char) : Option ((Nat × Option Nat) × List Char) :=
  match count? text with
  | some (least, '\x7d' :: rest) => some ((least, some least), rest)
  | some (least, ',' :: '\x7d' :: rest) => some ((least, none), rest)
  | some (least, ',' :: rest) =>
    match count? rest with
    | some (most, '\x7d' :: rest) => if least ≤ most then some ((least, some most), rest) else none
    | _ => none
  | _ => none

/-! ## Classes in brackets -/

/-- A part of a class without the range it may start: a named set, or a character. -/
inductive ClassAtom where
  | named (s : CharSet)
  | char (c : Char)

/-- The members of a part of a class. -/
def ClassAtom.set : ClassAtom → CharSet
  | .named s => s
  | .char c => .single c

/-- One part of a class, in front of the rest of a source. -/
def classAtom? : List Char → Option (ClassAtom × List Char)
  | [] => none
  | ['\\'] => none
  | '\\' :: c :: rest =>
    match namedSet? c with
    | some s => some (.named s, rest)
    | none => (escapedChar? c).map fun d => (.char d, rest)
  | c :: rest => some (.char c, rest)

/-- One item of a class, ranges included. A minus sign before a closing bracket or another minus
sign makes no range; any other one does, and needs a character on either side. -/
def classItem? (text : List Char) : Option (CharSet × List Char) :=
  match classAtom? text with
  | none => none
  | some (atom, rest) =>
    match rest with
    | '-' :: ']' :: _ | '-' :: '-' :: _ => some (atom.set, rest)
    | '-' :: rest =>
      match atom, classAtom? rest with
      | .char first, some (.char last, rest) =>
        if first ≤ last then some (.range first last, rest) else none
      | _, _ => none
    | _ => some (atom.set, rest)

/-- A set with a name between colons, after its opening bracket. -/
def namedClass? : List Char → Option (CharSet × List Char)
  | ':' :: '^' :: rest => (nameOf? rest).map fun (s, rest) => (s.compl, rest)
  | ':' :: rest => nameOf? rest
  | _ => none
where
  /-- The set of a name, up to its closing bracket. -/
  nameOf? (text : List Char) : Option (CharSet × List Char) :=
    match text.dropWhile (· != ':') with
    | ':' :: ']' :: rest =>
      (CharSet.ofName? (String.ofList (text.takeWhile (· != ':')))).map (·, rest)
    | _ => none

/-- The operations between two classes. -/
inductive ClassOperation where
  | inter
  | sdiff
  | symmDiff

/-- Applies an operation. -/
def ClassOperation.apply : ClassOperation → CharSet → CharSet → CharSet
  | .inter => CharSet.inter
  | .sdiff => CharSet.sdiff
  | .symmDiff => CharSet.symmDiff

/-- A class that is being read. -/
structure OpenClass where
  /-- whether the class is a complement -/
  negated : Bool
  /-- what stands to the left of the last operation, and the operation -/
  left : Option (Nested CharSet × ClassOperation)
  /-- the items since then, last one first -/
  items : List (Nested CharSet)

namespace OpenClass

/-- The items so far, with the operation before them applied. -/
def body (anyCase : Bool) (o : OpenClass) : Nested CharSet :=
  let right := Nested.gather CharSet.unions o.items
  match o.left with
  | none => right
  | some (left, op) => left.pair (fun s t => op.apply (inMode anyCase s) (inMode anyCase t)) right

/-- The class, when its closing bracket has been reached. -/
def close (anyCase : Bool) (o : OpenClass) : Nested CharSet :=
  (o.body anyCase).enclose fun s =>
    if o.negated then (inMode anyCase s).compl else inMode anyCase s

/-- Adds an item. -/
def add (o : OpenClass) (item : Nested CharSet) : OpenClass :=
  { o with items := item :: o.items }

/-- Goes on after an operation. -/
def operate (anyCase : Bool) (o : OpenClass) (op : ClassOperation) : OpenClass :=
  { o with left := some (o.body anyCase, op), items := [] }

/-- The start of a class, after its opening bracket. Any number of minus signs or, without one, a
closing bracket stand for themselves there. -/
def start : List Char → OpenClass × List Char
  | '^' :: rest => let (items, rest) := literals rest; (⟨true, none, items⟩, rest)
  | text => let (items, rest) := literals text; (⟨false, none, items⟩, rest)
where
  /-- The characters at the start that stand for themselves. -/
  literals : List Char → List (Nested CharSet) × List Char
    | ']' :: rest => ([.leaf (.single ']')], rest)
    | text =>
      ((text.takeWhile (· == '-')).map fun c => .leaf (.single c), text.dropWhile (· == '-'))

end OpenClass

/-- The class up to its closing bracket, given what has been read of it and of the classes around
it. Every round takes at least a character; the first argument bounds the rounds. -/
def classRest? (anyCase : Bool) :
    Nat → OpenClass → List OpenClass → List Char → Option (Nested CharSet × List Char)
  | 0, _, _, _ => none
  | n + 1, o, outer, text =>
    match text with
    | ']' :: rest =>
      match outer with
      | [] => some (o.close anyCase, rest)
      | p :: outer => classRest? anyCase n (p.add (o.close anyCase)) outer rest
    | '&' :: '&' :: rest => classRest? anyCase n (o.operate anyCase .inter) outer rest
    | '-' :: '-' :: rest => classRest? anyCase n (o.operate anyCase .sdiff) outer rest
    | '~' :: '~' :: rest => classRest? anyCase n (o.operate anyCase .symmDiff) outer rest
    | '[' :: rest =>
      match namedClass? rest with
      | some (s, rest) => classRest? anyCase n (o.add (.leaf s)) outer rest
      | none =>
        let (inner, rest) := OpenClass.start rest
        classRest? anyCase n inner (o :: outer) rest
    | text =>
      match classItem? text with
      | some (s, rest) => classRest? anyCase n (o.add (.leaf s)) outer rest
      | none => none

/-- A class, after its opening bracket. -/
def class? (anyCase : Bool) (text : List Char) : Option (Nested Pattern × List Char) :=
  let (o, rest) := OpenClass.start text
  (classRest? anyCase (rest.length + 1) o [] rest).map fun (s, rest) => (s.map .ofSet, rest)

/-! ## Groups -/

/-- What follows an opening parenthesis. -/
inductive Opening where
  /-- a numbered group -/
  | numbered
  /-- a numbered group with a name -/
  | titled (name : List Char)
  /-- a group without a number, in the given case mode -/
  | plain (anyCase : Bool)
  /-- no group, but a case mode for the rest of the enclosing one -/
  | mode (anyCase : Bool)

/-- Whether a name of a group may start with the character. -/
def startsName (c : Char) : Bool :=
  c == '_' || (CharSet.word.contains c && !CharSet.decimalDigit.contains c)

/-- Whether a name of a group may go on with the character. -/
def continuesName (c : Char) : Bool :=
  CharSet.word.contains c || c == '.' || c == '[' || c == ']'

/-- A name and its closing bracket. -/
def title? (text : List Char) : Option (Opening × List Char) :=
  let name := text.takeWhile continuesName
  match name, text.dropWhile continuesName with
  | c :: _, '>' :: rest => if startsName c then some (.titled name, rest) else none
  | _, _ => none

/-- The kind of a group, after its opening parenthesis. -/
def opening? (anyCase : Bool) : List Char → Option (Opening × List Char)
  | '?' :: 'P' :: '<' :: rest => title? rest
  | '?' :: '<' :: rest => title? rest
  | '?' :: ':' :: rest => some (.plain anyCase, rest)
  | '?' :: 'i' :: ')' :: rest => some (.mode true, rest)
  | '?' :: 'i' :: ':' :: rest => some (.plain true, rest)
  | '?' :: '-' :: 'i' :: ')' :: rest => some (.mode false, rest)
  | '?' :: '-' :: 'i' :: ':' :: rest => some (.plain false, rest)
  | '?' :: _ => none
  | rest => some (.numbered, rest)

/-- A group that is being read. -/
structure Level where
  /-- the number of the group; `none` for a group without one and for the whole pattern -/
  index : Option Nat
  /-- the case mode outside the group -/
  outerCase : Bool
  /-- the finished alternatives, last one first -/
  branches : List (Nested Pattern)
  /-- the items of the current alternative, last one first -/
  items : List (Nested Pattern)

namespace Level

/-- The items of the current alternative, one after the other. -/
def sequence (l : Level) : Nested Pattern :=
  Nested.gather Pattern.sequence l.items.reverse

/-- The alternatives, in the order in which they are tried. -/
def alternatives (l : Level) : Nested Pattern :=
  Nested.gather Pattern.alternatives (l.sequence :: l.branches).reverse

/-- The group, when its end has been reached. -/
def close (l : Level) : Nested Pattern :=
  l.alternatives.enclose fun p =>
    match l.index with
    | some index => .group index p
    | none => p

/-- Adds an item to the current alternative. -/
def add (l : Level) (item : Nested Pattern) : Level :=
  { l with items := item :: l.items }

end Level

/-- How far the reader has come. -/
structure Progress where
  /-- the innermost open group -/
  level : Level
  /-- the groups around it, from inside out -/
  outer : List Level
  /-- how many groups have been numbered -/
  groups : Nat
  /-- the names of groups that are taken -/
  names : List (List Char)
  /-- whether letters stand for both of their cases -/
  anyCase : Bool
  /-- whether there is an item that an operator could repeat -/
  repeatable : Bool

namespace Progress

/-- Adds an item. -/
def add (p : Progress) (item : Nested Pattern) : Progress :=
  { p with level := p.level.add item, repeatable := true }

/-- Opens a group. -/
def openGroup (p : Progress) (index : Option Nat) (anyCase : Bool) : Progress :=
  { p with
    level := ⟨index, p.anyCase, [], []⟩, outer := p.level :: p.outer, anyCase := anyCase
    groups := index.getD p.groups, repeatable := false }

/-- Takes the start of a group. -/
def opened (p : Progress) : Opening → Option Progress
  | .numbered => some (p.openGroup (some (p.groups + 1)) p.anyCase)
  | .titled name =>
    if p.names.contains name then none
    else some { p.openGroup (some (p.groups + 1)) p.anyCase with names := name :: p.names }
  | .plain anyCase => some (p.openGroup none anyCase)
  | .mode anyCase =>
    some { p with level := p.level.add (.leaf .empty), anyCase := anyCase, repeatable := false }

/-- Takes the end of a group. -/
def closed (p : Progress) : Option Progress :=
  match p.outer with
  | [] => none
  | level :: outer =>
    some { p with
      level := level.add p.level.close, outer := outer, anyCase := p.level.outerCase
      repeatable := true }

/-- Takes the bar between two alternatives. -/
def branched (p : Progress) : Progress :=
  { p with
    level := { p.level with branches := p.level.sequence :: p.level.branches, items := [] }
    repeatable := false }

/-- Repeats the last item; a question mark after the operator prefers fewer rounds. -/
def repeated (p : Progress) (least : Nat) (most : Option Nat) (rest : List Char) :
    Option (Progress × List Char) :=
  match p.repeatable, p.level.items with
  | true, item :: items =>
    let (greedy, rest) :=
      match rest with
      | '?' :: rest => (false, rest)
      | _ => (true, rest)
    let item := item.enclose (Pattern.repetition least most greedy)
    some ({ p with level := { p.level with items := item :: items } }, rest)
  | _, _ => none

/-- Takes one piece. -/
def step (p : Progress) : Char → List Char → Option (Progress × List Char)
  | '(', rest => do
    let (opening, rest) ← opening? p.anyCase rest
    pure (← p.opened opening, rest)
  | ')', rest => p.closed.map (·, rest)
  | '|', rest => some (p.branched, rest)
  | '*', rest => p.repeated 0 none rest
  | '+', rest => p.repeated 1 none rest
  | '?', rest => p.repeated 0 (some 1) rest
  | '\x7b', rest => do
    let ((least, most), rest) ← bounds? rest
    p.repeated least most rest
  | '[', rest => do
    let (item, rest) ← class? p.anyCase rest
    pure (p.add item, rest)
  | '.', rest => some (p.add (.leaf (.ofSet (CharSet.single '\n').compl)), rest)
  | '^', rest => some (p.add (.leaf (.check .textStart)), rest)
  | '$', rest => some (p.add (.leaf (.check .textEnd)), rest)
  | '\\', c :: rest => (escape? p.anyCase c).map (p.add <| .leaf ·, rest)
  | '\\', [] => none
  | c, rest => some (p.add (.leaf (single p.anyCase c)), rest)

/-- Takes every piece. Each one takes at least a character, so the number of characters bounds
the rounds. -/
def run : Nat → Progress → List Char → Option Progress
  | _, p, [] => some p
  | 0, _, _ :: _ => none
  | n + 1, p, c :: rest =>
    match p.step c rest with
    | some (p, rest) => run n p rest
    | none => none

end Progress

/-- How deeply the parts of a pattern may be nested. -/
def nestingLimit : Nat := 250

/-- The pattern that a source spells. -/
def read? (source : List Char) : Option Pattern :=
  match Progress.run source.length ⟨⟨none, false, [], []⟩, [], 0, [], false, false⟩ source with
  | some ⟨level, [], _, _, _, _⟩ =>
    let pattern := level.alternatives
    if pattern.nesting ≤ nestingLimit then some pattern.part else none
  | _ => none

end PatternReader

end Manifest
