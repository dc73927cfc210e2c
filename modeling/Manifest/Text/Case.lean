import Manifest.Text.CaseMap
import Manifest.Text.CharSet.Case

/-!
# Letter case of texts

* `lower` — the small form of a text. Characters are mapped one by one, except that a capital
  sigma at the end of a word becomes the final form of the small letter. Texts that differ in
  case only have the same small form, which is how the language compares them.
* `capitalizeSegments` — a type name with every segment between double colons capitalised.
-/

namespace Manifest

namespace LetterCase

/-! ## Small letters -/

/-- The small form of a character on its own. A dotted capital I keeps its dot as a mark of its
own; every other character has a single small form. -/
def lowerChar (c : Char) : List Char :=
  if c.toNat < 0x80 then [c.toLower]
  else if c.toNat = 0x130 then ['i', Char.ofNat 0x307]
  else [Char.ofNat (CaseRun.applyAll smallLetters c.toNat)]

/-- Whether a cased letter comes first, characters that do not count for case aside. -/
def startsCased (cs : List Char) : Bool :=
  match cs.dropWhile CharSet.caseIgnorable.contains with
  | [] => false
  | c :: _ => CharSet.cased.contains c

/-- The small form of a capital sigma: final when letters come before it in its word and none
after it. -/
def lowerSigma (before after : List Char) : Char :=
  if startsCased before && !startsCased after then 'ς' else 'σ'

/-- The small form of the rest of a text, given what comes before it, nearest character first. -/
def lowerFrom (before : List Char) : List Char → List Char
  | [] => []
  | c :: rest =>
    (if c = 'Σ' then [lowerSigma before rest] else lowerChar c) ++ lowerFrom (c :: before) rest

/-- The small form of a text. -/
def lower (s : String) : String :=
  String.ofList (lowerFrom [] s.toList)

/-! ## Capitals -/

/-- The capital form of a character, which may be several characters. -/
def upperChar (c : Char) : List Char :=
  if c.toNat < 0x80 then [c.toUpper]
  else match longCapitals.lookup c.toNat with
    | some codes => codes.map Char.ofNat
    | none => [Char.ofNat (CaseRun.applyAll capitalLetters c.toNat)]

/-- Capitalises the first character of every segment; `fresh` says whether a segment starts
here. -/
def capitalizeFrom : Bool → List Char → List Char
  | _, [] => []
  | _, ':' :: ':' :: rest => ':' :: ':' :: capitalizeFrom true rest
  | true, c :: rest => upperChar c ++ capitalizeFrom false rest
  | false, c :: rest => c :: capitalizeFrom false rest

/-- `foo::bar` becomes `Foo::Bar`. -/
def capitalizeSegments (name : String) : String :=
  String.ofList (capitalizeFrom true name.toList)

end LetterCase

end Manifest
