/-!
# Regular expressions

What the sources of regular expressions mean is not settled here. It is up to an engine, which says
which sources are regular expressions at all and what they match.

* `RegexEngine` — what programs need of an engine.
* `Regex` — a source together with the search that an engine has made of it. Whether two regular
  expressions are the same is told by their sources.
* `Captures` — the groups of a match, by number.
-/

namespace Manifest

/-- The groups of a match by number, the whole match being number 0. A group that took no part in
the match has no text. -/
structure Captures where
  /-- the texts of the groups -/
  groups : List (Option String)
deriving DecidableEq

/-- The text of a group; `none` for a group that took no part or does not exist. -/
def Captures.group? (m : Captures) (index : Nat) : Option String :=
  (m.groups[index]?).join

/-- An engine for regular expressions. -/
class RegexEngine where
  /-- the search for the leftmost match that a source describes, or why it describes none -/
  compile : String → Except String (String → Option Captures)

/-- A regular expression. -/
structure Regex where
  /-- the source text -/
  source : String
  /-- the leftmost match in a text -/
  captures? : String → Option Captures

namespace Regex

/-- The regular expression with the given source, if the engine can compile it. -/
def ofSource [R : RegexEngine] (source : String) : Except String Regex :=
  (R.compile source).map (Regex.mk source)

/-- Whether the text has a match. -/
def isMatch (r : Regex) (text : String) : Bool :=
  (r.captures? text).isSome

end Regex

end Manifest
