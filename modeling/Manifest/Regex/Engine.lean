import Manifest.Regex
import Manifest.Regex.Footprint
import Manifest.Regex.Reader
import Manifest.Regex.Search

/-!
# An engine for regular expressions

The engine that programs run with. A source is read as a pattern (`PatternReader.read?`), the
pattern is refused if it takes too much room (`Pattern.fits`), and texts are searched for what is
left (`Pattern.search`).

The engine knows a part of the usual syntax only. It refuses sources that fuller engines take:
characters by their number (`\x41`), Unicode classes (`\p{L}`), the ends of words (`\<`, `\>`), and
every flag but the one for letters of any case (`(?m)`, `(?s)`, `(?x)`). Of a source that it
cannot read it says no more than that.
-/

namespace Manifest

/-- Why a source makes no regular expression. -/
inductive RegexError where
  /-- the source cannot be read -/
  | malformed
  /-- the pattern takes too much room -/
  | tooLarge
deriving DecidableEq

/-- The wording of the cause. -/
def RegexError.message : RegexError → String
  | .malformed => "regex parse error"
  | .tooLarge => s!"Compiled regex exceeds size limit of {Footprint.limit} bytes."

/-- The pattern that a source spells, if there is room for it. -/
def Pattern.ofSource (source : String) : Except RegexError Pattern :=
  match PatternReader.read? source.toList with
  | none => .error .malformed
  | some pattern => if pattern.fits then .ok pattern else .error .tooLarge

/-- The engine that searches for patterns. -/
instance Pattern.engine : RegexEngine where
  compile source :=
    match Pattern.ofSource source with
    | .error cause => .error cause.message
    | .ok pattern => .ok fun text => (pattern.search text).map Captures.mk

end Manifest
