import Manifest.Text.CharSet.Print

/-!
# Quoted texts

How a text is shown inside a diagnostic: between double quotes, with a backslash before quotes
and backslashes, short escapes for the commonest control characters, and the code point in
hexadecimal for every other character that would not be seen or would attach itself to its
neighbour.
-/

namespace Manifest.Quoted

/-- The code point of a character in an escape. -/
def codeEscape (c : Char) : List Char :=
  ['\\', 'u', '\x7b'] ++ Nat.toDigits 16 c.toNat ++ ['\x7d']

/-- The halfwidth voiced and semi-voiced sound marks of katakana. They extend the grapheme they
follow, but take up room of their own. -/
def isHalfwidthMark (c : Char) : Bool :=
  c == '\uff9e' || c == '\uff9f'

/-- Whether a character would not be seen on its own. -/
def isHidden (c : Char) : Bool :=
  CharSet.unprintable.contains c || CharSet.ignorable.contains c
    || (CharSet.graphemeExtend.contains c && !isHalfwidthMark c)

/-- One character inside the quotes. -/
def encodeChar (c : Char) : List Char :=
  match c with
  | '\x00' => ['\\', '0']
  | '\t' => ['\\', 't']
  | '\r' => ['\\', 'r']
  | '\n' => ['\\', 'n']
  | '\\' => ['\\', '\\']
  | '\x22' => ['\\', '\x22']
  | c => if isHidden c then codeEscape c else [c]

/-- A text between its quotes. -/
def encode (s : String) : String :=
  String.ofList ('\x22' :: s.toList.flatMap encodeChar ++ ['\x22'])

end Manifest.Quoted
