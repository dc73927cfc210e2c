import Manifest.Decimal.Numeral
import Manifest.Value

/-!
# Numbers

A number is a 64-bit integer or a float. Values are numbers when they are one of these, or texts
that spell one:

* `0x` and hexadecimal digits;
* octal digits after a leading zero;
* decimal digits;
* a decimal numeral with a point or an exponent, for a float.

A sign may come first. A spelling of an integer that is out of range spells no number at all.
-/

namespace Manifest

/-- An integer or a float. -/
inductive Number where
  | int (n : Int64)
  | float (x : Binary64)

/-! ## The range of integers -/

/-- The integer as a 64-bit one, if it is in range. -/
def Integer.ofInt? (z : Int) : Option Int64 :=
  if -0x8000000000000000 ≤ z ∧ z < 0x8000000000000000 then some (Int64.ofInt z) else none

/-- It is the one with that value. -/
theorem Integer.ofInt?_eq_some_iff {z : Int} {n : Int64} :
    Integer.ofInt? z = some n ↔ n.toInt = z := by
  rw [Integer.ofInt?]
  split
  · next h =>
    rw [Option.some.injEq]
    refine ⟨fun hn => hn ▸ Int64.toInt_ofInt_of_le h.1 h.2, fun hz => ?_⟩
    rw [← hz, Int64.ofInt_toInt]
  · next h =>
    refine ⟨fun hn => (by cases hn), fun hz => absurd ?_ h⟩
    rw [← hz]
    exact ⟨n.le_toInt, n.toInt_lt⟩

/-- There is none if no 64-bit integer has that value. -/
theorem Integer.ofInt?_eq_none_iff {z : Int} :
    Integer.ofInt? z = none ↔ ∀ n : Int64, n.toInt ≠ z := by
  simp only [Option.eq_none_iff_forall_ne_some, ne_eq, ofInt?_eq_some_iff]

namespace Number

/-- The value that a number is. -/
def toValue : Number → Value
  | .int n => .integer n
  | .float x => .float x

/-! ## Spellings -/

/-- Whether the character is a hexadecimal digit. -/
def isHexDigit (c : Char) : Bool :=
  c.isDigit || ('a' ≤ c && c ≤ 'f') || ('A' ≤ c && c ≤ 'F')

/-- The value of a digit, with letters for the digits from ten on. -/
def digitValue (c : Char) : Nat :=
  if c.isDigit then c.toNat - '0'.toNat
  else if 'a' ≤ c then c.toNat - 'a'.toNat + 10
  else c.toNat - 'A'.toNat + 10

/-- The whole number that digits spell in a base. -/
def wholeNumber (base : Nat) (digits : List Char) : Nat :=
  digits.foldl (fun n c => base * n + digitValue c) 0

/-- The integer that a sign and digits spell in a base, if every digit is below the base and the
integer is in range. -/
def integer? (negative : Bool) (base : Nat) (digits : List Char) : Option Number :=
  if digits.all fun c => digitValue c < base then
    let size : Int := wholeNumber base digits
    (Integer.ofInt? (if negative then -size else size)).map .int
  else none

/-- Whether a text is made of the characters of float spellings, with at least one digit. -/
def looksLikeFloat (body : List Char) : Bool :=
  body.any Char.isDigit &&
    body.all fun c => c.isDigit || c == '.' || c == 'e' || c == 'E' || c == '+' || c == '-'

/-- The float that a sign and a numeral spell, if it is finite. A plus sign has been dropped
before; so the numeral may then bring a sign of its own. -/
def float? (negative : Bool) (body : List Char) : Option Number :=
  if looksLikeFloat body then
    match Numeral.ofChars? (if negative then '-' :: body else body) with
    | some numeral =>
      let x := Binary64.ofFloat numeral.toFloat
      if x.isFinite then some (.float x) else none
    | none => none
  else none

/-- The number spelled by a text without its sign. -/
def ofUnsigned? (negative : Bool) : List Char → Option Number
  | [] => none
  | body@(c :: rest) =>
    match c, rest with
    | '0', 'x' :: digits | '0', 'X' :: digits =>
      if digits.isEmpty || !digits.all isHexDigit then none else integer? negative 16 digits
    | _, _ =>
      if body.all Char.isDigit then
        integer? negative (if c = '0' ∧ rest ≠ [] then 8 else 10) body
      else float? negative body

/-- The number spelled by a list of characters. -/
def ofChars? : List Char → Option Number
  | '-' :: body => ofUnsigned? true body
  | '+' :: body => ofUnsigned? false body
  | body => ofUnsigned? false body

/-- The number that a text spells. -/
def parse? (text : String) : Option Number :=
  ofChars? text.toList

/-- The number that a value is or spells. -/
def ofValue? : Value → Option Number
  | .integer n => some (.int n)
  | .float x => some (.float x)
  | .string s => parse? s
  | _ => none

end Number

end Manifest
