import Manifest.Decimal.Shortest

/-!
# Decimal numerals

The numerals that read as floats: an optional sign, digits with at most one point among or
around them and at least one digit in all, and optionally an exponent with a sign of its own.
A numeral stands for the float nearest to the decimal it spells.
-/

namespace Manifest

/-- A numeral: a sign and a decimal. -/
structure Numeral where
  /-- whether the numeral starts with a minus sign -/
  negative : Bool
  /-- the decimal after the sign -/
  magnitude : Decimal
deriving DecidableEq

namespace Numeral

/-- The value of a decimal digit. -/
def digitValue (c : Char) : Nat :=
  c.toNat - '0'.toNat

/-- The whole number that a run of decimal digits spells. -/
def wholeNumber (digits : List Char) : Nat :=
  digits.foldl (fun n c => 10 * n + digitValue c) 0

/-- The exponent after its letter: a sign and at least one digit, and nothing else. -/
def exponent? (text : List Char) : Option Int :=
  let (negative, digits) :=
    match text with
    | '-' :: rest => (true, rest)
    | '+' :: rest => (false, rest)
    | _ => (false, text)
  if digits.isEmpty || !digits.all Char.isDigit then none
  else some (if negative then -(wholeNumber digits : Int) else wholeNumber digits)

/-- The digits of a numeral up to its exponent: those before the point, those after it, and what
follows. -/
def mantissa (text : List Char) : List Char × List Char × List Char :=
  let whole := text.takeWhile Char.isDigit
  match text.dropWhile Char.isDigit with
  | '.' :: rest => (whole, rest.takeWhile Char.isDigit, rest.dropWhile Char.isDigit)
  | rest => (whole, [], rest)

/-- An unsigned numeral. -/
def unsigned? (text : List Char) : Option Decimal :=
  let (whole, fraction, rest) := mantissa text
  if whole.isEmpty && fraction.isEmpty then none
  else
    let scaled (e : Int) : Decimal := ⟨wholeNumber (whole ++ fraction), e - fraction.length⟩
    match rest with
    | [] => some (scaled 0)
    | c :: tail => if c = 'e' ∨ c = 'E' then (exponent? tail).map scaled else none

/-- Reads a numeral, all of it. -/
def ofChars? : List Char → Option Numeral
  | '-' :: rest => (unsigned? rest).map (⟨true, ·⟩)
  | '+' :: rest => (unsigned? rest).map (⟨false, ·⟩)
  | text => (unsigned? text).map (⟨false, ·⟩)

/-! ## The nearest float -/

/-- A size that no float of the format reaches, in digits before the point. -/
def beyond : Int := 400

/-- The float nearest to a decimal. Decimals far outside the range of the format are settled by
their size, without computing the power of ten. -/
def nearestFloat (d : Decimal) : Float :=
  let size : Int := (Nat.toDigits 10 d.coefficient).length + d.exponent
  if d.coefficient = 0 ∨ size < -beyond then 0
  else if beyond < size then 1 / 0
  else if 0 ≤ d.exponent then Float.ofScientific d.coefficient false d.exponent.toNat
  else Float.ofScientific d.coefficient true (-d.exponent).toNat

/-- The float that a numeral stands for. -/
def toFloat (n : Numeral) : Float :=
  if n.negative then -(nearestFloat n.magnitude) else nearestFloat n.magnitude

end Numeral

end Manifest
