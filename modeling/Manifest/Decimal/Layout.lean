import Manifest.Binary64
import Manifest.Decimal.Shortest

/-!
# The text of a float

Two layouts of the shortest decimal of a float.

* `display` is positional at every size.
* `debug` is positional from `10 ^ -4` up to `10 ^ 16` and in powers of ten outside.

Both show a whole number with a zero after the point, so that the text still reads as a float.
-/

namespace Manifest

namespace Decimal

/-- The digits of the coefficient. -/
def digits (d : Decimal) : List Char :=
  Nat.toDigits 10 d.coefficient

/-- How many digits stand before the point; negative when zeros follow it. -/
def point (d : Decimal) : Int :=
  d.digits.length + d.exponent

/-- The decimal with every digit in its place, and at least one after the point. -/
def positional (d : Decimal) : List Char :=
  if d.point ≤ 0 then
    '0' :: '.' :: List.replicate (-d.point).toNat '0' ++ d.digits
  else if 0 ≤ d.exponent then
    d.digits ++ List.replicate d.exponent.toNat '0' ++ ['.', '0']
  else
    d.digits.take d.point.toNat ++ '.' :: d.digits.drop d.point.toNat

/-- The decimal as one digit before the point and a power of ten. -/
def scientific (d : Decimal) : List Char :=
  match d.digits with
  | [] => []
  | lead :: rest =>
    lead :: (if rest.isEmpty then [] else '.' :: rest) ++ 'e' :: (toString (d.point - 1)).toList

/-- Whether a number of this size is shown in powers of ten in diagnostics. -/
def isExtreme (d : Decimal) : Bool :=
  16 < d.point || d.point ≤ -4

end Decimal

namespace FloatText

/-- The text of a float, given the layout of its finite nonzero part. -/
def layout (body : Decimal → List Char) (x : Binary64) : String :=
  if x.isUndefined then "NaN"
  else
    let sign := if x.isNegative then ['-'] else []
    if x.isInfinite then String.ofList (sign ++ "inf".toList)
    else if x.isZero then String.ofList (sign ++ "0.0".toList)
    else String.ofList (sign ++ body (Magnitude.ofBits x.bits).shortest)

/-- The text of a float where values are shown to the reader. -/
def display (x : Binary64) : String :=
  layout Decimal.positional x

/-- The text of a float inside a diagnostic. -/
def debug (x : Binary64) : String :=
  layout (fun d => if d.isExtreme then d.scientific else d.positional) x

end FloatText

end Manifest
