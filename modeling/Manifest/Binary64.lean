/-!
# Floats

A float is a member of the binary64 format, kept as its 64 bits. The bits say more than the number
does: there are two zeros, and an undefined float has a sign, so that two floats are the same only
when their bits are.

* `Binary64.toFloat`, `Binary64.ofFloat` — the number, for arithmetic and comparison.
* `Binary64.neg` — the float with the other sign, undefined or not.
* `Binary64.add`, `sub`, `mul`, `div` — arithmetic. An undefined operand is passed on, the left one
  first; where defined operands have no defined result, the result is `Binary64.indefinite`.
-/

namespace Manifest

/-- A member of the binary64 format. -/
structure Binary64 where
  /-- the sign, the exponent and the fraction -/
  bits : UInt64
deriving DecidableEq, Inhabited

namespace Binary64

/-! ## Kinds of floats -/

/-- The bits without the sign, as a whole number. Finite floats come first, in the order of their
size, then infinity, then the undefined floats. -/
def size (x : Binary64) : Nat :=
  x.bits.toNat % 0x8000000000000000

/-- The size of infinity. -/
def infinitySize : Nat :=
  0x7FF0000000000000

/-- Whether the sign is minus. -/
def isNegative (x : Binary64) : Bool :=
  0x8000000000000000 ≤ x.bits.toNat

/-- Whether the float is one of the two zeros. -/
def isZero (x : Binary64) : Bool :=
  x.size = 0

/-- Whether the float is a finite number. -/
def isFinite (x : Binary64) : Bool :=
  x.size < infinitySize

/-- Whether the float is an infinity. -/
def isInfinite (x : Binary64) : Bool :=
  x.size = infinitySize

/-- Whether the float is undefined. -/
def isUndefined (x : Binary64) : Bool :=
  infinitySize < x.size

/-! ## Numbers -/

/-- The number that the float is. -/
def toFloat (x : Binary64) : Float :=
  Float.ofBits x.bits

/-- The float of a number. An undefined number has the sign plus. -/
def ofFloat (x : Float) : Binary64 :=
  ⟨x.toBits⟩

/-- The undefined float with the sign plus. -/
def undefined : Binary64 :=
  ⟨0x7FF8000000000000⟩

/-! ## Arithmetic -/

/-- The float with the other sign. -/
def neg (x : Binary64) : Binary64 :=
  ⟨x.bits ^^^ 0x8000000000000000⟩

/-- What an operation makes of defined operands without a defined result. Its sign is minus. -/
def indefinite : Binary64 :=
  undefined.neg

/-- An undefined operand as the result of an operation: marked as reported, otherwise as it was. -/
def passed (x : Binary64) : Binary64 :=
  ⟨x.bits ||| 0x0008000000000000⟩

/-- Applies an operation on numbers. -/
def apply (op : Float → Float → Float) (x y : Binary64) : Binary64 :=
  if x.isUndefined then x.passed
  else if y.isUndefined then y.passed
  else
    let result := ofFloat (op x.toFloat y.toFloat)
    if result.isUndefined then indefinite else result

/-- The sum. -/
def add (x y : Binary64) : Binary64 :=
  apply (· + ·) x y

/-- The difference. -/
def sub (x y : Binary64) : Binary64 :=
  apply (· - ·) x y

/-- The product. -/
def mul (x y : Binary64) : Binary64 :=
  apply (· * ·) x y

/-- The quotient. -/
def div (x y : Binary64) : Binary64 :=
  apply (· / ·) x y

end Binary64

end Manifest
