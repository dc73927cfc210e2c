/-!
# Shortest decimals

A finite binary number is written with the fewest digits that read back as the same number.

* `Magnitude` — a nonnegative number of the binary64 format with the interval of reals that
  round to it.
* `Magnitude.shortest` — the decimal with the fewest digits in that interval. Among the decimals
  of that length it is the one nearest to the number; of two equally near ones, the larger.

All comparisons are exact, in the natural numbers.
-/

namespace Manifest

/-- The decimal number `coefficient * 10 ^ exponent`. -/
structure Decimal where
  /-- the digits, read as one whole number -/
  coefficient : Nat
  /-- the power of ten that the last digit counts -/
  exponent : Int
deriving DecidableEq

/-- The number `significand * 2 ^ exponent` as a member of the binary64 format. -/
structure Magnitude where
  /-- the bits of the number, as a whole number -/
  significand : Nat
  /-- the power of two that the last bit counts -/
  exponent : Int
  /-- whether the next smaller number of the format is only half as far as the next larger one -/
  closeBelow : Bool

namespace Magnitude

/-- Drops the sign of a finite number given by its bits. -/
def ofBits (bits : UInt64) : Magnitude :=
  let field : Nat := bits.toNat / 0x10000000000000 % 0x800
  let fraction : Nat := bits.toNat % 0x10000000000000
  if field = 0 then ⟨fraction, -1074, false⟩
  else ⟨0x10000000000000 + fraction, (field : Int) - 1075, decide (fraction = 0 ∧ 1 < field)⟩

/-! ## The interval of a number, in quarters of its last bit -/

/-- The lower end of the interval. -/
def lower (v : Magnitude) : Nat :=
  4 * v.significand - if v.closeBelow then 1 else 2

/-- The upper end of the interval. -/
def upper (v : Magnitude) : Nat :=
  4 * v.significand + 2

/-- The factor of a number counted in quarters of the last bit, when it is compared with
multiples of `10 ^ k`. -/
def binaryScale (v : Magnitude) (k : Int) : Nat :=
  Nat.pow 2 (v.exponent - 2).toNat * Nat.pow 10 (-k).toNat

/-- The factor of a multiple of `10 ^ k`, when it is compared with a number counted in quarters
of the last bit. -/
def decimalScale (v : Magnitude) (k : Int) : Nat :=
  Nat.pow 2 (2 - v.exponent).toNat * Nat.pow 10 k.toNat

/-- Whether `c * 10 ^ k` rounds to the number: it lies inside the interval, the ends included
when the last bit of the number is zero. -/
def reads (v : Magnitude) (k : Int) (c : Nat) : Bool :=
  let point := c * v.decimalScale k
  let low := v.lower * v.binaryScale k
  let high := v.upper * v.binaryScale k
  if v.significand % 2 = 0 then low ≤ point && point ≤ high else low < point && point < high

/-! ## The search -/

/-- The multiple of `10 ^ k` that stands for the number, if one of its two neighbours on that
grid does: the nearer of the two, or the larger when they are equally near. -/
def nearest? (v : Magnitude) (k : Int) : Option Nat :=
  let exact := 4 * v.significand * v.binaryScale k
  let unit := v.decimalScale k
  let below := exact / unit
  let up := 2 * (exact - below * unit) ≥ unit
  match v.reads k below, v.reads k (below + 1) with
  | true, true => some (if up then below + 1 else below)
  | true, false => some below
  | false, true => some (below + 1)
  | false, false => none

/-- The first grid with an answer, from `10 ^ k` to finer ones. -/
def search (v : Magnitude) : Nat → Int → Decimal
  | 0, k => ⟨4 * v.significand * v.binaryScale k / v.decimalScale k, k⟩
  | n + 1, k =>
    match v.nearest? k with
    | some c => ⟨c, k⟩
    | none => v.search n (k - 1)

/-- A power of ten above the number. -/
def ceiling (v : Magnitude) : Int :=
  (v.significand.log2 + 1 + v.exponent) * 30103 / 100000 + 2

/-- The decimal with the fewest digits that reads back as the number. Seventeen digits always
do, so the search ends within the steps it is given. -/
def shortest (v : Magnitude) : Decimal :=
  v.search 24 v.ceiling

end Magnitude

end Manifest
