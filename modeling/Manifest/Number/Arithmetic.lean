import Manifest.Error
import Manifest.Number

/-!
# Arithmetic

Integer arithmetic is exact: a result that is out of range is an error, never wrapped. Division
and remainder round toward negative infinity. A shift multiplies or divides by a power of two; a
negative amount shifts the other way. As soon as one operand is a float, the other becomes one
too; `%`, `<<` and `>>` know integers only.
-/

namespace Manifest

/-! ## Integers

Integers have 64 bits. A step on them gives an integer or overflows, and operations are made of such
steps. -/

namespace Integer

/-- The result of a step, unless the step overflows. -/
def checked (overflows : Bool) (result : Int64) : Option Int64 :=
  if overflows then none else some result

/-- The sum. -/
def checkedAdd? (a b : Int64) : Option Int64 :=
  checked (a.toBitVec.saddOverflow b.toBitVec) (a + b)

/-- The difference. -/
def checkedSub? (a b : Int64) : Option Int64 :=
  checked (a.toBitVec.ssubOverflow b.toBitVec) (a - b)

/-- The product. -/
def checkedMul? (a b : Int64) : Option Int64 :=
  checked (a.toBitVec.smulOverflow b.toBitVec) (a * b)

/-- The integer with the opposite sign. -/
def checkedNeg? (a : Int64) : Option Int64 :=
  checked a.toBitVec.negOverflow (-a)

/-- Whether there is no quotient: nothing is divided by zero, and the least integer divided by minus
one is out of range. -/
def hasNoQuotient (a b : Int64) : Bool :=
  b = 0 || a = Int64.minValue && b = -1

/-- The quotient, rounded toward zero. -/
def checkedDiv? (a b : Int64) : Option Int64 :=
  checked (hasNoQuotient a b) (a / b)

/-- The remainder of the quotient that is rounded toward zero; there is none if that quotient is
out of range. -/
def checkedRem? (a b : Int64) : Option Int64 :=
  checked (hasNoQuotient a b) (a % b)

/-- Whether a remainder lies on the other side of zero than the divisor. -/
def isOpposite (r b : Int64) : Bool :=
  r ≠ 0 && decide (r < 0) != decide (b < 0)

/-- The quotient, rounded toward negative infinity. -/
def floorDiv? (a b : Int64) : Option Int64 := do
  let q ← checkedDiv? a b
  let r ← checkedRem? a b
  if isOpposite r b then checkedSub? q 1 else some q

/-- The remainder with the sign of the divisor. It is made of the one of the quotient that is
rounded toward zero, so there is none when that quotient is out of range. -/
def floorMod? (a b : Int64) : Option Int64 := do
  let r ← checkedRem? a b
  some (if isOpposite r b then r + b else r)

/-- How far to shift, if that is less than the width of integers. -/
def places? (amount : UInt64) : Option Int64 :=
  if amount < 64 then some amount.toInt64 else none

/-- The integer shifted to the left, if shifting it back restores it. -/
def shiftLeft? (a : Int64) (amount : UInt64) : Option Int64 :=
  if a = 0 then some 0
  else do
    let n ← places? amount
    let shifted := a <<< n
    if shifted >>> n = a then some shifted else none

/-- The integer shifted to the right. What is shifted beyond the width leaves the sign only. -/
def shiftRight (a : Int64) (amount : UInt64) : Int64 :=
  match places? amount with
  | some n => a >>> n
  | none => if a < 0 then -1 else 0

/-- A shift to the left or to the right; a negative amount shifts the other way. -/
def shift? (a b : Int64) (left : Bool) : Option Int64 :=
  let amount := b.abs.toUInt64
  if decide (0 ≤ b) = left then shiftLeft? a amount else some (shiftRight a amount)

/-- The result of an operator on integers; `none` when it is out of range. -/
def result? (op : ArithmeticOp) (a b : Int64) : Option Int64 :=
  match op with
  | .add => checkedAdd? a b
  | .sub => checkedSub? a b
  | .mul => checkedMul? a b
  | .div => floorDiv? a b
  | .mod => floorMod? a b
  | .shiftLeft => shift? a b true
  | .shiftRight => shift? a b false

/-- Whether the operator divides by its right operand. -/
def divides : ArithmeticOp → Bool
  | .div | .mod => true
  | _ => false

/-- What a division by zero is called. -/
def zeroDivisor (op : ArithmeticOp) : String :=
  if op = .mod then "modulo by zero" else "division by zero"

/-- Applies an operator to integers. -/
def apply (op : ArithmeticOp) (a b : Int64) : Except EvalError Value :=
  if divides op ∧ b = 0 then fault (.runtimeArithmetic op.symbol (.integer b) (zeroDivisor op))
  else
    match result? op a b with
    | some n => .ok (.integer n)
    | none => fault (.runtimeArithmetic op.symbol (.integer a) "integer overflow")

/-- The float nearest to an integer. -/
def toBinary64 (n : Int64) : Binary64 :=
  .ofFloat (Float.ofInt n.toInt)

end Integer

/-! ## Floats -/

/-- Applies an operator to floats. -/
def applyFloat (op : ArithmeticOp) (x y : Binary64) : Except EvalError Value :=
  match op with
  | .add => .ok (.float (x.add y))
  | .sub => .ok (.float (x.sub y))
  | .mul => .ok (.float (x.mul y))
  | .div =>
    if y.isZero then fault (.runtimeArithmetic op.symbol (.float y) "division by zero")
    else .ok (.float (x.div y))
  | .mod | .shiftLeft | .shiftRight => fault (.operatorNotApplicable op.symbol (.float x))

/-! ## Values -/

namespace Number

/-- The number as a float. -/
def toBinary64 : Number → Binary64
  | .int n => Integer.toBinary64 n
  | .float x => x

/-- Applies an operator to numbers. -/
def apply (op : ArithmeticOp) : Number → Number → Except EvalError Value
  | .int a, .int b => Integer.apply op a b
  | .int a, .float y =>
    if op.integersOnly then fault (.operatorNotApplicable op.symbol (.float y))
    else applyFloat op (Integer.toBinary64 a) y
  | .float x, b =>
    if op.integersOnly then fault (.operatorNotApplicable op.symbol (.float x))
    else applyFloat op x b.toBinary64

/-- The number that an operand is or spells. -/
def operand (op : ArithmeticOp) (v : Value) : Except EvalError Number :=
  match ofValue? v with
  | some n => .ok n
  | none =>
    fault (.runtimeArithmetic op.symbol v
      ("the value '" ++ v.display ++ "' cannot be converted to Numeric"))

end Number

/-- Applies an arithmetic operator to values that are numbers or spell them. -/
def Value.arithmetic (op : ArithmeticOp) (left right : Value) : Except EvalError Value :=
  match Number.operand op left with
  | .error e => .error e
  | .ok a =>
    match Number.operand op right with
    | .error e => .error e
    | .ok b => Number.apply op a b

/-- The number with the opposite sign. -/
def Value.negate (v : Value) : Except EvalError Value :=
  match Number.ofValue? v with
  | some (.int n) =>
    match Integer.checkedNeg? n with
    | some m => .ok (.integer m)
    | none => fault (.runtimeArithmetic "-" v "integer overflow")
  | some (.float x) => .ok (.float x.neg)
  | none => fault (.typeCoercion v "Numeric")

end Manifest
