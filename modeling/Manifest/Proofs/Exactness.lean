import Mathlib.Data.Rat.Floor
import Manifest.Proofs.Checked

/-!
# Exact arithmetic

The operators on integers stand for operations on numbers: sums, products, quotients, and products
with powers of two, of which the last two are rounded down to an integer. A result that is a 64-bit
integer is the one that an operator gives; where it is none there is an error. That no step on the
way loses anything is in `Manifest.Proofs.Checked`.

* `Integer.exact` — the result as a number, whatever its size.
* `Integer.shift?_eq` — shifts are products with powers of two, for amounts of any size.
* `Integer.arithmetic_exact` — the result of an operator is the exact one or an error. The remainder
  is left out.
* `Integer.arithmetic_mod` — the remainder (`Integer.IsRemainder`) also fails where it is in range
  and only the quotient that it is taken from is not.
-/

namespace Manifest.Integer

/-- The exact result of an operator on integers. Those that divide round it down. -/
def exact (op : ArithmeticOp) (a b : Int) : Int :=
  match op with
  | .add => a + b
  | .sub => a - b
  | .mul => a * b
  | .div => ⌊(a / b : ℚ)⌋
  | .mod => a - b * ⌊(a / b : ℚ)⌋
  | .shiftLeft => ⌊(a * 2 ^ b : ℚ)⌋
  | .shiftRight => ⌊(a * 2 ^ (-b) : ℚ)⌋

/-! ## Division -/

/-- The quotient is rounded down, whatever the signs. -/
theorem floor_div_eq_fdiv (a b : Int) : ⌊(a / b : ℚ)⌋ = a.fdiv b := by
  obtain ⟨k, rfl | rfl⟩ := b.eq_nat_or_neg
  · rw [Int.fdiv_eq_ediv_of_nonneg a k.cast_nonneg]
    exact_mod_cast Rat.floor_intCast_div_natCast a k
  · have hfloor := Rat.floor_intCast_div_natCast (-a) k
    rw [← Int.fdiv_eq_ediv_of_nonneg (-a) k.cast_nonneg] at hfloor
    rw [← Int.neg_fdiv_neg, neg_neg, ← hfloor]
    push_cast
    rw [div_neg, neg_div]

/-! ## Shifts -/

/-- A product with a power of two. -/
theorem floor_mul_pow (a : Int) (n : Nat) : ⌊(a * 2 ^ (n : Int) : ℚ)⌋ = a * 2 ^ n := by
  have hproduct : (a * 2 ^ (n : Int) : ℚ) = ((a * 2 ^ n : Int) : ℚ) := by
    push_cast
    rw [zpow_natCast]
  rw [hproduct, Int.floor_intCast]

/-- A quotient by a power of two, rounded down. -/
theorem floor_mul_pow_neg (a : Int) (n : Nat) : ⌊(a * 2 ^ (-(n : Int)) : ℚ)⌋ = a / 2 ^ n := by
  have hquotient : (a * 2 ^ (-(n : Int)) : ℚ) = a / ((2 ^ n : Nat) : ℚ) := by
    push_cast
    rw [zpow_neg, zpow_natCast, div_eq_mul_inv]
  rw [hquotient, Rat.floor_intCast_div_natCast]
  push_cast
  rfl

/-- A shift is a product with a power of two, rounded down, for an amount of any sign and size. -/
theorem shift?_eq (a b : Int64) (left : Bool) :
    shift? a b left = ofInt? ⌊(a.toInt * 2 ^ (if left then b.toInt else -b.toInt) : ℚ)⌋ := by
  rw [shift?_eq_ite]
  by_cases hb : 0 ≤ b.toInt
  · obtain ⟨n, hn⟩ := Int.eq_ofNat_of_zero_le hb
    rw [decide_eq_true hb, hn, Int.natAbs_natCast]
    cases left with
    | true => exact congrArg ofInt? (floor_mul_pow a.toInt n).symm
    | false => exact congrArg ofInt? (floor_mul_pow_neg a.toInt n).symm
  · obtain ⟨n, hn⟩ := Int.eq_ofNat_of_zero_le (Int.neg_nonneg_of_nonpos (Int.le_of_not_le hb))
    have hneg : b.toInt = -(n : Int) := by omega
    rw [decide_eq_false hb, hneg, Int.natAbs_neg, Int.natAbs_natCast, neg_neg]
    cases left with
    | true => exact congrArg ofInt? (floor_mul_pow_neg a.toInt n).symm
    | false => exact congrArg ofInt? (floor_mul_pow a.toInt n).symm

/-! ## Operators -/

/-- The result of an operator is the exact one, if it is in range. -/
theorem result?_eq {op : ArithmeticOp} (hop : op ≠ .mod) (a : Int64) {b : Int64}
    (hdivisor : ¬(op = .div ∧ b = 0)) :
    result? op a b = ofInt? (exact op a.toInt b.toInt) := by
  cases op with
  | add => exact checkedAdd?_eq a b
  | sub => exact checkedSub?_eq a b
  | mul => exact checkedMul?_eq a b
  | div =>
    rw [exact, floor_div_eq_fdiv]
    exact floorDiv?_eq a fun hb => hdivisor ⟨rfl, hb⟩
  | mod => exact absurd rfl hop
  | shiftLeft => exact shift?_eq a b true
  | shiftRight => exact shift?_eq a b false

/-- **Arithmetic on integers is exact**: the result is the exact one if that is a 64-bit integer,
and otherwise an error about the left operand; a division by zero is an error about the divisor. -/
theorem arithmetic_exact {op : ArithmeticOp} (hop : op ≠ .mod) (a b : Int64) :
    (op = .div ∧ b = 0 → Value.arithmetic op (.integer a) (.integer b) =
      fault (.runtimeArithmetic op.symbol (.integer b) "division by zero")) ∧
    (¬(op = .div ∧ b = 0) →
      (∀ n : Int64, n.toInt = exact op a.toInt b.toInt →
        Value.arithmetic op (.integer a) (.integer b) = .ok (.integer n)) ∧
      ((∀ n : Int64, n.toInt ≠ exact op a.toInt b.toInt) →
        Value.arithmetic op (.integer a) (.integer b) =
          fault (.runtimeArithmetic op.symbol (.integer a) "integer overflow"))) := by
  have happly : Value.arithmetic op (.integer a) (.integer b) = Integer.apply op a b := rfl
  rw [happly, Integer.apply]
  refine ⟨?_, fun hdivisor => ?_⟩
  · rintro ⟨rfl, rfl⟩
    rfl
  · have hguard : ¬(divides op ∧ b = 0) := by
      rintro ⟨hdivides, hb⟩
      cases op with
      | div => exact hdivisor ⟨rfl, hb⟩
      | mod => exact hop rfl
      | _ => cases hdivides
    rw [if_neg hguard, result?_eq hop a hdivisor]
    refine ⟨fun n hn => ?_, fun hnone => ?_⟩
    · rw [ofInt?_eq_some_iff.2 hn]
    · rw [ofInt?_eq_none_iff.2 hnone]

/-- The least integer by minus one is out of range; minus five shifted to the right by one, which is
as much as to the left by minus one, is minus three; and nothing can be divided by zero. -/
theorem arithmetic_exact_edges :
    Value.arithmetic .div (.integer Int64.minValue) (.integer (-1)) =
        fault (.runtimeArithmetic "/" (.integer Int64.minValue) "integer overflow") ∧
      Value.arithmetic .shiftRight (.integer (-5)) (.integer 1) = .ok (.integer (-3)) ∧
      Value.arithmetic .shiftLeft (.integer (-5)) (.integer (-1)) = .ok (.integer (-3)) ∧
      Value.arithmetic .div (.integer 7) (.integer 0) =
        fault (.runtimeArithmetic "/" (.integer 0) "division by zero") := by
  have hmin : ∀ n : Int64, n.toInt ≠ exact .div Int64.minValue.toInt (-1 : Int64).toInt := by
    intro n hn
    have hhigh := n.toInt_lt
    rw [hn, exact, floor_div_eq_fdiv] at hhigh
    exact absurd hhigh (by decide)
  have hhalf : (-3 : Int64).toInt = ⌊((-5 : Int64).toInt * 2 ^ (-((1 : Nat) : Int)) : ℚ)⌋ := by
    rw [floor_mul_pow_neg]
    decide
  exact ⟨((arithmetic_exact (by decide) _ _).2 (by decide)).2 hmin,
    ((arithmetic_exact (by decide) _ _).2 (by decide)).1 _ hhalf,
    ((arithmetic_exact (by decide) _ _).2 (by decide)).1 _ hhalf,
    (arithmetic_exact (by decide) _ _).1 ⟨rfl, rfl⟩⟩

/-! ## The remainder -/

/-- What a division of an integer that is rounded down leaves over. -/
structure IsRemainder (a b r : Int) : Prop where
  identity : a = b * ⌊(a / b : ℚ)⌋ + r
  smaller : |r| < |b|
  sign : r = 0 ∨ r.sign = b.sign

/-- A remainder lies between zero and the divisor. -/
theorem isRemainder_of_between {a b r : Int} (h : a = b * a.fdiv b + r)
    (hr : 0 ≤ r ∧ r < b ∨ b < r ∧ r ≤ 0) : IsRemainder a b r where
  identity := by rwa [floor_div_eq_fdiv]
  smaller := by
    rcases hr with ⟨hlow, hhigh⟩ | ⟨hlow, hhigh⟩
    · rwa [abs_of_nonneg hlow, abs_of_pos (by omega)]
    · rw [abs_of_nonpos hhigh, abs_of_neg (by omega)]
      omega
  sign := by
    rcases hr with ⟨hlow, hhigh⟩ | ⟨hlow, hhigh⟩
    · refine hlow.eq_or_lt.imp Eq.symm fun hpos => ?_
      rw [Int.sign_eq_one_of_pos hpos, Int.sign_eq_one_of_pos (by omega)]
    · refine hhigh.eq_or_lt.imp_right fun hneg => ?_
      rw [Int.sign_eq_neg_one_of_neg hneg, Int.sign_eq_neg_one_of_neg (by omega)]

/-- Every divisor but zero leaves a remainder. -/
theorem isRemainder_fmod (a : Int) {b : Int} (hb : b ≠ 0) : IsRemainder a b (a.fmod b) := by
  refine isRemainder_of_between (Int.mul_fdiv_add_fmod a b).symm ?_
  rcases Int.lt_or_gt_of_ne hb with hneg | hpos
  · have hlow := Int.fmod_nonneg_of_pos (-a) (Int.neg_pos_of_neg hneg)
    have hhigh := Int.fmod_lt_of_pos (-a) (Int.neg_pos_of_neg hneg)
    rw [Int.neg_fmod_neg] at hlow hhigh
    omega
  · exact .inl ⟨Int.fmod_nonneg_of_pos a hpos, Int.fmod_lt_of_pos a hpos⟩

/-- **The remainder**: it rounds the quotient down, so that it lies between zero and the divisor.
Besides the division by zero there is one division without a remainder: that of the least integer by
minus one, whose quotient is out of range. -/
theorem arithmetic_mod (a b : Int64) :
    (b = 0 → Value.arithmetic .mod (.integer a) (.integer b) =
      fault (.runtimeArithmetic "%" (.integer b) "modulo by zero")) ∧
    (a = Int64.minValue ∧ b = -1 → Value.arithmetic .mod (.integer a) (.integer b) =
      fault (.runtimeArithmetic "%" (.integer a) "integer overflow")) ∧
    (b ≠ 0 → ¬(a = Int64.minValue ∧ b = -1) → ∃ r : Int64,
      Value.arithmetic .mod (.integer a) (.integer b) = .ok (.integer r) ∧
        IsRemainder a.toInt b.toInt r.toInt) := by
  refine ⟨?_, ?_, fun hb hrange => ?_⟩
  · rintro rfl
    rfl
  · rintro ⟨rfl, rfl⟩
    rfl
  · have happly : Value.arithmetic .mod (.integer a) (.integer b) = Integer.apply .mod a b := rfl
    obtain ⟨r, hresult, hr⟩ := exists_floorMod?_eq hb hrange
    refine ⟨r, ?_, hr ▸ isRemainder_fmod a.toInt fun h => hb (Int64.toInt_inj.1 h)⟩
    rw [happly, Integer.apply, if_neg fun hzero => hb hzero.2, result?, hresult]

/-- Minus seven leaves one by two; the least integer cannot be divided by minus one, and seven not
by zero. -/
theorem arithmetic_mod_edges :
    (Value.arithmetic .mod (.integer (-7)) (.integer 2) = .ok (.integer 1) ∧
      IsRemainder (-7 : Int64).toInt (2 : Int64).toInt (1 : Int64).toInt) ∧
    Value.arithmetic .mod (.integer Int64.minValue) (.integer (-1)) =
      fault (.runtimeArithmetic "%" (.integer Int64.minValue) "integer overflow") ∧
    Value.arithmetic .mod (.integer 7) (.integer 0) =
      fault (.runtimeArithmetic "%" (.integer 0) "modulo by zero") := by
  refine ⟨?_, (arithmetic_mod _ _).2.1 ⟨rfl, rfl⟩, (arithmetic_mod _ _).1 rfl⟩
  obtain ⟨r, hr, hremainder⟩ := (arithmetic_mod (-7) 2).2.2 (by decide) (by decide)
  have hone : Value.arithmetic .mod (.integer (-7)) (.integer 2) = .ok (.integer 1) := rfl
  rw [hone] at hr
  cases hr
  exact ⟨hone, hremainder⟩

/-- Minus one leaves nothing of the least integer. That remainder is in range, but the division is
refused. -/
theorem arithmetic_mod_refused :
    (-1 : Int64) ≠ 0 ∧ IsRemainder Int64.minValue.toInt (-1 : Int64).toInt (0 : Int64).toInt ∧
      Value.arithmetic .mod (.integer Int64.minValue) (.integer (-1)) =
        fault (.runtimeArithmetic "%" (.integer Int64.minValue) "integer overflow") :=
  ⟨by decide, isRemainder_of_between (by decide) (.inr (by decide)), rfl⟩

end Manifest.Integer
