import Mathlib.Tactic.Linarith
import Mathlib.Tactic.NormNum
import Manifest.Number.Arithmetic

/-!
# Steps of 64-bit arithmetic

Each step on 64-bit integers gives the integer that the same step on all integers gives, and
overflows only when that is out of range. So do operations that are made of such steps, though they
take detours: a quotient is rounded toward zero and then corrected, and a shift to the left is tried
and then taken back.

* `Integer.checked_eq` — a step whose overflow is tested for by its exact result.
* `Integer.floorDiv?_eq`, `Integer.exists_floorMod?_eq` — quotient and remainder, rounded toward
  negative infinity.
* `Integer.shiftLeft?_eq`, `Integer.shiftRight_eq` — shifts by any number of places.
* `Integer.shift?_eq_ite` — the direction of a shift.
-/

namespace Manifest.Integer

/-! ## Steps that overflow -/

/-- A step whose overflow is that of its exact result. -/
theorem checked_eq {overflows : Bool} {result : Int64} {z : Int}
    (hoverflow : overflows = (decide (2 ^ 63 ≤ z) || decide (z < -2 ^ 63)))
    (hexact : overflows = false → result.toInt = z) : checked overflows result = ofInt? z := by
  rw [checked]
  split
  · next h =>
    refine (ofInt?_eq_none_iff.2 fun n hn => ?_).symm
    have hlow := n.le_toInt
    have hhigh := n.toInt_lt
    rw [h, eq_comm, Bool.or_eq_true, decide_eq_true_iff, decide_eq_true_iff] at hoverflow
    omega
  · next h => exact (ofInt?_eq_some_iff.2 (hexact (Bool.eq_false_of_not_eq_true h))).symm

theorem checkedAdd?_eq (a b : Int64) : checkedAdd? a b = ofInt? (a.toInt + b.toInt) :=
  checked_eq rfl fun h => BitVec.toInt_add_of_not_saddOverflow (Bool.not_eq_true _ ▸ h)

theorem checkedSub?_eq (a b : Int64) : checkedSub? a b = ofInt? (a.toInt - b.toInt) :=
  checked_eq rfl fun h => BitVec.toInt_sub_of_not_ssubOverflow (Bool.not_eq_true _ ▸ h)

theorem checkedMul?_eq (a b : Int64) : checkedMul? a b = ofInt? (a.toInt * b.toInt) :=
  checked_eq rfl fun h => BitVec.toInt_mul_of_not_smulOverflow (Bool.not_eq_true _ ▸ h)

/-! ## Division -/

theorem hasNoQuotient_eq_false {a b : Int64} (hb : b ≠ 0) (h : ¬(a = Int64.minValue ∧ b = -1)) :
    hasNoQuotient a b = false := by
  simpa [hasNoQuotient, hb] using h

/-- A quotient in range is rounded toward zero. -/
theorem toInt_div {a b : Int64} (h : ¬(a = Int64.minValue ∧ b = -1)) :
    (a / b).toInt = a.toInt.tdiv b.toInt := by
  by_cases ha : a = Int64.minValue
  · exact Int64.toInt_div_of_ne_right a b fun hb => h ⟨ha, hb⟩
  · exact Int64.toInt_div_of_ne_left a b ha

/-- The divisor and what is left over lie on different sides of zero. -/
theorem isOpposite_iff {r b : Int64} :
    isOpposite r b = true ↔ r.toInt < 0 ∧ 0 ≤ b.toInt ∨ 0 < r.toInt ∧ b.toInt < 0 := by
  have hzero : r = 0 ↔ r.toInt = 0 := (Int64.toInt_inj (y := 0)).symm
  have hr : r < 0 ↔ r.toInt < 0 := Int64.lt_iff_toInt_lt
  have hb : b < 0 ↔ b.toInt < 0 := Int64.lt_iff_toInt_lt
  simp only [isOpposite, ne_eq, hzero, hr, hb, Bool.and_eq_true, decide_eq_true_eq, bne_iff_ne,
    decide_eq_decide]
  omega

/-- A quotient is rounded down if what it leaves over lies between zero and the divisor. -/
theorem fdiv_fmod_eq {a b q r : Int} (h : r + b * q = a)
    (hr : 0 ≤ r ∧ r < b ∨ b < r ∧ r ≤ 0) : a.fdiv b = q ∧ a.fmod b = r := by
  rcases hr with ⟨hlow, hhigh⟩ | ⟨hlow, hhigh⟩
  · exact (Int.fdiv_fmod_unique (by omega)).2 ⟨h, hlow, hhigh⟩
  · exact (Int.fdiv_fmod_unique' (by omega)).2 ⟨h, hlow, hhigh⟩

/-- What a quotient leaves over that is rounded toward zero is smaller than the divisor. -/
theorem natAbs_toInt_mod_lt (a : Int64) {b : Int64} (hb : b ≠ 0) :
    (a % b).toInt.natAbs < b.toInt.natAbs := by
  have hne : b.toInt ≠ 0 := fun h => hb (Int64.toInt_inj.1 h)
  rw [Int64.toInt_mod, Int.natAbs_tmod]
  exact Nat.mod_lt _ (Int.natAbs_pos.2 hne)

/-- The quotient that is rounded down is the one that is rounded toward zero, or one less. -/
theorem fdiv_fmod_eq_ite (a : Int64) {b : Int64} (hb : b ≠ 0) :
    a.toInt.fdiv b.toInt =
        a.toInt.tdiv b.toInt - (if isOpposite (a % b) b then 1 else 0) ∧
      a.toInt.fmod b.toInt = (a % b).toInt + (if isOpposite (a % b) b then b.toInt else 0) := by
  have hidentity := Int.mul_tdiv_add_tmod a.toInt b.toInt
  rw [← Int64.toInt_mod] at hidentity
  have hsmaller := natAbs_toInt_mod_lt a hb
  split
  · next h =>
    have hsides := isOpposite_iff.1 h
    refine fdiv_fmod_eq ?_ ?_
    · rw [Int.mul_sub]
      omega
    · omega
  · next h =>
    have hsides := mt isOpposite_iff.2 h
    refine fdiv_fmod_eq ?_ ?_
    · rw [Int.sub_zero]
      omega
    · omega

/-- The quotient is rounded down, and overflows only if it is out of range. -/
theorem floorDiv?_eq (a : Int64) {b : Int64} (hb : b ≠ 0) :
    floorDiv? a b = ofInt? (a.toInt.fdiv b.toInt) := by
  by_cases h : a = Int64.minValue ∧ b = -1
  · obtain ⟨rfl, rfl⟩ := h
    rfl
  · have hquotient := (fdiv_fmod_eq_ite a hb).1
    rw [← toInt_div h] at hquotient
    rw [floorDiv?, checkedDiv?, checkedRem?, hasNoQuotient_eq_false hb h, hquotient]
    change (if isOpposite (a % b) b then checkedSub? (a / b) 1 else some (a / b)) = _
    split
    · exact checkedSub?_eq _ _
    · rw [Int.sub_zero]
      exact (ofInt?_eq_some_iff.2 rfl).symm

/-- The remainder is there whenever the quotient is that it is taken from. -/
theorem exists_floorMod?_eq {a b : Int64} (hb : b ≠ 0) (h : ¬(a = Int64.minValue ∧ b = -1)) :
    ∃ r : Int64, floorMod? a b = some r ∧ r.toInt = a.toInt.fmod b.toInt := by
  rw [floorMod?, checkedRem?, hasNoQuotient_eq_false hb h, (fdiv_fmod_eq_ite a hb).2]
  refine ⟨_, rfl, ?_⟩
  split
  · next hopposite =>
    -- the sum lies between its summands
    have hsides := isOpposite_iff.1 hopposite
    have hrest := And.intro (a % b).le_toInt (a % b).toInt_lt
    have hdivisor := And.intro b.le_toInt b.toInt_lt
    rw [Int64.toInt_add, Int.bmod_eq_of_le (by omega) (by omega)]
  · rw [Int.add_zero]

/-! ## Shifts -/

/-- An amount below the width is taken as it is. -/
theorem toNat_smod_width {amount : UInt64} (h : amount.toNat < 64) :
    (amount.toInt64.toBitVec.smod 64).toNat = amount.toNat := by
  have hnat : amount.toBitVec.toNat = amount.toNat := amount.toNat_toBitVec
  have hint : amount.toBitVec.toInt = amount.toNat := by
    rw [BitVec.toInt_eq_toNat_of_lt (by omega), hnat]
  have hsmod : amount.toBitVec.smod 64 = amount.toBitVec := by
    refine BitVec.eq_of_toInt_eq ?_
    have hwidth : (64 : BitVec 64).toInt = 64 := by decide
    rw [BitVec.toInt_smod, hint, hwidth, Int.fmod_eq_emod_of_nonneg _ (by decide)]
    exact Int.emod_eq_of_lt (by omega) (by omega)
  exact (congrArg BitVec.toNat hsmod).trans hnat

/-- A shift to the left multiplies, but what leaves the width is lost. -/
theorem toInt_shiftLeft (a : Int64) {amount : UInt64} (h : amount.toNat < 64) :
    (a <<< amount.toInt64).toInt = (a.toInt * 2 ^ amount.toNat).bmod (2 ^ 64) := by
  have hint : a.toInt = (a.toBitVec.toNat : Int).bmod (2 ^ 64) := BitVec.toInt_eq_toNat_bmod _
  rw [← Int64.toInt_toBitVec, Int64.toBitVec_shiftLeft, BitVec.shiftLeft_eq', toNat_smod_width h,
    BitVec.toInt_shiftLeft, Nat.shiftLeft_eq, hint, Int.bmod_mul_bmod]
  push_cast
  rfl

/-- A shift to the right divides. -/
theorem toInt_shiftRight (a : Int64) {amount : UInt64} (h : amount.toNat < 64) :
    (a >>> amount.toInt64).toInt = a.toInt / 2 ^ amount.toNat := by
  rw [← Int64.toInt_toBitVec, Int64.toBitVec_shiftRight, BitVec.sshiftRight',
    BitVec.toInt_sshiftRight, toNat_smod_width h, Int.shiftRight_eq_div_pow]
  rfl

theorem places?_of_lt {amount : UInt64} (h : amount.toNat < 64) :
    places? amount = some amount.toInt64 :=
  if_pos (UInt64.lt_iff_toNat_lt.2 h)

theorem places?_of_le {amount : UInt64} (h : 64 ≤ amount.toNat) : places? amount = none :=
  if_neg fun hlt => Nat.not_lt.2 h (UInt64.lt_iff_toNat_lt.1 hlt)

/-- A power of two whose exponent is no smaller than the width of integers. -/
theorem le_pow_of_width_le {n : Nat} (hn : 64 ≤ n) : (0x10000000000000000 : Int) ≤ 2 ^ n :=
  calc (0x10000000000000000 : Int)
    _ = 2 ^ 64 := by norm_num
    _ ≤ 2 ^ n := pow_le_pow_right₀ (by norm_num) hn

/-- A product that has lost nothing is what the shift gives, and shifting it back restores the
factor. -/
theorem shiftRight_shiftLeft_iff (a : Int64) {amount : UInt64} (h : amount.toNat < 64) :
    (a <<< amount.toInt64) >>> amount.toInt64 = a ↔
      (a <<< amount.toInt64).toInt = a.toInt * 2 ^ amount.toNat := by
  have hpos : (0 : Int) < 2 ^ amount.toNat := pow_pos (by norm_num) _
  have hdvd : (2 : Int) ^ amount.toNat ∣ (a <<< amount.toInt64).toInt := by
    rw [toInt_shiftLeft a h, Int.bmod_eq_self_sub_mul_bdiv]
    refine Int.dvd_sub (Int.dvd_mul_left _ _) (Dvd.dvd.mul_right ?_ _)
    exact_mod_cast pow_dvd_pow (2 : Int) h.le
  rw [← Int64.toInt_inj, toInt_shiftRight _ h]
  exact Int.ediv_eq_iff_eq_mul_left hpos.ne' hdvd

/-- A shift by less than the width that is tried and taken back. -/
theorem tried_shiftLeft_eq (a : Int64) {amount : UInt64} (h : amount.toNat < 64) :
    (if (a <<< amount.toInt64) >>> amount.toInt64 = a then some (a <<< amount.toInt64) else none) =
      ofInt? (a.toInt * 2 ^ amount.toNat) := by
  split
  · next hback => exact (ofInt?_eq_some_iff.2 ((shiftRight_shiftLeft_iff a h).1 hback)).symm
  · next hback =>
    refine (ofInt?_eq_none_iff.2 fun m hm => hback ((shiftRight_shiftLeft_iff a h).2 ?_)).symm
    rw [toInt_shiftLeft a h, ← hm]
    exact m.toInt_bmod

/-- A product with a large power of two is out of range. -/
theorem ofInt?_mul_pow_eq_none {a : Int64} (ha : a ≠ 0) {n : Nat} (hn : 64 ≤ n) :
    ofInt? (a.toInt * 2 ^ n) = none := by
  have hpow := le_pow_of_width_le hn
  have hzero : a.toInt ≠ 0 := fun h => ha (Int64.toInt_inj.1 h)
  refine ofInt?_eq_none_iff.2 fun m hm => ?_
  have hlow := m.le_toInt
  have hhigh := m.toInt_lt
  rw [hm] at hlow hhigh
  rcases Int.lt_or_gt_of_ne hzero with hneg | hpos
  · nlinarith
  · nlinarith

/-- A shift to the left multiplies. Bits only leave the width if the product does. -/
theorem shiftLeft?_eq (a : Int64) (amount : UInt64) :
    shiftLeft? a amount = ofInt? (a.toInt * 2 ^ amount.toNat) := by
  rw [shiftLeft?]
  split
  · next ha =>
    rw [ha, Int64.toInt_zero, zero_mul]
    rfl
  · next ha =>
    rcases Nat.lt_or_ge amount.toNat 64 with h | h
    · rw [places?_of_lt h]
      exact tried_shiftLeft_eq a h
    · rw [places?_of_le h, ofInt?_mul_pow_eq_none ha h]
      rfl

/-- Of a quotient by a large power of two only the sign is left. -/
theorem toInt_ediv_pow (a : Int64) {n : Nat} (hn : 64 ≤ n) :
    a.toInt / 2 ^ n = if a < 0 then -1 else 0 := by
  have hpow := le_pow_of_width_le hn
  have hlow := a.le_toInt
  have hhigh := a.toInt_lt
  split
  · next ha =>
    have hneg : a.toInt < 0 := Int64.lt_iff_toInt_lt.1 ha
    exact (Int.ediv_eq_iff_of_pos (by omega)).2 (by omega)
  · next ha =>
    have hpos : 0 ≤ a.toInt := Int.not_lt.1 fun h => ha (Int64.lt_iff_toInt_lt.2 h)
    exact Int.ediv_eq_zero_of_lt hpos (by omega)

/-- A shift to the right divides, and rounds down. -/
theorem shiftRight_eq (a : Int64) (amount : UInt64) :
    some (shiftRight a amount) = ofInt? (a.toInt / 2 ^ amount.toNat) := by
  refine (ofInt?_eq_some_iff.2 ?_).symm
  rw [shiftRight]
  rcases Nat.lt_or_ge amount.toNat 64 with h | h
  · rw [places?_of_lt h]
    exact toInt_shiftRight a h
  · rw [places?_of_le h, toInt_ediv_pow a h]
    exact apply_ite Int64.toInt (a < 0) (-1) 0

/-- The amount of a shift is the distance of its operand from zero, which the least integer has
too. -/
theorem toNat_abs (b : Int64) : b.abs.toUInt64.toNat = b.toInt.natAbs := by
  have hint : b.toInt = b.toBitVec.toInt := rfl
  rw [← Int64.toNat_toBitVec, Int64.toBitVec_abs, BitVec.toNat_abs, hint,
    BitVec.toInt_eq_msb_cond]
  have hlt := b.toBitVec.isLt
  split
  · omega
  · omega

/-- A shift is one to the left if its direction is and its amount is not negative, or if neither
is. -/
theorem shift?_eq_ite (a b : Int64) (left : Bool) :
    shift? a b left =
      if decide (0 ≤ b.toInt) = left then ofInt? (a.toInt * 2 ^ b.toInt.natAbs)
      else ofInt? (a.toInt / 2 ^ b.toInt.natAbs) := by
  have hsign : decide (0 ≤ b) = decide (0 ≤ b.toInt) := decide_eq_decide.2 Int64.le_iff_toInt_le
  rw [shift?, hsign, shiftLeft?_eq, shiftRight_eq, toNat_abs]

end Manifest.Integer
