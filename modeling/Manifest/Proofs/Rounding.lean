import Manifest.Proofs.FloatOrder

/-!
# Rounding integers to floats

An integer that is converted becomes the float nearest to it (`Integer.exists_isNearest`), that is,
no number whose mantissa fits into 53 bits is closer to it (`IsNearest`). This is all that is needed
of rounding: whichever of two nearest floats is taken, rounding keeps the order (`IsNearest.mono`),
and integers of at most 53 bits are not changed (`IsNearest.eq_of_fits`).

What rounding does to a mantissa is followed by what the mantissa stands for together with its two
residual bits (`Approximates`), first for a shift by one bit, then for any shift.
-/

namespace Manifest

open Float.Model (UnpackedFloat Format totalExponent)
open Float.Model.UnpackedFloat (Accuracy Sign ExtendedMantissa shiftToExponent shiftToTargetExponent
  roundWithAccuracy decreaseExponent packComponents unpackSign_packComponents
  unpackExponent_packComponents unpackMantissa_packComponents)

/-! ## The nearest number -/

/-- A number whose mantissa has at most 53 bits, as it is with all floats. -/
def FitsMantissa (q : ℚ) : Prop :=
  ∃ m e : Int, |m| ≤ 2 ^ 53 ∧ q = m * 2 ^ e

/-- A number with a mantissa of the format to which no such number is closer. -/
structure IsNearest (x y : ℚ) : Prop where
  fits : FitsMantissa y
  closest : ∀ z, FitsMantissa z → |x - y| ≤ |x - z|

theorem fitsMantissa_intCast {n : Int} (h : |n| ≤ 2 ^ 53) : FitsMantissa n :=
  ⟨n, 0, h, by rw [zpow_zero, mul_one]⟩

theorem FitsMantissa.neg {q : ℚ} (h : FitsMantissa q) : FitsMantissa (-q) := by
  obtain ⟨m, e, hm, rfl⟩ := h
  exact ⟨-m, e, by rwa [abs_neg], by rw [Int.cast_neg, neg_mul]⟩

/-- A number that fits is nearest to itself. -/
theorem isNearest_self {q : ℚ} (h : FitsMantissa q) : IsNearest q q :=
  ⟨h, fun _ _ => by rw [sub_self, abs_zero]; exact abs_nonneg _⟩

namespace IsNearest

variable {x y p q : ℚ}

/-- A number that fits is not rounded to another one. -/
theorem eq_of_fits (h : IsNearest x p) (hx : FitsMantissa x) : p = x := by
  have hclosest := h.closest x hx
  rw [sub_self, abs_zero, abs_nonpos_iff, sub_eq_zero] at hclosest
  exact hclosest.symm

theorem neg (h : IsNearest x p) : IsNearest (-x) (-p) where
  fits := h.fits.neg
  closest z hz := by
    have hclosest := h.closest (-z) hz.neg
    rw [sub_neg_eq_add] at hclosest
    rwa [neg_sub_neg, abs_sub_comm, ← abs_neg (-x - z), neg_sub, sub_neg_eq_add, add_comm]

/-- Rounding to the nearest keeps the order, whatever is done about ties: if it did not, both
numbers would be at least as close to the other's result, on both sides of the middle. -/
theorem mono (hx : IsNearest x p) (hy : IsNearest y q) (h : x < y) : p ≤ q := by
  by_contra hlt
  have hleft := hx.closest q hy.fits
  have hright := hy.closest p hx.fits
  have hmiddle : p + q ≤ 2 * x := by
    rcases abs_cases (x - p) with ⟨h1, h2⟩ | ⟨h1, h2⟩ <;>
      rcases abs_cases (x - q) with ⟨h3, h4⟩ | ⟨h3, h4⟩ <;> linarith
  have hmiddle' : 2 * y ≤ p + q := by
    rcases abs_cases (y - p) with ⟨h1, h2⟩ | ⟨h1, h2⟩ <;>
      rcases abs_cases (y - q) with ⟨h3, h4⟩ | ⟨h3, h4⟩ <;> linarith
  linarith

end IsNearest

/-- Only a number of fewer than 54 bits is rounded to itself alone. -/
theorem eq_of_isNearest_small {k n : Int} (hk : |k| < 2 ^ 53) (h : IsNearest n k) : n = k := by
  have hbound := abs_lt.1 hk
  rcases lt_trichotomy n k with hlt | heq | hgt
  · have hclosest := h.closest _ (fitsMantissa_intCast (n := k - 1) (abs_le.2 (by omega)))
    have : |n - k| ≤ |n - (k - 1)| := by exact_mod_cast hclosest
    rw [abs_of_neg (by omega), abs_of_nonpos (by omega)] at this
    omega
  · exact heq
  · have hclosest := h.closest _ (fitsMantissa_intCast (n := k + 1) (abs_le.2 (by omega)))
    have : |n - k| ≤ |n - (k + 1)| := by exact_mod_cast hclosest
    rw [abs_of_pos (by omega), abs_of_nonneg (by omega)] at this
    omega

/-- Of different integers that are rounded to the same number, none has fewer than 54 bits. -/
theorem le_abs_of_isNearest {m n : Int} {p : ℚ} (hm : IsNearest m p) (hn : IsNearest n p)
    (h : m ≠ n) : 2 ^ 53 ≤ |m| := by
  by_contra hsmall
  have hlt := not_le.1 hsmall
  obtain rfl : p = m := hm.eq_of_fits (fitsMantissa_intCast hlt.le)
  exact h (eq_of_isNearest_small hlt hn).symm

/-! ## Rounding a mantissa -/

/-- A mantissa and its two residual bits stand for a number: its fraction is zero, less than a half,
a half, or more than a half. -/
def Approximates (em : ExtendedMantissa) (x : ℚ) : Prop :=
  match em.roundBit, em.stickyBit with
  | false, false => x = em.mantissa
  | false, true => em.mantissa < x ∧ x < em.mantissa + 1 / 2
  | true, false => x = em.mantissa + 1 / 2
  | true, true => em.mantissa + 1 / 2 < x ∧ x < em.mantissa + 1

namespace Approximates

variable {em : ExtendedMantissa} {x : ℚ}

/-- A shift by one halves the number. -/
theorem shiftRightOne (h : Approximates em x) : Approximates em.shiftRightOne (x / 2) := by
  obtain ⟨m, round, sticky⟩ := em
  have hparity : (m : ℚ) = 2 * (m / 2 : Nat) + (m % 2 : Nat) := by
    exact_mod_cast (Nat.div_add_mod m 2).symm
  -- the last bit becomes the round bit, and the two residual bits become one
  rcases Nat.mod_two_eq_zero_or_one m with hm | hm <;> rw [hm] at hparity <;>
    cases round <;> cases sticky <;>
    simp only [Approximates, ExtendedMantissa.shiftRightOne, hm, bne_self_eq_false, Nat.reduceBNe,
      Bool.or_false, Bool.or_true, Bool.or_self, Nat.cast_zero, Nat.cast_one] at h hparity ⊢ <;>
    first | linarith | constructor <;> linarith

/-- Shifts divide by a power of two. -/
theorem shiftRight (h : Approximates em x) (k : Nat) : Approximates (em >>> k) (x / 2 ^ k) := by
  induction k with
  | zero => rwa [pow_zero, div_one]
  | succ k ih =>
    rw [pow_succ, ← div_div]
    exact ih.shiftRightOne

/-- The rounded mantissa is the nearest integer. -/
theorem roundedMantissa (h : Approximates em x) : |(em.roundedMantissa : ℚ) - x| ≤ 1 / 2 := by
  obtain ⟨m, round, sticky⟩ := em
  have hparity : ((m % 2 : Nat) : ℚ) ≤ 1 := by
    exact_mod_cast Nat.le_of_lt_succ (Nat.mod_lt m two_pos)
  have heven : (0 : ℚ) ≤ (m % 2 : Nat) := Nat.cast_nonneg _
  rw [abs_le]
  cases round <;> cases sticky <;>
    simp only [Approximates, ExtendedMantissa.roundedMantissa, ExtendedMantissa.accuracy,
      Accuracy.roundToNearestEven, Nat.cast_add, Nat.cast_one] at h ⊢ <;>
    constructor <;> linarith

end Approximates

/-- No integer is closer than one at a distance of a half. -/
theorem abs_sub_le_of_half {t : ℚ} {r : Nat} (hr : |(r : ℚ) - t| ≤ 1 / 2) (z : Int) :
    |t - r| ≤ |t - z| := by
  by_cases hz : z = r
  · rw [hz, Int.cast_natCast]
  · have hapart : (1 : ℚ) ≤ |(r : ℚ) - z| := by
      exact_mod_cast Int.one_le_abs (sub_ne_zero.2 (Ne.symm hz))
    have htriangle : |(r : ℚ) - z| ≤ |r - t| + |t - z| := abs_sub_le _ _ _
    rw [abs_sub_comm t]
    linarith

/-- A mantissa of full width is rounded to the nearest integer. Numbers of a lower exponent are not
closer, because they are not greater than the least mantissa of full width. -/
theorem isNearest_of_half {t : ℚ} {r : Nat} (e : Int) (ht : 2 ^ 52 ≤ t)
    (hr : |(r : ℚ) - t| ≤ 1 / 2) (hle : r ≤ 2 ^ 53) : IsNearest (t * 2 ^ e) (r * 2 ^ e) where
  fits := ⟨r, e, by rw [Nat.abs_cast]; exact_mod_cast hle, by rw [Int.cast_natCast]⟩
  closest z hz := by
    obtain ⟨m, f, hm, rfl⟩ := hz
    have hpos : (0 : ℚ) < 2 ^ e := by positivity
    have hscale : ∀ u : ℚ, |t * 2 ^ e - u * 2 ^ e| = |t - u| * 2 ^ e := fun u => by
      rw [← sub_mul, abs_mul, abs_of_pos hpos]
    rw [hscale]
    rcases le_or_gt e f with h | h
    · -- a multiple of the unit that the mantissa counts
      obtain ⟨k, rfl⟩ := Int.le.dest h
      have hmultiple : (m * 2 ^ (e + k) : ℚ) = (m * 2 ^ k : Int) * 2 ^ e := by
        rw [zpow_add₀ two_ne_zero, zpow_natCast]
        push_cast
        ring
      rw [hmultiple, hscale]
      exact mul_le_mul_of_nonneg_right (abs_sub_le_of_half hr _) hpos.le
    · have hbound : (m * 2 ^ f : ℚ) ≤ 2 ^ 52 * 2 ^ e :=
        calc (m * 2 ^ f : ℚ)
          _ ≤ 2 ^ 53 * 2 ^ f := by
            gcongr
            exact_mod_cast (le_abs_self m).trans hm
          _ ≤ 2 ^ 52 * 2 ^ e := full_mul_zpow_le h
      have hhalf : |t - r| ≤ |t - (2 ^ 52 : Int)| := abs_sub_le_of_half hr _
      rw [Int.cast_pow, Int.cast_ofNat, abs_of_nonneg (sub_nonneg.2 ht)] at hhalf
      calc |t - r| * 2 ^ e
        _ ≤ (t - 2 ^ 52) * 2 ^ e := mul_le_mul_of_nonneg_right hhalf hpos.le
        _ = t * 2 ^ e - 2 ^ 52 * 2 ^ e := sub_mul _ _ _
        _ ≤ t * 2 ^ e - m * 2 ^ f := sub_le_sub_left hbound _
        _ ≤ |t * 2 ^ e - m * 2 ^ f| := le_abs_self _

/-! ## Rounding to the format -/

/-- A mantissa with too many bits is shifted until it has its full width. -/
theorem shiftToTargetExponent_eq {m k : Nat} {e : Int} (hm : m.log2 = 52 + k)
    (he : -1074 ≤ e + k) :
    shiftToTargetExponent .binary64 m e .exact =
      (ExtendedMantissa.mk m false false >>> k, e + k) := by
  have htarget : Format.binary64.targetExponent (totalExponent m e) = e + k := by
    rw [Format.targetExponent, totalExponent, hm]
    change max _ (-1074 : Int) = _
    rw [Format.mantissaBits]
    push_cast
    omega
  have hshift : (Format.binary64.targetExponent (totalExponent m e) - e).toNat = k := by omega
  simp only [shiftToTargetExponent, shiftToExponent, hshift]
  rfl

/-- After it has been rounded, a mantissa may have one bit more than its full width and is shifted
once more. -/
theorem roundWithAccuracy_eq {m k r j n : Nat} {e f : Int} (s : Sign) (hm : m.log2 = 52 + k)
    (he : -1074 ≤ e + k) (hr : (ExtendedMantissa.mk m false false >>> k).roundedMantissa = r)
    (hlog : r.log2 = 52 + j) (hn : (ExtendedMantissa.mk r false false >>> j).mantissa = n)
    (hf : e + k + j = f) (hpos : 0 < n) :
    roundWithAccuracy .binary64 s m e .exact = .finite s n f hpos := by
  subst hn hf
  simp only [roundWithAccuracy, shiftToTargetExponent_eq hm he, hr,
    shiftToTargetExponent_eq hlog (e := e + k) (by omega)]
  exact dif_neg hpos.ne'

/-- What is left of a mantissa when it has been shifted has full width. -/
theorem quotient_bounds {m k : Nat} (hm : m.log2 = 52 + k) :
    (2 ^ 52 : ℚ) ≤ m / 2 ^ k ∧ (m / 2 ^ k : ℚ) < 2 ^ 53 := by
  have hm0 : m ≠ 0 := by
    rintro rfl
    rw [Nat.log2_zero] at hm
    omega
  rw [le_div_iff₀ (by positivity), div_lt_iff₀ (by positivity), ← pow_add, ← pow_add, ← hm,
    show 53 + k = m.log2 + 1 by omega]
  exact ⟨by exact_mod_cast Nat.log2_self_le hm0, by exact_mod_cast Nat.lt_log2_self⟩

/-- It keeps its full width when it is rounded, or becomes a power of two. -/
theorem rounded_bounds {t : ℚ} {r : Nat} (hlow : 2 ^ 52 ≤ t) (hhigh : t < 2 ^ 53)
    (hr : |(r : ℚ) - t| ≤ 1 / 2) : 2 ^ 52 ≤ r ∧ r ≤ 2 ^ 53 := by
  obtain ⟨hleft, hright⟩ := abs_le.1 hr
  have habove : (2 ^ 52 : ℚ) < r + 1 := by linarith
  have hbelow : (r : ℚ) < 2 ^ 53 + 1 := by linarith
  exact ⟨Nat.le_of_lt_succ (by exact_mod_cast habove),
    Nat.le_of_lt_succ (by exact_mod_cast hbelow)⟩

/-- A mantissa with too many bits is rounded to the nearest number of the format. -/
theorem exists_roundWithAccuracy_eq {m k : Nat} {e : Int} (s : Sign) (hm : m.log2 = 52 + k)
    (he : -1074 ≤ e + k) :
    ∃ n f, ∃ hn : 0 < n, roundWithAccuracy .binary64 s m e .exact = .finite s n f hn ∧
      n.log2 = 52 ∧ -1074 ≤ f ∧ f ≤ e + k + 1 ∧ IsNearest (m * 2 ^ e) (n * 2 ^ f) := by
  obtain ⟨r, hr⟩ : ∃ r, (ExtendedMantissa.mk m false false >>> k).roundedMantissa = r := ⟨_, rfl⟩
  have hexact : Approximates ⟨m, false, false⟩ m := rfl
  have hhalf : |(r : ℚ) - m / 2 ^ k| ≤ 1 / 2 := hr ▸ (hexact.shiftRight k).roundedMantissa
  obtain ⟨hlow, hhigh⟩ := quotient_bounds hm
  obtain ⟨hr52, hr53⟩ := rounded_bounds hlow hhigh hhalf
  have hnearest : IsNearest (m * 2 ^ e) (r * 2 ^ (e + k)) := by
    have hscale : (m / 2 ^ k * 2 ^ (e + k) : ℚ) = m * 2 ^ e := by
      rw [zpow_add₀ two_ne_zero, zpow_natCast]
      field_simp
    exact hscale ▸ isNearest_of_half (e + k) hlow hhalf hr53
  rcases hr53.lt_or_eq with hlt | rfl
  · have hlog : r.log2 = 52 := (Nat.log2_eq_iff (by omega)).2 ⟨hr52, hlt⟩
    have hpos : 0 < r := by omega
    have hround := roundWithAccuracy_eq (j := 0) s hm he hr hlog rfl (Int.add_zero _) hpos
    exact ⟨r, e + k, hpos, hround, hlog, he, by omega, hnearest⟩
  · have hcarry : ((2 ^ 53 : Nat) * 2 ^ (e + k) : ℚ) = (2 ^ 52 : Nat) * 2 ^ (e + k + 1) := by
      rw [zpow_add_one₀ two_ne_zero]
      push_cast
      ring
    have hround := roundWithAccuracy_eq (j := 1) s hm he hr Nat.log2_two_pow rfl rfl (by decide)
    exact ⟨2 ^ 52, e + k + 1, by omega, hround, Nat.log2_two_pow, by omega, le_rfl,
      hcarry ▸ hnearest⟩

/-! ## Packing -/

/-- A mantissa of full width is unpacked as it was packed, if its exponent is in range. -/
theorem unpack_pack_finite {m : Nat} {e : Int} (s : Sign) (hm : m.log2 = 52) (hpos : 0 < m)
    (hlow : -1074 ≤ e) (hhigh : e ≤ 971) :
    (Float.Model.pack (.finite s m e hpos)).unpack = .finite s m e hpos := by
  have hbounds := (Nat.log2_eq_iff hpos.ne').1 hm
  have hbiased : (e + (Format.binary64.exponentBias : Nat) +
      (Format.binary64.mantissaBitsWithoutImplicit : Nat)).toNat = (e + 1075).toNat := by
    change (e + 1023 + 52).toNat = _
    omega
  have hexponent : (BitVec.ofNat 11 (e + 1075).toNat).toNat = (e + 1075).toNat := by
    rw [BitVec.toNat_ofNat, Nat.mod_eq_of_lt (by omega)]
  have hmantissa : (1#1 ++ BitVec.ofNat 52 m).toNat = m := by
    rw [toNat_implicitBit, BitVec.toNat_ofNat]
    omega
  have hne : ∀ v : BitVec 11, (e + 1075).toNat ≠ v.toNat →
      BitVec.ofNat 11 (e + 1075).toNat ≠ v := fun v hv h => hv (h ▸ hexponent.symm)
  have hones := hne (-1#11) (by change _ ≠ 2047; omega)
  have hzero := hne 0#11 (by change _ ≠ 0; omega)
  have hpack : UnpackedFloat.pack .binary64 (.finite s m e hpos) =
      packComponents .binary64 s (BitVec.ofNat 11 (e + 1075).toNat) (BitVec.ofNat 52 m) := by
    simp only [UnpackedFloat.pack, hbiased, hm]
    rw [if_neg (by change ¬(2048 ≤ _); omega)]
    rfl
  change UnpackedFloat.unpack .binary64 (UnpackedFloat.pack .binary64 _) = _
  rw [hpack]
  simp only [UnpackedFloat.unpack, unpackMantissa_packComponents, unpackExponent_packComponents,
    unpackSign_packComponents, Sign.ofBitVec_toBitVec, hones, hzero, if_false, hmantissa, hexponent]
  congr 1
  change _ - (1023 + 52) = _
  omega

/-- An unpacked float is the nearest one to a positive number, but for its sign. Its mantissa has
full width, and its exponent is in range. -/
inductive RoundsTo (s : Sign) (q : ℚ) : UnpackedFloat → Prop
  | intro {m : Nat} {e : Int} (hpos : 0 < m) (full : m.log2 = 52) (low : -1074 ≤ e)
      (high : e ≤ 971) (nearest : IsNearest q (m * 2 ^ e)) : RoundsTo s q (.finite s m e hpos)

namespace RoundsTo

variable {s : Sign} {q : ℚ} {x : UnpackedFloat}

theorem unpack_pack (h : RoundsTo s q x) : RoundsTo s q (Float.Model.pack x).unpack := by
  obtain ⟨hpos, full, low, high, nearest⟩ := h
  rw [unpack_pack_finite s full hpos low high]
  exact ⟨hpos, full, low, high, nearest⟩

theorem neg (h : RoundsTo s q x) : RoundsTo (-s) q x.neg := by
  obtain ⟨hpos, full, low, high, nearest⟩ := h
  exact ⟨hpos, full, low, high, nearest⟩

end RoundsTo

/-- A mantissa with too many bits is rounded to the nearest float. -/
theorem roundsTo_roundWithAccuracy {m k : Nat} {e : Int} (s : Sign) (hm : m.log2 = 52 + k)
    (hlow : -1074 ≤ e + k) (hhigh : e + k ≤ 970) :
    RoundsTo s (m * 2 ^ e) (roundWithAccuracy .binary64 s m e .exact) := by
  obtain ⟨n, f, hn, hround, hlog, hf, hf', hnearest⟩ := exists_roundWithAccuracy_eq s hm hlow
  rw [hround]
  exact ⟨hn, hlog, hf, by omega, hnearest⟩

theorem log2_shiftLeft {n : Nat} (hn : n ≠ 0) (k : Nat) : (n <<< k).log2 = n.log2 + k := by
  induction k with
  | zero => rfl
  | succ k ih =>
    have hshift : n <<< k ≠ 0 := by
      rw [Nat.shiftLeft_eq]
      positivity
    rw [Nat.shiftLeft_succ, Nat.log2_two_mul hshift, ih, Nat.add_assoc]

/-- Zeros may be put after a whole number before it is rounded. -/
theorem roundsTo_shiftLeft {n k : Nat} (hn : n ≠ 0) (hk : 52 ≤ n.log2 + k) (hlog : n.log2 ≤ 1022) :
    RoundsTo .positive n
      (roundWithAccuracy .binary64 .positive (n <<< k) (-(k : Int)) .exact) := by
  have hwidth : (n <<< k).log2 = 52 + (n.log2 + k - 52) := by
    rw [log2_shiftLeft hn]
    omega
  have hvalue : ((n <<< k : Nat) * 2 ^ (-(k : Int)) : ℚ) = n := by
    rw [Nat.shiftLeft_eq, zpow_neg, zpow_natCast]
    push_cast
    field_simp
  exact hvalue ▸ roundsTo_roundWithAccuracy .positive hwidth (by omega) (by omega)

/-! ## The floats of integers -/

/-- A whole number of at most 53 bits is given its full width and is not rounded. -/
theorem unpackedOfNat_eq {n k : Nat} (hk : n.log2 + k = 52) (hn : n ≠ 0) (hpos : 0 < n <<< k) :
    UnpackedFloat.ofNat .binary64 n = .finite .positive (n <<< k) (-k) hpos := by
  have htarget : (-Format.binary64.targetExponent (totalExponent n 0)).toNat = k := by
    rw [Format.targetExponent, totalExponent]
    change (-max (_ - 53) (-1074 : Int)).toNat = k
    omega
  have hcompare : compare (n : Int) 0 = .gt := compare_gt_iff_gt.2 (by omega)
  simp only [UnpackedFloat.ofNat, UnpackedFloat.ofInt, UnpackedFloat.normalize, hcompare,
    UnpackedFloat.round, decreaseExponent, Int.toNat_natCast, zero_sub, htarget]
  have hwidth : (n <<< k).log2 = 52 + 0 := (log2_shiftLeft hn k).trans hk
  exact roundWithAccuracy_eq (j := 0) .positive hwidth (by omega) rfl hwidth rfl (by omega) hpos

/-- Powers of ten are multiplied with, also the first one. -/
theorem ofNat_eq_mul_one {n : Nat} (hn : n < 2 ^ 53) : (Float.ofNat n).toModel =
    .pack (UnpackedFloat.mul .binary64
      (Float.Model.pack (UnpackedFloat.ofNat .binary64 n)).unpack
      (.finite .positive (2 ^ 52) (-52) (by decide))) := by
  have hword : n.toUInt64.toNat = n := by
    rw [Nat.toUInt64, UInt64.toNat_ofNat', Nat.mod_eq_of_lt (by omega)]
  have hone : (Float.ofBits 0x3FF0000000000000).toModel.unpack =
      .finite .positive (2 ^ 52) (-52) (by decide) := rfl
  change (Float.ofScientific n false 0).toModel = _
  rw [Float.ofScientific, dif_pos ⟨hn, by decide⟩]
  change Float.Model.pack (UnpackedFloat.mul .binary64
    (Float.Model.pack (UnpackedFloat.ofNat .binary64 n.toUInt64.toNat)).unpack
    (Float.ofBits 0x3FF0000000000000).toModel.unpack) = _
  rw [hword, hone]

theorem ofNat_eq_mul_pow {n : Nat} (hn : 2 ^ 53 ≤ n) : (Float.ofNat n).toModel =
    .pack (roundWithAccuracy .binary64 .positive (n <<< 53) (-53) .exact) := by
  change (Float.ofScientific n false 0).toModel = _
  rw [Float.ofScientific, dif_neg (by omega)]
  change Float.Model.pack (UnpackedFloat.ofScientific .binary64 n 0) = _
  have hsize : ¬((0 : Int) < -(2 ^ Format.binary64.exponentBits + (n.log2 : Int))) := by
    change ¬((0 : Int) < -(2048 + n.log2))
    omega
  rw [UnpackedFloat.ofScientific, dif_neg (by omega), if_neg (by decide), if_neg hsize,
    if_pos le_rfl]
  change Float.Model.pack (roundWithAccuracy .binary64 .positive (n <<< 53 * 1) (-53) .exact) = _
  rw [mul_one]

/-- The float of a whole number is the nearest one. -/
theorem roundsTo_ofNat {n : Nat} (hn : n ≠ 0) (hword : n < 2 ^ 64) :
    RoundsTo .positive n (Float.ofNat n).toModel.unpack := by
  have hlog : n.log2 < 64 := (Nat.log2_lt hn).2 hword
  by_cases hsmall : n < 2 ^ 53
  · obtain ⟨k, hk⟩ := Nat.exists_eq_add_of_le (Nat.le_of_lt_succ ((Nat.log2_lt hn).2 hsmall))
    have hwidth : (n <<< k).log2 = 52 := (log2_shiftLeft hn k).trans hk.symm
    have hpos : 0 < n <<< k := by
      rw [Nat.shiftLeft_eq]
      positivity
    have hproduct : n <<< k * 2 ^ 52 = n <<< (k + 52) := by
      rw [Nat.shiftLeft_eq, Nat.shiftLeft_eq, pow_add, mul_assoc]
    have hexponent : -(k : Int) + -52 = -((k + 52 : Nat) : Int) := by omega
    rw [ofNat_eq_mul_one hsmall, unpackedOfNat_eq hk.symm hn hpos,
      unpack_pack_finite .positive hwidth hpos (by omega) (by omega)]
    refine RoundsTo.unpack_pack ?_
    change RoundsTo .positive n
      (roundWithAccuracy .binary64 .positive (n <<< k * 2 ^ 52) (-k + -52) .exact)
    rw [hproduct, hexponent]
    exact roundsTo_shiftLeft hn (by omega) (by omega)
  · rw [ofNat_eq_mul_pow (not_lt.1 hsmall)]
    exact (roundsTo_shiftLeft (k := 53) hn (by omega) (by omega)).unpack_pack

namespace RoundsTo

variable {q : ℚ} {x : UnpackedFloat}

theorem exists_number (h : RoundsTo .positive q x) :
    ∃ p, unpackedNumber? x = some (.ofRat p) ∧ IsNearest q p := by
  obtain ⟨hpos, -, -, -, nearest⟩ := h
  exact ⟨_, rfl, by rwa [apply_positive]⟩

theorem exists_number_neg (h : RoundsTo .negative q x) :
    ∃ p, unpackedNumber? x = some (.ofRat p) ∧ IsNearest (-q) p := by
  obtain ⟨hpos, -, -, -, nearest⟩ := h
  exact ⟨_, rfl, by rw [apply_negative]; exact nearest.neg⟩

end RoundsTo

/-- **Rounding of integers**: the float of an integer denotes the number that is nearest to the
integer. -/
theorem Integer.exists_isNearest (n : Int64) :
    ∃ q, floatNumber? (Integer.toBinary64 n).toFloat = some (.ofRat q) ∧ IsNearest n.toInt q := by
  have hlow := n.le_toInt
  have hhigh := n.toInt_lt
  have hpack : floatNumber? (Integer.toBinary64 n).toFloat =
    unpackedNumber? (Float.Model.pack (Float.ofInt n.toInt).toModel.unpack).unpack := rfl
  rw [hpack]
  cases hn : n.toInt with
  | ofNat k =>
    rw [hn, Int.ofNat_eq_natCast] at hhigh
    cases k with
    | zero => exact ⟨0, rfl, isNearest_self (fitsMantissa_intCast (n := 0) (by decide))⟩
    | succ k => exact (roundsTo_ofNat k.succ_ne_zero (by omega)).unpack_pack.exists_number
  | negSucc k =>
    rw [hn] at hlow
    have hround := (roundsTo_ofNat k.succ_ne_zero (by omega)).neg.unpack_pack
    rw [Int.cast_negSucc]
    exact hround.unpack_pack.exists_number_neg

end Manifest
