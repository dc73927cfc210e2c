import Mathlib
import Manifest.Proofs.Comparison

/-!
# The order of floats is the order of numbers

A float that is defined denotes a number or an infinity, and floats are ordered by what they denote
(`floatOrder?_eq_cmp`). They are compared by their exponents before their mantissas, which is right
because a mantissa has its full width unless the exponent is the least one (`IsCanonical`).
-/

namespace Manifest

open Float.Model (UnpackedFloat Format)
open Float.Model.UnpackedFloat (Sign unpackExponent unpackMantissa)

/-! ## What floats denote -/

/-- The numbers and the two infinities. -/
abbrev ExtendedRat : Type := WithBot (WithTop ℚ)

/-- A number among the numbers and the infinities. -/
def ExtendedRat.ofRat (q : ℚ) : ExtendedRat :=
  (q : WithTop ℚ)

/-- What an unpacked float denotes, if it is defined. -/
def unpackedNumber? : UnpackedFloat → Option ExtendedRat
  | .notANumber => none
  | .infinity .negative => some ⊥
  | .infinity .positive => some ⊤
  | .zero _ => some (.ofRat 0)
  | .finite s m e _ => some (.ofRat (s.apply m * 2 ^ e))

/-- What a float denotes, if it is defined. -/
def floatNumber? (x : Float) : Option ExtendedRat :=
  unpackedNumber? x.toModel.unpack

namespace ExtendedRat

theorem ofRat_strictMono : StrictMono ofRat :=
  WithBot.coe_strictMono.comp WithTop.coe_strictMono

theorem ofRat_le {p q : ℚ} : ofRat p ≤ ofRat q ↔ p ≤ q :=
  ofRat_strictMono.le_iff_le

theorem cmp_ofRat (p q : ℚ) : cmp (ofRat p) (ofRat q) = cmp p q :=
  ofRat_strictMono.cmp_map_eq p q

end ExtendedRat

/-! ## Mantissas and exponents of the format -/

/-- A mantissa has at most 53 bits, and all of them unless the exponent is the least one. -/
structure IsCanonical (m : Nat) (e : Int) : Prop where
  lt : m < 2 ^ 53
  least_le : -1074 ≤ e
  full : 2 ^ 52 ≤ m ∨ e = -1074

/-- An unpacked float has a mantissa and an exponent of the format, if it has any. -/
def Canonical : UnpackedFloat → Prop
  | .finite _ m e _ => IsCanonical m e
  | _ => True

/-- The implicit bit stands before the mantissa. -/
theorem toNat_implicitBit (v : BitVec 52) : (1#1 ++ v).toNat = 2 ^ 52 + v.toNat := by
  rw [BitVec.toNat_append, ← Nat.shiftLeft_add_eq_or_of_lt v.isLt, Nat.shiftLeft_eq]
  rfl

theorem canonical_unpack (b : BitVec Format.binary64.numBits) :
    Canonical (UnpackedFloat.unpack .binary64 b) := by
  have hmantissa : (unpackMantissa b).toNat < 2 ^ 52 := (unpackMantissa b).isLt
  have hbias : (Format.binary64.exponentBias : Int) = 1023 := rfl
  have hbits : (Format.binary64.mantissaBitsWithoutImplicit : Int) = 52 := rfl
  rw [UnpackedFloat.unpack]
  split
  · split <;> trivial
  · split
    · next hzero =>
      split
      · trivial
      · have he : (unpackExponent b).toNat = 0 := congrArg BitVec.toNat hzero
        exact ⟨by omega, by omega, .inr (by omega)⟩
    · next hzero =>
      have he : (unpackExponent b).toNat ≠ 0 := fun he => hzero (BitVec.eq_of_toNat_eq he)
      have hfull := toNat_implicitBit (unpackMantissa b)
      exact ⟨by omega, by omega, .inl (by omega)⟩

/-! ## The order -/

/-- Mantissas of a lower exponent do not reach beyond the least mantissa of full width. -/
theorem full_mul_zpow_le {e f : Int} (h : e < f) : (2 ^ 53 * 2 ^ e : ℚ) ≤ 2 ^ 52 * 2 ^ f :=
  calc (2 ^ 53 * 2 ^ e : ℚ)
    _ = 2 ^ 52 * 2 ^ (e + 1) := by rw [zpow_add_one₀ two_ne_zero]; ring
    _ ≤ 2 ^ 52 * 2 ^ f := by
      gcongr
      · norm_num
      · omega

/-- The greater exponent makes the greater number. -/
theorem lt_of_exponent_lt {m n : Nat} {e f : Int} (hm : IsCanonical m e) (hn : IsCanonical n f)
    (h : e < f) : (m * 2 ^ e : ℚ) < n * 2 ^ f := by
  have hfull : 2 ^ 52 ≤ n := hn.full.resolve_right fun hf => absurd hm.least_le (by omega)
  calc (m * 2 ^ e : ℚ)
    _ < 2 ^ 53 * 2 ^ e := by
      gcongr
      exact_mod_cast hm.lt
    _ ≤ 2 ^ 52 * 2 ^ f := full_mul_zpow_le h
    _ ≤ n * 2 ^ f := by
      gcongr
      exact_mod_cast hfull

/-- Exponents decide, then mantissas. -/
theorem cmp_of_isCanonical {m n : Nat} {e f : Int} (hm : IsCanonical m e) (hn : IsCanonical n f) :
    cmp (m * 2 ^ e : ℚ) (n * 2 ^ f) = (compare e f).then (compare m n) := by
  rcases lt_trichotomy e f with h | rfl | h
  · rw [compare_lt_iff_lt.2 h]
    exact (cmp_eq_lt_iff _ _).2 (lt_of_exponent_lt hm hn h)
  · have hmantissas : cmp (m : ℚ) n = compare m n := by
      rw [Nat.strictMono_cast.cmp_map_eq, cmp_eq_compare]
    rw [compare_eq_iff_eq.2 rfl, cmp_mul_pos_right (by positivity), hmantissas]
    rfl
  · rw [compare_gt_iff_gt.2 h]
    exact (cmp_eq_gt_iff _ _).2 (lt_of_exponent_lt hn hm h)

theorem apply_positive (m : Nat) (e : Int) :
    ((Sign.positive.apply m : Int) * 2 ^ e : ℚ) = m * 2 ^ e := by
  rw [Sign.apply, Int.cast_natCast]

theorem apply_negative (m : Nat) (e : Int) :
    ((Sign.negative.apply m : Int) * 2 ^ e : ℚ) = -(m * 2 ^ e) := by
  rw [Sign.apply, Int.cast_neg, Int.cast_natCast, neg_mul]

/-- Unpacked floats are compared by what they denote. -/
theorem unpackedFloat_compare_eq {x y : UnpackedFloat} (hx : Canonical x) (hy : Canonical y) :
    x.compare y = Option.map₂ cmp (unpackedNumber? x) (unpackedNumber? y) := by
  have hpos : ∀ {m : Nat} {e : Int}, 0 < m → (0 : ℚ) < m * 2 ^ e := fun hm => by positivity
  have hlt : ∀ {p q : ℚ}, p < q →
      some Ordering.lt = some (cmp (ExtendedRat.ofRat p) (ExtendedRat.ofRat q)) := fun h =>
    congrArg some ((ExtendedRat.cmp_ofRat _ _).trans ((cmp_eq_lt_iff _ _).2 h)).symm
  have hgt : ∀ {p q : ℚ}, q < p →
      some Ordering.gt = some (cmp (ExtendedRat.ofRat p) (ExtendedRat.ofRat q)) := fun h =>
    congrArg some ((ExtendedRat.cmp_ofRat _ _).trans ((cmp_eq_gt_iff _ _).2 h)).symm
  rcases x with (_ | _) | _ | _ | ⟨_ | _, m, e, hm⟩ <;>
    rcases y with (_ | _) | _ | _ | ⟨_ | _, n, f, hn⟩
  case zero.finite.positive => exact hlt (apply_positive n f ▸ hpos hn)
  case zero.finite.negative => exact hgt (apply_negative n f ▸ neg_lt_zero.2 (hpos hn))
  case finite.positive.zero => exact hgt (apply_positive m e ▸ hpos hm)
  case finite.negative.zero => exact hlt (apply_negative m e ▸ neg_lt_zero.2 (hpos hm))
  case finite.positive.finite.negative =>
    refine hgt ?_
    rw [apply_positive, apply_negative]
    exact (neg_lt_zero.2 (hpos hn)).trans (hpos hm)
  case finite.negative.finite.positive =>
    refine hlt ?_
    rw [apply_positive, apply_negative]
    exact (neg_lt_zero.2 (hpos hm)).trans (hpos hn)
  case finite.positive.finite.positive =>
    refine congrArg some ?_
    rw [ExtendedRat.cmp_ofRat, apply_positive, apply_positive, cmp_of_isCanonical hx hy]
  case finite.negative.finite.negative =>
    -- negative numbers are ordered the other way
    refine congrArg some ?_
    rw [ExtendedRat.cmp_ofRat, apply_negative, apply_negative, ← cmp_of_isCanonical hx hy,
      cmp_swap]
    have hneg : StrictAnti fun q : ℚ => -q := strictMono_id.neg
    exact (hneg.cmp_map_eq _ _).symm
  all_goals rfl

/-- **The order of floats** is the order of what they denote, if both are defined. -/
theorem floatOrder?_eq_cmp (x y : Float) :
    floatOrder? x y = Option.map₂ cmp (floatNumber? x) (floatNumber? y) := by
  rw [floatOrder?_eq]
  exact unpackedFloat_compare_eq (canonical_unpack _) (canonical_unpack _)

end Manifest
