import Manifest.Proofs.Rounding

/-!
# The order of numbers

Two integers are compared as integers; otherwise numbers are compared as floats. Each of the two
orders is transitive, and mixed they nearly are (`Comparator.standard_order_trans`). Rounding to
floats keeps the order of integers, so if each of three numbers is at most the next one, then as
floats the first one is at most the last one (`Number.widened?_le`). That settles it unless both
ends are integers. Then the order is lost exactly if they are rounded to the float between them
although the first one is the greater one (`Comparator.Blurs`), as it happens from 2 ^ 53 on.
-/

namespace Manifest

/-! ## Orders with two answers -/

namespace Comparator

/-- The left value is less than the right one or equal to it. -/
def AtMost (c : Comparator) (a b : Value) : Prop :=
  ∃ o, c.order? a b = some o ∧ o.isLE = true

/-- A float equals two large integers, of which the left one is the greater one. -/
structure Blurs (c : Comparator) (x : Binary64) (m n : Int64) : Prop where
  greater : c.order? (.integer m) (.integer n) = some .gt
  left : c.order? (.integer m) (.float x) = some .eq
  right : c.order? (.float x) (.integer n) = some .eq
  large : 2 ^ 53 ≤ |m.toInt| ∧ 2 ^ 53 ≤ |n.toInt|

variable {c : Comparator} {a b : Value} {o : Ordering}

theorem atMost_iff_of_order? (h : c.order? a b = some o) : c.AtMost a b ↔ o ≠ .gt := by
  rw [AtMost, h, ne_eq, ← Ordering.isLE_iff_ne_gt]
  exact ⟨fun ⟨_, ho, hle⟩ => Option.some.inj ho ▸ hle, fun hle => ⟨o, rfl, hle⟩⟩

theorem order?_integer (m n : Int64) :
    standard.order? (.integer m) (.integer n) = some (compare m.toInt n.toInt) :=
  rfl

theorem atMost_integer {m n : Int64} :
    standard.AtMost (.integer m) (.integer n) ↔ m.toInt ≤ n.toInt := by
  rw [atMost_iff_of_order? (order?_integer m n), ne_eq, compare_gt_iff_gt, not_lt]

end Comparator

/-! ## Numbers as floats -/

namespace Number

open Comparator

/-- What a number denotes when it is compared with a float. -/
def widened? (a : Number) : Option ExtendedRat :=
  floatNumber? a.toBinary64.toFloat

/-- Whether a number is an integer. -/
def isInt : Number → Bool
  | .int _ => true
  | .float _ => false

variable {a b : Number} {m n : Int64} {p q r : ExtendedRat}

theorem exists_of_isInt (h : (a.isInt && b.isInt) = true) : ∃ m n, a = int m ∧ b = int n := by
  cases a with
  | float x => cases h
  | int m =>
    cases b with
    | float y => cases h
    | int n => exact ⟨m, n, rfl, rfl⟩

/-- Unless both are integers, two numbers are ordered as floats. -/
theorem order?_eq_cmp (h : (a.isInt && b.isInt) = false) :
    standard.order? a.toValue b.toValue = Option.map₂ cmp a.widened? b.widened? := by
  cases a with
  | float x => cases b <;> exact floatOrder?_eq_cmp _ _
  | int m =>
    cases b with
    | float y => exact floatOrder?_eq_cmp _ _
    | int n => cases h

theorem order?_of_widened? (h : (a.isInt && b.isInt) = false) (ha : a.widened? = some p)
    (hb : b.widened? = some q) : standard.order? a.toValue b.toValue = some (cmp p q) := by
  rw [order?_eq_cmp h, ha, hb]
  rfl

theorem atMost_of_widened?_le (h : (a.isInt && b.isInt) = false) (ha : a.widened? = some p)
    (hb : b.widened? = some q) (hle : p ≤ q) : standard.AtMost a.toValue b.toValue := by
  rw [atMost_iff_of_order? (order?_of_widened? h ha hb), ne_eq, cmp_eq_gt_iff, not_lt]
  exact hle

/-- An integer is rounded to the nearest float. -/
theorem isNearest_of_widened? (h : (int n).widened? = some p) :
    ∃ q, p = .ofRat q ∧ IsNearest n.toInt q := by
  obtain ⟨q, hq, hn⟩ := Integer.exists_isNearest n
  exact ⟨q, Option.some.inj (h.symm.trans hq), hn⟩

/-- Rounded to floats, integers keep their order, though they may become equal. -/
theorem widened?_int_le (h : m.toInt ≤ n.toInt) (hm : (int m).widened? = some p)
    (hn : (int n).widened? = some q) : p ≤ q := by
  rcases h.lt_or_eq with hlt | heq
  · obtain ⟨p, rfl, hp⟩ := isNearest_of_widened? hm
    obtain ⟨q, rfl, hq⟩ := isNearest_of_widened? hn
    exact ExtendedRat.ofRat_le.2 (hp.mono hq (by exact_mod_cast hlt))
  · obtain rfl := Int64.toInt_inj.1 heq
    exact (Option.some.inj (hm.symm.trans hn)).le

/-- Whether as integers or as floats, numbers that are in order are so as floats. -/
theorem widened?_le (h : standard.AtMost a.toValue b.toValue) :
    ∃ p q, a.widened? = some p ∧ b.widened? = some q ∧ p ≤ q := by
  cases hints : a.isInt && b.isInt with
  | false =>
    obtain ⟨o, ho, hle⟩ := h
    rw [order?_eq_cmp hints] at ho
    obtain ⟨p, q, hp, hq, rfl⟩ := Option.map₂_eq_some_iff.1 ho
    rw [Ordering.isLE_iff_ne_gt, cmp_eq_gt_iff, not_lt] at hle
    exact ⟨p, q, hp, hq, hle⟩
  | true =>
    obtain ⟨m, n, rfl, rfl⟩ := exists_of_isInt hints
    obtain ⟨p, hp, -⟩ := Integer.exists_isNearest m
    obtain ⟨q, hq, -⟩ := Integer.exists_isNearest n
    exact ⟨_, _, hp, hq, widened?_int_le (atMost_integer.1 h) hp hq⟩

/-- Integers with a float between them after rounding only are rounded to that float. -/
theorem blurs_of_widened?_le {x : Binary64} (hm : (int m).widened? = some p)
    (hx : (float x).widened? = some q) (hn : (int n).widened? = some r) (hpq : p ≤ q)
    (hqr : q ≤ r) (hlt : n.toInt < m.toInt) : standard.Blurs x m n := by
  have hrp : r ≤ p := widened?_int_le hlt.le hn hm
  obtain rfl : p = q := hpq.antisymm (hqr.trans hrp)
  obtain rfl : p = r := hqr.antisymm hrp
  have hleft := order?_of_widened? (a := .int m) (b := .float x) rfl hm hx
  have hright := order?_of_widened? (a := .float x) (b := .int n) rfl hx hn
  rw [cmp_self_eq_eq] at hleft hright
  obtain ⟨p, rfl, hp⟩ := isNearest_of_widened? hm
  obtain ⟨p', hp', hr⟩ := isNearest_of_widened? hn
  obtain rfl : p = p' := ExtendedRat.ofRat_strictMono.injective hp'
  exact {
    greater := congrArg some (compare_gt_iff_gt.2 hlt)
    left := hleft
    right := hright
    large := ⟨le_abs_of_isNearest hp hr hlt.ne', le_abs_of_isNearest hr hp hlt.ne⟩ }

end Number

/-! ## Transitivity -/

namespace Comparator

/-- **Transitivity of the order of numbers**, with integers and floats mixed: if one number is at
most another one and this is at most a third one, then so is the first, unless the two ends are
integers and what stands between them is a float that equals both. -/
theorem standard_order_trans {a b c : Number} (hab : standard.AtMost a.toValue b.toValue)
    (hbc : standard.AtMost b.toValue c.toValue) :
    standard.AtMost a.toValue c.toValue ∨
      ∃ m x n, a = .int m ∧ b = .float x ∧ c = .int n ∧ standard.Blurs x m n := by
  obtain ⟨p, q, ha, hb, hpq⟩ := Number.widened?_le hab
  obtain ⟨q', r, hb', hc, hqr⟩ := Number.widened?_le hbc
  obtain rfl : q = q' := Option.some.inj (hb.symm.trans hb')
  cases hints : a.isInt && c.isInt with
  | false => exact .inl (Number.atMost_of_widened?_le hints ha hc (hpq.trans hqr))
  | true =>
    obtain ⟨m, n, rfl, rfl⟩ := Number.exists_of_isInt hints
    rcases le_or_gt m.toInt n.toInt with hle | hlt
    · exact .inl (atMost_integer.2 hle)
    · cases b with
      | int k =>
        have hle : m.toInt ≤ n.toInt := (atMost_integer.1 hab).trans (atMost_integer.1 hbc)
        exact absurd hle (not_le.2 hlt)
      | float x =>
        have hblurs := Number.blurs_of_widened?_le ha hb hc hpq hqr hlt
        exact .inr ⟨m, x, n, rfl, rfl, rfl, hblurs⟩

/-- 2 ^ 53 + 1 is rounded to 2 ^ 53, which as an integer is less. -/
theorem standard_order_trans_blurred :
    standard.AtMost (Number.int 9007199254740993).toValue
        (Number.float ⟨0x4340000000000000⟩).toValue ∧
      standard.AtMost (Number.float ⟨0x4340000000000000⟩).toValue
        (Number.int 9007199254740992).toValue ∧
      standard.Blurs ⟨0x4340000000000000⟩ 9007199254740993 9007199254740992 := by
  have hab : standard.AtMost (Number.int 9007199254740993).toValue
      (Number.float ⟨0x4340000000000000⟩).toValue := ⟨.eq, by decide, rfl⟩
  have hbc : standard.AtMost (Number.float ⟨0x4340000000000000⟩).toValue
      (Number.int 9007199254740992).toValue := ⟨.eq, by decide, rfl⟩
  have hnot : ¬standard.AtMost (Number.int 9007199254740993).toValue
      (Number.int 9007199254740992).toValue := fun h => absurd (atMost_integer.1 h) (by decide)
  obtain ⟨m, x, n, ha, hb, hc, hblurs⟩ := (standard_order_trans hab hbc).resolve_left hnot
  cases ha
  cases hb
  cases hc
  exact ⟨hab, hbc, hblurs⟩

/-- The order of numbers is not transitive: each of 2 ^ 53 + 1, the float 2 ^ 53 and the integer
2 ^ 53 is at most the next one, and the first one is not at most the last one. -/
theorem standard_order_notTransitive :
    (Binary64.mk 0x4340000000000000).isUndefined = false ∧
      standard.AtMost (.integer 9007199254740993) (.float ⟨0x4340000000000000⟩) ∧
      standard.AtMost (.float ⟨0x4340000000000000⟩) (.integer 9007199254740992) ∧
      ¬standard.AtMost (.integer 9007199254740993) (.integer 9007199254740992) :=
  ⟨by decide, ⟨.eq, by decide, rfl⟩, ⟨.eq, by decide, rfl⟩,
    fun h => absurd (atMost_integer.1 h) (by decide)⟩

end Comparator

end Manifest
