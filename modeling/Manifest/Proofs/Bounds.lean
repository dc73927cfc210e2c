import Manifest.Number
import Manifest.Proofs.Slices

/-!
# Positions are within bounds

Places are defined with integers of any size. Here they are computed with 64-bit integers, step by
step: a sum may be out of range, a value may be brought between bounds that are not in order, and
an element or a range may be missing in the end. None of this ever happens as long as the length is
a 64-bit integer itself, whatever the index, the start and the count are, and the result is the
same.

* `Stepwise` — the steps, each of which may fail, and the computations made of them.
* `Stepwise.place_eq`, `Stepwise.bounds_eq` — they do not fail.
* `Value.access_inBounds` — so access by one or two integers is within bounds.
-/

namespace Manifest

/-- Why a step of a computation fails. -/
inductive StepFailure where
  /-- a sum is out of range -/
  | overflow
  /-- the lower bound is above the upper one -/
  | boundsCrossed
  /-- there is no such element or range -/
  | outOfBounds

namespace Stepwise

/-! ## Steps -/

/-- A length as a 64-bit integer, or the greatest one if it is none. -/
def ofLength (length : Nat) : Int64 :=
  (Integer.ofInt? length).getD Int64.maxValue

/-- A sum. -/
def sum (a b : Int64) : Except StepFailure Int64 :=
  match Integer.ofInt? (a.toInt + b.toInt) with
  | some n => .ok n
  | none => .error .overflow

/-- A sum that stops at the least and at the greatest integer. -/
def saturatingSum (a b : Int64) : Int64 :=
  match Integer.ofInt? (a.toInt + b.toInt) with
  | some n => n
  | none => if b < 0 then Int64.minValue else Int64.maxValue

/-- Brings an integer between two bounds. -/
def clamp (n low high : Int64) : Except StepFailure Int64 :=
  if low ≤ high then .ok (max low (min n high)) else .error .boundsCrossed

/-- One element of a list. -/
def element {α : Type} (items : List α) (place : Nat) : Except StepFailure α :=
  match items[place]? with
  | some x => .ok x
  | none => .error .outOfBounds

/-- The elements of a list between two places. -/
def range {α : Type} (items : List α) (first stop : Nat) : Except StepFailure (List α) :=
  if first ≤ stop ∧ stop ≤ items.length then .ok ((items.drop first).take (stop - first))
  else .error .outOfBounds

/-! ## Computations -/

/-- The place of an index. -/
def place (length : Nat) (index : Int64) : Except StepFailure (Option Nat) := do
  let len := ofLength length
  let place ← if index < 0 then sum len index else pure index
  pure (if 0 ≤ place ∧ place < len then some place.toNatClampNeg else none)

/-- Where a slice starts. -/
def start (length : Nat) (start : Int64) : Except StepFailure Int64 := do
  let len := ofLength length
  if start < 0 then
    let first ← sum len start
    pure (max first 0)
  else pure (min start len)

/-- Where a slice stops, before it is brought within bounds. -/
def stop (length : Nat) (first count : Int64) : Except StepFailure Int64 := do
  let len := ofLength length
  if count < 0 then
    let last ← sum len count
    sum last 1
  else pure (saturatingSum first count)

/-- The bounds of a slice. -/
def bounds (length : Nat) (start count : Int64) : Except StepFailure (Nat × Nat) := do
  let first ← Stepwise.start length start
  let stop ← stop length first count
  let stop ← clamp stop first (ofLength length)
  pure (first.toNatClampNeg, stop.toNatClampNeg)

/-- What an index leads to. -/
def index {α : Type} (items : List α) (index : Int64) : Except StepFailure (Option α) := do
  match ← place items.length index with
  | some place => some <$> element items place
  | none => pure none

/-- A slice. -/
def slice {α : Type} (items : List α) (start count : Int64) : Except StepFailure (List α) := do
  let (first, stop) ← bounds items.length start count
  range items first stop

/-! ## No step fails -/

/-- The computation does not fail, and gives this integer. -/
def Gives (c : Except StepFailure Int64) (z : Int) : Prop :=
  ∃ n, c = .ok n ∧ n.toInt = z

theorem bind_of_ok {α β : Type} {c : Except StepFailure α} {a : α} (h : c = .ok a)
    (f : α → Except StepFailure β) : c >>= f = f a := by
  rw [h]
  rfl

theorem toInt_max (a b : Int64) : (max a b).toInt = max a.toInt b.toInt := by
  change (if a ≤ b then b else a).toInt = _
  split
  · next h => exact (Int.max_eq_right (Int64.le_iff_toInt_le.1 h)).symm
  · next h => exact (Int.max_eq_left (Int.le_of_not_le (mt Int64.le_iff_toInt_le.2 h))).symm

theorem toInt_min (a b : Int64) : (min a b).toInt = min a.toInt b.toInt := by
  change (if a ≤ b then a else b).toInt = _
  split
  · next h => exact (Int.min_eq_left (Int64.le_iff_toInt_le.1 h)).symm
  · next h => exact (Int.min_eq_right (Int.le_of_not_le (mt Int64.le_iff_toInt_le.2 h))).symm

/-- What is in range is a 64-bit integer. -/
theorem exists_ofInt? {z : Int} (hlow : Int64.minValue.toInt ≤ z)
    (hhigh : z ≤ Int64.maxValue.toInt) : ∃ n, Integer.ofInt? z = some n ∧ n.toInt = z := by
  have hsome : Integer.ofInt? z = some (Int64.ofInt z) :=
    if_pos ⟨hlow, Int.lt_add_one_of_le hhigh⟩
  exact ⟨_, hsome, Integer.ofInt?_eq_some_iff.1 hsome⟩

/-- What is in range can be summed up. -/
theorem gives_sum {a b : Int64} (hlow : Int64.minValue.toInt ≤ a.toInt + b.toInt)
    (hhigh : a.toInt + b.toInt ≤ Int64.maxValue.toInt) :
    Gives (sum a b) (a.toInt + b.toInt) := by
  obtain ⟨n, hn, htoInt⟩ := exists_ofInt? hlow hhigh
  refine ⟨n, ?_, htoInt⟩
  rw [sum, hn]

/-- A sum of integers that are not negative stops at the greatest integer. -/
theorem toInt_saturatingSum {a b : Int64} (ha : 0 ≤ a.toInt) (hb : 0 ≤ b.toInt) :
    (saturatingSum a b).toInt = min (a.toInt + b.toInt) Int64.maxValue.toInt := by
  have hmax : Int64.maxValue.toInt = 0x7FFFFFFFFFFFFFFF := rfl
  rw [saturatingSum]
  split
  · next n hn =>
    have htoInt := Integer.ofInt?_eq_some_iff.1 hn
    have hrange := n.toInt_lt
    omega
  · next hnone =>
    have hpositive : ¬ b < 0 := fun h => Int.not_le.2 (Int64.lt_iff_toInt_lt.1 h) hb
    have hlarge : ¬ a.toInt + b.toInt ≤ Int64.maxValue.toInt := by
      intro hhigh
      obtain ⟨n, hn, -⟩ := gives_sum (Int.le_trans (by decide) (Int.add_nonneg ha hb)) hhigh
      rw [sum, hnone] at hn
      cases hn
    rw [if_neg hpositive]
    omega

/-- Bounds in order can be clamped between. -/
theorem gives_clamp (n : Int64) {low high : Int64} (h : low.toInt ≤ high.toInt) :
    Gives (clamp n low high) (max low.toInt (min n.toInt high.toInt)) := by
  refine ⟨max low (min n high), if_pos (Int64.le_iff_toInt_le.2 h), ?_⟩
  rw [toInt_max, toInt_min]

section

variable {length : Nat} (hlength : length ≤ Int64.maxValue.toInt)

include hlength

theorem toInt_ofLength : (ofLength length).toInt = length := by
  have hmin : Int64.minValue.toInt ≤ length :=
    Int.le_trans (by decide) (Int.natCast_nonneg length)
  obtain ⟨n, hn, htoInt⟩ := exists_ofInt? hmin hlength
  rw [ofLength, hn]
  exact htoInt

/-- The length and something negative can be added. -/
theorem gives_sum_ofLength {n : Int64} (hn : n.toInt < 0) :
    Gives (sum (ofLength length) n) (length + n.toInt) := by
  have hlow : Int64.minValue.toInt ≤ n.toInt := n.le_toInt
  have hlen := toInt_ofLength hlength
  rw [← hlen]
  exact gives_sum (by omega) (by omega)

/-- The place of an index. -/
theorem place_eq (index : Int64) :
    place length index = .ok (resolveIndex length index.toInt) := by
  have hinside (n : Int64) : (if 0 ≤ n ∧ n < ofLength length then some n.toNatClampNeg else none) =
      if 0 ≤ n.toInt ∧ n.toInt < length then some n.toInt.toNat else none := by
    simp only [Int64.le_iff_toInt_le, Int64.lt_iff_toInt_lt, toInt_ofLength hlength,
      Int64.toInt_zero]
    rfl
  have hsign : index < 0 ↔ index.toInt < 0 := Int64.lt_iff_toInt_lt
  rw [place, resolveIndex]
  simp only [hsign]
  split
  · next hneg =>
    obtain ⟨n, hn, hz⟩ := gives_sum_ofLength hlength hneg
    rw [hn, ← hz]
    exact congrArg Except.ok (hinside n)
  · exact congrArg Except.ok (hinside index)

/-- Where a slice starts. -/
theorem gives_start (start : Int64) :
    Gives (Stepwise.start length start) (sliceStart length start.toInt) := by
  have hsign : start < 0 ↔ start.toInt < 0 := Int64.lt_iff_toInt_lt
  rw [Stepwise.start, sliceStart]
  simp only [hsign]
  split
  · next hneg =>
    obtain ⟨n, hn, hz⟩ := gives_sum_ofLength hlength hneg
    rw [hn, ← hz]
    exact ⟨_, rfl, toInt_max n 0⟩
  · rw [← toInt_ofLength hlength, ← toInt_min]
    exact ⟨_, rfl, rfl⟩

/-- Where a slice stops, or the greatest integer if that is less. -/
theorem gives_stop {first : Int64} (hfirst : 0 ≤ first.toInt) (count : Int64) :
    Gives (stop length first count)
      (min (sliceStop length first.toInt count.toInt) Int64.maxValue.toInt) := by
  have hsign : count < 0 ↔ count.toInt < 0 := Int64.lt_iff_toInt_lt
  rw [stop, sliceStop]
  simp only [hsign]
  split
  · next hneg =>
    obtain ⟨last, hlast, hz⟩ := gives_sum_ofLength hlength hneg
    have hone := Int64.toInt_one
    have hlow : Int64.minValue.toInt ≤ last.toInt := last.le_toInt
    obtain ⟨n, hn, hstop⟩ := gives_sum (a := last) (b := 1) (by omega) (by omega)
    rw [hlast]
    exact ⟨n, hn, by omega⟩
  · next hnonneg => exact ⟨_, rfl, toInt_saturatingSum hfirst (Int.not_lt.1 hnonneg)⟩

omit hlength in
/-- Clamping between bounds does not see what is cut off above them. -/
theorem clamp_cut {z first high greatest : Int} (hfirst : first ≤ high) (hhigh : high ≤ greatest) :
    max first (min (min z greatest) high) = min (max z first) high := by
  omega

/-- The bounds of a slice. A stop that is not a 64-bit integer is after the end, as the greatest one
is that stands for it. -/
theorem bounds_eq (start count : Int64) :
    bounds length start count = .ok (sliceBounds length start.toInt count.toInt) := by
  have hlen := toInt_ofLength hlength
  obtain ⟨hlow, hhigh⟩ := sliceStart_bounds length start.toInt
  obtain ⟨first, hfirst, hstart⟩ := gives_start hlength start
  rw [← hstart] at hlow hhigh
  obtain ⟨stop, hstop, hunclamped⟩ := gives_stop hlength hlow count
  obtain ⟨last, hlast, hclamped⟩ := gives_clamp stop (hlen.symm ▸ hhigh)
  rw [hunclamped, hlen, clamp_cut hhigh hlength] at hclamped
  rw [bounds, bind_of_ok hfirst, bind_of_ok hstop, bind_of_ok hlast, sliceBounds, ← hstart]
  exact congrArg (fun n => Except.ok (first.toInt.toNat, n)) (congrArg Int.toNat hclamped)

end

/-! ## Access -/

section

variable {α : Type} {items : List α} (hlength : items.length ≤ Int64.maxValue.toInt)

include hlength

/-- An index leads to the element at its position. -/
theorem index_eq (i : Int64) : index items i = .ok (elementAt? items i.toInt) := by
  rw [index, bind_of_ok (place_eq hlength i), ← getElem?_resolveIndex]
  cases hplace : resolveIndex items.length i.toInt with
  | none => rfl
  | some place =>
    obtain ⟨hinside, -⟩ := resolveIndex_eq_some_iff.1 hplace
    change some <$> element items place = .ok items[place]?
    rw [element, List.getElem?_eq_getElem hinside]
    rfl

/-- The bounds of a slice are those of a range. -/
theorem slice_eq (start count : Int64) :
    slice items start count = .ok (Manifest.slice items start.toInt count.toInt) := by
  rw [slice, bind_of_ok (bounds_eq hlength start count)]
  exact if_pos (sliceBounds_le items.length start.toInt count.toInt)

end

end Stepwise

namespace Value

/-- Access to a value with elements by an index, and by a start and a count, is what the steps come
to without a failure: the element at the position, or a slice. A slice that starts inside or right
behind the last element has as many elements as it is to have, or all that are left. -/
structure InBounds {α : Type} (v : Value) (items : List α) (one : Option α → Value)
    (several : List α → Value) (i start count : Int64) : Prop where
  index : Stepwise.index items i = .ok (elementAt? items i.toInt)
  access_index : v.access [.integer i] = .ok (one (elementAt? items i.toInt))
  slice : Stepwise.slice items start count = .ok (slice items start.toInt count.toInt)
  access_slice : v.access [.integer start, .integer count] =
    .ok (several (Manifest.slice items start.toInt count.toInt))
  fromStart : 0 ≤ start.toInt → start.toInt ≤ items.length → 0 ≤ count.toInt →
    Manifest.slice items start.toInt count.toInt =
      (items.drop start.toInt.toNat).take
        (min count.toInt.toNat (items.length - start.toInt.toNat))

/-- **Access is within bounds.** No step fails, whatever the index, the start and the count are, if
the length is a 64-bit integer. The place of an index is below the length, the bounds of a slice are
in order and not after the end, and arrays and texts of that length are accessed by them. -/
theorem access_inBounds {length : Nat} (hlength : length ≤ Int64.maxValue.toInt)
    (i start count : Int64) :
    (∃ place, Stepwise.place length i = .ok place ∧ resolveIndex length i.toInt = place ∧
      ∀ p, place = some p → p < length) ∧
    (∃ first stop, Stepwise.bounds length start count = .ok (first, stop) ∧
      sliceBounds length start.toInt count.toInt = (first, stop) ∧
      first ≤ stop ∧ stop ≤ length) ∧
    (∀ items : List Value, items.length = length →
      InBounds (array items) items (·.getD absent) array i start count) ∧
    ∀ s : String, s.length = length →
      InBounds (string s) s.toList (fun c => string (String.ofList c.toList))
        (fun cs => string (String.ofList cs)) i start count := by
  refine ⟨⟨_, Stepwise.place_eq hlength i, rfl, ?place⟩,
    ⟨_, _, Stepwise.bounds_eq hlength start count, rfl, sliceBounds_le _ _ _⟩, ?array, ?string⟩
  case place =>
    intro p hp
    exact (resolveIndex_eq_some_iff.1 hp).1
  case array =>
    rintro items rfl
    exact ⟨Stepwise.index_eq hlength i, access_array_index items i,
      Stepwise.slice_eq hlength start count, access_array_slice items start count,
      slice_fromStart items⟩
  case string =>
    rintro s rfl
    exact ⟨Stepwise.index_eq hlength i, access_string_index s i,
      Stepwise.slice_eq hlength start count, access_string_slice s start count,
      slice_fromStart s.toList⟩

/-- The least index, and the greatest count. -/
theorem access_inBounds_extremes :
    let items : List Value := [.integer 10, .integer 20, .integer 30]
    items.length ≤ Int64.maxValue.toInt ∧
      Stepwise.place 3 Int64.minValue = .ok none ∧
      (array items).access [.integer Int64.minValue] = .ok absent ∧
      Stepwise.bounds 3 1 Int64.maxValue = .ok (1, 3) ∧
      Stepwise.slice items 1 Int64.maxValue = .ok [.integer 20, .integer 30] ∧
      (array items).access [.integer 1, .integer Int64.maxValue] =
        .ok (array [.integer 20, .integer 30]) := by
  intro items
  have hlength : items.length ≤ Int64.maxValue.toInt := by decide
  obtain ⟨⟨place, hplace, hresolve, -⟩, ⟨first, stop, hbounds, hslice, -⟩, harray, -⟩ :=
    access_inBounds hlength Int64.minValue 1 Int64.maxValue
  have hitems := harray items rfl
  cases hresolve
  cases hslice
  exact ⟨hlength, hplace, hitems.access_index, hbounds, hitems.slice, hitems.access_slice⟩

end Value

end Manifest
