import Manifest.Collection
import Manifest.Index

/-!
# Indexes and slices

Arrays and texts are accessed alike, by the positions of their elements or characters. An index that
leads nowhere gives nothing, while a slice takes what there is of it. So a slice of one element is
what the index gives, except for a start before the beginning, which is moved to the beginning.

* `elementAt?` — the element at a position, which counts from the end when negative.
* `slice_of_nonneg`, `slice_toEnd` — slices are what is taken after something has been dropped.
* `Value.access_sliceOfOne` — slices of one element.
* `Value.access_rebuilds` — a value is put together again from two slices, and texts are accessed
  like the arrays of their characters.
-/

namespace Manifest

section

variable {α β : Type} (items : List α)

/-! ## Positions -/

/-- The element at a position, which counts from the end when negative. -/
def elementAt? (index : Int) : Option α :=
  if 0 ≤ index then items[index.toNat]? else items.reverse[(-1 - index).toNat]?

/-- The place of an index is the index itself or as much after the end as the index says. -/
theorem resolveIndex_eq_some_iff {length place : Nat} {index : Int} :
    resolveIndex length index = some place ↔
      place < length ∧ (place = index ∨ place = length + index) := by
  rw [resolveIndex]
  split <;> split <;> simp only [Option.some.injEq, reduceCtorEq, false_iff] <;> omega

/-- Indexes before the beginning and after the end have no place. -/
theorem resolveIndex_eq_none_iff {length : Nat} {index : Int} :
    resolveIndex length index = none ↔ index < -length ∨ length ≤ index := by
  rw [resolveIndex]
  split <;> split <;> simp only [reduceCtorEq, false_iff, true_iff] <;> omega

/-- Positions before the beginning and after the end are those of no element. -/
theorem elementAt?_eq_none {index : Int} (h : index < -items.length ∨ items.length ≤ index) :
    elementAt? items index = none := by
  rw [elementAt?]
  split
  · exact List.getElem?_eq_none (by omega)
  · exact List.getElem?_eq_none (by rw [List.length_reverse]; omega)

/-- At all others there is one. -/
theorem exists_elementAt? {index : Int} (hlow : -items.length ≤ index)
    (hhigh : index < items.length) : ∃ x, elementAt? items index = some x := by
  rw [elementAt?]
  split
  · exact ⟨_, List.getElem?_eq_getElem (by omega)⟩
  · exact ⟨_, List.getElem?_eq_getElem (by rw [List.length_reverse]; omega)⟩

/-- The place of an index is that of the position. -/
theorem getElem?_resolveIndex (index : Int) :
    (resolveIndex items.length index).bind (items[·]?) = elementAt? items index := by
  cases hresolve : resolveIndex items.length index with
  | none => exact (elementAt?_eq_none items (resolveIndex_eq_none_iff.1 hresolve)).symm
  | some place =>
    obtain ⟨hinside, rfl | hback⟩ := resolveIndex_eq_some_iff.1 hresolve
    · rfl
    · rw [elementAt?, if_neg (by omega), List.getElem?_reverse (by omega), Option.bind_some]
      congr 1
      omega

theorem elementAt?_map (f : α → β) (index : Int) :
    elementAt? (items.map f) index = (elementAt? items index).map f := by
  rw [elementAt?, elementAt?, ← List.map_reverse, List.getElem?_map, List.getElem?_map]
  split <;> rfl

/-! ## Slices -/

/-- A slice starts inside or right behind the last element. -/
theorem sliceStart_bounds (length : Nat) (start : Int) :
    0 ≤ sliceStart length start ∧ sliceStart length start ≤ length := by
  rw [sliceStart]
  split <;> omega

/-- A slice neither stops before it starts nor after the last element. -/
theorem sliceBounds_le (length : Nat) (start count : Int) :
    (sliceBounds length start count).1 ≤ (sliceBounds length start count).2 ∧
      (sliceBounds length start count).2 ≤ length := by
  have hstart := sliceStart_bounds length start
  rw [sliceBounds]
  simp only
  omega

/-- A count that is not negative says how many elements are taken. -/
theorem slice_of_nonneg (start : Int) {count : Int} (h : 0 ≤ count) :
    slice items start count =
      (items.drop (sliceStart items.length start).toNat).take count.toNat := by
  have hstart := sliceStart_bounds items.length start
  rw [slice, sliceBounds, sliceStop, if_neg (Int.not_lt.2 h)]
  simp only
  rw [List.take_eq_take_iff, List.length_drop]
  omega

/-- A slice that starts inside or right behind the last element has as many elements as it is to
have, or all that are left. -/
theorem slice_fromStart {start count : Int} (hstart : 0 ≤ start)
    (hinside : start ≤ items.length) (hcount : 0 ≤ count) :
    slice items start count =
      (items.drop start.toNat).take (min count.toNat (items.length - start.toNat)) := by
  have hfirst : sliceStart items.length start = start := by
    rw [sliceStart]
    omega
  rw [slice_of_nonneg items start hcount, hfirst, List.take_eq_take_iff, List.length_drop]
  omega

/-- The count minus one takes everything up to the end. -/
theorem slice_toEnd (start : Int) :
    slice items start (-1) = items.drop (sliceStart items.length start).toNat := by
  have hstart := sliceStart_bounds items.length start
  rw [slice, sliceBounds, sliceStop, if_pos (by decide)]
  simp only
  exact List.take_of_length_le (by rw [List.length_drop]; omega)

theorem slice_map (f : α → β) (start count : Int) :
    slice (items.map f) start count = (slice items start count).map f := by
  rw [slice, slice, List.length_map, List.map_take, List.map_drop]

/-- Where a slice starts there is the element of the index, unless it is before the beginning. -/
theorem elementAt?_eq_sliceStart {start : Int} (h : -items.length ≤ start) :
    elementAt? items start = items[(sliceStart items.length start).toNat]? := by
  rw [← getElem?_resolveIndex]
  rcases Int.lt_or_le start items.length with hinside | hafter
  · have hplace : resolveIndex items.length start =
        some (sliceStart items.length start).toNat := by
      rw [resolveIndex_eq_some_iff, sliceStart]
      omega
    rw [hplace, Option.bind_some]
  · have hend : sliceStart items.length start = items.length := by
      rw [sliceStart]
      omega
    rw [resolveIndex_eq_none_iff.2 (.inr hafter), hend]
    exact (List.getElem?_eq_none (Nat.le_refl _)).symm

/-- A slice of one element is the element at its start. -/
theorem slice_one {start : Int} (h : -items.length ≤ start) :
    slice items start 1 = (elementAt? items start).toList := by
  rw [slice_of_nonneg items start (by decide), elementAt?_eq_sliceStart items h, ← List.head?_drop]
  exact List.take_one

/-- A start before the beginning is moved to the beginning. -/
theorem slice_one_of_lt {start : Int} (h : start < -items.length) :
    slice items start 1 = items.take 1 := by
  have hstart : sliceStart items.length start = 0 := by
    rw [sliceStart]
    omega
  rw [slice_of_nonneg items start (by decide), hstart]
  rfl

/-- Two slices that meet make up the whole. -/
theorem slice_append_slice {n : Int} (h : 0 ≤ n) :
    slice items 0 n ++ slice items n (-1) = items := by
  have hzero : sliceStart items.length 0 = 0 := by
    rw [sliceStart, if_neg (by decide)]
    omega
  have hmeet : items.drop (sliceStart items.length n).toNat = items.drop n.toNat := by
    rw [sliceStart, if_neg (Int.not_lt.2 h), List.drop_eq_drop_iff]
    omega
  rw [slice_of_nonneg items 0 h, slice_toEnd, hzero, hmeet]
  exact List.take_append_drop n.toNat items

end

namespace Value

/-! ## Slices of one element -/

section

variable {α : Type} (receiver : Value) (items : List α) (one : Option α → Value)
  (several : List α → Value)

/-- One integer is a position. -/
theorem accessList_index (i : Int64) :
    accessList receiver items one several [.integer i] = .ok (one (elementAt? items i.toInt)) := by
  rw [← getElem?_resolveIndex]
  rfl

/-- Two integers are a start and a count. -/
theorem accessList_slice (i n : Int64) :
    accessList receiver items one several [.integer i, .integer n] =
      .ok (several (slice items i.toInt n.toInt)) :=
  rfl

/-- What an index gives, and a slice of one element with that start. -/
theorem accessList_sliceOfOne (i : Int64) :
    (-items.length ≤ i.toInt ∧ i.toInt < items.length →
      ∃ x, elementAt? items i.toInt = some x ∧
        accessList receiver items one several [.integer i] = .ok (one (some x)) ∧
        accessList receiver items one several [.integer i, .integer 1] = .ok (several [x])) ∧
    (items.length ≤ i.toInt →
      accessList receiver items one several [.integer i] = .ok (one none) ∧
        accessList receiver items one several [.integer i, .integer 1] = .ok (several [])) ∧
    (i.toInt < -items.length →
      accessList receiver items one several [.integer i] = .ok (one none) ∧
        accessList receiver items one several [.integer i, .integer 1] =
          .ok (several (items.take 1))) := by
  rw [accessList_index, accessList_slice, Int64.toInt_one]
  refine ⟨fun ⟨hlow, hhigh⟩ => ?inside, fun hafter => ?after, fun hbefore => ?before⟩
  case inside =>
    obtain ⟨x, hx⟩ := exists_elementAt? items hlow hhigh
    rw [slice_one items hlow, hx]
    exact ⟨x, rfl, rfl, rfl⟩
  case after =>
    rw [slice_one items (by omega), elementAt?_eq_none items (.inr hafter)]
    exact ⟨rfl, rfl⟩
  case before =>
    rw [slice_one_of_lt items hbefore, elementAt?_eq_none items (.inl hbefore)]
    exact ⟨rfl, rfl⟩

end

theorem access_array_index (items : List Value) (i : Int64) :
    (array items).access [.integer i] = .ok ((elementAt? items i.toInt).getD absent) :=
  accessList_index (array items) items (·.getD absent) array i

theorem access_array_slice (items : List Value) (i n : Int64) :
    (array items).access [.integer i, .integer n] = .ok (array (slice items i.toInt n.toInt)) :=
  rfl

theorem access_string_index (s : String) (i : Int64) :
    (string s).access [.integer i] =
      .ok (string (String.ofList (elementAt? s.toList i.toInt).toList)) :=
  accessList_index (string s) s.toList (fun c => string (String.ofList c.toList))
    (fun cs => string (String.ofList cs)) i

theorem access_string_slice (s : String) (i n : Int64) :
    (string s).access [.integer i, .integer n] =
      .ok (string (String.ofList (slice s.toList i.toInt n.toInt))) :=
  rfl

/-- **Slices of one element.** If the index addresses an element, the slice has just the element
that the index gives. After the end there is nothing in either; before the beginning the index
gives nothing, but the slice has the first element, if there is one. -/
theorem access_sliceOfOne :
    (∀ (items : List Value) (i : Int64),
      (-items.length ≤ i.toInt ∧ i.toInt < items.length →
        ∃ v, elementAt? items i.toInt = some v ∧ (array items).access [.integer i] = .ok v ∧
          (array items).access [.integer i, .integer 1] = .ok (array [v])) ∧
      (items.length ≤ i.toInt →
        (array items).access [.integer i] = .ok absent ∧
          (array items).access [.integer i, .integer 1] = .ok (array [])) ∧
      (i.toInt < -items.length →
        (array items).access [.integer i] = .ok absent ∧
          (array items).access [.integer i, .integer 1] = .ok (array (items.take 1)))) ∧
    ∀ (s : String) (i : Int64),
      (-s.length ≤ i.toInt ∧ i.toInt < s.length →
        ∃ c, elementAt? s.toList i.toInt = some c ∧
          (string s).access [.integer i] = .ok (string (String.singleton c)) ∧
          (string s).access [.integer i, .integer 1] = .ok (string (String.singleton c))) ∧
      (s.length ≤ i.toInt →
        (string s).access [.integer i] = .ok (string "") ∧
          (string s).access [.integer i, .integer 1] = .ok (string "")) ∧
      (i.toInt < -s.length →
        (string s).access [.integer i] = .ok (string "") ∧
          (string s).access [.integer i, .integer 1] =
            .ok (string (String.ofList (s.toList.take 1)))) :=
  ⟨fun items i => accessList_sliceOfOne (array items) items (·.getD absent) array i,
    fun s i => accessList_sliceOfOne (string s) s.toList (fun c => string (String.ofList c.toList))
      (fun cs => string (String.ofList cs)) i⟩

/-- The last but one of three elements, a place after the end, and a start before the beginning. -/
theorem access_sliceOfOne_edges :
    let items : List Value := [.integer 10, .integer 20, .integer 30]
    ((array items).access [.integer (-2)] = .ok (.integer 20) ∧
      (array items).access [.integer (-2), .integer 1] = .ok (array [.integer 20])) ∧
    ((array items).access [.integer 3] = .ok absent ∧
      (array items).access [.integer 3, .integer 1] = .ok (array [])) ∧
    ((string "héllo").access [.integer (-9)] = .ok (string "") ∧
      (string "héllo").access [.integer (-9), .integer 1] = .ok (string "h")) := by
  intro items
  obtain ⟨hinside, hafter, -⟩ := access_sliceOfOne.1 items (-2)
  obtain ⟨v, hv, hone, hslice⟩ := hinside (by decide)
  cases hv
  exact ⟨⟨hone, hslice⟩, (access_sliceOfOne.1 items 3).2.1 (by decide),
    (access_sliceOfOne.2 "héllo" (-9)).2.2 (by decide)⟩

/-- Where the index of an array of two elements leads nowhere, a slice of one element has one. -/
theorem access_sliceOfOne_beforeStart :
    let items : List Value := [.integer 1, .integer 2]
    ¬(-items.length ≤ (-3 : Int64).toInt ∧ (-3 : Int64).toInt < items.length) ∧
      (array items).access [.integer (-3)] = .ok absent ∧
      (array items).access [.integer (-3), .integer 1] = .ok (array [.integer 1]) ∧
      (array items).access [.integer (-3), .integer 1] ≠ .ok (array []) :=
  ⟨by decide, rfl, rfl, nofun⟩

/-! ## Whole values from slices -/

/-- The texts of one character that a text consists of. -/
def characters (s : String) : List String :=
  s.toList.map String.singleton

/-- Joined, they are the text. -/
theorem join_singletons (cs : List Char) :
    String.join (cs.map String.singleton) = String.ofList cs := by
  rw [← String.toList_inj, String.toList_join, List.flatMap_map, String.toList_ofList]
  simp only [String.toList_singleton]
  exact List.flatMap_singleton' cs

/-- How what access to a text comes to mirrors what access to the array of its characters comes to:
with the same error, or with a text. For no character it is the empty text, for one character the
character, and for several of them what they make up. -/
inductive Mirrors : Except EvalError Value → Except EvalError Value → Prop where
  | error (e : EvalError) : Mirrors (.error e) (.error e)
  | nothing : Mirrors (.ok (string "")) (.ok absent)
  | character (t : String) : Mirrors (.ok (string t)) (.ok (string t))
  | characters (ts : List String) :
      Mirrors (.ok (string (String.join ts))) (.ok (array (ts.map string)))

/-- Access by one key of any kind. -/
theorem mirrors_index (s : String) (key : Value) :
    Mirrors ((string s).access [key]) ((array ((characters s).map string)).access [key]) := by
  cases key with
  | integer i =>
    rw [access_string_index, access_array_index, characters, List.map_map, elementAt?_map]
    cases elementAt? s.toList i.toInt with
    | none => exact .nothing
    | some c => exact .character (String.singleton c)
  | _ => exact .error _

/-- Access by two keys of any kinds. -/
theorem mirrors_slice (s : String) (start count : Value) :
    Mirrors ((string s).access [start, count])
      ((array ((characters s).map string)).access [start, count]) := by
  cases start with
  | integer i =>
    cases count with
    | integer n =>
      rw [access_string_slice, access_array_slice, characters, slice_map, slice_map,
        ← join_singletons]
      exact .characters _
    | _ => exact .error _
  | _ => exact .error _

/-- **Whole values from slices.** What comes before a position and what comes from there up to the
end make up an array or a text, also if the position is after the end. A text is accessed like the
array of its characters: with the same error, or with the text that they make up. -/
theorem access_rebuilds :
    (∀ (items : List Value) (n : Int64), 0 ≤ n → ∃ first rest,
      (array items).access [.integer 0, .integer n] = .ok (array first) ∧
      (array items).access [.integer n, .integer (-1)] = .ok (array rest) ∧
      (array first).concatenate (array rest) = .ok (array items)) ∧
    (∀ (s : String) (n : Int64), 0 ≤ n → ∃ first rest,
      (string s).access [.integer 0, .integer n] = .ok (string first) ∧
      (string s).access [.integer n, .integer (-1)] = .ok (string rest) ∧
      first ++ rest = s) ∧
    ∀ s : String,
      (∀ key, Mirrors ((string s).access [key])
        ((array ((characters s).map string)).access [key])) ∧
      ∀ start count, Mirrors ((string s).access [start, count])
        ((array ((characters s).map string)).access [start, count]) := by
  have hnonneg {n : Int64} (hn : 0 ≤ n) : 0 ≤ n.toInt := Int64.le_iff_toInt_le.1 hn
  refine ⟨fun items n hn => ⟨_, _, rfl, rfl, ?_⟩, fun s n hn => ⟨_, _, rfl, rfl, ?_⟩,
    fun s => ⟨mirrors_index s, mirrors_slice s⟩⟩
  · exact congrArg (fun whole => Except.ok (array whole)) (slice_append_slice items (hnonneg hn))
  · rw [← String.ofList_append]
    exact (congrArg String.ofList (slice_append_slice s.toList (hnonneg hn))).trans
      String.ofList_toList

/-- An array that is cut in the middle, and a text that is cut after its end. -/
theorem access_rebuilds_cuts :
    let items : List Value := [.integer 1, .integer 2, .integer 3]
    (0 ≤ (1 : Int64) ∧
      (array items).access [.integer 0, .integer 1] = .ok (array [.integer 1]) ∧
      (array items).access [.integer 1, .integer (-1)] = .ok (array [.integer 2, .integer 3]) ∧
      (array [.integer 1]).concatenate (array [.integer 2, .integer 3]) = .ok (array items)) ∧
    (0 ≤ (9 : Int64) ∧
      (string "né").access [.integer 0, .integer 9] = .ok (string "né") ∧
      (string "né").access [.integer 9, .integer (-1)] = .ok (string "") ∧
      "né" ++ "" = "né") := by
  intro items
  obtain ⟨first, rest, hfirst, hrest, hitems⟩ := access_rebuilds.1 items 1 (by decide)
  obtain ⟨before, after, hbefore, hafter, htext⟩ := access_rebuilds.2.1 "né" 9 (by decide)
  cases hfirst
  cases hrest
  cases hbefore
  cases hafter
  exact ⟨⟨by decide, rfl, rfl, hitems⟩, by decide, rfl, rfl, htext⟩

end Value

end Manifest
