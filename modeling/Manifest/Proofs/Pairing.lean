import Manifest.Proofs.Merging

/-!
# Hashes written as arrays

An array can stand for the entries of a hash in two ways: as a list of pairs, or as a flat list in
which keys and values take turns. Its first element alone decides between the two. So what is
written as pairs is always read back; what is written flat is read back unless the first key is an
array, which would be taken for a pair.

* `Entries.ofPairs_pairs`, `Entries.ofPairs_of_firstNonPair` — pairs are read back, and the first
  element that is no pair is reported; there is no third case (`Entries.pairs_or_firstNonPair`).
* `Entries.ofFlat_flat` — a flat list is read back.
* `Value.concatenate_of_startsWithArray`, `Value.concatenate_of_not_startsWithArray` — which arrays
  can be merged into a hash, and what is wrong with the others.
* `Value.concatenate_written` — the two ways to write a hash, and the arrays that are refused.
-/

namespace Manifest

namespace Value

/-- An array of two elements. -/
def IsPair (v : Value) : Prop :=
  ∃ e, v = pairValue e

/-- The value is an array. -/
def IsArray (v : Value) : Prop :=
  ∃ items, v = .array items

theorem isArray_pairValue (e : Value × Value) : (pairValue e).IsArray :=
  ⟨_, rfl⟩

end Value

/-- The first element of a list that is no pair stands at an index. -/
def FirstNonPair (items : List Value) (i : Nat) : Prop :=
  (∃ v, items[i]? = some v ∧ ¬ v.IsPair) ∧ ∀ j < i, ∀ v, items[j]? = some v → v.IsPair

/-- The list is not empty, and its first element is an array. -/
def StartsWithArray (items : List Value) : Prop :=
  ∃ v ∈ items.head?, v.IsArray

namespace FirstNonPair

variable {v : Value} {rest : List Value}

theorem not_nil (i : Nat) : ¬ FirstNonPair [] i := by
  rintro ⟨⟨v, hv, -⟩, -⟩
  cases hv

theorem cons_of_not_isPair (hv : ¬ v.IsPair) {i : Nat} : FirstNonPair (v :: rest) i ↔ i = 0 := by
  refine ⟨fun ⟨_, hbefore⟩ => ?_, ?_⟩
  · rcases Nat.eq_zero_or_pos i with hi | hi
    · exact hi
    · exact absurd (hbefore 0 hi v rfl) hv
  · rintro rfl
    exact ⟨⟨v, rfl, hv⟩, fun j hj => absurd hj (Nat.not_lt_zero j)⟩

theorem cons_of_isPair (hv : v.IsPair) {i : Nat} :
    FirstNonPair (v :: rest) i ↔ ∃ j, i = j + 1 ∧ FirstNonPair rest j := by
  constructor
  · rintro ⟨⟨w, hw, hnone⟩, hbefore⟩
    cases i with
    | zero =>
      cases hw
      exact absurd hv hnone
    | succ j => exact ⟨j, rfl, ⟨w, hw, hnone⟩, fun k hk => hbefore (k + 1) (Nat.succ_lt_succ hk)⟩
  · rintro ⟨j, rfl, ⟨w, hw, hnone⟩, hbefore⟩
    refine ⟨⟨w, hw, hnone⟩, fun k hk u hu => ?_⟩
    cases k with
    | zero =>
      cases hu
      exact hv
    | succ k => exact hbefore k (Nat.lt_of_succ_lt_succ hk) u hu

end FirstNonPair

namespace Entries

variable {n : Nat} {items : List Value} {es : Entries}

/-! ## Pairs -/

theorem ofPairs_pair (n : Nat) (e : Value × Value) (rest : List Value) :
    ofPairs n (pairValue e :: rest) = (ofPairs (n + 1) rest).map (e :: ·) :=
  rfl

theorem ofPairs_of_not_isPair (n : Nat) {v : Value} (hv : ¬ v.IsPair) (rest : List Value) :
    ofPairs n (v :: rest) = .error (.notAPair n) := by
  rw [ofPairs.eq_def]
  split
  · next heq => cases heq
  · next k w rest' heq =>
    cases heq
    exact absurd ⟨(k, w), rfl⟩ hv
  · rfl

/-- A list of pairs is read as the entries that it was made of. -/
theorem ofPairs_pairs (n : Nat) (es : Entries) : ofPairs n (es.map pairValue) = .ok es := by
  induction es generalizing n with
  | nil => rfl
  | cons e rest ih =>
    rw [List.map_cons, ofPairs_pair, ih]
    rfl

/-- The first element that is no pair is reported. -/
theorem ofPairs_of_firstNonPair {i : Nat} (h : FirstNonPair items i) (n : Nat) :
    ofPairs n items = .error (.notAPair (n + i)) := by
  induction items generalizing n i with
  | nil => exact absurd h (FirstNonPair.not_nil i)
  | cons v rest ih =>
    by_cases hv : v.IsPair
    · obtain ⟨j, rfl, hj⟩ := (FirstNonPair.cons_of_isPair hv).1 h
      obtain ⟨e, rfl⟩ := hv
      rw [ofPairs_pair, ih hj, Nat.add_right_comm, Nat.add_assoc]
      rfl
    · obtain rfl := (FirstNonPair.cons_of_not_isPair hv).1 h
      rw [ofPairs_of_not_isPair n hv]
      rfl

/-- A list is made of pairs, or it has a first element that is none. -/
theorem pairs_or_firstNonPair (items : List Value) :
    (∃ es : Entries, items = es.map pairValue) ∨ ∃ i, FirstNonPair items i := by
  induction items with
  | nil => exact .inl ⟨[], rfl⟩
  | cons v rest ih =>
    by_cases hv : v.IsPair
    · rcases ih with ⟨es, rfl⟩ | ⟨i, hi⟩
      · obtain ⟨e, rfl⟩ := hv
        exact .inl ⟨e :: es, rfl⟩
      · exact .inr ⟨i + 1, (FirstNonPair.cons_of_isPair hv).2 ⟨i, rfl, hi⟩⟩
    · exact .inr ⟨0, (FirstNonPair.cons_of_not_isPair hv).2 rfl⟩

/-! ## Flat lists -/

/-- Keys and values in turns. -/
def flat (es : Entries) : List Value :=
  es.flatMap fun e => [e.1, e.2]

theorem length_flat (es : Entries) : es.flat.length = 2 * es.length := by
  induction es with
  | nil => rfl
  | cons e rest ih =>
    have hrest : (flat (e :: rest)).length = (flat rest).length + 2 := rfl
    rw [hrest, ih, List.length_cons]
    omega

/-- A flat list is read as the entries that it was made of. -/
theorem ofFlat_flat (es : Entries) : ofFlat es.flat = es := by
  induction es with
  | nil => rfl
  | cons e rest ih => exact congrArg (e :: ·) ih

/-! ## Either -/

/-- A list that starts with an array is read as pairs. -/
theorem ofItems_of_startsWithArray (h : StartsWithArray items) :
    ofItems items = (ofPairs 0 items).map ofList := by
  obtain ⟨v, hv, vs, rfl⟩ := h
  obtain ⟨rest, rfl⟩ := List.head?_eq_some_iff.1 hv
  rfl

/-- A list that does not is read as keys and values in turns. -/
theorem ofItems_of_not_startsWithArray (h : ¬ StartsWithArray items) :
    ofItems items = if items.length % 2 = 0 then .ok (ofList (ofFlat items))
      else .error (.oddElementCount items.length) := by
  rw [ofItems.eq_def]
  split
  · rfl
  · next vs rest => exact absurd ⟨_, rfl, vs, rfl⟩ h
  · rfl

/-- The entries of a hash are read back from its pairs. -/
theorem ofItems_pairs (hes : (Value.hash es).WellFormed) :
    ofItems (es.map pairValue) = .ok es := by
  cases es with
  | nil => rfl
  | cons e rest =>
    rw [ofItems_of_startsWithArray ⟨_, rfl, Value.isArray_pairValue e⟩, ofPairs_pairs]
    exact congrArg Except.ok (ofList_self hes)

/-- They are read back from the flat list too, unless the first key is taken for a pair. -/
theorem ofItems_flat (hes : (Value.hash es).WellFormed) (hkey : ∀ e ∈ es.head?, ¬ e.1.IsArray) :
    ofItems es.flat = .ok es := by
  have hstart : ¬ StartsWithArray es.flat := by
    rintro ⟨v, hv, harray⟩
    cases es with
    | nil => cases hv
    | cons e rest =>
      cases hv
      exact hkey e rfl harray
  rw [ofItems_of_not_startsWithArray hstart, length_flat, if_pos (Nat.mul_mod_right 2 _),
    ofFlat_flat, ofList_self hes]

end Entries

namespace Value

/-- What is read from an array is merged into the hash. -/
theorem concatenate_array (x : Entries) (right : List Value) :
    (hash x).concatenate (array right) =
      (Entries.ofItems right).map fun new => hash (x.insertAll new) :=
  rfl

/-- An array that starts with an array can be merged if it consists of pairs. Otherwise the first
element that is no pair is reported. -/
theorem concatenate_of_startsWithArray (x : Entries) {right : List Value}
    (h : StartsWithArray right) :
    ((∃ merged, (hash x).concatenate (array right) = .ok merged) ↔ ∀ v ∈ right, v.IsPair) ∧
      ∀ e, (hash x).concatenate (array right) = .error e ↔
        ∃ i, e = .notAPair i ∧ FirstNonPair right i := by
  rw [concatenate_array, Entries.ofItems_of_startsWithArray h]
  rcases Entries.pairs_or_firstNonPair right with ⟨es, rfl⟩ | ⟨i, hi⟩
  · have hpairs : ∀ v ∈ es.map pairValue, v.IsPair := fun v hv => by
      obtain ⟨e, -, rfl⟩ := List.mem_map.1 hv
      exact ⟨e, rfl⟩
    rw [Entries.ofPairs_pairs]
    refine ⟨⟨fun _ => hpairs, fun _ => ⟨_, rfl⟩⟩, fun e => ⟨fun hread => (by cases hread), ?_⟩⟩
    rintro ⟨i, -, ⟨v, hv, hnone⟩, -⟩
    exact absurd (hpairs v (List.mem_of_getElem? hv)) hnone
  · have hread := Entries.ofPairs_of_firstNonPair hi 0
    rw [Nat.zero_add] at hread
    rw [hread]
    refine ⟨⟨fun ⟨_, hok⟩ => (by cases hok), fun hpairs => ?_⟩, fun e => ⟨fun he => ?_, ?_⟩⟩
    · obtain ⟨⟨v, hv, hnone⟩, -⟩ := hi
      exact absurd (hpairs v (List.mem_of_getElem? hv)) hnone
    · cases he
      exact ⟨i, rfl, hi⟩
    · rintro ⟨j, rfl, hj⟩
      have hread' := Entries.ofPairs_of_firstNonPair hj 0
      rw [Nat.zero_add, hread] at hread'
      cases hread'
      rfl

/-- Any other array can be merged if it has an even number of elements. Otherwise their number is
reported. -/
theorem concatenate_of_not_startsWithArray (x : Entries) {right : List Value}
    (h : ¬ StartsWithArray right) :
    ((∃ merged, (hash x).concatenate (array right) = .ok merged) ↔ right.length % 2 = 0) ∧
      ∀ e, (hash x).concatenate (array right) = .error e ↔
        e = .oddElementCount right.length ∧ right.length % 2 = 1 := by
  rw [concatenate_array, Entries.ofItems_of_not_startsWithArray h]
  rcases Nat.mod_two_eq_zero_or_one right.length with heven | hodd
  · simp [heven, Except.map]
  · simp [hodd, Except.map, eq_comm]

end Value

/-- **Hashes written as arrays**: merging the pairs of a hash, or the flat list of its entries unless
its first key is an array, comes to merging the hash. An array can be merged exactly if it is empty,
starts with an array and consists of pairs, or does not start with one and has an even number of
elements. The error tells the first element that is no pair, or the number of elements. -/
theorem Value.concatenate_written :
    (∀ x y : Entries, (hash y).WellFormed →
      (hash x).concatenate (array (hash y).unfold) = (hash x).concatenate (hash y) ∧
      ((∀ e ∈ y.head?, ¬ e.1.IsArray) →
        (hash x).concatenate (array y.flat) = (hash x).concatenate (hash y))) ∧
    ∀ (x : Entries) (right : List Value),
      ((∃ merged, (hash x).concatenate (array right) = .ok merged) ↔
        right = [] ∨ StartsWithArray right ∧ (∀ v ∈ right, v.IsPair) ∨
          ¬ StartsWithArray right ∧ right.length % 2 = 0) ∧
      ∀ e, (hash x).concatenate (array right) = .error e ↔
        (∃ i, e = .notAPair i ∧ StartsWithArray right ∧ FirstNonPair right i) ∨
          e = .oddElementCount right.length ∧ ¬ StartsWithArray right ∧ right.length % 2 = 1 := by
  refine ⟨fun x y hy => ⟨?_, fun hkey => ?_⟩, fun x right => ?_⟩
  · have hpairs : (hash y).unfold = y.map pairValue := rfl
    rw [hpairs, concatenate_array, Entries.ofItems_pairs hy]
    rfl
  · rw [concatenate_array, Entries.ofItems_flat hy hkey]
    rfl
  · by_cases hstart : StartsWithArray right
    · have hne : right ≠ [] := by
        rintro rfl
        obtain ⟨v, hv, -⟩ := hstart
        cases hv
      simpa only [hstart, hne, not_true_eq_false, false_and, and_false, true_and, false_or,
        or_false] using concatenate_of_startsWithArray x hstart
    · have hempty : right = [] ∨ right.length % 2 = 0 ↔ right.length % 2 = 0 :=
        or_iff_right_of_imp fun h => by rw [h]; rfl
      simpa only [hstart, not_false_eq_true, false_and, and_false, exists_false, true_and, false_or,
        hempty] using concatenate_of_not_startsWithArray x hstart

/-- The hash `{a => [1, 2], [3] => b}`. -/
def nestedSettings : Entries :=
  .ofList [(.string "a", .array [.integer 1, .integer 2]), (.array [.integer 3], .string "b")]

/-- Both ways to write it are read back, although it has arrays in it. Without its first entry the
flat list would be taken for pairs, of which the first is none. -/
theorem Value.concatenate_written_nested :
    (hash nestedSettings).WellFormed ∧ (∀ e ∈ nestedSettings.head?, ¬ e.1.IsArray) ∧
    (hash firstSettings).concatenate (array (hash nestedSettings).unfold) =
      (hash firstSettings).concatenate (hash nestedSettings) ∧
    (hash firstSettings).concatenate (array nestedSettings.flat) =
      (hash firstSettings).concatenate (hash nestedSettings) ∧
    (hash firstSettings).concatenate (array [array [.integer 3], .string "b"]) =
      .error (.notAPair 0) := by
  have hatom : ∀ {v : Value}, v.isAtom = true → v.WellFormed := wellFormed_of_isAtom
  have hnested : (hash nestedSettings).WellFormed := by
    refine wellFormed_ofList ?_
    simp only [List.forall_mem_cons, wellFormed_array]
    exact ⟨⟨hatom rfl, hatom rfl, hatom rfl, fun _ h => nomatch h⟩,
      ⟨⟨hatom rfl, fun _ h => nomatch h⟩, hatom rfl⟩, fun _ h => nomatch h⟩
  have hkey : ∀ e ∈ nestedSettings.head?, ¬ e.1.IsArray := by
    rintro e he ⟨items, harray⟩
    cases he
    cases harray
  obtain ⟨hwritten, hread⟩ := concatenate_written
  obtain ⟨hpairs, hflat⟩ := hwritten firstSettings nestedSettings hnested
  refine ⟨hnested, hkey, hpairs, hflat hkey, ((hread _ _).2 _).2 (.inl ⟨0, rfl, ⟨_, rfl, _, rfl⟩, ?_⟩)⟩
  refine (FirstNonPair.cons_of_not_isPair ?_).2 rfl
  rintro ⟨⟨k, v⟩, he⟩
  cases he

end Manifest
