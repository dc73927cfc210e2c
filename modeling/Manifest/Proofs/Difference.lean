import Manifest.Proofs.Merging

/-!
# Difference undoes a join

Removing from a collection what was joined to it leaves what removing it at once would leave, and
everything if there was nothing of it before. Both operations have to read their right operand in
the same way, be it the elements of a value or the keys of a hash; and nothing is lost on the way
only because every value is identical to itself, so that what was added is found again.

* `Entries.foldl_erase` — removing keys one after the other keeps the entries that have none of
  them.
* `Entries.filter_insertAll` — entries that are filtered out by their keys can be inserted before.
-/

namespace Manifest

namespace Entries

variable {es new : Entries}

/-- Removing keys one after the other keeps the entries that have none of them. -/
theorem foldl_erase (es : Entries) (keys : List Value) :
    keys.foldl erase es = List.filter (fun e => !keys.any (·.identical e.1)) es := by
  induction keys generalizing es with
  | nil => simp
  | cons k rest ih =>
    rw [List.foldl_cons, ih, erase, List.filter_filter]
    refine List.filter_congr fun e _ => ?_
    rw [List.any_cons, Bool.not_or, Bool.and_comm]

/-- An entry that is filtered out by its key can be inserted before. -/
theorem filter_insert {p : Value × Value → Bool} {k v : Value} (hk : k.WellFormed)
    (hp : ∀ e : Value × Value, k.identical e.1 = true → p e = false) (es : Entries) :
    List.filter p (es.insert k v) = List.filter p es := by
  induction es with
  | nil => simp [insert, hp (k, v) (Value.identical_self hk)]
  | cons e rest ih =>
    obtain ⟨l, w⟩ := e
    rw [insert]
    split
    · next hsame => simp [hp (l, v) hsame, hp (l, w) hsame]
    · rw [List.filter_cons, List.filter_cons, ih]

/-- So can many. -/
theorem filter_insertAll {p : Value × Value → Bool} (hnew : ∀ k ∈ new.keys, k.WellFormed)
    (hp : ∀ k ∈ new.keys, ∀ e : Value × Value, k.identical e.1 = true → p e = false)
    (es : Entries) : List.filter p (es.insertAll new) = List.filter p es := by
  induction new generalizing es with
  | nil => rfl
  | cons e rest ih =>
    obtain ⟨hhead, hrest⟩ := List.forall_mem_cons.1 hnew
    obtain ⟨hphead, hprest⟩ := List.forall_mem_cons.1 hp
    rw [insertAll_cons, ih hrest hprest, filter_insert hhead hphead]

end Entries

namespace Value

/-- The elements of a well-formed value are well-formed. -/
theorem wellFormed_elements {v : Value} (h : v.WellFormed) : ∀ w ∈ v.elements, w.WellFormed :=
  all_elements (fun _ => trivial) h

/-- An array keeps the elements that are none of those of the other value. -/
theorem delete_array (items : List Value) (y : Value) :
    (array items).delete y = .ok (array (items.filter fun v => !y.elements.any (·.identical v))) :=
  rfl

/-- What is added to an array is removed again. -/
theorem delete_concatenate_array (items : List Value) {y : Value} (hy : y.WellFormed) :
    ((array items).concatenate y).bind (·.delete y) = (array items).delete y := by
  have hadded : (y.elements.filter fun v => !y.elements.any (·.identical v)) = [] := by
    refine List.filter_eq_nil_iff.2 fun w hw => ?_
    have hfound : (y.elements.any (·.identical w)) = true :=
      List.any_eq_true.2 ⟨w, hw, identical_self (wellFormed_elements hy w hw)⟩
    rw [hfound]
    exact Bool.false_ne_true
  have hjoin : ((array items).concatenate y).bind (·.delete y) =
      (array (items ++ y.elements)).delete y := rfl
  rw [hjoin, delete_array, delete_array, List.filter_append, hadded, List.append_nil]

/-- What is merged into a hash is removed again, with what stood under its keys before. -/
theorem delete_concatenate_hash (x : Entries) {y : Entries} (hy : (hash y).WellFormed) :
    ((hash x).concatenate (hash y)).bind (·.delete (hash y)) =
      .ok (hash (List.filter (fun e => !y.keys.any (·.identical e.1)) x)) := by
  have hjoin : ((hash x).concatenate (hash y)).bind (·.delete (hash y)) =
      .ok (hash (y.keys.foldl Entries.erase (x.insertAll y))) := rfl
  rw [hjoin, Entries.foldl_erase, Entries.filter_insertAll fun _ => hy.key]
  intro k hk e hsame
  rw [Bool.not_eq_false', List.any_eq_true]
  exact ⟨k, hk, hsame⟩

/-- It makes no difference from which side keys are compared. -/
theorem any_identical_eq {y : Entries} (hy : (hash y).WellFormed) {k : Value} (hk : k.WellFormed) :
    (!y.keys.any (·.identical k)) = (y.get? k).isNone := by
  rw [Bool.eq_iff_iff, Option.isNone_iff_eq_none, Entries.get?_eq_none_iff, Bool.not_eq_true',
    List.any_eq_false]
  refine forall₂_congr fun l hl => ?_
  rw [(identityLaw hk).comm l (hy.key hl)]

end Value

/-- **Difference undoes a join.** Removing from an array what was joined to it leaves what removing
it at once leaves, which is everything if no element was identical to one that was added. Removing
from a hash what was merged into it leaves the entries whose keys are none of its keys, in their
order, which are all of them if the two share no key. -/
theorem Value.delete_concatenate :
    (∀ (items : List Value) (y : Value), (array items).WellFormed → y.WellFormed →
      (∃ rest, ((array items).concatenate y).bind (·.delete y) = .ok (array rest) ∧
        (array items).delete y = .ok (array rest)) ∧
      ((∀ v ∈ items, ∀ w ∈ y.elements, ¬ v.identical w = true) →
        ((array items).concatenate y).bind (·.delete y) = .ok (array items))) ∧
    ∀ x y : Entries, (hash x).WellFormed → (hash y).WellFormed →
      ((hash x).concatenate (hash y)).bind (·.delete (hash y)) =
        .ok (hash (List.filter (fun e => (y.get? e.1).isNone) x)) ∧
      ((∀ k ∈ x.keys, y.get? k = none) →
        ((hash x).concatenate (hash y)).bind (·.delete (hash y)) = .ok (hash x)) := by
  refine ⟨fun items y hitems hy => ?_, fun x y hx hy => ?_⟩
  · rw [delete_concatenate_array items hy, delete_array]
    refine ⟨⟨_, rfl, rfl⟩, fun hapart => ?_⟩
    have hall : ∀ v ∈ items, (!y.elements.any (·.identical v)) = true := by
      intro v hv
      rw [Bool.not_eq_true', List.any_eq_false]
      intro w hw
      rw [(identityLaw (wellFormed_elements hy w hw)).comm v (wellFormed_array.1 hitems v hv)]
      exact hapart v hv w hw
    rw [List.filter_eq_self.2 hall]
  · have hkept : List.filter (fun e => !y.keys.any (·.identical e.1)) x =
        List.filter (fun e => (y.get? e.1).isNone) x :=
      List.filter_congr fun e he => any_identical_eq hy (hx.parts _ (key_mem_parts he))
    rw [delete_concatenate_hash x hy, hkept]
    refine ⟨rfl, fun hapart => ?_⟩
    have hall : ∀ e ∈ x, (y.get? e.1).isNone = true := fun e he =>
      Option.isNone_iff_eq_none.2 (hapart e.1 (List.mem_map_of_mem he))
    rw [List.filter_eq_self.2 hall]

/-- The pair of `a` and `2` is removed from an array that had it before, and the key that two hashes
share is removed, though the second one writes it in another order. -/
theorem Value.delete_concatenate_settings :
    let items : List Value := [.integer 2, .array [.string "a", .integer 2], .integer 2]
    let pairs : Entries := .ofList [(.string "a", .integer 2)]
    (array items).WellFormed ∧ (hash pairs).WellFormed ∧
    (hash firstSettings).WellFormed ∧ (hash laterSettings).WellFormed ∧
    ((array items).concatenate (hash pairs)).bind (·.delete (hash pairs)) =
      .ok (array [.integer 2, .integer 2]) ∧
    ((hash firstSettings).concatenate (hash laterSettings)).bind (·.delete (hash laterSettings)) =
      .ok (hash pairs) := by
  intro items pairs
  have hatom : ∀ {v : Value}, v.isAtom = true → v.WellFormed := wellFormed_of_isAtom
  have hpairs : (hash pairs).WellFormed :=
    wellFormed_ofList (List.forall_mem_singleton.2 ⟨hatom rfl, hatom rfl⟩)
  have hitems : (array items).WellFormed := by
    simp only [items, wellFormed_array, List.forall_mem_cons]
    exact ⟨hatom rfl, ⟨hatom rfl, hatom rfl, fun _ h => nomatch h⟩, hatom rfl, fun _ h => nomatch h⟩
  obtain ⟨hfirst, hlater⟩ := wellFormed_settings
  obtain ⟨harrays, hhashes⟩ := delete_concatenate
  obtain ⟨⟨rest, hjoin, hdelete⟩, -⟩ := harrays items (hash pairs) hitems hpairs
  exact ⟨hitems, hpairs, hfirst, hlater, hjoin.trans (hdelete.symm.trans rfl),
    (hhashes _ _ hfirst hlater).1.trans rfl⟩

end Manifest
