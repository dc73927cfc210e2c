import Manifest.Collection
import Manifest.Proofs.Insertion

/-!
# Merging hashes

Two hashes are joined by inserting the entries of the second one into the first. So keys of the
first one stay where they are, the other ones follow, and the second hash decides what stands under
its keys (`Entries.IsMerge`); there is one such hash only. Merging is associative, with the order of
entries, since inserting one more entry before a merge or after it makes no difference
(`Entries.insertAll_insert`).
-/

namespace Manifest

namespace Entries

variable {es new pairs : Entries} {k v : Value}

/-- Merging hashes `x` and `y` gives this: the keys of `x` and then the other keys of `y`, each in
their order, with the values of `y` under its keys and those of `x` under the others. -/
structure IsMerge (x y merged : Entries) : Prop where
  keys : merged.keys = x.keys ++ y.keys.filter fun k => (x.get? k).isNone
  values : ∀ key : Value, key.WellFormed → merged.get? key = (y.get? key).or (x.get? key)

theorem isMerge_insertAll (hes : (Value.hash es).WellFormed) (hnew : (Value.hash new).WellFormed) :
    IsMerge es new (es.insertAll new) :=
  ⟨keys_insertAll hes hnew, fun _ => get?_insertAll hes hnew⟩

/-- An entry can be inserted before a merge as well as after it. -/
theorem insertAll_insert (hes : (Value.hash es).WellFormed) (hnew : (Value.hash new).WellFormed)
    (hk : k.WellFormed) (hv : v.WellFormed) :
    es.insertAll (new.insert k v) = (es.insertAll new).insert k v := by
  have hnew' := Value.wellFormed_insert hnew hk hv
  have hmerged := Value.wellFormed_insertAll hes (Value.all_hash.1 hnew).2
  have hleft := Value.wellFormed_insertAll hes (Value.all_hash.1 hnew').2
  refine ext hleft (Value.wellFormed_insert hmerged hk hv) ?_ fun key hkey => ?_
  · rw [keys_insert, get?_insertAll hes hnew hk, keys_insertAll hes hnew, keys_insertAll hes hnew',
      keys_insert]
    -- whether the key is new depends on both hashes
    cases hthere : new.get? k <;> cases hhere : es.get? k <;> simp [List.filter_append, hhere]
  · have hwf := hleft.key hkey
    rw [get?_insert (fun _ => hmerged.key) hk v hwf, get?_insertAll hes hnew hwf,
      get?_insertAll hes hnew' hwf, get?_insert (fun _ => hnew.key) hk v hwf]
    split <;> rfl

/-- So it is with any entries. -/
theorem insertAll_insertAll (hes : (Value.hash es).WellFormed) (hnew : (Value.hash new).WellFormed)
    (hpairs : ∀ e ∈ pairs, e.1.WellFormed ∧ e.2.WellFormed) :
    es.insertAll (new.insertAll pairs) = (es.insertAll new).insertAll pairs := by
  induction pairs generalizing new with
  | nil => rfl
  | cons e rest ih =>
    obtain ⟨⟨hk, hv⟩, hrest⟩ := List.forall_mem_cons.1 hpairs
    rw [insertAll_cons, insertAll_cons, ← insertAll_insert hes hnew hk hv,
      ih (Value.wellFormed_insert hnew hk hv) hrest]

/-- A hash of pairs in two parts is the merge of two hashes. -/
theorem ofList_append {more : List (Value × Value)}
    (hpairs : ∀ e ∈ pairs, e.1.WellFormed ∧ e.2.WellFormed)
    (hmore : ∀ e ∈ more, e.1.WellFormed ∧ e.2.WellFormed) :
    ofList (pairs ++ more) = (ofList pairs).insertAll (ofList more) := by
  have happend : ofList (pairs ++ more) = (ofList pairs).insertAll more := List.foldl_append
  have hfirst := Value.wellFormed_ofList hpairs
  rw [happend, ofList.eq_1 more, insertAll_insertAll hfirst Value.wellFormed_empty hmore]
  rfl

/-- A hash is made of its entries. -/
theorem ofList_self (hes : (Value.hash es).WellFormed) : ofList es = es := by
  have hmade := Value.wellFormed_ofList (Value.all_hash.1 hes).2
  refine ext hmade hes ?_ fun key hkey => ?_
  · rw [ofList, keys_insertAll Value.wellFormed_empty hes]
    simp
  · rw [ofList, get?_insertAll Value.wellFormed_empty hes (hmade.key hkey), get?_nil, Option.or_none]

/-- Merging a hash with itself changes nothing. -/
theorem insertAll_self (hes : (Value.hash es).WellFormed) : es.insertAll es = es := by
  have hmerged := Value.wellFormed_insertAll hes (Value.all_hash.1 hes).2
  refine ext hmerged hes ?_ fun key hkey => ?_
  · have hnone : (es.keys.filter fun k => (es.get? k).isNone) = [] := by
      refine List.filter_eq_nil_iff.2 fun k hk => ?_
      rw [Option.isNone_iff_eq_none, get?_eq_none_iff]
      exact fun h => h k hk (Value.identical_self (hes.key hk))
    rw [keys_insertAll hes hes, hnone, List.append_nil]
  · rw [get?_insertAll hes hes (hmerged.key hkey), Option.or_self]

end Entries

/-- **Merging hashes**: joining two hashes merges them. Merging is associative, with the order of
entries; the empty hash is neutral on both sides; and merging a hash with itself changes nothing. -/
theorem Value.concatenate_merges {x y z : Entries} (hx : (hash x).WellFormed)
    (hy : (hash y).WellFormed) (hz : (hash z).WellFormed) :
    (∃ merged, (hash x).concatenate (hash y) = .ok (hash merged) ∧ (hash merged).WellFormed ∧
      Entries.IsMerge x y merged) ∧
    (∃ merged, ((hash x).concatenate (hash y)).bind (·.concatenate (hash z)) = .ok (hash merged) ∧
      ((hash y).concatenate (hash z)).bind (hash x).concatenate = .ok (hash merged)) ∧
    (hash []).concatenate (hash x) = .ok (hash x) ∧
    (hash x).concatenate (hash []) = .ok (hash x) ∧
    (hash x).concatenate (hash x) = .ok (hash x) := by
  have hmerged := wellFormed_insertAll hx (all_hash.1 hy).2
  have hassoc := Entries.insertAll_insertAll hx hy (all_hash.1 hz).2
  have hleft : (hash []).concatenate (hash x) = .ok (hash (Entries.ofList x)) := rfl
  have hself : (hash x).concatenate (hash x) = .ok (hash (x.insertAll x)) := rfl
  refine ⟨⟨_, rfl, hmerged, Entries.isMerge_insertAll hx hy⟩, ⟨_, rfl, ?_⟩, ?_, rfl, ?_⟩
  · rw [← hassoc]
    rfl
  · rw [hleft, Entries.ofList_self hx]
  · rw [hself, Entries.insertAll_self hx]

/-- The hash `{{[1] => "on", mode => 2.5} => 1, a => 2}`. -/
def firstSettings : Entries :=
  .ofList [(setting, .integer 1), (.string "a", .integer 2)]

/-- The hash `{b => 3, {mode => 2.5, [1] => "on"} => 4}`. -/
def laterSettings : Entries :=
  .ofList [(.string "b", .integer 3), (settingReordered, .integer 4)]

theorem Value.wellFormed_settings :
    (hash firstSettings).WellFormed ∧ (hash laterSettings).WellFormed := by
  have hatom : ∀ {v : Value}, v.isAtom = true → v.WellFormed := wellFormed_of_isAtom
  have hpair : ∀ {k v l w : Value}, k.WellFormed → v.WellFormed → l.WellFormed → w.WellFormed →
      (hash (Entries.ofList [(k, v), (l, w)])).WellFormed := fun hk hv hl hw =>
    wellFormed_ofList (List.forall_mem_cons.2 ⟨⟨hk, hv⟩, List.forall_mem_singleton.2 ⟨hl, hw⟩⟩)
  have hone : (array [.integer 1]).WellFormed :=
    wellFormed_array.2 (List.forall_mem_singleton.2 (hatom rfl))
  have hsetting : setting.WellFormed :=
    hpair (v := .string "on") (l := .string "mode") hone (hatom rfl) (hatom rfl) (hatom rfl)
  have hreordered : settingReordered.WellFormed :=
    hpair (k := .string "mode") (w := .string "on") (hatom rfl) (hatom rfl) hone (hatom rfl)
  exact ⟨hpair hsetting (hatom rfl) (hatom rfl) (hatom rfl),
    hpair (hatom rfl) (hatom rfl) hreordered (hatom rfl)⟩

/-- The two share a key, though not letter by letter: it stays in front, with the value of the second
one. Joined the other way round, it comes second. -/
theorem Value.concatenate_merges_settings :
    (hash firstSettings).WellFormed ∧ (hash laterSettings).WellFormed ∧
    (∃ merged : Entries, (hash firstSettings).concatenate (hash laterSettings) = .ok (hash merged) ∧
      merged.keys = [setting, .string "a", .string "b"] ∧
      merged.get? setting = some (.integer 4)) ∧
    ∃ merged : Entries, (hash laterSettings).concatenate (hash firstSettings) = .ok (hash merged) ∧
      merged.keys = [.string "b", settingReordered, .string "a"] ∧
      merged.get? setting = some (.integer 1) := by
  obtain ⟨hfirst, hlater⟩ := wellFormed_settings
  have hkey : setting.WellFormed := hfirst.key List.mem_cons_self
  obtain ⟨⟨merged, hjoin, -, hmerge⟩, -⟩ := concatenate_merges hfirst hlater hfirst
  obtain ⟨⟨merged', hjoin', -, hmerge'⟩, -⟩ := concatenate_merges hlater hfirst hlater
  exact ⟨hfirst, hlater,
    ⟨merged, hjoin, hmerge.keys.trans rfl, (hmerge.values _ hkey).trans rfl⟩,
    ⟨merged', hjoin', hmerge'.keys.trans rfl, (hmerge'.values _ hkey).trans rfl⟩⟩

end Manifest
