import Manifest.Proofs.Keys

/-!
# Entries after insertions

Entries in order of insertion are known by their keys in order and by what stands under them
(`Entries.ext`); so a law of insertions is one equation between lists of keys, and one between
lookups. Keys count as the same when they are identical, so that a lookup after an insertion is
about an equivalence of values, and the keys have to be well-formed.

* `Entries.keys_insert`, `Entries.get?_insert` — the two equations for one insertion.
* `Entries.keys_insertAll`, `Entries.get?_insertAll` — the two for the entries of a hash.
* `Value.wellFormed_insert` — keys stay distinct.
-/

namespace Manifest

namespace Value

variable {a b c : Value}

/-- Identical values are identical to the same values. -/
theorem identical_congr_right (ha : WellFormed a) (hb : WellFormed b) (hc : WellFormed c)
    (h : b.identical c = true) : a.identical b = a.identical c := by
  rw [(identityLaw ha).comm b hb, (identityLaw hb).congr c hc h a ha, (identityLaw hc).comm a ha]

theorem wellFormed_array {items : List Value} :
    WellFormed (.array items) ↔ ∀ v ∈ items, WellFormed v :=
  all_array.trans (and_iff_right trivial)

/-- A hash without its first entry. -/
theorem WellFormed.tail {e : Value × Value} {rest : Entries}
    (h : WellFormed (.hash (e :: rest))) : WellFormed (.hash rest) :=
  have ⟨hdistinct, hparts⟩ := all_hash.1 h
  all_hash.2 ⟨(List.pairwise_cons.1 hdistinct).2, (List.forall_mem_cons.1 hparts).2⟩

theorem WellFormed.key {es : Entries} (h : WellFormed (.hash es)) {k : Value} (hk : k ∈ es.keys) :
    WellFormed k := by
  obtain ⟨e, he, rfl⟩ := List.mem_map.1 hk
  exact h.parts _ (key_mem_parts he)

theorem hasDistinctKeys_iff {es : Entries} : HasDistinctKeys (.hash es) ↔
    es.keys.Pairwise fun k l => ¬ k.identical l = true := by
  rw [HasDistinctKeys, Entries.keys, List.pairwise_map]

end Value

namespace Entries

variable {es fs new : Entries} {k v key : Value}

/-! ## One insertion -/

@[simp]
theorem keys_nil : keys [] = [] :=
  rfl

@[simp]
theorem keys_cons (e : Value × Value) (es : Entries) : keys (e :: es) = e.1 :: es.keys :=
  rfl

@[simp]
theorem get?_nil (key : Value) : get? [] key = none :=
  rfl

theorem get?_cons (k v : Value) (rest : Entries) (key : Value) :
    get? ((k, v) :: rest) key = if key.identical k then some v else get? rest key := by
  rw [get?, List.find?_cons]
  cases key.identical k <;> rfl

@[simp]
theorem insertAll_nil (es : Entries) : es.insertAll [] = es :=
  rfl

@[simp]
theorem insertAll_cons (es : Entries) (e : Value × Value) (new : Entries) :
    es.insertAll (e :: new) = (es.insert e.1 e.2).insertAll new :=
  rfl

theorem get?_eq_none_iff : es.get? key = none ↔ ∀ k ∈ es.keys, ¬ key.identical k = true := by
  induction es with
  | nil => simp
  | cons e rest ih =>
    obtain ⟨k, v⟩ := e
    rw [get?_cons, keys_cons, List.forall_mem_cons, ← ih]
    cases key.identical k <;> simp

/-- A key that is there already keeps its place; a new one comes last. -/
theorem keys_insert (es : Entries) (k v : Value) :
    (es.insert k v).keys = if (es.get? k).isSome then es.keys else es.keys ++ [k] := by
  induction es with
  | nil => rfl
  | cons e rest ih =>
    obtain ⟨l, w⟩ := e
    rw [insert, get?_cons]
    cases k.identical l with
    | true => rfl
    | false =>
      simp only [Bool.false_eq_true, if_false, keys_cons, ih]
      split <;> rfl

/-- What holds of the keys and the values of entries holds of them after an insertion, if it holds
of what is inserted. -/
theorem forall_mem_insert {p q : Value → Prop} (hk : p k) (hv : q v)
    (h : ∀ e ∈ es, p e.1 ∧ q e.2) : ∀ e ∈ es.insert k v, p e.1 ∧ q e.2 := by
  induction es with
  | nil => exact List.forall_mem_singleton.2 ⟨hk, hv⟩
  | cons e rest ih =>
    obtain ⟨hhead, hrest⟩ := List.forall_mem_cons.1 h
    rw [insert]
    split
    · exact List.forall_mem_cons.2 ⟨⟨hhead.1, hv⟩, hrest⟩
    · exact List.forall_mem_cons.2 ⟨hhead, ih hrest⟩

/-- Under the key that was inserted stands what was inserted; under others, what stood there. -/
theorem get?_insert (hes : ∀ l ∈ es.keys, l.WellFormed) (hk : k.WellFormed) (v : Value)
    (hkey : key.WellFormed) :
    (es.insert k v).get? key = if key.identical k then some v else es.get? key := by
  induction es with
  | nil => exact get?_cons k v [] key
  | cons e rest ih =>
    obtain ⟨l, w⟩ := e
    obtain ⟨hl, hrest⟩ := List.forall_mem_cons.1 hes
    rw [insert, get?_cons l w]
    cases hkl : k.identical l with
    | true =>
      rw [if_pos rfl, get?_cons, Value.identical_congr_right hkey hk hl hkl]
      split <;> rfl
    | false =>
      rw [if_neg Bool.false_ne_true, get?_cons, ih hrest]
      cases hsame : key.identical l with
      | false => rfl
      | true =>
        -- the key is another one than `k`, which is not identical to `l`
        have hother : key.identical k = false := by
          rw [(Value.identityLaw hkey).comm k hk, Value.identical_congr_right hk hkey hl hsame, hkl]
        rw [hother]
        rfl

end Entries

/-- An insertion keeps the keys of a hash distinct. -/
theorem Value.wellFormed_insert {es : Entries} {k v : Value} (hes : WellFormed (.hash es))
    (hk : WellFormed k) (hv : WellFormed v) : WellFormed (.hash (es.insert k v)) := by
  obtain ⟨hdistinct, hparts⟩ := all_hash.1 hes
  refine all_hash.2 ⟨hasDistinctKeys_iff.2 ?_, Entries.forall_mem_insert hk hv hparts⟩
  rw [Entries.keys_insert]
  cases hget : es.get? k with
  | some w => exact hasDistinctKeys_iff.1 hdistinct
  | none =>
    refine List.pairwise_append.2 ⟨hasDistinctKeys_iff.1 hdistinct, List.pairwise_singleton _ _, ?_⟩
    intro l hl k' hk'
    rw [List.mem_singleton.1 hk', (identityLaw (hes.key hl)).comm k hk]
    exact Entries.get?_eq_none_iff.1 hget l hl

theorem Value.wellFormed_insertAll {es : Entries} (hes : WellFormed (.hash es))
    {pairs : List (Value × Value)} (hpairs : ∀ e ∈ pairs, e.1.WellFormed ∧ e.2.WellFormed) :
    WellFormed (.hash (es.insertAll pairs)) := by
  induction pairs generalizing es with
  | nil => exact hes
  | cons e rest ih =>
    obtain ⟨hhead, hrest⟩ := List.forall_mem_cons.1 hpairs
    exact ih (wellFormed_insert hes hhead.1 hhead.2) hrest

theorem Value.wellFormed_empty : WellFormed (.hash []) :=
  all_hash.2 ⟨.nil, fun _ h => nomatch h⟩

/-- Whatever the pairs are, a hash that is made of them has distinct keys. -/
theorem Value.wellFormed_ofList {pairs : List (Value × Value)}
    (hpairs : ∀ e ∈ pairs, e.1.WellFormed ∧ e.2.WellFormed) :
    WellFormed (.hash (Entries.ofList pairs)) :=
  wellFormed_insertAll wellFormed_empty hpairs

namespace Entries

variable {es fs new : Entries} {k v key : Value}

/-- What stands under a key of a hash is its value. -/
theorem get?_cons_self {rest : Entries} (hk : k.WellFormed) (v : Value) :
    get? ((k, v) :: rest) k = some v := by
  rw [get?_cons, if_pos (Value.identical_self hk)]

/-- Another key of a hash stands for what it stands for without the first entry. -/
theorem get?_cons_of_mem {rest : Entries} (h : (Value.hash ((k, v) :: rest)).WellFormed)
    (hkey : key ∈ rest.keys) : get? ((k, v) :: rest) key = get? rest key := by
  have hdistinct := (List.pairwise_cons.1 (Value.hasDistinctKeys_iff.1 h.here)).1 key hkey
  rw [(Value.identityLaw (h.key List.mem_cons_self)).comm key
    (h.key (List.mem_cons_of_mem k hkey))] at hdistinct
  rw [get?_cons, if_neg hdistinct]

/-- **Extensionality**: entries with the same keys in the same order and the same values under them
are the same. -/
theorem ext (hes : (Value.hash es).WellFormed) (hfs : (Value.hash fs).WellFormed)
    (hkeys : es.keys = fs.keys) (hget : ∀ k ∈ es.keys, es.get? k = fs.get? k) : es = fs := by
  induction es generalizing fs with
  | nil => exact (List.map_eq_nil_iff.1 hkeys.symm).symm
  | cons e rest ih =>
    cases fs with
    | nil => cases hkeys
    | cons f rest' =>
      obtain ⟨k, v⟩ := e
      obtain ⟨l, w⟩ := f
      obtain ⟨rfl, hrest⟩ : k = l ∧ keys rest = keys rest' := List.cons_eq_cons.1 hkeys
      have hk := hes.key List.mem_cons_self
      have hvalue := hget k List.mem_cons_self
      rw [get?_cons_self hk, get?_cons_self hk] at hvalue
      cases hvalue
      rw [ih hes.tail hfs.tail hrest fun key hkey => ?_]
      have hsame := hget key (List.mem_cons_of_mem k hkey)
      have hkey' : key ∈ keys rest' := hrest ▸ hkey
      rwa [get?_cons_of_mem hes hkey, get?_cons_of_mem hfs hkey'] at hsame

/-! ## The entries of a hash, one after the other -/

/-- Under the keys of the new entries stands what stands there among them; under others, what stood
there. -/
theorem get?_insertAll (hes : (Value.hash es).WellFormed) (hnew : (Value.hash new).WellFormed)
    (hkey : key.WellFormed) :
    (es.insertAll new).get? key = (new.get? key).or (es.get? key) := by
  induction new generalizing es with
  | nil => rfl
  | cons e rest ih =>
    obtain ⟨k, v⟩ := e
    obtain ⟨hk, hv⟩ := (Value.all_hash.1 hnew).2 (k, v) List.mem_cons_self
    rw [insertAll_cons, ih (Value.wellFormed_insert hes hk hv) hnew.tail,
      get?_insert (fun _ => hes.key) hk v hkey, get?_cons]
    cases hsame : key.identical k with
    | false => rfl
    | true =>
      -- the other new keys are not this one
      have hrest : get? rest key = none := by
        refine get?_eq_none_iff.2 fun l hl => ?_
        have hdistinct := (List.pairwise_cons.1 (Value.hasDistinctKeys_iff.1 hnew.here)).1 l hl
        rwa [(Value.identityLaw hkey).congr k hk hsame l (hnew.tail.key hl)]
      rw [hrest]
      rfl

/-- The keys that were there stay in place; the others come after them, in their order. -/
theorem keys_insertAll (hes : (Value.hash es).WellFormed) (hnew : (Value.hash new).WellFormed) :
    (es.insertAll new).keys = es.keys ++ new.keys.filter fun k => (es.get? k).isNone := by
  induction new generalizing es with
  | nil => exact (List.append_nil _).symm
  | cons e rest ih =>
    obtain ⟨k, v⟩ := e
    obtain ⟨hk, hv⟩ := (Value.all_hash.1 hnew).2 (k, v) List.mem_cons_self
    have hrest : ((keys rest).filter fun l => ((es.insert k v).get? l).isNone) =
        (keys rest).filter fun l => (es.get? l).isNone := by
      refine List.filter_congr fun l hl => ?_
      have hdistinct := (List.pairwise_cons.1 (Value.hasDistinctKeys_iff.1 hnew.here)).1 l hl
      have hwf := hnew.tail.key hl
      rw [(Value.identityLaw hk).comm l hwf] at hdistinct
      rw [get?_insert (fun _ => hes.key) hk v hwf, if_neg hdistinct]
    rw [insertAll_cons, ih (Value.wellFormed_insert hes hk hv) hnew.tail, hrest, keys_insert,
      keys_cons, List.filter_cons]
    cases es.get? k <;> simp

end Entries

end Manifest
