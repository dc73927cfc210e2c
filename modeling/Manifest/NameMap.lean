/-!
# Maps from names

A map from names is a list of names with what they stand for. Maps made by `insert` alone are in
increasing order of their names, so that two of them with the same content are equal.
-/

namespace Manifest

/-- Names and what they stand for. -/
abbrev NameMap (α : Type) := List (String × α)

namespace NameMap

variable {α : Type}

/-- What a name stands for. -/
def get? (m : NameMap α) (name : String) : Option α :=
  m.lookup name

/-- Lets a name stand for something, in the place of what it stood for before. -/
def insert (name : String) (a : α) : NameMap α → NameMap α
  | [] => [(name, a)]
  | (n, b) :: rest =>
    if name = n then (name, a) :: rest
    else if name < n then (name, a) :: (n, b) :: rest
    else (n, b) :: insert name a rest

/-- Inserts names one after the other; later ones win. -/
def insertAll (m : NameMap α) (new : NameMap α) : NameMap α :=
  new.foldl (fun acc e => acc.insert e.1 e.2) m

/-- The map of a list of names and what they stand for, in which later ones win. -/
def ofList (pairs : List (String × α)) : NameMap α :=
  insertAll [] pairs

/-- The names, in order. -/
def names (m : NameMap α) : List String :=
  m.map (·.1)

/-! ## What a name stands for -/

@[simp]
theorem get?_nil (name : String) : get? ([] : NameMap α) name = none :=
  rfl

@[simp]
theorem insertAll_cons (m : NameMap α) (n : String) (a : α) (rest : NameMap α) :
    m.insertAll ((n, a) :: rest) = (m.insert n a).insertAll rest :=
  rfl

theorem get?_cons (n : String) (a : α) (rest : NameMap α) (name : String) :
    get? ((n, a) :: rest) name = if name = n then some a else get? rest name := by
  by_cases h : name = n
  · simp [get?, h]
  · simp [get?, List.lookup_cons, beq_false_of_ne h, h]

/-- Inserting a name changes what that name stands for, and nothing else. -/
theorem get?_insert (m : NameMap α) (n : String) (a : α) (name : String) :
    get? (m.insert n a) name = if name = n then some a else get? m name := by
  induction m with
  | nil => simp [insert, get?_cons]
  | cons e rest ih =>
    obtain ⟨k, b⟩ := e
    rw [insert]
    split
    · next h =>
      subst h
      simp only [get?_cons]
      split <;> rfl
    · next hne =>
      split
      · rw [get?_cons]
      · rw [get?_cons, ih, get?_cons]
        by_cases h : name = k
        · subst h
          rw [if_pos rfl, if_pos rfl, if_neg (Ne.symm hne)]
        · rw [if_neg h, if_neg h]

/-- What a name stands for is in the map. -/
theorem mem_of_get? {m : NameMap α} {name : String} {a : α} (h : get? m name = some a) :
    (name, a) ∈ m := by
  obtain ⟨before, after, rfl, -⟩ := List.lookup_eq_some_iff.1 h
  exact List.mem_append_right _ List.mem_cons_self

/-- Of insertions the last one decides what a name stands for. -/
theorem get?_insertAll (m new : NameMap α) (name : String) :
    get? (m.insertAll new) name = (get? new.reverse name).or (get? m name) := by
  induction new generalizing m with
  | nil => rfl
  | cons e rest ih =>
    obtain ⟨n, a⟩ := e
    have hlast : get? ((n, a) :: rest).reverse name =
        (get? rest.reverse name).or (if name = n then some a else none) := by
      rw [List.reverse_cons, get?, List.lookup_append, ← get?, ← get?, get?_cons, get?_nil]
    rw [insertAll_cons, ih, get?_insert, hlast, Option.or_assoc]
    split <;> rfl

/-- What a name stands for after insertions is what it stood for before, or one of the new. -/
theorem mem_of_get?_insertAll {m new : NameMap α} {name : String} {a : α}
    (h : get? (m.insertAll new) name = some a) : get? m name = some a ∨ (name, a) ∈ new := by
  induction new generalizing m with
  | nil => exact .inl h
  | cons e rest ih =>
    obtain ⟨n, b⟩ := e
    rcases ih h with hm | hmem
    · rw [get?_insert] at hm
      split at hm
      · next hn =>
        cases hm
        exact .inr (hn ▸ List.mem_cons_self)
      · exact .inl hm
    · exact .inr (List.mem_cons_of_mem _ hmem)

/-- What a name stands for in the map of a list is in that list. -/
theorem mem_of_get?_ofList {pairs : List (String × α)} {name : String} {a : α}
    (h : get? (ofList pairs) name = some a) : (name, a) ∈ pairs := by
  rcases mem_of_get?_insertAll h with hnil | hmem
  · cases hnil
  · exact hmem

/-! ## Insertions that others make up for -/

/-- Of two things that are inserted under one name, the second one counts. -/
theorem insert_insert (m : NameMap α) (name : String) (a b : α) :
    (m.insert name a).insert name b = m.insert name b := by
  induction m with
  | nil => simp [insert]
  | cons e rest ih =>
    obtain ⟨n, c⟩ := e
    simp only [insert]
    split
    · rw [insert, if_pos rfl]
    · split
      · rw [insert, if_pos rfl]
      · next hne hnot => rw [insert, if_neg hne, if_neg hnot, ih]

/-- In which order different names are inserted makes no difference. -/
theorem insert_comm (m : NameMap α) {n k : String} (h : n ≠ k) (a b : α) :
    (m.insert n a).insert k b = (m.insert k b).insert n a := by
  induction m with
  | nil => grind [insert]
  | cons e rest ih =>
    obtain ⟨j, c⟩ := e
    grind [insert]

/-- Nothing is left of an insertion under a name that is inserted again later. -/
theorem insertAll_insert_of_mem {new : NameMap α} {name : String} (h : name ∈ new.names)
    (m : NameMap α) (a : α) : (m.insert name a).insertAll new = m.insertAll new := by
  induction new generalizing m with
  | nil => cases h
  | cons e rest ih =>
    obtain ⟨n, b⟩ := e
    rw [insertAll_cons, insertAll_cons]
    by_cases hname : name = n
    · rw [hname, insert_insert]
    · rw [insert_comm m hname]
      exact ih ((List.mem_cons.1 h).resolve_left hname) _

/-- So it is with many names. -/
theorem insertAll_insertAll_of_subset {old new : NameMap α} (h : old.names ⊆ new.names)
    (m : NameMap α) : (m.insertAll old).insertAll new = m.insertAll new := by
  induction old generalizing m with
  | nil => rfl
  | cons e rest ih =>
    obtain ⟨n, a⟩ := e
    obtain ⟨hhead, hrest⟩ := List.cons_subset.1 h
    rw [insertAll_cons, ih hrest, insertAll_insert_of_mem hhead]

/-! ## Order -/

/-- The names are in increasing order. -/
def Ordered (m : NameMap α) : Prop :=
  m.Pairwise fun e f => e.1 < f.1

/-- What is in a map after an insertion was there before, or is what was inserted. -/
theorem mem_of_mem_insert {m : NameMap α} {name : String} {a : α} {e : String × α}
    (h : e ∈ m.insert name a) : e = (name, a) ∨ e ∈ m := by
  induction m with
  | nil => exact .inl (List.mem_singleton.1 h)
  | cons f rest ih =>
    rw [insert] at h
    split at h
    · exact (List.mem_cons.1 h).imp_right (List.mem_cons_of_mem f)
    · split at h
      · exact List.mem_cons.1 h
      · rcases List.mem_cons.1 h with rfl | h
        · exact .inr List.mem_cons_self
        · exact (ih h).imp_right (List.mem_cons_of_mem f)

/-- A name is inserted where the order has a place for it. -/
theorem Ordered.insert {m : NameMap α} (h : m.Ordered) (name : String) (a : α) :
    (m.insert name a).Ordered := by
  induction m with
  | nil => exact List.pairwise_singleton _ _
  | cons e rest ih =>
    obtain ⟨n, b⟩ := e
    obtain ⟨hhead, hrest⟩ := List.pairwise_cons.1 h
    rw [NameMap.insert]
    split
    · next hsame => exact List.pairwise_cons.2 ⟨hsame ▸ hhead, hrest⟩
    · next hne =>
      split
      · next hlt =>
        refine List.pairwise_cons.2 ⟨fun f hf => ?_, h⟩
        rcases List.mem_cons.1 hf with rfl | hf
        · exact hlt
        · exact String.lt_trans hlt (hhead f hf)
      · next hnot =>
        have hlt : n < name := Std.lt_of_le_of_ne (Std.not_lt.1 hnot) (Ne.symm hne)
        refine List.pairwise_cons.2 ⟨fun f hf => ?_, ih hrest⟩
        rcases mem_of_mem_insert hf with rfl | hf
        · exact hlt
        · exact hhead f hf

/-- So all maps are in order that are made by insertions. -/
theorem Ordered.insertAll {m : NameMap α} (h : m.Ordered) (new : NameMap α) :
    (m.insertAll new).Ordered := by
  induction new generalizing m with
  | nil => exact h
  | cons e rest ih => exact ih (h.insert e.1 e.2)

theorem ordered_ofList (pairs : List (String × α)) : (ofList pairs).Ordered :=
  Ordered.insertAll .nil pairs

/-- A name after all others is inserted at the end. -/
theorem insert_of_last {m : NameMap α} {name : String} (h : ∀ e ∈ m, e.1 < name) (a : α) :
    m.insert name a = m ++ [(name, a)] := by
  induction m with
  | nil => rfl
  | cons e rest ih =>
    obtain ⟨hhead, hrest⟩ := List.forall_mem_cons.1 h
    rw [insert, if_neg (Std.ne_of_lt hhead).symm, if_neg (String.lt_asymm hhead), ih hrest]
    rfl

/-- Inserting the names of a map in order, one after the other, makes that map. -/
theorem Ordered.ofList_eq {m : NameMap α} (h : m.Ordered) : ofList m = m := by
  -- on what is still to be inserted; what there is already comes before it
  suffices hsplit : ∀ done : NameMap α, (done ++ m).Pairwise (fun e f => e.1 < f.1) →
      done.insertAll m = done ++ m from hsplit [] h
  induction m with
  | nil => exact fun done _ => (List.append_nil done).symm
  | cons e rest ih =>
    intro done hdone
    have hlast : ∀ d ∈ done, d.1 < e.1 :=
      fun d hd => (List.pairwise_append.1 hdone).2.2 d hd e List.mem_cons_self
    have hmore : (done ++ [e]) ++ rest = done ++ e :: rest := by simp
    rw [insertAll_cons, insert_of_last hlast, ih (List.pairwise_cons.1 h).2 _ (hmore ▸ hdone),
      hmore]

/-- A name before all others stands for nothing. -/
theorem get?_eq_none_of_lt {m : NameMap α} {name : String} (h : ∀ e ∈ m, name < e.1) :
    get? m name = none := by
  rw [Option.eq_none_iff_forall_ne_some]
  exact fun a ha => String.lt_irrefl name (h _ (mem_of_get? ha))

/-- **Extensionality**: maps in order are the same if every name stands for the same. -/
theorem Ordered.ext {m m' : NameMap α} (h : m.Ordered) (h' : m'.Ordered)
    (hget : ∀ name, get? m name = get? m' name) : m = m' := by
  induction m generalizing m' with
  | nil =>
    cases m' with
    | nil => rfl
    | cons e' rest' =>
      obtain ⟨n', a'⟩ := e'
      simpa [get?_cons] using hget n'
  | cons e rest ih =>
    obtain ⟨n, a⟩ := e
    obtain ⟨hhead, hrest⟩ := List.pairwise_cons.1 h
    cases m' with
    | nil => simpa [get?_cons] using hget n
    | cons e' rest' =>
      obtain ⟨n', a'⟩ := e'
      obtain ⟨hhead', hrest'⟩ := List.pairwise_cons.1 h'
      -- the least name of either map is in the other one, so it is least there too
      have hnames : n = n' := by
        by_cases hne : n = n'
        · exact hne
        · have hn := hget n
          have hn' := hget n'
          rw [get?_cons, get?_cons, if_pos rfl, if_neg hne] at hn
          rw [get?_cons, get?_cons, if_neg (Ne.symm hne), if_pos rfl] at hn'
          exact absurd (hhead _ (mem_of_get? hn'))
            (String.lt_asymm (hhead' _ (mem_of_get? hn.symm)))
      subst hnames
      have hvalues := hget n
      rw [get?_cons, get?_cons, if_pos rfl, if_pos rfl] at hvalues
      cases hvalues
      rw [ih hrest hrest' fun name => ?_]
      by_cases hname : name = n
      · rw [hname, get?_eq_none_of_lt hhead, get?_eq_none_of_lt hhead']
      · have hsame := hget name
        rwa [get?_cons, get?_cons, if_neg hname, if_neg hname] at hsame

end NameMap

end Manifest
