import Mathlib.Data.List.Forall2
import Manifest.Value.Entries
import Manifest.Value.Parts

/-!
# Identity is an equality

Identity is defined by recursion on its first argument, and hashes and captures are compared by
looking the keys of one up in the other. Still it is the same from both sides, and values that are
identical to the same one are identical to each other, as long as all keys are distinct
(`Value.WellFormed`): two lists of entries that have the same length and distinct keys cover each
other as soon as one of them covers the other (`covers_comm`, by counting).

* `Covers` — every entry of a list has a counterpart in another one.
* `Value.WellFormed` — keys and captured names are distinct, at every depth.
* `Value.IdentityLaw`, `Value.identityLaw` — the laws, and that all well-formed values obey them.
-/

namespace Manifest

/-! ## Lists of entries that cover each other -/

section Covers

variable {κ : Type} {K : κ → κ → Prop} {V : Value → Value → Prop} {xs ys zs : List (κ × Value)}

/-- Two entries with related keys and related values. -/
def EntryRel (K : κ → κ → Prop) (V : Value → Value → Prop) (e f : κ × Value) : Prop :=
  K e.1 f.1 ∧ V e.2 f.2

/-- Every entry of a list has a counterpart in another one. -/
def Covers (K : κ → κ → Prop) (V : Value → Value → Prop) (xs ys : List (κ × Value)) : Prop :=
  ∀ e ∈ xs, ∃ f ∈ ys, EntryRel K V e f

/-- If no two elements share a counterpart, and there are no more counterparts than elements, then
the counterparts can be put into the order of the elements. -/
theorem exists_perm_of_counterparts {α β : Type} {R : α → β → Prop} {as : List α} {bs : List β}
    (hdistinct : as.Pairwise fun a a' => ∀ b ∈ bs, R a b → ¬ R a' b)
    (hcounterpart : ∀ a ∈ as, ∃ b ∈ bs, R a b) (hlength : bs.length ≤ as.length) :
    ∃ cs, List.Forall₂ R as cs ∧ cs.Perm bs := by
  induction as generalizing bs with
  | nil =>
    obtain rfl : bs = [] := List.length_eq_zero_iff.1 (by simpa using hlength)
    exact ⟨[], .nil, .refl _⟩
  | cons a rest ih =>
    obtain ⟨hfirst, hrest⟩ := List.pairwise_cons.1 hdistinct
    obtain ⟨b, hb, hab⟩ := hcounterpart a List.mem_cons_self
    -- `b` is taken, so that the others have their counterparts in what is left
    obtain ⟨before, after, rfl⟩ := List.append_of_mem hb
    have hleft : ∀ b' ∈ before ++ after, b' ∈ before ++ b :: after := fun b' hb' => by
      simp only [List.mem_append, List.mem_cons] at hb' ⊢
      exact hb'.imp_right .inr
    have hothers : ∀ a' ∈ rest, ∃ b' ∈ before ++ after, R a' b' := by
      intro a' ha'
      obtain ⟨b', hb', ha'b'⟩ := hcounterpart a' (List.mem_cons_of_mem a ha')
      have hne : b' ≠ b := fun h => hfirst a' ha' b hb hab (h ▸ ha'b')
      exact ⟨b', by simpa [hne] using hb', ha'b'⟩
    obtain ⟨cs, hcs, hperm⟩ := ih (hrest.imp fun h b' hb' => h b' (hleft b' hb')) hothers
      (by simp at hlength ⊢; omega)
    exact ⟨b :: cs, .cons hab hcs, (hperm.cons b).trans List.perm_middle.symm⟩

/-- Of two lists that are related place by place, every element of the second one has an element
of the first one that is related to it. -/
theorem exists_of_forall₂ {α β : Type} {R : α → β → Prop} {as : List α} {bs : List β}
    (h : List.Forall₂ R as bs) : ∀ b ∈ bs, ∃ a ∈ as, R a b := by
  induction h with
  | nil => exact fun b hb => nomatch hb
  | cons hhead _ ih =>
    intro b hb
    rcases List.mem_cons.1 hb with rfl | hb
    · exact ⟨_, List.mem_cons_self, hhead⟩
    · obtain ⟨a, ha, hab⟩ := ih b hb
      exact ⟨a, List.mem_cons_of_mem _ ha, hab⟩

/-- A key of one list finds at most one entry in another one. -/
structure FindsOne (K : κ → κ → Prop) (xs ys : List (κ × Value)) : Prop where
  distinct : ys.Pairwise fun f f' => ¬ K f.1 f'.1
  joins : ∀ e ∈ xs, ∀ f ∈ ys, ∀ f' ∈ ys, K e.1 f.1 → K e.1 f'.1 → K f.1 f'.1

/-- Keys find at most one entry both ways, and it does not matter which one is looked for. -/
structure KeysMatch (K : κ → κ → Prop) (xs ys : List (κ × Value)) : Prop where
  there : FindsOne K xs ys
  back : FindsOne K ys xs
  comm : ∀ e ∈ xs, ∀ f ∈ ys, K e.1 f.1 ↔ K f.1 e.1

theorem KeysMatch.symm (h : KeysMatch K xs ys) : KeysMatch K ys xs :=
  ⟨h.back, h.there, fun f hf e he => (h.comm e he f hf).symm⟩

/-- If a list covers one that is no longer, then the entries of that one can be put into the order
of their counterparts. -/
theorem Covers.exists_perm (h : Covers K V xs ys) (hkeys : KeysMatch K xs ys)
    (hlength : xs.length = ys.length) : ∃ zs, List.Forall₂ (EntryRel K V) xs zs ∧ zs.Perm ys := by
  refine exists_perm_of_counterparts ?_ h (Nat.le_of_eq hlength.symm)
  exact hkeys.back.distinct.imp_of_mem fun he he' hne f hf hef he'f =>
    hne (hkeys.back.joins f hf _ he _ he' ((hkeys.comm _ he f hf).1 hef.1)
      ((hkeys.comm _ he' f hf).1 he'f.1))

/-- So every entry of that one is a counterpart. -/
theorem Covers.exists_of_mem (h : Covers K V xs ys) (hkeys : KeysMatch K xs ys)
    (hlength : xs.length = ys.length) : ∀ f ∈ ys, ∃ e ∈ xs, EntryRel K V e f := by
  obtain ⟨zs, hsame, hperm⟩ := h.exists_perm hkeys hlength
  exact fun f hf => exists_of_forall₂ hsame f (hperm.mem_iff.2 hf)

/-- Of two lists of the same length with distinct keys, both cover each other or none does. -/
theorem covers_comm (hkeys : KeysMatch K xs ys)
    (hvalues : ∀ e ∈ xs, ∀ f ∈ ys, V e.2 f.2 ↔ V f.2 e.2) :
    xs.length = ys.length ∧ Covers K V xs ys ↔ ys.length = xs.length ∧ Covers K V ys xs := by
  have hflip : ∀ e ∈ xs, ∀ f ∈ ys, EntryRel K V e f ↔ EntryRel K V f e := fun e he f hf =>
    and_congr (hkeys.comm e he f hf) (hvalues e he f hf)
  constructor
  · rintro ⟨hlength, h⟩
    refine ⟨hlength.symm, fun f hf => ?_⟩
    obtain ⟨e, he, hef⟩ := h.exists_of_mem hkeys hlength f hf
    exact ⟨e, he, (hflip e he f hf).1 hef⟩
  · rintro ⟨hlength, h⟩
    refine ⟨hlength.symm, fun e he => ?_⟩
    obtain ⟨f, hf, hfe⟩ := h.exists_of_mem hkeys.symm hlength e he
    exact ⟨f, hf, (hflip e he f hf).2 hfe⟩

/-- Lists that cover each other cover the same lists. -/
theorem Covers.congr (h : Covers K V xs ys) (hkeys : KeysMatch K xs ys)
    (hlength : xs.length = ys.length)
    (hsame : ∀ e ∈ xs, ∀ f ∈ ys, EntryRel K V e f →
      ∀ g ∈ zs, (EntryRel K V e g ↔ EntryRel K V f g)) :
    xs.length = zs.length ∧ Covers K V xs zs ↔ ys.length = zs.length ∧ Covers K V ys zs := by
  rw [hlength]
  refine and_congr_right fun _ => ⟨fun hxz f hf => ?_, fun hyz e he => ?_⟩
  · obtain ⟨e, he, hef⟩ := h.exists_of_mem hkeys hlength f hf
    obtain ⟨g, hg, heg⟩ := hxz e he
    exact ⟨g, hg, (hsame e he f hf hef g hg).1 heg⟩
  · obtain ⟨f, hf, hef⟩ := h e he
    obtain ⟨g, hg, hfg⟩ := hyz f hf
    exact ⟨g, hg, (hsame e he f hf hef g hg).2 hfg⟩

end Covers

namespace Value

/-! ## Well-formed values -/

/-- The keys of a hash, and the names that a closure has captured, are pairwise distinct. -/
def HasDistinctKeys : Value → Prop
  | .hash entries => entries.Pairwise fun e f => ¬ e.1.identical f.1 = true
  | .closure c => c.captures.Pairwise fun a b => a.1 ≠ b.1
  | _ => True

/-- All keys and captured names are distinct, at every depth. -/
abbrev WellFormed : Value → Prop :=
  All HasDistinctKeys

theorem wellFormed_of_isAtom {v : Value} (h : v.isAtom = true) : WellFormed v := by
  refine all_of_isAtom h ?_
  cases v <;> trivial

/-! ## The laws at one value -/

/-- What makes identity an equality at a value: it can be read from both sides, and what is
identical to the value is identical to the same values. -/
structure IdentityLaw (a : Value) : Prop where
  comm : ∀ b, WellFormed b → a.identical b = b.identical a
  congr : ∀ b, WellFormed b → a.identical b = true →
    ∀ c, WellFormed c → a.identical c = b.identical c

namespace IdentityLaw

variable {a b c : Value}

theorem comm_iff (ha : IdentityLaw a) (hb : WellFormed b) :
    a.identical b = true ↔ b.identical a = true := by
  rw [ha.comm b hb]

theorem congr_iff (ha : IdentityLaw a) (hb : WellFormed b) (hab : a.identical b = true)
    (hc : WellFormed c) : a.identical c = true ↔ b.identical c = true := by
  rw [ha.congr b hb hab c hc]

end IdentityLaw

/-! ## Lists of values -/

/-- Lists are identical when they are place by place. -/
theorem identicalAll_iff {xs ys : List Value} :
    identicalAll xs ys = true ↔ List.Forall₂ (fun x y => x.identical y = true) xs ys := by
  induction xs generalizing ys with
  | nil => cases ys <;> simp [identicalAll]
  | cons x rest ih => cases ys <;> simp [identicalAll, ih]

theorem identicalAll_comm {xs ys : List Value} (hxs : ∀ x ∈ xs, IdentityLaw x)
    (hys : ∀ y ∈ ys, WellFormed y) : identicalAll xs ys = identicalAll ys xs := by
  induction xs generalizing ys with
  | nil => cases ys <;> rfl
  | cons x rest ih =>
    cases ys with
    | nil => rfl
    | cons y ys =>
      obtain ⟨hx, hrest⟩ := List.forall_mem_cons.1 hxs
      obtain ⟨hy, hys⟩ := List.forall_mem_cons.1 hys
      rw [identicalAll, identicalAll, hx.comm y hy, ih hrest hys]

theorem identicalAll_congr {xs ys zs : List Value} (hxs : ∀ x ∈ xs, IdentityLaw x)
    (hys : ∀ y ∈ ys, WellFormed y) (hzs : ∀ z ∈ zs, WellFormed z)
    (h : identicalAll xs ys = true) : identicalAll xs zs = identicalAll ys zs := by
  induction xs generalizing ys zs with
  | nil =>
    cases ys with
    | nil => rfl
    | cons y ys => cases h
  | cons x rest ih =>
    cases ys with
    | nil => cases h
    | cons y ys =>
      cases zs with
      | nil => rfl
      | cons z zs =>
        obtain ⟨hx, hrest⟩ := List.forall_mem_cons.1 hxs
        obtain ⟨hy, hys⟩ := List.forall_mem_cons.1 hys
        obtain ⟨hz, hzs⟩ := List.forall_mem_cons.1 hzs
        obtain ⟨hxy, hall⟩ := Bool.and_eq_true_iff.1 h
        rw [identicalAll, identicalAll, hx.congr y hy hxy z hz, ih hrest hys hzs hall]

/-! ## Hashes -/

/-- The keys of two hashes, when identity is an equality at those of the first one. -/
theorem keysMatch {xs ys : Entries} (hx : WellFormed (.hash xs)) (hy : WellFormed (.hash ys))
    (hlaw : ∀ e ∈ xs, IdentityLaw e.1) :
    KeysMatch (fun k l => k.identical l = true) xs ys where
  there := {
    distinct := hy.here
    joins := fun e he f hf f' hf' hef hef' =>
      ((hlaw e he).congr_iff (hy.parts _ (key_mem_parts hf)) hef
        (hy.parts _ (key_mem_parts hf'))).1 hef' }
  back := {
    distinct := hx.here
    joins := fun f hf e he e' he' hfe hfe' => by
      have hwf := hy.parts _ (key_mem_parts hf)
      have hef := ((hlaw e he).comm_iff hwf).2 hfe
      exact ((hlaw e he).congr_iff hwf hef (hx.parts _ (key_mem_parts he'))).2 hfe' }
  comm e he f hf := (hlaw e he).comm_iff (hy.parts _ (key_mem_parts hf))

/-- Among entries with distinct keys, what is found under a key is what stands under it. -/
theorem get?_eq_some {ys : Entries} {k w : Value} (hys : HasDistinctKeys (.hash ys))
    (hk : ∀ f ∈ ys, ∀ g ∈ ys, k.identical f.1 = true → k.identical g.1 = true →
      f.1.identical g.1 = true) :
    Entries.get? ys k = some w ↔ ∃ f ∈ ys, k.identical f.1 = true ∧ f.2 = w := by
  have hfind : ∀ {f}, f ∈ ys → k.identical f.1 = true →
      ys.find? (fun g => k.identical g.1) = some f := by
    intro f hf hkf
    induction ys with
    | nil => cases hf
    | cons y rest ih =>
      obtain ⟨hy, hrest⟩ := List.pairwise_cons.1 hys
      rw [List.find?_cons]
      cases hky : k.identical y.1 with
      | true =>
        rcases List.mem_cons.1 hf with rfl | hmem
        · rfl
        · exact absurd (hk y List.mem_cons_self f hf hky hkf) (hy f hmem)
      | false =>
        rcases List.mem_cons.1 hf with rfl | hmem
        · rw [hky] at hkf
          cases hkf
        · exact ih hrest (fun f hf g hg =>
            hk f (List.mem_cons_of_mem y hf) g (List.mem_cons_of_mem y hg)) hmem
  rw [Entries.get?, Option.map_eq_some_iff]
  constructor
  · rintro ⟨f, hf, rfl⟩
    exact ⟨f, List.mem_of_find?_eq_some hf, by simpa using List.find?_some hf, rfl⟩
  · rintro ⟨f, hf, hkf, rfl⟩
    exact ⟨f, hfind hf hkf, rfl⟩

/-- Looking the entries of one hash up in another one, whatever their values are compared by. -/
theorem forall_get?_iff_covers {xs ys : Entries} {V : Value → Value → Prop}
    (hkeys : FindsOne (fun k l => k.identical l = true) xs ys) :
    (∀ e ∈ xs, ∃ w, Entries.get? ys e.1 = some w ∧ V e.2 w) ↔
      Covers (fun k l => k.identical l = true) V xs ys := by
  refine forall₂_congr fun e he => ?_
  have hget : ∀ w, Entries.get? ys e.1 = some w ↔
      ∃ f ∈ ys, e.1.identical f.1 = true ∧ f.2 = w :=
    fun _ => get?_eq_some hkeys.distinct (hkeys.joins e he)
  simp only [hget]
  constructor
  · rintro ⟨w, ⟨f, hf, hkey, rfl⟩, hvalue⟩
    exact ⟨f, hf, hkey, hvalue⟩
  · rintro ⟨f, hf, hkey, hvalue⟩
    exact ⟨f.2, ⟨f, hf, hkey, rfl⟩, hvalue⟩

theorem entriesWithin_eq_true {xs ys : Entries} : entriesWithin xs ys = true ↔
    ∀ e ∈ xs, ∃ w, Entries.get? ys e.1 = some w ∧ e.2.identical w = true := by
  induction xs with
  | nil => simp [entriesWithin]
  | cons e rest ih =>
    obtain ⟨k, v⟩ := e
    rw [entriesWithin, Bool.and_eq_true, ih, List.forall_mem_cons]
    refine and_congr_left fun _ => ?_
    rw [Entries.get?]
    cases ys.find? fun g => k.identical g.1 <;> simp

theorem identical_hash {xs ys : Entries}
    (hkeys : FindsOne (fun k l => k.identical l = true) xs ys) :
    (Value.hash xs).identical (.hash ys) = true ↔ xs.length = ys.length ∧
      Covers (fun k l => k.identical l = true) (fun v w => v.identical w = true) xs ys := by
  rw [identical, Bool.and_eq_true, beq_iff_eq, entriesWithin_eq_true,
    forall_get?_iff_covers (V := fun v w => v.identical w = true) hkeys]

/-! ## Captures -/

theorem namesMatch {xs ys : List (String × Value)} (hx : xs.Pairwise fun a b => a.1 ≠ b.1)
    (hy : ys.Pairwise fun a b => a.1 ≠ b.1) : KeysMatch Eq xs ys where
  there := ⟨hy, fun _ _ _ _ _ _ h h' => h.symm.trans h'⟩
  back := ⟨hx, fun _ _ _ _ _ _ h h' => h.symm.trans h'⟩
  comm _ _ _ _ := eq_comm

theorem lookup_eq_some {ys : List (String × Value)} (hys : ys.Pairwise fun a b => a.1 ≠ b.1)
    {n : String} {w : Value} : ys.lookup n = some w ↔ (n, w) ∈ ys := by
  induction ys with
  | nil => simp
  | cons y rest ih =>
    obtain ⟨m, v⟩ := y
    obtain ⟨hy, hrest⟩ := List.pairwise_cons.1 hys
    by_cases h : n = m
    · subst h
      have hnot : (n, w) ∉ rest := fun hmem => hy _ hmem rfl
      simp [hnot, eq_comm]
    · simp [List.lookup_cons, beq_false_of_ne h, h, ih hrest]

theorem bindingsWithin_iff_covers {xs ys : List (String × Value)}
    (hys : ys.Pairwise fun a b => a.1 ≠ b.1) :
    bindingsWithin xs ys = true ↔ Covers Eq (fun v w => v.identical w = true) xs ys := by
  induction xs with
  | nil => simp [bindingsWithin, Covers]
  | cons a rest ih =>
    obtain ⟨n, v⟩ := a
    rw [bindingsWithin, Bool.and_eq_true, ih, Covers, Covers, List.forall_mem_cons]
    refine and_congr_left fun _ => ?_
    constructor
    · intro h
      split at h
      · next w hw => exact ⟨(n, w), (lookup_eq_some hys).1 hw, rfl, h⟩
      · cases h
    · rintro ⟨⟨m, w⟩, hmem, rfl, hsame⟩
      rw [(lookup_eq_some hys).2 hmem]
      exact hsame

/-! ## All values -/

/-- Identical atoms are equal, except that regular expressions have just their source in common. -/
theorem eq_or_regex_of_identical {a b : Value} (ha : a.isAtom = true) (h : a.identical b = true) :
    a = b ∨ ∃ r s : Regex, a = .regex r ∧ b = .regex s ∧ r.source = s.source := by
  cases a <;> cases b <;> simp_all [isAtom, identical]

theorem IdentityLaw.of_isAtom {a : Value} (ha : a.isAtom = true) : IdentityLaw a where
  comm b _ := by
    cases a <;> cases b <;> first | rfl | exact BEq.comm | cases ha
  congr b _ hab c _ := by
    rcases eq_or_regex_of_identical ha hab with rfl | ⟨r, s, rfl, rfl, hsource⟩
    · rfl
    · cases c with
      | regex t => rw [identical, identical, hsource]
      | _ => rfl

theorem IdentityLaw.array {items : List Value} (h : ∀ x ∈ items, IdentityLaw x) :
    IdentityLaw (.array items) where
  comm b hb := by
    cases b with
    | array ys => exact identicalAll_comm h hb.parts
    | _ => rfl
  congr b hb hab c hc := by
    cases b with
    | array ys =>
      cases c with
      | array zs => exact identicalAll_congr h hb.parts hc.parts hab
      | _ => rfl
    | _ => cases hab

theorem IdentityLaw.type {name : String} {params : List Value} (h : ∀ x ∈ params, IdentityLaw x) :
    IdentityLaw (.type ⟨name, params⟩) where
  comm b hb := by
    cases b with
    | type u =>
      obtain ⟨m, ys⟩ := u
      have hparams : identicalAll params ys = identicalAll ys params :=
        identicalAll_comm h hb.parts
      rw [identical, identical, TypeRef.identical, TypeRef.identical, hparams,
        BEq.comm (a := name)]
    | _ => rfl
  congr b hb hab c hc := by
    cases b with
    | type u =>
      obtain ⟨m, ys⟩ := u
      cases c with
      | type t =>
        obtain ⟨l, zs⟩ := t
        obtain ⟨hname, hsame⟩ := Bool.and_eq_true_iff.1 hab
        have hparams : identicalAll params zs = identicalAll ys zs :=
          identicalAll_congr h hb.parts hc.parts hsame
        rw [identical, identical, TypeRef.identical, TypeRef.identical, hparams, eq_of_beq hname]
      | _ => rfl
    | _ => cases hab

theorem IdentityLaw.hash {xs : Entries} (hwf : WellFormed (.hash xs))
    (h : ∀ e ∈ xs, IdentityLaw e.1 ∧ IdentityLaw e.2) : IdentityLaw (.hash xs) := by
  have hkeys : ∀ {ys}, WellFormed (.hash ys) → KeysMatch (fun k l => k.identical l = true) xs ys :=
    fun hys => keysMatch hwf hys fun e he => (h e he).1
  refine ⟨fun b hb => ?_, fun b hb hab c hc => ?_⟩
  · cases b with
    | hash ys =>
      rw [Bool.eq_iff_iff, identical_hash (hkeys hb).there, identical_hash (hkeys hb).back]
      exact covers_comm (hkeys hb) fun e he f hf =>
        (h e he).2.comm_iff (hb.parts _ (value_mem_parts hf))
    | _ => rfl
  · cases b with
    | hash ys =>
      cases c with
      | hash zs =>
        obtain ⟨hlength, hcovers⟩ := (identical_hash (hkeys hb).there).1 hab
        have hsame : ∀ e ∈ xs, ∀ f ∈ ys, e.1.identical f.1 = true → ∀ g ∈ zs,
            (e.1.identical g.1 = true ↔ f.1.identical g.1 = true) := fun e he f hf hef g hg =>
          (h e he).1.congr_iff (hb.parts _ (key_mem_parts hf)) hef (hc.parts _ (key_mem_parts hg))
        -- what a key of `ys` finds in `zs` its counterpart in `xs` finds as well
        have hfinds : FindsOne (fun k l => k.identical l = true) ys zs := by
          refine ⟨hc.here, fun f hf g hg g' hg' hfg hfg' => ?_⟩
          obtain ⟨e, he, hef, -⟩ := hcovers.exists_of_mem (hkeys hb) hlength f hf
          exact (hkeys hc).there.joins e he g hg g' hg' ((hsame e he f hf hef g hg).2 hfg)
            ((hsame e he f hf hef g' hg').2 hfg')
        rw [Bool.eq_iff_iff, identical_hash (hkeys hc).there, identical_hash hfinds]
        exact hcovers.congr (hkeys hb) hlength fun e he f hf hef g hg =>
          and_congr (hsame e he f hf hef.1 g hg) ((h e he).2.congr_iff
            (hb.parts _ (value_mem_parts hf)) hef.2 (hc.parts _ (value_mem_parts hg)))
      | _ => rfl
    | _ => cases hab

theorem identical_closure {c d : Closure} (hd : HasDistinctKeys (.closure d)) :
    (Value.closure c).identical (.closure d) = true ↔ c.lambda.id = d.lambda.id ∧
      c.captures.length = d.captures.length ∧
      Covers Eq (fun v w => v.identical w = true) c.captures d.captures := by
  obtain ⟨lambda, captures⟩ := c
  obtain ⟨lambda', captures'⟩ := d
  rw [identical, Closure.identical, Bool.and_eq_true, Bool.and_eq_true, beq_iff_eq, beq_iff_eq,
    bindingsWithin_iff_covers hd, and_assoc]

theorem IdentityLaw.closure {c : Closure} (hwf : WellFormed (.closure c))
    (h : ∀ a ∈ c.captures, IdentityLaw a.2) : IdentityLaw (.closure c) := by
  refine ⟨fun b hb => ?_, fun b hb hab k hk => ?_⟩
  · cases b with
    | closure d =>
      rw [Bool.eq_iff_iff, identical_closure hb.here, identical_closure hwf.here]
      exact and_congr eq_comm (covers_comm (namesMatch hwf.here hb.here) fun e he f hf =>
        (h e he).comm_iff (hb.parts _ (capture_mem_parts hf)))
    | _ => rfl
  · cases b with
    | closure d =>
      cases k with
      | closure k =>
        obtain ⟨hid, hlength, hcovers⟩ := (identical_closure hb.here).1 hab
        -- names are equal or not, so only the captured values need the laws
        rw [Bool.eq_iff_iff, identical_closure hk.here, identical_closure hk.here, hid]
        refine and_congr_right fun _ => hcovers.congr (namesMatch hwf.here hb.here) hlength ?_
        exact fun e he f hf hef g hg => and_congr (by rw [hef.1]) ((h e he).congr_iff
          (hb.parts _ (capture_mem_parts hf)) hef.2 (hk.parts _ (capture_mem_parts hg)))
      | _ => rfl
    | _ => cases hab

/-- Identity is an equality of well-formed values. -/
theorem identityLaw {a : Value} (ha : WellFormed a) : IdentityLaw a := by
  induction ha with
  | @ofParts a here parts ih =>
    cases a with
    | array items => exact .array ih
    | hash entries =>
      exact .hash (.ofParts here parts) fun e he =>
        ⟨ih _ (key_mem_parts he), ih _ (value_mem_parts he)⟩
    | type t =>
      obtain ⟨name, params⟩ := t
      exact .type ih
    | closure c => exact .closure (.ofParts here parts) fun b hb => ih _ (capture_mem_parts hb)
    | _ => exact .of_isAtom rfl

end Value

end Manifest
