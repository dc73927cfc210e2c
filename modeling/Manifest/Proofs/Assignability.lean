import Mathlib.Logic.Relation
import Manifest.Proofs.Comparison
import Manifest.Proofs.Keys
import Manifest.Proofs.Law
import Manifest.Proofs.Library

/-!
# Types are ordered by what they accept

Names of types form a tree, and a plain type accepts the types whose names lie below its own. A
specialised type accepts itself alone; as for what accepts it, only its name counts. The two rules
make one partial order all the same, with `Any` on top.

* `TypeName.isWithin_iff` — to lie below a name is to reach it by climbing from parent to parent,
  and every climb ends.
* `TypeRef.accepts_trans`, `TypeRef.accepts_antisymm` — the laws, whichever of the types are
  specialised.
* `TypeRef.accepts_ordered` — the order, with the comparisons of types and the choices that go by
  it.
-/

namespace Manifest

/-! ## The tree of names -/

namespace TypeName

variable {name above ancestor a b c : String}

/-- Every climb from a type to the type above it, and so on, ends. -/
theorem wellFounded_parent : WellFounded fun above name => parent? name = some above :=
  Subrelation.wf depth_parent (measure depth).wf

/-- Only the root has nothing above it. -/
theorem eq_any_of_parent (h : parent? name = none) : name = "Any" := by
  unfold parent? at h
  split at h <;> first | rfl | cases h

theorem isWithin_self (name : String) : isWithin name name = true := by
  rw [isWithin, if_pos rfl]

/-- What lies above the parent of a type lies above the type. -/
theorem isWithin_of_parent (hparent : parent? name = some above)
    (h : isWithin above ancestor = true) : isWithin name ancestor = true := by
  rw [isWithin]
  split
  · rfl
  · split
    · next other hother =>
      cases hparent.symm.trans hother
      exact h
    · next hnone => cases hparent.symm.trans hnone

/-- A type lies below those that are reached from it by climbing. -/
theorem isWithin_iff : isWithin name ancestor = true ↔
    Relation.ReflTransGen (fun name above => parent? name = some above) name ancestor := by
  constructor
  · intro h
    induction name using wellFounded_parent.induction with
    | _ name ih =>
      rw [isWithin] at h
      split at h
      · next heq => exact heq ▸ .refl
      · split at h
        · next above hparent => exact .head hparent (ih above hparent h)
        · cases h
  · intro h
    induction h using Relation.ReflTransGen.head_induction_on with
    | refl => exact isWithin_self ancestor
    | head hparent _ ih => exact isWithin_of_parent hparent ih

theorem isWithin_trans (hab : isWithin a b = true) (hbc : isWithin b c = true) :
    isWithin a c = true :=
  isWithin_iff.2 ((isWithin_iff.1 hab).trans (isWithin_iff.1 hbc))

/-- Climbing leads nearer to the root. -/
theorem eq_or_depth_lt (h : isWithin name ancestor = true) :
    name = ancestor ∨ depth ancestor < depth name := by
  induction isWithin_iff.1 h using Relation.ReflTransGen.head_induction_on with
  | refl => exact .inl rfl
  | head hparent hclimb ih =>
    have hdepth := depth_parent hparent
    rcases ih (isWithin_iff.2 hclimb) with rfl | hlt
    · exact .inr hdepth
    · exact .inr (hlt.trans hdepth)

theorem isWithin_antisymm (hab : isWithin a b = true) (hba : isWithin b a = true) : a = b := by
  rcases eq_or_depth_lt hab with heq | hlt
  · exact heq
  · rcases eq_or_depth_lt hba with heq | hgt
    · exact heq.symm
    · exact absurd hlt hgt.asymm

/-- Every type lies below the root. -/
theorem isWithin_any (name : String) : isWithin name "Any" = true := by
  induction name using wellFounded_parent.induction with
  | _ name ih =>
    cases hparent : parent? name with
    | none => rw [eq_any_of_parent hparent, isWithin_self]
    | some above => exact isWithin_of_parent hparent (ih above hparent)

end TypeName

/-! ## Types -/

namespace TypeRef

variable {s t u : TypeRef}

/-- What a type is specialised to is well-formed. -/
abbrev WellFormed (t : TypeRef) : Prop :=
  (Value.type t).WellFormed

/-- A specialised type accepts itself alone. -/
theorem accepts_of_parameterized (h : s.isParameterized = true) (t : TypeRef) :
    s.accepts t = s.identical t :=
  if_pos h

/-- A plain type accepts those whose names lie below its own. -/
theorem accepts_of_plain (h : s.isParameterized = false) (t : TypeRef) :
    s.accepts t = TypeName.isWithin t.name s.name :=
  if_neg (Bool.eq_false_iff.1 h)

/-- Identical types have one name, and both are specialised or none is. -/
theorem name_eq_of_identical (h : s.identical t = true) :
    s.name = t.name ∧ s.isParameterized = t.isParameterized := by
  obtain ⟨name, xs⟩ := s
  obtain ⟨name', ys⟩ := t
  obtain ⟨hname, hparams⟩ := Bool.and_eq_true_iff.1 h
  have hlength := (Value.identicalAll_iff.1 hparams).length_eq
  refine ⟨eq_of_beq hname, ?_⟩
  cases xs <;> cases ys <;> first | rfl | cases hlength

/-- Plain types of one name are identical. -/
theorem identical_of_plain (hs : s.isParameterized = false) (ht : t.isParameterized = false)
    (h : s.name = t.name) : s.identical t = true := by
  obtain ⟨name, _ | _⟩ := s
  · obtain ⟨name', _ | _⟩ := t
    · exact Bool.and_eq_true_iff.2 ⟨beq_iff_eq.2 h, rfl⟩
    · cases ht
  · cases hs

/-- What a type accepts has a name below its own. -/
theorem isWithin_of_accepts (h : s.accepts t = true) :
    TypeName.isWithin t.name s.name = true := by
  cases hs : s.isParameterized with
  | true =>
    rw [accepts_of_parameterized hs] at h
    rw [(name_eq_of_identical h).1]
    exact TypeName.isWithin_self _
  | false => rwa [accepts_of_plain hs] at h

/-- A type accepts itself. -/
theorem accepts_self (ht : t.WellFormed) : t.accepts t = true :=
  accepts_of_identical (Value.identical_self ht)

theorem accepts_trans (hs : s.WellFormed) (ht : t.WellFormed) (hu : u.WellFormed)
    (hst : s.accepts t = true) (htu : t.accepts u = true) : s.accepts u = true := by
  cases hparams : s.isParameterized with
  | true =>
    -- the first two are identical, and so is the third one
    rw [accepts_of_parameterized hparams] at hst ⊢
    rw [accepts_of_parameterized ((name_eq_of_identical hst).2 ▸ hparams)] at htu
    exact Value.identical_trans hs ht hu hst htu
  | false =>
    -- only names count, whatever the second one is specialised to
    rw [accepts_of_plain hparams]
    exact TypeName.isWithin_trans (isWithin_of_accepts htu) (isWithin_of_accepts hst)

theorem accepts_antisymm (hs : s.WellFormed) (ht : t.WellFormed) (hst : s.accepts t = true)
    (hts : t.accepts s = true) : s.identical t = true := by
  cases hparams : s.isParameterized with
  | true => rwa [accepts_of_parameterized hparams] at hst
  | false =>
    cases hparams' : t.isParameterized with
    | true =>
      rw [accepts_of_parameterized hparams'] at hts
      exact Value.identical_symm ht hs hts
    | false =>
      exact identical_of_plain hparams hparams'
        (TypeName.isWithin_antisymm (isWithin_of_accepts hts) (isWithin_of_accepts hst))

/-- Types that accept each other are identical, and no others are. -/
theorem accepts_both_iff (hs : s.WellFormed) (ht : t.WellFormed) :
    s.accepts t = true ∧ t.accepts s = true ↔ s.identical t = true :=
  ⟨fun h => accepts_antisymm hs ht h.1 h.2, fun h =>
    ⟨accepts_of_identical h, accepts_of_identical (Value.identical_symm hs ht h)⟩⟩

/-- The plain type at the root accepts every type. -/
theorem any_accepts (t : TypeRef) : (named "Any").accepts t = true :=
  (accepts_of_plain rfl t).trans (TypeName.isWithin_any t.name)

end TypeRef

/-! ## What goes by the order -/

namespace Comparator

variable {c : Comparator} {s t u : TypeRef}

/-- A type is at most another one if it accepts it. -/
theorem holds_le_types : c.holds .le (.type s) (.type t) = .ok true ↔ s.accepts t = true :=
  Iff.of_eq (Except.ok.injEq (s.accepts t) true)

theorem holds_eq_types : c.holds .eq (.type s) (.type t) = .ok true ↔ s.identical t = true :=
  Iff.of_eq (Except.ok.injEq (s.identical t) true)

/-- A type is less than another one if it accepts it and is not the same. -/
theorem holds_lt_types : c.holds .lt (.type s) (.type t) = .ok true ↔
    s.identical t = false ∧ s.accepts t = true := by
  have hlt : c.holds .lt (.type s) (.type t) = .ok (!s.identical t && s.accepts t) := rfl
  rw [hlt, Except.ok.injEq, Bool.and_eq_true, Bool.not_eq_true']

/-- What is less than a type that is less than another one is less than that one. -/
theorem holds_lt_trans (hs : s.WellFormed) (ht : t.WellFormed) (hu : u.WellFormed)
    (hst : c.holds .lt (.type s) (.type t) = .ok true)
    (htu : c.holds .lt (.type t) (.type u) = .ok true) :
    c.holds .lt (.type s) (.type u) = .ok true := by
  obtain ⟨hne, hst⟩ := holds_lt_types.1 hst
  obtain ⟨-, htu⟩ := holds_lt_types.1 htu
  refine holds_lt_types.2 ⟨?_, TypeRef.accepts_trans hs ht hu hst htu⟩
  -- if the first one were the third one, it would be the second one as well
  refine Bool.eq_false_iff.2 fun hsu => Bool.eq_false_iff.1 hne ?_
  have hus := TypeRef.accepts_of_identical (Value.identical_symm hs hu hsu)
  exact TypeRef.accepts_antisymm hs ht hst (TypeRef.accepts_trans ht hu hs htu hus)

/-- No type is less than itself. -/
theorem holds_lt_self (ht : t.WellFormed) : c.holds .lt (.type t) (.type t) = .ok false := by
  have hlt : c.holds .lt (.type t) (.type t) = .ok (!t.identical t && t.accepts t) := rfl
  have hself : t.identical t = true := Value.identical_self ht
  rw [hlt, hself]
  rfl

end Comparator

namespace Evaluator

open EvalM

/-- A type selects the values whose type it accepts, and that changes nothing. -/
theorem selects_type (E : Evaluator) (subject : Value) (t : TypeRef) :
    E.selects subject (.type t) = pure (t.accepts subject.inferredType) :=
  rfl

/-- So does a candidate that stands for a type. -/
theorem evalCandidate_type {E : Evaluator} {n : Nat} {c : Expr} (hc : c.isUnfold = false)
    {t : TypeRef} {s u : State} (h : E.eval n c s = some (.ok (.type t), u)) (subject : Value) :
    E.evalCandidate (E.invoke n) subject c s = some (.ok (t.accepts subject.inferredType), u) := by
  rw [evalCandidate_of_not_unfold E (E.invoke n) subject hc]
  exact bind_of_ok h _

end Evaluator

/-- What a value is inferred to be is a plain type. -/
theorem Value.wellFormed_inferredType (v : Value) : v.inferredType.WellFormed :=
  Value.all_type.2 ⟨trivial, List.forall_mem_nil _⟩

namespace TypeRef

/-- Types are ordered by what they accept, and comparisons and choices go by that order. -/
structure AcceptsOrdered : Prop where
  /-- a climb from a type to the type above it, and so on, ends -/
  climbs : WellFounded fun above name => TypeName.parent? name = some above
  refl : ∀ t : TypeRef, t.WellFormed → t.accepts t = true
  trans : ∀ s t u : TypeRef, s.WellFormed → t.WellFormed → u.WellFormed →
    s.accepts t = true → t.accepts u = true → s.accepts u = true
  antisymm : ∀ s t : TypeRef, s.WellFormed → t.WellFormed →
    s.accepts t = true → t.accepts s = true → s.identical t = true
  top : ∀ t, (named "Any").accepts t = true
  /-- types that are at most each other are equal, and no others are -/
  le_both : ∀ (c : Comparator) (s t : TypeRef), s.WellFormed → t.WellFormed →
    (c.holds .le (.type s) (.type t) = .ok true ∧ c.holds .le (.type t) (.type s) = .ok true ↔
      c.holds .eq (.type s) (.type t) = .ok true)
  lt_trans : ∀ (c : Comparator) (s t u : TypeRef), s.WellFormed → t.WellFormed → u.WellFormed →
    c.holds .lt (.type s) (.type t) = .ok true → c.holds .lt (.type t) (.type u) = .ok true →
    c.holds .lt (.type s) (.type u) = .ok true
  lt_irrefl : ∀ (c : Comparator) (t : TypeRef), t.WellFormed →
    c.holds .lt (.type t) (.type t) = .ok false
  /-- what a type selects is selected by every type that accepts that one -/
  selects : ∀ (E : Evaluator) (subject : Value) (s t : TypeRef), s.WellFormed → t.WellFormed →
    t.accepts s = true → ∀ u v, E.selects subject (.type s) u = some (.ok true, v) →
    E.selects subject (.type t) u = some (.ok true, v)
  /-- so for candidates, wherever they stand and however they come to stand for these types -/
  candidates : ∀ (E : Evaluator) (n : Nat) (subject : Value) (s t : TypeRef),
    s.WellFormed → t.WellFormed → t.accepts s = true →
    ∀ c u v, c.isUnfold = false → E.eval n c u = some (.ok (.type s), v) →
      E.evalCandidate (E.invoke n) subject c u = some (.ok true, v) →
    ∀ d u' v', d.isUnfold = false → E.eval n d u' = some (.ok (.type t), v') →
      E.evalCandidate (E.invoke n) subject d u' = some (.ok true, v')

/-- **Types are ordered by what they accept**: a partial order with `Any` on top, plain and
specialised types alike; comparisons of types and choices by types go by it. -/
theorem accepts_ordered : AcceptsOrdered where
  climbs := TypeName.wellFounded_parent
  refl _ := accepts_self
  trans _ _ _ := accepts_trans
  antisymm _ _ := accepts_antisymm
  top := any_accepts
  le_both c s t hs ht := by
    rw [Comparator.holds_le_types, Comparator.holds_le_types, Comparator.holds_eq_types]
    exact accepts_both_iff hs ht
  lt_trans _ _ _ _ := Comparator.holds_lt_trans
  lt_irrefl _ _ := Comparator.holds_lt_self
  selects E subject s t hs ht hst u v h := by
    rw [Evaluator.selects_type] at h ⊢
    obtain ⟨haccepts, rfl⟩ : s.accepts subject.inferredType = true ∧ u = v := by
      simpa [EvalM.pure_apply] using h
    rw [accepts_trans ht hs subject.wellFormed_inferredType hst haccepts]
    rfl
  candidates E n subject s t hs ht hst c u v hc hs' hselects d u' v' hd ht' := by
    rw [Evaluator.evalCandidate_type hc hs'] at hselects
    have haccepts : s.accepts subject.inferredType = true := by simpa using hselects
    rw [Evaluator.evalCandidate_type hd ht',
      accepts_trans ht hs subject.wellFormed_inferredType hst haccepts]

/-- The type `Integer[1, 10]`. -/
def oneToTen : TypeRef :=
  ⟨"Integer", [.integer 1, .integer 10]⟩

/-- `Scalar` is less than `Integer[1, 10]`, since `Numeric` stands between them; and the value `5`,
which `Numeric` selects, is selected by `Scalar` too. -/
theorem accepts_ordered_numbers :
    (named "Scalar").WellFormed ∧ (named "Numeric").WellFormed ∧ oneToTen.WellFormed ∧
      Comparator.standard.holds .lt (.type (named "Scalar")) (.type oneToTen) = .ok true ∧
      ∀ s, Library.evaluator.selects (.integer 5) (.type (named "Scalar")) s =
        some (.ok true, s) := by
  have hplain : ∀ name, (named name).WellFormed := fun name =>
    Value.all_type.2 ⟨trivial, List.forall_mem_nil _⟩
  have hbounds : oneToTen.WellFormed :=
    Value.all_type.2 ⟨trivial, List.forall_mem_cons.2 ⟨Value.all_of_isAtom rfl trivial,
      List.forall_mem_singleton.2 (Value.all_of_isAtom rfl trivial)⟩⟩
  have hscalar : (named "Scalar").accepts (named "Numeric") = true :=
    (accepts_of_plain rfl _).trans (TypeName.isWithin_of_parent rfl (TypeName.isWithin_self _))
  have hnumeric : ∀ {params}, (named "Numeric").accepts ⟨"Integer", params⟩ = true :=
    (accepts_of_plain rfl _).trans (TypeName.isWithin_of_parent rfl (TypeName.isWithin_self _))
  refine ⟨hplain _, hplain _, hbounds, ?_, fun s => ?_⟩
  · exact accepts_ordered.lt_trans .standard _ _ _ (hplain "Scalar") (hplain "Numeric") hbounds
      (Comparator.holds_lt_types.2 ⟨rfl, hscalar⟩) (Comparator.holds_lt_types.2 ⟨rfl, hnumeric⟩)
  · refine accepts_ordered.selects _ _ _ _ (hplain "Numeric") (hplain "Scalar") hscalar s s ?_
    exact congrArg (fun b => some (Except.ok b, s)) hnumeric

end TypeRef

end Manifest
