import Manifest.Comparator
import Manifest.Proofs.Identity

/-!
# The comparison operators agree with each other

The six operators come from three sources: equality, ordering, and between types what a type
accepts. They fit together all the same (`Comparator.standard_coherent`): an operator and its mirror
image give the same answer, orderings exist all together or not at all, and where they exist
`<=` is `<` or `==`, which exclude each other.

For values that are no types it is enough that equality is symmetric (`Value.equals_comm`), that the
order of two values turned around is the opposite one (`Value.order?_swap`), and that it is `eq`
exactly for equal values (`Value.isEq_of_order?`).
-/

namespace Manifest

/-! ## The order of floats -/

open Float.Model (UnpackedFloat)

/-- The order of two floats turned around is the opposite one. -/
theorem unpackedFloat_compare_swap (x y : UnpackedFloat) :
    y.compare x = (x.compare y).map Ordering.swap := by
  rcases x with s | _ | s | ⟨s, m, e, _⟩ <;> rcases y with t | _ | t | ⟨t, n, f, _⟩
  case finite.finite =>
    -- the exponents decide, then the mantissas; negative numbers are ordered the other way
    have hswap : ((compare e f).then (compare m n)).swap = (compare f e).then (compare n m) := by
      rw [Ordering.swap_then, Int.compare_swap, Nat.compare_swap]
    cases s with
    | positive =>
      cases t with
      | positive => exact congrArg some hswap.symm
      | negative => rfl
    | negative =>
      cases t with
      | positive => rfl
      | negative => exact congrArg (fun o => some o.swap) hswap.symm
  all_goals (try cases s) <;> (try cases t) <;> rfl

/-- The order of floats is that of the numbers they are unpacked to. -/
theorem floatOrder?_eq (x y : Float) :
    floatOrder? x y = x.toModel.unpack.compare y.toModel.unpack := by
  have hlt : ∀ x y : Float, x < y ↔ x.toModel.unpack.compare y.toModel.unpack = some .lt :=
    fun x y => decide_eq_true_iff.trans beq_iff_eq
  have heq : (x == y) = (x.toModel.unpack.compare y.toModel.unpack == some .eq) := rfl
  rw [floatOrder?, heq]
  simp only [hlt]
  rw [unpackedFloat_compare_swap x.toModel.unpack y.toModel.unpack]
  rcases x.toModel.unpack.compare y.toModel.unpack with _ | o
  · rfl
  · cases o <;> rfl

theorem floatOrder?_swap (x y : Float) : floatOrder? y x = (floatOrder? x y).map Ordering.swap := by
  rw [floatOrder?_eq, floatOrder?_eq, unpackedFloat_compare_swap]

/-- Floats are equal exactly when their order says so. -/
theorem float_beq_eq (x y : Float) : (x == y) = (floatOrder? x y == some .eq) := by
  rw [floatOrder?_eq]
  rfl

/-- Equality of floats is symmetric, though not reflexive. -/
theorem float_beq_comm (x y : Float) : (x == y) = (y == x) := by
  rw [float_beq_eq, float_beq_eq y, floatOrder?_swap x y]
  rcases floatOrder? x y with _ | o
  · rfl
  · cases o <;> rfl

namespace Value

/-! ## Ordering -/

/-- Two numbers turned around. -/
theorem floatPair?_swap (a b : Value) : floatPair? b a = (floatPair? a b).map Prod.swap := by
  cases a <;> cases b <;> rfl

/-- Values that are compared as floats are no integers, no texts and no collections. -/
theorem order?_eq_of_floatPair? {a b : Value} {p : Float × Float} (h : floatPair? a b = some p) :
    a.order? b = floatOrder? p.1 p.2 := by
  cases a <;> cases b <;> cases h <;> rfl

/-- The order of two values turned around is the opposite one. -/
theorem order?_swap (a b : Value) : b.order? a = (a.order? b).map Ordering.swap := by
  cases hpair : floatPair? a b with
  | some p =>
    have hpair' : floatPair? b a = some p.swap := by rw [floatPair?_swap, hpair]; rfl
    rw [order?_eq_of_floatPair? hpair, order?_eq_of_floatPair? hpair']
    exact floatOrder?_swap p.1 p.2
  | none =>
    cases a with
    | integer m =>
      cases b with
      | integer n => exact congrArg some Std.OrientedCmp.eq_swap
      | _ => first | rfl | cases hpair
    | string s =>
      cases b with
      | string t => exact congrArg some Std.OrientedCmp.eq_swap
      | _ => rfl
    | _ => cases b <;> first | rfl | cases hpair

/-! ## Equality -/

/-- Equality of values that are not taken apart is symmetric. -/
theorem scalarEquals_comm {a b : Value} (ha : WellFormed a) (hb : WellFormed b) :
    a.scalarEquals b = b.scalarEquals a := by
  rw [scalarEquals, scalarEquals, floatPair?_swap a b]
  cases floatPair? a b with
  | none => exact (identityLaw ha).comm b hb
  | some p =>
    rw [Option.map_some]
    exact float_beq_comm p.1 p.2

/-- Texts are equal when their small letters are. -/
theorem equals_string (s t : String) :
    (Value.string s).equals (.string t) = true ↔ LetterCase.lower s = LetterCase.lower t := by
  rw [equals, Bool.or_eq_true, beq_iff_eq, beq_iff_eq]
  exact or_iff_right_of_imp (congrArg LetterCase.lower)

/-- Lists are equal when they are place by place. -/
theorem equalsAll_iff {xs ys : List Value} :
    equalsAll xs ys = true ↔ List.Forall₂ (fun x y => x.equals y = true) xs ys := by
  induction xs generalizing ys with
  | nil => cases ys <;> simp [equalsAll]
  | cons x rest ih => cases ys <;> simp [equalsAll, ih]

theorem equalsAll_comm {xs ys : List Value}
    (h : ∀ x ∈ xs, ∀ y ∈ ys, x.equals y = y.equals x) : equalsAll xs ys = equalsAll ys xs := by
  induction xs generalizing ys with
  | nil => cases ys <;> rfl
  | cons x rest ih =>
    cases ys with
    | nil => rfl
    | cons y ys =>
      rw [equalsAll, equalsAll, h x List.mem_cons_self y List.mem_cons_self,
        ih fun x hx y hy => h x (List.mem_cons_of_mem _ hx) y (List.mem_cons_of_mem _ hy)]

theorem equalsEntries_eq_true {xs ys : Entries} : equalsEntries xs ys = true ↔
    ∀ e ∈ xs, ∃ w, Entries.get? ys e.1 = some w ∧ e.2.equals w = true := by
  induction xs with
  | nil => simp [equalsEntries]
  | cons e rest ih =>
    obtain ⟨k, v⟩ := e
    rw [equalsEntries, Bool.and_eq_true, ih, List.forall_mem_cons]
    refine and_congr_left fun _ => ?_
    cases Entries.get? ys k <;> simp

theorem equals_hash {xs ys : Entries}
    (hkeys : FindsOne (fun k l => k.identical l = true) xs ys) :
    (Value.hash xs).equals (.hash ys) = true ↔ xs.length = ys.length ∧
      Covers (fun k l => k.identical l = true) (fun v w => v.equals w = true) xs ys := by
  rw [equals, Bool.and_eq_true, beq_iff_eq, equalsEntries_eq_true,
    forall_get?_iff_covers (V := fun v w => v.equals w = true) hkeys]

/-- Equality is symmetric. -/
theorem equals_comm {a b : Value} (ha : WellFormed a) (hb : WellFormed b) :
    a.equals b = b.equals a := by
  induction ha generalizing b with
  | @ofParts a here parts ih =>
    have hscalar := scalarEquals_comm (.ofParts here parts) hb
    cases a with
    | string s =>
      cases b with
      | string t => rw [equals, equals, BEq.comm (a := s), BEq.comm (a := LetterCase.lower s)]
      | _ => exact hscalar
    | array xs =>
      cases b with
      | array ys => exact equalsAll_comm fun x hx y hy => ih x hx (hb.parts y hy)
      | _ => exact hscalar
    | hash xs =>
      cases b with
      | hash ys =>
        have hkeys := keysMatch (.ofParts here parts) hb fun e he =>
          identityLaw (parts _ (key_mem_parts he))
        rw [Bool.eq_iff_iff, equals_hash hkeys.there, equals_hash hkeys.back]
        exact covers_comm hkeys fun e he f hf => by
          rw [ih _ (value_mem_parts he) (hb.parts _ (value_mem_parts hf))]
      | _ => exact hscalar
    | _ => cases b <;> exact hscalar

theorem isEq_compare {α : Type} [Ord α] [Std.LawfulEqOrd α] {x y : α} :
    (compare x y).isEq = true ↔ x = y := by
  rw [Ordering.isEq_iff_eq_eq, Std.LawfulEqCmp.compare_eq_iff_eq]

/-- Where there is an order of two values, it says whether they are equal. -/
theorem isEq_of_order? {a b : Value} {o : Ordering} (h : a.order? b = some o) :
    a.equals b = o.isEq := by
  cases hpair : floatPair? a b with
  | some p =>
    -- two numbers of which one is a float are compared as floats both ways
    rw [order?_eq_of_floatPair? hpair] at h
    have hequals : a.equals b = (p.1 == p.2) := by
      cases a <;> cases b <;> cases hpair <;> rfl
    rw [hequals, float_beq_eq, h]
    cases o <;> rfl
  | none =>
    cases a with
    | integer m =>
      cases b with
      | integer n =>
        obtain rfl := Option.some.inj h
        change (m == n) = _
        rw [Bool.eq_iff_iff, beq_iff_eq, isEq_compare, Int64.toInt_inj]
      | _ => first | cases h | cases hpair
    | string s =>
      cases b with
      | string t =>
        obtain rfl := Option.some.inj h
        rw [Bool.eq_iff_iff, equals_string, isEq_compare]
      | _ => cases h
    | _ => cases b <;> first | cases h | cases hpair

end Value

/-! ## The six operators -/

namespace ComparisonOp

/-- The operator that says the same of two operands turned around. -/
def flip : ComparisonOp → ComparisonOp
  | .eq => .eq
  | .notEq => .notEq
  | .lt => .gt
  | .le => .ge
  | .gt => .lt
  | .ge => .le

/-- Whether the operator is about an order. -/
def isOrdering : ComparisonOp → Bool
  | .eq | .notEq => false
  | _ => true

end ComparisonOp

namespace Comparator

/-- A comparison has no answer, because the two values cannot be compared. -/
def IsImpossible (x : Except EvalError Bool) : Prop :=
  ∃ op left right, x = impossible op left right

/-- Two comparisons give the same answer, or both have none. -/
def Agree (x y : Except EvalError Bool) : Prop :=
  (∃ b, x = .ok b ∧ y = .ok b) ∨ (IsImpossible x ∧ IsImpossible y)

/-- What makes the six operators fit together at two values. -/
structure Coherent (c : Comparator) (a b : Value) : Prop where
  /-- an operator and its mirror image agree -/
  flips : ∀ op, Agree (c.holds op a b) (c.holds op.flip b a)
  /-- equality always has an answer, and inequality the opposite one -/
  equality : ∃ x, c.holds .eq a b = .ok x ∧ c.holds .notEq a b = .ok !x
  /-- orderings have answers all together or not at all -/
  orderings : (∀ op : ComparisonOp, op.isOrdering = true → ∃ x, c.holds op a b = .ok x) ∨
    ∀ op : ComparisonOp, op.isOrdering = true → c.holds op a b = impossible op a b
  /-- at most means less or equal -/
  le_iff : ∀ x, c.holds .le a b = .ok x →
    (x = true ↔ c.holds .lt a b = .ok true ∨ c.holds .eq a b = .ok true)
  /-- less excludes equal -/
  lt_ne : c.holds .lt a b = .ok true → c.holds .eq a b = .ok true → False

/-- What comparing two values comes to: whether they are equal and, if there is an order, whether
the left one is less and whether it is greater. -/
structure Verdict where
  equal : Bool
  order : Option (Bool × Bool)

namespace Verdict

/-- The verdict on the operands turned around. -/
def flip (v : Verdict) : Verdict :=
  ⟨v.equal, v.order.map Prod.swap⟩

/-- The answer that a verdict gives to an operator. -/
def answer (v : Verdict) (left right : Value) (op : ComparisonOp) : Except EvalError Bool :=
  match op, v.order with
  | .eq, _ => .ok v.equal
  | .notEq, _ => .ok !v.equal
  | .lt, some (less, _) => .ok less
  | .le, some (less, _) => .ok (less || v.equal)
  | .gt, some (_, greater) => .ok greater
  | .ge, some (_, greater) => .ok (greater || v.equal)
  | op, none => impossible op left right

variable {c : Comparator} {a b : Value} {equal less greater : Bool}

/-- Without an order, only equality and inequality have answers. -/
theorem coherent_of_unordered
    (hab : ∀ op, c.holds op a b = (⟨equal, none⟩ : Verdict).answer a b op)
    (hba : ∀ op, c.holds op b a = (⟨equal, none⟩ : Verdict).answer b a op) : Coherent c a b where
  flips op := by
    rw [hab, hba]
    cases op with
    | eq | notEq => exact .inl ⟨_, rfl, rfl⟩
    | _ => exact .inr ⟨⟨_, _, _, rfl⟩, ⟨_, _, _, rfl⟩⟩
  equality := ⟨equal, hab .eq, hab .notEq⟩
  orderings := .inr fun op hop => by
    rw [hab]
    cases op with
    | eq | notEq => cases hop
    | _ => rfl
  le_iff x hx := by
    rw [hab] at hx
    cases hx
  lt_ne hlt := by
    rw [hab] at hlt
    cases hlt

/-- With an order in which nothing is both less and equal, all operators have answers. -/
theorem coherent_of_ordered
    (hab : ∀ op, c.holds op a b = (⟨equal, some (less, greater)⟩ : Verdict).answer a b op)
    (hba : ∀ op, c.holds op b a = (⟨equal, some (greater, less)⟩ : Verdict).answer b a op)
    (hless : less = true → equal = false) : Coherent c a b where
  flips op := by
    rw [hab, hba]
    cases op <;> exact .inl ⟨_, rfl, rfl⟩
  equality := ⟨equal, hab .eq, hab .notEq⟩
  orderings := .inl fun op _ => by
    rw [hab]
    cases op <;> exact ⟨_, rfl⟩
  le_iff x hx := by
    rw [hab] at hx
    cases hx
    simp [hab, answer]
  lt_ne hlt heq := by
    rw [hab] at hlt heq
    cases hlt
    cases (hless rfl).symm.trans (Except.ok.inj heq)

/-- The answers of a verdict in which nothing is both less and equal fit together. -/
theorem coherent {v : Verdict} (hab : ∀ op, c.holds op a b = v.answer a b op)
    (hba : ∀ op, c.holds op b a = v.flip.answer b a op)
    (hless : ∀ less greater, v.order = some (less, greater) → less = true → v.equal = false) :
    Coherent c a b := by
  obtain ⟨equal, _ | ⟨less, greater⟩⟩ := v
  · exact coherent_of_unordered hab hba
  · exact coherent_of_ordered hab hba (hless less greater rfl)

end Verdict

end Comparator

/-! ### The verdict of the language -/

/-- A type accepts itself. -/
theorem TypeRef.accepts_of_identical {s t : TypeRef} (h : s.identical t = true) :
    s.accepts t = true := by
  rw [accepts]
  split
  · exact h
  · obtain ⟨n, xs⟩ := s
    obtain ⟨m, ys⟩ := t
    obtain ⟨hname, -⟩ := Bool.and_eq_true_iff.1 h
    rw [TypeName.isWithin, if_pos (eq_of_beq hname).symm]

namespace Value

open Comparator

/-- What comparing two values comes to. -/
def verdict : Value → Value → Verdict
  | .type s, .type t =>
    ⟨s.identical t, some (!s.identical t && s.accepts t, !s.identical t && t.accepts s)⟩
  | a, b => ⟨a.equals b, (a.order? b).map fun o => (o.isLT, o.isGT)⟩

/-- Unless both are types, it is a matter of equality and order. -/
theorem verdict_of_not_types {a b : Value} (h : ∀ s t, a = .type s → b ≠ .type t) :
    verdict a b = ⟨a.equals b, (a.order? b).map fun o => (o.isLT, o.isGT)⟩ := by
  rw [verdict]
  exact h

/-- Turning two values around turns the verdict around. -/
theorem verdict_flip {a b : Value} (ha : WellFormed a) (hb : WellFormed b) :
    verdict b a = (verdict a b).flip := by
  by_cases h : ∃ s t, a = .type s ∧ b = .type t
  · obtain ⟨s, t, rfl, rfl⟩ := h
    have hcomm : s.identical t = t.identical s := (identityLaw ha).comm _ hb
    rw [verdict, verdict, Verdict.flip, hcomm]
    rfl
  · rw [verdict_of_not_types fun t s hb ha => h ⟨s, t, ha, hb⟩,
      verdict_of_not_types fun s t ha hb => h ⟨s, t, ha, hb⟩, Verdict.flip, order?_swap a b,
      equals_comm ha hb]
    rcases a.order? b with _ | o
    · rfl
    · cases o <;> rfl

theorem typesHold_eq_answer (op : ComparisonOp) {s t : TypeRef}
    (hcomm : s.identical t = t.identical s) :
    .ok (typesHold op s t) = (verdict (.type s) (.type t)).answer (.type s) (.type t) op := by
  cases h : s.identical t with
  | true =>
    have hle := TypeRef.accepts_of_identical h
    have hge := TypeRef.accepts_of_identical (hcomm ▸ h)
    cases op <;> simp [typesHold, verdict, Verdict.answer, h, hle, hge]
  | false => cases op <;> simp [typesHold, verdict, Verdict.answer, h]

/-- A type and another value are neither equal nor ordered. -/
theorem holds_type_left (op : ComparisonOp) (s : TypeRef) {b : Value} (hb : ∀ t, b ≠ .type t) :
    Comparator.standard.holds op (.type s) b =
      (⟨false, none⟩ : Verdict).answer (.type s) b op := by
  cases b with
  | type t => exact absurd rfl (hb t)
  | _ => cases op <;> rfl

/-- With another value on the left it is a matter of equality and order. -/
theorem holds_of_not_type (op : ComparisonOp) {a : Value} (ha : ∀ s, a ≠ .type s) (b : Value) :
    Comparator.standard.holds op a b =
      (⟨a.equals b, (a.order? b).map fun o => (o.isLT, o.isGT)⟩ : Verdict).answer a b op := by
  rw [Comparator.holds.eq_def]
  split
  · exact absurd rfl (ha _)
  · split
    · rfl
    · rfl
    · -- an ordering, which has an answer where there is an order
      split
      · next o ho =>
        have horder : a.order? b = some o := ho
        rw [horder, isEq_of_order? horder]
        cases op <;> cases o <;> rfl
      · next ho =>
        have horder : a.order? b = none := ho
        rw [horder]
        cases op <;> first | rfl | contradiction

/-- The operators give the answers of the verdict. -/
theorem holds_eq_answer (op : ComparisonOp) {a b : Value} (ha : WellFormed a) (hb : WellFormed b) :
    Comparator.standard.holds op a b = (verdict a b).answer a b op := by
  by_cases htypes : ∃ s t, a = .type s ∧ b = .type t
  · obtain ⟨s, t, rfl, rfl⟩ := htypes
    exact typesHold_eq_answer op ((identityLaw ha).comm _ hb)
  · have hnot : ∀ s t, a = .type s → b ≠ .type t := fun s t ha hb => htypes ⟨s, t, ha, hb⟩
    rw [verdict_of_not_types hnot]
    by_cases hleft : ∃ s, a = .type s
    · obtain ⟨s, rfl⟩ := hleft
      have hb : ∀ t, b ≠ .type t := fun t => hnot s t rfl
      rw [holds_type_left op s hb]
      cases b with
      | type t => exact absurd rfl (hb t)
      | _ => rfl
    · exact holds_of_not_type op (fun s hs => hleft ⟨s, hs⟩) b

/-- What is less is not equal. -/
theorem not_equal_of_less {a b : Value} {less greater : Bool}
    (h : (verdict a b).order = some (less, greater)) (hless : less = true) :
    (verdict a b).equal = false := by
  by_cases htypes : ∃ s t, a = .type s ∧ b = .type t
  · obtain ⟨s, t, rfl, rfl⟩ := htypes
    cases h
    rw [Bool.and_eq_true, Bool.not_eq_true'] at hless
    exact hless.1
  · rw [verdict_of_not_types fun s t ha hb => htypes ⟨s, t, ha, hb⟩] at h ⊢
    obtain ⟨o, ho, hsides⟩ := Option.map_eq_some_iff.1 h
    cases hsides
    rw [isEq_of_order? ho]
    cases o <;> first | rfl | cases hless

end Value

/-- **The comparison operators agree with each other**, for values of any kinds. -/
theorem Comparator.standard_coherent {a b : Value} (ha : a.WellFormed) (hb : b.WellFormed) :
    Coherent standard a b :=
  Verdict.coherent (fun op => Value.holds_eq_answer op ha hb)
    (fun op => by rw [Value.holds_eq_answer op hb ha, Value.verdict_flip ha hb])
    fun _ _ => Value.not_equal_of_less

/-- The hash `{[1] => "ON", mode => 2}`. -/
def switchedOn : Value :=
  .hash [(.array [.integer 1], .string "ON"), (.string "mode", .integer 2)]

/-- The hash `{mode => 2.0, [1] => "on"}`. -/
def switchedOnToo : Value :=
  .hash [(.string "mode", .float ⟨0x4000000000000000⟩), (.array [.integer 1], .string "on")]

/-- The two hashes are equal, in this order and in the other one. -/
theorem Comparator.standard_coherent_hashes :
    switchedOn.WellFormed ∧ switchedOnToo.WellFormed ∧
      standard.holds .eq switchedOn switchedOnToo = .ok true ∧
      standard.holds .eq switchedOnToo switchedOn = .ok true := by
  have hatom : ∀ {v : Value}, v.parts = [] → v.HasDistinctKeys → v.WellFormed := fun hparts here =>
    .ofParts here (by simp [hparts])
  have hkey : (Value.array [.integer 1]).WellFormed :=
    .ofParts trivial (List.forall_mem_singleton.2 (hatom rfl trivial))
  have hleft : switchedOn.WellFormed := by
    refine .ofParts (List.pairwise_pair.2 Bool.false_ne_true) ?_
    simp only [switchedOn, Value.parts, List.map_cons, List.map_nil, List.cons_append,
      List.nil_append, List.forall_mem_cons]
    exact ⟨hkey, hatom rfl trivial, hatom rfl trivial, hatom rfl trivial, by simp⟩
  have hright : switchedOnToo.WellFormed := by
    refine .ofParts (List.pairwise_pair.2 Bool.false_ne_true) ?_
    simp only [switchedOnToo, Value.parts, List.map_cons, List.map_nil, List.cons_append,
      List.nil_append, List.forall_mem_cons]
    exact ⟨hatom rfl trivial, hkey, hatom rfl trivial, hatom rfl trivial, by simp⟩
  have hequal : standard.holds .eq switchedOn switchedOnToo = .ok true := rfl
  refine ⟨hleft, hright, hequal, ?_⟩
  rcases (standard_coherent hleft hright).flips .eq with ⟨x, hx, hflip⟩ | ⟨⟨_, _, _, hx⟩, -⟩
  · cases hequal.symm.trans hx
    exact hflip
  · cases hequal.symm.trans hx

end Manifest
