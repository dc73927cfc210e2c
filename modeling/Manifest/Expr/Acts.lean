import Manifest.Expr.Parts

/-!
# What expressions do

Most expressions only evaluate their parts. A few do something of their own: they bind names, record
edges, set the captures, or call.

* `Form.act?` — what a form does of its own.
* `Form.isChoice` — the forms that keep the captures of their parts to themselves.
* `Expr.EffectFree` — nothing is bound, recorded or called, and captures are set in choices only.
* `Expr.CaptureFree` — captures are set, and calls made, in choices only.
* `Expr.EdgeFree` — no edges are recorded, and no calls made.
* `Region` — a set of expressions that tells those inside of choices apart, and says what each of
  them may do.
-/

namespace Manifest

/-- What an expression may do besides evaluating its parts. -/
inductive Act where
  /-- binds names -/
  | assigns
  /-- records edges -/
  | relates
  /-- sets the captures -/
  | captures
  /-- calls a function -/
  | calls

namespace Form

/-- What a form does of its own. -/
def act? : Form → Option Act
  | .assignment .. => some .assigns
  | .relationship .. => some .relates
  | .matching .. => some .captures
  | .callNamed .. | .callMethod .. => some .calls
  | _ => none

/-- Whether a form is a choice between branches. -/
def isChoice : Form → Bool
  | .ifThen _ _ _ | .unlessThen _ _ _ | .caseOf _ _ | .selector _ _ => true
  | _ => false

end Form

namespace Expr

/-- An expression occurs openly in itself, and in whatever has a part that it occurs openly in,
unless that is a choice. -/
inductive OccursOpenlyIn (x : Expr) : Expr → Prop where
  | here : OccursOpenlyIn x x
  | inside {e part : Expr} (hopen : e.form.isChoice = false) (hpart : part ∈ e.parts)
    (h : OccursOpenlyIn x part) : OccursOpenlyIn x e

/-- An expression that has no assignment, relationship or call in it, and no match but those inside
of a choice. -/
structure EffectFree (e : Expr) : Prop where
  acts : ∀ x : Expr, x.OccursIn e → ∀ a ∈ x.form.act?, a = .captures
  openly : ∀ x : Expr, x.OccursOpenlyIn e → x.form.act? ≠ some .captures

/-- An expression that has no match and no call in it but those inside of a choice. -/
def CaptureFree (e : Expr) : Prop :=
  ∀ x : Expr, x.OccursOpenlyIn e → ∀ a ∈ x.form.act?, a ≠ .captures ∧ a ≠ .calls

/-- An expression that has no relationship and no call in it. -/
def EdgeFree (e : Expr) : Prop :=
  ∀ x : Expr, x.OccursIn e → ∀ a ∈ x.form.act?, a ≠ .relates ∧ a ≠ .calls

/-- An expression is free of relationships and calls if it is neither, and its parts are free of
them. -/
theorem edgeFree_iff {e : Expr} : e.EdgeFree ↔
    (∀ a ∈ e.form.act?, a ≠ .relates ∧ a ≠ .calls) ∧ ∀ part ∈ e.parts, part.EdgeFree := by
  refine ⟨fun h => ⟨h e .here, fun _ hpart x hx => h x (.inside hpart hx)⟩, ?_⟩
  rintro ⟨hact, hparts⟩ x hx
  cases hx with
  | here => exact hact
  | inside hpart h => exact hparts _ hpart x h

/-- Whatever is in a choice, the choice is free of captures. -/
theorem captureFree_of_isChoice {e : Expr} (he : e.form.isChoice = true) : e.CaptureFree := by
  intro x hx a ha
  cases hx with
  | here =>
    obtain ⟨form, span⟩ := e
    cases form with
    | ifThen | unlessThen | caseOf | selector => cases ha
    | _ => cases he
  | inside hopen => cases he.symm.trans hopen

end Expr

/-! ## Regions -/

/-- A part of a set of expressions, outside and inside of choices, and what its members may do. The
parts of a choice are inside. -/
structure Region (N : NodeSet) where
  /-- what the region consists of, outside of choices (`false`) and inside (`true`) -/
  Mem : Bool → Expr → Prop
  /-- what may be done there -/
  Permits : Bool → Act → Prop
  node : ∀ {b e}, Mem b e → N.Mem e
  act : ∀ {b} {e : Expr}, Mem b e → ∀ a ∈ e.form.act?, Permits b a
  parts_mem : ∀ {b} {e part : Expr}, Mem b e → part ∈ e.parts → Mem (e.form.isChoice || b) part
  /-- a choice may set captures, since it tries patterns -/
  choice : Permits true .captures

namespace Region

variable {N : NodeSet}

/-- A set of expressions that may do anything anywhere. -/
def whole (N : NodeSet) : Region N where
  Mem _ e := N.Mem e
  Permits _ _ := True
  node he := he
  act _ _ _ := trivial
  parts_mem := N.parts_mem
  choice := trivial

/-- The expressions that have no effect where they stand: inside of a choice they may set
captures. -/
def effectFree : Region .all where
  Mem b e := (∀ x : Expr, x.OccursIn e → ∀ a ∈ x.form.act?, a = .captures) ∧
    (b = false → ∀ x : Expr, x.OccursOpenlyIn e → x.form.act? ≠ some .captures)
  Permits b a := b = true ∧ a = .captures
  node _ := trivial
  act {b e} he a ha := by
    obtain rfl := he.1 e .here a ha
    refine ⟨?_, rfl⟩
    cases b with
    | true => rfl
    | false => exact absurd ha (he.2 rfl e .here)
  parts_mem he hpart :=
    ⟨fun x hx => he.1 x (.inside hpart hx), fun hb x hx =>
      he.2 (Bool.or_eq_false_iff.1 hb).2 x (.inside (Bool.or_eq_false_iff.1 hb).1 hpart hx)⟩
  choice := ⟨rfl, rfl⟩

/-- The expressions that set no captures and call nothing where they stand: inside of a choice they
may do anything. -/
def captureFree : Region .all where
  Mem b e := b = false → e.CaptureFree
  Permits b a := b = false → a ≠ .captures ∧ a ≠ .calls
  node _ := trivial
  act {_ e} he a ha hb := he hb e .here a ha
  parts_mem he hpart hb x hx :=
    have ⟨hopen, houtside⟩ := Bool.or_eq_false_iff.1 hb
    he houtside x (.inside hopen hpart hx)
  choice hb := by cases hb

/-- The expressions that record nothing and call nothing. -/
def edgeFree : Region .all where
  Mem _ e := e.EdgeFree
  Permits _ a := a ≠ .relates ∧ a ≠ .calls
  node _ := trivial
  act he := he _ .here
  parts_mem he hpart := (Expr.edgeFree_iff.1 he).2 _ hpart
  choice := ⟨nofun, nofun⟩

/-- An expression has no effect if it does nothing that it may not do, and its parts have none. -/
theorem mem_effectFree {b : Bool} {e : Expr} : effectFree.Mem b e ↔
    (∀ a ∈ e.form.act?, b = true ∧ a = .captures) ∧
      ∀ part ∈ e.parts, effectFree.Mem (e.form.isChoice || b) part := by
  refine ⟨fun h => ⟨effectFree.act h, fun _ hpart => effectFree.parts_mem h hpart⟩, ?_⟩
  rintro ⟨hact, hparts⟩
  constructor
  · intro x hx a ha
    cases hx with
    | here => exact (hact a ha).2
    | inside hpart h => exact (hparts _ hpart).1 x h a ha
  · rintro rfl x hx ha
    cases hx with
    | here => cases (hact _ ha).1
    | inside hopen hpart h => exact (hparts _ hpart).2 (Bool.or_eq_false_iff.2 ⟨hopen, rfl⟩) x h ha

/-- The region has what a form is made of, and permits what it does. -/
structure HasForm (R : Region N) (b : Bool) (form : Form) : Prop where
  act : ∀ a ∈ form.act?, R.Permits b a
  parts : ∀ part ∈ form.parts, R.Mem (form.isChoice || b) part

theorem hasForm {R : Region N} {b : Bool} {form : Form} {span : Span} (h : R.Mem b ⟨form, span⟩) :
    R.HasForm b form :=
  ⟨R.act h, fun _ hpart => R.parts_mem h hpart⟩

end Region

end Manifest
