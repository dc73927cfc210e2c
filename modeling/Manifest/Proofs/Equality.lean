import Manifest.Proofs.Comparison
import Manifest.Proofs.Keys

/-!
# Equality of the language without floats

A float need not be equal to itself, and an integer equals the float it is rounded to, so that
equality of the language is no equivalence. Among values without floats it is one, and it is coarser
than identity (`Comparator.standard_equals_equivalence`): equality and identity meet in hashes,
whose keys have to be identical while their values need only be equal, and both are equivalences.
-/

namespace Manifest

namespace Value

variable {a b c : Value}

/-! ## Values without floats -/

/-- Whether a value is a float. -/
def isFloat : Value → Bool
  | .float _ => true
  | _ => false

/-- No float is in a value, at any depth. -/
abbrev FloatFree : Value → Prop :=
  All fun v => v.isFloat = false

/-- Whether a value is neither a text nor a collection. -/
def isPlain : Value → Bool
  | .string _ | .array _ | .hash _ => false
  | _ => true

/-- Among values without floats, those that are neither texts nor collections are equal to what is
identical to them. -/
theorem equals_eq_identical (h : a.isPlain = true) (ha : a.isFloat = false)
    (hb : b.isFloat = false) : a.equals b = a.identical b := by
  cases a <;> cases b <;>
    first | rfl | exact Bool.noConfusion h | exact Bool.noConfusion ha | exact Bool.noConfusion hb

theorem isPlain_of_identical (h : a.isPlain = true) (hab : a.identical b = true) :
    b.isPlain = true := by
  cases a <;> cases b <;> first | rfl | exact Bool.noConfusion h | exact Bool.noConfusion hab

/-! ## Identical values are equal -/

theorem equalsAll_of_identicalAll {xs ys : List Value}
    (h : ∀ x ∈ xs, ∀ y ∈ ys, x.identical y = true → x.equals y = true)
    (hsame : identicalAll xs ys = true) : equalsAll xs ys = true := by
  rw [identicalAll_iff] at hsame
  rw [equalsAll_iff]
  induction hsame with
  | nil => exact .nil
  | cons hhead _ ih =>
    exact .cons (h _ List.mem_cons_self _ List.mem_cons_self hhead) (ih fun x hx y hy =>
      h x (List.mem_cons_of_mem _ hx) y (List.mem_cons_of_mem _ hy))

/-- Identical values are equal, unless there are floats in them. -/
theorem equals_of_identical (ha : WellFormed a) (hb : WellFormed b) (hfa : FloatFree a)
    (hfb : FloatFree b) (h : a.identical b = true) : a.equals b = true := by
  induction ha generalizing b with
  | @ofParts a here parts ih =>
    cases a with
    | string s =>
      cases b with
      | string t => exact (equals_string s t).2 (congrArg _ (eq_of_beq h))
      | _ => cases h
    | array xs =>
      cases b with
      | array ys =>
        exact equalsAll_of_identicalAll (fun x hx y hy =>
          ih x hx (hb.parts y hy) (hfa.parts x hx) (hfb.parts y hy)) h
      | _ => cases h
    | hash xs =>
      cases b with
      | hash ys =>
        have hkeys := keysMatch (.ofParts here parts) hb fun e he =>
          identityLaw (parts _ (key_mem_parts he))
        obtain ⟨hlength, hcovers⟩ := (identical_hash hkeys.there).1 h
        refine (equals_hash hkeys.there).2 ⟨hlength, fun e he => ?_⟩
        obtain ⟨f, hf, hkey, hvalue⟩ := hcovers e he
        exact ⟨f, hf, hkey, ih _ (value_mem_parts he) (hb.parts _ (value_mem_parts hf))
          (hfa.parts _ (value_mem_parts he)) (hfb.parts _ (value_mem_parts hf)) hvalue⟩
      | _ => cases h
    | _ => rwa [equals_eq_identical rfl hfa.here hfb.here]

/-! ## An equivalence -/

/-- A value without floats is equal to itself. -/
theorem equals_self (ha : WellFormed a) (hfa : FloatFree a) : a.equals a = true :=
  equals_of_identical ha ha hfa hfa (identical_self ha)

theorem equalsAll_trans {xs ys zs : List Value}
    (h : ∀ x ∈ xs, ∀ y ∈ ys, ∀ z ∈ zs, x.equals y = true → y.equals z = true → x.equals z = true)
    (hxy : equalsAll xs ys = true) (hyz : equalsAll ys zs = true) : equalsAll xs zs = true := by
  rw [equalsAll_iff] at hxy hyz ⊢
  induction hxy generalizing zs with
  | nil => exact hyz
  | cons hhead _ ih =>
    cases hyz with
    | cons hhead' hrest' =>
      refine .cons (h _ List.mem_cons_self _ List.mem_cons_self _ List.mem_cons_self hhead hhead')
        (ih (fun x hx y hy z hz => h x ?_ y ?_ z ?_) hrest')
      · exact List.mem_cons_of_mem _ hx
      · exact List.mem_cons_of_mem _ hy
      · exact List.mem_cons_of_mem _ hz

theorem equals_hash_trans {xs ys zs : Entries} (hx : WellFormed (.hash xs))
    (hy : WellFormed (.hash ys)) (hz : WellFormed (.hash zs))
    (h : ∀ e ∈ xs, ∀ f ∈ ys, ∀ g ∈ zs, e.2.equals f.2 = true → f.2.equals g.2 = true →
      e.2.equals g.2 = true)
    (hxy : (Value.hash xs).equals (.hash ys) = true)
    (hyz : (Value.hash ys).equals (.hash zs) = true) :
    (Value.hash xs).equals (.hash zs) = true := by
  have hkeys : ∀ {us vs : Entries}, WellFormed (.hash us) → WellFormed (.hash vs) →
      FindsOne (fun k l => k.identical l = true) us vs := fun hu hv =>
    (keysMatch hu hv fun e he => identityLaw (hu.parts _ (key_mem_parts he))).there
  obtain ⟨hlength, hcovers⟩ := (equals_hash (hkeys hx hy)).1 hxy
  obtain ⟨hlength', hcovers'⟩ := (equals_hash (hkeys hy hz)).1 hyz
  refine (equals_hash (hkeys hx hz)).2 ⟨hlength.trans hlength', fun e he => ?_⟩
  obtain ⟨f, hf, hkey, hvalue⟩ := hcovers e he
  obtain ⟨g, hg, hkey', hvalue'⟩ := hcovers' f hf
  exact ⟨g, hg, identical_trans (hx.parts _ (key_mem_parts he)) (hy.parts _ (key_mem_parts hf))
    (hz.parts _ (key_mem_parts hg)) hkey hkey', h e he f hf g hg hvalue hvalue'⟩

/-- Values without floats that are equal to the same one are equal to each other. -/
theorem equals_trans (ha : WellFormed a) (hb : WellFormed b) (hc : WellFormed c)
    (hfa : FloatFree a) (hfb : FloatFree b) (hfc : FloatFree c) (hab : a.equals b = true)
    (hbc : b.equals c = true) : a.equals c = true := by
  induction ha generalizing b c with
  | @ofParts a here parts ih =>
    have ha : WellFormed a := .ofParts here parts
    cases hplain : a.isPlain with
    | true =>
      -- what is neither a text nor a collection is a matter of identity
      rw [equals_eq_identical hplain hfa.here hfb.here] at hab
      rw [equals_eq_identical (isPlain_of_identical hplain hab) hfb.here hfc.here] at hbc
      rw [equals_eq_identical hplain hfa.here hfc.here]
      exact identical_trans ha hb hc hab hbc
    | false =>
      cases a with
      | string s =>
        cases b with
        | string t =>
          cases c with
          | string u =>
            rw [equals_string] at hab hbc ⊢
            exact hab.trans hbc
          | _ => cases hbc
        | _ => cases hab
      | array xs =>
        cases b with
        | array ys =>
          cases c with
          | array zs =>
            exact equalsAll_trans (fun x hx y hy z hz => ih x hx (hb.parts y hy) (hc.parts z hz)
              (hfa.parts x hx) (hfb.parts y hy) (hfc.parts z hz)) hab hbc
          | _ => cases hbc
        | _ => cases hab
      | hash xs =>
        cases b with
        | hash ys =>
          cases c with
          | hash zs =>
            refine equals_hash_trans ha hb hc (fun e he f hf g hg => ?_) hab hbc
            exact ih _ (value_mem_parts he) (hb.parts _ (value_mem_parts hf))
              (hc.parts _ (value_mem_parts hg)) (hfa.parts _ (value_mem_parts he))
              (hfb.parts _ (value_mem_parts hf)) (hfc.parts _ (value_mem_parts hg))
          | _ => cases hbc
        | _ => cases hab
      | _ => cases hplain

end Value

/-- **Equality of the language is an equivalence** of well-formed values without floats, and
identical ones among them are equal. -/
theorem Comparator.standard_equals_equivalence :
    Equivalence (fun a b : { v : Value // v.WellFormed ∧ v.FloatFree } =>
        standard.equals a.1 b.1 = true) ∧
      ∀ a b : { v : Value // v.WellFormed ∧ v.FloatFree },
        a.1.identical b.1 = true → standard.equals a.1 b.1 = true := by
  refine ⟨⟨fun ⟨a, ha, hfa⟩ => Value.equals_self ha hfa, fun {a b} h => ?_,
    fun {a b c} hab hbc => ?_⟩,
    fun ⟨a, ha, hfa⟩ ⟨b, hb, hfb⟩ => Value.equals_of_identical ha hb hfa hfb⟩
  · exact (Value.equals_comm b.2.1 a.2.1).trans h
  · exact Value.equals_trans a.2.1 b.2.1 c.2.1 a.2.2 b.2.2 c.2.2 hab hbc

/-- The hash `{"mode" => [word]}`. -/
def switched (word : String) : Value :=
  .hash [(.string "mode", .array [.string word])]

/-- Three spellings of a word in a hash: all of them are equal, since the first one equals the other
two. -/
theorem Comparator.standard_equals_equivalence_spellings :
    (∀ word, (switched word).WellFormed ∧ (switched word).FloatFree) ∧
      standard.equals (switched "on") (switched "On") = true ∧
      standard.equals (switched "on") (switched "ON") = true ∧
      standard.equals (switched "On") (switched "ON") = true ∧
      standard.equals (switched "On") (switched "On") = true := by
  have hvalue : ∀ word, (switched word).WellFormed ∧ (switched word).FloatFree := fun word =>
    ⟨Value.all_hash.2 ⟨List.pairwise_singleton _ _, List.forall_mem_singleton.2
        ⟨Value.all_of_isAtom rfl trivial, Value.all_array.2
          ⟨trivial, List.forall_mem_singleton.2 (Value.all_of_isAtom rfl trivial)⟩⟩⟩,
      Value.all_hash.2 ⟨rfl, List.forall_mem_singleton.2
        ⟨Value.all_of_isAtom rfl rfl, Value.all_array.2
          ⟨rfl, List.forall_mem_singleton.2 (Value.all_of_isAtom rfl rfl)⟩⟩⟩⟩
  obtain ⟨hequivalence, hcoarser⟩ := standard_equals_equivalence
  have hfirst : standard.equals (switched "on") (switched "On") = true := rfl
  have hsecond : standard.equals (switched "on") (switched "ON") = true := rfl
  refine ⟨hvalue, hfirst, hsecond, ?_, ?_⟩
  · exact hequivalence.trans (x := ⟨_, hvalue _⟩) (y := ⟨_, hvalue _⟩) (z := ⟨_, hvalue _⟩)
      (hequivalence.symm (x := ⟨_, hvalue _⟩) (y := ⟨_, hvalue _⟩) hfirst) hsecond
  · exact hcoarser ⟨_, hvalue _⟩ ⟨_, hvalue _⟩ rfl

end Manifest
