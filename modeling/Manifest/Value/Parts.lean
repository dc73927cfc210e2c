import Manifest.Value

/-!
# Parts of values

Values are made of values: the elements of an array, the keys and values of a hash, what a type is
specialised to, and what a closure has captured. Here these are the *parts* of a value, whatever
its kind, so that a property of values all the way down is one definition and is proved by one
induction.

* `Value.parts` — the parts.
* `Value.All` — a property that a value has together with its parts, their parts, and so on.
* `Value.induction` — what follows for a value from its parts holds of all values.
-/

namespace Manifest

namespace Value

/-- The values that a value is made of. -/
def parts : Value → List Value
  | .array items => items
  | .hash entries => entries.map (·.1) ++ entries.map (·.2)
  | .type t => t.params
  | .closure c => c.captures.map (·.2)
  | _ => []

/-- Whether a value is neither made of values nor a closure. -/
def isAtom : Value → Bool
  | .array _ | .hash _ | .type _ | .closure _ => false
  | _ => true

theorem parts_of_isAtom {v : Value} (h : v.isAtom = true) : v.parts = [] := by
  cases v <;> first | rfl | cases h

theorem key_mem_parts {entries : List (Value × Value)} {e : Value × Value} (h : e ∈ entries) :
    e.1 ∈ (Value.hash entries).parts :=
  List.mem_append_left _ (List.mem_map_of_mem h)

theorem value_mem_parts {entries : List (Value × Value)} {e : Value × Value} (h : e ∈ entries) :
    e.2 ∈ (Value.hash entries).parts :=
  List.mem_append_right _ (List.mem_map_of_mem h)

theorem capture_mem_parts {c : Closure} {b : String × Value} (h : b ∈ c.captures) :
    b.2 ∈ (Value.closure c).parts :=
  List.mem_map_of_mem h

/-- Parts are smaller. -/
theorem sizeOf_part {v w : Value} (h : w ∈ v.parts) : sizeOf w < sizeOf v := by
  cases v with
  | array items =>
    have := List.sizeOf_lt_of_mem (show w ∈ items from h)
    simp only [Value.array.sizeOf_spec]
    omega
  | hash entries =>
    have hentry : ∃ e ∈ entries, w = e.1 ∨ w = e.2 := by
      rcases List.mem_append.1 h with h | h
      · obtain ⟨e, he, rfl⟩ := List.mem_map.1 h
        exact ⟨e, he, .inl rfl⟩
      · obtain ⟨e, he, rfl⟩ := List.mem_map.1 h
        exact ⟨e, he, .inr rfl⟩
    obtain ⟨⟨k, x⟩, he, hw⟩ := hentry
    have := List.sizeOf_lt_of_mem he
    simp only [Prod.mk.sizeOf_spec] at this
    simp only [Value.hash.sizeOf_spec]
    rcases hw with rfl | rfl <;> omega
  | type t =>
    obtain ⟨name, params⟩ := t
    have := List.sizeOf_lt_of_mem (show w ∈ params from h)
    simp only [Value.type.sizeOf_spec, TypeRef.mk.sizeOf_spec]
    omega
  | closure c =>
    obtain ⟨lambda, captures⟩ := c
    obtain ⟨⟨name, x⟩, hb, rfl⟩ := List.mem_map.1 h
    have := List.sizeOf_lt_of_mem hb
    simp only [Prod.mk.sizeOf_spec] at this
    simp only [Value.closure.sizeOf_spec, Closure.mk.sizeOf_spec]
    omega
  | _ => exact nomatch h

/-- What holds of a value as soon as it holds of its parts holds of every value. -/
@[elab_as_elim]
theorem induction {motive : Value → Prop}
    (ofParts : ∀ v, (∀ w ∈ v.parts, motive w) → motive v) (v : Value) : motive v :=
  ofParts v fun w _ => induction ofParts w
termination_by sizeOf v
decreasing_by exact sizeOf_part (by assumption)

/-- A property of a value and of all that it is made of. -/
inductive All (p : Value → Prop) : Value → Prop where
  | ofParts {v : Value} (here : p v) (parts : ∀ w ∈ v.parts, All p w) : All p v

variable {p q : Value → Prop} {v : Value}

namespace All

theorem here (h : All p v) : p v := by
  cases h
  assumption

theorem parts (h : All p v) : ∀ w ∈ v.parts, All p w := by
  cases h
  assumption

theorem mono (hpq : ∀ v, p v → q v) (h : All p v) : All q v := by
  induction h with
  | ofParts here _ ih => exact .ofParts (hpq _ here) ih

end All

theorem all_of_forall (h : ∀ v, p v) (v : Value) : All p v := by
  induction v using Value.induction with
  | ofParts v ih => exact .ofParts (h v) ih

theorem all_iff : All p v ↔ p v ∧ ∀ w ∈ v.parts, All p w :=
  ⟨fun h => ⟨h.here, h.parts⟩, fun ⟨here, parts⟩ => .ofParts here parts⟩

/-- An atom has a property all the way down if it has it. -/
theorem all_of_isAtom (h : v.isAtom = true) (here : p v) : All p v :=
  .ofParts here fun w hw => by
    rw [parts_of_isAtom h] at hw
    cases hw

theorem all_array {items : List Value} :
    All p (.array items) ↔ p (.array items) ∧ ∀ v ∈ items, All p v :=
  all_iff

theorem all_hash {entries : List (Value × Value)} :
    All p (.hash entries) ↔ p (.hash entries) ∧ ∀ e ∈ entries, All p e.1 ∧ All p e.2 := by
  refine all_iff.trans (and_congr_right fun _ => ⟨fun h e he => ?_, fun h w hw => ?_⟩)
  · exact ⟨h _ (key_mem_parts he), h _ (value_mem_parts he)⟩
  · rcases List.mem_append.1 hw with hw | hw
    · obtain ⟨e, he, rfl⟩ := List.mem_map.1 hw
      exact (h e he).1
    · obtain ⟨e, he, rfl⟩ := List.mem_map.1 hw
      exact (h e he).2

theorem all_type {t : TypeRef} : All p (.type t) ↔ p (.type t) ∧ ∀ v ∈ t.params, All p v :=
  all_iff

theorem all_closure {c : Closure} :
    All p (.closure c) ↔ p (.closure c) ∧ ∀ b ∈ c.captures, All p b.2 := by
  refine all_iff.trans (and_congr_right fun _ => ⟨fun h b hb => h _ (capture_mem_parts hb), ?_⟩)
  intro h w hw
  obtain ⟨b, hb, rfl⟩ := List.mem_map.1 hw
  exact h b hb

end Value

end Manifest
