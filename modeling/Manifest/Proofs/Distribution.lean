import Manifest.Target

/-!
# What an assignment binds

A target distributes a value over its names. The *bindings* of a target and a value are the names
of the target from left to right, each with the part of the value that falls to it. An assignment
makes these bindings one after the other, until it comes to a name that may not be bound.

* `Target.part?`, `Target.bindings` — the distribution, stated without any environment.
* `Environment.assignAll`, `Environment.setAll` — making bindings, with and without a look at the
  names.
* `Target.assign_eq_assignAll` — assigning to a target is making its bindings.
* `Environment.assignAll_eq` — what becomes of it: everything before the first name that may not
  be bound, and the error that this name causes.
-/

namespace Manifest

/-! ## Names that may be bound -/

/-- Whether a name may be bound: it belongs neither to a namespace nor to a captured group. -/
def isBindable (name : String) : Bool :=
  !isQualifiedName name && !isNumericName name

theorem isBindable_iff {name : String} :
    isBindable name = true ↔ isQualifiedName name = false ∧ isNumericName name = false := by
  rw [isBindable, Bool.and_eq_true, Bool.not_eq_true', Bool.not_eq_true']

/-- Why a name may not be bound. -/
def refusal (name : String) : Cause :=
  if isQualifiedName name then .crossScopeAssignment name else .illegalNumericAssignment name

namespace Environment

variable {env : Environment} {name : String}

theorem assign_of_bindable (h : isBindable name = true) (value : Value) :
    env.assign name value = (.ok (), env.set name value) := by
  obtain ⟨hqualified, hnumeric⟩ := isBindable_iff.1 h
  rw [assign, hqualified, hnumeric]
  rfl

theorem assign_of_not_bindable (h : isBindable name = false) (value : Value) :
    env.assign name value = (fault (refusal name), env) := by
  rw [assign, refusal]
  split
  · rfl
  · next hqualified =>
    have hnumeric : isNumericName name = true := by
      simpa [isBindable, hqualified] using h
    rw [if_pos hnumeric]

/-! ## Making bindings -/

/-- Binds names one after the other, until one may not be bound. -/
def assignAll : List (String × Value) → Environment → BindOutcome
  | [], env => (.ok (), env)
  | (name, value) :: rest, env => (env.assign name value).andThen (assignAll rest)

/-- Binds names one after the other, whatever they are. -/
def setAll (env : Environment) (bindings : List (String × Value)) : Environment :=
  bindings.foldl (fun env b => env.set b.1 b.2) env

@[simp]
theorem setAll_nil (env : Environment) : env.setAll [] = env :=
  rfl

theorem setAll_cons (env : Environment) (name : String) (value : Value)
    (rest : List (String × Value)) :
    env.setAll ((name, value) :: rest) = (env.set name value).setAll rest :=
  rfl

/-- One binding is made like a single assignment. -/
theorem assignAll_singleton (env : Environment) (name : String) (value : Value) :
    env.assignAll [(name, value)] = env.assign name value := by
  rw [assignAll]
  rcases env.assign name value with ⟨_ | _, after⟩ <;> rfl

/-- Bindings after others are made only if the others could be made. -/
theorem assignAll_append (first second : List (String × Value)) (env : Environment) :
    env.assignAll (first ++ second) = (env.assignAll first).andThen (assignAll second) := by
  induction first generalizing env with
  | nil => rfl
  | cons b rest ih =>
    obtain ⟨name, value⟩ := b
    rw [List.cons_append, assignAll, assignAll]
    rcases env.assign name value with ⟨_ | _, after⟩
    · rfl
    · exact ih after

/-! ## What becomes of bindings -/

/-- The bindings before the first one whose name may not be bound. -/
def bindablePart (bindings : List (String × Value)) : List (String × Value) :=
  bindings.takeWhile fun b => isBindable b.1

/-- The first name that may not be bound, if there is one. -/
def firstRefused? (bindings : List (String × Value)) : Option String :=
  (bindings.find? fun b => !isBindable b.1).map Prod.fst

theorem bindablePart_cons (b : String × Value) (rest : List (String × Value)) :
    bindablePart (b :: rest) = if isBindable b.1 then b :: bindablePart rest else [] :=
  List.takeWhile_cons

theorem firstRefused?_cons (b : String × Value) (rest : List (String × Value)) :
    firstRefused? (b :: rest) = if isBindable b.1 then firstRefused? rest else some b.1 := by
  rw [firstRefused?, List.find?_cons]
  cases isBindable b.1 <;> rfl

/-- All names may be bound if there is no first one that may not. -/
theorem firstRefused?_eq_none {bindings : List (String × Value)} :
    firstRefused? bindings = none ↔ ∀ b ∈ bindings, isBindable b.1 = true := by
  simp [firstRefused?]

/-- A first name that may not be bound is one of the names. -/
theorem exists_of_firstRefused? {bindings : List (String × Value)} {name : String}
    (h : firstRefused? bindings = some name) : ∃ b ∈ bindings, isBindable b.1 = false := by
  obtain ⟨b, hfind, -⟩ := Option.map_eq_some_iff.1 h
  have hb := List.find?_some hfind
  rw [Bool.not_eq_true'] at hb
  exact ⟨b, List.mem_of_find?_eq_some hfind, hb⟩

/-- Where all names may be bound, nothing is cut off. -/
theorem bindablePart_eq_self {bindings : List (String × Value)}
    (h : ∀ b ∈ bindings, isBindable b.1 = true) : bindablePart bindings = bindings := by
  induction bindings with
  | nil => rfl
  | cons b rest ih =>
    rw [bindablePart_cons, if_pos (h b List.mem_cons_self),
      ih fun b hb => h b (List.mem_cons_of_mem _ hb)]

/-- Exactly the bindings before the first name that may not be bound are made, and that name
decides the error. -/
theorem assignAll_eq (bindings : List (String × Value)) (env : Environment) :
    env.assignAll bindings =
      (match firstRefused? bindings with
        | none => .ok ()
        | some name => fault (refusal name),
      env.setAll (bindablePart bindings)) := by
  induction bindings generalizing env with
  | nil => rfl
  | cons b rest ih =>
    obtain ⟨name, value⟩ := b
    rw [assignAll, firstRefused?_cons, bindablePart_cons]
    cases hname : isBindable name with
    | true =>
      rw [assign_of_bindable hname, if_pos rfl, if_pos rfl, setAll_cons]
      exact ih (env.set name value)
    | false =>
      rw [assign_of_not_bindable hname]
      rfl

end Environment

/-! ## The distribution of a value -/

namespace Target

/-- What the member of a list of targets takes of a value, given the place of the member: an element
of an array, or of a hash what is under its name, or everything. A member behind the end of an array
takes nothing. -/
def part? : Target → Value → Nat → Option Value
  | _, .array items, i => items[i]?
  | .variable name, .hash entries, _ => some ((Entries.get? entries (.string name)).getD .absent)
  | _, value, _ => some value

mutual

/-- The names of a target, each with its part of a value. -/
def bindings : Target → Value → List (String × Value)
  | .variable name, value => [(name, value)]
  | .list targets, value => memberBindings targets value 0
termination_by structural t => t

/-- The names of the members of a list, the first of which is at a place. -/
def memberBindings : List Target → Value → Nat → List (String × Value)
  | [], _, _ => []
  | target :: targets, value, i =>
    (match target.part? value i with
      | some part => target.bindings part
      | none => []) ++ memberBindings targets value (i + 1)
termination_by structural ts => ts

end

theorem memberBindings_of_part {target : Target} {value part : Value} {i : Nat}
    (h : target.part? value i = some part) (targets : List Target) :
    memberBindings (target :: targets) value i =
      target.bindings part ++ memberBindings targets value (i + 1) := by
  rw [memberBindings, h]

/-- Members behind the end of an array take nothing. -/
theorem memberBindings_array_of_le {items : List Value} {i : Nat} (h : items.length ≤ i)
    (targets : List Target) : memberBindings targets (.array items) i = [] := by
  induction targets generalizing i with
  | nil => rfl
  | cons target targets ih =>
    have hpart : target.part? (.array items) i = none := by
      cases target <;> exact List.getElem?_eq_none h
    rw [memberBindings, hpart, ih (by omega)]
    rfl

/-! ## Assigning is making the bindings -/

/-- Assigning to a member and then to the others. -/
theorem andThen_assignAll {first : BindOutcome} {next : Environment → BindOutcome}
    {env : Environment} {bound rest : List (String × Value)} (hfirst : first = env.assignAll bound)
    (hnext : ∀ after : Environment, next after = after.assignAll rest) :
    first.andThen next = env.assignAll (bound ++ rest) := by
  rw [Environment.assignAll_append, hfirst, funext hnext]

mutual

/-- Assigning to a target is making its bindings. -/
theorem assign_eq_assignAll : ∀ (target : Target) (value : Value) (env : Environment),
    target.assign value env = env.assignAll (target.bindings value)
  | .variable name, value, env => (env.assignAll_singleton name value).symm
  | .list targets, value, env => by
    cases value with
    | array items => exact assignItems_eq targets items 0 env
    | hash entries => exact assignFields_eq targets entries 0 env
    | _ => exact assignEach_eq targets _ (fun target _ => by cases target <;> rfl) 0 env
termination_by structural t => t

theorem assignItems_eq : ∀ (targets : List Target) (items : List Value) (i : Nat)
    (env : Environment), Target.assignItems targets (items.drop i) env =
      env.assignAll (memberBindings targets (.array items) i)
  | [], _, _, _ => rfl
  | target :: targets, items, i, env => by
    rcases Nat.lt_or_ge i items.length with hi | hi
    · have hpart : target.part? (.array items) i = some items[i] := by
        cases target <;> exact List.getElem?_eq_getElem hi
      rw [List.drop_eq_getElem_cons hi, memberBindings_of_part hpart]
      exact andThen_assignAll (assign_eq_assignAll target items[i] env)
        (assignItems_eq targets items (i + 1))
    · rw [List.drop_eq_nil_of_le hi, memberBindings_array_of_le hi]
      rfl
termination_by structural ts => ts

theorem assignFields_eq : ∀ (targets : List Target) (entries : Entries) (i : Nat)
    (env : Environment), Target.assignFields targets entries env =
      env.assignAll (memberBindings targets (.hash entries) i)
  | [], _, _, _ => rfl
  | .variable name :: targets, entries, i, env =>
    andThen_assignAll (env.assignAll_singleton name _).symm
      (assignFields_eq targets entries (i + 1))
  | .list inner :: targets, entries, i, env =>
    andThen_assignAll (assign_eq_assignAll (.list inner) (.hash entries) env)
      (assignFields_eq targets entries (i + 1))
termination_by structural ts => ts

theorem assignEach_eq : ∀ (targets : List Target) (value : Value)
    (_ : ∀ target i, part? target value i = some value) (i : Nat) (env : Environment),
    Target.assignEach targets value env = env.assignAll (memberBindings targets value i)
  | [], _, _, _, _ => rfl
  | target :: targets, value, hpart, i, env => by
    rw [memberBindings_of_part (hpart target i)]
    exact andThen_assignAll (assign_eq_assignAll target value env)
      (assignEach_eq targets value hpart (i + 1))
termination_by structural ts => ts

end

end Target

end Manifest
