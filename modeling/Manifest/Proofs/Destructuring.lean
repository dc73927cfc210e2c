import Manifest.Proofs.Reserved

/-!
# What names stand for after an assignment

Binding a name changes what that name stands for and nothing else, except that the same name with
two colons in front may stand for the same variable. So after an assignment each name stands for the
last part of the value that it has got, and every other name for what it stood for before.

* `Environment.find?` — what a name stands for in a stack of layers, the global variables being the
  last one.
* `Environment.get?_set_self`, `Environment.get?_set_of_ne` — looking up after one binding.
* `Environment.get?_setAll_last`, `Environment.get?_setAll_of_ne` — looking up after many.
* `Evaluator.assignTarget_distributes` — looking up after an assignment.
-/

namespace Manifest

/-! ## Names with colons in front -/

/-- A name that is marked as global is the name of a global variable behind two colons. -/
theorem eq_of_globalName?_eq_some {name g : String} (h : globalName? name = some g) :
    name = "::" ++ g := by
  rw [globalName?] at h
  split at h
  · next rest hrest =>
    cases h
    exact String.toList_inj.1 (by simp [hrest])
  · cases h

/-- So a name that may be bound is not marked. -/
theorem globalName?_of_bindable {name : String} (h : isBindable name = true) :
    globalName? name = none := by
  rw [globalName?]
  split
  · next rest hrest =>
    have hplain := (isBindable_iff.1 h).1
    rw [isQualifiedName, hrest] at hplain
    cases hplain
  · rfl

/-- And no name may be bound that is. -/
theorem ne_of_bindable {name : String} (h : isBindable name = true) (g : String) :
    name ≠ "::" ++ g := by
  rintro rfl
  have hcolons : isQualifiedName ("::" ++ g) = true := by
    rw [isQualifiedName, String.toList_append]
    rfl
  cases hcolons.symm.trans (isBindable_iff.1 h).1

namespace Environment

variable {env : Environment} {name other : String} {value : Value}

/-! ## Looking up what has been bound -/

/-- What a name stands for in the innermost variables of a stack that have it. -/
def find? (layers : List Layer) (name : String) : Option Value :=
  layers.findSome? fun l => l.vars?.bind (NameMap.get? · name)

theorem find?_append (above below : List Layer) (name : String) :
    find? (above ++ below) name = (find? above name).or (find? below name) :=
  List.findSome?_append

theorem find?_locals (vars : Bindings) (name : String) :
    find? [.locals vars] name = NameMap.get? vars name := by
  rw [find?, List.findSome?_singleton]
  rfl

/-- A name that is bound in the innermost variables is found there, and all others are found where
they were. -/
theorem find?_bindLocal? {layers bound : List Layer}
    (h : bindLocal? name value layers = some bound) (other : String) :
    find? bound other = if other = name then some value else find? layers other := by
  induction layers generalizing bound with
  | nil => cases h
  | cons l rest ih =>
    cases l with
    | locals vars =>
      cases h
      rw [← List.singleton_append, find?_append, find?_locals, NameMap.get?_insert,
        ← List.singleton_append, find?_append, find?_locals]
      split <;> rfl
    | captures m =>
      obtain ⟨below, hbelow, rfl⟩ := Option.map_eq_some_iff.1 h
      have hfound := ih hbelow
      exact hfound
    | fence =>
      obtain ⟨below, hbelow, rfl⟩ := Option.map_eq_some_iff.1 h
      have hfound := ih hbelow
      exact hfound

/-- A name that is neither a number nor marked as global is looked up in the variables of the stack,
the global ones last. -/
theorem get?_eq_find? (hnumber : isNumericName name = false) (hglobal : globalName? name = none)
    (env : Environment) : env.get? name = find? env.stack name := by
  rw [get?_eq_local?_or hnumber hglobal, stack, find?_append, find?_locals]
  rfl

/-- A name that has been bound stands for what it was bound to. -/
theorem get?_set_self (h : isBindable name = true) (env : Environment) (value : Value) :
    (env.set name value).get? name = some value := by
  rw [get?_eq_find? (isBindable_iff.1 h).2 (globalName?_of_bindable h),
    find?_bindLocal? (env.bindLocal?_stack name value), if_pos rfl]

/-- Binding a name leaves the global variables of other names alone. -/
theorem get?_globals_set {g : String} (h : g ≠ name) (env : Environment) (value : Value) :
    (env.set name value).globals.get? g = env.globals.get? g := by
  rw [set]
  split
  · rfl
  · rw [NameMap.get?_insert, if_neg h]

/-- All other names stand for what they stood for, but for the name with two colons in front. -/
theorem get?_set_of_ne (hne : other ≠ name) (hmarked : other ≠ "::" ++ name) (env : Environment)
    (value : Value) : (env.set name value).get? other = env.get? other := by
  cases hnumber : isNumericName other with
  | true => exact get?_of_rebinds (env.rebinds_set name value) hnumber
  | false =>
    cases hglobal : globalName? other with
    | none =>
      rw [get?_eq_find? hnumber hglobal, get?_eq_find? hnumber hglobal,
        find?_bindLocal? (env.bindLocal?_stack name value), if_neg hne]
    | some g =>
      have hg : g ≠ name := by
        rintro rfl
        exact hmarked (eq_of_globalName?_eq_some hglobal)
      rw [get?, get?, hnumber, hglobal]
      exact get?_globals_set hg env value

/-! ## Looking up what bindings have bound -/

/-- Bindings leave all names alone that are none of theirs. -/
theorem get?_setAll_of_ne {bindings : List (String × Value)}
    (h : ∀ b ∈ bindings, other ≠ b.1 ∧ other ≠ "::" ++ b.1) (env : Environment) :
    (env.setAll bindings).get? other = env.get? other := by
  induction bindings generalizing env with
  | nil => rfl
  | cons b rest ih =>
    obtain ⟨⟨hne, hmarked⟩, hrest⟩ := List.forall_mem_cons.1 h
    rw [setAll_cons, ih hrest, get?_set_of_ne hne hmarked]

/-- A name stands for what it was bound to last. -/
theorem get?_setAll_last {after : List (String × Value)} (hname : isBindable name = true)
    (hlast : ∀ b ∈ after, b.1 ≠ name) (before : List (String × Value)) (env : Environment) :
    (env.setAll (before ++ (name, value) :: after)).get? name = some value := by
  have hsplit : env.setAll (before ++ (name, value) :: after) =
      ((env.setAll before).set name value).setAll after :=
    List.foldl_append
  rw [hsplit, get?_setAll_of_ne fun b hb => ⟨(hlast b hb).symm, ne_of_bindable hname b.1⟩,
    get?_set_self hname]

end Environment

namespace Target

theorem names_variable_iff {own name : String} : (Target.variable own).Names name ↔ name = own := by
  refine ⟨fun h => ?_, fun h => h ▸ .own own⟩
  cases h
  rfl

theorem names_list_iff {targets : List Target} {name : String} :
    (Target.list targets).Names name ↔ ∃ target ∈ targets, target.Names name := by
  refine ⟨fun h => ?_, fun ⟨_, hmem, hnames⟩ => .member hmem hnames⟩
  cases h with
  | member hmem hnames => exact ⟨_, hmem, hnames⟩

mutual

/-- The names that are bound occur in the target. -/
theorem names_of_mem_bindings : ∀ (target : Target) {value : Value} {b : String × Value},
    b ∈ target.bindings value → target.Names b.1
  | .variable name, value, b, h => by
    rw [List.mem_singleton.1 h]
    exact .own name
  | .list targets, value, b, h => by
    obtain ⟨target, hmem, hnames⟩ := exists_of_mem_memberBindings targets h
    exact .member hmem hnames
termination_by structural target => target

theorem exists_of_mem_memberBindings : ∀ (targets : List Target) {value : Value} {i : Nat}
    {b : String × Value}, b ∈ memberBindings targets value i →
      ∃ target ∈ targets, target.Names b.1
  | [], _, _, _, h => nomatch h
  | target :: targets, value, i, b, h => by
    rw [memberBindings, List.mem_append] at h
    rcases h with hfirst | hrest
    · split at hfirst
      · next part hpart =>
        exact ⟨target, List.mem_cons_self, names_of_mem_bindings target hfirst⟩
      · cases hfirst
    · obtain ⟨member, hmem, hnames⟩ := exists_of_mem_memberBindings targets hrest
      exact ⟨member, List.mem_cons_of_mem _ hmem, hnames⟩
termination_by structural targets => targets

end

end Target

namespace Evaluator

/-- **Destructuring**: a target whose names may be bound takes every value, which is the result.
Afterwards each name that has got a part of it stands for the last part that it got. All other names
stand for what they stood for, except that such a name with two colons in front may not. -/
theorem assignTarget_distributes {target : Target}
    (hnames : ∀ name, target.Names name → isBindable name = true) (value : Value) (s : State) :
    ∃ env, assignTarget target value s = some (.ok value, { s with env := env }) ∧
      (∀ before name part after, target.bindings value = before ++ (name, part) :: after →
        (∀ b ∈ after, b.1 ≠ name) → env.get? name = some part) ∧
      ∀ name, (∀ b ∈ target.bindings value, name ≠ b.1 ∧ name ≠ "::" ++ b.1) →
        env.get? name = s.env.get? name := by
  have hall : ∀ b ∈ target.bindings value, isBindable b.1 = true :=
    fun b hb => hnames b.1 (target.names_of_mem_bindings hb)
  refine ⟨s.env.setAll (target.bindings value), assignTarget_eq_ok.2 ⟨hall, rfl, rfl⟩, ?_, ?_⟩
  · intro before name part after hsplit hlast
    have hname : isBindable name = true :=
      hall (name, part) (hsplit ▸ List.mem_append_right _ List.mem_cons_self)
    rw [hsplit]
    exact Environment.get?_setAll_last hname hlast before s.env
  · exact fun name hother => Environment.get?_setAll_of_ne hother s.env

/-- The target `[$a, [$b, $a]]`. -/
def twiceTarget : Target :=
  .list [.variable "a", .list [.variable "b", .variable "a"]]

/-- The value `[1, {b => 2}]`. -/
def countAndHash : Value :=
  .array [.integer 1, .hash [(.string "b", .integer 2)]]

/-- Of the two parts that `$a` gets of `[1, {b => 2}]` the last one stays: the hash has nothing
under that name. -/
theorem assignTarget_distributes_twice : ∃ env,
    assignTarget twiceTarget countAndHash (.initial (.ofGlobals [("c", .integer 3)])) =
        some (.ok countAndHash, .initial env) ∧
      env.get? "a" = some .absent ∧ env.get? "b" = some (.integer 2) ∧
      env.get? "c" = some (.integer 3) := by
  have hnames : ∀ name, twiceTarget.Names name → isBindable name = true := by
    intro name h
    simp only [twiceTarget, Target.names_list_iff, Target.names_variable_iff, List.mem_cons,
      List.not_mem_nil, or_false, exists_eq_or_imp, exists_eq_left] at h
    rcases h with rfl | rfl | rfl <;> rfl
  obtain ⟨env, hrun, hbound, hother⟩ := assignTarget_distributes hnames countAndHash
    (.initial (.ofGlobals [("c", .integer 3)]))
  refine ⟨env, hrun, ?_, ?_, ?_⟩
  · exact hbound [("a", .integer 1), ("b", .integer 2)] "a" .absent [] rfl nofun
  · exact hbound [("a", .integer 1)] "b" (.integer 2) [("a", .absent)] rfl (by decide)
  · exact hother "c" (by decide)

end Evaluator

end Manifest
