import Manifest.Environment
import Manifest.Expr.Parts
import Manifest.Proofs.Identity
import Manifest.Proofs.Layers
import Manifest.Target

/-!
# Closures and where they are

* `Value.ClosuresIn` — all closures in a value, however deep, are of a kind.
* `Carrier` — data that have values in them: lists, bindings, entries, environments, and so on.
* `NodeSet.Owns` — the lambdas of all closures in a datum have their parts in a set of expressions,
  and the keys of all hashes are distinct, if that is what is known of the values of the set.

Looking names up in an environment finds no values but its own, and changing it brings no others
along but those that are bound.
-/

namespace Manifest

/-! ## Closures in values -/

namespace Value

variable {p : Closure → Prop} {v : Value}

/-- All closures in a value are of a kind. -/
def ClosuresIn (p : Closure → Prop) (v : Value) : Prop :=
  v.All fun part => ∀ c, part = .closure c → p c

theorem ne_closure_of_isAtom (h : v.isAtom = true) (c : Closure) : v ≠ .closure c := by
  rintro rfl
  cases h

/-- There is no closure in an atom. -/
theorem closuresIn_of_isAtom (h : v.isAtom = true) : v.ClosuresIn p :=
  all_of_isAtom h fun c hc => absurd hc (ne_closure_of_isAtom h c)

end Value

/-! ## Data with values in them -/

/-- Data that have values in them. -/
class Carrier (α : Type) where
  /-- all values in a datum have a property -/
  All : (Value → Prop) → α → Prop
  all_of_forall : ∀ {p : Value → Prop}, (∀ v, p v) → ∀ a, All p a

namespace Carrier

instance : Carrier Value :=
  ⟨fun p v => p v, fun h => h⟩

instance : Carrier Unit :=
  ⟨fun _ _ => True, fun _ _ => trivial⟩

instance : Carrier Bool :=
  ⟨fun _ _ => True, fun _ _ => trivial⟩

instance : Carrier Nat :=
  ⟨fun _ _ => True, fun _ _ => trivial⟩

instance : Carrier String :=
  ⟨fun _ _ => True, fun _ _ => trivial⟩

instance : Carrier Char :=
  ⟨fun _ _ => True, fun _ _ => trivial⟩

instance : Carrier Regex :=
  ⟨fun _ _ => True, fun _ _ => trivial⟩

instance : Carrier Target :=
  ⟨fun _ _ => True, fun _ _ => trivial⟩

variable {α β : Type} [Carrier α] [Carrier β]

instance : Carrier (Option α) :=
  ⟨fun p o => ∀ a ∈ o, All p a, fun h _ a _ => all_of_forall h a⟩

instance : Carrier (List α) :=
  ⟨fun p as => ∀ a ∈ as, All p a, fun h _ a _ => all_of_forall h a⟩

instance : Carrier (α × β) :=
  ⟨fun p x => All p x.1 ∧ All p x.2, fun h x => ⟨all_of_forall h x.1, all_of_forall h x.2⟩⟩

end Carrier

/-- A value by itself, apart from what it is made of: a closure is made of a lambda whose parts are
in the set, and keys are distinct if they are known to be. -/
structure NodeSet.Admits (N : NodeSet) (v : Value) : Prop where
  lambda : ∀ c, v = .closure c → N.HasLambda c.lambda
  distinct : N.DistinctKeys → v.HasDistinctKeys

/-- The lambdas of all closures in a datum have their parts in the set, and the keys of all its
values are distinct if they are known to be. -/
abbrev NodeSet.Owns (N : NodeSet) {α : Type} [Carrier α] (a : α) : Prop :=
  Carrier.All (Value.All N.Admits) a

/-- All closures are made of some expressions. -/
theorem NodeSet.owns_all {α : Type} [Carrier α] (a : α) : NodeSet.all.Owns a :=
  Carrier.all_of_forall (Value.all_of_forall fun _ => ⟨fun _ _ _ _ => trivial, False.elim⟩) a

namespace NodeSet

variable {N : NodeSet}

/-! ### Values -/

/-- Where keys are known to be distinct, values are well-formed. -/
theorem wellFormed_of_owns (hN : N.DistinctKeys) {v : Value} (h : N.Owns v) : v.WellFormed :=
  h.mono fun _ hv => hv.distinct hN

theorem owns_of_isAtom {v : Value} (h : v.isAtom = true) : N.Owns v :=
  Value.all_of_isAtom h ⟨fun c hc => absurd hc (Value.ne_closure_of_isAtom h c),
    fun _ => (Value.wellFormed_of_isAtom h).here⟩

theorem admits_array {items : List Value} : N.Admits (.array items) :=
  ⟨nofun, fun _ => trivial⟩

theorem owns_array {items : List Value} : N.Owns (Value.array items) ↔ N.Owns items :=
  Value.all_array.trans (and_iff_right admits_array)

theorem owns_hash {entries : Entries} : N.Owns (Value.hash entries) ↔
    (N.DistinctKeys → Value.HasDistinctKeys (.hash entries)) ∧ N.Owns entries :=
  Value.all_hash.trans (and_congr_left' ⟨fun h => h.distinct, fun h => ⟨nofun, h⟩⟩)

theorem owns_entries {entries : Entries} (h : N.Owns (Value.hash entries)) : N.Owns entries :=
  (owns_hash.1 h).2

theorem owns_type {t : TypeRef} : N.Owns (Value.type t) ↔ N.Owns t.params :=
  Value.all_type.trans (and_iff_right ⟨nofun, fun _ => trivial⟩)

theorem owns_closure {c : Closure} : N.Owns (Value.closure c) ↔ N.HasLambda c.lambda ∧
    (N.DistinctKeys → Value.HasDistinctKeys (.closure c)) ∧ N.Owns (c.captures : Bindings) := by
  refine Value.all_closure.trans ((and_congr ?_ ?_).trans and_assoc)
  · exact ⟨fun h => ⟨h.lambda c rfl, h.distinct⟩, fun h =>
      ⟨fun _ hc => Value.closure.inj hc ▸ h.1, h.2⟩⟩
  · exact forall₂_congr fun b _ => ⟨fun h => ⟨trivial, h⟩, fun h => h.2⟩

/-! ### Lists and options -/

theorem owns_nil {α : Type} [Carrier α] : N.Owns ([] : List α) :=
  fun _ h => nomatch h

theorem owns_none {α : Type} [Carrier α] : N.Owns (none : Option α) :=
  fun _ h => nomatch h

theorem owns_cons {α : Type} [Carrier α] {a : α} {as : List α} :
    N.Owns (a :: as) ↔ N.Owns a ∧ N.Owns as :=
  List.forall_mem_cons

theorem owns_singleton {α : Type} [Carrier α] {a : α} : N.Owns [a] ↔ N.Owns a :=
  List.forall_mem_singleton

theorem owns_append {α : Type} [Carrier α] {as bs : List α} :
    N.Owns (as ++ bs) ↔ N.Owns as ∧ N.Owns bs :=
  List.forall_mem_append

theorem owns_getD {o : Option Value} (h : N.Owns o) : N.Owns (o.getD .absent) := by
  cases o with
  | none => exact owns_of_isAtom rfl
  | some v => exact h v rfl

/-! ### Bindings -/

theorem owns_bind {vars : Bindings} {name : String} {v : Value} (hv : N.Owns v)
    (hvars : N.Owns vars) : N.Owns (vars.insert name v) := by
  induction vars with
  | nil => exact owns_cons.2 ⟨⟨trivial, hv⟩, hvars⟩
  | cons b rest ih =>
    obtain ⟨hhead, hrest⟩ := owns_cons.1 hvars
    rw [NameMap.insert]
    split
    · exact owns_cons.2 ⟨⟨trivial, hv⟩, hrest⟩
    · split
      · exact owns_cons.2 ⟨⟨trivial, hv⟩, hvars⟩
      · exact owns_cons.2 ⟨hhead, ih hrest⟩

theorem owns_bindAll {vars new : Bindings} (hvars : N.Owns vars) (hnew : N.Owns new) :
    N.Owns (vars.insertAll new) := by
  induction new generalizing vars with
  | nil => exact hvars
  | cons b rest ih =>
    obtain ⟨hhead, hrest⟩ := owns_cons.1 hnew
    exact ih (owns_bind hhead.2 hvars) hrest

theorem owns_lookup {vars : Bindings} (hvars : N.Owns vars) (name : String) :
    N.Owns (vars.get? name) := by
  exact fun v hv => (hvars (name, v) (NameMap.mem_of_get? hv)).2

end NodeSet

/-! ## Environments -/

/-- The values that a change of an environment binds. -/
def Environment.Change.values : Environment.Change → List Value
  | .set _ value => [value]
  | .openLocals vars => vars.map (·.2)
  | _ => []

/-- What lambdas capture is in the order of names. -/
theorem Environment.ordered_capture (env : Environment) : env.capture.Ordered := by
  rw [capture]
  induction env.layers with
  | nil => exact .nil
  | cons l rest ih => exact ih.insertAll _

instance : Carrier Environment where
  All p env := Carrier.All p env.globals ∧ ∀ l ∈ env.layers, Carrier.All p l.vars?
  all_of_forall h env := ⟨Carrier.all_of_forall h env.globals,
    fun l _ => Carrier.all_of_forall h l.vars?⟩

namespace NodeSet

variable {N : NodeSet} {env : Environment}

/-! ### Lookup -/

theorem owns_ofGroup (text : Option String) : N.Owns (Value.ofGroup text) := by
  cases text <;> exact owns_of_isAtom rfl

theorem owns_group? (env : Environment) (name : String) : N.Owns (env.group? name) := by
  rw [Environment.group?]
  split
  · exact owns_none
  · intro v hv
    cases hv
    exact owns_of_isAtom rfl
  · intro v hv
    obtain ⟨i, -, rfl⟩ := Option.map_eq_some_iff.1 hv
    exact owns_ofGroup _

theorem owns_local? (h : N.Owns env) (name : String) : N.Owns (env.local? name) := by
  intro v hv
  obtain ⟨l, hl, hfind⟩ := List.exists_of_findSome?_eq_some hv
  obtain ⟨vars, hvars, hget⟩ := Option.bind_eq_some_iff.1 hfind
  exact owns_lookup (h.2 l hl vars hvars) name v hget

/-- What a name stands for has no closures but those of the environment. -/
theorem owns_named? (h : N.Owns env) (name : String) : N.Owns (env.get? name) := by
  rw [Environment.get?]
  split
  · exact owns_group? env name
  · split
    · exact owns_lookup h.1 _
    · intro v hv
      rcases Option.or_eq_some_iff.1 hv with hlocal | ⟨-, hglobal⟩
      · exact owns_local? h name v hlocal
      · exact owns_lookup h.1 name v hglobal

/-- What lambdas capture has no others either. -/
theorem owns_capture (h : N.Owns env) : N.Owns env.capture := by
  obtain ⟨-, hlayers⟩ := h
  rw [Environment.capture]
  revert hlayers
  induction env.layers with
  | nil => exact fun _ => owns_nil
  | cons l rest ih =>
    intro hlayers
    obtain ⟨hl, hrest⟩ := List.forall_mem_cons.1 hlayers
    refine owns_bindAll (ih hrest) ?_
    cases hvars : l.vars? with
    | none => exact owns_nil
    | some vars => exact hl vars hvars

/-! ### Changes -/

theorem owns_bindLocal? {name : String} {value : Value} (hvalue : N.Owns value)
    {layers bound : List Layer} (h : ∀ l ∈ layers, N.Owns l.vars?)
    (hbound : Environment.bindLocal? name value layers = some bound) :
    ∀ l ∈ bound, N.Owns l.vars? := by
  induction layers generalizing bound with
  | nil => cases hbound
  | cons l rest ih =>
    obtain ⟨hl, hrest⟩ := List.forall_mem_cons.1 h
    cases l with
    | locals vars =>
      cases hbound
      refine List.forall_mem_cons.2 ⟨fun vars' hvars' => ?_, hrest⟩
      cases hvars'
      exact owns_bind hvalue (hl vars rfl)
    | captures m =>
      obtain ⟨below, hbelow, rfl⟩ := Option.map_eq_some_iff.1 hbound
      exact List.forall_mem_cons.2 ⟨hl, ih hrest hbelow⟩
    | fence =>
      obtain ⟨below, hbelow, rfl⟩ := Option.map_eq_some_iff.1 hbound
      exact List.forall_mem_cons.2 ⟨hl, ih hrest hbelow⟩

theorem owns_set (h : N.Owns env) (name : String) {value : Value} (hvalue : N.Owns value) :
    N.Owns (env.set name value) := by
  rw [Environment.set]
  split
  · next layers hlayers => exact ⟨h.1, owns_bindLocal? hvalue h.2 hlayers⟩
  · exact ⟨owns_bind hvalue h.1, h.2⟩

/-- A change of the environment brings no closures along but those that it binds. -/
theorem owns_apply (h : N.Owns env) {c : Environment.Change} (hvalues : N.Owns c.values) :
    N.Owns (env.apply c) := by
  cases c with
  | set name value => exact owns_set h name (hvalues value List.mem_cons_self)
  | restore level => exact ⟨h.1, fun l hl => h.2 l (List.mem_of_mem_drop hl)⟩
  | openLocals vars =>
    refine ⟨h.1, List.forall_mem_cons.2 ⟨fun vars' hvars' b hb => ?_, h.2⟩⟩
    cases hvars'
    exact ⟨trivial, hvalues b.2 (List.mem_map_of_mem hb)⟩
  | openFence => exact ⟨h.1, List.forall_mem_cons.2 ⟨owns_none, h.2⟩⟩
  | setCaptures m =>
    -- captures have no variables, and the layers below were there before
    obtain ⟨hlayers, hglobals⟩ := env.setCaptures_eq m
    obtain ⟨above, habove⟩ := exists_append_belowCaptures env.layers
    refine ⟨hglobals ▸ h.1, fun l hl => ?_⟩
    have hmem : l ∈ Layer.captures m :: belowCaptures env.layers := hlayers ▸ hl
    rcases List.mem_cons.1 hmem with rfl | hbelow
    · exact owns_none
    · refine h.2 l ?_
      rw [habove]
      exact List.mem_append_right _ hbelow

end NodeSet

end Manifest
