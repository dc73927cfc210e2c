import Manifest.Collection
import Manifest.Comparator
import Manifest.Evaluator.Operation
import Manifest.Index
import Manifest.Proofs.Closures
import Manifest.Proofs.Distribution
import Manifest.Proofs.Insertion

/-!
# What operations make of closures and errors

Operations on values make no closures: they hand on those that they are given, in their results and
in the operands of their errors. Their errors have no place, or that of an expression that they are
about, and no calls.

* `EvalError.IsOwn` — errors as the operations raise them that an evaluation within a set of
  expressions consists of.
* `NodeSet.Sound` — an outcome of such an operation. There is a lemma for each of them: arithmetic
  and collections, comparison, access by keys, and targets of assignments.
-/

namespace Manifest

/-! ## Errors -/

/-- The values that a cause mentions. -/
def Cause.operands : Cause → List Value
  | .operatorNotApplicable _ v | .runtimeArithmetic _ v _ => [v]
  | .matchOperandNotString v | .typeCoercion v _ => [v]
  | .comparisonNotPossible _ left right => [left, right]
  | _ => []

/-- Whether a cause is that the limit on the depth of calls has been reached. -/
def Cause.isRecursionLimit : Cause → Bool
  | .recursionLimitExceeded _ => true
  | _ => false

namespace EvalError

/-- An error has no place. -/
def Unplaced (e : EvalError) : Prop :=
  e.span = none ∧ e.node = none

/-- The place of an error is that of an expression in a set. -/
def PlacedIn (N : NodeSet) (e : EvalError) : Prop :=
  ∃ x, N.Mem x ∧ e.span = some x.span ∧ e.node = some x.kind

/-- An error as operations raise it by themselves, and the expressions of a set: it mentions no
closures but those of the set, has no place but that of an expression in the set, and is not about
calls. -/
structure IsOwn (N : NodeSet) (e : EvalError) : Prop where
  operands : N.Owns e.cause.operands
  place : e.Unplaced ∨ e.PlacedIn N
  backtrace : e.backtrace = none
  cause : e.cause.isRecursionLimit = false

/-- An expression of the set gives an error a place in the set. -/
theorem PlacedIn.withNode {N : NodeSet} {e : EvalError} {x : Expr} (hx : N.Mem x)
    (h : e.Unplaced ∨ e.PlacedIn N) : (e.withNode x.kind x.span).PlacedIn N := by
  rw [EvalError.withNode]
  rcases h with ⟨hspan, -⟩ | hplaced
  · rw [hspan]
    exact ⟨x, hx, rfl, rfl⟩
  · obtain ⟨y, hy, hspan, hnode⟩ := hplaced
    simp only [hspan]
    exact ⟨y, hy, hspan, hnode⟩

/-- An expression of the set leaves an error one of the set's own. -/
theorem IsOwn.withNode {N : NodeSet} {e : EvalError} {x : Expr} (hx : N.Mem x) (h : e.IsOwn N) :
    (e.withNode x.kind x.span).IsOwn N where
  operands := by
    rw [cause_withNode]
    exact h.operands
  place := .inr (.withNode hx h.place)
  backtrace := by
    rw [EvalError.withNode]
    split <;> exact h.backtrace
  cause := by
    rw [cause_withNode]
    exact h.cause

theorem IsOwn.withNote {N : NodeSet} {e : EvalError} (h : e.IsOwn N) (n : Note) :
    (e.withNote n).IsOwn N :=
  ⟨h.operands, h.place, h.backtrace, h.cause⟩

end EvalError

namespace NodeSet

variable {N : NodeSet}

/-- What comes of a step: a value whose closures are those of the set, or an error of a kind. -/
def Answers (N : NodeSet) {α : Type} [Carrier α] (errors : EvalError → Prop) :
    Except EvalError α → Prop
  | .ok a => N.Owns a
  | .error e => errors e

theorem answers_all {α : Type} [Carrier α] (r : Except EvalError α) :
    all.Answers (fun _ => True) r := by
  cases r with
  | ok a => exact owns_all a
  | error e => trivial

/-- What comes of an operation: a value whose closures are those of the set, or an error of the
set's own. -/
abbrev Sound (N : NodeSet) {α : Type} [Carrier α] (r : Except EvalError α) : Prop :=
  N.Answers (·.IsOwn N) r

/-- A fault about values of the set is an error of its own. -/
theorem isOwn_ofCause {cause : Cause} (hoperands : N.Owns cause.operands)
    (hcause : cause.isRecursionLimit = false) : (EvalError.ofCause cause).IsOwn N :=
  ⟨hoperands, .inl ⟨rfl, rfl⟩, rfl, hcause⟩

/-- A fault that mentions no values is one of the set's own. -/
theorem isOwn_of_noOperands {cause : Cause} (hoperands : cause.operands = [])
    (hcause : cause.isRecursionLimit = false) : (EvalError.ofCause cause).IsOwn N :=
  isOwn_ofCause (by rw [hoperands]; exact fun v hv => nomatch hv) hcause

/-- A fault that mentions one value is one of the set's own if the value's closures are. -/
theorem isOwn_of_operand {cause : Cause} {v : Value} (hv : N.Owns v)
    (hoperands : cause.operands = [v]) (hcause : cause.isRecursionLimit = false) :
    (EvalError.ofCause cause).IsOwn N :=
  isOwn_ofCause (by rw [hoperands]; exact owns_singleton.2 hv) hcause

/-- A value that is changed afterwards was there. -/
theorem exists_of_map_eq_ok {ε α β : Type} {f : α → β} {x : Except ε α} {b : β}
    (h : x.map f = .ok b) : ∃ a, x = .ok a ∧ b = f a := by
  cases x <;> cases h
  exact ⟨_, rfl, rfl⟩

/-! ### Collections -/

theorem owns_elements {v : Value} (h : N.Owns v) : N.Owns v.elements :=
  Value.all_elements (fun _ => admits_array) h

theorem owns_unfold {v : Value} (h : N.Owns v) : N.Owns v.unfold :=
  Value.all_unfold (fun _ => admits_array) h

theorem owns_get? {entries : Entries} (h : N.Owns entries) (key : Value) :
    N.Owns (entries.get? key) := by
  intro v hv
  obtain ⟨e, he, rfl⟩ := Option.map_eq_some_iff.1 hv
  exact (h e (List.mem_of_find?_eq_some he)).2

theorem owns_empty : N.Owns (Value.hash []) :=
  owns_hash.2 ⟨fun _ => .nil, owns_nil⟩

theorem owns_insert {key value : Value} {entries : Entries} (hkey : N.Owns key)
    (hvalue : N.Owns value) (h : N.Owns (Value.hash entries)) :
    N.Owns (Value.hash (entries.insert key value)) := by
  refine owns_hash.2 ⟨fun hN => ?_, Entries.forall_mem_insert hkey hvalue (owns_entries h)⟩
  exact (Value.wellFormed_insert (wellFormed_of_owns hN h) (wellFormed_of_owns hN hkey)
    (wellFormed_of_owns hN hvalue)).here

theorem owns_insertAll {entries : Entries} {new : List (Value × Value)}
    (h : N.Owns (Value.hash entries)) (hnew : N.Owns new) :
    N.Owns (Value.hash (entries.insertAll new)) := by
  induction new generalizing entries with
  | nil => exact h
  | cons e rest ih =>
    obtain ⟨hhead, hrest⟩ := owns_cons.1 hnew
    exact ih (owns_insert hhead.1 hhead.2 h) hrest

theorem owns_ofPairs {index : Nat} {items : List Value} {pairs : List (Value × Value)}
    (h : N.Owns items) (hpairs : Entries.ofPairs index items = .ok pairs) : N.Owns pairs := by
  induction items generalizing index pairs with
  | nil =>
    cases hpairs
    exact owns_nil
  | cons item rest ih =>
    obtain ⟨hhead, hrest⟩ := owns_cons.1 h
    rw [Entries.ofPairs.eq_def] at hpairs
    split at hpairs
    · next heq => cases heq
    · next k v rest' heq =>
      cases heq
      obtain ⟨hk, hv⟩ := owns_cons.1 (owns_array.1 hhead)
      cases hok : Entries.ofPairs (index + 1) rest with
      | error e =>
        rw [hok] at hpairs
        cases hpairs
      | ok more =>
        rw [hok] at hpairs
        cases hpairs
        exact owns_cons.2 ⟨⟨hk, (owns_cons.1 hv).1⟩, ih hrest hok⟩
    · cases hpairs

theorem owns_ofFlat : ∀ {items : List Value}, N.Owns items → N.Owns (Entries.ofFlat items)
  | [], _ => owns_nil
  | [_], _ => owns_nil
  | _ :: _ :: _, h =>
    have ⟨hk, hrest⟩ := owns_cons.1 h
    have ⟨hv, hmore⟩ := owns_cons.1 hrest
    owns_cons.2 ⟨⟨hk, hv⟩, owns_ofFlat hmore⟩

theorem owns_ofItems {items : List Value} {entries : Entries} (h : N.Owns items)
    (hitems : Entries.ofItems items = .ok entries) : N.Owns (Value.hash entries) := by
  rw [Entries.ofItems.eq_def] at hitems
  split at hitems
  · cases hitems
    exact owns_empty
  · obtain ⟨pairs, hpairs, rfl⟩ := exists_of_map_eq_ok hitems
    exact owns_insertAll owns_empty (owns_ofPairs h hpairs)
  · split at hitems <;> cases hitems
    exact owns_insertAll owns_empty (owns_ofFlat h)

theorem owns_concatenate {left right v : Value} (hleft : N.Owns left) (hright : N.Owns right)
    (h : left.concatenate right = .ok v) : N.Owns v := by
  cases left with
  | array items =>
    cases h
    exact owns_array.2 (owns_append.2 ⟨owns_array.1 hleft, owns_elements hright⟩)
  | hash entries =>
    cases right with
    | hash new =>
      cases h
      exact owns_insertAll hleft (owns_entries hright)
    | array items =>
      obtain ⟨new, hnew, rfl⟩ := exists_of_map_eq_ok h
      exact owns_insertAll hleft (owns_entries (owns_ofItems (owns_array.1 hright) hnew))
    | _ => cases h
  | _ =>
    cases h
    exact owns_array.2 (owns_cons.2 ⟨hleft, owns_elements hright⟩)

theorem owns_erase {entries : Entries} (h : N.Owns (Value.hash entries)) (key : Value) :
    N.Owns (Value.hash (entries.erase key)) := by
  obtain ⟨hdistinct, hentries⟩ := owns_hash.1 h
  exact owns_hash.2 ⟨fun hN => (hdistinct hN).filter _,
    fun e he => hentries e (List.mem_filter.1 he).1⟩

theorem owns_delete {left right v : Value} (hleft : N.Owns left)
    (h : left.delete right = .ok v) : N.Owns v := by
  cases left with
  | array items =>
    cases h
    exact owns_array.2 fun item hitem => owns_array.1 hleft item (List.mem_filter.1 hitem).1
  | hash entries =>
    cases h
    generalize right.removedKeys = keys
    induction keys generalizing entries with
    | nil => exact hleft
    | cons key rest ih => exact ih _ (owns_erase hleft key)
  | _ => cases h

theorem owns_append? {left right v : Value} (hleft : N.Owns left) (hright : N.Owns right)
    (h : left.append? right = some v) : N.Owns v := by
  cases left with
  | array items =>
    cases h
    exact owns_array.2 (owns_append.2 ⟨owns_array.1 hleft, owns_singleton.2 hright⟩)
  | _ => cases h

/-! ### Numbers -/

theorem sound_applyFloat (op : ArithmeticOp) (x y : Binary64) : N.Sound (applyFloat op x y) := by
  have hx : N.Owns (Value.float x) := owns_of_isAtom rfl
  have hy : N.Owns (Value.float y) := owns_of_isAtom rfl
  cases op with
  | div =>
    rw [applyFloat]
    split
    · exact isOwn_of_operand hy rfl rfl
    · exact owns_of_isAtom rfl
  | add => exact owns_of_isAtom rfl
  | sub => exact owns_of_isAtom rfl
  | mul => exact owns_of_isAtom rfl
  | _ => exact isOwn_of_operand hx rfl rfl

theorem sound_integerApply (op : ArithmeticOp) (a b : Int64) : N.Sound (Integer.apply op a b) := by
  rw [Integer.apply]
  split
  · exact isOwn_of_operand (v := .integer b) (owns_of_isAtom rfl) rfl rfl
  · split
    · exact owns_of_isAtom rfl
    · exact isOwn_of_operand (v := .integer a) (owns_of_isAtom rfl) rfl rfl

theorem sound_numberApply (op : ArithmeticOp) (a b : Number) : N.Sound (a.apply op b) := by
  cases a with
  | int n =>
    cases b with
    | int m => exact sound_integerApply op n m
    | float y =>
      rw [Number.apply]
      split
      · exact isOwn_of_operand (v := .float y) (owns_of_isAtom rfl) rfl rfl
      · exact sound_applyFloat op _ y
  | float x =>
    rw [Number.apply]
    split
    · exact isOwn_of_operand (v := .float x) (owns_of_isAtom rfl) rfl rfl
    · exact sound_applyFloat op x _

theorem sound_arithmetic (op : ArithmeticOp) {left right : Value} (hleft : N.Owns left)
    (hright : N.Owns right) : N.Sound (left.arithmetic op right) := by
  have hoperand : ∀ {v : Value} {e : EvalError}, N.Owns v → Number.operand op v = .error e →
      e.IsOwn N := by
    intro v e hv h
    rw [Number.operand] at h
    split at h <;> cases h
    exact isOwn_of_operand hv rfl rfl
  rw [Value.arithmetic]
  split
  · next e h => exact hoperand hleft h
  · split
    · next e h => exact hoperand hright h
    · exact sound_numberApply op _ _

theorem sound_negate {v : Value} (h : N.Owns v) : N.Sound v.negate := by
  rw [Value.negate]
  split
  · split
    · exact owns_of_isAtom rfl
    · exact isOwn_of_operand h rfl rfl
  · exact owns_of_isAtom rfl
  · exact isOwn_of_operand h rfl rfl

/-! ### Operators -/

theorem sound_mapError {ε : Type} {x : Except ε Value} {f : ε → EvalError}
    (hok : ∀ v, x = .ok v → N.Owns v) (herror : ∀ e, (f e).IsOwn N) : N.Sound (x.mapError f) := by
  cases x with
  | ok v => exact hok v rfl
  | error e => exact herror e

theorem sound_combine (op : ArithmeticOp) {left right : Value} (hleft : N.Owns left)
    (hright : N.Owns right) : N.Sound (left.combine op right) := by
  rw [Value.combine.eq_def]
  split
  · split
    · split
      · next v h => exact owns_append? hleft hright h
      · exact isOwn_of_operand hleft rfl rfl
    · exact sound_mapError (fun v h => owns_delete hleft h)
        fun _ => isOwn_of_operand hright rfl rfl
    · exact sound_mapError (fun v h => owns_concatenate hleft hright h)
        fun _ => isOwn_of_operand hright rfl rfl
  · exact sound_arithmetic op hleft hright

theorem sound_compoundValue (op : AssignOp) (arith : ArithmeticOp) {current value : Value}
    (hcurrent : N.Owns current) (hvalue : N.Owns value) :
    N.Sound (Evaluator.compoundValue op arith current value) := by
  rw [Evaluator.compoundValue.eq_def]
  split
  · refine sound_mapError (fun v h => ?_) fun _ => isOwn_of_noOperands rfl rfl
    have hsound := sound_combine .add hcurrent hvalue
    rwa [h] at hsound
  · exact sound_mapError (fun v h => owns_delete hcurrent h) fun _ => isOwn_of_noOperands rfl rfl

theorem sound_holds (c : Comparator) (op : ComparisonOp) {left right : Value}
    (hleft : N.Owns left) (hright : N.Owns right) : N.Sound (c.holds op left right) := by
  have himpossible : N.Sound (Comparator.impossible op left right : Except EvalError Bool) :=
    isOwn_ofCause (owns_cons.2 ⟨hleft, owns_singleton.2 hright⟩) rfl
  rw [Comparator.holds.eq_def]
  split
  · split
    · trivial
    · split <;> trivial
  · split
    · trivial
    · trivial
    · split
      · trivial
      · exact himpossible

theorem sound_holdsValue (c : Comparator) (op : ComparisonOp) {left right : Value}
    (hleft : N.Owns left) (hright : N.Owns right) :
    N.Sound ((c.holds op left right).map Value.boolean) := by
  have hholds := sound_holds c op hleft hright
  cases h : c.holds op left right with
  | ok b => exact owns_of_isAtom rfl
  | error e => rwa [h] at hholds

/-! ### Access -/

theorem sound_accessList {α : Type} [Carrier α] {receiver : Value} {items : List α}
    {one : Option α → Value} {several : List α → Value} (hitems : N.Owns items)
    (hone : ∀ o, N.Owns o → N.Owns (one o)) (hseveral : ∀ l, N.Owns l → N.Owns (several l))
    {keys : List Value} (hkeys : N.Owns keys) :
    N.Sound (Value.accessList receiver items one several keys) := by
  have hkey : ∀ {v : Value} {e : EvalError}, N.Owns v → v.integerKey = .error e →
      e.IsOwn N := by
    intro v e hv h
    rw [Value.integerKey.eq_def] at h
    split at h <;> cases h
    exact isOwn_of_operand hv rfl rfl
  rw [Value.accessList.eq_def]
  split
  · obtain ⟨hindex, -⟩ := owns_cons.1 hkeys
    split
    · refine hone _ fun a ha => ?_
      obtain ⟨i, -, hi⟩ := Option.bind_eq_some_iff.1 ha
      exact hitems a (List.mem_of_getElem? hi)
    · next e h => exact hkey hindex h
  · obtain ⟨hstart, hrest⟩ := owns_cons.1 hkeys
    split
    · split
      · exact hseveral _ fun a ha => hitems a (List.mem_of_mem_drop (List.mem_of_mem_take ha))
      · next e h => exact hkey (owns_cons.1 hrest).1 h
    · next e h => exact hkey hstart h
  · exact isOwn_of_noOperands rfl rfl

theorem sound_access {receiver : Value} {keys : List Value} (hreceiver : N.Owns receiver)
    (hkeys : N.Owns keys) : N.Sound (receiver.access keys) := by
  cases receiver with
  | array items =>
    exact sound_accessList (owns_array.1 hreceiver) (fun _ => owns_getD) (fun _ => owns_array.2)
      hkeys
  | string s =>
    rw [Value.access]
    refine sound_accessList (fun _ _ => trivial) (fun _ _ => ?_) (fun _ _ => ?_) hkeys
    · exact owns_of_isAtom rfl
    · exact owns_of_isAtom rfl
  | hash entries =>
    have hentries := owns_entries hreceiver
    rw [Value.access.eq_def]
    simp only
    split
    · exact isOwn_of_noOperands rfl rfl
    · exact owns_getD (owns_get? hentries _)
    · refine owns_array.2 fun v hv => ?_
      obtain ⟨key, -, hget⟩ := List.mem_filterMap.1 hv
      exact owns_get? hentries key v hget
  | type t =>
    rw [Value.access]
    split
    · exact isOwn_of_operand hreceiver rfl rfl
    · exact owns_type.2 hkeys
  | _ => exact isOwn_of_operand hreceiver rfl rfl

/-! ### Targets -/

/-- The error of an expression that is no target is one of the set's own. -/
theorem isOwn_withPlace {x : Expr} {r : Except EvalError Target} (hx : N.Mem x)
    (h : N.Sound r) : N.Sound (r.mapError (·.withNode x.kind x.span)) := by
  cases r with
  | ok target => trivial
  | error e => exact h.withNode hx

mutual

theorem sound_ofExpr : ∀ {e : Expr}, N.Mem e → N.Sound (Target.ofExpr e)
  | ⟨_, _⟩, he => isOwn_withPlace he (sound_ofForm fun _ hpart => N.parts_mem he hpart)
termination_by structural e => e

theorem sound_ofForm : ∀ {form : Form}, (∀ part ∈ form.parts, N.Mem part) →
    N.Sound (Target.ofForm form)
  | form, hparts => by
    cases form with
    | «variable» inner =>
      rw [Target.ofForm]
      split
      · trivial
      · exact isOwn_of_noOperands rfl rfl
    | list items =>
      have hitems : N.Sound (Target.ofExprs items) := sound_ofExprs hparts
      rw [Target.ofForm]
      split
      · trivial
      · next e h => rwa [h] at hitems
    | _ => exact isOwn_of_noOperands rfl rfl
termination_by structural form => form

theorem sound_ofExprs : ∀ {items : List Expr}, (∀ e ∈ items, N.Mem e) →
    N.Sound (Target.ofExprs items)
  | [], _ => owns_nil
  | e :: rest, hmem => by
    obtain ⟨hhead, hrest⟩ := List.forall_mem_cons.1 hmem
    have htarget := sound_ofExpr hhead
    have htargets := sound_ofExprs hrest
    rw [Target.ofExprs]
    split
    · next e h => rwa [h] at htarget
    · split
      · next e h => rwa [h] at htargets
      · exact fun _ _ => trivial
termination_by structural items => items

end

/-- So is the error of an expression that is no name. -/
theorem sound_compoundName {e : Expr} (he : N.Mem e) : N.Sound (Evaluator.compoundName e) := by
  have htarget := sound_ofExpr he
  rw [Evaluator.compoundName]
  split
  · next err h => rwa [h] at htarget
  · trivial
  · exact (isOwn_of_noOperands rfl rfl).withNode he

theorem owns_part? {target : Target} {value : Value} (h : N.Owns value) (i : Nat) :
    N.Owns (target.part? value i) := by
  intro part hpart
  rw [Target.part?.eq_def] at hpart
  split at hpart
  · exact owns_array.1 h part (List.mem_of_getElem? hpart)
  · cases hpart
    exact owns_getD (owns_get? (owns_entries h) _)
  · cases hpart
    exact h

mutual

/-- The names of a target are bound to closures that the value has. -/
theorem owns_bindings : ∀ (target : Target) {value : Value}, N.Owns value →
    N.Owns (target.bindings value)
  | .variable _, _, h => owns_singleton.2 ⟨trivial, h⟩
  | .list targets, _, h => owns_memberBindings targets h 0
termination_by structural target => target

theorem owns_memberBindings : ∀ (targets : List Target) {value : Value}, N.Owns value →
    ∀ i, N.Owns (Target.memberBindings targets value i)
  | [], _, _, _ => owns_nil
  | target :: targets, value, h, i => by
    rw [Target.memberBindings]
    refine owns_append.2 ⟨?_, owns_memberBindings targets h (i + 1)⟩
    split
    · next part hpart => exact owns_bindings target (owns_part? h i part hpart)
    · exact owns_nil
termination_by structural targets => targets

end

end NodeSet

end Manifest
