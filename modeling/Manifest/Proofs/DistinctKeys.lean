import Manifest.Proofs.Places

/-!
# Keys stay distinct

A hash has every key once, and a closure every name that it has captured, however deep they are
inside of values (`Value.WellFormed`). Operations on values keep it so, as `NodeSet.Owns` says of
sets of expressions where it is known. Hence evaluation does: where all variables are well-formed,
it comes to a well-formed value and leaves well-formed variables, as long as host functions do their
part (`Evaluator.eval_wellFormed`).

* `FunctionTable.KeepsKeys` — the part of host functions; those of the library do it
  (`Library.functions_keepsKeys`).
* `keying` — the contract that keys are distinct in all values.
-/

namespace Manifest

/-- All variables of an environment are well-formed. -/
def Environment.WellFormed (env : Environment) : Prop :=
  Carrier.All Value.WellFormed env

/-- The functions of a table are handed well-formed values, and hand on no others, be it as a value,
a variable, an argument or the operand of an error. -/
def FunctionTable.KeepsKeys (functions : FunctionTable) : Prop :=
  ∀ name args, (∀ v ∈ args, v.WellFormed) → (functions.procedure name args).KeepsOrdered
    Value.WellFormed fun e => ∀ v ∈ e.cause.operands, v.WellFormed

/-! ## The invariant -/

open EvalM NodeSet

/-- All there is to say of values where keys are distinct is that they are well-formed. -/
theorem NodeSet.owns_eq_wellFormed : Value.All allDistinct.Admits = Value.WellFormed :=
  congrArg Value.All (funext fun _ => propext
    ⟨fun h => h.distinct trivial, fun h => ⟨fun _ _ _ _ => trivial, fun _ => h⟩⟩)

theorem NodeSet.owns_allDistinct {α : Type} [Carrier α] {a : α} :
    allDistinct.Owns a ↔ Carrier.All Value.WellFormed a := by
  rw [NodeSet.Owns, owns_eq_wellFormed]

/-- Variables are well-formed, and so is what errors mention. -/
def keying : Contract .allDistinct where
  __ := placing .allDistinct
  errors e := allDistinct.Owns e.cause.operands
  own he := he.operands
  withNode _ he := by
    rw [EvalError.cause_withNode]
    exact he

/-- A frame mentions no values. -/
theorem keying_framed {limit : Option Nat} {m : EvalM Value} (frame : Frame)
    (hm : keying.Meets m) : keying.Meets (framed limit frame m) := by
  refine hm.framed frame (fun _ hs => hs) (fun _ => owns_nil) fun {e} calls he => ?_
  change allDistinct.Owns (CallStack.attach calls e).cause.operands
  rw [CallStack.cause_attach]
  exact he

namespace Evaluator

variable {E : Evaluator}

/-- The invariant is a logic of calls, for host functions that do their part. -/
def keyedCalls (hkeeps : E.functions.KeepsKeys) : CallLogic E .allDistinct Unit :=
  Contract.calls (fun _ => keying) (fun _ i => i) (fun frame hm => keying_framed frame hm) (by
    intro _ name args hargs
    change Procedure.KeepsOrdered (Value.All allDistinct.Admits)
      (fun e => Carrier.All (Value.All allDistinct.Admits) e.cause.operands) _
    rw [owns_eq_wellFormed]
    exact hkeeps name args (owns_allDistinct.1 hargs))

theorem meets_eval (hkeeps : E.functions.KeepsKeys) (n : Nat) (p : Expr) :
    keying.Meets (E.eval n p) :=
  (keyedCalls hkeeps).rel_eval n () trivial

/-- **Keys stay distinct**: where all variables are well-formed, they are afterwards, and so is the
value of an expression. -/
theorem eval_wellFormed (hkeeps : E.functions.KeepsKeys) {n : Nat} {p : Expr} {s t : State}
    {r : Except EvalError Value} (henv : s.env.WellFormed) (h : E.eval n p s = some (r, t)) :
    t.env.WellFormed ∧ ∀ v, r = .ok v → v.WellFormed := by
  obtain ⟨hend, hr⟩ := meets_eval hkeeps n p (owns_allDistinct.2 henv) h
  refine ⟨owns_allDistinct.1 hend, ?_⟩
  rintro v rfl
  exact owns_allDistinct.1 hr

end Evaluator

/-! ## The library

The functions of the library make no values but atoms and arrays. So whatever holds of these by
themselves holds, all the way down, of what the functions hand on if it does of what they are
handed. -/

namespace Library

/-- A procedure hands on values of a kind, all the way down, as long as it is handed such values. -/
abbrev Keeps (p : Value → Prop) (q : Procedure) : Prop :=
  q.Keeps (Value.All p) fun e => ∀ v ∈ e.cause.operands, v.All p

variable {p : Value → Prop} {args : List Value}

theorem keeps_delegate {callable : Value} (hcallable : callable.All p)
    (hargs : ∀ v ∈ args, v.All p) : Keeps p (.delegate callable args) :=
  ⟨⟨hcallable, hargs⟩, fun _ hv => hv, fun _ he => he⟩

theorem keeps_callThen {callable : Value} {next : Value → Procedure} (hcallable : callable.All p)
    (hargs : ∀ v ∈ args, v.All p) (hnext : ∀ v, v.All p → Keeps p (next v)) :
    Keeps p (.callThen callable args next) :=
  ⟨⟨hcallable, hargs⟩, hnext, fun _ he => he⟩

theorem keeps_complain (message : String) : Keeps p (.complain message) :=
  fun _ h => nomatch h

theorem keeps_logAll (lines : List String) {next : Procedure} (h : Keeps p next) :
    Keeps p (.logAll lines next) := by
  induction lines with
  | nil => exact h
  | cons line rest ih => exact ih

theorem keeps_eachOf {f : Value} {next : Procedure} {xs : List Value} (hf : f.All p)
    (hnext : Keeps p next) (hxs : ∀ x ∈ xs, x.All p) : Keeps p (eachOf f next xs) := by
  induction xs with
  | nil => exact hnext
  | cons x rest ih =>
    obtain ⟨hx, hrest⟩ := List.forall_mem_cons.1 hxs
    exact keeps_callThen hf (List.forall_mem_singleton.2 hx) fun _ _ => ih hrest

theorem keeps_mapOf (harray : ∀ items, p (.array items)) {f : Value} {results xs : List Value}
    (hf : f.All p) (hresults : ∀ v ∈ results, v.All p) (hxs : ∀ x ∈ xs, x.All p) :
    Keeps p (mapOf f results xs) := by
  induction xs generalizing results with
  | nil => exact Value.all_array.2 ⟨harray _, fun v hv => hresults v (List.mem_reverse.1 hv)⟩
  | cons x rest ih =>
    obtain ⟨hx, hrest⟩ := List.forall_mem_cons.1 hxs
    exact keeps_callThen hf (List.forall_mem_singleton.2 hx)
      fun v hv => ih (List.forall_mem_cons.2 ⟨hv, hresults⟩) hrest

theorem keeps_each (harray : ∀ items, p (.array items)) (hargs : ∀ v ∈ args, v.All p) :
    Keeps p (each args) := by
  unfold each
  split
  · obtain ⟨hxs, hf⟩ := List.forall_mem_cons.1 hargs
    replace hf := List.forall_mem_singleton.1 hf
    exact keeps_eachOf hf hxs (Value.all_unfold harray hxs)
  · exact keeps_complain _

theorem keeps_map (harray : ∀ items, p (.array items)) (hargs : ∀ v ∈ args, v.All p) :
    Keeps p (map args) := by
  unfold map
  split
  · obtain ⟨hxs, hf⟩ := List.forall_mem_cons.1 hargs
    replace hf := List.forall_mem_singleton.1 hf
    exact keeps_mapOf harray hf (fun _ h => nomatch h) (Value.all_unfold harray hxs)
  · exact keeps_complain _

section Atoms

variable (hatom : ∀ v : Value, v.isAtom = true → p v)

include hatom

theorem all_getD {o : Option Value} (h : ∀ v ∈ o, v.All p) : (o.getD .absent).All p := by
  cases o with
  | none => exact Value.all_of_isAtom rfl (hatom _ rfl)
  | some v => exact h v rfl

theorem keeps_size (args : List Value) : Keeps p (size args) := by
  unfold size
  split <;> exact Value.all_of_isAtom rfl (hatom _ rfl)

theorem keeps_applyClosure (hargs : ∀ v ∈ args, v.All p) : Keeps p (applyClosure args) := by
  have hlast := all_getD hatom fun v hv => hargs v (List.mem_of_getLast? hv)
  unfold applyClosure
  split
  · next c hc =>
    rw [hc] at hlast
    exact keeps_delegate hlast fun v hv => hargs v ((List.dropLast_sublist args).subset hv)
  · exact keeps_complain _

theorem keeps_setVariable (hargs : ∀ v ∈ args, v.All p) : Keeps p (setVariable args) := by
  have hvalue := all_getD hatom fun v hv => hargs v (List.mem_of_getElem? (i := 1) hv)
  unfold setVariable
  split
  · exact ⟨List.forall_mem_singleton.2 hvalue, hvalue⟩
  · exact hvalue

theorem keeps_getVariable (args : List Value) : Keeps p (getVariable args) := by
  unfold getVariable
  split
  · exact fun found hfound => all_getD hatom hfound
  · exact Value.all_of_isAtom rfl (hatom _ rfl)

/-- Every function of the library hands on values of a kind, if it is handed such values. -/
theorem functions_keeps (harray : ∀ items, p (.array items)) (name : String)
    (hargs : ∀ v ∈ args, v.All p) : Keeps p (functions.procedure name args) := by
  have hleaf : ∀ {v : Value}, v.isAtom = true → v.All p := fun h => Value.all_of_isAtom h (hatom _ h)
  have hlast := all_getD hatom fun v hv => hargs v (List.mem_of_getLast? hv)
  have hothers : ∀ v ∈ args.dropLast, v.All p :=
    fun v hv => hargs v ((List.dropLast_sublist args).subset hv)
  refine FunctionTable.procedure_ofList ?_ (fun _ h => nomatch h)
  simp only [List.map_cons, List.map_nil, List.forall_mem_cons]
  refine ⟨hlast, keeps_size hatom args, hleaf rfl, keeps_delegate hlast hothers,
    keeps_applyClosure hatom hargs, ?touch, ?again, keeps_complain _, ?failAt,
    keeps_each harray hargs, keeps_map harray hargs, ?notice, keeps_setVariable hatom hargs,
    keeps_getVariable hatom args, fun _ => hleaf rfl, ?none⟩
  case touch => exact ⟨List.forall_mem_singleton.2 (hleaf rfl), hleaf rfl⟩
  case again => exact fun found hfound => keeps_delegate (all_getD hatom hfound) fun _ h => nomatch h
  case failAt => exact fun _ h => nomatch h
  case notice => exact keeps_logAll _ (hleaf rfl)
  case none => simp

end Atoms

/-- The functions of the library keep keys distinct. -/
theorem functions_keepsKeys : functions.KeepsKeys := fun name _ hargs =>
  (functions_keeps (fun _ h => (Value.wellFormed_of_isAtom h).here) (fun _ => trivial) name
    hargs).ordered

end Library

end Manifest
