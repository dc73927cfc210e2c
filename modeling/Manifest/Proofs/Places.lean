import Manifest.Proofs.Contract
import Manifest.Proofs.Library

/-!
# Places of errors

Every error of an evaluation points at an expression of the program: it has a span and the name of a
kind, and both are those of one expression that occurs in the program, be it in the body of a lambda
or in the default of a parameter.

Expressions give their place to errors that have none, and only then; so what remains to be said is
that all expressions that are evaluated belong to the program. Closures bring expressions along. But
every closure that there is in a value, a variable, an argument or the operand of an error was made
by a lambda of the program: that is an invariant of evaluation (`placing`), since host functions
create no closures and there were none at the start.
-/

namespace Manifest

/-! ## Host functions -/

namespace FunctionTable

/-- The functions of a table create no closures: the closures in what they hand on, be it a value, a
variable, an argument or the operand of an error, are of any kind that those are of which they are
handed. -/
def CreatesNoClosures (functions : FunctionTable) : Prop :=
  ∀ (kind : Closure → Prop) name args, (∀ v ∈ args, v.ClosuresIn kind) →
    (functions.procedure name args).Keeps (·.ClosuresIn kind)
      fun e => ∀ v ∈ e.cause.operands, v.ClosuresIn kind

/-- The functions of a table give no places to errors: one that they end with has no place, or that
of an error of a callback. -/
def GivesNoPlaces (functions : FunctionTable) : Prop :=
  ∀ places : Option Span → Option String → Prop, places none none → ∀ name args,
    (functions.procedure name args).Keeps (fun _ => True) fun e => places e.span e.node

end FunctionTable

/-- No variable of an environment holds a closure, be it inside other values. -/
def Environment.HoldsNoClosures (env : Environment) : Prop :=
  Carrier.All (Value.ClosuresIn fun _ => False) env

/-- Nothing is known of the keys of the values that a set of expressions is evaluated with. -/
class NodeSet.AnyKeys (N : NodeSet) : Prop where
  not_distinctKeys : ¬ N.DistinctKeys

namespace NodeSet

variable {N : NodeSet} [N.AnyKeys]

instance (e : Expr) : (of e).AnyKeys :=
  ⟨id⟩

/-- Then it is only closures that matter. -/
theorem admits_iff {v : Value} : N.Admits v ↔ ∀ c, v = .closure c → N.HasLambda c.lambda :=
  ⟨fun h => h.lambda, fun h => ⟨h, fun hN => absurd hN AnyKeys.not_distinctKeys⟩⟩

theorem owns_eq_closuresIn :
    Value.All N.Admits = Value.ClosuresIn fun c => N.HasLambda c.lambda :=
  congrArg Value.All (funext fun _ => propext admits_iff)

theorem owns_of_holdsNoClosures {env : Environment} (h : env.HoldsNoClosures) : N.Owns env := by
  have hvalue : ∀ {v : Value}, v.ClosuresIn (fun _ => False) → N.Owns v := fun hv =>
    hv.mono fun _ hpart => admits_iff.2 fun c hc => (hpart c hc).elim
  exact ⟨fun b hb => ⟨trivial, hvalue (h.1 b hb).2⟩,
    fun l hl vars hvars b hb => ⟨trivial, hvalue (h.2 l hl vars hvars b hb).2⟩⟩

end NodeSet

/-! ## The invariant -/

open EvalM NodeSet

/-- All closures are made of expressions of a set, and errors have a place in it, if any. -/
def placing (N : NodeSet) : Contract N where
  holds s := N.Owns s.env
  errors e := N.Owns e.cause.operands ∧ (e.Unplaced ∨ e.PlacedIn N)
  own he := ⟨he.operands, he.place⟩
  withNode hx he := ⟨by rw [EvalError.cause_withNode]; exact he.1, .inr (.withNode hx he.2)⟩
  get? hs name := owns_named? hs name
  capture hs := owns_capture hs
  note {s} hs source := by
    rw [State.env_notePattern]
    exact hs
  record hs _ := hs
  log hs _ := hs
  change hs _ hvalues := owns_apply hs hvalues

/-- A frame gives no place to an error. -/
theorem placing_framed {N : NodeSet} {limit : Option Nat} {m : EvalM Value} (frame : Frame)
    (hm : (placing N).Meets m) : (placing N).Meets (framed limit frame m) := by
  refine hm.framed frame (fun _ hs => hs) (fun _ => ⟨owns_nil, .inl ⟨rfl, rfl⟩⟩) ?_
  rintro e calls ⟨hoperands, hplace⟩
  refine ⟨by rw [CallStack.cause_attach]; exact hoperands, ?_⟩
  rw [EvalError.Unplaced, EvalError.PlacedIn, CallStack.span_attach, CallStack.node_attach]
  exact hplace

namespace Evaluator

variable {E : Evaluator}

/-- The invariant is a logic of calls, for host functions that create no closures and give no
places. -/
def placedCalls (hcreates : E.functions.CreatesNoClosures) (hgives : E.functions.GivesNoPlaces)
    (N : NodeSet) [N.AnyKeys] : CallLogic E N Unit :=
  Contract.calls (fun _ => placing N) (fun _ i => i) (fun frame hm => placing_framed frame hm) (by
    intro _ name args hargs
    have hplaces := hgives (fun span node => (span = none ∧ node = none) ∨
      ∃ x, N.Mem x ∧ span = some x.span ∧ node = some x.kind) (.inl ⟨rfl, rfl⟩) name args
    change Carrier.All (Value.All N.Admits) args at hargs
    change Procedure.KeepsOrdered (Value.All N.Admits)
      (fun e => Carrier.All (Value.All N.Admits) e.cause.operands ∧ _) _
    rw [owns_eq_closuresIn] at hargs ⊢
    exact ((hcreates _ name args hargs).and_errors hplaces).ordered)

/-- **Errors point at the program**: where no variable holds a closure, an error of an evaluation
has the span and the kind of one expression that occurs in the program. -/
theorem eval_error_placed (hcreates : E.functions.CreatesNoClosures)
    (hgives : E.functions.GivesNoPlaces) {n : Nat} {p : Expr} {s t : State} {e : EvalError}
    (henv : s.env.HoldsNoClosures) (h : E.eval n p s = some (.error e, t)) :
    ∃ x : Expr, x.OccursIn p ∧ e.span = some x.span ∧ e.node = some x.kind := by
  have hmeets : (placing (.of p)).Meets (E.eval n p) :=
    (placedCalls hcreates hgives (.of p)).rel_eval n () .here
  obtain ⟨-, -, ⟨hspan, -⟩ | hplaced⟩ := hmeets (owns_of_holdsNoClosures henv) h
  · -- the program itself gives a place to an error that has none
    obtain ⟨form, span⟩ := p
    obtain ⟨r, -, hr⟩ := located_eq_some h
    cases r with
    | ok v => cases hr
    | error e' =>
      cases hr
      exact absurd hspan (EvalError.span_withNode_ne_none _ _ _)
  · exact hplaced

/-- The function `apply` alone, which calls its last argument with the others. -/
def applyTable : FunctionTable :=
  NameMap.ofList [("apply", ⟨Library.apply, true⟩)]

theorem applyTable_createsNoClosures : applyTable.CreatesNoClosures := by
  intro kind name args hargs
  refine FunctionTable.procedure_ofList ?_ (fun _ hv => nomatch hv)
  simp only [List.map_cons, List.map_nil, List.forall_mem_cons]
  -- what is called is the last argument, or nothing that could be called
  have hcallable : (args.getLast?.getD .absent).ClosuresIn kind := by
    cases hlast : args.getLast? with
    | none => exact Value.closuresIn_of_isAtom rfl
    | some v => exact hargs v (List.mem_of_getLast? hlast)
  have hothers : ∀ v ∈ args.dropLast, v.ClosuresIn kind :=
    fun v hv => hargs v ((List.dropLast_sublist args).subset hv)
  exact ⟨⟨⟨hcallable, hothers⟩, fun _ hv => hv, fun _ he => he⟩, by simp⟩

theorem applyTable_givesNoPlaces : applyTable.GivesNoPlaces := by
  intro places hnone name args
  refine FunctionTable.procedure_ofList ?_ hnone
  simp only [List.map_cons, List.map_nil, List.forall_mem_cons]
  exact ⟨⟨⟨trivial, fun _ _ => trivial⟩, fun _ _ => trivial, fun _ he => he⟩, by simp⟩

/-- The program `apply() || { -"x" }`. -/
def failingLambda : Expr :=
  ⟨.callNamed ⟨.qualifiedName "apply", ⟨0, 5⟩⟩ []
    (some ⟨0, [], ⟨.unary .neg ⟨.literal (.string "x"), ⟨14, 17⟩⟩, ⟨13, 17⟩⟩, ⟨8, 19⟩⟩), ⟨0, 19⟩⟩

/-- An error in the body of a lambda points there, although a host function called the closure. -/
theorem eval_error_placed_lambda : ∃ e t,
    (⟨.strict, some 3, .standard, applyTable, true⟩ : Evaluator).eval 1 failingLambda
        (.initial (.ofGlobals [])) = some (.error e, t) ∧
    e.span = some ⟨13, 17⟩ ∧
    ∃ x : Expr, x.OccursIn failingLambda ∧ e.span = some x.span ∧ e.node = some x.kind := by
  obtain ⟨e, t, h, hspan⟩ : ∃ e t,
      (⟨.strict, some 3, .standard, applyTable, true⟩ : Evaluator).eval 1 failingLambda
          (.initial (.ofGlobals [])) = some (.error e, t) ∧ e.span = some ⟨13, 17⟩ :=
    ⟨_, _, rfl, rfl⟩
  exact ⟨e, t, h, hspan, eval_error_placed applyTable_createsNoClosures applyTable_givesNoPlaces
    ⟨List.forall_mem_nil _, List.forall_mem_nil _⟩ h⟩

end Evaluator

end Manifest
