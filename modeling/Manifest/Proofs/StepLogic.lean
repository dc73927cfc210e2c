import Manifest.Proofs.RegionLogic

/-!
# Logics of steps

A *logic of steps* relates steps of evaluation to each other, with a rule for everything that
evaluation is made of: the elementary steps (looking a name up, capturing the local variables,
compiling a pattern, an edge, a binding, a match), sequences, places, and layers that are opened and
dropped again. It speaks of evaluation within a set of expressions: errors and places are those of
the set, and steps hand on no closures but its own.

It is a logic for the region that is the whole set (`StepLogic.region`). So if looking variables up
and calling are related, then so is the evaluation of every expression of the set
(`StepLogic.rel_evalExpr`).
-/

namespace Manifest

/-- A relation between steps with a rule for everything that evaluation within a set of expressions
is made of. -/
structure StepLogic (N : NodeSet) where
  /-- how a step relates to another one -/
  Rel : ∀ {α : Type} [Carrier α], EvalM α → EvalM α → Prop
  answer : ∀ {α : Type} [Carrier α] {a : α}, N.Owns a → Rel (pure a) (pure a)
  raise : ∀ {α : Type} [Carrier α] {e : EvalError}, e.IsOwn N →
    Rel (EvalM.raise e : EvalM α) (EvalM.raise e)
  lookup : ∀ name, Rel (EvalM.read (·.env.get? name)) (EvalM.read (·.env.get? name))
  captured : ∀ E : Evaluator, Rel E.captured E.captured
  compile : ∀ engine source, Rel (EvalM.compile engine source) (EvalM.compile engine source)
  record : ∀ edges, Rel (EvalM.record edges) (EvalM.record edges)
  set : ∀ name {value}, N.Owns value →
    Rel (EvalM.changeEnv (·.set name value)) (EvalM.changeEnv (·.set name value))
  setCaptures : ∀ m, Rel (EvalM.changeEnv (·.setCaptures m)) (EvalM.changeEnv (·.setCaptures m))
  bind : ∀ {α β : Type} [Carrier α] [Carrier β] {m m' : EvalM α} {f f' : α → EvalM β},
    Rel m m' → (∀ a, N.Owns a → Rel (f a) (f' a)) → Rel (m >>= f) (m' >>= f')
  located : ∀ {α : Type} [Carrier α] {m m' : EvalM α} {e : Expr}, N.Mem e → Rel m m' →
    Rel (EvalM.located e.kind e.span m) (EvalM.located e.kind e.span m')
  /-- a layer that is no captures is opened and dropped again -/
  bracket : ∀ {α : Type} [Carrier α] {m m' : EvalM α} {l : Layer}, l.captures? = none →
    N.Owns l.vars? → Rel m m' →
    Rel (EvalM.guarded (EvalM.changeEnv (·.push l) >>= fun _ => m))
      (EvalM.guarded (EvalM.changeEnv (·.push l) >>= fun _ => m'))

namespace NodeSet

variable {N : NodeSet}

theorem HasLambda.default {l : Lambda} (h : N.HasLambda l) :
    ∀ p ∈ l.params, ∀ e ∈ p.default, N.Mem e :=
  fun p hp e he => h e (List.mem_cons_of_mem _ (List.mem_filterMap.2 ⟨p, hp, he⟩))

/-- The set has the defaults of parameters, and the closures of the arguments that they are paired
with. -/
def HasParams (N : NodeSet) (params : List (Param × Option Value)) : Prop :=
  ∀ p ∈ params, (∀ e ∈ p.1.default, N.Mem e) ∧ N.Owns p.2

theorem hasParams_byPosition {params : List Param} {args : List Value}
    (h : ∀ p ∈ params, ∀ e ∈ p.default, N.Mem e) (hargs : N.Owns args) :
    N.HasParams (Evaluator.byPosition params args) := by
  induction params generalizing args with
  | nil => exact fun _ h => (nomatch h)
  | cons p rest ih =>
    obtain ⟨hdefault, hrest⟩ := List.forall_mem_cons.1 h
    cases args with
    | nil => exact List.forall_mem_cons.2 ⟨⟨hdefault, owns_none⟩, ih hrest hargs⟩
    | cons v vs =>
      obtain ⟨hv, hvs⟩ := owns_cons.1 hargs
      refine List.forall_mem_cons.2 ⟨⟨hdefault, fun w hw => ?_⟩, ih hrest hvs⟩
      cases hw
      exact hv

theorem hasParams_byName {params : List Param} {named : Bindings}
    (h : ∀ p ∈ params, ∀ e ∈ p.default, N.Mem e) (hnamed : N.Owns named) :
    N.HasParams (Evaluator.byName params named) := by
  intro p hp
  obtain ⟨param, hparam, rfl⟩ := List.mem_map.1 hp
  exact ⟨h param hparam, owns_lookup hnamed param.name⟩

end NodeSet

namespace StepLogic

open EvalM NodeSet

variable {N : NodeSet} (L : StepLogic N) {α : Type} [Carrier α]

/-- A logic of steps is one for the whole set, which does not tell the inside of a choice apart. -/
def region : RegionLogic (Region.whole N) where
  Rel _ := L.Rel
  answer := L.answer
  raise := L.raise
  lookup := L.lookup
  compile := L.compile
  captured _ := L.captured
  record _ := L.record
  set _ := L.set
  setCaptures _ := L.setCaptures
  bind := L.bind
  located := L.located
  choice := L.bracket rfl owns_none

theorem rel_failWith {cause : Cause} (hoperands : cause.operands = [])
    (hcause : cause.isRecursionLimit = false) :
    L.Rel (failWith cause : EvalM α) (failWith cause) :=
  L.region.rel_failWith (b := false) hoperands hcause

variable {L}

/-- A choice is related to another one if both branches are. -/
theorem rel_ite {m m' n n' : EvalM α} (c : Prop) [Decidable c] (hm : L.Rel m m')
    (hn : L.Rel n n') : L.Rel (if c then m else n) (if c then m' else n') :=
  RegionLogic.rel_ite (L := L.region) (b := false) c hm hn

variable (L) (E : Evaluator) (mode : Mode) (limit : Option Nat)

/-- Looking a variable up is related to itself. -/
theorem rel_lookupVariable (inner : Expr) :
    L.Rel (E.lookupVariable inner) (E.lookupVariable inner) :=
  L.region.rel_lookupVariable (b := false) E inner

/-! ## Expressions

`mode` and `limit` are those of the second evaluator, and `invoke'` is what a call does there. -/

section Expressions

variable {L E mode limit} {invoke invoke' : Invoke}
  (hvar : ∀ inner, L.Rel (E.lookupVariable inner) ((E.under mode limit).lookupVariable inner))
  (hcall : ∀ name {args : List Value} place, N.Owns args →
    L.Rel (invoke name args place) (invoke' name args place))

include hvar hcall

/-- If looking variables up and calling are related, so is the evaluation of an expression. -/
theorem rel_evalExpr {e : Expr} (he : N.Mem e) :
    L.Rel (E.evalExpr invoke e) ((E.under mode limit).evalExpr invoke' e) :=
  RegionLogic.rel_evalExpr (L := L.region) (b := false) hvar (fun _ => hcall) he

theorem rel_evalOption {e : Option Expr} (h : ∀ x ∈ e.toList, N.Mem x) :
    L.Rel (E.evalOption invoke e) ((E.under mode limit).evalOption invoke' e) :=
  RegionLogic.rel_evalOption (L := L.region) (b := false) hvar (fun _ => hcall) h

theorem rel_evalItems {items : List Expr} (h : ∀ e ∈ items, N.Mem e) :
    L.Rel (E.evalItems invoke items) ((E.under mode limit).evalItems invoke' items) :=
  RegionLogic.rel_evalItems (L := L.region) (b := false) hvar (fun _ => hcall) h

theorem rel_evalOptions (subject : Value) {options : List CaseOption}
    {fallback fallback' : EvalM Value}
    (h : ∀ e ∈ options.flatMap fun o => o.result :: o.candidates, N.Mem e)
    (hfallback : L.Rel fallback fallback') :
    L.Rel (E.evalOptions invoke subject options fallback)
      ((E.under mode limit).evalOptions invoke' subject options fallback') :=
  RegionLogic.rel_evalOptions (L := L.region) hvar (fun _ => hcall) subject h hfallback

theorem rel_evalEntries (subject : Value) {entries : List SelectorEntry}
    (h : ∀ e ∈ entries.flatMap fun e => [e.pattern, e.result], N.Mem e) :
    L.Rel (E.evalEntries invoke subject entries)
      ((E.under mode limit).evalEntries invoke' subject entries) :=
  RegionLogic.rel_evalEntries (L := L.region) hvar (fun _ => hcall) subject h

end Expressions

/-! ## Arguments -/

section Arguments

variable {L} {eval eval' : Expr → EvalM Value} (heval : ∀ {e}, N.Mem e → L.Rel (eval e) (eval' e))

include heval

/-- Binding parameters is related if evaluating their defaults is. -/
theorem rel_bindParams {params : List (Param × Option Value)} {vars : Bindings}
    (hparams : N.HasParams params) (hvars : N.Owns vars) :
    L.Rel (Evaluator.bindParams eval params vars) (Evaluator.bindParams eval' params vars) := by
  induction params generalizing vars with
  | nil => exact L.answer ⟨hvars, fun _ _ => trivial⟩
  | cons p rest ih =>
    obtain ⟨⟨hdefault, harg⟩, hrest⟩ := List.forall_mem_cons.1 hparams
    obtain ⟨⟨name, default, span⟩, _ | v⟩ := p
    · cases default with
      | none =>
        exact L.bind (ih hrest hvars) fun _ hbound => L.answer ⟨hbound.1, fun _ _ => trivial⟩
      | some e =>
        exact L.bind (heval (hdefault e rfl)) fun _ hv => ih hrest (owns_bind hv hvars)
    · exact ih hrest (owns_bind (harg v rfl) hvars)

theorem rel_varsByPosition {c : Closure} {args : List Value} (hc : N.Owns (Value.closure c))
    (hargs : N.Owns args) :
    L.Rel (Evaluator.varsByPosition eval c args) (Evaluator.varsByPosition eval' c args) := by
  obtain ⟨hlambda, -, hcaptures⟩ := owns_closure.1 hc
  refine rel_ite _ (L.rel_failWith rfl rfl) (L.bind (rel_bindParams heval ?_ hcaptures) ?_)
  · exact hasParams_byPosition hlambda.default hargs
  · exact fun _ hbound => rel_ite _ (L.answer hbound.1) (L.rel_failWith rfl rfl)

theorem rel_varsByName {c : Closure} {named : Bindings} (hc : N.Owns (Value.closure c))
    (hnamed : N.Owns named) (spillOver : Bool) :
    L.Rel (Evaluator.varsByName eval c named spillOver)
      (Evaluator.varsByName eval' c named spillOver) := by
  obtain ⟨hlambda, -, hcaptures⟩ := owns_closure.1 hc
  refine rel_ite _ (L.rel_failWith rfl rfl) (L.bind (rel_bindParams heval ?_ ?_) ?_)
  · exact hasParams_byName hlambda.default hnamed
  · split
    · exact owns_bindAll hcaptures hnamed
    · exact hcaptures
  · exact fun _ hbound => rel_ite _ (L.answer hbound.1)
      (L.raise ((isOwn_of_noOperands rfl rfl).withNote _))

end Arguments

end StepLogic

end Manifest
