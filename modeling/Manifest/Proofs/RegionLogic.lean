import Manifest.Evaluator.Run
import Manifest.Expr.Acts
import Manifest.Proofs.Operations

/-!
# Logics of steps within a region

A *logic of steps within a region* relates steps of evaluation to each other, outside and inside of
choices. It has a rule for everything that the evaluation of an expression is made of: the
elementary steps, sequences, places, and choices. What only some expressions do, such as binding a
name or recording an edge, has a rule only where the region permits it. So a logic may be about
expressions that bind no names, say, and then it need not relate the binding of a name to anything.

If looking variables up and calling are related, then so is the evaluation of every expression of
the region (`RegionLogic.rel_evalExpr`). This is the one induction over the tree of expressions. It
compares two evaluators that differ in their mode and their limit, and in what a call does. A
property of single runs is a logic as well, one that only looks at the first step.
-/

namespace Manifest

/-- Relations between steps, outside (`false`) and inside (`true`) of choices, with a rule for
everything that evaluation within a region is made of. -/
structure RegionLogic {N : NodeSet} (R : Region N) where
  /-- how a step relates to another one -/
  Rel : Bool → ∀ {α : Type} [Carrier α], EvalM α → EvalM α → Prop
  answer : ∀ {b} {α : Type} [Carrier α] {a : α}, N.Owns a → Rel b (pure a) (pure a)
  raise : ∀ {b} {α : Type} [Carrier α] {e : EvalError}, e.IsOwn N →
    Rel b (EvalM.raise e : EvalM α) (EvalM.raise e)
  lookup : ∀ {b} name, Rel b (EvalM.read (·.env.get? name)) (EvalM.read (·.env.get? name))
  compile : ∀ {b} engine source, Rel b (EvalM.compile engine source) (EvalM.compile engine source)
  captured : ∀ {b}, R.Permits b .calls → ∀ E : Evaluator, Rel b E.captured E.captured
  record : ∀ {b}, R.Permits b .relates → ∀ edges,
    Rel b (EvalM.record edges) (EvalM.record edges)
  set : ∀ {b}, R.Permits b .assigns → ∀ name {value}, N.Owns value →
    Rel b (EvalM.changeEnv (·.set name value)) (EvalM.changeEnv (·.set name value))
  setCaptures : ∀ {b}, R.Permits b .captures → ∀ m,
    Rel b (EvalM.changeEnv (·.setCaptures m)) (EvalM.changeEnv (·.setCaptures m))
  bind : ∀ {b} {α β : Type} [Carrier α] [Carrier β] {m m' : EvalM α} {f f' : α → EvalM β},
    Rel b m m' → (∀ a, N.Owns a → Rel b (f a) (f' a)) → Rel b (m >>= f) (m' >>= f')
  located : ∀ {b} {α : Type} [Carrier α] {m m' : EvalM α} {e : Expr}, N.Mem e → Rel b m m' →
    Rel b (EvalM.located e.kind e.span m) (EvalM.located e.kind e.span m')
  /-- what happens above a fence of its own is inside of a choice -/
  choice : ∀ {b} {α : Type} [Carrier α] {m m' : EvalM α}, Rel true m m' →
    Rel b (EvalM.guarded (EvalM.changeEnv (·.openFence) >>= fun _ => m))
      (EvalM.guarded (EvalM.changeEnv (·.openFence) >>= fun _ => m'))

/-- The evaluator with another mode and another limit. -/
def Evaluator.under (E : Evaluator) (mode : Mode) (limit : Option Nat) : Evaluator :=
  { E with mode := mode, callLimit := limit }

/-- What is captured is in order, so putting it in order makes no difference. -/
theorem Evaluator.captured_bind (E : Evaluator) {α : Type} (f : Bindings → EvalM α) :
    (E.captured >>= f) = E.captured >>= fun vars => f (NameMap.ofList vars) := by
  have hordered : ∀ env, (E.capturedIn env).Ordered := by
    intro env
    rw [capturedIn]
    split
    · exact env.ordered_capture
    · exact .nil
  funext s
  exact congrArg (f · s) (hordered s.env).ofList_eq.symm

/-- Bindings that go on after others are made in a step of their own. -/
theorem EvalM.bindNames_andThen (first next : Environment → BindOutcome) :
    bindNames (fun env => (first env).andThen next) =
      bindNames first >>= fun _ => bindNames next := by
  funext s
  rw [bind_apply, bindNames, bindNames]
  rcases first s.env with ⟨_ | _, env⟩ <;> rfl

/-- The set has the parts of a lambda at a call that it has. -/
theorem NodeSet.hasLambda_of_parts {N : NodeSet} {lambda : Option Lambda}
    (h : ∀ e ∈ lambda.toList.flatMap Lambda.parts, N.Mem e) : ∀ l ∈ lambda, N.HasLambda l :=
  fun l hl e he => h e (List.mem_flatMap.2 ⟨l, Option.mem_toList.2 hl, he⟩)

namespace RegionLogic

open EvalM NodeSet

variable {N : NodeSet} {R : Region N} (L : RegionLogic R) {b : Bool} {α : Type} [Carrier α]

theorem of_mem_one {p : Expr → Prop} {x : Expr} (h : ∀ e ∈ [x], p e) : p x :=
  List.forall_mem_singleton.1 h

theorem of_mem_two {p : Expr → Prop} {x y : Expr} (h : ∀ e ∈ [x, y], p e) : p x ∧ p y :=
  have ⟨hx, hy⟩ := List.forall_mem_cons.1 h
  ⟨hx, of_mem_one hy⟩

theorem rel_failWith {cause : Cause} (hoperands : cause.operands = [])
    (hcause : cause.isRecursionLimit = false) :
    L.Rel b (failWith cause : EvalM α) (failWith cause) :=
  L.raise (isOwn_of_noOperands hoperands hcause)

theorem rel_ofExcept {x : Except EvalError α} (h : N.Sound x) :
    L.Rel b (ofExcept x) (ofExcept x) := by
  cases x with
  | ok a => exact L.answer h
  | error e => exact L.raise h

/-- An expression where it makes no sense is an error at its own place. -/
theorem rel_misplaced {e : Expr} (he : N.Mem e) :
    L.Rel b (Evaluator.misplaced e : EvalM α) (Evaluator.misplaced e) :=
  L.raise ((isOwn_of_noOperands rfl rfl).withNode he)

variable {L}

/-- A choice is related to another one if both branches are. -/
theorem rel_ite {m m' n n' : EvalM α} (c : Prop) [Decidable c] (hm : L.Rel b m m')
    (hn : L.Rel b n n') : L.Rel b (if c then m else n) (if c then m' else n') := by
  split
  · exact hm
  · exact hn

variable (L)

/-! ## Assignment -/

/-- Binding a name is either an error or a change of the environment. -/
theorem rel_assign (hassigns : R.Permits b .assigns) (name : String) {value : Value}
    (h : N.Owns value) :
    L.Rel b (bindNames fun env => env.assign name value)
      (bindNames fun env => env.assign name value) := by
  cases hname : isBindable name with
  | true =>
    have hbinds : (bindNames fun env => env.assign name value) =
        changeEnv (·.set name value) := by
      funext s
      rw [bindNames, Environment.assign_of_bindable hname]
      rfl
    rw [hbinds]
    exact L.set hassigns name h
  | false =>
    have hfail : (bindNames fun env => env.assign name value) = failWith (refusal name) := by
      funext s
      rw [bindNames, Environment.assign_of_not_bindable hname]
      rfl
    rw [hfail, refusal]
    split
    · exact L.rel_failWith rfl rfl
    · exact L.rel_failWith rfl rfl

theorem rel_assignAll (hassigns : R.Permits b .assigns) {bindings : List (String × Value)}
    (h : N.Owns bindings) :
    L.Rel b (bindNames (Environment.assignAll bindings))
      (bindNames (Environment.assignAll bindings)) := by
  induction bindings with
  | nil => exact L.answer trivial
  | cons binding rest ih =>
    obtain ⟨name, value⟩ := binding
    obtain ⟨hhead, hrest⟩ := owns_cons.1 h
    have hcons : bindNames (Environment.assignAll ((name, value) :: rest)) =
        (bindNames fun env => env.assign name value) >>= fun _ =>
          bindNames (Environment.assignAll rest) :=
      bindNames_andThen _ _
    rw [hcons]
    exact L.bind (L.rel_assign hassigns name hhead.2) fun _ _ => ih hrest

/-- Assigning to a target is making its bindings. -/
theorem rel_assignTarget (hassigns : R.Permits b .assigns) (target : Target) {value : Value}
    (h : N.Owns value) :
    L.Rel b (Evaluator.assignTarget target value) (Evaluator.assignTarget target value) := by
  have hbindings : target.assign value = Environment.assignAll (target.bindings value) :=
    funext (target.assign_eq_assignAll value)
  rw [Evaluator.assignTarget, hbindings]
  exact L.bind (L.rel_assignAll hassigns (owns_bindings target h)) fun _ _ => L.answer h

theorem rel_assignCompound (hassigns : R.Permits b .assigns) (op : AssignOp) (arith : ArithmeticOp)
    (name : String) {value : Value} (h : N.Owns value) :
    L.Rel b (Evaluator.assignCompound op arith name value)
      (Evaluator.assignCompound op arith name value) := by
  refine L.bind (L.lookup name) fun current hcurrent => ?_
  have hgetD := owns_getD hcurrent
  split
  · refine L.answer ?_
    split
    · exact h
    · exact owns_of_isAtom rfl
  · exact L.bind (L.rel_ofExcept (sound_compoundValue op arith hgetD h)) fun _ hcombined =>
      L.rel_assignTarget hassigns _ hcombined

/-! ## Matching -/

theorem rel_capture (hcaptures : R.Permits b .captures) (r : Regex) (text : String) :
    L.Rel b (Evaluator.capture r text) (Evaluator.capture r text) :=
  L.bind (L.setCaptures hcaptures _) fun _ _ => L.answer trivial

theorem rel_matchOperands (hcaptures : R.Permits b .captures) (E : Evaluator) (op : MatchOp)
    {left right : Value} (hleft : N.Owns left) :
    L.Rel b (E.matchOperands op left right) (E.matchOperands op left right) := by
  refine L.bind ?_ fun r _ => ?_
  · cases right with
    | regex r => exact L.answer trivial
    | string source => exact L.compile E.engine source
    | _ => exact L.rel_failWith rfl rfl
  · cases left with
    | string text =>
      exact L.bind (L.rel_capture hcaptures r text) fun _ _ => L.answer (owns_of_isAtom rfl)
    | _ => exact L.raise (isOwn_of_operand hleft rfl rfl)

/-! ## Variables and choices

`mode` and `limit` are those of the second evaluator. -/

variable (E : Evaluator) (mode : Mode) (limit : Option Nat)

theorem rel_lambdaArgument (hcalls : R.Permits b .calls) {lambda : Option Lambda}
    (h : ∀ l ∈ lambda, N.HasLambda l) :
    L.Rel b (E.lambdaArgument lambda) ((E.under mode limit).lambdaArgument lambda) := by
  cases lambda with
  | none => exact L.answer owns_nil
  | some l =>
    have hlambda : (E.under mode limit).lambdaArgument (some l) = E.lambdaArgument (some l) := rfl
    have hordered : E.lambdaArgument (some l) =
        E.captured >>= fun vars => pure [.closure ⟨l, NameMap.ofList vars⟩] := E.captured_bind _
    rw [hlambda, hordered]
    refine L.bind (L.captured hcalls E) fun vars hvars => L.answer (owns_singleton.2 ?_)
    exact owns_closure.2 ⟨h l rfl, fun _ => (NameMap.ordered_ofList vars).imp Std.ne_of_lt,
      owns_bindAll owns_nil hvars⟩

/-- Looking a variable up is related to itself. -/
theorem rel_lookupVariable (inner : Expr) :
    L.Rel b (E.lookupVariable inner) (E.lookupVariable inner) := by
  rw [Evaluator.lookupVariable]
  split
  · refine L.bind (L.lookup _) fun found hfound => ?_
    split
    · exact L.answer (hfound _ rfl)
    · exact rel_ite _ (L.rel_failWith rfl rfl) (L.answer (owns_of_isAtom rfl))
  · split
    · exact L.bind (L.lookup _) fun _ hfound => L.answer (owns_getD hfound)
    · exact L.rel_failWith rfl rfl

theorem rel_selects (subject pattern : Value) :
    L.Rel true (E.selects subject pattern) ((E.under mode limit).selects subject pattern) := by
  cases pattern with
  | regex r =>
    cases subject with
    | string text => exact L.rel_capture R.choice r text
    | _ => exact L.answer trivial
  | _ => exact L.answer trivial

theorem rel_selectsAny (subject : Value) (patterns : List Value) :
    L.Rel true (E.selectsAny subject patterns)
      ((E.under mode limit).selectsAny subject patterns) := by
  induction patterns with
  | nil => exact L.answer trivial
  | cons pattern rest ih =>
    exact L.bind (L.rel_selects E mode limit subject pattern) fun _ _ =>
      rel_ite _ (L.answer trivial) ih

/-! ## Expressions

`invoke'` is what a call does in the second evaluator. -/

section Expressions

variable {L E mode limit} {invoke invoke' : Invoke}
  (hvar : ∀ {b} inner, L.Rel b (E.lookupVariable inner) ((E.under mode limit).lookupVariable inner))
  (hcall : ∀ {b}, R.Permits b .calls → ∀ name {args : List Value} place, N.Owns args →
    L.Rel b (invoke name args place) (invoke' name args place))

-- the two hypotheses are used through the other theorems of the block, which the linter misses
set_option linter.unusedSectionVars false

include hvar hcall

-- The induction is on the tree. A choice hands its parts on as inside (`b = true`), where captures
-- may be set; its rule leads back to wherever the choice itself stands.
mutual

/-- If looking variables up and calling are related, so is the evaluation of an expression. -/
theorem rel_evalExpr : ∀ {b : Bool} {e : Expr}, R.Mem b e →
    L.Rel b (E.evalExpr invoke e) ((E.under mode limit).evalExpr invoke' e)
  | _, ⟨_, _⟩, he => L.located (R.node he) (rel_evalForm (Region.hasForm he))
termination_by structural _ e => e

theorem rel_evalForm : ∀ {b : Bool} {form : Form}, R.HasForm b form →
    L.Rel b (E.evalForm invoke form) ((E.under mode limit).evalForm invoke' form)
  | _, .nop, _ | _, .absent, _ | _, .virtualQuery _, _ | _, .exportedQuery _, _
  | _, .collect _ _, _ | _, .default, _ | _, .qualifiedName _, _ | _, .reservedWord _, _ =>
    L.answer (owns_of_isAtom rfl)
  | _, .literal value, _ => L.answer (owns_of_isAtom (by cases value <;> rfl))
  | _, .qualifiedReference _, _ => L.answer (owns_type.2 owns_nil)
  | _, .regex source, _ =>
    L.bind (L.compile E.engine source) fun _ _ => L.answer (owns_of_isAtom rfl)
  | _, .variable inner, _ => hvar inner
  | _, .unary .not _, h =>
    L.bind (rel_evalExpr (of_mem_one h.parts)) fun _ _ => L.answer (owns_of_isAtom rfl)
  | _, .unary .neg _, h =>
    L.bind (rel_evalExpr (of_mem_one h.parts)) fun _ hv => L.rel_ofExcept (sound_negate hv)
  | _, .unfold _, h =>
    L.bind (rel_evalExpr (of_mem_one h.parts)) fun _ hv => L.answer (owns_array.2 (owns_unfold hv))
  | _, .arithmetic op _ _, h =>
    have ⟨hleft, hright⟩ := of_mem_two h.parts
    L.bind (rel_evalExpr hleft) fun _ ha => L.bind (rel_evalExpr hright) fun _ hb =>
      L.rel_ofExcept (sound_combine op ha hb)
  | _, .comparison op _ _, h =>
    have ⟨hleft, hright⟩ := of_mem_two h.parts
    L.bind (rel_evalExpr hleft) fun _ ha => L.bind (rel_evalExpr hright) fun _ hb =>
      L.rel_ofExcept (sound_holdsValue E.comparator op ha hb)
  | _, .matching op _ _, h =>
    have ⟨hleft, hright⟩ := of_mem_two h.parts
    L.bind (rel_evalExpr hleft) fun _ ha => L.bind (rel_evalExpr hright) fun _ _ =>
      L.rel_matchOperands (h.act _ rfl) E op ha
  | _, .membership _ _, h =>
    have ⟨hleft, hright⟩ := of_mem_two h.parts
    L.bind (rel_evalExpr hleft) fun _ _ => L.bind (rel_evalExpr hright) fun _ _ =>
      L.answer (owns_of_isAtom rfl)
  | _, .conjunction _ _, h =>
    have ⟨hleft, hright⟩ := of_mem_two h.parts
    L.bind (rel_evalExpr hleft) fun _ _ => rel_ite _
      (L.bind (rel_evalExpr hright) fun _ _ => L.answer (owns_of_isAtom rfl))
      (L.answer (owns_of_isAtom rfl))
  | _, .disjunction _ _, h =>
    have ⟨hleft, hright⟩ := of_mem_two h.parts
    L.bind (rel_evalExpr hleft) fun _ _ => rel_ite _
      (L.answer (owns_of_isAtom rfl))
      (L.bind (rel_evalExpr hright) fun _ _ => L.answer (owns_of_isAtom rfl))
  | _, .relationship _ _ _, h =>
    have ⟨hleft, hright⟩ := of_mem_two h.parts
    L.bind (rel_evalExpr hleft) fun _ _ => L.bind (rel_evalExpr hright) fun _ hb =>
      L.bind (L.record (h.act _ rfl) _) fun _ _ => L.answer hb
  | _, .assignment .assign _ _, h =>
    have ⟨hleft, hright⟩ := of_mem_two h.parts
    L.bind (L.rel_ofExcept (sound_ofExpr (R.node hleft))) fun target _ =>
      L.bind (rel_evalExpr hright) fun _ hvalue => L.rel_assignTarget (h.act _ rfl) target hvalue
  | _, .assignment (.compound op) _ _, h =>
    have ⟨hleft, hright⟩ := of_mem_two h.parts
    rel_ite _
      (L.bind (L.rel_ofExcept (sound_compoundName (R.node hleft))) fun name _ =>
        L.bind (rel_evalExpr hright) fun _ hvalue =>
          L.rel_assignCompound (h.act _ rfl) _ op name hvalue)
      (L.rel_failWith rfl rfl)
  | _, .parenthesized _, h | _, .program _, h | _, .text _, h | _, .heredoc _ _, h =>
    rel_evalExpr (of_mem_one h.parts)
  | _, .block _, h => rel_evalBlock h.parts (owns_of_isAtom rfl)
  | _, .ifThen _ _ _, h =>
    have ⟨htest, hbranches⟩ := List.forall_mem_cons.1 h.parts
    have ⟨hyes, hno⟩ := List.forall_mem_cons.1 hbranches
    L.choice (L.bind (rel_evalExpr htest) fun _ _ =>
      rel_ite _ (rel_evalExpr hyes) (rel_evalOption hno))
  | _, .unlessThen _ _ _, h =>
    have ⟨htest, hbranches⟩ := List.forall_mem_cons.1 h.parts
    have ⟨hyes, hno⟩ := List.forall_mem_cons.1 hbranches
    L.choice (L.bind (rel_evalExpr htest) fun _ _ =>
      rel_ite _ (rel_evalOption hno) (rel_evalExpr hyes))
  | _, .caseOf _ _, h =>
    have ⟨htest, hoptions⟩ := List.forall_mem_cons.1 h.parts
    L.choice (L.bind (rel_evalExpr htest) fun subject _ =>
      rel_evalOptions subject hoptions (L.answer (owns_of_isAtom rfl)))
  | _, .selector _ _, h =>
    have ⟨htest, hentries⟩ := List.forall_mem_cons.1 h.parts
    L.choice (L.bind (rel_evalExpr htest) fun subject _ =>
      rel_evalEntries subject hentries)
  | _, .access _ _, h =>
    have ⟨hreceiver, hkeys⟩ := List.forall_mem_cons.1 h.parts
    L.bind (rel_evalExpr hreceiver) fun _ hv => L.bind (rel_evalItems hkeys) fun _ hks =>
      L.rel_ofExcept (sound_access hv hks)
  | _, .namedAccess _ _, _ => L.rel_failWith rfl rfl
  | _, .callNamed ⟨form, _⟩ args lambda, h => by
    obtain ⟨hfunctor, hrest⟩ := List.forall_mem_cons.1 h.parts
    obtain ⟨hargs, hnodes⟩ := List.forall_mem_append.1 hrest
    have hlambda := hasLambda_of_parts fun _ hpart => R.node (hnodes _ hpart)
    cases form with
    | qualifiedName name =>
      refine rel_ite _ ?_ (L.rel_failWith rfl rfl)
      exact L.bind (rel_evalItems hargs) fun _ hvs =>
        L.bind (L.rel_lambdaArgument E mode limit (h.act _ rfl) hlambda) fun _ hf =>
          hcall (h.act _ rfl) _ _ (owns_append.2 ⟨hvs, hf⟩)
    | _ => exact L.rel_misplaced (R.node hfunctor)
  | _, .callMethod ⟨form, _⟩ args lambda, h => by
    obtain ⟨hfunctor, hrest⟩ := List.forall_mem_cons.1 h.parts
    obtain ⟨hargs, hnodes⟩ := List.forall_mem_append.1 hrest
    have hlambda := hasLambda_of_parts fun _ hpart => R.node (hnodes _ hpart)
    cases form with
    | namedAccess receiver name =>
      obtain ⟨hreceiver, hname⟩ := of_mem_two (Region.hasForm hfunctor).parts
      obtain ⟨form, place⟩ := name
      cases form with
      | qualifiedName name =>
        refine rel_ite _ ?_ (L.rel_failWith rfl rfl)
        exact L.bind (rel_evalExpr hreceiver) fun _ hv => L.bind (rel_evalItems hargs) fun _ hvs =>
          L.bind (L.rel_lambdaArgument E mode limit (h.act _ rfl) hlambda) fun _ hf =>
            hcall (h.act _ rfl) _ _ (owns_append.2 ⟨owns_cons.2 ⟨hv, hvs⟩, hf⟩)
      | _ => exact L.rel_misplaced (R.node hname)
    | _ => exact L.rel_misplaced (R.node hfunctor)
  | _, .list _, h => L.bind (rel_evalItems h.parts) fun _ hvs => L.answer (owns_array.2 hvs)
  | _, .hash _, h => rel_evalHash h.parts owns_empty
  | _, .interpolation _, h =>
    L.bind (rel_evalSegments h.parts) fun _ _ => L.answer (owns_of_isAtom rfl)
termination_by structural _ form => form

theorem rel_evalBlock : ∀ {b : Bool} {statements : List Expr} {last : Value},
    (∀ e ∈ statements, R.Mem b e) → N.Owns last →
    L.Rel b (E.evalBlock invoke statements last)
      ((E.under mode limit).evalBlock invoke' statements last)
  | _, [], _, _, hlast => L.answer hlast
  | _, _ :: _, _, h, _ =>
    have ⟨he, hrest⟩ := List.forall_mem_cons.1 h
    L.bind (rel_evalExpr he) fun _ hv => rel_evalBlock hrest hv
termination_by structural _ statements => statements

theorem rel_evalOption : ∀ {b : Bool} {e : Option Expr}, (∀ x ∈ e.toList, R.Mem b x) →
    L.Rel b (E.evalOption invoke e) ((E.under mode limit).evalOption invoke' e)
  | _, none, _ => L.answer (owns_of_isAtom rfl)
  | _, some _, h => rel_evalExpr (of_mem_one h)
termination_by structural _ e => e

theorem rel_evalItem : ∀ {b : Bool} {e : Expr}, R.Mem b e →
    L.Rel b (E.evalItem invoke e) ((E.under mode limit).evalItem invoke' e)
  | _, ⟨form, span⟩, he => by
    have own := L.located (R.node he) (rel_evalForm (Region.hasForm he))
    cases form with
    | unfold inner =>
      exact L.bind (rel_evalExpr (of_mem_one (Region.hasForm he).parts)) fun _ hv =>
        L.answer (owns_unfold hv)
    | _ => exact L.bind own fun _ hv => L.answer (owns_singleton.2 hv)
termination_by structural _ e => e

theorem rel_evalItems : ∀ {b : Bool} {items : List Expr}, (∀ e ∈ items, R.Mem b e) →
    L.Rel b (E.evalItems invoke items) ((E.under mode limit).evalItems invoke' items)
  | _, [], _ => L.answer owns_nil
  | _, _ :: _, h =>
    have ⟨he, hrest⟩ := List.forall_mem_cons.1 h
    L.bind (rel_evalItem he) fun _ hvs => L.bind (rel_evalItems hrest) fun _ hws =>
      L.answer (owns_append.2 ⟨hvs, hws⟩)
termination_by structural _ items => items

theorem rel_evalHash : ∀ {b : Bool} {entries : List HashEntry} {done : Entries},
    (∀ e ∈ entries.flatMap fun e => [e.key, e.value], R.Mem b e) → N.Owns (Value.hash done) →
    L.Rel b (E.evalHash invoke entries done) ((E.under mode limit).evalHash invoke' entries done)
  | _, [], _, _, hdone => L.answer hdone
  | _, ⟨_, _⟩ :: _, _, h, hdone =>
    have ⟨hentry, hrest⟩ := List.forall_mem_append.1 h
    have ⟨hkey, hvalue⟩ := of_mem_two hentry
    L.bind (rel_evalExpr hkey) fun _ hk => L.bind (rel_evalExpr hvalue) fun _ hv =>
      rel_evalHash hrest (owns_insert hk hv hdone)
termination_by structural _ entries => entries

theorem rel_evalSegment : ∀ {b : Bool} {e : Expr}, R.Mem b e →
    L.Rel b (E.evalSegment invoke e) ((E.under mode limit).evalSegment invoke' e)
  | _, ⟨form, span⟩, he => by
    have own := L.located (R.node he) (rel_evalForm (Region.hasForm he))
    cases form with
    | text inner =>
      obtain ⟨form, place⟩ := inner
      cases form with
      | qualifiedName name => exact L.located (R.node he) (hvar _)
      | literal value =>
        cases value with
        | integer n => exact L.located (R.node he) (hvar _)
        | _ => exact own
      | _ => exact own
    | _ => exact own
termination_by structural _ e => e

theorem rel_evalSegments : ∀ {b : Bool} {segments : List Expr}, (∀ e ∈ segments, R.Mem b e) →
    L.Rel b (E.evalSegments invoke segments) ((E.under mode limit).evalSegments invoke' segments)
  | _, [], _ => L.answer owns_nil
  | _, _ :: _, h =>
    have ⟨he, hrest⟩ := List.forall_mem_cons.1 h
    L.bind (rel_evalSegment he) fun _ _ => L.bind (rel_evalSegments hrest) fun _ _ =>
      L.answer fun _ _ => trivial
termination_by structural _ segments => segments

theorem rel_evalCandidate (subject : Value) : ∀ {e : Expr}, R.Mem true e →
    L.Rel true (E.evalCandidate invoke subject e)
      ((E.under mode limit).evalCandidate invoke' subject e)
  | ⟨form, span⟩, he => by
    have own := L.located (R.node he) (rel_evalForm (Region.hasForm he))
    cases form with
    | unfold inner =>
      exact L.bind (rel_evalExpr (of_mem_one (Region.hasForm he).parts)) fun _ _ =>
        L.rel_selectsAny E mode limit subject _
    | _ => exact L.bind own fun _ _ => L.rel_selects E mode limit subject _
termination_by structural e => e

theorem rel_evalCandidates (subject : Value) : ∀ {candidates : List Expr},
    (∀ e ∈ candidates, R.Mem true e) →
    L.Rel true (E.evalCandidates invoke subject candidates)
      ((E.under mode limit).evalCandidates invoke' subject candidates)
  | [], _ => L.answer trivial
  | _ :: _, h =>
    have ⟨he, hrest⟩ := List.forall_mem_cons.1 h
    rel_ite _ (rel_evalCandidates subject hrest)
      (L.bind (rel_evalCandidate subject he) fun _ _ =>
        rel_ite _ (L.answer trivial) (rel_evalCandidates subject hrest))
termination_by structural candidates => candidates

theorem rel_evalOptions (subject : Value) : ∀ {options : List CaseOption}
    {fallback fallback' : EvalM Value},
    (∀ e ∈ options.flatMap fun o => o.result :: o.candidates, R.Mem true e) →
    L.Rel true fallback fallback' →
    L.Rel true (E.evalOptions invoke subject options fallback)
      ((E.under mode limit).evalOptions invoke' subject options fallback')
  | [], _, _, _, hfallback => hfallback
  | ⟨_, _, _⟩ :: _, _, _, h, hfallback =>
    have ⟨hoption, hrest⟩ := List.forall_mem_append.1 h
    have ⟨hresult, hcandidates⟩ := List.forall_mem_cons.1 hoption
    L.bind (rel_evalCandidates subject hcandidates) fun _ _ =>
      rel_ite _ (rel_evalExpr hresult)
        (rel_evalOptions subject hrest (rel_ite _ (rel_evalExpr hresult) hfallback))
termination_by structural options => options

theorem rel_evalEntries (subject : Value) : ∀ {entries : List SelectorEntry},
    (∀ e ∈ entries.flatMap fun e => [e.pattern, e.result], R.Mem true e) →
    L.Rel true (E.evalEntries invoke subject entries)
      ((E.under mode limit).evalEntries invoke' subject entries)
  | [], _ => L.answer (owns_of_isAtom rfl)
  | ⟨_, _⟩ :: _, h =>
    have ⟨hentry, hrest⟩ := List.forall_mem_append.1 h
    have ⟨hpattern, hresult⟩ := of_mem_two hentry
    rel_ite _ (rel_evalExpr hresult)
      (L.bind (rel_evalCandidate subject hpattern) fun _ _ =>
        rel_ite _ (rel_evalExpr hresult) (rel_evalEntries subject hrest))
termination_by structural entries => entries

end

end Expressions

end RegionLogic

end Manifest
