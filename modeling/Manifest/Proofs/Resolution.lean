import Manifest.Proofs.Arguments
import Manifest.Proofs.Identity
import Manifest.Proofs.Isolation
import Manifest.Proofs.Shadowing

/-!
# What variables stand for in a closure

A lambda at a call makes a closure that takes all local variables along, however many layers they
are spread over. When the closure is called, its parameters come on top of what it has captured, and
both on top of the layers of the caller. So in the body a parameter stands for its argument; a
variable that was local where the closure was made stands for what it stood for then; and any other
one for what it stands for in the caller.

* `Environment.get?_capture_eq_local?` — what is captured under a name is what a lookup finds in the
  local variables, although the layers are gone through the other way round.
* `get?_entry_of_param`, `get?_entry_of_not_param` — what a name stands for on entry to the body.
* `Evaluator.closure_resolves` — the three rules.
-/

namespace Manifest

/-! ## Maps in which every name stands once -/

namespace NameMap

variable {α : Type}

/-- Every name stands once at most. -/
def Distinct (m : NameMap α) : Prop :=
  m.Pairwise fun a b => a.1 ≠ b.1

theorem Distinct.reverse {m : NameMap α} (h : m.Distinct) : Distinct m.reverse :=
  List.pairwise_reverse.2 (h.imp Ne.symm)

theorem Ordered.distinct {m : NameMap α} (h : m.Ordered) : m.Distinct :=
  h.imp Std.ne_of_lt

/-- Where every name stands once, it makes no difference from which end it is looked for. -/
theorem get?_reverse {m : NameMap Value} (h : m.Distinct) (name : String) :
    get? m.reverse name = get? m name := by
  refine Option.ext fun a => ?_
  rw [get?, get?, Value.lookup_eq_some h.reverse, Value.lookup_eq_some h, List.mem_reverse]

end NameMap

/-! ## Environments in order -/

/-- The variables of a layer are in order, if it has some. -/
def Layer.InOrder : Layer → Prop
  | .locals vars => vars.Ordered
  | _ => True

namespace Environment

variable {env : Environment}

/-- All maps of variables are in order, the one of the global variables too. -/
def InOrder (env : Environment) : Prop :=
  ∀ l ∈ env.stack, l.InOrder

theorem inOrder_ofGlobals {globals : Bindings} (h : globals.Ordered) :
    (ofGlobals globals).InOrder :=
  List.forall_mem_singleton.2 h

/-- A change opens no layer of variables but one in order. -/
def Change.InOrder : Change → Prop
  | .openLocals vars => vars.Ordered
  | _ => True

/-- Layers are in order after a name has been bound if they were before. -/
theorem inOrder_of_bindLocal? {name : String} {value : Value} {layers bound : List Layer}
    (h : ∀ l ∈ layers, l.InOrder) (hbound : bindLocal? name value layers = some bound) :
    ∀ l ∈ bound, l.InOrder := by
  induction layers generalizing bound with
  | nil => cases hbound
  | cons l rest ih =>
    obtain ⟨hhead, hrest⟩ := List.forall_mem_cons.1 h
    cases l with
    | locals vars =>
      cases hbound
      exact List.forall_mem_cons.2 ⟨hhead.insert name value, hrest⟩
    | _ =>
      obtain ⟨rest', hrest', rfl⟩ := Option.map_eq_some_iff.1 hbound
      exact List.forall_mem_cons.2 ⟨trivial, ih hrest hrest'⟩

/-- Every change keeps the variables in order. -/
theorem InOrder.apply (h : env.InOrder) {c : Change} (hc : c.InOrder) : (env.apply c).InOrder := by
  cases c with
  | set name value => exact inOrder_of_bindLocal? h (env.bindLocal?_stack name value)
  | restore n =>
    rw [InOrder, Environment.apply, stack_restore_eq_drop]
    exact fun l hl => h l (List.mem_of_mem_drop hl)
  | openLocals vars => exact List.forall_mem_cons.2 ⟨hc, h⟩
  | openFence => exact List.forall_mem_cons.2 ⟨trivial, h⟩
  | setCaptures m =>
    obtain ⟨above, habove⟩ := exists_append_belowCaptures env.stack
    rw [InOrder, Environment.apply, stack_setCaptures]
    exact List.forall_mem_cons.2
      ⟨trivial, fun l hl => h l (habove ▸ List.mem_append_right above hl)⟩

/-- So they are in order after any sequence of changes. -/
theorem InOrder.applyAll (h : env.InOrder) {changes : List Change}
    (hchanges : ∀ c ∈ changes, c.InOrder) : (env.applyAll changes).InOrder := by
  induction changes generalizing env with
  | nil => exact h
  | cons c rest ih =>
    obtain ⟨hc, hrest⟩ := List.forall_mem_cons.1 hchanges
    exact ih (h.apply hc) hrest

end Environment

/-! ## Local variables -/

namespace Environment

variable {env : Environment} {name : String}

/-- In every layer of variables, a name stands once at most. -/
def DistinctNames (env : Environment) : Prop :=
  ∀ vars, .locals vars ∈ env.layers → vars.Distinct

/-- That is so where variables are in order. -/
theorem InOrder.distinctNames (h : env.InOrder) : env.DistinctNames := fun vars hvars =>
  NameMap.Ordered.distinct (h (.locals vars) (List.mem_append_left _ hvars))

/-- Some layer of variables binds a name. -/
def BindsLocally (env : Environment) (name : String) : Prop :=
  ∃ vars, .locals vars ∈ env.layers ∧ (NameMap.get? vars name).isSome

/-- What is found in the variables of layers is the same if it is in each of them. -/
theorem findSome?_vars_congr {layers : List Layer} {find find' : Bindings → Option Value}
    (h : ∀ vars, .locals vars ∈ layers → find vars = find' vars) :
    layers.findSome? (fun l => l.vars?.bind find) =
      layers.findSome? fun l => l.vars?.bind find' := by
  induction layers with
  | nil => rfl
  | cons l rest ih =>
    have hrest := ih fun vars hvars => h vars (List.mem_cons_of_mem l hvars)
    cases l with
    | locals vars =>
      have hhere : (Layer.locals vars).vars?.bind find = (Layer.locals vars).vars?.bind find' :=
        h vars List.mem_cons_self
      rw [List.findSome?_cons, List.findSome?_cons, hhere, hrest]
    | _ => exact hrest

/-- What is captured under a name is what it stands for among the local variables: captures are
gathered from the outer layers to the inner ones, each in its order, and a lookup takes the first
that it finds. -/
theorem get?_capture_eq_local? (h : env.DistinctNames) (name : String) :
    env.capture.get? name = env.local? name := by
  rw [get?_capture, local?]
  exact findSome?_vars_congr fun vars hvars => NameMap.get?_reverse (h vars hvars) name

/-- A name stands for something among the local variables if a layer binds it. -/
theorem isSome_local?_iff : (env.local? name).isSome ↔ env.BindsLocally name := by
  rw [local?, List.findSome?_isSome_iff]
  constructor
  · rintro ⟨l, hl, hfound⟩
    cases l with
    | locals vars => exact ⟨vars, hl, hfound⟩
    | _ => cases hfound
  · rintro ⟨vars, hvars, hfound⟩
    exact ⟨.locals vars, hvars, hfound⟩

/-- In a new layer of variables, a name that is neither a number nor marked as global stands for
what it stands for there or, if for nothing, for what it stood for before. -/
theorem get?_openLocals (hnumber : isNumericName name = false) (hglobal : globalName? name = none)
    (env : Environment) (vars : Bindings) :
    (env.openLocals vars).get? name = (NameMap.get? vars name).or (env.get? name) := by
  have hlocal : (env.openLocals vars).local? name =
      (NameMap.get? vars name).or (env.local? name) := by
    have hlayer : (Layer.locals vars).vars?.bind (·.get? name) = NameMap.get? vars name := rfl
    rw [local?, local?, openLocals, push, List.findSome?_cons, hlayer]
    cases NameMap.get? vars name <;> rfl
  rw [get?_eq_local?_or hnumber hglobal, get?_eq_local?_or hnumber hglobal, hlocal, Option.or_assoc]
  rfl

end Environment

/-! ## Parameters and other names -/

section Arguments

variable {given : List (Param × Value)} (captures : Bindings) {x : String}

/-- On top of what is captured, a parameter stands for its argument. -/
theorem get?_argumentBindings_of_mem (hgiven : given.Pairwise fun g h => g.1.name ≠ h.1.name)
    {g : Param × Value} (h : g ∈ given) :
    NameMap.get? (NameMap.insertAll captures (argumentBindings given)) g.1.name = some g.2 := by
  have hdistinct : NameMap.Distinct (argumentBindings given) := List.pairwise_map.2 hgiven
  have hfound : NameMap.get? (argumentBindings given) g.1.name = some g.2 :=
    (Value.lookup_eq_some hdistinct).2 (List.mem_map.2 ⟨g, h, rfl⟩)
  rw [NameMap.get?_insertAll, NameMap.get?_reverse hdistinct, hfound]
  rfl

/-- Any other name stands for what was captured. -/
theorem get?_argumentBindings_of_not_param (h : ∀ g ∈ given, g.1.name ≠ x) :
    NameMap.get? (NameMap.insertAll captures (argumentBindings given)) x =
      NameMap.get? captures x := by
  have hnone : NameMap.get? (argumentBindings given).reverse x = none := by
    rw [Option.eq_none_iff_forall_ne_some]
    intro v hv
    obtain ⟨g, hg, heq⟩ := List.mem_map.1 (List.mem_reverse.1 (NameMap.mem_of_get? hv))
    exact h g hg (congrArg Prod.fst heq)
  rw [NameMap.get?_insertAll, hnone]
  rfl

end Arguments

/-! ## On entry to the body -/

/-- The state in which the body of a closure begins: in a layer of variables and below a frame of
its own. -/
def Closure.entry (c : Closure) (vars : Bindings) (s : State) : State :=
  { s with
    env := s.env.openLocals vars
    calls := CallStack.closureFrame c.lambda.span :: s.calls }

section Entry

variable {c : Closure} {args : List Value} {x : String} (hnumber : isNumericName x = false)
  (hglobal : globalName? x = none)

include hnumber hglobal

/-- On entry, a parameter stands for its argument. -/
theorem get?_entry_of_param
    (hparams : c.lambda.params.Pairwise fun p q => p.name ≠ q.name)
    (hargs : args.length = c.arity) {g : Param × Value} (hg : g ∈ c.lambda.params.zip args)
    (hx : g.1.name = x) (s : State) :
    (c.entry (c.varsFor args) s).env.get? x = some g.2 := by
  have hgiven : (c.lambda.params.zip args).Pairwise fun g h => g.1.name ≠ h.1.name := by
    rw [← List.pairwise_map (f := Prod.fst) (R := fun p q : Param => p.name ≠ q.name),
      List.map_fst_zip (Nat.le_of_eq hargs.symm)]
    exact hparams
  have hfound : NameMap.get? (c.varsFor args) x = some g.2 :=
    hx ▸ get?_argumentBindings_of_mem c.captures hgiven hg
  rw [Closure.entry, Environment.get?_openLocals hnumber hglobal, hfound]
  rfl

/-- Any other name stands for what has been captured under it or, if nothing has, for what it stands
for in the caller. -/
theorem get?_entry_of_not_param (hx : ∀ p ∈ c.lambda.params, p.name ≠ x) (s : State) :
    (c.entry (c.varsFor args) s).env.get? x = (NameMap.get? c.captures x).or (s.env.get? x) := by
  have hgiven : ∀ g ∈ c.lambda.params.zip args, g.1.name ≠ x := fun g hg =>
    hx g.1 (List.of_mem_zip hg).1
  rw [Closure.entry, Environment.get?_openLocals hnumber hglobal, Closure.varsFor,
    get?_argumentBindings_of_not_param c.captures hgiven]

end Entry

namespace Evaluator

open EvalM

/-- What a call makes of the outcome of the body: the layer and the frame are gone, and an error
takes the active calls along. -/
def leave (s : State) (outcome : Outcome Value) : Outcome Value :=
  (outcome.1.mapError (CallStack.attach outcome.2.calls),
    { outcome.2 with
      env := outcome.2.env.restore s.env.level
      calls := outcome.2.calls.tail })

variable {E : Evaluator}

/-- Where the limit has room for a frame, a call is the evaluation of the body from its entry. -/
theorem enterWith_of_room (eval : Expr → EvalM Value) (c : Closure) (vars : Bindings) {s : State}
    (hroom : ∀ most ∈ E.callLimit, s.calls.length < most) :
    E.enterWith eval c vars s = (eval c.lambda.body (c.entry vars s)).map (leave s) := by
  have hbody : (changeEnv (·.openLocals vars) >>= fun _ => eval c.lambda.body)
      { s with calls := CallStack.closureFrame c.lambda.span :: s.calls } =
        eval c.lambda.body (c.entry vars s) := rfl
  rw [enterWith, framed, CallStack.push?_of_room hroom]
  simp only [guarded, hbody]
  rcases eval c.lambda.body (c.entry vars s) with _ | ⟨r, t⟩ <;> rfl

/-- Where it has none, the body is not started. -/
theorem enterWith_of_full (eval : Expr → EvalM Value) (c : Closure) (vars : Bindings) {s : State}
    {most : Nat} (hlimit : most ∈ E.callLimit) (hfull : most ≤ s.calls.length) :
    E.enterWith eval c vars s = some (.error (.ofCause (.recursionLimitExceeded most)), s) :=
  framed_of_full _ _ hlimit hfull

/-- **What variables stand for in a closure.** A lambda with distinct parameters makes a closure
wherever it is evaluated. However that closure is called later, with an argument for every
parameter, be it by position or by name, its body begins with the same variables on top of those of
the caller. There a parameter stands for its argument; any other variable stands for what it stood
for when the closure was made, if it was local then, and for what it stands for in the caller if it
was not. -/
theorem closure_resolves (hcapturing : E.capturing = true) {lambda : Lambda}
    (hparams : lambda.params.Pairwise fun p q => p.name ≠ q.name) {made : State}
    (hmade : made.env.DistinctNames) {args : List Value}
    (hargs : args.length = lambda.params.length) :
    ∃ c, E.lambdaArgument (some lambda) made = some (.ok [.closure c], made) ∧
      (∀ n s, (∀ most ∈ E.callLimit, s.calls.length < most) →
        E.callClosure (n + 1) c args s =
          (E.eval n lambda.body (c.entry (c.varsFor args) s)).map (leave s)) ∧
      (∀ n s named, (∀ most ∈ E.callLimit, s.calls.length < most) →
        named.length ≤ lambda.params.length →
        (∀ g ∈ lambda.params.zip args, NameMap.get? named g.1.name = some g.2) →
        E.callNamed n c named false s =
          (E.eval n lambda.body (c.entry (c.varsFor args) s)).map (leave s)) ∧
      ∀ s x, isNumericName x = false → globalName? x = none →
        (∀ g ∈ lambda.params.zip args, g.1.name = x →
          (c.entry (c.varsFor args) s).env.get? x = some g.2) ∧
        ((∀ p ∈ lambda.params, p.name ≠ x) →
          (made.env.BindsLocally x →
            (c.entry (c.varsFor args) s).env.get? x = made.env.get? x) ∧
          (¬ made.env.BindsLocally x →
            (c.entry (c.varsFor args) s).env.get? x = s.env.get? x)) := by
  have hclosure : E.lambdaArgument (some lambda) made =
      some (.ok [.closure ⟨lambda, made.env.capture⟩], made) := by
    have hcaptured : E.capturedIn made.env = made.env.capture := if_pos hcapturing
    rw [← hcaptured]
    rfl
  refine ⟨⟨lambda, made.env.capture⟩, hclosure, fun n s hroom => ?_,
    fun n s named hroom hcount hnamed => ?_, fun s x hnumber hglobal =>
      ⟨fun g hg hx => get?_entry_of_param hnumber hglobal hparams hargs hg hx s, fun hx => ?_⟩⟩
  · rw [callClosure_succ, callWith, varsByPosition_given _ hargs, pure_bind]
    exact enterWith_of_room _ _ _ hroom
  · rw [callNamed, callNamedWith, varsByName_given _ hargs hcount hnamed, pure_bind]
    exact enterWith_of_room _ _ _ hroom
  · rw [get?_entry_of_not_param hnumber hglobal hx, Environment.get?_capture_eq_local? hmade,
      ← Environment.isSome_local?_iff]
    constructor
    · intro hlocal
      obtain ⟨v, hv⟩ := Option.isSome_iff_exists.1 hlocal
      rw [Environment.get?_eq_local?_or hnumber hglobal made.env, hv]
      rfl
    · intro hlocal
      rw [Option.not_isSome_iff_eq_none.1 hlocal]
      rfl

/-- The lambda `|$y| { $x }`. -/
def readingLambda : Lambda :=
  ⟨0, [⟨"y", none, ⟨1, 3⟩⟩], ⟨.variable ⟨.qualifiedName "x", ⟨8, 9⟩⟩, ⟨7, 9⟩⟩, ⟨0, 11⟩⟩

/-- Two layers of variables that both have an `x` are opened. -/
def layering : List Environment.Change :=
  [.openLocals [("w", .integer 5), ("x", .integer 1)], .openLocals [("x", .integer 2)]]

/-- The state with both layers. -/
def layeredState : State :=
  .initial ((Environment.ofGlobals []).applyAll layering)

/-- A state without local variables. -/
def globalState : State :=
  .initial (.ofGlobals [("w", .integer 8), ("x", .integer 9), ("z", .integer 3)])

/-- Made where `$x` is in two layers and called where it is a global variable, a closure has the
inner one. It finds its argument besides, a variable of the outer layer, and what only its caller
has. -/
theorem closure_resolves_layers :
    ∃ c, Library.evaluator.lambdaArgument (some readingLambda) layeredState =
        some (.ok [.closure c], layeredState) ∧
      ∀ env, env = (c.entry (c.varsFor [.integer 7]) globalState).env →
        env.get? "y" = some (.integer 7) ∧ env.get? "x" = some (.integer 2) ∧
          env.get? "w" = some (.integer 5) ∧ env.get? "z" = some (.integer 3) := by
  have hparams : readingLambda.params.Pairwise fun p q => p.name ≠ q.name :=
    List.pairwise_singleton _ _
  have hargs : [Value.integer 7].length = readingLambda.params.length := rfl
  have hlayering : ∀ c ∈ layering, c.InOrder :=
    List.forall_mem_cons.2 ⟨List.pairwise_pair.2 (by decide),
      List.forall_mem_singleton.2 (List.pairwise_singleton _ _)⟩
  have hmade : layeredState.env.DistinctNames :=
    ((Environment.inOrder_ofGlobals .nil).applyAll hlayering).distinctNames
  obtain ⟨c, hclosure, -, -, hresolves⟩ :=
    closure_resolves (E := Library.evaluator) rfl hparams hmade hargs
  refine ⟨c, hclosure, ?_⟩
  rintro _ rfl
  obtain ⟨hy, -⟩ := hresolves globalState "y" rfl rfl
  obtain ⟨-, hx⟩ := hresolves globalState "x" rfl rfl
  obtain ⟨-, hw⟩ := hresolves globalState "w" rfl rfl
  obtain ⟨-, hz⟩ := hresolves globalState "z" rfl rfl
  have hother : ∀ x, "y" ≠ x → ∀ p ∈ readingLambda.params, p.name ≠ x := fun x hx p hp =>
    List.mem_singleton.1 hp ▸ hx
  refine ⟨hy _ List.mem_cons_self rfl, ?_, ?_, ?_⟩
  · exact (hx (hother "x" (by decide))).1 ⟨_, List.mem_cons_self, rfl⟩
  · exact (hw (hother "w" (by decide))).1 ⟨_, List.mem_cons_of_mem _ List.mem_cons_self, rfl⟩
  · refine (hz (hother "z" (by decide))).2 ?_
    rw [← Environment.isSome_local?_iff]
    exact Bool.false_ne_true

end Evaluator

end Manifest
