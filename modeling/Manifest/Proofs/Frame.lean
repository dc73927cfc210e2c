import Manifest.Proofs.Arguments
import Manifest.Proofs.Layers
import Manifest.Proofs.Library

/-!
# What evaluation leaves of an environment

Host functions that only bind names and call closures back (`FunctionTable.BindsOnly`) are enough
for a frame law: every run lets the stack of layers advance (`Evaluator.eval_advances`), so a
match can leave one layer of captures behind, and names are bound in the innermost variables, but
nothing else happens to what was there before.

* `Evaluator.eval_keepsLayers` — the law, layer by layer.
* `Evaluator.callClosure_keepsEnv` — a call with as many arguments as there are parameters leaves
  the whole environment as it was.
* `Evaluator.choice_keepsCaptures` — so does a choice with all captures.
-/

namespace Manifest

/-! ## Host functions that only bind names -/

/-- A change that binds a name. -/
def Environment.Change.IsSet : Environment.Change → Prop
  | .set _ _ => True
  | _ => False

/-- The functions of a table change the scope only by binding names and by calling back. -/
def FunctionTable.BindsOnly (functions : FunctionTable) : Prop :=
  functions.Uses Environment.Change.IsSet

/-- So do the functions of the library. -/
theorem Library.functions_bindsOnly : Library.functions.BindsOnly :=
  functions_uses fun _ _ => trivial

/-! ## The law -/

/-- The stack of layers advances. -/
def frameLaw : Law where
  allows := Environment.Change.IsSet
  excuses _ := False
  rel s t := Advances s.env.stack t.env.stack
  refl _ := .refl _
  trans hst htu := hst.trans htu
  note s source := by
    rw [State.env_notePattern]
    exact .refl _
  record _ _ := .refl _
  log _ _ := .refl _
  set s name value := .of_rebinds (s.env.rebinds_set name value)
  setCaptures s m := s.env.advances_setCaptures m
  change s c hc := by
    cases c with
    | set name value => exact .of_rebinds (s.env.rebinds_set name value)
    | _ => exact hc.elim
  layer hl h := .of_rebinds (Environment.rebinds_restore hl h)
  frame h := h

/-! ## Layer by layer -/

/-- What evaluation leaves of an environment: the layers that were there before, but for the
captures on top and for the innermost variables, which have lost no name, and perhaps a layer of
captures more. The innermost variables are the global ones if there are no others. -/
structure KeepsLayers (before after : Environment) : Prop where
  level : after.level = before.level ∨ after.level = before.level + 1
  /-- one layer more is one for captures, above a top that was none -/
  grown : after.level = before.level + 1 →
    capturesOnTop before.layers = false ∧ capturesOnTop after.layers = true
  /-- places are counted from the top, once a layer more is dropped -/
  layers : ∀ i, innermost? before.layers ≠ some i →
    (i = 0 → capturesOnTop before.layers = false) →
    (after.restore before.level).layers[i]? = before.layers[i]?
  innermost : ∀ i, innermost? before.layers = some i → ∃ vars vars',
    before.layers[i]? = some (.locals vars) ∧
    (after.restore before.level).layers[i]? = some (.locals vars') ∧ vars.Keeps vars'
  globals_keeps : innermost? before.layers = none → before.globals.Keeps after.globals
  globals_eq : innermost? before.layers ≠ none → after.globals = before.globals

/-- An environment whose stack has advanced still has its layers. -/
theorem keepsLayers_of_advances {before after : Environment}
    (h : Advances before.stack after.stack) : KeepsLayers before after := by
  obtain ⟨haligned, hlevel⟩ := Environment.aligned_restore h
  rw [Environment.capturesOnTop_stack, Environment.capturesOnTop_stack] at hlevel
  have hrestore : (after.restore before.level).level = before.level := by
    rw [Environment.level_restore]
    omega
  refine ⟨hlevel.imp_right And.left, fun hgrown => ?_, fun i => haligned.layer_eq hrestore,
    fun i => haligned.locals_keeps hrestore, haligned.globals_keeps hrestore,
    haligned.globals_eq hrestore⟩
  rcases hlevel with hsame | ⟨-, htop⟩
  · omega
  · exact htop

/-- The names that a closure binds: those of its parameters and those that it has captured. -/
def Closure.Binds (c : Closure) (name : String) : Prop :=
  (∃ p ∈ c.lambda.params, p.name = name) ∨ (NameMap.get? c.captures name).isSome

namespace Evaluator

open EvalM

variable {E : Evaluator} {n : Nat} {s t : State} {r : Except EvalError Value}

/-- Every call of a host function lets the stack advance. -/
theorem invoke_advances (hbinds : E.functions.BindsOnly) (n : Nat) (name : String)
    (args : List Value) (place : Span) : Obeys frameLaw (E.invoke n name args place) :=
  invoke_obeys (L := frameLaw) hbinds
    (FunctionTable.passesOn_of_forall_not fun _ h => h) n name args place

/-- So does every evaluation. -/
theorem eval_advances (hbinds : E.functions.BindsOnly) (n : Nat) (e : Expr) :
    Obeys frameLaw (E.eval n e) :=
  eval_obeys (L := frameLaw) hbinds
    (FunctionTable.passesOn_of_forall_not fun _ h => h) n e

/-- **Frame law**: whatever an evaluation comes to, with the fuel of `evaluate` or any other, it
keeps the layers of the environment. -/
theorem eval_keepsLayers (hbinds : E.functions.BindsOnly) {e : Expr}
    (h : E.eval n e s = some (r, t)) : KeepsLayers s.env t.env :=
  keepsLayers_of_advances (eval_advances hbinds n e h)

/-- A bare match leaves a layer of captures behind. -/
theorem eval_keepsLayers_bareMatch : ∃ t,
    Library.evaluator.eval 0 Library.bareMatch (.initial (.ofGlobals [])) =
      some (.ok (.boolean true), t) ∧ t.env.level = 1 ∧ KeepsLayers (.ofGlobals []) t.env := by
  obtain ⟨t, h, hlevel⟩ : ∃ t,
      Library.evaluator.eval 0 Library.bareMatch (.initial (.ofGlobals [])) =
        some (.ok (.boolean true), t) ∧ t.env.level = 1 := ⟨_, rfl, rfl⟩
  exact ⟨t, h, hlevel, eval_keepsLayers Library.functions_bindsOnly h⟩

/-! ## Calls of closures -/

/-- With exactly as many arguments as there are parameters, the variables are simply there. -/
theorem varsByPosition_of_arity (eval : Expr → EvalM Value) {c : Closure} {args : List Value}
    (h : args.length = c.arity) :
    ∃ vars, varsByPosition eval c args = pure vars ∧
      ∀ name, c.Binds name → (NameMap.get? vars name).isSome := by
  refine ⟨c.varsFor args, varsByPosition_given eval h, ?_⟩
  rintro name (⟨p, hp, rfl⟩ | hcaptured)
  · exact Closure.isSome_varsFor h hp
  · exact c.keeps_varsFor args name hcaptured

/-- Whatever the body of a closure does, it does above the variables of the call. -/
theorem enterWith_keepsEnv {eval : Expr → EvalM Value} {c : Closure} {vars : Bindings}
    (heval : Obeys frameLaw (eval c.lambda.body)) (h : E.enterWith eval c vars s = some (r, t)) :
    t.env = s.env := by
  rcases framed_eq_some h with ⟨_, -, -, rfl⟩ | ⟨_, _, -, hguarded, -, rfl⟩
  · -- the call was refused at the limit
    rfl
  · obtain ⟨u, hbody, rfl⟩ := guarded_eq_some hguarded
    exact Environment.restore_openLocals (heval hbody)

/-- A call of a closure with as many arguments as it has parameters leaves the environment as it
was. -/
theorem callClosure_keepsEnv (hbinds : E.functions.BindsOnly) {c : Closure} {args : List Value}
    (hargs : args.length = c.arity) (h : E.callClosure n c args s = some (r, t)) :
    t.env = s.env := by
  cases n with
  | zero => cases h
  | succ n =>
    rw [callClosure_succ, callWith] at h
    obtain ⟨vars, hvars, -⟩ := varsByPosition_of_arity (E.eval n) hargs
    rw [hvars, pure_bind] at h
    exact enterWith_keepsEnv (eval_advances hbinds n c.lambda.body) h

/-- The closure `|$x| { touch() }`. -/
def touchClosure : Closure :=
  ⟨⟨0, [⟨"x", none, ⟨1, 3⟩⟩], Library.touchCall, ⟨0, 17⟩⟩, []⟩

/-- What a host function binds below a closure is gone after the call. -/
theorem callClosure_keepsEnv_touch : ∃ t,
    Library.evaluator.callClosure 1 touchClosure [.absent] (.initial (.ofGlobals [])) =
      some (.ok .absent, t) ∧ t.env = .ofGlobals [] := by
  obtain ⟨t, h⟩ : ∃ t,
      Library.evaluator.callClosure 1 touchClosure [.absent] (.initial (.ofGlobals [])) =
        some (.ok .absent, t) := ⟨_, rfl⟩
  exact ⟨t, h, callClosure_keepsEnv Library.functions_bindsOnly rfl h⟩

end Evaluator

/-! ## Choices -/

namespace Evaluator

open EvalM

variable {E : Evaluator} {n : Nat} {s t : State} {r : Except EvalError Value}

/-- Everything in a choice happens above a fence, and there the stack advances. -/
theorem evalForm_choice (hbinds : E.functions.BindsOnly) (n : Nat) {form : Form}
    (hform : form.isChoice = true) :
    ∃ m : EvalM Value, E.evalForm (E.invoke n) form =
        guarded (changeEnv (·.openFence) >>= fun _ => m) ∧ Obeys frameLaw m := by
  have hvar := E.refines_lookupVariable (L := frameLaw)
  have hcall := fun name args place => (invoke_advances hbinds n name args place).refines
  have heval := fun e => evalExpr_refines hvar hcall e
  cases form with
  | ifThen test yes no =>
    exact ⟨_, rfl, ((heval test).bind fun _ =>
      Refines.ite _ (heval yes) (evalOption_refines hvar hcall no)).obeys⟩
  | unlessThen test yes no =>
    exact ⟨_, rfl, ((heval test).bind fun _ =>
      Refines.ite _ (evalOption_refines hvar hcall no) (heval yes)).obeys⟩
  | caseOf test options =>
    exact ⟨_, rfl, ((heval test).bind fun subject =>
      evalOptions_refines hvar hcall subject options (refines_pure _)).obeys⟩
  | selector test entries =>
    exact ⟨_, rfl, ((heval test).bind fun subject =>
      evalEntries_refines hvar hcall subject entries).obeys⟩
  | _ => cases hform

/-- A choice rebinds names, and that is all. -/
theorem choice_rebinds (hbinds : E.functions.BindsOnly) {e : Expr} (he : e.form.isChoice = true)
    (h : E.eval n e s = some (r, t)) : Rebinds s.env.stack t.env.stack := by
  obtain ⟨form, span⟩ := e
  obtain ⟨r', hform, rfl⟩ := located_eq_some h
  obtain ⟨m, hm, hadvances⟩ := evalForm_choice hbinds n he
  rw [hm] at hform
  obtain ⟨u, hrun, rfl⟩ := guarded_eq_some hform
  have hin : m { s with env := s.env.openFence } = some (r', u) := hrun
  exact Environment.rebinds_restore rfl (hadvances hin)

/-- **Hygiene of captures**: a choice leaves the nesting level, the captures and the fences as they
were, and so everything that a number stands for. -/
theorem choice_keepsCaptures (hbinds : E.functions.BindsOnly) {e : Expr}
    (he : e.form.isChoice = true) (h : E.eval n e s = some (r, t)) :
    t.env.level = s.env.level ∧
      (∀ (i : Nat) (l : Layer), l.vars? = none →
        (t.env.layers[i]? = some l ↔ s.env.layers[i]? = some l)) ∧
      ∀ name, isNumericName name = true → t.env.get? name = s.env.get? name := by
  have hrebinds := choice_rebinds hbinds he h
  exact ⟨Environment.level_of_rebinds hrebinds,
    fun _ _ hl => Environment.layer_iff_of_rebinds hrebinds hl,
    fun _ hname => Environment.get?_of_rebinds hrebinds hname⟩

/-- The program `if "ab" =~ "b" { touch() }`. -/
def matchThenTouch : Expr :=
  ⟨.ifThen Library.bareMatch Library.touchCall none, ⟨0, 25⟩⟩

/-- A match in the test of a choice leaves no captures behind, but what a branch binds stays. -/
theorem choice_keepsCaptures_match : ∃ t,
    Library.evaluator.eval 0 matchThenTouch (.initial (.ofGlobals [])) = some (.ok .absent, t) ∧
      t.env.get? "touched" = some (.boolean true) ∧ t.env.get? "0" = none := by
  obtain ⟨t, h, htouched⟩ : ∃ t,
      Library.evaluator.eval 0 matchThenTouch (.initial (.ofGlobals [])) =
        some (.ok .absent, t) ∧ t.env.get? "touched" = some (.boolean true) := ⟨_, rfl, rfl⟩
  obtain ⟨-, -, hget⟩ := choice_keepsCaptures Library.functions_bindsOnly rfl h
  exact ⟨t, h, htouched, hget "0" rfl⟩

end Evaluator

end Manifest
