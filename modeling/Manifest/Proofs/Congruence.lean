import Manifest.Proofs.StepLogic

/-!
# Relations that evaluation preserves

A *congruence* is a relation between steps that asks for nothing: no error, no place and no value is
excepted. It is a logic of steps for the set of all expressions (`Congruence.logic`), so that it
relates the evaluation of every expression if it relates looking variables up and calling
(`Evaluator.evalExpr_rel`).
-/

namespace Manifest

/-- A relation between steps with a clause for everything that evaluation is made of. -/
structure Congruence where
  /-- how a step relates to another one -/
  Rel : ∀ {α : Type}, EvalM α → EvalM α → Prop
  answer : ∀ {α : Type} (a : α), Rel (pure a) (pure a)
  raise : ∀ {α : Type} (e : EvalError), Rel (EvalM.raise e : EvalM α) (EvalM.raise e)
  lookup : ∀ name, Rel (EvalM.read (·.env.get? name)) (EvalM.read (·.env.get? name))
  captured : ∀ E : Evaluator, Rel E.captured E.captured
  compile : ∀ engine source, Rel (EvalM.compile engine source) (EvalM.compile engine source)
  record : ∀ edges, Rel (EvalM.record edges) (EvalM.record edges)
  set : ∀ name value, Rel (EvalM.changeEnv (·.set name value)) (EvalM.changeEnv (·.set name value))
  setCaptures : ∀ m, Rel (EvalM.changeEnv (·.setCaptures m)) (EvalM.changeEnv (·.setCaptures m))
  bind : ∀ {α β : Type} {m m' : EvalM α} {f f' : α → EvalM β}, Rel m m' →
    (∀ a, Rel (f a) (f' a)) → Rel (m >>= f) (m' >>= f')
  located : ∀ {α : Type} {m m' : EvalM α} (kind : String) (span : Span), Rel m m' →
    Rel (EvalM.located kind span m) (EvalM.located kind span m')
  /-- a layer that is no captures is opened and dropped again -/
  bracket : ∀ {α : Type} {m m' : EvalM α} {l : Layer}, l.captures? = none → Rel m m' →
    Rel (EvalM.guarded (EvalM.changeEnv (·.push l) >>= fun _ => m))
      (EvalM.guarded (EvalM.changeEnv (·.push l) >>= fun _ => m'))

namespace Congruence

open NodeSet

variable (C : Congruence)

theorem ofExcept {α : Type} (x : Except EvalError α) :
    C.Rel (EvalM.ofExcept x) (EvalM.ofExcept x) := by
  cases x with
  | ok a => exact C.answer a
  | error e => exact C.raise e

/-- A congruence is a logic of steps for all expressions. -/
def logic : StepLogic .all where
  Rel := C.Rel
  answer _ := C.answer _
  raise _ := C.raise _
  lookup := C.lookup
  captured := C.captured
  compile := C.compile
  record := C.record
  set name value _ := C.set name value
  setCaptures := C.setCaptures
  bind hm hf := C.bind hm fun a => hf a (owns_all a)
  located _ hm := C.located _ _ hm
  bracket hl _ hm := C.bracket hl hm

end Congruence

namespace Evaluator

open NodeSet

variable (E : Evaluator) {C : Congruence}

/-- Looking a variable up is related to itself. -/
theorem lookupVariable_rel (inner : Expr) :
    C.Rel (E.lookupVariable inner) (E.lookupVariable inner) :=
  C.logic.rel_lookupVariable E inner

/-! ## Expressions

`mode` and `limit` are those of the second evaluator, and `invoke'` is what a call does there. -/

section Expressions

variable {E} {mode : Mode} {limit : Option Nat} {invoke invoke' : Invoke}
  (hvar : ∀ inner, C.Rel (E.lookupVariable inner) ((E.under mode limit).lookupVariable inner))
  (hcall : ∀ name args place, C.Rel (invoke name args place) (invoke' name args place))

include hvar hcall

/-- If looking variables up and calling are related, so is the evaluation of an expression. -/
theorem evalExpr_rel (e : Expr) :
    C.Rel (E.evalExpr invoke e) ((E.under mode limit).evalExpr invoke' e) :=
  StepLogic.rel_evalExpr (L := C.logic) hvar (fun name args place _ => hcall name args place)
    (mem_all e)

theorem evalOption_rel (e : Option Expr) :
    C.Rel (E.evalOption invoke e) ((E.under mode limit).evalOption invoke' e) :=
  StepLogic.rel_evalOption (L := C.logic) hvar (fun name args place _ => hcall name args place)
    fun x _ => mem_all x

theorem evalItems_rel (items : List Expr) :
    C.Rel (E.evalItems invoke items) ((E.under mode limit).evalItems invoke' items) :=
  StepLogic.rel_evalItems (L := C.logic) hvar (fun name args place _ => hcall name args place)
    fun x _ => mem_all x

theorem evalOptions_rel (subject : Value) (options : List CaseOption)
    {fallback fallback' : EvalM Value} (hfallback : C.Rel fallback fallback') :
    C.Rel (E.evalOptions invoke subject options fallback)
      ((E.under mode limit).evalOptions invoke' subject options fallback') :=
  StepLogic.rel_evalOptions (L := C.logic) hvar (fun name args place _ => hcall name args place)
    subject (fun x _ => mem_all x) hfallback

theorem evalEntries_rel (subject : Value) (entries : List SelectorEntry) :
    C.Rel (E.evalEntries invoke subject entries)
      ((E.under mode limit).evalEntries invoke' subject entries) :=
  StepLogic.rel_evalEntries (L := C.logic) hvar (fun name args place _ => hcall name args place)
    subject fun x _ => mem_all x

end Expressions

/-! ## Arguments -/

section Arguments

variable {eval eval' : Expr → EvalM Value} (heval : ∀ e, C.Rel (eval e) (eval' e))

include heval

theorem varsByPosition_rel (c : Closure) (args : List Value) :
    C.Rel (varsByPosition eval c args) (varsByPosition eval' c args) :=
  StepLogic.rel_varsByPosition (L := C.logic) (fun {e} _ => heval e) (owns_all _) (owns_all args)

theorem varsByName_rel (c : Closure) (named : Bindings) (spillOver : Bool) :
    C.Rel (varsByName eval c named spillOver) (varsByName eval' c named spillOver) :=
  StepLogic.rel_varsByName (L := C.logic) (fun {e} _ => heval e) (owns_all _) (owns_all named)
    spillOver

end Arguments

end Evaluator

end Manifest
