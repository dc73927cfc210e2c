import Manifest.Proofs.Congruence
import Manifest.Proofs.Law

/-!
# Evaluation obeys every law

Refinement under a law is a relation that evaluation preserves (`Law.congruence`). So if what a call
does obeys a law, then so does the evaluation of every expression. The two evaluators that are
compared may differ in their mode and their limit.
-/

namespace Manifest

open EvalM

/-- Refinement under a law has a clause for everything that evaluation is made of. -/
def Law.congruence (L : Law) : Congruence where
  Rel := Refines L
  answer := refines_pure
  raise := refines_raise
  lookup _ := refines_read _
  captured _ := refines_read _
  compile := refines_compile
  record := refines_record
  set := refines_set
  setCaptures := refines_setCaptures
  bind := Refines.bind
  located kind span hm := hm.located kind span
  bracket hl hm := hm.bracket hl

namespace Evaluator

variable {L : Law} (E : Evaluator)

/-- Looking a variable up changes nothing. -/
theorem refines_lookupVariable (inner : Expr) :
    Refines L (E.lookupVariable inner) (E.lookupVariable inner) :=
  E.lookupVariable_rel (C := L.congruence) inner

/-! ## Expressions

`mode` and `limit` are those of the second evaluator, and `invoke'` is what a call does there. -/

section Expressions

variable {E} {mode : Mode} {limit : Option Nat} {invoke invoke' : Invoke}
  (hvar : ∀ inner, Refines L (E.lookupVariable inner) ((E.under mode limit).lookupVariable inner))
  (hcall : ∀ name args place, Refines L (invoke name args place) (invoke' name args place))

include hvar hcall

/-- If looking variables up and calling obey a law, so does evaluating an expression. -/
theorem evalExpr_refines (e : Expr) :
    Refines L (E.evalExpr invoke e) ((E.under mode limit).evalExpr invoke' e) :=
  evalExpr_rel (C := L.congruence) hvar hcall e

theorem evalOption_refines (e : Option Expr) :
    Refines L (E.evalOption invoke e) ((E.under mode limit).evalOption invoke' e) :=
  evalOption_rel (C := L.congruence) hvar hcall e

theorem evalItems_refines (items : List Expr) :
    Refines L (E.evalItems invoke items) ((E.under mode limit).evalItems invoke' items) :=
  evalItems_rel (C := L.congruence) hvar hcall items

theorem evalOptions_refines (subject : Value) (options : List CaseOption)
    {fallback fallback' : EvalM Value} (hfallback : Refines L fallback fallback') :
    Refines L (E.evalOptions invoke subject options fallback)
      ((E.under mode limit).evalOptions invoke' subject options fallback') :=
  evalOptions_rel (C := L.congruence) hvar hcall subject options hfallback

theorem evalEntries_refines (subject : Value) (entries : List SelectorEntry) :
    Refines L (E.evalEntries invoke subject entries)
      ((E.under mode limit).evalEntries invoke' subject entries) :=
  evalEntries_rel (C := L.congruence) hvar hcall subject entries

end Expressions

/-! ## Arguments -/

section Arguments

variable {eval eval' : Expr → EvalM Value} (heval : ∀ e, Refines L (eval e) (eval' e))

include heval

theorem varsByPosition_refines (c : Closure) (args : List Value) :
    Refines L (varsByPosition eval c args) (varsByPosition eval' c args) :=
  varsByPosition_rel (C := L.congruence) heval c args

theorem varsByName_refines (c : Closure) (named : Bindings) (spillOver : Bool) :
    Refines L (varsByName eval c named spillOver) (varsByName eval' c named spillOver) :=
  varsByName_rel (C := L.congruence) heval c named spillOver

end Arguments

end Evaluator

end Manifest
