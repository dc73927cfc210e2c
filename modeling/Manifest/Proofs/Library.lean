import Manifest.Host.Library
import Manifest.Proofs.Calls

/-!
# What the library does

The functions of the library are *plain*: they change the scope only by binding names, and an error
of a callback ends them at once, unchanged (`Library.functions_isPlain`). There is a lemma for every
function that has cases, and for the ways in which procedures are put together.

So they use only changes that bind names (`Library.functions_uses`), and they pass on errors of all
kinds (`Library.functions_passesOn`).
-/

namespace Manifest

/-! ## Plain procedures -/

namespace Procedure

/-- A procedure only binds names, and it ends at once with an error of a callback. -/
def IsPlain : Procedure → Prop
  | .done _ => True
  | .lookup _ next => ∀ v, (next v).IsPlain
  | .change (.set _ _) next => next.IsPlain
  | .change _ _ => False
  | .capture next => ∀ vars, (next vars).IsPlain
  | .level next => ∀ n, (next n).IsPlain
  | .log _ next => next.IsPlain
  | .readLog next => ∀ lines, (next lines).IsPlain
  | .call _ _ next => (∀ v, (next (.ok v)).IsPlain) ∧ ∀ e, next (.error e) = .done (.error e)

/-- A plain procedure uses only changes that bind names. -/
theorem IsPlain.uses {allows : Environment.Change → Prop}
    (hset : ∀ name value, allows (.set name value)) {p : Procedure} (h : p.IsPlain) :
    p.Uses allows := by
  induction p with
  | done outcome => trivial
  | lookup name next ih => exact fun v => ih v (h v)
  | change c next ih =>
    cases c with
    | set name value => exact ⟨hset name value, ih h⟩
    | _ => exact h.elim
  | capture next ih => exact fun vars => ih vars (h vars)
  | level next ih => exact fun n => ih n (h n)
  | log line next ih => exact ih h
  | readLog next ih => exact fun lines => ih lines (h lines)
  | call callable args next ih =>
    intro r
    cases r with
    | ok v => exact ih (.ok v) (h.1 v)
    | error e =>
      rw [h.2 e]
      trivial

/-- A plain procedure passes on errors of every kind. -/
theorem IsPlain.passesOn (kind : Cause → Prop) {p : Procedure} (h : p.IsPlain) :
    p.PassesOn kind := by
  induction p with
  | done outcome => trivial
  | lookup name next ih => exact fun v => ih v (h v)
  | change c next ih =>
    cases c with
    | set name value => exact ih h
    | _ => exact h.elim
  | capture next ih => exact fun vars => ih vars (h vars)
  | level next ih => exact fun n => ih n (h n)
  | log line next ih => exact ih h
  | readLog next ih => exact fun lines => ih lines (h lines)
  | call callable args next ih =>
    refine ⟨fun r => ?_, fun e _ => ?_⟩
    · cases r with
      | ok v => exact ih (.ok v) (h.1 v)
      | error e =>
        rw [h.2 e]
        trivial
    · rw [h.2 e]
      rfl

theorem isPlain_answer (v : Value) : (answer v).IsPlain :=
  trivial

theorem isPlain_delegate (callable : Value) (args : List Value) :
    (delegate callable args).IsPlain :=
  ⟨fun _ => trivial, fun _ => rfl⟩

theorem isPlain_callThen {callable : Value} {args : List Value} {next : Value → Procedure}
    (h : ∀ v, (next v).IsPlain) : (callThen callable args next).IsPlain :=
  ⟨h, fun _ => rfl⟩

theorem isPlain_logAll (lines : List String) {next : Procedure} (h : next.IsPlain) :
    (logAll lines next).IsPlain := by
  induction lines with
  | nil => exact h
  | cons line rest ih => exact ih

end Procedure

/-- What holds of what functions do, and of the call of a function that there is not, holds of what
the functions of a table do. -/
theorem FunctionTable.procedure_ofList {p : Procedure → Prop} {pairs : List (String × HostFunction)}
    {name : String} {args : List Value} (h : ∀ f ∈ pairs.map Prod.snd, p (f.body args))
    (hunknown : p (.raise (.ofCause (.unknownFunction name)))) :
    p (FunctionTable.procedure (NameMap.ofList pairs) name args) := by
  rw [FunctionTable.procedure]
  split
  · next f hf => exact h f (List.mem_map_of_mem (NameMap.mem_of_get?_ofList hf))
  · exact hunknown

/-! ## The functions -/

namespace Library

theorem isPlain_size (args : List Value) : (size args).IsPlain := by
  unfold size
  split <;> trivial

theorem isPlain_applyClosure (args : List Value) : (applyClosure args).IsPlain := by
  unfold applyClosure
  split
  · exact Procedure.isPlain_delegate _ _
  · trivial

theorem isPlain_eachOf (f : Value) {next : Procedure} (h : next.IsPlain) (xs : List Value) :
    (eachOf f next xs).IsPlain := by
  induction xs with
  | nil => exact h
  | cons x rest ih => exact Procedure.isPlain_callThen fun _ => ih

theorem isPlain_each (args : List Value) : (each args).IsPlain := by
  unfold each
  split
  · next xs f => exact isPlain_eachOf f (Procedure.isPlain_answer xs) xs.unfold
  · trivial

theorem isPlain_mapOf (f : Value) (results xs : List Value) : (mapOf f results xs).IsPlain := by
  induction xs generalizing results with
  | nil => trivial
  | cons x rest ih => exact Procedure.isPlain_callThen fun v => ih (v :: results)

theorem isPlain_map (args : List Value) : (map args).IsPlain := by
  unfold map
  split
  · next xs f => exact isPlain_mapOf f [] xs.unfold
  · trivial

theorem isPlain_setVariable (args : List Value) : (setVariable args).IsPlain := by
  unfold setVariable
  split <;> trivial

theorem isPlain_getVariable (args : List Value) : (getVariable args).IsPlain := by
  unfold getVariable
  split
  · exact fun _ => trivial
  · trivial

/-- Every function of the library is plain. -/
theorem functions_isPlain (name : String) (args : List Value) :
    (functions.procedure name args).IsPlain := by
  refine FunctionTable.procedure_ofList ?_ trivial
  simp only [List.map_cons, List.map_nil, List.forall_mem_cons]
  refine ⟨?identity, isPlain_size args, ?count, ?apply, isPlain_applyClosure args, ?touch, ?again,
    ?fail, ?failAt, isPlain_each args, isPlain_map args, ?notice, isPlain_setVariable args,
    isPlain_getVariable args, ?level, ?none⟩
  case identity => trivial
  case count => trivial
  case apply => exact Procedure.isPlain_delegate _ _
  case touch => trivial
  case again => exact fun _ => Procedure.isPlain_delegate _ _
  case fail => trivial
  case failAt => trivial
  case notice => exact Procedure.isPlain_logAll _ (Procedure.isPlain_answer _)
  case level => exact fun _ => trivial
  case none => simp

/-- The functions of the library change the scope only by binding names. -/
theorem functions_uses {allows : Environment.Change → Prop}
    (hset : ∀ name value, allows (.set name value)) : functions.Uses allows :=
  fun name args => (functions_isPlain name args).uses hset

/-- They pass on the errors of their callbacks. -/
theorem functions_passesOn (kind : Cause → Prop) : functions.PassesOn kind :=
  fun name args => (functions_isPlain name args).passesOn kind

/-! ## Small programs -/

/-- The strict evaluator, with the functions of the library. -/
def evaluator : Evaluator :=
  { Evaluator.ofMode .strict with functions := functions }

/-- The program `touch()`. -/
def touchCall : Expr :=
  ⟨.callNamed ⟨.qualifiedName "touch", ⟨0, 5⟩⟩ [] none, ⟨0, 7⟩⟩

/-- The program `"ab" =~ "b"`. -/
def bareMatch : Expr :=
  ⟨.matching .matches ⟨.literal (.string "ab"), ⟨0, 4⟩⟩ ⟨.literal (.string "b"), ⟨8, 11⟩⟩, ⟨0, 11⟩⟩

end Library

end Manifest
