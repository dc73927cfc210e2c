import Manifest.Proofs.Literals

/-!
# Splices and texts, one inside of the other

A splice of a list that is written out contributes what its items contribute, in their order. So it
may as well be left away, whatever stands before and after it: in a list, among the arguments of a
call, or among the keys of an access. In the same way a text that is embedded in a longer one
contributes the texts of its segments.

What fails inside fails outside as well, and at the same place: an error of an item has its place
already when it leaves the inner list or text.

* `Expr.splice`, `Expr.embed` — the splice `*[items]` and the segment that holds a text.
* `Evaluator.evalItems_splice`, `Evaluator.evalText_embed` — what they contribute.
* `Evaluator.eval_flatten` — the forms that evaluate items or segments, with and without them.
-/

namespace Manifest

namespace Expr

/-- The splice `*[items]`, given where the list and the splice stand. -/
def splice (items : List Expr) (list place : Span) : Expr :=
  ⟨.unfold ⟨.list items, list⟩, place⟩

/-- The segment of a text that holds another text, given where the text and the segment stand. -/
def embed (segments : List Expr) (text place : Span) : Expr :=
  ⟨.text ⟨.interpolation segments, text⟩, place⟩

end Expr

namespace Evaluator

open EvalM

section Loops

variable (E : Evaluator) (invoke : Invoke)

/-! ## Splices -/

/-- A splice of a list contributes what its items do. -/
theorem evalItem_splice (items : List Expr) (list place : Span) :
    E.evalItem invoke (.splice items list place) = E.evalItems invoke items := by
  have hlist : E.evalExpr invoke ⟨.list items, list⟩ = (do
      let vs ← E.evalItems invoke items
      pure (.array vs)) :=
    ((E.placed_evalItems invoke items).bind fun _ => placed_pure _).located_eq _ list
  change (do
    let v ← E.evalExpr invoke ⟨.list items, list⟩
    pure v.unfold) = _
  rw [hlist, bind_assoc]
  exact bind_pure _

/-- So the items may stand for themselves. -/
theorem evalItems_splice (xs ys zs : List Expr) (list place : Span) :
    E.evalItems invoke (xs ++ .splice ys list place :: zs) =
      E.evalItems invoke (xs ++ ys ++ zs) := by
  simp only [List.append_assoc, evalItems_append, evalItems, evalItem_splice]

/-! ## Texts -/

theorem evalSegments_append (xs ys : List Expr) :
    E.evalSegments invoke (xs ++ ys) = (do
      let before ← E.evalSegments invoke xs
      let after ← E.evalSegments invoke ys
      pure (before ++ after)) := by
  induction xs with
  | nil => exact (bind_pure _).symm
  | cons x rest ih =>
    simp only [List.cons_append, evalSegments, ih, bind_assoc, pure_bind]

theorem placed_evalSegment (e : Expr) : Placed (E.evalSegment invoke e) := by
  obtain ⟨form, span⟩ := e
  have own := E.placed_evalExpr invoke ⟨form, span⟩
  cases form with
  | text inner =>
    obtain ⟨form, place⟩ := inner
    cases form with
    | qualifiedName name => exact placed_located _ _ _
    | literal value =>
      cases value with
      | integer n => exact placed_located _ _ _
      | _ => exact own
    | _ => exact own
  | _ => exact own

theorem placed_evalSegments (segments : List Expr) : Placed (E.evalSegments invoke segments) := by
  induction segments with
  | nil => exact placed_pure _
  | cons e rest ih =>
    exact (E.placed_evalSegment invoke e).bind fun _ => ih.bind fun _ => placed_pure _

/-- The text that segments make up. -/
def evalText (segments : List Expr) : EvalM String := do
  let texts ← E.evalSegments invoke segments
  pure (String.join texts)

theorem evalText_append (xs ys : List Expr) :
    E.evalText invoke (xs ++ ys) = (do
      let before ← E.evalText invoke xs
      let after ← E.evalText invoke ys
      pure (before ++ after)) := by
  simp only [evalText, evalSegments_append, bind_assoc, pure_bind, String.join_append]

/-- A text comes to what its segments make up, wherever it stands. -/
theorem evalExpr_interpolation (segments : List Expr) (place : Span) :
    E.evalExpr invoke ⟨.interpolation segments, place⟩ = (do
      let text ← E.evalText invoke segments
      pure (.string text)) := by
  have hform : E.evalForm invoke (.interpolation segments) = (do
      let text ← E.evalText invoke segments
      pure (.string text)) := by
    rw [evalText, bind_assoc]
    rfl
  have hplaced : Placed (E.evalText invoke segments) :=
    (E.placed_evalSegments invoke segments).bind fun _ => placed_pure _
  change located _ place (E.evalForm invoke (.interpolation segments)) = _
  rw [hform]
  exact (hplaced.bind fun _ => placed_pure _).located_eq _ place

/-- A segment that holds a text makes up the same as the segments of that text. -/
theorem evalText_embed (segments : List Expr) (text place : Span) :
    E.evalText invoke [.embed segments text place] = E.evalText invoke segments := by
  have hsegment : E.evalSegment invoke (.embed segments text place) =
      E.evalExpr invoke ⟨.interpolation segments, text⟩ :=
    (E.placed_evalExpr invoke _).located_eq _ place
  have hjoin : ∀ t : String, String.join [(Value.string t).interpolated] = t := fun t => by
    rw [String.join_cons, String.join_nil, String.append_empty]
    rfl
  rw [evalText, evalSegments, hsegment, evalExpr_interpolation]
  simp only [evalSegments, bind_assoc, pure_bind, hjoin, bind_pure]

/-- So it may be replaced by them. -/
theorem evalText_flatten (xs ys zs : List Expr) (text place : Span) :
    E.evalText invoke (xs ++ .embed ys text place :: zs) = E.evalText invoke (xs ++ ys ++ zs) := by
  rw [List.append_cons, evalText_append, evalText_append, evalText_embed, ← evalText_append,
    ← evalText_append]

/-! ## Arguments -/

variable {args args' : List Expr} (h : E.evalItems invoke args = E.evalItems invoke args')

include h

/-- Of the arguments of a call only matters what they contribute. -/
theorem evalForm_callNamed_congr (functor : Expr) (lambda : Option Lambda) :
    E.evalForm invoke (.callNamed functor args lambda) =
      E.evalForm invoke (.callNamed functor args' lambda) := by
  obtain ⟨form, place⟩ := functor
  cases form with
  | qualifiedName name => rw [evalForm_callNamed, evalForm_callNamed, h]
  | _ => rfl

theorem evalForm_callMethod_congr (functor : Expr) (lambda : Option Lambda) :
    E.evalForm invoke (.callMethod functor args lambda) =
      E.evalForm invoke (.callMethod functor args' lambda) := by
  obtain ⟨form, dot⟩ := functor
  cases form with
  | namedAccess receiver name =>
    obtain ⟨form, place⟩ := name
    cases form with
    | qualifiedName name => rw [evalForm_callMethod, evalForm_callMethod, h]
    | _ => rfl
  | _ => rfl

end Loops

/-! ## Expressions -/

variable (E : Evaluator) (n : Nat)

/-- **Splices and texts flatten**: a splice of a list may be replaced by the items of the list, in a
list, among the arguments of a call, and among the keys of an access; and a segment that holds a
text by the segments of that text. What surrounds them comes to the same, be it a value or an error,
and leaves the same state. -/
theorem eval_flatten (xs ys zs : List Expr) (inner outer place : Span) (s : State) :
    (E.eval n ⟨.list (xs ++ .splice ys inner outer :: zs), place⟩ s =
      E.eval n ⟨.list (xs ++ ys ++ zs), place⟩ s) ∧
    (∀ functor lambda,
      E.eval n ⟨.callNamed functor (xs ++ .splice ys inner outer :: zs) lambda, place⟩ s =
        E.eval n ⟨.callNamed functor (xs ++ ys ++ zs) lambda, place⟩ s) ∧
    (∀ functor lambda,
      E.eval n ⟨.callMethod functor (xs ++ .splice ys inner outer :: zs) lambda, place⟩ s =
        E.eval n ⟨.callMethod functor (xs ++ ys ++ zs) lambda, place⟩ s) ∧
    (∀ receiver,
      E.eval n ⟨.access receiver (xs ++ .splice ys inner outer :: zs), place⟩ s =
        E.eval n ⟨.access receiver (xs ++ ys ++ zs), place⟩ s) ∧
    E.eval n ⟨.interpolation (xs ++ .embed ys inner outer :: zs), place⟩ s =
      E.eval n ⟨.interpolation (xs ++ ys ++ zs), place⟩ s := by
  have hitems := E.evalItems_splice (E.invoke n) xs ys zs inner outer
  refine ⟨?list, fun functor lambda => ?call, fun functor lambda => ?method,
    fun receiver => ?access, ?interpolation⟩
  case list => rw [eval_list, eval_list, hitems]
  case call =>
    have hform := E.evalForm_callNamed_congr _ hitems functor lambda
    exact congrFun (congrArg (located _ place) hform) s
  case method =>
    have hform := E.evalForm_callMethod_congr _ hitems functor lambda
    exact congrFun (congrArg (located _ place) hform) s
  case access =>
    have hform : E.evalForm (E.invoke n) (.access receiver (xs ++ .splice ys inner outer :: zs)) =
        E.evalForm (E.invoke n) (.access receiver (xs ++ ys ++ zs)) :=
      congrArg (fun keys => E.eval n receiver >>= fun v => keys >>= fun ks =>
        ofExcept (v.access ks)) hitems
    exact congrFun (congrArg (located _ place) hform) s
  case interpolation =>
    rw [eval, evalExpr_interpolation, evalExpr_interpolation, evalText_flatten]

end Evaluator

end Manifest
