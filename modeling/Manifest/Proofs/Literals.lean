import Manifest.Proofs.Choices
import Manifest.Proofs.DistinctKeys
import Manifest.Proofs.Merging

/-!
# Literals in two parts

The literal of a list and another list is the sum of their literals; so it is with the literal of a
hash. Both ways evaluate the same expressions in the same order, and an error of one of them ends
both; it has its place already, so that it does not tell in which literal it came up.

* `Evaluator.eval_list`, `Evaluator.eval_hash` — a literal evaluates its items, or its keys and
  values in turn, and then makes its value of them.
* `Evaluator.evalItems_append`, `Evaluator.evalPairs_append` — what stands in two parts is evaluated
  one part after the other.
* `Evaluator.eval_literal_add` — the literal and the sum come to the same.

The sum of two hashes inserts the entries of the second one, in which each key has its last value
already, while the literal inserts its pairs one after the other. This comes to the same if keys
count as the same whichever is looked up (`Entries.ofList_append`), that is, where values are
well-formed, as evaluation leaves them (`Evaluator.eval_wellFormed`).
-/

namespace Manifest.Evaluator

open EvalM NodeSet

variable {E : Evaluator}

section Loops

variable (E) (invoke : Invoke)

/-! ## Lists -/

theorem evalItems_append (xs ys : List Expr) :
    E.evalItems invoke (xs ++ ys) = (do
      let vs ← E.evalItems invoke xs
      let ws ← E.evalItems invoke ys
      pure (vs ++ ws)) := by
  induction xs with
  | nil => exact (bind_pure _).symm
  | cons x rest ih => simp only [List.cons_append, evalItems, ih, bind_assoc, pure_bind,
      List.append_assoc]

theorem placed_evalItem (e : Expr) : Placed (E.evalItem invoke e) := by
  obtain ⟨form, span⟩ := e
  cases form with
  | unfold inner => exact (E.placed_evalExpr invoke inner).bind fun _ => placed_pure _
  | _ => exact (placed_located _ span _).bind fun _ => placed_pure _

theorem placed_evalItems (items : List Expr) : Placed (E.evalItems invoke items) := by
  induction items with
  | nil => exact placed_pure _
  | cons e rest ih =>
    exact (E.placed_evalItem invoke e).bind fun _ => ih.bind fun _ => placed_pure _

/-! ## Hashes -/

/-- The keys and values of the entries of a literal, as they are evaluated. -/
def evalPairs : List HashEntry → EvalM (List (Value × Value))
  | [] => pure []
  | e :: rest => do
    let k ← E.evalExpr invoke e.key
    let v ← E.evalExpr invoke e.value
    let pairs ← evalPairs rest
    pure ((k, v) :: pairs)

/-- The literal inserts them one after the other. -/
theorem evalHash_eq (entries : List HashEntry) (done : Entries) :
    E.evalHash invoke entries done = (do
      let pairs ← E.evalPairs invoke entries
      pure (.hash (done.insertAll pairs))) := by
  induction entries generalizing done with
  | nil => rfl
  | cons e rest ih =>
    obtain ⟨key, value⟩ := e
    simp only [evalHash, evalPairs, ih, bind_assoc, pure_bind, Entries.insertAll_cons]

theorem evalPairs_append (es fs : List HashEntry) :
    E.evalPairs invoke (es ++ fs) = (do
      let ps ← E.evalPairs invoke es
      let qs ← E.evalPairs invoke fs
      pure (ps ++ qs)) := by
  induction es with
  | nil => exact (bind_pure _).symm
  | cons e rest ih =>
    simp only [List.cons_append, evalPairs, ih, bind_assoc, pure_bind]

theorem placed_evalPairs (entries : List HashEntry) : Placed (E.evalPairs invoke entries) := by
  induction entries with
  | nil => exact placed_pure _
  | cons e rest ih =>
    exact (E.placed_evalExpr invoke e.key).bind fun _ =>
      (E.placed_evalExpr invoke e.value).bind fun _ => ih.bind fun _ => placed_pure _

end Loops

variable {n : Nat}

/-- Keys and values are well-formed where variables are. -/
theorem meets_evalPairs (hkeeps : E.functions.KeepsKeys) (entries : List HashEntry) :
    keying.Meets (E.evalPairs (E.invoke n) entries) := by
  induction entries with
  | nil => exact keying.meets_pure owns_nil
  | cons e rest ih =>
    exact (meets_eval hkeeps n e.key).bind fun _ hk => (meets_eval hkeeps n e.value).bind
      fun _ hv => ih.bind fun _ hpairs => keying.meets_pure (owns_cons.2 ⟨⟨hk, hv⟩, hpairs⟩)

/-! ## Literals -/

variable (E n)

theorem eval_list (items : List Expr) (place : Span) :
    E.eval n ⟨.list items, place⟩ = (do
      let vs ← E.evalItems (E.invoke n) items
      pure (.array vs)) :=
  ((E.placed_evalItems _ items).bind fun _ => placed_pure _).located_eq _ place

theorem eval_hash (entries : List HashEntry) (place : Span) :
    E.eval n ⟨.hash entries, place⟩ = (do
      let pairs ← E.evalPairs (E.invoke n) entries
      pure (.hash (Entries.ofList pairs))) := by
  have hform : E.evalForm (E.invoke n) (.hash entries) = _ := E.evalHash_eq (E.invoke n) entries []
  have hplaced : Placed (E.evalForm (E.invoke n) (.hash entries)) := by
    rw [hform]
    exact (E.placed_evalPairs _ entries).bind fun _ => placed_pure _
  exact (hplaced.located_eq _ place).trans hform

/-- A sum evaluates its operands, first the left one, and then adds them. -/
theorem eval_add (left right : Expr) (place : Span) :
    E.eval n ⟨.arithmetic .add left right, place⟩ =
      located (Form.arithmetic .add left right).kind place (do
        let a ← E.eval n left
        let b ← E.eval n right
        ofExcept (a.combine .add b)) :=
  rfl

/-- The sum of two lists has the elements of both. -/
theorem eval_list_add (xs ys : List Expr) (left right place : Span) :
    E.eval n ⟨.arithmetic .add ⟨.list xs, left⟩ ⟨.list ys, right⟩, place⟩ = (do
      let vs ← E.evalItems (E.invoke n) xs
      let ws ← E.evalItems (E.invoke n) ys
      pure (.array (vs ++ ws))) := by
  have hsum : ∀ vs ws : List Value, (ofExcept ((Value.array vs).combine .add (.array ws))) =
      (pure (.array (vs ++ ws)) : EvalM Value) := fun _ _ => rfl
  simp only [eval_add, eval_list, bind_assoc, pure_bind, hsum]
  exact ((E.placed_evalItems _ xs).bind fun _ => (E.placed_evalItems _ ys).bind
    fun _ => placed_pure _).located_eq _ place

/-- The sum of two hashes has the entries of the first one, and those of the second one inserted. -/
theorem eval_hash_add (es fs : List HashEntry) (left right place : Span) :
    E.eval n ⟨.arithmetic .add ⟨.hash es, left⟩ ⟨.hash fs, right⟩, place⟩ = (do
      let ps ← E.evalPairs (E.invoke n) es
      let qs ← E.evalPairs (E.invoke n) fs
      pure (.hash ((Entries.ofList ps).insertAll (Entries.ofList qs)))) := by
  have hsum : ∀ x y : Entries, (ofExcept ((Value.hash x).combine .add (.hash y))) =
      (pure (.hash (x.insertAll y)) : EvalM Value) := fun _ _ => rfl
  simp only [eval_add, eval_hash, bind_assoc, pure_bind, hsum]
  exact ((E.placed_evalPairs _ es).bind fun _ => (E.placed_evalPairs _ fs).bind
    fun _ => placed_pure _).located_eq _ place

/-- **Literals in two parts**: the literal of a list and another one, and the sum of their literals
have the same outcome, wherever they stand, and leave the same state; so do the literals of hashes,
with the same entries in the same order, where variables are well-formed and host functions keep
values so. -/
theorem eval_literal_add (s : State) (whole left right sum : Span) :
    (∀ xs ys : List Expr, E.eval n ⟨.list (xs ++ ys), whole⟩ s =
      E.eval n ⟨.arithmetic .add ⟨.list xs, left⟩ ⟨.list ys, right⟩, sum⟩ s) ∧
    (E.functions.KeepsKeys → s.env.WellFormed → ∀ es fs : List HashEntry,
      E.eval n ⟨.hash (es ++ fs), whole⟩ s =
        E.eval n ⟨.arithmetic .add ⟨.hash es, left⟩ ⟨.hash fs, right⟩, sum⟩ s) := by
  refine ⟨fun xs ys => ?_, fun hkeeps henv es fs => ?_⟩
  · simp only [eval_list, eval_list_add, evalItems_append, bind_assoc, pure_bind]
  · simp only [eval_hash, eval_hash_add, evalPairs_append, bind_assoc, pure_bind]
    -- what is inserted differs only where the pairs of both parts are at hand
    refine bind_congr_of_ok fun ps t hps => bind_congr_of_ok fun qs u hqs => ?_
    obtain ⟨ht, hps⟩ := meets_evalPairs hkeeps es (owns_allDistinct.2 henv) hps
    obtain ⟨-, hqs⟩ := meets_evalPairs hkeeps fs ht hqs
    rw [Entries.ofList_append (owns_allDistinct.1 hps) (owns_allDistinct.1 hqs)]

/-- A number of one digit. -/
def digit (n : Int64) (start : Nat) : Expr :=
  ⟨.literal (.integer n), ⟨start, start + 1⟩⟩

/-- The items of `[1, *{2 => 3}]`. -/
def splicedItems : List Expr :=
  [digit 1 1, ⟨.unfold ⟨.hash [⟨digit 2 6, digit 3 11⟩], ⟨5, 13⟩⟩, ⟨4, 13⟩⟩]

/-- The entries of `{{1 => 2, 3 => 4} => 5, 6 => 7}`. -/
def nestedEntries : List HashEntry :=
  [⟨⟨.hash [⟨digit 1 2, digit 2 7⟩, ⟨digit 3 10, digit 4 15⟩], ⟨1, 17⟩⟩, digit 5 21⟩,
    ⟨digit 6 24, digit 7 29⟩]

/-- The entries of `{6 => 8, {3 => 4, 1 => 2} => 9}`, where the same keys are written otherwise. -/
def reorderedEntries : List HashEntry :=
  [⟨digit 6 35, digit 8 40⟩,
    ⟨⟨.hash [⟨digit 3 44, digit 4 49⟩, ⟨digit 1 52, digit 2 57⟩], ⟨43, 59⟩⟩, digit 9 63⟩]

/-- A hash that is spliced into a list contributes its pairs, in both forms; and keys that come
again stay where and as they were first, with their last values. -/
theorem eval_literal_add_nested :
    let s := State.initial (.ofGlobals [])
    (∃ t, Library.evaluator.eval 0 ⟨.list (splicedItems ++ [digit 4 16]), ⟨0, 18⟩⟩ s =
        some (.ok (.array [.integer 1, .array [.integer 2, .integer 3], .integer 4]), t) ∧
      Library.evaluator.eval 0 ⟨.arithmetic .add ⟨.list splicedItems, ⟨0, 14⟩⟩
          ⟨.list [digit 4 16], ⟨17, 20⟩⟩, ⟨0, 20⟩⟩ s =
        some (.ok (.array [.integer 1, .array [.integer 2, .integer 3], .integer 4]), t)) ∧
    ∃ t, Library.evaluator.eval 0 ⟨.hash (nestedEntries ++ reorderedEntries), ⟨0, 65⟩⟩ s =
        some (.ok (.hash [(.hash [(.integer 1, .integer 2), (.integer 3, .integer 4)], .integer 9),
          (.integer 6, .integer 8)]), t) ∧
      Library.evaluator.eval 0 ⟨.arithmetic .add ⟨.hash nestedEntries, ⟨0, 31⟩⟩
          ⟨.hash reorderedEntries, ⟨34, 65⟩⟩, ⟨0, 65⟩⟩ s =
        some (.ok (.hash [(.hash [(.integer 1, .integer 2), (.integer 3, .integer 4)], .integer 9),
          (.integer 6, .integer 8)]), t) := by
  intro s
  have hempty : s.env.WellFormed := ⟨List.forall_mem_nil _, List.forall_mem_nil _⟩
  obtain ⟨hlists, -⟩ := eval_literal_add Library.evaluator 0 s ⟨0, 18⟩ ⟨0, 14⟩ ⟨17, 20⟩ ⟨0, 20⟩
  obtain ⟨-, hhashes⟩ := eval_literal_add Library.evaluator 0 s ⟨0, 65⟩ ⟨0, 31⟩ ⟨34, 65⟩ ⟨0, 65⟩
  exact ⟨⟨_, rfl, (hlists _ _).symm.trans rfl⟩,
    ⟨_, rfl, (hhashes Library.functions_keepsKeys hempty _ _).symm.trans rfl⟩⟩

end Manifest.Evaluator
