import Manifest.Evaluator.Call
import Manifest.Proofs.Layers

/-!
# Arguments of calls

Arguments come by position or by name. By position the first parameters have one
(`Evaluator.byPosition_eq_append`); by name the same ones may have it
(`Evaluator.byName_eq_byPosition`).

Where a closure is called with as many arguments as it has parameters, no default is evaluated and
nothing is missing. So the variables that its body gets can be told beforehand: what the closure has
captured and, on top of it, each parameter with its argument.

* `Closure.varsFor` — these variables.
* `Evaluator.varsByPosition_given`, `Evaluator.varsByName_given` — the body gets them, whether the
  arguments come by position or by name.
-/

namespace Manifest

/-- Parameters with their arguments, as bindings. -/
def argumentBindings (given : List (Param × Value)) : Bindings :=
  given.map fun g => (g.1.name, g.2)

/-- The variables that the body of a closure gets if there is an argument for every parameter: what
the closure has captured and, on top of it, the arguments. -/
def Closure.varsFor (c : Closure) (args : List Value) : Bindings :=
  NameMap.insertAll c.captures (argumentBindings (c.lambda.params.zip args))

/-- No name is lost that was captured. -/
theorem Closure.keeps_varsFor (c : Closure) (args : List Value) :
    NameMap.Keeps c.captures (c.varsFor args) :=
  .insertAll c.captures _

/-- Every parameter is bound. -/
theorem Closure.isSome_varsFor {c : Closure} {args : List Value} (h : args.length = c.arity)
    {p : Param} (hp : p ∈ c.lambda.params) : (NameMap.get? (c.varsFor args) p.name).isSome := by
  rw [← List.map_fst_zip (Nat.le_of_eq h.symm)] at hp
  obtain ⟨g, hg, rfl⟩ := List.mem_map.1 hp
  have hmem : (g.1.name, g.2) ∈ argumentBindings (c.lambda.params.zip args) :=
    List.mem_map.2 ⟨g, hg, rfl⟩
  have hfound : (NameMap.get? (argumentBindings (c.lambda.params.zip args)).reverse
      g.1.name).isSome :=
    List.lookup_isSome_iff.2 ⟨_, List.mem_reverse.2 hmem, beq_self_eq_true _⟩
  rw [varsFor, NameMap.get?_insertAll, Option.isSome_or, hfound, Bool.true_or]

namespace Evaluator

open EvalM

/-- Parameters that have arguments are bound to them, and no default is evaluated. -/
theorem bindParams_given (eval : Expr → EvalM Value) (given : List (Param × Value))
    (vars : Bindings) :
    bindParams eval (given.map fun g => (g.1, some g.2)) vars =
      pure (NameMap.insertAll vars (argumentBindings given), []) := by
  induction given generalizing vars with
  | nil => rfl
  | cons g rest ih => exact ih (vars.insert g.1.name g.2)

/-- By position the first parameters have the arguments and the others have none. -/
theorem byPosition_eq_append (params : List Param) (args : List Value) :
    byPosition params args =
      (params.zip args).map (fun g => (g.1, some g.2)) ++
        (params.drop args.length).map fun p => (p, none) := by
  induction params generalizing args with
  | nil => rw [List.drop_nil]; rfl
  | cons p ps ih =>
    cases args with
    | nil =>
      have hnone : byPosition ps [] = ps.map fun p => (p, none) := by
        rw [ih, List.zip_nil_right]
        rfl
      rw [byPosition, hnone]
      rfl
    | cons v vs => exact congrArg ((p, some v) :: ·) (ih vs)

/-- With as many arguments as parameters, each has its own. -/
theorem byPosition_eq_map_zip {params : List Param} {args : List Value}
    (h : args.length = params.length) :
    byPosition params args = (params.zip args).map fun g => (g.1, some g.2) := by
  rw [byPosition_eq_append, h, List.drop_length, List.map_nil, List.append_nil]

/-- Parameters find the arguments by name that they have by position, if the first ones do and the
others find none. -/
theorem byName_eq_byPosition {params : List Param} {args : List Value} {named : Bindings}
    (hfirst : ∀ g ∈ params.zip args, NameMap.get? named g.1.name = some g.2)
    (hothers : ∀ p ∈ params.drop args.length, NameMap.get? named p.name = none) :
    byName params named = byPosition params args := by
  induction params generalizing args with
  | nil => rfl
  | cons p ps ih =>
    cases args with
    | nil =>
      obtain ⟨hp, hps⟩ := List.forall_mem_cons.1 hothers
      have hrest : byName ps named = byPosition ps [] := by
        refine ih ?_ hps
        rw [List.zip_nil_right]
        exact List.forall_mem_nil _
      rw [byName, List.map_cons, hp, ← byName, hrest, byPosition]
    | cons v vs =>
      obtain ⟨hp, hps⟩ := List.forall_mem_cons.1 hfirst
      have hrest : byName ps named = byPosition ps vs := ih hps hothers
      rw [byName, List.map_cons, hp, ← byName, hrest, byPosition]

/-- So each has its own if arguments come by name and there is one for each. -/
theorem byName_eq_map_zip {params : List Param} {args : List Value} {named : Bindings}
    (h : args.length = params.length)
    (hnamed : ∀ g ∈ params.zip args, NameMap.get? named g.1.name = some g.2) :
    byName params named = (params.zip args).map fun g => (g.1, some g.2) := by
  have hothers : ∀ p ∈ params.drop args.length, NameMap.get? named p.name = none := by
    rw [h, List.drop_length]
    exact List.forall_mem_nil _
  rw [byName_eq_byPosition hnamed hothers, byPosition_eq_map_zip h]

variable {c : Closure} {args : List Value}

/-- With an argument for every parameter, the body of a closure gets the arguments on top of the
captures. -/
theorem varsByPosition_given (eval : Expr → EvalM Value) (h : args.length = c.arity) :
    varsByPosition eval c args = pure (c.varsFor args) := by
  rw [varsByPosition, if_neg (by omega), byPosition_eq_map_zip h, bindParams_given]
  rfl

/-- It gets the same if the arguments come by name, and none of them spills over. -/
theorem varsByName_given (eval : Expr → EvalM Value) {named : Bindings}
    (h : args.length = c.arity) (hcount : named.length ≤ c.arity)
    (hnamed : ∀ g ∈ c.lambda.params.zip args, NameMap.get? named g.1.name = some g.2) :
    varsByName eval c named false = pure (c.varsFor args) := by
  have hfew : ¬ (!false && decide (c.arity < named.length)) = true := by simpa using hcount
  rw [varsByName, if_neg hfew, byName_eq_map_zip h hnamed]
  simp only [Bool.false_eq_true, if_false, bindParams_given, pure_bind]
  rfl

end Evaluator

end Manifest
