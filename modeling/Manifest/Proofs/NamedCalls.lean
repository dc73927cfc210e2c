import Manifest.Proofs.Parameters
import Manifest.Proofs.Resolution

/-!
# Arguments by position and by name

A call of a closure takes its arguments by position or by name. The rules are written out for each,
but they come to the same: with the first parameters of a closure given by name, in whatever order,
its parameters find the arguments that they have by position. Arguments that spill over are then
parameters again, so that nothing is left of them either.

* `Evaluator.byName_eq_byPosition_of_perm` — parameters find the same arguments.
* `Evaluator.callNamed_agrees` — the two calls come out the same, but for the remark with which a
  call by name reports what is missing.
-/

namespace Manifest

/-- A parameter with an argument gets a variable. -/
theorem mem_names_boundParams {given : List (Param × Option Value)} {p : Param} {v : Value}
    (h : (p, some v) ∈ given) (values : List Value) :
    p.name ∈ NameMap.names (boundParams given values) := by
  induction given generalizing values with
  | nil => cases h
  | cons g rest ih =>
    rcases List.mem_cons.1 h with rfl | hrest
    · exact List.mem_cons_self
    · obtain ⟨q, _ | w⟩ := g
      · cases hdefault : q.default with
        | none =>
          rw [boundParams_cons_required hdefault]
          exact ih hrest values
        | some e =>
          cases values with
          | nil =>
            simp only [boundParams, hdefault]
            exact ih hrest []
          | cons w ws =>
            rw [boundParams_cons_default hdefault]
            exact List.mem_cons_of_mem _ (ih hrest ws)
      · exact List.mem_cons_of_mem _ (ih hrest values)

namespace Evaluator

open EvalM

/-! ## The arguments that parameters find -/

section Named

variable {params : List Param} {args : List Value} {named : Bindings}

/-- The parameters that have arguments by position are the first ones. -/
theorem map_fst_zip_eq_take (params : List Param) (args : List Value) :
    (params.zip args).map (·.1) = params.take args.length := by
  induction params generalizing args with
  | nil => rw [List.take_nil]; rfl
  | cons p ps ih =>
    cases args with
    | nil => rfl
    | cons v vs => exact congrArg (p :: ·) (ih vs)

/-- Where the first parameters are given by name, in any order, all find what they have by
position. -/
theorem byName_eq_byPosition_of_perm (hparams : params.Pairwise fun p q => p.name ≠ q.name)
    (hnamed : named.Perm (argumentBindings (params.zip args))) :
    byName params named = byPosition params args := by
  have hfirst : ((params.zip args).map (·.1)).Pairwise fun p q => p.name ≠ q.name := by
    rw [map_fst_zip_eq_take]
    exact hparams.sublist (List.take_sublist _ _)
  rw [List.pairwise_map] at hfirst
  have hbindings : NameMap.Distinct (argumentBindings (params.zip args)) :=
    List.pairwise_map.2 hfirst
  have hdistinct : named.Distinct := (hnamed.pairwise_iff Ne.symm).2 hbindings
  refine byName_eq_byPosition (fun g hg => ?_) fun p hp => ?_
  · exact (Value.lookup_eq_some hdistinct).2 (hnamed.mem_iff.2 (List.mem_map_of_mem hg))
  · -- the names of the others are not among those of the first
    rw [Option.eq_none_iff_forall_ne_some]
    intro v hv
    obtain ⟨g, hg, heq⟩ := List.mem_map.1 (hnamed.mem_iff.1 (NameMap.mem_of_get? hv))
    have htaken : g.1 ∈ params.take args.length :=
      map_fst_zip_eq_take params args ▸ List.mem_map_of_mem hg
    rw [← List.take_append_drop args.length params] at hparams
    obtain ⟨-, -, happart⟩ := List.pairwise_append.1 hparams
    exact happart g.1 htaken p hp (congrArg Prod.fst heq)

/-- Arguments by name that are parameters leave nothing when they spill over. -/
theorem insertAll_spilled (hnamed : named.Perm (argumentBindings (params.zip args)))
    (captures : Bindings) (values : List Value) :
    (captures.insertAll named).insertAll (boundParams (byPosition params args) values) =
      captures.insertAll (boundParams (byPosition params args) values) := by
  refine NameMap.insertAll_insertAll_of_subset (fun name hname => ?_) captures
  obtain ⟨e, he, rfl⟩ := List.mem_map.1 hname
  obtain ⟨g, hg, rfl⟩ := List.mem_map.1 (hnamed.mem_iff.1 he)
  have hgiven : (g.1, some g.2) ∈ byPosition params args := by
    rw [byPosition_eq_append]
    exact List.mem_append_left _ (List.mem_map.2 ⟨g, hg, rfl⟩)
  exact mem_names_boundParams hgiven values

end Named

/-! ## The two calls -/

/-- **Arguments by position and by name**: if the parameters of a closure have distinct names, it
makes no difference whether the first ones are given by position or, in whatever order, by name, nor
whether other names may spill over. The two calls, with as much fuel for their expressions, have the
same outcome and leave the same state, unless they report themselves that parameters are missing;
then the call by name adds a remark in which these are listed. -/
theorem callNamed_agrees (E : Evaluator) (n : Nat) {c : Closure} {args : List Value}
    {named : Bindings} (hparams : c.lambda.params.Pairwise fun p q => p.name ≠ q.name)
    (hargs : args.length ≤ c.arity)
    (hnamed : named.Perm (argumentBindings (c.lambda.params.zip args))) (spillOver : Bool)
    (s : State) :
    (∀ values t, (c.missingDefaults args.length).mapM (E.eval n) s = some (.ok values, t) →
      c.missingParams args.length ≠ [] →
      ∃ bound, E.callClosure (n + 1) c args s =
          some (.error (.ofCause (.tooFewArguments args.length bound
            (c.missingParams args.length))), t) ∧
        E.callNamed n c named spillOver s =
          some (.error ((EvalError.ofCause (.tooFewArguments args.length bound
            (c.missingParams args.length))).withNote
              ⟨"missing parameters: " ++ ", ".intercalate (c.missingParams args.length), none⟩),
                t)) ∧
    ((∀ values t, (c.missingDefaults args.length).mapM (E.eval n) s = some (.ok values, t) →
      c.missingParams args.length = []) →
      E.callNamed n c named spillOver s = E.callClosure (n + 1) c args s) := by
  have hlength : named.length = args.length := by
    rw [hnamed.length_eq, argumentBindings, List.length_map, List.length_zip]
    exact Nat.min_eq_right hargs
  have hname : E.callNamed n c named spillOver = _ :=
    callNamed_eq_callInPhases (.inr (hlength ▸ hargs))
  rw [byName_eq_byPosition_of_perm hparams hnamed, hlength, missingNames_byPosition] at hname
  refine ⟨fun values t hdefaults hmissing =>
    ⟨argumentBound c.lambda, callClosure_of_missing hargs hdefaults hmissing, ?_⟩, fun hnone => ?_⟩
  · rw [Closure.missingDefaults, ← unsuppliedDefaults_byPosition] at hdefaults
    rw [hname]
    exact callInPhases_of_missing hdefaults (by rwa [missingNames_byPosition])
  · rw [Closure.missingDefaults, ← unsuppliedDefaults_byPosition,
      ← missingNames_byPosition] at hnone
    rw [hname, callClosure_eq_callInPhases hargs]
    refine callInPhases_congr (fun values => ?_) hnone
    cases spillOver with
    | false => rfl
    | true => exact insertAll_spilled hnamed _ _

/-- The closure `|$a, $b = touch()| { $a }`. -/
def touchingSecond : Closure :=
  ⟨⟨0, [⟨"a", none, ⟨1, 3⟩⟩, ⟨"b", some Library.touchCall, ⟨5, 17⟩⟩],
    ⟨.variable ⟨.qualifiedName "a", ⟨22, 23⟩⟩, ⟨21, 23⟩⟩, ⟨0, 25⟩⟩, []⟩

/-- With one argument both calls of it answer with that, even if arguments by name spill over.
Without any both report that `$a` is missing. -/
theorem callNamed_agrees_touch :
    (∃ t, Library.evaluator.callClosure 1 touchingSecond [.integer 5] (.initial (.ofGlobals [])) =
        some (.ok (.integer 5), t) ∧
      Library.evaluator.callNamed 0 touchingSecond [("a", .integer 5)] true
          (.initial (.ofGlobals [])) = some (.ok (.integer 5), t) ∧
      t.env.get? "touched" = some (.boolean true)) ∧
    ∃ bound t, Library.evaluator.callClosure 1 touchingSecond [] (.initial (.ofGlobals [])) =
        some (.error (.ofCause (.tooFewArguments 0 bound ["a"])), t) ∧
      Library.evaluator.callNamed 0 touchingSecond [] false (.initial (.ofGlobals [])) =
        some (.error ((EvalError.ofCause (.tooFewArguments 0 bound ["a"])).withNote
          ⟨"missing parameters: a", none⟩), t) := by
  have hparams : touchingSecond.lambda.params.Pairwise fun p q => p.name ≠ q.name :=
    List.pairwise_pair.2 (by decide)
  refine ⟨?_, ?_⟩
  · obtain ⟨t, hcall, htouched⟩ : ∃ t,
        Library.evaluator.callClosure 1 touchingSecond [.integer 5] (.initial (.ofGlobals [])) =
            some (.ok (.integer 5), t) ∧
          t.env.get? "touched" = some (.boolean true) := ⟨_, rfl, rfl⟩
    have hnamed : List.Perm [("a", .integer 5)]
        (argumentBindings (touchingSecond.lambda.params.zip [.integer 5])) := .refl _
    obtain ⟨-, hsame⟩ := callNamed_agrees Library.evaluator 0 hparams (by decide) hnamed true
      (.initial (.ofGlobals []))
    exact ⟨t, hcall, (hsame fun _ _ _ => rfl).trans hcall, htouched⟩
  · have hnamed : List.Perm []
        (argumentBindings (touchingSecond.lambda.params.zip [])) := .refl _
    obtain ⟨hreport, -⟩ := callNamed_agrees Library.evaluator 0 hparams (by decide) hnamed false
      (.initial (.ofGlobals []))
    obtain ⟨bound, hcalls⟩ := hreport _ _ rfl (by decide)
    exact ⟨bound, _, hcalls⟩

end Evaluator

end Manifest
