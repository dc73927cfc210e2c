import Mathlib.Data.List.Perm.Subperm
import Manifest.Proofs.Parameters
import Manifest.Proofs.Resolution

/-!
# How many arguments a call needs

A parameter needs an argument unless it has a default. A call that leaves such a parameter without
one reports how many arguments it was given and how many it needs at least. The two need not fit
together: what it was given counts all arguments, what it needs only the parameters without a
default.

* `Evaluator.callClosure_argumentCount` — what comes of a call with arguments by position, according
  to how many there are.
* `Evaluator.tooFewArguments_lt_iff` — when a report says that fewer arguments were given than are
  needed.
-/

namespace Manifest

/-! ## Counting parameters -/

/-- A parameter has a default or needs an argument. -/
theorem Param.isSome_default (p : Param) : p.default.isSome = !p.isRequired := by
  rw [isRequired, Option.not_isNone]

namespace Closure

/-- How many of the first parameters, that many, have a default. -/
def defaultsAmong (c : Closure) (given : Nat) : Nat :=
  (c.lambda.params.take given).countP (·.default.isSome)

/-- A parameter without a default takes an argument with this name. -/
def needs (c : Closure) (name : String) : Bool :=
  c.lambda.params.any fun p => p.isRequired && p.name == name

/-- How many arguments by name no parameter without a default takes. -/
def surplus (c : Closure) (named : Bindings) : Nat :=
  named.countP fun e => !c.needs e.1

variable {c : Closure} {given : Nat}

theorem length_missingParams (c : Closure) (given : Nat) :
    (c.missingParams given).length = (c.lambda.params.drop given).countP (·.isRequired) := by
  rw [missingParams, List.length_map, List.countP_eq_length_filter]

/-- If no parameter is missing, all that have no argument have a default. -/
theorem length_missingDefaults (h : c.missingParams given = []) :
    (c.missingDefaults given).length = c.arity - given := by
  have hdefault : ∀ p ∈ c.lambda.params.drop given, p.default.isSome := fun p hp => by
    have hoptional := List.filter_eq_nil_iff.1 (List.map_eq_nil_iff.1 h) p hp
    rw [Param.isSome_default, eq_false_of_ne_true hoptional]
    rfl
  rw [missingDefaults, List.length_filterMap_eq_countP, List.countP_eq_length.2 hdefault,
    List.length_drop, arity]

/-- The arguments by position go to parameters that need one or have a default. -/
theorem given_add_missing (h : given ≤ c.arity) :
    given + (c.missingParams given).length = c.lambda.requiredCount + c.defaultsAmong given := by
  have hrequired : c.lambda.requiredCount = (c.lambda.params.take given).countP (·.isRequired) +
      (c.missingParams given).length := by
    rw [length_missingParams, ← List.countP_append, List.take_append_drop, Lambda.requiredCount]
  have hgiven : (c.lambda.params.take given).length = given := List.length_take_of_le h
  have hsplit := List.length_eq_countP_add_countP (fun p : Param => p.isRequired)
    (l := c.lambda.params.take given)
  have hdefaults : c.defaultsAmong given =
      (c.lambda.params.take given).countP fun p => decide ¬ p.isRequired = true := by
    rw [defaultsAmong]
    exact List.countP_congr fun p _ => by simp [Param.isSome_default]
  -- both sides count the first parameters, and the missing ones among the others
  omega

/-! ## Counting names -/

variable {named : Bindings}

/-- The names of arguments that parameters without a default take. -/
def takenNames (c : Closure) (named : Bindings) : List String :=
  (named.filter fun e => c.needs e.1).map (·.1)

/-- The names of parameters without a default that have an argument. -/
def suppliedNames (c : Closure) (named : Bindings) : List String :=
  (c.lambda.params.filter fun p => p.isRequired && (named.get? p.name).isSome).map (·.name)

/-- These are the same names, although there may be more of the second ones. -/
theorem mem_takenNames_iff {name : String} :
    name ∈ c.takenNames named ↔ name ∈ c.suppliedNames named := by
  simp only [takenNames, suppliedNames, needs, List.mem_map, List.mem_filter, List.any_eq_true,
    Bool.and_eq_true, beq_iff_eq]
  constructor
  · rintro ⟨e, ⟨he, p, hp, hrequired, hname⟩, rfl⟩
    have hfound : (named.get? p.name).isSome :=
      List.lookup_isSome_iff.2 ⟨e, he, beq_iff_eq.2 hname⟩
    exact ⟨p, ⟨hp, hrequired, hfound⟩, hname⟩
  · rintro ⟨p, ⟨hp, hrequired, hfound⟩, rfl⟩
    obtain ⟨v, hv⟩ := Option.isSome_iff_exists.1 hfound
    exact ⟨(p.name, v), ⟨NameMap.mem_of_get? hv, p, hp, hrequired, rfl⟩, rfl⟩

/-- Each argument by name is taken by parameters without a default or is in surplus. -/
theorem length_takenNames_add_surplus (c : Closure) (named : Bindings) :
    (c.takenNames named).length + c.surplus named = named.length := by
  have hsplit := List.length_eq_countP_add_countP (fun e : String × Value => c.needs e.1)
    (l := named)
  have hsurplus : c.surplus named = named.countP fun e => decide ¬ c.needs e.1 = true :=
    List.countP_congr fun e _ => by simp
  rw [takenNames, List.length_map, ← List.countP_eq_length_filter, hsurplus, ← hsplit]

/-- Each parameter without a default has an argument or is missing. -/
theorem length_suppliedNames_add_missing (c : Closure) (named : Bindings) :
    (c.suppliedNames named).length +
        (missingNames (Evaluator.byName c.lambda.params named)).length =
      c.lambda.requiredCount := by
  have hsupplied : (c.suppliedNames named).length =
      (c.lambda.params.filter (·.isRequired)).countP fun p => (named.get? p.name).isSome := by
    rw [suppliedNames, List.length_map, ← List.countP_eq_length_filter, List.countP_filter]
    exact List.countP_congr fun p _ => by rw [Bool.and_comm]
  have hmissing : (missingNames (Evaluator.byName c.lambda.params named)).length =
      (c.lambda.params.filter (·.isRequired)).countP
        fun p => decide ¬ (named.get? p.name).isSome = true := by
    rw [missingNames, List.length_map, ← List.countP_eq_length_filter, Evaluator.byName,
      List.countP_map, List.countP_filter]
    exact List.countP_congr fun p _ => by simp
  have hsplit := List.length_eq_countP_add_countP
    (fun p : Param => (named.get? p.name).isSome) (l := c.lambda.params.filter (·.isRequired))
  rw [hsupplied, hmissing, ← hsplit, Lambda.requiredCount, List.countP_eq_length_filter]

/-- Distinct arguments are taken by distinct parameters. -/
theorem length_takenNames_le (h : named.Distinct) :
    (c.takenNames named).length ≤ (c.suppliedNames named).length := by
  have hnodup : (c.takenNames named).Nodup :=
    List.pairwise_map.2 (h.sublist List.filter_sublist)
  exact (hnodup.subperm fun _ => mem_takenNames_iff.1).length_le

/-- Parameters with distinct names have distinct arguments. -/
theorem length_suppliedNames_le (h : c.lambda.params.Pairwise fun p q => p.name ≠ q.name) :
    (c.suppliedNames named).length ≤ (c.takenNames named).length := by
  have hnodup : (c.suppliedNames named).Nodup :=
    List.pairwise_map.2 (h.sublist List.filter_sublist)
  exact (hnodup.subperm fun _ => mem_takenNames_iff.2).length_le

end Closure

namespace Evaluator

open EvalM

/-- The bound counts the parameters without a default. It is exact if no parameter has one. -/
theorem argumentBound_eq (lambda : Lambda) :
    argumentBound lambda =
      if ∃ p ∈ lambda.params, p.default.isSome then .atLeast lambda.requiredCount
      else .exactly lambda.requiredCount := by
  have hall : lambda.requiredCount = lambda.params.length ↔
      ¬ ∃ p ∈ lambda.params, p.default.isSome := by
    rw [Lambda.requiredCount, List.countP_eq_length]
    simp [Param.isSome_default]
  have hle : lambda.requiredCount ≤ lambda.params.length := List.countP_le_length
  have hiff : lambda.requiredCount < lambda.params.length ↔
      ∃ p ∈ lambda.params, p.default.isSome := by
    rw [Nat.lt_iff_le_and_ne, ne_eq, hall, not_not]
    exact and_iff_right hle
  rw [argumentBound]
  exact if_congr hiff rfl rfl

/-- So its number is the number of these parameters. -/
theorem count_argumentBound (lambda : Lambda) :
    (argumentBound lambda).count = lambda.requiredCount := by
  rw [argumentBound]
  split <;> rfl

/-- **How many arguments by position**: a call with more arguments than parameters fails at once.
Otherwise the defaults of the parameters without an argument are evaluated, from left to right and
where the call is made; the first one that gives no value decides what comes of the call. If all do
and there is a parameter with neither an argument nor a default, the call names these parameters, in
their order, and how many arguments it needs. Only if there is none is the body entered, and every
parameter is bound there; a limit on calls that is reached by then refuses even that. -/
theorem callClosure_argumentCount (E : Evaluator) (n : Nat) (c : Closure) (args : List Value)
    (s : State) :
    (c.arity < args.length →
      E.callClosure (n + 1) c args s =
        some (.error (.ofCause (.tooManyArguments args.length c.arity)), s)) ∧
    (args.length ≤ c.arity →
      (∀ before d after values u, c.missingDefaults args.length = before ++ d :: after →
        before.mapM (E.eval n) s = some (.ok values, u) →
        (∀ v t, E.eval n d u ≠ some (.ok v, t)) →
        E.callClosure (n + 1) c args s = E.eval n d u) ∧
      ∀ values t, (c.missingDefaults args.length).mapM (E.eval n) s = some (.ok values, t) →
        (c.missingParams args.length ≠ [] →
          E.callClosure (n + 1) c args s =
            some (.error (.ofCause (.tooFewArguments args.length
              (if ∃ p ∈ c.lambda.params, p.default.isSome then .atLeast c.lambda.requiredCount
                else .exactly c.lambda.requiredCount)
              (c.missingParams args.length))), t)) ∧
        (c.missingParams args.length = [] →
          (args ++ values).length = c.arity ∧
          (∀ p ∈ c.lambda.params, (NameMap.get? (c.varsFor (args ++ values)) p.name).isSome) ∧
          ((∀ most ∈ E.callLimit, t.calls.length < most) →
            E.callClosure (n + 1) c args s =
              (E.eval n c.lambda.body (c.entry (c.varsFor (args ++ values)) t)).map (leave t)) ∧
          ∀ most ∈ E.callLimit, most ≤ t.calls.length →
            E.callClosure (n + 1) c args s =
              some (.error (.ofCause (.recursionLimitExceeded most)), t))) := by
  have hneeded : unsuppliedDefaults (byPosition c.lambda.params args) =
      c.missingDefaults args.length := unsuppliedDefaults_byPosition _ _
  refine ⟨fun hmany => ?_, fun hfew => ⟨fun before d after values u hsplit hbefore hstops => ?_,
    fun values t hdefaults => ⟨fun hsome => ?_, fun hnone => ?_⟩⟩⟩
  · rw [callClosure_succ, callWith, varsByPosition, if_pos hmany]
    rfl
  · rw [callClosure_eq_callInPhases hfew]
    exact callInPhases_of_stops (hneeded.trans hsplit) hbefore hstops
  · rw [callClosure_of_missing hfew hdefaults hsome, argumentBound_eq]
  · have hcount : values.length = (c.missingDefaults args.length).length :=
      length_of_mapM hdefaults
    have harity : (args ++ values).length = c.arity := by
      rw [List.length_append, hcount, Closure.length_missingDefaults hnone]
      omega
    rw [← hneeded] at hdefaults hcount
    rw [← missingNames_byPosition] at hnone
    have hentered : E.callClosure (n + 1) c args s =
        E.enterWith (E.eval n) c (c.varsFor (args ++ values)) t := by
      rw [callClosure_eq_callInPhases hfew, callInPhases_of_complete hdefaults hnone,
        boundParams_byPosition hnone hcount, Closure.varsFor]
    refine ⟨harity, fun p hp => Closure.isSome_varsFor harity hp, fun hroom => ?_,
      fun most hlimit hfull => ?_⟩
    · rw [hentered, enterWith_of_room _ _ _ hroom]
    · rw [hentered, enterWith_of_full _ _ _ hlimit hfull]

/-- The call `unheard()` of a function that there is not. -/
def unheardCall : Expr :=
  ⟨.callNamed ⟨.qualifiedName "unheard", ⟨20, 27⟩⟩ [] none, ⟨20, 29⟩⟩

/-- The closure `|$a = touch(), $b = unheard(), $c| { }`. -/
def mixedParams : Closure :=
  ⟨⟨0, [⟨"a", some Library.touchCall, ⟨1, 13⟩⟩, ⟨"b", some unheardCall, ⟨15, 29⟩⟩,
    ⟨"c", none, ⟨31, 33⟩⟩], ⟨.nop, ⟨35, 38⟩⟩, ⟨0, 38⟩⟩, []⟩

/-- Four arguments are too many for it. Without any, the first default calls `touch` and the second
one fails. With two, no default is evaluated, and the third parameter is missing. With three it
can be called. -/
theorem callClosure_argumentCount_mixed :
    Library.evaluator.callClosure 1 mixedParams
        [.integer 1, .integer 2, .integer 3, .integer 4] (.initial (.ofGlobals [])) =
      some (.error (.ofCause (.tooManyArguments 4 3)), .initial (.ofGlobals [])) ∧
    (∃ e t, Library.evaluator.callClosure 1 mixedParams [] (.initial (.ofGlobals [])) =
        some (.error e, t) ∧ t.env.get? "touched" = some (.boolean true)) ∧
    Library.evaluator.callClosure 1 mixedParams [.integer 1, .integer 2]
        (.initial (.ofGlobals [])) =
      some (.error (.ofCause (.tooFewArguments 2 (.atLeast 1) ["c"])), .initial (.ofGlobals [])) ∧
    Library.evaluator.callClosure 1 mixedParams [.integer 1, .integer 2, .integer 3]
        (.initial (.ofGlobals [])) =
      some (.ok .absent, .initial (.ofGlobals [])) := by
  have hcount := callClosure_argumentCount Library.evaluator 0 mixedParams
  refine ⟨(hcount _ _).1 (by decide), ?_, ?_, ?_⟩
  · obtain ⟨values, t, htouch, htouched⟩ : ∃ values t,
        [Library.touchCall].mapM (Library.evaluator.eval 0) (.initial (.ofGlobals [])) =
            some (.ok values, t) ∧
          t.env.get? "touched" = some (.boolean true) := ⟨_, _, rfl, rfl⟩
    obtain ⟨e, hunheard⟩ : ∃ e, Library.evaluator.eval 0 unheardCall t = some (.error e, t) :=
      ⟨_, rfl⟩
    obtain ⟨hstops, -⟩ := (hcount [] (.initial (.ofGlobals []))).2 (by decide)
    refine ⟨e, t, ?_, htouched⟩
    rw [← hunheard]
    refine hstops [Library.touchCall] unheardCall [] values t rfl htouch fun v u h => ?_
    rw [hunheard] at h
    cases h
  · obtain ⟨-, hrest⟩ := (hcount [.integer 1, .integer 2] (.initial (.ofGlobals []))).2 (by decide)
    exact (hrest [] _ rfl).1 (by decide)
  · obtain ⟨-, hrest⟩ := (hcount [.integer 1, .integer 2, .integer 3]
      (.initial (.ofGlobals []))).2 (by decide)
    obtain ⟨-, -, hentered, -⟩ := (hrest [] _ rfl).2 rfl
    exact hentered fun most hmost => by
      cases hmost
      decide

/-! ## What a report of too few arguments says -/

/-- **When too few arguments are fewer than needed**: the number in a report of too few arguments is
less than the bound in it exactly if fewer of the arguments went to parameters with a default than
parameters are missing. Of arguments by name, those count that no parameter without a default takes;
that there are fewer of these than parameters are missing is needed if the parameters have distinct
names, and enough even if they have not. -/
theorem tooFewArguments_lt_iff (E : Evaluator) (n : Nat) (c : Closure) (s t : State) :
    (∀ args values, args.length ≤ c.arity →
      (c.missingDefaults args.length).mapM (E.eval n) s = some (.ok values, t) →
      c.missingParams args.length ≠ [] →
      ∃ bound, E.callClosure (n + 1) c args s =
          some (.error (.ofCause (.tooFewArguments args.length bound
            (c.missingParams args.length))), t) ∧
        (args.length < bound.count ↔
          c.defaultsAmong args.length < (c.missingParams args.length).length)) ∧
    (∀ named spillOver values, named.Distinct → (spillOver = true ∨ named.length ≤ c.arity) →
      (unsuppliedDefaults (byName c.lambda.params named)).mapM (E.eval n) s =
        some (.ok values, t) →
      missingNames (byName c.lambda.params named) ≠ [] →
      ∃ bound missing, missing = missingNames (byName c.lambda.params named) ∧
        E.callNamed n c named spillOver s =
          some (.error ((EvalError.ofCause (.tooFewArguments named.length bound missing)).withNote
            ⟨"missing parameters: " ++ ", ".intercalate missing, none⟩), t) ∧
        (c.surplus named < missing.length → named.length < bound.count) ∧
        ((c.lambda.params.Pairwise fun p q => p.name ≠ q.name) →
          (named.length < bound.count ↔ c.surplus named < missing.length))) := by
  refine ⟨fun args values hfew hdefaults hmissing => ⟨argumentBound c.lambda, ?_, ?_⟩,
    fun named spillOver values hnamed hfew hdefaults hmissing =>
      ⟨argumentBound c.lambda, _, rfl, ?_, ?_⟩⟩
  · exact callClosure_of_missing hfew hdefaults hmissing
  · have hcount := Closure.given_add_missing hfew
    rw [count_argumentBound]
    omega
  · rw [callNamed_eq_callInPhases hfew, callInPhases_of_missing hdefaults hmissing]
    rfl
  · have hgiven := c.length_takenNames_add_surplus named
    have hrequired := c.length_suppliedNames_add_missing named
    have htaken : (c.takenNames named).length ≤ (c.suppliedNames named).length :=
      Closure.length_takenNames_le hnamed
    rw [count_argumentBound]
    -- with shared names there may be fewer arguments taken than parameters supplied
    refine ⟨fun hless => by omega, fun hdistinct => ?_⟩
    have hsupplied : (c.suppliedNames named).length ≤ (c.takenNames named).length :=
      Closure.length_suppliedNames_le hdistinct
    omega

/-- The closure `|$a = 1, $b| { }`. -/
def optionalFirst : Closure :=
  ⟨⟨0, [⟨"a", some ⟨.literal (.integer 1), ⟨6, 7⟩⟩, ⟨1, 7⟩⟩, ⟨"b", none, ⟨9, 11⟩⟩],
    ⟨.nop, ⟨13, 16⟩⟩, ⟨0, 16⟩⟩, []⟩

/-- Without any argument it needs one more than it was given. With the argument `x`, which is not
one of its parameters, it needs no more than it was given, although `$b` is missing. -/
theorem tooFewArguments_lt_iff_optionalFirst :
    (∃ bound : ArgumentBound, Library.evaluator.callClosure 1 optionalFirst []
        (.initial (.ofGlobals [])) =
          some (.error (.ofCause (.tooFewArguments 0 bound ["b"])), .initial (.ofGlobals [])) ∧
        0 < bound.count) ∧
      ∃ bound : ArgumentBound, Library.evaluator.callNamed 0 optionalFirst [("x", .integer 5)] false
        (.initial (.ofGlobals [])) =
          some (.error ((EvalError.ofCause (.tooFewArguments 1 bound ["b"])).withNote
            ⟨"missing parameters: b", none⟩), .initial (.ofGlobals [])) ∧
        ¬ 1 < bound.count := by
  obtain ⟨hposition, hname⟩ := tooFewArguments_lt_iff Library.evaluator 0 optionalFirst
    (.initial (.ofGlobals [])) (.initial (.ofGlobals []))
  refine ⟨?_, ?_⟩
  · obtain ⟨bound, hcall, hless⟩ := hposition [] [.integer 1] (by decide) rfl (by decide)
    exact ⟨bound, hcall, hless.2 (by decide)⟩
  · obtain ⟨bound, _, rfl, hcall, -, hless⟩ := hname [("x", .integer 5)] false [.integer 1]
      (List.pairwise_singleton _ _) (.inr (by decide)) rfl (by decide)
    refine ⟨bound, hcall, fun h => absurd ((hless ?_).1 h) (by decide)⟩
    exact List.pairwise_pair.2 (by decide)

/-- With one argument by position it is reported that one is too few, and that one is needed. -/
theorem tooFewArguments_not_lt :
    Library.evaluator.callClosure 1 optionalFirst [.integer 5] (.initial (.ofGlobals [])) =
        some (.error (.ofCause (.tooFewArguments 1 (.atLeast 1) ["b"])),
          .initial (.ofGlobals [])) ∧
      ¬ 1 < (ArgumentBound.atLeast 1).count :=
  ⟨rfl, by decide⟩

end Evaluator

end Manifest
