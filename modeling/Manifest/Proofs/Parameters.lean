import Manifest.Proofs.Defaults

/-!
# Binding parameters

While the parameters of a closure are bound one after the other, arguments are used up, defaults are
evaluated and the names of parameters are noted that have neither. What comes of it does not depend
on how these three are interleaved: it is as if the defaults of all parameters without an argument
were evaluated first, from left to right, and everything else was done afterwards without a further
step.

* `Evaluator.bindParams_eq` — the defaults first, then the rest.
* `Evaluator.callInPhases` — a call in these two phases, and what comes of it if a default gives no
  value, if parameters are missing, or if none is.
* `Evaluator.callClosure_eq_callInPhases`, `Evaluator.callNamed_eq_callInPhases` — calls with
  arguments by position and by name are of this kind.
-/

namespace Manifest

/-! ## Parameters with and without an argument -/

/-- The names of parameters that have neither an argument nor a default. -/
def missingNames (given : List (Param × Option Value)) : List String :=
  (given.filter fun g => g.2.isNone && g.1.isRequired).map (·.1.name)

/-- The variables of parameters: each with its argument or, if it has none, with the next one of the
values of defaults. A parameter that has neither gets no variable. -/
def boundParams : List (Param × Option Value) → List Value → Bindings
  | [], _ => []
  | (p, some v) :: rest, values => (p.name, v) :: boundParams rest values
  | (p, none) :: rest, values =>
    match p.default, values with
    | some _, v :: values => (p.name, v) :: boundParams rest values
    | _, _ => boundParams rest values

/-- The parameters that a call with so many arguments by position leaves without a value. -/
def Closure.missingParams (c : Closure) (given : Nat) : List String :=
  ((c.lambda.params.drop given).filter (·.isRequired)).map (·.name)

section Lists

variable {p : Param} {e : Expr}

theorem missingNames_cons_default (h : p.default = some e)
    (rest : List (Param × Option Value)) :
    missingNames ((p, none) :: rest) = missingNames rest := by
  simp [missingNames, Param.isRequired, h]

theorem missingNames_cons_required (h : p.default = none)
    (rest : List (Param × Option Value)) :
    missingNames ((p, none) :: rest) = p.name :: missingNames rest := by
  simp [missingNames, Param.isRequired, h]

theorem boundParams_cons_default (h : p.default = some e) (rest : List (Param × Option Value))
    (v : Value) (values : List Value) :
    boundParams ((p, none) :: rest) (v :: values) = (p.name, v) :: boundParams rest values := by
  simp only [boundParams, h]

theorem boundParams_cons_required (h : p.default = none) (rest : List (Param × Option Value))
    (values : List Value) :
    boundParams ((p, none) :: rest) values = boundParams rest values := by
  simp only [boundParams, h]

end Lists

/-! ## Parameters and arguments by position -/

/-- By position, parameters are missing that are beyond the arguments and have no default. -/
theorem missingNames_byPosition (c : Closure) (args : List Value) :
    missingNames (Evaluator.byPosition c.lambda.params args) = c.missingParams args.length := by
  have hfirst : ((c.lambda.params.zip args).map fun g => (g.1, some g.2)).filter
      (fun g => g.2.isNone && g.1.isRequired) = [] :=
    List.filter_eq_nil_iff.2 (List.forall_mem_map.2 fun _ _ => Bool.false_ne_true)
  rw [Evaluator.byPosition_eq_append, missingNames, List.filter_append, hfirst, List.nil_append,
    List.filter_map, List.map_map]
  rfl

/-- If none is missing, the values of the defaults take the places of further arguments. -/
theorem boundParams_byPosition {params : List Param} {args values : List Value}
    (hmissing : missingNames (Evaluator.byPosition params args) = [])
    (hvalues : values.length = (unsuppliedDefaults (Evaluator.byPosition params args)).length) :
    boundParams (Evaluator.byPosition params args) values =
      argumentBindings (params.zip (args ++ values)) := by
  induction params generalizing args values with
  | nil => rfl
  | cons p ps ih =>
    cases args with
    | nil =>
      rw [Evaluator.byPosition] at hmissing hvalues ⊢
      cases hdefault : p.default with
      | none =>
        rw [missingNames_cons_required hdefault] at hmissing
        cases hmissing
      | some e =>
        -- the next value stands where the argument would
        rw [missingNames_cons_default hdefault] at hmissing
        rw [unsuppliedDefaults_cons_default hdefault] at hvalues
        cases values with
        | nil => cases hvalues
        | cons v vs =>
          rw [boundParams_cons_default hdefault, ih hmissing (Nat.succ.inj hvalues)]
          rfl
    | cons a as => exact congrArg ((p.name, a) :: ·) (ih hmissing hvalues)

/-! ## Steps for the elements of a list -/

namespace EvalM

variable {α β : Type} {f : α → EvalM β}

/-- The first element whose step gives no value decides what comes of all, and of what follows. -/
theorem mapM_bind_of_stops {before after : List α} {a : α} {values : List β} {s u : State}
    (hbefore : before.mapM f s = some (.ok values, u)) (hstops : ∀ b t, f a u ≠ some (.ok b, t))
    (next : List β → EvalM β) : ((before ++ a :: after).mapM f >>= next) s = f a u := by
  have hsplit : ((before ++ a :: after).mapM f >>= next) s =
      (f a >>= fun b => after.mapM f >>= fun bs => next (values ++ b :: bs)) u := by
    rw [List.mapM_append, bind_assoc, bind_of_ok hbefore, List.mapM_cons]
    simp only [bind_assoc, pure_bind]
  rw [hsplit, bind_apply]
  rcases ha : f a u with _ | ⟨e | b, t⟩
  · rfl
  · rfl
  · exact absurd ha (hstops b t)

/-- The first element has its value, and then the others have theirs. -/
theorem mapM_cons_eq_ok {l : List α} {a : α} {values : List β} {s t : State} :
    (a :: l).mapM f s = some (.ok values, t) ↔ ∃ b u bs,
      f a s = some (.ok b, u) ∧ l.mapM f u = some (.ok bs, t) ∧ values = b :: bs := by
  rw [List.mapM_cons]
  constructor
  · intro h
    obtain ⟨b, u, hfirst, hrest⟩ := bind_eq_ok.1 h
    obtain ⟨bs, w, hbs, hpure⟩ := bind_eq_ok.1 hrest
    cases hpure
    exact ⟨b, u, bs, hfirst, hbs, rfl⟩
  · rintro ⟨b, u, bs, hfirst, hbs, rfl⟩
    rw [bind_of_ok hfirst, bind_of_ok hbs]
    rfl

/-- There is a value for each element. -/
theorem length_of_mapM {l : List α} {values : List β} {s t : State}
    (h : l.mapM f s = some (.ok values, t)) : values.length = l.length := by
  induction l generalizing values s with
  | nil =>
    cases h
    rfl
  | cons a rest ih =>
    obtain ⟨v, u, vs, -, hvs, rfl⟩ := mapM_cons_eq_ok.1 h
    exact congrArg Nat.succ (ih hvs)

end EvalM

namespace Evaluator

open EvalM

/-! ## Two phases -/

/-- To bind parameters is to evaluate the defaults of those without an argument, from left to right,
and then to bind all of them at once. -/
theorem bindParams_eq (eval : Expr → EvalM Value) (given : List (Param × Option Value))
    (vars : Bindings) :
    bindParams eval given vars = (unsuppliedDefaults given).mapM eval >>= fun values =>
      pure (NameMap.insertAll vars (boundParams given values), missingNames given) := by
  induction given generalizing vars with
  | nil => rfl
  | cons g rest ih =>
    obtain ⟨p, _ | v⟩ := g
    · cases hdefault : p.default with
      | none =>
        -- the name is noted once all that follow are bound, which takes no further step
        rw [unsuppliedDefaults_cons_required hdefault, missingNames_cons_required hdefault]
        simp only [bindParams, hdefault, ih, bind_assoc, pure_bind,
          boundParams_cons_required hdefault]
      | some e =>
        rw [unsuppliedDefaults_cons_default hdefault, missingNames_cons_default hdefault,
          List.mapM_cons]
        simp only [bindParams, hdefault, ih, bind_assoc, pure_bind,
          boundParams_cons_default hdefault, NameMap.insertAll_cons]
    · exact ih (vars.insert p.name v)

/-- A call in two phases: the defaults of parameters without an argument are evaluated; then the
call fails with a report if parameters are missing, and the body is entered if none is. -/
def callInPhases (E : Evaluator) (eval : Expr → EvalM Value) (c : Closure)
    (given : List (Param × Option Value)) (start : Bindings) (report : EvalError) :
    EvalM Value := do
  let values ← (unsuppliedDefaults given).mapM eval
  if (missingNames given).isEmpty then
    E.enterWith eval c (NameMap.insertAll start (boundParams given values))
  else raise report

section Phases

variable {E : Evaluator} {eval : Expr → EvalM Value} {c : Closure}
  {given : List (Param × Option Value)} {start : Bindings} {report : EvalError}
  {values : List Value} {s t u : State}

/-- The first default that gives no value decides what comes of the call. -/
theorem callInPhases_of_stops {before after : List Expr} {d : Expr}
    (hsplit : unsuppliedDefaults given = before ++ d :: after)
    (hbefore : before.mapM eval s = some (.ok values, u))
    (hstops : ∀ v t, eval d u ≠ some (.ok v, t)) :
    E.callInPhases eval c given start report s = eval d u := by
  rw [callInPhases, hsplit]
  exact mapM_bind_of_stops hbefore hstops _

/-- If all defaults have values but parameters are missing, the call reports that. -/
theorem callInPhases_of_missing
    (hdefaults : (unsuppliedDefaults given).mapM eval s = some (.ok values, t))
    (hmissing : missingNames given ≠ []) :
    E.callInPhases eval c given start report s = some (.error report, t) := by
  rw [callInPhases, bind_of_ok hdefaults, if_neg (by rwa [List.isEmpty_iff])]
  rfl

/-- If none is missing, the body is entered. -/
theorem callInPhases_of_complete
    (hdefaults : (unsuppliedDefaults given).mapM eval s = some (.ok values, t))
    (hmissing : missingNames given = []) :
    E.callInPhases eval c given start report s =
      E.enterWith eval c (NameMap.insertAll start (boundParams given values)) t := by
  rw [callInPhases, bind_of_ok hdefaults, if_pos (List.isEmpty_iff.2 hmissing)]

/-- If none is missing once all defaults have values, it makes no difference what would be reported,
or what the variables of parameters would come on top of if that leaves nothing. -/
theorem callInPhases_congr {start' : Bindings} {report' : EvalError}
    (hstart : ∀ values, NameMap.insertAll start (boundParams given values) =
      NameMap.insertAll start' (boundParams given values))
    (hmissing : ∀ values t, (unsuppliedDefaults given).mapM eval s = some (.ok values, t) →
      missingNames given = []) :
    E.callInPhases eval c given start report s = E.callInPhases eval c given start' report' s := by
  rcases hdefaults : (unsuppliedDefaults given).mapM eval s with _ | ⟨e | values, t⟩
  · rw [callInPhases, callInPhases, bind_apply, bind_apply, hdefaults]
  · rw [callInPhases, callInPhases, bind_apply, bind_apply, hdefaults]
  · have hnone : missingNames given = [] := hmissing values t hdefaults
    rw [callInPhases_of_complete hdefaults hnone, callInPhases_of_complete hdefaults hnone,
      hstart values]

end Phases

section Calls

variable {E : Evaluator} {n : Nat} {c : Closure}

/-- A call with arguments by position, unless there are too many. -/
theorem callClosure_eq_callInPhases {args : List Value} (h : args.length ≤ c.arity) :
    E.callClosure (n + 1) c args =
      E.callInPhases (E.eval n) c (byPosition c.lambda.params args) c.captures
        (.ofCause (.tooFewArguments args.length (argumentBound c.lambda)
          (c.missingParams args.length))) := by
  rw [callClosure_succ, callWith, varsByPosition, if_neg (Nat.not_lt.2 h), bindParams_eq,
    callInPhases, missingNames_byPosition]
  simp only [bind_assoc, pure_bind]
  refine congrArg _ (funext fun values => ?_)
  split <;> rfl

/-- If the defaults that it needs have values but parameters are missing, it reports that. -/
theorem callClosure_of_missing {args values : List Value} {s t : State} (h : args.length ≤ c.arity)
    (hdefaults : (c.missingDefaults args.length).mapM (E.eval n) s = some (.ok values, t))
    (hmissing : c.missingParams args.length ≠ []) :
    E.callClosure (n + 1) c args s =
      some (.error (.ofCause (.tooFewArguments args.length (argumentBound c.lambda)
        (c.missingParams args.length))), t) := by
  rw [Closure.missingDefaults, ← unsuppliedDefaults_byPosition] at hdefaults
  rw [callClosure_eq_callInPhases h]
  exact callInPhases_of_missing hdefaults (by rwa [missingNames_byPosition])

/-- A call with arguments by name, unless there are too many. -/
theorem callNamed_eq_callInPhases {named : Bindings} {spillOver : Bool}
    (h : spillOver = true ∨ named.length ≤ c.arity) :
    E.callNamed n c named spillOver =
      E.callInPhases (E.eval n) c (byName c.lambda.params named)
        (if spillOver then NameMap.insertAll c.captures named else c.captures)
        ((EvalError.ofCause (.tooFewArguments named.length (argumentBound c.lambda)
          (missingNames (byName c.lambda.params named)))).withNote
            (missingNote (missingNames (byName c.lambda.params named)))) := by
  have hfew : ¬ (!spillOver && decide (c.arity < named.length)) = true := by
    rcases h with h | h <;> simp [h]
  rw [callNamed, callNamedWith, varsByName, if_neg hfew, callInPhases]
  simp only [bindParams_eq, bind_assoc, pure_bind]
  refine congrArg _ (funext fun values => ?_)
  split <;> rfl

end Calls

end Evaluator

end Manifest
