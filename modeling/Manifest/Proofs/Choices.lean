import Mathlib.Data.List.Forall2
import Manifest.Proofs.Selection

/-!
# Two ways to write a choice

A selector stops at its first entry with the `default` marker, while a `case` only remembers what it
would come to. Still they are one construct: a selector is the `case` of its entries up to the first
`default`, with each pattern as the only candidate of its option. They agree on all that comes of
the choice, captures of candidates that failed included.

They also agree on errors, which do not tell where the choice stands or what it is called: they
already have a place when they leave it.

* `EvalM.Placed` — the errors of a step have places, and so it makes no difference to give it one.
* `SelectorEntry.reached`, `CaseOption.Mirrors` — the entries that can be selected, and the options
  that stand for them.
* `Evaluator.evalEntries_eq_evalOptions` — the two loops agree.
* `Evaluator.eval_selector_eq_caseOf` — so do the two expressions, wherever they stand.
-/

namespace Manifest

/-! ## Errors that have places -/

namespace EvalM

variable {α β : Type}

/-- The errors of a step have places. -/
def Placed (m : EvalM α) : Prop :=
  ∀ s e t, m s = some (.error e, t) → e.span ≠ none

/-- To give a place to what has one makes no difference. -/
theorem Placed.located_eq {m : EvalM α} (h : Placed m) (kind : String) (span : Span) :
    located kind span m = m := by
  funext s
  rcases hm : m s with _ | ⟨e | a, t⟩
  · rw [located, hm]
  · rw [located_of_error hm, EvalError.withNode_eq_self (h s e t hm)]
  · exact located_eq_ok.2 hm

theorem placed_located (kind : String) (span : Span) (m : EvalM α) :
    Placed (located kind span m) := by
  intro s e t h
  obtain ⟨r, -, hr⟩ := located_eq_some h
  cases r with
  | ok a => cases hr
  | error e' =>
    cases hr
    exact EvalError.span_withNode_ne_none _ _ _

theorem placed_pure (a : α) : Placed (pure a) := fun _ _ _ h => by cases h

theorem placed_changeEnv (f : Environment → Environment) : Placed (changeEnv f) :=
  fun _ _ _ h => by cases h

theorem Placed.bind {m : EvalM α} {f : α → EvalM β} (hm : Placed m) (hf : ∀ a, Placed (f a)) :
    Placed (m >>= f) := by
  intro s e t h
  rcases bind_eq_some h with ⟨e', hfails, heq⟩ | ⟨a, u, -, hnext⟩
  · cases heq
    exact hm s e t hfails
  · exact hf a u e t hnext

theorem Placed.guarded {m : EvalM α} (hm : Placed m) : Placed (guarded m) := by
  intro s e t h
  rw [EvalM.guarded] at h
  rcases hs : m s with _ | ⟨r, u⟩ <;> rw [hs] at h <;> cases h
  exact hm s e u hs

end EvalM

/-! ## Entries and options -/

/-- The entries of a selector that can be selected: those up to the first one with the `default`
marker. -/
def SelectorEntry.reached : List SelectorEntry → List SelectorEntry
  | [] => []
  | e :: rest => if e.pattern.isDefault then [e] else e :: reached rest

theorem SelectorEntry.reached_cons (e : SelectorEntry) (rest : List SelectorEntry) :
    reached (e :: rest) = e :: if e.pattern.isDefault then [] else reached rest := by
  rw [reached]
  split <;> rfl

/-- They are all entries if no marker stands before the last one. -/
theorem SelectorEntry.reached_eq_self {entries : List SelectorEntry}
    (h : ∀ e ∈ entries.dropLast, e.pattern.isDefault = false) : reached entries = entries := by
  induction entries with
  | nil => rfl
  | cons e rest ih =>
    cases rest with
    | nil => rw [reached, reached, ite_self]
    | cons e' rest =>
      obtain ⟨hhead, hrest⟩ := List.forall_mem_cons.1 h
      rw [reached, if_neg (Bool.eq_false_iff.1 hhead), ih hrest]

/-- An option has the pattern of an entry as its only candidate, and comes to the same result. -/
structure CaseOption.Mirrors (o : CaseOption) (e : SelectorEntry) : Prop where
  candidates : o.candidates = [e.pattern]
  result : o.result = e.result

theorem CaseOption.Mirrors.eq {o : CaseOption} {e : SelectorEntry} (h : o.Mirrors e) :
    o = ⟨[e.pattern], e.result, o.span⟩ := by
  rw [← h.candidates, ← h.result]
  cases o
  rfl

namespace Evaluator

open EvalM

variable (E : Evaluator) (invoke : Invoke)

/-! ## The two loops -/

/-- A candidate alone selects the subject or not. -/
theorem evalCandidates_singleton (subject : Value) {e : Expr} (he : e.isDefault = false) :
    E.evalCandidates invoke subject [e] = E.evalCandidate invoke subject e := by
  have hrest : (fun found : Bool =>
      if found then pure true else E.evalCandidates invoke subject []) = pure := by
    funext found
    cases found <;> rfl
  rw [evalCandidates, if_neg (Bool.eq_false_iff.1 he)]
  exact (congrArg (E.evalCandidate invoke subject e >>= ·) hrest).trans (bind_pure _)

/-- An option with one candidate: the `default` marker is remembered, any other is tried. -/
theorem evalOptions_singleton (subject : Value) (e result : Expr) (place : Span)
    (rest : List CaseOption) (fallback : EvalM Value) :
    E.evalOptions invoke subject (⟨[e], result, place⟩ :: rest) fallback =
      if e.isDefault then E.evalOptions invoke subject rest (E.evalExpr invoke result)
      else (do
        let found ← E.evalCandidate invoke subject e
        if found then E.evalExpr invoke result
        else E.evalOptions invoke subject rest fallback) := by
  have hany : [e].any (·.isDefault) = e.isDefault := Bool.or_false _
  rw [evalOptions, hany]
  by_cases he : e.isDefault = true
  · rw [evalCandidates, if_pos he, if_pos he, if_pos he]
    rfl
  · rw [evalCandidates_singleton E invoke subject (Bool.eq_false_iff.2 he), if_neg he, if_neg he]

/-- **The two loops agree**: the first entry that is selected is the first option that is or, with
the `default` marker, the one that is remembered. -/
theorem evalEntries_eq_evalOptions (subject : Value) {entries : List SelectorEntry}
    {options : List CaseOption}
    (h : List.Forall₂ CaseOption.Mirrors options (SelectorEntry.reached entries)) :
    E.evalEntries invoke subject entries = E.evalOptions invoke subject options (pure .absent) := by
  induction entries generalizing options with
  | nil =>
    cases h
    rfl
  | cons e rest ih =>
    obtain ⟨pattern, result⟩ := e
    rw [SelectorEntry.reached_cons] at h
    obtain ⟨o, later, hmirrors, hlater, rfl⟩ := List.forall₂_cons_right_iff.1 h
    rw [evalEntries, hmirrors.eq, evalOptions_singleton]
    by_cases hmarker : pattern.isDefault = true
    · -- the last option, so that nothing comes before what it remembers
      rw [if_pos hmarker] at hlater
      cases hlater
      rw [if_pos hmarker, if_pos hmarker]
      rfl
    · rw [if_neg hmarker] at hlater
      rw [if_neg hmarker, if_neg hmarker, ih hlater]

/-! ## Where a choice stands -/

theorem placed_evalExpr (e : Expr) : Placed (E.evalExpr invoke e) := by
  obtain ⟨form, span⟩ := e
  exact placed_located form.kind span _

theorem placed_selects (subject pattern : Value) : Placed (E.selects subject pattern) := by
  cases pattern with
  | regex r =>
    cases subject with
    | string text => exact (placed_changeEnv _).bind fun _ => placed_pure _
    | _ => exact placed_pure _
  | _ => exact placed_pure _

theorem placed_selectsAny (subject : Value) (patterns : List Value) :
    Placed (E.selectsAny subject patterns) := by
  induction patterns with
  | nil => exact placed_pure _
  | cons pattern rest ih =>
    refine (E.placed_selects subject pattern).bind fun found => ?_
    cases found with
    | true => exact placed_pure _
    | false => exact ih

theorem placed_evalCandidate (subject : Value) (e : Expr) :
    Placed (E.evalCandidate invoke subject e) := by
  by_cases he : e.isUnfold = false
  · rw [evalCandidate_of_not_unfold E invoke subject he]
    exact (E.placed_evalExpr invoke e).bind fun v => E.placed_selects subject v
  · obtain ⟨form, span⟩ := e
    cases form with
    | unfold inner =>
      exact (E.placed_evalExpr invoke inner).bind fun v => E.placed_selectsAny subject v.unfold
    | _ => exact absurd rfl he

theorem placed_evalEntries (subject : Value) (entries : List SelectorEntry) :
    Placed (E.evalEntries invoke subject entries) := by
  induction entries with
  | nil => exact placed_pure _
  | cons e rest ih =>
    obtain ⟨pattern, result⟩ := e
    rw [evalEntries]
    split
    · exact E.placed_evalExpr invoke result
    · refine (E.placed_evalCandidate invoke subject pattern).bind fun found => ?_
      cases found with
      | true => exact E.placed_evalExpr invoke result
      | false => exact ih

/-- The errors of a selector have places, all those that it can end with. -/
theorem placed_selector (test : Expr) (entries : List SelectorEntry) :
    Placed (E.evalForm invoke (.selector test entries)) :=
  ((placed_changeEnv _).bind fun _ => (E.placed_evalExpr invoke test).bind fun subject =>
    E.placed_evalEntries invoke subject entries).guarded

/-- A selector is the `case` of the entries that it can reach. -/
theorem evalForm_selector (test : Expr) {entries : List SelectorEntry} {options : List CaseOption}
    (h : List.Forall₂ CaseOption.Mirrors options (SelectorEntry.reached entries)) :
    E.evalForm invoke (.selector test entries) = E.evalForm invoke (.caseOf test options) := by
  have hloops : (E.evalEntries invoke · entries) =
      (E.evalOptions invoke · options (pure .absent)) :=
    funext fun subject => E.evalEntries_eq_evalOptions invoke subject h
  exact congrArg (fun choose => guarded (changeEnv (·.openFence) >>= fun _ =>
    E.evalExpr invoke test >>= choose)) hloops

/-- **Case and selector agree**: a selector in which no marker stands before the last entry and the
`case` with one option for each entry come to the same and leave the same state, wherever they
stand. -/
theorem eval_selector_eq_caseOf (n : Nat) (test : Expr) {entries : List SelectorEntry}
    (hmarker : ∀ e ∈ entries.dropLast, e.pattern.isDefault = false) {options : List CaseOption}
    (hoptions : List.Forall₂ CaseOption.Mirrors options entries) (place place' : Span) (s : State) :
    E.eval n ⟨.selector test entries, place⟩ s = E.eval n ⟨.caseOf test options, place'⟩ s := by
  have hforms : E.evalForm (E.invoke n) (.selector test entries) =
      E.evalForm (E.invoke n) (.caseOf test options) :=
    E.evalForm_selector _ test ((SelectorEntry.reached_eq_self hmarker).symm ▸ hoptions)
  have hplaced := E.placed_selector (E.invoke n) test entries
  calc E.eval n ⟨.selector test entries, place⟩ s
    _ = E.evalForm (E.invoke n) (.selector test entries) s :=
      congrFun (hplaced.located_eq _ place) s
    _ = E.evalForm (E.invoke n) (.caseOf test options) s := congrFun hforms s
    _ = E.eval n ⟨.caseOf test options, place'⟩ s :=
      (congrFun ((hforms ▸ hplaced).located_eq _ place') s).symm

/-- The entries `*["c", /(a)b/] => $1` and `default => "other"`. -/
def splatEntries : List SelectorEntry :=
  [⟨splatCandidate, ⟨.variable ⟨.literal (.integer 1), ⟨55, 56⟩⟩, ⟨54, 56⟩⟩⟩,
    ⟨⟨.default, ⟨58, 65⟩⟩, ⟨.literal (.string "other"), ⟨69, 76⟩⟩⟩]

/-- The options that stand for them. -/
def splatOptions : List CaseOption :=
  splatEntries.map fun e => ⟨[e.pattern], e.result, e.pattern.span⟩

/-- A choice with a text as its subject, written both ways. -/
def splatChoices (subject : String) : Expr × Expr :=
  let test : Expr := ⟨.literal (.string subject), ⟨0, 4⟩⟩
  (⟨.selector test splatEntries, ⟨0, 78⟩⟩, ⟨.caseOf test splatOptions, ⟨80, 160⟩⟩)

/-- Both have the group that was captured for a text that is selected, and the result of the marker
for one that is not. -/
theorem eval_selector_eq_caseOf_splat :
    (∃ t, Library.evaluator.eval 0 (splatChoices "ab").1 (.initial (.ofGlobals [])) =
        some (.ok (.string "a"), t) ∧
      Library.evaluator.eval 0 (splatChoices "ab").2 (.initial (.ofGlobals [])) =
        some (.ok (.string "a"), t)) ∧
    ∃ t, Library.evaluator.eval 0 (splatChoices "b").1 (.initial (.ofGlobals [])) =
        some (.ok (.string "other"), t) ∧
      Library.evaluator.eval 0 (splatChoices "b").2 (.initial (.ofGlobals [])) =
        some (.ok (.string "other"), t) := by
  have hmarker : ∀ e ∈ splatEntries.dropLast, e.pattern.isDefault = false :=
    List.forall_mem_singleton.2 rfl
  have hoptions : List.Forall₂ CaseOption.Mirrors splatOptions splatEntries :=
    List.forall₂_map_left_iff.2 (List.forall₂_same.2 fun _ _ => ⟨rfl, rfl⟩)
  have hagree : ∀ subject s, Library.evaluator.eval 0 (splatChoices subject).1 s =
      Library.evaluator.eval 0 (splatChoices subject).2 s :=
    fun _ s => eval_selector_eq_caseOf Library.evaluator 0 _ hmarker hoptions _ _ s
  exact ⟨⟨_, rfl, (hagree _ _).symm.trans rfl⟩, ⟨_, rfl, (hagree _ _).symm.trans rfl⟩⟩

end Evaluator

end Manifest
