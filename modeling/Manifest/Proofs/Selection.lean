import Manifest.Proofs.Law
import Manifest.Proofs.Library

/-!
# What is not selected is not evaluated

A conjunction and a disjunction may be settled by their left operand, and a choice evaluates one
branch at most. So it does not matter what stands in the other places.

* `Evaluator.PassesOver` — candidates are tried one after the other, and none selects the subject.
* `Evaluator.evalOptions_of_firstSelects`, `Evaluator.evalEntries_of_passesOver` — a choice ends at
  the first candidate that selects the subject, whatever else there is.
* `Evaluator.Unselected` — two forms differ only in what evaluation in a state does not select.
* `Evaluator.eval_unselected` — such forms come to the same, and leave the same state.
-/

namespace Manifest

namespace EvalM

variable {α β : Type}

/-- What comes after a step only matters for the values that the step has. -/
theorem bind_congr_of_ok {m : EvalM α} {f f' : α → EvalM β} {s : State}
    (h : ∀ a t, m s = some (.ok a, t) → f a t = f' a t) : (m >>= f) s = (m >>= f') s := by
  rw [bind_apply, bind_apply]
  rcases hm : m s with _ | ⟨_ | a, t⟩
  · rfl
  · rfl
  · exact h a t hm

/-- A step in brackets only matters for what it comes to above the fence. -/
theorem guarded_congr {m m' : EvalM α} {s : State} (h : m s.fenced = m' s.fenced) :
    guarded (changeEnv (·.openFence) >>= fun _ => m) s =
      guarded (changeEnv (·.openFence) >>= fun _ => m') s := by
  have hbody : (changeEnv (·.openFence) >>= fun _ => m) s =
      (changeEnv (·.openFence) >>= fun _ => m') s := h
  rw [guarded, guarded, hbody]

end EvalM

namespace Evaluator

open EvalM

/-! ## Trying candidates -/

section Candidates

variable (E : Evaluator) (n : Nat) (subject : Value)

/-- Candidates are tried one after the other, and none of them selects the subject. The `default`
marker is not tried. -/
inductive PassesOver : List Expr → State → State → Prop where
  | nil (s : State) : PassesOver [] s s
  | marker {e : Expr} {rest : List Expr} {s t : State} (he : e.isDefault = true)
    (hrest : PassesOver rest s t) : PassesOver (e :: rest) s t
  | rejected {e : Expr} {rest : List Expr} {s u t : State} (he : e.isDefault = false)
    (htry : E.evalCandidate (E.invoke n) subject e s = some (.ok false, u))
    (hrest : PassesOver rest u t) : PassesOver (e :: rest) s t

/-- After some candidates that are passed over, another one selects the subject. -/
def FirstSelects (tried : List Expr) (c : Expr) (s t : State) : Prop :=
  ∃ u, E.PassesOver n subject tried s u ∧ c.isDefault = false ∧
    E.evalCandidate (E.invoke n) subject c u = some (.ok true, t)

variable {E n subject} {s t u : State}

/-- Of candidates that are passed over, first some are and then the others. -/
theorem PassesOver.of_append {first second : List Expr}
    (h : E.PassesOver n subject (first ++ second) s t) :
    ∃ u, E.PassesOver n subject first s u ∧ E.PassesOver n subject second u t := by
  induction first generalizing s with
  | nil => exact ⟨s, .nil s, h⟩
  | cons e rest ih =>
    cases h with
    | marker he hrest =>
      obtain ⟨u, hfirst, hsecond⟩ := ih hrest
      exact ⟨u, .marker he hfirst, hsecond⟩
    | rejected he htry hrest =>
      obtain ⟨u, hfirst, hsecond⟩ := ih hrest
      exact ⟨u, .rejected he htry hfirst, hsecond⟩

/-- Candidates that are passed over leave the choice to those that come after them. -/
theorem evalCandidates_of_passesOver {tried : List Expr} (h : E.PassesOver n subject tried s t)
    (rest : List Expr) :
    E.evalCandidates (E.invoke n) subject (tried ++ rest) s =
      E.evalCandidates (E.invoke n) subject rest t := by
  induction h with
  | nil => rfl
  | marker he _ ih => rw [List.cons_append, evalCandidates, if_pos he, ih]
  | rejected he htry _ ih =>
    rw [List.cons_append, evalCandidates, if_neg (Bool.eq_false_iff.1 he), bind_of_ok htry]
    exact ih

/-- Candidates are not tried after one that selects the subject. -/
theorem evalCandidates_of_firstSelects {tried : List Expr} {c : Expr}
    (h : E.FirstSelects n subject tried c s t) (rest : List Expr) :
    E.evalCandidates (E.invoke n) subject (tried ++ c :: rest) s = some (.ok true, t) := by
  obtain ⟨u, hpasses, hc, hselects⟩ := h
  rw [evalCandidates_of_passesOver hpasses, evalCandidates, if_neg (Bool.eq_false_iff.1 hc),
    bind_of_ok hselects]
  rfl

/-- An option that has the first candidate to select the subject is the one that counts, whatever
comes after that candidate and whatever the other options come to. -/
theorem evalOptions_of_firstSelects {earlier : List CaseOption} {tried : List Expr} {c : Expr}
    (h : E.FirstSelects n subject (earlier.flatMap (·.candidates) ++ tried) c s t)
    (rest : List Expr) (result : Expr) (place : Span) (later : List CaseOption)
    (fallback : EvalM Value) :
    E.evalOptions (E.invoke n) subject (earlier ++ ⟨tried ++ c :: rest, result, place⟩ :: later)
      fallback s = E.eval n result t := by
  induction earlier generalizing s fallback with
  | nil =>
    have htried : E.FirstSelects n subject tried c s t := h
    rw [List.nil_append, evalOptions, bind_of_ok (evalCandidates_of_firstSelects htried rest)]
    rfl
  | cons o earlier ih =>
    obtain ⟨candidates, other, span⟩ := o
    obtain ⟨u, hpasses, hselects⟩ := h
    rw [List.flatMap_cons, List.append_assoc] at hpasses
    obtain ⟨v, hhead, hearlier⟩ := hpasses.of_append
    have hnone : E.evalCandidates (E.invoke n) subject candidates s = some (.ok false, v) := by
      have hrun := evalCandidates_of_passesOver hhead []
      rw [List.append_nil] at hrun
      exact hrun
    rw [List.cons_append, evalOptions, bind_of_ok hnone]
    exact ih ⟨u, hearlier, hselects⟩ _

/-- Entries whose patterns are passed over leave the choice to those that come after them. -/
theorem evalEntries_of_passesOver {earlier : List SelectorEntry}
    (hmarker : ∀ e ∈ earlier, e.pattern.isDefault = false)
    (h : E.PassesOver n subject (earlier.map (·.pattern)) s t) (later : List SelectorEntry) :
    E.evalEntries (E.invoke n) subject (earlier ++ later) s =
      E.evalEntries (E.invoke n) subject later t := by
  induction earlier generalizing s with
  | nil =>
    cases h
    rfl
  | cons e earlier ih =>
    obtain ⟨hhead, hrest⟩ := List.forall_mem_cons.1 hmarker
    obtain ⟨pattern, result⟩ := e
    cases h with
    | marker he => cases hhead.symm.trans he
    | rejected he htry hpasses =>
      rw [List.cons_append, evalEntries, if_neg (Bool.eq_false_iff.1 he), bind_of_ok htry]
      exact ih hrest hpasses

end Candidates

/-! ## Forms that differ in what is not selected -/

/-- Two forms differ at most in expressions that evaluation in a state does not select. -/
inductive Unselected (E : Evaluator) (n : Nat) (s : State) : Form → Form → Prop where
  /-- the right operand of `and`, unless the left one is true -/
  | conjunction {left : Expr}
    (hleft : ∀ v t, E.eval n left s = some (.ok v, t) → v.isTruthy = false)
    (right right' : Expr) :
    Unselected E n s (.conjunction left right) (.conjunction left right')
  /-- the right operand of `or`, unless the left one is false -/
  | disjunction {left : Expr}
    (hleft : ∀ v t, E.eval n left s = some (.ok v, t) → v.isTruthy = true)
    (right right' : Expr) :
    Unselected E n s (.disjunction left right) (.disjunction left right')
  /-- the first branch of `if`, unless the test is true -/
  | ifYes {test : Expr}
    (htest : ∀ v t, E.eval n test s.fenced = some (.ok v, t) → v.isTruthy = false)
    (yes yes' : Expr) (no : Option Expr) :
    Unselected E n s (.ifThen test yes no) (.ifThen test yes' no)
  /-- the second branch of `if`, unless the test is false -/
  | ifNo {test : Expr}
    (htest : ∀ v t, E.eval n test s.fenced = some (.ok v, t) → v.isTruthy = true)
    (yes : Expr) (no no' : Option Expr) :
    Unselected E n s (.ifThen test yes no) (.ifThen test yes no')
  /-- the first branch of `unless`, unless the test is false -/
  | unlessYes {test : Expr}
    (htest : ∀ v t, E.eval n test s.fenced = some (.ok v, t) → v.isTruthy = true)
    (yes yes' : Expr) (no : Option Expr) :
    Unselected E n s (.unlessThen test yes no) (.unlessThen test yes' no)
  /-- the second branch of `unless`, unless the test is true -/
  | unlessNo {test : Expr}
    (htest : ∀ v t, E.eval n test s.fenced = some (.ok v, t) → v.isTruthy = false)
    (yes : Expr) (no no' : Option Expr) :
    Unselected E n s (.unlessThen test yes no) (.unlessThen test yes no')
  /-- in a `case`, all that comes after the first candidate that selects the subject, and the
  results of the options before -/
  | caseOf {test c : Expr} {subject : Value} {t u : State} {earlier earlier' : List CaseOption}
    {tried : List Expr} (htest : E.eval n test s.fenced = some (.ok subject, t))
    (hfirst : E.FirstSelects n subject (earlier.flatMap (·.candidates) ++ tried) c t u)
    (hsame : earlier'.map (·.candidates) = earlier.map (·.candidates))
    (rest rest' : List Expr) (result : Expr) (place : Span) (later later' : List CaseOption) :
    Unselected E n s
      (.caseOf test (earlier ++ ⟨tried ++ c :: rest, result, place⟩ :: later))
      (.caseOf test (earlier' ++ ⟨tried ++ c :: rest', result, place⟩ :: later'))
  /-- in a selector, all that comes after the first entry whose pattern is the `default` marker or
  selects the subject, and the results of the entries before -/
  | selector {test pattern : Expr} {subject : Value} {t u : State}
    {earlier earlier' : List SelectorEntry}
    (htest : E.eval n test s.fenced = some (.ok subject, t))
    (hmarker : ∀ e ∈ earlier, e.pattern.isDefault = false)
    (hpasses : E.PassesOver n subject (earlier.map (·.pattern)) t u)
    (hpattern : pattern.isDefault = true ∨
      ∃ w, E.evalCandidate (E.invoke n) subject pattern u = some (.ok true, w))
    (hsame : earlier'.map (·.pattern) = earlier.map (·.pattern))
    (result : Expr) (later later' : List SelectorEntry) :
    Unselected E n s
      (.selector test (earlier ++ ⟨pattern, result⟩ :: later))
      (.selector test (earlier' ++ ⟨pattern, result⟩ :: later'))

variable {E : Evaluator} {n : Nat} {s : State} {form form' : Form}

/-- Forms that differ in what is not selected come to the same. -/
theorem evalForm_unselected (h : E.Unselected n s form form') :
    E.evalForm (E.invoke n) form' s = E.evalForm (E.invoke n) form s := by
  cases h with
  | conjunction hleft right right' | disjunction hleft right right' =>
    refine bind_congr_of_ok fun v t hv => ?_
    rw [hleft v t hv]
    rfl
  | ifYes htest | ifNo htest | unlessYes htest | unlessNo htest =>
    refine guarded_congr (bind_congr_of_ok fun v t hv => ?_)
    rw [htest v t hv]
    rfl
  | @caseOf test c subject t u earlier earlier' tried htest hfirst hsame rest rest' result place
      later later' =>
    have hfirst' :
        E.FirstSelects n subject (earlier'.flatMap (·.candidates) ++ tried) c t u := by
      rwa [List.flatMap_def, hsame, ← List.flatMap_def]
    refine guarded_congr ((bind_of_ok htest _).trans (.trans ?_ (bind_of_ok htest _).symm))
    rw [evalOptions_of_firstSelects hfirst', evalOptions_of_firstSelects hfirst]
  | @selector test pattern subject t u earlier earlier' htest hmarker hpasses hpattern hsame result
      later later' =>
    have hpasses' : E.PassesOver n subject (earlier'.map (·.pattern)) t u := by rwa [hsame]
    have hmarker' : ∀ e ∈ earlier', e.pattern.isDefault = false := by
      intro e he
      obtain ⟨o, ho, hpattern'⟩ :=
        List.mem_map.1 (hsame ▸ List.mem_map_of_mem he : e.pattern ∈ earlier.map (·.pattern))
      rw [← hpattern']
      exact hmarker o ho
    refine guarded_congr ((bind_of_ok htest _).trans (.trans ?_ (bind_of_ok htest _).symm))
    rw [evalEntries_of_passesOver hmarker' hpasses', evalEntries_of_passesOver hmarker hpasses]
    by_cases hdefault : pattern.isDefault = true
    · rw [evalEntries, evalEntries, if_pos hdefault, if_pos hdefault]
    · obtain ⟨w, hselects⟩ := hpattern.resolve_left hdefault
      rw [evalEntries, evalEntries, if_neg hdefault, if_neg hdefault, bind_of_ok hselects,
        bind_of_ok hselects]
      rfl

/-- **What is not selected does not matter**: forms that differ only in expressions that evaluation
does not select have the same outcome, and leave the same state. -/
theorem eval_unselected (h : E.Unselected n s form form') (place : Span) :
    E.eval n ⟨form', place⟩ s = E.eval n ⟨form, place⟩ s := by
  have hkind : form'.kind = form.kind := by cases h <;> rfl
  change located form'.kind place (E.evalForm (E.invoke n) form') s =
    located form.kind place (E.evalForm (E.invoke n) form) s
  rw [located, located, evalForm_unselected h, hkind]

/-- The candidate `*["c", /(a)b/]`. -/
def splatCandidate : Expr :=
  ⟨.unfold ⟨.list [⟨.literal (.string "c"), ⟨38, 41⟩⟩, ⟨.regex "(a)b", ⟨43, 49⟩⟩], ⟨37, 50⟩⟩,
    ⟨36, 50⟩⟩

/-- The program `case "ab" { default: { first } /z/, *["c", /(a)b/], rest: { $1 } later }`. -/
def splatCase (first : Expr) (rest : List Expr) (later : List CaseOption) : Expr :=
  ⟨.caseOf ⟨.literal (.string "ab"), ⟨5, 9⟩⟩
    ([⟨[⟨.default, ⟨12, 19⟩⟩], first, ⟨12, 30⟩⟩] ++
      ⟨[⟨.regex "z", ⟨31, 34⟩⟩] ++ splatCandidate :: rest,
        ⟨.variable ⟨.literal (.integer 1), ⟨57, 58⟩⟩, ⟨56, 58⟩⟩, ⟨31, 60⟩⟩ :: later), ⟨0, 62⟩⟩

/-- The second element of the splice selects, and its captures are there for the result, whatever
else there is. -/
theorem eval_unselected_splat : ∃ t,
    Library.evaluator.eval 0 (splatCase Library.touchCall [] []) (.initial (.ofGlobals [])) =
      some (.ok (.string "a"), t) ∧
    Library.evaluator.eval 0
        (splatCase ⟨.absent, ⟨23, 28⟩⟩ [Library.touchCall]
          [⟨[Library.bareMatch], Library.touchCall, ⟨61, 70⟩⟩])
        (.initial (.ofGlobals [])) =
      some (.ok (.string "a"), t) := by
  obtain ⟨t, h⟩ : ∃ t, Library.evaluator.eval 0 (splatCase Library.touchCall [] [])
      (.initial (.ofGlobals [])) = some (.ok (.string "a"), t) := ⟨_, rfl⟩
  obtain ⟨u, hfirst⟩ : ∃ u, FirstSelects Library.evaluator 0 (.string "ab")
      [⟨.default, ⟨12, 19⟩⟩, ⟨.regex "z", ⟨31, 34⟩⟩] splatCandidate
      (State.initial (.ofGlobals [])).fenced u :=
    ⟨_, _, .marker rfl (.rejected rfl rfl (.nil _)), rfl, rfl⟩
  have hunselected : Unselected Library.evaluator 0 (.initial (.ofGlobals []))
      (splatCase Library.touchCall [] []).form
      (splatCase ⟨.absent, ⟨23, 28⟩⟩ [Library.touchCall]
        [⟨[Library.bareMatch], Library.touchCall, ⟨61, 70⟩⟩]).form :=
    .caseOf rfl hfirst (by rfl) _ _ _ _ _ _
  exact ⟨t, h, (eval_unselected hunselected _).trans h⟩

end Evaluator

end Manifest
