import Manifest.Proofs.Flattening
import Manifest.Proofs.PatternMemory
import Manifest.Proofs.Selection

/-!
# Splices among the candidates of a `case`

A candidate that splices a list evaluates all of its items and then tries their values, while
candidates are evaluated and tried in turn. For items that are constants this is the same, since
their evaluation does nothing that can be told: literals and regular expressions fail neither way,
and all that happens early is that a pattern is compiled, which is not noticed
(`Manifest.Proofs.PatternMemory`), whatever engine compiles it. What is tried is tried in the same
order, up to the first value that selects the subject. So the captures come and go in the same way.

* `Form.Denotes` — literals and regular expressions that can be compiled, with their values.
* `Evaluator.evalCandidates_denotes` — candidates that are constants are the trial of their values.
* `Evaluator.eval_caseOf_splice` — a `case` with a splice of constants and one with the constants in
  its place come to the same.
-/

namespace Manifest

/-- A form is a literal, or a regular expression that the engine can compile, with a given value. -/
inductive Form.Denotes (engine : RegexEngine) : Form → Value → Prop where
  | literal (l : Literal) : Denotes engine (.literal l) (.ofLiteral l)
  | regex {source : String} {r : Regex} (h : Regex.ofSource source = .ok r) :
    Denotes engine (.regex source) (.regex r)

namespace Form.Denotes

variable {engine : RegexEngine} {e : Expr} {v : Value}

theorem isDefault_eq_false (h : e.form.Denotes engine v) : e.isDefault = false := by
  obtain ⟨form, span⟩ := e
  cases h <;> rfl

theorem isUnfold_eq_false (h : e.form.Denotes engine v) : e.isUnfold = false := by
  obtain ⟨form, span⟩ := e
  cases h <;> rfl

end Form.Denotes

/-- Constants have values, one by one. -/
theorem Form.exists_denotes {engine : RegexEngine} {cs : List Expr}
    (h : ∀ c ∈ cs, ∃ v, c.form.Denotes engine v) :
    ∃ vs, List.Forall₂ (fun c v => c.form.Denotes engine v) cs vs := by
  induction cs with
  | nil => exact ⟨[], .nil⟩
  | cons c rest ih =>
    obtain ⟨⟨v, hv⟩, hrest⟩ := List.forall_mem_cons.1 h
    obtain ⟨vs, hvs⟩ := ih hrest
    exact ⟨v :: vs, .cons hv hvs⟩

namespace Evaluator

open EvalM

variable {E : Evaluator} {n : Nat} {cs : List Expr} {vs : List Value}

/-! ## Constants -/

/-- Evaluating a constant does nothing but to give its value. -/
theorem eval_denotes {e : Expr} {v : Value} (h : e.form.Denotes E.engine v) :
    Agrees (E.eval n e) (pure v) := by
  obtain ⟨form, span⟩ := e
  cases h with
  | literal l => exact agrees_read fun _ => rfl
  | regex h =>
    exact ((agrees_compile_pure h).bind fun _ => agrees_read fun _ => rfl).located _ span

/-- A constant is tried by its value. -/
theorem evalCandidate_denotes (subject : Value) {e : Expr} {v : Value}
    (h : e.form.Denotes E.engine v) :
    Agrees (E.evalCandidate (E.invoke n) subject e) (E.selects subject v) := by
  rw [evalCandidate_of_not_unfold E _ subject h.isUnfold_eq_false]
  exact (eval_denotes h).bind fun w => E.selects_agrees subject w

/-- The items of a list of constants are their values. -/
theorem evalItems_denotes (h : List.Forall₂ (fun c v => c.form.Denotes E.engine v) cs vs) :
    Agrees (E.evalItems (E.invoke n) cs) (pure vs) := by
  induction h with
  | nil => exact agrees_read fun _ => rfl
  | @cons c v cs vs hc _ ih =>
    have hitem : Agrees (E.evalItem (E.invoke n) c) (pure [v]) := by
      obtain ⟨form, span⟩ := c
      have hvalue := eval_denotes (E := E) (n := n) hc
      cases hc <;> exact hvalue.bind fun w => agrees_read fun _ => rfl
    exact hitem.bind fun _ => ih.bind fun _ => agrees_read fun _ => rfl

/-! ## Candidates -/

/-- A splice of constants is the trial of their values. -/
theorem evalCandidate_splice (subject : Value)
    (h : List.Forall₂ (fun c v => c.form.Denotes E.engine v) cs vs) (list place : Span) :
    Agrees (E.evalCandidate (E.invoke n) subject (.splice cs list place))
      (E.selectsAny subject vs) := by
  have hsplice : E.evalCandidate (E.invoke n) subject (.splice cs list place) = (do
      let vs ← E.evalItems (E.invoke n) cs
      E.selectsAny subject vs) := by
    change (do
      let v ← E.eval n ⟨.list cs, list⟩
      E.selectsAny subject v.unfold) = _
    rw [eval_list, bind_assoc]
    rfl
  rw [hsplice]
  exact (evalItems_denotes h).bind fun vs => E.selectsAny_agrees subject vs

/-- And so are the constants as candidates, before those that come after them. -/
theorem evalCandidates_denotes (subject : Value)
    (h : List.Forall₂ (fun c v => c.form.Denotes E.engine v) cs vs) (rest : List Expr) :
    Agrees
      (do
        let found ← E.selectsAny subject vs
        if found then pure true else E.evalCandidates (E.invoke n) subject rest)
      (E.evalCandidates (E.invoke n) subject (cs ++ rest)) := by
  induction h with
  | nil => exact evalCandidates_agrees subject rest
  | @cons c v cs vs hc _ ih =>
    have hfirst : E.selectsAny subject (v :: vs) >>= (fun found =>
        if found then pure true else E.evalCandidates (E.invoke n) subject rest) = (do
        let found ← E.selects subject v
        if found then pure true
        else do
          let found ← E.selectsAny subject vs
          if found then pure true else E.evalCandidates (E.invoke n) subject rest) := by
      rw [selectsAny, bind_assoc]
      congr 1
      funext found
      cases found <;> rfl
    rw [hfirst, List.cons_append, evalCandidates,
      if_neg (Bool.eq_false_iff.1 hc.isDefault_eq_false)]
    exact (evalCandidate_denotes subject hc).symm.bind fun found =>
      .ite _ (agrees_read fun _ => rfl) ih

/-- Candidates that agree do so after others. -/
theorem agrees_evalCandidates_append (subject : Value) (before : List Expr) {xs ys : List Expr}
    (h : Agrees (E.evalCandidates (E.invoke n) subject xs)
      (E.evalCandidates (E.invoke n) subject ys)) :
    Agrees (E.evalCandidates (E.invoke n) subject (before ++ xs))
      (E.evalCandidates (E.invoke n) subject (before ++ ys)) := by
  induction before with
  | nil => exact h
  | cons c rest ih =>
    rw [List.cons_append, List.cons_append, evalCandidates, evalCandidates]
    exact .ite _ ih ((evalCandidate_agrees subject c).bind fun found =>
      .ite _ (agrees_read fun _ => rfl) ih)

/-- A splice of constants may be replaced by the constants, anywhere among the candidates of an
option. -/
theorem evalCandidates_splice (subject : Value)
    (h : List.Forall₂ (fun c v => c.form.Denotes E.engine v) cs vs) (before after : List Expr)
    (list place : Span) :
    Agrees (E.evalCandidates (E.invoke n) subject (before ++ .splice cs list place :: after))
      (E.evalCandidates (E.invoke n) subject (before ++ cs ++ after)) := by
  rw [List.append_assoc]
  refine agrees_evalCandidates_append subject before
    (.trans ?_ (evalCandidates_denotes subject h _))
  exact (evalCandidate_splice subject h list place).bind fun found =>
    .ite _ (agrees_read fun _ => rfl) (evalCandidates_agrees subject after)

/-! ## Options -/

/-- Options of which one has other candidates agree if these do, and if both have the `default`
marker or neither. -/
theorem agrees_evalOptions_append (subject : Value) {candidates candidates' : List Expr}
    (h : Agrees (E.evalCandidates (E.invoke n) subject candidates)
      (E.evalCandidates (E.invoke n) subject candidates'))
    (hmarker : candidates.any (·.isDefault) = candidates'.any (·.isDefault))
    (earlier later : List CaseOption) (result : Expr) (place : Span)
    {fallback fallback' : EvalM Value} (hfallback : Agrees fallback fallback') :
    Agrees
      (E.evalOptions (E.invoke n) subject (earlier ++ ⟨candidates, result, place⟩ :: later)
        fallback)
      (E.evalOptions (E.invoke n) subject (earlier ++ ⟨candidates', result, place⟩ :: later)
        fallback') := by
  induction earlier generalizing fallback fallback' with
  | nil =>
    rw [List.nil_append, List.nil_append, evalOptions, evalOptions, hmarker]
    exact h.bind fun found => .ite _ (E.eval_agrees n result)
      (evalOptions_agrees subject later (.ite _ (E.eval_agrees n result) hfallback))
  | cons o earlier ih =>
    obtain ⟨others, other, span⟩ := o
    rw [List.cons_append, List.cons_append, evalOptions, evalOptions]
    exact (evalCandidates_agrees subject others).bind fun found => .ite _ (E.eval_agrees n other)
      (ih (.ite _ (E.eval_agrees n other) hfallback))

theorem agrees_eval_caseOf (test : Expr) {options options' : List CaseOption}
    (h : ∀ subject, Agrees (E.evalOptions (E.invoke n) subject options (pure .absent))
      (E.evalOptions (E.invoke n) subject options' (pure .absent))) (place : Span) :
    Agrees (E.eval n ⟨.caseOf test options, place⟩) (E.eval n ⟨.caseOf test options', place⟩) := by
  have hchoice := ((agrees_changeEnv (·.openFence)).bind fun _ =>
    (E.eval_agrees n test).bind h).guarded
  exact hchoice.located _ place

/-- **A splice of constants is its constants**: a `case` in which a candidate splices literals and
regular expressions that can be compiled comes to the same as the `case` with these as candidates in
its place, and leaves the same state but for the patterns that it remembers. -/
theorem eval_caseOf_splice (hcs : ∀ c ∈ cs, ∃ v, c.form.Denotes E.engine v) (test : Expr)
    (earlier later : List CaseOption) (before after : List Expr) (result : Expr)
    (list splice option place : Span) (s : State) :
    (E.eval n ⟨.caseOf test
        (earlier ++ ⟨before ++ .splice cs list splice :: after, result, option⟩ :: later),
      place⟩).forget s =
    (E.eval n ⟨.caseOf test (earlier ++ ⟨before ++ cs ++ after, result, option⟩ :: later),
      place⟩).forget s := by
  obtain ⟨vs, hvs⟩ := Form.exists_denotes hcs
  have hmarker : (before ++ .splice cs list splice :: after).any (·.isDefault) =
      (before ++ cs ++ after).any (·.isDefault) := by
    have hnone : cs.any (·.isDefault) = false := List.any_eq_false.2 fun c hc => by
      obtain ⟨v, hv⟩ := hcs c hc
      rw [hv.isDefault_eq_false]
      exact Bool.false_ne_true
    rw [List.append_assoc, List.any_append, List.any_append, List.any_append, hnone]
    rfl
  refine (agrees_eval_caseOf test (fun subject => ?_) place).forget_eq s
  exact agrees_evalOptions_append subject
    (evalCandidates_splice subject hvs before after list splice) hmarker earlier later result option
    (agrees_read fun _ => rfl)

/-- The candidates `"c", /(a)b/, /x/`. -/
def constantCandidates : List Expr :=
  [⟨.literal (.string "c"), ⟨20, 23⟩⟩, ⟨.regex "(a)b", ⟨25, 31⟩⟩, ⟨.regex "x", ⟨33, 36⟩⟩]

/-- The program `case "ab" { /z/, candidates, default: { $1 } }`. -/
def constantCase (candidates : List Expr) : Expr :=
  ⟨.caseOf ⟨.literal (.string "ab"), ⟨5, 9⟩⟩
    [⟨[⟨.regex "z", ⟨12, 15⟩⟩] ++ candidates ++ [⟨.default, ⟨39, 46⟩⟩],
      ⟨.variable ⟨.literal (.integer 1), ⟨51, 52⟩⟩, ⟨50, 52⟩⟩, ⟨12, 54⟩⟩], ⟨0, 56⟩⟩

/-- The second constant selects, and its group is there for the result, in both forms. The splice
has compiled the third one too, which is all that is left of it. -/
theorem eval_caseOf_splice_group : ∃ t t',
    Library.evaluator.eval 0 (constantCase [.splice constantCandidates ⟨18, 37⟩ ⟨17, 37⟩])
        (.initial (.ofGlobals [])) = some (.ok (.string "a"), t) ∧
      Library.evaluator.eval 0 (constantCase constantCandidates) (.initial (.ofGlobals [])) =
        some (.ok (.string "a"), t') ∧
      t'.forget = t.forget ∧ t.patterns = ["x", "(a)b", "z"] ∧ t'.patterns = ["(a)b", "z"] := by
  have hconstant : ∀ c ∈ constantCandidates, ∃ v, c.form.Denotes Library.evaluator.engine v :=
    List.forall_mem_cons.2 ⟨⟨_, .literal _⟩, List.forall_mem_cons.2
      ⟨⟨_, .regex rfl⟩, List.forall_mem_singleton.2 ⟨_, .regex rfl⟩⟩⟩
  have hsame := eval_caseOf_splice (E := Library.evaluator) (n := 0) hconstant
    ⟨.literal (.string "ab"), ⟨5, 9⟩⟩ [] [] [⟨.regex "z", ⟨12, 15⟩⟩] [⟨.default, ⟨39, 46⟩⟩]
    ⟨.variable ⟨.literal (.integer 1), ⟨51, 52⟩⟩, ⟨50, 52⟩⟩ ⟨18, 37⟩ ⟨17, 37⟩ ⟨12, 54⟩ ⟨0, 56⟩
    (.initial (.ofGlobals []))
  obtain ⟨t, h, hpatterns⟩ : ∃ t,
      Library.evaluator.eval 0 (constantCase [.splice constantCandidates ⟨18, 37⟩ ⟨17, 37⟩])
          (.initial (.ofGlobals [])) = some (.ok (.string "a"), t) ∧
        t.patterns = ["x", "(a)b", "z"] := ⟨_, rfl, rfl⟩
  obtain ⟨t', h', hforget⟩ := exists_of_forget_eq hsame h
  have hpatterns' : t'.patterns = ["(a)b", "z"] := by
    cases h'
    rfl
  exact ⟨t, t', h, h', hforget, hpatterns, hpatterns'⟩

end Evaluator

end Manifest
