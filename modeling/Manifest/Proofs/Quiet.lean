import Manifest.Proofs.Law
import Manifest.Proofs.Layers
import Manifest.Proofs.Library
import Manifest.Proofs.RegionLogic

/-!
# Expressions without effects

An expression that binds nothing, records nothing and calls nothing, and that matches only inside of
choices, leaves no trace but the patterns it has compiled. So it comes to the same each time.

* `State.Settles` — what may become of a state: outside of choices only patterns are noted, and
  inside also captures come and go on top of the stack.
* `EvalM.Quiet` — a step has an outcome that settles the state, and the same one whenever it is
  taken again in the same environment.
* `Evaluator.eval_effectFree` — the evaluation of an expression without effects.
-/

namespace Manifest

/-! ## States -/

namespace State

/-- A pattern that is noted is known. -/
theorem mem_notePattern (s : State) (source : String) :
    source ∈ (s.notePattern source).patterns := by
  rw [notePattern]
  split
  · next hknown => exact List.contains_iff_mem.1 hknown
  · exact List.mem_cons_self

/-- A pattern that is known is not noted again. -/
theorem notePattern_of_mem {s : State} {source : String} (h : source ∈ s.patterns) :
    s.notePattern source = s :=
  if_pos (List.contains_iff_mem.2 h)

end State

/-- Outside of choices (`false`) a state is what it was, but for the patterns that have been
compiled meanwhile; inside (`true`) there may also be other captures on top of the stack. -/
structure State.Settles (b : Bool) (s t : State) : Prop where
  env : b = false → t.env = s.env
  below : belowCaptures t.env.stack = belowCaptures s.env.stack
  calls : t.calls = s.calls
  edges : t.edges = s.edges
  log : t.log = s.log
  patterns : s.patterns ⊆ t.patterns

namespace State.Settles

variable {b : Bool} {s t u : State}

theorem refl (b : Bool) (s : State) : s.Settles b s :=
  ⟨fun _ => rfl, rfl, rfl, rfl, rfl, fun _ h => h⟩

theorem trans (hst : s.Settles b t) (htu : t.Settles b u) : s.Settles b u where
  env hb := (htu.env hb).trans (hst.env hb)
  below := htu.below.trans hst.below
  calls := htu.calls.trans hst.calls
  edges := htu.edges.trans hst.edges
  log := htu.log.trans hst.log
  patterns := fun _ h => htu.patterns (hst.patterns h)

/-- A pattern is noted. -/
theorem notePattern (b : Bool) (s : State) (source : String) :
    s.Settles b (s.notePattern source) := by
  rw [State.notePattern]
  split
  · exact .refl b s
  · exact ⟨fun _ => rfl, rfl, rfl, rfl, rfl, fun _ => List.mem_cons_of_mem _⟩

/-- Captures are set on top of the stack. -/
theorem setCaptures (s : State) (m : Option Captures) :
    s.Settles true { s with env := s.env.setCaptures m } where
  env hb := nomatch hb
  below := by rw [Environment.stack_setCaptures]; rfl
  calls := rfl
  edges := rfl
  log := rfl
  patterns := fun _ h => h

/-- Once the level is restored, nothing has happened below the fence. -/
theorem restore (h : s.fenced.Settles true t) : t.env.restore s.env.level = s.env := by
  have hbelow : belowCaptures t.env.stack = .fence :: s.env.stack := h.below
  obtain ⟨above, happ⟩ := exists_append_belowCaptures t.env.stack
  have hstack : t.env.stack = (above ++ [.fence]) ++ s.env.stack := by
    rw [happ, hbelow, List.append_assoc]
    rfl
  exact Environment.ext_stack (Environment.stack_restore hstack s.env.length_stack)

end State.Settles

/-! ## Steps -/

namespace EvalM

variable {α β : Type} {b : Bool}

/-- A step has an outcome that settles the state. In the same environment it has that outcome again,
and all it does once the patterns are known is to leave the same environment. -/
def Quiet (b : Bool) (m : EvalM α) : Prop :=
  ∀ s, ∃ r t, m s = some (r, t) ∧ s.Settles b t ∧
    ∀ s' : State, s'.env = s.env → t.patterns ⊆ s'.patterns →
      m s' = some (r, { s' with env := t.env })

/-- A step that only reads the environment is quiet. -/
theorem quiet_of_reads {m : EvalM α} (f : Environment → Except EvalError α)
    (h : ∀ s, m s = some (f s.env, s)) : Quiet b m :=
  fun s => ⟨f s.env, s, h s, .refl b s, fun s' henv _ => by rw [h s', henv, ← henv]⟩

theorem quiet_compile (engine : RegexEngine) (source : String) :
    Quiet b (compile engine source) := by
  intro s
  cases hsource : Regex.ofSource source with
  | error cause =>
    refine ⟨_, s, by rw [compile, hsource], .refl b s, fun s' henv _ => ?_⟩
    rw [compile, hsource, ← henv]
  | ok r =>
    refine ⟨.ok r, s.notePattern source, by rw [compile, hsource], .notePattern b s source,
      fun s' henv hknown => ?_⟩
    have hsame := State.notePattern_of_mem (hknown (s.mem_notePattern source))
    rw [compile, hsource, State.env_notePattern, ← henv]
    exact congrArg (fun t => some (Except.ok r, t)) hsame

theorem quiet_setCaptures (m : Option Captures) : Quiet true (changeEnv (·.setCaptures m)) :=
  fun s => ⟨.ok (), { s with env := s.env.setCaptures m }, rfl, .setCaptures s m,
    fun s' henv _ => by rw [← henv]; rfl⟩

theorem Quiet.bind {m : EvalM α} {f : α → EvalM β} (hm : Quiet b m) (hf : ∀ a, Quiet b (f a)) :
    Quiet b (m >>= f) := by
  intro s
  obtain ⟨r, t, hrun, hsettles, hagain⟩ := hm s
  cases r with
  | error e =>
    refine ⟨.error e, t, by rw [bind_apply, hrun], hsettles, fun s' henv hknown => ?_⟩
    rw [bind_apply, hagain s' henv hknown]
  | ok a =>
    obtain ⟨r, u, hnext, hsettles', hagain'⟩ := hf a t
    refine ⟨r, u, by rw [bind_of_ok hrun, hnext], hsettles.trans hsettles',
      fun s' henv hknown => ?_⟩
    have hfirst := hagain s' henv fun _ h => hknown (hsettles'.patterns h)
    exact (bind_of_ok hfirst f).trans (hagain' { s' with env := t.env } rfl hknown)

theorem Quiet.located {m : EvalM α} (hm : Quiet b m) (kind : String) (span : Span) :
    Quiet b (located kind span m) := by
  intro s
  obtain ⟨r, t, hrun, hsettles, hagain⟩ := hm s
  cases r with
  | error e =>
    refine ⟨_, t, located_of_error hrun kind span, hsettles, fun s' henv hknown => ?_⟩
    rw [located_of_error (hagain s' henv hknown)]
  | ok a =>
    refine ⟨.ok a, t, located_eq_ok.2 hrun, hsettles, fun s' henv hknown => ?_⟩
    rw [located_eq_ok.2 (hagain s' henv hknown)]

/-- Captures that are set above a fence are gone once the choice is over, so that a choice is quiet
wherever it stands. -/
theorem Quiet.choice {m : EvalM α} (hm : Quiet true m) :
    Quiet b (guarded (changeEnv (·.openFence) >>= fun _ => m)) := by
  intro s
  obtain ⟨r, t, hrun, hsettles, hagain⟩ := hm s.fenced
  have hrestore := hsettles.restore
  refine ⟨r, _, choice_of_fenced hrun, ?_, fun s' henv hknown => ?_⟩
  · exact ⟨fun _ => hrestore, by rw [hrestore], hsettles.calls, hsettles.edges, hsettles.log,
      hsettles.patterns⟩
  · have hfenced : s'.fenced.env = s.fenced.env := congrArg Environment.openFence henv
    rw [choice_of_fenced (hagain s'.fenced hfenced hknown), henv]
    rfl

/-- To be quiet is a logic of steps for expressions without effects. -/
def quietLogic : RegionLogic .effectFree where
  Rel b := fun m _ => Quiet b m
  answer _ := quiet_of_reads (fun _ => .ok _) fun _ => rfl
  raise _ := quiet_of_reads (fun _ => .error _) fun _ => rfl
  lookup name := quiet_of_reads (fun env => .ok (env.get? name)) fun _ => rfl
  compile := quiet_compile
  captured h := nomatch h.2
  record h := nomatch h.2
  set h := nomatch h.2
  setCaptures h m := by
    obtain rfl := h.1
    exact quiet_setCaptures m
  bind hm hf := hm.bind fun a => hf a (NodeSet.owns_all a)
  located _ hm := hm.located _ _
  choice hm := hm.choice

end EvalM

/-! ## Expressions -/

namespace Evaluator

open EvalM

variable (E : Evaluator) (n : Nat)

/-- **No effects**: an expression that has no assignment, relationship or call in it, and no match
but those inside of a choice, has an outcome. It leaves the environment, the active calls, the edges
and the log as they were; evaluated again, it has the same outcome and changes nothing at all. -/
theorem eval_effectFree {e : Expr} (he : e.EffectFree) (s : State) : ∃ r t,
    E.eval n e s = some (r, t) ∧
      (t.env = s.env ∧ t.calls = s.calls ∧ t.edges = s.edges ∧ t.log = s.log) ∧
      E.eval n e t = some (r, t) := by
  have hquiet : quietLogic.Rel false (E.evalExpr (E.invoke n) e)
      ((E.under E.mode E.callLimit).evalExpr (E.invoke n) e) :=
    RegionLogic.rel_evalExpr (fun inner => quietLogic.rel_lookupVariable E inner)
      (fun h => nomatch h.2) ⟨he.acts, fun _ => he.openly⟩
  obtain ⟨r, t, hrun, hsettles, hagain⟩ := hquiet s
  have henv := hsettles.env rfl
  exact ⟨r, t, hrun, ⟨henv, hsettles.calls, hsettles.edges, hsettles.log⟩,
    hagain t henv fun _ h => h⟩

/-- The program `if "ab" =~ "(b)" { $1 }`. -/
def matchThenGroup : Expr :=
  ⟨.ifThen
      ⟨.matching .matches ⟨.literal (.string "ab"), ⟨3, 7⟩⟩ ⟨.literal (.string "(b)"), ⟨11, 16⟩⟩,
        ⟨3, 16⟩⟩
      ⟨.variable ⟨.literal (.integer 1), ⟨20, 21⟩⟩, ⟨19, 21⟩⟩ none,
    ⟨0, 23⟩⟩

/-- The group can be read inside of the choice. Afterwards there are no captures, and the program
comes to the same once more. -/
theorem eval_effectFree_matchThenGroup : ∃ t,
    Library.evaluator.eval 0 matchThenGroup (.initial (.ofGlobals [])) =
        some (.ok (.string "b"), t) ∧
      t.env = .ofGlobals [] ∧
      Library.evaluator.eval 0 matchThenGroup t = some (.ok (.string "b"), t) := by
  have hliteral : ∀ b value place, Region.effectFree.Mem b ⟨.literal value, place⟩ :=
    fun _ _ _ => Region.mem_effectFree.2 ⟨nofun, nofun⟩
  have hfree : Region.effectFree.Mem false matchThenGroup := by
    refine Region.mem_effectFree.2
      ⟨nofun, List.forall_mem_cons.2 ⟨?test, List.forall_mem_singleton.2 ?yes⟩⟩
    case test =>
      refine Region.mem_effectFree.2 ⟨fun a ha => ⟨rfl, (Option.some.inj ha).symm⟩, ?_⟩
      exact List.forall_mem_cons.2 ⟨hliteral _ _ _, List.forall_mem_singleton.2 (hliteral _ _ _)⟩
    case yes =>
      exact Region.mem_effectFree.2 ⟨nofun, List.forall_mem_singleton.2 (hliteral _ _ _)⟩
  obtain ⟨t, h⟩ : ∃ t, Library.evaluator.eval 0 matchThenGroup (.initial (.ofGlobals [])) =
      some (.ok (.string "b"), t) := ⟨_, rfl⟩
  obtain ⟨r, u, hrun, hkeeps, hagain⟩ :=
    eval_effectFree Library.evaluator 0 ⟨hfree.1, hfree.2 rfl⟩ (.initial (.ofGlobals []))
  cases h.symm.trans hrun
  exact ⟨t, h, hkeeps.1, hagain⟩

end Evaluator

end Manifest
