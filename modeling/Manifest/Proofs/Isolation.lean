import Manifest.Proofs.Layers

/-!
# What a layer keeps in

Whoever holds an environment can bind names, set captures, open layers and drop some of them again,
in any order. As long as a layer that was opened first is not dropped, all of that happens above it:
below a layer of variables nothing changes, and below a fence names are bound at most. So dropping
that layer in the end gives back the environment from before, or one that differs from it in the
innermost variables only.

* `Environment.applyAll` — changes that are made one after the other.
* `StandsOn.apply`, `StandsOn.applyAll` — what one change keeps, and what a sequence of them keeps:
  the stack still stands on the layer that was opened first.
* `Environment.restore_applyAll` — what is left in the end.
-/

namespace Manifest

/-! ## Sequences of changes -/

namespace Environment

/-- Makes changes one after the other. -/
def applyAll (env : Environment) (changes : List Change) : Environment :=
  changes.foldl apply env

/-- A change does not drop the layers up to a level, nor the one above it. -/
def Change.StaysAbove (level : Nat) : Change → Prop
  | .restore n => level < n
  | _ => True

end Environment

/-! ## Stacks that stand on others -/

namespace StandsOn

variable {bottom : List Layer} {env : Environment}

theorem refl (bottom : List Layer) : StandsOn bottom bottom :=
  ⟨[], bottom, rfl, .refl bottom⟩

theorem push (h : StandsOn bottom env.stack) (l : Layer) : StandsOn bottom (env.push l).stack := by
  obtain ⟨above, rest, hstack, hrebinds⟩ := h
  exact ⟨l :: above, rest, congrArg (l :: ·) hstack, hrebinds⟩

/-- A name is bound above or, if there are no variables, it is rebound. -/
theorem set (h : StandsOn bottom env.stack) (name : String) (value : Value) :
    StandsOn bottom (env.set name value).stack := by
  obtain ⟨above, rest, hstack, hrebinds⟩ := h
  have hbound := env.bindLocal?_stack name value
  rw [hstack, Environment.bindLocal?_append] at hbound
  split at hbound
  · next above' _ => exact ⟨above', rest, (Option.some.inj hbound).symm, hrebinds⟩
  · obtain ⟨rest', hrest', happend⟩ := Option.map_eq_some_iff.1 hbound
    exact ⟨above, rest', happend.symm, hrebinds.trans (.of_bindLocal? hrest')⟩

/-- Captures are set above what is no captures. -/
theorem setCaptures (hbottom : capturesOnTop bottom = false) (h : StandsOn bottom env.stack)
    (m : Option Captures) : StandsOn bottom (env.setCaptures m).stack := by
  obtain ⟨above, rest, hstack, hrebinds⟩ := h
  obtain ⟨above', habove⟩ := belowCaptures_append above
  refine ⟨.captures m :: above', rest, ?_, hrebinds⟩
  rw [Environment.stack_setCaptures, hstack, habove rest (hrebinds.capturesOnTop_eq.trans hbottom)]
  rfl

/-- Only what is above is dropped when a level is restored that is not below. -/
theorem restore (h : StandsOn bottom env.stack) {n : Nat} (hn : bottom.length ≤ n + 1) :
    StandsOn bottom (env.restore n).stack := by
  obtain ⟨above, rest, hstack, hrebinds⟩ := h
  have hlength : env.level + 1 = above.length + bottom.length := by
    rw [← Environment.length_stack, hstack, List.length_append, hrebinds.length_eq]
  refine ⟨above.drop (env.level - n), rest, ?_, hrebinds⟩
  rw [Environment.stack_restore_eq_drop, hstack, List.drop_append_of_le_length (by omega)]

/-- **One change** that does not drop the layer on which a stack stands leaves it there. -/
theorem apply {l : Layer} {base : Environment} (hl : l.captures? = none)
    (h : StandsOn (base.push l).stack env.stack) {c : Environment.Change}
    (hc : c.StaysAbove base.level) : StandsOn (base.push l).stack (env.apply c).stack := by
  cases c with
  | set name value => exact h.set name value
  | restore n =>
    refine h.restore ?_
    rw [Environment.length_stack]
    exact Nat.succ_le_succ hc
  | openLocals vars => exact h.push (.locals vars)
  | openFence => exact h.push .fence
  | setCaptures m => exact h.setCaptures (not_capturesOnTop_cons hl base.stack) m

/-- **Any sequence of changes** that do not drop the layer leaves it there. -/
theorem applyAll {l : Layer} {base : Environment} (hl : l.captures? = none)
    {changes : List Environment.Change} (hchanges : ∀ c ∈ changes, c.StaysAbove base.level)
    (h : StandsOn (base.push l).stack env.stack) :
    StandsOn (base.push l).stack (env.applyAll changes).stack := by
  induction changes generalizing env with
  | nil => exact h
  | cons c rest ih =>
    obtain ⟨hc, hrest⟩ := List.forall_mem_cons.1 hchanges
    exact ih hrest (h.apply hl hc)

end StandsOn

/-! ## What is left -/

/-- Environments of the same layers that differ in the innermost variables at most, where names have
been added or rebound. The innermost variables are the global ones if there are no others. -/
structure DiffersInnermost (before after : Environment) : Prop where
  level : after.level = before.level
  /-- captures and fences are where they were -/
  captures : ∀ (i : Nat) (l : Layer), l.vars? = none →
    (after.layers[i]? = some l ↔ before.layers[i]? = some l)
  layers : ∀ i, innermost? before.layers ≠ some i → after.layers[i]? = before.layers[i]?
  innermost : ∀ i, innermost? before.layers = some i → ∃ vars vars',
    before.layers[i]? = some (.locals vars) ∧ after.layers[i]? = some (.locals vars') ∧
      vars.Keeps vars'
  globals_keeps : innermost? before.layers = none → before.globals.Keeps after.globals
  globals_eq : innermost? before.layers ≠ none → after.globals = before.globals
  groups : ∀ name, isNumericName name = true → after.get? name = before.get? name

namespace Environment

variable {env after : Environment}

/-- Where names have been rebound, nothing but the innermost variables differs. -/
theorem differsInnermost_of_rebinds (h : Rebinds env.stack after.stack) :
    DiffersInnermost env after := by
  have hlevel := level_of_rebinds h
  have haligned : Aligned env.stack after.stack := .of_rebinds h
  refine ⟨hlevel, fun i l hl => layer_iff_of_rebinds h hl, fun i hi => ?_,
    fun i hi => haligned.locals_keeps hlevel hi, haligned.globals_keeps hlevel,
    haligned.globals_eq hlevel, fun _ hname => get?_of_rebinds h hname⟩
  cases htop : capturesOnTop env.layers with
  | false => exact haligned.layer_eq hlevel hi fun _ => htop
  | true =>
    cases i with
    | succ j => exact haligned.layer_eq hlevel hi fun h0 => by cases h0
    | zero =>
      -- captures on top stay where they are, like all others
      obtain ⟨m, hm⟩ := eq_captures_of_onTop htop
      have hfirst : env.layers[0]? = some (.captures m) := by rw [hm]; rfl
      rw [hfirst, (layer_iff_of_rebinds h rfl).2 hfirst]

/-- **What is done above a layer is undone with it**: after a sequence of changes that begins with
opening a layer of variables and restores no level but those above, restoring the level from before
gives back the environment. If it begins with opening a fence, nothing but the innermost variables
differs, and no name is lost there. -/
theorem restore_applyAll (env : Environment) {changes : List Change}
    (h : ∀ c ∈ changes, c.StaysAbove env.level) :
    (∀ vars, (env.applyAll (.openLocals vars :: changes)).restore env.level = env) ∧
      DiffersInnermost env ((env.applyAll (.openFence :: changes)).restore env.level) := by
  have hstands : ∀ l : Layer, l.captures? = none →
      StandsOn (env.push l).stack ((env.push l).applyAll changes).stack :=
    fun l hl => (StandsOn.refl (env.push l).stack).applyAll hl h
  exact ⟨fun vars => restore_of_standsOn (hstands (.locals vars) rfl),
    differsInnermost_of_rebinds (rebinds_restore_of_standsOn (hstands .fence rfl))⟩

/-- An environment with a variable `x`, below captures. -/
def matched : Environment :=
  ((ofGlobals []).openLocals [("x", .integer 1)]).setCaptures (some ⟨[some "ab"]⟩)

/-- Changes that bind names, set captures, open layers and drop some of them. -/
def excursion : List Change :=
  [.set "x" (.integer 2), .setCaptures none, .openLocals [], .set "y" (.integer 3), .openFence,
    .setCaptures (some ⟨[]⟩), .restore 4, .restore 3, .set "z" (.integer 4)]

/-- Above a layer of variables all of that is undone; above a fence, captures are, while `x` and `z`
are bound where `x` was. -/
theorem restore_applyAll_excursion :
    (matched.applyAll (.openLocals [] :: excursion)).restore matched.level = matched ∧
      ((matched.applyAll (.openFence :: excursion)).restore matched.level).get? "0" =
        matched.get? "0" ∧
      ((matched.applyAll (.openFence :: excursion)).restore matched.level).get? "x" =
        some (.integer 2) ∧
      ((matched.applyAll (.openFence :: excursion)).restore matched.level).get? "z" =
        some (.integer 4) ∧
      ((matched.applyAll (.openFence :: excursion)).restore matched.level).get? "y" = none := by
  have habove : ∀ c ∈ excursion, c.StaysAbove matched.level := by
    simp [excursion, Change.StaysAbove, matched, openLocals, setCaptures, push, ofGlobals]
  obtain ⟨hlocals, hfence⟩ := restore_applyAll matched habove
  exact ⟨hlocals [], hfence.groups "0" rfl, rfl, rfl, rfl⟩

end Environment

end Manifest
