import Manifest.Environment

/-!
# What may become of the layers of an environment

The global variables are taken for the outermost layer of variables (`Environment.stack`), so that
there always is an innermost layer of variables: the one that binding a name acts on.

* `Rebinds` — the stack is what it was, but for the innermost variables, which lose no name.
* `Advances` — besides, there may be new captures on top: in the place of captures that were on top
  before, or in a layer of their own.
* `StandsOn` — a stack that was rebound at most is at the bottom of another one.
* `Aligned` — what an advance leaves once a layer more is dropped, place by place.

A name that is bound rebinds, captures that are set advance, and both relations are transitive. What
makes brackets work is `rebinds_restore` and `restore_openLocals`: however a stack advances above a
fence, below the fence it was only rebound; and above a layer of variables nothing below is touched.
-/

namespace Manifest

/-! ## Names -/

/-- A map has every name that another one has. -/
def NameMap.Keeps {α : Type} (before after : NameMap α) : Prop :=
  ∀ name, (before.get? name).isSome → (after.get? name).isSome

namespace NameMap.Keeps

variable {α : Type} {a b c : NameMap α}

theorem refl (a : NameMap α) : Keeps a a :=
  fun _ h => h

theorem trans (hab : Keeps a b) (hbc : Keeps b c) : Keeps a c :=
  fun name h => hbc name (hab name h)

/-- Inserting a name loses none. -/
theorem insert (a : NameMap α) (name : String) (x : α) : Keeps a (a.insert name x) := by
  intro other h
  rw [get?_insert]
  split
  · rfl
  · exact h

/-- So do several insertions. -/
theorem insertAll (a new : NameMap α) : Keeps a (a.insertAll new) := by
  intro name h
  rw [get?_insertAll, Option.isSome_or, h, Bool.or_true]

end NameMap.Keeps

/-! ## Stacks -/

/-- The layers, with the global variables as the outermost one. -/
def Environment.stack (env : Environment) : List Layer :=
  env.layers ++ [.locals env.globals]

/-- Whether captures are on top. -/
def capturesOnTop : List Layer → Bool
  | .captures _ :: _ => true
  | _ => false

/-- The stack without the captures on top, if there are any. -/
def belowCaptures : List Layer → List Layer
  | .captures _ :: rest => rest
  | layers => layers

/-- A stack with captures on top is those captures and what is below. -/
theorem eq_captures_of_onTop {layers : List Layer} (h : capturesOnTop layers = true) :
    ∃ m, layers = .captures m :: belowCaptures layers := by
  cases layers with
  | nil => cases h
  | cons l rest =>
    cases l with
    | captures m => exact ⟨m, rfl⟩
    | _ => cases h

/-- A stack without captures on top is all below. -/
theorem belowCaptures_of_not_onTop {layers : List Layer} (h : capturesOnTop layers = false) :
    belowCaptures layers = layers := by
  cases layers with
  | nil => rfl
  | cons l rest =>
    cases l with
    | captures m => cases h
    | _ => rfl

/-- Above a stack without captures on top, only what is above it is touched. -/
theorem belowCaptures_append (above : List Layer) : ∃ above', ∀ below,
    capturesOnTop below = false → belowCaptures (above ++ below) = above' ++ below := by
  cases above with
  | nil => exact ⟨[], fun _ hbelow => belowCaptures_of_not_onTop hbelow⟩
  | cons l rest =>
    cases l with
    | captures m => exact ⟨rest, fun _ _ => rfl⟩
    | locals vars => exact ⟨.locals vars :: rest, fun _ _ => rfl⟩
    | fence => exact ⟨.fence :: rest, fun _ _ => rfl⟩

/-- A layer that is none of captures is no captures on top. -/
theorem not_capturesOnTop_cons {l : Layer} (hl : l.captures? = none) (rest : List Layer) :
    capturesOnTop (l :: rest) = false := by
  cases l with
  | captures m => cases hl
  | _ => rfl

namespace Environment

variable {env other : Environment}

/-- Environments with the same stack are the same. -/
theorem ext_stack (h : env.stack = other.stack) : env = other := by
  obtain ⟨hlayers, hglobals⟩ := List.append_inj' h rfl
  simp only [List.cons.injEq, Layer.locals.injEq, and_true] at hglobals
  exact ext_layers hglobals hlayers

@[simp]
theorem length_stack (env : Environment) : env.stack.length = env.level + 1 := by
  rw [stack, List.length_append, ← env.level_eq]
  rfl

@[simp]
theorem stack_push (env : Environment) (l : Layer) : (env.push l).stack = l :: env.stack :=
  rfl

/-- Restoring a level drops what is on top of the stack. -/
theorem stack_restore_eq_drop (env : Environment) (n : Nat) :
    (env.restore n).stack = env.stack.drop (env.level - n) := by
  have hle : env.level - n ≤ env.layers.length := by
    rw [← env.level_eq]
    omega
  exact (List.drop_append_of_le_length hle).symm

/-- What restoring a level leaves of a stack. -/
theorem stack_restore {above below : List Layer} (h : env.stack = above ++ below) {n : Nat}
    (hn : below.length = n + 1) : (env.restore n).stack = below := by
  have hlevel : env.level + 1 = above.length + (n + 1) := by
    rw [← length_stack, h, List.length_append, hn]
  have hdrop : env.level - n = above.length := by omega
  rw [stack_restore_eq_drop, hdrop, h, List.drop_left]

end Environment

/-! ## Binding names -/

/-- Stacks that differ at most in the innermost variables, which have lost no name. -/
inductive Rebinds : List Layer → List Layer → Prop where
  | nil : Rebinds [] []
  | locals {vars vars' : Bindings} (keeps : vars.Keeps vars') (rest : List Layer) :
    Rebinds (.locals vars :: rest) (.locals vars' :: rest)
  | above {l : Layer} {layers layers' : List Layer} (hl : l.vars? = none)
    (below : Rebinds layers layers') : Rebinds (l :: layers) (l :: layers')

namespace Rebinds

variable {a b c : List Layer}

theorem refl (layers : List Layer) : Rebinds layers layers := by
  induction layers with
  | nil => exact .nil
  | cons l rest ih =>
    cases l with
    | locals vars => exact .locals (NameMap.Keeps.refl vars) rest
    | _ => exact .above rfl ih

theorem trans (hab : Rebinds a b) (hbc : Rebinds b c) : Rebinds a c := by
  induction hab generalizing c with
  | nil => exact hbc
  | locals keeps rest =>
    cases hbc with
    | locals keeps' => exact .locals (keeps.trans keeps') rest
    | above hl => cases hl
  | above hl below ih =>
    cases hbc with
    | locals => cases hl
    | above _ below' => exact .above hl (ih below')

theorem length_eq (h : Rebinds a b) : b.length = a.length := by
  induction h with
  | nil => rfl
  | locals => rfl
  | above _ _ ih => exact congrArg (· + 1) ih

/-- Binding a name in the innermost variables rebinds them. -/
theorem of_bindLocal? {name : String} {value : Value}
    (h : Environment.bindLocal? name value a = some b) : Rebinds a b := by
  induction a generalizing b with
  | nil => cases h
  | cons l rest ih =>
    cases l with
    | locals vars =>
      cases h
      exact .locals (NameMap.Keeps.insert vars name value) rest
    | captures m =>
      obtain ⟨below, hb, rfl⟩ := Option.map_eq_some_iff.1 h
      exact .above rfl (ih hb)
    | fence =>
      obtain ⟨below, hb, rfl⟩ := Option.map_eq_some_iff.1 h
      exact .above rfl (ih hb)

theorem capturesOnTop_eq (h : Rebinds a b) : capturesOnTop b = capturesOnTop a := by
  cases h with
  | nil => rfl
  | locals => rfl
  | @above l _ _ hl => cases l <;> rfl

theorem belowCaptures (h : Rebinds a b) : Rebinds (belowCaptures a) (belowCaptures b) := by
  cases h with
  | nil => exact .nil
  | locals keeps rest => exact .locals keeps rest
  | @above l _ _ hl below =>
    cases l with
    | captures m => exact below
    | _ => exact .above hl below

end Rebinds

/-! ## Setting captures -/

/-- Stacks that differ at most in the captures on top and in the innermost variables, which have
lost no name. Captures on top stay on top. -/
structure Advances (before after : List Layer) : Prop where
  captures : capturesOnTop before = true → capturesOnTop after = true
  below : Rebinds (belowCaptures before) (belowCaptures after)

namespace Advances

variable {a b c : List Layer}

theorem refl (layers : List Layer) : Advances layers layers :=
  ⟨fun h => h, Rebinds.refl _⟩

theorem trans (hab : Advances a b) (hbc : Advances b c) : Advances a c :=
  ⟨fun h => hbc.captures (hab.captures h), hab.below.trans hbc.below⟩

theorem of_rebinds (h : Rebinds a b) : Advances a b :=
  ⟨fun ha => h.capturesOnTop_eq.trans ha, h.belowCaptures⟩

/-- New captures in the place of those on top. -/
theorem captures_cons (layers : List Layer) (m : Option Captures) :
    Advances layers (.captures m :: Manifest.belowCaptures layers) :=
  ⟨fun _ => rfl, Rebinds.refl _⟩

end Advances

namespace Environment

/-- A name is bound above if there are variables, and below if not. -/
theorem bindLocal?_append (name : String) (value : Value) (above below : List Layer) :
    bindLocal? name value (above ++ below) =
      match bindLocal? name value above with
      | some bound => some (bound ++ below)
      | none => (bindLocal? name value below).map (above ++ ·) := by
  induction above with
  | nil => exact Option.map_id'.symm
  | cons l rest ih =>
    cases l with
    | locals vars => rfl
    | _ =>
      simp only [List.cons_append, bindLocal?, ih]
      cases bindLocal? name value rest <;> simp [Function.comp_def]

/-- Binding a name acts on the innermost variables of the stack. -/
theorem bindLocal?_stack (env : Environment) (name : String) (value : Value) :
    bindLocal? name value env.stack = some (env.set name value).stack := by
  have hglobals : bindLocal? name value [.locals env.globals] =
      some [.locals (env.globals.insert name value)] := rfl
  rw [stack, bindLocal?_append, hglobals, set]
  split <;> split <;> simp_all [stack]

theorem rebinds_set (env : Environment) (name : String) (value : Value) :
    Rebinds env.stack (env.set name value).stack :=
  .of_bindLocal? (env.bindLocal?_stack name value)

/-- Captures that are set take the place of those on top. -/
theorem setCaptures_eq (env : Environment) (m : Option Captures) :
    (env.setCaptures m).layers = .captures m :: belowCaptures env.layers ∧
      (env.setCaptures m).globals = env.globals := by
  obtain ⟨globals, layers, level, hlevel⟩ := env
  cases layers with
  | nil => exact ⟨rfl, rfl⟩
  | cons l rest => cases l <;> exact ⟨rfl, rfl⟩

theorem stack_setCaptures (env : Environment) (m : Option Captures) :
    (env.setCaptures m).stack = .captures m :: belowCaptures env.stack := by
  obtain ⟨hlayers, hglobals⟩ := env.setCaptures_eq m
  have hbelow : belowCaptures env.stack = belowCaptures env.layers ++ [.locals env.globals] := by
    rw [stack]
    cases env.layers with
    | nil => rfl
    | cons l rest => cases l <;> rfl
  rw [hbelow, stack, hlayers, hglobals]
  rfl

theorem advances_setCaptures (env : Environment) (m : Option Captures) :
    Advances env.stack (env.setCaptures m).stack := by
  rw [stack_setCaptures]
  exact .captures_cons env.stack m

end Environment

/-! ## Opening a layer and restoring the level -/

/-- There is something above what is below the captures on top: one layer, or nothing. -/
theorem exists_append_belowCaptures (layers : List Layer) :
    ∃ above, layers = above ++ belowCaptures layers := by
  cases htop : capturesOnTop layers with
  | true =>
    obtain ⟨m, hm⟩ := eq_captures_of_onTop htop
    exact ⟨[.captures m], hm⟩
  | false => exact ⟨[], (belowCaptures_of_not_onTop htop).symm⟩

/-- A stack stands on another one, of which at most the innermost variables have been rebound. -/
def StandsOn (bottom layers : List Layer) : Prop :=
  ∃ above rest, layers = above ++ rest ∧ Rebinds bottom rest

/-- However a stack advances whose top is a layer other than captures, it stands on what it was. -/
theorem Advances.standsOn {l : Layer} {before after : List Layer} (hl : l.captures? = none)
    (h : Advances (l :: before) after) : StandsOn (l :: before) after := by
  obtain ⟨above, habove⟩ := exists_append_belowCaptures after
  have hbelow := h.below
  rw [belowCaptures_of_not_onTop (not_capturesOnTop_cons hl before)] at hbelow
  exact ⟨above, belowCaptures after, habove, hbelow⟩

/-- A layer shields what is below it: that is rebound at most, and below a layer of variables it is
left alone. -/
theorem StandsOn.below_layer {l : Layer} {before after : List Layer}
    (h : StandsOn (l :: before) after) :
    ∃ above below, after = above ++ below ∧ Rebinds before below ∧
      (l.vars?.isSome → below = before) := by
  obtain ⟨above, rest, rfl, hrebinds⟩ := h
  cases hrebinds with
  | @locals vars vars' keeps =>
    exact ⟨above ++ [.locals vars'], before, by simp, .refl before, fun _ => rfl⟩
  | @above _ _ below hvars hbelow =>
    refine ⟨above ++ [l], below, by simp, hbelow, fun hsome => ?_⟩
    rw [hvars] at hsome
    cases hsome

namespace Environment

variable {env after : Environment}

/-- Once the level is restored, what happened above a layer has only rebound names below. -/
theorem rebinds_restore_of_standsOn {l : Layer} (h : StandsOn (env.push l).stack after.stack) :
    Rebinds env.stack (after.restore env.level).stack := by
  obtain ⟨above, below, happ, hrebinds, -⟩ := h.below_layer
  rwa [stack_restore happ (hrebinds.length_eq.trans env.length_stack)]

/-- Once the level is restored, nothing has happened below a layer of variables. -/
theorem restore_of_standsOn {vars : Bindings}
    (h : StandsOn (env.openLocals vars).stack after.stack) : after.restore env.level = env := by
  obtain ⟨above, below, happ, -, hbelow⟩ := h.below_layer
  obtain rfl : below = env.stack := hbelow rfl
  exact ext_stack (stack_restore happ env.length_stack)

theorem rebinds_restore {l : Layer} (hl : l.captures? = none)
    (h : Advances (env.push l).stack after.stack) :
    Rebinds env.stack (after.restore env.level).stack :=
  rebinds_restore_of_standsOn (h.standsOn hl)

theorem restore_openLocals {vars : Bindings}
    (h : Advances (env.openLocals vars).stack after.stack) : after.restore env.level = env :=
  restore_of_standsOn (h.standsOn rfl)

end Environment

/-! ## Layer by layer -/

/-- The place of the innermost variables, counted from the top. -/
def innermost? (layers : List Layer) : Option Nat :=
  layers.findIdx? (·.vars?.isSome)

theorem innermost?_cons {l : Layer} (hl : l.vars? = none) (rest : List Layer) :
    innermost? (l :: rest) = (innermost? rest).map (· + 1) := by
  rw [innermost?, List.findIdx?_cons, hl]
  rfl

namespace Rebinds

variable {a b : List Layer} {i : Nat}

/-- The innermost variables have lost no name. -/
theorem at_innermost (h : Rebinds a b) (hi : innermost? a = some i) :
    ∃ vars vars', a[i]? = some (.locals vars) ∧ b[i]? = some (.locals vars') ∧
      vars.Keeps vars' := by
  induction h generalizing i with
  | nil => cases hi
  | @locals vars vars' keeps rest =>
    cases hi
    exact ⟨vars, vars', rfl, rfl, keeps⟩
  | above hl _ ih =>
    rw [innermost?_cons hl] at hi
    obtain ⟨j, hj, rfl⟩ := Option.map_eq_some_iff.1 hi
    exact ih hj

/-- Every other layer is what it was. -/
theorem elsewhere (h : Rebinds a b) (hi : innermost? a ≠ some i) : b[i]? = a[i]? := by
  induction h generalizing i with
  | nil => rfl
  | locals keeps rest =>
    cases i with
    | zero => exact absurd rfl hi
    | succ j => rfl
  | above hl _ ih =>
    cases i with
    | zero => rfl
    | succ j =>
      refine ih fun hj => hi ?_
      rw [innermost?_cons hl, hj]
      rfl

/-- Captures and fences are where they were. -/
theorem getElem?_iff (h : Rebinds a b) {l : Layer} (hl : l.vars? = none) :
    b[i]? = some l ↔ a[i]? = some l := by
  by_cases hi : innermost? a = some i
  · obtain ⟨vars, vars', ha, hb, -⟩ := h.at_innermost hi
    rw [ha, hb]
    constructor <;>
      · intro heq
        cases heq
        cases hl
  · rw [h.elsewhere hi]

/-- The captures that can be seen are what they were. -/
theorem findSome?_captures (h : Rebinds a b) :
    b.findSome? Layer.captures? = a.findSome? Layer.captures? := by
  induction h with
  | nil => rfl
  | locals => rfl
  | above _ _ ih => simp only [List.findSome?_cons, ih]

end Rebinds

namespace Environment

variable {env after : Environment}

/-- Above the global variables the stack is made of the layers. -/
theorem getElem?_stack {i : Nat} (hi : i < env.level) : env.stack[i]? = env.layers[i]? :=
  List.getElem?_append_left (env.level_eq ▸ hi)

/-- The outermost layer of the stack are the global variables. -/
theorem getElem?_stack_level (env : Environment) :
    env.stack[env.level]? = some (.locals env.globals) := by
  rw [stack, env.level_eq, List.getElem?_append_right (Nat.le_refl _), Nat.sub_self]
  rfl

theorem level_of_rebinds (h : Rebinds env.stack after.stack) : after.level = env.level := by
  have hlength := h.length_eq
  rw [length_stack, length_stack] at hlength
  omega

/-- Captures and fences stay where they are while names are bound. -/
theorem layer_iff_of_rebinds (h : Rebinds env.stack after.stack) {i : Nat} {l : Layer}
    (hl : l.vars? = none) : after.layers[i]? = some l ↔ env.layers[i]? = some l := by
  have hlevel := level_of_rebinds h
  rcases Nat.lt_or_ge i env.level with hlt | hge
  · rw [← getElem?_stack hlt, ← getElem?_stack (hlevel ▸ hlt)]
    exact h.getElem?_iff hl
  · have hafter : after.layers.length ≤ i := by rwa [← after.level_eq, hlevel]
    rw [List.getElem?_eq_none hafter, List.getElem?_eq_none (by rwa [← env.level_eq])]

/-- The captures that can be seen are those of the stack. -/
theorem findSome?_captures_stack (env : Environment) :
    env.stack.findSome? Layer.captures? = env.layers.findSome? Layer.captures? := by
  rw [stack, List.findSome?_append]
  exact Option.or_none

/-- Captured groups stay what they are while names are bound. -/
theorem get?_of_rebinds (h : Rebinds env.stack after.stack) {name : String}
    (hname : isNumericName name = true) : after.get? name = env.get? name := by
  have hcaptures := h.findSome?_captures
  rw [findSome?_captures_stack, findSome?_captures_stack] at hcaptures
  rw [get?, get?, if_pos hname, if_pos hname, group?, group?, hcaptures]

end Environment

/-! ### Aligned stacks -/

/-- Stacks of the same layers, but for the captures on top and for the innermost variables, which
have lost no name. -/
structure Aligned (before after : List Layer) : Prop where
  innermost : ∀ i, innermost? before = some i → ∃ vars vars',
    before[i]? = some (.locals vars) ∧ after[i]? = some (.locals vars') ∧ vars.Keeps vars'
  elsewhere : ∀ i, innermost? before ≠ some i → (i = 0 → capturesOnTop before = false) →
    after[i]? = before[i]?

namespace Aligned

variable {a b : List Layer}

theorem of_rebinds (h : Rebinds a b) : Aligned a b :=
  ⟨fun _ hi => h.at_innermost hi, fun _ hi _ => h.elsewhere hi⟩

/-- Captures on top may be any. -/
theorem captures_cons (h : Rebinds a b) (m m' : Option Captures) :
    Aligned (.captures m :: a) (.captures m' :: b) where
  innermost i hi := by
    rw [innermost?_cons rfl] at hi
    obtain ⟨j, hj, rfl⟩ := Option.map_eq_some_iff.1 hi
    exact h.at_innermost hj
  elsewhere i hi htop := by
    cases i with
    | zero => cases htop rfl
    | succ j =>
      refine h.elsewhere fun hj => hi ?_
      rw [innermost?_cons rfl, hj]
      rfl

end Aligned

namespace Environment

variable {env after : Environment}

@[simp]
theorem capturesOnTop_stack (env : Environment) :
    capturesOnTop env.stack = capturesOnTop env.layers := by
  rw [stack]
  cases env.layers with
  | nil => rfl
  | cons l rest => cases l <;> rfl

/-- Without local variables, the global ones are the innermost. -/
theorem innermost?_stack (env : Environment) :
    innermost? env.stack = some ((innermost? env.layers).getD env.level) := by
  rw [innermost?, stack, List.findIdx?_append, ← innermost?, ← env.level_eq]
  cases innermost? env.layers with
  | none => exact congrArg some (Nat.zero_add _)
  | some i => rfl

theorem lt_level_of_innermost? {i : Nat} (h : innermost? env.layers = some i) : i < env.level := by
  rw [env.level_eq]
  exact (List.findIdx?_eq_some_iff_getElem.1 h).1

/-- However a stack advances, it ends with the same layers, and with captures on top of them if
there is one more. -/
theorem aligned_restore (h : Advances env.stack after.stack) :
    Aligned env.stack (after.restore env.level).stack ∧
      (after.level = env.level ∨ after.level = env.level + 1 ∧
        capturesOnTop env.stack = false ∧ capturesOnTop after.stack = true) := by
  have hlength := h.below.length_eq
  cases htop : capturesOnTop env.stack with
  | true =>
    -- captures stay on top, so there is nothing to drop
    obtain ⟨m, hm⟩ := eq_captures_of_onTop htop
    obtain ⟨m', hm'⟩ := eq_captures_of_onTop (h.captures htop)
    have hsame : after.level = env.level := by
      have henv := congrArg List.length hm
      have hafter := congrArg List.length hm'
      simp only [length_stack, List.length_cons] at henv hafter
      omega
    refine ⟨?_, .inl hsame⟩
    rw [← hsame, restore_level, hm, hm']
    exact .captures_cons h.below m m'
  | false =>
    -- new captures, if there are any, are all that is dropped
    have hbelow := h.below
    rw [belowCaptures_of_not_onTop htop] at hbelow hlength
    obtain ⟨above, habove⟩ := exists_append_belowCaptures after.stack
    refine ⟨?_, ?_⟩
    · rw [stack_restore habove (hlength.trans env.length_stack)]
      exact .of_rebinds hbelow
    · cases htop' : capturesOnTop after.stack with
      | true =>
        obtain ⟨m', hm'⟩ := eq_captures_of_onTop htop'
        have hafter := congrArg List.length hm'
        rw [List.length_cons, hlength, length_stack, length_stack] at hafter
        exact .inr ⟨by omega, rfl, rfl⟩
      | false =>
        rw [belowCaptures_of_not_onTop htop', length_stack, length_stack] at hlength
        exact .inl (by omega)

end Environment

/-! ### Aligned environments -/

namespace Aligned

variable {env low : Environment} {i : Nat} (h : Aligned env.stack low.stack)
  (hlevel : low.level = env.level)

include h hlevel

/-- Layers other than the innermost variables and the captures on top are the same. -/
theorem layer_eq (hi : innermost? env.layers ≠ some i)
    (htop : i = 0 → capturesOnTop env.layers = false) : low.layers[i]? = env.layers[i]? := by
  rcases Nat.lt_or_ge i env.level with hlt | hge
  · rw [← Environment.getElem?_stack hlt, ← Environment.getElem?_stack (hlevel ▸ hlt)]
    refine h.elsewhere i (fun heq => ?_) (by rwa [Environment.capturesOnTop_stack])
    rw [Environment.innermost?_stack, Option.some.injEq] at heq
    cases hvars : innermost? env.layers with
    | none =>
      rw [hvars, Option.getD_none] at heq
      omega
    | some j =>
      rw [hvars, Option.getD_some] at heq
      exact hi (heq ▸ hvars)
  · -- there is no layer at that place, neither before nor after
    have hlow : low.layers.length ≤ i := by rwa [← low.level_eq, hlevel]
    rw [List.getElem?_eq_none hlow, List.getElem?_eq_none (by rwa [← env.level_eq])]

/-- The innermost local variables have lost no name. -/
theorem locals_keeps (hi : innermost? env.layers = some i) : ∃ vars vars',
    env.layers[i]? = some (.locals vars) ∧ low.layers[i]? = some (.locals vars') ∧
      vars.Keeps vars' := by
  have hlt := Environment.lt_level_of_innermost? hi
  rw [← Environment.getElem?_stack hlt, ← Environment.getElem?_stack (hlevel ▸ hlt)]
  exact h.innermost i (by rw [Environment.innermost?_stack, hi, Option.getD_some])

/-- Without local variables, the global ones have lost no name. -/
theorem globals_keeps (hnone : innermost? env.layers = none) :
    env.globals.Keeps low.globals := by
  obtain ⟨vars, vars', hvars, hvars', hkeeps⟩ := h.innermost env.level
    (by rw [Environment.innermost?_stack, hnone, Option.getD_none])
  rw [Environment.getElem?_stack_level] at hvars
  rw [← hlevel, Environment.getElem?_stack_level] at hvars'
  cases hvars
  cases hvars'
  exact hkeeps

/-- With local variables, the global ones are the same. -/
theorem globals_eq (hsome : innermost? env.layers ≠ none) : low.globals = env.globals := by
  obtain ⟨j, hj⟩ := Option.ne_none_iff_exists'.1 hsome
  have hlt := Environment.lt_level_of_innermost? hj
  have hsame := h.elsewhere env.level
    (by
      rw [Environment.innermost?_stack, hj, Option.getD_some, ne_eq, Option.some.injEq]
      omega)
    (fun h0 => by omega)
  rw [Environment.getElem?_stack_level, ← hlevel, Environment.getElem?_stack_level] at hsame
  simpa using hsame

end Aligned

end Manifest
