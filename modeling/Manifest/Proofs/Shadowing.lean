import Manifest.Proofs.CallLogic
import Manifest.Proofs.Frame

/-!
# Shadowed variables of the caller cannot be observed

A closure runs on top of the layers of its caller, so that everything in it may look names up there,
capture them, and call host functions that do the same. But what the closure binds itself, its
parameters and what it has captured, it finds in its own layer first. So it makes no difference what
these names stand for in the layers below.

* `Environment.AgreeOff` — environments that are the same but for what some names stand for in local
  variables.
* `Environment.Alike` — environments that are the same above certain layers, where a layer of
  variables binds all these names. If the layers below agree but for these names, then every name
  stands for the same in both environments, and lambdas capture the same.
* `EvalM.Masked` — two steps have the same outcome in environments that are alike, and leave them
  alike. This is a logic of calls.
-/

namespace Manifest

/-! ## Agreement -/

/-- Maps that have the same entries but for some names. -/
def NameMap.AgreeOff {α : Type} (names : String → Prop) (m m' : NameMap α) : Prop :=
  ∀ name, ¬ names name → (m.filter fun e => e.1 = name) = m'.filter fun e => e.1 = name

namespace NameMap

variable {α : Type} {names : String → Prop} {m m' : NameMap α} {name : String}

/-- What a name stands for is decided by its entries. -/
theorem get?_filter (m : NameMap α) (name : String) :
    get? (m.filter fun e => e.1 = name) name = get? m name := by
  induction m with
  | nil => rfl
  | cons e rest ih =>
    obtain ⟨n, a⟩ := e
    by_cases hn : n = name
    · rw [List.filter_cons_of_pos (by simpa using hn), get?_cons, get?_cons, ih]
    · rw [List.filter_cons_of_neg (by simpa using hn), get?_cons, if_neg (Ne.symm hn), ih]

/-- In a map in order a name has one entry at most. -/
theorem Ordered.filter_eq (h : m.Ordered) (name : String) :
    (m.filter fun e => e.1 = name) = (get? m name).toList.map fun a => (name, a) := by
  induction m with
  | nil => rfl
  | cons e rest ih =>
    obtain ⟨n, a⟩ := e
    obtain ⟨hhead, hrest⟩ := List.pairwise_cons.1 h
    by_cases hn : n = name
    · subst hn
      rw [List.filter_cons_of_pos (by simp), ih hrest, get?_eq_none_of_lt hhead, get?_cons,
        if_pos rfl]
      rfl
    · rw [List.filter_cons_of_neg (by simpa using hn), ih hrest, get?_cons, if_neg (Ne.symm hn)]

/-- Maps in order agree if names stand for the same in them. -/
theorem agreeOff_of_ordered (h : m.Ordered) (h' : m'.Ordered)
    (hget : ∀ name, ¬ names name → get? m name = get? m' name) : m.AgreeOff names m' :=
  fun name hname => by rw [h.filter_eq, h'.filter_eq, hget name hname]

/-- Where maps agree, names stand for the same. -/
theorem AgreeOff.get?_eq (h : AgreeOff names m m') (hname : ¬ names name) :
    get? m name = get? m' name := by
  rw [← get?_filter m, ← get?_filter m', h name hname]

/-- Maps that agree do so in the reverse order too, where the last entries come first. -/
theorem AgreeOff.reverse (h : AgreeOff names m m') : AgreeOff names m.reverse m'.reverse := by
  intro name hname
  rw [List.filter_reverse, List.filter_reverse, h name hname]

/-- A name that stands for something does so in the reverse order too. -/
theorem isSome_get?_reverse (h : (get? m name).isSome) : (get? m.reverse name).isSome := by
  obtain ⟨e, he, hname⟩ := List.lookup_isSome_iff.1 h
  exact List.lookup_isSome_iff.2 ⟨e, List.mem_reverse.2 he, hname⟩

end NameMap

/-! ## Layers that differ in what is shadowed -/

/-- Stacks of the same layers, but for what some names stand for in layers of variables. -/
inductive Layer.AgreeOff (names : String → Prop) : List Layer → List Layer → Prop where
  | nil : AgreeOff names [] []
  | locals {vars vars' : Bindings} {layers layers' : List Layer}
    (agree : vars.AgreeOff names vars') (below : AgreeOff names layers layers') :
    AgreeOff names (.locals vars :: layers) (.locals vars' :: layers')
  | above {l : Layer} {layers layers' : List Layer} (hl : l.vars? = none)
    (below : AgreeOff names layers layers') : AgreeOff names (l :: layers) (l :: layers')

namespace Layer.AgreeOff

variable {names : String → Prop} {a b : List Layer}

theorem length_eq (h : AgreeOff names a b) : a.length = b.length := by
  induction h with
  | nil => rfl
  | locals _ _ ih => exact congrArg (· + 1) ih
  | above _ _ ih => exact congrArg (· + 1) ih

/-- The captures that can be seen are the same. -/
theorem findSome?_captures (h : AgreeOff names a b) :
    a.findSome? Layer.captures? = b.findSome? Layer.captures? := by
  induction h with
  | nil => rfl
  | locals _ _ ih => exact ih
  | above _ _ ih => simp only [List.findSome?_cons, ih]

/-- What is found in the variables is the same, unless it depends on names that differ. -/
theorem findSome?_vars (h : AgreeOff names a b) {find : Bindings → Option Value}
    (hfind : ∀ {vars vars' : Bindings}, vars.AgreeOff names vars' → find vars = find vars') :
    a.findSome? (fun l => l.vars?.bind find) = b.findSome? fun l => l.vars?.bind find := by
  induction h with
  | nil => rfl
  | @locals vars vars' _ _ agree _ ih =>
    have hsame : (Layer.locals vars).vars?.bind find = (Layer.locals vars').vars?.bind find :=
      hfind agree
    simp only [List.findSome?_cons, ih, hsame]
  | above _ _ ih => simp only [List.findSome?_cons, ih]

end Layer.AgreeOff

namespace Environment

/-- What lambdas capture under a name: what the innermost layer of variables that has it says. -/
theorem get?_capture (env : Environment) (name : String) :
    env.capture.get? name =
      env.layers.findSome? fun l => l.vars?.bind fun vars => NameMap.get? vars.reverse name := by
  rw [capture]
  induction env.layers with
  | nil => rfl
  | cons l rest ih =>
    rw [List.foldr_cons, NameMap.get?_insertAll, ih, List.findSome?_cons]
    cases l.vars? with
    | none => rfl
    | some vars => cases hvars : NameMap.get? vars.reverse name <;> simp [hvars]

/-- Environments that are the same but for what some names stand for in local variables. -/
structure AgreeOff (names : String → Prop) (env env' : Environment) : Prop where
  globals : env.globals = env'.globals
  layers : Layer.AgreeOff names env.layers env'.layers

/-- Environments that are the same above certain layers, where a layer of variables binds all names
of a kind. -/
structure Alike (names : String → Prop) (below below' : List Layer) (env env' : Environment) :
    Prop where
  globals : env.globals = env'.globals
  layers : ∃ above vars, env.layers = above ++ .locals vars :: below ∧
    env'.layers = above ++ .locals vars :: below' ∧ ∀ name, names name → (vars.get? name).isSome

namespace Alike

variable {names : String → Prop} {below below' : List Layer} {env env' : Environment}

/-- What is found in the variables is the same, if it is the same below or is found above. -/
theorem findSome?_vars (h : Alike names below below' env env') {find : Bindings → Option Value}
    (hfind : below.findSome? (fun l => l.vars?.bind find) =
        below'.findSome? (fun l => l.vars?.bind find) ∨
      ∀ vars : Bindings, (∀ name, names name → (vars.get? name).isSome) → (find vars).isSome) :
    env.layers.findSome? (fun l => l.vars?.bind find) =
      env'.layers.findSome? fun l => l.vars?.bind find := by
  obtain ⟨above, vars, hlayers, hlayers', hnames⟩ := h.layers
  rw [hlayers, hlayers', List.findSome?_append, List.findSome?_append]
  -- nothing differs above; below, it does not matter or the search does not get there
  congr 1
  rcases hfind with hbelow | hfound
  · simp only [List.findSome?_cons, hbelow]
  · obtain ⟨v, hv⟩ := Option.isSome_iff_exists.1 (hfound vars hnames)
    have hhere : (Layer.locals vars).vars?.bind find = some v := hv
    simp only [List.findSome?_cons, hhere]

variable (hbelow : Layer.AgreeOff names below below')

include hbelow

theorem level_eq (h : Alike names below below' env env') : env.level = env'.level := by
  obtain ⟨above, vars, hlayers, hlayers', -⟩ := h.layers
  rw [env.level_eq, env'.level_eq, hlayers, hlayers', List.length_append, List.length_append,
    List.length_cons, List.length_cons, hbelow.length_eq]

/-- What a lookup finds in the variables is the same. -/
theorem findSome?_lookup (h : Alike names below below' env env') (name : String)
    {order : Bindings → Bindings}
    (hagree : ∀ {vars vars' : Bindings}, vars.AgreeOff names vars' →
      (order vars).AgreeOff names (order vars'))
    (hsome : ∀ {vars : Bindings}, (vars.get? name).isSome → ((order vars).get? name).isSome) :
    env.layers.findSome? (fun l => l.vars?.bind fun vars => (order vars).get? name) =
      env'.layers.findSome? fun l => l.vars?.bind fun vars => (order vars).get? name := by
  refine h.findSome?_vars ?_
  by_cases hname : names name
  · exact .inr fun vars hvars => hsome (hvars name hname)
  · exact .inl (hbelow.findSome?_vars fun agree => (hagree agree).get?_eq hname)

/-- Every name stands for the same. -/
theorem get?_eq (h : Alike names below below' env env') (name : String) :
    env.get? name = env'.get? name := by
  have hcaptures : env.layers.findSome? Layer.captures? =
      env'.layers.findSome? Layer.captures? := by
    obtain ⟨above, vars, hlayers, hlayers', -⟩ := h.layers
    rw [hlayers, hlayers', List.findSome?_append, List.findSome?_append]
    exact congrArg _ hbelow.findSome?_captures
  have hlocal : env.local? name = env'.local? name :=
    h.findSome?_lookup hbelow name id id
  rw [get?, get?, group?, group?, hcaptures, hlocal, h.globals]

/-- Lambdas capture the same. -/
theorem capture_eq (h : Alike names below below' env env') : env.capture = env'.capture := by
  refine (ordered_capture env).ext (ordered_capture env') fun name => ?_
  rw [get?_capture, get?_capture]
  exact h.findSome?_lookup hbelow name (fun agree => agree.reverse) NameMap.isSome_get?_reverse

end Alike

/-! ## Changes of environments that are alike -/

/-- Binding a name above a layer of variables, or in it, does not depend on what is below. -/
theorem bindLocal?_append_locals (name : String) (value : Value) (above : List Layer)
    (vars : Bindings) :
    ∃ above' vars', vars.Keeps vars' ∧ ∀ below,
      bindLocal? name value (above ++ .locals vars :: below) =
        some (above' ++ .locals vars' :: below) := by
  cases h : bindLocal? name value above with
  | some bound => exact ⟨bound, vars, .refl vars, fun _ => by rw [bindLocal?_append, h]⟩
  | none =>
    refine ⟨above, _, NameMap.Keeps.insert vars name value, fun _ => ?_⟩
    rw [bindLocal?_append, h]
    rfl

/-- Binding a name where there are local variables. -/
theorem set_of_bindLocal? {env : Environment} {name : String} {value : Value} {bound : List Layer}
    (h : bindLocal? name value env.layers = some bound) :
    (env.set name value).layers = bound ∧ (env.set name value).globals = env.globals := by
  rw [set]
  split
  · next layers hlayers =>
    rw [h] at hlayers
    cases hlayers
    exact ⟨rfl, rfl⟩
  · next hnone =>
    rw [h] at hnone
    cases hnone

namespace Alike

variable {names : String → Prop} {below below' : List Layer} {env env' : Environment}

theorem set (h : Alike names below below' env env') (name : String) (value : Value) :
    Alike names below below' (env.set name value) (env'.set name value) := by
  obtain ⟨above, vars, hlayers, hlayers', hnames⟩ := h.layers
  obtain ⟨above', vars', hkeeps, hbind⟩ := bindLocal?_append_locals name value above vars
  obtain ⟨hset, hglobals⟩ := set_of_bindLocal? ((congrArg _ hlayers).trans (hbind below))
  obtain ⟨hset', hglobals'⟩ := set_of_bindLocal? ((congrArg _ hlayers').trans (hbind below'))
  exact ⟨by rw [hglobals, hglobals', h.globals],
    above', vars', hset, hset', fun other hother => hkeeps other (hnames other hother)⟩

theorem push (h : Alike names below below' env env') (l : Layer) :
    Alike names below below' (env.push l) (env'.push l) := by
  obtain ⟨above, vars, hlayers, hlayers', hnames⟩ := h.layers
  exact ⟨h.globals, l :: above, vars, congrArg (l :: ·) hlayers, congrArg (l :: ·) hlayers', hnames⟩

theorem setCaptures (h : Alike names below below' env env') (m : Option Captures) :
    Alike names below below' (env.setCaptures m) (env'.setCaptures m) := by
  obtain ⟨above, vars, hlayers, hlayers', hnames⟩ := h.layers
  obtain ⟨hset, hglobals⟩ := env.setCaptures_eq m
  obtain ⟨hset', hglobals'⟩ := env'.setCaptures_eq m
  -- the captures on top, if there are any, stand above the variables
  obtain ⟨above', habove⟩ := belowCaptures_append above
  refine ⟨by rw [hglobals, hglobals', h.globals], .captures m :: above', vars, ?_, ?_, hnames⟩
  · rw [hset, hlayers, habove _ rfl]
    rfl
  · rw [hset', hlayers', habove _ rfl]
    rfl

/-- Dropping layers, as long as those stay in which the names are bound. -/
theorem restore (h : Alike names below below' env env') (hlevel : env.level = env'.level) {n : Nat}
    (hn : below.length < n) :
    Alike names below below' (env.restore n) (env'.restore n) := by
  obtain ⟨above, vars, hlayers, hlayers', hnames⟩ := h.layers
  have hle : env.level - n ≤ above.length := by
    rw [env.level_eq, hlayers, List.length_append, List.length_cons]
    omega
  have hdrop : ∀ {layers rest : List Layer}, layers = above ++ .locals vars :: rest →
      layers.drop (env.level - n) = above.drop (env.level - n) ++ .locals vars :: rest := by
    rintro _ rest rfl
    exact List.drop_append_of_le_length hle
  refine ⟨h.globals, above.drop (env.level - n), vars, hdrop hlayers, ?_, hnames⟩
  have hrestore : (env'.restore n).layers = env'.layers.drop (env.level - n) := by
    rw [hlevel]
    rfl
  exact hrestore.trans (hdrop hlayers')

end Alike

end Environment

/-! ## Steps that are masked -/

namespace EvalM

variable {α β : Type} {names : String → Prop} {below below' : List Layer}

/-- In environments that are alike, two steps have the same outcome and leave environments that are
alike, and everything else the same. -/
def Masked (names : String → Prop) (below below' : List Layer) (m m' : EvalM α) : Prop :=
  ∀ ⦃s : State⦄ ⦃env' : Environment⦄, s.env.Alike names below below' env' →
    m s = none ∧ m' { s with env := env' } = none ∨
      ∃ r t after', m s = some (r, t) ∧
        m' { s with env := env' } = some (r, { t with env := after' }) ∧
        t.env.Alike names below below' after'

theorem masked_raise (e : EvalError) :
    Masked names below below' (raise e : EvalM α) (raise e) :=
  fun s env' h => .inr ⟨.error e, s, env', rfl, rfl, h⟩

theorem masked_read {f : State → α}
    (hf : ∀ {s : State} {env' : Environment}, s.env.Alike names below below' env' →
      f s = f { s with env := env' }) :
    Masked names below below' (read f) (read f) :=
  fun s env' h => .inr ⟨.ok (f s), s, env', rfl, by rw [hf h]; rfl, h⟩

/-- A step that does not look at the environment and leaves it alone. -/
theorem masked_of_still {m : EvalM α}
    (hm : ∀ s, ∃ r t, m s = some (r, t) ∧ t.env = s.env ∧
      ∀ env', m { s with env := env' } = some (r, { t with env := env' })) :
    Masked names below below' m m := by
  intro s env' h
  obtain ⟨r, t, hs, henv, hs'⟩ := hm s
  exact .inr ⟨r, t, env', hs, hs' env', henv ▸ h⟩

theorem masked_changeEnv {f : Environment → Environment}
    (hf : ∀ {env env'}, env.Alike names below below' env' →
      (f env).Alike names below below' (f env')) :
    Masked names below below' (changeEnv f) (changeEnv f) :=
  fun s env' h => .inr ⟨.ok (), { s with env := f s.env }, f env', rfl, rfl, hf h⟩

theorem masked_compile (engine : RegexEngine) (source : String) :
    Masked names below below' (compile engine source) (compile engine source) := by
  refine masked_of_still fun s => ?_
  rw [compile]
  split
  · next r hr =>
    refine ⟨.ok r, s.notePattern source, rfl, s.env_notePattern source, fun env' => ?_⟩
    rw [compile, hr]
    simp only [State.notePattern]
    split <;> rfl
  · next cause hcause =>
    refine ⟨_, s, rfl, rfl, fun env' => ?_⟩
    rw [compile, hcause]

theorem Masked.bind {m m' : EvalM α} {f f' : α → EvalM β} (hm : Masked names below below' m m')
    (hf : ∀ a, Masked names below below' (f a) (f' a)) :
    Masked names below below' (m >>= f) (m' >>= f') := by
  intro s env' h
  rcases hm h with ⟨hs, hs'⟩ | ⟨r, t, after', hs, hs', halike⟩
  · exact .inl ⟨by rw [bind_apply, hs], by rw [bind_apply, hs']⟩
  · cases r with
    | error e =>
      exact .inr ⟨.error e, t, after', by rw [bind_apply, hs], by rw [bind_apply, hs'], halike⟩
    | ok a =>
      rw [bind_of_ok hs, bind_of_ok hs']
      exact hf a halike

theorem Masked.attempt {m m' : EvalM α} {next next' : Except EvalError α → EvalM β}
    (hm : Masked names below below' m m')
    (hnext : ∀ r, Masked names below below' (next r) (next' r)) :
    Masked names below below' (attempt m next) (attempt m' next') := by
  intro s env' h
  rcases hm h with ⟨hs, hs'⟩ | ⟨r, t, after', hs, hs', halike⟩
  · exact .inl ⟨by rw [EvalM.attempt, hs], by rw [EvalM.attempt, hs']⟩
  · have hrest := hnext r halike
    rwa [EvalM.attempt, EvalM.attempt, hs, hs']

theorem Masked.located {m m' : EvalM α} (hm : Masked names below below' m m') (kind : String)
    (span : Span) : Masked names below below' (located kind span m) (located kind span m') := by
  intro s env' h
  rw [EvalM.located, EvalM.located]
  rcases hm h with ⟨hs, hs'⟩ | ⟨r, t, after', hs, hs', halike⟩
  · exact .inl ⟨by rw [hs], by rw [hs']⟩
  · rw [hs, hs']
    cases r with
    | ok a => exact .inr ⟨_, t, after', rfl, rfl, halike⟩
    | error e => exact .inr ⟨_, t, after', rfl, rfl, halike⟩

theorem Masked.framed {m m' : EvalM α} (hm : Masked names below below' m m')
    (limit : Option Nat) (frame : Frame) :
    Masked names below below' (framed limit frame m) (framed limit frame m') := by
  intro s env' h
  rw [EvalM.framed, EvalM.framed]
  cases hp : CallStack.push? limit frame s.calls with
  | error e => exact .inr ⟨.error e, s, env', rfl, rfl, h⟩
  | ok calls =>
    have halike : ({ s with calls := calls } : State).env.Alike names below below' env' := h
    rcases hm halike with ⟨hs, hs'⟩ | ⟨r, t, after', hs, hs', hafter⟩
    · exact .inl ⟨by simp only [hs], by simp only [hs']⟩
    · exact .inr ⟨r.mapError (CallStack.attach t.calls), { t with calls := t.calls.tail }, after',
        by simp only [hs], by simp only [hs'], hafter⟩

/-- A layer is opened above those that differ, and dropped again. -/
theorem Masked.bracket (hbelow : Layer.AgreeOff names below below') {m m' : EvalM α}
    (hm : Masked names below below' m m') (l : Layer) :
    Masked names below below' (guarded (changeEnv (·.push l) >>= fun _ => m))
      (guarded (changeEnv (·.push l) >>= fun _ => m')) := by
  intro s env' h
  have hin : ({ s with env := s.env.push l } : State).env.Alike names below below' (env'.push l) :=
    h.push l
  -- both runs drop to the same level, and the layer that binds the names is below it
  have hlevel : s.env.level = env'.level := h.level_eq hbelow
  have hlow : below.length < s.env.level := by
    obtain ⟨above, vars, hlayers, -⟩ := h.layers
    rw [s.env.level_eq, hlayers, List.length_append, List.length_cons]
    omega
  rw [guarded, guarded]
  rcases hm hin with ⟨hs, hs'⟩ | ⟨r, t, after', hs, hs', hafter⟩
  · have hrun : (changeEnv (·.push l) >>= fun _ => m) s = none := hs
    have hrun' : (changeEnv (·.push l) >>= fun _ => m') { s with env := env' } = none := hs'
    exact .inl ⟨by rw [hrun], by rw [hrun']⟩
  · have hrun : (changeEnv (·.push l) >>= fun _ => m) s = some (r, t) := hs
    have hrun' : (changeEnv (·.push l) >>= fun _ => m') { s with env := env' } =
        some (r, { t with env := after' }) := hs'
    rw [hrun, hrun']
    refine .inr ⟨r, _, after'.restore env'.level, rfl, rfl, ?_⟩
    rw [← hlevel]
    exact hafter.restore (hafter.level_eq hbelow) hlow

/-- Masking is a logic of steps. -/
def masked (hbelow : Layer.AgreeOff names below below') : StepLogic .all where
  Rel := Masked names below below'
  answer _ := masked_read fun _ => rfl
  raise _ := masked_raise _
  lookup name := masked_read fun h => h.get?_eq hbelow name
  captured E := masked_read fun h => by simp only [Evaluator.capturedIn, h.capture_eq hbelow]
  compile := masked_compile
  record edges := masked_of_still fun s => ⟨.ok (), _, rfl, rfl, fun _ => rfl⟩
  set name value _ := masked_changeEnv fun h => h.set name value
  setCaptures m := masked_changeEnv fun h => h.setCaptures m
  bind hm hf := hm.bind fun a => hf a (NodeSet.owns_all a)
  located _ hm := hm.located _ _
  bracket _ _ hm := hm.bracket hbelow _

end EvalM

/-! ## Calls of closures -/

namespace Evaluator

open EvalM

variable {E : Evaluator} {names : String → Prop} {below below' : List Layer}

/-- Masking is a logic of calls, for host functions that change the scope only by binding names. -/
def maskedCalls (hbinds : E.functions.BindsOnly) (hbelow : Layer.AgreeOff names below below') :
    CallLogic E .all Unit where
  steps _ := masked hbelow
  enter _ i := i
  errors _ _ := True
  allows := Environment.Change.IsSet
  outOfFuel _ _ _ _ := .inl ⟨rfl, rfl⟩
  raise _ := masked_raise _
  attempt hm hnext := hm.attempt fun r => hnext r (NodeSet.answers_all r)
  change {_ c} hc _ := by
    cases c with
    | set name value => exact masked_changeEnv fun h => h.set name value
    | _ => exact hc.elim
  level _ := masked_read fun h => h.level_eq hbelow
  log _ _ := masked_of_still fun _ => ⟨.ok (), _, rfl, rfl, fun _ => rfl⟩
  readLog _ := masked_read fun _ => rfl
  framed frame hm := hm.framed E.callLimit frame
  uses := hbinds
  keeps _ _ _ _ := (Procedure.keeps_of_forall NodeSet.owns_all (fun _ => trivial) _).ordered

/-- The body of a closure runs above whatever differs in the layers of the caller. -/
theorem enterWith_shadowed {eval : Expr → EvalM Value} {c : Closure} {vars : Bindings} {s : State}
    {env' : Environment} (hagree : s.env.AgreeOff names env')
    (hnames : ∀ name, names name → (vars.get? name).isSome)
    (heval : Masked names s.env.layers env'.layers (eval c.lambda.body) (eval c.lambda.body)) :
    (E.enterWith eval c vars s).map Prod.fst =
      (E.enterWith eval c vars { s with env := env' }).map Prod.fst := by
  rw [enterWith, framed, framed]
  cases hp : CallStack.push? E.callLimit (CallStack.closureFrame c.lambda.span) s.calls with
  | error e => rfl
  | ok calls =>
    have halike : ({ s with env := s.env.openLocals vars, calls := calls } : State).env.Alike names
        s.env.layers env'.layers (env'.openLocals vars) :=
      ⟨hagree.globals, [], vars, rfl, rfl, hnames⟩
    rcases heval halike with ⟨hs, hs'⟩ | ⟨r, t, after', hs, hs', -⟩
    · have hrun : (changeEnv (·.openLocals vars) >>= fun _ => eval c.lambda.body)
          { s with calls := calls } = none := hs
      have hrun' : (changeEnv (·.openLocals vars) >>= fun _ => eval c.lambda.body)
          { s with env := env', calls := calls } = none := hs'
      simp only [guarded, hrun, hrun']
    · have hrun : (changeEnv (·.openLocals vars) >>= fun _ => eval c.lambda.body)
          { s with calls := calls } = some (r, t) := hs
      have hrun' : (changeEnv (·.openLocals vars) >>= fun _ => eval c.lambda.body)
          { s with env := env', calls := calls } = some (r, { t with env := after' }) := hs'
      simp only [guarded, hrun, hrun']
      rfl

/-- **Shadowed variables cannot be observed**: what a closure that is called with an argument for
every parameter comes to does not depend on what the names that it binds stand for in the local
variables of its caller. -/
theorem callClosure_shadowed (hbinds : E.functions.BindsOnly) {c : Closure} {args : List Value}
    (hargs : c.arity ≤ args.length) {s : State} {env' : Environment}
    (hagree : s.env.AgreeOff c.Binds env') (n : Nat) :
    (E.callClosure n c args s).map Prod.fst =
      (E.callClosure n c args { s with env := env' }).map Prod.fst := by
  cases n with
  | zero => rfl
  | succ n =>
    rw [callClosure_succ, callWith]
    rcases Nat.eq_or_lt_of_le hargs with harity | hmore
    · obtain ⟨vars, hvars, hnames⟩ := varsByPosition_of_arity (E.eval n) harity.symm
      rw [hvars, pure_bind]
      exact enterWith_shadowed hagree hnames
        ((maskedCalls hbinds hagree.layers).rel_eval n () (NodeSet.mem_all c.lambda.body))
    · -- too many arguments, which is all that there is to it
      rw [varsByPosition, if_pos hmore]
      rfl

/-- The closure `|$x| { getvar("x") }`, which has a host function look its parameter up. -/
def lookupClosure : Closure :=
  ⟨⟨0, [⟨"x", none, ⟨1, 3⟩⟩],
    ⟨.callNamed ⟨.qualifiedName "getvar", ⟨7, 13⟩⟩ [⟨.literal (.string "x"), ⟨14, 17⟩⟩] none,
      ⟨7, 18⟩⟩, ⟨0, 20⟩⟩, []⟩

/-- A state with local variables. -/
def localState (vars : Bindings) : State :=
  .initial ((Environment.ofGlobals []).openLocals vars)

/-- The closure finds its argument, whether its caller has a variable of that name or not. -/
theorem callClosure_shadowed_lookup :
    (Library.evaluator.callClosure 1 lookupClosure [.boolean true]
        (localState [("x", .integer 1)])).map Prod.fst = some (.ok (.boolean true)) := by
  have hvars : NameMap.AgreeOff lookupClosure.Binds [("x", Value.integer 1)] [] := by
    refine NameMap.agreeOff_of_ordered (List.pairwise_singleton _ _) .nil fun name hname => ?_
    have hx : name ≠ "x" := by
      rintro rfl
      exact hname (.inl ⟨_, List.mem_cons_self, rfl⟩)
    rw [NameMap.get?_cons, if_neg hx]
  have hagree : (localState [("x", .integer 1)]).env.AgreeOff lookupClosure.Binds
      (localState []).env := ⟨rfl, .locals hvars .nil⟩
  have harity : lookupClosure.arity ≤ [Value.boolean true].length := Nat.le_refl 1
  have hsame := callClosure_shadowed (E := Library.evaluator) Library.functions_bindsOnly harity
    hagree 1
  exact hsame.trans rfl

end Evaluator

end Manifest
