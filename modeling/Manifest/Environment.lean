import Manifest.Error

/-!
# Environments

An environment holds the global variables and, above them, a stack of layers:

* *locals* — the variables of a closure that is being called;
* *captures* — what the latest match at this level captured, read as `$0`, `$1`, …;
* *fence* — nothing, but later captures stay above it and leave those below alone.

The height of the stack is the nesting level. What was opened inside a construct goes away when
the level from before it is restored.
-/

namespace Manifest

/-- A layer above the global variables. -/
inductive Layer where
  /-- the variables of a closure -/
  | locals (vars : Bindings)
  /-- the captures of a match; none after a match that failed -/
  | captures (m : Option Captures)
  /-- a boundary for captures -/
  | fence

namespace Layer

/-- The variables of a layer, if it has some. -/
def vars? : Layer → Option Bindings
  | .locals vars => some vars
  | _ => none

/-- The captures of a layer, if it is for them. -/
def captures? : Layer → Option (Option Captures)
  | .captures m => some m
  | _ => none

end Layer

/-- The variables and captures that an expression can see. -/
structure Environment where
  /-- the global variables -/
  globals : Bindings
  /-- the layers, innermost first -/
  layers : List Layer
  /-- the nesting level: the number of layers -/
  level : Nat := layers.length
  level_eq : level = layers.length := by rfl

/-! ## Names -/

/-- Whether a name is that of a captured group: digits only. -/
def isNumericName (name : String) : Bool :=
  !name.toList.isEmpty && name.toList.all Char.isDigit

/-- A name without the double colon that marks it as global; none for other names. -/
def globalName? (name : String) : Option String :=
  match name.toList with
  | ':' :: ':' :: rest => some (String.ofList rest)
  | _ => none

/-- Whether a name has a double colon in it, and so belongs to a namespace. -/
def isQualifiedName (name : String) : Bool :=
  hasColons name.toList
where
  /-- Whether two colons stand side by side. -/
  hasColons : List Char → Bool
    | ':' :: ':' :: _ => true
    | _ :: rest => hasColons rest
    | [] => false

/-- The number of the group that a numeric name stands for. No match has a group whose number
does not fit a machine word. -/
def groupNumber? (name : String) : Option Nat :=
  let n := name.toList.foldl (fun n c => 10 * n + (c.toNat - '0'.toNat)) 0
  if n < 0x10000000000000000 then some n else none

namespace Environment

/-- The environment of global variables alone. -/
def ofGlobals (globals : Bindings) : Environment where
  globals := globals
  layers := []

/-- Environments with the same variables and captures are the same. -/
theorem ext_layers {env other : Environment} (globals : env.globals = other.globals)
    (layers : env.layers = other.layers) : env = other := by
  cases env with | mk g l n hn
  cases other with | mk h m k hk
  cases globals
  cases layers
  cases hn
  cases hk
  rfl

/-! ## Looking up -/

/-- The group that a numeric name stands for in the innermost captures. After a failed match there
is no value in any group; without any captures there are no groups. -/
def group? (env : Environment) (name : String) : Option Value :=
  match env.layers.findSome? Layer.captures? with
  | none => none
  | some none => some .absent
  | some (some m) => (groupNumber? name).map fun i => Value.ofGroup (m.group? i)

/-- The innermost local variable of a name. -/
def local? (env : Environment) (name : String) : Option Value :=
  env.layers.findSome? fun l => l.vars?.bind (·.get? name)

/-- What a name stands for: a captured group, a global variable if marked so, else the innermost
local variable or the global one. -/
def get? (env : Environment) (name : String) : Option Value :=
  if isNumericName name then env.group? name
  else
    match globalName? name with
    | some g => env.globals.get? g
    | none => (env.local? name).or (env.globals.get? name)

/-- A name that is neither a number nor marked as global is looked up among the local variables
first. -/
theorem get?_eq_local?_or {name : String} (hnumber : isNumericName name = false)
    (hglobal : globalName? name = none) (env : Environment) :
    env.get? name = (env.local? name).or (env.globals.get? name) := by
  rw [get?, hnumber, hglobal]
  rfl

/-- Whether a name stands for anything. -/
def has (env : Environment) (name : String) : Bool :=
  (env.get? name).isSome

/-- All local variables in one map, inner ones hiding outer ones. This is what a closure captures
when it is made. -/
def capture (env : Environment) : Bindings :=
  env.layers.foldr (fun l acc => NameMap.insertAll acc (l.vars?.getD [])) []

/-! ## Binding -/

/-- Binds a name in the innermost layer of variables; none without such a layer. -/
def bindLocal? (name : String) (value : Value) : List Layer → Option (List Layer)
  | [] => none
  | .locals vars :: rest => some (.locals (vars.insert name value) :: rest)
  | l :: rest => (bindLocal? name value rest).map (l :: ·)

/-- Binding a name keeps the number of layers. -/
theorem length_of_bindLocal? {name : String} {value : Value} {layers bound : List Layer}
    (h : bindLocal? name value layers = some bound) : bound.length = layers.length := by
  induction layers generalizing bound with
  | nil => cases h
  | cons l rest ih =>
    cases l with
    | locals vars => cases h; rfl
    | captures m =>
      obtain ⟨below, hb, rfl⟩ := Option.map_eq_some_iff.1 h
      simp [ih hb]
    | fence =>
      obtain ⟨below, hb, rfl⟩ := Option.map_eq_some_iff.1 h
      simp [ih hb]

/-- Binds a name in the innermost layer of variables or, without one, as a global variable. -/
def set (env : Environment) (name : String) (value : Value) : Environment :=
  match bound : bindLocal? name value env.layers with
  | some layers =>
    { env with layers := layers, level_eq := env.level_eq.trans (length_of_bindLocal? bound).symm }
  | none => { env with globals := env.globals.insert name value }

/-! ## Levels -/

/-- Opens a layer. -/
def push (env : Environment) (l : Layer) : Environment where
  globals := env.globals
  layers := l :: env.layers
  level := env.level + 1
  level_eq := congrArg (· + 1) env.level_eq

/-- Drops every layer above a level. -/
def restore (env : Environment) (level : Nat) : Environment where
  globals := env.globals
  layers := env.layers.drop (env.level - level)
  level := min env.level level
  level_eq := by rw [List.length_drop, ← env.level_eq]; omega

/-- Opens a layer of variables. -/
def openLocals (env : Environment) (vars : Bindings) : Environment :=
  env.push (.locals vars)

/-- Opens a level for captures of its own. -/
def openFence (env : Environment) : Environment :=
  env.push .fence

/-- Sets the captures of the current level. -/
def setCaptures (env : Environment) (m : Option Captures) : Environment :=
  match top : env.layers with
  | .captures _ :: rest =>
    { env with layers := .captures m :: rest, level_eq := env.level_eq.trans (by rw [top]; rfl) }
  | _ => env.push (.captures m)

/-! ## Changes -/

/-- A change that whoever holds an environment can make to it. -/
inductive Change where
  /-- binds a name -/
  | set (name : String) (value : Value)
  /-- drops every layer above a level -/
  | restore (level : Nat)
  /-- opens a layer of variables -/
  | openLocals (vars : Bindings)
  /-- opens a level for captures of its own -/
  | openFence
  /-- sets the captures of the current level -/
  | setCaptures (m : Option Captures)

/-- Makes a change. -/
def apply (env : Environment) : Change → Environment
  | .set name value => env.set name value
  | .restore level => env.restore level
  | .openLocals vars => env.openLocals vars
  | .openFence => env.openFence
  | .setCaptures m => env.setCaptures m

/-! ## How levels change -/

@[simp]
theorem level_openLocals (env : Environment) (vars : Bindings) :
    (env.openLocals vars).level = env.level + 1 :=
  rfl

@[simp]
theorem level_openFence (env : Environment) : env.openFence.level = env.level + 1 :=
  rfl

/-- Restoring a level never raises it. -/
@[simp]
theorem level_restore (env : Environment) (n : Nat) :
    (env.restore n).level = min env.level n :=
  rfl

/-- An environment is at its own level already. -/
@[simp]
theorem restore_level (env : Environment) : env.restore env.level = env :=
  ext_layers rfl (by simp [restore])

/-- Binding a name opens no layer and closes none. -/
@[simp]
theorem level_set (env : Environment) (name : String) (value : Value) :
    (env.set name value).level = env.level := by
  rw [set]
  split <;> rfl

end Environment

end Manifest
