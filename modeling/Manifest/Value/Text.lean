import Manifest.Decimal.Layout
import Manifest.Text.Quoted
import Manifest.Value

/-!
# The texts of values

* `display` — the text that a reader sees: texts as they are, arrays in brackets, hashes in braces
  with arrows.
* `interpolated` — the text of a value inside a longer text.
* `debug` — the text of a value inside a diagnostic: its type and content, texts quoted.
-/

namespace Manifest

/-- Texts with commas between them. -/
def commaSeparated (texts : List String) : String :=
  ", ".intercalate texts

/-! ## Display -/

mutual

/-- The text of a value. -/
def Value.display : Value → String
  | .absent => ""
  | .default => "default"
  | .boolean b => if b then "true" else "false"
  | .integer n => toString n.toInt
  | .float x => FloatText.display x
  | .string s => s
  | .array items => "[" ++ commaSeparated (Value.displayAll items) ++ "]"
  | .hash entries => "\x7b" ++ commaSeparated (Value.displayEntries entries) ++ "\x7d"
  | .type t => t.display
  | .regex r => "/" ++ r.source ++ "/"
  | .closure _ => "<closure>"
termination_by structural v => v

/-- The text of a type: its name, and its parameters in brackets if it has any. -/
def TypeRef.display : TypeRef → String
  | ⟨name, params⟩ =>
    if params.isEmpty then name else name ++ "[" ++ commaSeparated (Value.displayAll params) ++ "]"
termination_by structural t => t

/-- The texts of values. -/
def Value.displayAll : List Value → List String
  | [] => []
  | v :: rest => v.display :: Value.displayAll rest
termination_by structural vs => vs

/-- The texts of entries. -/
def Value.displayEntries : List (Value × Value) → List String
  | [] => []
  | (k, v) :: rest => (k.display ++ " => " ++ v.display) :: Value.displayEntries rest
termination_by structural es => es

end

/-- The text of a value inside a longer text. -/
def Value.interpolated (v : Value) : String :=
  v.display

/-! ## Diagnostics -/

mutual

/-- The text of a value inside a diagnostic. -/
def Value.debug : Value → String
  | .absent => "Undef"
  | .default => "Default"
  | .boolean b => if b then "Bool(true)" else "Bool(false)"
  | .integer n => "Integer(" ++ toString n.toInt ++ ")"
  | .float x => "Float(" ++ FloatText.debug x ++ ")"
  | .string s => "Str(" ++ Quoted.encode s ++ ")"
  | .array items => "[" ++ commaSeparated (Value.debugAll items) ++ "]"
  | .hash entries => "\x7b" ++ commaSeparated (Value.debugEntries entries) ++ "\x7d"
  | .type t => "Type(" ++ t.display ++ ")"
  | .regex r => "Regex(/" ++ r.source ++ "/)"
  | .closure c => "Closure(arity=" ++ toString c.arity ++ ")"
termination_by structural v => v

/-- The texts of values inside a diagnostic. -/
def Value.debugAll : List Value → List String
  | [] => []
  | v :: rest => v.debug :: Value.debugAll rest
termination_by structural vs => vs

/-- The texts of entries inside a diagnostic. -/
def Value.debugEntries : List (Value × Value) → List String
  | [] => []
  | (k, v) :: rest => (k.debug ++ ": " ++ v.debug) :: Value.debugEntries rest
termination_by structural es => es

end

end Manifest
