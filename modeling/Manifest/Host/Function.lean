import Manifest.Host.Procedure
import Manifest.Text.Quoted

/-!
# Host functions

The functions that programs can call by name.
-/

namespace Manifest

/-- A function that the host provides. -/
structure HostFunction where
  /-- what the function does with its arguments; a lambda at the call site comes last -/
  body : List Value → Procedure
  /-- whether the result is of use; the result of other functions is discarded -/
  producesValue : Bool

/-- The functions that programs can call, by name. -/
abbrev FunctionTable := NameMap HostFunction

namespace FunctionTable

/-- What a function does with its arguments. -/
def procedure (functions : FunctionTable) (name : String) (args : List Value) : Procedure :=
  match functions.get? name with
  | some f => f.body args
  | none => .raise (.ofCause (.unknownFunction name))

/-- Whether there is a function of that name. -/
def has (functions : FunctionTable) (name : String) : Bool :=
  (functions.get? name).isSome

/-- Whether there is a function of that name and its result is of use. -/
def producesValue (functions : FunctionTable) (name : String) : Bool :=
  (functions.get? name).any (·.producesValue)

/-- The text of a table inside a diagnostic: the names of its functions. -/
def debug (functions : FunctionTable) : String :=
  "FunctionTable \x7b functions: ["
    ++ commaSeparated (functions.names.map Quoted.encode) ++ "] \x7d"

end FunctionTable

end Manifest
