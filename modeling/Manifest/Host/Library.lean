import Manifest.Collection
import Manifest.Host.Function

/-!
# The function library

A small library of host functions: arguments and sizes, calling closures back, iteration, access
to variables, the log, and functions that fail.
-/

namespace Manifest.Library

/-! ## Arguments -/

/-- A whole number as a value. -/
def count (n : Nat) : Value :=
  .integer (Int64.ofNat n)

/-- The last argument. -/
def identity (args : List Value) : Procedure :=
  .answer (args.getLast?.getD .absent)

/-- The length of an array; nothing else has one. -/
def size (args : List Value) : Procedure :=
  match args with
  | .array items :: _ => .answer (count items.length)
  | _ => .answer (count 0)

/-- The number of arguments. -/
def arguments (args : List Value) : Procedure :=
  .answer (count args.length)

/-! ## Calling back -/

/-- Calls the last argument with the others. -/
def apply (args : List Value) : Procedure :=
  .delegate (args.getLast?.getD .absent) args.dropLast

/-- Calls the last argument, which has to be a closure, with the others. -/
def applyClosure (args : List Value) : Procedure :=
  match args.getLast?.getD .absent with
  | .closure c => .delegate (.closure c) args.dropLast
  | _ => .complain "not a closure"

/-- Calls what the variable `f` holds. -/
def again (_ : List Value) : Procedure :=
  .lookup "f" fun v => .delegate (v.getD .absent) []

/-! ## Iteration -/

/-- Calls a value with one element after the other. -/
def eachOf (f : Value) (next : Procedure) : List Value → Procedure
  | [] => next
  | x :: rest => .callThen f [x] fun _ => eachOf f next rest

/-- Calls a value with one element after the other and collects the results. -/
def mapOf (f : Value) (results : List Value) : List Value → Procedure
  | [] => .answer (.array results.reverse)
  | x :: rest => .callThen f [x] fun v => mapOf f (v :: results) rest

/-- The complaint of a function that takes two arguments. -/
def takesTwo (name : String) (given : Nat) : Procedure :=
  .complain (name ++ " takes 2 arguments, got " ++ toString given)

/-- Calls a closure with every element of a value, which is also the result. -/
def each (args : List Value) : Procedure :=
  match args with
  | [xs, f] => eachOf f (.answer xs) xs.unfold
  | _ => takesTwo "each" args.length

/-- The results of a closure for every element of a value. -/
def map (args : List Value) : Procedure :=
  match args with
  | [xs, f] => mapOf f [] xs.unfold
  | _ => takesTwo "map" args.length

/-! ## Variables and the log -/

/-- Leaves a mark in a variable. -/
def touch (_ : List Value) : Procedure :=
  .bind "touched" (.boolean true) (.answer (count 1))

/-- Writes the arguments to the log. -/
def notice (args : List Value) : Procedure :=
  .logAll (args.map (·.interpolated)) (.answer (.boolean true))

/-- Binds a variable. -/
def setVariable (args : List Value) : Procedure :=
  let value := args[1]?.getD .absent
  match args with
  | .string name :: _ => .bind name value (.answer value)
  | _ => .answer value

/-- The value of a variable. -/
def getVariable (args : List Value) : Procedure :=
  match args with
  | .string name :: _ => .lookup name fun v => .answer (v.getD .absent)
  | _ => .answer .absent

/-- The nesting level. -/
def level (_ : List Value) : Procedure :=
  .level fun n => .answer (count n)

/-! ## Failing -/

/-- Fails. -/
def fail (_ : List Value) : Procedure :=
  .complain "boom"

/-- Fails at a place of its own, with remarks. -/
def failAt (_ : List Value) : Procedure :=
  let e := (EvalError.ofCause (.custom "boom at")).withSpan ⟨7, 9⟩
  .raise ((e.withNote ⟨"first note", none⟩).withNote ⟨"second note", some ⟨1, 2⟩⟩)

/-! ## The table -/

/-- The functions of the library. -/
def functions : FunctionTable :=
  NameMap.ofList [
    ("identity", ⟨identity, true⟩),
    ("size", ⟨size, true⟩),
    ("count", ⟨arguments, true⟩),
    ("apply", ⟨apply, true⟩),
    ("apply_closure", ⟨applyClosure, true⟩),
    ("touch", ⟨touch, false⟩),
    ("again", ⟨again, true⟩),
    ("fail", ⟨fail, true⟩),
    ("fail_at", ⟨failAt, true⟩),
    ("each", ⟨each, true⟩),
    ("map", ⟨map, true⟩),
    ("notice", ⟨notice, false⟩),
    ("setvar", ⟨setVariable, true⟩),
    ("getvar", ⟨getVariable, true⟩),
    ("level", ⟨level, true⟩)]

end Manifest.Library
