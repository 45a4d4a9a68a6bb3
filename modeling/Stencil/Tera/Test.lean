import Stencil.Regex.Reader
import Stencil.Tera.Filter

/-! The tests and functions that every template can use. -/
namespace Stencil
namespace Tera
namespace Test

open Stencil.Tera.Value Stencil.Tera.Filter

def one (args : List Json) : Result Json :=
  match args with
  | [v] => .ok v
  | _ => fault "expected one argument"

def defined (v : Option Json) : Result Json :=
  match v with
  | some w => .ok w
  | none => fault "tester was called on an undefined variable"

/-- The tests that take no argument. -/
def bare : List String :=
  ["defined", "undefined", "string", "number", "object", "iterable", "odd", "even"]

def apply (name : String) (v : Option Json) (args : List Json) : Result Bool := do
  if bare.contains name ∧ !args.isEmpty then fault "the test takes no argument"
  else match name with
  | "defined" => return v.isSome
  | "undefined" => return v.isNone
  | "string" => return kindOf (← defined v) == 3
  | "number" => return kindOf (← defined v) == 2
  | "object" => return kindOf (← defined v) == 5
  | "iterable" =>
    let kind := kindOf (← defined v)
    return kind == 4 || kind == 5
  | "odd" => return Double.remainder false (toFloat (← number (← defined v))) 2.0 != 0.0
  | "even" => return Double.remainder false (toFloat (← number (← defined v))) 2.0 == 0.0
  | "divisibleby" =>
    let n ← number (← defined v)
    let d ← number (← one args)
    return Double.remainder false (toFloat n) (toFloat d) == 0.0
  | "starting_with" => return (← text (← one args)).isPrefixOf (← text (← defined v))
  | "ending_with" => return (← text (← one args)).isSuffixOf (← text (← defined v))
  | "containing" => contained (← one args) (← defined v)
  | "matching" =>
    let cs ← text (← defined v)
    match Regex.read? (← text (← one args)) with
    | some r => return (r.find? cs).isSome
    | none => fault "not a regular expression"
  | _ => fault "test not found"

end Test

namespace Function

open Stencil.Tera.Value Stencil.Tera.Filter

def range (a : Named) : Result Json := do
  let start ← given a "start" size 0
  let step ← given a "step_by" size 1
  let stop ← size (← required a "end")
  if stop < start ∨ step = 0 then fault "range is empty"
  else return .array ((List.range ((stop - start + step - 1) / step)).map fun i =>
    .int (start + step * i : Nat))

/-- A number from `start` on and below `end`: the first of them. -/
def random (a : Named) : Result Json := do
  let start ← given a "start" int 0
  if start < (← int (← required a "end")) then return .int start else fault "range is empty"

/-- The moment that stands for today where there is no clock. -/
def now (a : Named) : Result Json := do
  let _ ← given a "utc" flag false
  return if ← given a "timestamp" flag false then .int 0 else .string "1970-01-01T00:00:00+00:00"

/-- There are no variables but the template's own. -/
def environment (a : Named) : Result Json := do
  let _ ← text (← required a "name")
  match Fields.get? a "default" with
  | some v => return v
  | none => fault "environment variable not found"

def call (name : String) (a : Named) : Result Json :=
  match name with
  | "range" => range a
  | "get_random" => random a
  | "now" => now a
  | "get_env" => environment a
  | "throw" => do fault (String.ofList (← text (← required a "message")))
  | _ => fault "function not found"

end Function
end Tera
end Stencil
