import Stencil.Failure
import Stencil.Json.Printer
import Stencil.Json.Reader

/-! Converting values to a requested type. -/
namespace Stencil

inductive Coercion where
  | str
  | int
  | float
  | bool
  | json
  deriving DecidableEq, Repr

namespace Coercion

def name : Coercion → String
  | str => "str"
  | int => "int"
  | float => "float"
  | bool => "bool"
  | json => "json"

def all : List Coercion := [str, int, float, bool, json]

def ofName? (s : String) : Option Coercion := all.find? fun k => k.name == s

def unknownName (s : String) : String :=
  "unknown coercion type '" ++ s ++ "', 'as' must be one of " ++
    String.intercalate ", " (all.map name)

theorem ofName?_name (k : Coercion) : ofName? k.name = some k := by cases k <;> decide

/-- A string is its own text, any other value its document text. -/
def textOf : Json → String
  | .string s => s
  | v => v.render

/-- Longer values are cut in messages. -/
def shownLength : Nat := 60

def shown (v : Json) : String :=
  let cs := (textOf v).toList
  if shownLength < cs.length then String.ofList (cs.take shownLength) ++ "..."
  else String.ofList cs

def failed (k : Coercion) (v : Json) (reason : String) : Failure :=
  .coercionFailed (shown v) k.name reason

/-- The number a value holds or, if it is not a number, its trimmed text denotes. -/
def numberOf? : Json → Option Decimal.Reading
  | .number n => some (.finite n.toBinary64)
  | v => Decimal.read? (Text.trim (textOf v))

def finite (k : Coercion) (v : Json) : Except Failure Binary64 :=
  match numberOf? v with
  | some (.finite x) => .ok x
  | some .notFinite => .error (failed k v "value is not a finite number")
  | none => .error (failed k v "value is not a number")

/-- The limits of a 64-bit integer. The upper limit is rounded up to a binary64, `2 ^ 63`, and a
number that reaches it becomes the greatest integer. -/
def toInt (v : Json) : Except Failure Json := do
  let n := (← finite int v).roundToEven
  if n < Number.least ∨ -Number.least < n then
    .error (failed int v "value is out of range for an integer")
  else .ok (Json.int (min n Number.greatestSigned))

def trueWords : List String := ["true", "1", "yes", "y"]

def falseWords : List String := ["false", "0", "no", "n"]

/-- Only ASCII letters can fold into the words for true and false. -/
def toBool (v : Json) : Except Failure Json :=
  let word := String.ofList ((Text.trim (textOf v)).toList.map Decimal.lower)
  if word ∈ trueWords then .ok (.bool true)
  else if word ∈ falseWords then .ok (.bool false)
  else .error (failed bool v "did not match a true or false pattern")

/-- A string is read as a document; other values already are one. -/
def toJson : Json → Except Failure Json
  | .string s =>
    match Json.read? s with
    | some v => .ok v
    | none => .error (failed json (.string s) "not a JSON document")
  | v => .ok v

def apply (k : Coercion) (v : Json) : Except Failure Json :=
  match k with
  | str => .ok (.string (textOf v))
  | int => toInt v
  | float => (finite float v).map fun x => .number (.float x)
  | bool => toBool v
  | json => toJson v

end Coercion
end Stencil
