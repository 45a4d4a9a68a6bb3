import Stencil.Jinja.Operation
import Stencil.Text.Markup

/-! The arguments of filters, tests and functions, and what is taken from them. -/
namespace Stencil
namespace Jinja

/-- The arguments of a call. -/
structure Args where
  positional : List Value := []
  named : List (Value × Value) := []

/-- Whether undefined values are refused, and whether texts are escaped for a document of markup. -/
structure Rules where
  strict : Bool
  escaping : Bool := false

namespace Args

/-- Named arguments are one more value. -/
def all (a : Args) : List Value :=
  if a.named.isEmpty then a.positional else a.positional ++ [.keywords a.named]

def named? (a : Args) (key : String) : Option Value := Value.lookup? a.named (.text key)

/-- At most so many arguments, and only named ones that are known. -/
def check (a : Args) (most : Nat) (names : List String) : Value.Result Unit :=
  if most < a.positional.length then Value.fault "too many arguments"
  else if a.named.any fun e => !(names.any fun n => Value.same e.1 (.text n)) then
    Value.fault "unknown keyword argument"
  else .ok ()

def required (a : Args) (i : Nat) : Value.Result Value :=
  match a.positional[i]? with
  | some v => .ok v
  | none => Value.fault "missing argument"

/-- An argument by its place or its name. -/
def at? (a : Args) (i : Nat) (name : String) : Option Value := (a.positional[i]?).or (a.named? name)

end Args

namespace Rules

/-- Strict rules refuse what is undefined. -/
def defined (r : Rules) (v : Value) : Value.Result Value :=
  match v with
  | .undefined false => if r.strict then Value.undefinedFault else .ok v
  | v => .ok v

/-- An argument that may be left out; none stands for one that is. -/
def optional (r : Rules) (v : Option Value) : Value.Result (Option Value) :=
  match v with
  | none => .ok none
  | some v => do
    match ← r.defined v with
    | .undefined _ | .none => .ok none
    | v => .ok (some v)

/-- The text of a value. -/
def text (r : Rules) (v : Value) : Value.Result (List Char) := do
  match ← r.defined v with
  | .keywords _ => Value.fault "cannot convert keyword arguments to a string"
  | v => .ok v.display.toList

/-- The characters of a value that is a text. -/
def string (r : Rules) (v : Value) : Value.Result (List Char) := do
  match ← r.defined v with
  | .string s _ => .ok s.toList
  | _ => Value.fault "value is not a string"

def int (r : Rules) (v : Value) : Value.Result Int := do
  match Value.int? (← r.defined v) with
  | some n => .ok n
  | none => Value.fault "value is not an integer"

/-- A number of things. -/
def count (r : Rules) (v : Value) : Value.Result Nat := do
  match Value.count? (← r.defined v) with
  | some n => .ok n
  | none => Value.fault "value is not a count"

def flag (r : Rules) (v : Option Value) (fallback : Bool) : Value.Result Bool := do
  match ← r.optional v with
  | none => .ok fallback
  | some (.bool b) => .ok b
  | some _ => Value.fault "value is not a truth value"

/-- The items of a value. -/
def items (r : Rules) (v : Value) : Value.Result (List Value) := do
  Value.iterate (← r.defined v)

end Rules

namespace Value

def textValue (cs : List Char) : Value := text (String.ofList cs)

def isSafe : Value → Bool
  | string _ safe => safe
  | _ => false

/-- A text made from another one is safe if that is. -/
def madeFrom (v : Value) (cs : List Char) : Value := .string (String.ofList cs) v.isSafe

def escapeChars (cs : List Char) : List Char := cs.flatMap (Text.escapeMarkup "&#x27;" "&#x2f;")

/-- A value as safe text. -/
def escapeText (v : Value) : Value :=
  match v with
  | string s true => string s true
  | v => string (String.ofList (escapeChars v.display.toList)) true

/-- The characters of a value as safe text. -/
def markup (v : Value) : List Char := (escapeText v).display.toList

end Value
end Jinja
end Stencil
