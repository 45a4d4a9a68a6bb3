import Stencil.Failure
import Stencil.Number.Decimal
import Stencil.Number.Double
import Stencil.Tera.Tree
import Stencil.Text.Cut

/-! Calculating with values. -/
namespace Stencil
namespace Tera

abbrev Result := Except TemplateError

def fault (message : String) : Result α := .error (.evaluation message)

namespace Value

def numberText : Number → String
  | .int n => toString n
  | .float x => Shortest.render (.positional false) x

mutual

/-- A value as it is printed. -/
def display : Json → String
  | .null => ""
  | .bool b => if b then "true" else "false"
  | .number n => numberText n
  | .string s => s
  | .array items => "[" ++ displayItems items ++ "]"
  | .object _ => "[object]"

def displayItems : List Json → String
  | [] => ""
  | [v] => display v
  | v :: w :: rest => display v ++ ", " ++ displayItems (w :: rest)

end

def sameNumber : Number → Number → Bool
  | .int m, .int n => m == n
  | .float x, .float y => x.toFloat == y.toFloat
  | _, _ => false

mutual

def same : Json → Json → Bool
  | .null, .null => true
  | .bool a, .bool b => a == b
  | .number a, .number b => sameNumber a b
  | .string a, .string b => a == b
  | .array a, .array b => sameItems a b
  | .object a, .object b => a.length == b.length && within a b
  | _, _ => false

def sameItems : List Json → List Json → Bool
  | [], [] => true
  | v :: vs, w :: ws => same v w && sameItems vs ws
  | _, _ => false

/-- Whether all fields are among those of the other object. -/
def within : List (String × Json) → List (String × Json) → Bool
  | [], _ => true
  | (k, v) :: rest, fields =>
    (match Fields.get? fields k with
      | some w => same v w
      | none => false) && within rest fields

end

def toFloat (n : Number) : Float := n.toBinary64.toFloat

def truth : Json → Bool
  | .null => false
  | .bool b => b
  | .number n => toFloat n != 0.0
  | .string s => !s.isEmpty
  | .array items => !items.isEmpty
  | .object fields => !fields.isEmpty

/-- Only numbers that are finite can be values. -/
def ofFloat? (x : Float) : Option Number := (Binary64.ofFloat? x).map .float

/-- Signed integers first, then unsigned ones, then any numbers. -/
def arithmetic (ints : Int → Int → Int) (floats : Float → Float → Float) (a b : Number) :
    Result (Option Number) :=
  match a, b with
  | .int m, .int n =>
    let r := ints m n
    if m ≤ Number.greatestSigned ∧ n ≤ Number.greatestSigned then
      if Number.least ≤ r ∧ r ≤ Number.greatestSigned then .ok (some (.int r))
      else fault "out of bounds"
    else if 0 ≤ m ∧ 0 ≤ n then
      if 0 ≤ r ∧ r ≤ Number.greatest then .ok (some (.int r)) else fault "out of bounds"
    else .ok (ofFloat? (floats (toFloat a) (toFloat b)))
  | a, b => .ok (ofFloat? (floats (toFloat a) (toFloat b)))

def clamp (n : Int) : Int := max Number.least (min n Number.greatestSigned)

/-- An integral quotient is an integer. -/
def divide (a b : Number) : Option Number :=
  let q := toFloat a / toFloat b
  match Double.toInt? q with
  | some n => some (.int (clamp n))
  | none => ofFloat? q

/-- Two integers that are both signed ones or both unsigned ones have an integral remainder. -/
def remainder (a b : Number) : Result (Option Number) :=
  match a, b with
  | .int m, .int n =>
    if (m ≤ Number.greatestSigned ∧ n ≤ Number.greatestSigned) ∨ (0 ≤ m ∧ 0 ≤ n) then
      if n = 0 then fault "tried to do a modulo by zero" else .ok (some (.int (Int.tmod m n)))
    else .ok (ofFloat? (Double.remainder false (toFloat a) (toFloat b)))
  | a, b => .ok (ofFloat? (Double.remainder false (toFloat a) (toFloat b)))

def math (op : MathOp) (a b : Number) : Result (Option Number) :=
  match op with
  | .add => arithmetic (· + ·) (· + ·) a b
  | .sub => arithmetic (· - ·) (· - ·) a b
  | .mul => arithmetic (· * ·) (· * ·) a b
  | .div => .ok (divide a b)
  | .rem => remainder a b

/-- What a value holds under a key or, in an array, at a place. -/
def get? (v : Json) (key : String) : Option Json :=
  match v with
  | .object fields => Fields.get? fields key
  | .array items =>
    let digits := key.toList
    if digits.isEmpty ∨ !digits.all Text.asciiDigit ∨ (digits.head? = some '0' ∧ digits.length ≠ 1)
    then none
    else items[Decimal.natOf digits]?
  | _ => none

def contained (needle haystack : Json) : Result Bool :=
  match haystack, needle with
  | .array items, v => .ok (items.any fun w => same w v)
  | .string s, .string part => .ok (Text.contains part.toList s.toList)
  | .object fields, .string key => .ok (Fields.get? fields key).isSome
  | _, _ => fault "the in operator does not support these values"

end Value

end Tera
end Stencil
