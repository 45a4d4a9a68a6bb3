import Stencil.Jinja.Argument
import Stencil.Text.Case

/-! The tests that every template can use. -/
namespace Stencil
namespace Jinja
namespace Test

open Value

def isEven (v : Value) : Bool :=
  match int? v with
  | some n => n % 2 = 0
  | Option.none => false

def isOdd (v : Value) : Bool :=
  match int? v with
  | some n => n % 2 ≠ 0
  | Option.none => false

def isInteger : Value → Bool
  | int _ | wide _ => true
  | _ => false

/-- What has an identity beside its value. -/
def isObject (v : Value) : Bool :=
  (elements? v).isSome || (entries? v).isSome ||
    match v with
    | builtin _ | macroOf .. | loopState _ | space _ => true
    | _ => false

/-- Whether two values are one. Equal objects are if they are `shared`, that is, both were found
under names; a loop, a macro and a space know who they are. -/
def identical (shared : Bool) (v w : Value) : Bool :=
  match isObject v, isObject w with
  | true, true =>
    match v.itself, w.itself with
    | loopState i, loopState j => i == j
    | space i, space j => i == j
    | macroOf i _, macroOf j _ => i == j
    | builtin s, builtin t => s == t
    | v, w => shared && v.kind == w.kind && same v w
  | false, false => v.kind == w.kind && isInteger v == isInteger w && same v w
  | _, _ => false

def names : List String :=
  ["undefined", "defined", "none", "safe", "escaped", "boolean", "odd", "even", "divisibleby",
    "number", "integer", "int", "float", "string", "sequence", "iterable", "mapping",
    "startingwith", "endingwith", "lower", "upper", "sameas", "eq", "equalto", "==", "ne", "!=",
    "lt", "lessthan", "<", "le", "<=", "gt", "greaterthan", ">", "ge", ">=", "in", "true",
    "false", "filter", "test"]

/-- A test without arguments. -/
def plain? (r : Rules) (name : String) (v : Value) : Option (Result Bool) :=
  match name with
  | "undefined" => some (.ok v.isUndefined)
  | "defined" => some (.ok !v.isUndefined)
  | "none" => some (.ok (v.kind == .none))
  | "boolean" => some (.ok (v.kind == .bool))
  | "true" => some (.ok (match v with | .bool true => true | _ => false))
  | "false" => some (.ok (match v with | .bool false => true | _ => false))
  | "odd" => some (.ok (isOdd v))
  | "even" => some (.ok (isEven v))
  | "number" => some (.ok (v.kind == .number))
  | "integer" | "int" => some (.ok (isInteger v))
  | "float" => some (.ok (match v with | float _ => true | _ => false))
  | "string" => some (.ok (v.kind == .string))
  | "sequence" => some (.ok (v.kind == .sequence))
  | "iterable" => some (.ok (canIterate v))
  | "mapping" => some (.ok (v.kind == .map))
  | "safe" | "escaped" => some (.ok v.isSafe)
  | "lower" => some do .ok ((← r.string v).all fun c => Text.Property.isLowercase c.toNat)
  | "upper" => some do .ok ((← r.string v).all fun c => Text.Property.isUppercase c.toNat)
  | _ => Option.none

/-- A test with one argument. -/
def relation? (r : Rules) (name : String) (v w : Value) : Option (Result Bool) :=
  match name with
  | "eq" | "equalto" | "==" => some (.ok (same v w))
  | "ne" | "!=" => some (.ok (!same v w))
  | "lt" | "lessthan" | "<" => some (.ok (order v w == .lt))
  | "le" | "<=" => some (.ok (order v w != .gt))
  | "gt" | "greaterthan" | ">" => some (.ok (order v w == .gt))
  | "ge" | ">=" => some (.ok (order v w != .lt))
  | "in" => some do .ok ((contains (← r.defined w) v).toOption.getD false)
  | "sameas" => some (.ok (identical false v w))
  | "divisibleby" =>
    some (match pair? false v w with
      | some (.ints a b) => .ok (b ≠ 0 && a % b = 0)
      | some (.floats x y) => .ok (Double.remainder false x y == 0.0)
      | Option.none => .ok false)
  | "startingwith" => some do .ok ((← r.text w).isPrefixOf (← r.text v))
  | "endingwith" => some do .ok ((← r.text w).isSuffixOf (← r.text v))
  | _ => Option.none

/-- The answer of a named test. The filters that exist are asked for by one of them. -/
def apply (r : Rules) (filters : List String) (name : String) (v : Value) (a : Args) :
    Result Bool :=
  if name = "filter" then do .ok (filters.contains (String.ofList (← r.string v)))
  else if name = "test" then do .ok (names.contains (String.ofList (← r.string v)))
  else
    match plain? r name v with
    | some b => if a.all.isEmpty then b else fault "too many arguments"
    | Option.none =>
      match a.all with
      | [w] => (relation? r name v w).getD (fault "unknown test")
      | _ => fault (if names.contains name then "wrong number of arguments" else "unknown test")

end Test
end Jinja
end Stencil
