import Stencil.Jinja.Argument

/-! The functions that every template can call. -/
namespace Stencil
namespace Jinja
namespace Function

open Value

def names : List String := ["range", "dict", "namespace", "debug"]

/-- A range of integers with at most so many items. -/
def maxRange : Nat := 100000

def rangeFrom (start step : Int) : Nat → List Value
  | 0 => []
  | n + 1 => int start :: rangeFrom (start + step) step n

def range (r : Rules) (a : Args) : Result Value := do
  a.check 3 []
  let first ← r.int (← a.required 0)
  let second ← (← r.optional a.positional[1]?).mapM r.int
  let step := (← (← r.optional a.positional[2]?).mapM r.int).getD 1
  let (start, stop) := match second with
    | some stop => (first, stop)
    | Option.none => (0, first)
  if step = 0 then fault "cannot create range with step of 0"
  else
    let count := if 0 < step then ((stop - start + step - 1) / step).toNat
      else ((start - stop - step - 1) / (-step)).toNat
    if maxRange < count then fault "range has too many elements"
    else return iterable (rangeFrom start step count) true false

/-- The entries of a map, with named arguments over them. -/
def dict (r : Rules) (a : Args) : Result Value := do
  a.check 1 (a.named.filterMap fun e => match e.1 with
    | string s _ => some s
    | _ => Option.none)
  match ← r.optional a.positional[0]? with
  | Option.none => return map (mapOf a.named)
  | some v =>
    match entries? v with
    | some entries => return map (mapOf (entries ++ a.named))
    | Option.none => fault "cannot make a dictionary of this argument"

/-- The attributes that a space starts with. -/
def attributes (r : Rules) (a : Args) : Result (List (Value × Value)) := do
  match a.all with
  | [] => return []
  | [v] =>
    match ← r.optional (some v) with
    | Option.none => return []
    | some v =>
      match entries? v with
      | some entries => return mapOf entries
      | Option.none => fault "expected object or keyword arguments"
  | _ => fault "too many arguments"

/-- The values laid out line by line. -/
def debug (a : Args) : Result Value :=
  match a.all with
  | [v] => .ok (text (outline 0 v))
  | vs => .ok (text (outline 0 (list vs)))

end Function
end Jinja
end Stencil
