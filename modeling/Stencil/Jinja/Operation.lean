import Stencil.Failure
import Stencil.Jinja.Tree
import Stencil.Text.Cut

/-! Calculating with values. -/
namespace Stencil
namespace Jinja
namespace Value

abbrev Result := Except TemplateError

def fault (message : String) : Result α := .error (.evaluation message)

def undefinedFault : Result α := fault "undefined value"

/-- Integers have 128 bits. -/
def checked (n : Int) : Result Value :=
  if least ≤ n ∧ n ≤ greatest then .ok (.int n) else fault "integer overflow"

def impossible (op : String) : Result α :=
  fault ("tried to use " ++ op ++ " operator on unsupported types")

/-- The length of a list is always known. -/
def isSized : Value → Bool
  | iterable _ sized _ => sized
  | _ => true

def isBroken : Value → Bool
  | iterable _ _ broken => broken
  | _ => false

/-- Two lists behind each other can be gone through. -/
def add (v w : Value) : Result Value :=
  match elements? v, elements? w with
  | some xs, some ys => .ok (.iterable (xs ++ ys) (v.isSized && w.isSized) (v.isBroken || w.isBroken))
  | _, _ =>
    match v, w with
    | string s _, string t _ => .ok (text (s ++ t))
    | v, w =>
      match pair? true v w with
      | some (.ints a b) => checked (a + b)
      | some (.floats x y) => .ok (.float (x + y))
      | Option.none => impossible "+"

def sub (v w : Value) : Result Value :=
  match pair? true v w with
  | some (.ints a b) => checked (a - b)
  | some (.floats x y) => .ok (.float (x - y))
  | Option.none => impossible "-"

def repeatList : Nat → List α → List α
  | 0, _ => []
  | n + 1, xs => xs ++ repeatList n xs

/-- A number of times. -/
def count? (v : Value) : Option Nat :=
  match int? v with
  | some n => if 0 ≤ n ∧ n < twoTo 64 then some n.toNat else Option.none
  | Option.none => Option.none

/-- A text or a list several times over. -/
def timesOf? (v w : Value) : Option (Result Value) :=
  match v with
  | string s _ =>
    some (match count? w with
      | some n => .ok (text (String.ofList (repeatList n s.toList)))
      | Option.none => fault "strings can only be multiplied with integers")
  | v =>
    (elements? v).map fun xs =>
      match count? w with
      | some n =>
        if v.isSized then .ok (.iterable (repeatList n xs) true v.isBroken)
        else fault "cannot repeat unsized iterables"
      | Option.none => fault "sequences and iterables can only be multiplied with integers"

def isText : Value → Bool
  | string .. => true
  | _ => false

def mul (v w : Value) : Result Value :=
  let repeated :=
    if isText v then timesOf? v w
    else if isText w then timesOf? w v
    else (timesOf? v w).or (timesOf? w v)
  match repeated with
  | some r => r
  | Option.none =>
    match pair? true v w with
    | some (.ints a b) => checked (a * b)
    | some (.floats x y) => .ok (.float (x * y))
    | Option.none => impossible "*"

/-- Division always makes a float. -/
def div (v w : Value) : Result Value :=
  match float? v, float? w with
  | some x, some y => .ok (.float (x / y))
  | _, _ => impossible "/"

/-- The quotient whose remainder is never negative. -/
def floorDiv (v w : Value) : Result Value :=
  match pair? true v w with
  | some (.ints a b) => if b = 0 then fault "division by zero" else checked (a / b)
  | some (.floats x y) => .ok (.float (Double.euclideanQuotient x y))
  | Option.none => impossible "//"

/-- The remainder is never negative for integers, and has the sign of the first number for
floats. -/
def rem (v w : Value) : Result Value :=
  match pair? true v w with
  | some (.ints a b) => if b = 0 then fault "division by zero" else checked (a % b)
  | some (.floats x y) => .ok (.float (Double.remainder false x y))
  | Option.none => impossible "%"

/-- A power that leaves the range of integers is refused before it is computed. -/
def pow (v w : Value) : Result Value :=
  match pair? true v w with
  | some (.ints a b) =>
    if b < 0 ∨ UInt32.size ≤ b then impossible "**"
    else if a.natAbs ≤ 1 then checked (if a.natAbs = 1 ∧ b % 2 = 0 then 1 else if b = 0 then 1 else a)
    else if 128 < b then impossible "**"
    else checked (Int.pow a b.toNat)
  | some (.floats x y) => .ok (.float (x.pow y))
  | Option.none => impossible "**"

/-- The literal that only its negative fits stays as it is. -/
def negate : Value → Result Value
  | int n => checked (-n)
  | wide n =>
    if (n : Int) = -least then .ok (.wide n)
    else if (n : Int) ≤ greatest then .ok (.int (-n)) else impossible "-"
  | float x => .ok (.float (-x))
  | _ => impossible "-"

def affirm (v : Value) : Result Value :=
  if v.kind == .number then .ok v else impossible "+"

/-- Whether the needle is in the haystack: a part of a text, an item of a list or a key of a map. -/
def contains (haystack needle : Value) : Result Bool :=
  match haystack with
  | undefined _ => .ok false
  | builtin _ => .ok false
  | string s _ => .ok (Text.contains needle.display.toList s.toList)
  | v =>
    match elements? v, entries? v with
    | some items, _ => .ok (items.any fun v => same v needle)
    | _, some entries => .ok (lookup? entries needle).isSome
    | _, _ => fault "cannot perform a containment check on this value"

/-- The items that a loop runs over. -/
def iterate (v : Value) : Result (List Value) :=
  match v with
  | undefined _ | none => .ok []
  | string s _ => .ok (s.toList.map fun c => text (String.singleton c))
  | v =>
    if v.isBroken then fault "value is not iterable"
    else
      match elements? v, entries? v with
      | some items, _ => .ok items
      | _, some entries => .ok (entries.map (·.1))
      | _, _ => fault "value is not iterable"

def canIterate (v : Value) : Bool :=
  match v with
  | undefined _ | none | string .. => true
  | v => (elements? v).isSome || (entries? v).isSome

/-- Whether it is known beforehand how many items a loop runs over. -/
def isCounted (v : Value) : Bool :=
  match v with
  | string s _ => s.isEmpty
  | v => v.isSized

def length? (v : Value) : Option Nat :=
  match v with
  | string s _ => some s.length
  | v =>
    if v.isSized then
      ((elements? v).map List.length).or ((entries? v).map List.length)
    else Option.none

/-- A place counted from the front or, if negative, from the back. -/
def place? (length : Nat) (i : Int) : Option Nat :=
  if 0 ≤ i then (if i < length then some i.toNat else Option.none)
  else if -(length : Int) ≤ i then some (length + i).toNat else Option.none

/-- An integer of 64 bits. -/
def long? (v : Value) : Option Int :=
  (int? v).bind fun n => if leastLong ≤ n ∧ n ≤ greatestLong then some n else Option.none

/-- An item by place or key; `none` if there is none. -/
def item? (v key : Value) : Option Value :=
  let placed (items : List Value) : Option Value :=
    (long? key).bind fun i => (place? items.length i).bind fun n => items[n]?
  match v with
  | list items => placed items
  | iterable items sized _ =>
    if !sized && ((long? key).any fun i => i < 0) then Option.none else placed items
  | tuple names items =>
    match key with
    | string s _ => (names.idxOf? s).bind fun i => items[i]?
    | _ => placed items
  | string s _ => placed (s.toList.map fun c => text (String.singleton c))
  | v => (entries? v).bind fun entries => lookup? entries key

/-! ### Slices -/

def optionalLong (v : Value) : Result (Option Int) :=
  match v with
  | none => .ok Option.none
  | v =>
    match long? v with
    | some n => .ok (some n)
    | Option.none => fault "slice bound is not an integer"

/-- A place counted from the back; one before the front counts as beyond all. -/
def fromBack (length : Nat) (i : Int) : Nat :=
  let n := (length : Int) + i
  if 0 ≤ n then n.toNat else twoTo 64 - n.natAbs

def everyNth (step : Nat) : Nat → List α → List α
  | _, [] => []
  | 0, x :: xs => x :: everyNth step (step - 1) xs
  | n + 1, _ :: xs => everyNth step n xs

/-- Every so many items from `start` on and before `stop`. -/
def forwards (items : List α) (start : Int) (stop : Option Int) (step : Nat) : List α :=
  let place := fun (i : Int) => if i < 0 then fromBack items.length i else i.toNat
  let first := place start
  let last := (stop.map place).getD items.length
  everyNth step 0 ((items.drop first).take (last - first))

/-- Every so many items from `start` down. A `stop` at the front or before it belongs to them, any
other does not. -/
def backwards (items : List α) (start stop : Option Int) (step : Nat) : List α :=
  let n : Int := items.length
  let first := match start with
    | some i => if n ≤ i then items.length - 1 else if 0 ≤ i then i.toNat else (n + i).toNat
    | Option.none => items.length - 1
  let last := match stop with
    | some i => if i < 0 then (n + i).toNat else i.toNat
    | Option.none => 0
  let count := if last = 0 then (first + step) / step else (first - last + step - 1) / step
  (everyNth step 0 (((items.take (first + 1)).drop last).reverse)).take count

def sliceOf (items : List α) (start stop : Option Int) (step : Int) : List α :=
  if 0 < step then forwards items (start.getD 0) stop step.toNat
  else backwards items start stop step.natAbs

def slice (v start stop step : Value) : Result Value := do
  let start ← optionalLong start
  let stop ← optionalLong stop
  let step := (← optionalLong step).getD 1
  if step = 0 then fault "cannot slice by step size of 0"
  else
    match v with
    | string s _ => .ok (text (String.ofList (sliceOf s.toList start stop step)))
    | undefined _ | none => .ok (.list [])
    | v =>
      match elements? v with
      | some items => .ok (.iterable (sliceOf items start stop step) v.isSized v.isBroken)
      | Option.none => fault "value cannot be sliced"

/-- Operations whose two operands are both evaluated first. -/
def binary (op : BinaryOp) (v w : Value) : Result Value :=
  match op with
  | .eq => .ok (.bool (same v w))
  | .ne => .ok (.bool (!same v w))
  | .lt => .ok (.bool (order v w == .lt))
  | .le => .ok (.bool (order v w != .gt))
  | .gt => .ok (.bool (order v w == .gt))
  | .ge => .ok (.bool (order v w != .lt))
  | .add => add v w
  | .sub => sub v w
  | .mul => mul v w
  | .div => div v w
  | .floorDiv => floorDiv v w
  | .rem => rem v w
  | .pow => pow v w
  | .concat => .ok (text (v.display ++ w.display))
  | .in_ => (contains w v).map .bool
  | .and => .ok (if v.truth then w else v)
  | .or => .ok (if v.truth then v else w)

end Value
end Jinja
end Stencil
