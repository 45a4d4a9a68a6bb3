import Stencil.Json.Value
import Stencil.Number.Double
import Stencil.Text.Escaped

/-! The values that a template calculates with. -/
namespace Stencil
namespace Jinja

inductive Value where
  /-- A silent one may be printed and tested under any rules -/
  | undefined (silent : Bool)
  | none
  | bool (b : Bool)
  | int (n : Int)
  /-- A literal of more than 64 bits -/
  | wide (n : Nat)
  | float (x : Float)
  /-- A safe text is markup already -/
  | string (s : String) (safe : Bool)
  | list (items : List Value)
  /-- A list whose items have names too -/
  | tuple (names : List String) (items : List Value)
  /-- What can only be gone through; the length of a sized one is known beforehand, and after the
  items of a broken one there is a fault -/
  | iterable (items : List Value) (sized broken : Bool)
  /-- Entries in the order of their keys -/
  | map (entries : List (Value × Value))
  /-- Named arguments on their way into a call -/
  | keywords (entries : List (Value × Value))
  /-- A function that every template can call -/
  | builtin (name : String)
  /-- A macro that a template has defined -/
  | macroOf (id : Nat) (name : String)
  /-- The state of a loop that is running -/
  | loopState (id : Nat)
  /-- Attributes that can be set -/
  | space (id : Nat)
  /-- What can be seen of a loop, a macro or a space: how it is printed, and its attributes -/
  | view (of_ : Value) (shown : String) (entries : List (Value × Value))
  deriving Inhabited

namespace Value

def text (s : String) : Value := .string s false

def nat (n : Nat) : Value := .int n

/-- The kinds of values, in their order. -/
inductive Kind where
  | undefined
  | none
  | bool
  | number
  | string
  | sequence
  | map
  | iterable
  | plain
  deriving DecidableEq, Repr

namespace Kind

def rank : Kind → Nat
  | undefined => 0
  | none => 1
  | bool => 2
  | number => 3
  | string => 4
  | sequence => 5
  | map => 6
  | iterable => 7
  | plain => 8

end Kind

def kind : Value → Kind
  | undefined _ => .undefined
  | none => .none
  | bool _ => .bool
  | int _ | wide _ | float _ => .number
  | string .. => .string
  | list _ | tuple .. => .sequence
  | iterable .. => .iterable
  | map _ | keywords _ | macroOf .. | loopState _ | space _ | view .. => .map
  | builtin _ => .plain

def isUndefined : Value → Bool
  | undefined _ => true
  | _ => false

/-- What a value is that only its view was taken of. -/
def itself : Value → Value
  | view v _ _ => v
  | v => v

/-- The items of a list or of what can be gone through. -/
def elements? : Value → Option (List Value)
  | list items | tuple _ items | iterable items _ _ => some items
  | _ => Option.none

def entries? : Value → Option (List (Value × Value))
  | map entries | keywords entries | view _ _ entries => some entries
  | _ => Option.none

/-! ### Text -/

def numberText (layout : Shortest.Layout) (x : Float) : String := Double.render layout x

/-- The text of a value without parts, inside another one. -/
def leaf : Value → String
  | undefined _ => "undefined"
  | none => "None"
  | bool b => if b then "True" else "False"
  | int n => toString n
  | wide n => toString n
  | float x => numberText .nested x
  | string s _ => Text.quoted s
  | builtin name => "minijinja::functions::builtins::" ++ name
  | macroOf _ name => "<macro " ++ name ++ ">"
  | loopState _ => "<loop>"
  | view _ shown _ => shown
  | _ => "<iterator>"

mutual

/-- A value inside another one. -/
def shown : Value → String
  | list items | tuple _ items | iterable items true _ => "[" ++ shownItems items ++ "]"
  | map entries | keywords entries => "\x7b" ++ shownEntries entries ++ "\x7d"
  | v => leaf v

def shownItems : List Value → String
  | [] => ""
  | [v] => shown v
  | v :: w :: rest => shown v ++ ", " ++ shownItems (w :: rest)

def shownEntries : List (Value × Value) → String
  | [] => ""
  | [(k, v)] => shown k ++ ": " ++ shown v
  | (k, v) :: e :: rest => shown k ++ ": " ++ shown v ++ ", " ++ shownEntries (e :: rest)

end

/-- A value as it is printed. -/
def display : Value → String
  | undefined _ => ""
  | string s _ => s
  | float x => numberText (.positional true) x
  | v => v.shown

def margin (depth : Nat) : String := String.ofList (List.replicate (4 * depth) ' ')

mutual

/-- A value laid out with each part on a line of its own. -/
def outline (depth : Nat) : Value → String
  | list items | tuple _ items | iterable items true _ =>
    if items.isEmpty then "[]"
    else "[\n" ++ outlineItems (depth + 1) items ++ margin depth ++ "]"
  | map entries | keywords entries =>
    if entries.isEmpty then "\x7b\x7d"
    else "\x7b\n" ++ outlineEntries (depth + 1) entries ++ margin depth ++ "\x7d"
  | v => leaf v

def outlineItems (depth : Nat) : List Value → String
  | [] => ""
  | v :: rest => margin depth ++ outline depth v ++ ",\n" ++ outlineItems depth rest

def outlineEntries (depth : Nat) : List (Value × Value) → String
  | [] => ""
  | (k, v) :: rest =>
    margin depth ++ outline depth k ++ ": " ++ outline depth v ++ ",\n" ++ outlineEntries depth rest

end

/-! ### Numbers -/

/-- Integers that are calculated have 128 bits. -/
def least : Int := -(twoTo 127 : Int)

def greatest : Int := (twoTo 127 : Int) - 1

def leastLong : Int := -(twoTo 63 : Int)

def greatestLong : Int := (twoTo 63 : Int) - 1

/-- Numbers that two values can be compared or calculated as. -/
inductive Pair where
  | ints (a b : Int)
  | floats (a b : Float)

/-- A number without a fraction may stand for an integer if it has 64 bits. -/
def integral? (x : Float) : Option Int :=
  let n := Double.saturate leastLong greatestLong x
  if Double.ofInt n == x then some n else Option.none

def int? : Value → Option Int
  | int n => some n
  | wide n => if (n : Int) ≤ greatest then some n else Option.none
  | bool b => some (if b then 1 else 0)
  | float x => integral? x
  | _ => Option.none

def float? : Value → Option Float
  | float x => some x
  | int n => some (Double.ofInt n)
  | wide n => some (Double.ofInt n)
  | bool b => some (if b then 1.0 else 0.0)
  | _ => Option.none

/-- The number that reads back as the same integer, if there is one. Past the last integer of its
width a number reads back as that integer. -/
def exactFloat? (v : Value) : Option Float :=
  let bound (n : Int) : Int :=
    if n ≤ greatestLong then greatestLong else if n < twoTo 64 then twoTo 64 - 1 else greatest
  match v with
  | int n =>
    let x := Double.ofInt n
    if Double.saturate least (bound n) x = n then some x else Option.none
  | wide n =>
    let x := Double.ofInt n
    if Double.saturate 0 (twoTo 128 - 1) x = n then some x else Option.none
  | v => float? v

/-- Wide literals beside each other wrap around. -/
def wrapped (n : Nat) : Int := if (n : Int) ≤ greatest then n else (n : Int) - twoTo 128

/-- Two values as numbers; if `lossy`, an integer may become the nearest float. -/
def pair? (lossy : Bool) (v w : Value) : Option Pair :=
  let near := if lossy then float? else exactFloat?
  match v, w with
  | float x, w => (near w).map (.floats x)
  | v, float y => (near v).map (.floats · y)
  | wide m, wide n => some (.ints (wrapped m) (wrapped n))
  | v, w =>
    match int? v, int? w with
    | some a, some b => some (.ints a b)
    | _, _ => Option.none

/-- The place of a float in the order of all: negative ones are ordered by magnitude downwards. -/
def floatRank (x : Float) : Int :=
  let n := x.toBits.toNat
  if n < twoTo 63 then n else (twoTo 63 : Int) - n - 1

def comparePair : Pair → Ordering
  | .ints a b => compare a b
  | .floats x y => compare (floatRank x) (floatRank y)

/-! ### Order and equality -/

mutual

/-- Values of different kinds are ordered by kind. -/
def order : Value → Value → Ordering
  | list xs, w | tuple _ xs, w =>
    (compare Kind.sequence.rank w.kind.rank).then ((elements? w).elim .eq (orderItems xs))
  | iterable xs _ _, w =>
    (compare Kind.iterable.rank w.kind.rank).then ((elements? w).elim .eq (orderItems xs))
  | map xs, w | keywords xs, w | view _ _ xs, w =>
    (compare Kind.map.rank w.kind.rank).then ((entries? w).elim .eq (orderEntries xs))
  | v, w =>
    (compare v.kind.rank w.kind.rank).then
      (match v, w with
        | string s _, string t _ => compare s t
        | builtin s, builtin t => compare s t
        | v, w => ((pair? false v w).map comparePair).getD .eq)

def orderItems : List Value → List Value → Ordering
  | [], [] => .eq
  | [], _ :: _ => .lt
  | _ :: _, [] => .gt
  | v :: vs, w :: ws => (order v w).then (orderItems vs ws)

def orderEntries : List (Value × Value) → List (Value × Value) → Ordering
  | [], [] => .eq
  | [], _ :: _ => .lt
  | _ :: _, [] => .gt
  | (k, v) :: vs, (l, w) :: ws => ((order k l).then (order v w)).then (orderEntries vs ws)

end

/-- Put an entry where its key belongs, over one with the same key. -/
def putEntry (key value : Value) : List (Value × Value) → List (Value × Value)
  | [] => [(key, value)]
  | (k, v) :: rest =>
    match order key k with
    | .lt => (key, value) :: (k, v) :: rest
    | .eq => (k, value) :: rest
    | .gt => (k, v) :: putEntry key value rest

def mapOf (entries : List (Value × Value)) : List (Value × Value) :=
  entries.foldl (fun m e => putEntry e.1 e.2 m) []

def lookup? (entries : List (Value × Value)) (key : Value) : Option Value :=
  (entries.find? fun e => order e.1 key == .eq).map (·.2)

mutual

/-- Whether two values are equal. Lists are equal to whatever goes through the same items, and an
entry of one map is looked for in the other. -/
def same : Value → Value → Bool
  | list xs, w | tuple _ xs, w | iterable xs _ _, w => (elements? w).elim false (sameItems xs)
  | map xs, w | keywords xs, w | view _ _ xs, w =>
    (entries? w).elim false fun ys => xs.length == ys.length && sameEntries xs ys
  | string s _, string t _ => s == t
  | undefined _, undefined _ => true
  | none, none => true
  | builtin s, builtin t => s == t
  | macroOf i _, macroOf j _ => i == j
  | loopState i, loopState j => i == j
  | space i, space j => i == j
  | v, w =>
    match pair? false v w with
    | some (.ints a b) => a == b
    | some (.floats x y) => x == y
    | Option.none => false

def sameItems : List Value → List Value → Bool
  | [], [] => true
  | v :: vs, w :: ws => same v w && sameItems vs ws
  | _, _ => false

/-- Whether each entry is one of the others. -/
def sameEntries : List (Value × Value) → List (Value × Value) → Bool
  | [], _ => true
  | (k, v) :: rest, ws => (lookup? ws k).elim false (same v) && sameEntries rest ws

end

def truth : Value → Bool
  | undefined _ | none => false
  | bool b => b
  | int n => n ≠ 0
  | wide _ => true
  | float x => x != 0.0
  | string s _ => !s.isEmpty
  | list items | tuple _ items | iterable items true _ => !items.isEmpty
  | map entries | keywords entries | view _ _ entries => !entries.isEmpty
  | iterable _ false _ | builtin _ | macroOf .. | loopState _ | space _ => true

/-! ### Values from documents -/

mutual

/-- The value that a document holds. -/
def ofJson : Json → Value
  | .null => none
  | .bool b => bool b
  | .number (.int n) => int n
  | .number (.float x) => float x.toFloat
  | .string s => string s false
  | .array items => list (ofItems items)
  | .object fields => map (mapOf (ofFields fields))

def ofItems : List Json → List Value
  | [] => []
  | v :: rest => ofJson v :: ofItems rest

def ofFields : List (String × Json) → List (Value × Value)
  | [] => []
  | (k, v) :: rest => (string k false, ofJson v) :: ofFields rest

end

mutual

/-- A value with each part replaced that has an identity of its own. -/
def seen (look : Value → Value) : Value → Value
  | list items => list (seenItems look items)
  | tuple names items => tuple names (seenItems look items)
  | iterable items sized broken => iterable (seenItems look items) sized broken
  | map entries => map (seenEntries look entries)
  | keywords entries => keywords (seenEntries look entries)
  | v => look v

def seenItems (look : Value → Value) : List Value → List Value
  | [] => []
  | v :: rest => seen look v :: seenItems look rest

def seenEntries (look : Value → Value) : List (Value × Value) → List (Value × Value)
  | [] => []
  | (k, v) :: rest => (k, seen look v) :: seenEntries look rest

end

end Value
end Jinja
end Stencil
