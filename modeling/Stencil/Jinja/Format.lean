import Stencil.Jinja.Argument
import Stencil.Number.Rounded

/-! Texts with directives, each of which a value is put in place of. -/
namespace Stencil
namespace Jinja
namespace Format

open Value

/-- How a value is put in its place. -/
structure Directive where
  /-- The named argument it takes -/
  name : Option String := Option.none
  left : Bool := false
  plus : Bool := false
  blank : Bool := false
  zero : Bool := false
  alternate : Bool := false
  width : Nat := 0
  precision : Option Nat := Option.none
  conversion : Char

/-- The flags at the front. -/
def flags (d : Directive) : List Char → Directive × List Char
  | '-' :: cs => flags { d with left := true } cs
  | '+' :: cs => flags { d with plus := true } cs
  | ' ' :: cs => flags { d with blank := true } cs
  | '0' :: cs => flags { d with zero := true } cs
  | '#' :: cs => flags { d with alternate := true } cs
  | cs => (d, cs)

/-- The directive after its opening sign, and what follows. -/
def directive? (cs : List Char) : Option (Directive × List Char) :=
  let (name, cs) := match cs with
    | '(' :: rest =>
      match Text.cutAt ')' rest with
      | some (name, rest) => (some (String.ofList name), rest)
      | Option.none => (Option.none, cs)
    | cs => (Option.none, cs)
  let (d, cs) := flags { name, conversion := 's' } cs
  let (width, cs) := Decimal.spanDigits cs
  let (precision, cs) := match cs with
    | '.' :: rest =>
      let (digits, rest) := Decimal.spanDigits rest
      (some (Decimal.natOf digits), rest)
    | cs => (Option.none, cs)
  let cs := match cs with
    | 'h' :: rest | 'l' :: rest | 'L' :: rest => rest
    | cs => cs
  match cs with
  | [] => Option.none
  | c :: rest => some ({ d with width := Decimal.natOf width, precision, conversion := c }, rest)

/-- Blanks up to the width, which is counted in bytes. -/
def pad (d : Directive) (cs : List Char) : List Char :=
  let blanks := List.replicate (d.width - (String.ofList cs).utf8ByteSize) ' '
  if d.left then cs ++ blanks else blanks ++ cs

/-- A number with its sign; zeros up to the width stand behind the sign. -/
def signed (d : Directive) (negative : Bool) (mark digits : String) : List Char :=
  let sign := if negative then "-" else if d.plus then "+" else if d.blank then " " else ""
  let lead := sign ++ mark
  let zeros := if d.zero && !d.left then d.width - lead.length - digits.length else 0
  pad d (lead ++ Shortest.zeros zeros ++ digits).toList

def digitsIn (base : Nat) : Nat → Nat → List Char
  | 0, _ => []
  | fuel + 1, n =>
    if n < base then [Json.hexDigit n] else digitsIn base fuel (n / base) ++ [Json.hexDigit (n % base)]

def raised (s : String) : String :=
  String.ofList (s.toList.map fun c => if 'a' ≤ c ∧ c ≤ 'z' then Char.ofNat (c.toNat - 32) else c)

def integer (d : Directive) (base : Nat) (mark : String) (n : Int) : List Char :=
  let digits := String.ofList (digitsIn base 200 n.natAbs)
  let digits := Shortest.zeros ((d.precision.getD 0) - digits.length) ++ digits
  signed d (n < 0) (if d.alternate then mark else "") digits

/-- The integer that a value is without its fraction. -/
def wholeOf (v : Value) : Result Int :=
  match v with
  | wide n => .ok n
  | float x =>
    if (Binary64.ofFloat? x).isSome then .ok (Double.truncate x)
    else fault "cannot convert float to integer"
  | .bool _ | int _ => .ok ((int? v).getD 0)
  | _ => fault "a number is required"

def exactOf (v : Value) : Result Int :=
  match v with
  | float _ => fault "an integer is required"
  | v => wholeOf v

def decimal (d : Directive) (render : Bool → Nat → Binary64 → String) (v : Value) :
    Result (List Char) :=
  match float? v with
  | Option.none => fault "must be a real number"
  | some x =>
    match Binary64.ofFloat? x with
    | some y => .ok (signed d y.negative "" (render d.alternate (d.precision.getD 6) y))
    | Option.none =>
      .ok (signed { d with zero := false } (x < 0) "" (if x.isNaN then "nan" else "inf"))

def upper (r : Result (List Char)) : Result (List Char) := r.map fun cs => (raised (String.ofList cs)).toList

def shortened (d : Directive) (cs : List Char) : List Char :=
  match d.precision with
  | some n => cs.take n
  | Option.none => cs

/-- The text of a value under a directive. With `escaping` a text that is put in is escaped. -/
def convert (escaping : Bool) (d : Directive) (v : Value) : Result (List Char) :=
  match d.conversion with
  | 's' => .ok (pad d (shortened d (if escaping then v.markup else v.display.toList)))
  | 'r' | 'a' =>
    .ok (pad d (shortened d (if escaping then escapeChars v.shown.toList else v.shown.toList)))
  | 'd' | 'i' | 'u' => (wholeOf v).map (integer d 10 "")
  | 'o' => (exactOf v).map (integer d 8 "0o")
  | 'x' => (exactOf v).map (integer d 16 "0x")
  | 'X' => upper ((exactOf v).map (integer d 16 "0x"))
  | 'e' => decimal d Rounded.scientific v
  | 'E' => upper (decimal d Rounded.scientific v)
  | 'f' => decimal d Rounded.fixed v
  | 'F' => upper (decimal d Rounded.fixed v)
  | 'g' => decimal d Rounded.general v
  | 'G' => upper (decimal d Rounded.general v)
  | 'c' =>
    match v with
    | string s _ =>
      match s.toList with
      | [c] => .ok (pad d (if escaping then escapeChars [c] else [c]))
      | _ => fault "one character is required"
    | int n =>
      match Text.scalar? n.toNat with
      | some c => if n < 0 then fault "no such character" else .ok (pad d [c])
      | Option.none => fault "no such character"
    | _ => fault "one character is required"
  | _ => fault "unsupported format character"

/-- The text with its directives replaced by the arguments, one after the other or by name. -/
def fill (escaping : Bool) (a : Args) : Nat → List Value → List Char → Result (List Char)
  | 0, _, _ => .ok []
  | _ + 1, _, [] => .ok []
  | fuel + 1, left, '%' :: cs =>
    match directive? cs with
    | Option.none => fault "incomplete format"
    | some (d, rest) =>
      if d.conversion = '%' then (fill escaping a fuel left rest).map ('%' :: ·)
      else
        match d.name with
        | some name =>
          match a.named? name with
          | some v => do .ok ((← convert escaping d v) ++ (← fill escaping a fuel left rest))
          | Option.none => fault "no such argument"
        | Option.none =>
          match left with
          | v :: left => do .ok ((← convert escaping d v) ++ (← fill escaping a fuel left rest))
          | [] => fault "not enough arguments for format string"
  | fuel + 1, left, c :: cs => (fill escaping a fuel left cs).map (c :: ·)

def apply (escaping : Bool) (a : Args) (cs : List Char) : Result (List Char) :=
  fill escaping a (cs.length + 1) a.positional cs

end Format
end Jinja
end Stencil
