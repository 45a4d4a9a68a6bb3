import Stencil.Number.Double
import Stencil.Number.Rounded
import Stencil.Script.Arithmetic

/-! Texts with escapes and directives, as they are printed. -/
namespace Stencil
namespace Script
namespace Format

open Text

def byte (n : Nat) : ByteArray := ⟨#[n.toUInt8]⟩

def ofChars (cs : List Char) : ByteArray := (String.ofList cs).toUTF8

def isOctal (c : Char) : Bool := '0' ≤ c && c ≤ '7'

/-- The value of an escape of one letter. -/
def simpleEscape? (c : Char) : Option Nat :=
  match c with
  | 'a' => some 7
  | 'b' => some 8
  | 'e' => some 27
  | 'f' => some 12
  | 'n' => some 10
  | 'r' => some 13
  | 't' => some 9
  | 'v' => some 11
  | '\\' => some 92
  | _ => none

/-- The byte that an escape stands for, after its backslash, and what follows. A backslash that
escapes nothing stands for itself. -/
def escape (cs : List Char) : ByteArray × List Char :=
  match cs with
  | [] => (byte 92, [])
  | c :: rest =>
    match simpleEscape? c with
    | some n => (byte n, rest)
    | none =>
      let digits := (cs.take 3).takeWhile isOctal
      if digits.isEmpty then (byte 92, cs)
      else (byte (Arithmetic.digits 8 0 digits).1, cs.drop digits.length)

/-- A text whose escapes are replaced, and whether it ends the output. -/
def unescaped : Nat → ByteArray → List Char → ByteArray × Bool
  | 0, acc, _ => (acc, false)
  | _ + 1, acc, [] => (acc, false)
  | _ + 1, acc, '\\' :: 'c' :: _ => (acc, true)
  | fuel + 1, acc, '\\' :: cs =>
    let cs := match cs with
      | '0' :: d :: rest => if isOctal d then d :: rest else cs
      | cs => cs
    let (b, rest) := escape cs
    unescaped fuel (acc ++ b) rest
  | fuel + 1, acc, c :: cs => unescaped fuel (acc ++ ofChars [c]) cs

def echoWords (newline : Bool) (acc : ByteArray) : List String → ByteArray
  | [] => if newline then acc ++ byte 10 else acc
  | a :: rest =>
    let (bytes, ended) := unescaped (a.length + 1) acc a.toList
    if ended then bytes
    else
      match rest with
      | [] => if newline then bytes ++ byte 10 else bytes
      | rest => echoWords newline (bytes ++ byte 32) rest

/-- What is printed for words. -/
def echo (args : List String) : ByteArray :=
  match args with
  | "-n" :: rest => echoWords false .empty rest
  | args => echoWords true .empty args

structure Directive where
  left : Bool := false
  plus : Bool := false
  blank : Bool := false
  zero : Bool := false
  alternate : Bool := false
  width : Nat := 0
  precision : Option Nat := none

def Directive.withFlag (d : Directive) (c : Char) : Directive :=
  match c with
  | '-' => { d with left := true }
  | '+' => { d with plus := true }
  | ' ' => { d with blank := true }
  | '0' => { d with zero := true }
  | _ => { d with alternate := true }

def isFlag (c : Char) : Bool := ['#', '-', '+', ' ', '0'].contains c

def pad (d : Directive) (bytes : ByteArray) : ByteArray :=
  let blanks := ofChars (List.replicate (d.width - bytes.size) ' ')
  if d.left then bytes ++ blanks else blanks ++ bytes

/-- A number with its sign; zeros up to the width stand behind the sign. -/
def signed (d : Directive) (sign digits : String) : ByteArray :=
  let zeros := if d.zero && !d.left then d.width - sign.length - digits.length else 0
  pad d (sign ++ Shortest.zeros zeros ++ digits).toUTF8

def signOf (d : Directive) (negative : Bool) : String :=
  if negative then "-" else if d.plus then "+" else if d.blank then " " else ""

/-- At least so many digits; none for zero if none are asked for. -/
def digitsOf (d : Directive) (base : Nat) (n : Nat) : String :=
  if n = 0 ∧ d.precision = some 0 then ""
  else
    let digits := String.ofList (Nat.toDigits base n)
    Shortest.zeros (d.precision.getD 0 - digits.length) ++ digits

def plainZeros (d : Directive) : Directive := if d.precision.isSome then { d with zero := false } else d

def integer (d : Directive) (n : Int) : ByteArray :=
  signed (plainZeros d) (signOf d (n < 0)) (digitsOf d 10 n.natAbs)

def unsigned (d : Directive) (kind : Char) (n : Nat) : ByteArray :=
  let d := plainZeros d
  match kind with
  | 'o' =>
    let digits := digitsOf d 8 n
    signed d "" (if d.alternate && !digits.startsWith "0" then "0" ++ digits else digits)
  | 'x' => signed d (if d.alternate && n != 0 then "0x" else "") (digitsOf d 16 n)
  | 'X' => signed d (if d.alternate && n != 0 then "0X" else "") ((digitsOf d 16 n).map Char.toUpper)
  | _ => signed d "" (digitsOf d 10 n)

def fraction (d : Directive) (kind : Char) (x : Float) : ByteArray :=
  match Binary64.ofFloat? x with
  | none => signed { d with zero := false } (signOf d (x < 0)) (if x.isNaN then "nan" else "inf")
  | some y =>
    let render := match kind.toLower with
      | 'e' => Rounded.scientific
      | 'f' => Rounded.fixed
      | _ => Rounded.general
    let text := render d.alternate (d.precision.getD 6) y
    signed d (signOf d y.negative) (if kind.isUpper then text.map Char.toUpper else text)

/-- What printing has come to: bytes, messages, the arguments left and whether all went well. -/
structure Printing where
  bytes : ByteArray := .empty
  messages : List String := []
  args : List String
  status : Nat := 0
  ended : Bool := false

namespace Printing

def add (p : Printing) (bytes : ByteArray) : Printing := { p with bytes := p.bytes ++ bytes }

def warn (p : Printing) (message : String) : Printing :=
  { p with messages := p.messages ++ [message], status := 1 }

/-- Printing ends with a failure. -/
def failed (p : Printing) (message : String) : Printing :=
  { p with messages := p.messages ++ [message], status := 2, ended := true }

def next (p : Printing) : Option String × Printing := (p.args.head?, { p with args := p.args.tail })

/-- Tell that a text is not all of a number. `read` says that a part of it is. -/
def check (p : Printing) (s : String) (read whole inRange : Bool) : Printing :=
  if !whole then
    p.warn (s ++ (if read then ": not completely converted" else ": expected numeric value"))
  else if inRange then p
  else p.warn (s ++ ": Numerical result out of range")

/-- The next argument as an integer between limits. A quote stands for the code of what follows. -/
def nextInteger (p : Printing) (low high : Int) : Int × Printing :=
  match p.next with
  | (none, p) => (0, p)
  | (some s, p) =>
    match s.toList with
    | [] => (0, p)
    | c :: rest =>
      if c = '"' ∨ c = '\'' then
        ((((String.ofList rest).toUTF8.data[0]?).map (·.toNat)).getD 0, p)
      else
        let (negative, body) := Decimal.takeSign (s.toList.dropWhile Arithmetic.isBlank)
        let (n, rest) := Arithmetic.natural body
        let value : Int := if negative then -n else n
        let inRange := low ≤ value ∧ value ≤ high
        let p := p.check s (rest.length < body.length) rest.isEmpty inRange
        (if rest.length = body.length then 0 else max low (min high value), p)

/-- The longest part at the front of a text that is a number. -/
def frontNumber (cs : List Char) : Option (Float × List Char) :=
  ((List.range cs.length).reverse.map (· + 1)).findSome? fun n =>
    match cs.take n |>.getLast? with
    | some c =>
      if c.isAlphanum || c == '.' then
        (Double.read? (String.ofList (cs.take n))).map (·, cs.drop n)
      else none
    | none => none

def nextFraction (p : Printing) : Float × Printing :=
  match p.next with
  | (none, p) => (0.0, p)
  | (some s, p) =>
    match s.toList with
    | [] => (0.0, p)
    | c :: rest =>
      if c = '"' ∨ c = '\'' then
        (Double.ofInt ((((String.ofList rest).toUTF8.data[0]?).map (·.toNat)).getD 0), p)
      else
        match frontNumber (s.toList.dropWhile Arithmetic.isBlank) with
        | some (x, rest) => (x, p.check s true rest.isEmpty true)
        | none => (0.0, p.check s false false true)

/-- A width or precision, which an argument may give. -/
def count (p : Printing) (cs : List Char) : Int × List Char × Printing :=
  match cs with
  | '*' :: rest =>
    let (n, p) := p.nextInteger Arithmetic.minimum Arithmetic.maximum
    (n, rest, p)
  | cs =>
    let (digits, rest) := Decimal.spanDigits cs
    (Decimal.natOf digits, rest, p)

/-- Put one argument in its place. -/
def convert (p : Printing) (d : Directive) (kind : Char) (source : List Char) : Printing :=
  if kind = 's' then
    let (s, p) := p.next
    let bytes := (s.getD "").toUTF8
    p.add (pad d (bytes.extract 0 (d.precision.getD bytes.size)))
  else if kind = 'b' then
    let (s, p) := p.next
    let (bytes, ended) := unescaped ((s.getD "").length + 1) .empty (s.getD "").toList
    { p.add (pad d (bytes.extract 0 (d.precision.getD bytes.size))) with ended }
  else if kind = 'c' then
    let (s, p) := p.next
    let bytes := (s.getD "").toUTF8
    p.add (pad d (if bytes.isEmpty then byte 0 else bytes.extract 0 1))
  else if kind = 'd' ∨ kind = 'i' then
    let (n, p) := p.nextInteger Arithmetic.minimum Arithmetic.maximum
    p.add (integer d n)
  else if ['o', 'u', 'x', 'X'].contains kind then
    let (n, p) := p.nextInteger (-18446744073709551615) 18446744073709551615
    p.add (unsigned d kind (n.emod 18446744073709551616).toNat)
  else if ['e', 'E', 'f', 'F', 'g', 'G'].contains kind then
    let (x, p) := p.nextFraction
    p.add (fraction d kind x)
  else p.failed ("%" ++ String.ofList source ++ ": invalid directive")

/-- One directive after its sign. -/
def directive (p : Printing) (cs : List Char) : List Char × Printing :=
  let d := (cs.takeWhile isFlag).foldl Directive.withFlag {}
  let (width, rest, p) := p.count (cs.dropWhile isFlag)
  let d := { d with width := width.natAbs, left := d.left || width < 0 }
  let (d, rest, p) := match rest with
    | '.' :: rest =>
      let (n, rest, p) := p.count rest
      ({ d with precision := if n < 0 then none else some n.toNat }, rest, p)
    | rest => (d, rest, p)
  match rest with
  | [] => ([], p.failed "missing format character")
  | kind :: rest => (rest, p.convert d kind (cs.take (cs.length - rest.length)))

/-- A format once through. -/
def once : Nat → Printing → List Char → Printing
  | 0, p, _ => p
  | _ + 1, p, [] => p
  | fuel + 1, p, '\\' :: cs =>
    let (b, rest) := escape cs
    once fuel (p.add b) rest
  | fuel + 1, p, '%' :: '%' :: cs => once fuel (p.add (byte 37)) cs
  | fuel + 1, p, '%' :: cs =>
    let (rest, p) := p.directive cs
    if p.ended then p else once fuel p rest
  | fuel + 1, p, c :: cs => once fuel (p.add (ofChars [c])) cs

/-- A format as often as there are arguments for it. -/
def all : Nat → Printing → List Char → Printing
  | 0, p, _ => p
  | fuel + 1, p, f =>
    let after := once (f.length + 1) p f
    if after.ended || after.args.isEmpty || after.args.length == p.args.length then after
    else all fuel after f

end Printing

/-- Print arguments under a format. -/
def printf (f : String) (args : List String) : Printing :=
  Printing.all (args.length + 1) { args } f.toList

end Format
end Script
end Stencil
