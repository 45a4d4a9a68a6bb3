import Stencil.Json.Value
import Stencil.Number.Decimal

/-! Reading the text of a value. -/
namespace Stencil
namespace Json
namespace Reader

open Text

def skip (cs : List Char) : List Char :=
  cs.dropWhile fun c => c == ' ' || c == '\t' || c == '\n' || c == '\r'

/-- The code unit after `\u`. -/
def unit? : List Char → Option (Nat × List Char)
  | a :: b :: c :: d :: rest => (hexNumber? [a, b, c, d]).map (·, rest)
  | _ => none

/-- A surrogate must be the first of a pair. -/
def unicodeEscape? (cs : List Char) : Option (Char × List Char) := do
  let (high, rest) ← unit? cs
  if 0xD800 ≤ high ∧ high < 0xDC00 then
    match rest with
    | '\\' :: 'u' :: rest =>
      let (low, rest) ← unit? rest
      if 0xDC00 ≤ low ∧ low < 0xE000 then
        let c ← scalar? (0x10000 + (high - 0xD800) * 0x400 + (low - 0xDC00))
        some (c, rest)
      else none
    | _ => none
  else
    let c ← scalar? high
    some (c, rest)

def escape? : List Char → Option (Char × List Char)
  | '"' :: rest => some ('"', rest)
  | '\\' :: rest => some ('\\', rest)
  | '/' :: rest => some ('/', rest)
  | 'b' :: rest => some ('\x08', rest)
  | 'f' :: rest => some ('\x0c', rest)
  | 'n' :: rest => some ('\n', rest)
  | 'r' :: rest => some ('\r', rest)
  | 't' :: rest => some ('\t', rest)
  | 'u' :: rest => unicodeEscape? rest
  | _ => none

/-- A text up to its closing quote. `acc` is what was read, reversed. -/
def text? : Nat → List Char → List Char → Option (String × List Char)
  | 0, _, _ => none
  | _ + 1, _, [] => none
  | fuel + 1, acc, c :: cs =>
    if c = '"' then some (String.ofList acc.reverse, cs)
    else if c = '\\' then
      match escape? cs with
      | some (d, rest) => text? fuel (d :: acc) rest
      | none => none
    else if c.toNat < 0x20 then none
    else text? fuel (c :: acc) cs

/-- Digits gathered while they fit into 64 bits: the number they write and how many were taken. -/
def gather (n : Nat) : List Char → Nat × Nat
  | [] => (n, 0)
  | c :: cs =>
    let next := 10 * n + digitValue c
    if Number.greatest < next then (n, 0)
    else
      let (m, taken) := gather next cs
      (m, taken + 1)

/-- Scale by a power of ten with one rounded operation, or, for very small numbers, two. -/
def scale (negative : Bool) (significand : Nat) (power : Int) : Option Binary64 := do
  let x ← Binary64.ofRatio negative significand 1
  if 308 < power then (if significand = 0 then some x else none)
  else if 0 ≤ power then x.mul (← Binary64.ofDecimal false 1 power)
  else if -308 ≤ power then x.div (← Binary64.ofDecimal false 1 (-power))
  else
    let y ← x.div (← Binary64.ofDecimal false 1 308)
    let rest := -power - 308
    if 308 < rest then some (Binary64.zero negative)
    else y.div (← Binary64.ofDecimal false 1 rest)

/-- An exponent, if there is one. -/
def exponent? : List Char → Option (Option Int × List Char)
  | c :: cs =>
    if c = 'e' ∨ c = 'E' then
      let (negative, cs) := Decimal.takeSign cs
      let (digits, rest) := Decimal.spanDigits cs
      if digits.isEmpty then none
      else
        let n := Decimal.natOf digits
        some (some (if negative then -(n : Int) else n), rest)
    else some (none, c :: cs)
  | [] => some (none, [])

/-- The digits after the point, if there is one; a point needs a digit. -/
def fraction? : List Char → Option (Option (List Char) × List Char)
  | '.' :: cs =>
    let (digits, rest) := Decimal.spanDigits cs
    if digits.isEmpty then none else some (some digits, rest)
  | cs => some (none, cs)

/-- Leading zeros are refused. A number without point and exponent is an integer while it fits;
minus zero is a float. Digits that do not fit into 64 bits count only by their place. -/
def number? (cs : List Char) : Option (Number × List Char) := do
  let (negative, cs) := match cs with
    | '-' :: cs => (true, cs)
    | cs => (false, cs)
  let (whole, rest) := Decimal.spanDigits cs
  if whole.isEmpty ∨ (whole.head? = some '0' ∧ 1 < whole.length) then none
  else
    let (fraction, rest) ← fraction? rest
    let (power, rest) ← exponent? rest
    let (n, taken) := gather 0 whole
    let dropped := whole.length - taken
    match fraction, power with
    | none, none =>
      if dropped = 0 then
        if !negative then some (.int n, rest)
        else if 0 < n ∧ Number.least ≤ -(n : Int) then some (.int (-(n : Int)), rest)
        else (Binary64.ofRatio true n 1).map (.float ·, rest)
      else (scale negative n dropped).map (.float ·, rest)
    | fraction, power =>
      let digits := fraction.getD []
      let (n, after) := if dropped = 0 then gather n digits else (n, 0)
      let place : Int := (dropped : Int) - after
      (scale negative n (place + power.getD 0)).map (.float ·, rest)

mutual

/-- A value at most `depth` levels deep. -/
def value? : Nat → Nat → List Char → Option (Json × List Char)
  | 0, _, _ => none
  | fuel + 1, depth, cs =>
    match skip cs with
    | 'n' :: 'u' :: 'l' :: 'l' :: rest => some (.null, rest)
    | 't' :: 'r' :: 'u' :: 'e' :: rest => some (.bool true, rest)
    | 'f' :: 'a' :: 'l' :: 's' :: 'e' :: rest => some (.bool false, rest)
    | '"' :: rest => (text? (rest.length + 1) [] rest).map fun (s, rest) => (.string s, rest)
    | '[' :: rest =>
      match depth with
      | 0 => none
      | depth + 1 =>
        match skip rest with
        | ']' :: rest => some (.array [], rest)
        | _ => (items? fuel depth [] rest).map fun (vs, rest) => (.array vs, rest)
    | '\x7b' :: rest =>
      match depth with
      | 0 => none
      | depth + 1 =>
        match skip rest with
        | '\x7d' :: rest => some (.object [], rest)
        | _ => (fields? fuel depth [] rest).map fun (es, rest) => (.object es, rest)
    | cs => (number? cs).map fun (n, rest) => (.number n, rest)

def items? : Nat → Nat → List Json → List Char → Option (List Json × List Char)
  | 0, _, _, _ => none
  | fuel + 1, depth, acc, cs =>
    match value? fuel depth cs with
    | none => none
    | some (v, rest) =>
      match skip rest with
      | ',' :: rest => items? fuel depth (v :: acc) rest
      | ']' :: rest => some ((v :: acc).reverse, rest)
      | _ => none

def fields? : Nat → Nat → List (String × Json) → List Char → Option (List (String × Json) × List Char)
  | 0, _, _, _ => none
  | fuel + 1, depth, acc, cs =>
    match skip cs with
    | '"' :: rest =>
      match text? (rest.length + 1) [] rest with
      | none => none
      | some (key, rest) =>
        match skip rest with
        | ':' :: rest =>
          match value? fuel depth rest with
          | none => none
          | some (v, rest) =>
            match skip rest with
            | ',' :: rest => fields? fuel depth ((key, v) :: acc) rest
            | '\x7d' :: rest => some (((key, v) :: acc).reverse, rest)
            | _ => none
        | _ => none
    | _ => none

end

end Reader

/-- Arrays and objects nest at most this deep. -/
def maxDepth : Nat := 127

/-- The value written in the text, repeated keys and all. -/
def readRaw? (s : String) : Option Json :=
  let cs := s.toList
  match Reader.value? (2 * cs.length + 2) maxDepth cs with
  | some (v, rest) => if (Reader.skip rest).isEmpty then some v else none
  | none => none

/-- The value written in the text. -/
def read? (s : String) : Option Json := (readRaw? s).map fold

end Json
end Stencil
