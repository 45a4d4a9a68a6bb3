import Stencil.Number.Binary64
import Stencil.Text.Blank

/-! Decimal notation: an optional sign, digits with an optional point, an optional exponent. -/
namespace Stencil
namespace Decimal

open Text

/-- The decimal digits at the front, and what follows. -/
def spanDigits (cs : List Char) : List Char × List Char :=
  (cs.takeWhile asciiDigit, cs.dropWhile asciiDigit)

def natOf (digits : List Char) : Nat := digits.foldl (fun n c => 10 * n + digitValue c) 0

/-- A sign, and what follows. -/
def takeSign : List Char → Bool × List Char
  | '-' :: cs => (true, cs)
  | '+' :: cs => (false, cs)
  | cs => (false, cs)

/-- An exponent that ends the text. -/
def exponent? : List Char → Option Int
  | [] => some 0
  | c :: cs =>
    if c = 'e' ∨ c = 'E' then
      let (negative, cs) := takeSign cs
      let (digits, rest) := spanDigits cs
      if digits.isEmpty ∨ !rest.isEmpty then none
      else some (if negative then -(natOf digits : Int) else natOf digits)
    else none

/-- What a text of digits, point and exponent denotes: `digits · 10 ^ power`. -/
def unsigned? (cs : List Char) : Option (Nat × Int) :=
  let (whole, rest) := spanDigits cs
  let (fraction, rest) := match rest with
    | '.' :: rest => spanDigits rest
    | rest => ([], rest)
  if whole.isEmpty ∧ fraction.isEmpty then none
  else (exponent? rest).map fun e => (natOf (whole ++ fraction), e - fraction.length)

/-- What a text may say in place of a number. -/
inductive Reading where
  | finite (x : Binary64)
  | notFinite
  deriving DecidableEq, Repr

def lower (c : Char) : Char := if 'A' ≤ c ∧ c ≤ 'Z' then Char.ofNat (c.toNat + 32) else c

/-- Infinity and not-a-number may be spelt out in any case. -/
def spelledOut (cs : List Char) : Bool :=
  let word := String.ofList (cs.map lower)
  word == "inf" || word == "infinity" || word == "nan"

/-- The number nearest to what the text says. A number past the range is not finite. -/
def read? (s : String) : Option Reading :=
  let (negative, cs) := takeSign s.toList
  if spelledOut cs then some .notFinite
  else (unsigned? cs).map fun (digits, power) =>
    match Binary64.ofDecimal negative digits power with
    | some x => .finite x
    | none => .notFinite

end Decimal
end Stencil
