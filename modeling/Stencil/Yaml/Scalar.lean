import Stencil.Json.Value
import Stencil.Number.Decimal

/-! What the text of a scalar means. -/
namespace Stencil
namespace Yaml
namespace Scalar

open Text

def isNull (s : String) : Bool := ["null", "Null", "NULL", "~"].contains s

def flag? (s : String) : Option Bool :=
  if ["true", "True", "TRUE"].contains s then some true
  else if ["false", "False", "FALSE"].contains s then some false
  else none

/-- The number that digits write in a base of at most sixteen. -/
def digits? (base : Nat) (cs : List Char) : Option Nat :=
  if cs.isEmpty then none
  else cs.foldl
    (fun acc c => do
      let n ← acc
      let d ← hexValue? c
      if d < base then some (base * n + d) else none) (some 0)

/-- Digits that begin with an idle zero are no number. -/
def isPadded : List Char → Bool
  | '0' :: c :: cs => (c :: cs).all asciiDigit
  | _ => false

def magnitude? : List Char → Option Nat
  | '0' :: 'x' :: cs => digits? 16 cs
  | '0' :: 'o' :: cs => digits? 8 cs
  | '0' :: 'b' :: cs => digits? 2 cs
  | cs => if isPadded cs then none else digits? 10 cs

def integer? (s : String) : Option Int :=
  let (negative, cs) := Decimal.takeSign s.toList
  (magnitude? cs).map fun n => if negative then -(n : Int) else n

/-- Whether an integer has a place among the numbers of a document. -/
def fits (n : Int) : Bool := Number.least ≤ n && n ≤ Number.greatest

/-- Whether 128 bits hold an integer, signed if it is negative. -/
def fitsTwice (n : Int) : Bool := -(twoTo 127 : Int) ≤ n && n < twoTo 128

def isSpecial (s : String) : Bool :=
  [".inf", ".Inf", ".INF", "+.inf", "+.Inf", "+.INF", "-.inf", "-.Inf", "-.INF",
    ".nan", ".NaN", ".NAN"].contains s

/-- A floating-point number. Those that are not finite have no other value than null. -/
def float? (s : String) : Option Json :=
  if isSpecial s then some .null
  else
    match Decimal.read? s with
    | some (.finite x) => some (.number (.float x))
    | _ => none

/-- The value of a scalar that is neither quoted nor tagged. An integer that only 128 bits hold is
refused. -/
def plain? (s : String) : Option Json :=
  if s = "" || isNull s then some .null
  else
    match flag? s, integer? s with
    | some b, _ => some (.bool b)
    | none, some n =>
      if fits n then some (.int n)
      else if fitsTwice n then none
      else some ((float? s).getD (.string s))
    | none, none =>
      if isPadded (Decimal.takeSign s.toList).2 then some (.string s)
      else some ((float? s).getD (.string s))

/-- The value under a tag that does not stay with it. Some tags demand a form of the text. -/
def converted? (tag s : String) : Option Json :=
  if tag = "tag:yaml.org,2002:bool" then (flag? s).map .bool
  else if tag = "tag:yaml.org,2002:int" then
    (integer? s).bind fun n => if fits n then some (.int n) else none
  else if tag = "tag:yaml.org,2002:float" then float? s
  else if tag = "tag:yaml.org,2002:null" then (if isNull s then some .null else none)
  else some (.string s)

end Scalar
end Yaml
end Stencil
