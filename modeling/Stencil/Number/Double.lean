import Stencil.Number.Decimal
import Stencil.Number.Shortest

/-! Binary64 numbers with infinities and not-a-number, as engines calculate with them. -/
namespace Stencil
namespace Double

/-- Not-a-number and the infinities by name, other numbers as the layout says. -/
def render (layout : Shortest.Layout) (x : Float) : String :=
  match Binary64.ofFloat? x with
  | some y => Shortest.render layout y
  | none => if x.isNaN then "NaN" else if x < 0 then "-inf" else "inf"

def ofInt (n : Int) : Float := ((Binary64.ofInt n).map Binary64.toFloat).getD (0.0 / 0.0)

/-- The integer that the number is, if it is one. -/
def toInt? (x : Float) : Option Int :=
  match Binary64.ofFloat? x with
  | some y => if y.isIntegral then some y.roundToEven else none
  | none => none

/-- The value as a quotient of integers. -/
def ratio (y : Binary64) : Int × Nat :=
  let m : Int := if y.negative then -(y.mantissa : Int) else y.mantissa
  if 0 ≤ y.exponent then (m * twoTo y.exponent.toNat, 1) else (m, twoTo (-y.exponent).toNat)

/-- The integer nearest to zero from the number, `0` if it is none. -/
def truncate (x : Float) : Int :=
  match Binary64.ofFloat? x with
  | some y => let (n, d) := ratio y; Int.tdiv n d
  | none => 0

def nan : Float := 0.0 / 0.0

def infinity (negative : Bool) : Float := if negative then -1.0 / 0.0 else 1.0 / 0.0

/-- The distance of one from the next larger number. -/
def epsilon : Float := (Binary64.mk false 4503599627370496 (-104)).toFloat

/-- The integer nearest to zero from the number, within bounds; `0` for what is no number. -/
def saturate (low high : Int) (x : Float) : Int :=
  match Binary64.ofFloat? x with
  | some y => let (n, d) := ratio y; max low (min (Int.tdiv n d) high)
  | none => if x.isNaN then 0 else if x < 0 then low else high

/-- The number that a text writes: one too large is infinite, and infinity and not-a-number may be
spelt out. -/
def read? (s : String) : Option Float :=
  let (negative, cs) := Decimal.takeSign s.toList
  match Decimal.read? s with
  | some (.finite x) => some x.toFloat
  | some .notFinite =>
    if (cs.map Decimal.lower).head? = some 'n' then some nan else some (infinity negative)
  | none => none

/-- The remainder of a division, computed exactly. Its sign is that of the first number or, if
`euclidean`, never negative. -/
def remainder (euclidean : Bool) (x y : Float) : Float :=
  match Binary64.ofFloat? x, Binary64.ofFloat? y with
  | some a, some b =>
    if b.mantissa = 0 then nan
    else
      let (n, d) := ratio a
      let (m, e) := ratio b
      let top := n * e
      let bottom := m * d
      let r := if euclidean then top % bottom else Int.tmod top bottom
      if r = 0 then (if a.negative && !euclidean then -0.0 else 0.0)
      else
        match Binary64.ofRatio (r < 0) r.natAbs (d * e) with
        | some z => z.toFloat
        | none => nan
  | some _, none => if y.isNaN then nan else x
  | _, _ => nan

/-- The quotient that goes with the remainder that is never negative. -/
def euclideanQuotient (x y : Float) : Float :=
  let q := x / y
  let whole := if q < 0 then q.ceil else q.floor
  if remainder false x y < 0 then (if 0 < y then whole - 1 else whole + 1) else whole

end Double
end Stencil
