import Stencil.Number.Binary64

/-! The fewest decimal digits that read back as the same number, and the two layouts in which
such digits are written. -/
namespace Stencil
namespace Shortest

/-- The value `digits · 10 ^ power`. -/
structure Decimal where
  digits : Nat
  power : Int
  deriving DecidableEq, Repr

/-- Compare `a · 2 ^ e` with `d · 10 ^ p`, exactly. -/
def compareScaled (a : Nat) (e : Int) (d : Nat) (p : Int) : Ordering :=
  let left := a * twoTo e.toNat * tenTo (-p).toNat
  let right := d * tenTo p.toNat * twoTo (-e).toNat
  compare left right

/-- Whether the decimal rounds to `m · 2 ^ e`. Bounds are in quarters of the last place: below a
power of two the lower gap is half as wide. The ends belong to an even mantissa. -/
def readsBack (m : Nat) (e : Int) (d : Decimal) : Bool :=
  let narrow := m = twoTo 52 ∧ Binary64.minExponent < e
  let low := 4 * m - (if narrow then 1 else 2)
  let high := 4 * m + 2
  let closed := m % 2 == 0
  let atLow := compareScaled low (e - 2) d.digits d.power
  let atHigh := compareScaled high (e - 2) d.digits d.power
  (atLow == .lt || (closed && atLow == .eq)) && (atHigh == .gt || (closed && atHigh == .eq))

/-- The largest multiple of `10 ^ p` that is not above `m · 2 ^ e`. -/
def floorOn (m : Nat) (e p : Int) : Nat :=
  let num := (m : Int).toNat * twoTo e.toNat * tenTo (-p).toNat
  let den := twoTo (-e).toNat * tenTo p.toNat
  num / den

/-- The two neighbours of the value on the grid of multiples of `10 ^ p` that read back, the
nearer first; a tie goes to the even digit. -/
def onGrid (m : Nat) (e p : Int) : Option Decimal :=
  let d := floorOn m e p
  let lower : Decimal := ⟨d, p⟩
  let upper : Decimal := ⟨d + 1, p⟩
  match readsBack m e lower && d != 0, readsBack m e upper with
  | false, false => none
  | true, false => some lower
  | false, true => some upper
  | true, true =>
    match compareScaled (2 * m) e (2 * d + 1) p with
    | .lt => some lower
    | .gt => some upper
    | .eq => some (if d % 2 = 0 then lower else upper)

/-- Try coarse grids first. -/
def search (m : Nat) (e : Int) : Nat → Int → Decimal
  | 0, p => ⟨floorOn m e p, p⟩
  | fuel + 1, p =>
    match onGrid m e p with
    | some d => d
    | none => search m e fuel (p - 1)

/-- Digits without trailing zeros. -/
def strip : Nat → Decimal → Decimal
  | 0, d => d
  | fuel + 1, d =>
    if d.digits ≠ 0 ∧ d.digits % 10 = 0 then strip fuel ⟨d.digits / 10, d.power + 1⟩ else d

/-- The fewest digits that read back, and of those the nearest to the value. -/
def decimal (x : Binary64) : Decimal :=
  if x.mantissa = 0 then ⟨0, 0⟩
  else
    let top : Int := ((Nat.log2 x.mantissa : Int) + x.exponent + 1) * 30103 / 100000 + 1
    strip 20 (search x.mantissa x.exponent 20 top)

/-- How a number is laid out: between the two decimal exponents it is written positionally. -/
structure Layout where
  least : Int
  greatest : Int
  /-- An integral number ends in `.0` -/
  markIntegral : Bool
  /-- A positive exponent has a sign -/
  signedExponent : Bool

/-- The layout of numbers in documents. -/
def Layout.document : Layout := ⟨-5, 15, true, true⟩

/-- The layout of numbers inside other values that are shown. -/
def Layout.nested : Layout := ⟨-4, 15, true, false⟩

/-- The layout that never uses an exponent. -/
def Layout.positional (markIntegral : Bool) : Layout := ⟨-400, 400, markIntegral, true⟩

def zeros (n : Nat) : String := String.ofList (List.replicate n '0')

/-- The digits with the point in its place. -/
def placePoint (markIntegral : Bool) (digits : String) (power : Int) : String :=
  let count : Int := digits.length
  let point := count + power
  if 0 ≤ power then digits ++ zeros power.toNat ++ (if markIntegral then ".0" else "")
  else if 0 < point then
    String.ofList (digits.toList.take point.toNat) ++ "." ++
      String.ofList (digits.toList.drop point.toNat)
  else "0." ++ zeros (-point).toNat ++ digits

/-- One digit, the others after a point, and the exponent with its sign. -/
def withExponent (signed : Bool) (digits : String) (exponent : Int) : String :=
  let mantissa := match digits.toList with
    | [] => "0"
    | [c] => String.ofList [c]
    | c :: cs => String.ofList (c :: '.' :: cs)
  mantissa ++ "e" ++ (if exponent < 0 then "-" else if signed then "+" else "") ++ toString exponent.natAbs

def render (layout : Layout) (x : Binary64) : String :=
  let d := decimal x
  let digits := toString d.digits
  let exponent := d.power + digits.length - 1
  let sign := if x.negative then "-" else ""
  if layout.least ≤ exponent ∧ exponent ≤ layout.greatest then
    sign ++ placePoint layout.markIntegral digits d.power
  else sign ++ withExponent layout.signedExponent digits exponent

end Shortest
end Stencil
