import Stencil.Number.Shortest

/-! Numbers rounded to a count of decimal places or of digits. The sign stands apart. -/
namespace Stencil
namespace Rounded

/-- The integer nearest to the value times `10 ^ power`, ties to even. -/
def scaled (x : Binary64) (power : Int) : Nat :=
  let (num, den) := x.magnitude
  Binary64.divideToEven (num * tenTo power.toNat) (den * tenTo (-power).toNat)

/-- At least so many digits. -/
def padded (width n : Nat) : String :=
  let digits := toString n
  Shortest.zeros (width - digits.length) ++ digits

/-- So many digits after the point; without any, the point may be left out. -/
def fixed (point : Bool) (places : Nat) (x : Binary64) : String :=
  let n := scaled x places
  let whole := toString (n / tenTo places)
  if places = 0 then whole ++ (if point then "." else "")
  else whole ++ "." ++ padded places (n % tenTo places)

/-- The value as `digits · 10 ^ (exponent - places)` with one digit before the places. -/
def leading (places : Nat) (x : Binary64) : Nat × Int :=
  if x.mantissa = 0 then (0, 0)
  else
    let d := Shortest.decimal x
    let top : Int := d.power + (toString d.digits).length - 1
    let below := Shortest.compareScaled x.mantissa x.exponent 1 top == .lt
    let exponent := if below then top - 1 else top
    let n := scaled x (places - exponent)
    if n < tenTo (places + 1) then (n, exponent) else (n / 10, exponent + 1)

def exponentText (exponent : Int) : String :=
  "e" ++ (if exponent < 0 then "-" else "+") ++ padded 2 exponent.natAbs

/-- One digit before the point, so many after it, and the exponent. -/
def scientific (point : Bool) (places : Nat) (x : Binary64) : String :=
  let (n, exponent) := leading places x
  let lead := toString (n / tenTo places)
  let fraction := if places = 0 then (if point then "." else "")
    else "." ++ padded places (n % tenTo places)
  lead ++ fraction ++ exponentText exponent

/-- A fraction without the zeros at its end. -/
def trimmed (s : String) : String :=
  if s.contains '.' then
    let reversed := (s.toList.reverse).dropWhile (· = '0')
    String.ofList ((match reversed with
      | '.' :: rest => rest
      | cs => cs).reverse)
  else s

/-- So many digits in all, with an exponent only if the value is very large or small. -/
def general (point : Bool) (digits : Nat) (x : Binary64) : String :=
  let digits := max digits 1
  let (n, exponent) := leading (digits - 1) x
  if -4 ≤ exponent ∧ exponent < digits then
    let text := fixed point ((digits : Int) - 1 - exponent).toNat x
    if point then text else trimmed text
  else
    let lead := toString (n / tenTo (digits - 1))
    let text := if digits = 1 then lead ++ (if point then "." else "")
      else lead ++ "." ++ padded (digits - 1) (n % tenTo (digits - 1))
    (if point then text else trimmed text) ++ exponentText exponent

end Rounded
end Stencil
