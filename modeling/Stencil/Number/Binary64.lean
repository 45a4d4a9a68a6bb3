import Stencil.Number.Power

/-! Finite binary floating-point numbers with 53 bits of precision, as exact dyadic rationals. -/
namespace Stencil

/-- The number `± mantissa · 2 ^ exponent`. -/
structure Binary64 where
  negative : Bool
  mantissa : Nat
  exponent : Int
  deriving DecidableEq, Repr, Inhabited

namespace Binary64

def precision : Nat := 53

def minExponent : Int := -1074

def maxExponent : Int := 971

/-- The one form each number is held in: all 53 bits used, or the least exponent. -/
def Canonical (x : Binary64) : Prop :=
  x.mantissa < twoTo 53 ∧ minExponent ≤ x.exponent ∧ x.exponent ≤ maxExponent ∧
    (twoTo 52 ≤ x.mantissa ∨ x.exponent = minExponent)

instance (x : Binary64) : Decidable x.Canonical := by
  unfold Canonical; infer_instance

def zero (negative : Bool) : Binary64 := ⟨negative, 0, minExponent⟩

def isZero (x : Binary64) : Bool := x.mantissa == 0

/-- The integer nearest to `num / den`; a half goes to the even neighbour. -/
def divideToEven (num den : Nat) : Nat :=
  let q := num / den
  let r := num % den
  if 2 * r < den then q else if 2 * r = den then (if q % 2 = 0 then q else q + 1) else q + 1

/-- `num / den / 2 ^ e`, rounded to an integer. -/
def mantissaAt (num den : Nat) (e : Int) : Nat :=
  if 0 ≤ e then divideToEven num (den * twoTo e.toNat) else divideToEven (num * twoTo (-e).toNat) den

/-- The exponent whose unit is the last place of `num / den`. -/
def exponentFor (num den : Nat) : Int :=
  let guess : Int := (Nat.log2 num : Int) - (Nat.log2 den : Int) - 53
  let floor := if 0 ≤ guess then num / (den * twoTo guess.toNat) else num * twoTo (-guess).toNat / den
  max minExponent (if floor < twoTo 53 then guess else guess + 1)

/-- The number nearest to `± num / den`, ties to an even mantissa; `none` past the largest. -/
def ofRatio (negative : Bool) (num den : Nat) : Option Binary64 :=
  if num = 0 then some (zero negative)
  else
    let e := exponentFor num den
    let m := mantissaAt num den e
    let x : Binary64 := if m = twoTo 53 then ⟨negative, twoTo 52, e + 1⟩ else ⟨negative, m, e⟩
    if x.exponent ≤ maxExponent then some x else none

def ofInt (n : Int) : Option Binary64 := ofRatio (n < 0) n.natAbs 1

/-- The number nearest to `± digits · 10 ^ power`. Far outside the range the answer is known
without the power of ten. -/
def ofDecimal (negative : Bool) (digits : Nat) (power : Int) : Option Binary64 :=
  if digits = 0 then some (zero negative)
  else
    let size : Int := (Nat.log2 digits : Int) / 3 + 1
    if power > 400 then none
    else if power + size < -400 then some (zero negative)
    else if 0 ≤ power then ofRatio negative (digits * tenTo power.toNat) 1
    else ofRatio negative digits (tenTo (-power).toNat)

/-- The value as a ratio of naturals, sign apart. -/
def magnitude (x : Binary64) : Nat × Nat :=
  if 0 ≤ x.exponent then (x.mantissa * twoTo x.exponent.toNat, 1)
  else (x.mantissa, twoTo (-x.exponent).toNat)

/-- The rounded product. -/
def mul (x y : Binary64) : Option Binary64 :=
  let (a, b) := x.magnitude
  let (c, d) := y.magnitude
  ofRatio (x.negative != y.negative) (a * c) (b * d)

/-- The rounded quotient by a number other than zero. -/
def div (x y : Binary64) : Option Binary64 :=
  let (a, b) := x.magnitude
  let (c, d) := y.magnitude
  ofRatio (x.negative != y.negative) (a * d) (b * c)

/-- The integer nearest to the value; a half goes to the even neighbour. -/
def roundToEven (x : Binary64) : Int :=
  let (num, den) := x.magnitude
  let n := divideToEven num den
  if x.negative then -(n : Int) else n

/-- Whether the value is an integer. -/
def isIntegral (x : Binary64) : Bool :=
  let (num, den) := x.magnitude
  num % den == 0

/-- The bits of the interchange format. -/
def toBits (x : Binary64) : UInt64 :=
  let sign : Nat := if x.negative then twoTo 63 else 0
  let body : Nat :=
    if x.mantissa < twoTo 52 then x.mantissa
    else (x.exponent + 1075).toNat * twoTo 52 + (x.mantissa - twoTo 52)
  (sign + body).toUInt64

/-- The finite number that the bits denote. -/
def ofBits? (bits : UInt64) : Option Binary64 :=
  let n := bits.toNat
  let negative := decide (twoTo 63 ≤ n)
  let biased := n / twoTo 52 % twoTo 11
  let fraction := n % twoTo 52
  if biased = 2047 then none
  else if biased = 0 then some ⟨negative, fraction, minExponent⟩
  else some ⟨negative, twoTo 52 + fraction, Int.ofNat biased - 1075⟩

def toFloat (x : Binary64) : Float := Float.ofBits x.toBits

def ofFloat? (x : Float) : Option Binary64 := ofBits? x.toBits

theorem zero_canonical (negative : Bool) : (zero negative).Canonical := by
  cases negative <;> decide

end Binary64
end Stencil
