/-! Lengths of time, as they are shown. -/
namespace Stencil
namespace Elapsed

/-- The unit of a length in nanoseconds: its size and its name. -/
def unitOf (nanos : Nat) : Nat × String :=
  if 1000000000 ≤ nanos then (1000000000, "s")
  else if 1000000 ≤ nanos then (1000000, "ms")
  else if 1000 ≤ nanos then (1000, "µs")
  else (1, "ns")

/-- The nearest whole number to `num / den`; a half goes to the even neighbour. -/
def roundDiv (num den : Nat) : Nat :=
  let q := num / den
  let twice := 2 * (num % den)
  if den < twice ∨ (twice = den ∧ q % 2 = 1) then q + 1 else q

def twoDigits (n : Nat) : String := (if n < 10 then "0" else "") ++ toString n

/-- Two places in the largest unit that fits. -/
def render (nanos : Nat) : String :=
  let (size, unit) := unitOf nanos
  let hundredths := roundDiv (nanos * 100) size
  toString (hundredths / 100) ++ "." ++ twoDigits (hundredths % 100) ++ unit

end Elapsed
end Stencil
