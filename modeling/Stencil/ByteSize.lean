import Stencil.Elapsed
import Stencil.Number.Binary64

/-! Sizes in bytes, as they are shown. -/
namespace Stencil
namespace ByteSize

def units (binary : Bool) : List String :=
  if binary then ["B", "KiB", "MiB", "GiB", "TiB", "PiB", "EiB"]
  else ["B", "kB", "MB", "GB", "TB", "PB", "EB"]

/-- The largest unit that fits, as a power of 1024. -/
def scaleOf (size : Nat) : Nat := Nat.log2 size / 10

/-- The size to 53 binary digits, as it is divided. -/
def nearest (size : Nat) : Nat :=
  ((Binary64.ofInt size).map fun x => x.roundToEven.toNat).getD size

/-- Two places in the largest unit that fits, none if the size is as good as a whole number of
it. -/
def render (binary : Bool) (size : Nat) : String :=
  let size := nearest size
  let scale := scaleOf size
  let unit := twoTo (10 * scale)
  let hundredths := Elapsed.roundDiv (size * 100) unit
  (if size % unit * twoTo 52 ≤ unit then toString (size / unit)
    else toString (hundredths / 100) ++ "." ++ Elapsed.twoDigits (hundredths % 100)) ++
    " " ++ (units binary)[scale]?.getD ""

/-- The size is at least one of its unit. -/
theorem twoTo_scaleOf_le {size : Nat} (h : size ≠ 0) : twoTo (10 * scaleOf size) ≤ size :=
  Nat.le_trans (Nat.pow_le_pow_right (by decide) (by unfold scaleOf; omega)) (Nat.log2_self_le h)

end ByteSize
end Stencil
