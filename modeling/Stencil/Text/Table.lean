import Stencil.Text.Category
import Stencil.Text.Cut

/-! Runs of code points as a text lists them. -/
namespace Stencil
namespace Text

def hexOf (cs : List Char) : Nat := (hexNumber? cs).getD 0

/-- `41` is one code point, `41-5A` all from one to another, and `100-12E/2` every second of them. -/
def runOf (word : List Char) : Run :=
  let (body, step) := match cutAt '/' word with
    | some (body, step) => (body, hexOf step)
    | none => (word, 1)
  match cutAt '-' body with
  | some (first, last) => (hexOf first, hexOf last, step)
  | none => (hexOf body, hexOf body, step)

/-- The runs of a text with blanks between them. -/
def runs (s : String) : List Run := (wordsOf [] s.toList).map runOf

end Text
end Stencil
