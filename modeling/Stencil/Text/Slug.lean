import Stencil.Text.Blank

/-! Slugs: small letters and digits, with one dash for whatever stands between them. -/
namespace Stencil
namespace Text
namespace Slug

/-- The Latin letters from À to ÿ, spelt in ASCII. -/
def latin : List String :=
  ["A", "A", "A", "A", "A", "A", "AE", "C", "E", "E", "E", "E", "I", "I", "I", "I",
    "D", "N", "O", "O", "O", "O", "O", "x", "O", "U", "U", "U", "U", "Y", "Th", "ss",
    "a", "a", "a", "a", "a", "a", "ae", "c", "e", "e", "e", "e", "i", "i", "i", "i",
    "d", "n", "o", "o", "o", "o", "o", "/", "o", "u", "u", "u", "u", "y", "th", "y"]

/-- A character as ASCII; one without a spelling is a dash. -/
def spelling (c : Char) : List Char :=
  if c.toNat < 128 then [c]
  else if 0xC0 ≤ c.toNat then (latin[c.toNat - 0xC0]?.getD "-").toList
  else ['-']

/-- The letters and digits; `gap` tells that a dash is due before the next of them. -/
def ofSpelled (gap : Bool) : List Char → List Char
  | [] => []
  | c :: cs =>
    if c.isAlphanum then (if gap then ['-', c.toLower] else [c.toLower]) ++ ofSpelled false cs
    else ofSpelled true cs

def render (cs : List Char) : List Char :=
  ofSpelled false ((cs.flatMap spelling).dropWhile (!·.isAlphanum))

end Slug
end Text
end Stencil
