import Stencil.Text.Blank

/-! Searching, cutting and joining texts, as lists of characters. -/
namespace Stencil
namespace Text

/-- The text before the first `needle` and the text after it. -/
def breakOn? (needle : List Char) : List Char → Option (List Char × List Char)
  | [] => if needle.isEmpty then some ([], []) else none
  | c :: cs =>
    match dropLead? needle (c :: cs) with
    | some rest => some ([], rest)
    | none => (breakOn? needle cs).map fun (before, after) => (c :: before, after)

/-- The pieces between occurrences of a needle that is not empty, at most `limit` cuts. -/
def splitOnWord (needle : List Char) : Nat → List Char → List (List Char)
  | 0, cs => [cs]
  | limit + 1, cs =>
    match breakOn? needle cs with
    | some (before, after) => before :: splitOnWord needle limit after
    | none => [cs]

/-- The pieces between characters that satisfy `p`, at most `limit` cuts. -/
def splitWhere (p : Char → Bool) : Nat → List Char → List (List Char)
  | 0, cs => [cs]
  | limit + 1, cs =>
    match cs.dropWhile (!p ·) with
    | [] => [cs]
    | _ :: after => cs.takeWhile (!p ·) :: splitWhere p limit after

/-- Cuts after every character, the last of them too. -/
def splitEach : Nat → List Char → List (List Char)
  | 0, cs => [cs]
  | _ + 1, [] => [[]]
  | limit + 1, c :: cs => [c] :: splitEach limit cs

/-- The pieces between occurrences of a needle, at most `limit` cuts. An empty needle stands before,
between and after all characters. -/
def splitOnText (needle : List Char) (limit : Nat) (cs : List Char) : List (List Char) :=
  match needle, limit with
  | [], limit + 1 => [] :: splitEach limit cs
  | needle, limit => splitOnWord needle limit cs

def splitAll (needle cs : List Char) : List (List Char) := splitOnText needle (cs.length + 2) cs

def joinWith (separator : List Char) : List (List Char) → List Char
  | [] => []
  | [p] => p
  | p :: q :: rest => p ++ separator ++ joinWith separator (q :: rest)

/-- Every occurrence of `old` replaced; an empty one stands before, between and after all
characters. -/
def replaceAll (old new cs : List Char) : List Char :=
  joinWith new (splitAll old cs)

/-- The words between blanks. `acc` is the current word, reversed. -/
def wordsOf (acc : List Char) : List Char → List (List Char)
  | [] => if acc.isEmpty then [] else [acc.reverse]
  | c :: cs =>
    if isBlank c then (if acc.isEmpty then wordsOf [] cs else acc.reverse :: wordsOf [] cs)
    else wordsOf (c :: acc) cs

def contains (needle cs : List Char) : Bool := (breakOn? needle cs).isSome

def trimOf (p : Char → Bool) (cs : List Char) : List Char :=
  ((cs.dropWhile p).reverse.dropWhile p).reverse

end Text
end Stencil
