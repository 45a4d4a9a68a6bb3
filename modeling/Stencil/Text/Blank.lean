/-! White space, trimming and line splitting. -/
namespace Stencil
namespace Text

/-- The Unicode property `White_Space`. -/
def isBlank (c : Char) : Bool :=
  let n := c.toNat
  (9 ≤ n && n ≤ 13) || n == 0x20 || n == 0x85 || n == 0xA0 || n == 0x1680 ||
    (0x2000 ≤ n && n ≤ 0x200A) || n == 0x2028 || n == 0x2029 || n == 0x202F ||
    n == 0x205F || n == 0x3000

def dropBlank (cs : List Char) : List Char := cs.dropWhile isBlank

def dropBlankEnd (cs : List Char) : List Char := (dropBlank cs.reverse).reverse

def trimEnd (s : String) : String := String.ofList (dropBlankEnd s.toList)

def trim (s : String) : String := String.ofList (dropBlankEnd (dropBlank s.toList))

/-- A text is blank when trimming leaves nothing. -/
def allBlank (s : String) : Bool := s.toList.all isBlank

/-- What is left of `cs` after the leading `p`. -/
def dropLead? : List Char → List Char → Option (List Char)
  | [], cs => some cs
  | _ :: _, [] => none
  | p :: ps, c :: cs => if p = c then dropLead? ps cs else none

theorem dropLead?_append (p cs : List Char) : dropLead? p (p ++ cs) = some cs := by
  induction p with
  | nil => rfl
  | cons a p ih => simp [dropLead?, ih]

/-- What is left of `s` after the leading text `p`. -/
def stripStart? (p s : String) : Option String :=
  (dropLead? p.toList s.toList).map String.ofList

/-- One carriage return before a line end belongs to the end. -/
def dropReturn (line : List Char) : List Char :=
  match line.reverse with
  | '\r' :: rest => rest.reverse
  | _ => line

/-- Lines end at a line feed; a text that ends with one has no empty last line. `acc` is the
current line, reversed. -/
def splitLines : List Char → List Char → List (List Char)
  | [], [] => []
  | acc, [] => [acc.reverse]
  | acc, c :: cs =>
    if c = '\n' then dropReturn acc.reverse :: splitLines [] cs else splitLines (c :: acc) cs

def lines (s : String) : List String := (splitLines [] s.toList).map String.ofList

/-- The characters before and after the first `c`, if there is one. -/
def cutAt (c : Char) (cs : List Char) : Option (List Char × List Char) :=
  match cs.dropWhile (· != c) with
  | [] => none
  | _ :: rest => some (cs.takeWhile (· != c), rest)

/-- The pieces between the characters `c`. `acc` is the current piece, reversed. -/
def splitOnChar (c : Char) : List Char → List Char → List (List Char)
  | acc, [] => [acc.reverse]
  | acc, d :: cs => if d = c then acc.reverse :: splitOnChar c [] cs else splitOnChar c (d :: acc) cs

def asciiDigit (c : Char) : Bool := '0' ≤ c && c ≤ '9'

def digitValue (c : Char) : Nat := c.toNat - 48

def hexValue? (c : Char) : Option Nat :=
  if '0' ≤ c ∧ c ≤ '9' then some (c.toNat - 48)
  else if 'a' ≤ c ∧ c ≤ 'f' then some (c.toNat - 87)
  else if 'A' ≤ c ∧ c ≤ 'F' then some (c.toNat - 55)
  else none

/-- The number that hexadecimal digits write; `none` if one is not a digit. -/
def hexNumber? (cs : List Char) : Option Nat :=
  cs.foldl (fun acc c => acc.bind fun n => (hexValue? c).map (16 * n + ·)) (some 0)

/-- The character of a code point that is neither a surrogate nor out of range. -/
def scalar? (n : Nat) : Option Char := if n.isValidChar then some (Char.ofNat n) else none

end Text
end Stencil
