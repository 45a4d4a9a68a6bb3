import Stencil.Regex.CharClass

/-! Sets of characters as intervals of code points, and the bytes that intervals are written in. -/
namespace Stencil

/-- The first and the last code point. -/
abbrev Interval := Nat × Nat

namespace Interval

/-- The code points that no character has. -/
def firstSurrogate : Nat := 0xD800

def lastSurrogate : Nat := 0xDFFF

def lastCode : Nat := 0x10FFFF

/-- Neighbours in order as one, where they meet. -/
def mergeFrom (here : Interval) : List Interval → List Interval
  | [] => [here]
  | i :: rest =>
    if i.1 ≤ here.2 + 1 then mergeFrom (here.1, max here.2 i.2) rest else here :: mergeFrom i rest

/-- Disjoint intervals in their order. -/
def normal (is : List Interval) : List Interval :=
  match (is.filter fun i => i.1 ≤ i.2).mergeSort fun i j => i.1 ≤ j.1 with
  | [] => []
  | i :: rest => mergeFrom i rest

/-- The gaps between intervals in order, from a code point on. -/
def gaps (start : Nat) : List Interval → List Interval
  | [] => if start ≤ lastCode then [(start, lastCode)] else []
  | i :: rest => (if start < i.1 then [(start, i.1 - 1)] else []) ++ gaps (max start (i.2 + 1)) rest

/-- An interval without the code points that no character has. -/
def characters (i : Interval) : List Interval :=
  [(i.1, min i.2 (firstSurrogate - 1)), (max i.1 (lastSurrogate + 1), i.2)].filter fun j => j.1 ≤ j.2

def count (is : List Interval) : Nat := is.foldl (fun n i => n + (i.2 + 1 - i.1)) 0

def members (i : Interval) : List Nat := (List.range (i.2 + 1 - i.1)).map (i.1 + ·)

def ofRun (r : Text.Run) : List Interval :=
  if r.2.2 ≤ 1 then [(r.1, r.2.1)]
  else (List.range ((r.2.1 - r.1) / r.2.2 + 1)).map fun k => (r.1 + k * r.2.2, r.1 + k * r.2.2)

end Interval

namespace CharClass

/-- Characters that have other cases. -/
def cased : List Nat :=
  Text.Case.foldRows.flatMap fun r =>
    (List.range ((r.2.1 - r.1) / max r.2.2.1 1 + 1)).flatMap fun k =>
      let n := r.1 + k * r.2.2.1
      [n, Text.Case.fold n]

/-- The set as disjoint intervals in order. -/
def intervals : CharClass → List Interval
  | nothing => []
  | range low high => Interval.normal [(low, high)]
  | among runs => Interval.normal (runs.flatMap Interval.ofRun)
  | either a b => Interval.normal (a.intervals ++ b.intervals)
  | both a b =>
    Interval.gaps 0 (Interval.normal (Interval.gaps 0 a.intervals ++ Interval.gaps 0 b.intervals))
  | outside a => Interval.gaps 0 a.intervals
  | anyCase a =>
    let is := a.intervals
    let others := if Interval.count is < 500 then (is.flatMap Interval.members).flatMap Text.Case.orbit
      else cased.filter fun n => (Text.Case.orbit n).any a.contains
    Interval.normal (is ++ others.map fun n => (n, n))
  | asciiCase a =>
    let is := a.intervals
    let letters := (List.range 128).filter fun n => a.contains (swapAscii n)
    Interval.normal (is ++ letters.map fun n => (n, n))

/-- No character above ASCII is in the set. -/
def isAscii (s : CharClass) : Bool := s.intervals.all fun i => i.2 < 128

end CharClass

/-! ### Bytes -/

namespace Interval

/-- The interval cut where the number of bytes changes. -/
def byLength (i : Interval) : List Interval :=
  [(0, 0x7F), (0x80, 0x7FF), (0x800, 0xFFFF), (0x10000, lastCode)].filterMap fun l =>
    let low := max i.1 l.1
    let high := min i.2 l.2
    if low ≤ high then some (low, high) else none

/-- The interval cut so that below the last `k` groups of six bits only whole blocks remain. -/
def byBlocks : Nat → Nat → Interval → List Interval
  | 0, _, i => [i]
  | fuel + 1, k, i =>
    if 3 < k then [i]
    else
      let block := Nat.pow 64 k
      if i.1 / block = i.2 / block then byBlocks fuel (k + 1) i
      else if i.1 % block ≠ 0 then
        let next := (i.1 / block + 1) * block
        byBlocks fuel 1 (i.1, next - 1) ++ byBlocks fuel 1 (next, i.2)
      else if i.2 % block ≠ block - 1 then
        let last := i.2 / block * block
        byBlocks fuel 1 (i.1, last - 1) ++ byBlocks fuel 1 (last, i.2)
      else byBlocks fuel (k + 1) i

/-- The bytes of a code point. -/
def bytesOf (n : Nat) : List Nat :=
  if n < 0x80 then [n]
  else if n < 0x800 then [0xC0 + n / 64, 0x80 + n % 64]
  else if n < 0x10000 then [0xE0 + n / 4096, 0x80 + n / 64 % 64, 0x80 + n % 64]
  else [0xF0 + n / 262144, 0x80 + n / 4096 % 64, 0x80 + n / 64 % 64, 0x80 + n % 64]

/-- Ranges of bytes one after the other, for each part of the interval that has such. -/
def byteRanges (i : Interval) : List (List (Nat × Nat)) :=
  (characters i).flatMap fun j => (byLength j).flatMap fun l =>
    (byBlocks 64 1 l).map fun b => (bytesOf b.1).zip (bytesOf b.2)

end Interval
end Stencil
