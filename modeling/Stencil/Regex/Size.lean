import Stencil.Regex.Basic
import Stencil.Regex.Interval

/-! How much room an expression takes as a network of states that reads a text byte by byte, from its
end to its start. -/
namespace Stencil
namespace Regex

/-- The bytes that a state takes. -/
def stateSize : Nat := 32

/-- The bytes that a way from one state to another takes beside the state, by the bytes that lead
there and without any. -/
def rangeSize : Nat := 8

def branchSize : Nat := 4

def commonLead : List (Nat × Nat) → List (Nat × Nat) → Nat
  | a :: as, b :: bs => if a = b then commonLead as bs + 1 else 0
  | _, _ => 0

/-- The states for sequences of bytes in order; sequences share what they start with. -/
def sequenceStates (before : List (Nat × Nat)) : List (List (Nat × Nat)) → Nat
  | [] => 0
  | s :: rest => s.length - commonLead before s + sequenceStates s rest

/-- A single character is a state for each of its bytes. Plain characters are read by one state, and
for others there is a branch for each sequence of ranges of bytes. -/
def setSize (s : CharClass) : Nat :=
  match s.intervals with
  | [(low, high)] =>
    if low = high then stateSize * (Interval.bytesOf low).length
    else wide [(low, high)]
  | is => wide is
where
  wide (is : List Interval) : Nat :=
    if is.all fun i => i.2 < 128 then 2 * stateSize + rangeSize * is.length
    else
      let sequences := is.flatMap Interval.byteRanges
      stateSize * (2 + sequenceStates [] sequences) + branchSize * sequences.length

/-- The room that a choice of two ways takes. -/
def choiceSize : Nat := stateSize + 2 * branchSize

def isAlt : Regex → Bool
  | alt .. => true
  | _ => false

/-- The room that the expression takes. The repetitions are written out. -/
def size : Regex → Nat
  | empty => stateSize
  | set s => setSize s
  | look _ => stateSize
  | group r => r.size
  | seq r s => r.size + s.size
  | alt r s =>
    r.size + branchSize + s.size + (if s.isAlt then 0 else 2 * stateSize + branchSize)
  | repeated r 0 (some 1) _ => r.size + stateSize + choiceSize
  | repeated r min (some max) _ =>
    r.size * max + (if min = 0 then stateSize else 0) +
      (if min = max then 0 else stateSize + (max - min) * choiceSize)
  | repeated r min none _ => r.size * Nat.max min 1 + choiceSize

/-- Read from the start on, sequences of bytes share what they end with. -/
def noted (s : CharClass) : Nat :=
  match s.intervals with
  | [(low, high)] =>
    if low = high then stateSize * (Interval.bytesOf low).length else 2 * stateSize + rangeSize
  | is => 2 * stateSize + rangeSize * is.length

/-- The room for the network that reads from the start on and notes where groups start and end. -/
def notedSize : Regex → Nat
  | empty => stateSize
  | set s => noted s
  | look _ => stateSize
  | group r => r.notedSize + 2 * stateSize
  | seq r s => r.notedSize + s.notedSize
  | alt r s =>
    r.notedSize + branchSize + s.notedSize + (if s.isAlt then 0 else 2 * stateSize + branchSize)
  | repeated r 0 (some 1) _ => r.notedSize + stateSize + choiceSize
  | repeated r min (some max) _ =>
    r.notedSize * max + (if min = 0 then stateSize else 0) +
      (if min = max then 0 else stateSize + (max - min) * choiceSize)
  | repeated r min none _ => r.notedSize * Nat.max min 1 + choiceSize

/-- Larger expressions are refused. -/
def maxSize : Nat := 10485760

def fits (r : Regex) : Bool := max r.size r.notedSize ≤ maxSize

end Regex
end Stencil
