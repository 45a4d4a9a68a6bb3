import Stencil.Text.Property

/-! Clusters: what a reader takes for one character, though it is written with several. -/
namespace Stencil
namespace Text

/-- What a character does to the cluster it stands in. -/
inductive Joining where
  | carriageReturn
  | lineFeed
  | control
  | extend
  | joiner
  | spacing
  | leading
  | regional
  | lead
  | vowel
  | trail
  | openSyllable
  | closedSyllable
  | person
  | modifier
  | afterJoiner
  | personAfterJoiner
  | other
  deriving DecidableEq, Repr

namespace Joining

def controls : List Run := [
    (0x0, 0x9, 1), (0xB, 0xC, 1), (0xE, 0x1F, 1), (0x7F, 0x9F, 1), (0xAD, 0xAD, 1),
    (0x61C, 0x61C, 1), (0x180E, 0x180E, 1), (0x200B, 0x200B, 1), (0x200E, 0x200F, 1),
    (0x2028, 0x202E, 1), (0x2060, 0x206F, 1), (0xFEFF, 0xFEFF, 1), (0xFFF0, 0xFFFB, 1),
    (0x13430, 0x1343F, 1), (0x1BCA0, 0x1BCA3, 1), (0x1D173, 0x1D17A, 1), (0xE0000, 0xE001F, 1),
    (0xE0080, 0xE00FF, 1), (0xE01F0, 0xE0FFF, 1)]

/-- Signs that go with what follows them. -/
def leadings : List Run := [
    (0x600, 0x605, 1), (0x6DD, 0x6DD, 1), (0x70F, 0x70F, 1), (0x890, 0x891, 1), (0x8E2, 0x8E2, 1),
    (0xD4E, 0xD4E, 1), (0x110BD, 0x110BD, 1), (0x110CD, 0x110CD, 1), (0x111C2, 0x111C3, 1),
    (0x1193F, 0x1193F, 1), (0x11941, 0x11941, 1), (0x11A3A, 0x11A3A, 1), (0x11A84, 0x11A89, 1),
    (0x11D46, 0x11D46, 1), (0x11F02, 0x11F02, 1)]

/-- Marks with a width that make a cluster of their own. -/
def separateMarks : List Run := [
    (0x102B, 0x102C, 1), (0x1038, 0x1038, 1), (0x1062, 0x1064, 1), (0x1067, 0x106D, 1),
    (0x1083, 0x1083, 1), (0x1087, 0x108C, 1), (0x108F, 0x108F, 1), (0x109A, 0x109C, 1),
    (0x1A61, 0x1A61, 1), (0x1A63, 0x1A64, 1), (0xAA7B, 0xAA7B, 1), (0xAA7D, 0xAA7D, 1),
    (0x11720, 0x11721, 1)]

/-- Persons and hands, which a colour of skin may follow. -/
def persons : List Run := [
    (0x261D, 0x261D, 1), (0x26F9, 0x26F9, 1), (0x270A, 0x270D, 1), (0x1F385, 0x1F385, 1),
    (0x1F3C2, 0x1F3C4, 1), (0x1F3C7, 0x1F3C7, 1), (0x1F3CA, 0x1F3CC, 1), (0x1F442, 0x1F443, 1),
    (0x1F446, 0x1F450, 1), (0x1F46E, 0x1F46E, 1), (0x1F470, 0x1F478, 1), (0x1F47C, 0x1F47C, 1),
    (0x1F481, 0x1F483, 1), (0x1F485, 0x1F487, 1), (0x1F4AA, 0x1F4AA, 1), (0x1F574, 0x1F575, 1),
    (0x1F57A, 0x1F57A, 1), (0x1F590, 0x1F590, 1), (0x1F595, 0x1F596, 1), (0x1F645, 0x1F647, 1),
    (0x1F64B, 0x1F64F, 1), (0x1F6A3, 0x1F6A3, 1), (0x1F6B4, 0x1F6B6, 1), (0x1F6C0, 0x1F6C0, 1),
    (0x1F6CC, 0x1F6CC, 1), (0x1F918, 0x1F91C, 1), (0x1F91E, 0x1F91F, 1), (0x1F926, 0x1F926, 1),
    (0x1F930, 0x1F939, 1), (0x1F93D, 0x1F93E, 1), (0x1F9D1, 0x1F9DD, 1)]

/-- Signs that a joiner binds to a person before it. -/
def bound : List Run := [
    (0x2640, 0x2640, 1), (0x2642, 0x2642, 1), (0x2695, 0x2696, 1), (0x2708, 0x2708, 1),
    (0x2764, 0x2764, 1), (0x1F308, 0x1F308, 1), (0x1F33E, 0x1F33E, 1), (0x1F373, 0x1F373, 1),
    (0x1F393, 0x1F393, 1), (0x1F3A4, 0x1F3A4, 1), (0x1F3A8, 0x1F3A8, 1), (0x1F3EB, 0x1F3EB, 1),
    (0x1F3ED, 0x1F3ED, 1), (0x1F48B, 0x1F48B, 1), (0x1F4BB, 0x1F4BC, 1), (0x1F527, 0x1F527, 1),
    (0x1F52C, 0x1F52C, 1), (0x1F5E8, 0x1F5E8, 1), (0x1F680, 0x1F680, 1), (0x1F692, 0x1F692, 1)]

def syllable (n : Nat) : Joining := if (n - 0xAC00) % 28 = 0 then .openSyllable else .closedSyllable

def ofCode (n : Nat) : Joining :=
  if n = 13 then carriageReturn
  else if n = 10 then lineFeed
  else if 32 ≤ n ∧ n < 127 then other
  else if n = 0x200D then joiner
  else if inRuns controls n then control
  else if Property.isGraphemeExtend n then extend
  else if 0x1F1E6 ≤ n ∧ n ≤ 0x1F1FF then regional
  else if inRuns leadings n then leading
  else if n = 0xE33 ∨ n = 0xEB3 ∨
      (inRuns Category.spacingMark n ∧ !inRuns separateMarks n) then spacing
  else if (0x1100 ≤ n ∧ n ≤ 0x115F) ∨ (0xA960 ≤ n ∧ n ≤ 0xA97C) then lead
  else if (0x1160 ≤ n ∧ n ≤ 0x11A7) ∨ (0xD7B0 ≤ n ∧ n ≤ 0xD7C6) then vowel
  else if (0x11A8 ≤ n ∧ n ≤ 0x11FF) ∨ (0xD7CB ≤ n ∧ n ≤ 0xD7FB) then trail
  else if 0xAC00 ≤ n ∧ n ≤ 0xD7A3 then syllable n
  else if 0x1F3FB ≤ n ∧ n ≤ 0x1F3FF then modifier
  else if 0x1F466 ≤ n ∧ n ≤ 0x1F469 then personAfterJoiner
  else if inRuns persons n then person
  else if inRuns bound n then afterJoiner
  else other

def isBreak : Joining → Bool
  | carriageReturn | lineFeed | control => true
  | _ => false

end Joining

namespace Cluster

open Joining

/-- What has been read of a cluster: its last character, whether that is a person with marks after it,
and whether an odd number of regional signs ends it. -/
structure Reading where
  last : Joining
  isPerson : Bool
  isOddRegional : Bool

def Reading.start (j : Joining) : Reading :=
  ⟨j, j == person || j == personAfterJoiner, j == regional⟩

def Reading.next (r : Reading) (j : Joining) : Reading :=
  ⟨j, j == person || j == personAfterJoiner || (r.isPerson && j == extend),
    j == regional && !r.isOddRegional⟩

/-- Whether the character goes on with the cluster. -/
def joins (r : Reading) (j : Joining) : Bool :=
  match r.last, j with
  | carriageReturn, lineFeed => true
  | last, j =>
    if last.isBreak || j.isBreak then false
    else match last, j with
      | _, extend | _, joiner | _, spacing => true
      | leading, _ => true
      | lead, lead | lead, vowel | lead, openSyllable | lead, closedSyllable => true
      | openSyllable, vowel | openSyllable, trail | vowel, vowel | vowel, trail => true
      | closedSyllable, trail | trail, trail => true
      | joiner, afterJoiner | joiner, personAfterJoiner => true
      | _, modifier => r.isPerson
      | regional, regional => r.isOddRegional
      | _, _ => false

/-- The clusters of a text; `acc` holds the current one, reversed. -/
def splitFrom (r : Reading) (acc : List Char) : List Char → List (List Char)
  | [] => [acc.reverse]
  | c :: cs =>
    let j := Joining.ofCode c.toNat
    if joins r j then splitFrom (r.next j) (c :: acc) cs
    else acc.reverse :: splitFrom (.start j) [c] cs

def split : List Char → List (List Char)
  | [] => []
  | c :: cs => splitFrom (.start (Joining.ofCode c.toNat)) [c] cs

theorem flatten_splitFrom (r : Reading) (acc cs : List Char) :
    (splitFrom r acc cs).flatten = acc.reverse ++ cs := by
  induction cs generalizing r acc with
  | nil => simp [splitFrom]
  | cons c cs ih => simp only [splitFrom]; split <;> simp [ih]

/-- No character is lost. -/
theorem flatten_split (cs : List Char) : (split cs).flatten = cs := by
  cases cs with
  | nil => rfl
  | cons c cs => simp [split, flatten_splitFrom]

end Cluster
end Text
end Stencil
