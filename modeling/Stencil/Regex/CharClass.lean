import Stencil.Text.Case

/-! Sets of characters. -/
namespace Stencil

/-- A set of characters, by code point. -/
inductive CharClass where
  | nothing
  | range (low high : Nat)
  | among (runs : List Text.Run)
  | either (a b : CharClass)
  | both (a b : CharClass)
  | outside (a : CharClass)
  /-- The characters of the set in any case -/
  | anyCase (a : CharClass)
  /-- The same for plain letters only -/
  | asciiCase (a : CharClass)

namespace CharClass

def swapAscii (n : Nat) : Nat :=
  if 65 ≤ n && n ≤ 90 then n + 32 else if 97 ≤ n && n ≤ 122 then n - 32 else n

def contains : CharClass → Nat → Bool
  | nothing, _ => false
  | range low high, n => low ≤ n && n ≤ high
  | among runs, n => Text.inRuns runs n
  | either a b, n => a.contains n || b.contains n
  | both a b, n => a.contains n && b.contains n
  | outside a, n => !a.contains n
  | anyCase a, n => (Text.Case.orbit n).any a.contains
  | asciiCase a, n => a.contains n || a.contains (swapAscii n)

def single (c : Char) : CharClass := range c.toNat c.toNat

def without (a b : CharClass) : CharClass := both a (outside b)

def exactlyOne (a b : CharClass) : CharClass := either (without a b) (without b a)

def union (items : List CharClass) : CharClass := items.foldl either nothing

theorem contains_single (c d : Char) : (single c).contains d.toNat = (d == c) := by
  rw [Bool.eq_iff_iff]
  simp only [single, contains, Bool.and_eq_true, decide_eq_true_eq, beq_iff_eq]
  exact ⟨fun h => Char.ext (UInt32.toNat_inj.mp (Nat.le_antisymm h.2 h.1)), fun h => by simp [h]⟩

end CharClass

end Stencil
