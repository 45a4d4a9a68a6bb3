import Stencil.Number.Binary64
import Mathlib.Algebra.Order.Field.Basic
import Mathlib.Algebra.Order.Field.Rat
import Mathlib.Algebra.Order.Ring.Abs
import Mathlib.Algebra.Order.Round
import Mathlib.Data.Rat.Floor
import Mathlib.Tactic.FieldSimp
import Mathlib.Tactic.Linarith
import Mathlib.Tactic.NormNum
import Mathlib.Tactic.Positivity
import Mathlib.Tactic.Ring

/-! The value of a binary64 number and the integer nearest to it. -/
namespace Stencil

@[simp] theorem cast_twoTo (n : Nat) : ((twoTo n : Nat) : ℚ) = 2 ^ n := by
  induction n with
  | zero => rfl
  | succ n ih => rw [twoTo_succ, Nat.cast_mul, ih, pow_succ, Nat.cast_ofNat]

/-- No integer is nearer to the number, and of two that are as near this is the even one. -/
structure NearestEven (q : ℚ) (n : ℤ) : Prop where
  nearest : ∀ k : ℤ, |q - n| ≤ |q - k|
  even : ∀ k : ℤ, k ≠ n → |q - k| = |q - n| → Even n

namespace NearestEven

variable {q : ℚ} {n m : ℤ}

theorem one_le_of_ne (h : n ≠ m) (q : ℚ) : 1 ≤ |q - n| + |q - m| := by
  have hgap : (1 : ℚ) ≤ |(n : ℚ) - m| := by
    have hint : 1 ≤ |n - m| := Int.one_le_abs (sub_ne_zero.mpr h)
    exact_mod_cast hint
  have hway : (n : ℚ) - m = -(q - n) + (q - m) := by ring
  rw [hway] at hgap
  exact (hgap.trans (abs_add_le _ _)).trans_eq (by rw [abs_neg])

/-- An integer that is at most one half away is nearest. -/
theorem of_half (h : |q - n| ≤ 1 / 2) (heven : |q - n| = 1 / 2 → Even n) : NearestEven q n where
  nearest := fun k => by
    by_cases hk : k = n
    · rw [hk]
    · have hgap := one_le_of_ne hk q
      linarith
  even := fun k hk hsame => by
    have hgap := one_le_of_ne hk q
    exact heven (by linarith)

theorem le_half (h : NearestEven q n) : |q - n| ≤ 1 / 2 :=
  (h.nearest (round q)).trans (abs_sub_round q)

/-- An integer on one side of the number has the nearest on the same side. -/
theorem le_of_le (h : NearestEven q n) (hm : q ≤ m) : n ≤ m := by
  by_contra hlt
  have hstep : (m + 1 : ℚ) ≤ n := by exact_mod_cast not_le.mp hlt
  have hnear := h.nearest m
  rw [abs_of_nonpos (by linarith), abs_of_nonpos (by linarith)] at hnear
  linarith

theorem le_of_ge (h : NearestEven q n) (hm : m ≤ q) : m ≤ n := by
  by_contra hlt
  have hstep : (n + 1 : ℚ) ≤ m := by exact_mod_cast not_le.mp hlt
  have hnear := h.nearest m
  rw [abs_of_nonneg (by linarith), abs_of_nonneg (by linarith)] at hnear
  linarith

theorem unique (hn : NearestEven q n) (hm : NearestEven q m) : n = m := by
  by_contra hne
  have hsame : |q - n| = |q - m| := le_antisymm (hn.nearest m) (hm.nearest n)
  obtain ⟨a, ha⟩ := hn.even m (Ne.symm hne) hsame.symm
  obtain ⟨b, hb⟩ := hm.even n hne hsame
  -- Of two even numbers that are as near, the one between them is nearer.
  have hmid : q = ((a + b : ℤ) : ℚ) := by
    rcases abs_eq_abs.mp hsame with h | h
    · exact absurd (by exact_mod_cast (by linarith : (n : ℚ) = m)) hne
    · rw [ha, hb] at h
      push_cast at h ⊢
      linarith
  have hzero : |q - n| = 0 := by
    have hnear := hn.nearest (a + b)
    rw [← hmid, sub_self, abs_zero] at hnear
    exact le_antisymm hnear (abs_nonneg _)
  have hqn : q = n := sub_eq_zero.mp (abs_eq_zero.mp hzero)
  have hqm : q = m := sub_eq_zero.mp (abs_eq_zero.mp (hsame.symm.trans hzero))
  exact hne (by exact_mod_cast hqn.symm.trans hqm)

theorem neg (h : NearestEven q n) : NearestEven (-q) (-n) := by
  have hflip : ∀ k : ℤ, |-q - k| = |q - (-k : ℤ)| := fun k => by
    rw [← abs_neg]
    congr 1
    push_cast
    ring
  refine ⟨fun k => ?_, fun k hk hsame => ?_⟩
  · rw [hflip, hflip, neg_neg]
    exact h.nearest (-k)
  · rw [hflip, hflip, neg_neg] at hsame
    exact (h.even (-k) (fun he => hk (by rw [← he, neg_neg])) hsame).neg

theorem intCast (n : ℤ) : NearestEven n n := .of_half (by norm_num) (by norm_num)

end NearestEven

namespace Binary64

/-- The value of a number. -/
def value (x : Binary64) : ℚ :=
  (if x.negative then -1 else 1) * (x.mantissa * (2 : ℚ) ^ x.exponent)

theorem nearestEven_divideToEven (num : Nat) {den : Nat} (h : 0 < den) :
    NearestEven (num / den) (divideToEven num den) := by
  have hden : (0 : ℚ) < den := by exact_mod_cast h
  have hquotient : (num : ℚ) / den = (num / den : Nat) + ((num % den : Nat) : ℚ) / den := by
    rw [div_eq_iff hden.ne', add_mul, div_mul_cancel₀ _ hden.ne', mul_comm]
    exact_mod_cast (Nat.div_add_mod num den).symm
  have hlow : (0 : ℚ) ≤ ((num % den : Nat) : ℚ) / den := by positivity
  have hhigh : ((num % den : Nat) : ℚ) / den < 1 := by
    rw [div_lt_one hden]
    exact_mod_cast Nat.mod_lt num h
  have hbelow : ((num % den : Nat) : ℚ) / den < 1 / 2 ↔ 2 * (num % den) < den := by
    rw [div_lt_div_iff₀ hden two_pos, one_mul, mul_comm]
    exact_mod_cast Iff.rfl
  have htie : ((num % den : Nat) : ℚ) / den = 1 / 2 ↔ 2 * (num % den) = den := by
    rw [div_eq_div_iff hden.ne' two_ne_zero, one_mul, mul_comm]
    exact_mod_cast Iff.rfl
  unfold divideToEven
  rw [hquotient]
  dsimp only
  generalize ((num % den : Nat) : ℚ) / den = fraction at *
  generalize num / den = quotient at *
  have hdown : (quotient + fraction) - ((quotient : Nat) : ℤ) = fraction := by
    push_cast
    ring
  have hup : (quotient + fraction) - ((quotient + 1 : Nat) : ℤ) = fraction - 1 := by
    push_cast
    ring
  split_ifs with hb ht heven
  · have hlt := hbelow.mpr hb
    refine .of_half ?_ fun he => ?_
    · rw [hdown, abs_of_nonneg hlow]
      exact hlt.le
    · rw [hdown, abs_of_nonneg hlow] at he
      exact absurd he hlt.ne
  · refine .of_half ?_ fun _ => ?_
    · rw [hdown, abs_of_nonneg hlow, htie.mpr ht]
    · exact_mod_cast Nat.even_iff.mpr heven
  · refine .of_half ?_ fun _ => ?_
    · rw [hup, htie.mpr ht]
      norm_num
    · exact_mod_cast Nat.even_add_one.mpr fun he => heven (Nat.even_iff.mp he)
  · have hgt : 1 / 2 < fraction :=
      lt_of_le_of_ne (not_lt.mp (hbelow.not.mpr hb)) (Ne.symm (htie.not.mpr ht))
    refine .of_half ?_ fun he => ?_
    · rw [hup, abs_of_nonpos (by linarith)]
      linarith
    · rw [hup, abs_of_nonpos (by linarith)] at he
      linarith

theorem magnitude_spec (x : Binary64) : 0 < x.magnitude.2 ∧
    (x.magnitude.1 : ℚ) / x.magnitude.2 = x.mantissa * 2 ^ x.exponent := by
  unfold magnitude
  split
  · next h =>
    obtain ⟨n, hn⟩ := Int.eq_ofNat_of_zero_le h
    simp [hn]
  · next h =>
    obtain ⟨n, hn⟩ := Int.exists_eq_neg_ofNat (Int.le_of_lt (Int.not_le.mp h))
    simp [hn, twoTo_pos, div_eq_mul_inv]

theorem value_eq_magnitude (x : Binary64) :
    x.value = (if x.negative then -1 else 1) * ((x.magnitude.1 : ℚ) / x.magnitude.2) := by
  rw [value, x.magnitude_spec.2]

theorem nearestEven_roundToEven (x : Binary64) : NearestEven x.value x.roundToEven := by
  have hnearest := nearestEven_divideToEven x.magnitude.1 x.magnitude_spec.1
  rw [value_eq_magnitude, roundToEven]
  dsimp only
  split
  · simpa using hnearest.neg
  · simpa using hnearest

theorem abs_value (x : Binary64) : |x.value| = x.mantissa * 2 ^ x.exponent := by
  have hmagnitude : (0 : ℚ) ≤ x.mantissa * 2 ^ x.exponent :=
    mul_nonneg (Nat.cast_nonneg _) (zpow_nonneg zero_le_two _)
  rw [value]
  split <;> simp [abs_of_nonneg hmagnitude]

theorem exists_value_eq_intCast {x : Binary64} (h : 0 ≤ x.exponent) : ∃ n : ℤ, x.value = n := by
  obtain ⟨e, he⟩ := Int.eq_ofNat_of_zero_le h
  refine ⟨(if x.negative then -1 else 1) * (x.mantissa * 2 ^ e), ?_⟩
  rw [value, he]
  push_cast
  rw [zpow_natCast]

/-- Beyond 53 bits every number is an integer. -/
theorem value_eq_of_nearestEven {x : Binary64} (h : x.Canonical) {n : ℤ}
    (hn : NearestEven x.value n) (hlarge : 2 ^ 53 < |n|) : x.value = n := by
  rcases le_or_gt 0 x.exponent with hexponent | hexponent
  · obtain ⟨m, hm⟩ := exists_value_eq_intCast hexponent
    rw [hm] at hn ⊢
    rw [hn.unique (.intCast m)]
  · exfalso
    have hmantissa : (x.mantissa : ℚ) < 2 ^ 53 := by
      rw [← cast_twoTo]
      exact_mod_cast h.1
    have hunit : (2 : ℚ) ^ x.exponent ≤ 1 := zpow_le_one_of_nonpos₀ one_le_two hexponent.le
    have hsmall : |x.value| < 2 ^ 53 := by
      rw [abs_value]
      calc (x.mantissa : ℚ) * 2 ^ x.exponent ≤ x.mantissa * 1 :=
            mul_le_mul_of_nonneg_left hunit (Nat.cast_nonneg _)
        _ < 2 ^ 53 := by rwa [mul_one]
    have hnear : |(n : ℚ)| ≤ |x.value| + 1 / 2 := by
      have hway : (n : ℚ) = x.value - (x.value - n) := by ring
      calc |(n : ℚ)| = |x.value - (x.value - n)| := by rw [← hway]
        _ ≤ |x.value| + |x.value - n| := abs_sub _ _
        _ ≤ |x.value| + 1 / 2 := by linarith [hn.le_half]
    have hstep : (2 ^ 53 + 1 : ℚ) ≤ |(n : ℚ)| := by exact_mod_cast hlarge
    linarith

end Binary64
end Stencil
