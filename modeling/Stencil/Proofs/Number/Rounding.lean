import Stencil.Proofs.Number.Nearest

/-! Which binary64 number a ratio is rounded to: the nearest there is. -/
namespace Stencil
namespace Binary64

variable {num den : Nat} {e : ℤ}

/-! ## The last place -/

theorem two_pow_pos (e : ℤ) : (0 : ℚ) < 2 ^ e := zpow_pos two_pos e

theorem two_pow_le_two_pow {d e : ℤ} (h : d ≤ e) : (2 : ℚ) ^ d ≤ 2 ^ e :=
  zpow_le_zpow_right₀ one_le_two h

/-- A ratio is told by its terms' sizes up to a factor of four. -/
theorem ratio_bounds (hnum : num ≠ 0) (hden : den ≠ 0) :
    (2 : ℚ) ^ ((Nat.log2 num : ℤ) - Nat.log2 den - 1) < num / den ∧
      (num / den : ℚ) < 2 ^ ((Nat.log2 num : ℤ) - Nat.log2 den + 1) := by
  have hd : (0 : ℚ) < den := by exact_mod_cast Nat.pos_of_ne_zero hden
  have hnumLow : (2 : ℚ) ^ (Nat.log2 num : ℤ) ≤ num := by
    exact_mod_cast Nat.log2_self_le hnum
  have hnumHigh : (num : ℚ) < 2 ^ ((Nat.log2 num : ℤ) + 1) := by
    exact_mod_cast (Nat.lt_log2_self (n := num))
  have hdenLow : (2 : ℚ) ^ (Nat.log2 den : ℤ) ≤ den := by
    exact_mod_cast Nat.log2_self_le hden
  have hdenHigh : (den : ℚ) < 2 ^ ((Nat.log2 den : ℤ) + 1) := by
    exact_mod_cast (Nat.lt_log2_self (n := den))
  constructor
  · rw [lt_div_iff₀ hd]
    calc (2 : ℚ) ^ ((Nat.log2 num : ℤ) - Nat.log2 den - 1) * den
        < 2 ^ ((Nat.log2 num : ℤ) - Nat.log2 den - 1) * 2 ^ ((Nat.log2 den : ℤ) + 1) :=
          mul_lt_mul_of_pos_left hdenHigh (two_pow_pos _)
      _ = 2 ^ (Nat.log2 num : ℤ) := by
          rw [← zpow_add₀ two_ne_zero]
          congr 1
          ring
      _ ≤ num := hnumLow
  · rw [div_lt_iff₀ hd]
    calc (num : ℚ) < 2 ^ ((Nat.log2 num : ℤ) + 1) := hnumHigh
      _ = 2 ^ ((Nat.log2 num : ℤ) - Nat.log2 den + 1) * 2 ^ (Nat.log2 den : ℤ) := by
          rw [← zpow_add₀ two_ne_zero]
          congr 1
          ring
      _ ≤ 2 ^ ((Nat.log2 num : ℤ) - Nat.log2 den + 1) * den :=
          mul_le_mul_of_nonneg_left hdenLow (two_pow_pos _).le

/-- The ratio in units of `2 ^ e`, as a ratio again. -/
def inUnits (num den : Nat) (e : ℤ) : Nat × Nat :=
  if 0 ≤ e then (num, den * twoTo e.toNat) else (num * twoTo (-e).toNat, den)

theorem inUnits_spec (num : Nat) (hden : den ≠ 0) (e : ℤ) : 0 < (inUnits num den e).2 ∧
    ((inUnits num den e).1 / (inUnits num den e).2 : ℚ) = num / den / 2 ^ e := by
  unfold inUnits
  split
  · next h =>
    obtain ⟨n, rfl⟩ := Int.eq_ofNat_of_zero_le h
    refine ⟨Nat.mul_pos (Nat.pos_of_ne_zero hden) (twoTo_pos _), ?_⟩
    simp [div_div]
  · next h =>
    obtain ⟨n, rfl⟩ := Int.exists_eq_neg_ofNat (Int.le_of_lt (Int.not_le.mp h))
    refine ⟨Nat.pos_of_ne_zero hden, ?_⟩
    simp [mul_div_right_comm]

theorem mantissaAt_eq (num den : Nat) (e : ℤ) :
    mantissaAt num den e = divideToEven (inUnits num den e).1 (inUnits num den e).2 := by
  unfold mantissaAt inUnits
  split <;> rfl

theorem nearestEven_mantissaAt (num : Nat) (hden : den ≠ 0) (e : ℤ) :
    NearestEven (num / den / 2 ^ e) (mantissaAt num den e) := by
  obtain ⟨hpos, hratio⟩ := inUnits_spec num hden e
  rw [mantissaAt_eq, ← hratio]
  exact nearestEven_divideToEven _ hpos

/-- The exponent before it is brought into the range. -/
def freeExponent (num den : Nat) : ℤ :=
  let guess : ℤ := (Nat.log2 num : ℤ) - Nat.log2 den - 53
  if (inUnits num den guess).1 / (inUnits num den guess).2 < twoTo 53 then guess else guess + 1

theorem exponentFor_eq (num den : Nat) :
    exponentFor num den = max minExponent (freeExponent num den) := by
  unfold exponentFor freeExponent inUnits
  dsimp only
  split <;> rfl

/-- With this unit the ratio takes 53 bits. -/
theorem freeExponent_spec (hnum : num ≠ 0) (hden : den ≠ 0) :
    (2 : ℚ) ^ 52 ≤ num / den / 2 ^ freeExponent num den ∧
      (num / den / 2 ^ freeExponent num den : ℚ) < 2 ^ 53 := by
  obtain ⟨hlow, hhigh⟩ := ratio_bounds hnum hden
  unfold freeExponent
  dsimp only
  generalize hguess : (Nat.log2 num : ℤ) - Nat.log2 den - 53 = guess
  have hbelow : (2 : ℚ) ^ 52 < num / den / 2 ^ guess := by
    rw [lt_div_iff₀ (two_pow_pos _), ← zpow_natCast, ← zpow_add₀ two_ne_zero]
    exact hlow.trans_eq' (by congr 1; push_cast; omega)
  have habove : (num / den / 2 ^ guess : ℚ) < 2 ^ 54 := by
    rw [div_lt_iff₀ (two_pow_pos _), ← zpow_natCast, ← zpow_add₀ two_ne_zero]
    exact hhigh.trans_eq (by congr 1; push_cast; omega)
  obtain ⟨hpos, hratio⟩ := inUnits_spec num hden guess
  have hfits : (inUnits num den guess).1 / (inUnits num den guess).2 < twoTo 53 ↔
      (num / den / 2 ^ guess : ℚ) < 2 ^ 53 := by
    rw [Nat.div_lt_iff_lt_mul hpos, ← hratio, div_lt_iff₀ (by exact_mod_cast hpos), ← cast_twoTo]
    exact_mod_cast Iff.rfl
  split
  · next h => exact ⟨hbelow.le, hfits.mp h⟩
  · next h =>
    have hhalf : (num / den / 2 ^ (guess + 1) : ℚ) = num / den / 2 ^ guess / 2 := by
      rw [zpow_add_one₀ two_ne_zero, div_mul_eq_div_div]
    have hlarge := not_lt.mp (hfits.not.mp h)
    rw [hhalf]
    constructor <;> linarith

/-- The last place is the one with which 53 bits suffice and no fewer do, unless there is none
below it. -/
theorem exponentFor_spec (hnum : num ≠ 0) (hden : den ≠ 0) :
    minExponent ≤ exponentFor num den ∧
      (num / den / 2 ^ exponentFor num den : ℚ) < 2 ^ 53 ∧
      (exponentFor num den = minExponent ∨
        (2 : ℚ) ^ 52 ≤ num / den / 2 ^ exponentFor num den) := by
  obtain ⟨hlow, hhigh⟩ := freeExponent_spec hnum hden
  rw [exponentFor_eq]
  refine ⟨le_max_left _ _, ?_, ?_⟩
  · have hnonneg : (0 : ℚ) ≤ num / den := by positivity
    exact (div_le_div_of_nonneg_left hnonneg (two_pow_pos _)
      (two_pow_le_two_pow (le_max_right _ _))).trans_lt hhigh
  · rcases max_choice minExponent (freeExponent num den) with h | h <;> rw [h]
    · exact .inl rfl
    · exact .inr hlow

/-! ## The nearest number -/

/-- No number is nearer to the ratio, and of two that are as near this is the even one. -/
structure IsRounded (q : ℚ) (x : Binary64) : Prop where
  canonical : x.Canonical
  nearest : ∀ y : Binary64, y.Canonical → |q - x.value| ≤ |q - y.value|
  even : ∀ y : Binary64, y.Canonical → y.value ≠ x.value → |q - y.value| = |q - x.value| →
    Even x.mantissa

variable {x y : Binary64} {q : ℚ} {m : ℤ}

/-- A number of a place no lower is a multiple of the unit. -/
theorem exists_value_eq_mul (h : e ≤ y.exponent) : ∃ k : ℤ, y.value = k * 2 ^ e := by
  obtain ⟨n, hn⟩ := Int.eq_ofNat_of_zero_le (sub_nonneg.mpr h)
  refine ⟨(if y.negative then -1 else 1) * (y.mantissa * 2 ^ n), ?_⟩
  have hexponent : y.exponent = n + e := by omega
  rw [value, hexponent, zpow_add₀ two_ne_zero, zpow_natCast]
  push_cast
  ring

/-- A number of a lower place is smaller than all that take 53 bits of the unit. -/
theorem abs_value_lt (h : y.Canonical) (he : y.exponent < e) : |y.value| < 2 ^ 52 * 2 ^ e := by
  have hmantissa : (y.mantissa : ℚ) < 2 ^ 53 := by
    rw [← cast_twoTo]
    exact_mod_cast h.1
  have hhalf : (2 : ℚ) ^ 53 * 2 ^ (e - 1) = 2 ^ 52 * 2 ^ e := by
    rw [zpow_sub_one₀ two_ne_zero]
    ring
  rw [abs_value]
  calc (y.mantissa : ℚ) * 2 ^ y.exponent < 2 ^ 53 * 2 ^ y.exponent :=
        mul_lt_mul_of_pos_right hmantissa (two_pow_pos _)
    _ ≤ 2 ^ 53 * 2 ^ (e - 1) :=
        mul_le_mul_of_nonneg_left (two_pow_le_two_pow (by omega)) (by positivity)
    _ = 2 ^ 52 * 2 ^ e := hhalf

theorem abs_sub_mul (q : ℚ) (k e : ℤ) : |q - k * 2 ^ e| = |q / 2 ^ e - k| * 2 ^ e := by
  have hunit := two_pow_pos e
  have hscale : q - k * 2 ^ e = (q / 2 ^ e - k) * 2 ^ e := by
    rw [sub_mul, div_mul_cancel₀ _ hunit.ne']
  rw [hscale, abs_mul, abs_of_pos hunit]

/-- The nearest multiple of the unit is nearer than what lies below another multiple. -/
theorem abs_sub_lt_of_lt {k : ℤ} {v : ℚ} (hm : NearestEven (q / 2 ^ e) m)
    (hk : k * 2 ^ e ≤ q) (hv : v < k * 2 ^ e) : |q - m * 2 ^ e| < |q - v| :=
  calc |q - m * 2 ^ e| = |q / 2 ^ e - m| * 2 ^ e := abs_sub_mul q m e
    _ ≤ |q / 2 ^ e - k| * 2 ^ e := mul_le_mul_of_nonneg_right (hm.nearest k) (two_pow_pos e).le
    _ = |q - k * 2 ^ e| := (abs_sub_mul q k e).symm
    _ = q - k * 2 ^ e := abs_of_nonneg (by linarith)
    _ < q - v := by linarith
    _ ≤ |q - v| := le_abs_self _

/-- Rounding to a multiple of the last place is rounding to the nearest number. -/
theorem isRounded_of_nearestEven (hx : x.Canonical) (hvalue : x.value = m * 2 ^ e)
    (heven : Even m → Even x.mantissa) (hm : NearestEven (q / 2 ^ e) m)
    (hplace : e = minExponent ∨ (2 : ℚ) ^ 52 ≤ q / 2 ^ e) : IsRounded q x := by
  have hlower : ∀ y : Binary64, y.Canonical → y.exponent < e → |q - x.value| < |q - y.value| := by
    intro y hy he
    have hq := hplace.resolve_left fun h => absurd hy.2.1 (not_le.mpr (h ▸ he))
    have hlarge : (2 : ℚ) ^ 52 * 2 ^ e ≤ q := (le_div_iff₀ (two_pow_pos e)).mp hq
    have hsmall := (le_abs_self y.value).trans_lt (abs_value_lt hy he)
    rw [hvalue]
    exact abs_sub_lt_of_lt (k := 2 ^ 52) hm (by exact_mod_cast hlarge) (by exact_mod_cast hsmall)
  refine ⟨hx, fun y hy => ?_, fun y hy hne hsame => ?_⟩
  · rcases lt_or_ge y.exponent e with he | he
    · exact (hlower y hy he).le
    · obtain ⟨k, hk⟩ := exists_value_eq_mul he
      rw [hvalue, hk, abs_sub_mul, abs_sub_mul]
      exact mul_le_mul_of_nonneg_right (hm.nearest k) (two_pow_pos e).le
  · rcases lt_or_ge y.exponent e with he | he
    · exact absurd hsame (hlower y hy he).ne'
    · obtain ⟨k, hk⟩ := exists_value_eq_mul he
      rw [hvalue, hk, abs_sub_mul, abs_sub_mul] at hsame
      refine heven (hm.even k (fun h => hne ?_) (mul_right_cancel₀ (two_pow_pos e).ne' hsame))
      rw [hk, hvalue, h]

/-! ## Ratios -/

theorem isRounded_zero (negative : Bool) : IsRounded 0 (zero negative) := by
  have hvalue : (zero negative).value = 0 := by simp [value, zero]
  refine ⟨zero_canonical negative, fun y _ => ?_, fun y _ _ _ => ?_⟩
  · rw [hvalue, sub_self, abs_zero]
    exact abs_nonneg _
  · exact Even.zero

/-- The other sign. -/
def flip (x : Binary64) : Binary64 := { x with negative := !x.negative }

@[simp] theorem value_flip (x : Binary64) : x.flip.value = -x.value := by
  cases hx : x.negative <;> simp [value, flip, hx]

theorem IsRounded.flip (h : IsRounded q x) : IsRounded (-q) x.flip := by
  have hopposite : ∀ v : ℚ, |-q - v| = |q - -v| := fun v => by
    rw [← abs_neg]
    congr 1
    ring
  refine ⟨h.canonical, fun y hy => ?_, fun y hy hne hsame => ?_⟩
  · rw [hopposite, hopposite, value_flip, neg_neg, ← value_flip]
    exact h.nearest y.flip hy
  · rw [hopposite, hopposite, value_flip, neg_neg, ← value_flip] at hsame
    refine h.even y.flip hy (fun he => hne ?_) hsame
    rw [value_flip, ← he, value_flip, neg_neg]

/-- What is left of a ratio in its last place: at most 53 bits, and no fewer if there is a lower
place. -/
theorem mantissaAt_spec (hnum : num ≠ 0) (hden : den ≠ 0) :
    mantissaAt num den (exponentFor num den) ≤ twoTo 53 ∧
      (exponentFor num den = minExponent ∨
        twoTo 52 ≤ mantissaAt num den (exponentFor num den)) := by
  obtain ⟨-, hhigh, hlow⟩ := exponentFor_spec hnum hden
  have hm := nearestEven_mantissaAt num hden (exponentFor num den)
  constructor
  · have hle : ((mantissaAt num den (exponentFor num den) : Nat) : ℤ) ≤ (twoTo 53 : Nat) :=
      hm.le_of_le (by rw [Int.cast_natCast, cast_twoTo]; exact hhigh.le)
    exact_mod_cast hle
  · refine hlow.imp_right fun hlow => ?_
    have hle : ((twoTo 52 : Nat) : ℤ) ≤ (mantissaAt num den (exponentFor num den) : Nat) :=
      hm.le_of_ge (by rw [Int.cast_natCast, cast_twoTo]; exact hlow)
    exact_mod_cast hle

/-- What the ratio is rounded to before it is told whether that is in the range. -/
def roundedAt (negative : Bool) (m : Nat) (e : ℤ) : Binary64 :=
  if m = twoTo 53 then ⟨negative, twoTo 52, e + 1⟩ else ⟨negative, m, e⟩

theorem ofRatio_eq (negative : Bool) (hnum : num ≠ 0) :
    ofRatio negative num den =
      let x := roundedAt negative (mantissaAt num den (exponentFor num den)) (exponentFor num den)
      if x.exponent ≤ maxExponent then some x else none := by
  rw [ofRatio, if_neg hnum]
  rfl

theorem value_roundedAt (m : Nat) (e : ℤ) : (roundedAt false m e).value = m * 2 ^ e := by
  unfold roundedAt
  split
  · next h =>
    rw [h, value, zpow_add_one₀ two_ne_zero]
    simp only [Bool.false_eq_true, if_false, one_mul, cast_twoTo]
    ring
  · simp [value]

theorem roundedAt_canonical {negative : Bool} {m : Nat} (hm : m ≤ twoTo 53) (he : minExponent ≤ e)
    (hplace : e = minExponent ∨ twoTo 52 ≤ m)
    (hmax : (roundedAt negative m e).exponent ≤ maxExponent) :
    (roundedAt negative m e).Canonical := by
  unfold roundedAt at hmax ⊢
  split at hmax <;> rename_i hfull
  · rw [if_pos hfull]
    exact ⟨(by decide : twoTo 52 < twoTo 53), by dsimp only; omega, hmax, .inl le_rfl⟩
  · rw [if_neg hfull]
    exact ⟨lt_of_le_of_ne hm hfull, he, hmax, hplace.symm⟩

/-- From here on a number is rounded past the range. -/
def limit : ℚ := (2 ^ 53 - 1 / 2) * 2 ^ maxExponent

theorem maxExponent_lt_roundedAt_iff (negative : Bool) (hnum : num ≠ 0) (hden : den ≠ 0) :
    maxExponent < (roundedAt negative (mantissaAt num den (exponentFor num den))
      (exponentFor num den)).exponent ↔ limit ≤ num / den := by
  obtain ⟨-, hhigh, hlow⟩ := exponentFor_spec hnum hden
  have hm := nearestEven_mantissaAt num hden (exponentFor num den)
  generalize mantissaAt num den (exponentFor num den) = m at *
  generalize exponentFor num den = e at *
  have hunit := two_pow_pos maxExponent
  have hexponent : (roundedAt negative m e).exponent = if m = twoTo 53 then e + 1 else e := by
    unfold roundedAt
    split <;> rfl
  rw [hexponent, limit]
  rcases lt_trichotomy e maxExponent with he | rfl | he
  · have hsmall : (num / den : ℚ) < (2 ^ 53 - 1 / 2) * 2 ^ maxExponent :=
      calc (num / den : ℚ) < 2 ^ 53 * 2 ^ e := (div_lt_iff₀ (two_pow_pos e)).mp hhigh
        _ ≤ 2 ^ 53 * 2 ^ (maxExponent - 1) :=
            mul_le_mul_of_nonneg_left (two_pow_le_two_pow (by omega)) (by positivity)
        _ = 2 ^ 52 * 2 ^ maxExponent := by
            rw [zpow_sub_one₀ two_ne_zero]
            ring
        _ ≤ (2 ^ 53 - 1 / 2) * 2 ^ maxExponent :=
            mul_le_mul_of_nonneg_right (by norm_num) hunit.le
    refine iff_of_false ?_ (not_le.mpr hsmall)
    split <;> omega
  · rw [← le_div_iff₀ hunit]
    constructor
    · intro hpast
      have hfull : m = twoTo 53 := by
        by_contra hne
        rw [if_neg hne] at hpast
        exact lt_irrefl _ hpast
      have hhalf := hm.le_half
      rw [hfull, Int.cast_natCast, cast_twoTo, abs_le] at hhalf
      linarith
    · intro hpast
      have hfull : NearestEven (num / den / 2 ^ maxExponent) (twoTo 53 : Nat) := by
        have hbelow : |(num / den / 2 ^ maxExponent : ℚ) - ((twoTo 53 : Nat) : ℤ)| ≤ 1 / 2 := by
          rw [Int.cast_natCast, cast_twoTo, abs_le]
          constructor <;> linarith
        exact .of_half hbelow fun _ => by decide
      have hsame : m = twoTo 53 := by exact_mod_cast hm.unique hfull
      rw [if_pos hsame]
      omega
  · refine iff_of_true (by split <;> omega) ?_
    have hlarge := hlow.resolve_left (by rw [minExponent]; rw [maxExponent] at he; omega)
    calc (2 ^ 53 - 1 / 2 : ℚ) * 2 ^ maxExponent ≤ 2 ^ 53 * 2 ^ maxExponent :=
          mul_le_mul_of_nonneg_right (by norm_num) hunit.le
      _ = 2 ^ 52 * 2 ^ (maxExponent + 1) := by
          rw [zpow_add_one₀ two_ne_zero]
          ring
      _ ≤ 2 ^ 52 * 2 ^ e :=
          mul_le_mul_of_nonneg_left (two_pow_le_two_pow (by omega)) (by positivity)
      _ ≤ num / den := (le_div_iff₀ (two_pow_pos e)).mp hlarge

/-- The answer to rounding: the nearest number, or none past the range. -/
def Rounds (q : ℚ) : Option Binary64 → Prop
  | some x => |q| < limit ∧ IsRounded q x
  | none => limit ≤ |q|

theorem limit_pos : 0 < limit := mul_pos (by norm_num) (two_pow_pos _)

def sign (negative : Bool) : ℚ := if negative then -1 else 1

theorem abs_sign_mul (negative : Bool) {q : ℚ} (h : 0 ≤ q) : |sign negative * q| = q := by
  cases negative <;> simp [sign, abs_of_nonneg h]

theorem IsRounded.signed (h : IsRounded q (roundedAt false m.toNat e)) (negative : Bool) :
    IsRounded (sign negative * q) (roundedAt negative m.toNat e) := by
  cases negative with
  | false => simpa [sign] using h
  | true =>
    have hflip : (roundedAt false m.toNat e).flip = roundedAt true m.toNat e := by
      unfold roundedAt
      split <;> rfl
    have hsigned := h.flip
    rw [hflip] at hsigned
    simpa [sign] using hsigned

theorem rounds_ofRatio (negative : Bool) (num : Nat) (hden : den ≠ 0) :
    Rounds (sign negative * (num / den)) (ofRatio negative num den) := by
  by_cases hnum : num = 0
  · rw [ofRatio, if_pos hnum, hnum, Nat.cast_zero, zero_div, mul_zero]
    exact ⟨by rw [abs_zero]; exact limit_pos, isRounded_zero negative⟩
  have hnonneg : (0 : ℚ) ≤ num / den := by positivity
  rw [ofRatio_eq negative hnum]
  dsimp only
  split
  · next hmax =>
    have hpast := (maxExponent_lt_roundedAt_iff negative hnum hden).not.mp
      (not_lt.mpr hmax)
    refine ⟨by rw [abs_sign_mul negative hnonneg]; exact not_le.mp hpast, ?_⟩
    obtain ⟨hmin, -, hplace⟩ := exponentFor_spec hnum hden
    obtain ⟨hsize, hfull⟩ := mantissaAt_spec hnum hden
    have hmax' : (roundedAt false (mantissaAt num den (exponentFor num den))
        (exponentFor num den)).exponent ≤ maxExponent :=
      not_lt.mp ((maxExponent_lt_roundedAt_iff _ hnum hden).not.mpr hpast)
    refine IsRounded.signed (m := mantissaAt num den (exponentFor num den)) ?_ negative
    rw [Int.toNat_natCast]
    refine isRounded_of_nearestEven (roundedAt_canonical hsize hmin hfull hmax')
      (value_roundedAt _ _) (fun heven => ?_) (nearestEven_mantissaAt num hden _) hplace
    unfold roundedAt
    split
    · exact (by decide : Even (twoTo 52))
    · exact_mod_cast heven
  · next hmax =>
    change limit ≤ |_|
    rw [abs_sign_mul negative hnonneg]
    exact (maxExponent_lt_roundedAt_iff _ hnum hden).mp (not_le.mp hmax)

theorem rounds_ofInt (n : ℤ) : Rounds n (ofInt n) := by
  have hvalue : (n : ℚ) = sign (n < 0) * ((n.natAbs : Nat) / (1 : Nat)) := by
    rw [sign, Nat.cast_one, div_one]
    rcases lt_or_ge n 0 with h | h
    · rw [if_pos (by simpa using h), neg_one_mul, Nat.cast_natAbs, abs_of_neg h]
      push_cast
      ring
    · rw [if_neg (by simpa using h), one_mul, Nat.cast_natAbs, abs_of_nonneg h]
  rw [hvalue]
  exact rounds_ofRatio _ _ one_ne_zero

/-! ## Decimal numbers -/

@[simp] theorem cast_tenTo (n : Nat) : ((tenTo n : Nat) : ℚ) = 10 ^ n := by
  rw [tenTo, Nat.pow_eq, Nat.cast_pow, Nat.cast_ofNat]

theorem ten_pow_pos (e : ℤ) : (0 : ℚ) < 10 ^ e := zpow_pos (by norm_num) e

/-- Three bits make up less than one decimal digit. -/
theorem lt_ten_pow_size (digits : Nat) : (digits : ℚ) < 10 ^ (Nat.log2 digits / 3 + 1) := by
  have hbits : Nat.log2 digits + 1 ≤ 3 * (Nat.log2 digits / 3 + 1) := by omega
  have hlt : digits < 8 ^ (Nat.log2 digits / 3 + 1) :=
    calc digits < 2 ^ (Nat.log2 digits + 1) := Nat.lt_log2_self
      _ ≤ 2 ^ (3 * (Nat.log2 digits / 3 + 1)) := Nat.pow_le_pow_right two_pos hbits
      _ = 8 ^ (Nat.log2 digits / 3 + 1) := pow_mul 2 3 _
  calc (digits : ℚ) < 8 ^ (Nat.log2 digits / 3 + 1) := by exact_mod_cast hlt
    _ ≤ 10 ^ (Nat.log2 digits / 3 + 1) := pow_le_pow_left₀ (by norm_num) (by norm_num) _

/-- Less than half of the least number is rounded to zero. -/
theorem isRounded_zero_of_small (negative : Bool) (h : |q| < 2 ^ (minExponent - 1)) :
    IsRounded q (zero negative) := by
  have hunit := two_pow_pos minExponent
  have hhalf : |q / 2 ^ minExponent| < 1 / 2 := by
    rw [abs_div, abs_of_pos hunit, div_lt_iff₀ hunit]
    exact h.trans_eq (by rw [zpow_sub_one₀ two_ne_zero]; ring)
  refine isRounded_of_nearestEven (m := 0) (zero_canonical negative) ?_ (fun _ => Even.zero)
    (.of_half ?_ fun _ => Even.zero) (.inl rfl)
  · simp [value, zero]
  · rw [Int.cast_zero, sub_zero]
    exact hhalf.le

theorem ten_pow_lt_least : (10 : ℚ) ^ (-401 : ℤ) ≤ 2 ^ (minExponent - 1) :=
  calc (10 : ℚ) ^ (-401 : ℤ) ≤ (2 ^ 3) ^ (-401 : ℤ) := by
        rw [zpow_neg, zpow_neg]
        refine inv_anti₀ (zpow_pos (by norm_num) _) ?_
        exact zpow_le_zpow_left₀ (by norm_num) (by norm_num) (by norm_num)
    _ = 2 ^ (-1203 : ℤ) := by
        rw [← zpow_natCast (2 : ℚ) 3, ← zpow_mul]
        rfl
    _ ≤ 2 ^ (minExponent - 1) := two_pow_le_two_pow (by decide)

theorem limit_le_ten_pow : limit ≤ 10 ^ (401 : ℤ) :=
  calc limit ≤ 2 ^ (53 : ℤ) * 2 ^ maxExponent :=
        mul_le_mul_of_nonneg_right (by norm_num) (two_pow_pos _).le
    _ = 2 ^ (53 + maxExponent) := (zpow_add₀ two_ne_zero _ _).symm
    _ ≤ 2 ^ (1203 : ℤ) := two_pow_le_two_pow (by decide)
    _ = (2 ^ 3) ^ (401 : ℤ) := by
        rw [← zpow_natCast (2 : ℚ) 3, ← zpow_mul]
        rfl
    _ ≤ 10 ^ (401 : ℤ) := zpow_le_zpow_left₀ (by norm_num) (by norm_num) (by norm_num)

/-- What decimal notation says is rounded correctly, however large its power of ten. -/
theorem rounds_ofDecimal (negative : Bool) (digits : Nat) (power : ℤ) :
    Rounds (sign negative * (digits * 10 ^ power)) (ofDecimal negative digits power) := by
  have hnonneg : (0 : ℚ) ≤ digits * 10 ^ power := mul_nonneg (Nat.cast_nonneg _) (ten_pow_pos _).le
  unfold ofDecimal
  dsimp only
  split_ifs with hzero hlarge hsmall hwhole
  · rw [hzero, Nat.cast_zero, zero_mul, mul_zero]
    exact ⟨by rw [abs_zero]; exact limit_pos, isRounded_zero negative⟩
  · change limit ≤ |_|
    rw [abs_sign_mul negative hnonneg]
    have hone : (1 : ℚ) ≤ digits := by exact_mod_cast Nat.one_le_iff_ne_zero.mpr hzero
    calc limit ≤ 10 ^ (401 : ℤ) := limit_le_ten_pow
      _ ≤ 10 ^ power := zpow_le_zpow_right₀ (by norm_num) (by omega)
      _ ≤ digits * 10 ^ power := le_mul_of_one_le_left (ten_pow_pos _).le hone
  · have htiny : (digits : ℚ) * 10 ^ power < 2 ^ (minExponent - 1) :=
      calc (digits : ℚ) * 10 ^ power
          < 10 ^ (Nat.log2 digits / 3 + 1) * 10 ^ power :=
            mul_lt_mul_of_pos_right (lt_ten_pow_size digits) (ten_pow_pos _)
        _ = 10 ^ (((Nat.log2 digits / 3 + 1 : Nat) : ℤ) + power) := by
            rw [zpow_add₀ (by norm_num), zpow_natCast]
        _ ≤ 10 ^ (-401 : ℤ) := zpow_le_zpow_right₀ (by norm_num) (by push_cast; omega)
        _ ≤ 2 ^ (minExponent - 1) := ten_pow_lt_least
    have habs : |sign negative * (digits * 10 ^ power)| < 2 ^ (minExponent - 1) := by
      rwa [abs_sign_mul negative hnonneg]
    refine ⟨habs.trans ?_, isRounded_zero_of_small negative habs⟩
    calc (2 : ℚ) ^ (minExponent - 1) ≤ 1 * 2 ^ maxExponent := by
          rw [one_mul]
          exact two_pow_le_two_pow (by decide)
      _ < limit := mul_lt_mul_of_pos_right (by norm_num) (two_pow_pos _)
  · obtain ⟨n, rfl⟩ := Int.eq_ofNat_of_zero_le hwhole
    have hratio := rounds_ofRatio negative (digits * tenTo n) one_ne_zero
    simpa using hratio
  · obtain ⟨n, rfl⟩ := Int.exists_eq_neg_ofNat (Int.le_of_lt (Int.not_le.mp hwhole))
    have hratio := rounds_ofRatio negative digits (tenTo_pos n).ne'
    simpa [div_eq_mul_inv] using hratio

end Binary64
end Stencil
