import Stencil.Coercion
import Stencil.Proofs.Number.Rounding

/-! A value converted to an integer: the nearest one, short of the upper limit. -/
namespace Stencil

/-- The numbers that a document can hold. -/
def Number.Held : Number → Prop
  | int n => least ≤ n ∧ n ≤ greatest
  | float x => x.Canonical

def Json.Held : Json → Prop
  | .number n => n.Held
  | _ => True

/-- The number that a text says, before it is rounded. -/
def Decimal.said? (cs : List Char) : Option ℚ :=
  let (negative, cs) := takeSign cs
  if spelledOut cs then none
  else (unsigned? cs).map fun (digits, power) => Binary64.sign negative * (digits * 10 ^ power)

namespace Coercion
open Binary64

/-- The number that a value is or its text says, before it is rounded. -/
def said? : Json → Option ℚ
  | .number (.int n) => some n
  | .number (.float x) => some x.value
  | v => Decimal.said? (Text.trim (textOf v)).toList

variable {v : Json} {x : Binary64} {q : ℚ} {k n : ℤ}

/-! ## Reading -/

theorem isRounded_of_rounds {o : Option Binary64} (h : Rounds q o) (hx : o = some x) :
    |q| < limit ∧ IsRounded q x := by
  rw [hx] at h
  exact h

theorem exists_of_rounds {o : Option Binary64} (h : Rounds q o) (hq : |q| < limit) :
    ∃ x, o = some x := by
  cases o with
  | none => exact absurd hq (not_lt.mpr h)
  | some x => exact ⟨x, rfl⟩

theorem abs_value_lt_limit (h : x.Canonical) : |x.value| < limit := by
  have hmantissa : (x.mantissa : ℚ) ≤ 2 ^ 53 - 1 := by
    have hle : x.mantissa ≤ twoTo 53 - 1 := Nat.le_pred_of_lt h.1
    have hcast : ((twoTo 53 - 1 : Nat) : ℚ) = 2 ^ 53 - 1 := by
      rw [Nat.cast_sub (twoTo_pos 53), cast_twoTo, Nat.cast_one]
    rw [← hcast]
    exact_mod_cast hle
  rw [abs_value]
  calc (x.mantissa : ℚ) * 2 ^ x.exponent ≤ (2 ^ 53 - 1) * 2 ^ maxExponent :=
        mul_le_mul hmantissa (two_pow_le_two_pow h.2.2.1) (two_pow_pos _).le (by norm_num)
    _ < limit := mul_lt_mul_of_pos_right (by norm_num) (two_pow_pos _)

theorem isRounded_self (h : x.Canonical) : IsRounded x.value x where
  canonical := h
  nearest := fun y _ => by
    rw [sub_self, abs_zero]
    exact abs_nonneg _
  even := fun y _ hne hsame => by
    rw [sub_self, abs_zero, abs_eq_zero, sub_eq_zero] at hsame
    exact absurd hsame.symm hne

theorem abs_int_lt_limit (h : (Number.int n).Held) : |(n : ℚ)| < limit := by
  have hbits : |n| < 2 ^ 65 := by
    obtain ⟨hlow, hhigh⟩ := h
    rw [Number.least] at hlow
    rw [Number.greatest] at hhigh
    rw [abs_lt]
    omega
  calc |(n : ℚ)| < 2 ^ 65 := by exact_mod_cast hbits
    _ = 2 ^ (65 : ℤ) := by norm_cast
    _ ≤ 1 * 2 ^ maxExponent := by
        rw [one_mul]
        exact two_pow_le_two_pow (by decide)
    _ < limit := mul_lt_mul_of_pos_right (by norm_num) (two_pow_pos _)

theorem rounds_read? (s : String) :
    (∀ x, Decimal.read? s = some (.finite x) →
      ∃ q, Decimal.said? s.toList = some q ∧ |q| < limit ∧ IsRounded q x) ∧
    ∀ q, Decimal.said? s.toList = some q → |q| < limit →
      ∃ x, Decimal.read? s = some (.finite x) := by
  unfold Decimal.read? Decimal.said?
  obtain ⟨negative, cs⟩ := Decimal.takeSign s.toList
  dsimp only
  split
  · exact ⟨fun x h => by simp at h, fun q h => by simp at h⟩
  cases hread : Decimal.unsigned? cs with
  | none => exact ⟨fun x h => by simp at h, fun q h => by simp at h⟩
  | some decimal =>
    obtain ⟨digits, power⟩ := decimal
    have hrounds := rounds_ofDecimal negative digits power
    simp only [Option.map_some, Option.some.injEq]
    constructor
    · intro x hx
      split at hx
      · next y hy =>
        cases hx
        exact ⟨_, rfl, isRounded_of_rounds hrounds hy⟩
      · cases hx
    · rintro q rfl hq
      obtain ⟨x, hx⟩ := exists_of_rounds hrounds hq
      exact ⟨x, by rw [hx]⟩

/-- A value that is no number is read by its text. -/
theorem reads_text (h : ∀ n, v ≠ .number n) :
    numberOf? v = Decimal.read? (Text.trim (textOf v)) ∧
      said? v = Decimal.said? (Text.trim (textOf v)).toList := by
  cases v with
  | number n => exact absurd rfl (h n)
  | null | bool | string | array | object => exact ⟨rfl, rfl⟩

/-- A value is read as the nearest binary64 number, unless what it says is past the range. -/
theorem numberOf?_spec (hv : v.Held) :
    (∀ x, numberOf? v = some (.finite x) → ∃ q, said? v = some q ∧ |q| < limit ∧ IsRounded q x) ∧
    ∀ q, said? v = some q → |q| < limit → ∃ x, numberOf? v = some (.finite x) := by
  by_cases hnumber : ∃ n, v = .number n
  · obtain ⟨n, rfl⟩ := hnumber
    cases n with
    | int n =>
      have hsmall := abs_int_lt_limit hv
      obtain ⟨x, hx⟩ := exists_of_rounds (rounds_ofInt n) hsmall
      have hread : numberOf? (.number (.int n)) = some (.finite x) := by
        simp [numberOf?, Number.toBinary64, hx]
      refine ⟨fun y hy => ⟨n, rfl, ?_⟩, fun _ _ _ => ⟨x, hread⟩⟩
      rw [hread] at hy
      cases hy
      exact isRounded_of_rounds (rounds_ofInt n) hx
    | float x =>
      refine ⟨fun y hy => ?_, fun _ _ _ => ⟨x, rfl⟩⟩
      cases hy
      exact ⟨_, rfl, abs_value_lt_limit hv, isRounded_self hv⟩
  · obtain ⟨hread, hsaid⟩ := reads_text (not_exists.mp hnumber)
    rw [hread, hsaid]
    exact rounds_read? _

/-! ## The integer -/

theorem toInt_of_finite (h : numberOf? v = some (.finite x)) (hk : NearestEven x.value k) :
    toInt v = if k < Number.least ∨ -Number.least < k
      then .error (failed int v "value is out of range for an integer")
      else .ok (.int (min k Number.greatestSigned)) := by
  rw [hk.unique (nearestEven_roundToEven x), toInt, finite, h]
  rfl

/-- The value reads as a number, and the integer is the nearest to it and has 64 bits. -/
def Denotes (v : Json) (n : ℤ) : Prop :=
  ∃ x, numberOf? v = some (.finite x) ∧ NearestEven x.value n ∧
    Number.least ≤ n ∧ n ≤ Number.greatestSigned

/-- The value reads as the first number past the integers of 64 bits. -/
def IsPast (v : Json) : Prop := ∃ x, numberOf? v = some (.finite x) ∧ x.value = 2 ^ 63

theorem Denotes.unique (hn : Denotes v n) (hk : Denotes v k) : n = k := by
  obtain ⟨x, hx, hn, -⟩ := hn
  obtain ⟨y, hy, hk, -⟩ := hk
  obtain rfl : x = y := by simpa [hx] using hy
  exact hn.unique hk

theorem nearestEven_past (h : x.value = 2 ^ 63) : NearestEven x.value (2 ^ 63) := by
  have hcast : ((2 ^ 63 : ℤ) : ℚ) = 2 ^ 63 := by norm_num
  rw [h, ← hcast]
  exact .intCast _

theorem IsPast.not_denotes (h : IsPast v) (n : ℤ) : ¬ Denotes v n := by
  rintro ⟨y, hy, hn, -, hhigh⟩
  obtain ⟨x, hx, hvalue⟩ := h
  obtain rfl : x = y := by simpa [hx] using hy
  rw [hn.unique (nearestEven_past hvalue), Number.greatestSigned] at hhigh
  exact absurd hhigh (by decide)

theorem toInt_of_denotes (h : Denotes v n) : toInt v = .ok (.int n) := by
  obtain ⟨x, hx, hn, hlow, hhigh⟩ := h
  have hrange : ¬ (n < Number.least ∨ -Number.least < n) := by
    rw [Number.least] at hlow ⊢
    rw [Number.greatestSigned] at hhigh
    omega
  rw [toInt_of_finite hx hn, if_neg hrange, min_eq_left hhigh]

theorem toInt_of_isPast (h : IsPast v) : toInt v = .ok (.int Number.greatestSigned) := by
  obtain ⟨x, hx, hvalue⟩ := h
  rw [toInt_of_finite hx (nearestEven_past hvalue), if_neg (by decide)]
  rfl

/-- What is no number, or none of 64 bits, is refused. -/
theorem toInt_of_not_denotes (hv : v.Held) (hnot : ∀ n, ¬ Denotes v n) (hpast : ¬ IsPast v) :
    ∃ reason, toInt v = .error (failed int v reason) := by
  cases hread : numberOf? v with
  | none => exact ⟨"value is not a number", by rw [toInt, finite, hread]; rfl⟩
  | some reading =>
    cases reading with
    | notFinite => exact ⟨"value is not a finite number", by rw [toInt, finite, hread]; rfl⟩
    | finite x =>
      have hk := nearestEven_roundToEven x
      refine ⟨"value is out of range for an integer", ?_⟩
      rw [toInt_of_finite hread hk, if_pos]
      by_contra hrange
      rw [not_or, not_lt, not_lt] at hrange
      obtain ⟨hlow, hhigh⟩ := hrange
      rcases (Int.le_iff_lt_or_eq.mp hhigh) with hbelow | hlimit
      · refine hnot _ ⟨x, hread, hk, hlow, ?_⟩
        rw [Number.least] at hbelow
        rw [Number.greatestSigned]
        omega
      · -- Numbers of this size are integers, so that only the limit itself comes to it.
        have hcanonical : x.Canonical := by
          obtain ⟨q, -, -, hrounded⟩ := (numberOf?_spec hv).1 x hread
          exact hrounded.canonical
        rw [hlimit] at hk
        refine hpast ⟨x, hread, ?_⟩
        rw [value_eq_of_nearestEven hcanonical hk (by decide)]
        norm_num [Number.least]

/-- Conversion to an integer. What a value says is read as the nearest binary64 number `x`. The
answer is the integer nearest to `x` if that has 64 bits; it is wrong only for `2 ^ 63`, which
becomes the integer before it; everything else is refused. -/
theorem apply_int_spec (hv : v.Held) :
    ((∀ x, numberOf? v = some (.finite x) →
        ∃ q, said? v = some q ∧ |q| < limit ∧ IsRounded q x) ∧
      ∀ q, said? v = some q → |q| < limit → ∃ x, numberOf? v = some (.finite x)) ∧
    (∀ n, int.apply v = .ok (.int n) ↔ Denotes v n ∨ IsPast v ∧ n = Number.greatestSigned) ∧
    ((∀ n, int.apply v ≠ .ok (.int n)) → ∃ reason, int.apply v = .error (failed int v reason)) ∧
    ((∀ n, int.apply v = .ok (.int n) ↔ Denotes v n) ↔ ¬ IsPast v) := by
  have hint : int.apply v = toInt v := rfl
  have hok : ∀ n, toInt v = .ok (.int n) ↔
      Denotes v n ∨ IsPast v ∧ n = Number.greatestSigned := by
    intro n
    constructor
    · intro h
      by_cases hpast : IsPast v
      · rw [toInt_of_isPast hpast] at h
        cases h
        exact .inr ⟨hpast, rfl⟩
      · by_cases hsome : ∃ k, Denotes v k
        · obtain ⟨k, hk⟩ := hsome
          rw [toInt_of_denotes hk] at h
          cases h
          exact .inl hk
        · obtain ⟨reason, hreason⟩ := toInt_of_not_denotes hv (not_exists.mp hsome) hpast
          rw [hreason] at h
          cases h
    · rintro (h | ⟨h, rfl⟩)
      · exact toInt_of_denotes h
      · exact toInt_of_isPast h
  rw [hint]
  refine ⟨numberOf?_spec hv, hok, fun hnone => ?_, fun h hpast => ?_, fun hpast n => ?_⟩
  · refine toInt_of_not_denotes hv (fun n hn => hnone n ?_) fun hpast => hnone Number.greatestSigned ?_
    · exact toInt_of_denotes hn
    · exact toInt_of_isPast hpast
  · exact hpast.not_denotes _ ((h _).mp (toInt_of_isPast hpast))
  · rw [hok n]
    exact or_iff_left fun h => hpast h.1

/-- A half goes to the even neighbour. -/
theorem apply_int_half : (Json.string " 2.5 ").Held ∧ Denotes (.string " 2.5 ") 2 ∧
    ¬ IsPast (.string " 2.5 ") ∧ int.apply (.string " 2.5 ") = .ok (.int 2) := by
  have hheld : (Json.string " 2.5 ").Held := trivial
  have hread : numberOf? (.string " 2.5 ") = some (.finite ⟨false, 5629499534213120, -51⟩) := by
    decide +kernel
  have hround : roundToEven ⟨false, 5629499534213120, -51⟩ = 2 := by decide
  have hdenotes : Denotes (.string " 2.5 ") 2 :=
    ⟨_, hread, hround ▸ nearestEven_roundToEven _, by decide, by decide⟩
  obtain ⟨-, hok, -, -⟩ := apply_int_spec hheld
  exact ⟨hheld, hdenotes, fun hpast => hpast.not_denotes 2 hdenotes, (hok 2).mpr (.inl hdenotes)⟩

theorem isPast_limit : IsPast (.string "9223372036854775808") := by
  refine ⟨⟨false, 4503599627370496, 11⟩, by decide +kernel, ?_⟩
  norm_num [value]

/-- The text of `2 ^ 63`, the first integer past 64 bits, is taken for the one before it. -/
theorem limit_not_refused : ¬ ∀ v : Json, v.Held → ∀ n : ℤ,
    int.apply v = .ok (.int n) ↔ Denotes v n := fun h =>
  isPast_limit.not_denotes Number.greatestSigned
    ((h (.string "9223372036854775808") trivial _).mp (toInt_of_isPast isPast_limit))

end Coercion
end Stencil
