import Stencil.Json.Printer
import Stencil.Json.Reader
import Mathlib.Tactic.IntervalCases

/-! Blanks, strings and numbers: how they are written, and that what is read is what was written,
no more and no less. -/
namespace Stencil
namespace Json

open Text Reader

/-- Which texts write a thing. -/
abbrev Form := List Char → Prop

/-! ## Blanks -/

/-- Blanks between tokens. -/
def IsSkipped (cs : List Char) : Prop :=
  ∀ c ∈ cs, (c == ' ' || c == '\t' || c == '\n' || c == '\r') = true

theorem skip_append {blank : List Char} (h : IsSkipped blank) (cs : List Char) :
    skip (blank ++ cs) = skip cs := List.dropWhile_append_of_pos h

theorem exists_of_skip {cs tail : List Char} (h : skip cs = tail) :
    ∃ blank, IsSkipped blank ∧ cs = blank ++ tail := by
  subst h
  exact ⟨_, fun _ => List.all_eq_true.mp List.all_takeWhile _,
    List.takeWhile_append_dropWhile.symm⟩

theorem value?_skip {blank : List Char} (h : IsSkipped blank) (fuel depth : Nat)
    (cs : List Char) : value? fuel depth (blank ++ cs) = value? fuel depth cs := by
  cases fuel with
  | zero => simp [value?]
  | succ fuel => simp only [value?, skip_append h]

/-! ## Strings -/

/-- A code unit is written with four hexadecimal digits. -/
def IsUnit (n : Nat) : Form := fun digits => digits.length = 4 ∧ hexNumber? digits = some n

/-- A character by its code unit, or, beyond these, by a pair of surrogates. -/
inductive WritesUnits (c : Char) : Form
  | unit {digits : List Char} (h : IsUnit c.toNat digits) : WritesUnits c digits
  | pair {high low : Nat} {first second : List Char} (hfirst : IsUnit high first)
      (hsecond : IsUnit low second) (hhigh : 0xD800 ≤ high ∧ high < 0xDC00)
      (hlow : 0xDC00 ≤ low ∧ low < 0xE000)
      (h : c.toNat = 0x10000 + (high - 0xD800) * 0x400 + (low - 0xDC00)) :
      WritesUnits c (first ++ '\\' :: 'u' :: second)

/-- The characters that have an escape of their own, each behind its name. -/
def escapes : List (Char × Char) :=
  [('"', '"'), ('\\', '\\'), ('/', '/'), ('b', '\x08'), ('f', '\x0c'), ('n', '\n'), ('r', '\r'),
    ('t', '\t')]

/-- What stands for a character behind a backslash. -/
inductive WritesEscape (c : Char) : Form
  | named {name : Char} (h : (name, c) ∈ escapes) : WritesEscape c [name]
  | units {text : List Char} (h : WritesUnits c text) : WritesEscape c ('u' :: text)

inductive WritesChar (c : Char) : Form
  | plain (hquote : c ≠ '"') (hslash : c ≠ '\\') (hcontrol : 0x20 ≤ c.toNat) : WritesChar c [c]
  | escaped {text : List Char} (h : WritesEscape c text) : WritesChar c ('\\' :: text)

def WritesChars : List Char → Form
  | [] => (· = [])
  | c :: cs => fun text =>
    ∃ first more, WritesChar c first ∧ WritesChars cs more ∧ text = first ++ more

def quoted (s : String) : Form := fun cs =>
  ∃ inner, WritesChars s.toList inner ∧ cs = '"' :: (inner ++ ['"'])

theorem unit?_append {n : Nat} {digits : List Char} (h : IsUnit n digits) (rest : List Char) :
    unit? (digits ++ rest) = some (n, rest) := by
  obtain ⟨hlength, hnumber⟩ := h
  match digits, hlength with
  | [a, b, c, d], _ => simp [unit?, hnumber]

theorem exists_of_unit? {cs rest : List Char} {n : Nat} (h : unit? cs = some (n, rest)) :
    ∃ digits, IsUnit n digits ∧ cs = digits ++ rest := by
  unfold unit? at h
  split at h
  · next a b c d tail =>
    obtain ⟨m, hm, heq⟩ := Option.map_eq_some_iff.mp h
    obtain ⟨rfl, rfl⟩ := Prod.mk.inj heq
    exact ⟨[a, b, c, d], ⟨rfl, hm⟩, rfl⟩
  · cases h

theorem scalar?_eq_some_iff {n : Nat} {c : Char} : scalar? n = some c ↔ c.toNat = n := by
  unfold scalar?
  split
  · next h =>
    rw [Option.some.injEq]
    constructor
    · rintro rfl
      rw [Char.ofNat, dif_pos h]
      rfl
    · rintro rfl
      exact Char.ofNat_toNat c
  · next h =>
    refine ⟨(nomatch ·), ?_⟩
    rintro rfl
    exact absurd c.valid h

theorem unicodeEscape?_append {c : Char} {text : List Char} (h : WritesUnits c text)
    (rest : List Char) : unicodeEscape? (text ++ rest) = some (c, rest) := by
  cases h with
  | unit h =>
    have hsurrogate : ¬ (0xD800 ≤ c.toNat ∧ c.toNat < 0xDC00) := by
      have hvalid : c.toNat < 0xD800 ∨ 0xDFFF < c.toNat ∧ c.toNat < 0x110000 := c.valid
      omega
    have hscalar : scalar? c.toNat = some c := scalar?_eq_some_iff.mpr rfl
    simp [unicodeEscape?, unit?_append h, hsurrogate, hscalar]
  | pair hfirst hsecond hhigh hlow hc =>
    simp [unicodeEscape?, unit?_append hfirst, unit?_append hsecond, hhigh, hlow,
      scalar?_eq_some_iff.mpr hc]

theorem exists_of_unicodeEscape? {cs rest : List Char} {c : Char}
    (h : unicodeEscape? cs = some (c, rest)) : ∃ text, WritesUnits c text ∧ cs = text ++ rest := by
  simp only [unicodeEscape?, Option.bind_eq_bind, Option.bind_eq_some_iff, Prod.exists] at h
  obtain ⟨high, tail, hunit, h⟩ := h
  obtain ⟨first, hfirst, rfl⟩ := exists_of_unit? hunit
  split at h
  · next hhigh =>
    split at h
    · simp only [Option.bind_eq_some_iff, Prod.exists] at h
      obtain ⟨low, tail, hunit, h⟩ := h
      obtain ⟨second, hsecond, rfl⟩ := exists_of_unit? hunit
      split at h
      · next hlow =>
        obtain ⟨d, hd, heq⟩ := Option.bind_eq_some_iff.mp h
        obtain ⟨rfl, rfl⟩ := Prod.mk.inj (Option.some.inj heq)
        exact ⟨_, .pair hfirst hsecond hhigh hlow (scalar?_eq_some_iff.mp hd), by simp⟩
      · cases h
    · cases h
  · obtain ⟨d, hd, heq⟩ := Option.bind_eq_some_iff.mp h
    obtain ⟨rfl, rfl⟩ := Prod.mk.inj (Option.some.inj heq)
    exact ⟨first, .unit (scalar?_eq_some_iff.mp hd ▸ hfirst), rfl⟩

theorem escape?_append {c : Char} {text : List Char} (h : WritesEscape c text)
    (rest : List Char) : escape? (text ++ rest) = some (c, rest) := by
  cases h with
  | named h =>
    simp only [escapes, List.mem_cons, Prod.mk.injEq, List.not_mem_nil, or_false] at h
    rcases h with ⟨rfl, rfl⟩ | ⟨rfl, rfl⟩ | ⟨rfl, rfl⟩ | ⟨rfl, rfl⟩ | ⟨rfl, rfl⟩ | ⟨rfl, rfl⟩ |
      ⟨rfl, rfl⟩ | ⟨rfl, rfl⟩ <;> rfl
  | units h => simpa [escape?] using unicodeEscape?_append h rest

theorem exists_of_escape? {cs rest : List Char} {c : Char} (h : escape? cs = some (c, rest)) :
    ∃ text, WritesEscape c text ∧ cs = text ++ rest := by
  unfold escape? at h
  split at h
  case h_9 =>
    obtain ⟨text, hunits, rfl⟩ := exists_of_unicodeEscape? h
    exact ⟨_, .units hunits, rfl⟩
  case h_10 => cases h
  all_goals
    obtain ⟨rfl, rfl⟩ := Prod.mk.inj (Option.some.inj h)
    exact ⟨_, .named (by simp [escapes]), rfl⟩

/-- A written character is taken in one step. -/
theorem text?_char {c : Char} {text : List Char} (h : WritesChar c text) (fuel : Nat)
    (acc rest : List Char) : text? (fuel + 1) acc (text ++ rest) = text? fuel (c :: acc) rest := by
  cases h with
  | plain hquote hslash hcontrol => simp [text?, hquote, hslash, Nat.not_lt.mpr hcontrol]
  | escaped h => simp [text?, escape?_append h]

theorem ne_nil_of_writesChar {c : Char} {text : List Char} (h : WritesChar c text) :
    text ≠ [] := by
  cases h <;> simp

theorem length_le_of_writesChars {cs text : List Char} (h : WritesChars cs text) :
    cs.length ≤ text.length := by
  induction cs generalizing text with
  | nil => simp
  | cons c cs ih =>
    obtain ⟨first, more, hfirst, hmore, rfl⟩ := h
    have hpos := List.length_pos_iff.mpr (ne_nil_of_writesChar hfirst)
    have hle := ih hmore
    simp only [List.length_cons, List.length_append]
    omega

theorem text?_chars {cs text : List Char} (h : WritesChars cs text) (acc rest : List Char)
    {fuel : Nat} (hfuel : cs.length < fuel) :
    text? fuel acc (text ++ '"' :: rest) = some (String.ofList (acc.reverse ++ cs), rest) := by
  induction cs generalizing text acc fuel with
  | nil =>
    obtain ⟨fuel, rfl⟩ : ∃ m, fuel = m + 1 := ⟨fuel - 1, by simp at hfuel; omega⟩
    obtain rfl : text = [] := h
    simp [text?]
  | cons c cs ih =>
    obtain ⟨fuel, rfl⟩ : ∃ m, fuel = m + 1 := ⟨fuel - 1, by simp at hfuel; omega⟩
    obtain ⟨first, more, hfirst, hmore, rfl⟩ := h
    rw [List.append_assoc, text?_char hfirst, ih hmore (c :: acc) (by simpa using hfuel)]
    simp

theorem text?_of_writesChars {s : String} {chars : List Char} (h : WritesChars s.toList chars)
    (rest : List Char) :
    text? ((chars ++ '"' :: rest).length + 1) [] (chars ++ '"' :: rest) = some (s, rest) := by
  have hle := length_le_of_writesChars h
  rw [text?_chars h [] rest (by rw [List.length_append]; omega)]
  simp

theorem exists_of_text? {fuel : Nat} {acc cs rest : List Char} {s : String}
    (h : text? fuel acc cs = some (s, rest)) :
    ∃ new text, WritesChars new text ∧ s = String.ofList (acc.reverse ++ new) ∧
      cs = text ++ '"' :: rest := by
  induction fuel generalizing acc cs with
  | zero => cases h
  | succ fuel ih =>
    -- One character more, and then what was read after it.
    have hmore : ∀ {c : Char} {first tail : List Char}, WritesChar c first →
        text? fuel (c :: acc) tail = some (s, rest) →
        ∃ new text, WritesChars new text ∧ s = String.ofList (acc.reverse ++ new) ∧
          first ++ tail = text ++ '"' :: rest := by
      intro c first tail hfirst h
      obtain ⟨new, text, hnew, rfl, rfl⟩ := ih h
      exact ⟨c :: new, first ++ text, ⟨first, text, hfirst, hnew, rfl⟩, by simp, by simp⟩
    cases cs with
    | nil => cases h
    | cons c cs =>
      rw [text?] at h
      split at h
      · next hquote =>
        obtain ⟨rfl, rfl⟩ := Prod.mk.inj (Option.some.inj h)
        exact ⟨[], [], rfl, by simp, by simp [hquote]⟩
      · next hquote =>
        split at h
        · next hslash =>
          split at h
          · next d tail hescape =>
            obtain ⟨text, htext, rfl⟩ := exists_of_escape? hescape
            exact hslash ▸ hmore (.escaped htext) h
          · cases h
        · next hslash =>
          split at h
          · cases h
          · next hcontrol =>
            exact hmore (.plain hquote hslash (Nat.not_lt.mp hcontrol)) h

theorem hexValue?_hexDigit : ∀ n < 16, hexValue? (hexDigit n) = some n := by decide

theorem hexNumber?_control {n : Nat} (h : n < 0x20) :
    hexNumber? ['0', '0', hexDigit (n / 16), hexDigit (n % 16)] = some n := by
  have hhigh := hexValue?_hexDigit (n / 16) (by omega)
  have hlow := hexValue?_hexDigit (n % 16) (by omega)
  have hzero : hexValue? '0' = some 0 := by decide
  have hsum : 16 * (n / 16) + n % 16 = n := by omega
  simp [hexNumber?, hzero, hhigh, hlow, hsum]

theorem writesChar_escapeChar (c : Char) : WritesChar c (escapeChar c) := by
  by_cases hnamed : c = '"' ∨ c = '\\' ∨ c = '\n' ∨ c = '\r' ∨ c = '\t' ∨ c = '\x08' ∨ c = '\x0c'
  · rcases hnamed with rfl | rfl | rfl | rfl | rfl | rfl | rfl <;>
      exact .escaped (.named (by decide))
  · simp only [not_or] at hnamed
    obtain ⟨hquote, hslash, hn, hr, ht, hb, hf⟩ := hnamed
    simp only [escapeChar, hquote, hslash, hn, hr, ht, hb, hf, if_false]
    split
    · next hcontrol => exact .escaped (.units (.unit ⟨rfl, hexNumber?_control hcontrol⟩))
    · next hcontrol => exact .plain hquote hslash (Nat.not_lt.mp hcontrol)

theorem writesChars_flatMap (cs : List Char) : WritesChars cs (cs.flatMap escapeChar) := by
  induction cs with
  | nil => rfl
  | cons c cs ih => exact ⟨_, _, writesChar_escapeChar c, ih, List.flatMap_cons⟩

/-- A quoted text is one way to write it. -/
theorem quoted_quote (s : String) : quoted s (quote s).toList :=
  ⟨_, writesChars_flatMap s.toList, by simp [quote]⟩

/-! ## Numbers -/

theorem asciiDigit_of_isDigit {c : Char} (h : c.isDigit = true) : asciiDigit c = true := by
  simpa [asciiDigit, Char.isDigit, Char.le_def] using h

theorem le_ofDigitChars (cs : List Char) (n : Nat) : n ≤ Nat.ofDigitChars 10 cs n := by
  induction cs generalizing n with
  | nil => simp
  | cons c cs ih =>
    rw [Nat.ofDigitChars_cons]
    have hstep := ih (10 * n + (c.toNat - '0'.toNat))
    omega

/-- Digits are gathered whole while their number fits into 64 bits. -/
theorem gather_eq {cs : List Char} {n : Nat}
    (h : (Nat.ofDigitChars 10 cs n : Int) ≤ Number.greatest) :
    gather n cs = (Nat.ofDigitChars 10 cs n, cs.length) := by
  induction cs generalizing n with
  | nil => simp [gather]
  | cons c cs ih =>
    rw [Nat.ofDigitChars_cons] at h
    have hle := le_ofDigitChars cs (10 * n + (c.toNat - '0'.toNat))
    have hfits : ¬ Number.greatest < ((10 * n + (c.toNat - '0'.toNat) : Nat) : Int) := by omega
    have hvalue : digitValue c = c.toNat - '0'.toNat := rfl
    simp only [gather, hvalue, hfits, if_false, ih h, Nat.ofDigitChars_cons, List.length_cons]

theorem head?_toDigits {n : Nat} (h : 0 < n) : (Nat.toDigits 10 n).head? ≠ some '0' := by
  induction n using Nat.strongRecOn with
  | ind n ih =>
    by_cases hlt : n < 10
    · rw [Nat.toDigits_of_lt_base hlt]
      interval_cases n <;> decide
    · have hfront := ih (n / 10) (by omega) (by omega)
      obtain ⟨c, cs, hc⟩ := List.exists_cons_of_ne_nil (Nat.toDigits_ne_nil (n := n / 10) (b := 10))
      rw [Nat.toDigits_of_base_le (by decide) (Nat.le_of_not_lt hlt), hc]
      simpa [hc] using hfront

/-- A number is not followed by what would go on with it. -/
def EndsNumber (rest : List Char) : Prop :=
  ∀ c ∈ rest.head?, asciiDigit c = false ∧ c ≠ '.' ∧ c ≠ 'e' ∧ c ≠ 'E'

theorem endsNumber_nil : EndsNumber [] := by simp [EndsNumber]

theorem EndsNumber.skipped_append {blank rest : List Char} (hblank : IsSkipped blank)
    (h : EndsNumber rest) : EndsNumber (blank ++ rest) := by
  cases blank with
  | nil => exact h
  | cons c cs =>
    intro d hd
    obtain rfl : c = d := by simpa using hd
    have hc := hblank c (by simp)
    simp only [Bool.or_eq_true, beq_iff_eq] at hc
    rcases hc with ((rfl | rfl) | rfl) | rfl <;> decide

theorem spanDigits_append {digits rest : List Char} (hd : ∀ c ∈ digits, asciiDigit c = true)
    (hr : EndsNumber rest) : Decimal.spanDigits (digits ++ rest) = (digits, rest) := by
  have htake : ∀ {cs : List Char}, EndsNumber cs →
      cs.takeWhile asciiDigit = [] ∧ cs.dropWhile asciiDigit = cs := by
    intro cs hcs
    cases cs with
    | nil => simp
    | cons c cs => simp [(hcs c (by simp)).1]
  simp [Decimal.spanDigits, List.takeWhile_append_of_pos hd, List.dropWhile_append_of_pos hd,
    htake hr]

theorem number?_toDigits {n : Nat} (h : (n : Int) ≤ Number.greatest) {rest : List Char}
    (hr : EndsNumber rest) :
    number? (Nat.toDigits 10 n ++ rest) = some (.int n, rest) := by
  have hdigits : ∀ c ∈ Nat.toDigits 10 n, asciiDigit c = true := fun c hc =>
    asciiDigit_of_isDigit (Nat.isDigit_of_mem_toDigits (by decide) (by decide) hc)
  have hsign : ∀ cs, Nat.toDigits 10 n ++ rest ≠ '-' :: cs := by
    intro cs hc
    obtain ⟨c, ds, hds⟩ := List.exists_cons_of_ne_nil (Nat.toDigits_ne_nil (n := n) (b := 10))
    rw [hds, List.cons_append] at hc
    have hminus : c = '-' := (List.cons.inj hc).1
    have hdigit := hdigits c (by simp [hds])
    rw [hminus] at hdigit
    exact absurd hdigit (by decide)
  have hspan := spanDigits_append hdigits hr
  have hlead : ¬ ((Nat.toDigits 10 n).isEmpty = true ∨
      ((Nat.toDigits 10 n).head? = some '0' ∧ 1 < (Nat.toDigits 10 n).length)) := by
    rintro (hempty | ⟨hzero, hlong⟩)
    · exact Nat.toDigits_ne_nil (List.isEmpty_iff.mp hempty)
    · by_cases hn : n = 0
      · subst hn
        simp at hlong
      · exact head?_toDigits (Nat.pos_of_ne_zero hn) hzero
  have hfraction : fraction? rest = some (none, rest) := by
    cases rest with
    | nil => rfl
    | cons c cs =>
      have hc := (hr c (by simp)).2.1
      unfold fraction?
      split
      · next heq => exact absurd (List.cons.inj heq).1 hc
      · rfl
  have hexponent : exponent? rest = some (none, rest) := by
    cases rest with
    | nil => rfl
    | cons c cs =>
      have hc := (hr c (by simp)).2.2
      simp [exponent?, hc.1, hc.2]
  have hgather : gather 0 (Nat.toDigits 10 n) = (n, (Nat.toDigits 10 n).length) := by
    rw [gather_eq (by simpa using h), Nat.ofDigitChars_ten_toDigits]
  unfold number?
  split
  next negative cs hmatch =>
    split at hmatch
    · next tail heq => exact absurd heq (hsign tail)
    · obtain ⟨rfl, rfl⟩ := Prod.mk.inj hmatch
      simp only [hspan, hlead, if_false, hfraction, hexponent, hgather, Option.bind_eq_bind,
        Option.bind_some, Nat.sub_self, if_true, Bool.not_false]

theorem isDigit_of_asciiDigit {c : Char} (h : asciiDigit c = true) : c.isDigit = true := by
  simpa [asciiDigit, Char.isDigit, Char.le_def] using h

/-- Digits that were all gathered are the number that they write. -/
theorem fst_gather {cs : List Char} {n : Nat} (h : cs.length ≤ (gather n cs).2) :
    (gather n cs).1 = Nat.ofDigitChars 10 cs n := by
  induction cs generalizing n with
  | nil => rfl
  | cons c cs ih =>
    simp only [gather] at h ⊢
    split at h
    · exact absurd h (by simp)
    · next hfits =>
      rw [if_neg hfits]
      exact ih (Nat.le_of_succ_le_succ h)

theorem digitChar_digitValue {c : Char} (h : c.isDigit = true) :
    digitValue c < 10 ∧ (digitValue c).digitChar = c := by
  have hrange : 48 ≤ c.toNat ∧ c.toNat ≤ 57 := by
    simpa [Char.isDigit, UInt32.le_iff_toNat_le] using h
  have hlt : digitValue c < 10 := by
    simp only [digitValue]
    omega
  refine ⟨hlt, Char.toNat_inj.mp ?_⟩
  rw [Nat.toNat_digitChar_of_lt_ten hlt, digitValue]
  omega

theorem toDigits_ofDigitChars_append {cs : List Char} (hd : ∀ c ∈ cs, c.isDigit = true) {n : Nat}
    (hn : 0 < n) : Nat.toDigits 10 (Nat.ofDigitChars 10 cs n) = Nat.toDigits 10 n ++ cs := by
  induction cs generalizing n with
  | nil => simp
  | cons c cs ih =>
    obtain ⟨hlt, hchar⟩ := digitChar_digitValue (hd c (by simp))
    have hvalue : c.toNat - '0'.toNat = digitValue c := rfl
    have hlast := Nat.toDigits_append_toDigits (b := 10) (by decide) hn hlt
    rw [Nat.toDigits_of_lt_base hlt, hchar] at hlast
    rw [Nat.ofDigitChars_cons, hvalue, ih (fun d h => hd d (by simp [h])) (by omega), ← hlast]
    simp

/-- Digits without a leading zero are the decimal of the number that they write. -/
theorem toDigits_ofDigitChars {cs : List Char} (hd : ∀ c ∈ cs, c.isDigit = true) (hne : cs ≠ [])
    (hlead : ¬ (cs.head? = some '0' ∧ 1 < cs.length)) :
    Nat.toDigits 10 (Nat.ofDigitChars 10 cs 0) = cs := by
  obtain ⟨c, cs, rfl⟩ := List.exists_cons_of_ne_nil hne
  obtain ⟨hlt, hchar⟩ := digitChar_digitValue (hd c (by simp))
  have hvalue : 10 * 0 + (c.toNat - '0'.toNat) = digitValue c := by simp [digitValue]
  rw [Nat.ofDigitChars_cons, hvalue]
  rcases Nat.eq_zero_or_pos (digitValue c) with hzero | hpos
  · have hc : c = '0' := by rw [← hchar, hzero]; rfl
    subst hc
    have hnil : cs = [] := by simpa using hlead
    subst hnil
    rw [hzero]
    rfl
  · rw [toDigits_ofDigitChars_append (fun d h => hd d (by simp [h])) hpos,
      Nat.toDigits_of_lt_base hlt, hchar]
    rfl

theorem fraction?_none {cs rest : List Char} (h : fraction? cs = some (none, rest)) :
    cs = rest := by
  unfold fraction? at h
  split at h
  · dsimp only at h
    split at h
    · cases h
    · exact absurd (Prod.mk.inj (Option.some.inj h)).1 (by simp)
  · exact (Prod.mk.inj (Option.some.inj h)).2

theorem exponent?_none {cs rest : List Char} (h : exponent? cs = some (none, rest)) :
    cs = rest := by
  unfold exponent? at h
  split at h
  · split at h
    · dsimp only at h
      split at h
      · cases h
      · exact absurd (Prod.mk.inj (Option.some.inj h)).1 (by simp)
    · exact (Prod.mk.inj (Option.some.inj h)).2
  · exact (Prod.mk.inj (Option.some.inj h)).2

theorem toList_toString_natCast (n : Nat) :
    (toString (n : Int)).toList = Nat.toDigits 10 n := by
  rw [show toString (n : Int) = n.repr from rfl, Nat.toList_repr]

theorem toList_toString_neg {n : Nat} (h : 0 < n) :
    (toString (-(n : Int))).toList = '-' :: Nat.toDigits 10 n := by
  obtain ⟨m, rfl⟩ : ∃ m, n = m + 1 := ⟨n - 1, by omega⟩
  rw [show toString (-((m + 1 : Nat) : Int)) = "-" ++ (m + 1).repr from rfl]
  simp

/-- How a number is read: a sign, digits without a leading zero, and perhaps a fraction and a power.
It is an integer only without these two, and where all its digits were gathered. -/
theorem exists_of_number? {cs rest : List Char} {n : Number}
    (h : number? cs = some (n, rest)) :
    ∃ sign digits fraction tail power, cs = sign ++ digits ∧
      fraction? (digits.dropWhile asciiDigit) = some (fraction, tail) ∧
      exponent? tail = some (power, rest) ∧
      ∀ m, n = .int m → fraction = none ∧ power = none ∧
        (toString m).toList = sign ++ digits.takeWhile asciiDigit := by
  unfold number? at h
  split at h
  next negative digits hsign =>
    have hcs : cs = (if negative then ['-'] else []) ++ digits := by
      split at hsign <;>
        obtain ⟨rfl, rfl⟩ := Prod.mk.inj hsign <;> rfl
    dsimp only [Decimal.spanDigits] at h
    split at h
    · cases h
    next hlead =>
    rw [not_or] at hlead
    simp only [Option.bind_eq_bind, Option.bind_eq_some_iff, Prod.exists] at h
    obtain ⟨fraction, tail, hfraction, power, tail', hpower, h⟩ := h
    have hfloat : ∀ {x : Option Binary64}, x.map (fun x => (Number.float x, tail')) =
        some (n, rest) → tail' = rest ∧ ∀ m, n ≠ .int m := by
      intro x hx
      obtain ⟨y, -, hy⟩ := Option.map_eq_some_iff.mp hx
      obtain ⟨rfl, rfl⟩ := Prod.mk.inj hy
      exact ⟨rfl, nofun⟩
    suffices hn : tail' = rest ∧ ∀ m, n = .int m → fraction = none ∧ power = none ∧
        (toString m).toList =
          (if negative then ['-'] else []) ++ digits.takeWhile asciiDigit from
      ⟨_, digits, fraction, tail, power, hcs, hfraction, hn.1 ▸ hpower, hn.2⟩
    split at h
    · split at h
      · next hdropped =>
        have hdigits : Nat.toDigits 10 (gather 0 (digits.takeWhile asciiDigit)).1 =
            digits.takeWhile asciiDigit := by
          rw [fst_gather (Nat.le_of_sub_eq_zero hdropped), toDigits_ofDigitChars
            (fun c hc => isDigit_of_asciiDigit (List.all_eq_true.mp List.all_takeWhile c hc))
            (by simpa using hlead.1) hlead.2]
        rw [← hdigits]
        cases negative with
        | false =>
          obtain ⟨rfl, rfl⟩ := Prod.mk.inj (Option.some.inj h)
          refine ⟨rfl, fun m hm => ⟨rfl, rfl, ?_⟩⟩
          rw [← Number.int.inj hm, toList_toString_natCast]
          rfl
        | true =>
          split at h
          · next hsigned => cases hsigned
          · split at h
            · next hpos =>
              obtain ⟨rfl, rfl⟩ := Prod.mk.inj (Option.some.inj h)
              refine ⟨rfl, fun m hm => ⟨rfl, rfl, ?_⟩⟩
              rw [← Number.int.inj hm, toList_toString_neg hpos.1]
              rfl
            · exact ⟨(hfloat h).1, fun m hm => absurd hm ((hfloat h).2 m)⟩
      · exact ⟨(hfloat h).1, fun m hm => absurd hm ((hfloat h).2 m)⟩
    · exact ⟨(hfloat h).1, fun m hm => absurd hm ((hfloat h).2 m)⟩

/-- A number that is read as an integer is written as its decimal. -/
theorem eq_toString_of_number? {cs rest : List Char} {n : Int}
    (h : number? cs = some (.int n, rest)) : cs = (toString n).toList ++ rest := by
  obtain ⟨sign, digits, fraction, tail, power, rfl, hfraction, hpower, hint⟩ := exists_of_number? h
  obtain ⟨rfl, rfl, htext⟩ := hint n rfl
  rw [htext, ← exponent?_none hpower, ← fraction?_none hfraction, List.append_assoc,
    List.takeWhile_append_dropWhile]

theorem suffix_of_fraction? {cs rest : List Char} {fraction : Option (List Char)}
    (h : fraction? cs = some (fraction, rest)) : rest <:+ cs := by
  unfold fraction? at h
  split at h
  · dsimp only [Decimal.spanDigits] at h
    split at h
    · cases h
    · obtain ⟨-, rfl⟩ := Prod.mk.inj (Option.some.inj h)
      exact (List.dropWhile_suffix _).trans (List.suffix_cons _ _)
  · obtain ⟨-, rfl⟩ := Prod.mk.inj (Option.some.inj h)
    exact List.suffix_rfl

theorem suffix_of_exponent? {cs rest : List Char} {power : Option Int}
    (h : exponent? cs = some (power, rest)) : rest <:+ cs := by
  unfold exponent? at h
  split at h
  · next c cs =>
    split at h
    · dsimp only [Decimal.spanDigits] at h
      split at h
      · cases h
      · obtain ⟨-, rfl⟩ := Prod.mk.inj (Option.some.inj h)
        have hsign : (Decimal.takeSign cs).2 <:+ cs := by
          unfold Decimal.takeSign
          split <;> simp
        exact ((List.dropWhile_suffix _).trans hsign).trans (List.suffix_cons _ _)
    · obtain ⟨-, rfl⟩ := Prod.mk.inj (Option.some.inj h)
      exact List.suffix_rfl
  · obtain ⟨-, rfl⟩ := Prod.mk.inj (Option.some.inj h)
    exact List.suffix_rfl

theorem suffix_of_number? {cs rest : List Char} {n : Number}
    (h : number? cs = some (n, rest)) : rest <:+ cs := by
  obtain ⟨sign, digits, fraction, tail, power, rfl, hfraction, hpower, -⟩ := exists_of_number? h
  exact (((suffix_of_exponent? hpower).trans (suffix_of_fraction? hfraction)).trans
    (List.dropWhile_suffix _)).trans (List.suffix_append _ _)

theorem value?_toDigits (fuel depth : Nat) {n : Nat} (h : (n : Int) ≤ Number.greatest)
    {rest : List Char} (hr : EndsNumber rest) :
    value? (fuel + 1) depth (Nat.toDigits 10 n ++ rest) = some (.number (.int n), rest) := by
  obtain ⟨c, ds, hds⟩ := List.exists_cons_of_ne_nil (Nat.toDigits_ne_nil (n := n) (b := 10))
  have hdigit : Text.asciiDigit c = true := asciiDigit_of_isDigit
    (Nat.isDigit_of_mem_toDigits (b := 10) (n := n) (by decide) (by decide) (by simp [hds]))
  have hne : ∀ d, Text.asciiDigit d = false → c ≠ d := fun d hd hc => by simp [hc, hd] at hdigit
  have hskip : skip (c :: (ds ++ rest)) = c :: (ds ++ rest) := by
    simp [skip, hne ' ' (by decide), hne '\t' (by decide), hne '\n' (by decide),
      hne '\r' (by decide)]
  have hnumber := number?_toDigits h hr
  rw [hds, List.cons_append] at hnumber ⊢
  rw [value?, hskip]
  split
  · next heq => exact absurd (List.cons.inj heq).1 (hne 'n' (by decide))
  · next heq => exact absurd (List.cons.inj heq).1 (hne 't' (by decide))
  · next heq => exact absurd (List.cons.inj heq).1 (hne 'f' (by decide))
  · next heq => exact absurd (List.cons.inj heq).1 (hne '"' (by decide))
  · next heq => exact absurd (List.cons.inj heq).1 (hne '[' (by decide))
  · next heq => exact absurd (List.cons.inj heq).1 (hne '\x7b' (by decide))
  · simp [hnumber]

end Json
end Stencil
