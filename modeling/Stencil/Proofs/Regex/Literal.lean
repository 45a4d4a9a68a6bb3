import Stencil.Regex.Reader
import Stencil.Proofs.Text.Cut

/-! Expressions that take one word: where they are found, how much room they take, and that a text of
plain characters is read as one. -/
namespace Stencil

open Text

/-! ## What an expression takes -/

namespace Regex

/-- The expression takes one word and nothing else. -/
def Takes (r : Regex) (w : List Char) : Prop :=
  ∀ before cs, r.ends ⟨before, cs⟩ =
    match dropLead? w cs with
    | some rest => [⟨w.reverse ++ before, rest⟩]
    | none => []

/-- The same where the word has to end the text. -/
def TakesLast (r : Regex) (w : List Char) : Prop :=
  ∀ before cs, r.ends ⟨before, cs⟩ = if cs = w then [⟨w.reverse ++ before, []⟩] else []

variable {r s : Regex} {v w : List Char}

theorem takes_single (c : Char) : (set (.single c)).Takes [c] := by
  intro before cs
  cases cs with
  | nil => rfl
  | cons d cs =>
    by_cases h : c = d
    · subst h
      simp [ends, dropLead?, CharClass.contains_single]
    · simp [ends, dropLead?, CharClass.contains_single, h, Ne.symm h]

theorem Takes.seq (hr : r.Takes v) (hs : s.Takes w) : (Regex.seq r s).Takes (v ++ w) := by
  intro before cs
  rw [ends, hr before cs, dropLead?_append_left]
  cases hv : dropLead? v cs with
  | none => rfl
  | some rest =>
    simp only [andThen, List.flatMap_singleton, Option.bind_some]
    rw [hs]
    cases hw : dropLead? w rest with
    | none => rfl
    | some rest => simp [distinct]

theorem takesLast_textEnd : (look .textEnd).TakesLast [] := by
  intro before cs
  cases cs with
  | nil => rfl
  | cons c cs => simp [ends, Assertion.holds]

theorem Takes.seq_last (hr : r.Takes v) (hs : s.TakesLast w) :
    (Regex.seq r s).TakesLast (v ++ w) := by
  intro before cs
  rw [ends, hr before cs]
  cases hv : dropLead? v cs with
  | none =>
    have hne : cs ≠ v ++ w := by
      rintro rfl
      simp [dropLead?_append] at hv
    simp [andThen, distinct, hne]
  | some rest =>
    obtain rfl := dropLead?_eq_some_iff.mp hv
    simp only [andThen, List.flatMap_singleton]
    rw [hs]
    by_cases hw : rest = w
    · simp [hw, distinct]
    · simp [hw, distinct]

/-- The expression is found where its word is found. -/
theorem Takes.findFrom (h : r.Takes w) (before cs : List Char) :
    r.findFrom before cs = (breakOn? w cs).map fun (front, rest) =>
      (⟨front.reverse ++ before, w ++ rest⟩, ⟨w.reverse ++ (front.reverse ++ before), rest⟩) := by
  induction cs generalizing before with
  | nil =>
    rw [Regex.findFrom, h before [], breakOn?]
    cases w with
    | nil => rfl
    | cons c w => rfl
  | cons c cs ih =>
    rw [Regex.findFrom, h before (c :: cs), breakOn?]
    cases hlead : dropLead? w (c :: cs) with
    | some rest => simp [dropLead?_eq_some_iff.mp hlead]
    | none => simp [ih, Function.comp_def]

theorem Takes.replaceFirst (h : r.Takes w) (cs put : List Char) :
    r.replaceFirst cs put =
      (breakOn? w cs).map fun (front, rest) => front ++ put ++ rest := by
  rw [Regex.replaceFirst, find?, h.findFrom, Option.map_map]
  simp [Function.comp_def]

theorem TakesLast.findFrom_append (h : r.TakesLast w) (before front : List Char) :
    r.findFrom before (front ++ w) =
      some (⟨front.reverse ++ before, w⟩, ⟨w.reverse ++ (front.reverse ++ before), []⟩) := by
  induction front generalizing before with
  | nil =>
    cases w with
    | nil => simp [Regex.findFrom, h before []]
    | cons c w => simp [Regex.findFrom, h before (c :: w)]
  | cons c front ih =>
    have hne : c :: (front ++ w) ≠ w := by
      intro he
      have hlength := congrArg List.length he
      simp at hlength
      omega
    simp [Regex.findFrom, h before (c :: (front ++ w)), hne, ih]

theorem TakesLast.findFrom_eq_none (h : r.TakesLast w) (before : List Char) {cs : List Char}
    (hcs : ¬ w <:+ cs) : r.findFrom before cs = none := by
  induction cs generalizing before with
  | nil =>
    have hne : [] ≠ w := by
      rintro rfl
      exact hcs List.suffix_rfl
    simp [Regex.findFrom, h before [], hne]
  | cons c cs ih =>
    rw [List.suffix_cons_iff, not_or] at hcs
    simp [Regex.findFrom, h before (c :: cs), Ne.symm hcs.1, ih _ hcs.2]

/-! ## How plain characters are read -/

/-- The expression of a text of which every character stands for itself. -/
def literal : List Char → Regex
  | [] => .empty
  | [c] => .set (.single c)
  | c :: d :: cs => .seq (.set (.single c)) (literal (d :: cs))

theorem takes_literal {w : List Char} (h : w ≠ []) : (literal w).Takes w := by
  induction w with
  | nil => exact absurd rfl h
  | cons c cs ih =>
    cases cs with
    | nil => exact takes_single c
    | cons d cs => exact (takes_single c).seq (ih (by simp))

theorem literal_cons (c : Char) {w : List Char} (h : w ≠ []) :
    literal (c :: w) = .seq (.set (.single c)) (literal w) := by
  obtain ⟨d, cs, rfl⟩ := List.exists_cons_of_ne_nil h
  rfl

theorem length_bytesOf (c : Char) : (Interval.bytesOf c.toNat).length = c.utf8Size := by
  have hsize : c.utf8Size = if c.toNat ≤ 0x7F then 1 else if c.toNat ≤ 0x7FF then 2 else
      if c.toNat ≤ 0xFFFF then 3 else 4 := rfl
  rw [hsize, Interval.bytesOf]
  split_ifs <;> first | rfl | omega

theorem intervals_single (c : Char) : (CharClass.single c).intervals = [(c.toNat, c.toNat)] := by
  simp [CharClass.single, CharClass.intervals, Interval.normal, Interval.mergeFrom]

/-- The expression takes the same room in whichever direction the text is read. -/
def Occupies (r : Regex) (n : Nat) : Prop := r.size = n ∧ r.notedSize = n

theorem occupies_single (c : Char) : (set (.single c)).Occupies (stateSize * c.utf8Size) := by
  simp [Occupies, size, setSize, notedSize, noted, intervals_single, length_bytesOf]

theorem occupies_textEnd : (look .textEnd).Occupies stateSize := ⟨rfl, rfl⟩

theorem Occupies.seq {a b : Nat} (hr : r.Occupies a) (hs : s.Occupies b) :
    (Regex.seq r s).Occupies (a + b) :=
  ⟨by rw [size, hr.1, hs.1], by rw [notedSize, hr.2, hs.2]⟩

/-- There is a state for each byte. -/
theorem occupies_literal {w : List Char} (h : w ≠ []) :
    (literal w).Occupies (stateSize * (String.ofList w).utf8ByteSize) := by
  induction w with
  | nil => exact absurd rfl h
  | cons c w ih =>
    have hbytes : (String.ofList (c :: w)).utf8ByteSize =
        c.utf8Size + (String.ofList w).utf8ByteSize := by
      rw [show String.ofList (c :: w) = String.singleton c ++ String.ofList w from
        String.toList_inj.mp (by simp), String.utf8ByteSize_append, String.utf8ByteSize_singleton]
    by_cases hw : w = []
    · subst hw
      simpa [literal] using occupies_single c
    · rw [literal_cons c hw, hbytes, Nat.mul_add]
      exact (occupies_single c).seq (ih hw)

theorem Occupies.fits {n : Nat} (h : r.Occupies n) : r.fits = decide (n ≤ maxSize) := by
  rw [Regex.fits, h.1, h.2, Nat.max_self]

namespace Reader

/-- The characters that always stand for themselves. -/
def isPlain (c : Char) : Bool := !"\\.+*?()|[\x7b^$".toList.contains c

def plainPart (c : Char) : Part := ⟨some (.set (.single c)), 0⟩

theorem regex?_plain {c : Char} (h : isPlain c = true) (fuel : Nat) (stack : List Open)
    (names : List String) (branches : List (Nested Regex)) (items : List Part) (rest : List Char) :
    regex? (fuel + 1) stack names {} branches items (c :: rest) =
      regex? fuel stack names {} branches (plainPart c :: items) rest := by
  have hc : c ≠ '\\' ∧ c ≠ '.' ∧ c ≠ '+' ∧ c ≠ '*' ∧ c ≠ '?' ∧ c ≠ '(' ∧ c ≠ ')' ∧ c ≠ '|' ∧
      c ≠ '[' ∧ c ≠ '\x7b' ∧ c ≠ '^' ∧ c ≠ '$' := by
    simpa [isPlain] using h
  simp [regex?, skip, hc, literal?, inCase, plainPart]

theorem regex?_plain_append {w : List Char} (h : ∀ c ∈ w, isPlain c = true) (fuel : Nat)
    (stack : List Open) (names : List String) (branches : List (Nested Regex)) (items : List Part)
    (rest : List Char) :
    regex? (w.length + fuel) stack names {} branches items (w ++ rest) =
      regex? fuel stack names {} branches ((w.map plainPart).reverse ++ items) rest := by
  induction w generalizing items with
  | nil => simp
  | cons c w ih =>
    have hlength : (c :: w).length + fuel = w.length + fuel + 1 := by
      rw [List.length_cons]
      omega
    rw [hlength, List.cons_append, regex?_plain (h c (by simp)),
      ih (fun d hd => h d (by simp [hd]))]
    simp

/-- The item that was read first stands in front. -/
theorem concat_append (items : List Part) (h : items.filterMap (·.value) ≠ []) (c : Char) :
    (concat (items ++ [plainPart c])).value = .seq (.set (.single c)) (concat items).value := by
  obtain ⟨r, rs, hvalues⟩ := List.exists_cons_of_ne_nil h
  simp [concat, plainPart, hvalues]

theorem concat_plain {w : List Char} (h : w ≠ []) :
    (concat (w.map plainPart).reverse).value = literal w := by
  induction w with
  | nil => exact absurd rfl h
  | cons c w ih =>
    by_cases hw : w = []
    · subst hw
      rfl
    · have hvalues : (w.map plainPart).reverse.filterMap (·.value) ≠ [] := by
        obtain ⟨d, cs, rfl⟩ := List.exists_cons_of_ne_nil hw
        simp [plainPart]
      rw [List.map_cons, List.reverse_cons, concat_append _ hvalues, ih hw, literal_cons c hw]

theorem depthOf_le_one {α : Type} {items : List (Nested α)} (h : ∀ i ∈ items, i.depth = 0) :
    depthOf items ≤ 1 := by
  have hdeepest : (items.map (·.depth)).foldl max 0 = 0 := by
    induction items with
    | nil => rfl
    | cons i items ih =>
      simpa [h i (by simp)] using ih fun j hj => h j (by simp [hj])
  unfold depthOf
  split
  · exact Nat.zero_le 1
  · next i => simp [h i (by simp)]
  · simp [hdeepest]

theorem depth_concat_plain (w : List Char) : (concat (w.map plainPart).reverse).depth ≤ 1 := by
  refine depthOf_le_one fun i hi => ?_
  obtain ⟨c, -, rfl⟩ := List.mem_map.mp (List.mem_reverse.mp hi)
  rfl

theorem regex?_stop (fuel : Nat) (stack : List Open) (names : List String)
    (branches : List (Nested Regex)) (items : List Part) (rest : List Char) :
    regex? (fuel + 1) stack names {} branches items ('\\' :: '.' :: rest) =
      regex? fuel stack names {} branches (plainPart '.' :: items) rest := by
  have hescape : escape? {} ('.' :: rest) = some (.char '.', rest) := by
    simp [escape?, isEscapable, isMeta]
  simp [regex?, skip, hescape, literal?, inCase, plainPart]

theorem regex?_textEnd (fuel : Nat) (stack : List Open) (names : List String)
    (branches : List (Nested Regex)) (items : List Part) (rest : List Char) :
    regex? (fuel + 1) stack names {} branches items ('$' :: rest) =
      regex? fuel stack names {} branches (⟨some (.look .textEnd), 0⟩ :: items) rest := by
  simp [regex?, skip, lineEnd]

theorem regex?_group (fuel : Nat) (stack : List Open) (names : List String)
    (branches : List (Nested Regex)) (items : List Part) (rest : List Char) :
    regex? (fuel + 1) stack names {} branches items ('(' :: '?' :: ':' :: rest) =
      regex? fuel (⟨{}, branches, items, false⟩ :: stack) names {} [] [] rest := by
  simp [regex?, skip, groupStart?, flags?]

theorem regex?_end (fuel : Nat) (names : List String) (items : List Part) :
    regex? (fuel + 1) [] names {} [] items [] = some (concat items) := by
  simp [regex?, skip, alternation, depthOf]

end Reader
end Regex
end Stencil
