import Stencil.Text.Cut
import Mathlib.Data.List.Basic

/-! What is left of a text after its lead, and where a needle stands in it first. -/
namespace Stencil
namespace Text

/-! ## Leads -/

theorem dropLead?_eq_some_iff {p cs rest : List Char} :
    dropLead? p cs = some rest ↔ cs = p ++ rest := by
  fun_induction dropLead? p cs with
  | case1 cs => simp [eq_comm]
  | case2 => simp
  | case3 ps p cs ih => simpa using ih
  | case4 p ps c cs hne => simp [Ne.symm hne]

theorem stripStart?_eq_some_iff {p s rest : String} :
    stripStart? p s = some rest ↔ s = p ++ rest := by
  rw [stripStart?, Option.map_eq_some_iff, ← String.toList_inj, String.toList_append]
  constructor
  · rintro ⟨cs, hcs, rfl⟩
    rw [dropLead?_eq_some_iff.mp hcs, String.toList_ofList]
  · intro h
    exact ⟨rest.toList, dropLead?_eq_some_iff.mpr h, String.ofList_toList⟩

/-- Nothing is left out but what a text starts with. -/
theorem exists_append_stripStart? (p s : String) :
    ∃ lead, s = lead ++ (stripStart? p s).getD s := by
  cases h : stripStart? p s with
  | none => exact ⟨"", by simp⟩
  | some rest => exact ⟨p, stripStart?_eq_some_iff.mp h⟩

theorem dropLead?_append_left (v w cs : List Char) :
    dropLead? (v ++ w) cs = (dropLead? v cs).bind (dropLead? w) := by
  ext rest
  simp only [Option.bind_eq_some_iff, dropLead?_eq_some_iff]
  constructor
  · intro h
    exact ⟨w ++ rest, by rw [h, List.append_assoc], rfl⟩
  · rintro ⟨mid, hcs, hmid⟩
    rw [hcs, hmid, List.append_assoc]

/-- Words that are ended by a character which is in neither are the same if they start one text. -/
theorem eq_of_append_stop {stop : Char} {v w as bs : List Char} (hv : stop ∉ v) (hw : stop ∉ w)
    (h : v ++ stop :: as = w ++ stop :: bs) : v = w ∧ as = bs := by
  have hpieces := congrArg (List.splitOn stop) h
  rw [List.splitOn_append_cons_self_of_not_mem hv, List.splitOn_append_cons_self_of_not_mem hw]
    at hpieces
  obtain rfl : v = w := (List.cons.inj hpieces).1
  exact ⟨rfl, by simpa using h⟩

/-- Of a word that is ended so, only the whole is a lead. -/
theorem dropLead?_concat {stop : Char} {v w : List Char} (hv : stop ∉ v) (hw : stop ∉ w)
    (cs : List Char) :
    dropLead? (v ++ [stop]) (w ++ stop :: cs) = if w = v then some cs else none := by
  ext rest
  rw [dropLead?_eq_some_iff, List.append_assoc, List.singleton_append]
  constructor
  · intro h
    obtain ⟨rfl, rfl⟩ := eq_of_append_stop hw hv h
    simp
  · intro h
    obtain ⟨rfl, hrest⟩ := Option.ite_none_right_eq_some.mp h
    rw [Option.some.inj hrest]

/-- What stands after the last of a character is one word. -/
theorem eq_of_stop_suffix {stop : Char} {v w front : List Char} (hv : stop ∉ v) (hw : stop ∉ w)
    (h : stop :: v <:+ front ++ stop :: w) : v = w := by
  have hinner : ∀ {a b : List Char}, stop ∉ b → stop :: a <:+ stop :: b → a = b := by
    intro a b hb hab
    rcases List.suffix_cons_iff.mp hab with heq | hsuffix
    · exact (List.cons.inj heq).2
    · exact absurd (hsuffix.subset List.mem_cons_self) hb
  rcases List.suffix_or_suffix_of_suffix h (List.suffix_append front (stop :: w)) with h | h
  · exact hinner hw h
  · exact (hinner hv h).symm

/-- No text starts with a word that has a character which it has not. -/
theorem dropLead?_eq_none {a : Char} {w cs : List Char} (hw : a ∈ w) (hcs : a ∉ cs) :
    dropLead? w cs = none := by
  refine Option.eq_none_iff_forall_ne_some.mpr fun rest hrest => hcs ?_
  rw [dropLead?_eq_some_iff.mp hrest]
  exact List.mem_append_left _ hw

/-! ## Needles -/

/-- A needle is not found where a character of it is missing. -/
theorem breakOn?_eq_none {a : Char} {w cs : List Char} (hw : a ∈ w) (hcs : a ∉ cs) :
    breakOn? w cs = none := by
  induction cs with
  | nil =>
    have hne : w ≠ [] := List.ne_nil_of_mem hw
    simp [breakOn?, hne]
  | cons c cs ih =>
    have hrest : a ∉ cs := fun h => hcs (List.mem_cons_of_mem _ h)
    rw [breakOn?, dropLead?_eq_none hw hcs, ih hrest]
    rfl

/-- A needle is looked for behind the characters that it does not start with. -/
theorem breakOn?_append {a : Char} {front : List Char} (h : a ∉ front) (w cs : List Char) :
    breakOn? (a :: w) (front ++ cs) =
      (breakOn? (a :: w) cs).map fun (before, after) => (front ++ before, after) := by
  induction front with
  | nil => simp
  | cons c front ih =>
    have hc : a ≠ c := fun he => h (by simp [he])
    have hrest := ih fun he => h (by simp [he])
    have hlead : dropLead? (a :: w) (c :: (front ++ cs)) = none := by simp [dropLead?, hc]
    rw [List.cons_append, breakOn?, hlead, hrest, Option.map_map]
    rfl

/-- It stands where its first character is, or later. -/
theorem breakOn?_append_cons {a : Char} {front : List Char} (h : a ∉ front) (w cs : List Char) :
    breakOn? (a :: w) (front ++ a :: cs) =
      match dropLead? w cs with
      | some rest => some (front, rest)
      | none => (breakOn? (a :: w) cs).map fun (before, after) => (front ++ a :: before, after) := by
  rw [breakOn?_append h, breakOn?, dropLead?, if_pos rfl]
  cases dropLead? w cs with
  | some rest => simp
  | none => simp [Function.comp_def]

/-! ## Cuts -/

theorem cutAt_cons (c d : Char) (cs : List Char) :
    cutAt c (d :: cs) =
      if d = c then some ([], cs)
      else (cutAt c cs).map fun (before, after) => (d :: before, after) := by
  by_cases h : d = c
  · simp [cutAt, h]
  · simp only [cutAt, List.dropWhile_cons, List.takeWhile_cons, bne_iff_ne, ne_eq, h,
      not_false_eq_true, if_true, if_false]
    cases cs.dropWhile (· != c) <;> rfl

theorem cutAt_eq_some_iff {c : Char} {cs before after : List Char} :
    cutAt c cs = some (before, after) ↔ c ∉ before ∧ cs = before ++ c :: after := by
  induction cs generalizing before after with
  | nil => simp [cutAt]
  | cons d cs ih =>
    rw [cutAt_cons]
    split_ifs with hd
    · cases before <;> simp_all [eq_comm]
    · cases before with
      | nil => simp [hd]
      | cons e before =>
        simp only [Option.map_eq_some_iff, Prod.exists, ih, Prod.mk.injEq, List.cons.injEq,
          List.mem_cons, not_or, List.cons_append]
        constructor
        · rintro ⟨front, rest, ⟨hfront, rfl⟩, ⟨rfl, rfl⟩, rfl⟩
          exact ⟨⟨Ne.symm hd, hfront⟩, rfl, rfl⟩
        · rintro ⟨⟨-, hfront⟩, rfl, rfl⟩
          exact ⟨before, after, ⟨hfront, rfl⟩, ⟨rfl, rfl⟩, rfl⟩

theorem cutAt_append {c : Char} {cs before after : List Char}
    (h : cutAt c cs = some (before, after)) (more : List Char) : cutAt c (cs ++ more) = some (before, after ++ more) := by
  obtain ⟨hc, rfl⟩ := cutAt_eq_some_iff.mp h
  exact cutAt_eq_some_iff.mpr ⟨hc, by simp⟩

theorem cutAt_eq_none_iff {c : Char} {cs : List Char} : cutAt c cs = none ↔ c ∉ cs := by
  induction cs with
  | nil => simp [cutAt]
  | cons d cs ih =>
    rw [cutAt_cons]
    split_ifs with hd
    · simp [hd]
    · rw [Option.map_eq_none_iff, ih, List.mem_cons, not_or, and_iff_right (Ne.symm hd)]

end Text
end Stencil
