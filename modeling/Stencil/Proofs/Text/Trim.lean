import Stencil.Text.Blank
import Mathlib.Data.List.Basic

/-! Texts without white space around them, and what trimming makes of them between blanks. -/
namespace Stencil
namespace Text

/-- Neither the first character nor the last is blank, and there is one. -/
structure Firm (cs : List Char) : Prop where
  first : ∃ c rest, cs = c :: rest ∧ isBlank c = false
  last : ∃ front c, cs = front ++ [c] ∧ isBlank c = false

theorem isBlank_of_dropBlank {cs : List Char} {c : Char} {rest : List Char}
    (h : dropBlank cs = c :: rest) : isBlank c = false := by
  have hhead := List.head?_dropWhile_not isBlank cs
  rw [dropBlank] at h
  rw [h] at hhead
  simpa using hhead

/-- What trimming leaves as it is has no white space around it. -/
theorem firm_of_trim {s : String} (hne : s ≠ "") (h : trim s = s) : Firm s.toList := by
  have hlist : s.toList ≠ [] := by simpa using hne
  have htrim : dropBlankEnd (dropBlank s.toList) = s.toList := by
    simpa [trim] using congrArg String.toList h
  have hback : dropBlank (dropBlank s.toList).reverse = s.toList.reverse := by
    simpa [dropBlankEnd] using congrArg List.reverse htrim
  have hprefix : s.toList <+: dropBlank s.toList := by
    rw [← List.reverse_suffix, ← hback]
    exact List.dropWhile_suffix isBlank
  obtain ⟨c, rest, hfirst⟩ := List.exists_cons_of_ne_nil hlist
  obtain ⟨d, front, hlast⟩ := List.exists_cons_of_ne_nil (List.reverse_ne_nil_iff.mpr hlist)
  refine ⟨⟨c, rest, hfirst, ?_⟩, ⟨front.reverse, d, ?_, isBlank_of_dropBlank (hback.trans hlast)⟩⟩
  · obtain ⟨more, hmore⟩ := hprefix
    rw [hfirst, List.cons_append] at hmore
    exact isBlank_of_dropBlank hmore.symm
  · simpa using congrArg List.reverse hlast

theorem dropBlank_append {blanks : List Char} (hblanks : ∀ c ∈ blanks, isBlank c = true)
    {c : Char} (hc : isBlank c = false) (rest : List Char) :
    dropBlank (blanks ++ c :: rest) = c :: rest := by
  rw [dropBlank, List.dropWhile_append_of_pos hblanks, List.dropWhile_cons_of_neg (by simp [hc])]

/-- Blanks around such a text are trimmed. -/
theorem Firm.trim_append {cs lead tail : List Char} (h : Firm cs)
    (hlead : ∀ c ∈ lead, isBlank c = true) (htail : ∀ c ∈ tail, isBlank c = true) :
    trim (String.ofList (lead ++ cs ++ tail)) = String.ofList cs := by
  obtain ⟨c, rest, hfirst, hc⟩ := h.first
  obtain ⟨front, d, hlast, hd⟩ := h.last
  have hfront : dropBlank (lead ++ cs ++ tail) = cs ++ tail := by
    rw [hfirst, List.append_assoc, List.cons_append, dropBlank_append hlead hc]
  have hreverse : (cs ++ tail).reverse = tail.reverse ++ d :: front.reverse := by
    simp [hlast]
  have hback : dropBlankEnd (cs ++ tail) = cs := by
    rw [dropBlankEnd, hreverse, dropBlank_append (by simpa using htail) hd, hlast]
    simp
  rw [trim, String.toList_ofList, hfront, hback]

/-- Texts without white space around them have none around them together. -/
theorem Firm.append {a b : List Char} (ha : Firm a) (hb : Firm b) (mid : List Char) :
    Firm (a ++ mid ++ b) := by
  obtain ⟨c, rest, hfirst, hc⟩ := ha.first
  obtain ⟨front, d, hlast, hd⟩ := hb.last
  exact ⟨⟨c, rest ++ mid ++ b, by simp [hfirst], hc⟩, ⟨a ++ mid ++ front, d, by simp [hlast], hd⟩⟩

end Text
end Stencil
