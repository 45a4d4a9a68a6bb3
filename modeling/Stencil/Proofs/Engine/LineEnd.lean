import Stencil.Engine.Choice
import Stencil.Proofs.Jinja.Insertion
import Stencil.Proofs.Tera.Insertion

/-! The line end of a template that is not to be kept: one engine looks for it in the source, the
other in the text that it has rendered. -/
namespace Stencil

open Text Form

namespace Text

theorem dropEnd_eq_self_iff {c : Char} {cs : List Char} :
    dropEnd c cs = cs ↔ cs.getLast? ≠ some c := by
  rcases List.eq_nil_or_concat' cs with rfl | ⟨cs, d, rfl⟩
  · simp [dropEnd]
  · rw [dropEnd_concat, List.getLast?_concat]
    by_cases hd : d = c <;> simp [hd]

/-- A carriage return goes with the line feed behind it, and not alone. -/
def dropLine (cs : List Char) : List Char :=
  if cs.getLast? = some '\n' then dropEnd '\r' (dropEnd '\n' cs) else cs

@[simp] theorem dropLine_newline (cs : List Char) : dropLine (cs ++ ['\n']) = dropEnd '\r' cs := by
  simp [dropLine]

theorem dropLine_of_ne {cs : List Char} (h : cs.getLast? ≠ some '\n') : dropLine cs = cs :=
  if_neg h

/-- Dropping a line end of the last text alone, and dropping that of the whole. -/
theorem append_dropEnd_eq_iff (front last : List Char) :
    front ++ dropEnd '\r' (dropEnd '\n' last) = dropLine (front ++ last) ↔
      (last = [] → front.getLast? ≠ some '\n') ∧ (last = ['\n'] → front.getLast? ≠ some '\r') ∧
        last.getLast? ≠ some '\r' := by
  rcases List.eq_nil_or_concat' last with rfl | ⟨last, c, rfl⟩
  · -- whatever line end there is, a value has brought it
    simp only [List.append_nil, forall_const]
    by_cases hfront : front.getLast? = some '\n'
    · have hne : front ≠ dropLine front := by
        rw [dropLine, if_pos hfront]
        intro heq
        have hlonger := (dropEnd_isPrefix '\r' (dropEnd '\n' front)).length_le
        have hself : dropEnd '\n' front = front :=
          (dropEnd_isPrefix '\n' front).eq_of_length_le (by rwa [← heq] at hlonger)
        exact dropEnd_eq_self_iff.mp hself hfront
      simpa [hfront, dropEnd] using hne
    · simp [dropLine_of_ne hfront, hfront, dropEnd]
  · by_cases hc : c = '\n'
    · subst hc
      rw [← List.append_assoc, dropLine_newline, dropEnd_concat, if_pos rfl]
      rcases List.eq_nil_or_concat' last with rfl | ⟨last, d, rfl⟩
      · -- the line feed alone belongs to the template
        rw [List.append_nil]
        have hself : dropEnd '\r' front = front ↔ front.getLast? ≠ some '\r' := dropEnd_eq_self_iff
        simpa [dropEnd, eq_comm] using hself
      · have hmore : last ++ [d] ++ ['\n'] ≠ ['\n'] := by cases last <;> simp
        rw [← List.append_assoc, dropEnd_concat, dropEnd_concat]
        simp only [hmore, false_implies, true_and]
        split_ifs <;> simp
    · have hlast : (front ++ (last ++ [c])).getLast? ≠ some '\n' := by
        simpa using hc
      have hself : dropEnd '\n' (last ++ [c]) = last ++ [c] := by rw [dropEnd_concat, if_neg hc]
      have hmore : last ++ [c] ≠ ['\n'] := fun h => hc (by simpa using congrArg List.getLast? h)
      rw [dropLine_of_ne hlast, hself, List.append_cancel_left_eq, dropEnd_eq_self_iff]
      simp [hmore]

end Text

theorem Tera.toList_dropLineEnd (text : String) :
    (Tera.dropLineEnd text).toList = dropLine text.toList := by
  rw [Tera.dropLineEnd]
  rcases List.eq_nil_or_concat' text.toList with h | ⟨cs, c, h⟩
  · simp [h, dropLine]
  · by_cases hc : c = '\n'
    · rw [h, hc, dropLine_newline]
      rcases List.eq_nil_or_concat' cs with rfl | ⟨cs, d, rfl⟩
      · rfl
      · by_cases hd : d = '\r' <;> simp [hd]
    · rw [dropLine_of_ne (by simpa [h] using hc)]
      simp [h, hc]

namespace Form

/-- Where the last text of a form decides alone what the rendered text ends in. -/
structure EndsAlone (f : Form) (put : String → String) : Prop where
  /-- No value stands at the end with a line end of its own -/
  of_empty : f.last = "" → (f.front put).toList.getLast? ≠ some '\n'
  /-- No value ends in half of a line end -/
  of_newline : f.last = "\n" → (f.front put).toList.getLast? ≠ some '\r'
  not_return : f.last.toList.getLast? ≠ some '\r'

/-- The two ways to drop the line end of a form are one just there. -/
theorem filled_kept_eq_iff (f : Form) (put : String → String) :
    (f.kept false).filled put = Tera.dropLineEnd (f.filled put) ↔ f.EndsAlone put := by
  have hkept : ((f.kept false).filled put).toList =
      (f.front put).toList ++ dropEnd '\r' (dropEnd '\n' f.last.toList) := by
    simp [kept, filled, front, Jinja.dropFinalNewline_eq]
  have hfilled : (f.filled put).toList = (f.front put).toList ++ f.last.toList := by
    rw [filled, String.toList_append]
  have hempty : f.last.toList = [] ↔ f.last = "" := String.toList_eq_nil_iff
  have hnewline : f.last.toList = ['\n'] ↔ f.last = "\n" := by
    rw [← String.toList_inj]
    rfl
  rw [← String.toList_inj, hkept, Tera.toList_dropLineEnd, hfilled, append_dropEnd_eq_iff, hempty,
    hnewline]
  exact ⟨fun h => ⟨h.1, h.2.1, h.2.2⟩, fun h => ⟨h.of_empty, h.of_newline, h.not_return⟩⟩

/-- A form that ends in a line end of its own. -/
def letter : Form :=
  ⟨[⟨"Dear ", "who", by decide, by decide, by decide⟩], "!\r\n", by decide⟩

/-- A form that is nothing but a value. -/
def bare : Form := ⟨[⟨"", "x", by decide, by decide, by decide⟩], "", by decide⟩

end Form

namespace EngineOptions

/-- Both engines render every form, and they differ in the line end alone. Where it is not to be
kept, one drops that of the last text and the other that of what is rendered, be it a value's. -/
theorem render_form (keep : Bool) (t : FileTree) (root : Path) (f : Form)
    (context : KeyMap Json) (value : String → String)
    (hvalue : ∀ i ∈ f.insertions, context.get? i.name = some (.string (value i.name))) :
    ∃ jinja tera,
      engine { kind := .jinja, keepTrailingNewline := keep } t root = .ok jinja ∧
      engine { kind := .tera, keepTrailingNewline := keep } t root = .ok tera ∧
      jinja f.source context = .ok (f.front value ++
        if keep then f.last else String.ofList (Jinja.dropFinalNewline f.last.toList)) ∧
      tera f.source context =
        .ok (if keep then f.filled value else Tera.dropLineEnd (f.filled value)) ∧
      (jinja f.source context = tera f.source context ↔ keep = false → f.EndsAlone value) := by
  obtain ⟨jinja, hjinja, hfirst⟩ := Jinja.engine_form
    (o := { kind := .jinja, keepTrailingNewline := keep }) rfl t root
  obtain ⟨tera, htera, hsecond⟩ := Tera.engine_form
    (o := { kind := .tera, keepTrailingNewline := keep }) rfl
  have hfirst := hfirst f context value hvalue
  have hsecond := hsecond f context value hvalue
  refine ⟨jinja, tera, hjinja, htera, ?_, hsecond, ?_⟩
  · rw [hfirst]
    cases keep <;> rfl
  · rw [hfirst, hsecond]
    cases keep with
    | true => simp [kept]
    | false => simpa using f.filled_kept_eq_iff value

theorem render_form_letter :
    ∃ jinja tera,
      engine { kind := .jinja, keepTrailingNewline := false } (.empty []) ⟨"."⟩ = .ok jinja ∧
      engine { kind := .tera, keepTrailingNewline := false } (.empty []) ⟨"."⟩ = .ok tera ∧
      jinja "Dear \x7b\x7b who \x7d\x7d!\r\n" (.ofList [("who", .string "Ada")]) =
        .ok "Dear Ada!" ∧
      tera "Dear \x7b\x7b who \x7d\x7d!\r\n" (.ofList [("who", .string "Ada")]) =
        .ok "Dear Ada!" := by
  have hvalue : ∀ i ∈ Form.letter.insertions,
      (KeyMap.ofList [("who", Json.string "Ada")]).get? i.name = some (.string "Ada") := by
    simp [Form.letter, KeyMap.ofList, KeyMap.insertAll]
  obtain ⟨jinja, tera, hjinja, htera, hfirst, hsecond, -⟩ :=
    render_form false (.empty []) ⟨"."⟩ Form.letter _ (fun _ => "Ada") hvalue
  exact ⟨jinja, tera, hjinja, htera, hfirst.trans (by rfl), hsecond.trans (by rfl)⟩

/-- The line end of a value at the end is kept by one engine and lost by the other. -/
theorem value_lineEnd_lost :
    ∃ jinja tera,
      engine { kind := .jinja, keepTrailingNewline := false } (.empty []) ⟨"."⟩ = .ok jinja ∧
      engine { kind := .tera, keepTrailingNewline := false } (.empty []) ⟨"."⟩ = .ok tera ∧
      jinja "\x7b\x7b x \x7d\x7d" (.ofList [("x", .string "a\n")]) = .ok "a\n" ∧
      tera "\x7b\x7b x \x7d\x7d" (.ofList [("x", .string "a\n")]) = .ok "a" := by
  obtain ⟨jinja, hjinja, hfirst⟩ := Jinja.engine_form
    (o := { kind := .jinja, keepTrailingNewline := false }) rfl (.empty []) ⟨"."⟩
  obtain ⟨tera, htera, hsecond⟩ := Tera.engine_form
    (o := { kind := .tera, keepTrailingNewline := false }) rfl
  have hvalue : ∀ i ∈ Form.bare.insertions,
      (KeyMap.ofList [("x", Json.string "a\n")]).get? i.name = some (.string "a\n") := by
    simp [Form.bare, KeyMap.ofList, KeyMap.insertAll]
  have hfirst := hfirst Form.bare _ (fun _ => "a\n") hvalue
  have hsecond := hsecond Form.bare _ (fun _ => "a\n") hvalue
  exact ⟨jinja, tera, hjinja, htera, hfirst.trans (by rfl), hsecond.trans (by rfl)⟩

end EngineOptions
end Stencil
