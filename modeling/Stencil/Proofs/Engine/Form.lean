import Stencil.Jinja.Token
import Stencil.Proofs.Text.Cut
import Stencil.Tera.Evaluation
import Stencil.Tera.Grammar

/-! Sources that do no more than insert variables into texts: how they are written, what is made of
them, and where a reader of tags has to stop. -/
namespace Stencil

open Text Tera.Read

/-- A text in which no tag starts. -/
def IsPlain (cs : List Char) : Prop := ∀ o ∈ openings, ¬ o.toList <:+: cs

instance (cs : List Char) : Decidable (IsPlain cs) :=
  inferInstanceAs (Decidable (∀ o ∈ openings, ¬ o.toList <:+: cs))

/-- No tag starts on the seam of a text and what follows it. -/
def IsShut (cs rest : List Char) : Prop := rest = [] ∨ cs.getLast? ≠ some '\x7b'

theorem IsShut.of_suffix {cs ds rest : List Char} (h : IsShut ds rest) (hcs : cs <:+ ds) :
    IsShut cs rest := by
  refine h.imp_right fun hds hlast => hds ?_
  obtain ⟨front, rfl⟩ := hcs
  rw [List.getLast?_append, hlast, Option.some_or]

theorem IsShut.of_cons {c : Char} {cs rest : List Char} (h : IsShut (c :: cs) rest) :
    IsShut cs rest :=
  h.of_suffix (List.suffix_cons c cs)

namespace IsPlain

theorem of_infix {cs ds : List Char} (h : IsPlain ds) (hcs : cs <:+: ds) : IsPlain cs :=
  fun o ho hin => h o ho (hin.trans hcs)

theorem of_cons {c : Char} {cs : List Char} (h : IsPlain (c :: cs)) : IsPlain cs :=
  h.of_infix (List.suffix_cons c cs).isInfix

theorem opensTag {c : Char} {cs rest : List Char} (h : IsPlain (c :: cs))
    (hrest : IsShut (c :: cs) rest) : opensTag (c :: cs ++ rest) = false := by
  rw [Tera.Read.opensTag, List.any_eq_false]
  intro o ho hlead
  obtain ⟨after, hafter⟩ := Option.isSome_iff_exists.mp hlead
  rw [dropLead?_eq_some_iff] at hafter
  obtain ⟨d, hd⟩ : ∃ d, o.toList = ['\x7b', d] := by
    simp only [openings, List.mem_cons, List.not_mem_nil, or_false] at ho
    rcases ho with rfl | rfl | rfl <;> exact ⟨_, rfl⟩
  obtain ⟨rfl, hmore⟩ : c = '\x7b' ∧ cs ++ rest = d :: after := by simpa [hd] using hafter
  cases cs with
  | nil =>
    rcases hrest with rfl | hlast
    · exact List.cons_ne_nil d after hmore.symm
    · exact hlast rfl
  | cons e cs =>
    obtain rfl : e = d := (List.cons.inj hmore).1
    exact h o ho (hd ▸ (List.prefix_append ['\x7b', e] cs).isInfix)

end IsPlain

/-- What starts a name starts nothing else. -/
theorem ne_of_isNameStart {c d : Char} (hc : isNameStart c = true) (hd : isNameStart d = false) :
    c ≠ d := by
  rintro rfl
  exact Bool.false_ne_true (hd.symm.trans hc)

theorem asciiDigit_of_isNameStart {c : Char} (h : isNameStart c = true) : asciiDigit c = false := by
  by_contra hdigit
  change (c == '_' || (decide ('A'.val ≤ c.val ∧ c.val ≤ 'Z'.val) ||
    (decide ('a'.val ≤ c.val) && decide (c.val ≤ 'z'.val)))) = true at h
  simp only [asciiDigit, Bool.not_eq_false, Bool.or_eq_true, Bool.and_eq_true, beq_iff_eq,
    decide_eq_true_eq, Char.le_def, UInt32.le_iff_toNat_le] at h hdigit
  rcases h with rfl | h
  · exact absurd hdigit (by decide)
  · simp only [Char.reduceVal, UInt32.reduceToNat] at h hdigit
    omega

/-- A name that a tag of either language takes for a variable. A truth value is read in one of them
wherever a name starts like one. -/
structure IsVariable (name : String) : Prop where
  start : name.toList.head?.any isNameStart = true
  chars : name.toList.all isNameChar = true
  ne_word : name ∉ ["not", "none", "None", Tera.Evaluation.overviewName]
  not_literal : ∀ w ∈ ["true", "True", "false", "False"], ¬ w.toList <+: name.toList

namespace IsVariable

instance (name : String) : Decidable (IsVariable name) :=
  decidable_of_iff
    (name.toList.head?.any isNameStart = true ∧ name.toList.all isNameChar = true ∧
      name ∉ ["not", "none", "None", Tera.Evaluation.overviewName] ∧
      ∀ w ∈ ["true", "True", "false", "False"], ¬ w.toList <+: name.toList)
    ⟨fun ⟨h1, h2, h3, h4⟩ => ⟨h1, h2, h3, h4⟩, fun ⟨h1, h2, h3, h4⟩ => ⟨h1, h2, h3, h4⟩⟩

theorem ne_literal {name w : String} (h : IsVariable name)
    (hw : w ∈ ["true", "True", "false", "False"]) : name ≠ w :=
  fun heq => h.not_literal w hw (heq ▸ List.prefix_rfl)

/-- The first character of a name, and the others. -/
theorem exists_cons {name : String} (h : IsVariable name) :
    ∃ c cs, name.toList = c :: cs ∧ isNameStart c = true := by
  have hstart := h.start
  cases hname : name.toList with
  | nil => simp [hname] at hstart
  | cons c cs => exact ⟨c, cs, rfl, by simpa [hname] using hstart⟩

theorem isNameChar_of_mem {name : String} (h : IsVariable name) {c : Char} (hc : c ∈ name.toList) :
    isNameChar c = true := List.all_eq_true.mp h.chars c hc

/-- A name is taken up to the blank behind it. -/
theorem takeWhile_append {name : String} (h : IsVariable name) (rest : List Char) :
    (name.toList ++ ' ' :: rest).takeWhile isNameChar = name.toList := by
  rw [List.takeWhile_append_of_pos fun c hc => h.isNameChar_of_mem hc,
    List.takeWhile_cons_of_neg (by decide), List.append_nil]

theorem dropWhile_append {name : String} (h : IsVariable name) (rest : List Char) :
    (name.toList ++ ' ' :: rest).dropWhile isNameChar = ' ' :: rest := by
  rw [List.dropWhile_append_of_pos fun c hc => h.isNameChar_of_mem hc,
    List.dropWhile_cons_of_neg (by decide)]

end IsVariable

/-- A text and the name of the variable that is inserted after it. -/
structure Insertion where
  text : String
  name : String
  isPlain : IsPlain text.toList
  /-- A brace would belong to the tag -/
  last_ne : text.toList.getLast? ≠ some '\x7b'
  isVariable : IsVariable name

/-- Insertions, and the text behind the last of them. -/
structure Form where
  insertions : List Insertion
  last : String
  isPlain : IsPlain last.toList

namespace Form

/-- A name in its tag. -/
def tagOf (name : String) : String := "\x7b\x7b " ++ name ++ " \x7d\x7d"

/-- All but the last text, with something in the place of each name. -/
def front (f : Form) (put : String → String) : String :=
  String.join (f.insertions.map fun i => i.text ++ put i.name)

def filled (f : Form) (put : String → String) : String := f.front put ++ f.last

/-- A form is written with each name in its tag. -/
def source (f : Form) : String := f.filled tagOf

/-- What a reader finds in the source of a form. -/
inductive Piece where
  | text (s : String)
  | variable_ (name : String)

namespace Piece

/-- An empty text is not found. -/
def ofText (s : String) : List Piece := if s = "" then [] else [.text s]

def filled (put : String → String) : Piece → String
  | text s => s
  | variable_ name => put name

theorem join_ofText (put : String → String) (s : String) :
    String.join ((ofText s).map (·.filled put)) = s := by
  rw [ofText]
  split_ifs with h
  · simp [h]
  · simp [filled]

end Piece

def pieces (f : Form) : List Piece :=
  f.insertions.flatMap (fun i => Piece.ofText i.text ++ [.variable_ i.name]) ++ Piece.ofText f.last

section

variable (last : String) (hlast : IsPlain last.toList) (i : Insertion) (rest : List Insertion)

@[simp] theorem source_nil : (Form.mk [] last hlast).source = last := by
  simp [source, filled, front]

theorem toList_source_cons : (Form.mk (i :: rest) last hlast).source.toList =
    i.text.toList ++ '\x7b' :: '\x7b' :: ' ' ::
      (i.name.toList ++ ' ' :: '\x7d' :: '\x7d' :: (Form.mk rest last hlast).source.toList) := by
  simp [source, filled, front, tagOf]

@[simp] theorem pieces_nil : (Form.mk [] last hlast).pieces = Piece.ofText last := rfl

theorem pieces_cons : (Form.mk (i :: rest) last hlast).pieces =
    Piece.ofText i.text ++ .variable_ i.name :: (Form.mk rest last hlast).pieces := by
  simp [pieces]

end

/-- Every name among the pieces is that of an insertion. -/
theorem exists_of_mem_pieces {f : Form} {name : String} (h : .variable_ name ∈ f.pieces) :
    ∃ i ∈ f.insertions, i.name = name := by
  have hnot : ∀ s, Piece.variable_ name ∉ Piece.ofText s := by
    intro s
    rw [Piece.ofText]
    split_ifs <;> simp
  simpa [pieces, hnot, eq_comm] using h

/-- A tag alone has more characters than a reader needs steps for it. -/
theorem length_source (f : Form) : 6 * f.insertions.length ≤ f.source.toList.length := by
  obtain ⟨insertions, last, hlast⟩ := f
  induction insertions with
  | nil => simp
  | cons i rest ih =>
    rw [toList_source_cons]
    simp only [List.length_cons, List.length_append] at ih ⊢
    omega

/-- Up to its last text, a source ends in a tag. -/
theorem getLast?_front (f : Form) : ∀ c ∈ (f.front tagOf).toList.getLast?, c = '\x7d' := by
  intro c hc
  rcases List.eq_nil_or_concat f.insertions with h | ⟨rest, i, h⟩
  · simp [front, h] at hc
  · have htag : (f.front tagOf).toList =
        (String.join (rest.map fun i => i.text ++ tagOf i.name) ++ i.text ++
          ("\x7b\x7b " ++ i.name ++ " \x7d")).toList ++ ['\x7d'] := by
      simp [front, h, tagOf]
    rw [htag, List.getLast?_concat] at hc
    exact (Option.some.inj hc).symm

/-- The pieces of a form, each with what is put in the place of its name, are the form so filled. -/
theorem join_filled (f : Form) (put : String → String) :
    String.join (f.pieces.map (·.filled put)) = f.filled put := by
  obtain ⟨insertions, last, hlast⟩ := f
  induction insertions with
  | nil => simp [filled, front, Piece.join_ofText]
  | cons i rest ih =>
    rw [pieces_cons, List.map_append, String.join_append, Piece.join_ofText, List.map_cons,
      String.join_cons, ih]
    simp [filled, front, Piece.filled, String.append_assoc]

end Form

/-! ## The end of a source -/

namespace Text

/-- A text without the character at its end, if it is this one. -/
def dropEnd (c : Char) (cs : List Char) : List Char :=
  if cs.getLast? = some c then cs.dropLast else cs

theorem dropEnd_isPrefix (c : Char) (cs : List Char) : dropEnd c cs <+: cs := by
  rw [dropEnd]
  split_ifs
  · exact List.dropLast_prefix cs
  · exact List.prefix_rfl

@[simp] theorem dropEnd_concat (c d : Char) (cs : List Char) :
    dropEnd c (cs ++ [d]) = if d = c then cs else cs ++ [d] := by
  simp [dropEnd]

/-- The end of a text is not looked for further back. -/
theorem dropEnd_append {c : Char} {cs : List Char} (h : cs.getLast? ≠ some c) (ds : List Char) :
    dropEnd c (cs ++ ds) = cs ++ dropEnd c ds := by
  rcases List.eq_nil_or_concat' ds with rfl | ⟨ds, d, rfl⟩
  · simp [dropEnd, h]
  · rw [← List.append_assoc, dropEnd_concat, dropEnd_concat]
    split_ifs
    · rfl
    · rw [List.append_assoc]

end Text

/-- Both parts of a line end go, each of them if it is there. -/
theorem Jinja.dropFinalNewline_eq (cs : List Char) :
    Jinja.dropFinalNewline cs = dropEnd '\r' (dropEnd '\n' cs) := by
  rcases List.eq_nil_or_concat' cs with rfl | ⟨cs, c, rfl⟩
  · rfl
  · by_cases hc : c = '\n'
    · rcases List.eq_nil_or_concat' cs with rfl | ⟨cs, d, rfl⟩
      · rw [hc]; rfl
      · rw [dropEnd_concat, if_pos hc, dropEnd_concat]
        by_cases hd : d = '\r' <;> simp [dropFinalNewline, hc, hd]
    · by_cases hr : c = '\r' <;> simp [dropFinalNewline, hc, hr]

namespace Form

/-- The form with the line end of its last text, or without it. -/
def kept (f : Form) (keep : Bool) : Form :=
  if keep then f
  else { f with
    last := String.ofList (Jinja.dropFinalNewline f.last.toList)
    isPlain := by
      rw [String.toList_ofList, Jinja.dropFinalNewline_eq]
      exact f.isPlain.of_infix ((dropEnd_isPrefix _ _).trans (dropEnd_isPrefix _ _)).isInfix }

@[simp] theorem insertions_kept (f : Form) (keep : Bool) :
    (f.kept keep).insertions = f.insertions := by
  cases keep <;> rfl

theorem toList_source_kept (f : Form) (keep : Bool) : (f.kept keep).source.toList =
    if keep then f.source.toList else Jinja.dropFinalNewline f.source.toList := by
  cases keep with
  | true => rfl
  | false =>
    have hlast : ∀ c ≠ '\x7d', (f.front tagOf).toList.getLast? ≠ some c :=
      fun c hc hlast => hc (f.getLast?_front c hlast)
    have hsource : f.source.toList = (f.front tagOf).toList ++ f.last.toList := by
      rw [source, filled, String.toList_append]
    rw [if_neg Bool.false_ne_true, hsource, Jinja.dropFinalNewline_eq,
      dropEnd_append (hlast '\n' (by decide)), dropEnd_append (hlast '\r' (by decide))]
    simp [kept, source, filled, front, Jinja.dropFinalNewline_eq]

end Form
end Stencil
