import Stencil.Text.Cut

/-! Marked-up text: special characters by their names, and tags taken out. -/
namespace Stencil
namespace Text

/-- The characters that are special in a document of marked-up text, by their names. -/
def escapeMarkup (apostrophe slash : String) (c : Char) : List Char :=
  if c = '&' then "&amp;".toList
  else if c = '<' then "&lt;".toList
  else if c = '>' then "&gt;".toList
  else if c = '"' then "&quot;".toList
  else if c = '\'' then apostrophe.toList
  else if c = '/' then slash.toList
  else [c]

/-- What follows the comment at the front, if it ends on its line. -/
def afterComment? (cs : List Char) : Option (List Char) :=
  (dropLead? "<!--".toList cs).bind fun rest =>
    (breakOn? "-->".toList rest).bind fun (inside, after) =>
      if inside.contains '\n' then none else some after

/-- What follows the comment or the tag at the front. -/
def afterTag? (cs : List Char) : Option (List Char) :=
  (afterComment? cs).or
    (match cs with
      | '<' :: rest => (cutAt '>' rest).map (·.2)
      | _ => none)

/-- The text without its tags and comments. -/
def withoutTags : Nat → List Char → List Char
  | 0, cs => cs
  | _ + 1, [] => []
  | fuel + 1, c :: cs =>
    match afterTag? (c :: cs) with
    | some rest => withoutTags fuel rest
    | none => c :: withoutTags fuel cs

/-- The text without the blanks that alone stand between two tags. -/
def closeTags : List Char → List Char
  | [] => []
  | c :: cs =>
    let rest := closeTags cs
    if c = '>' ∧ (dropBlank rest).head? = some '<' then c :: dropBlank rest else c :: rest

end Text
end Stencil
