import Stencil.Script.Pattern

/-! Cutting expanded words into fields. -/
namespace Stencil
namespace Script

/-- A piece of an expanded word. -/
inductive Atom where
  /-- A character that is not cut at; it stands for itself in a pattern if it is literal -/
  | char (c : Char) (literal : Bool)
  /-- A character that a word may be cut at -/
  | loose (c : Char)
  /-- Something quoted, so that there is a word even if it is empty -/
  | mark
  /-- A word ends here; as one text the words have this between them -/
  | next (joint : List Char)
  deriving DecidableEq, Repr, Inhabited

namespace Atom

def literally (s : String) : List Atom := s.toList.map fun c => char c true

def loosely (s : String) : List Atom := s.toList.map loose

/-- A value, which is cut unless it is quoted. -/
def ofValue (quoted : Bool) (s : String) : List Atom := if quoted then literally s else loosely s

/-- Values with the ends of words between them. -/
def ofValues (quoted : Bool) (joint : List Char) : List String → List Atom
  | [] => []
  | s :: rest =>
    let first := if quoted then mark :: literally s else loosely s
    match rest with
    | [] => first
    | rest => first ++ next joint :: ofValues quoted joint rest

/-- The marks of a word that is not cut. -/
def marks (atoms : List Atom) : List Mark :=
  atoms.flatMap fun
    | char c literal => [⟨c, literal⟩]
    | loose c => [⟨c, false⟩]
    | mark => []
    | next joint => joint.map (⟨·, false⟩)

def textOf (atoms : List Atom) : String := Mark.textOf (marks atoms)

end Atom

/-- A word that is being cut: the fields done, latest first, the one that has begun, reversed, and
whether the last one ended at a blank, so that one more separator does not count. -/
structure Cutting where
  done : List (List Mark) := []
  current : Option (List Mark) := none
  atBlank : Bool := false

namespace Cutting

def close (s : Cutting) (atBlank : Bool) : Cutting :=
  match s.current with
  | some ms => ⟨ms.reverse :: s.done, none, atBlank⟩
  | none => s

def add (s : Cutting) (ms : List Mark) : Cutting :=
  ⟨s.done, some (ms ++ s.current.getD []), false⟩

def isWhite (c : Char) : Bool := c == ' ' || c == '\t' || c == '\n'

def step (separators : List Char) (s : Cutting) : Atom → Cutting
  | .char c literal => s.add [⟨c, literal⟩]
  | .mark => s.add []
  | .next _ => s.close false
  | .loose c =>
    if !separators.contains c then s.add [⟨c, false⟩]
    else if isWhite c then s.close true
    else if s.current.isSome then s.close false
    else if s.atBlank then { s with atBlank := false }
    else (s.add []).close false

end Cutting

/-- The fields of an expanded word. -/
def fieldsOf (separators : List Char) (atoms : List Atom) : List (List Mark) :=
  ((atoms.foldl (Cutting.step separators) {}).close false).done.reverse

/-- A line cut for so many names, the last of which takes what is left. Escaped characters are
literal. -/
def assignedFields (separators : List Char) : Nat → List Mark → List String
  | 0, _ => []
  | names + 1, ms =>
    let isSeparator := fun (m : Mark) => !m.literal && separators.contains m.char
    let isBlank := fun (m : Mark) => isSeparator m && Cutting.isWhite m.char
    let ms := ms.dropWhile isBlank
    if names = 0 then
      let kept := (ms.reverse.dropWhile isBlank).reverse
      match kept.reverse with
      | last :: rest =>
        if isSeparator last && !rest.any isSeparator then [Mark.textOf rest.reverse]
        else [Mark.textOf kept]
      | [] => [""]
    else
      let first := ms.takeWhile fun m => !isSeparator m
      let rest := (ms.drop first.length).dropWhile isBlank
      let rest := match rest with
        | m :: more => if isSeparator m then more else rest
        | [] => []
      Mark.textOf first :: assignedFields separators names rest

end Script
end Stencil
