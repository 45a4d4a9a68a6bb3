import Stencil.Failure
import Stencil.Regex.Reader

/-! The marker in a file name that makes the file a template. -/
namespace Stencil

/-- A marker stands between two dots, or after the last one. -/
structure Marker where
  middle : Regex
  final : Regex

namespace Marker

def unreadable : String := "not a regular expression"

/-- The text is put between the dots as it is, so it has to make sense there. -/
def read (pattern : String) : Except Failure Marker :=
  let inner := pattern.toList
  match Regex.read? ("\\.(?:".toList ++ inner ++ ")\\.".toList),
      Regex.read? ("\\.(?:".toList ++ inner ++ ")$".toList) with
  | some middle, some final => .ok ⟨middle, final⟩
  | _, _ => .error (.invalidTemplateMatcher pattern unreadable)

/-- The name without its marker. A marker in the middle goes with one of its dots. -/
def unmarked? (m : Marker) (name : List Char) : Option (List Char) :=
  match m.middle.replaceFirst name ['.'] with
  | some out => some out
  | none => m.final.replaceFirst name []

/-- The name of the file that a template is rendered to; `none` if the name has no marker or
nothing else. -/
def outputName (m : Marker) (name : String) : Option String :=
  match m.unmarked? name.toList with
  | some out => if out = [] ∨ out = ['.'] then none else some (String.ofList out)
  | none => none

end Marker
end Stencil
