import Stencil.FileTree.Resolve
import Stencil.Marker

/-! Finding out whether a file is a template, and which text it is rendered from. -/
namespace Stencil

inductive TemplateKind where
  /-- The file is rendered itself -/
  | inPlace
  /-- The file points at the root template to render in its stead -/
  | child
  deriving DecidableEq, Repr

/-- A file with the marker in its name. -/
structure Located where
  source : Path
  output : Path
  rootTemplate : Path
  /-- The spelling of the root template in the lockfile -/
  lockKey : String
  kind : TemplateKind
  text : String
  deriving DecidableEq, Repr

structure Locator where
  root : Path
  /-- Where the root really is -/
  location : Location
  marker : Marker
  childFlag : String

namespace Locator

def create (t : FileTree) (root : Path) (marker : Marker) (childFlag : String) :
    Except Failure Locator :=
  match t.canonicalize root with
  | .ok location => .ok ⟨root, location, marker, childFlag⟩
  | .error e => .error (.fileSystem "resolve" root.text e)

def readText (t : FileTree) (p : Path) : Except Failure String :=
  match t.readText p with
  | .ok text => .ok text
  | .error e => .error (.fileSystem "read" p.text e)

/-- The names from one location down to another below it. -/
def below? (top loc : Location) : Option (List String) :=
  if top.isPrefixOf loc then some (loc.drop top.length) else none

/-- The root template that a child points at, and its lock key. However the pointer is spelt, both
are given by where the file really is, which has to be below the root. -/
def resolvePointer (l : Locator) (t : FileTree) (child : Path) (pointer : String) :
    Except Failure (Path × String) :=
  let notFound := Failure.childTemplateNotFound child.text pointer
  if pointer = "" then .error notFound
  else
    let target := Path.resolveAgainst l.root pointer
    if !t.isFile target then .error notFound
    else
      match t.canonicalize target with
      | .error e => .error (.fileSystem "resolve" target.text e)
      | .ok loc =>
        match below? l.location loc with
        | none => .error (.templateOutsideRoot target.text child.text l.root.text)
        | some names =>
          let relative := Path.ofNames names
          .ok (l.root.join relative, Path.stored relative)

/-- What a child points at, if the text is that of a child. -/
def pointer? (l : Locator) (contents : String) : Option String :=
  (Text.stripStart? l.childFlag (Text.trim contents)).map Text.trim

/-- The template in a file, given by its path from the root; `none` if the name has no marker. -/
def locate (l : Locator) (t : FileTree) (relative : String) : Except Failure (Option Located) :=
  match (Path.mk relative).fileName?.bind l.marker.outputName with
  | none => .ok none
  | some outputName => do
    let source := l.root.join relative
    let output := source.withFileName outputName
    let contents ← readText t source
    match l.pointer? contents with
    | some pointer =>
      let (rootTemplate, lockKey) ← l.resolvePointer t source pointer
      let text ← readText t rootTemplate
      .ok (some ⟨source, output, rootTemplate, lockKey, .child, text⟩)
    | none =>
      .ok (some ⟨source, output, source, Path.stored relative, .inPlace, contents⟩)

end Locator
end Stencil
