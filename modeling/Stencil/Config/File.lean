import Stencil.Config
import Stencil.FileTree.Resolve
import Stencil.Yaml.Document

/-! Configuration documents in files. -/
namespace Stencil
namespace Config

/-- The configuration in a text. `source` names the text in messages. -/
def ofText (source text : String) : Except Failure Config :=
  match Yaml.read? text with
  | some v => ofJson v
  | none => .error (.configParse source "not one well-formed document")

/-- The other extension that a document may have. -/
def otherExtension? (extension : String) : Option String :=
  if extension = "yml" then some "yaml"
  else if extension = "yaml" then some "yml"
  else none

/-- The file at a path or, if there is none, the one with the other extension. -/
def find (t : FileTree) (p : Path) : Except Failure Path :=
  match p.extension?.bind otherExtension? with
  | none => .error (.invalidConfigExtension p.text)
  | some other =>
    match [p, p.withExtension other].find? t.isFile with
    | some found => .ok found
    | none => .error (.configNotFound p.text)

def load (t : FileTree) (p : Path) : Except Failure Config := do
  let found ← find t p
  match t.readText found with
  | .ok text => ofText found.text text
  | .error e => .error (.fileSystem "read" found.text e)

end Config
end Stencil
