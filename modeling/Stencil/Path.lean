import Stencil.Text.Blank

/-! Paths as they are written. Nothing is normalised beyond what an operation says. -/
namespace Stencil

/-- A path keeps its spelling: it is printed exactly as it was put together. -/
structure Path where
  text : String
  deriving DecidableEq, Repr, Inhabited

namespace Path

open Text

/-- One step of a path. -/
inductive Component where
  | root
  | current
  | parent
  | name (s : String)
  deriving DecidableEq, Repr

namespace Component

def rank : Component → Nat
  | root => 0
  | current => 1
  | parent => 2
  | name _ => 3

/-- The top first, then `.`, `..` and names by code point. -/
def compare (a b : Component) : Ordering :=
  match a, b with
  | name s, name t => Ord.compare s t
  | a, b => Ord.compare a.rank b.rank

end Component

def isAbsolute (p : Path) : Bool := p.text.startsWith "/"

def pieces (p : Path) : List String := (splitOnChar '/' [] p.text.toList).map String.ofList

def componentOf (s : String) : Component := if s = ".." then .parent else .name s

/-- Empty pieces and `.` count for nothing, except a `.` that starts the path. -/
def components (p : Path) : List Component :=
  let rest := (p.pieces.filter fun s => s ≠ "" ∧ s ≠ ".").map componentOf
  if p.isAbsolute then .root :: rest
  else if p.pieces.head? = some "." then .current :: rest
  else rest

/-- Two spellings are the same path when their components agree. -/
def same (p q : Path) : Bool := p.components == q.components

def compareComponents : List Component → List Component → Ordering
  | [], [] => .eq
  | [], _ :: _ => .lt
  | _ :: _, [] => .gt
  | a :: as, b :: bs => (a.compare b).then (compareComponents as bs)

/-- Component by component. -/
def compare (p q : Path) : Ordering := compareComponents p.components q.components

/-- An absolute path replaces the base. -/
def join (base : Path) (p : String) : Path :=
  if p.startsWith "/" then ⟨p⟩
  else if base.text = "" ∨ base.text.endsWith "/" then ⟨base.text ++ p⟩
  else ⟨base.text ++ "/" ++ p⟩

/-- The last component, if it is a name. -/
def fileName? (p : Path) : Option String :=
  match p.components.getLast? with
  | some (.name s) => some s
  | _ => none

/-- Separators and `.` at the end count for nothing. `cs` is reversed. -/
def dropIdle : List Char → List Char
  | '.' :: '/' :: cs => if cs.isEmpty then ['/'] else dropIdle ('/' :: cs)
  | '/' :: cs => if cs.isEmpty then ['/'] else dropIdle cs
  | cs => cs

/-- The path without its last component. -/
def parent? (p : Path) : Option Path :=
  match p.components.getLast? with
  | none | some .root => none
  | some _ =>
    let body := dropIdle p.text.toList.reverse
    let before := dropIdle (body.dropWhile (· != '/'))
    some ⟨String.ofList before.reverse⟩

/-- The path with its file name, if it has one, replaced. -/
def withFileName (p : Path) (name : String) : Path :=
  match p.fileName?, p.parent? with
  | some _, some q => q.join name
  | _, _ => p.join name

/-- A file name before and after its last dot; a leading dot does not count. -/
def splitExtension (name : String) : String × Option String :=
  if name = ".." then (name, none)
  else
    let reversed := name.toList.reverse
    match cutAt '.' reversed with
    | none => (name, none)
    | some (after, before) =>
      if before.isEmpty then (name, none)
      else (String.ofList before.reverse, some (String.ofList after.reverse))

def extension? (p : Path) : Option String := p.fileName?.bind fun n => (splitExtension n).2

/-- What stands before the last component; separators and `.` after that count for nothing. -/
def beforeLast (p : Path) : String :=
  String.ofList ((dropIdle p.text.toList.reverse).dropWhile (· != '/')).reverse

/-- The path up to its file name, with another extension. -/
def withExtension (p : Path) (extension : String) : Path :=
  match p.fileName? with
  | none => p
  | some name => ⟨p.beforeLast ++ (splitExtension name).1 ++ "." ++ extension⟩

/-- The path against a base, unless it is absolute. -/
def resolveAgainst (base : Path) (p : String) : Path := base.join p

/-- The spelling under which a path is stored: one kind of separator, no long-path prefix. -/
def stored (p : String) : String :=
  let cleaned := match stripStart? "\\\\?\\UNC\\" p with
    | some rest => "//" ++ rest
    | none => (stripStart? "\\\\?\\" p).getD p
  cleaned.map fun c => if c = '\\' then '/' else c

/-- A path put together from names. -/
def ofNames (names : List String) : String := String.intercalate "/" names

end Path
end Stencil
