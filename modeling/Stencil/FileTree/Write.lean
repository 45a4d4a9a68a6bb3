import Stencil.FileTree.Resolve

/-! Changing a tree. -/
namespace Stencil
namespace FileTree

/-- Write a file over what is there, through links. -/
def writeBytes (t : FileTree) (p : Path) (bytes : ByteArray) : Except IoError FileTree :=
  match t.locate p .written with
  | .found loc (.file _) => .ok (t.set loc (.file bytes))
  | .found _ _ => .error (.of .isADirectory)
  | .vacant dir name => .ok (t.set (dir ++ [name]) (.file bytes))
  | .failed kind => .error (.of kind)

def writeText (t : FileTree) (p : Path) (text : String) : Except IoError FileTree :=
  t.writeBytes p text.toUTF8

/-- A path without separators at its end. -/
def withoutSlash (p : Path) : Path :=
  let cs := p.text.toList.reverse.dropWhile (· == '/')
  if cs.isEmpty then p else ⟨String.ofList cs.reverse⟩

def makeDirectory (t : FileTree) (p : Path) : Except IoError FileTree :=
  match t.locate (withoutSlash p) .kept with
  | .found .. => .error (.of .alreadyExists)
  | .vacant dir name => .ok (t.set (dir ++ [name]) .directory)
  | .failed kind => .error (.of kind)

/-- Make a directory that may be there already. -/
def ensureOne (t : FileTree) (p : Path) : Except IoError FileTree :=
  match t.makeDirectory p with
  | .ok t => .ok t
  | .error e => if t.isDirectory p then .ok t else .error e

/-- The path and its ancestors, innermost first. -/
def ancestry : Nat → Path → List Path
  | 0, _ => []
  | fuel + 1, p =>
    if p.text = "" then []
    else
      match p.parent? with
      | some q => p :: ancestry fuel q
      | none => [p]

/-- Make the first of a chain of directories, and the rest of the chain before it if it cannot be
made without. What was made stays, whatever the answer is. -/
def makeChain (t : FileTree) : List Path → FileTree × Except IoError Unit
  | [] => (t, .ok ())
  | p :: above =>
    match t.ensureOne p with
    | .ok t => (t, .ok ())
    | .error e =>
      if e.kind = .notFound then
        match t.makeChain above with
        | (t, .error e) => (t, .error e)
        | (t, .ok ()) =>
          match t.ensureOne p with
          | .ok t => (t, .ok ())
          | .error e => (t, .error e)
      else (t, .error e)

/-- Make a directory and every ancestor that is missing. -/
def makeDirectories (t : FileTree) (p : Path) : FileTree × Except IoError Unit :=
  t.makeChain (ancestry (p.text.length + 1) p)

/-- Move a file over whatever file or link is at the target. -/
def rename (t : FileTree) (source target : Path) : Except IoError FileTree :=
  match t.locate source .kept with
  | .found loc entry =>
    match t.locate target .kept with
    | .found _ .directory => .error (.of .isADirectory)
    | .found there _ => .ok (if there = loc then t else (t.erase loc).set there entry)
    | .vacant dir name => .ok ((t.erase loc).set (dir ++ [name]) entry)
    | .failed kind => .error (.of kind)
  | .vacant .. => .error (.of .notFound)
  | .failed kind => .error (.of kind)

/-- Remove a file or link; a directory stays. -/
def removeFile (t : FileTree) (p : Path) : Except IoError FileTree :=
  match t.locate p .kept with
  | .found _ .directory => .error (.of .isADirectory)
  | .found loc _ => .ok (t.erase loc)
  | .vacant .. => .error (.of .notFound)
  | .failed kind => .error (.of kind)

/-- Remove whatever the path names, with all below it. -/
def removeAll (t : FileTree) (p : Path) : FileTree :=
  match t.locate p .kept with
  | .found loc _ => t.erase loc
  | _ => t

/-- Put a link at a path. -/
def makeLink (t : FileTree) (p : Path) (target : String) : Except IoError FileTree :=
  match t.locate p .kept with
  | .vacant dir name => .ok (t.set (dir ++ [name]) (.link target))
  | .found .. => .error (.of .alreadyExists)
  | .failed kind => .error (.of kind)

end FileTree
end Stencil
