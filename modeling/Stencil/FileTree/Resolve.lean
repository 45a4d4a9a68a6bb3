import Stencil.FileTree.Basic

/-! Following a path through a tree, links and all. -/
namespace Stencil
namespace FileTree

/-- Where a path leads. -/
inductive Place where
  | found (loc : Location) (entry : Entry)
  /-- Only the last name is missing -/
  | vacant (dir : Location) (name : String)
  | failed (kind : IoKind)

/-- The steps a path text takes. A separator at the end asks for a directory: it is an empty
step. -/
def steps (text : String) : List String :=
  let pieces := Path.pieces ⟨text⟩
  let kept := pieces.filter (· ≠ "")
  if 1 < pieces.length ∧ pieces.getLast? = some "" ∧ kept ≠ [] then kept ++ [""] else kept

/-- What becomes of the last name of a path. -/
inductive Ending where
  /-- A link there is not followed -/
  | kept
  /-- A link there is followed -/
  | followed
  /-- A file is to be opened there for writing, which an empty last step rules out -/
  | written
  deriving DecidableEq, Repr

/-- No name has more bytes. -/
def maxName : Nat := 255

/-- No path has as many bytes. -/
def maxPath : Nat := 4096

/-- Where a link is entered: at the top if its target is absolute. -/
def start (dir : Location) (target : String) : Location :=
  if target.startsWith "/" then [] else dir

/-- Take the steps from a directory. Links on the way are handed to `onLink` with the directory
they are in, their target and the steps left; one at the end only if it is to be followed. -/
def follow (t : FileTree) (ending : Ending) (onLink : Location → String → List String → Place) :
    Location → List String → Place
  | dir, [] => .found dir .directory
  | dir, s :: rest =>
    if s = "." ∨ s = "" then follow t ending onLink dir rest
    else if s = ".." then follow t ending onLink dir.dropLast rest
    else if ending = .written ∧ rest = [""] then .failed .isADirectory
    else if maxName < s.utf8ByteSize then .failed .nameTooLong
    else
      match t.get? (dir ++ [s]) with
      | none => if rest = [] then .vacant dir s else .failed .notFound
      | some .directory => follow t ending onLink (dir ++ [s]) rest
      | some (.file bytes) =>
        if rest = [] then .found (dir ++ [s]) (.file bytes) else .failed .notADirectory
      | some (.link target) =>
        if rest = [] ∧ ending = .kept then .found (dir ++ [s]) (.link target)
        else onLink dir target rest

/-- At most this many links are followed on one path. -/
def maxLinks : Nat := 40

def walk (t : FileTree) (ending : Ending) : Nat → Location → List String → Place
  | 0, dir, path => follow t ending (fun _ _ _ => .failed .filesystemLoop) dir path
  | n + 1, dir, path =>
    follow t ending
      (fun dir target rest => walk t ending n (start dir target) (steps target ++ rest)) dir path

/-- Where a path leads. -/
def locate (t : FileTree) (p : Path) (ending : Ending) : Place :=
  if p.text = "" then .failed .notFound
  else if p.text.toList.contains '\x00' then .failed .invalidInput
  else if maxPath ≤ p.text.utf8ByteSize then .failed .nameTooLong
  else walk t ending maxLinks (start t.workDir p.text) (steps p.text)

/-- Where a path leads, every link followed. -/
def resolve (t : FileTree) (p : Path) : Place := t.locate p .followed

def exists? (t : FileTree) (p : Path) : Bool :=
  match t.resolve p with
  | .found .. => true
  | _ => false

def isFile (t : FileTree) (p : Path) : Bool :=
  match t.resolve p with
  | .found _ (.file _) => true
  | _ => false

def isDirectory (t : FileTree) (p : Path) : Bool :=
  match t.resolve p with
  | .found _ .directory => true
  | _ => false

/-- The location a path really names. -/
def canonicalize (t : FileTree) (p : Path) : Except IoError Location :=
  match t.resolve p with
  | .found loc _ => .ok loc
  | .vacant .. => .error (.of .notFound)
  | .failed kind => .error (.of kind)

def readBytes (t : FileTree) (p : Path) : Except IoError ByteArray :=
  match t.resolve p with
  | .found _ (.file bytes) => .ok bytes
  | .found _ _ => .error (.of .isADirectory)
  | .vacant .. => .error (.of .notFound)
  | .failed kind => .error (.of kind)

def decode (bytes : ByteArray) : Except IoError String :=
  match String.fromUTF8? bytes with
  | some text => .ok text
  | none => .error (.of .invalidData)

/-- A file's text; bytes that are not UTF-8 are refused. -/
def readText (t : FileTree) (p : Path) : Except IoError String := t.readBytes p >>= decode

end FileTree
end Stencil
