import Stencil.FileTree.Write

/-! Replacing a file by way of a temporary sibling. A reader sees the old bytes or the new ones. -/
namespace Stencil
namespace FileTree

/-- Make sure that a directory is there. The tree is answered in either case. -/
def ensureDirectory (t : FileTree) (p : Path) : FileTree × Except Problem Unit :=
  if t.exists? p then
    if t.isDirectory p then (t, .ok ())
    else (t, .error (.ofText ("Path exists but is not a directory: " ++ p.text)))
  else
    match t.makeDirectories p with
    | (t, .ok ()) => (t, .ok ())
    | (t, .error e) =>
      (t, .error ((Problem.ofText e.text).within ("Failed to create directory: " ++ p.text)))

/-- The temporary sibling of a path. -/
def temporaryFor (p : Path) : Path :=
  p.withFileName ("." ++ p.fileName?.getD "etch" ++ ".tmp")

/-- The directory that a file is to be written into. -/
def ensureParent (t : FileTree) (p : Path) : FileTree × Except Problem Unit :=
  match p.parent? with
  | some q => if q.text = "" then (t, .ok ()) else t.ensureDirectory q
  | none => (t, .ok ())

/-- The temporary file, holding the bytes written so far. -/
def writeTemporary (t : FileTree) (p : Path) (bytes : ByteArray) : Except Problem FileTree :=
  match t.writeBytes (temporaryFor p) bytes with
  | .ok t => .ok t
  | .error e =>
    .error ((Problem.ofText e.text).within
      ("Failed to create temp file: " ++ (temporaryFor p).text))

/-- Put the temporary file in the place of the target. The temporary file goes either way. -/
def replaceBy (t : FileTree) (p : Path) : FileTree × Except Problem Unit :=
  match t.rename (temporaryFor p) p with
  | .ok t => (t, .ok ())
  | .error e =>
    ((t.removeFile (temporaryFor p)).toOption.getD t,
      .error ((Problem.ofText e.text).within ("Failed to rename temp file to: " ++ p.text)))

/-- Write all the bytes or none. The tree is answered in either case. -/
def atomicWrite (t : FileTree) (p : Path) (bytes : ByteArray) : FileTree × Except Problem Unit :=
  match t.ensureParent p with
  | (parented, .error e) => (parented, .error e)
  | (parented, .ok ()) =>
    match parented.writeTemporary p bytes with
    | .error e => (parented, .error e)
    | .ok written => written.replaceBy p

/-- The trees that an interrupted write of `p` leaves behind: any number of bytes may have reached
the temporary file. -/
inductive CutOff (t : FileTree) (p : Path) (bytes : ByteArray) : FileTree → Prop where
  | before : CutOff t p bytes t
  | parented {u r} (h : t.ensureParent p = (u, r)) : CutOff t p bytes u
  | written {u v} (count : Nat) (h : t.ensureParent p = (u, .ok ()))
      (g : u.writeTemporary p (bytes.extract 0 count) = .ok v) : CutOff t p bytes v

end FileTree
end Stencil
