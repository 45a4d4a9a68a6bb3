import Stencil.FileTree.Atomic
import Stencil.Json.Printer
import Stencil.Json.Reader
import Stencil.KeyMap

/-! The lockfile as a document. -/
namespace Stencil

/-- The fingerprint of the latest render of each root template, by storage key. -/
structure Lockfile where
  version : String
  files : KeyMap UInt32
  deriving DecidableEq, Inhabited

namespace Lockfile

def runningVersion : String := "0.1.0"

def fileName : String := ".etch.lock"

/-- An empty lockfile of the running version. -/
def new : Lockfile := ⟨runningVersion, .empty⟩

def renderEntry (e : String × UInt32) : String :=
  "        " ++ Json.quote e.1 ++ ": " ++ toString e.2.toNat

/-- Keys in order, each on a line of its own, indented by four spaces a level. -/
def render (l : Lockfile) : String :=
  let files := if l.files.isEmpty then "\x7b\x7d"
    else "\x7b\n" ++ String.intercalate ",\n" (l.files.entries.map renderEntry) ++ "\n    \x7d"
  "\x7b\n    \"version\": " ++ Json.quote l.version ++ ",\n    \"files\": " ++ files ++ "\n\x7d\n"

/-- A fingerprint is an integer of 32 bits. -/
def fingerprint? : Json → Option UInt32
  | .number (.int n) => if 0 ≤ n ∧ n < UInt32.size then some n.toNat.toUInt32 else none
  | _ => none

/-- Every value has to be a fingerprint, also one that a later entry replaces. -/
def files? : Json → Option (KeyMap UInt32)
  | .object fields => (fields.mapM fun e => (fingerprint? e.2).map (e.1, ·)).map .ofList
  | _ => none

def version? : Json → Option String
  | .string s => some s
  | _ => none

/-- An object of exactly the two keys, or a list of the two values. -/
def ofJson? : Json → Option Lockfile
  | .object [("version", v), ("files", f)] => do some ⟨← version? v, ← files? f⟩
  | .object [("files", f), ("version", v)] => do some ⟨← version? v, ← files? f⟩
  | .array [v, f] => do some ⟨← version? v, ← files? f⟩
  | _ => none

/-- What is found where a lockfile is looked for. -/
inductive Loaded where
  | valid (lockfile : Lockfile)
  | missing
  | unreadable (path : String) (source : IoError)
  | malformed (path : String)
  | otherVersion (found : String)
  deriving DecidableEq

namespace Loaded

/-- Why a lockfile was discarded. `parserText` is what a reader has to say about a malformed one. -/
def reason? (parserText : String) : Loaded → Option String
  | valid _ | missing => none
  | unreadable path source => some ("could not read " ++ path ++ ": " ++ source.text)
  | malformed path => some ("could not parse " ++ path ++ ": " ++ parserText)
  | otherVersion found =>
    some ("lockfile version " ++ found ++ " does not match etch version " ++ runningVersion)

end Loaded

/-- The bytes of a lockfile at a path. -/
def ofBytes (path : String) (bytes : ByteArray) : Loaded :=
  match (String.fromUTF8? bytes).bind Json.readRaw? |>.bind ofJson? with
  | some l => if l.version = runningVersion then .valid l else .otherVersion l.version
  | none => .malformed path

/-- Loading never fails: what cannot be trusted is told apart from a lockfile. -/
def load (t : FileTree) (p : Path) : Loaded :=
  match t.readBytes p with
  | .ok bytes => ofBytes p.text bytes
  | .error e => if e.kind = .notFound then .missing else .unreadable p.text e

def save (l : Lockfile) (t : FileTree) (p : Path) : FileTree × Except Problem Unit :=
  match t.atomicWrite p l.render.toUTF8 with
  | (t, .ok ()) => (t, .ok ())
  | (t, .error e) => (t, .error (e.within ("Failed to write lockfile: " ++ p.text)))

end Lockfile
end Stencil
