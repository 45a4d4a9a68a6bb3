import Stencil.Lockfile.Document

/-! The lockfile of one root during a run. What a run finds out is staged, and looked up only
after it has been applied. -/
namespace Stencil
namespace Lockfile

/-- How a cache was opened. -/
inductive Status where
  | loaded
  | missing
  /-- A lockfile was found and discarded -/
  | reset (found : Loaded)
  /-- Whatever is on disk is ignored -/
  | forced
  deriving DecidableEq

structure Cache where
  path : Path
  onDisk : Option Lockfile
  current : Lockfile
  staged : KeyMap UInt32

namespace Cache

/-- The lockfile of a root. -/
def pathIn (root : Path) : Path := root.join fileName

def start (path : Path) (onDisk : Option Lockfile) : Cache :=
  ⟨path, onDisk, onDisk.getD new, .empty⟩

def «open» (t : FileTree) (root : Path) (force : Bool) : Cache × Status :=
  let path := pathIn root
  if force then (start path none, .forced)
  else
    match load t path with
    | .valid l => (start path (some l), .loaded)
    | .missing => (start path none, .missing)
    | found => (start path none, .reset found)

/-- The fingerprint recorded for a key. What is staged does not count. -/
def fingerprintOf (c : Cache) (key : String) : Option UInt32 := c.current.files.get? key

/-- A later fingerprint for the same key wins. -/
def stage (c : Cache) (key : String) (fingerprint : UInt32) : Cache :=
  { c with staged := c.staged.insert key fingerprint }

/-- Drop the entries whose template is gone, then record all that is staged. -/
def applyStaged (c : Cache) (present : String → Bool) : Cache :=
  { c with
    current := { c.current with files := (c.current.files.keep present).union c.staged }
    staged := .empty }

/-- Whether a key still leads to something below the root. -/
def present (t : FileTree) (root : Path) (key : String) : Bool := t.exists? (root.join key)

def isModified (c : Cache) : Bool := c.onDisk != some c.current

/-- Write the lockfile if it differs from the one that was loaded; whether it was written is
answered. -/
def commit (c : Cache) (t : FileTree) : FileTree × Except Problem Bool :=
  if c.isModified then
    match c.current.save t c.path with
    | (t, .ok ()) => (t, .ok true)
    | (t, .error e) => (t, .error e)
  else (t, .ok false)

end Cache
end Lockfile
end Stencil
