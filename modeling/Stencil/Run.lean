import Stencil.Engine
import Stencil.Locator
import Stencil.Lockfile.Cache
import Stencil.Lockfile.Fingerprint
import Stencil.Outcome
import Stencil.Selection

/-! A run: find the templates below a root, render them, and write the outputs whose fingerprint
has changed. Nothing is written before everything has been rendered. -/
namespace Stencil

/-- A writer may refuse a write; then neither the tree nor its own state has changed. -/
abbrev Writer (ω : Type) := Path → String → FileTree → ω → Except IoError (FileTree × ω)

namespace Writer

/-- Outputs go over what is there. -/
def disk : Writer Unit := fun p text t () => (t.writeText p text).map (·, ())

end Writer

namespace Run

structure Options where
  exclude : List String := []
  ignoreFiles : List String := []
  templateMatcher : String := "etch"
  childFlag : String := "!etch:child"
  force : Bool := false

/-- The root has to be a directory. -/
def validateRoot (t : FileTree) (root : Path) : Except Failure Unit :=
  if !t.exists? root then .error (.rootNotFound root.text)
  else if !t.isDirectory root then .error (.rootIsFile root.text)
  else .ok ()

/-- What a run needs to know before it looks at a file. -/
structure Setting where
  tree : FileTree
  root : Path
  context : KeyMap Json
  engine : Engine
  locator : Locator
  ignore : IgnoreSpec

def prepare (t : FileTree) (root : Path) (context : KeyMap Json) (engine : Engine)
    (o : Options) : Except Failure Setting := do
  validateRoot t root
  let marker ← Marker.read o.templateMatcher
  let locator ← Locator.create t root marker o.childFlag
  let ignore ← IgnoreSpec.build t root o.ignoreFiles o.exclude
  .ok ⟨t, root, context, engine, locator, ignore⟩

/-- A rendered text with its fingerprint. -/
structure Rendered where
  text : String
  fingerprint : UInt32
  deriving DecidableEq, Repr

/-- What has come out so far. Lists have the latest item first. -/
structure Progress where
  cache : Lockfile.Cache
  /-- The renders of the root templates met so far, by lock key -/
  renders : KeyMap Rendered := .empty
  identical : List Path := []
  pending : List (Path × String) := []
  rootTemplates : List Path := []

/-- Lines that a run prints, in order. -/
abbrev Lines := List String

/-- Put a path where it belongs among sorted ones, unless it is there already. -/
def insertPath (p : Path) : List Path → List Path
  | [] => [p]
  | q :: rest =>
    match p.compare q with
    | .lt => p :: q :: rest
    | .eq => q :: rest
    | .gt => q :: insertPath p rest

/-- A root template is rendered once in a run. -/
def render (s : Setting) (located : Located) (renders : KeyMap Rendered) :
    Except Failure (Rendered × KeyMap Rendered) :=
  match renders.get? located.lockKey with
  | some r => .ok (r, renders)
  | none =>
    match s.engine located.text s.context with
    | .error source => .error (.render located.rootTemplate.text source)
    | .ok text =>
      let r : Rendered := ⟨text, Lockfile.fingerprint text⟩
      .ok (r, renders.insert located.lockKey r)

/-- An output stays as it is if it is there and the loaded lockfile has its fingerprint. -/
def isCurrent (s : Setting) (p : Progress) (located : Located) (r : Rendered) : Bool :=
  s.tree.exists? located.output && p.cache.fingerprintOf located.lockKey == some r.fingerprint

def record (s : Setting) (p : Progress) (located : Located) : Except Failure Progress :=
  match render s located p.renders with
  | .error f => .error f
  | .ok (r, renders) =>
    let p := { p with renders, rootTemplates := insertPath located.rootTemplate p.rootTemplates }
    if isCurrent s p located r then .ok { p with identical := located.output :: p.identical }
    else
      .ok { p with
        cache := p.cache.stage located.lockKey r.fingerprint
        pending := (located.output, r.text) :: p.pending }

def found (located : Located) : String :=
  match located.kind with
  | .child => "Found child at " ++ located.source.text ++ ". Root template: " ++
      located.rootTemplate.text ++ ". Compiling..."
  | .inPlace => "Found in-place template at " ++ located.source.text ++ ". Compiling..."

/-- Every so many files a line tells how far the run has come. -/
def progressInterval : Nat := 100

def checked (index : Nat) (relative : String) : Lines :=
  if index % progressInterval = 0 then
    ["Checked " ++ toString index ++ " non-ignored files. Currently checking " ++ relative ++ "..."]
  else []

def isLockfile (relative : String) : Bool :=
  (Path.mk relative).fileName? == some Lockfile.fileName

/-- One selected file. The lockfile itself is no template. -/
def step (s : Setting) (p : Progress) (relative : String) : Lines × Except Failure Progress :=
  if isLockfile relative then ([], .ok p)
  else
    match s.locator.locate s.tree relative with
    | .error f => ([], .error f)
    | .ok none => ([], .ok p)
    | .ok (some located) => ([found located], record s p located)

/-- All selected files in their order, up to the first that fails. -/
def collect (s : Setting) (index : Nat) (p : Progress) :
    List String → Lines × Except Failure Progress
  | [] => ([], .ok p)
  | relative :: rest =>
    match step s p relative with
    | (lines, .error f) => (checked index relative ++ lines, .error f)
    | (lines, .ok p) =>
      let (more, result) := collect s (index + 1) p rest
      (checked index relative ++ lines ++ more, result)

/-- What an output writer has done: the lines told, the outputs accepted, the tree and the
writer's state, and the failure if a write was refused. -/
structure Emission (ω : Type) where
  lines : Lines
  written : List Path
  tree : FileTree
  state : ω
  refused : Option Failure

/-- Hand the outputs to the writer in order, up to the first that it refuses. -/
def emit (w : Writer ω) : List (Path × String) → FileTree → ω → Emission ω
  | [], t, s => ⟨[], [], t, s, none⟩
  | (p, text) :: rest, t, s =>
    let line := "Writing compiled template to " ++ p.text ++ "."
    match w p text t s with
    | .error e => ⟨[line], [], t, s, some (.fileSystem "write" p.text e)⟩
    | .ok (t, s) =>
      let more := emit w rest t s
      { more with lines := line :: more.lines, written := p :: more.written }

/-- Everything that a run leaves behind. -/
structure Finished (ω : Type) where
  lines : Lines
  tree : FileTree
  state : ω
  result : Except Failure Outcome

/-- The reason of a failed commit, told in one line. -/
def commitFailure (c : Lockfile.Cache) (e : Problem) : Failure :=
  .fileSystem "write" c.path.text (.custom (String.intercalate ": " e.messages))

/-- Write the outputs, then the lockfile. -/
def finish (w : Writer ω) (root : Path) (p : Progress) (t : FileTree) (s : ω) : Finished ω :=
  let cache := p.cache.applyStaged (Lockfile.Cache.present t root)
  let emission := emit w p.pending.reverse t s
  match emission.refused with
  | some f => ⟨emission.lines, emission.tree, emission.state, .error f⟩
  | none =>
    match cache.commit emission.tree with
    | (t, .error e) => ⟨emission.lines, t, emission.state, .error (commitFailure cache e)⟩
    | (t, .ok modified) =>
      ⟨emission.lines, t, emission.state,
        .ok ⟨emission.written, p.identical.reverse, p.rootTemplates, modified⟩⟩

def resetLines : Lockfile.Status → Lines
  | .reset _ => ["Invalid lockfile. Resetting..."]
  | _ => []

/-- A run over files given in some order. -/
def onFiles (w : Writer ω) (setting : Setting) (force : Bool) (files : List String) (s : ω) :
    Finished ω :=
  let (cache, status) := Lockfile.Cache.open setting.tree setting.root force
  let (lines, collected) := collect setting 0 { cache } files
  let lines := resetLines status ++ lines
  match collected with
  | .error f => ⟨lines, setting.tree, s, .error f⟩
  | .ok p =>
    let done := finish w setting.root p setting.tree s
    { done with lines := lines ++ done.lines }

/-- A run over the selected files of a root. -/
def run (w : Writer ω) (t : FileTree) (root : Path) (context : KeyMap Json) (engine : Engine)
    (o : Options) (s : ω) : Finished ω :=
  match prepare t root context engine o with
  | .error f => ⟨[], t, s, .error f⟩
  | .ok setting =>
    match Selection.files t setting.ignore root with
    | .ok files => onFiles w setting o.force files s
    | .error f =>
      ⟨resetLines (Lockfile.Cache.open t root o.force).2, t, s, .error f⟩

end Run
end Stencil
