import Stencil.CommandLine.Arguments
import Stencil.CommandLine.Starter
import Stencil.Config.File
import Stencil.Engine.Choice
import Stencil.Resolution
import Stencil.Run

/-! Carrying out commands. Files are those of a tree, and commands of the configuration go to a
shell that may change it. -/
namespace Stencil
namespace CommandLine

/-- What a command leaves behind: lines told on the way, the tree, and how it ended. -/
structure Finished (α : Type) where
  lines : List String
  tree : FileTree
  result : Except Problem α

/-- All that a run needs, once the configuration has been read and carried out. -/
structure Prepared where
  context : KeyMap Json
  engine : Engine
  options : Run.Options

def runOptions (c : Config) (force : Bool) : Run.Options :=
  ⟨c.exclude, c.ignoreFiles, c.templateMatcher, c.childFlag, force⟩

/-- The configuration, once it is known that the root is a directory. -/
def configure (t : FileTree) (root config : Path) : Except Problem Config :=
  match Config.load t config with
  | .error f =>
    .error ((Problem.ofFailure f).within ("Failed to load config from " ++ config.text))
  | .ok c => (Run.validateRoot t root).map (fun _ => c) |>.mapError Problem.ofFailure

/-- The engine that the options ask for. -/
def chooseEngine (o : EngineOptions) (t : FileTree) (root : Path) : Except Failure Engine :=
  match o.engine t root with
  | .ok engine => .ok engine
  | .error e => .error (.invalidConfigValue "engine" e.message)

/-- Run the setup commands, find the values of the context, and choose the engine. -/
def prepare (env : Environment) (sh : Shell FileTree) (t : FileTree) (root : Path) (c : Config)
    (force : Bool) : Except Failure Prepared × FileTree :=
  match sh.setup c.setup t with
  | (.error f, t) => (.error f, t)
  | (.ok (), t) =>
    match Variable.resolveAll env sh c.context t with
    | (.error f, t) => (.error f, t)
    | (.ok context, t) =>
      ((chooseEngine c.engine t root).map fun engine => ⟨context, engine, runOptions c force⟩, t)

def render (env : Environment) (sh : Shell FileTree) (t : FileTree) (root config : Path)
    (force : Bool) : Finished Outcome :=
  match configure t root config with
  | .error e => ⟨[], t, .error e⟩
  | .ok c =>
    match prepare env sh t root c force with
    | (.error f, t) => ⟨[], t, .error (.ofFailure f)⟩
    | (.ok p, t) =>
      let done := Run.run Writer.disk t root p.context p.engine p.options ()
      ⟨done.lines, done.tree, done.result.mapError Problem.ofFailure⟩

/-- The starter document in a directory, or the one that is there already. -/
def existingConfig? (t : FileTree) (starter : Path) : Option Path :=
  [starter, starter.withExtension "yaml"].find? t.exists?

def init (t : FileTree) (directory : Path) (force : Bool) : Finished Path :=
  let target := directory.join starterName
  match existingConfig? t target, force with
  | some found, false =>
    ⟨[], t, .error (.ofText
      ("Config already exists at " ++ found.text ++ ". Use --force to overwrite"))⟩
  | _, _ =>
    match if t.exists? directory then (t, .ok ()) else t.makeDirectories directory with
    | (made, .error e) => ⟨[], made, .error (.ofText e.text)⟩
    | (made, .ok ()) =>
      match made.writeText target starter with
      | .error e => ⟨[], made, .error (.ofText e.text)⟩
      | .ok written => ⟨[], written, .ok target⟩

/-- What a command that succeeded has to tell. -/
inductive Closing where
  | rendered (outcome : Outcome)
  | initialized (target : Path)

namespace Closing

/-- The lines that end a command. `elapsed` is the text for the time that it took. -/
def lines (elapsed : String) (color : Bool) : Closing → List String
  | rendered outcome => [outcome.summary elapsed color]
  | initialized target =>
    [Style.green.paint color "✓" ++ " Initialized " ++ target.text,
      "",
      Style.cyan.paint color "Next steps:",
      "  Add a template such as " ++ Style.brightWhite.paint color "README.etch.md",
      "  Then run " ++ Style.brightWhite.paint color "etch" ++ " to render it"]

end Closing

namespace Finished

def map (f : α → β) (done : Finished α) : Finished β :=
  ⟨done.lines, done.tree, done.result.map f⟩

/-- All lines for the user: those told on the way if that is wanted, and the closing ones. -/
def told (done : Finished Closing) (s : Settings) (elapsed : String) (color : Bool) :
    List String :=
  (if s.verbose then done.lines else []) ++
    match done.result with
    | .ok closing => if s.quiet then [] else closing.lines elapsed color
    | .error _ => []

end Finished

def perform (env : Environment) (sh : Shell FileTree) (t : FileTree) (c : Command) :
    Finished Closing :=
  match c with
  | .render root config force => (render env sh t ⟨root⟩ ⟨config⟩ force).map .rendered
  | .init directory force => (init t ⟨directory⟩ force).map .initialized

end CommandLine
end Stencil
