import Stencil.CommandLine.Command
import Stencil.Elapsed
import Stencil.Script.Execution

/-! The program. It takes in the files below the working directory, works on them as on any tree,
and puts back what has changed. -/
namespace Stencil
namespace Program

def helpLines : List String :=
  ["Render in-place templates across a directory tree",
    "",
    "Usage: etch [OPTIONS] [ROOT]",
    "       etch render [OPTIONS] [ROOT]",
    "       etch init [--path <PATH>] [--force]",
    "",
    "Options:",
    "  -c, --config <CONFIG>  Path to the YAML config file [default: ./etch.config.yml]",
    "  -f, --force            Ignore the lockfile and rewrite every output",
    "  -v, --verbose          Print progress lines",
    "  -q, --quiet            Suppress all output except errors",
    "  -h, --help             Print help",
    "  -V, --version          Print version"]

/-- What is printed where arguments are not carried out. -/
def explanation : CommandLine.Stop → String
  | .help => String.intercalate "\n" helpLines
  | .version => "etch " ++ Lockfile.runningVersion
  | .unknownArgument => "error: unexpected argument found"
  | .argumentConflict => "error: arguments cannot be used together"
  | .invalidValue => "error: a value is required but none was supplied"
  | .invalidSubcommand => "error: unrecognized subcommand"
  | .tooManyValues => "error: unexpected value found"

/-- A variable counts as set to false only by a zero. -/
def isOn (env : Environment) (name : String) : Option Bool := (env name).map (· ≠ "0")

/-- Color is for terminals, unless the environment says otherwise. -/
def wantsColor (env : Environment) (terminal : Bool) : Bool :=
  if isOn env "CLICOLOR_FORCE" = some true then true
  else if (env "NO_COLOR").isSome then false
  else (isOn env "CLICOLOR").getD true && terminal

/-- The entries of a block of variables, each ended by a zero byte. -/
def variablesOf (block : ByteArray) : List (String × String) :=
  (Text.splitOnChar '\x00' [] (Text.lossy block.toList).toList).filterMap fun cs =>
    (Text.cutAt '=' cs).map fun (name, value) => (String.ofList name, String.ofList value)

/-- The environment, as far as the system shows it. -/
def environment : IO (KeyMap String) := do
  try return .ofList (variablesOf (← IO.FS.readBinFile "/proc/self/environ"))
  catch _ => return .empty

/-- The entries below a directory. What is neither file, directory nor link is left out. -/
partial def gather (above : Location) (entries : Array IO.FS.DirEntry) :
    IO (List (Location × Entry)) := do
  let mut found := []
  for e in entries do
    let loc := above ++ [e.fileName]
    match (← e.path.symlinkMetadata).type with
    | .dir => found := found ++ (loc, .directory) :: (← gather loc (← e.path.readDir))
    | .file => found := found ++ [(loc, .file (← IO.FS.readBinFile e.path))]
    | .symlink =>
      let target ← try pure (← IO.FS.realPath e.path).toString catch _ => pure "\x00"
      found := found ++ [(loc, .link target)]
    | .other => pure ()
  return found

def currentTree : IO FileTree := do
  let dir ← IO.currentDir
  let workDir := dir.components.filter (· ≠ "")
  let entries ← gather workDir (← dir.readDir)
  return entries.foldl (fun t e => t.set e.1 e.2) (FileTree.empty workDir)

def pathOf (loc : Location) : String := "/" ++ Path.ofNames loc

/-- Make the files those of the second tree, given that they are those of the first. -/
def restore (before after : FileTree) : IO Unit := do
  for (loc, entry) in before.entries do
    if (after.get? loc).isNone then
      match entry with
      | .directory => try IO.FS.removeDirAll (pathOf loc) catch _ => pure ()
      | _ => try IO.FS.removeFile (pathOf loc) catch _ => pure ()
  for (loc, entry) in after.entries do
    if before.get? loc ≠ some entry then
      match entry with
      | .directory => IO.FS.createDirAll (pathOf loc)
      | .file bytes => IO.FS.writeBinFile (pathOf loc) bytes
      | .link _ => pure ()

def run (i : CommandLine.Invocation) : IO UInt32 := do
  let started ← IO.monoNanosNow
  let values ← environment
  let before ← currentTree
  let done := CommandLine.perform values.get? (Script.shell values) before i.command
  restore before done.tree
  let elapsed := Elapsed.render ((← IO.monoNanosNow) - started)
  let color := wantsColor values.get? (← (← IO.getStdout).isTty)
  for line in done.told i.settings elapsed color do
    IO.println line
  match done.result with
  | .ok _ => return 0
  | .error p =>
    IO.eprint ((Report.ofProblem p).display color)
    return 1

end Program
end Stencil

def main (args : List String) : IO UInt32 := do
  match Stencil.CommandLine.parse args with
  | .ok i => Stencil.Program.run i
  | .error stop =>
    if stop.exitCode = 0 then IO.println (Stencil.Program.explanation stop)
    else IO.eprintln (Stencil.Program.explanation stop)
    return stop.exitCode.toUInt32
