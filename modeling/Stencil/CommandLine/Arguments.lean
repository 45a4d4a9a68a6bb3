/-! What the arguments of a command line ask for. -/
namespace Stencil
namespace CommandLine

/-- Options that hold no value. -/
inductive Flag where
  | force
  | verbose
  | quiet
  | help
  | version
  deriving DecidableEq, Repr

/-- What an argument gives a value to. -/
inductive Slot where
  | root
  | config
  | path
  deriving DecidableEq, Repr

namespace Flag

def long : Flag → String
  | force => "force"
  | verbose => "verbose"
  | quiet => "quiet"
  | help => "help"
  | version => "version"

def short : Flag → Char
  | force => 'f'
  | verbose => 'v'
  | quiet => 'q'
  | help => 'h'
  | version => 'V'

end Flag

namespace Slot

def long : Slot → String
  | root => "root"
  | config => "config"
  | path => "path"

def short : Slot → Char
  | root => 'r'
  | config => 'c'
  | path => 'p'

end Slot

/-- Why arguments are not carried out. -/
inductive Stop where
  | help
  | version
  | unknownArgument
  | argumentConflict
  | invalidValue
  | invalidSubcommand
  | tooManyValues
  deriving DecidableEq, Repr

namespace Stop

/-- Being asked for help is no failure. -/
def exitCode : Stop → Nat
  | help | version => 0
  | _ => 2

end Stop

/-- The arguments that a command takes. -/
structure Grammar where
  flags : List Flag
  /-- Slots that are filled by an option -/
  slots : List Slot
  takesRoot : Bool
  /-- Why an argument without a place is refused -/
  surplus : Stop

namespace Grammar

def render : Grammar :=
  ⟨[.force, .verbose, .quiet, .help], [.config], true, .unknownArgument⟩

def init : Grammar :=
  ⟨[.force, .verbose, .quiet, .help], [.path], false, .unknownArgument⟩

/-- Without the name of a command templates are rendered. -/
def top : Grammar :=
  { render with flags := .version :: render.flags, surplus := .argumentConflict }

end Grammar

/-- What has been read so far. A value is settled only when the argument after it is looked at. -/
structure Reading where
  flags : List Flag := []
  values : List (Slot × String) := []
  pending : Option (Slot × Option String) := none

namespace Reading

/-- A slot is filled once, and not with nothing. -/
def fill (r : Reading) (slot : Slot) (value : String) : Except Stop Reading :=
  if (r.values.lookup slot).isSome then .error .argumentConflict
  else if value = "" then .error .invalidValue
  else .ok { r with values := (slot, value) :: r.values }

def settle (r : Reading) : Except Stop Reading :=
  match r.pending with
  | none => .ok r
  | some (_, none) => .error .invalidValue
  | some (slot, some value) => { r with pending := none }.fill slot value

def raise (r : Reading) (f : Flag) : Except Stop Reading := do
  let r ← r.settle
  match f with
  | .help => .error .help
  | .version => .error .version
  | f => if f ∈ r.flags then .error .argumentConflict else .ok { r with flags := f :: r.flags }

/-- An option whose value is given with it, or is to follow. -/
def give (r : Reading) (slot : Slot) (value : Option String) : Except Stop Reading := do
  let r ← r.settle
  match value with
  | some value => r.fill slot value
  | none => .ok { r with pending := some (slot, none) }

def hasRoot (r : Reading) : Bool :=
  (r.values.lookup .root).isSome || r.pending.any fun p => p.1 == .root

/-- An argument that is no option. -/
def place (g : Grammar) (r : Reading) (arg : String) : Except Stop Reading :=
  if g.takesRoot && !r.hasRoot then do
    let r ← r.settle
    .ok { r with pending := some (.root, some arg) }
  else .error g.surplus

/-- The name of a long option and the value that an equals sign adds to it. -/
def splitValue (cs : List Char) : String × Option String :=
  let name := cs.takeWhile (· != '=')
  match cs.drop name.length with
  | [] => (String.ofList name, none)
  | _ :: value => (String.ofList name, some (String.ofList value))

def long (g : Grammar) (r : Reading) (cs : List Char) : Except Stop Reading :=
  let (name, value) := splitValue cs
  match g.flags.find? (·.long == name), g.slots.find? (·.long == name) with
  | some f, _ => if value.isSome then .error .tooManyValues else r.raise f
  | none, some slot => r.give slot value
  | none, none => .error .unknownArgument

/-- The rest of an argument after the letter of an option, as its value. -/
def attached : List Char → Option String
  | [] => none
  | '=' :: cs => some (String.ofList cs)
  | cs => some (String.ofList cs)

/-- Letters behind one dash, the last of which may take a value. -/
def short (g : Grammar) (r : Reading) : List Char → Except Stop Reading
  | [] => .ok r
  | c :: cs =>
    match g.flags.find? (·.short == c), g.slots.find? (·.short == c) with
    | some f, _ => do short g (← r.raise f) cs
    | none, some slot => r.give slot (attached cs)
    | none, none => .error .unknownArgument

/-- One argument in front of the sign that ends the options. -/
def argument (g : Grammar) (r : Reading) (arg : String) : Except Stop Reading :=
  match arg.toList, r.pending with
  | '-' :: '-' :: cs, _ => r.long g cs
  | '-' :: c :: cs, _ => r.short g (c :: cs)
  | _, some (slot, none) => .ok { r with pending := some (slot, some arg) }
  | _, _ => r.place g arg

/-- All arguments. After two dashes none is an option. -/
def arguments (g : Grammar) (r : Reading) : List String → Except Stop Reading
  | [] => r.settle
  | arg :: rest =>
    if arg = "--" then do (← rest.foldlM (place g) r).settle
    else do arguments g (← r.argument g arg) rest

end Reading

/-- What is to be done. -/
inductive Command where
  | render (root config : String) (force : Bool)
  | init (directory : String) (force : Bool)
  deriving DecidableEq, Repr

structure Settings where
  /-- Lines tell what is done -/
  verbose : Bool
  /-- Nothing but failures is told -/
  quiet : Bool
  deriving DecidableEq, Repr

namespace Settings

/-- The least severity that is logged. -/
def logLevel (s : Settings) : String :=
  if s.verbose then "debug" else if s.quiet then "error" else "warn"

end Settings

structure Invocation where
  command : Command
  settings : Settings
  deriving DecidableEq, Repr

def defaultConfig : String := "./etch.config.yml"

namespace Reading

/-- What was read under a grammar; it cannot be quiet and verbose at once. -/
def ofArguments (g : Grammar) (args : List String) : Except Stop Reading := do
  let r ← ({} : Reading).arguments g args
  if .quiet ∈ r.flags ∧ .verbose ∈ r.flags then .error .argumentConflict else .ok r

def invocation (r : Reading) (command : Command) : Invocation :=
  ⟨command, ⟨.verbose ∈ r.flags, .quiet ∈ r.flags⟩⟩

def value (r : Reading) (slot : Slot) (fallback : String) : String :=
  (r.values.lookup slot).getD fallback

def rendering (r : Reading) : Invocation :=
  r.invocation (.render (r.value .root ".") (r.value .config defaultConfig) (.force ∈ r.flags))

def initialising (r : Reading) : Invocation :=
  r.invocation (.init (r.value .path ".") (.force ∈ r.flags))

end Reading

/-- Help is given on one command. -/
def helpOn : List String → Stop
  | [] => .help
  | [name] => if name ∈ ["render", "init", "help"] then .help else .invalidSubcommand
  | _ => .invalidSubcommand

/-- What the arguments ask for. Only the first argument may name a command. -/
def parse (args : List String) : Except Stop Invocation :=
  match args with
  | "render" :: rest => (Reading.ofArguments .render rest).map Reading.rendering
  | "init" :: rest => (Reading.ofArguments .init rest).map Reading.initialising
  | "help" :: rest => .error (helpOn rest)
  | args => (Reading.ofArguments .top args).map Reading.rendering

end CommandLine
end Stencil
