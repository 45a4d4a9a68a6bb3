import Stencil.KeyMap
import Stencil.Text.Utf8
import Stencil.Variable

/-! Finding the values of context variables. -/
namespace Stencil

/-- How a command ended. -/
inductive ExitStatus where
  | exited (code : Nat)
  | signalled
  | notStarted (reason : String)
  deriving DecidableEq, Repr, Inhabited

structure Completed where
  status : ExitStatus
  output : List UInt8
  errors : List UInt8
  deriving DecidableEq, Inhabited

/-- A shell turns a command into its result and changes the state it acts on. -/
abbrev Shell (σ : Type) := String → σ → Completed × σ

namespace Shell

/-- The output of a command that has to succeed. -/
def run (sh : Shell σ) (command : String) (s : σ) : Except Failure String × σ :=
  let (done, s) := sh command s
  match done.status with
  | .exited 0 => (.ok (Text.lossy done.output), s)
  | .exited code =>
    (.error (.shellCommandFailed command ("exit code " ++ toString code)
      (Text.lossy done.errors)), s)
  | .signalled =>
    (.error (.shellCommandFailed command "terminated by signal" (Text.lossy done.errors)), s)
  | .notStarted reason =>
    (.error (.shellCommandFailed command ("could not start sh: " ++ reason) ""), s)

/-- Run commands for what they do, up to the first that fails. -/
def runAll (sh : Shell σ) : List String → σ → Except Failure Unit × σ
  | [], s => (.ok (), s)
  | command :: rest, s =>
    match sh.run command s with
    | (.ok _, s) => runAll sh rest s
    | (.error f, s) => (.error f, s)

/-- Run the setup commands; blank ones are skipped. -/
def setup (sh : Shell σ) (commands : List String) (s : σ) : Except Failure Unit × σ :=
  sh.runAll (commands.filter fun c => !Text.allBlank c) s

/-- What the last command prints, trimmed. -/
def value (sh : Shell σ) (name : String) (commands : List String) (s : σ) :
    Except Failure Json × σ :=
  match commands.getLast? with
  | none => (.error (.invalidContextVariable name "no commands to run"), s)
  | some last =>
    match sh.runAll commands.dropLast s with
    | (.error f, s) => (.error f, s)
    | (.ok (), s) =>
      match sh.run last s with
      | (.error f, s) => (.error f, s)
      | (.ok output, s) =>
        if Text.allBlank output then (.error (.emptyShellOutput last name), s)
        else (.ok (.string (Text.trim output)), s)

end Shell

/-- The set environment variables. -/
abbrev Environment := String → Option String

namespace Variable

/-- Texts are trimmed, other values stay as they are. -/
def trimmed : Json → Json
  | .string s => .string (Text.trim s)
  | v => v

/-- The value before coercion. -/
def rawValue (v : Variable) (env : Environment) (sh : Shell σ) (s : σ) :
    Except Failure Json × σ :=
  match v.source with
  | .literal value => (.ok value, s)
  | .environment envName =>
    match env envName, v.fallback with
    | some found, _ => (.ok (.string (Text.trim found)), s)
    | none, some fallback => (.ok (trimmed fallback), s)
    | none, none => (.error (.missingEnvironmentVariable envName v.name), s)
  | .shell commands => sh.value v.name commands s

def coerced (v : Variable) (value : Json) : Except Failure Json :=
  match v.coercion with
  | some k => k.apply value
  | none => .ok value

def resolve (v : Variable) (env : Environment) (sh : Shell σ) (s : σ) :
    Except Failure Json × σ :=
  match v.rawValue env sh s with
  | (.ok value, s) => (v.coerced value, s)
  | (.error f, s) => (.error f, s)

/-- The values of the variables in their order, up to the first that has none. -/
def resolveEach (env : Environment) (sh : Shell σ) :
    List Variable → σ → Except Failure (List (String × Json)) × σ
  | [], s => (.ok [], s)
  | v :: rest, s =>
    match v.resolve env sh s with
    | (.error f, s) => (.error f, s)
    | (.ok value, s) =>
      match resolveEach env sh rest s with
      | (.error f, s) => (.error f, s)
      | (.ok values, s) => (.ok ((v.name, value) :: values), s)

/-- All values by name. The last definition of a name wins. -/
def resolveAll (env : Environment) (sh : Shell σ) (vs : List Variable) (s : σ) :
    Except Failure (KeyMap Json) × σ :=
  match resolveEach env sh vs s with
  | (.ok values, s) => (.ok (.ofList values), s)
  | (.error f, s) => (.error f, s)

end Variable
end Stencil
