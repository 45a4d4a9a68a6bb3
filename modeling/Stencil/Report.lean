import Stencil.Failure
import Stencil.Text.Blank

/-! How a problem is shown to the user. -/
namespace Stencil

/-- Terminal emphasis. -/
inductive Style where
  | plain
  | red
  | green
  | yellow
  | cyan
  | brightWhite
  | dimmed
  | boldRed
  deriving DecidableEq

namespace Style

def code : Style → String
  | plain => ""
  | red => "31"
  | green => "32"
  | yellow => "33"
  | cyan => "36"
  | brightWhite => "97"
  | dimmed => "2"
  | boldRed => "1;31"

/-- The text between the codes that switch the style on and off. -/
def paint (style : Style) (color : Bool) (text : String) : String :=
  if color ∧ style ≠ plain then "\x1b[" ++ style.code ++ "m" ++ text ++ "\x1b[0m" else text

end Style

structure Report where
  message : String
  details : Option String := none
  suggestion : Option String := none
  deriving DecidableEq, Repr

namespace Report

def recognisedKeys : String :=
  "Recognised keys are: context, exclude, ignore_files, engine (or jinja), template_matcher, " ++
    "child_flag, setup"

def templateAdvice : String :=
  "Check template syntax: variables use \x7b\x7b var \x7d\x7d, blocks use \x7b% %\x7d, " ++
    "comments use \x7b# #\x7d (or the delimiters configured under 'engine')"

def containsSublist (needle : List Char) : List Char → Bool
  | [] => needle.isEmpty
  | c :: cs => needle.isPrefixOf (c :: cs) || containsSublist needle cs

/-- The advice for each failure. `chain` is the whole story from the outermost message down. -/
def ofFailure (failure : Failure) (chain : String) : Report :=
  let message := failure.message
  match failure with
  | .unknownConfigKey _ suggestion =>
    { message, details := recognisedKeys,
      suggestion := suggestion.map fun s => "Did you mean '" ++ s ++ "'?" }
  | .configNotFound _ =>
    { message, suggestion :=
        some "Run 'etch init' to create a starter etch.config.yml, or pass --config" }
  | .invalidConfigExtension _ =>
    { message, suggestion := some "Rename the config file to end in .yml or .yaml" }
  | .missingEnvironmentVariable envName _ =>
    { message, suggestion := some ("Export " ++ envName ++
        " before running etch, or add a 'default' to the variable definition") }
  | .shellCommandFailed _ _ stderr =>
    { message,
      details := if Text.allBlank stderr then none else some ("stderr:\n" ++ Text.trimEnd stderr),
      suggestion := some "Run the command manually to see why it fails" }
  | .emptyShellOutput .. =>
    { message,
      details := some "A script printing nothing almost always indicates a scripting mistake",
      suggestion := some "Make sure the last command prints the value to stdout" }
  | .coercionFailed .. =>
    { message, suggestion := some
        "Check the 'as' key of the variable; bool accepts true/false/yes/no/y/n/1/0" }
  | .rootIsFile _ | .rootNotFound _ =>
    { message, suggestion :=
        some "Pass the directory that contains your templates as the root" }
  | .childTemplateNotFound .. =>
    { message, suggestion :=
        some "Child pointer paths are resolved relative to the processed root" }
  | .ignoreFileNotFound _ =>
    { message, suggestion := some "Ignore file paths are resolved relative to the processed root" }
  | .render .. => { message, details := some chain, suggestion := some templateAdvice }
  | _ =>
    { message, details := if containsSublist "Caused by".toList chain.toList then some chain
        else none }

/-- A failure is recognised under any descriptions around it; anything else is told whole. -/
def ofProblem (p : Problem) : Report :=
  match p.root with
  | .inl failure => ofFailure failure p.chain
  | .inr _ => { message := p.chain }

/-- The report as one text. -/
def render (r : Report) : String :=
  r.message ++ (match r.details with | some d => "\nDetails: " ++ d | none => "") ++
    (match r.suggestion with | some s => "\nSuggestion: " ++ s | none => "")

/-- The report as it is printed, each part after its label. -/
def display (r : Report) (color : Bool) : String :=
  Style.boldRed.paint color "error" ++ ": " ++ r.message ++ "\n" ++
    (match r.details with
      | some d => Style.yellow.paint color "details" ++ ": " ++ d ++ "\n"
      | none => "") ++
    (match r.suggestion with
      | some s => Style.green.paint color "suggestion" ++ ": " ++ s ++ "\n"
      | none => "")

end Report
end Stencil
