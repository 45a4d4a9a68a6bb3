/-! What can go wrong, and how it is worded. -/
namespace Stencil

/-- The kinds of refusal of a file system. -/
inductive IoKind where
  | notFound
  | notADirectory
  | isADirectory
  | alreadyExists
  | directoryNotEmpty
  | invalidData
  | invalidInput
  | filesystemLoop
  | nameTooLong
  | other
  deriving DecidableEq, Repr, Inhabited

namespace IoKind

def name : IoKind → String
  | notFound => "NotFound"
  | notADirectory => "NotADirectory"
  | isADirectory => "IsADirectory"
  | alreadyExists => "AlreadyExists"
  | directoryNotEmpty => "DirectoryNotEmpty"
  | invalidData => "InvalidData"
  | invalidInput => "InvalidInput"
  | filesystemLoop => "FilesystemLoop"
  | nameTooLong => "InvalidFilename"
  | other => "Other"

def text : IoKind → String
  | notFound => "No such file or directory (os error 2)"
  | notADirectory => "Not a directory (os error 20)"
  | isADirectory => "Is a directory (os error 21)"
  | alreadyExists => "File exists (os error 17)"
  | directoryNotEmpty => "Directory not empty (os error 39)"
  | invalidData => "stream did not contain valid UTF-8"
  | invalidInput => "file name contained an unexpected NUL byte"
  | filesystemLoop => "Too many levels of symbolic links (os error 40)"
  | nameTooLong => "File name too long (os error 36)"
  | other => "other error"

end IoKind

structure IoError where
  kind : IoKind
  text : String
  deriving DecidableEq, Repr, Inhabited

namespace IoError

def of (kind : IoKind) : IoError := ⟨kind, kind.text⟩

def custom (text : String) : IoError := ⟨.other, text⟩

end IoError

/-- What a render engine reports. -/
inductive TemplateError where
  /-- The source could not be parsed -/
  | malformed (message : String)
  /-- The source was parsed but could not be evaluated -/
  | evaluation (message : String)
  /-- The options do not suit the engine -/
  | options (message : String)
  deriving DecidableEq, Repr, Inhabited

namespace TemplateError

def message : TemplateError → String
  | malformed m => "Template syntax error: " ++ m
  | evaluation m => "Template render error: " ++ m
  | options m => "Invalid engine options: " ++ m

end TemplateError

/-- Where a failure belongs. -/
inductive Category where
  | config
  | process
  | render
  | io
  deriving DecidableEq, Repr

inductive Failure where
  | configNotFound (path : String)
  | invalidConfigExtension (path : String)
  | configParse (file reason : String)
  | unknownConfigKey (key : String) (suggestion : Option String)
  | invalidConfigValue (key reason : String)
  | invalidContextVariable (name reason : String)
  | missingEnvironmentVariable (envName wanted : String)
  | shellCommandFailed (command reason stderr : String)
  | emptyShellOutput (command wanted : String)
  | coercionFailed (value kind reason : String)
  | rootNotFound (path : String)
  | rootIsFile (path : String)
  | ignoreFileNotFound (path : String)
  | invalidIgnorePattern (pattern reason : String)
  | invalidTemplateMatcher (pattern reason : String)
  | childTemplateNotFound (child target : String)
  | templateOutsideRoot (path child root : String)
  | render (template : String) (source : TemplateError)
  | fileSystem (operation path : String) (source : IoError)
  | io (source : IoError)
  | plain (message : String)
  deriving DecidableEq, Repr, Inhabited

namespace Failure

def category : Failure → Category
  | configNotFound _ | invalidConfigExtension _ | configParse .. | unknownConfigKey ..
  | invalidConfigValue .. | invalidContextVariable .. | missingEnvironmentVariable ..
  | shellCommandFailed .. | emptyShellOutput .. | coercionFailed ..
  | invalidTemplateMatcher .. => .config
  | rootNotFound _ | rootIsFile _ | ignoreFileNotFound _ | invalidIgnorePattern ..
  | childTemplateNotFound .. | templateOutsideRoot .. => .process
  | render .. => .render
  | fileSystem .. | io _ | plain _ => .io

def message : Failure → String
  | configNotFound path => "Could not find config file at " ++ path
  | invalidConfigExtension path =>
    "Config file must be a YAML file, with 'yml'/'yaml' ext, not " ++ path
  | configParse file reason => "Invalid config file syntax in " ++ file ++ ": " ++ reason
  | unknownConfigKey key _ => "Unknown config key: '" ++ key ++ "'"
  | invalidConfigValue key reason =>
    "Invalid value for config key '" ++ key ++ "': " ++ reason
  | invalidContextVariable name reason =>
    "Invalid context variable '" ++ name ++ "': " ++ reason
  | missingEnvironmentVariable envName wanted =>
    "Could not find environment variable '" ++ envName ++ "' for requested context var '" ++
      wanted ++ "'"
  | shellCommandFailed command reason _ => "Command '" ++ command ++ "' failed: " ++ reason
  | emptyShellOutput command wanted =>
    "Implicit empty result: final command '" ++ command ++ "' for context var '" ++ wanted ++
      "' printed nothing"
  | coercionFailed value kind reason =>
    "Could not convert value '" ++ value ++ "' to type '" ++ kind ++ "': " ++ reason
  | rootNotFound path => "Root path " ++ path ++ " does not exist"
  | rootIsFile path =>
    "Root path " ++ path ++ " is a file. Please specify a directory to search instead."
  | ignoreFileNotFound path =>
    "Could not find git-style ignore file at " ++ path ++ " specified"
  | invalidIgnorePattern pattern reason =>
    "Invalid ignore pattern '" ++ pattern ++ "': " ++ reason
  | invalidTemplateMatcher pattern reason =>
    "Invalid template matcher '" ++ pattern ++ "': " ++ reason
  | childTemplateNotFound child target =>
    "Invalid child template at " ++ child ++ ". Could not find source template at " ++ target
  | templateOutsideRoot path child root =>
    "Root template " ++ path ++ " referenced by " ++ child ++ " is outside the processed root " ++
      root
  | render template _ => "Failed to render template " ++ template
  | fileSystem operation path _ => "File system error: " ++ operation ++ " " ++ path
  | io source => "IO error: " ++ source.text
  | plain message => message

/-- The message of the failure beneath, if there is one. -/
def cause? : Failure → Option String
  | render _ source => some source.message
  | fileSystem _ _ source => some source.text
  | io source => some source.text
  | _ => none

end Failure

/-- A failure with the descriptions put around it on its way up, innermost first. -/
structure Problem where
  contexts : List String
  /-- What went wrong; a refusal of the file system may reach the top unwrapped -/
  root : Failure ⊕ String
  deriving Repr

namespace Problem

def ofFailure (failure : Failure) : Problem := ⟨[], .inl failure⟩

def ofText (text : String) : Problem := ⟨[], .inr text⟩

def within (description : String) (p : Problem) : Problem :=
  { p with contexts := p.contexts ++ [description] }

/-- All messages, outermost first. -/
def messages (p : Problem) : List String :=
  p.contexts.reverse ++
    match p.root with
    | .inl failure => failure.message :: failure.cause?.toList
    | .inr text => [text]

/-- The outermost message. -/
def headline (p : Problem) : String := p.messages.headD ""

def numbered : Nat → List String → String
  | _, [] => ""
  | n, cause :: rest => "\n  " ++ toString n ++ ": " ++ cause ++ numbered (n + 1) rest

/-- The outermost message and, numbered, every one below it. -/
def chain (p : Problem) : String :=
  match p.messages with
  | [] => ""
  | [message] => message
  | message :: causes => message ++ "\n\nCaused by:" ++ numbered 1 causes

end Problem
end Stencil
