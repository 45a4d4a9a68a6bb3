import Stencil.EngineOptions
import Stencil.Text.Distance
import Stencil.Variable

/-! The configuration document. -/
namespace Stencil

structure Config where
  context : List Variable := []
  exclude : List String := []
  ignoreFiles : List String := []
  engine : EngineOptions := {}
  templateMatcher : String := "etch"
  childFlag : String := "!etch:child"
  setup : List String := []
  deriving Repr

namespace Config

/-- The keys that a document may have. -/
inductive Key where
  | context
  | exclude
  | ignoreFiles
  | engine
  | jinja
  | templateMatcher
  | childFlag
  | setup
  deriving DecidableEq, Repr

namespace Key

def all : List Key :=
  [context, exclude, ignoreFiles, engine, jinja, templateMatcher, childFlag, setup]

def name : Key → String
  | context => "context"
  | exclude => "exclude"
  | ignoreFiles => "ignore_files"
  | engine => "engine"
  | jinja => "jinja"
  | templateMatcher => "template_matcher"
  | childFlag => "child_flag"
  | setup => "setup"

def ofName? (s : String) : Option Key := all.find? fun k => k.name == s

theorem ofName?_name (k : Key) : ofName? k.name = some k := by cases k <;> decide

end Key

/-- A key that is farther off is not suggested. -/
def maxSuggestionDistance : Nat := 3

/-- The first of the nearest. -/
def nearest : List (String × Nat) → Option (String × Nat)
  | [] => none
  | (name, d) :: rest =>
    match nearest rest with
    | some (other, e) => if e < d then some (other, e) else some (name, d)
    | none => some (name, d)

/-- The key that was meant. -/
def suggestion (key : String) : Option String :=
  let near := (Key.all.map fun k => (k.name, Text.distance key k.name)).filter fun e =>
    e.2 ≤ maxSuggestionDistance
  (nearest near).map (·.1)

def fragment (what : String) : Json → Except Failure (List (String × Json))
  | .object fields => .ok fields
  | other => .error (.invalidConfigValue what ("expected a mapping, found " ++ other.render))

/-- The mappings that a value consists of. -/
def fragments (what : String) : Json → Except Failure (List (List (String × Json)))
  | .null => .ok []
  | .object fields => .ok [fields]
  | .array items => items.mapM (fragment what)
  | other => .error (.invalidConfigValue what
      ("expected a mapping or a list of mappings, found " ++ other.render))

/-- All entries of a mapping or a list of mappings. An entry keeps the place where its key came
first and takes the value that came last. -/
def foldEntries (what : String) (v : Json) : Except Failure (List (String × Json)) :=
  (fragments what v).map fun fs => fs.foldl Fields.merge []

def textSetting (key : Key) : Json → Except Failure String
  | .string s =>
    if Text.allBlank s then
      .error (.invalidConfigValue key.name
        ("expected a non-empty string, found " ++ (Json.string s).render))
    else .ok s
  | other => .error (.invalidConfigValue key.name
      ("expected a non-empty string, found " ++ other.render))

/-- Blank items are dropped. -/
def listSetting (key : Key) (v : Json) : Except Failure (List String) :=
  match v.texts with
  | .ok items => .ok (items.filter fun s => !Text.allBlank s)
  | .error reason => .error (.invalidConfigValue key.name reason)

def engineSetting (key : Key) : Json → Except Failure EngineOptions
  | .null => .ok {}
  | v =>
    match EngineOptions.ofJson v with
    | .ok o => .ok o
    | .error reason => .error (.invalidConfigValue key.name reason)

def contextSetting (v : Json) : Except Failure (List Variable) := do
  (← foldEntries "context" v).mapM fun e => Variable.parse e.1 e.2

def set (c : Config) (key : Key) (v : Json) : Except Failure Config :=
  match key with
  | .context => (contextSetting v).map fun x => { c with context := x }
  | .exclude => (listSetting key v).map fun x => { c with exclude := x }
  | .ignoreFiles => (listSetting key v).map fun x => { c with ignoreFiles := x }
  | .engine | .jinja => (engineSetting key v).map fun x => { c with engine := x }
  | .templateMatcher => (textSetting key v).map fun x => { c with templateMatcher := x }
  | .childFlag => (textSetting key v).map fun x => { c with childFlag := Text.trim x }
  | .setup => (listSetting key v).map fun x => { c with setup := x }

/-- The entries under their keys. -/
def keyed (entries : List (String × Json)) : Except Failure (List (Key × Json)) :=
  entries.mapM fun e =>
    match Key.ofName? e.1 with
    | some key => .ok (key, e.2)
    | none => .error (.unknownConfigKey e.1 (suggestion e.1))

def setAll (c : Config) : List (Key × Json) → Except Failure Config
  | [] => .ok c
  | (key, v) :: rest => do (← c.set key v).setAll rest

/-- The configuration that a document describes. Its keys are checked before any value. -/
def ofJson (v : Json) : Except Failure Config := do
  let entries ← foldEntries "config" v
  setAll {} (← keyed entries)

end Config
end Stencil
