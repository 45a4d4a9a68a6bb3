import Stencil.Coercion
import Stencil.Json.Expect

/-! Definitions of context variables. -/
namespace Stencil

/-- Where a value comes from. -/
inductive Source where
  | literal (value : Json)
  | environment (name : String)
  | shell (commands : List String)
  deriving Repr, Inhabited

structure Variable where
  name : String
  source : Source
  /-- The value of an unset environment variable -/
  fallback : Option Json := none
  coercion : Option Coercion := none
  deriving Repr

namespace Variable

inductive SourceKind where
  | literal
  | environment
  | shell
  deriving DecidableEq, Repr

namespace SourceKind

def ofName? (s : String) : Option SourceKind :=
  if s = "static" then some literal
  else if s = "env" ∨ s = "environment" then some environment
  else if s = "shell" ∨ s = "cli" then some shell
  else none

def unknownName (s : String) : String :=
  "unknown context var type '" ++ s ++ "', must be one of static, env (environment), shell (cli). " ++
    "If this conflicts with your value, use the full form instead, e.g. type: static, value: ..."

end SourceKind

/-- The keys of a full definition, with what was given for each. -/
structure Definition where
  kind : String := ""
  value : Option Json := none
  fallback : Option Json := none
  coercion : Option String := none

def definitionKeys : List String := ["type", "value", "default", "as"]

def Definition.read (d : Definition) : List (String × Json) → Except String Definition
  | [] => .ok d
  | (key, v) :: rest =>
    if key = "type" then
      match v.text with
      | .ok kind => { d with kind }.read rest
      | .error e => .error e
    else if key = "value" then { d with value := v.optional }.read rest
    else if key = "default" then { d with fallback := v.optional }.read rest
    else if key = "as" then
      match v.optionalText with
      | .ok coercion => { d with coercion }.read rest
      | .error e => .error e
    else .error (Json.unknownField key definitionKeys)

def missingValue : String :=
  "missing 'value' key, required when the full 'type' form is used"

def coercionNamed : Option String → Except String (Option Coercion)
  | none => .ok none
  | some s =>
    match Coercion.ofName? s with
    | some k => .ok (some k)
    | none => .error (Coercion.unknownName s)

/-- An environment variable is called like the context variable unless another name is given. -/
def environmentName (name : String) : Option Json → Except String String
  | none => .ok name
  | some (.string s) =>
    if Text.allBlank s then
      .error ("'value' must name an environment variable, found " ++ (Json.string s).render)
    else .ok (Text.trim s)
  | some other =>
    .error ("'value' must name an environment variable, found " ++ other.render)

def commandsOf (v : Json) : Except String (List String) :=
  match v.texts with
  | .error e => .error e
  | .ok commands =>
    let kept := commands.filter fun c => !Text.allBlank c
    if kept.isEmpty then .error "'value' must contain at least one command" else .ok kept

def sourceOf (name : String) (kind : SourceKind) (value : Option Json) : Except String Source :=
  match kind, value with
  | .environment, value => (environmentName name value).map .environment
  | .literal, some v => .ok (.literal v)
  | .shell, some v => (commandsOf v).map .shell
  | _, none => .error missingValue

def ofDefinition (name : String) (d : Definition) : Except String Variable :=
  match SourceKind.ofName? d.kind with
  | none => .error (SourceKind.unknownName d.kind)
  | some kind => do
    let coercion ← coercionNamed d.coercion
    let source ← sourceOf name kind d.value
    .ok { name, source, fallback := d.fallback, coercion }

/-- The definition of a value as it stands. -/
def inline (name : String) (value : Json) : Variable := { name, source := .literal value }

/-- An object with the key `type` is a full definition, anything else stands for itself. -/
def parse (name : String) (value : Json) : Except Failure Variable :=
  match value with
  | .object fields =>
    if (Fields.get? fields "type").isSome then
      match Definition.read {} fields >>= ofDefinition name with
      | .ok v => .ok v
      | .error reason => .error (.invalidContextVariable name reason)
    else .ok (inline name value)
  | _ => .ok (inline name value)

end Variable
end Stencil
