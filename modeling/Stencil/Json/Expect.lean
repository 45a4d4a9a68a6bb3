import Stencil.Json.Printer
import Stencil.Text.Escaped

/-! Values of an expected kind, and how others are refused. -/
namespace Stencil
namespace Json

/-- What a value is, for a message. -/
def kind : Json → String
  | null => "null"
  | bool b => "boolean " ++ "`" ++ (if b then "true" else "false") ++ "`"
  | number (.int n) => "integer " ++ "`" ++ toString n ++ "`"
  | number (.float x) => "floating point " ++ "`" ++ Shortest.render .document x ++ "`"
  | string s => "string " ++ Text.quoted s
  | array _ => "sequence"
  | object _ => "map"

def mismatch (v : Json) (expected : String) : String :=
  "invalid type: " ++ v.kind ++ ", expected " ++ expected

def alternatives (names : List String) : String :=
  "expected one of " ++ String.intercalate ", " (names.map fun n => "`" ++ n ++ "`")

def unknownField (key : String) (known : List String) : String :=
  "unknown field `" ++ key ++ "`, " ++ alternatives known

def unknownVariant (name : String) (known : List String) : String :=
  "unknown variant `" ++ name ++ "`, " ++ alternatives known

def text : Json → Except String String
  | string s => .ok s
  | v => .error (v.mismatch "a string")

/-- Null stands for no text. -/
def optionalText : Json → Except String (Option String)
  | null => .ok none
  | string s => .ok (some s)
  | v => .error (v.mismatch "a string")

def flag : Json → Except String Bool
  | bool b => .ok b
  | v => .error (v.mismatch "a boolean")

/-- Null stands for no value. -/
def optional : Json → Option Json
  | null => none
  | v => some v

/-- A list of texts may be given as the lines of one text, or as null. -/
def texts : Json → Except String (List String)
  | string s => .ok (Text.lines s)
  | array items => items.mapM fun item =>
    match item with
    | string s => .ok s
    | other => .error ("expected a string, found " ++ other.render)
  | null => .ok []
  | other => .error ("expected a string or a list of strings, found " ++ other.render)

end Json
end Stencil
