import Stencil.Json.Expect

/-! The options of a render engine. -/
namespace Stencil

inductive EngineKind where
  | jinja
  | tera
  deriving DecidableEq, Repr

namespace EngineKind

def name : EngineKind → String
  | jinja => "jinja"
  | tera => "tera"

def names : List (String × EngineKind) :=
  [("jinja", jinja), ("jinja2", jinja), ("minijinja", jinja), ("tera", tera)]

def ofName (s : String) : Except String EngineKind :=
  match names.find? fun e => e.1 == s with
  | some e => .ok e.2
  | none => .error (Json.unknownVariant s (names.map (·.1)))

/-- A name, or an object with a name as its one key and nothing as its value. -/
def ofJson : Json → Except String EngineKind
  | .string s => ofName s
  | .object [(s, v)] => do
    let kind ← ofName s
    match v with
    | .null => .ok kind
    | v => .error (v.mismatch "unit")
  | .object _ => .error "invalid value: map, expected map with a single key"
  | v => .error (v.mismatch "string or map")

end EngineKind

structure Delimiters where
  blockStart : String
  blockEnd : String
  variableStart : String
  variableEnd : String
  commentStart : String
  commentEnd : String
  deriving DecidableEq, Repr

namespace Delimiters

def standard : Delimiters :=
  ⟨"\x7b%", "%\x7d", "\x7b\x7b", "\x7d\x7d", "\x7b#", "#\x7d"⟩

end Delimiters

/-- What a document may set; delimiters that it leaves out are the standard ones. -/
structure EngineOptions where
  kind : EngineKind := .jinja
  blockStart : Option String := none
  blockEnd : Option String := none
  variableStart : Option String := none
  variableEnd : Option String := none
  commentStart : Option String := none
  commentEnd : Option String := none
  keepTrailingNewline : Bool := true
  allowUndefined : Bool := false
  trimBlocks : Bool := false
  lstripBlocks : Bool := false
  deriving DecidableEq, Repr, Inhabited

namespace EngineOptions

def delimiters (o : EngineOptions) : Delimiters :=
  { blockStart := o.blockStart.getD Delimiters.standard.blockStart
    blockEnd := o.blockEnd.getD Delimiters.standard.blockEnd
    variableStart := o.variableStart.getD Delimiters.standard.variableStart
    variableEnd := o.variableEnd.getD Delimiters.standard.variableEnd
    commentStart := o.commentStart.getD Delimiters.standard.commentStart
    commentEnd := o.commentEnd.getD Delimiters.standard.commentEnd }

def hasCustomDelimiters (o : EngineOptions) : Bool :=
  [o.blockStart, o.blockEnd, o.variableStart, o.variableEnd, o.commentStart, o.commentEnd].any
    Option.isSome

/-- An option, under its own name. -/
inductive Key where
  | kind
  | blockStart
  | blockEnd
  | variableStart
  | variableEnd
  | commentStart
  | commentEnd
  | keepTrailingNewline
  | allowUndefined
  | trimBlocks
  | lstripBlocks
  deriving DecidableEq, Repr

namespace Key

/-- All keys in the order of a list of options. -/
def all : List Key :=
  [kind, blockStart, blockEnd, variableStart, variableEnd, commentStart, commentEnd,
    keepTrailingNewline, allowUndefined, trimBlocks, lstripBlocks]

def name : Key → String
  | kind => "kind"
  | blockStart => "block_start"
  | blockEnd => "block_end"
  | variableStart => "variable_start"
  | variableEnd => "variable_end"
  | commentStart => "comment_start"
  | commentEnd => "comment_end"
  | keepTrailingNewline => "keep_trailing_newline"
  | allowUndefined => "allow_undefined"
  | trimBlocks => "trim_blocks"
  | lstripBlocks => "lstrip_blocks"

def isDelimiter : Key → Bool
  | blockStart | blockEnd | variableStart | variableEnd | commentStart | commentEnd => true
  | _ => false

/-- A delimiter may also be named as a string. -/
def spellings (k : Key) : List String :=
  if k.isDelimiter then [k.name, k.name ++ "_string"] else [k.name]

def ofName? (s : String) : Option Key := all.find? fun k => k.spellings.contains s

end Key

def set (o : EngineOptions) (key : Key) (v : Json) : Except String EngineOptions :=
  match key with
  | .kind => (EngineKind.ofJson v).map fun x => { o with kind := x }
  | .blockStart => v.optionalText.map fun x => { o with blockStart := x }
  | .blockEnd => v.optionalText.map fun x => { o with blockEnd := x }
  | .variableStart => v.optionalText.map fun x => { o with variableStart := x }
  | .variableEnd => v.optionalText.map fun x => { o with variableEnd := x }
  | .commentStart => v.optionalText.map fun x => { o with commentStart := x }
  | .commentEnd => v.optionalText.map fun x => { o with commentEnd := x }
  | .keepTrailingNewline => v.flag.map fun x => { o with keepTrailingNewline := x }
  | .allowUndefined => v.flag.map fun x => { o with allowUndefined := x }
  | .trimBlocks => v.flag.map fun x => { o with trimBlocks := x }
  | .lstripBlocks => v.flag.map fun x => { o with lstripBlocks := x }

/-- An option may be given once, under either spelling. -/
def ofFields (o : EngineOptions) (seen : List Key) :
    List (String × Json) → Except String EngineOptions
  | [] => .ok o
  | (name, v) :: rest =>
    match Key.ofName? name with
    | none => .error (Json.unknownField name (Key.all.flatMap Key.spellings))
    | some key =>
      if seen.contains key then .error ("duplicate field `" ++ key.name ++ "`")
      else do (← o.set key v).ofFields (key :: seen) rest

/-- Options by their place. -/
def ofItems (o : EngineOptions) (count : Nat) : List Key → List Json → Except String EngineOptions
  | _, [] => .ok o
  | [], _ :: _ =>
    .error ("invalid length " ++ toString count ++ ", expected fewer elements in array")
  | key :: keys, v :: rest => do (← o.set key v).ofItems count keys rest

def ofJson : Json → Except String EngineOptions
  | .object fields => ofFields {} [] fields
  | .array items => ofItems {} items.length Key.all items
  | v => .error (v.mismatch "struct EngineOptions")

end EngineOptions
end Stencil
