import Stencil.Yaml.Token

/-! From tokens to the nodes of a document, laid out in their order. -/
namespace Stencil
namespace Yaml

/-- What may stand before a node. An anchor is known by its number. -/
structure Marks where
  anchor : Option Nat := none
  tag : Option String := none
  deriving DecidableEq, Repr, Inhabited

/-- A node, or one end of a node that holds others. -/
inductive Event where
  | alias_ (anchor : Nat)
  | scalar (marks : Marks) (s : String) (plain : Bool)
  | sequenceStart (marks : Marks)
  | sequenceEnd
  | mappingStart (marks : Marks)
  | mappingEnd
  deriving DecidableEq, Repr, Inhabited

namespace Event

def anchor? : Event → Option Nat
  | scalar marks .. | sequenceStart marks | mappingStart marks => marks.anchor
  | _ => none

end Event

structure Composition where
  rest : List Token
  /-- What the handles of tags stand for -/
  handles : List (String × String) := []
  /-- The number that each name of an anchor has last been given -/
  anchors : List (String × Nat) := []
  events : Array Event := #[]

/-- A step through the tokens; there is only one kind of failure. -/
abbrev Compose := StateT Composition Option

namespace Compose

def next : Compose (Option Token) := do return (← get).rest.head?

def advance : Compose Unit := modify fun s => { s with rest := s.rest.drop 1 }

def emit (e : Event) : Compose Unit := modify fun s => { s with events := s.events.push e }

/-- The next token is taken if it is this one. -/
def accept (t : Token) : Compose Bool := do
  if (← next) = some t then
    advance
    return true
  else return false

def expect (t : Token) : Compose Unit := do if !(← accept t) then failure

def isNext (ts : List Token) : Compose Bool := do return (← next).any ts.contains

/-- A node of which nothing is written. -/
def nothing : Compose Unit := emit (.scalar {} "" true)

/-! ## Marks -/

/-- An anchor is numbered by how many names were known before it. -/
def setAnchor (name : String) : Compose Nat := do
  let s ← get
  let number := s.anchors.length
  set { s with anchors := (name, number) :: s.anchors.filter fun a => a.1 != name }
  return number

def resolveTag (handle suffix : String) : Compose String := do
  if handle = "" then return suffix
  else
    match (← get).handles.lookup handle with
    | some start => return start ++ suffix
    | none => failure

def takeAnchor : Compose (Option Nat) := do
  match ← next with
  | some (.anchor name) =>
    advance
    return some (← setAnchor name)
  | _ => return none

def takeTag : Compose (Option String) := do
  match ← next with
  | some (.tag handle suffix) =>
    advance
    return some (← resolveTag handle suffix)
  | _ => return none

/-- An anchor and a tag, in either order. -/
def marks : Compose Marks := do
  match ← takeAnchor with
  | some n => return ⟨some n, ← takeTag⟩
  | none =>
    let tag ← takeTag
    return ⟨← takeAnchor, tag⟩

/-- A node of which only marks are written. -/
def bare (marks : Marks) : Compose Unit :=
  if marks = {} then failure else emit (.scalar marks "" true)

/-! ## Nodes -/

mutual

/-- One node. `block` says that it may be a collection without brackets, `level` that a list may
stand no deeper than the key it belongs to. -/
def node (block level : Bool) : Nat → Compose Unit
  | 0 => failure
  | fuel + 1 => do
    match ← next with
    | some (.alias_ name) =>
      match (← get).anchors.lookup name with
      | some n =>
        advance
        emit (.alias_ n)
      | none => failure
    | _ =>
      let marks ← marks
      match ← next with
      | some .blockEntry =>
        if level then
          emit (.sequenceStart marks)
          levelItems fuel
        else bare marks
      | some (.scalar s plain) =>
        advance
        emit (.scalar (if marks.tag = some "!" then { marks with tag := none } else marks) s plain)
      | some .flowSequenceStart =>
        advance
        emit (.sequenceStart marks)
        flowItems true fuel
      | some .flowMappingStart =>
        advance
        emit (.mappingStart marks)
        flowFields true fuel
      | some .blockSequenceStart =>
        if block then
          advance
          emit (.sequenceStart marks)
          blockItems fuel
        else bare marks
      | some .blockMappingStart =>
        if block then
          advance
          emit (.mappingStart marks)
          blockFields fuel
        else bare marks
      | _ => bare marks

/-- A node, or nothing before one of some tokens. -/
def nodeBefore (ends : List Token) (block level : Bool) : Nat → Compose Unit
  | 0 => failure
  | fuel + 1 => do if ← isNext ends then nothing else node block level fuel

def blockItems : Nat → Compose Unit
  | 0 => failure
  | fuel + 1 => do
    if ← accept .blockEntry then
      nodeBefore [.blockEntry, .blockEnd] true false fuel
      blockItems fuel
    else
      expect .blockEnd
      emit .sequenceEnd

def levelItems : Nat → Compose Unit
  | 0 => failure
  | fuel + 1 => do
    if ← accept .blockEntry then
      nodeBefore [.blockEntry, .key, .value, .blockEnd] true false fuel
      levelItems fuel
    else emit .sequenceEnd

def blockFields : Nat → Compose Unit
  | 0 => failure
  | fuel + 1 => do
    if ← accept .key then
      nodeBefore [.key, .value, .blockEnd] true true fuel
      if ← accept .value then nodeBefore [.key, .value, .blockEnd] true true fuel
      else nothing
      blockFields fuel
    else
      expect .blockEnd
      emit .mappingEnd

/-- The items of a list in brackets. A key makes an item a mapping of one field. -/
def flowItems (first : Bool) : Nat → Compose Unit
  | 0 => failure
  | fuel + 1 => do
    if !first && !(← isNext [.flowSequenceEnd]) then expect .flowEntry
    if ← accept .flowSequenceEnd then emit .sequenceEnd
    else
      if ← accept .key then
        emit (.mappingStart {})
        nodeBefore [.value, .flowEntry, .flowSequenceEnd] false false fuel
        flowValue .flowSequenceEnd fuel
        emit .mappingEnd
      else node false false fuel
      flowItems false fuel

def flowFields (first : Bool) : Nat → Compose Unit
  | 0 => failure
  | fuel + 1 => do
    if !first && !(← isNext [.flowMappingEnd]) then expect .flowEntry
    if ← accept .flowMappingEnd then emit .mappingEnd
    else
      if ← accept .key then
        nodeBefore [.value, .flowEntry, .flowMappingEnd] false false fuel
        flowValue .flowMappingEnd fuel
      else
        node false false fuel
        nothing
      flowFields false fuel

def flowValue (closing : Token) : Nat → Compose Unit
  | 0 => failure
  | fuel + 1 => do
    if ← accept .value then nodeBefore [.flowEntry, closing] false false fuel else nothing

end

/-! ## Documents -/

/-- What handles stand for where nothing else is said. -/
def defaultHandles : List (String × String) := [("!", "!"), ("!!", "tag:yaml.org,2002:")]

/-- The directives before a document. Each is given once. -/
def directives (versioned : Bool) : Nat → Compose Unit
  | 0 => failure
  | fuel + 1 => do
    match ← next with
    | some (.version major minor) =>
      if versioned || major ≠ 1 || (minor ≠ 1 && minor ≠ 2) then failure
      advance
      directives true fuel
    | some (.tagHandle handle start) =>
      let s ← get
      if (s.handles.lookup handle).isSome then failure
      set { s with handles := s.handles ++ [(handle, start)] }
      advance
      directives versioned fuel
    | _ => modify fun s => { s with handles := s.handles ++ defaultHandles }

def isMark : Token → Bool
  | .version .. | .tagHandle .. | .documentStart | .documentEnd => true
  | _ => false

/-- The one document of a text. -/
def document : Compose Unit := do
  let size := (← get).rest.length
  let fuel := 4 * size + 4
  match ← next with
  | none => nothing
  | some t =>
    directives false (size + 1)
    if isMark t && t ≠ .documentEnd then
      expect .documentStart
      if (← next).all isMark then nothing else node true false fuel
    else node true false fuel
    modify fun s => { s with rest := s.rest.dropWhile (· == .documentEnd) }
    if !(← get).rest.isEmpty then failure

end Compose

/-- The nodes of the only document that the tokens make up. -/
def events? (tokens : List Token) : Option (List Event) :=
  (Compose.document.run { rest := tokens }).map fun r => r.2.events.toList

end Yaml
end Stencil
