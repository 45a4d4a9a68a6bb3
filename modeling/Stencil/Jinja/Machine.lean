import Stencil.Jinja.Filter
import Stencil.Jinja.Function
import Stencil.Jinja.Tree
import Stencil.KeyMap

/-! The state of a template that is being rendered. -/
namespace Stencil
namespace Jinja

/-- What all templates share: whether undefined values may be used, the context, and the templates
that can be loaded by name. -/
structure Setting where
  strict : Bool
  context : KeyMap Value
  load : String → Value.Result (Option (List Stmt))

structure Loop where
  target : Expr
  body : List Stmt
  recursive : Bool
  items : List Value
  /-- Whether it is known beforehand how many items there are -/
  counted : Bool := true
  /-- How many recursive loops this one runs in -/
  depth : Nat
  index : Nat := 0
  /-- What was last asked to have changed -/
  changed : Option (List Value) := none

structure Frame where
  locals : KeyMap Value := .empty
  loop : Option Nat := none
  /-- The variables that a macro has taken along -/
  taken : Option Nat := none
  /-- The variables that macros defined here take along -/
  closure : Option Nat := none

/-- The bodies of a block, from the template to the one it extends and on. -/
structure Layers where
  bodies : List (List Stmt)
  /-- The body that is running -/
  current : Nat := 0

structure Definition where
  macro_ : Macro
  closure : Nat

structure Machine where
  /-- The innermost first -/
  frames : List Frame := [{}]
  loops : Array Loop := #[]
  spaces : Array (List (Value × Value)) := #[]
  closures : Array (KeyMap Value) := #[]
  definitions : Array Definition := #[]
  blocks : List (String × Layers) := []
  block : Option String := none
  /-- What is rendered in place of the rest of the template -/
  parent : Option (List Stmt) := none
  /-- The templates that have been extended -/
  extended : List String := []
  /-- Whether text that is written is lost -/
  discarding : Bool := false
  /-- Whether texts are escaped for a document of markup -/
  escaping : Bool := false
  /-- The text that a filter applies to if it has no subject -/
  subject : Value := .undefined false
  /-- The nesting outside of the frames -/
  depth : Nat := 0
  deriving Inhabited

/-- A step of rendering. -/
abbrev Render := StateT Machine Value.Result

namespace Machine

def maxDepth : Nat := 500

def macroCost : Nat := 4

def includeCost : Nat := 10

def closureOf (m : Machine) (id : Option Nat) : KeyMap Value :=
  ((id.bind fun i => m.closures[i]?)).getD .empty

def lookupFrame? (m : Machine) (f : Frame) (name : String) : Option Value :=
  match f.locals.get? name with
  | some v => some v
  | none =>
    match f.loop with
    | some id => if name = "loop" then some (.loopState id) else (m.closureOf f.taken).get? name
    | none => (m.closureOf f.taken).get? name

/-- A variable is looked for from the innermost frame on, then in the context, and then among the
functions. -/
def lookup? (s : Setting) (m : Machine) (name : String) : Option Value :=
  match m.frames.findSome? fun f => m.lookupFrame? f name with
  | some v => some v
  | none =>
    match s.context.get? name with
    | some v => some v
    | none => if Function.names.contains name then some (.builtin name) else none

/-- The variables of all frames. -/
def visible (m : Machine) : KeyMap Value :=
  m.frames.foldr (fun f seen =>
    let seen := seen.union (m.closureOf f.taken)
    let seen := match f.loop with
      | some id => seen.insert "loop" (.loopState id)
      | none => seen
    seen.union f.locals) .empty

/-- Assign a variable of the innermost frame, for the macros defined there as well. -/
def store (m : Machine) (name : String) (v : Value) : Machine :=
  match m.frames with
  | [] => m
  | f :: rest =>
    let closures := match f.closure with
      | some id => m.closures.modify id fun c => c.insert name v
      | none => m.closures
    { m with frames := { f with locals := f.locals.insert name v } :: rest, closures }

/-- Add a macro to those that have been defined; it takes along what is visible. -/
def define (m : Machine) (d : Macro) : Value × Machine :=
  let seen := m.visible
  match m.frames with
  | [] => (.undefined false, m)
  | f :: rest =>
    let (id, closures) := match f.closure with
      | some id => (id, m.closures.modify id fun c => seen.union c)
      | none => (m.closures.size, m.closures.push seen)
    let m := { m with
      frames := { f with closure := some id } :: rest
      closures
      definitions := m.definitions.push ⟨d, id⟩ }
    (.macroOf (m.definitions.size - 1) d.name, m)

def pushLoop (m : Machine) (l : Loop) : Nat × Machine :=
  (m.loops.size, { m with loops := m.loops.push l })

/-- The innermost loop that is running. -/
def currentLoop? (m : Machine) : Option Loop :=
  (m.frames.findSome? (·.loop)).bind fun id => m.loops[id]?

/-- A loop inside a recursive one lies deeper. -/
def nextLoopDepth (m : Machine) : Nat :=
  match m.currentLoop? with
  | some l => if l.recursive then l.depth + 1 else 0
  | none => 0

def addSpace (m : Machine) (entries : List (Value × Value)) : Value × Machine :=
  (.space m.spaces.size, { m with spaces := m.spaces.push entries })

def entriesOf (m : Machine) (id : Nat) : List (Value × Value) := m.spaces[id]?.getD []

def setEntry (m : Machine) (id : Nat) (name : String) (v : Value) : Machine :=
  { m with spaces := m.spaces.modify id fun entries => Value.putEntry (.text name) v entries }

def loopNames : List String :=
  ["index0", "index", "length", "revindex", "revindex0", "first", "last", "depth", "depth0",
    "previtem", "nextitem"]

/-- What counts from the end is undefined if the end is not known. -/
def loopAttribute (l : Loop) (name : String) : Value :=
  let n := l.items.length
  let fromEnd (n : Nat) : Value := if l.counted then .nat n else .undefined false
  match name with
  | "index0" => .nat l.index
  | "index" => .nat (l.index + 1)
  | "length" => fromEnd n
  | "revindex" => fromEnd (n - l.index)
  | "revindex0" => fromEnd (n - l.index - 1)
  | "first" => .bool (l.index = 0)
  | "last" => .bool (l.counted && l.index + 1 == n)
  | "depth" => .nat (l.depth + 1)
  | "depth0" => .nat l.depth
  | "previtem" => if l.index = 0 then .undefined false else l.items.getD (l.index - 1) (.undefined false)
  | "nextitem" => l.items.getD (l.index + 1) (.undefined false)
  | _ => .undefined false

def macroNames : List String := ["name", "arguments", "caller"]

def macroAttribute (d : Macro) (name : String) : Value :=
  match name with
  | "name" => .text d.name
  | "arguments" => .list (d.paramNames.map .text)
  | "caller" => .bool d.usesCaller
  | _ => .undefined false

def loopText (l : Loop) : String :=
  "<loop " ++ toString l.index ++ "/" ++ (if l.counted then toString l.items.length else "?") ++ ">"

/-- A loop, a macro or a space as it can be seen now. -/
def look (m : Machine) : Nat → Value → Value
  | 0, v => v
  | depth + 1, v =>
    match v with
    | .space id =>
      let entries := Value.seenEntries (m.look depth) (m.entriesOf id)
      .view v (Value.map entries).shown entries
    | .loopState id =>
      match m.loops[id]? with
      | some l => .view v (loopText l) (loopNames.map fun n => (.text n, loopAttribute l n))
      | none => v
    | .macroOf id name =>
      match m.definitions[id]? with
      | some d =>
        .view v ("<macro " ++ name ++ ">")
          (macroNames.map fun n => (.text n, macroAttribute d.macro_ n))
      | none => v
    | v => v

/-- How deep spaces inside each other are looked into. -/
def maxLook : Nat := 8

/-- A value with all that can be seen of it now. -/
def settle (m : Machine) (v : Value) : Value := v.seen (m.look maxLook)

/-- The same at the surface only, as the items of a list are left what they are. -/
def settled (m : Machine) (v : Value) : Value := m.look maxLook v

def display (m : Machine) (v : Value) : String := (m.settle v).display

/-- An item of a value; undefined if there is none. -/
def item (m : Machine) (v key : Value) : Value.Result Value :=
  match v.itself, key with
  | .undefined _, _ => Value.undefinedFault
  | .loopState id, .string name _ =>
    .ok (match m.loops[id]? with
      | some l => loopAttribute l name
      | none => .undefined false)
  | .macroOf id _, .string name _ =>
    .ok (match m.definitions[id]? with
      | some d => macroAttribute d.macro_ name
      | none => .undefined false)
  | .space id, key => .ok ((Value.lookup? (m.entriesOf id) key).getD (.undefined false))
  | v, key => .ok ((Value.item? v key).getD (.undefined false))

/-- The blocks of a template, each as the innermost body of its name. -/
def addBlocks (blocks : List (String × Layers)) (stmts : List Stmt) : List (String × Layers) :=
  (blocksOf stmts).foldl (fun blocks b =>
    if blocks.any fun e => e.1 == b.1 then
      blocks.map fun e =>
        if e.1 == b.1 then (e.1, { e.2 with bodies := e.2.bodies ++ [b.2] }) else e
    else blocks ++ [(b.1, ⟨[b.2], 0⟩)]) blocks

def layers? (m : Machine) (name : String) : Option Layers :=
  (m.blocks.find? fun e => e.1 == name).map (·.2)

def setLayer (m : Machine) (name : String) (current : Nat) : Machine :=
  { m with blocks := m.blocks.map fun e =>
      if e.1 == name then (e.1, { e.2 with current }) else e }

end Machine

namespace Render

def fault (message : String) : Render α := fun _ => Value.fault message

/-- Run inside a frame of its own. -/
def inFrame (f : Frame) (x : Render α) : Render α := do
  let m ← get
  if Machine.maxDepth < m.depth + m.frames.length then fault "recursion limit exceeded"
  else
    set { m with frames := f :: m.frames }
    let a ← x
    modify fun m => { m with frames := m.frames.drop 1 }
    return a

/-- Run with the text that is written kept or lost. -/
def discarding (lost : Bool) (x : Render α) : Render α := do
  let before := (← get).discarding
  modify fun m => { m with discarding := lost }
  let a ← x
  modify fun m => { m with discarding := before }
  return a

/-- Run deeper than the frames show. -/
def deeper (cost : Nat) (x : Render α) : Render α := do
  let m ← get
  if Machine.maxDepth < m.depth + cost + m.frames.length then fault "recursion limit exceeded"
  else
    set { m with depth := m.depth + cost }
    let a ← x
    modify fun m => { m with depth := m.depth - cost }
    return a

/-- Whatever goes wrong inside, the template that runs it could be parsed. -/
def asEvaluation (x : Render α) : Render α := fun m =>
  match x m with
  | .ok r => .ok r
  | .error e => Value.fault e.message

def write (s : String) : Render String := do
  return if (← get).discarding then "" else s

/-- The text that a step writes, as a value. -/
def captured (x : Render String) : Render Value := do
  let s ← discarding false x
  return .string s (← get).escaping

/-- The rules for filters, tests and functions. -/
def rules (s : Setting) : Render Rules := do return ⟨s.strict, (← get).escaping⟩

def truth (s : Setting) (v : Value) : Render Bool := do
  let v ← (← rules s).defined v
  match v.itself with
  | .space id => return !((← get).entriesOf id).isEmpty
  | v => return v.truth

/-- The items of a value, and whether their number is known beforehand. -/
def items (s : Setting) (v : Value) : Render (List Value × Bool) := do
  let m ← get
  let items ← (← rules s).items (m.settled v)
  return (items, v.isCounted)

/-- A value as text; strict rules refuse an undefined one. -/
def emit (s : Setting) (v : Value) : Render String := do
  match v with
  | .undefined false => if s.strict then fun _ => Value.undefinedFault else return ""
  | .string t true => write t
  | v =>
    let m ← get
    let t := m.display v
    write (if m.escaping then (Value.text t).escapeText.display else t)

end Render
end Jinja
end Stencil
