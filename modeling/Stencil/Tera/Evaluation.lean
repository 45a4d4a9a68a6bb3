import Stencil.KeyMap
import Stencil.Tera.Test
import Stencil.Tera.Way

/-! Rendering what a template says. -/
namespace Stencil
namespace Tera

/-- A loop that is running. -/
structure Loop where
  key : Option String
  name : String
  items : List (String × Json)
  index : Nat := 0

/-- What has opened a frame. -/
inductive Opening where
  | template
  | inclusion
  | call
  | loop (l : Loop)

structure Frame where
  opening : Opening
  locals : KeyMap Json := .empty

/-- How the body of a loop was left. -/
inductive Flow where
  | running
  | skipped
  | stopped
  deriving DecidableEq

structure Defined where
  name : String
  params : List (String × Option Term)
  body : List Node

structure State where
  /-- The innermost first -/
  frames : List Frame := [{ opening := .template }]
  flow : Flow := .running

structure Setting where
  context : KeyMap Json
  template : Template
  macros : List Defined
  blocks : List (String × List Node)

abbrev Render := StateT State Result

namespace Loop

def attribute? (l : Loop) (way : String) : Option Json :=
  match way with
  | "loop.index" => some (.int (l.index + 1))
  | "loop.index0" => some (.int l.index)
  | "loop.first" => some (.bool (l.index = 0))
  | "loop.last" => some (.bool (l.index + 1 = l.items.length))
  | _ => none

/-- What the loop says about itself, the key, the value or what is at the end of a way into it. -/
def lookup? (l : Loop) (way : String) : Option Json :=
  (l.attribute? way).or (l.items[l.index]?.bind fun (k, v) =>
    match Way.root way.toList with
    | (name, none) =>
      if l.name = String.ofList name then some v
      else if l.key = some (String.ofList name) then some (.string k)
      else none
    | (name, some rest) => if l.name = String.ofList name then Way.follow v rest else none)

/-- The key and the value by name. -/
def bindings (l : Loop) : List (String × Json) :=
  match l.items[l.index]? with
  | none => []
  | some (k, v) => (l.name, v) :: (l.key.map fun name => (name, Json.string k)).toList

end Loop

/-- What is at the end of a way that starts with one of the names. -/
def KeyMap.lookup? (m : KeyMap Json) (way : String) : Option Json :=
  match Way.root way.toList with
  | (_, none) => m.get? way
  | (name, some rest) => (m.get? (String.ofList name)).bind fun v => Way.follow v rest

namespace Frame

def lookup? (f : Frame) (way : String) : Option Json :=
  (KeyMap.lookup? f.locals way).or (match f.opening with
    | .loop l => l.lookup? way
    | _ => none)

/-- Whether the frames around this one are hidden. -/
def hides (f : Frame) : Bool :=
  match f.opening with
  | .template | .call => true
  | _ => false

def isLoop (f : Frame) : Bool :=
  match f.opening with
  | .loop _ => true
  | _ => false

/-- All that has a name here. -/
def bindings (f : Frame) : List (String × Json) :=
  f.locals.entries ++ (match f.opening with
    | .loop l => l.bindings
    | _ => [])

end Frame

namespace State

def lookupFrames : List Frame → String → Option Json
  | [], _ => none
  | f :: rest, way =>
    match f.lookup? way with
    | some v => some v
    | none => if f.hides then none else lookupFrames rest way

/-- A variable is looked for from the innermost frame on, and then in the context. -/
def lookup? (s : Setting) (st : State) (way : String) : Option Json :=
  (lookupFrames st.frames way).or (KeyMap.lookup? s.context way)

def setIn (isGlobal : Bool) (name : String) (v : Json) : List Frame → List Frame
  | [] => []
  | f :: rest =>
    if isGlobal ∧ f.isLoop then f :: setIn isGlobal name v rest
    else { f with locals := f.locals.insert name v } :: rest

def set (st : State) (isGlobal : Bool) (name : String) (v : Json) : State :=
  { st with frames := setIn isGlobal name v st.frames }

def inLoop (st : State) : Bool := (st.frames.head?.map Frame.isLoop).getD false

/-- The next item; what was assigned for the last one is forgotten. -/
def advance (st : State) (index : Nat) : State :=
  { st with
    flow := .running
    frames := match st.frames with
      | { opening := .loop l, .. } :: rest => { opening := .loop { l with index } } :: rest
      | frames => frames }

/-- The frames up to the first that has been opened by a call, and whether there is one. -/
def calling : List Frame → List Frame × Bool
  | [] => ([], false)
  | f :: rest =>
    match f.opening with
    | .call => ([f], true)
    | _ => let (frames, found) := calling rest; (f :: frames, found)

/-- All names with their values; those of outer frames hide those of inner ones. -/
def overview (s : Setting) (st : State) : Json :=
  let (frames, inCall) := calling st.frames
  let context : KeyMap Json := if inCall then .empty else s.context
  .object (context.insertAll (frames.flatMap Frame.bindings)).entries

end State

namespace Evaluation

def fault (message : String) : Render α := fun _ => Tera.fault message

/-- How deep the steps of rendering nest. -/
def maxNesting : Nat := 1000000

/-- The only template that is there, by name. -/
def ownName : String := "__tera_one_off"

/-- The value of a way in brackets, as a part of the way around it. -/
def partText (v : Json) : Result (List Char) :=
  match v with
  | .string s => .ok ('"' :: s.toList ++ ['"'])
  | .number n => .ok n.render.toList
  | _ => Tera.fault "variable cannot be used as a key"

/-- The name under which all that has a name is shown. -/
def overviewName : String := "__tera_context"

/-- What a way leads to, once values have taken the place of the ways in its brackets. -/
def find (s : Setting) (st : State) : Nat → List Char → Result Json
  | 0, _ => Tera.fault "recursion limit exceeded"
  | fuel + 1, way => do
    let way ← if way.contains '[' then
        Way.dotted <$> (Way.inner (way.length + 1) way).foldlM (fun whole part => do
          return Way.substitute part (← partText (← find s st fuel part)) whole) way
      else pure way
    match st.lookup? s (String.ofList way) with
    | some v => return v
    | none => Tera.fault "variable not found"

def lookup (s : Setting) (way : String) : Render Json := do
  let st ← get
  if way = overviewName then return .string ((st.overview s).renderIndented 0)
  else find s st (way.length + 1) way.toList

/-- What an expression without its variable stands for, if its first filter says so. -/
def fallback? : List Filter → Option (Option Expr)
  | .mk "default" args :: _ => some (Fields.get? args "value")
  | _ => none

def joinable (v : Json) : Result String :=
  match v with
  | .string t => .ok t
  | .number n => .ok n.render
  | _ => Tera.fault "tried to concat a value that is not a string or a number"

/-- What can stand for a container. -/
def isContainer : Expr → Bool
  | .mk (.lookup _) .. | .mk (.call ..) .. | .mk (.array _) .. => true
  | _ => false

/-- The items of a container, with a key each where there are keys. -/
def loopItems (key : Option String) (v : Json) : Result (List (String × Json)) :=
  match v, key with
  | .array items, none => .ok (items.map fun w => ("", w))
  | .string t, none =>
    .ok ((Text.Cluster.split t.toList).map fun cs => ("", .string (String.ofList cs)))
  | .object fields, some _ => .ok fields
  | _, _ => Tera.fault "tried to iterate on a container of an unsupported type"

/-- The value, or a failure as an answer. -/
def attempt (x : Render α) : Render (Option α) := fun st =>
  match x st with
  | .ok (a, st) => .ok (some a, st)
  | .error _ => .ok (none, st)

mutual

def eval (s : Setting) : Nat → Expr → Render Json
  | 0, _ => fault "recursion limit exceeded"
  | fuel + 1, .mk term negated filters => do
    let found ← match term with
      | .lookup way => do
        match ← attempt (lookup s way), fallback? filters with
        | some .null, some (some e) => some <$> eval s fuel e
        | none, some (some e) => some <$> eval s fuel e
        | some .null, some none => fault "the default filter requires a value"
        | none, some none => fault "the default filter requires a value"
        | some v, _ => pure (some v)
        | none, none => if negated then pure none else some <$> lookup s way
      | .logic .. => some <$> (.bool <$> truth s fuel (.mk term negated filters))
      | term => some <$> evalTerm s fuel term
    match found with
    | none => return .bool true
    | some v =>
      let v ← filters.foldlM (fun v (.mk name args) => do
        if name = "safe" ∨ name = "default" then return v
        else return ← Filter.apply name v (← evalArgs s fuel args)) v
      return if negated then .bool (!Value.truth v) else v

def evalArgs (s : Setting) : Nat → List (String × Expr) → Render (List (String × Json))
  | 0, _ => fault "recursion limit exceeded"
  | fuel + 1, args => args.mapM fun (name, e) => do return (name, ← eval s fuel e)

def evalTerm (s : Setting) : Nat → Term → Render Json
  | 0, _ => fault "recursion limit exceeded"
  | fuel + 1, term =>
    match term with
    | .text t => return .string t
    | .number n => return .number n
    | .bool b => return .bool b
    | .lookup way => lookup s way
    | .math .. => do
      match ← number s fuel (.of term) with
      | some n => return .number n
      | none => return .string "NaN"
    | .logic .. => do return .bool (← truth s fuel (.of term))
    | .test way negated name args => do
      let a ← args.mapM (eval s fuel)
      let v ← attempt (lookup s way)
      let answer ← Test.apply name v a
      return .bool (answer != negated)
    | .contained negated needle haystack => do
      let v ← eval s fuel needle
      let answer ← Value.contained v (← eval s fuel haystack)
      return .bool (answer != negated)
    | .concat parts => do
      let texts ← parts.mapM fun part => do
        match part with
        | .number n => return Value.numberText n
        | part => joinable (← evalTerm s fuel part)
      return .string (String.join texts)
    | .array items => do return .array (← items.mapM (eval s fuel))
    | .call name args => do Function.call name (← evalArgs s fuel args)
    | .callMacro space name args => do
      match s.macros.find? fun d => space = "self" ∧ d.name = name with
      | some d => return .string (← runMacro s fuel d args)
      | none => fault "macro not found"

/-- A value to calculate with; none if it is not a number any more. -/
def number (s : Setting) : Nat → Expr → Render (Option Number)
  | 0, _ => fault "recursion limit exceeded"
  | fuel + 1, .mk term negated filters =>
    match term, filters with
    | .math op left right, [] => do
      match ← number s fuel left, ← number s fuel right with
      | some a, some b => Value.math op a b
      | _, _ => return none
    | .number n, [] => return some n
    | .lookup _, _ | .call .., _ | _, _ :: _ => do
      match ← eval s fuel (.mk term negated filters) with
      | .number n => return some n
      | _ => fault "tried to do math with a value that is not a number"
    | _, [] => fault "tried to do math with a value that is not a number"

def truth (s : Setting) : Nat → Expr → Render Bool
  | 0, _ => fault "recursion limit exceeded"
  | fuel + 1, .mk term negated filters => do
    match term with
    | .logic .or left right =>
      let holds ← if ← truth s fuel left then pure true else truth s fuel right
      return holds != negated
    | .logic .and left right =>
      let holds ← if ← truth s fuel left then truth s fuel right else pure false
      return holds != negated
    | .logic .eq left right => return (← equal s fuel left right).elim false (· != negated)
    | .logic .ne left right => return (← equal s fuel left right).elim false (· == negated)
    | .logic op left right =>
      match ← number s fuel left, ← number s fuel right with
      | some a, some b =>
        let x := Value.toFloat a
        let y := Value.toFloat b
        let holds : Bool := match op with
          | .lt => x < y
          | .le => x ≤ y
          | .gt => x > y
          | _ => x ≥ y
        return holds != negated
      | _, _ => fault "comparison to NaN"
    | .lookup _ =>
      let v ← attempt (eval s fuel (.mk term negated filters))
      return Value.truth (v.getD (.bool false))
    | .math .. | .number _ =>
      match ← number s fuel (.of term) with
      | some n => return (Value.toFloat n != 0.0) != negated
      | none => return negated
    | .call .. =>
      match ← evalTerm s fuel term with
      | .bool b => return b != negated
      | _ => fault "function does not return a bool"
    | term => return Value.truth (← evalTerm s fuel term) != negated

/-- Whether two values are the same; no answer if just one is a number. -/
def equal (s : Setting) : Nat → Expr → Expr → Render (Option Bool)
  | 0, _, _ => fault "recursion limit exceeded"
  | fuel + 1, left, right => do
    match ← eval s fuel left, ← eval s fuel right with
    | .number a, .number b => return some (Value.toFloat a == Value.toFloat b)
    | .number _, _ | _, .number _ => return none
    | v, w => return some (Value.same v w)

/-- A macro sees its parameters and the context. -/
def runMacro (s : Setting) : Nat → Defined → List (String × Expr) → Render String
  | 0, _, _ => fault "recursion limit exceeded"
  | fuel + 1, d, args => do
    let bound ← d.params.mapM fun (name, default?) => do
      match Fields.get? args name, default? with
      | some e, _ => return (name, ← eval s fuel e)
      | none, some t => return (name, ← evalTerm s fuel t)
      | none, none => fault "macro is missing an argument"
    let before ← get
    set { before with
      frames := { opening := .call, locals := .ofList bound } :: before.frames }
    let text ← execAll s fuel d.body
    modify fun st => { st with frames := before.frames }
    return text

/-- The text of nodes, up to one that leaves the body. -/
def execAll (s : Setting) : Nat → List Node → Render String
  | 0, _ => fault "recursion limit exceeded"
  | fuel + 1, nodes =>
    nodes.foldlM (fun out node => do
      if (← get).flow = .running then return out ++ (← exec s fuel node) else return out) ""

def exec (s : Setting) : Nat → Node → Render String
  | 0, _ => fault "recursion limit exceeded"
  | fuel + 1, node =>
    match node with
    | .text t => return t
    | .emit e => do return Value.display (← eval s fuel e)
    | .set isGlobal name e => do
      let v ← eval s fuel e
      modify (·.set isGlobal name v)
      return ""
    | .cond test yes no => do
      if ← truth s fuel test then execAll s fuel yes else execAll s fuel no
    | .forLoop key name container body otherwise => do
      if !isContainer container then fault "this cannot be a container" else
      let items ← loopItems key (← eval s fuel container)
      if items.isEmpty then execAll s fuel otherwise
      else
        modify fun st =>
          { st with frames := { opening := .loop { key, name, items } } :: st.frames }
        let out ← (List.range items.length).foldlM (fun out i => do
          if (← get).flow = .stopped then return out
          else
            modify (·.advance i)
            return out ++ (← execAll s fuel body)) ""
        modify fun st => { st with frames := st.frames.drop 1, flow := .running }
        return out
    | .leave isBreak => do
      if !(← get).inLoop then fault "there is no loop to leave"
      else
        modify fun st => { st with flow := if isBreak then .stopped else .skipped }
        return ""
    | .filtered (.mk name args) body => do
      let text ← execAll s fuel body
      if name = "safe" then return text
      else
        let v ← Filter.apply name (.string text) (← evalArgs s fuel args)
        return Value.display v
    | .block name body => execAll s fuel ((Fields.get? s.blocks name).getD body)
    | .include_ names ignoreMissing => do
      if names.contains ownName then
        modify fun st => { st with frames := { opening := .inclusion } :: st.frames }
        let text ← execAll s fuel s.template.nodes
        modify fun st => { st with frames := st.frames.drop 1 }
        return text
      else if ignoreMissing then return ""
      else fault "template not found"
    | .macro_ .. => return ""

end

def render (context : KeyMap Json) (t : Template) : Result String :=
  if t.needsOthers then Tera.fault "template not found"
  else do
    let s : Setting :=
      { context, template := t
        macros := (Template.macrosOf t.nodes).map fun (name, params, body) => ⟨name, params, body⟩
        blocks := Template.blocksOf maxNesting t.nodes }
    let (text, _) ← (execAll s maxNesting t.nodes).run {}
    return text

end Evaluation
end Tera
end Stencil
