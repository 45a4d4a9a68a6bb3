import Stencil.Jinja.Machine

/-! Rendering the statements of a template. -/
namespace Stencil
namespace Jinja
namespace Evaluation

open Render

/-- How deep the steps of rendering nest. -/
def maxNesting : Nat := 1000000

def namedEntries (name : String) (v : Value) (a : Args) : Args :=
  { a with named := Value.putEntry (.text name) v a.named }

/-- The values of the parameters of a macro; undefined where none is given. -/
def bindParams (d : Macro) (a : Args) : Value.Result (List (Expr × Value)) := do
  let names := d.paramNames
  let known := if d.usesCaller then names ++ ["caller"] else names
  if names.length < a.positional.length then Value.fault "too many arguments"
  else if a.named.any fun e => !(known.any fun n => Value.same e.1 (.text n)) then
    Value.fault "unknown keyword argument"
  else
    d.params.zipIdx.mapM fun (p, i) =>
      let given := match p with
        | .var name => a.named? name
        | _ => none
      match a.positional[i]?, given with
      | some _, some _ => Value.fault "duplicate argument"
      | some v, none => .ok (p, v)
      | none, some v => .ok (p, v)
      | none, none => .ok (p, .undefined false)

/-- Each parameter with its value and, if it has one, its default; the last parameter first. -/
def withDefaults (d : Macro) (bound : List (Expr × Value)) : List (Expr × Value × Option Expr) :=
  let defaults := d.defaults.reverse
  bound.reverse.zipIdx.map fun ((p, v), i) => (p, v, defaults[i]?)

/-- The items that a list of targets takes. -/
def unpack (v : Value) (count : Nat) : Value.Result (List Value) :=
  match v with
  | .string .. | .undefined _ | .none => Value.fault "cannot unpack"
  | v =>
    match Value.iterate v with
    | .ok items => if items.length = count then .ok items else Value.fault "sequence of wrong length"
    | .error e => .error e

/-- The names of the templates that may be included, by choice. -/
def choices (v : Value) : Value.Result (List Value) :=
  match v.kind with
  | .sequence | .iterable | .map => Value.iterate v
  | _ => .ok [v]

def templateName (v : Value) : Value.Result String :=
  match v with
  | .string s _ => .ok s
  | _ => Value.fault "template name was not a string"

/-- The first template that exists. -/
def firstFound (s : Setting) : List Value → Value.Result (Option (List Stmt))
  | [] => .ok none
  | v :: rest => do
    match ← s.load (← templateName v) with
    | some stmts => .ok (some stmts)
    | none => firstFound s rest

/-- Whether text is escaped from here on. -/
def escapeMode (v : Value) : Value.Result Bool :=
  match v with
  | .string "html" _ => .ok true
  | .string "none" _ => .ok false
  | .string .. => Value.fault "invalid value to autoescape tag"
  | v => .ok (Value.same v (.bool true))

/-- Arguments with all that can be seen of them now. -/
def settleArgs (m : Machine) (a : Args) : Args :=
  ⟨a.positional.map m.settle, a.named.map fun e => (e.1, m.settle e.2)⟩

def callBuiltin (s : Setting) (name : String) (a : Args) : Render Value := do
  let r ← rules s
  let a := settleArgs (← get) a
  match name with
  | "range" => Function.range r a
  | "dict" => Function.dict r a
  | "debug" => Function.debug a
  | "namespace" =>
    let (v, m) := (← get).addSpace (← Function.attributes r a)
    set m
    return v
  | _ => fault "function cannot be called"

/-- A name, or something found under one. -/
def isPlace : Expr → Bool
  | .var _ => true
  | .attribute e _ => isPlace e
  | .item e _ => isPlace e
  | _ => false

def loopMethod (id : Nat) (name : String) (a : Args) : Render Value := do
  let m ← get
  match m.loops[id]? with
  | none => fault "unknown loop"
  | some l =>
    match name with
    | "cycle" =>
      if a.all.isEmpty then fault "no items for cycling given"
      else return (a.all[l.index % a.all.length]?).getD (.undefined false)
    | "changed" =>
      let same := match l.changed with
        | some before => Value.sameItems before a.all
        | none => false
      if same then return .bool false
      else
        set { m with loops := m.loops.set! id { l with changed := some a.all } }
        return .bool true
    | _ => fault "loop object has no such method"

/-- An operation on two values that are defined. -/
def operate (s : Setting) (op : BinaryOp) (v w : Value) : Render Value := do
  let r ← rules s
  let m ← get
  Value.binary op (m.settle (← r.defined v)) (m.settle (← r.defined w))

/-- The parts of a call. -/
inductive Callee where
  | super
  | function (name : String)
  | block (name : String)
  | method (e : Expr) (name : String)
  | object (e : Expr)

def callee (f : Expr) (args : List Arg) : Callee :=
  match f with
  | .var name => if name = "super" ∧ args.isEmpty then .super else .function name
  | .attribute (.var "self") name => .block name
  | .attribute e name => .method e name
  | e => .object e

mutual

def eval (s : Setting) : Nat → Expr → Render Value
  | 0, _ => fault "recursion limit exceeded"
  | fuel + 1, e =>
    match e with
    | .var name => do return ((← get).lookup? s name).getD (.undefined false)
    | .const v => return v
    | .slice e start stop step => do
      let v ← eval s fuel e
      let start ← evalBound s fuel start
      let stop ← evalBound s fuel stop
      let step ← evalBound s fuel step
      Value.slice (← (← rules s).defined v) start stop step
    | .neg e => do Value.negate (← (← rules s).defined (← eval s fuel e))
    | .pos e => do Value.affirm (← (← rules s).defined (← eval s fuel e))
    | .not e => do return .bool (!(← truth s (← eval s fuel e)))
    | .binary .and left right => do
      let v ← eval s fuel left
      if ← truth s v then eval s fuel right else return v
    | .binary .or left right => do
      let v ← eval s fuel left
      if ← truth s v then return v else eval s fuel right
    | .binary op left right => do
      let v ← eval s fuel left
      let w ← eval s fuel right
      operate s op v w
    | .compare first rest => do comparisons s fuel (← eval s fuel first) rest
    | .ifElse test yes no => do
      if ← truth s (← eval s fuel test) then eval s fuel yes
      else
        match no with
        | some no => eval s fuel no
        | none => return .undefined true
    | .filter name subject args => do
      let v ← match subject with
        | some e => eval s fuel e
        | none => return ← applyTo s fuel name (← get).subject args
      applyTo s fuel name v args
    | .test name subject args => do
      let v ← eval s fuel subject
      let a ← evalArgs s fuel args
      let m ← get
      let shared := isPlace subject && (args.all fun
        | .positional e => isPlace e
        | _ => false)
      match name, a.all with
      | "sameas", [w] => return .bool (Test.identical shared (m.settle v) (m.settle w))
      | _, _ => return .bool (← Test.apply (← rules s) Filter.names name (m.settle v) (settleArgs m a))
    | .attribute e name => do
      let v ← eval s fuel e
      (← get).item v (.text name)
    | .item e subscript => do
      let v ← eval s fuel e
      let key ← eval s fuel subscript
      (← get).item v key
    | .call f args => call s fuel f args none
    | .list items => do return .list (← items.mapM (eval s fuel))
    | .map entries => do
      let pairs ← entries.mapM fun (k, v) => do return (← eval s fuel k, ← eval s fuel v)
      return .map (Value.mapOf pairs)

def applyTo (s : Setting) : Nat → String → Value → List Arg → Render Value
  | 0, _, _, _ => fault "recursion limit exceeded"
  | fuel + 1, name, v, args => do
    let a ← evalArgs s fuel args
    let m ← get
    return (← Filter.apply (← rules s) name (m.settle v) (settleArgs m a)).itself

/-- Each value compared with the next, up to the first comparison that does not hold. -/
def comparisons (s : Setting) : Nat → Value → List (BinaryOp × Bool × Expr) → Render Value
  | 0, _, _ => fault "recursion limit exceeded"
  | fuel + 1, v, rest => do
    match rest with
    | [] => return .bool true
    | (op, negated, e) :: rest =>
      let w ← eval s fuel e
      let holds := (← operate s op v w).truth != negated
      if holds then comparisons s fuel w rest else return .bool false

def evalBound (s : Setting) : Nat → Option Expr → Render Value
  | 0, _ => fault "recursion limit exceeded"
  | fuel + 1, e =>
    match e with
    | some e => eval s fuel e
    | none => return .none

def evalArgs (s : Setting) : Nat → List Arg → Render Args
  | 0, _ => fault "recursion limit exceeded"
  | fuel + 1, args =>
    args.foldlM (fun (a : Args) arg => do
      match arg with
      | .positional e => return { a with positional := a.positional ++ [← eval s fuel e] }
      | .named name e => return namedEntries name (← eval s fuel e) a
      | .spread e =>
        let v := (← get).settle (← eval s fuel e)
        return { a with positional := a.positional ++ (← Value.iterate v) }
      | .spreadNamed e =>
        match Value.entries? ((← get).settle (← eval s fuel e)) with
        | some entries => return { a with named := Value.mapOf (a.named ++ entries) }
        | none => fault "attempted to apply keyword arguments from non map") {}

/-- A call; `caller` is the block that it is made for. -/
def call (s : Setting) : Nat → Expr → List Arg → Option Macro → Render Value
  | 0, _, _, _ => fault "recursion limit exceeded"
  | fuel + 1, f, args, caller =>
    match callee f args with
    | .super => super s fuel
    | .block name => do
      if (← get).parent.isSome then return .string "" (← get).escaping
      else captured (runBlock s fuel name)
    | .function name => do
      let a ← callArgs s fuel args caller
      match (← get).lookup? s name with
      | some v => callValue s fuel v a
      | none => fault "unknown function"
    | .method e name => do
      let v ← eval s fuel e
      let a ← callArgs s fuel args caller
      let m ← get
      match v.itself with
      | .loopState id => loopMethod id name a
      | v =>
        let entries := match v with
          | .space id => some (m.entriesOf id)
          | v => Value.entries? v
        match entries.bind fun entries => Value.lookup? entries (.text name) with
        | some f => callValue s fuel f a
        | none => fault "unknown method"
    | .object e => do
      let v ← eval s fuel e
      let a ← callArgs s fuel args caller
      match v.itself with
      | .loopState _ => fault "loop cannot be called if reassigned to different variable"
      | v => callValue s fuel v a

def callArgs (s : Setting) : Nat → List Arg → Option Macro → Render Args
  | 0, _, _ => fault "recursion limit exceeded"
  | fuel + 1, args, caller => do
    let a ← evalArgs s fuel args
    match caller with
    | none => return a
    | some d =>
      let (v, m) := (← get).define d
      set m
      return namedEntries "caller" v a

def callValue (s : Setting) : Nat → Value → Args → Render Value
  | 0, _, _ => fault "recursion limit exceeded"
  | fuel + 1, f, a => do
    match f.itself with
    | .builtin name => callBuiltin s name a
    | .macroOf id _ =>
      match (← get).definitions[id]? with
      | some d => callMacro s fuel d a
      | none => fault "unknown macro"
    | .loopState id =>
      match (← get).loops[id]?, a.all with
      | some l, [v] =>
        if l.recursive then captured (recurse s fuel l v)
        else fault "cannot recurse outside of recursive loop"
      | _, _ => fault "loop() takes one argument"
    | _ => fault "value is not callable"

/-- The body of a recursive loop for the items of another value. -/
def recurse (s : Setting) : Nat → Loop → Value → Render String
  | 0, _, _ => fault "recursion limit exceeded"
  | fuel + 1, l, v => do
    let (items, counted) ← items s v
    runLoop s fuel l.target l.body true items counted

/-- A macro sees what it has taken along, and nothing of where it is called. -/
def callMacro (s : Setting) : Nat → Definition → Args → Render Value
  | 0, _, _ => fault "recursion limit exceeded"
  | fuel + 1, d, a => do
    let bound ← bindParams d.macro_ a
    let before ← get
    let depth := before.depth + before.frames.length + Machine.macroCost
    if Machine.maxDepth < depth + 2 then fault "recursion limit exceeded"
    else
      set { before with
        frames := [{ taken := some d.closure }, {}], depth, blocks := [], block := none
        extended := [], discarding := false }
      if d.macro_.usesCaller then
        modify (·.store "caller" ((a.named? "caller").getD (.undefined false)))
      for (p, v, default?) in withDefaults d.macro_ bound do
        let v ← match v.isUndefined, default? with
          | true, some e => eval s fuel e
          | _, _ => pure v
        assign s fuel p v
      let text ← runBody s fuel d.macro_.body
      modify fun m => { m with
        frames := before.frames, depth := before.depth, blocks := before.blocks
        block := before.block, extended := before.extended, discarding := before.discarding }
      return .string text before.escaping

def assign (s : Setting) : Nat → Expr → Value → Render Unit
  | 0, _, _ => fault "recursion limit exceeded"
  | fuel + 1, target, v => do
    match target with
    | .var name => modify (·.store name v)
    | .list targets =>
      let m ← get
      let items ← unpack (m.settled (← (← rules s).defined v)) targets.length
      (targets.zip items).forM fun (t, w) => assign s fuel t w
    | .attribute e name =>
      match (← eval s fuel e).itself with
      | .space id => modify (·.setEntry id name v)
      | _ => fault "can only assign to namespaces"
    | _ => fault "cannot assign"

def runLoop (s : Setting) : Nat → Expr → List Stmt → Bool → List Value → Bool → Render String
  | 0, _, _, _, _, _ => fault "recursion limit exceeded"
  | fuel + 1, target, body, recursive, items, counted => do
    let m ← get
    let (id, m) := m.pushLoop
      { target, body, recursive, items, counted, depth := m.nextLoopDepth }
    set m
    inFrame { loop := some id } do
      items.zipIdx.foldlM (fun out (v, i) => do
        modify fun m => { m with loops := m.loops.modify id fun l => { l with index := i } }
        assign s fuel target v
        return out ++ (← execAll s fuel body)) ""

/-- The body of a block from the template that was extended. -/
def super (s : Setting) : Nat → Render Value
  | 0 => fault "recursion limit exceeded"
  | fuel + 1 => do
    let m ← get
    match m.block with
    | none => fault "cannot super outside of block"
    | some name =>
      match m.layers? name with
      | none => fault "cannot super outside of block"
      | some layers =>
        match layers.bodies[layers.current + 1]? with
        | none => fault "no parent block exists"
        | some body =>
          modify (·.setLayer name (layers.current + 1))
          let text ← captured (inFrame {} (runBody s fuel body))
          modify (·.setLayer name layers.current)
          return text

def runBlock (s : Setting) : Nat → String → Render String
  | 0, _ => fault "recursion limit exceeded"
  | fuel + 1, name => do
    let m ← get
    match (m.layers? name).bind fun layers => layers.bodies[layers.current]? with
    | none => fault "block not found"
    | some body =>
      set { m with block := some name }
      let text ← inFrame {} (runBody s fuel body)
      modify fun after => { after with block := m.block }
      return text

/-- Statements that may extend a template. -/
def runBody (s : Setting) : Nat → List Stmt → Render String
  | 0, _ => fault "recursion limit exceeded"
  | fuel + 1, stmts => do
    let before ← get
    set { before with parent := none }
    let out ← execAll s fuel stmts
    let out ← runParents s fuel before.discarding out
    modify fun m => { m with parent := before.parent, discarding := before.discarding }
    return out

/-- The template that was extended takes over. -/
def runParents (s : Setting) : Nat → Bool → String → Render String
  | 0, _, _ => fault "recursion limit exceeded"
  | fuel + 1, lost, out => do
    let m ← get
    match m.parent with
    | none => return out
    | some stmts =>
      set { m with parent := none, discarding := lost }
      let text ← execAll s fuel stmts
      runParents s fuel lost (out ++ text)

def include_ (s : Setting) : Nat → Value → Bool → Render String
  | 0, _, _ => fault "recursion limit exceeded"
  | fuel + 1, v, ignoreMissing => do
    let names ← choices v
    match ← firstFound s names with
    | none => if ignoreMissing || names.isEmpty then return "" else fault "template not found"
    | some stmts =>
      let before ← get
      let withoutClosure := match before.frames with
        | f :: rest => { f with closure := none } :: rest
        | [] => []
      set { before with
        blocks := Machine.addBlocks [] stmts, escaping := false, frames := withoutClosure }
      let text ← deeper Machine.includeCost (asEvaluation (runBody s fuel stmts))
      let closure := (before.frames.head?).bind (·.closure)
      modify fun m => { m with
        blocks := before.blocks, escaping := before.escaping, extended := before.extended
        frames := match m.frames with
          | f :: rest => { f with closure } :: rest
          | [] => [] }
      return text

def execAll (s : Setting) : Nat → List Stmt → Render String
  | 0, _ => fault "recursion limit exceeded"
  | fuel + 1, stmts => stmts.foldlM (fun out stmt => do return out ++ (← exec s fuel stmt)) ""

/-- The text of a statement. -/
def exec (s : Setting) : Nat → Stmt → Render String
  | 0, _ => fault "recursion limit exceeded"
  | fuel + 1, stmt =>
    match stmt with
    | .raw t => write t
    | .emit e => do emit s (← eval s fuel e)
    | .forLoop target iter filter recursive body otherwise => do
      let (items, counted) ← items s (← eval s fuel iter)
      let (items, counted) ← match filter with
        | some test =>
          let kept ← inFrame {} (items.filterM fun v => do
            assign s fuel target v
            truth s (← eval s fuel test))
          pure (kept, true)
        | none => pure (items, counted)
      let out ← runLoop s fuel target body recursive items counted
      if items.isEmpty then return out ++ (← execAll s fuel otherwise) else return out
    | .ifCond test yes no => do
      if ← truth s (← eval s fuel test) then execAll s fuel yes else execAll s fuel no
    | .withBlock assignments body =>
      inFrame {} do
        assignments.forM fun (t, e) => do assign s fuel t (← eval s fuel e)
        execAll s fuel body
    | .set target e => do
      assign s fuel target (← eval s fuel e)
      return ""
    | .setBlock target filter body => do
      let v ← captured (execAll s fuel body)
      let v ← match filter with
        | some e => evalOn s fuel v e
        | none => pure v
      assign s fuel target v
      return ""
    | .autoEscape mode body => do
      let escaping ← escapeMode (← eval s fuel mode)
      let before := (← get).escaping
      modify fun m => { m with escaping }
      let out ← execAll s fuel body
      modify fun m => { m with escaping := before }
      return out
    | .filterBlock e body => do
      let v ← captured (execAll s fuel body)
      emit s (← evalOn s fuel v e)
    | .block name required _ => do
      let m ← get
      if m.parent.isSome || m.discarding then return ""
      else if required && ((m.layers? name).all fun layers => layers.bodies.length ≤ 1) then
        fault "required block not found"
      else runBlock s fuel name
    | .extends_ e => do
      let v ← eval s fuel e
      let name ← templateName v
      let m ← get
      if m.parent.isSome then fault "tried to extend a second time in a template"
      else if m.extended.contains name then fault "cycle in template inheritance"
      else
        match ← s.load name with
        | none => fault "template not found"
        | some stmts =>
          set { m with
            parent := some stmts, extended := name :: m.extended
            blocks := Machine.addBlocks m.blocks stmts, discarding := true }
          return ""
    | .include_ e ignoreMissing => do
      let v ← eval s fuel e
      include_ s fuel v ignoreMissing
    | .import_ e target => do
      let module ← discarding true (inFrame {} do
        let v ← eval s fuel e
        let _ ← include_ s fuel v false
        let locals := ((← get).frames.head?.map (·.locals)).getD .empty
        return Value.map (locals.entries.map fun (k, v) => (.text k, v)))
      assign s fuel target module
      return ""
    | .fromImport e names => do
      let values ← discarding true (inFrame {} do
        let v ← eval s fuel e
        let _ ← include_ s fuel v false
        names.mapM fun (exported, _) => eval s fuel exported)
      (names.zip values).reverse.forM fun ((_, target), v) => assign s fuel target v
      return ""
    | .macro_ d => do
      let (v, m) := (← get).define d
      set (m.store d.name v)
      return ""
    | .callBlock (.call f args) caller => do emit s (← call s fuel f args (some caller))
    | .callBlock _ _ => fault "value is not callable"
    | .doCall e => do
      let _ ← eval s fuel e
      return ""

/-- The value of filters without a subject, for a text. -/
def evalOn (s : Setting) : Nat → Value → Expr → Render Value
  | 0, _, _ => fault "recursion limit exceeded"
  | fuel + 1, v, e => do
    let before := (← get).subject
    modify fun m => { m with subject := v }
    let w ← eval s fuel e
    modify fun m => { m with subject := before }
    return w

end

/-- A whole template. -/
def render (s : Setting) (stmts : List Stmt) : Value.Result String := do
  let start : Machine := { blocks := Machine.addBlocks [] stmts }
  let (text, _) ← (runBody s maxNesting stmts).run start
  return text

end Evaluation
end Jinja
end Stencil
