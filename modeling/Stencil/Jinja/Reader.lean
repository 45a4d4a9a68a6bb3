import Stencil.Jinja.Expression

/-! Reading the statements of a template. -/
namespace Stencil
namespace Jinja
namespace Reader

open Read

/-- Attributes of a name. -/
def dotted : Nat → Expr → Read Expr
  | 0, e => return e
  | fuel + 1, e => do
    if ← skipSign "." then
      let attr ← name
      dotted fuel (.attribute e attr)
    else return e

/-- Targets read so far, reversed. -/
def closeTargets (isTuple : Bool) (acc : List Expr) : Expr :=
  match isTuple, acc with
  | false, [e] => e
  | _, acc => .list acc.reverse

mutual

/-- The target of an assignment: a name, or several to unpack a list into. With `attributes`, an
attribute of a name is a target too. -/
def targets : Nat → Bool → Bool → List Expr → Read Expr
  | 0, _, _, _ => fail "template exceeds maximum recursion limits"
  | fuel + 1, attributes, isTuple, acc => do
    if !acc.isEmpty then expectSign ","
    let t ← peek
    if isSign t ")" || isVariableEnd t || isBlockEnd t || isName t "in" ||
        (isSign t "=" && !acc.isEmpty) then
      return closeTargets isTuple acc
    else
      let item ← target fuel attributes
      let acc := item :: acc
      if isSign (← peek) "," then targets fuel attributes true acc
      else return closeTargets isTuple acc

def target : Nat → Bool → Read Expr
  | 0, _ => fail "template exceeds maximum recursion limits"
  | fuel + 1, attributes => do
    if ← skipSign "(" then
      let e ← targets fuel attributes false []
      expectSign ")"
      return e
    else
      let e ← assignable
      if attributes then dotted fuel e else return e

end

/-- A text of blanks only. -/
def isBlankStmt : Stmt → Bool
  | .raw s => s.toList.all Text.isBlank
  | _ => false

/-- Filters without a subject, as a block applies them. -/
def filterChain (fuel depth : Nat) : Nat → Option Expr → Read Expr
  | 0, _ => fail "template exceeds maximum recursion limits"
  | steps + 1, acc => do
    if isBlockEnd (← peek) then
      match acc with
      | some e => return e
      | none => fail "expected a filter"
    else
      if acc.isSome then expectSign "|"
      let id ← dottedName fuel (← name)
      let args ← optionalArguments fuel depth
      filterChain fuel depth steps (some (.filter id acc args))

/-- `with context` and `without context` have no meaning. -/
def skipContext : Read Unit := do
  let t ← peek
  if isName t "with" || isName t "without" then
    let _ ← next
    expectName "context"
  else return ()

def importedNames : Nat → List (Expr × Expr) → Read (List (Expr × Expr))
  | 0, _ => fail "template exceeds maximum recursion limits"
  | fuel + 1, acc => do
    let t ← peek
    if isBlockEnd t || isName t "with" || isName t "without" then return acc.reverse
    else
      if !acc.isEmpty then expectSign ","
      if isBlockEnd (← peek) then return acc.reverse
      else
        let exported ← assignable
        let alias_ ← if ← skipName "as" then assignable else Read.pure exported
        importedNames fuel ((exported, alias_) :: acc)

/-- Parameters and, for the last of them, defaults. -/
def parameters (fuel depth : Nat) : Nat → List Expr → List Expr → Read (List Expr × List Expr)
  | 0, _, _ => fail "template exceeds maximum recursion limits"
  | steps + 1, params, defaults => do
    if ← skipSign ")" then return (params.reverse, defaults.reverse)
    else
      if !params.isEmpty then expectSign ","
      if ← (if params.isEmpty then Read.pure false else skipSign ")") then
        return (params.reverse, defaults.reverse)
      else
        let p ← assignable
        if ← skipSign "=" then
          let d ← expr fuel depth
          parameters fuel depth steps (p :: params) (d :: defaults)
        else if defaults.isEmpty then parameters fuel depth steps (p :: params) defaults
        else fail "expected ="

def assignments (fuel depth : Nat) : Nat → List (Expr × Expr) → Read (List (Expr × Expr))
  | 0, _ => fail "template exceeds maximum recursion limits"
  | steps + 1, acc => do
    if isBlockEnd (← peek) then return acc.reverse
    else
      if !acc.isEmpty then expectSign ","
      let t ← target fuel false
      expectSign "="
      let v ← expr fuel depth
      assignments fuel depth steps ((t, v) :: acc)

mutual

/-- Statements up to a tag whose word is in `ends`; that word is not taken. At the end of the
template whatever is open is left to be noticed by who opened it. -/
def statements : Nat → Nat → List String → List Stmt → Read (List Stmt)
  | 0, _, _, _ => fail "template exceeds maximum recursion limits"
  | fuel + 1, depth, ends, acc => do
    match ← next with
    | none => return acc.reverse
    | some (.data s) => statements fuel depth ends (.raw s :: acc)
    | some .variableStart =>
      let e ← anyExpr fuel depth
      if isVariableEnd (← next) then statements fuel depth ends (.emit e :: acc)
      else fail "expected end of variable block"
    | some .blockStart =>
      match ← peek with
      | none => fail "unexpected end of input, expected keyword"
      | some t =>
        let closes := match t with
          | .name s => ends.contains s
          | _ => false
        if closes then return acc.reverse
        else
          let s ← statement fuel depth
          expectBlockEnd
          statements fuel depth ends (s :: acc)
    | _ => fail "unexpected token"

/-- The statements of a block; its opening tag ends first and its closing word is taken. -/
def body : Nat → Nat → List String → Read (List Stmt)
  | 0, _, _ => fail "template exceeds maximum recursion limits"
  | fuel + 1, depth, ends => do
    expectBlockEnd
    let stmts ← statements fuel depth ends []
    let _ ← next
    return stmts

/-- The statements of a macro, and whether they speak of its caller. -/
def macroBody : Nat → Nat → String → Read (List Stmt × Bool)
  | 0, _, _ => fail "template exceeds maximum recursion limits"
  | fuel + 1, depth, close => do
    let outer ← Read.inMacro true
    let before ← Read.usesCaller false
    let stmts ← body fuel depth [close]
    let uses ← Read.usesCaller false
    let _ ← Read.usesCaller (before || uses)
    let _ ← Read.inMacro outer
    return (stmts, uses)

def statement : Nat → Nat → Read Stmt
  | 0, _ => fail "template exceeds maximum recursion limits"
  | _, 0 => fail "template exceeds maximum recursion limits"
  | fuel + 1, depth + 1 => do
    match ← next with
    | some (.name "for") =>
      let t ← targets fuel false false []
      expectName "in"
      let iter ← anyUnconditional fuel depth
      let filter ← if ← skipName "if" then some <$> expr fuel depth else Read.pure none
      let recursive ← skipName "recursive"
      expectBlockEnd
      let stmts ← statements fuel depth ["endfor", "else"] []
      let otherwise ←
        if ← skipName "else" then
          expectBlockEnd
          statements fuel depth ["endfor"] []
        else Read.pure []
      let _ ← next
      return .forLoop t iter filter recursive stmts otherwise
    | some (.name "if") => ifStatement fuel depth
    | some (.name "with") =>
      let assigned ← assignments fuel depth fuel []
      return .withBlock assigned (← body fuel depth ["endwith"])
    | some (.name "set") => setStatement fuel depth
    | some (.name "autoescape") =>
      let mode ← expr fuel depth
      return .autoEscape mode (← body fuel depth ["endautoescape"])
    | some (.name "filter") =>
      let f ← filterChain fuel depth fuel none
      return .filterBlock f (← body fuel depth ["endfilter"])
    | some (.name "block") =>
      let id ← name
      defineBlock id
      let _ ← skipName "scoped"
      let required ← skipName "required"
      let stmts ← body fuel depth ["endblock"]
      if required && !stmts.all isBlankStmt then
        fail "required blocks can only contain comments or whitespace"
      else
        match ← peek with
        | some (.name trailing) =>
          if trailing = id then
            let _ ← next
            return .block id required stmts
          else fail "mismatching name on block"
        | _ => return .block id required stmts
    | some (.name "extends") => return .extends_ (← expr fuel depth)
    | some (.name "include") =>
      let e ← expr fuel depth
      skipContext
      let ignoreMissing ← skipName "ignore"
      if ignoreMissing then
        expectName "missing"
        skipContext
      return .include_ e ignoreMissing
    | some (.name "import") =>
      let e ← expr fuel depth
      expectName "as"
      let t ← expr fuel depth
      skipContext
      return .import_ e t
    | some (.name "from") =>
      let e ← expr fuel depth
      expectName "import"
      let names ← importedNames fuel []
      skipContext
      return .fromImport e names
    | some (.name "macro") =>
      let id ← name
      expectSign "("
      let (params, defaults) ← parameters fuel depth fuel [] []
      let (stmts, uses) ← macroBody fuel depth "endmacro"
      return .macro_ (.mk id params defaults stmts uses)
    | some (.name "call") =>
      let (params, defaults) ←
        if ← skipSign "(" then parameters fuel depth fuel [] [] else Read.pure ([], [])
      let call ← expr fuel depth
      match call with
      | .call .. =>
        let (stmts, uses) ← macroBody fuel depth "endcall"
        return .callBlock call (.mk "caller" params defaults stmts uses)
      | _ => fail "expected call expression in call block"
    | some (.name "do") =>
      let e ← expr fuel depth
      match e with
      | .call .. => return .doCall e
      | _ => fail "expected call expression in do block"
    | _ => fail "unknown statement"

def ifStatement : Nat → Nat → Read Stmt
  | 0, _ => fail "template exceeds maximum recursion limits"
  | fuel + 1, depth => do
    let test ← anyUnconditional fuel depth
    expectBlockEnd
    let yes ← statements fuel depth ["endif", "else", "elif"] []
    match ← next with
    | some (.name "else") => return .ifCond test yes (← body fuel depth ["endif"])
    | some (.name "elif") => return .ifCond test yes [← ifStatement fuel depth]
    | _ => return .ifCond test yes []

/-- An assignment, or a block whose text is assigned. -/
def setStatement : Nat → Nat → Read Stmt
  | 0, _ => fail "template exceeds maximum recursion limits"
  | fuel + 1, depth => do
    let t ← targets fuel true false []
    let ahead ← peek
    let single := match t with
      | .list _ => false
      | _ => true
    if single && (isBlockEnd ahead || isSign ahead "|") then
      let filter ← if ← skipSign "|" then some <$> filterChain fuel depth fuel none else Read.pure none
      return .setBlock t filter (← body fuel depth ["endset"])
    else
      expectSign "="
      return .set t (← anyExpr fuel depth)

end

end Reader

/-- The statements of a template. -/
def parse (m : Markup) (source : String) : Except TemplateError (List Stmt) :=
  let tokens := tokensOf m source
  match Reader.statements (30 * tokens.length + 3000) Reader.maxDepth [] [] { tokens } with
  | .ok (stmts, _) => .ok stmts
  | .error e => .error e

end Jinja
end Stencil
