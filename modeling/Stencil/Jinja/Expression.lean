import Stencil.Jinja.Read

/-! Reading the expressions of a template. -/
namespace Stencil
namespace Jinja
namespace Reader

open Read

def reserved : List String :=
  ["true", "True", "false", "False", "none", "None", "loop", "self"]

/-- A name that can be assigned to. -/
def assignable : Read Expr := do
  let id ← name
  if reserved.contains id then fail "cannot assign to reserved variable name" else return .var id

/-- The name of a filter or a test may have points. -/
def dottedName : Nat → String → Read String
  | 0, s => return s
  | fuel + 1, s => do
    if ← skipSign "." then dottedName fuel (s ++ "." ++ (← name)) else return s

/-- Texts beside each other are one. -/
def adjacent : Nat → String → Read String
  | 0, s => return s
  | fuel + 1, s => do
    match ← peek with
    | some (.text t) =>
      let _ ← next
      adjacent fuel (s ++ t)
    | _ => return s

/-- What ends a list without brackets. -/
def endsTuple (t : Option Token) : Bool :=
  isVariableEnd t || isBlockEnd t || isSign t ")" || isName t "recursive"

/-- Expressions with commas between them are a list; a single one without a comma is itself. -/
def tupleOf (item : Read Expr) : Nat → Bool → List Expr → Read Expr
  | 0, _, _ => fail "expression too long"
  | fuel + 1, isTuple, acc => do
    if !acc.isEmpty && endsTuple (← peek) then return .list acc.reverse
    else
      let e ← item
      if ← skipSign "," then tupleOf item fuel true (e :: acc)
      else return if isTuple then .list (e :: acc).reverse else e

def comparison? : Option Token → Option BinaryOp
  | some (.sign "==") => some .eq
  | some (.sign "!=") => some .ne
  | some (.sign "<") => some .lt
  | some (.sign "<=") => some .le
  | some (.sign ">") => some .gt
  | some (.sign ">=") => some .ge
  | some (.name "in") => some .in_
  | _ => none

def additive? : Option Token → Option BinaryOp
  | some (.sign "+") => some .add
  | some (.sign "-") => some .sub
  | _ => none

def joining? : Option Token → Option BinaryOp
  | some (.sign "~") => some .concat
  | _ => none

def multiplicative? : Option Token → Option BinaryOp
  | some (.sign "*") => some .mul
  | some (.sign "/") => some .div
  | some (.sign "//") => some .floorDiv
  | some (.sign "%") => some .rem
  | _ => none

def power? : Option Token → Option BinaryOp
  | some (.sign "**") => some .pow
  | _ => none

/-- Operands joined from left to right. -/
def chain (operator? : Option Token → Option BinaryOp) (operand : Read Expr) :
    Nat → Expr → Read Expr
  | 0, _ => fail "expression too long"
  | fuel + 1, left => do
    match operator? (← peek) with
    | some op =>
      let _ ← next
      let right ← operand
      chain operator? operand fuel (.binary op left right)
    | none => return left

/-- Comparisons behind each other, with `not in` among them. `acc` is reversed. -/
def comparisons (operand : Read Expr) : Nat → List (BinaryOp × Bool × Expr) →
    Read (List (BinaryOp × Bool × Expr))
  | 0, _ => fail "expression too long"
  | fuel + 1, acc => do
    let t ← peek
    match comparison? t with
    | some op =>
      let _ ← next
      comparisons operand fuel ((op, false, ← operand) :: acc)
    | none =>
      if isName t "not" then
        let _ ← next
        expectName "in"
        comparisons operand fuel ((.in_, true, ← operand) :: acc)
      else return acc.reverse

/-- A single comparison is an operation like others. -/
def compared (first : Expr) : List (BinaryOp × Bool × Expr) → Expr
  | [] => first
  | [(op, false, e)] => .binary op first e
  | [(op, true, e)] => .not (.binary op first e)
  | rest => .compare first rest

def junction (word : String) (op : BinaryOp) (operand : Read Expr) : Nat → Expr → Read Expr
  | 0, _ => fail "expression too long"
  | fuel + 1, left => do
    if ← skipName word then
      let right ← operand
      junction word op operand fuel (.binary op left right)
    else return left

/-- Whether a test can take the token as its argument without parentheses. -/
def startsTestArgument : Option Token → Bool
  | some (.name s) => s ≠ "and" ∧ s ≠ "or" ∧ s ≠ "else" ∧ s ≠ "is"
  | some (.text _) | some (.int _) | some (.float _) => true
  | some (.sign s) => s = "+" ∨ s = "-" ∨ s = "[" ∨ s = "\x7b"
  | _ => false

def constant? (s : String) : Option Value :=
  if s = "true" ∨ s = "True" then some (.bool true)
  else if s = "false" ∨ s = "False" then some (.bool false)
  else if s = "none" ∨ s = "None" then some .none
  else none

/-- How deep expressions and statements nest. -/
def maxDepth : Nat := 150

mutual

/-- A whole expression; below it `depth` expressions and operands may still be opened. -/
def expr : Nat → Nat → Read Expr
  | 0, _ => fail "template exceeds maximum recursion limits"
  | _, 0 => fail "template exceeds maximum recursion limits"
  | fuel + 1, depth + 1 => do
    let e ← disjunction fuel depth
    conditional fuel depth e

def conditional : Nat → Nat → Expr → Read Expr
  | 0, _, _ => fail "template exceeds maximum recursion limits"
  | fuel + 1, depth, e => do
    if ← skipName "if" then
      let test ← disjunction fuel depth
      if ← skipName "else" then
        let other ← disjunction fuel depth
        let other ← conditional fuel depth other
        conditional fuel depth (.ifElse test e (some other))
      else conditional fuel depth (.ifElse test e none)
    else return e

def disjunction : Nat → Nat → Read Expr
  | 0, _ => fail "template exceeds maximum recursion limits"
  | fuel + 1, depth => do
    let left ← conjunction fuel depth
    junction "or" .or (conjunction fuel depth) fuel left

def conjunction : Nat → Nat → Read Expr
  | 0, _ => fail "template exceeds maximum recursion limits"
  | fuel + 1, depth => do
    let left ← negation fuel depth
    junction "and" .and (negation fuel depth) fuel left

def negation : Nat → Nat → Read Expr
  | 0, _ => fail "template exceeds maximum recursion limits"
  | fuel + 1, depth => do
    if ← skipName "not" then return .not (← negation fuel depth)
    else
      let first ← sum fuel depth
      return compared first (← comparisons (sum fuel depth) fuel [])

def sum : Nat → Nat → Read Expr
  | 0, _ => fail "template exceeds maximum recursion limits"
  | fuel + 1, depth => do
    let left ← joined fuel depth
    chain additive? (joined fuel depth) fuel left

def joined : Nat → Nat → Read Expr
  | 0, _ => fail "template exceeds maximum recursion limits"
  | fuel + 1, depth => do
    let left ← product fuel depth
    chain joining? (product fuel depth) fuel left

def product : Nat → Nat → Read Expr
  | 0, _ => fail "template exceeds maximum recursion limits"
  | fuel + 1, depth => do
    let left ← power fuel depth
    chain multiplicative? (power fuel depth) fuel left

def power : Nat → Nat → Read Expr
  | 0, _ => fail "template exceeds maximum recursion limits"
  | fuel + 1, depth => do
    let left ← unary fuel depth
    chain power? (unary fuel depth) fuel left

def unary : Nat → Nat → Read Expr
  | 0, _ => fail "template exceeds maximum recursion limits"
  | fuel + 1, depth => do
    let e ← operand fuel depth
    filtered fuel depth e

/-- Attributes, subscripts and calls bind closer than a sign, and filters do not. -/
def operand : Nat → Nat → Read Expr
  | 0, _ => fail "template exceeds maximum recursion limits"
  | fuel + 1, depth => do
    if ← skipSign "-" then return .neg (← operand fuel depth)
    else if ← skipSign "+" then return .pos (← operand fuel depth)
    else
      let e ← primary fuel depth
      postfixed fuel depth e

def primary : Nat → Nat → Read Expr
  | 0, _ => fail "template exceeds maximum recursion limits"
  | _, 0 => fail "template exceeds maximum recursion limits"
  | fuel + 1, depth + 1 => do
    match ← next with
    | some (.name s) =>
      match constant? s with
      | some v => return .const v
      | none =>
        notice s
        return .var s
    | some (.text s) => return .const (.text (← adjacent fuel s))
    | some (.int n) => return .const (if n < twoTo 64 then .int n else .wide n)
    | some (.float x) => return .const (.float x)
    | some (.sign "(") => tuple fuel depth
    | some (.sign "[") => return .list (← items fuel depth "]" [])
    | some (.sign "\x7b") => return .map (← entries fuel depth [])
    | _ => fail "unexpected token, expected expression"

/-- What follows an opening parenthesis: one expression, or a list. -/
def tuple : Nat → Nat → Read Expr
  | 0, _ => fail "template exceeds maximum recursion limits"
  | fuel + 1, depth => do
    if ← skipSign ")" then return .list []
    else
      let e ← expr fuel depth
      if isSign (← peek) "," then return .list (← items fuel depth ")" [e])
      else
        expectSign ")"
        return e

/-- Expressions with commas between them, up to a closing sign. `acc` is reversed. -/
def items : Nat → Nat → String → List Expr → Read (List Expr)
  | 0, _, _, _ => fail "template exceeds maximum recursion limits"
  | fuel + 1, depth, close, acc => do
    if ← skipSign close then return acc.reverse
    else
      if !acc.isEmpty then expectSign ","
      if ← (if acc.isEmpty then Read.pure false else skipSign close) then return acc.reverse
      else
        let e ← expr fuel depth
        items fuel depth close (e :: acc)

def entries : Nat → Nat → List (Expr × Expr) → Read (List (Expr × Expr))
  | 0, _, _ => fail "template exceeds maximum recursion limits"
  | fuel + 1, depth, acc => do
    if ← skipSign "\x7d" then return acc.reverse
    else
      if !acc.isEmpty then expectSign ","
      if ← (if acc.isEmpty then Read.pure false else skipSign "\x7d") then return acc.reverse
      else
        let key ← expr fuel depth
        expectSign ":"
        let value ← expr fuel depth
        entries fuel depth ((key, value) :: acc)

/-- Attributes, subscripts and calls. -/
def postfixed : Nat → Nat → Expr → Read Expr
  | 0, _, _ => fail "template exceeds maximum recursion limits"
  | fuel + 1, depth, e => do
    if ← skipSign "." then
      match ← next with
      | some (.name attr) => postfixed fuel depth (.attribute e attr)
      | some (.int n) => postfixed fuel depth (.item e (.const (.int n)))
      | _ => fail "expected identifier or integer"
    else if ← skipSign "[" then
      let e ← subscript fuel depth e
      postfixed fuel depth e
    else if isSign (← peek) "(" then
      let args ← arguments fuel depth
      postfixed fuel depth (.call e args)
    else return e

/-- What follows an opening bracket: an item or a slice. -/
def subscript : Nat → Nat → Expr → Read Expr
  | 0, _, _ => fail "template exceeds maximum recursion limits"
  | fuel + 1, depth, e => do
    let start ← if isSign (← peek) ":" then Read.pure none else some <$> expr fuel depth
    if ← skipSign ":" then
      let t ← peek
      let stop ← if isSign t "]" || isSign t ":" then Read.pure none else some <$> expr fuel depth
      let step ←
        if ← skipSign ":" then
          if isSign (← peek) "]" then Read.pure none else some <$> expr fuel depth
        else Read.pure none
      expectSign "]"
      return .slice e start stop step
    else
      match start with
      | none => fail "empty subscript"
      | some s =>
        if isSign (← peek) "," then return .item e (.list (← subscripts fuel depth [s]))
        else
          expectSign "]"
          return .item e s

/-- More subscripts, after commas. `acc` is reversed. -/
def subscripts : Nat → Nat → List Expr → Read (List Expr)
  | 0, _, _ => fail "template exceeds maximum recursion limits"
  | fuel + 1, depth, acc => do
    if ← skipSign "]" then return acc.reverse
    else
      expectSign ","
      let e ← expr fuel depth
      subscripts fuel depth (e :: acc)

def arguments : Nat → Nat → Read (List Arg)
  | 0, _ => fail "template exceeds maximum recursion limits"
  | fuel + 1, depth => do
    expectSign "("
    argumentList fuel depth false []

/-- Arguments up to the closing parenthesis; a positional one may not follow a named one. -/
def argumentList : Nat → Nat → Bool → List Arg → Read (List Arg)
  | 0, _, _, _ => fail "template exceeds maximum recursion limits"
  | fuel + 1, depth, named, acc => do
    if ← skipSign ")" then return acc.reverse
    else
      if !acc.isEmpty then expectSign ","
      if ← (if acc.isEmpty then Read.pure false else skipSign ")") then return acc.reverse
      else if ← skipSign "**" then
        let e ← expr fuel depth
        argumentList fuel depth true (.spreadNamed e :: acc)
      else if ← skipSign "*" then
        let e ← expr fuel depth
        argumentList fuel depth named (.spread e :: acc)
      else
        let e ← expr fuel depth
        match e with
        | .var s =>
          if ← skipSign "=" then
            let v ← expr fuel depth
            argumentList fuel depth true (.named s v :: acc)
          else if named then fail "non-keyword arg after keyword arg"
          else argumentList fuel depth named (.positional e :: acc)
        | e =>
          if named then fail "non-keyword arg after keyword arg"
          else argumentList fuel depth named (.positional e :: acc)

/-- Filters and tests. -/
def filtered : Nat → Nat → Expr → Read Expr
  | 0, _, _ => fail "template exceeds maximum recursion limits"
  | fuel + 1, depth, e => do
    if ← skipSign "|" then
      let id ← dottedName fuel (← name)
      let args ← optionalArguments fuel depth
      filtered fuel depth (.filter id (some e) args)
    else if ← skipName "is" then
      let negated ← skipName "not"
      let id ← dottedName fuel (← name)
      let t ← peek
      let args ←
        if isSign t "(" then arguments fuel depth
        else if startsTestArgument t then
          let a ← operand fuel depth
          Read.pure [Arg.positional a]
        else Read.pure []
      let e := Expr.test id e args
      filtered fuel depth (if negated then .not e else e)
    else return e

def optionalArguments : Nat → Nat → Read (List Arg)
  | 0, _ => fail "template exceeds maximum recursion limits"
  | fuel + 1, depth => do
    if isSign (← peek) "(" then arguments fuel depth else return []

end

/-- An expression, or several as a list. -/
def anyExpr (fuel depth : Nat) : Read Expr := tupleOf (expr fuel depth) fuel false []

/-- The same without a condition at its end. -/
def anyUnconditional (fuel depth : Nat) : Read Expr := tupleOf (disjunction fuel depth) fuel false []

end Reader
end Jinja
end Stencil
