import Stencil.Number.Decimal
import Stencil.Tera.Tree
import Stencil.Text.Blank

/-! The grammar of templates. A reader takes what it reads from the front of a text, and of two
readers the second is tried where the first fails. -/
namespace Stencil
namespace Tera

open Text

abbrev Read := StateT (List Char) Option

namespace Read

def literal (s : String) : Read Unit := fun cs => (dropLead? s.toList cs).map ((), ·)

def isSpace (c : Char) : Bool := c == ' ' || c == '\t' || c == '\r' || c == '\n'

def spaces : Read Unit := fun cs => some ((), cs.dropWhile isSpace)

def someSpaces : Read Unit := fun cs =>
  match cs with
  | c :: rest => if isSpace c then some ((), rest.dropWhile isSpace) else none
  | [] => none

/-- A sign, after any white space. -/
def sign (s : String) : Read Unit := spaces *> literal s

/-- A word that operates on what follows it. -/
def operator (s : String) : Read Unit := spaces *> literal s *> someSpaces

def isNameStart (c : Char) : Bool := c == '_' || c.isAlpha

def isNameChar (c : Char) : Bool := c == '_' || c.isAlphanum

def nameChars : Read String := fun cs =>
  match cs.takeWhile isNameChar with
  | [] => none
  | name => some (String.ofList name, cs.dropWhile isNameChar)

def name : Read String := fun cs =>
  match cs with
  | c :: _ => if isNameStart c then nameChars cs else none
  | [] => none

/-- A text in quotes, which it cannot contain itself. -/
def quoted : Read String := fun cs =>
  match cs with
  | q :: rest =>
    if q = '"' ∨ q = '\'' ∨ q = Char.ofNat 0x60 then
      (cutAt q rest).map fun (s, rest) => (String.ofList s, rest)
    else none
  | [] => none

/-- Digits without a leading zero. -/
def digits : Read (List Char) := fun cs =>
  match cs with
  | '0' :: rest => some (['0'], rest)
  | cs =>
    match Decimal.spanDigits cs with
    | ([], _) => none
    | found => some found

def minus : Read Bool := fun cs =>
  match cs with
  | '-' :: rest => some (true, rest)
  | cs => some (false, cs)

def integer : Read Int := do
  let negative ← minus
  let n : Int := Decimal.natOf (← digits)
  return if negative then -n else n

/-- Integers have 64 bits. -/
def int : Read Term := do
  let n ← integer
  if Number.least ≤ n ∧ n ≤ Number.greatestSigned then return .number (.int n) else failure

def float : Read Term := do
  let negative ← minus
  let whole ← digits
  literal "."
  let fraction ← fun cs =>
    match Decimal.spanDigits cs with
    | ([], _) => none
    | found => some found
  match Binary64.ofDecimal negative (Decimal.natOf (whole ++ fraction)) (-fraction.length) with
  | some x => return .number (.float x)
  | none => failure

def boolean : Read Term :=
  (literal "true" <|> literal "True") *> pure (.bool true) <|>
    (literal "false" <|> literal "False") *> pure (.bool false)

/-- At least none, as long as the reader reads something. -/
def many (x : Read α) : Nat → Read (List α)
  | 0 => return []
  | fuel + 1 => fun cs =>
    match x cs with
    | some (a, rest) => (many x fuel rest).map fun (as, rest) => (a :: as, rest)
    | none => some ([], cs)

/-- With a comma between two. -/
def listed (x : Read α) (fuel : Nat) : Read (List α) := do
  let first ← x
  return first :: (← many (sign "," *> x) fuel)

/-- With a comma between two, and perhaps one at the end. -/
def separated (x : Read α) (fuel : Nat) : Read (List α) := do
  let found ← listed x fuel
  let _ ← optional (sign ",")
  return found

mutual

/-- One more part of a way: a name after a dot, or brackets. -/
def step : Nat → Read Unit
  | 0 => failure
  | fuel + 1 =>
    (do literal "."; let _ ← nameChars) <|>
    (do
      literal "["
      (do let _ ← integer) <|> (do let _ ← quoted) <|> (do let _ ← name; steps fuel)
      literal "]")

def steps : Nat → Read Unit
  | 0 => failure
  | fuel + 1 => (do step fuel; steps fuel) <|> pure ()

end

/-- A way, as it is written. -/
def way (fuel : Nat) : Read String := fun cs =>
  match (do let _ ← name; steps fuel : Read Unit) cs with
  | some ((), rest) => some (String.ofList (cs.take (cs.length - rest.length)), rest)
  | none => none

def mathOp (high : Bool) : Read MathOp :=
  if high then
    sign "*" *> pure .mul <|> sign "/" *> pure .div <|> (do
      spaces
      literal "%"
      -- the end of a tag is no operator
      fun cs => if cs.head? = some '\x7d' then none else some ((), cs)
      return .rem)
  else
    sign "+" *> pure .add <|> (do
      spaces
      literal "-"
      fun cs =>
        if (dropLead? "%\x7d".toList cs).isSome || (dropLead? "\x7d\x7d".toList cs).isSome then none
        else some ((), cs)
      return .sub)

def comparison : Read LogicOp :=
  sign "<=" *> pure .le <|> sign ">=" *> pure .ge <|> sign ">" *> pure .gt <|>
    sign "<" *> pure .lt <|> sign "==" *> pure .eq <|> sign "!=" *> pure .ne

/-- Of arguments of one name the last counts. -/
def named (args : List (String × Expr)) : List (String × Expr) := Fields.merge [] args

def junction (isOr : Bool) : Read LogicOp :=
  if isOr then operator "or" *> pure .or else operator "and" *> pure .and

/-- Operands joined from left to right. -/
def chain (op : Read α) (operand : Read Expr) (join : α → Expr → Expr → Term) :
    Nat → Expr → Read Expr
  | 0, left => return left
  | fuel + 1, left =>
    (do
      let o ← op
      let right ← operand
      chain op operand join fuel (.of (join o left right))) <|> pure left

mutual

/-- Operators on numbers; a filter applies to all of them. -/
def basic : Nat → Read Expr
  | 0 => failure
  | fuel + 1 => do
    let left ← product fuel
    chain (mathOp false) (product fuel) .math fuel left

def product : Nat → Read Expr
  | 0 => failure
  | fuel + 1 => do
    let left ← operand fuel
    chain (mathOp true) (operand fuel) .math fuel left

def operand : Nat → Read Expr
  | 0 => failure
  | fuel + 1 =>
    (do
      sign "("
      let e ← basic fuel
      sign ")"
      return e) <|>
    (do return .of (← spaces *> value fuel))

def value : Nat → Read Term
  | 0 => failure
  | fuel + 1 =>
    boolean <|> test fuel <|> callMacro fuel <|> call fuel <|>
      (do return .lookup (← way fuel)) <|> float <|> int

def test : Nat → Read Term
  | 0 => failure
  | fuel + 1 => do
    let w ← way fuel
    sign "is"
    (do
      sign "not"
      testCall fuel w true) <|> testCall fuel w false

def testCall : Nat → String → Bool → Read Term
  | 0, _, _ => failure
  | fuel + 1, w, negated => do
    let n ← spaces *> name
    let args ← (do
      sign "("
      let args ← listed (argument fuel) fuel
      sign ")"
      return args) <|> pure []
    return .test w negated n args

def callMacro : Nat → Read Term
  | 0 => failure
  | fuel + 1 => do
    let space ← name
    sign "::"
    let n ← spaces *> name
    sign "("
    let args ← separated (namedArgument fuel) fuel <|> pure []
    sign ")"
    return .callMacro space n (named args)

def call : Nat → Read Term
  | 0 => failure
  | fuel + 1 => do
    let n ← name
    sign "("
    let args ← separated (namedArgument fuel) fuel <|> pure []
    sign ")"
    return .call n (named args)

def namedArgument : Nat → Read (String × Expr)
  | 0 => failure
  | fuel + 1 => do
    let n ← spaces *> name
    sign "="
    return (n, ← argument fuel)

def argument : Nat → Read Expr
  | 0 => failure
  | fuel + 1 => logic fuel <|> arrayFiltered fuel

def filter : Nat → Read Filter
  | 0 => failure
  | fuel + 1 => do
    sign "|"
    spaces
    filterCall fuel

def filterCall : Nat → Read Filter
  | 0 => failure
  | fuel + 1 =>
    (do
      match ← call fuel with
      | .call n args => return .mk n args
      | _ => failure) <|>
    (do return .mk (← name) [])

def basicFiltered : Nat → Read Expr
  | 0 => failure
  | fuel + 1 => do
    let .mk t negated filters ← basic fuel
    let more ← many (filter fuel) fuel
    return .mk t negated (filters ++ more)

/-- Texts joined, with filters. -/
def textFiltered : Nat → Read Expr
  | 0 => failure
  | fuel + 1 => do
    let t ← concat fuel <|> (do return Term.text (← spaces *> quoted))
    return .mk t false (← many (filter fuel) fuel)

def concat : Nat → Read Term
  | 0 => failure
  | fuel + 1 => do
    let first ← concatPart fuel
    let more ← many (sign "~" *> concatPart fuel) fuel
    if more.isEmpty then failure else return .concat (first :: more)

def concatPart : Nat → Read Term
  | 0 => failure
  | fuel + 1 =>
    spaces *> (call fuel <|> float <|> int <|> (do return .text (← quoted)) <|>
      (do return .lookup (← way fuel)))

/-- Operators between what filters have been applied to. -/
def calculated : Nat → Read Expr
  | 0 => failure
  | fuel + 1 => do
    let left ← filteredProduct fuel
    chain (mathOp false) (filteredProduct fuel) .math fuel left

def filteredProduct : Nat → Read Expr
  | 0 => failure
  | fuel + 1 => do
    let left ← basicFiltered fuel
    chain (mathOp true) (basicFiltered fuel) .math fuel left

def compared : Nat → Read Expr
  | 0 => failure
  | fuel + 1 => do
    let left ← textFiltered fuel <|> calculated fuel
    (do
      let op ← comparison
      let right ← textFiltered fuel <|> calculated fuel
      return .of (.logic op left right)) <|> pure left

def contained : Nat → Read Expr
  | 0 => failure
  | fuel + 1 => do
    let needle ← textFiltered fuel <|> basicFiltered fuel
    let negated ← (operator "not" *> pure true) <|> pure false
    sign "in"
    let haystack ← textFiltered fuel <|> arrayFiltered fuel <|>
      (do return .of (.lookup (← spaces *> way fuel)))
    return .of (.contained negated needle haystack)

/-- A negation says so itself: one in parentheses counts for nothing. -/
def logicValue : Nat → Read Expr
  | 0 => failure
  | fuel + 1 =>
    (do
      let negated ← (operator "not" *> pure true) <|> pure false
      return (← contained fuel <|> compared fuel).signed negated) <|>
    (do
      sign "("
      let e ← logic fuel
      sign ")"
      return e.signed false)

def conjunction : Nat → Read Expr
  | 0 => failure
  | fuel + 1 => do
    let left ← logicValue fuel
    chain (junction false) (logicValue fuel) .logic fuel left

def logic : Nat → Read Expr
  | 0 => failure
  | fuel + 1 => do
    let left ← conjunction fuel
    chain (junction true) (conjunction fuel) .logic fuel left

def arrayFiltered : Nat → Read Expr
  | 0 => failure
  | fuel + 1 => do
    sign "["
    let items ← separated (logicValue fuel) fuel <|> pure []
    sign "]"
    return .mk (.array items) false (← many (filter fuel) fuel)

end

/-! ## Tags -/

/-- The end of a tag; answers whether the white space after it is removed. -/
def tagEnd : Read Bool := spaces *> (literal "-%\x7d" *> pure true <|> literal "%\x7d" *> pure false)

def variableEnd : Read Bool :=
  spaces *> (literal "-\x7d\x7d" *> pure true <|> literal "\x7d\x7d" *> pure false)

def openings : List String := ["\x7b\x7b", "\x7b%", "\x7b#"]

def opensTag (cs : List Char) : Bool := openings.any fun o => (dropLead? o.toList cs).isSome

/-- Whether a tag starts here that removes the white space before it. -/
def trimsBefore (cs : List Char) : Bool :=
  openings.any fun o => (dropLead? (o ++ "-").toList cs).isSome

/-- The text before the next tag, reversed onto `acc`. -/
def untilTag (acc : List Char) : List Char → List Char × List Char
  | [] => (acc, [])
  | c :: cs => if opensTag (c :: cs) then (acc, c :: cs) else untilTag (c :: acc) cs

/-- A text without the white space at its ends that tags remove. -/
def trimmed (start stop : Bool) (cs : List Char) : String :=
  let cs := if start then dropBlank cs else cs
  String.ofList (if stop then dropBlankEnd cs else cs)

/-- The text up to the end of a comment; answers whether the white space after it is removed. -/
def commentTail : List Char → Option (Bool × List Char)
  | [] => none
  | c :: cs =>
    match dropLead? "-#\x7d".toList (c :: cs), dropLead? "#\x7d".toList (c :: cs) with
    | some rest, _ => some (true, rest)
    | none, some rest => some (false, rest)
    | none, none => commentTail cs

/-- A comment says something; answers whether the white space after it is removed. -/
def comment : Read Bool := do
  literal "\x7b#-" <|> literal "\x7b#"
  fun cs =>
    match cs with
    | c :: rest =>
      if (dropLead? "#\x7d".toList cs).isSome || (dropLead? "-#\x7d".toList cs).isSome then none
      else commentTail (if c = '-' ∨ c = '#' then rest else cs)
    | [] => none

def tagStart : Read Unit := literal "\x7b%-" <|> literal "\x7b%"

/-- The start of a tag, up to its word. -/
def tagWord : Read String := tagStart *> spaces *> name

def bareTag (word : String) : Read Bool := do
  let w ← tagWord
  if w = word then tagEnd else failure

/-- The text up to the tag that ends it, with what trims the text and what follows. -/
def rawText (acc : List Char) : List Char → Option (List Char × Bool × Bool × List Char)
  | [] => none
  | c :: cs =>
    match bareTag "endraw" (c :: cs) with
    | some (after, rest) => some (acc.reverse, trimsBefore (c :: cs), after, rest)
    | none => rawText (c :: acc) cs

/-- Tags that end what another tag has opened. -/
def closers : List String :=
  ["elif", "else", "endif", "endfor", "endfilter", "endblock", "endmacro", "endraw"]

/-- The word of the tag that closes what is open here, if one does. -/
def closer? (cs : List Char) : Option String :=
  match tagWord cs with
  | some (w, _) => if closers.contains w then some w else none
  | none => none

/-- Where a template may say what. -/
structure Scope where
  inLoop : Bool := false
  allowsBlocks : Bool := true
  isTop : Bool := true
  /-- Whether tags remove white space here -/
  trims : Bool := true
  /-- Whether the tag that ends this may be an `else` that removes none -/
  keepsBeforeElse : Bool := false

def literalDefault : Read Term :=
  boolean <|> (do return .text (← quoted)) <|> float <|> int

def parameter : Read (String × Option Term) := do
  let n ← spaces *> name
  (do
    literal "="
    return (n, some (← literalDefault))) <|> return (n, none)

def quotedList (fuel : Nat) : Read (List String) := do
  sign "["
  let names ← separated (spaces *> quoted) fuel <|> pure []
  sign "]"
  return names


/-- Nodes without the white space at their end. -/
def trimLast (nodes : List Node) : List Node :=
  match nodes.getLast? with
  | some (.text t) => nodes.dropLast ++ [.text (trimmed false true t.toList)]
  | _ => nodes

mutual

/-- What a template says up to a tag that closes what was open before. `trim` is whether the white
space here is removed. -/
def nodes : Nat → Scope → Bool → Read (List Node)
  | 0, _, _ => failure
  | fuel + 1, scope, trim => fun cs =>
    match cs with
    | [] => some ([], [])
    | cs =>
      if !opensTag cs then
        let (acc, rest) := untilTag [] cs
        let keeps := scope.keepsBeforeElse && closer? rest == some "else"
        let t := if scope.trims then trimmed trim (trimsBefore rest && !keeps) acc.reverse
          else String.ofList acc.reverse
        (nodes fuel scope false rest).map fun (more, rest) => (.text t :: more, rest)
      else if (closer? cs).isSome then some ([], cs)
      else
        match node fuel scope cs with
        | some ((n, trim), rest) =>
          (nodes fuel scope trim rest).map fun (more, rest) => (n :: more, rest)
        | none => none

/-- One tag, with all that it opens and its end. -/
def node : Nat → Scope → Read (Node × Bool)
  | 0, _ => failure
  | fuel + 1, scope =>
    (do return (.text "", ← comment)) <|>
    (do
      literal "\x7b\x7b-" <|> literal "\x7b\x7b"
      let e ← logic fuel <|> arrayFiltered fuel
      return (.emit e, ← variableEnd)) <|>
    (do
      let w ← tagWord
      tag fuel scope w)

/-- A tag whose word has been read. -/
def tag : Nat → Scope → String → Read (Node × Bool)
  | 0, _, _ => failure
  | fuel + 1, scope, w => do
    let inner : Scope := { scope with isTop := false, keepsBeforeElse := false }
    match w with
    | "raw" =>
      let start ← tagEnd
      let (text, stop, after) ← fun cs =>
        (rawText [] cs).map fun (text, stop, after, rest) => ((text, stop, after), rest)
      return (.text (trimmed start stop text), after)
    | "set" | "set_global" =>
      someSpaces
      let n ← name
      sign "="
      let e ← logic fuel <|> arrayFiltered fuel
      return (.set (w = "set_global") n e, ← tagEnd)
    | "if" =>
      someSpaces
      conditional fuel inner
    | "for" =>
      someSpaces
      let first ← name
      let second ← optional (literal "," *> spaces *> name)
      someSpaces
      literal "in"
      someSpaces
      let container ← basicFiltered fuel <|> textFiltered fuel <|> arrayFiltered fuel
      let trim ← tagEnd
      let looping : Scope := { inner with inLoop := true, allowsBlocks := false }
      let body ← nodes fuel { looping with keepsBeforeElse := scope.trims } trim
      -- nothing is removed from what an `else` starts, and the last one counts
      let others ← many (do
        let _ ← bareTag "else"
        nodes fuel { looping with trims := false } false) fuel
      let otherwise := others.getLast?.getD []
      let stop ← fun cs => some (scope.trims && !others.isEmpty && trimsBefore cs, cs)
      let body := if stop then trimLast body else body
      let after ← bareTag "endfor"
      return match second with
        | some value => (.forLoop (some first) value container body otherwise, after)
        | none => (.forLoop none first container body otherwise, after)
    | "break" => if scope.inLoop then return (.leave true, ← tagEnd) else failure
    | "continue" => if scope.inLoop then return (.leave false, ← tagEnd) else failure
    | "filter" =>
      someSpaces
      let f ← filterCall fuel
      let trim ← tagEnd
      let body ← nodes fuel { inner with inLoop := false, allowsBlocks := true } trim
      return (.filtered f body, ← bareTag "endfilter")
    | "block" =>
      if scope.allowsBlocks then
        someSpaces
        let n ← name
        let trim ← tagEnd
        let body ← nodes fuel { inner with inLoop := false } trim
        return (.block n body, ← namedEnd "endblock")
      else failure
    | "include" =>
      someSpaces
      let names ← (do return [← quoted]) <|> quotedList fuel
      let ignoreMissing ← (sign "ignore" *> sign "missing" *> pure true) <|> pure false
      return (.include_ names ignoreMissing, ← tagEnd)
    | "macro" =>
      if scope.isTop then
        someSpaces
        let n ← name
        sign "("
        let params ← separated parameter fuel <|> pure []
        sign ")"
        let trim ← tagEnd
        let body ← nodes fuel { inner with allowsBlocks := false } trim
        return (.macro_ n params body, ← namedEnd "endmacro")
      else failure
    | _ => failure

/-- A tag at the end of what it names. -/
def namedEnd : String → Read Bool := fun word => do
  let w ← tagWord
  let _ ← optional (someSpaces *> name)
  if w = word then tagEnd else failure

/-- A condition with its bodies, after the word that starts it. -/
def conditional : Nat → Scope → Read (Node × Bool)
  | 0, _ => failure
  | fuel + 1, scope => do
    let test ← logic fuel
    let trim ← tagEnd
    let yes ← nodes fuel scope trim
    match ← tagWord with
    | "elif" =>
      someSpaces
      let (no, after) ← conditional fuel scope
      return (.cond test yes [no], after)
    | "else" =>
      let trim ← tagEnd
      let no ← nodes fuel scope trim
      return (.cond test yes no, ← bareTag "endif")
    | "endif" => return (.cond test yes [], ← tagEnd)
    | _ => failure

end

/-- A template that extends another one says so first. -/
def extends_ : Read Bool := do
  let w ← tagWord
  if w = "extends" then
    someSpaces
    let _ ← quoted
    tagEnd
  else failure

/-- Macros of another template, under a name of their own. -/
def import_ : Read Bool := do
  let w ← tagWord
  if w = "import" then
    someSpaces
    let _ ← quoted
    someSpaces
    literal "as"
    someSpaces
    let _ ← name
    tagEnd
  else failure

/-- Comments come first and remove no white space; then the templates that this one makes use of,
with nothing but white space and comments between them. -/
def template (fuel : Nat) : Read Template := do
  let _ ← many comment fuel
  let extended ← optional extends_
  let imports ← many (many (spaces *> comment) fuel *> spaces *> import_) fuel
  let found ← nodes fuel {} (imports.getLast?.getD (extended.getD false))
  fun cs =>
    if cs.isEmpty then some (⟨found, extended.isSome || !imports.isEmpty⟩, []) else none

end Read

/-- Whether no two macros and no two blocks have one name. -/
def Template.isDistinct (t : Template) (fuel : Nat) : Bool :=
  decide ((macrosOf t.nodes).map (·.1)).Nodup && decide ((blocksOf fuel t.nodes).map (·.1)).Nodup

/-- The template that a source writes; `none` if it writes none. -/
def parse? (source : String) : Option Template :=
  let fuel := 30 * source.length + 1000
  ((Read.template fuel source.toList).map (·.1)).filter (·.isDistinct fuel)

end Tera
end Stencil
