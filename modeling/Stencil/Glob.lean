import Stencil.Regex.Basic

/-! Glob patterns over the bytes of a path. Only `**` passes a separator. -/
namespace Stencil
namespace Glob

/-- A piece of a pattern. -/
inductive Token where
  | literal (c : Char)
  | anyByte
  | star
  | set (negated : Bool) (ranges : List (Char × Char))
  /-- `**/` at the front -/
  | leading
  /-- `/**` at the end -/
  | trailing
  /-- `/**/` -/
  | between
  | group (branches : Option Regex)

/-- A group that is open: the pieces before it, reversed, and its finished branches. -/
structure Open where
  before : List Token
  branches : List Regex

/-- The bytes of a text, each as one character. -/
def bytesOf (s : String) : List Char := s.toUTF8.toList.map fun b => Char.ofNat b.toNat

def byteSet (c : Char) : CharClass := .single c

def anyByte : Regex := .set (.range 0 255)

def notSeparator : Regex := .set (.outside (.single '/'))

def separator : Regex := .set (.single '/')

def many (r : Regex) : Regex := .repeated r 0 none true

/-- Regular expressions one after the other; `none` for the empty one. -/
def sequence : List Regex → Option Regex
  | [] => none
  | r :: rest =>
    match sequence rest with
    | some s => some (.seq r s)
    | none => some r

/-- A range of characters of more than one byte becomes what its bytes denote one by one. -/
def rangeBytes (r : Char × Char) : List CharClass :=
  if r.1 = r.2 then (bytesOf (String.singleton r.1)).map byteSet
  else
    let low := (bytesOf (String.singleton r.1)).reverse
    let high := bytesOf (String.singleton r.2)
    match low, high with
    | a :: front, b :: back =>
      front.reverse.map byteSet ++ [.range a.toNat b.toNat] ++ back.map byteSet
    | _, _ => []

def Token.regex : Token → List Regex
  | literal c => (bytesOf (String.singleton c)).map fun b => .set (byteSet b)
  | anyByte => [notSeparator]
  | star => [many notSeparator]
  | set negated ranges =>
    let s := CharClass.union (ranges.flatMap rangeBytes)
    [.set (if negated then .outside s else s)]
  | leading =>
    [.alt (.repeated separator 0 (some 1) true) (.seq (many Glob.anyByte) separator)]
  | trailing => [.seq separator (many Glob.anyByte)]
  | between => [.alt separator (.seq separator (.seq (many Glob.anyByte) separator))]
  | group branches => branches.toList

/-- What the pieces of a branch match, in order. -/
def branch (reversed : List Token) : Option Regex := sequence (reversed.reverse.flatMap Token.regex)

/-- An empty branch is no choice. -/
def withBranch (branches : List Regex) (reversed : List Token) : List Regex :=
  match branch reversed with
  | some r => r :: branches
  | none => branches

def choice : List Regex → Option Regex
  | [] => none
  | r :: rest => some (rest.foldl (fun s r => .alt r s) r)

/-- The last character taken before the rest of a pattern. -/
abbrev Previous := Option Char

def isSeparator (c : Option Char) : Bool := c == some '/'

/-- The characters of a class up to its bracket, reversed; `]` and `-` at the front stand for
themselves. Answers `none` if the class is never closed, an error if a range is empty. -/
def classRanges (first inRange : Bool) (ranges : List (Char × Char)) :
    List Char → Except Unit (Option (List (Char × Char) × List Char))
  | [] => .ok none
  | c :: cs =>
    if c = ']' ∧ !first then
      .ok (some ((if inRange then ('-', '-') :: ranges else ranges).reverse, cs))
    else if c = '-' ∧ !first ∧ !inRange then classRanges false true ranges cs
    else
      match inRange, ranges with
      | true, (low, _) :: rest =>
        if c < low then .error () else classRanges false false ((low, c) :: rest) cs
      | _, ranges => classRanges false false ((c, c) :: ranges) cs

def classStart : List Char → Bool × List Char
  | '!' :: cs => (true, cs)
  | '^' :: cs => (true, cs)
  | cs => (false, cs)

/-- What two stars stand for: what becomes of the pieces, and how much of the rest they take. -/
def doubleStar (inGroup : Bool) (previous : Previous) (tokens : List Token) (cs : List Char) :
    List Token × List Char :=
  let twoStars := (Token.star :: .star :: tokens, cs)
  if tokens.isEmpty then
    match cs with
    | [] => ([.leading], [])
    | '/' :: rest => ([.leading], rest)
    | _ => twoStars
  else if !isSeparator previous ∧ (!inGroup ∨ (previous != some ',' ∧ previous != some '\x7b')) then
    twoStars
  else
    let replaceLast (piece : Token) : List Token :=
      match tokens with
      | .leading :: rest => .leading :: rest
      | .trailing :: rest => .trailing :: rest
      | _ :: rest => piece :: rest
      | [] => [piece]
    match cs with
    | [] => (replaceLast .trailing, [])
    | c :: rest =>
      if inGroup ∧ (c = ',' ∨ c = '\x7d') then (replaceLast .trailing, cs)
      else if c = '/' then (replaceLast .between, rest)
      else twoStars

/-- Read a pattern. A bracket that is never closed stands for itself, and so does every later one;
`literalBrackets` says that this has been found. -/
def readTokens : Nat → List Open → Bool → Previous → List Token → List Char →
    Except Unit (List Token)
  | 0, _, _, _, _, _ => .error ()
  | _ + 1, stack, _, _, tokens, [] => if stack.isEmpty then .ok tokens else .error ()
  | fuel + 1, stack, literalBrackets, previous, tokens, c :: cs =>
    if c = '?' then readTokens fuel stack literalBrackets (some c) (.anyByte :: tokens) cs
    else if c = '*' then
      match cs with
      | '*' :: rest =>
        let (tokens, left) := doubleStar (!stack.isEmpty) previous tokens rest
        let taken := if left.length < rest.length then '/' else '*'
        readTokens fuel stack literalBrackets (some taken) tokens left
      | cs => readTokens fuel stack literalBrackets (some c) (.star :: tokens) cs
    else if c = '[' ∧ !literalBrackets then
      let (negated, inner) := classStart cs
      match classRanges true false [] inner with
      | .error () => .error ()
      | .ok none => readTokens fuel stack true (some c) (.literal '[' :: tokens) cs
      | .ok (some (ranges, rest)) =>
        readTokens fuel stack literalBrackets (some ']') (.set negated ranges :: tokens) rest
    else if c = '\x7b' then
      readTokens fuel (⟨tokens, []⟩ :: stack) literalBrackets (some c) [] cs
    else if c = '\x7d' then
      match stack with
      | [] => .error ()
      | opened :: stack =>
        let r := choice (withBranch opened.branches tokens)
        readTokens fuel stack literalBrackets (some c) (.group r :: opened.before) cs
    else if c = ',' then
      match stack with
      | [] => readTokens fuel [] literalBrackets (some c) (.literal ',' :: tokens) cs
      | opened :: stack =>
        let opened := { opened with branches := withBranch opened.branches tokens }
        readTokens fuel (opened :: stack) literalBrackets (some c) [] cs
    else if c = '\\' then
      match cs with
      | [] => .error ()
      | d :: rest => readTokens fuel stack literalBrackets (some d) (.literal d :: tokens) rest
    else readTokens fuel stack literalBrackets (some c) (.literal c :: tokens) cs

def isLiteral : Token → Bool
  | .literal _ => true
  | _ => false

def isSlash : Token → Bool
  | .literal c => c == '/'
  | _ => false

/-- A pattern is about the last name of a path if it ends in a point and is not the text of a path or
of the end of one. -/
def aboutName (reversed : List Token) : Bool :=
  match reversed, reversed.reverse with
  | .literal '.' :: _, .leading :: rest => !rest.all isLiteral || !rest.any isSlash
  | .literal '.' :: _, tokens => !tokens.all isLiteral
  | _, _ => false

/-- What a path has to match, and whether its last name has to be known for that. -/
structure Pattern where
  expression : Regex
  aboutName : Bool

/-- The expression that a whole path has to match. A lone `**` matches all paths. -/
def read (pattern : List Char) : Except Unit Pattern :=
  match readTokens (pattern.length + 1) [] false none [] pattern with
  | .error () => .error ()
  | .ok [.leading] => .ok ⟨many anyByte, false⟩
  | .ok tokens => .ok ⟨(branch tokens).getD .empty, aboutName tokens⟩

/-- The parent of a directory is a path without a last name. -/
def isNameless (path : String) : Bool :=
  (path.toList.reverse.takeWhile (· ≠ '/')) = ['.', '.']

/-- Whether the pattern matches the path as a whole. -/
def accepts (p : Pattern) (path : String) : Bool :=
  !(p.aboutName && isNameless path) &&
    (p.expression.ends (.start (bytesOf path))).any fun c => c.after.isEmpty

end Glob
end Stencil
