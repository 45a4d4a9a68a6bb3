import Stencil.Script.Tree
import Stencil.Text.Blank

/-! The text of commands as it is being read. -/
namespace Stencil
namespace Script

open Text

/-- Why a text cannot be read, and the line on which that shows. -/
structure Fault where
  line : Nat
  message : String
  deriving Repr, Inhabited

/-- The smallest pieces that commands are made of. -/
inductive Token where
  | word (w : Word)
  | keyword (s : String)
  | operator (s : String)
  /-- The sign of a redirection, after a digit if it has one -/
  | redirection (stream : Option Nat) (sign : String)
  | newline
  | stop
  deriving Inhabited

/-- A document that begins after the line. -/
structure Awaited where
  number : Nat
  /-- The line that ends it -/
  last : List Char
  expands : Bool
  /-- Tabs at the front of a line do not count -/
  indented : Bool

structure Source where
  rest : List Char
  line : Nat := 1
  /-- A token that has been taken back -/
  held : Option Token := none
  awaited : List Awaited := []
  /-- The documents read so far, by number -/
  documents : List (Nat × Word) := []
  /-- How many documents there are, those that are awaited among them -/
  count : Nat := 0

abbrev Reading := StateT Source (Except Fault)

def isNameStart (c : Char) : Bool := c == '_' || c.isAlpha

def isNameChar (c : Char) : Bool := c == '_' || c.isAlphanum

def isName : List Char → Bool
  | [] => false
  | c :: cs => isNameStart c && cs.all isNameChar

def isSpecial (c : Char) : Bool := "!*@#?-$".toList.contains c || asciiDigit c

/-- Characters that end a word. -/
def endsWord (c : Char) : Bool := " \t\n;&|<>()".toList.contains c

/-- The text of a word in which nothing is quoted or expanded. -/
def plain? : Word → Option (List Char)
  | [] => some []
  | .text cs false :: rest => (plain? rest).map (cs ++ ·)
  | _ => none

def keywords : List String :=
  ["!", "case", "do", "done", "elif", "else", "esac", "fi", "for", "if", "in", "then", "until",
    "while", "\x7b", "\x7d"]

namespace Token

/-- How a token is called in a message. -/
def name : Token → String
  | word _ => "word"
  | keyword s | operator s => "\"" ++ s ++ "\""
  | redirection .. => "redirection"
  | newline => "newline"
  | stop => "end of file"

/-- A word that means something where a command may begin. -/
def asKeyword : Token → Token
  | word w =>
    match (plain? w).map String.ofList with
    | some s => if keywords.contains s then keyword s else word w
    | none => word w
  | t => t

def isOperator (t : Token) (s : String) : Bool :=
  match t with
  | operator o => o == s
  | _ => false

def isKeyword (t : Token) (s : String) : Bool :=
  match t with
  | keyword k => k == s
  | _ => false

/-- Whether a list of commands ends before this token. -/
def endsList : Token → Bool
  | stop => true
  | operator s => s == ")" || s == ";;"
  | keyword s => ["do", "done", "elif", "else", "esac", "fi", "then", "\x7d"].contains s
  | _ => false

/-- The word that a token is, if any. -/
def asWord : Token → Word
  | word w => w
  | keyword s => [.text s.toList false]
  | _ => []

end Token

namespace Reading

def fault (message : String) : Reading α := fun s => .error ⟨s.line, message⟩

/-- A token that cannot stand where it does, and the one that could. -/
def unexpected (t : Token) (wanted : Option Token := none) : Reading α :=
  fault (t.name ++ " unexpected" ++
    match wanted with
    | some w => " (expecting " ++ w.name ++ ")"
    | none => "")

/-- Lines that go on are one line. Answers how many ends of lines were passed. -/
def joinLines : Nat → List Char → Nat × List Char
  | n, '\\' :: '\n' :: cs => joinLines (n + 1) cs
  | n, cs => (n, cs)

/-- The character in front. -/
def current : Reading (Option Char) := fun s =>
  let (n, rest) := joinLines 0 s.rest
  .ok (rest.head?, { s with rest, line := s.line + n })

/-- Pass the character in front. -/
def advance : Reading Unit := modify fun s =>
  { s with
    rest := s.rest.tail
    line := if s.rest.head? = some '\n' then s.line + 1 else s.line }

/-- Pass a character if it is the one in front. -/
def accept (c : Char) : Reading Bool := do
  if (← current) = some c then
    advance
    return true
  else return false

/-- Pass the characters in front that have a property. -/
def takeWhile (p : Char → Bool) : Reading (List Char) := do
  let cs := (← get).rest.takeWhile p
  modify fun s => { s with rest := s.rest.dropWhile p }
  return cs

def hold (t : Token) : Reading Unit := modify fun s => { s with held := some t }

/-- The text up to an apostrophe, as it is. -/
def singleQuoted : Reading (List Char) := do
  match cutAt '\'' (← get).rest with
  | none =>
    modify fun s => { s with line := s.line + s.rest.count '\n' }
    fault "Unterminated quoted string"
  | some (cs, rest) =>
    modify fun s => { s with rest, line := s.line + cs.count '\n' }
    return cs

/-- The text up to a backquote. With `quoted` a double quote may be escaped in it. -/
def backquoted (quoted : Bool) : Nat → List Char → Reading (List Char)
  | 0, _ => fault "EOF in backquote substitution"
  | fuel + 1, acc => do
    match ← current with
    | none => fault "EOF in backquote substitution"
    | some '\x60' =>
      advance
      return acc.reverse
    | some '\\' =>
      advance
      match (← get).rest.head? with
      | none => fault "EOF in backquote substitution"
      | some c =>
        advance
        if c = '\\' ∨ c = '\x60' ∨ c = '$' ∨ (quoted ∧ c = '"') then backquoted quoted fuel (c :: acc)
        else backquoted quoted fuel (c :: '\\' :: acc)
    | some c =>
      advance
      backquoted quoted fuel (c :: acc)

/-- The sign of a redirection that begins with the character in front. -/
def redirectionSign : Reading String := do
  if ← accept '>' then
    if ← accept '>' then return ">>"
    else if ← accept '|' then return ">|"
    else if ← accept '&' then return ">&"
    else return ">"
  else
    let _ ← accept '<'
    if ← accept '<' then
      if ← accept '-' then return "<<-" else return "<<"
    else if ← accept '&' then return "<&"
    else if ← accept '>' then return "<>"
    else return "<"

/-- A line with the end it has, and what comes after it. -/
def cutLine (cs : List Char) : List Char × List Char × List Char :=
  match cutAt '\n' cs with
  | some (l, rest) => (l, ['\n'], rest)
  | none => (cs, [], [])

/-- Whether the end of a line is escaped. -/
def goesOn (l : List Char) : Bool := (l.reverse.takeWhile (· == '\\')).length % 2 == 1

/-- The lines of a document, and what comes after its last one. `inside` says that a line goes on
from the one before. -/
def documentLines (a : Awaited) : Nat → Bool → List Char → List Char × List Char
  | 0, _, cs => ([], cs)
  | _ + 1, _, [] => ([], [])
  | fuel + 1, inside, cs =>
    let (l, ending, rest) := cutLine (if a.indented then cs.dropWhile (· == '\t') else cs)
    if !inside && l == a.last then ([], rest)
    else
      let (more, rest) := documentLines a fuel (a.expands && goesOn l) rest
      (l ++ ending ++ more, rest)

/-- An assignment: a name, `=` and a word. -/
def assignment? (w : Word) : Option (String × Word) :=
  let lead := (w.takeWhile fun
    | .text _ false => true
    | _ => false)
  match (plain? lead).bind (cutAt '=') with
  | some (name, value) =>
    if isName name then some (String.ofList name, .text value false :: w.drop lead.length) else none
  | none => none

end Reading
end Script
end Stencil
