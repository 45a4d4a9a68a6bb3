import Stencil.EngineOptions
import Stencil.Failure
import Stencil.Jinja.Value
import Stencil.Number.Decimal

/-! From the text of a template to its tokens. -/
namespace Stencil
namespace Jinja

/-- How a template is marked up, and what becomes of the white space around blocks. -/
structure Markup where
  delimiters : Delimiters := .standard
  keepTrailingNewline : Bool := true
  trimBlocks : Bool := false
  lstripBlocks : Bool := false

inductive Token where
  | data (s : String)
  | variableStart
  | variableEnd
  | blockStart
  | blockEnd
  | name (s : String)
  | text (s : String)
  | int (n : Nat)
  | float (x : Float)
  | sign (s : String)
  /-- What stands here is no token -/
  | bad (e : TemplateError)
  deriving Inhabited

namespace Token

def malformed (message : String) : Token := .bad (.malformed message)

end Token

namespace Lexer

open Text

/-- What a tag opens. -/
inductive Opening where
  | variable_
  | block
  | comment
  deriving DecidableEq

/-- The sign beside a delimiter: whether the white space next to it is kept as it is or removed. -/
inductive Trim where
  | standard
  | keep
  | remove
  deriving DecidableEq

def trimOf : List Char → Trim × List Char
  | '-' :: cs => (.remove, cs)
  | '+' :: cs => (.keep, cs)
  | cs => (.standard, cs)

def isAsciiBlank (c : Char) : Bool := c == ' ' || c == '\t' || c == '\n' || c == '\r' || c == '\x0c'

def isLineEnd (c : Char) : Bool := c == '\n' || c == '\r'

/-- The opening delimiters, longest first. -/
def openings (d : Delimiters) : List (Opening × List Char) :=
  let all := [(Opening.variable_, d.variableStart.toList), (.block, d.blockStart.toList),
    (.comment, d.commentStart.toList)]
  all.mergeSort fun a b => b.2.length ≤ a.2.length

/-- The longest opening delimiter at the front, and what follows it. -/
def openingAt? (starts : List (Opening × List Char)) (cs : List Char) :
    Option (Opening × List Char) :=
  starts.findSome? fun (o, delimiter) => (dropLead? delimiter cs).map (o, ·)

/-- The text up to the next opening delimiter, reversed onto `acc`, with the delimiter and what
follows it. -/
def findOpening (starts : List (Opening × List Char)) (acc : List Char) :
    List Char → List Char × Option (Opening × List Char)
  | [] => (acc, none)
  | c :: cs =>
    match openingAt? starts (c :: cs) with
    | some found => (acc, some found)
    | none => findOpening starts (c :: acc) cs

/-- Whether only blanks stand between the start of the line and here. `before` is reversed. -/
def atLineStart : List Char → Bool
  | [] => true
  | c :: cs => isLineEnd c || (isBlank c && atLineStart cs)

/-- A text without the blanks after its last line feed, if nothing else stands there. Reversed. -/
def lstrip (reversed : List Char) : List Char :=
  let trimmed := reversed.dropWhile fun c => isBlank c && c != '\n'
  match trimmed with
  | [] => []
  | c :: _ => if c = '\n' then trimmed else reversed

def skipNewline (cs : List Char) : List Char :=
  let cs := match cs with
    | '\r' :: rest => rest
    | cs => cs
  match cs with
  | '\n' :: rest => rest
  | cs => cs

/-- The text before an opening delimiter, as far as it is kept. Both texts are reversed; `before`
is all that was read. -/
def leadText (m : Markup) (o : Opening) (trim : Trim) (lead before : List Char) : List Char :=
  match trim with
  | .remove => lead.dropWhile isBlank
  | .keep => lead
  | .standard =>
    if m.lstripBlocks ∧ o ≠ .variable_ ∧ atLineStart before then lstrip lead else lead

/-- What follows a closing delimiter, as far as it is kept. -/
def tail (m : Markup) (trim : Trim) (cs : List Char) : List Char :=
  match trim with
  | .remove => cs.dropWhile isBlank
  | .keep => cs
  | .standard => if m.trimBlocks then skipNewline cs else cs

def dataTokens (reversed : List Char) : List Token :=
  if reversed.isEmpty then [] else [.data (String.ofList reversed.reverse)]

/-- What follows the name of a tag without arguments, up to its closing delimiter. -/
def bareTag? (name : String) (blockEnd : List Char) (cs : List Char) : Option (Trim × List Char) := do
  let (_, cs) := trimOf cs
  let rest ← dropLead? name.toList (cs.dropWhile isAsciiBlank)
  let (trim, rest) := trimOf (rest.dropWhile isAsciiBlank)
  let rest ← dropLead? blockEnd rest
  some (trim, rest)

/-- The end of a verbatim block: the text before it, reversed, and the signs of its end tag. -/
def findEndRaw (d : Delimiters) (acc : List Char) : List Char →
    Option (List Char × Trim × Trim × List Char)
  | [] => none
  | c :: cs =>
    match dropLead? d.blockStart.toList (c :: cs) with
    | some rest =>
      match bareTag? "endraw" d.blockEnd.toList rest with
      | some (after, left) => some (acc, (trimOf rest).1, after, left)
      | none => findEndRaw d (c :: acc) cs
    | none => findEndRaw d (c :: acc) cs

/-- A verbatim text between its two tags. -/
def rawText (m : Markup) (start stop : Trim) (reversed : List Char) : List Char :=
  let cs := tail m start reversed.reverse
  match stop with
  | .remove => (cs.reverse.dropWhile isBlank).reverse
  | .keep => cs
  | .standard => if m.lstripBlocks then (lstrip cs.reverse).reverse else cs

/-- The end of a comment, with the sign before it. -/
def findCommentEnd (stop : List Char) (previous : Option Char) : List Char →
    Option (Trim × List Char)
  | [] => if stop.isEmpty then some (.standard, []) else none
  | c :: cs =>
    match dropLead? stop (c :: cs) with
    | some rest =>
      some (if previous = some '-' then .remove else if previous = some '+' then .keep
        else .standard, rest)
    | none => findCommentEnd stop (some c) cs

/-! ### Inside a tag -/

/-- The number of an escape: at most so many hexadecimal digits, with a plus sign or without. -/
def coded? (width : Nat) (cs : List Char) : Option (Nat × List Char) :=
  let ds := match cs.take width with
    | '+' :: ds => ds
    | ds => ds
  if ds.isEmpty then none else (hexNumber? ds).map (·, cs.drop width)

def isOctal (c : Char) : Bool := '0' ≤ c && c ≤ '7'

/-- The characters that a text with escapes stands for. -/
def unescape? : Nat → List Char → Option (List Char)
  | 0, _ => none
  | _ + 1, [] => some []
  | fuel + 1, c :: cs =>
    if c ≠ '\\' then (unescape? fuel cs).map (c :: ·)
    else
      match cs with
      | [] => none
      | 'u' :: rest =>
        match coded? 4 rest with
        | none => none
        | some (high, rest) =>
          if 0xD800 ≤ high ∧ high < 0xDC00 then
            match rest with
            | '\\' :: 'u' :: rest =>
              match coded? 4 rest with
              | some (low, rest) =>
                if 0xDC00 ≤ low ∧ low < 0xE000 then
                  (scalar? (0x10000 + (high - 0xD800) * 0x400 + (low - 0xDC00))).bind fun d =>
                    (unescape? fuel rest).map (d :: ·)
                else none
              | none => none
            | _ => none
          else (scalar? high).bind fun d => (unescape? fuel rest).map (d :: ·)
      | 'x' :: rest =>
        match coded? 2 rest with
        | some (n, rest) => (unescape? fuel rest).map (Char.ofNat n :: ·)
        | none => none
      | d :: rest =>
        let simple : Option Char :=
          if d = '"' ∨ d = '\\' ∨ d = '/' ∨ d = '\'' then some d
          else if d = 'b' then some '\x08'
          else if d = 'f' then some '\x0c'
          else if d = 'n' then some '\n'
          else if d = 'r' then some '\r'
          else if d = 't' then some '\t'
          else none
        match simple with
        | some d => (unescape? fuel rest).map (d :: ·)
        | none =>
          -- up to three octal digits; any other character keeps its backslash
          if isOctal d then
            let digits := ((d :: rest).take 3).takeWhile isOctal
            let n := digits.foldl (fun n c => 8 * n + digitValue c) 0
            if n < 256 then (unescape? fuel ((d :: rest).drop digits.length)).map (Char.ofNat n :: ·)
            else none
          else (unescape? fuel rest).map fun cs => '\\' :: d :: cs

/-- The characters up to the quote that closes a text, reversed, and what follows. -/
def quotedSpan (quote : Char) (acc : List Char) : List Char → Option (List Char × List Char)
  | [] => none
  | '\\' :: c :: cs => quotedSpan quote (c :: '\\' :: acc) cs
  | c :: cs => if c = quote then some (acc, cs) else quotedSpan quote (c :: acc) cs

def quotedToken (quote : Char) (cs : List Char) : Token × List Char :=
  match quotedSpan quote [] cs with
  | none => (.malformed "unexpected end of string", [])
  | some (reversed, rest) =>
    let inner := reversed.reverse
    match unescape? (inner.length + 1) inner with
    | some s => (.text (String.ofList s), rest)
    | none => (.bad (.evaluation "bad escape"), [])

/-- How far a number has been read. -/
inductive Part where
  | radix (base : Nat)
  | whole
  | fraction
  | exponent
  | exponentDigits
  deriving DecidableEq

def nextPart? (p : Part) (c : Char) : Option Part :=
  if asciiDigit c then some (if p = .exponent then .exponentDigits else p)
  else if c = '_' then some p
  else
    match p with
    | .radix 16 => if (hexValue? c).isSome then some p else none
    | .whole => if c = 'e' ∨ c = 'E' then some .exponent else none
    | .fraction => if c = 'e' ∨ c = 'E' then some .exponent else none
    | .exponent => if c = '+' ∨ c = '-' then some .exponentDigits else none
    | _ => none

/-- The characters of a number. A point belongs to it if a digit comes next. -/
def numberSpan (p : Part) (acc : List Char) : List Char → Part × List Char × List Char
  | [] => (p, acc.reverse, [])
  | c :: cs =>
    match nextPart? p c with
    | some q => numberSpan q (c :: acc) cs
    | none =>
      if p = .whole ∧ c = '.' ∧ (cs.head?.map asciiDigit).getD false then
        numberSpan .fraction (c :: acc) cs
      else (p, acc.reverse, c :: cs)

/-- A place after a point: digits that no fraction follows. -/
def placeToken (cs : List Char) : Token × List Char :=
  let (ds, rest) := Decimal.spanDigits cs
  (.int (Decimal.natOf ds), rest)

/-- The number that digits write to a base. -/
def inBase? (base : Nat) (digits : List Char) : Option Nat :=
  if digits.isEmpty then none
  else digits.foldl (fun acc c => acc.bind fun n =>
    (hexValue? c).bind fun d => if d < base then some (base * n + d) else none) (some 0)

def floatOf? (digits : List Char) : Option Float :=
  match Decimal.read? (String.ofList digits) with
  | some (.finite x) => some x.toFloat
  | some .notFinite => some (1.0 / 0.0)
  | none => none

def maxInteger : Nat := twoTo 128

def numberToken (cs : List Char) : Token × List Char :=
  let (start, body) : Part × List Char := match cs with
    | '0' :: c :: rest =>
      if c = 'b' ∨ c = 'B' then (.radix 2, rest)
      else if c = 'o' ∨ c = 'O' then (.radix 8, rest)
      else if c = 'x' ∨ c = 'X' then (.radix 16, rest)
      else (.whole, cs)
    | cs => (.whole, cs)
  let (part, digits, rest) := numberSpan start [] body
  if digits.getLast? = some '_' then (.malformed "'_' may not occur at end of number", [])
  else
    let plain := digits.filter (· != '_')
    let whole? := fun base =>
      match inBase? base plain with
      | some n => if n < maxInteger then Token.int n else .malformed "invalid integer (too large)"
      | none => .malformed "invalid integer"
    match part with
    | .radix base => (whole? base, rest)
    | .whole => (whole? 10, rest)
    | _ =>
      match floatOf? plain with
      | some x => (.float x, rest)
      | none => (.malformed "invalid float", [])

def longSigns : List String := ["//", "**", "==", "!=", ">=", "<="]

def shortSigns : List Char := "+-*/%.,:~|=><()[]\x7b\x7d".toList

def isNameStart (c : Char) : Bool := c == '_' || c.isAlpha

def isNameChar (c : Char) : Bool := c == '_' || c.isAlphanum

/-- The token at the front of the inside of a tag. -/
def insideToken (afterPoint : Bool) (cs : List Char) : Token × List Char :=
  match longSigns.findSome? fun s => (dropLead? s.toList cs).map (s, ·) with
  | some (s, rest) => (.sign s, rest)
  | none =>
    match cs with
    | [] => (.malformed "unexpected end of input", [])
    | c :: rest =>
      if shortSigns.contains c then (.sign (String.singleton c), rest)
      else if c = '\'' ∨ c = '"' then quotedToken c rest
      else if asciiDigit c then (if afterPoint then placeToken cs else numberToken cs)
      else if isNameStart c then
        (.name (String.ofList (cs.takeWhile isNameChar)), cs.dropWhile isNameChar)
      else (.malformed "unexpected character", [])

/-- The closing delimiter, with the sign before it. -/
def closing? (delimiter : List Char) (cs : List Char) : Option (Trim × List Char) :=
  let (trim, rest) := trimOf cs
  match (if trim = .standard then none else dropLead? delimiter rest) with
  | some rest => some (trim, rest)
  | none => (dropLead? delimiter cs).map (.standard, ·)

def isPoint : Token → Bool
  | .sign "." => true
  | _ => false

/-- How an open bracket changes the count of those that are open. -/
def balance (t : Token) : Int :=
  match t with
  | .sign s =>
    if s = "(" ∨ s = "[" ∨ s = "\x7b" then 1
    else if s = ")" ∨ s = "]" ∨ s = "\x7d" then -1 else 0
  | _ => 0

/-- Where the lexer is. -/
inductive Mode where
  | outside
  | inside (block : Bool) (open_ : Int) (afterPoint : Bool)

/-- The tokens of the rest of a template; `before` is what comes before it, reversed. -/
def tokens (m : Markup) : Nat → Mode → List Char → List Char → List Token
  | 0, _, _, _ => []
  | _ + 1, _, _, [] => []
  | fuel + 1, .outside, before, cs =>
    let d := m.delimiters
    match findOpening (openings d) [] cs with
    | (lead, none) => dataTokens lead
    | (lead, some (o, rest)) =>
      let before := lead ++ before
      let (trim, inner) := trimOf rest
      let data := dataTokens (leadText m o trim lead before)
      -- what has been read up to a given rest
      let upTo (left : List Char) : List Char :=
        (cs.drop lead.length |>.take (cs.length - lead.length - left.length)).reverse ++ before
      match o with
      | .comment =>
        match findCommentEnd d.commentEnd.toList none inner with
        | none => data ++ [.malformed "unexpected end of comment"]
        | some (trim, rest) =>
          let left := tail m trim rest
          data ++ tokens m fuel .outside (upTo left) left
      | .variable_ => data ++ .variableStart :: tokens m fuel (.inside false 0 false) (upTo inner) inner
      | .block =>
        match bareTag? "raw" d.blockEnd.toList rest with
        | some (start, body) =>
          match findEndRaw d [] body with
          | none => data ++ [.malformed "unexpected end of raw block"]
          | some (text, stop, after, rest) =>
            let left := tail m after rest
            data ++ dataTokens (rawText m start stop text).reverse ++
              tokens m fuel .outside (upTo left) left
        | none => data ++ .blockStart :: tokens m fuel (.inside true 0 false) (upTo inner) inner
  | fuel + 1, .inside block count afterPoint, before, c :: cs =>
    if isAsciiBlank c then tokens m fuel (.inside block count afterPoint) (c :: before) cs
    else
      let d := m.delimiters
      let stop := (if block then d.blockEnd else d.variableEnd).toList
      match (if count = 0 then closing? stop (c :: cs) else none) with
      | some (trim, rest) =>
        let left := if block ∨ trim = .remove then tail m trim rest else rest
        let taken := ((c :: cs).take (cs.length + 1 - left.length)).reverse
        (if block then .blockEnd else .variableEnd) ::
          tokens m fuel .outside (taken ++ before) left
      | none =>
        let (t, left) := insideToken afterPoint (c :: cs)
        let taken := ((c :: cs).take (cs.length + 1 - left.length)).reverse
        match t with
        | .bad _ => [t]
        | t =>
          t :: tokens m fuel (.inside block (count + balance t) (isPoint t)) (taken ++ before) left

end Lexer

/-- A template without the line end at its end. -/
def dropFinalNewline (cs : List Char) : List Char :=
  let reversed := cs.reverse
  let reversed := match reversed with
    | '\n' :: rest => rest
    | cs => cs
  match reversed with
  | '\r' :: rest => rest.reverse
  | cs => cs.reverse

/-- All tokens of a template. -/
def tokensOf (m : Markup) (source : String) : List Token :=
  let cs := source.toList
  let cs := if m.keepTrailingNewline then cs else dropFinalNewline cs
  Lexer.tokens m (2 * cs.length + 2) .outside [] cs

end Jinja
end Stencil
