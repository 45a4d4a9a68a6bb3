import Stencil.Text.Blank
import Stencil.Text.Utf8

/-! From the text of a document to its tokens. Indentation becomes tokens of its own. -/
namespace Stencil
namespace Yaml

inductive Token where
  | version (major minor : Nat)
  | tagHandle (handle start : String)
  | documentStart
  | documentEnd
  | blockSequenceStart
  | blockMappingStart
  | blockEnd
  | flowSequenceStart
  | flowSequenceEnd
  | flowMappingStart
  | flowMappingEnd
  | blockEntry
  | flowEntry
  | key
  | value
  | alias_ (name : String)
  | anchor (name : String)
  | tag (handle suffix : String)
  | scalar (s : String) (plain : Bool)
  deriving DecidableEq, Repr, Inhabited

/-- Where a key may have begun without a sign. -/
structure PendingKey where
  possible : Bool := false
  /-- Nothing but a key can stand there -/
  required : Bool := false
  /-- Its place among the tokens -/
  place : Nat := 0
  index : Nat := 0
  line : Nat := 0
  column : Nat := 0
  deriving Inhabited

structure Scanner where
  rest : List Char
  index : Nat := 0
  line : Nat := 0
  column : Nat := 0
  /-- The column of the innermost block, and those around it -/
  indent : Int := -1
  indents : List Int := []
  flow : Nat := 0
  keyAllowed : Bool := true
  /-- One for each level of flow, the innermost first -/
  keys : List PendingKey := [{}]
  tokens : Array Token := #[]

/-- A step of scanning; there is only one kind of failure. -/
abbrev Scan := StateT Scanner Option

namespace Scan

open Text

def isBreak (c : Char) : Bool :=
  c == '\n' || c == '\r' || c == '\u0085' || c == '\u2028' || c == '\u2029'

def isBlank (c : Char) : Bool := c == ' ' || c == '\t'

/-- White space, a line end, or the end of the text. -/
def endsWord : Option Char → Bool
  | none => true
  | some c => isBlank c || isBreak c

def isNameChar (c : Char) : Bool := c == '_' || c == '-' || c.isAlphanum

def ahead (n : Nat) : Scan (Option Char) := do return (← get).rest[n]?

def isAhead (n : Nat) (p : Char → Bool) : Scan Bool := do
  match ← ahead n with
  | some c => return p c
  | none => return false

/-- Skip characters none of which ends a line. -/
def skip (n : Nat) : Scan Unit :=
  modify fun s => { s with rest := s.rest.drop n, index := s.index + n, column := s.column + n }

/-- The characters in front that are of one kind, none of which ends a line. -/
def take (p : Char → Bool) : Scan (List Char) := do
  let found := (← get).rest.takeWhile p
  skip found.length
  return found

/-- The end of the line, if it is here, as it counts in a text. -/
def lineEnd : Scan (List Char) := do
  let s ← get
  let after := fun (n : Nat) => { s with
    rest := s.rest.drop n, index := s.index + n, line := s.line + 1, column := 0 }
  match s.rest with
  | '\r' :: '\n' :: _ =>
    set (after 2)
    return ['\n']
  | c :: _ =>
    if isBreak c then
      set (after 1)
      return [if c == '\u2028' || c == '\u2029' then c else '\n']
    else return []
  | [] => return []

def push (t : Token) : Scan Unit := modify fun s => { s with tokens := s.tokens.push t }

/-- Put a token before others that are there already. -/
def insertAt (place : Nat) (t : Token) : Scan Unit :=
  modify fun s =>
    let all := s.tokens.toList
    { s with tokens := (all.take place ++ t :: all.drop place).toArray }

def allowKey (allowed : Bool) : Scan Unit := modify fun s => { s with keyAllowed := allowed }

/-! ## Pending keys and indentation -/

def setKey (k : PendingKey) : Scan Unit :=
  modify fun s => { s with keys := k :: s.keys.drop 1 }

/-- A key ends on its line and is not too long. -/
def isStale (s : Scanner) (k : PendingKey) : Bool :=
  k.possible && (k.line < s.line || k.index + 1024 < s.index)

/-- Forget keys that have become impossible. -/
def dropStaleKeys : Scan Unit := do
  let s ← get
  if s.keys.any fun k => isStale s k && k.required then failure
  else set { s with keys := s.keys.map fun k => if isStale s k then { k with possible := false } else k }

def dropKey : Scan Unit := do
  let k := (← get).keys.headD {}
  if k.possible && k.required then failure else setKey { k with possible := false }

/-- A key may begin here. -/
def saveKey : Scan Unit := do
  let s ← get
  if s.keyAllowed then
    dropKey
    setKey ⟨true, s.flow = 0 && s.indent = s.column, s.tokens.size, s.index, s.line, s.column⟩

/-- A block begins at a column if that lies deeper. -/
def openBlock (column : Nat) (place : Option Nat) (t : Token) : Scan Unit := do
  let s ← get
  if s.flow = 0 ∧ s.indent < column then
    set { s with indent := column, indents := s.indent :: s.indents }
    match place with
    | some n => insertAt n t
    | none => push t

def closeBlocksFrom (column : Int) : Nat → Scan Unit
  | 0 => return ()
  | fuel + 1 => do
    let s ← get
    if column < s.indent then
      set { s with indent := s.indents.headD (-1), indents := s.indents.drop 1 }
      push .blockEnd
      closeBlocksFrom column fuel

/-- Blocks that lie deeper than a column end. -/
def closeBlocks (column : Int) : Scan Unit := do
  let s ← get
  if s.flow = 0 then closeBlocksFrom column (s.indents.length + 1)

/-! ## White space -/

/-- Skip to the next token: white space, comments and line ends. -/
def toToken : Nat → Scan Unit
  | 0 => failure
  | fuel + 1 => do
    let s ← get
    let tabs := s.flow ≠ 0 || !s.keyAllowed
    let _ ← take fun c => c == ' ' || (tabs && c == '\t')
    if ← isAhead 0 (· == '#') then
      let _ ← take fun c => !isBreak c
    if ← isAhead 0 isBreak then
      let _ ← lineEnd
      if (← get).flow = 0 then allowKey true
      toToken fuel

/-- Whether three equal signs stand at the start of the line, and nothing with them. -/
def isIndicator (sign : Char) : Scan Bool := do
  let s ← get
  return s.column = 0 && s.rest.take 3 == [sign, sign, sign] && endsWord s.rest[3]?

def isDocumentIndicator : Scan Bool := do return (← isIndicator '-') || (← isIndicator '.')

/-- Nothing but a comment is left of the line. -/
def finishLine : Scan Unit := do
  let _ ← take isBlank
  if ← isAhead 0 (· == '#') then
    let _ ← take fun c => !isBreak c
  match ← ahead 0 with
  | none => return ()
  | some c => if isBreak c then let _ ← lineEnd else failure

/-! ## Names and tags -/

def number : Scan Nat := do
  let digits ← take asciiDigit
  if digits.isEmpty ∨ 9 < digits.length then failure
  else return digits.foldl (fun n c => 10 * n + digitValue c) 0

def isUriChar (inUri : Bool) (c : Char) : Bool :=
  isNameChar c || ";/?:@&=+$.%!~*'()".toList.contains c || (inUri && ",[]".toList.contains c)

/-- A text in which bytes may be written by their numbers. -/
def decodeUri : List Char → Option (List UInt8)
  | [] => some []
  | '%' :: a :: b :: cs =>
    match hexNumber? [a, b] with
    | some n => (decodeUri cs).map (n.toUInt8 :: ·)
    | none => none
  | '%' :: _ => none
  | c :: cs => (decodeUri cs).map ((String.singleton c).toUTF8.toList ++ ·)

def uri (inUri : Bool) : Scan (List Char) := do
  let found ← take (isUriChar inUri)
  match decodeUri found with
  | none => failure
  | some bytes =>
    match String.fromUTF8? ⟨bytes.toArray⟩ with
    | some s => return s.toList
    | none => failure

/-- An exclamation mark, a name and perhaps another mark. -/
def tagHandle : Scan (List Char) := do
  if !(← isAhead 0 (· == '!')) then failure
  skip 1
  let name ← take isNameChar
  if ← isAhead 0 (· == '!') then
    skip 1
    return '!' :: name ++ ['!']
  else return '!' :: name

def directive : Scan Unit := do
  skip 1
  let name ← take isNameChar
  if name.isEmpty || !endsWord (← ahead 0) then failure
  let _ ← take isBlank
  if name = "YAML".toList then
    let major ← number
    if !(← isAhead 0 (· == '.')) then failure
    skip 1
    push (.version major (← number))
  else if name = "TAG".toList then
    let handle ← tagHandle
    if handle ≠ ['!'] ∧ handle.getLast? ≠ some '!' then failure
    if !(← isAhead 0 isBlank) then failure
    let _ ← take isBlank
    let start ← uri true
    if start.isEmpty || !endsWord (← ahead 0) then failure
    push (.tagHandle (String.ofList handle) (String.ofList start))
  else failure
  finishLine

def anchorName : Scan String := do
  skip 1
  let name ← take isNameChar
  let ended := match ← ahead 0 with
    | none => true
    | some c => isBlank c || isBreak c || "?:,]\x7d%@\x60".toList.contains c
  if name.isEmpty || !ended then failure else return String.ofList name

def tagToken : Scan Token := do
  let (handle, suffix) ←
    if ← isAhead 1 (· == '<') then
      skip 2
      let suffix ← uri true
      if suffix.isEmpty || !(← isAhead 0 (· == '>')) then failure
      skip 1
      pure ([], suffix)
    else
      let handle ← tagHandle
      if 1 < handle.length ∧ handle.getLast? = some '!' then
        let suffix ← uri false
        if suffix.isEmpty then failure
        pure (handle, suffix)
      else
        let suffix := handle.drop 1 ++ (← uri false)
        pure (if suffix.isEmpty then ([], ['!']) else (['!'], suffix))
  let next ← ahead 0
  if endsWord next || ((← get).flow ≠ 0 && next = some ',') then
    return .tag (String.ofList handle) (String.ofList suffix)
  else failure

/-! ## Scalars -/

inductive Chomping where
  | strip
  | clip
  | keep
  deriving DecidableEq

def chomping? : Option Char → Option Chomping
  | some '+' => some .keep
  | some '-' => some .strip
  | _ => none

def indentDigit : Scan (Option Nat) := do
  match ← ahead 0 with
  | some c =>
    if c = '0' then failure
    else if asciiDigit c then
      skip 1
      return some (digitValue c)
    else return none
  | none => return none

/-- How a block scalar ends and how deep it lies, in either order. -/
def blockHeader : Scan (Chomping × Option Nat) := do
  match chomping? (← ahead 0) with
  | some chomping =>
    skip 1
    return (chomping, ← indentDigit)
  | none =>
    let digit ← indentDigit
    match digit, chomping? (← ahead 0) with
    | some _, some chomping =>
      skip 1
      return (chomping, digit)
    | _, _ => return (.clip, digit)

/-- Empty lines before a line of a block scalar. While the indentation is not known, it is that of
the deepest line. -/
def blockBreaks (indent : Option Nat) (deepest : Nat) (breaks : List Char) :
    Nat → Scan (Nat × List Char)
  | 0 => failure
  | fuel + 1 => do
    let column := (← get).column
    let room := (indent.map (· - column)).getD (← get).rest.length
    let spaces := ((← get).rest.take room).takeWhile (· == ' ')
    skip spaces.length
    let s ← get
    let deepest := max deepest s.column
    if (indent.all fun n => s.column < n) && (← isAhead 0 (· == '\t')) then failure
    if ← isAhead 0 isBreak then
      let ended ← lineEnd
      blockBreaks indent deepest (breaks ++ ended) fuel
    else
      match indent with
      | some n => return (n, breaks)
      | none => return (max deepest (max (s.indent + 1) 1).toNat, breaks)

/-- The lines of a block scalar, from the start of one on. `leading` is the line end before it,
`trailing` the empty lines after that. -/
def blockLines (literal : Bool) (indent : Nat) (acc leading trailing : List Char)
    (leadingBlank : Bool) : Nat → Scan (List Char × List Char × List Char)
  | 0 => failure
  | fuel + 1 => do
    let s ← get
    if s.column = indent ∧ !s.rest.isEmpty then
      let blank ← isAhead 0 isBlank
      let folded := !literal && leading == ['\n'] && !leadingBlank && !blank
      let joint := if folded then (if trailing.isEmpty then [' '] else []) else leading
      let line ← take fun c => !isBreak c
      let ended ← lineEnd
      let (_, breaks) ← blockBreaks (some indent) 0 [] (s.rest.length + 1)
      blockLines literal indent (acc ++ joint ++ trailing ++ line) ended breaks blank fuel
    else return (acc, leading, trailing)

def blockScalar (literal : Bool) : Scan Token := do
  skip 1
  let (chomping, digit) ← blockHeader
  finishLine
  let s ← get
  let given := digit.map fun n => if 0 ≤ s.indent then s.indent.toNat + n else n
  let (indent, breaks) ← blockBreaks given 0 [] (s.rest.length + 1)
  let (text, leading, trailing) ←
    blockLines literal indent [] [] breaks false (s.rest.length + 1)
  let text := match chomping with
    | .strip => text
    | .clip => text ++ leading
    | .keep => text ++ leading ++ trailing
  return .scalar (String.ofList text) false

/-- The lines between two words become one space, or the line ends after the first. -/
def foldBreaks (leading trailing : List Char) : List Char :=
  if leading = ['\n'] then (if trailing.isEmpty then [' '] else trailing) else leading ++ trailing

/-- White space with line ends: what it amounts to on one line, the first line end, and the others.
`began` is whether a line has ended already. Tabs may be refused in front of a word. -/
def whiteSpace (refusesTab : Nat → Bool) (began : Bool) (blanks leading trailing : List Char) :
    Nat → Scan (Bool × List Char × List Char × List Char)
  | 0 => failure
  | fuel + 1 => do
    match ← ahead 0 with
    | none => return (began, blanks, leading, trailing)
    | some c =>
      if isBlank c then
        if began && c == '\t' && refusesTab (← get).column then failure
        skip 1
        whiteSpace refusesTab began (if began then blanks else blanks ++ [c]) leading trailing fuel
      else if isBreak c then
        let ended ← lineEnd
        if began then whiteSpace refusesTab true blanks leading (trailing ++ ended) fuel
        else whiteSpace refusesTab true [] ended trailing fuel
      else return (began, blanks, leading, trailing)

def escapeCode? (c : Char) : Option Nat :=
  match c with
  | '0' => some 0
  | 'a' => some 7
  | 'b' => some 8
  | 't' | '\t' => some 9
  | 'n' => some 10
  | 'v' => some 11
  | 'f' => some 12
  | 'r' => some 13
  | 'e' => some 27
  | ' ' => some 32
  | '"' => some 34
  | '/' => some 47
  | '\\' => some 92
  | 'N' => some 0x85
  | '_' => some 0xA0
  | 'L' => some 0x2028
  | 'P' => some 0x2029
  | _ => none

/-- How many digits write a character after an escape. -/
def codeLength? (c : Char) : Option Nat :=
  match c with
  | 'x' => some 2
  | 'u' => some 4
  | 'U' => some 8
  | _ => none

/-- The character that an escape stands for. -/
def escaped : Scan Char := do
  skip 1
  match ← ahead 0 with
  | none => failure
  | some c =>
    match escapeCode? c, codeLength? c with
    | some n, _ =>
      skip 1
      return Char.ofNat n
    | none, some n =>
      skip 1
      let digits := (← get).rest.take n
      if digits.length < n then failure
      match (hexNumber? digits).bind scalar? with
      | some d =>
        skip n
        return d
      | none => failure
    | none, none => failure

/-- The characters of a quoted scalar up to white space or the closing quote; answers whether a
line end was escaped. -/
def quotedWord (single : Bool) (acc : List Char) : Nat → Scan (List Char × Bool)
  | 0 => failure
  | fuel + 1 => do
    match (← get).rest with
    | [] => return (acc, false)
    | c :: rest =>
      if isBlank c ∨ isBreak c then return (acc, false)
      else if single then
        if c = '\'' then
          if rest.head? = some '\'' then
            skip 2
            quotedWord single (acc ++ [c]) fuel
          else return (acc, false)
        else
          skip 1
          quotedWord single (acc ++ [c]) fuel
      else if c = '"' then return (acc, false)
      else if c = '\\' then
        if rest.head?.any isBreak then
          skip 1
          let _ ← lineEnd
          return (acc, true)
        else
          let d ← escaped
          quotedWord single (acc ++ [d]) fuel
      else
        skip 1
        quotedWord single (acc ++ [c]) fuel

def quotedText (single : Bool) (acc : List Char) : Nat → Scan (List Char)
  | 0 => failure
  | fuel + 1 => do
    if ← isDocumentIndicator then failure
    let size := (← get).rest.length + 1
    if size = 1 then failure
    let (acc, joined) ← quotedWord single acc size
    if ← isAhead 0 (· == if single then '\'' else '"') then
      skip 1
      return acc
    else
      let (began, blanks, leading, trailing) ←
        whiteSpace (fun _ => false) joined [] [] [] size
      quotedText single (acc ++ if began then foldBreaks leading trailing else blanks) fuel

/-- Whether a plain scalar ends at the front of a text. -/
def endsPlain (flow : Bool) : List Char → Bool
  | [] => true
  | c :: rest =>
    isBlank c || isBreak c || (c == ':' && endsWord rest.head?) ||
      (flow && ",[]\x7b\x7d".toList.contains c)

/-- A colon that is no sign of a value, before a sign of flow. -/
def isStrayColon (flow : Bool) : List Char → Bool
  | ':' :: c :: _ => flow && ",?[]\x7b\x7d".toList.contains c
  | _ => false

def plainWord (flow : Bool) (acc : List Char) : List Char → Option (List Char)
  | [] => some acc.reverse
  | c :: rest =>
    if isBlank c ∨ isBreak c then some acc.reverse
    else if isStrayColon flow (c :: rest) then none
    else if endsPlain flow (c :: rest) then some acc.reverse
    else plainWord flow (c :: acc) rest

/-- The rest of a plain scalar. `joint` is what stands before its next word; answers also whether
it was followed by a line end. -/
def plainText (acc joint : List Char) (began : Bool) : Nat → Scan (List Char × Bool)
  | 0 => failure
  | fuel + 1 => do
    let s ← get
    let flow := s.flow ≠ 0
    if (← isDocumentIndicator) || (← isAhead 0 (· == '#')) then return (acc, began)
    else
      match plainWord flow [] s.rest with
      | none => failure
      | some word =>
        skip word.length
        let acc := if word.isEmpty then acc else acc ++ joint ++ word
        let began := began && word.isEmpty
        match ← ahead 0 with
        | none => return (acc, began)
        | some c =>
          if isBlank c ∨ isBreak c then
            let (began, blanks, leading, trailing) ←
              whiteSpace (fun column => (column : Int) < s.indent + 1) began [] [] []
                (s.rest.length + 1)
            let after ← get
            if !flow ∧ (after.column : Int) < s.indent + 1 then return (acc, began)
            else
              plainText acc (if began then foldBreaks leading trailing else blanks) began fuel
          else return (acc, began)

def plainScalar : Scan Token := do
  let size := (← get).rest.length + 1
  let (text, began) ← plainText [] [] false size
  if began then allowKey true
  return .scalar (String.ofList text) true

/-! ## Tokens -/

/-- A token that may begin a key, and after which no key begins. -/
def word (t : Scan Token) : Scan Unit := do
  saveKey
  allowKey false
  push (← t)

def flowStart (t : Token) : Scan Unit := do
  saveKey
  modify fun s => { s with keys := {} :: s.keys, flow := s.flow + 1, keyAllowed := true }
  skip 1
  push t

def flowEnd (t : Token) : Scan Unit := do
  dropKey
  modify fun s =>
    if s.flow = 0 then s else { s with keys := s.keys.drop 1, flow := s.flow - 1 }
  allowKey false
  skip 1
  push t

def flowEntry : Scan Unit := do
  dropKey
  allowKey true
  skip 1
  push .flowEntry

/-- In a block, a sign needs a place where a key may stand. -/
def openFor (t : Token) : Scan Unit := do
  let s ← get
  if s.flow = 0 then
    if s.keyAllowed then openBlock s.column none t else failure

def blockEntry : Scan Unit := do
  openFor .blockSequenceStart
  dropKey
  allowKey true
  skip 1
  push .blockEntry

def keySign : Scan Unit := do
  openFor .blockMappingStart
  dropKey
  allowKey ((← get).flow = 0)
  skip 1
  push .key

/-- The sign of a value turns what stands before it into a key. -/
def valueSign : Scan Unit := do
  let s ← get
  let k := s.keys.headD {}
  if k.possible then
    insertAt k.place .key
    openBlock k.column (some k.place) .blockMappingStart
    setKey { k with possible := false }
    allowKey false
  else
    openFor .blockMappingStart
    allowKey (s.flow = 0)
  skip 1
  push .value

def directiveLine : Scan Unit := do
  closeBlocks (-1)
  dropKey
  allowKey false
  directive

def documentSign (t : Token) : Scan Unit := do
  closeBlocks (-1)
  dropKey
  allowKey false
  skip 3
  push t

def startsPlain (flow : Bool) (c : Char) (next : Option Char) : Bool :=
  if c = '-' then !(next.any isBlank)
  else if c = '?' ∨ c = ':' then !flow && !endsWord next
  else !(" \t-?:,[]\x7b\x7d#&*!|>'\"%@\x60".toList.contains c)

/-- The next token; answers whether the text has ended. -/
def token : Scan Bool := do
  toToken ((← get).rest.length + 1)
  dropStaleKeys
  closeBlocks (← get).column
  let s ← get
  let flow := s.flow ≠ 0
  match s.rest with
  | [] =>
    if s.column ≠ 0 then set { s with column := 0, line := s.line + 1 }
    closeBlocks (-1)
    dropKey
    return true
  | c :: rest =>
    let next := rest.head?
    if s.column = 0 ∧ c = '%' then directiveLine
    else if ← isIndicator '-' then documentSign .documentStart
    else if ← isIndicator '.' then documentSign .documentEnd
    else if c = '[' then flowStart .flowSequenceStart
    else if c = '\x7b' then flowStart .flowMappingStart
    else if c = ']' then flowEnd .flowSequenceEnd
    else if c = '\x7d' then flowEnd .flowMappingEnd
    else if c = ',' then flowEntry
    else if c = '-' ∧ endsWord next then blockEntry
    else if c = '?' ∧ (flow ∨ endsWord next) then keySign
    else if c = ':' ∧ (flow ∨ endsWord next) then valueSign
    else if c = '*' then word (do return .alias_ (← anchorName))
    else if c = '&' then word (do return .anchor (← anchorName))
    else if c = '!' then word tagToken
    else if c = '|' ∧ !flow then
      dropKey
      allowKey true
      push (← blockScalar true)
    else if c = '>' ∧ !flow then
      dropKey
      allowKey true
      push (← blockScalar false)
    else if c = '\'' ∨ c = '"' then
      word (do
        skip 1
        return .scalar (String.ofList (← quotedText (c = '\'') [] (s.rest.length + 1))) false)
    else if startsPlain flow c next then word plainScalar
    else failure
    return false

def tokens : Nat → Scan Unit
  | 0 => failure
  | fuel + 1 => do
    if ← token then return () else tokens fuel

/-- The characters that a document may hold. -/
def isPrintable (c : Char) : Bool :=
  let n := c.toNat
  n == 9 || n == 10 || n == 13 || (0x20 ≤ n && n ≤ 0x7E) || n == 0x85 ||
    (0xA0 ≤ n && n ≤ 0xFFFD && n ≠ 0xFEFF) || 0x10000 ≤ n

end Scan

/-- The tokens of a text; `none` if it has none. A mark of the byte order may come first. -/
def tokens? (text : String) : Option (List Token) :=
  let cs := match text.toList with
    | '\ufeff' :: cs => cs
    | cs => cs
  if cs.all Scan.isPrintable then
    ((Scan.tokens (2 * cs.length + 2)).run { rest := cs }).map fun r => r.2.tokens.toList
  else none

end Yaml
end Stencil
