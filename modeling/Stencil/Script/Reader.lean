import Stencil.Script.Source

/-! Reading the text of commands. -/
namespace Stencil
namespace Script

open Text

/-- What is around the parts of a word, and so ends them. -/
inductive Surrounding where
  | blanks
  /-- Blanks around the word that ends a document, in which nothing is expanded -/
  | mark
  | quotes
  | braces (quoted : Bool)
  /-- A calculation, in which so many parentheses are open -/
  | sum (depth : Nat)
  | document
  deriving DecidableEq

namespace Surrounding

def isQuoted : Surrounding → Bool
  | blanks | mark | braces false => false
  | _ => true

/-- Characters that lose their meaning after a backslash. -/
def escaped (around : Surrounding) (c : Char) : Bool :=
  !around.isQuoted || c == '\\' || c == '\x60' || c == '$' ||
    match around with
    | quotes => c == '"'
    | braces _ => c == '"' || c == '\x7d'
    | _ => false

/-- The text ends where the parts should go on. -/
def cutOff : Surrounding → Reading Word
  | blanks | mark | document => return []
  | quotes | braces true => Reading.fault "Unterminated quoted string"
  | braces false => Reading.fault "Missing '\x7d'"
  | sum _ => Reading.fault "Missing '))'"

end Surrounding

/-- How deep texts are read. -/
def fuelFor (cs : List Char) : Nat := 20 * cs.length + 100

namespace Reading

def tooDeep : Reading α := fault "nesting too deep"

/-- A use that takes a word. -/
def useOf (filled : Bool) (c : Char) : Option (Word → Use) :=
  match c with
  | '-' => some (.otherwise filled)
  | '=' => some (.assigned filled)
  | '?' => some (.required filled)
  | '+' => some (.instead filled)
  | _ => none

/-- Quotes around nothing are a word. Around all arguments they are none if there are none. -/
def doubled : Word → Word
  | [.parameter "@" .plain _] => [.parameter "@" .plain true]
  | w => .text [] true :: w

/-- The name at the front of a parameter in braces. -/
def parameterName (c : Char) : Reading (Option String) := do
  if isNameStart c then return some (String.ofList (← takeWhile isNameChar))
  else if asciiDigit c then return some (String.ofList (← takeWhile asciiDigit))
  else if isSpecial c then
    advance
    return some (String.singleton c)
  else return none

/-- Whether it is the length of a parameter that is asked for after `#`. -/
def asksLength : Reading Bool := do
  match ← current with
  | none => return false
  | some c => return isNameChar c || (c != '\x7d' && (← get).rest.tail.head? == some '\x7d')

/-- Put a command after others. -/
def following (sofar : Option Command) (c : Command) : Option Command :=
  match sofar with
  | some first => some (.both first c)
  | none => some c

def withRedirections (line : Nat) (c : Command) (rs : List Redirection) : Command :=
  match c with
  | .apart line body _ => .apart line body rs
  | c => if rs.isEmpty then c else .group line c rs

/-- The pieces of a simple command, in order. -/
structure Pieces where
  assignments : List (String × Word) := []
  words : List Word := []
  redirections : List Redirection := []

/-- Commands that cannot be names of functions. -/
def specialCommands : List String :=
  [".", ":", "break", "continue", "eval", "exec", "exit", "export", "local", "readonly", "return", "set",
    "shift", "times", "trap", "unset"]

mutual

/-- The parts of a word up to what ends them. -/
def parts : Nat → Surrounding → Reading Word
  | 0, _ => tooDeep
  | fuel + 1, around => do
    match ← current with
    | none => around.cutOff
    | some c =>
      match around with
      | .blanks | .mark =>
        if endsWord c then return []
        else
          advance
          let p ← piece fuel around c
          return p ++ (← parts fuel around)
      | .sum depth =>
        advance
        if c = '(' then return .text ['('] true :: (← parts fuel (.sum (depth + 1)))
        else if c = ')' then
          if depth ≠ 0 then return .text [')'] true :: (← parts fuel (.sum (depth - 1)))
          else if ← accept ')' then return []
          else return .text [')'] true :: (← parts fuel around)
        else
          let p ← piece fuel around c
          return p ++ (← parts fuel around)
      | around =>
        advance
        if (c = '"' ∧ around = .quotes) ∨ (c = '\x7d' ∧ (around = .braces true ∨ around = .braces false))
        then return []
        else
          let p ← piece fuel around c
          return p ++ (← parts fuel around)

/-- What a character that has just been passed stands for. -/
def piece : Nat → Surrounding → Char → Reading Word
  | 0, _, _ => tooDeep
  | fuel + 1, around, c => do
    let quoted := around.isQuoted
    if c = '\'' ∧ !quoted then return [.text (← singleQuoted) true]
    else if c = '"' ∧ (!quoted ∨ around = .braces true) then return doubled (← parts fuel .quotes)
    else if c = '\\' then
      match (← get).rest.head? with
      | none => return [.text ['\\'] true]
      | some d =>
        if around.escaped d then
          advance
          return [.text [d] true]
        else return [.text ['\\'] true]
    else if around = .mark then return [.text [c] false]
    else if c = '$' then return [← expansion fuel quoted]
    else if c = '\x60' then
      let source ← backquoted quoted ((← get).rest.length + 1) []
      let s ← get
      match (list fuel false true none).run { s with rest := source, awaited := [] } with
      | .error e => fun _ => .error e
      | .ok (body, inner) =>
        set { s with documents := inner.documents, count := inner.count }
        return [.output (body.getD .nothing) quoted]
    else return [.text [c] quoted]

/-- What a dollar sign starts. -/
def expansion : Nat → Bool → Reading Part
  | 0, _ => tooDeep
  | fuel + 1, quoted => do
    if ← accept '(' then
      if ← accept '(' then return .sum (← parts fuel (.sum 0)) quoted
      else
        let awaited := (← get).awaited
        modify fun s => { s with awaited := [] }
        let body ← list fuel false true none
        let t ← token fuel false false
        if !t.isOperator ")" then unexpected t (some (.operator ")"))
        else
          let rest := (← get).rest
          modify fun s => { s with rest := [] }
          readDocuments fuel
          modify fun s => { s with rest, awaited }
          return .output (body.getD .nothing) quoted
    else if ← accept '\x7b' then
      match ← current with
      | some '#' =>
        advance
        if ← asksLength then
          match ← current with
          | none => tooDeep
          | some c =>
            match ← parameterName c with
            | none =>
              advance
              badUse fuel "" quoted
            | some name =>
              if ← accept '\x7d' then return .parameter name .length quoted
              else badUse fuel name quoted
        else use fuel "#" quoted
      | some c =>
        match ← parameterName c with
        | some name => use fuel name quoted
        | none =>
          if c ≠ '\x7d' then advance
          badUse fuel "" quoted
      | none => badUse fuel "" quoted
    else
      match ← current with
      | some c =>
        if isNameStart c then
          return .parameter (String.ofList (← takeWhile isNameChar)) .plain quoted
        else if isSpecial c then
          advance
          return .parameter (String.singleton c) .plain quoted
        else return .text ['$'] quoted
      | none => return .text ['$'] quoted

/-- What is done with a parameter, up to the closing brace. -/
def use : Nat → String → Bool → Reading Part
  | 0, _, _ => tooDeep
  | fuel + 1, name, quoted => do
    if ← accept '\x7d' then return .parameter name .plain quoted
    else if ← accept '%' then
      let longest ← accept '%'
      return .parameter name (.trimmed .back longest (← parts fuel (.braces false))) quoted
    else if ← accept '#' then
      let longest ← accept '#'
      return .parameter name (.trimmed .front longest (← parts fuel (.braces false))) quoted
    else
      let filled ← accept ':'
      match (← current).bind (useOf filled) with
      | none =>
        if ← accept '\x7d' then
          let _ ← parts fuel (.braces quoted)
          return .parameter name .plain quoted
        else
          advance
          badUse fuel name quoted
      | some u =>
        advance
        return .parameter name (u (← parts fuel (.braces quoted))) quoted

def badUse : Nat → String → Bool → Reading Part
  | 0, _, _ => tooDeep
  | fuel + 1, name, quoted => do
    let _ ← parts fuel (.braces quoted)
    return .parameter name .bad quoted

/-- The next token as it is written; a word of it has this around it. -/
def rawToken : Nat → Surrounding → Reading Token
  | 0, _ => tooDeep
  | fuel + 1, around => do
    match (← get).held with
    | some t =>
      modify fun s => { s with held := none }
      return t
    | none =>
      match ← current with
      | none => return .stop
      | some c =>
        if c = ' ' ∨ c = '\t' then
          advance
          rawToken fuel around
        else if c = '#' then
          let _ ← takeWhile (· != '\n')
          rawToken fuel around
        else if c = '\n' then
          advance
          return .newline
        else if c = '&' ∨ c = '|' ∨ c = ';' then
          advance
          if ← accept c then return .operator (String.ofList [c, c])
          else return .operator (String.singleton c)
        else if c = '(' ∨ c = ')' then
          advance
          return .operator (String.singleton c)
        else if c = '<' ∨ c = '>' then return .redirection none (← redirectionSign)
        else
          let w ← parts fuel around
          let next ← current
          match w with
          | [.text [d] false] =>
            if asciiDigit d ∧ (next = some '<' ∨ next = some '>') then
              return .redirection (some (digitValue d)) (← redirectionSign)
            else return .word w
          | w => return .word w

/-- The next token. Ends of lines are passed if they do not count, and a word may be a keyword. -/
def token : Nat → (words lines : Bool) → Reading Token
  | 0, _, _ => tooDeep
  | fuel + 1, words, lines => do
    match ← rawToken fuel .blanks, lines with
    | .newline, true =>
      readDocuments fuel
      token fuel words lines
    | t, _ => return if words then t.asKeyword else t

/-- Read the documents that begin here. -/
def readDocuments : Nat → Reading Unit
  | 0 => tooDeep
  | fuel + 1 => do
    let s ← get
    match s.awaited with
    | [] => return ()
    | a :: awaited =>
      let (body, rest) := documentLines a (s.rest.length + 1) false s.rest
      let line := s.line + (s.rest.count '\n' - rest.count '\n')
      let inner ← (do
        if a.expands then
          set { s with rest := body, awaited := [] }
          parts fuel .document
        else return [.text body true])
      modify fun t =>
        { t with rest, line, awaited, documents := t.documents ++ [(a.number, inner)] }
      readDocuments fuel

/-- A redirection after its sign. -/
def redirection : Nat → Option Nat → String → Reading Redirection
  | 0, _, _ => tooDeep
  | fuel + 1, stream, sign => do
    match ← rawToken fuel (if sign = "<<" ∨ sign = "<<-" then .mark else .blanks) with
    | .word w =>
      match sign with
      | "<<" | "<<-" =>
        let plain := w.all fun
          | .text _ quoted => !quoted
          | _ => true
        let last := w.flatMap fun
          | .text cs _ => cs
          | _ => []
        let s ← get
        set { s with
          count := s.count + 1
          awaited := s.awaited ++ [Awaited.mk s.count last plain (sign == "<<-")] }
        return .document (stream.getD 0) s.count
      | ">&" => return .same (stream.getD 1) w
      | "<&" => return .same (stream.getD 0) w
      | ">>" => return .file (stream.getD 1) .append w
      | ">|" => return .file (stream.getD 1) .overwrite w
      | ">" => return .file (stream.getD 1) .write w
      | "<>" => return .file (stream.getD 0) .both w
      | _ => return .file (stream.getD 0) .read w
    | t => unexpected t

/-- The redirections after a command. -/
def redirections : Nat → Reading (List Redirection)
  | 0 => tooDeep
  | fuel + 1 => do
    match ← token fuel true false with
    | .redirection stream sign =>
      let r ← redirection fuel stream sign
      return r :: (← redirections fuel)
    | t =>
      hold t
      return []

/-- Commands one after the other. At the top a line ends them; else they are followed by a token
that ends a list, and if `more` there may be none. -/
def list : Nat → (top more : Bool) → Option Command → Reading (Option Command)
  | 0, _, _, _ => tooDeep
  | fuel + 1, top, more, sofar => do
    match ← token fuel true (!top) with
    | .newline =>
      readDocuments fuel
      return sofar
    | .stop =>
      readDocuments fuel
      hold .stop
      return sofar
    | t =>
      hold t
      if more && !top && t.endsList then return sofar
      else
        let c ← andOr fuel
        let t ← token fuel false false
        let sofar := following sofar (if t.isOperator "&" then .behind c else c)
        match t with
        | .stop =>
          readDocuments fuel
          hold t
          return sofar
        | .newline =>
          hold t
          list fuel top true sofar
        | t =>
          if t.isOperator "&" || t.isOperator ";" then list fuel top true sofar
          else if top then unexpected t
          else
            hold t
            return sofar

def andOr : Nat → Reading Command
  | 0 => tooDeep
  | fuel + 1 => do andOrRest fuel (← pipeline fuel false)

def andOrRest : Nat → Command → Reading Command
  | 0, _ => tooDeep
  | fuel + 1, first => do
    let t ← token fuel false false
    if t.isOperator "&&" then andOrRest fuel (.andThen first (← pipeline fuel true))
    else if t.isOperator "||" then andOrRest fuel (.orElse first (← pipeline fuel true))
    else
      hold t
      return first

def pipeline : Nat → (lines : Bool) → Reading Command
  | 0, _ => tooDeep
  | fuel + 1, lines => do
    let t ← token fuel true lines
    if t.isKeyword "!" then return .not (← stages fuel false)
    else
      hold t
      stages fuel false

def stages : Nat → (lines : Bool) → Reading Command
  | 0, _ => tooDeep
  | fuel + 1, lines => do
    let first ← command fuel lines
    let t ← token fuel false false
    if t.isOperator "|" then return .pipe first (← stages fuel true)
    else
      hold t
      return first

/-- Pass the keyword that has to come now. -/
def wanted : Nat → String → Reading Unit
  | 0, _ => tooDeep
  | fuel + 1, s => do
    let t ← token fuel true false
    if t.isKeyword s then return () else unexpected t (some (.keyword s))

def block : Nat → Reading Command
  | 0 => tooDeep
  | fuel + 1 => do return (← list fuel false false none).getD .nothing

def command : Nat → (lines : Bool) → Reading Command
  | 0, _ => tooDeep
  | fuel + 1, lines => do
    let line := (← get).line
    let t ← token fuel true lines
    match t with
    | .keyword "if" =>
      let c ← conditional fuel
      return withRedirections line c (← redirections fuel)
    | .keyword "while" =>
      let c ← loopRest fuel false
      return withRedirections line c (← redirections fuel)
    | .keyword "until" =>
      let c ← loopRest fuel true
      return withRedirections line c (← redirections fuel)
    | .keyword "for" =>
      let c ← each fuel line
      return withRedirections line c (← redirections fuel)
    | .keyword "case" =>
      let t ← token fuel false false
      match t with
      | .word subject =>
        let t ← token fuel true true
        if t.isKeyword "in" then
          let c := Command.choose line subject (← choices fuel)
          return withRedirections line c (← redirections fuel)
        else unexpected t (some (.keyword "in"))
      | t => unexpected t (some (.word []))
    | .operator "(" =>
      let body ← block fuel
      let t ← token fuel false false
      if t.isOperator ")" then
        return withRedirections line (.apart line body []) (← redirections fuel)
      else unexpected t (some (.operator ")"))
    | .keyword "\x7b" =>
      let body ← block fuel
      wanted fuel "\x7d"
      return withRedirections line body (← redirections fuel)
    | .word _ | .redirection .. =>
      hold t
      simple fuel (← get).line {}
    | t => unexpected t

/-- A condition after the word that starts it. -/
def conditional : Nat → Reading Command
  | 0 => tooDeep
  | fuel + 1 => do
    let test ← block fuel
    wanted fuel "then"
    let yes ← block fuel
    let t ← token fuel true false
    if t.isKeyword "elif" then return .cond test yes (← conditional fuel)
    else if t.isKeyword "else" then
      let no ← block fuel
      wanted fuel "fi"
      return .cond test yes no
    else
      hold t
      wanted fuel "fi"
      return .cond test yes .nothing

def loopRest : Nat → Bool → Reading Command
  | 0, _ => tooDeep
  | fuel + 1, until_ => do
    let test ← block fuel
    wanted fuel "do"
    let body ← block fuel
    wanted fuel "done"
    return .loop until_ test body

def each : Nat → Nat → Reading Command
  | 0, _ => tooDeep
  | fuel + 1, line => do
    match ← token fuel false false with
    | .word w =>
      match plain? w with
      | some cs =>
        if !isName cs then fault "Bad for loop variable"
        else
          let t ← token fuel true true
          let words ← (do
            if t.isKeyword "in" then forWords fuel
            else
              if !t.isOperator ";" then hold t
              return [[.parameter "@" .plain true]])
          let t ← token fuel true true
          if !t.isKeyword "do" then unexpected t (some (.keyword "do"))
          else
            let body ← block fuel
            wanted fuel "done"
            return .each line (String.ofList cs) words body
      | none => fault "Bad for loop variable"
    | _ => fault "Bad for loop variable"

/-- The words of a loop, up to the end of their line. -/
def forWords : Nat → Reading (List Word)
  | 0 => tooDeep
  | fuel + 1 => do
    match ← token fuel false false with
    | .word w => return w :: (← forWords fuel)
    | .newline => return []
    | t => if t.isOperator ";" then return [] else unexpected t

def choices : Nat → Reading (List (List Word × Command))
  | 0 => tooDeep
  | fuel + 1 => do
    let t ← token fuel true true
    if t.isKeyword "esac" then return []
    else
      let t ← if t.isOperator "(" then token fuel false false else pure t
      let patterns ← alternatives fuel t
      let body := (← list fuel false true none).getD .nothing
      let t ← token fuel true true
      if t.isKeyword "esac" then return [(patterns, body)]
      else if t.isOperator ";;" then return (patterns, body) :: (← choices fuel)
      else unexpected t (some (.operator ";;"))

/-- Patterns, the first of which has been read, up to the closing parenthesis. -/
def alternatives : Nat → Token → Reading (List Word)
  | 0, _ => tooDeep
  | fuel + 1, first => do
    let t ← token fuel false false
    if t.isOperator "|" then
      return first.asWord :: (← alternatives fuel (← token fuel false false))
    else if t.isOperator ")" then return [first.asWord]
    else unexpected t (some (.operator ")"))

/-- The pieces of a simple command, or a function. -/
def simple : Nat → Nat → Pieces → Reading Command
  | 0, _, _ => tooDeep
  | fuel + 1, line, p => do
    match ← token fuel false false with
    | .word w =>
      match p.words, assignment? w with
      | [], some a => simple fuel line { p with assignments := p.assignments ++ [a] }
      | _, _ => simple fuel line { p with words := p.words ++ [w] }
    | .redirection stream sign =>
      let r ← redirection fuel stream sign
      simple fuel line { p with redirections := p.redirections ++ [r] }
    | t =>
      match p.words with
      | [w] =>
        if t.isOperator "(" ∧ p.assignments.isEmpty ∧ p.redirections.isEmpty then function fuel w
        else
          hold t
          return .simple line p.assignments p.words p.redirections
      | _ =>
        hold t
        return .simple line p.assignments p.words p.redirections

/-- A function after its name and the opening parenthesis. -/
def function : Nat → Word → Reading Command
  | 0, _ => tooDeep
  | fuel + 1, w => do
    let t ← token fuel false false
    if !t.isOperator ")" then unexpected t (some (.operator ")"))
    else
      match plain? w with
      | some cs =>
        if isName cs ∧ !specialCommands.contains (String.ofList cs) then
          return .define (String.ofList cs) (← command fuel true)
        else fault "Bad function name"
      | none => fault "Bad function name"

end

/-- The commands up to the end of a line; `none` if the text has ended. -/
def line (fuel : Nat) : Reading (Option Command) := do
  modify fun s => { s with held := none }
  let c ← list fuel true false none
  match c, (← get).held with
  | none, some .stop => return none
  | c, _ => return some (c.getD .nothing)

end Reading
end Script
end Stencil
