import Stencil.Script.Filter

/-! Editing lines by commands. -/
namespace Stencil
namespace Script
namespace Edit

open Text

inductive Address where
  | number (n : Nat)
  | last
  | found (e : List (List Expression))
  deriving Inhabited

inductive Action where
  | substitute (e : List (List Expression)) (by_ : List Char) (all printed : Bool) (which : Nat)
  | delete
  | print
  | quit
  | showNumber
  | exchange (old new : List Char)
  | after (text : List Char)
  | before (text : List Char)
  | replace (text : List Char)
  deriving Inhabited

structure Step where
  first : Option Address
  last : Option Address
  negated : Bool
  action : Action
  deriving Inhabited

/-- A text up to a delimiter, with the delimiter unescaped in it, and what follows. -/
def upTo? (delimiter : Char) : Nat → List Char → List Char → Option (List Char × List Char)
  | 0, _, _ => none
  | _ + 1, _, [] => none
  | fuel + 1, acc, '\\' :: c :: rest =>
    if c = delimiter then upTo? delimiter fuel (c :: acc) rest
    else upTo? delimiter fuel (c :: '\\' :: acc) rest
  | fuel + 1, acc, c :: rest =>
    if c = delimiter then some (acc.reverse, rest) else upTo? delimiter fuel (c :: acc) rest

def field? (delimiter : Char) (cs : List Char) : Option (List Char × List Char) :=
  upTo? delimiter (cs.length + 1) [] cs

def address? (extended : Bool) (cs : List Char) : Option (Option Address × List Char) :=
  match cs with
  | '$' :: rest => some (some .last, rest)
  | '/' :: rest => do
    let (text, rest) ← field? '/' rest
    let e ← Expression.read? extended text
    return (some (.found e), rest)
  | c :: _ =>
    if asciiDigit c then
      let (digits, rest) := Decimal.spanDigits cs
      some (some (.number (Decimal.natOf digits)), rest)
    else some (none, cs)
  | [] => some (none, [])

def skipBlanks (cs : List Char) : List Char := cs.dropWhile fun c => c == ' ' || c == '\t'

/-- The text of a command that takes the rest of its line. -/
def lineText (cs : List Char) : List Char × List Char :=
  let cs := skipBlanks cs
  let cs := match cs with
    | '\\' :: '\n' :: rest => rest
    | '\\' :: rest => rest
    | cs => cs
  (cs.takeWhile (· ≠ '\n'), cs.dropWhile (· ≠ '\n'))

def action? (extended : Bool) (cs : List Char) : Option (Action × List Char) :=
  match cs with
  | 'd' :: rest => some (.delete, rest)
  | 'p' :: rest => some (.print, rest)
  | 'q' :: rest => some (.quit, rest)
  | '=' :: rest => some (.showNumber, rest)
  | 'a' :: rest => let (t, rest) := lineText rest; some (.after t, rest)
  | 'i' :: rest => let (t, rest) := lineText rest; some (.before t, rest)
  | 'c' :: rest => let (t, rest) := lineText rest; some (.replace t, rest)
  | 's' :: delimiter :: rest => do
    let (pattern, rest) ← field? delimiter rest
    let (by_, rest) ← field? delimiter rest
    let flags := rest.takeWhile fun c => ['g', 'p', 'I', 'i'].contains c || asciiDigit c
    let digits := flags.filter asciiDigit
    let e ← Expression.read? extended pattern
    return (.substitute e by_ (flags.contains 'g') (flags.contains 'p')
      (if digits.isEmpty then 1 else Decimal.natOf digits), rest.drop flags.length)
  | 'y' :: delimiter :: rest => do
    let (old, rest) ← field? delimiter rest
    let (new, rest) ← field? delimiter rest
    return (.exchange old new, rest)
  | _ => none

def steps? (extended : Bool) : Nat → List Char → Option (List Step)
  | 0, _ => none
  | fuel + 1, cs =>
    match cs.dropWhile fun c => c == ' ' || c == '\t' || c == '\n' || c == ';' with
    | [] => some []
    | cs => do
      let (first, cs) ← address? extended cs
      let (last, cs) ← match cs with
        | ',' :: rest => address? extended rest
        | cs => some (none, cs)
      let (negated, cs) := match skipBlanks cs with
        | '!' :: rest => (true, skipBlanks rest)
        | cs => (false, cs)
      let (action, cs) ← action? extended cs
      match skipBlanks cs with
      | [] => return [⟨first, last, negated, action⟩]
      | ';' :: rest | '\n' :: rest =>
        return ⟨first, last, negated, action⟩ :: (← steps? extended fuel rest)
      | _ => none

/-- What is put in the place of a match. -/
def filled (whole : List Char) (groups : List (Nat × List Char)) : List Char → List Char
  | [] => []
  | '&' :: rest => whole ++ filled whole groups rest
  | '\\' :: c :: rest =>
    (if asciiDigit c then
      if c = '0' then whole else (groups.lookup (digitValue c)).getD []
    else if c = 'n' then ['\n']
    else if c = 't' then ['\t']
    else [c]) ++ filled whole groups rest
  | c :: rest => c :: filled whole groups rest

/-- A line with matches replaced, the first `skip` of them left as they are. -/
def substituted (e : List (List Expression)) (by_ : List Char) (all : Bool) :
    Nat → Nat → List Char → List Char → Bool × List Char
  | 0, _, _, l => (false, l)
  | fuel + 1, skip, before, l =>
    match Expression.find? e (l.length + 1) ⟨before, l, []⟩ with
    | none => (false, l)
    | some (a, b) =>
      let lead := l.take (l.length - a.after.length)
      let whole := Expression.between a b
      let shown := if skip = 0 then filled whole b.groups by_ else whole
      let go := fun (before rest : List Char) =>
        if skip = 0 ∧ !all then (true, rest)
        else
          let (changed, rest) := substituted e by_ all fuel (skip - 1) before rest
          (changed || skip == 0, rest)
      if whole.isEmpty then
        match b.after with
        | [] => (skip == 0, lead ++ shown)
        | c :: rest =>
          let (changed, rest) := go (c :: b.before) rest
          (changed, lead ++ shown ++ c :: rest)
      else
        let (changed, rest) := go b.before b.after
        (changed, lead ++ shown ++ rest)

structure State where
  number : Nat
  isLast : Bool
  line : List Char
  out : List (List Char) := []
  later : List (List Char) := []
  deleted : Bool := false
  ended : Bool := false

def fits (s : State) : Address → Bool
  | .number n => s.number == n
  | .last => s.isLast
  | .found e => (Expression.search e s.line).isSome

/-- Whether a step is about a line, and whether its range goes on behind it. -/
def selects (s : State) (step : Step) (inRange : Bool) : Bool × Bool :=
  let (chosen, inRange) := match step.first, step.last with
    | none, _ => (true, false)
    | some a, none => (fits s a, false)
    | some a, some b =>
      if inRange then
        (true, match b with
          | .number n => s.number < n
          | b => !fits s b)
      else if fits s a then
        (true, match b with
          | .number n => s.number < n
          | .last => !s.isLast
          | .found _ => true)
      else (false, false)
  (chosen != step.negated, inRange)

def act (s : State) : Action → State
  | .substitute e by_ all printed which =>
    let (changed, line) := substituted e by_ all (s.line.length + 2) (which - 1) [] s.line
    let s := { s with line }
    if changed && printed then { s with out := s.out ++ [line] } else s
  | .delete => { s with deleted := true }
  | .print => { s with out := s.out ++ [s.line] }
  | .quit => { s with ended := true }
  | .showNumber => { s with out := s.out ++ [(toString s.number).toList] }
  | .exchange old new =>
    { s with line := s.line.map fun c => ((Filter.place? c 0 old).bind fun i => new[i]?).getD c }
  | .after t => { s with later := s.later ++ [t] }
  | .before t => { s with out := s.out ++ [t] }
  | .replace t => { s with out := s.out ++ [t], deleted := true }

/-- All steps on one line, with whether each one is in its range. -/
def actAll (s : State) : List (Step × Bool) → State × List Bool
  | [] => (s, [])
  | (step, inRange) :: rest =>
    if s.deleted || s.ended then
      let (s, more) := actAll s rest
      (s, inRange :: more)
    else
      let (chosen, inRange) := selects s step inRange
      let (s, more) := actAll (if chosen then act s step.action else s) rest
      (s, inRange :: more)

def edit (steps : List Step) (quiet : Bool) : Nat → List Bool → List (List Char) → List (List Char)
  | _, _, [] => []
  | n, ranges, l :: rest =>
    let (s, ranges) := actAll ⟨n, rest.isEmpty, l, [], [], false, false⟩ (steps.zip ranges)
    let shown := s.out ++ (if quiet || s.deleted then [] else [s.line]) ++ s.later
    if s.ended then shown else shown ++ edit steps quiet (n + 1) ranges rest

def sed (w : World) (args : List String) : World :=
  let (o, operands) := Filter.optionsOf "e" args
  let given := (o.filter (·.1 == 'e')).map (·.2)
  let (given, operands) :=
    if given.isEmpty then (operands.take 1, operands.drop 1) else (given, operands)
  let script := (String.intercalate "\n" given).toList
  match steps? (Filter.has o 'E' || Filter.has o 'r') (script.length + 1) script with
  | none => (w.report "sed: -e expression #1, char 1: unknown command").done 1
  | some steps =>
    let (found, w) := Filter.inputs w operands fun a why => "sed: can't read " ++ a ++ ": " ++ why
    let w := if w.status = 0 then w else w.done 2
    let cs := found.flatMap fun (_, bytes) => Filter.charsOf bytes
    let out := edit steps (Filter.has o 'n') 1 (steps.map fun _ => false) (Filter.linesOf cs)
    let text := out.flatMap fun l => l ++ ['\n']
    w.print (String.ofList (if cs.getLast? = some '\n' then text else text.dropLast))

end Edit
end Script
end Stencil
