import Stencil.Regex.CharClass

/-! Regular expressions over characters, and where their matches end. -/
namespace Stencil

/-- Where in a text a match may pass without taking a character. -/
inductive Assertion where
  | textStart
  | textEnd
  | lineStart (carriageReturn : Bool)
  | lineEnd (carriageReturn : Bool)
  /-- Before and after, as far as they say whether there is a word -/
  | word (allowed : Bool → Bool → Bool) (isWord : Nat → Bool)

/-- A place in a text: the characters before it, nearest first, and those after it. -/
structure Cursor where
  before : List Char
  after : List Char
  deriving DecidableEq

namespace Cursor

def start (cs : List Char) : Cursor := ⟨[], cs⟩

/-- The whole text. -/
def text (c : Cursor) : List Char := c.before.reverse ++ c.after

def position (c : Cursor) : Nat := c.before.length

def wordBefore (c : Cursor) (isWord : Nat → Bool) : Bool :=
  match c.before with
  | [] => false
  | d :: _ => isWord d.toNat

def wordAfter (c : Cursor) (isWord : Nat → Bool) : Bool :=
  match c.after with
  | [] => false
  | d :: _ => isWord d.toNat

end Cursor

namespace Assertion

/-- Between a carriage return and the line feed after it there is no line end. -/
def holds (a : Assertion) (c : Cursor) : Bool :=
  match a with
  | textStart => c.before.isEmpty
  | textEnd => c.after.isEmpty
  | lineStart false =>
    match c.before with
    | [] => true
    | d :: _ => d == '\n'
  | lineStart true =>
    match c.before, c.after with
    | [], _ => true
    | d :: _, after => d == '\n' || (d == '\r' && after.head? != some '\n')
  | lineEnd false =>
    match c.after with
    | [] => true
    | d :: _ => d == '\n'
  | lineEnd true =>
    match c.after, c.before with
    | [], _ => true
    | d :: _, before => d == '\r' || (d == '\n' && before.head? != some '\r')
  | word allowed isWord => allowed (c.wordBefore isWord) (c.wordAfter isWord)

end Assertion

inductive Regex where
  | empty
  | set (class_ : CharClass)
  | look (a : Assertion)
  /-- A part whose place in the text is noted -/
  | group (r : Regex)
  | seq (r s : Regex)
  | alt (r s : Regex)
  /-- At least `min` times and, if there is a `max`, at most that often; as often as possible if
  `greedy` -/
  | repeated (r : Regex) (min : Nat) (max : Option Nat) (greedy : Bool)

namespace Regex

/-- The first of the cursors at each position. -/
def distinct (seen : List Nat) : List Cursor → List Cursor
  | [] => []
  | c :: cs =>
    if seen.contains c.position then distinct seen cs
    else c :: distinct (c.position :: seen) cs

def andThen (f : Cursor → List Cursor) (cs : List Cursor) : List Cursor :=
  distinct [] (cs.flatMap f)

/-- Exactly so often; nothing is left to try once nothing matches. -/
def times (f : Cursor → List Cursor) : Nat → List Cursor → List Cursor
  | 0, cs => cs
  | _, [] => []
  | n + 1, c :: cs => times f n (andThen f (c :: cs))

/-- The better choice first. -/
def prefer (greedy : Bool) (more stop : List Cursor) : List Cursor :=
  distinct [] (if greedy then more ++ stop else stop ++ more)

/-- For each cursor, where something leads. -/
abbrev Table := List (Cursor × List Cursor)

def Table.at (t : Table) (c : Cursor) : List Cursor :=
  ((t.find? fun e => e.1.position == c.position).map (·.2)).getD []

/-- Where one step leads from the cursors and from all that are reached. -/
def reached (f : Cursor → List Cursor) : Nat → Table → List Cursor → Table
  | 0, t, _ => t
  | _, t, [] => t
  | fuel + 1, t, c :: cs =>
    if t.any fun e => e.1.position == c.position then reached f fuel t cs
    else
      let ds := f c
      reached f fuel (t ++ [(c, ds)]) (cs ++ ds)

/-- What one more step that may be left out makes of where the others lead. -/
def extend (steps : Table) (greedy : Bool) (later : Table) : Table :=
  steps.map fun (c, ds) => (c, prefer greedy (andThen later.at ds) [c])

/-- Extended so often, or until nothing changes. -/
def extendUpTo (steps : Table) (greedy : Bool) : Nat → Table → Table
  | 0, t => t
  | n + 1, t =>
    let next := extend steps greedy t
    if next = t then t else extendUpTo steps greedy n next

/-- At most so often. -/
def upTo (f : Cursor → List Cursor) (greedy : Bool) (n : Nat) (c : Cursor) : List Cursor :=
  let size := c.after.length + 2
  let steps := reached f (size * size) [] [c]
  (extendUpTo steps greedy n (steps.map fun e => (e.1, [e.1]))).at c

mutual

/-- The ends of one more round, and the positions at which a round has ended. A position is left
only once. -/
def rounds (f : Cursor → List Cursor) (greedy : Bool) :
    Nat → List Nat → List Nat → Cursor → List Cursor × List Nat
  | 0, _, seen, _ => ([], seen)
  | fuel + 1, entered, seen, c =>
    roundEnds f greedy fuel (c.position :: entered) seen (f c)

def roundEnds (f : Cursor → List Cursor) (greedy : Bool) :
    Nat → List Nat → List Nat → List Cursor → List Cursor × List Nat
  | _, _, seen, [] => ([], seen)
  | fuel, entered, seen, d :: ds =>
    if seen.contains d.position then roundEnds f greedy fuel entered seen ds
    else
      let seen := d.position :: seen
      let (more, seen) :=
        if entered.contains d.position then ([], seen) else rounds f greedy fuel entered seen d
      let (others, seen) := roundEnds f greedy fuel entered seen ds
      ((if greedy then more ++ [d] else d :: more) ++ others, seen)

end

/-- One or more rounds. A round takes at least one character or is the last. -/
def onceOrMore (f : Cursor → List Cursor) (greedy : Bool) (c : Cursor) : List Cursor :=
  (rounds f greedy (c.after.length + 2) [] [] c).1

/-- The places where a match that starts at the cursor may end, the preferred one first. -/
def ends : Regex → Cursor → List Cursor
  | empty, c => [c]
  | set s, c =>
    match c.after with
    | d :: rest => if s.contains d.toNat then [⟨d :: c.before, rest⟩] else []
    | [] => []
  | look a, c => if a.holds c then [c] else []
  | group r, c => r.ends c
  | seq r s, c => andThen s.ends (r.ends c)
  | alt r s, c => distinct [] (r.ends c ++ s.ends c)
  | repeated r min (some max) greedy, c =>
    andThen (upTo r.ends greedy (max - min)) (times r.ends min [c])
  | repeated r 0 none greedy, c => prefer greedy (onceOrMore r.ends greedy c) [c]
  | repeated r (min + 1) none greedy, c =>
    andThen (onceOrMore r.ends greedy) (times r.ends min [c])

/-- Where the leftmost match starts, and where it ends. -/
def findFrom (r : Regex) (before : List Char) : List Char → Option (Cursor × Cursor)
  | [] => ((r.ends ⟨before, []⟩).head?).map (⟨before, []⟩, ·)
  | c :: cs =>
    match (r.ends ⟨before, c :: cs⟩).head? with
    | some e => some (⟨before, c :: cs⟩, e)
    | none => findFrom r (c :: before) cs

def find? (r : Regex) (cs : List Char) : Option (Cursor × Cursor) := r.findFrom [] cs

/-- The text with its first match replaced. -/
def replaceFirst (r : Regex) (cs by_ : List Char) : Option (List Char) :=
  (r.find? cs).map fun (start, stop) => start.before.reverse ++ by_ ++ stop.after

end Regex
end Stencil
