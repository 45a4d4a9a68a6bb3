import Stencil.Number.Decimal
import Stencil.Script.Pattern

/-! Regular expressions of text tools, in their basic and their extended form. -/
namespace Stencil
namespace Script

open Text

mutual

inductive Expression where
  | one (c : Char)
  | any
  | among (item : PatternItem)
  | front
  | back
  /-- One of several branches, kept under a number -/
  | group (number : Nat) (branches : List (List Expression))
  | repeated (e : Expression) (least : Nat) (most : Option Nat)
  /-- What a group was about before -/
  | again (number : Nat)

end

instance : Inhabited Expression := ⟨.any⟩

namespace Expression

/-- A place in a text, with what the groups were about on the way to it. -/
structure Place where
  before : List Char
  after : List Char
  groups : List (Nat × List Char) := []

/-- The text between two places. -/
def between (a b : Place) : List Char := a.after.take (b.before.length - a.before.length)

def step? (p : Place) (accepts : Char → Bool) : List Place :=
  match p.after with
  | c :: rest => if accepts c then [{ p with before := c :: p.before, after := rest }] else []
  | [] => []

def literally (cs : List Char) (p : Place) : List Place :=
  match dropLead? cs p.after with
  | some rest => [{ p with before := cs.reverse ++ p.before, after := rest }]
  | none => []

mutual

/-- Where a match of one expression may end, the longest first. -/
def ends : Nat → Expression → Place → List Place
  | 0, _, _ => []
  | fuel + 1, e, p =>
    match e with
    | one c => step? p (· == c)
    | any => step? p fun _ => true
    | among i => step? p i.accepts
    | front => if p.before.isEmpty then [p] else []
    | back => if p.after.isEmpty then [p] else []
    | group n branches =>
      branches.flatMap fun b =>
        (sequenceEnds fuel b p).map fun q => { q with groups := (n, between p q) :: q.groups }
    | repeated e least most => rounds fuel e least most p
    | again n => literally ((p.groups.lookup n).getD []) p

def sequenceEnds : Nat → List Expression → Place → List Place
  | 0, _, _ => []
  | _ + 1, [], p => [p]
  | fuel + 1, e :: es, p => (ends fuel e p).flatMap fun q => sequenceEnds fuel es q

def rounds : Nat → Expression → Nat → Option Nat → Place → List Place
  | 0, _, _, _, _ => []
  | fuel + 1, e, least, most, p =>
    if most = some 0 then [p]
    else
      let more := (ends fuel e p).flatMap fun q =>
        if q.before.length = p.before.length then [] else
          rounds fuel e (least - 1) (most.map (· - 1)) q
      if least = 0 then more ++ [p]
      else if more.isEmpty then (ends fuel e p).filter fun q => q.before.length == p.before.length
      else more

end

/-- The first place where branches match, and where the match ends. -/
def find? (branches : List (List Expression)) : Nat → Place → Option (Place × Place)
  | 0, _ => none
  | fuel + 1, p =>
    let size := 20 * (p.before.length + p.after.length) + 200
    let found := branches.flatMap fun b => sequenceEnds size b p
    match found.foldl (fun (best : Option Place) q =>
        match best with
        | some r => if r.before.length < q.before.length then some q else best
        | none => some q) none with
    | some q => some (p, q)
    | none =>
      match p.after with
      | [] => none
      | c :: rest => find? branches fuel ⟨c :: p.before, rest, []⟩

def search (branches : List (List Expression)) (cs : List Char) : Option (Place × Place) :=
  find? branches (cs.length + 1) ⟨[], cs, []⟩

/-! ### Reading -/

/-- How often an expression is repeated: `2`, `2,`, `,3` or `2,3` after the brace. -/
def bounds? (extended : Bool) (cs : List Char) : Option (Nat × Option Nat × List Char) :=
  let (low, rest) := Decimal.spanDigits cs
  let (most, rest) := match rest with
    | ',' :: rest =>
      let (high, rest) := Decimal.spanDigits rest
      (if high.isEmpty then none else some (Decimal.natOf high), rest)
    | rest => (some (Decimal.natOf low), rest)
  match extended, rest with
  | true, '\x7d' :: rest => some (Decimal.natOf low, most, rest)
  | false, '\\' :: '\x7d' :: rest => some (Decimal.natOf low, most, rest)
  | _, _ => none

def wordMember : List Member := [.named "alnum", .range '_' '_']

/-- Branches read so far of a group: those done, and the one that is being read, reversed. -/
structure Level where
  number : Nat
  done : List (List Expression) := []
  items : List Expression := []

def Level.branches (l : Level) : List (List Expression) := l.done ++ [l.items.reverse]

def Level.add (l : Level) (e : Expression) : Level := { l with items := e :: l.items }

/-- The last item of a level repeated. -/
def Level.again? (l : Level) (least : Nat) (most : Option Nat) : Option Level :=
  match l.items with
  | e :: rest => some { l with items := .repeated e least most :: rest }
  | [] => none

def classOf? (cs : List Char) : Option (Expression × List Char) :=
  (Pattern.class? '^' (cs.map fun c => ⟨c, false⟩)).map fun (i, rest) => (.among i, rest.map (·.char))

/-- Read the rest of an expression. The levels are the groups that are open, innermost first. -/
def readFrom (extended : Bool) : Nat → Nat → List Level → List Char → Option (List (List Expression))
  | 0, _, _, _ => none
  | _ + 1, _, [], _ => none
  | fuel + 1, count, level :: outer, cs =>
    let add := fun (e : Expression) (rest : List Char) =>
      readFrom extended fuel count (level.add e :: outer) rest
    let special := fun (c : Char) (rest : List Char) =>
      if c = '(' then readFrom extended fuel (count + 1) ({ number := count } :: level :: outer) rest
      else if c = ')' then
        match outer with
        | above :: outer =>
          readFrom extended fuel count (above.add (.group level.number level.branches) :: outer) rest
        | [] => if extended then add (.one ')') rest else none
      else if c = '|' then
        readFrom extended fuel count
          ({ level with done := level.branches, items := [] } :: outer) rest
      else if c = '\x7b' then
        match bounds? extended rest with
        | some (least, most, rest) =>
          match level.again? least most with
          | some level => readFrom extended fuel count (level :: outer) rest
          | none => none
        | none => add (.one c) rest
      else
        let (least, most) : Nat × Option Nat :=
          if c = '+' then (1, none) else if c = '?' then (0, some 1) else (0, none)
        match level.again? least most with
        | some level => readFrom extended fuel count (level :: outer) rest
        | none => add (.one c) rest
    match cs with
    | [] => if outer.isEmpty then some level.branches else none
    | '\\' :: c :: rest =>
      if !extended && "()\x7b\x7d|+?".toList.contains c then special c rest
      else if asciiDigit c && c != '0' then add (.again (digitValue c)) rest
      else if c = 'n' then add (.one '\n') rest
      else if c = 't' then add (.one '\t') rest
      else if c = 'w' then add (.among (.among false wordMember)) rest
      else if c = 'W' then add (.among (.among true wordMember)) rest
      else if c = 's' then add (.among (.among false [.named "space"])) rest
      else if c = 'S' then add (.among (.among true [.named "space"])) rest
      else add (.one c) rest
    | '.' :: rest => add .any rest
    | '[' :: rest =>
      match classOf? rest with
      | some (e, rest) => add e rest
      | none => none
    | '^' :: rest => if extended || level.items.isEmpty then add .front rest else add (.one '^') rest
    | '$' :: rest =>
      if extended || rest.isEmpty || rest.take 2 == ['\\', ')'] || rest.take 2 == ['\\', '|'] then
        add .back rest
      else add (.one '$') rest
    | '*' :: rest =>
      match level.items with
      | [] | [.front] => add (.one '*') rest
      | _ => special '*' rest
    | c :: rest =>
      if extended && "()\x7b|+?".toList.contains c then special c rest else add (.one c) rest

def read? (extended : Bool) (cs : List Char) : Option (List (List Expression)) :=
  readFrom extended (cs.length + 2) 1 [{ number := 0 }] cs

/-- Expressions that match a text only as it is. -/
def fixed (cs : List Char) : List (List Expression) := [cs.map .one]

end Expression
end Script
end Stencil
