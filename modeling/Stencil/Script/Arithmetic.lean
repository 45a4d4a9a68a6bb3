import Stencil.Number.Decimal
import Stencil.Script.Source

/-! Calculating with integers of 64 bits in a command. -/
namespace Stencil
namespace Script
namespace Arithmetic

open Text

inductive Sign where
  | number (n : Int)
  | name (s : String)
  | operator (s : String)
  | stop
  | bad
  deriving DecidableEq, Repr, Inhabited

/-- Why there is no value. -/
inductive Trouble where
  | expression (reason : String)
  /-- A text is no number -/
  | number (s : String)
  deriving DecidableEq, Repr, Inhabited

def maximum : Int := 9223372036854775807

def minimum : Int := -9223372036854775808

/-- The integer of 64 bits that agrees with `n` on them. -/
def wrap (n : Int) : Int := n.bmod 18446744073709551616

def truth (b : Bool) : Int := if b then 1 else 0

def digitIn (base : Nat) (c : Char) : Option Nat :=
  let n := if asciiDigit c then c.toNat - 48
    else if 'a' ≤ c ∧ c ≤ 'z' then c.toNat - 87
    else if 'A' ≤ c ∧ c ≤ 'Z' then c.toNat - 55
    else base
  if n < base then some n else none

/-- The digits in front, as a number. -/
def digits (base : Nat) (n : Nat) : List Char → Nat × List Char
  | [] => (n, [])
  | c :: cs =>
    match digitIn base c with
    | some d => digits base (base * n + d) cs
    | none => (n, c :: cs)

def isDigitIn (base : Nat) (c : Char) : Bool := (digitIn base c).isSome

/-- A number in front: decimal, octal after `0`, hexadecimal after `0x`. -/
def natural (cs : List Char) : Nat × List Char :=
  match cs with
  | '0' :: x :: d :: rest =>
    if (x = 'x' ∨ x = 'X') ∧ isDigitIn 16 d then digits 16 0 (d :: rest) else digits 8 0 cs
  | '0' :: _ => digits 8 0 cs
  | cs => digits 10 0 cs

/-- Longer operators come before those that begin them. -/
def operators : List String :=
  ["<<=", ">>=", "<<", ">>", "<=", ">=", "==", "!=", "&&", "||", "+=", "-=", "*=", "/=", "%=", "&=",
    "|=", "^=", "+", "-", "*", "/", "%", "&", "|", "^", "~", "!", "(", ")", "<", ">", "=", "?", ":"]

/-- The sign in front, and what follows it. -/
def sign (cs : List Char) : Sign × List Char :=
  match cs.dropWhile fun c => c == ' ' || c == '\t' || c == '\n' with
  | [] => (.stop, [])
  | c :: rest =>
    if asciiDigit c then
      let (n, rest) := natural (c :: rest)
      (.number (min n maximum), rest)
    else if isNameStart c then
      (.name (String.ofList ((c :: rest).takeWhile isNameChar)), (c :: rest).dropWhile isNameChar)
    else
      match operators.findSome? fun o => (dropLead? o.toList (c :: rest)).map (o, ·) with
      | some (o, rest) => (.operator o, rest)
      | none => (.bad, rest)

def isBlank (c : Char) : Bool := c == ' ' || ('\t' ≤ c && c ≤ '\r')

/-- The number that a whole text is. A blank one is zero if that is allowed. -/
def integer? (decimal blank : Bool) (s : String) : Option Int :=
  let cs := s.toList.dropWhile isBlank
  let (negative, body) := Decimal.takeSign cs
  let (n, rest) := if decimal then digits 10 0 body else natural body
  let n : Int := if negative then -n else n
  if rest.length = body.length then if blank ∧ cs.isEmpty then some 0 else none
  else if rest.all isBlank ∧ minimum ≤ n ∧ n ≤ maximum then some n
  else none

structure State where
  next : Sign
  rest : List Char
  /-- What names stand for -/
  lookup : String → String
  /-- The names given a number, the latest first -/
  assigned : List (String × Int) := []

abbrev Calculation := StateT State (Except Trouble)

def trouble (reason : String) : Calculation α := fun _ => .error (.expression reason)

def peek : Calculation Sign := return (← get).next

/-- Pass the sign in front. -/
def advance : Calculation Unit := modify fun s =>
  let (next, rest) := sign s.rest
  { s with next, rest }

def accept (o : String) : Calculation Bool := do
  if (← peek) = .operator o then
    advance
    return true
  else return false

def valueOf (name : String) : Calculation Int := fun s =>
  match s.assigned.lookup name with
  | some n => .ok (n, s)
  | none =>
    match integer? false true (s.lookup name) with
    | some n => .ok (n, s)
    | none => .error (.number (s.lookup name))

def assign (name : String) (n : Int) : Calculation Unit :=
  modify fun s => { s with assigned := (name, n) :: s.assigned }

def onBits (f : BitVec 64 → BitVec 64 → BitVec 64) (a b : Int) : Int :=
  (f (BitVec.ofInt 64 a) (BitVec.ofInt 64 b)).toInt

/-- How far a shift goes. -/
def distance (b : Int) : Nat := (b.emod 64).toNat

def apply (o : String) (a b : Int) : Calculation Int :=
  match o with
  | "+" => return wrap (a + b)
  | "-" => return wrap (a - b)
  | "*" => return wrap (a * b)
  | "/" => if b = 0 then trouble "division by zero" else return wrap (a.tdiv b)
  | "%" => if b = 0 then trouble "division by zero" else return a.tmod b
  | "<<" => return wrap (a * Nat.shiftLeft 1 (distance b))
  | ">>" => return a >>> distance b
  | "<" => return truth (a < b)
  | "<=" => return truth (a ≤ b)
  | ">" => return truth (b < a)
  | ">=" => return truth (b ≤ a)
  | "==" => return truth (a == b)
  | "!=" => return truth (a != b)
  | "&" => return onBits BitVec.and a b
  | "^" => return onBits BitVec.xor a b
  | "|" => return onBits BitVec.or a b
  | _ => return b

/-- The operators between two numbers, those that bind most first. -/
def levels : List (List String) :=
  [["*", "/", "%"], ["+", "-"], ["<<", ">>"], ["<", "<=", ">", ">="], ["==", "!="], ["&"], ["^"],
    ["|"]]

def assignments : List String :=
  ["=", "+=", "-=", "*=", "/=", "%=", "&=", "|=", "^=", "<<=", ">>="]

mutual

/-- A whole expression. With `idle` it is read but not carried out. -/
def expression : Nat → (idle : Bool) → Calculation Int
  | 0, _ => trouble "too deep"
  | fuel + 1, idle => do
    let s ← get
    match s.next, (sign s.rest).1 with
    | .name name, .operator o =>
      if assignments.contains o then
        advance
        advance
        let n ← expression fuel idle
        if idle then return n
        else
          let n ← if o = "=" then pure n
            else do apply (String.ofList o.toList.dropLast) (← valueOf name) n
          assign name n
          return n
      else conditional fuel idle
    | _, _ => conditional fuel idle

def conditional : Nat → Bool → Calculation Int
  | 0, _ => trouble "too deep"
  | fuel + 1, idle => do
    let a ← disjunction fuel idle
    if ← accept "?" then
      let b ← expression fuel (idle || a == 0)
      if ← accept ":" then
        let c ← conditional fuel (idle || a != 0)
        return if a ≠ 0 then b else c
      else trouble "expecting ':'"
    else return a

def disjunction : Nat → Bool → Calculation Int
  | 0, _ => trouble "too deep"
  | fuel + 1, idle => do
    let a ← conjunction fuel idle
    if ← accept "||" then
      let b ← disjunction fuel (idle || a != 0)
      return truth (a != 0 || b != 0)
    else return a

def conjunction : Nat → Bool → Calculation Int
  | 0, _ => trouble "too deep"
  | fuel + 1, idle => do
    let a ← operands fuel idle levels.reverse
    if ← accept "&&" then
      let b ← conjunction fuel (idle || a == 0)
      return truth (a != 0 && b != 0)
    else return a

/-- Operands with operators of these levels between them, those that bind least first. -/
def operands : Nat → Bool → List (List String) → Calculation Int
  | 0, _, _ => trouble "too deep"
  | fuel + 1, idle, [] => primary fuel idle
  | fuel + 1, idle, level :: tighter => do
    let a ← operands fuel idle tighter
    chain fuel idle level tighter a

/-- Operators of one level after a first operand, from left to right. -/
def chain : Nat → Bool → List String → List (List String) → Int → Calculation Int
  | 0, _, _, _, _ => trouble "too deep"
  | fuel + 1, idle, level, tighter, a => do
    match ← peek with
    | .operator o =>
      if level.contains o then
        advance
        let b ← operands fuel idle tighter
        chain fuel idle level tighter (← if idle then pure b else apply o a b)
      else return a
    | _ => return a

def primary : Nat → Bool → Calculation Int
  | 0, _ => trouble "too deep"
  | fuel + 1, idle => do
    match ← peek with
    | .number n =>
      advance
      return n
    | .name name =>
      advance
      if idle then return 0 else valueOf name
    | .operator "(" =>
      advance
      let n ← expression fuel idle
      if ← accept ")" then return n else trouble "expecting ')'"
    | .operator "+" =>
      advance
      primary fuel idle
    | .operator "-" =>
      advance
      return wrap (-(← primary fuel idle))
    | .operator "!" =>
      advance
      return truth ((← primary fuel idle) == 0)
    | .operator "~" =>
      advance
      return -(← primary fuel idle) - 1
    | _ => trouble "expecting primary"

end

/-- The value of a text and the names that it gives a number, in order. -/
def evaluate (lookup : String → String) (cs : List Char) :
    Except Trouble (Int × List (String × Int)) :=
  let (next, rest) := sign cs
  match (expression (20 * cs.length + 100) false).run { next, rest, lookup } with
  | .error t => .error t
  | .ok (n, s) =>
    if s.next = .stop then .ok (n, s.assigned.reverse) else .error (.expression "expecting EOF")

/-- How the trouble with a text is told. -/
def Trouble.message (whole : String) : Trouble → String
  | expression reason => "arithmetic expression: " ++ reason ++ ": \"" ++ whole ++ "\""
  | number s => "Illegal number: " ++ s

end Arithmetic
end Script
end Stencil
