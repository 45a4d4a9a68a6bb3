import Stencil.Script.Arithmetic
import Stencil.Script.World

/-! Conditions on texts, numbers and files. -/
namespace Stencil
namespace Script
namespace Condition

/-- What a word is at its place in a condition. -/
inductive Role where
  | stop
  | operand
  | unary
  | binary
  | not
  | and
  | or
  | opening
  | closing
  deriving DecidableEq, Repr

def unaryOperators : List String :=
  ["-r", "-w", "-x", "-e", "-f", "-d", "-c", "-b", "-p", "-u", "-g", "-k", "-s", "-t", "-z", "-n",
    "-h", "-O", "-G", "-L", "-S"]

def binaryOperators : List String :=
  ["=", "!=", "<", ">", "-eq", "-ne", "-ge", "-gt", "-le", "-lt", "-nt", "-ot", "-ef"]

/-- What a word would be by itself. -/
def roleOf (s : String) : Role :=
  if unaryOperators.contains s then .unary
  else if binaryOperators.contains s then .binary
  else
    match s with
    | "!" => .not
    | "-a" => .and
    | "-o" => .or
    | "(" => .opening
    | ")" => .closing
    | _ => .operand

/-- Whether words after a sign of its own make an operator an operand. -/
def isOperand (rest : List String) : Bool :=
  match rest with
  | [] => true
  | [_] => false
  | a :: b :: _ => roleOf a = .binary && b ≠ ")"

/-- What the first word is at its place. -/
def role (ws : List String) : Role :=
  match ws with
  | [] => .stop
  | s :: rest =>
    match roleOf s with
    | .unary => if isOperand rest then .operand else .unary
    | .opening => if rest.isEmpty then .operand else .opening
    | r => r

def integer (s : String) : Except String Int :=
  match Arithmetic.integer? true false s with
  | some n => .ok n
  | none => .error ("Illegal number: " ++ s)

def unary (w : World) (op s : String) : Bool :=
  let p : Path := ⟨s⟩
  match op with
  | "-z" => s = ""
  | "-n" => s ≠ ""
  | "-e" | "-r" | "-w" | "-O" | "-G" => s = "/dev/null" || w.tree.exists? p
  | "-f" => w.tree.isFile p
  | "-d" => w.tree.isDirectory p
  | "-s" =>
    w.tree.isDirectory p || (w.tree.readBytes p).toOption.any fun b => b.size ≠ 0
  | "-x" =>
    match w.tree.resolve p with
    | .found loc (.file _) => w.executables.contains loc
    | .found _ _ => true
    | _ => false
  | "-h" | "-L" =>
    match w.tree.locate p .kept with
    | .found _ (.link _) => true
    | _ => false
  | "-c" => s = "/dev/null"
  | _ => false

def sameFile (w : World) (a b : String) : Bool :=
  match w.tree.canonicalize ⟨a⟩, w.tree.canonicalize ⟨b⟩ with
  | .ok x, .ok y => x = y
  | _, _ => false

def binary (w : World) (a op b : String) : Except String Bool :=
  let compare (f : Int → Int → Bool) : Except String Bool := do
    return f (← integer a) (← integer b)
  match op with
  | "=" => .ok (a = b)
  | "!=" => .ok (a ≠ b)
  | "<" => .ok (a < b)
  | ">" => .ok (b < a)
  | "-eq" => compare (· == ·)
  | "-ne" => compare (· != ·)
  | "-ge" => compare (fun x y => y ≤ x)
  | "-gt" => compare (fun x y => y < x)
  | "-le" => compare (fun x y => x ≤ y)
  | "-lt" => compare (fun x y => x < y)
  | "-ef" => .ok (sameFile w a b)
  | "-nt" => .ok (w.tree.exists? ⟨a⟩ && !w.tree.exists? ⟨b⟩)
  | "-ot" => .ok (w.tree.exists? ⟨b⟩ && !w.tree.exists? ⟨a⟩)
  | _ => .ok false

/-- The truth of a condition, and the words from its last one on. -/
abbrev Answer := Except String (Bool × List String)

mutual

def disjunction (w : World) : Nat → Role → Bool → List String → Answer
  | 0, _, _, _ => .error "too deep"
  | fuel + 1, r, sofar, ws => do
    let (b, ws) ← conjunction w fuel r true ws
    let sofar := sofar || b
    if role ws.tail = .or then disjunction w fuel (role ws.tail.tail) sofar ws.tail.tail
    else return (sofar, ws)

def conjunction (w : World) : Nat → Role → Bool → List String → Answer
  | 0, _, _, _ => .error "too deep"
  | fuel + 1, r, sofar, ws => do
    let (b, ws) ← negation w fuel r ws
    let sofar := sofar && b
    if role ws.tail = .and then conjunction w fuel (role ws.tail.tail) sofar ws.tail.tail
    else return (sofar, ws)

def negation (w : World) : Nat → Role → List String → Answer
  | 0, _, _ => .error "too deep"
  | fuel + 1, .not, ws => do
    let r := role ws.tail
    let (b, ws) ← negation w fuel r (if r = .stop then ws else ws.tail)
    return (!b, ws)
  | fuel + 1, r, ws => primary w fuel r ws

def primary (w : World) : Nat → Role → List String → Answer
  | 0, _, _ => .error "too deep"
  | fuel + 1, r, ws =>
    match r, ws with
    | .stop, ws => .ok (false, ws)
    | _, [] => .ok (false, [])
    | .opening, _ :: rest =>
      if role rest = .closing then .ok (false, rest)
      else do
        let (b, ws) ← disjunction w fuel (role rest) false rest
        if role ws.tail = .closing then return (b, ws.tail) else .error "closing paren expected"
    | .unary, op :: rest =>
      match rest with
      | [] => .error (op ++ ": argument expected")
      | s :: _ => .ok (unary w op s, rest)
    | _, a :: rest =>
      if role rest = .binary then
        match rest with
        | op :: b :: more => (binary w a op b).map (·, b :: more)
        | op :: [] => .error (op ++ ": argument expected")
        | [] => .ok (a ≠ "", ws)
      else .ok (a ≠ "", ws)

end

/-- The truth of a condition of which all words are known. -/
def whole (w : World) (r : Role) (ws : List String) : Except String Bool :=
  match disjunction w (4 * ws.length + 8) r false ws with
  | .error e => .error e
  | .ok (_, a :: _ :: _) =>
    .error (if a = "" then "unexpected operator" else a ++ ": unexpected operator")
  | .ok (b, _) => .ok b

/-- The truth of a condition. Few words are read in the one way that makes sense. -/
def holds (w : World) : List String → Except String Bool
  | [] => .ok false
  | [a, b, c] =>
    if roleOf b = .binary then whole w .operand [a, b, c]
    else if a = "(" ∧ c = ")" then whole w (role [b]) [b]
    else if a = "!" then (whole w (role [b, c]) [b, c]).map (!·)
    else whole w (role [a, b, c]) [a, b, c]
  | ["(", b, c, ")"] => whole w (role [b, c]) [b, c]
  | ["!", b, c, d] =>
    if roleOf c = .binary then (whole w .operand [b, c, d]).map (!·)
    else if b = "(" ∧ d = ")" then (whole w (role [c]) [c]).map (!·)
    else if b = "!" then whole w (role [c, d]) [c, d]
    else (whole w (role [b, c, d]) [b, c, d]).map (!·)
  | ws => whole w (role ws) ws

end Condition
end Script
end Stencil
