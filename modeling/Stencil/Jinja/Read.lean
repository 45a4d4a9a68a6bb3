import Stencil.Jinja.Token
import Stencil.Jinja.Tree

/-! Reading tokens one after the other. -/
namespace Stencil
namespace Jinja

/-- Tokens left to read, and the names of the blocks met so far. -/
structure ReadState where
  tokens : List Token
  blocks : List String := []
  inMacro : Bool := false
  /-- Whether the macro that is open speaks of its caller -/
  usesCaller : Bool := false

abbrev Read (α : Type) := ReadState → Except TemplateError (α × ReadState)

namespace Read

def pure (a : α) : Read α := fun s => .ok (a, s)

def bind (x : Read α) (f : α → Read β) : Read β := fun s =>
  match x s with
  | .ok (a, s) => f a s
  | .error e => .error e

instance : Monad Read where
  pure := Read.pure
  bind := Read.bind

def fail (message : String) : Read α := fun _ => .error (.malformed message)

/-- The next token, which stays; `none` at the end. -/
def peek : Read (Option Token) := fun s =>
  match s.tokens with
  | [] => .ok (none, s)
  | .bad e :: _ => .error e
  | t :: _ => .ok (some t, s)

def next : Read (Option Token) := fun s =>
  match s.tokens with
  | [] => .ok (none, s)
  | .bad e :: _ => .error e
  | t :: rest => .ok (some t, { s with tokens := rest })

def isSign (t : Option Token) (s : String) : Bool :=
  match t with
  | some (.sign u) => u == s
  | _ => false

def isName (t : Option Token) (s : String) : Bool :=
  match t with
  | some (.name u) => u == s
  | _ => false

def isBlockEnd : Option Token → Bool
  | some .blockEnd => true
  | _ => false

def isVariableEnd : Option Token → Bool
  | some .variableEnd => true
  | _ => false

def skipSign (s : String) : Read Bool := do
  if isSign (← peek) s then
    let _ ← next
    return true
  else return false

def skipName (s : String) : Read Bool := do
  if isName (← peek) s then
    let _ ← next
    return true
  else return false

def expectSign (s : String) : Read Unit := do
  if ← skipSign s then return () else fail ("expected " ++ s)

def expectName (s : String) : Read Unit := do
  if ← skipName s then return () else fail ("expected " ++ s)

def expectBlockEnd : Read Unit := do
  if isBlockEnd (← next) then return () else fail "expected end of block"

def name : Read String := do
  match ← next with
  | some (.name s) => return s
  | _ => fail "expected identifier"

def inMacro (inside : Bool) : Read Bool := fun s => .ok (s.inMacro, { s with inMacro := inside })

def usesCaller (uses : Bool) : Read Bool := fun s =>
  .ok (s.usesCaller, { s with usesCaller := uses })

/-- Note that the caller was named. -/
def notice (name : String) : Read Unit := fun s =>
  .ok ((), { s with usesCaller := s.usesCaller || name == "caller" })

/-- Each block has a name of its own. -/
def defineBlock (name : String) : Read Unit := fun s =>
  if s.inMacro then .error (.malformed "block tags in macros are not allowed")
  else if s.blocks.contains name then .error (.malformed "block defined twice")
  else .ok ((), { s with blocks := name :: s.blocks })

end Read

end Jinja
end Stencil
