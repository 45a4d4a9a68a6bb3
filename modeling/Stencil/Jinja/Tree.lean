import Stencil.Jinja.Value

/-! What a template says. -/
namespace Stencil
namespace Jinja

inductive BinaryOp where
  | eq
  | ne
  | lt
  | le
  | gt
  | ge
  | and
  | or
  | add
  | sub
  | mul
  | div
  | floorDiv
  | rem
  | pow
  | concat
  | in_
  deriving DecidableEq, Repr

mutual

inductive Expr where
  | var (name : String)
  | const (v : Value)
  | slice (e : Expr) (start stop step : Option Expr)
  | neg (e : Expr)
  | pos (e : Expr)
  | not (e : Expr)
  | binary (op : BinaryOp) (left right : Expr)
  /-- Each operand is compared with the one before it; a comparison may be a negated one -/
  | compare (first : Expr) (rest : List (BinaryOp × Bool × Expr))
  | ifElse (test yes : Expr) (no : Option Expr)
  /-- Without a subject the filter applies to the text of its block -/
  | filter (name : String) (subject : Option Expr) (args : List Arg)
  | test (name : String) (subject : Expr) (args : List Arg)
  | attribute (e : Expr) (name : String)
  | item (e subscript : Expr)
  | call (e : Expr) (args : List Arg)
  | list (items : List Expr)
  | map (entries : List (Expr × Expr))
  deriving Inhabited

inductive Arg where
  | positional (e : Expr)
  | named (name : String) (e : Expr)
  | spread (e : Expr)
  | spreadNamed (e : Expr)

end

mutual

inductive Stmt where
  | raw (s : String)
  | emit (e : Expr)
  | forLoop (target iter : Expr) (filter : Option Expr) (recursive : Bool)
      (body otherwise : List Stmt)
  | ifCond (test : Expr) (yes no : List Stmt)
  | withBlock (assignments : List (Expr × Expr)) (body : List Stmt)
  | set (target value : Expr)
  | setBlock (target : Expr) (filter : Option Expr) (body : List Stmt)
  | autoEscape (mode : Expr) (body : List Stmt)
  | filterBlock (filter : Expr) (body : List Stmt)
  /-- A required block has to be defined by another template -/
  | block (name : String) (required : Bool) (body : List Stmt)
  | extends_ (parent : Expr)
  | include_ (name : Expr) (ignoreMissing : Bool)
  | import_ (name target : Expr)
  | fromImport (name : Expr) (names : List (Expr × Expr))
  | macro_ (m : Macro)
  | callBlock (call : Expr) (caller : Macro)
  | doCall (call : Expr)
  deriving Inhabited

/-- Defaults belong to the last parameters. -/
inductive Macro where
  | mk (name : String) (params : List Expr) (defaults : List Expr) (body : List Stmt)
      (usesCaller : Bool)

end

namespace Macro

def name : Macro → String
  | mk name _ _ _ _ => name

def params : Macro → List Expr
  | mk _ params _ _ _ => params

def defaults : Macro → List Expr
  | mk _ _ defaults _ _ => defaults

def body : Macro → List Stmt
  | mk _ _ _ body _ => body

/-- Whether the text of a calling block can be asked for. -/
def usesCaller : Macro → Bool
  | mk _ _ _ _ usesCaller => usesCaller

def paramNames (m : Macro) : List String :=
  m.params.filterMap fun
    | .var name => some name
    | _ => none

end Macro

mutual

/-- The blocks that a statement defines, inner ones too. -/
def Stmt.blocks : Stmt → List (String × List Stmt)
  | .block name _ body => (name, body) :: blocksOf body
  | .forLoop _ _ _ _ body otherwise => blocksOf body ++ blocksOf otherwise
  | .ifCond _ yes no => blocksOf yes ++ blocksOf no
  | .withBlock _ body | .setBlock _ _ body | .autoEscape _ body | .filterBlock _ body =>
    blocksOf body
  | .callBlock _ (.mk _ _ _ body _) => blocksOf body
  | _ => []

def blocksOf : List Stmt → List (String × List Stmt)
  | [] => []
  | s :: rest => s.blocks ++ blocksOf rest

end

end Jinja
end Stencil
