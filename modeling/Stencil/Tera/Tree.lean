import Stencil.Json.Value

/-! What a template says. -/
namespace Stencil
namespace Tera

inductive MathOp where
  | add
  | sub
  | mul
  | div
  | rem
  deriving DecidableEq, Repr

inductive LogicOp where
  | and
  | or
  | eq
  | ne
  | lt
  | le
  | gt
  | ge
  deriving DecidableEq, Repr

mutual

inductive Term where
  | text (s : String)
  | number (n : Number)
  | bool (b : Bool)
  /-- The value at the end of a way -/
  | lookup (way : String)
  | math (op : MathOp) (left right : Expr)
  | logic (op : LogicOp) (left right : Expr)
  | test (way : String) (negated : Bool) (name : String) (args : List Expr)
  | contained (negated : Bool) (needle haystack : Expr)
  | concat (parts : List Term)
  | array (items : List Expr)
  | call (name : String) (args : List (String × Expr))
  | callMacro (space name : String) (args : List (String × Expr))

inductive Expr where
  | mk (term : Term) (negated : Bool) (filters : List Filter)

inductive Filter where
  | mk (name : String) (args : List (String × Expr))

end

namespace Expr

def of (t : Term) : Expr := .mk t false []

/-- The expression with no negation but the one that is given. -/
def signed (negated : Bool) : Expr → Expr
  | mk t _ filters => mk t negated filters

end Expr

namespace Filter

def name : Filter → String
  | mk name _ => name

def args : Filter → List (String × Expr)
  | mk _ args => args

end Filter

inductive Node where
  | text (s : String)
  | emit (e : Expr)
  | set (isGlobal : Bool) (name : String) (e : Expr)
  | cond (test : Expr) (yes no : List Node)
  | forLoop (key : Option String) (name : String) (container : Expr) (body otherwise : List Node)
  | leave (isBreak : Bool)
  | filtered (f : Filter) (body : List Node)
  | block (name : String) (body : List Node)
  /-- The first of the named templates that is there -/
  | include_ (names : List String) (ignoreMissing : Bool)
  | macro_ (name : String) (params : List (String × Option Term)) (body : List Node)

structure Template where
  nodes : List Node
  /-- Whether it takes the place of blocks of another template or has macros of others -/
  needsOthers : Bool

namespace Template

/-- The blocks of a template, those inside of other blocks too, by name. -/
def blocksOf : Nat → List Node → List (String × List Node)
  | 0, _ => []
  | fuel + 1, nodes => nodes.flatMap fun
    | .block name body => (name, body) :: blocksOf fuel body
    | _ => []

def macrosOf (nodes : List Node) : List (String × List (String × Option Term) × List Node) :=
  nodes.filterMap fun
    | .macro_ name params body => some (name, params, body)
    | _ => none

end Template

end Tera
end Stencil
