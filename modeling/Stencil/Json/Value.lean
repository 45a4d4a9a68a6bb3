import Stencil.Number.Shortest

/-! Document values. -/
namespace Stencil

/-- Integers keep their 64 bits; every other number is binary64. -/
inductive Number where
  | int (n : Int)
  | float (x : Binary64)
  deriving DecidableEq, Repr, Inhabited

namespace Number

/-- The least integer of 64 bits. -/
def least : Int := -9223372036854775808

/-- The greatest integer of 64 bits that may have a sign. -/
def greatestSigned : Int := 9223372036854775807

/-- The greatest integer of 64 bits without a sign. -/
def greatest : Int := 18446744073709551615

/-- The nearest binary64. -/
def toBinary64 : Number → Binary64
  | int n => (Binary64.ofInt n).getD (Binary64.zero false)
  | float x => x

def render : Number → String
  | int n => toString n
  | float x => Shortest.render .document x

end Number

/-- A value; an object keeps the order in which its keys were first given. -/
inductive Json where
  | null
  | bool (b : Bool)
  | number (n : Number)
  | string (s : String)
  | array (items : List Json)
  | object (fields : List (String × Json))
  deriving Repr, Inhabited

/-- Fields of an object, in the order of their keys' first appearance. -/
abbrev Fields := List (String × Json)

namespace Fields

def get? (fields : List (String × α)) (key : String) : Option α :=
  match fields with
  | [] => none
  | (k, v) :: rest => if k = key then some v else get? rest key

/-- A key already present keeps its position and takes the new value. -/
def put (fields : List (String × α)) (key : String) (value : α) : List (String × α) :=
  match fields with
  | [] => [(key, value)]
  | (k, v) :: rest => if k = key then (k, value) :: rest else (k, v) :: put rest key value

/-- Later entries override earlier ones in place. -/
def merge (fields : List (String × α)) (entries : List (String × α)) : List (String × α) :=
  entries.foldl (fun acc e => put acc e.1 e.2) fields

@[simp] theorem get?_put_self (fields : List (String × α)) (key : String) (value : α) :
    get? (put fields key value) key = some value := by
  induction fields with
  | nil => simp [put, get?]
  | cons e rest ih =>
    obtain ⟨k, v⟩ := e
    by_cases h : k = key <;> simp [put, get?, h, ih]

theorem get?_put_of_ne (fields : List (String × α)) {key other : String} (value : α)
    (h : other ≠ key) : get? (put fields key value) other = get? fields other := by
  induction fields with
  | nil => simp [put, get?, Ne.symm h]
  | cons e rest ih =>
    obtain ⟨k, v⟩ := e
    by_cases hk : k = key
    · subst hk; simp [put, get?, Ne.symm h]
    · simp only [put, hk, if_false, get?, ih]

end Fields

namespace Json

def int (n : Int) : Json := .number (.int n)

mutual

/-- Repeated keys fold into one, the last value winning, at every depth. -/
def fold : Json → Json
  | array items => array (foldItems items)
  | object fields => object (Fields.merge [] (foldFields fields))
  | v => v

def foldItems : List Json → List Json
  | [] => []
  | v :: rest => fold v :: foldItems rest

def foldFields : List (String × Json) → List (String × Json)
  | [] => []
  | (k, v) :: rest => (k, fold v) :: foldFields rest

end

end Json
end Stencil
