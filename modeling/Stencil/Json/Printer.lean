import Stencil.Json.Value

/-! The compact text of a value. -/
namespace Stencil
namespace Json

def hexDigit (n : Nat) : Char := if n < 10 then Char.ofNat (48 + n) else Char.ofNat (87 + n)

/-- Quotes, backslashes and control characters are escaped, all else stands for itself. -/
def escapeChar (c : Char) : List Char :=
  if c = '"' then ['\\', '"']
  else if c = '\\' then ['\\', '\\']
  else if c = '\n' then ['\\', 'n']
  else if c = '\r' then ['\\', 'r']
  else if c = '\t' then ['\\', 't']
  else if c = '\x08' then ['\\', 'b']
  else if c = '\x0c' then ['\\', 'f']
  else if c.toNat < 0x20 then
    ['\\', 'u', '0', '0', hexDigit (c.toNat / 16), hexDigit (c.toNat % 16)]
  else [c]

def quote (s : String) : String := String.ofList ('"' :: s.toList.flatMap escapeChar ++ ['"'])

mutual

def render : Json → String
  | null => "null"
  | bool b => if b then "true" else "false"
  | number n => n.render
  | string s => quote s
  | array items => "[" ++ renderItems items ++ "]"
  | object fields => "\x7b" ++ renderFields fields ++ "\x7d"

def renderItems : List Json → String
  | [] => ""
  | [v] => render v
  | v :: w :: rest => render v ++ "," ++ renderItems (w :: rest)

def renderFields : List (String × Json) → String
  | [] => ""
  | [(k, v)] => quote k ++ ":" ++ render v
  | (k, v) :: e :: rest => quote k ++ ":" ++ render v ++ "," ++ renderFields (e :: rest)

end

def margin (depth : Nat) : String := "".pushn ' ' (2 * depth)

mutual

/-- The text of a value with every item and field on a line of its own. -/
def renderIndented (depth : Nat) : Json → String
  | array (v :: rest) => "[\n" ++ indentedItems (depth + 1) (v :: rest) ++ margin depth ++ "]"
  | object (e :: rest) =>
    "\x7b\n" ++ indentedFields (depth + 1) (e :: rest) ++ margin depth ++ "\x7d"
  | v => v.render

def indentedItems (depth : Nat) : List Json → String
  | [] => ""
  | [v] => margin depth ++ renderIndented depth v ++ "\n"
  | v :: w :: rest =>
    margin depth ++ renderIndented depth v ++ ",\n" ++ indentedItems depth (w :: rest)

def indentedFields (depth : Nat) : List (String × Json) → String
  | [] => ""
  | [(k, v)] => margin depth ++ quote k ++ ": " ++ renderIndented depth v ++ "\n"
  | (k, v) :: e :: rest =>
    margin depth ++ quote k ++ ": " ++ renderIndented depth v ++ ",\n" ++
      indentedFields depth (e :: rest)

end

end Json
end Stencil
