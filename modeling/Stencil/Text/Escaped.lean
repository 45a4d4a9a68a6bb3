import Stencil.Json.Printer
import Stencil.Text.Property

/-! Texts quoted for a message: what cannot be seen is escaped. -/
namespace Stencil
namespace Text

/-- Controls, unassigned code points, separators but the space, and what goes with a character before
it, the two voicing marks of half width apart. -/
def isHidden (n : Nat) : Bool :=
  if n < 128 then n < 32 || n == 127
  else Property.inCategories ["cc", "cf", "co", "zl", "zp", "zs"] n ||
    (Property.isGraphemeExtend n && n != 0xFF9E && n != 0xFF9F) || !Property.isAssigned n

def hexDigits : Nat → Nat → List Char
  | 0, _ => []
  | fuel + 1, n =>
    if n < 16 then [Json.hexDigit n] else hexDigits fuel (n / 16) ++ [Json.hexDigit (n % 16)]

def showChar (c : Char) : List Char :=
  if c = '"' then ['\\', '"']
  else if c = '\\' then ['\\', '\\']
  else if c = '\n' then ['\\', 'n']
  else if c = '\r' then ['\\', 'r']
  else if c = '\t' then ['\\', 't']
  else if c = '\x00' then ['\\', '0']
  else if isHidden c.toNat then ['\\', 'u', '\x7b'] ++ hexDigits 8 c.toNat ++ ['\x7d']
  else [c]

def quoted (s : String) : String := String.ofList ('"' :: s.toList.flatMap showChar ++ ['"'])

end Text
end Stencil
