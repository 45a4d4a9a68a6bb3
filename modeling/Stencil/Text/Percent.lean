import Stencil.Text.Blank

/-! Percent encoding: the bytes of a character by their two digits. -/
namespace Stencil
namespace Text
namespace Percent

def digit (n : Nat) : Char := if n < 10 then Char.ofNat (48 + n) else Char.ofNat (55 + n)

def encodeByte (b : UInt8) : List Char := ['%', digit (b.toNat / 16), digit (b.toNat % 16)]

/-- Controls, characters past ASCII and most punctuation are not plain. -/
def isPlain (c : Char) : Bool := c.isAlphanum || ['-', '.', '_', '~', '%', '/'].contains c

def encodeChar (keep : Char → Bool) (c : Char) : List Char :=
  if keep c then [c] else (String.utf8EncodeChar c).flatMap encodeByte

def encode (keep : Char → Bool) (cs : List Char) : List Char := cs.flatMap (encodeChar keep)

theorem encode_append (keep : Char → Bool) (cs ds : List Char) :
    encode keep (cs ++ ds) = encode keep cs ++ encode keep ds := List.flatMap_append

end Percent
end Text
end Stencil
