/-! Reading bytes as UTF-8. -/
namespace Stencil
namespace Text

/-- The bounds of the second byte after a leading byte, and how many bytes follow the leading one. -/
def leadingByte? (b : UInt8) : Option (UInt8 × UInt8 × Nat) :=
  if 0xC2 ≤ b && b < 0xE0 then some (0x80, 0xBF, 1)
  else if b == 0xE0 then some (0xA0, 0xBF, 2)
  else if b == 0xED then some (0x80, 0x9F, 2)
  else if 0xE1 ≤ b && b < 0xF0 then some (0x80, 0xBF, 2)
  else if b == 0xF0 then some (0x90, 0xBF, 3)
  else if 0xF1 ≤ b && b < 0xF4 then some (0x80, 0xBF, 3)
  else if b == 0xF4 then some (0x80, 0x8F, 3)
  else none

/-- How many bytes at the front of `rest` continue a sequence that needs `count` of them. -/
def continuing (low high : UInt8) : Nat → List UInt8 → Nat
  | 0, _ => 0
  | _ + 1, [] => 0
  | count + 1, b :: rest =>
    if low ≤ b && b ≤ high then 1 + continuing 0x80 0xBF count rest else 0

def codePoint (lead : UInt8) (rest : List UInt8) : Nat :=
  let mask := if lead < 0xE0 then 32 else if lead < 0xF0 then 16 else 8
  rest.foldl (fun n b => n * 64 + b.toNat % 64) (lead.toNat % mask)

/-- The characters of the bytes. The longest beginning of a character that is cut short, or a byte
that begins none, becomes one replacement character. -/
def decodeLossily : Nat → List UInt8 → List Char
  | 0, _ => []
  | _ + 1, [] => []
  | fuel + 1, b :: rest =>
    if b < 0x80 then Char.ofNat b.toNat :: decodeLossily fuel rest
    else
      match leadingByte? b with
      | none => '\uFFFD' :: decodeLossily fuel rest
      | some (low, high, count) =>
        let taken := continuing low high count rest
        let c := if taken = count then Char.ofNat (codePoint b (rest.take count)) else '\uFFFD'
        c :: decodeLossily fuel (rest.drop taken)

/-- The text of the bytes, with replacement characters for what is not UTF-8. -/
def lossy (bytes : List UInt8) : String := String.ofList (decodeLossily (bytes.length + 1) bytes)

end Text
end Stencil
