/-! The fingerprint of a text: the 32-bit FNV-1a hash of its bytes. -/
namespace Stencil
namespace Lockfile

def offsetBasis : UInt32 := 0x811C9DC5

def prime : UInt32 := 0x01000193

def absorb (hash : UInt32) (byte : UInt8) : UInt32 := (hash ^^^ byte.toUInt32) * prime

def absorbAll (hash : UInt32) (bytes : List UInt8) : UInt32 := bytes.foldl absorb hash

@[simp] theorem absorbAll_nil (hash : UInt32) : absorbAll hash [] = hash := rfl

theorem absorbAll_append (hash : UInt32) (bytes more : List UInt8) :
    absorbAll hash (bytes ++ more) = absorbAll (absorbAll hash bytes) more :=
  List.foldl_append

/-- Fingerprints stand in for texts, so that a lockfile stays small. -/
def fingerprint (text : String) : UInt32 := absorbAll offsetBasis text.toUTF8.toList

end Lockfile
end Stencil
