import Stencil.Lockfile.Fingerprint
import Stencil.Proofs.Text.ByteOrder
import Mathlib.Logic.ExistsUnique

/-! What a fingerprint tells apart. Bytes that are absorbed take different hashes to different
hashes, so that a difference of one byte is never lost. -/
namespace Stencil
namespace Lockfile

open Text

/-- The prime is odd, so multiplication by it can be undone. -/
def primeInverse : UInt32 := 0x359C449B

theorem prime_mul_primeInverse : prime * primeInverse = 1 := by decide

theorem mul_prime_inj {a b : UInt32} : a * prime = b * prime ↔ a = b := by
  refine ⟨fun h => ?_, fun h => by rw [h]⟩
  calc a = a * prime * primeInverse := by
        rw [UInt32.mul_assoc, prime_mul_primeInverse, UInt32.mul_one]
    _ = b * prime * primeInverse := by rw [h]
    _ = b := by rw [UInt32.mul_assoc, prime_mul_primeInverse, UInt32.mul_one]

/-- A byte keeps different hashes different. -/
theorem absorb_left_inj {hash other : UInt32} (byte : UInt8) :
    absorb hash byte = absorb other byte ↔ hash = other := by
  rw [absorb, absorb, mul_prime_inj, UInt32.xor_left_inj]

/-- Different bytes take a hash to different hashes. -/
theorem absorb_right_inj (hash : UInt32) {byte other : UInt8} :
    absorb hash byte = absorb hash other ↔ byte = other := by
  rw [absorb, absorb, mul_prime_inj, UInt32.xor_right_inj]
  refine ⟨fun h => ?_, fun h => by rw [h]⟩
  have hnat := congrArg UInt32.toNat h
  simpa [UInt8.toNat_inj] using hnat

theorem absorbAll_cons (hash : UInt32) (byte : UInt8) (bytes : List UInt8) :
    absorbAll hash (byte :: bytes) = absorbAll (absorb hash byte) bytes := rfl

/-- Different hashes stay different, whatever bytes follow. -/
theorem absorbAll_left_inj {hash other : UInt32} (bytes : List UInt8) :
    absorbAll hash bytes = absorbAll other bytes ↔ hash = other := by
  induction bytes generalizing hash other with
  | nil => rfl
  | cons byte bytes ih => rw [absorbAll_cons, absorbAll_cons, ih, absorb_left_inj]

/-- Bytes that differ in one place are absorbed into different hashes. -/
theorem absorbAll_ne (hash : UInt32) (front rest : List UInt8) {byte other : UInt8}
    (h : byte ≠ other) :
    absorbAll hash (front ++ byte :: rest) ≠ absorbAll hash (front ++ other :: rest) := by
  rw [absorbAll_append, absorbAll_append, absorbAll_cons, absorbAll_cons, Ne, absorbAll_left_inj,
    absorb_right_inj]
  exact h

theorem fingerprint_eq (text : String) : fingerprint text = absorbAll offsetBasis (octets text) := by
  rw [fingerprint, toList_toUTF8]

/-- Lists of one length that differ in exactly one place have the same items before it and after
it. -/
theorem exists_only_difference {α : Type} {xs ys : List α} (hlength : xs.length = ys.length)
    (h : ∃! i : Nat, xs[i]? ≠ ys[i]?) :
    ∃ front x y rest, xs = front ++ x :: rest ∧ ys = front ++ y :: rest ∧ x ≠ y := by
  induction xs generalizing ys with
  | nil =>
    obtain rfl : ys = [] := List.eq_nil_of_length_eq_zero hlength.symm
    obtain ⟨i, hi, -⟩ := h
    exact absurd rfl hi
  | cons x xs ih =>
    obtain ⟨y, ys, rfl⟩ := List.exists_cons_of_length_eq_add_one hlength.symm
    obtain ⟨i, hi, honly⟩ := h
    by_cases hxy : x = y
    · subst hxy
      obtain ⟨j, rfl⟩ : ∃ j, i = j + 1 := by
        cases i with
        | zero => simp at hi
        | succ j => exact ⟨j, rfl⟩
      have hrest : ∃! k : Nat, xs[k]? ≠ ys[k]? := by
        refine ⟨j, by simpa using hi, fun k hk => ?_⟩
        have hk' := honly (k + 1) (by simpa using hk)
        omega
      obtain ⟨front, a, b, rest, rfl, rfl, hab⟩ := ih (by simpa using hlength) hrest
      exact ⟨x :: front, a, b, rest, rfl, rfl, hab⟩
    · have hzero : 0 = i := honly 0 (by simpa using hxy)
      subst hzero
      have hsame : xs = ys := by
        apply List.ext_getElem?
        intro k
        by_contra hk
        have hk' := honly (k + 1) (by simpa using hk)
        omega
      exact ⟨[], x, y, xs, rfl, by rw [hsame]; rfl, hxy⟩

/-- A change of one byte is never missed, wherever it is. For the fingerprint is made of the hash of
what comes before a place and of the bytes that follow, and the same bytes keep hashes apart. -/
theorem fingerprint_tells_oneByte {text other : String}
    (hsize : text.utf8ByteSize = other.utf8ByteSize)
    (hone : ∃! i : Nat, (octets text)[i]? ≠ (octets other)[i]?) :
    fingerprint text ≠ fingerprint other ∧
      (∀ s front suffix, octets s = front ++ suffix →
        fingerprint s = absorbAll (absorbAll offsetBasis front) suffix) ∧
      ∀ suffix, Function.Injective fun hash => absorbAll hash suffix := by
  refine ⟨?_, fun s front suffix hs => ?_, fun suffix hash other h => ?_⟩
  · have hlength : (octets text).length = (octets other).length := hsize
    obtain ⟨front, byte, changed, rest, htext, hother, hne⟩ := exists_only_difference hlength hone
    rw [fingerprint_eq, fingerprint_eq, htext, hother]
    exact absorbAll_ne offsetBasis front rest hne
  · rw [fingerprint_eq, hs, absorbAll_append]
  · exact (absorbAll_left_inj suffix).mp h

theorem octets_accents : octets "a é" = [0x61, 0x20, 0xC3, 0xA9] ∧
    octets "a è" = [0x61, 0x20, 0xC3, 0xA8] := by decide +kernel

/-- The letters differ in the second of their two bytes. -/
theorem accents_differ_once : ∃! i : Nat, (octets "a é")[i]? ≠ (octets "a è")[i]? := by
  rw [octets_accents.1, octets_accents.2]
  refine ⟨3, by decide, fun i hi => ?_⟩
  match i with
  | 0 | 1 | 2 => simp at hi
  | 3 => rfl
  | i + 4 => simp at hi

theorem fingerprint_tells_accents :
    "a é".utf8ByteSize = "a è".utf8ByteSize ∧ fingerprint "a é" ≠ fingerprint "a è" := by
  have hsize : "a é".utf8ByteSize = "a è".utf8ByteSize := by decide +kernel
  exact ⟨hsize, (fingerprint_tells_oneByte hsize accents_differ_once).1⟩

end Lockfile
end Stencil
