import Mathlib.Data.String.Basic
import Mathlib.Algebra.Order.Ring.Nat

/-! The order of texts by their code points is the order of their bytes. -/
namespace Stencil
namespace Text

/-- The bytes of a text. -/
def octets (s : String) : List UInt8 := s.toUTF8.data.toList

theorem toList_loop (bytes : ByteArray) (i : Nat) (taken : List UInt8) :
    ByteArray.toList.loop bytes i taken = taken.reverse ++ bytes.data.toList.drop i := by
  fun_induction ByteArray.toList.loop bytes i taken with
  | case1 i taken hi ih =>
    have hlength : i < bytes.data.toList.length := hi
    have hget : bytes.get! i = bytes.data.toList[i] := by
      simp [ByteArray.get!, getElem!_pos bytes.data i hi]
    rw [ih, List.drop_eq_getElem_cons hlength, hget, List.reverse_cons, List.append_assoc]
    rfl
  | case2 i taken hi =>
    have hlength : bytes.data.toList.length ≤ i := Nat.not_lt.mp hi
    rw [List.drop_eq_nil_of_le hlength, List.append_nil]

theorem toList_toUTF8 (s : String) : s.toUTF8.toList = octets s := by
  rw [ByteArray.toList, toList_loop]
  rfl

theorem octets_eq (s : String) : octets s = s.toList.flatMap String.utf8EncodeChar := by
  conv_lhs => rw [octets, ← String.ofList_toList (s := s)]
  exact List.toList_data_toByteArray

/-- The bytes of a character after its first one hold six bits each. -/
def trailing (v : Nat) : Nat → List UInt8
  | 0 => []
  | k + 1 => UInt8.ofNat (v / 64 ^ k % 64 + 0x80) :: trailing v k

/-- A character takes one to four bytes; how many are to come is told by the first of them. -/
structure Encodes (c : Char) (k mark : Nat) : Prop where
  range : (k = 0 ∧ mark = 0 ∧ c.toNat < 0x80) ∨
    (k = 1 ∧ mark = 0xc0 ∧ 0x80 ≤ c.toNat ∧ c.toNat < 0x800) ∨
    (k = 2 ∧ mark = 0xe0 ∧ 0x800 ≤ c.toNat ∧ c.toNat < 0x10000) ∨
    (k = 3 ∧ mark = 0xf0 ∧ 0x10000 ≤ c.toNat ∧ c.toNat < 0x110000)
  bytes : String.utf8EncodeChar c =
    UInt8.ofNat (c.toNat / 64 ^ k + mark) :: trailing c.toNat k

theorem toNat_lt (c : Char) : c.toNat < 0x110000 := by
  rcases c.valid with h | h
  · exact Nat.lt_trans h (by decide)
  · exact h.2

theorem exists_encodes (c : Char) : ∃ k mark, Encodes c k mark := by
  have hmax := toNat_lt c
  have hval : c.val.toNat = c.toNat := rfl
  by_cases h₁ : c.toNat ≤ 0x7f
  · exact ⟨0, 0, by omega, by simp [String.utf8EncodeChar, trailing, hval, h₁]⟩
  by_cases h₂ : c.toNat ≤ 0x7ff
  · have hfirst : c.toNat / 64 % 0x20 = c.toNat / 64 := Nat.mod_eq_of_lt (by omega)
    exact ⟨1, 0xc0, by omega, by simp [String.utf8EncodeChar, trailing, hval, h₁, h₂, hfirst]⟩
  by_cases h₃ : c.toNat ≤ 0xffff
  · have hfirst : c.toNat / 4096 % 0x10 = c.toNat / 4096 := Nat.mod_eq_of_lt (by omega)
    exact ⟨2, 0xe0, by omega, by simp [String.utf8EncodeChar, trailing, hval, h₁, h₂, h₃, hfirst]⟩
  · have hfirst : c.toNat / 262144 % 0x08 = c.toNat / 262144 := Nat.mod_eq_of_lt (by omega)
    exact ⟨3, 0xf0, by omega, by simp [String.utf8EncodeChar, trailing, hval, h₁, h₂, h₃, hfirst]⟩

theorem ofNat_lt_ofNat {m n : Nat} (hn : n < 256) (h : m < n) : UInt8.ofNat m < UInt8.ofNat n := by
  rw [UInt8.lt_iff_toNat_lt, UInt8.toNat_ofNat', UInt8.toNat_ofNat', Nat.mod_eq_of_lt hn,
    Nat.mod_eq_of_lt (h.trans hn)]
  exact h

/-- The greater of two numbers has the greater quotient, or the greater remainder of the same. -/
theorem div_lt_or_mod_lt {m n : Nat} (d : Nat) (h : m < n) :
    m / d < n / d ∨ m / d = n / d ∧ m % d < n % d := by
  rcases Nat.lt_or_eq_of_le (Nat.div_le_div_right (c := d) h.le) with hlt | heq
  · exact .inl hlt
  · refine .inr ⟨heq, ?_⟩
    have hm := Nat.div_add_mod m d
    have hn := Nat.div_add_mod n d
    rw [heq] at hm
    omega

/-- The bytes to come are in the order of what they hold. -/
theorem trailing_append_lt {m n : Nat} (k : Nat) (h : m % 64 ^ k < n % 64 ^ k)
    (xs ys : List UInt8) : trailing m k ++ xs < trailing n k ++ ys := by
  induction k with
  | zero => simp [Nat.mod_one] at h
  | succ k ih =>
    have hdigit : ∀ v, v % 64 ^ (k + 1) / 64 ^ k = v / 64 ^ k % 64 := fun v => by
      rw [pow_succ, Nat.mod_mul_right_div_self]
    have hrest : ∀ v, v % 64 ^ (k + 1) % 64 ^ k = v % 64 ^ k := fun v =>
      Nat.mod_mod_of_dvd v (Dvd.intro _ (pow_succ 64 k).symm)
    have hsplit := div_lt_or_mod_lt (64 ^ k) h
    rw [hdigit, hdigit, hrest, hrest] at hsplit
    simp only [trailing, List.cons_append, List.cons_lt_cons_iff]
    rcases hsplit with hlt | ⟨heq, hlt⟩
    · exact .inl (ofNat_lt_ofNat (by omega) (by omega))
    · exact .inr ⟨by rw [heq], ih hlt⟩

/-- A greater character has greater bytes, whatever follows. -/
theorem utf8EncodeChar_append_lt {a b : Char} (h : a < b) (xs ys : List UInt8) :
    String.utf8EncodeChar a ++ xs < String.utf8EncodeChar b ++ ys := by
  obtain ⟨k, mark, ha, hbytesa⟩ := exists_encodes a
  obtain ⟨j, mark', hb, hbytesb⟩ := exists_encodes b
  have hlt : a.toNat < b.toNat := h
  rw [hbytesa, hbytesb, List.cons_append, List.cons_append, List.cons_lt_cons_iff]
  by_cases hsame : k = j
  · subst hsame
    obtain rfl : mark = mark' := by omega
    have hfirst : b.toNat / 64 ^ k + mark < 256 := by
      rcases hb with ⟨rfl, hb⟩ | ⟨rfl, hb⟩ | ⟨rfl, hb⟩ | ⟨rfl, hb⟩ <;> omega
    rcases div_lt_or_mod_lt (64 ^ k) hlt with hdiv | ⟨hdiv, hmod⟩
    · exact .inl (ofNat_lt_ofNat hfirst (by omega))
    · exact .inr ⟨by rw [hdiv], trailing_append_lt k hmod xs ys⟩
  · -- The first byte of a longer encoding is above that of any shorter one.
    refine .inl (ofNat_lt_ofNat ?_ ?_) <;>
      rcases ha with ⟨rfl, ha⟩ | ⟨rfl, ha⟩ | ⟨rfl, ha⟩ | ⟨rfl, ha⟩ <;>
      rcases hb with ⟨rfl, hb⟩ | ⟨rfl, hb⟩ | ⟨rfl, hb⟩ | ⟨rfl, hb⟩ <;> omega

/-- Texts are in the order of their bytes. -/
theorem octets_lt_octets {s t : String} (h : s < t) : octets s < octets t := by
  rw [octets_eq, octets_eq]
  have hlist : s.toList < t.toList := h
  generalize s.toList = cs at hlist
  generalize t.toList = ds at hlist
  induction hlist with
  | @nil d ds =>
    obtain ⟨byte, bytes, hbytes⟩ :=
      List.exists_cons_of_ne_nil (String.utf8EncodeChar_ne_nil (c := d))
    rw [List.flatMap_cons, hbytes]
    exact .nil
  | @rel c cs d ds hlt =>
    rw [List.flatMap_cons, List.flatMap_cons]
    exact utf8EncodeChar_append_lt hlt _ _
  | @cons c cs ds _ ih =>
    rw [List.flatMap_cons, List.flatMap_cons]
    exact List.append_left_lt ih

end Text
end Stencil
