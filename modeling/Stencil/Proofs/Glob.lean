import Stencil.Ignore
import Stencil.Proofs.Regex.Advance
import Stencil.Proofs.Text.ByteOrder
import Mathlib.Data.List.Forall2
import Mathlib.Data.List.Induction

/-! Patterns that are tied to the top and have a `?` for each byte of a name. Such a pattern matches
the texts of its shape, and so none of another length. -/
namespace Stencil
namespace Glob

open Text

/-! ## The bytes of a text -/

theorem bytesOf_eq (s : String) : bytesOf s = (octets s).map fun b => Char.ofNat b.toNat := by
  rw [bytesOf, toList_toUTF8]

theorem length_bytesOf (s : String) : (bytesOf s).length = s.utf8ByteSize := by
  rw [bytesOf_eq, List.length_map]
  rfl

theorem notMem_trailing {b : UInt8} (hb : b.toNat < 128) (v k : Nat) : b ∉ trailing v k := by
  induction k with
  | zero => simp [trailing]
  | succ k ih =>
    simp only [trailing, List.mem_cons, not_or]
    refine ⟨fun he => ?_, ih⟩
    have hnat := congrArg UInt8.toNat he
    rw [UInt8.toNat_ofNat'] at hnat
    omega

/-- Only a character of one byte has its byte. -/
theorem toNat_of_mem_encode {b : UInt8} (hb : b.toNat < 128) {c : Char}
    (h : b ∈ String.utf8EncodeChar c) : c.toNat = b.toNat := by
  obtain ⟨k, mark, hrange, hbytes⟩ := exists_encodes c
  rw [hbytes, List.mem_cons] at h
  have hfirst := h.resolve_right (notMem_trailing hb _ _)
  have hnat := congrArg UInt8.toNat hfirst
  rw [UInt8.toNat_ofNat'] at hnat
  rcases hrange with ⟨rfl, h⟩ | ⟨rfl, h⟩ | ⟨rfl, h⟩ | ⟨rfl, h⟩ <;> omega

/-- A text whose last byte is a character of one byte ends with that character. -/
theorem getLast?_of_bytesOf {s : String} {a : Char} (ha : a.toNat < 128)
    (h : (bytesOf s).getLast? = some a) : s.toList.getLast? = some a := by
  rw [bytesOf_eq, List.getLast?_map, Option.map_eq_some_iff] at h
  obtain ⟨byte, hbyte, hchar⟩ := h
  have hbound := byte.toNat_lt
  have hcode : byte.toNat = a.toNat := by
    have hvalid : byte.toNat.isValidChar := .inl (by omega)
    rw [Char.ofNat, dif_pos hvalid] at hchar
    exact congrArg Char.toNat hchar
  have hmem := List.mem_of_getLast? hbyte
  cases hs : s.toList using List.reverseRecOn with
  | nil => simp [octets_eq, hs] at hmem
  | append_singleton init c =>
    rw [octets_eq, hs, List.flatMap_append, List.flatMap_singleton,
      List.getLast?_append_of_ne_nil _ (String.utf8EncodeChar_ne_nil)] at hbyte
    have hsame := toNat_of_mem_encode (hcode ▸ ha) (List.mem_of_getLast? hbyte)
    rw [List.getLast?_concat, Char.ext (UInt32.toNat_inj.mp (hsame.trans hcode))]

/-! ## Texts of one shape -/

/-- What stands for a byte. -/
def wildcard (b : Char) : Char := if b = '/' then '/' else '?'

/-- What a byte has to be where a byte `b` was. -/
def classOf (b : Char) : CharClass := if b = '/' then .single '/' else .outside (.single '/')

theorem contains_classOf (b : Char) : (classOf b).contains b.toNat = true := by
  unfold classOf
  split
  · next h => rw [h, CharClass.contains_single]; rfl
  · next h => simpa [CharClass.contains, CharClass.contains_single] using h

def tokenOf (b : Char) : Token := if b = '/' then .literal '/' else .anyByte

theorem regex_tokenOf (b : Char) : (tokenOf b).regex = [.set (classOf b)] := by
  unfold tokenOf classOf
  split
  · have hslash : bytesOf "/" = ['/'] := by decide +kernel
    simp [Token.regex, hslash, byteSet]
  · rfl

theorem readTokens_wildcards {bs : List Char} {fuel : Nat} (hfuel : bs.length < fuel)
    (literalBrackets : Bool) (previous : Previous) (tokens : List Token) :
    readTokens fuel [] literalBrackets previous tokens (bs.map wildcard) =
      .ok ((bs.map tokenOf).reverse ++ tokens) := by
  induction bs generalizing fuel previous tokens with
  | nil =>
    obtain ⟨fuel, rfl⟩ := Nat.exists_eq_succ_of_ne_zero (Nat.ne_of_gt hfuel)
    rfl
  | cons b bs ih =>
    obtain ⟨fuel, rfl⟩ := Nat.exists_eq_succ_of_ne_zero (Nat.ne_of_gt (Nat.zero_lt_of_lt hfuel))
    have hrest : ∀ previous tokens,
        readTokens fuel [] literalBrackets previous tokens (bs.map wildcard) =
          .ok ((bs.map tokenOf).reverse ++ tokens) := ih (by simpa using hfuel)
    by_cases hb : b = '/'
    · subst hb
      simp [readTokens, wildcard, tokenOf, hrest]
    · simp [readTokens, wildcard, tokenOf, hb, hrest]

theorem sequence_eq_none_iff {rs : List Regex} : sequence rs = none ↔ rs = [] := by
  cases rs with
  | nil => simp [sequence]
  | cons r rest => cases h : sequence rest <;> simp [sequence, h]

/-- A text of the classes is taken, one byte after the other. -/
theorem ends_sequence {classes : List CharClass} {r : Regex}
    (h : sequence (classes.map .set) = some r) {bs : List Char}
    (hmatch : List.Forall₂ (fun s b => s.contains b.toNat = true) classes bs)
    (before after : List Char) :
    r.ends ⟨before, bs ++ after⟩ = [⟨bs.reverse ++ before, after⟩] := by
  induction hmatch generalizing r before with
  | nil => simp [sequence] at h
  | @cons s b classes bs hb hrest ih =>
    have hfirst : (Regex.set s).ends ⟨before, b :: bs ++ after⟩ = [⟨b :: before, bs ++ after⟩] := by
      simp [Regex.ends, hb]
    simp only [List.map_cons, sequence] at h
    cases hseq : sequence (classes.map .set) with
    | none =>
      rw [hseq] at h
      obtain rfl := Option.some.inj h
      obtain rfl : classes = [] := by simpa using sequence_eq_none_iff.mp hseq
      cases hrest
      exact hfirst
    | some rest =>
      rw [hseq] at h
      obtain rfl := Option.some.inj h
      rw [Regex.ends, hfirst, Regex.andThen, List.flatMap_singleton, ih hseq]
      simp [Regex.distinct]

/-- As many bytes are taken as there are classes. -/
theorem length_of_mem_ends {classes : List CharClass} {r : Regex}
    (h : sequence (classes.map .set) = some r) {c d : Cursor} (hd : d ∈ r.ends c) :
    c.after.length = classes.length + d.after.length := by
  induction classes generalizing r c with
  | nil => simp [sequence] at h
  | cons s classes ih =>
    have hfirst : ∀ {e : Cursor}, e ∈ (Regex.set s).ends c → c.after.length = e.after.length + 1 := by
      intro e he
      unfold Regex.ends at he
      split at he
      · next b rest hafter =>
        split at he
        · obtain rfl := List.mem_singleton.mp he
          simp [hafter]
        · simp at he
      · simp at he
    simp only [List.map_cons, sequence] at h
    cases hseq : sequence (classes.map .set) with
    | none =>
      rw [hseq] at h
      obtain rfl := Option.some.inj h
      obtain rfl : classes = [] := by simpa using sequence_eq_none_iff.mp hseq
      rw [hfirst hd]
      simp [Nat.add_comm]
    | some rest =>
      rw [hseq] at h
      obtain rfl := Option.some.inj h
      obtain ⟨e, he, hde⟩ := Regex.mem_ends_seq hd
      rw [hfirst he, ih hseq hde]
      simp
      omega

/-- A pattern of the shape of a text. -/
def shapeOf (s : String) : List Char := (bytesOf s).map wildcard

/-- The shape of a text that is no directory's ends with a `?`. -/
theorem exists_shapeOf_eq {s : String} (hne : s ≠ "") (hlast : s.toList.getLast? ≠ some '/') :
    ∃ cs, shapeOf s = cs ++ ['?'] := by
  have hbyte : (bytesOf s).getLast? ≠ some '/' := fun h =>
    hlast (getLast?_of_bytesOf (by decide) h)
  cases hbytes : bytesOf s using List.reverseRecOn with
  | nil =>
    have hsize := length_bytesOf s
    rw [hbytes] at hsize
    exact absurd (by simpa using hsize.symm) hne
  | append_singleton init b =>
    rw [hbytes, List.getLast?_concat] at hbyte
    have hb : b ≠ '/' := fun he => hbyte (by rw [he])
    exact ⟨init.map wildcard, by simp [shapeOf, hbytes, wildcard, hb]⟩

/-- What a pattern of the shape of a text matches. -/
structure IsShape (s : String) (p : Pattern) : Prop where
  self : accepts p s = true
  size : ∀ path, accepts p path = true → path.utf8ByteSize = s.utf8ByteSize

theorem aboutName_wildcards (bs : List Char) : aboutName (bs.map tokenOf) = false := by
  cases bs with
  | nil => rfl
  | cons b bs =>
    by_cases hb : b = '/' <;> simp [aboutName, tokenOf, hb]

theorem read_shapeOf {s : String} {r : Regex}
    (h : sequence (((bytesOf s).map classOf).map .set) = some r) :
    read (shapeOf s) = .ok ⟨r, false⟩ := by
  have htokens := readTokens_wildcards (Nat.lt_succ_self (bytesOf s).length) false none []
  have hregex : ((bytesOf s).map tokenOf).flatMap Token.regex =
      ((bytesOf s).map classOf).map .set := by
    rw [List.flatMap_map, List.map_map, List.map_eq_flatMap]
    simp only [regex_tokenOf, Function.comp_apply]
  have hleading : .leading ∉ (bytesOf s).reverse.map tokenOf := by
    simp only [List.mem_map, not_exists, not_and]
    intro b _ hb
    unfold tokenOf at hb
    split at hb <;> simp at hb
  unfold read
  rw [shapeOf, List.length_map, htokens, List.append_nil, ← List.map_reverse]
  split
  · next he => simp at he
  · next he =>
    rw [Except.ok.inj he] at hleading
    exact absurd List.mem_cons_self hleading
  · next tokens _ he =>
    obtain rfl := Except.ok.inj he
    rw [aboutName_wildcards, branch, ← List.map_reverse, List.reverse_reverse, hregex, h]
    rfl

/-- The pattern of the shape of a text matches it, and no text of another size. -/
theorem exists_read_shapeOf {s : String} (h : s ≠ "") :
    ∃ p, read (shapeOf s) = .ok p ∧ IsShape s p := by
  have hne : ((bytesOf s).map classOf).map Regex.set ≠ [] := by
    have hsize : 0 < (bytesOf s).length := by
      rw [length_bytesOf]
      simpa [Nat.pos_iff_ne_zero] using h
    simpa using List.ne_nil_of_length_pos hsize
  obtain ⟨r, hr⟩ := Option.ne_none_iff_exists'.mp fun hn => hne (sequence_eq_none_iff.mp hn)
  refine ⟨_, read_shapeOf hr, ?_, fun path hpath => ?_⟩
  · have hmatch : List.Forall₂ (fun s b => s.contains b.toNat = true) ((bytesOf s).map classOf)
        (bytesOf s) :=
      List.forall₂_map_left_iff.mpr (List.forall₂_same.mpr fun b _ => contains_classOf b)
    have hends := ends_sequence hr hmatch [] []
    rw [List.append_nil] at hends
    simp [accepts, Cursor.start, hends]
  · simp only [accepts, Bool.false_and, Bool.not_false, Bool.true_and, List.any_eq_true] at hpath
    obtain ⟨d, hd, hempty⟩ := hpath
    have hlength := length_of_mem_ends hr hd
    rw [List.isEmpty_iff.mp hempty] at hlength
    simpa [Cursor.start, length_bytesOf] using hlength

end Glob
end Stencil
