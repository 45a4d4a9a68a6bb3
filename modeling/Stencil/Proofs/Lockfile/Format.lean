import Mathlib.Data.List.Permutation
import Stencil.Proofs.Json.Grammar
import Stencil.Proofs.Lockfile.RoundTrip

/-! Which contents are loaded as a lockfile. Main statement: the documents of exactly the two keys,
with the running version and fingerprints of 32 bits, and besides these only the list of the two
values. -/
namespace Stencil

theorem KeyMap.eq_ofList_iff {m : KeyMap α} {entries : List (String × α)} :
    m = .ofList entries ↔ ∀ key, m.get? key = entries.reverse.lookup key := by
  simp only [← get?_ofList]
  exact ⟨fun h key => by rw [h], ext_get?⟩

namespace Lockfile

open Json

theorem version?_eq_some_iff {v : Json} {version : String} :
    version? v = some version ↔ v = .string version := by
  cases v <;> simp [version?]

/-- The fields of a lockfile of these entries as they were given, repeated ones and all. -/
def fieldsOf (version : String) (entries : List (String × UInt32)) : List (String × Json) :=
  [("version", .string version), ("files", .object (asFields entries))]

theorem parts_eq_some_iff {v f : Json} {l : Lockfile} :
    (do some ⟨← version? v, ← files? f⟩ : Option Lockfile) = some l ↔
      ∃ entries, l.files = .ofList entries ∧ v = .string l.version ∧
        f = .object (asFields entries) := by
  simp only [Option.bind_eq_bind, Option.bind_eq_some_iff, version?_eq_some_iff,
    files?_eq_some_iff]
  constructor
  · rintro ⟨version, rfl, files, ⟨entries, rfl, rfl⟩, heq⟩
    obtain rfl := Option.some.inj heq
    exact ⟨entries, rfl, rfl, rfl⟩
  · rintro ⟨entries, hfiles, rfl, rfl⟩
    exact ⟨l.version, rfl, l.files, ⟨entries, rfl, hfiles⟩, rfl⟩

/-- The values read as a lockfile: an object of the two keys, or a list in its place. -/
theorem ofJson?_eq_some_iff {v : Json} {l : Lockfile} :
    ofJson? v = some l ↔ ∃ entries, l.files = .ofList entries ∧
      ((∃ fields, fields.Perm (fieldsOf l.version entries) ∧ v = .object fields) ∨
        v = .array [.string l.version, .object (asFields entries)]) := by
  constructor
  · intro h
    unfold ofJson? at h
    split at h
    · obtain ⟨entries, hfiles, rfl, rfl⟩ := parts_eq_some_iff.mp h
      exact ⟨entries, hfiles, .inl ⟨_, .refl _, rfl⟩⟩
    · obtain ⟨entries, hfiles, rfl, rfl⟩ := parts_eq_some_iff.mp h
      exact ⟨entries, hfiles, .inl ⟨_, .swap _ _ _, rfl⟩⟩
    · obtain ⟨entries, hfiles, rfl, rfl⟩ := parts_eq_some_iff.mp h
      exact ⟨entries, hfiles, .inr rfl⟩
    · cases h
  · rintro ⟨entries, hfiles, ⟨fields, hfields, rfl⟩ | rfl⟩
    · rcases List.perm_pair.mp hfields with rfl | rfl
      · exact parts_eq_some_iff.mpr ⟨entries, hfiles, rfl, rfl⟩
      · exact parts_eq_some_iff.mpr ⟨entries, hfiles, rfl, rfl⟩
    · exact parts_eq_some_iff.mpr ⟨entries, hfiles, rfl, rfl⟩

/-! ## The texts -/

/-- The text of an object of the two keys, each given once, in either order. -/
def IsDocument (entries : List (String × UInt32)) (text : String) : Prop :=
  ∃ fields, fields.Perm (fieldsOf runningVersion entries) ∧ IsText (.object fields) text

/-- The text of a list of the two values that belong to the keys. -/
def IsPair (entries : List (String × UInt32)) (text : String) : Prop :=
  IsText (.array [.string runningVersion, .object (asFields entries)]) text

theorem readRaw?_object_iff {version : String} {entries : List (String × UInt32)}
    {fields : List (String × Json)} (h : fields.Perm (fieldsOf version entries)) {text : String} :
    readRaw? text = some (.object fields) ↔ IsText (.object fields) text := by
  refine ⟨isText_of_readRaw?, readRaw?_of_isText (reads_object fun e he => ?_)⟩
  have hmem : e ∈ fieldsOf version entries := h.subset he
  simp only [fieldsOf, List.mem_cons, List.not_mem_nil, or_false] at hmem
  rcases hmem with rfl | rfl
  · exact reads_string _ _
  · exact reads_asFields _ _

theorem readRaw?_array_iff {entries : List (String × UInt32)} {text version : String} :
    readRaw? text = some (.array [.string version, .object (asFields entries)]) ↔
      IsText (.array [.string version, .object (asFields entries)]) text := by
  refine ⟨isText_of_readRaw?, readRaw?_of_isText (reads_array fun v hv => ?_)⟩
  simp only [List.mem_cons, List.not_mem_nil, or_false] at hv
  rcases hv with rfl | rfl
  · exact reads_string _ _
  · exact reads_asFields _ _

theorem toUTF8_of_fromUTF8? {bytes : ByteArray} {text : String}
    (h : String.fromUTF8? bytes = some text) : bytes = text.toUTF8 := by
  unfold String.fromUTF8? at h
  split at h
  · obtain rfl := Option.some.inj h
    rfl
  · cases h

theorem ofBytes_eq_valid_iff {path : String} {bytes : ByteArray} {l : Lockfile} :
    ofBytes path bytes = .valid l ↔ l.version = runningVersion ∧
      ∃ text entries, bytes = text.toUTF8 ∧ (IsDocument entries text ∨ IsPair entries text) ∧
        l.files = .ofList entries := by
  constructor
  · intro h
    unfold ofBytes at h
    split at h
    · next m hread =>
      split at h
      · next hversion =>
        obtain rfl := Loaded.valid.inj h
        obtain ⟨v, hv, hof⟩ := Option.bind_eq_some_iff.mp hread
        obtain ⟨text, htext, hraw⟩ := Option.bind_eq_some_iff.mp hv
        obtain ⟨entries, hfiles, hshape⟩ := ofJson?_eq_some_iff.mp hof
        refine ⟨hversion, text, entries, toUTF8_of_fromUTF8? htext, ?_, hfiles⟩
        rw [hversion] at hshape
        rcases hshape with ⟨fields, hfields, rfl⟩ | rfl
        · exact .inl ⟨fields, hfields, (readRaw?_object_iff hfields).mp hraw⟩
        · exact .inr (readRaw?_array_iff.mp hraw)
      · cases h
    · cases h
  · rintro ⟨hversion, text, entries, rfl, hshape, hfiles⟩
    obtain ⟨v, hraw, hof⟩ : ∃ v, readRaw? text = some v ∧ ofJson? v = some l := by
      rcases hshape with ⟨fields, hfields, htext⟩ | htext
      · exact ⟨_, (readRaw?_object_iff hfields).mpr htext, ofJson?_eq_some_iff.mpr
          ⟨entries, hfiles, .inl ⟨fields, hversion ▸ hfields, rfl⟩⟩⟩
      · exact ⟨_, readRaw?_array_iff.mpr htext, ofJson?_eq_some_iff.mpr
          ⟨entries, hfiles, .inr (hversion ▸ rfl)⟩⟩
    rw [ofBytes, fromUTF8?_toUTF8, Option.bind_some, hraw, Option.bind_some, hof]
    exact if_pos hversion

/-- What is loaded as a lockfile: the text of an object of the two keys or of a list of their
values, each file then mapped to the last fingerprint the text gives it. So of the contents that are
no list these objects alone are loaded. Any other content is discarded with a reason. -/
theorem load_of_content {t : FileTree} {p : Path} {bytes : ByteArray}
    (h : t.readBytes p = .ok bytes) :
    (∀ l, load t p = .valid l ↔ l.version = runningVersion ∧
      ∃ text entries, bytes = text.toUTF8 ∧ (IsDocument entries text ∨ IsPair entries text) ∧
        ∀ key, l.files.get? key = entries.reverse.lookup key) ∧
    ((∀ text items, bytes = text.toUTF8 → ¬ IsText (.array items) text) →
      ∀ l, load t p = .valid l ↔ l.version = runningVersion ∧
        ∃ text entries, bytes = text.toUTF8 ∧ IsDocument entries text ∧
          ∀ key, l.files.get? key = entries.reverse.lookup key) ∧
    ∀ parserText, (∀ l, load t p ≠ .valid l) → ((load t p).reason? parserText).isSome = true := by
  have hload : load t p = ofBytes p.text bytes := by rw [load, h]
  have hvalid : ∀ l, load t p = .valid l ↔ l.version = runningVersion ∧
      ∃ text entries, bytes = text.toUTF8 ∧ (IsDocument entries text ∨ IsPair entries text) ∧
        ∀ key, l.files.get? key = entries.reverse.lookup key := by
    intro l
    simp only [hload, ofBytes_eq_valid_iff, KeyMap.eq_ofList_iff]
  refine ⟨hvalid, fun hlist l => ?_, fun parserText hinvalid => ?_⟩
  · rw [hvalid]
    refine and_congr_right fun _ => exists_congr fun text => exists_congr fun entries =>
      and_congr_right fun htext => and_congr_left fun _ => or_iff_left (hlist text _ htext)
  · rw [hload] at hinvalid ⊢
    unfold ofBytes at hinvalid ⊢
    split
    · split
      · next l _ hversion => exact absurd (by simp [*]) (hinvalid l)
      · rfl
    · rfl

/-- A directory with nothing but a lockfile of this content. -/
def holding (text : String) : FileTree := ⟨[], [([fileName], .file text.toUTF8)]⟩

/-- The keys in the other order and one of them escaped, and an entry given twice. -/
def written : String :=
  "\x7b\"files\": \x7b\"a\": 1, \"b\" : 4294967295,\n\"a\":2\x7d, \"v\\u0065rsion\":\"0.1.0\"\x7d\n"

theorem load_of_content_written :
    (holding written).readBytes ⟨fileName⟩ = .ok written.toUTF8 ∧
      load (holding written) ⟨fileName⟩ =
        .valid ⟨runningVersion, .ofList [("a", 2), ("b", 4294967295)]⟩ ∧
      ∃ text entries, written.toUTF8 = text.toUTF8 ∧ IsDocument entries text ∧
        ∀ key, (KeyMap.ofList [("a", 2), ("b", 4294967295)]).get? key =
          entries.reverse.lookup key := by
  have hread : (holding written).readBytes ⟨fileName⟩ = .ok written.toUTF8 := by decide +kernel
  have hload : load (holding written) ⟨fileName⟩ =
      .valid ⟨runningVersion, .ofList [("a", 2), ("b", 4294967295)]⟩ := by decide +kernel
  have hlist : ∀ text items, written.toUTF8 = text.toUTF8 → ¬ IsText (.array items) text := by
    intro text items htext hitems
    obtain rfl : written = text := toUTF8_inj.mp htext
    exact absurd (head?_skip_of_isText_array hitems) (by decide +kernel)
  exact ⟨hread, hload, (((load_of_content hread).2.1 hlist _).mp hload).2⟩

/-- The two values without their keys. -/
def listed : String := "[\"0.1.0\", \x7b\x7d]"

/-- A list is loaded, though it is no object of the two keys. -/
theorem list_loaded :
    load (holding listed) ⟨fileName⟩ = .valid new ∧
      ∀ text fields, listed.toUTF8 = text.toUTF8 → ¬ IsText (.object fields) text := by
  refine ⟨by decide +kernel, fun text fields htext hfields => ?_⟩
  obtain rfl : listed = text := toUTF8_inj.mp htext
  exact absurd (head?_skip_of_isText_object hfields) (by decide +kernel)

end Lockfile
end Stencil
