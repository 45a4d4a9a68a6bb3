import Stencil.Lockfile.Document
import Stencil.Proofs.Json.Grammar
import Stencil.Proofs.KeyMap

/-! A lockfile is read back from its own text: the text is one of those that the grammar gives to
its value. -/
namespace Stencil
namespace Lockfile

open Json

/-- The entries as a document has them. -/
def asFields (entries : List (String × UInt32)) : List (String × Json) :=
  entries.map fun e => (e.1, .number (.int e.2.toNat))

/-- The value that a lockfile writes. -/
def asJson (l : Lockfile) : Json :=
  .object [("version", .string l.version), ("files", .object (asFields l.files.entries))]

/-! ## The text is one of the value -/

theorem isSkipped_break (n : Nat) : IsSkipped ('\n' :: List.replicate n ' ') := by
  intro c hc
  rcases List.mem_cons.mp hc with rfl | hc
  · decide
  · rw [List.eq_of_mem_replicate hc]
    decide

theorem member_quote {key : String} {value : Form} {text : List Char} (h : value text) :
    Form.member (quoted key) value ((quote key).toList ++ ':' :: ' ' :: text) :=
  ⟨_, [], [' '], text, quoted_quote key, by simp [IsSkipped], by simp [IsSkipped], h, rfl⟩

/-- The text of the entries with the braces around them. -/
def filesText (files : KeyMap UInt32) : String :=
  if files.isEmpty then "\x7b\x7d"
  else "\x7b\n" ++ String.intercalate ",\n" (files.entries.map renderEntry) ++ "\n    \x7d"

/-- An entry is a member, behind the blanks that set it off. -/
theorem padded_renderEntry (e : String × UInt32) {after : List Char} (hafter : IsSkipped after) :
    Form.padded (.member (quoted e.1) (form (.number (.int e.2.toNat))))
      ('\n' :: (renderEntry e).toList ++ after) := by
  refine ⟨'\n' :: List.replicate 8 ' ', _, after, isSkipped_break 8, member_quote rfl, hafter, ?_⟩
  rw [toList_toString_natCast]
  simp [renderEntry]

theorem separated_entries {entries : List (String × UInt32)} (hne : entries ≠ []) :
    Form.separated (memberForms (asFields entries))
      ('\n' :: (String.intercalate ",\n" (entries.map renderEntry)).toList ++
        "\n    ".toList) := by
  induction entries with
  | nil => exact absurd rfl hne
  | cons e rest ih =>
    cases rest with
    | nil =>
      have hbreak : IsSkipped "\n    ".toList := by simp [IsSkipped]
      exact padded_renderEntry e hbreak
    | cons f rest =>
      have hblank : IsSkipped [] := by simp [IsSkipped]
      refine ⟨_, _, padded_renderEntry e hblank, ih (by simp), ?_⟩
      simp [String.intercalate_cons_cons]

theorem form_filesText (files : KeyMap UInt32) :
    form (.object (asFields files.entries)) (filesText files).toList := by
  unfold filesText
  split
  · next hempty =>
    have hnil : files.entries = [] := by simpa [KeyMap.isEmpty] using hempty
    rw [hnil]
    exact ⟨[], by simp [asFields, memberForms, Form.separated, IsSkipped], by simp⟩
  · next hempty =>
    have hne : files.entries ≠ [] := by simpa [KeyMap.isEmpty] using hempty
    exact ⟨_, separated_entries hne, by simp⟩

theorem isText_render (l : Lockfile) : IsText l.asJson l.render := by
  have hbreak : IsSkipped "\n    ".toList := by simp [IsSkipped]
  have hblank : IsSkipped [] := by simp [IsSkipped]
  have hend : IsSkipped ['\n'] := by simp [IsSkipped]
  have hversion : Form.padded (.member (quoted "version") (form (.string l.version)))
      ("\n    ".toList ++ ((quote "version").toList ++ ':' :: ' ' :: (quote l.version).toList)) :=
    ⟨_, _, [], hbreak, member_quote (quoted_quote l.version), hblank, by simp⟩
  have hfiles : Form.padded (.member (quoted "files") (form (.object (asFields l.files.entries))))
      ("\n    ".toList ++ ((quote "files").toList ++ ':' :: ' ' :: (filesText l.files).toList ++
        ['\n'])) :=
    ⟨_, _, ['\n'], hbreak, member_quote (form_filesText l.files), hend, by simp⟩
  refine ⟨[], _, ['\n'], hblank, ⟨_, ⟨_, _, hversion, hfiles, rfl⟩, rfl⟩, hend, ?_⟩
  have htext : l.render = "\x7b\n    \"version\": " ++ quote l.version ++ ",\n    \"files\": " ++
      filesText l.files ++ "\n\x7d\n" := rfl
  rw [htext]
  simp [quote, escapeChar]

/-! ## The text is read -/

theorem reads_asFields (depth : Nat) (entries : List (String × UInt32)) :
    Reads (depth + 1) (.object (asFields entries)) := by
  refine reads_object fun e he => ?_
  obtain ⟨f, -, rfl⟩ := List.mem_map.mp he
  have hlt := f.2.toNat_lt
  exact reads_natCast depth (by simp only [Number.greatest]; omega)

theorem readRaw?_render (l : Lockfile) : readRaw? l.render = some l.asJson := by
  refine readRaw?_of_isText (reads_object fun e he => ?_) (isText_render l)
  simp only [List.mem_cons, List.not_mem_nil, or_false] at he
  rcases he with rfl | rfl
  · exact reads_string _ _
  · exact reads_asFields _ _

theorem fingerprint?_eq_some_iff {v : Json} {f : UInt32} :
    fingerprint? v = some f ↔ v = .number (.int f.toNat) := by
  constructor
  · intro h
    unfold fingerprint? at h
    split at h
    · next n =>
      split at h
      · next hrange =>
        obtain rfl := Option.some.inj h
        have hlt : n.toNat < UInt32.size := by omega
        rw [UInt32.toNat_ofNat_of_lt' hlt, Int.toNat_of_nonneg hrange.1]
      · cases h
    · cases h
  · rintro rfl
    have hrange : (0 : Int) ≤ f.toNat ∧ ((f.toNat : Nat) : Int) < UInt32.size :=
      ⟨Int.natCast_nonneg _, Int.ofNat_lt.mpr f.toNat_lt⟩
    rw [fingerprint?, if_pos hrange]
    simp

/-- Fields are the entries of a lockfile where every value is a fingerprint. -/
theorem mapM_fingerprint?_eq_some_iff {fields : List (String × Json)}
    {entries : List (String × UInt32)} :
    fields.mapM (fun e => (fingerprint? e.2).map (e.1, ·)) = some entries ↔
      fields = asFields entries := by
  induction fields generalizing entries with
  | nil => cases entries <;> simp [asFields]
  | cons e rest ih =>
    obtain ⟨key, v⟩ := e
    rw [List.mapM_cons]
    simp only [Option.bind_eq_bind, Option.bind_eq_some_iff, Option.map_eq_some_iff,
      fingerprint?_eq_some_iff, ih]
    constructor
    · rintro ⟨e, ⟨f, rfl, rfl⟩, more, rfl, heq⟩
      obtain rfl := Option.some.inj heq
      rfl
    · intro h
      cases entries with
      | nil => cases h
      | cons e entries =>
        obtain ⟨hfirst, hrest⟩ := List.cons.inj h
        obtain ⟨rfl, rfl⟩ := Prod.mk.inj hfirst
        exact ⟨e, ⟨e.2, rfl, rfl⟩, entries, hrest, rfl⟩

theorem files?_eq_some_iff {v : Json} {files : KeyMap UInt32} :
    files? v = some files ↔
      ∃ entries, v = .object (asFields entries) ∧ files = .ofList entries := by
  constructor
  · intro h
    unfold files? at h
    split at h
    · obtain ⟨entries, hentries, rfl⟩ := Option.map_eq_some_iff.mp h
      exact ⟨entries, congrArg _ (mapM_fingerprint?_eq_some_iff.mp hentries), rfl⟩
    · cases h
  · rintro ⟨entries, rfl, rfl⟩
    rw [files?, mapM_fingerprint?_eq_some_iff.mpr rfl]
    rfl

theorem ofJson?_asJson (l : Lockfile) : ofJson? l.asJson = some l := by
  have hfiles : files? (.object (asFields l.files.entries)) = some l.files :=
    files?_eq_some_iff.mpr ⟨_, rfl, (KeyMap.ofList_entries l.files).symm⟩
  simp [ofJson?, asJson, version?, hfiles]

theorem fromUTF8?_toUTF8 (s : String) : String.fromUTF8? s.toUTF8 = some s :=
  dif_pos s.isValidUTF8

theorem toUTF8_inj {s text : String} : s.toUTF8 = text.toUTF8 ↔ s = text := by
  refine ⟨fun h => ?_, fun h => h ▸ rfl⟩
  have hdecoded := congrArg String.fromUTF8? h
  rwa [fromUTF8?_toUTF8, fromUTF8?_toUTF8, Option.some.injEq] at hdecoded

/-- A lockfile of the running version is loaded from the bytes it is saved as. -/
theorem ofBytes_render (path : String) (l : Lockfile) (h : l.version = runningVersion) :
    ofBytes path l.render.toUTF8 = .valid l := by
  rw [ofBytes, fromUTF8?_toUTF8, Option.bind_some, readRaw?_render, Option.bind_some,
    ofJson?_asJson]
  exact if_pos h

end Lockfile
end Stencil
