import Stencil.Proofs.Run.Refinement

/-! Lock keys and the root templates that they stand for. A key put after the root is the path of
its root template exactly if no name on the way from the root has a backslash. As long as that is so,
keys tell root templates apart: no render is taken over from another template, and no entry is
pruned whose template is there. -/
namespace Stencil

namespace Locator

open FileTree Stencil.Path

/-- The names that lead from the root to a root template, from which it is spelt and stored. -/
structure NamedBy (l : Locator) (t : FileTree) (located : Located) (names : List String) :
    Prop where
  isName : ∀ n ∈ names, IsName n
  rootTemplate : located.rootTemplate = l.root.join (ofNames names)
  lockKey : located.lockKey = stored (ofNames names)
  target? : t.target? located.rootTemplate .followed = some (l.location ++ names)

/-- Whether a selected file is a root template itself or points at one, its root template is named
by where it really is. -/
theorem Finds.exists_namedBy {l : Locator} {t : FileTree} {spec : IgnoreSpec} {files : List String}
    {relative : String} {located : Located} (hr : Rooted t l.root l.location)
    (hs : Selection.files t spec l.root = .ok files) (hmem : relative ∈ files)
    (h : Finds l t relative located) : ∃ names, NamedBy l t located names := by
  have hread := h.readText
  obtain ⟨names, bytes, hfile, hspelt, hstored⟩ : ∃ names bytes,
      t.get? (l.location ++ names) = some (.file bytes) ∧
      located.rootTemplate = l.root.join (ofNames names) ∧
      located.lockKey = stored (ofNames names) := by
    cases h with
    | inPlace =>
      obtain ⟨names, bytes, -, rfl, hfile⟩ := Selection.exists_names_of_mem_files hr hs hmem
      exact ⟨names, bytes, hfile, rfl, rfl⟩
    | child _ _ _ hpoints =>
      obtain ⟨bytes, -, hfile⟩ := hpoints.exists_file hr.wellFormed
      exact ⟨_, bytes, hfile, rfl, rfl⟩
  have hne : names ≠ [] := by
    rintro rfl
    rw [List.append_nil, hr.directory] at hfile
    simp at hfile
  have hnames : ∀ n ∈ names, IsName n := fun n hn =>
    hr.wellFormed.names_of_isSome (Option.isSome_of_eq_some hfile) n (by simp [hn])
  refine ⟨names, hnames, hspelt, hstored, ?_⟩
  rw [hspelt] at hread ⊢
  exact hr.target?_join hne hfile (admissible_of_readText hread)

/-- What a child points at is where its root template is. -/
theorem Finds.target?_pointer {l : Locator} {t : FileTree} {relative contents pointer : String}
    {located : Located} (h : Finds l t relative located) (hr : Rooted t l.root l.location)
    (hread : t.readText located.source = .ok contents)
    (hpointer : l.pointer? contents = some pointer) :
    t.target? (l.root.join pointer) .followed = t.target? located.rootTemplate .followed := by
  cases h with
  | inPlace _ hread' hnone =>
    obtain rfl := Except.ok.inj (hread.symm.trans hread')
    simp [hpointer] at hnone
  | child _ hread' hpointer' hpoints htext =>
    obtain rfl := Except.ok.inj (hread.symm.trans hread')
    obtain rfl := Option.some.inj (hpointer.symm.trans hpointer')
    obtain ⟨htarget, -⟩ := (canonicalize_eq_ok_iff _ _).mp hpoints.canonicalize
    obtain ⟨bytes, -, hfile⟩ := hpoints.exists_file hr.wellFormed
    refine htarget.trans (hr.target?_join (fun hnil => ?_) hfile
      (admissible_of_readText htext)).symm
    rw [hnil, List.append_nil, hr.directory] at hfile
    simp at hfile

namespace NamedBy

variable {l : Locator} {t : FileTree} {a b : Located} {names others : List String}

/-- A key leads back to its root template if no name was changed to store it. -/
theorem join_lockKey_iff (h : NamedBy l t a names) :
    l.root.join a.lockKey = a.rootTemplate ↔ ∀ n ∈ names, '\\' ∉ n.toList := by
  rw [h.lockKey, h.rootTemplate, join_stored_iff (ofNames_not_startsWith h.isName)]
  constructor
  · exact fun hfree n hn hc => hfree (subset_ofNames hn hc)
  · intro hfree hc
    rcases mem_ofNames hc with hslash | ⟨n, hn, hc⟩
    · exact absurd hslash (by decide)
    · exact hfree n hn hc

theorem rootTemplate_eq_iff (ha : NamedBy l t a names) (hb : NamedBy l t b others) :
    a.rootTemplate = b.rootTemplate ↔
      t.target? a.rootTemplate .followed = t.target? b.rootTemplate .followed := by
  constructor
  · exact fun h => by rw [h]
  · rw [ha.target?, hb.target?, ha.rootTemplate, hb.rootTemplate]
    intro h
    rw [List.append_cancel_left (Option.some.inj h)]

theorem lockKey_eq_of_target? (ha : NamedBy l t a names) (hb : NamedBy l t b others)
    (h : t.target? a.rootTemplate .followed = t.target? b.rootTemplate .followed) :
    a.lockKey = b.lockKey := by
  rw [ha.target?, hb.target?] at h
  rw [ha.lockKey, hb.lockKey, List.append_cancel_left (Option.some.inj h)]

end NamedBy
end Locator

namespace Run

open FileTree Lockfile

variable {t : FileTree} {root : Path} {context : KeyMap Json} {engine : Engine} {o : Options}
  {s : Setting} {files : List String} {qs : List Product}

/-- No name on the way from the root to the root template has a backslash. -/
def HasPlainNames (s : Setting) (located : Located) : Prop :=
  ∀ loc ∈ s.tree.target? located.rootTemplate .followed,
    ∀ n ∈ loc.drop s.locator.location.length, '\\' ∉ n.toList

instance (s : Setting) (located : Located) : Decidable (HasPlainNames s located) := by
  unfold HasPlainNames
  infer_instance

/-- The templates that are located in some files. -/
def IsLocated (s : Setting) (files : List String) (located : Located) : Prop :=
  ∃ relative ∈ files, s.locator.locate s.tree relative = .ok (some located)

/-- Among the templates in some files, those with the same key have the same root template. -/
def TellsApart (s : Setting) (files : List String) : Prop :=
  ∀ a b, IsLocated s files a → IsLocated s files b → a.lockKey = b.lockKey →
    a.rootTemplate = b.rootTemplate

theorem IsLocated.readText {a : Located} (h : IsLocated s files a) :
    s.tree.readText a.rootTemplate = .ok a.text := by
  obtain ⟨relative, -, hl⟩ := h
  exact (Locator.locate_eq_some_iff.mp hl).readText

section

variable (hw : WellFormed t) (hp : prepare t root context engine o = .ok s)
  (hs : Selection.files t s.ignore root = .ok files)

include hw hp hs

theorem exists_namedBy {a : Located} (ha : IsLocated s files a) :
    ∃ names, Locator.NamedBy s.locator s.tree a names := by
  obtain ⟨relative, hr, hl⟩ := ha
  obtain ⟨marker, top, ignore, hdirectory, htop, -, -, rfl⟩ := prepare_eq_ok_iff.mp hp
  have hrooted : Rooted t root top := ⟨hw, resolve_eq_found hdirectory htop⟩
  exact (Locator.locate_eq_some_iff.mp hl).exists_namedBy hrooted hs hr

theorem join_lockKey_iff {a : Located} (ha : IsLocated s files a) :
    root.join a.lockKey = a.rootTemplate ↔ HasPlainNames s a := by
  obtain ⟨names, h⟩ := exists_namedBy hw hp hs ha
  have hroot : s.locator.root = root := by
    obtain ⟨_, _, _, -, -, -, -, rfl⟩ := prepare_eq_ok_iff.mp hp
    rfl
  rw [← hroot, h.join_lockKey_iff, HasPlainNames, h.target?]
  simp

end

/-- Where keys tell root templates apart, renders taken over are the templates' own. -/
theorem recalled_eq_naive_of_tellsApart (h : TellsApart s files) :
    recalled s [] files = naive s files := by
  refine recalled_eq_naive_of_text (P := IsLocated s files) (fun a b ha hb hkey => ?_)
    (fun relative hr _ located hl => ⟨relative, hr, hl⟩) (by simp)
  have hread := ha.readText
  rw [h a b ha hb hkey, hb.readText] at hread
  exact (Except.ok.inj hread).symm

/-- After a walk in which keys tell root templates apart, the memo has for every template its own
render, and every output that is pending is to get the render of its own template. -/
theorem own_renders_of_tellsApart (hp : prepare t root context engine o = .ok s)
    (h : TellsApart s files) {p : Progress}
    (hc : (collect s 0 { cache := (Cache.open t root o.force).1 } files).2 = .ok p) :
    (∀ x ∈ files, isLockfile x = false → ∀ a, s.locator.locate s.tree x = .ok (some a) →
      ∃ text, engine a.text context = .ok text ∧
        p.renders.get? a.lockKey = some ⟨text, fingerprint text⟩) ∧
    ∀ e ∈ p.pending, ∃ a, IsLocated s files a ∧ e.1 = a.output ∧
      engine a.text context = .ok e.2 := by
  obtain ⟨qs, hqs, rfl⟩ := (collect_ok_iff hp p).mp hc
  have hnaive : naive s files = .ok qs := recalled_eq_naive_of_tellsApart h ▸ hqs
  have hone : OneTextEach qs := oneTextEach_recalled (by simp [OneTextEach]) hqs
  have hown : ∀ q ∈ qs, IsLocated s files q.located ∧
      engine q.located.text context = .ok q.text := by
    intro q hq
    obtain ⟨relative, hr, -, hl, htext⟩ := exists_of_mem_naive hnaive hq
    obtain ⟨_, _, _, -, -, -, -, rfl⟩ := prepare_eq_ok_iff.mp hp
    exact ⟨⟨relative, hr, hl⟩, htext⟩
  refine ⟨fun x hx hlock a ha => ?_, fun e he => ?_⟩
  · have hsource := isSource_of_finds hlock (Locator.locate_eq_some_iff.mp ha)
    obtain ⟨q, hq, hl⟩ := exists_mem_of_isSource hqs hx hsource
    obtain rfl := (Locator.locate_eq_some_iff.mp hl).unique (Locator.locate_eq_some_iff.mp ha)
    exact ⟨q.text, (hown q hq).2, renders_foldl hone _ hq⟩
  · have hwrites : e ∈ writes t root o qs := by
      rw [← pending_gathered]
      exact List.mem_reverse.mpr he
    obtain ⟨q, hq, rfl⟩ := List.mem_map.mp hwrites
    obtain ⟨hl, htext⟩ := hown q (List.mem_of_mem_filter hq)
    exact ⟨q.located, hl, rfl, htext⟩

/-- An entry is pruned only if its key leads to nothing. -/
theorem fingerprintOf_applyStaged (cache : Cache) {key : String}
    (h : t.exists? (root.join key) = true) :
    (cache.applyStaged (Cache.present t root)).fingerprintOf key =
      (cache.staged.get? key).or (cache.fingerprintOf key) := by
  rw [Cache.fingerprintOf_applyStaged, Cache.present, if_pos h]

/-- Root templates are told apart by their keys, and found by them, exactly as far as no name on the
way to them has a backslash. Then the entries of templates that are there are never pruned; and
where keys tell root templates apart, no template gets the render of another. -/
theorem lockKey_identifies_rootTemplate (hw : WellFormed t)
    (hp : prepare t root context engine o = .ok s)
    (hs : Selection.files t s.ignore root = .ok files) :
    (∀ a b, IsLocated s files a → IsLocated s files b →
      (root.join a.lockKey = a.rootTemplate ↔ HasPlainNames s a) ∧
      (a.rootTemplate = b.rootTemplate ↔
        t.target? a.rootTemplate .followed = t.target? b.rootTemplate .followed) ∧
      (a.rootTemplate = b.rootTemplate → a.lockKey = b.lockKey) ∧
      (HasPlainNames s a → HasPlainNames s b → a.lockKey = b.lockKey →
        a.rootTemplate = b.rootTemplate)) ∧
    (∀ a, IsLocated s files a → HasPlainNames s a → ∀ cache : Cache,
      (cache.applyStaged (Cache.present t root)).fingerprintOf a.lockKey =
        (cache.staged.get? a.lockKey).or (cache.fingerprintOf a.lockKey)) ∧
    (TellsApart s files → ∀ p,
      (collect s 0 { cache := (Cache.open t root o.force).1 } files).2 = .ok p →
        (∀ x ∈ files, isLockfile x = false → ∀ a, s.locator.locate t x = .ok (some a) →
          ∃ text, engine a.text context = .ok text ∧
            p.renders.get? a.lockKey = some ⟨text, fingerprint text⟩) ∧
        ∀ e ∈ p.pending, ∃ a, IsLocated s files a ∧ e.1 = a.output ∧
          engine a.text context = .ok e.2) := by
  obtain rfl := tree_of_prepare hp
  refine ⟨fun a b ha hb => ?_, fun a ha hplain cache => ?_,
    fun h p hc => own_renders_of_tellsApart hp h hc⟩
  · obtain ⟨names, hna⟩ := exists_namedBy hw hp hs ha
    obtain ⟨others, hnb⟩ := exists_namedBy hw hp hs hb
    have hsame := hna.rootTemplate_eq_iff hnb
    refine ⟨join_lockKey_iff hw hp hs ha, hsame,
      fun h => hna.lockKey_eq_of_target? hnb (hsame.mp h), fun hpa hpb h => ?_⟩
    rw [← (join_lockKey_iff hw hp hs ha).mpr hpa, ← (join_lockKey_iff hw hp hs hb).mpr hpb, h]
  · refine fingerprintOf_applyStaged cache ?_
    obtain ⟨bytes, hbytes, -⟩ := (readText_eq_ok_iff _ _).mp ha.readText
    rw [(join_lockKey_iff hw hp hs ha).mpr hplain, exists?_eq]
    exact Option.isSome_of_eq_some hbytes

/-- A template in a directory, and one beside the directory with a backslash in its name. -/
def twoSeparators : FileTree :=
  ⟨["w"], [(["w"], .directory), (["w", "a"], .directory),
    (["w", "a", "b.etch.txt"], .file "one".toUTF8), (["w", "a\\b.etch.txt"], .file "two".toUTF8)]⟩

theorem wellFormed_twoSeparators : WellFormed twoSeparators :=
  .of_entries rfl (by simp [twoSeparators, get?, find?]; decide)

set_option maxRecDepth 100000

/-- What is located of the template in the directory. -/
def inDirectory : Located :=
  ⟨⟨"./a/b.etch.txt"⟩, ⟨"./a/b.txt"⟩, ⟨"./a/b.etch.txt"⟩, "a/b.etch.txt", .inPlace, "one"⟩

/-- What is located of the template beside the directory. -/
def besideDirectory : Located :=
  ⟨⟨"./a\\b.etch.txt"⟩, ⟨"./a\\b.txt"⟩, ⟨"./a\\b.etch.txt"⟩, "a/b.etch.txt", .inPlace, "two"⟩

theorem located_twoSeparators : ∃ s, prepare twoSeparators ⟨"."⟩ .empty verbatim {} = .ok s ∧
    Selection.files twoSeparators s.ignore ⟨"."⟩ = .ok ["a/b.etch.txt", "a\\b.etch.txt"] ∧
    s.locator.locate s.tree "a/b.etch.txt" = .ok (some inDirectory) ∧
    s.locator.locate s.tree "a\\b.etch.txt" = .ok (some besideDirectory) ∧
    HasPlainNames s inDirectory := by
  have hcheck : (match prepare twoSeparators ⟨"."⟩ .empty verbatim {} with
      | .ok s => decide (
          Selection.files twoSeparators s.ignore ⟨"."⟩ = .ok ["a/b.etch.txt", "a\\b.etch.txt"] ∧
          s.locator.locate s.tree "a/b.etch.txt" = .ok (some inDirectory) ∧
          s.locator.locate s.tree "a\\b.etch.txt" = .ok (some besideDirectory) ∧
          HasPlainNames s inDirectory)
      | .error _ => false) = true := by decide +kernel
  split at hcheck
  · next s hs => exact ⟨s, hs, of_decide_eq_true hcheck⟩
  · simp at hcheck

theorem lockKey_identifies_inDirectory :
    ∃ s, prepare twoSeparators ⟨"."⟩ .empty verbatim {} = .ok s ∧ HasPlainNames s inDirectory ∧
      Path.join ⟨"."⟩ inDirectory.lockKey = inDirectory.rootTemplate ∧
      ∀ cache : Cache, (cache.applyStaged (Cache.present twoSeparators ⟨"."⟩)).fingerprintOf
        inDirectory.lockKey =
          (cache.staged.get? inDirectory.lockKey).or (cache.fingerprintOf inDirectory.lockKey) := by
  obtain ⟨s, hs, hfiles, hl, -, hplain⟩ := located_twoSeparators
  have hlocated : IsLocated s ["a/b.etch.txt", "a\\b.etch.txt"] inDirectory :=
    ⟨_, by simp, hl⟩
  obtain ⟨hboth, hpruned, -⟩ :=
    lockKey_identifies_rootTemplate wellFormed_twoSeparators hs hfiles
  exact ⟨s, hs, hplain, (hboth _ _ hlocated hlocated).1.mpr hplain,
    hpruned _ hlocated hplain⟩

/-- With a backslash in a name two root templates have the same key, and the render of one is written
for the other. -/
theorem backslash_shares_lockKey :
    (¬ ∀ (t : FileTree) (root : Path) (context : KeyMap Json) (engine : Engine) (o : Options)
      (s : Setting) (files : List String), WellFormed t →
      prepare t root context engine o = .ok s → Selection.files t s.ignore root = .ok files →
      ∀ a b, IsLocated s files a → IsLocated s files b →
        (a.lockKey = b.lockKey ↔ a.rootTemplate = b.rootTemplate)) ∧
    (run Writer.disk twoSeparators ⟨"."⟩ .empty verbatim {} ()).tree.readText
      besideDirectory.output = .ok inDirectory.text := by
  refine ⟨fun h => ?_, by decide +kernel⟩
  obtain ⟨s, hs, hfiles, hin, hbeside, -⟩ := located_twoSeparators
  have hsame := (h _ _ _ _ _ s _ wellFormed_twoSeparators hs hfiles inDirectory besideDirectory
    ⟨_, by simp, hin⟩ ⟨_, by simp, hbeside⟩).mp rfl
  revert hsame
  decide

end Run
end Stencil
