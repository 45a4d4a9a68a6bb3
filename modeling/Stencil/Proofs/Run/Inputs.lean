import Stencil.Proofs.Run.Settled

/-! What a run reads. In a tree that has the same at all that is consulted, and the same files where
templates can be, a run renders the same templates to the same texts. -/
namespace Stencil
namespace Run

open FileTree Lockfile Stencil.Path

variable {t u : FileTree} {root : Path} {context : KeyMap Json} {engine : Engine} {o : Options}
  {s : Setting} {files : List String} {qs : List Product}

/-- Where the root and the ignore files are the same, a run is prepared alike, whatever its
context. -/
theorem prepare_congr (h : prepare t root context engine o = .ok s)
    (htarget : u.target? root .followed = t.target? root .followed)
    (hroot : u.entryAt? root = t.entryAt? root)
    (hignore : ∀ file ∈ o.ignoreFiles, u.entryAt? (root.join file) = t.entryAt? (root.join file))
    (context' : KeyMap Json) (force : Bool) : prepare u root context' engine { o with force } =
      .ok { s with tree := u, context := context' } := by
  obtain ⟨marker, top, ignore, hdirectory, htop, hmarker, hrules, rfl⟩ := prepare_eq_ok_iff.mp h
  exact prepare_eq_ok_iff.mpr ⟨marker, top, ignore, hroot.trans hdirectory, htarget.trans htop,
    hmarker, (IgnoreSpec.build_congr hignore _).trans hrules, rfl⟩

/-- A tree in which a run reads what it has read. -/
structure SameInputs (s : Setting) (o : Options) (qs : List Product) (u : FileTree) : Prop where
  wellFormed : WellFormed u
  target?_eq : ∀ p ∈ consulted s o qs, u.target? p .followed = s.tree.target? p .followed
  entryAt?_eq : ∀ p ∈ consulted s o qs, u.entryAt? p = s.tree.entryAt? p
  sources : ∀ names, (∀ n ∈ names, IsName n) → isSource s.locator.marker (ofNames names) = true →
    Selection.Passes s.ignore [] names →
    u.get? (s.locator.location ++ names) = s.tree.get? (s.locator.location ++ names)

/-- The name of a file that can be a template has the marker and is not that of the lockfile. -/
theorem exists_name_of_isSource {m : Marker} {names : List String} (hn : ∀ n ∈ names, IsName n)
    (h : isSource m (ofNames names) = true) :
    ∃ init name, names = init ++ [name] ∧ m.outputName name ≠ none ∧ name ≠ fileName := by
  simp only [isSource, Bool.and_eq_true, Bool.not_eq_true'] at h
  obtain ⟨hlock, hmarked⟩ := h
  by_cases hne : names = []
  · subst hne
    have hnone : (Path.mk (ofNames [])).fileName? = none := by decide
    simp [hnone] at hmarked
  · obtain ⟨init, name, rfl⟩ : ∃ init name, names = init ++ [name] :=
      ⟨names.dropLast, names.getLast hne, (List.dropLast_append_getLast hne).symm⟩
    have hfile := fileName?_ofNames_concat hn
    rw [isLockfile, hfile] at hlock
    rw [hfile, Option.bind_some] at hmarked
    exact ⟨init, name, rfl, Option.isSome_iff_ne_none.mp hmarked, by simpa using hlock⟩

/-- Files under a name with the marker are the same wherever they are. -/
theorem get?_of_isSource {t u : FileTree} {m : Marker} (h : ∀ dir name, m.outputName name ≠ none →
      name ≠ fileName → u.get? (dir ++ [name]) = t.get? (dir ++ [name]))
    (top : Location) {names : List String} (hn : ∀ n ∈ names, IsName n)
    (hs : isSource m (ofNames names) = true) : u.get? (top ++ names) = t.get? (top ++ names) := by
  obtain ⟨init, name, rfl, hmarked, hname⟩ := exists_name_of_isSource hn hs
  rw [← List.append_assoc]
  exact h _ _ hmarked hname

theorem Settled.sameInputs (h : Settled s o qs u) : SameInputs s o qs u :=
  ⟨h.wellFormed, h.target?_eq, h.entryAt?_eq, fun _ hn hs _ => get?_of_isSource h.sources _ hn hs⟩

namespace SameInputs

theorem rooted (h : SameInputs s o qs u) (hr : Rooted s.tree s.root s.locator.location) :
    Rooted u s.root s.locator.location := by
  refine ⟨h.wellFormed, resolve_eq_found ?_ ?_⟩
  · rw [h.entryAt?_eq _ (root_mem_consulted s o qs), entryAt?, hr.resolve]
    rfl
  · exact (h.target?_eq _ (root_mem_consulted s o qs)).trans hr.target?

/-- The same files are selected, as far as they can be templates. -/
theorem exists_files (h : SameInputs s o qs u) (hr : Rooted s.tree s.root s.locator.location)
    (hs : Selection.files s.tree s.ignore s.root = .ok files) :
    ∃ files', Selection.files u s.ignore s.root = .ok files' ∧
      files'.filter (isSource s.locator.marker) = files.filter (isSource s.locator.marker) := by
  refine ⟨_, Selection.files_eq (h.rooted hr) s.ignore, ?_⟩
  rw [Selection.files_eq hr] at hs
  rw [← Except.ok.inj hs, List.filter_map, List.filter_map]
  congr 1
  refine Selection.filter_below_congr hr.wellFormed h.wellFormed _ _ _
    fun names hsource hpass => ?_
  have hnames : ∀ {w : FileTree}, WellFormed w →
      (∃ bytes, w.get? (s.locator.location ++ names) = some (.file bytes)) →
        ∀ n ∈ names, IsName n := by
    rintro w hw ⟨bytes, hfile⟩ n hn
    exact hw.names_of_isSome (Option.isSome_of_eq_some hfile) n (by simp [hn])
  constructor
  · intro hfile
    rwa [h.sources names (hnames hr.wellFormed hfile) hsource hpass]
  · intro hfile
    rwa [← h.sources names (hnames h.wellFormed hfile) hsource hpass]

/-- A pointer leads to the same file. -/
theorem points (h : SameInputs s o qs u) {pointer : String} {names : List String}
    (hc : s.locator.root.join pointer ∈ consulted s o qs)
    (hp : Locator.Points s.locator s.tree pointer names) :
    Locator.Points s.locator u pointer names := by
  refine ⟨hp.ne_empty, ?_, ?_⟩
  · rw [isFile_iff, h.entryAt?_eq _ hc, ← isFile_iff]
    exact hp.isFile
  · rw [canonicalize_eq_ok_iff, h.target?_eq _ hc, h.entryAt?_eq _ hc, ← canonicalize_eq_ok_iff]
    exact hp.canonicalize

/-- The same is located in a file that can be a template. -/
theorem finds (h : SameInputs s o qs u) (hr : Rooted s.tree s.root s.locator.location)
    (hroot : s.locator.root = s.root) {names : List String} {bytes : ByteArray}
    (hpass : Selection.Passes s.ignore [] names)
    (hfile : s.tree.get? (s.locator.location ++ names) = some (.file bytes))
    (hsource : isSource s.locator.marker (ofNames names) = true) {q : Product} (hq : q ∈ qs)
    {located : Located} (hlocated : q.located = located)
    (hfinds : Locator.Finds s.locator s.tree (ofNames names) located) :
    Locator.Finds s.locator u (ofNames names) located := by
  have hr' := h.rooted hr
  have hnames : ∀ n ∈ names, IsName n := fun n hn =>
    hr.wellFormed.names_of_isSome (Option.isSome_of_eq_some hfile) n (by simp [hn])
  have hread' : ∀ text, s.tree.readText (s.locator.root.join (ofNames names)) = .ok text →
      u.readText (s.locator.root.join (ofNames names)) = .ok text := fun text hread => by
    rw [hroot] at hread ⊢
    exact readText_join_congr hr hr' hpass.ne_nil hfile (h.sources names hnames hsource hpass) hread
  cases hfinds with
  | inPlace hname hread hpointer => exact .inPlace hname (hread' _ hread) hpointer
  | @child _ _ pointer _ below hname hread hpointer hpoints htext =>
    have hconsults : s.root.join pointer ∈ consulted s o qs :=
      pointer_mem_consulted o hq (by rw [hlocated]; exact hread) hpointer
    have hpoints' := h.points (hroot ▸ hconsults) hpoints
    refine .child hname (hread' _ hread) hpointer hpoints' ?_
    obtain ⟨old, hold, hthere⟩ := hpoints.exists_file hr.wellFormed
    obtain ⟨new, hnew, hthere'⟩ := hpoints'.exists_file h.wellFormed
    have hsame : new = old := by
      have hentry := h.entryAt?_eq _ hconsults
      rw [← hroot, hold, hnew] at hentry
      simpa using hentry
    have hbelow : below ≠ [] := by
      rintro rfl
      rw [List.append_nil, hr.directory] at hthere
      simp at hthere
    rw [hroot] at htext ⊢
    exact readText_join_congr hr hr' hbelow hthere (by rw [hthere', hthere, hsame]) htext

end SameInputs

namespace Rendering

/-- In a tree with the same inputs the same is located. -/
theorem finds_of_sameInputs (h : Rendering t root context engine o s files qs) (hw : WellFormed t)
    (hsame : SameInputs s o qs u) {relative : String} (hr : relative ∈ files)
    (hsource : isSource s.locator.marker relative = true) :
    ∃ q ∈ qs, Locator.Finds s.locator t relative q.located ∧
      Locator.Finds s.locator u relative q.located := by
  have hrooted := h.rooted hw
  obtain ⟨q, hq, hlocate⟩ := exists_mem_of_isSource h.recalled hr hsource
  obtain ⟨names, rfl, hpass, bytes, hfile⟩ := (Selection.mem_files_iff hrooted h.selected).mp hr
  have hfinds := Locator.locate_eq_some_iff.mp hlocate
  obtain ⟨_, _, _, -, -, -, -, rfl⟩ := prepare_eq_ok_iff.mp h.prepared
  exact ⟨q, hq, hfinds, hsame.finds hrooted rfl hpass hfile hsource hq rfl hfinds⟩

/-- In a tree with the same inputs a run is prepared alike, whatever its context. -/
theorem prepare_of_sameInputs (h : Rendering t root context engine o s files qs)
    (hsame : SameInputs s o qs u) (context' : KeyMap Json) (force : Bool) :
    prepare u root context' engine { o with force } =
      .ok { s with tree := u, context := context' } := by
  obtain rfl := tree_of_prepare h.prepared
  obtain rfl := root_of_prepare h.prepared
  exact prepare_congr h.prepared (hsame.target?_eq _ (root_mem_consulted s o qs))
    (hsame.entryAt?_eq _ (root_mem_consulted s o qs))
    (fun file hf => hsame.entryAt?_eq _ (ignoreFile_mem_consulted s qs hf)) context' force

/-- In a tree with the same inputs the same templates are rendered to the same texts. -/
theorem of_sameInputs (h : Rendering t root context engine o s files qs) (hw : WellFormed t)
    (hsame : SameInputs s o qs u) (force : Bool) :
    ∃ files', Rendering u root context engine { o with force } { s with tree := u } files' qs ∧
      files'.filter (isSource s.locator.marker) = files.filter (isSource s.locator.marker) := by
  have hprepared := h.prepare_of_sameInputs hsame context force
  obtain rfl := tree_of_prepare h.prepared
  obtain rfl := root_of_prepare h.prepared
  obtain rfl := context_of_prepare h.prepared
  obtain ⟨files', hfiles', hsources⟩ := hsame.exists_files (h.rooted hw) h.selected
  have hlocate : ∀ relative ∈ files.filter (isSource s.locator.marker),
      s.locator.locate u relative = s.locator.locate s.tree relative := by
    intro relative hr
    obtain ⟨hmem, hsource⟩ := List.mem_filter.mp hr
    obtain ⟨q, -, hq, hq'⟩ := h.finds_of_sameInputs hw hsame hmem hsource
    rw [Locator.locate_eq_some_iff.mpr hq, Locator.locate_eq_some_iff.mpr hq']
  have hrecalled : Run.recalled { s with tree := u } [] files' = .ok qs :=
    calc Run.recalled { s with tree := u } [] files'
        = Run.recalled { s with tree := u } [] (files'.filter (isSource s.locator.marker)) :=
          (recalled_filter _ _ _).symm
      _ = Run.recalled { s with tree := u } [] (files.filter (isSource s.locator.marker)) := by
          rw [hsources]
      _ = Run.recalled s [] (files.filter (isSource s.locator.marker)) := recalled_congr hlocate []
      _ = Run.recalled s [] files := recalled_filter _ _ _
      _ = .ok qs := h.recalled
  exact ⟨files', ⟨hprepared, hfiles', hrecalled⟩, hsources⟩

end Rendering

end Run
end Stencil
