import Stencil.Proofs.Run.Inputs

/-! A run after a run has nothing to do. -/
namespace Stencil
namespace Run

open FileTree Lockfile Stencil.Path

variable {t v : FileTree} {root : Path} {context : KeyMap Json} {engine : Engine} {o : Options}
  {s : Setting} {files : List String} {qs : List Product}

/-- A run that finds all outputs as they should be, and on record all that is to stay, changes
nothing. -/
theorem run_of_identical (h : Rendering t root context engine o s files qs)
    (hidentical : ∀ q ∈ qs, q.isIdentical t (recorded t root o.force) = true)
    (hloaded : loaded? t root o.force = some (finalLockfile t root o qs)) :
    (run Writer.disk t root context engine o ()).result =
      .ok ⟨[], qs.map Product.output,
        qs.foldl (fun ps q => insertPath q.located.rootTemplate ps) [], false⟩ ∧
    (run Writer.disk t root context engine o ()).tree = t := by
  have hnone : writtenOnes t (recorded t root o.force) qs = [] := by
    simpa [writtenOnes] using hidentical
  have hall : identicalOnes t (recorded t root o.force) qs = qs := by
    simpa [identicalOnes] using hidentical
  have hwrites : Run.writes t root o qs = [] := by rw [Run.writes, hnone, List.map_nil]
  have hcompleted : Completed t root context engine o s files qs t t
      ⟨[], qs.map Product.output,
        qs.foldl (fun ps q => insertPath q.located.rootTemplate ps) [], false⟩ :=
    { rendering := h
      writes := by rw [hwrites, writeAll]
      commit := commit_eq_ok_iff.mpr (.inl ⟨rfl, hloaded, rfl⟩)
      written := by rw [hnone, List.map_nil]
      identical := by rw [hall]
      rootTemplates := rfl }
  exact hcompleted.run_eq

namespace Completed

variable {u w : FileTree} {outcome : Outcome}

/-- Every template is read in a settled tree by its key. -/
theorem readByKey_settled (h : Completed t root context engine o s files qs u v outcome)
    (hw : WellFormed t) (hfree : t.BackslashFree) (hsettled : Settled s o qs w) {relative : String}
    (hr : relative ∈ files) (hlock : isLockfile relative = false) {located : Located}
    (hl : s.locator.locate t relative = .ok (some located)) :
    ReadByKey { s with tree := w } located := by
  have hfinds := Locator.locate_eq_some_iff.mp hl
  obtain ⟨q, -, hq, hq'⟩ := h.rendering.finds_of_sameInputs hw hsettled.sameInputs hr
    (isSource_of_finds hlock hfinds)
  obtain rfl := hq.unique hfinds
  obtain rfl := tree_of_prepare h.rendering.prepared
  obtain ⟨htemplate, -⟩ :=
    readByKey_of_locate hw hfree h.rendering.prepared h.rendering.selected hr hl
  have hread := hq'.readText
  rwa [htemplate, ← root_of_prepare h.rendering.prepared] at hread

/-- All that is on record leads to something in a settled tree. -/
theorem exists_key (h : Completed t root context engine o s files qs u v outcome)
    (hw : WellFormed t) (hfree : t.BackslashFree) (hsettled : Settled s o qs v) {key : String}
    (hon : ((finalFiles t root o qs).get? key).isSome) : v.exists? (root.join key) = true := by
  by_cases hkey : ∃ q ∈ qs, q.key = key
  · obtain ⟨q, hq, rfl⟩ := hkey
    obtain ⟨relative, hr, hlock, hlocate, -⟩ := exists_of_mem_naive (h.rendering.naive hw hfree) hq
    rw [tree_of_prepare h.rendering.prepared] at hlocate
    have hread := h.readByKey_settled hw hfree hsettled hr hlock hlocate
    unfold ReadByKey at hread
    rw [root_of_prepare h.rendering.prepared] at hread
    obtain ⟨bytes, hbytes, -⟩ := (readText_eq_ok_iff _ _).mp hread
    rw [exists?_eq]
    exact Option.isSome_of_eq_some hbytes
  · rw [finalFiles_get?_of_not_written fun q hq hk =>
      hkey ⟨q, List.mem_of_mem_filter hq, hk⟩] at hon
    obtain rfl := tree_of_prepare h.rendering.prepared
    obtain rfl := root_of_prepare h.rendering.prepared
    by_cases hthere : s.tree.exists? (s.root.join key) = true
    · rw [if_pos hthere] at hon
      exact hsettled.keys key hon hthere
    · simp [hthere] at hon

theorem loaded?_settled (h : Completed t root context engine o s files qs u v outcome)
    (hsettled : Settled s o qs w) : loaded? w root false = some (finalLockfile t root o qs) := by
  have hload := hsettled.lockfile
  rw [tree_of_prepare h.rendering.prepared, root_of_prepare h.rendering.prepared] at hload
  exact loaded?_eq_some_iff.mpr ⟨rfl, hload⟩

/-- In a settled tree the files of the last lockfile are on record. -/
theorem recorded_settled (h : Completed t root context engine o s files qs u v outcome)
    (hsettled : Settled s o qs w) : recorded w root false = finalFiles t root o qs := by
  rw [recorded, h.loaded?_settled hsettled]
  rfl

/-- In a settled tree the next run finds every output as it should be, and leaves the lockfile. -/
theorem identical_settled (h : Completed t root context engine o s files qs u v outcome)
    (hw : WellFormed t) (hfree : t.BackslashFree) (hsettled : Settled s o qs v) :
    (∀ q ∈ qs, q.isIdentical v (recorded v root false) = true) ∧
      loaded? v root false = some (finalLockfile v root { o with force := false } qs) := by
  have hloaded := h.loaded?_settled hsettled
  have hrecorded := h.recorded_settled hsettled
  have hidentical : ∀ q ∈ qs, q.isIdentical v (recorded v root false) = true := by
    intro q hq
    have hon := finalFiles_get?_of_mem h.rendering hw hfree hq
    simp [Product.isIdentical, hsettled.outputs q hq, hrecorded, hon]
  refine ⟨hidentical, ?_⟩
  have hnone : writtenOnes v (recorded v root false) qs = [] := by
    simpa [writtenOnes] using hidentical
  have hfinal : finalFiles v root { o with force := false } qs = finalFiles t root o qs := by
    apply KeyMap.ext_get?
    intro key
    rw [finalFiles_get?]
    dsimp only
    rw [hnone, hrecorded]
    by_cases hthere : v.exists? (root.join key) = true
    · simp [hthere]
    · have habsent : (finalFiles t root o qs).get? key = none := by
        by_contra hne
        exact hthere (h.exists_key hw hfree hsettled (Option.isSome_iff_ne_none.mpr hne))
      simp [hthere, habsent]
  rw [hloaded, finalLockfile, finalLockfile, hfinal]

/-- In a settled tree a run renders as the naive procedure does, whatever its context. -/
theorem naive_of_recalled (h : Completed t root context engine o s files qs u v outcome)
    (hw : WellFormed t) (hfree : t.BackslashFree) (hsettled : Settled s o qs w)
    {context' : KeyMap Json} {files' : List String} {fs : List Product}
    (hr : recalled { s with tree := w, context := context' } [] files' = .ok fs)
    (hsame : files'.filter (isSource s.locator.marker) = files.filter (isSource s.locator.marker)) :
    naive { s with tree := w, context := context' } files' = .ok fs := by
  rw [← hr]
  refine (recalled_eq_naive (fun relative hr hlock located hl => ?_) (by simp)).symm
  have hfinds := Locator.locate_eq_some_iff.mp hl
  have hmem : relative ∈ files.filter (isSource s.locator.marker) := by
    rw [← hsame]
    exact List.mem_filter.mpr ⟨hr, isSource_of_finds hlock hfinds⟩
  obtain ⟨hr, hsource⟩ := List.mem_filter.mp hmem
  obtain ⟨q, -, hq, hq'⟩ := h.rendering.finds_of_sameInputs hw hsettled.sameInputs hr hsource
  obtain rfl := hq'.unique hfinds
  exact h.readByKey_settled hw hfree hsettled hr hlock (Locator.locate_eq_some_iff.mpr hq)

theorem naive_settled (h : Completed t root context engine o s files qs u v outcome)
    (hw : WellFormed t) (hfree : t.BackslashFree) (hsettled : Settled s o qs v)
    {files' : List String} (hr : Rendering v root context engine { o with force := false }
      { s with tree := v } files' qs)
    (hsame : files'.filter (isSource s.locator.marker) = files.filter (isSource s.locator.marker)) :
    naive { s with tree := v } files' = .ok qs :=
  h.naive_of_recalled hw hfree hsettled hr.recalled hsame

end Completed

/-- A tree with a child that points at another file. -/
def withChild (name text : String) : FileTree :=
  ⟨["w"], [(["w"], .directory), (["w", name], .file text.toUTF8),
    (["w", "a.etch.txt"], .file ("!etch:child " ++ name).toUTF8)]⟩

set_option maxRecDepth 100000

end Run
end Stencil
