import Stencil.Proofs.FileTree.Passage
import Stencil.Proofs.Run.LockfileContents

/-! The tree that a run leaves, as the next run sees it: what is read is as it was before, if the
run has written to none of it, and all outputs are there. -/
namespace Stencil
namespace Run

open FileTree Lockfile

/-- What a child points at. -/
def pointsAt (s : Setting) (q : Product) : Option Path :=
  match s.tree.readText q.located.source with
  | .ok contents => (s.locator.pointer? contents).map s.root.join
  | .error _ => none

/-- The paths by which a run gets to what it reads, apart from the files that it walks to. -/
def consulted (s : Setting) (o : Options) (qs : List Product) : List Path :=
  s.root :: (o.ignoreFiles.map s.root.join ++ qs.filterMap (pointsAt s))

theorem root_mem_consulted (s : Setting) (o : Options) (qs : List Product) :
    s.root ∈ consulted s o qs := List.mem_cons_self

theorem ignoreFile_mem_consulted (s : Setting) {o : Options} (qs : List Product) {file : String}
    (h : file ∈ o.ignoreFiles) : s.root.join file ∈ consulted s o qs :=
  List.mem_cons_of_mem _ (List.mem_append_left _ (List.mem_map_of_mem h))

theorem pointer_mem_consulted {s : Setting} (o : Options) {qs : List Product} {q : Product}
    {contents pointer : String} (hq : q ∈ qs)
    (hread : s.tree.readText q.located.source = .ok contents)
    (hpointer : s.locator.pointer? contents = some pointer) :
    s.root.join pointer ∈ consulted s o qs := by
  refine List.mem_cons_of_mem _ (List.mem_append_right _ (List.mem_filterMap.mpr ⟨q, hq, ?_⟩))
  simp [pointsAt, hread, hpointer]

/-- Where the lockfile is. -/
def Setting.place (s : Setting) : Location := s.locator.location ++ [fileName]

/-- Where the temporary sibling of the lockfile is put. -/
def Setting.siblingPlace (s : Setting) : Location :=
  s.locator.location ++ [temporaryName fileName]

/-- No output leads to a template, to the lockfile or to anything that is consulted, and the
lockfile has no temporary sibling. -/
structure KeepsInputs (s : Setting) (o : Options) (qs : List Product) : Prop where
  unmarked : ∀ q ∈ qs, ∀ loc ∈ s.tree.target? q.output .followed, ∀ name ∈ loc.getLast?,
    s.locator.marker.outputName name = none
  lockfile : ∀ q ∈ qs, s.tree.target? q.output .followed ≠ some s.place
  consulted : ∀ q ∈ qs, ∀ loc ∈ s.tree.target? q.output .followed, ∀ p ∈ consulted s o qs,
    s.tree.target? p .followed ≠ some loc
  sibling : s.tree.get? s.siblingPlace = none

/-- The place of the lockfile is on the way of nothing that a run reads or writes, and no output
leads to its temporary sibling. -/
structure SparesLockfile (s : Setting) (o : Options) (qs : List Product) : Prop where
  consulted : ∀ p ∈ consulted s o qs, ¬ s.tree.LeadsBy p s.place
  outputs : ∀ q ∈ qs, ¬ s.tree.LeadsBy q.output s.place
  sibling : ∀ q ∈ qs, s.tree.target? q.output .followed ≠ some s.siblingPlace

instance (s : Setting) (o : Options) (qs : List Product) : Decidable (KeepsInputs s o qs) :=
  decidable_of_iff ((∀ q ∈ qs, ∀ loc ∈ s.tree.target? q.output .followed, ∀ name ∈ loc.getLast?,
      s.locator.marker.outputName name = none) ∧
    (∀ q ∈ qs, s.tree.target? q.output .followed ≠ some s.place) ∧
    (∀ q ∈ qs, ∀ loc ∈ s.tree.target? q.output .followed, ∀ p ∈ consulted s o qs,
      s.tree.target? p .followed ≠ some loc) ∧ s.tree.get? s.siblingPlace = none)
    ⟨fun ⟨a, b, c, d⟩ => ⟨a, b, c, d⟩, fun ⟨a, b, c, d⟩ => ⟨a, b, c, d⟩⟩

instance (s : Setting) (o : Options) (qs : List Product) : Decidable (SparesLockfile s o qs) :=
  decidable_of_iff ((∀ p ∈ consulted s o qs, ¬ s.tree.LeadsBy p s.place) ∧
    (∀ q ∈ qs, ¬ s.tree.LeadsBy q.output s.place) ∧
    ∀ q ∈ qs, s.tree.target? q.output .followed ≠ some s.siblingPlace)
    ⟨fun ⟨a, b, c⟩ => ⟨a, b, c⟩, fun ⟨a, b, c⟩ => ⟨a, b, c⟩⟩

/-- A tree in which the next run finds what the last one read, and all that it has written. -/
structure Settled (s : Setting) (o : Options) (qs : List Product) (v : FileTree) : Prop where
  wellFormed : WellFormed v
  target?_eq : ∀ p ∈ consulted s o qs, v.target? p .followed = s.tree.target? p .followed
  entryAt?_eq : ∀ p ∈ consulted s o qs, v.entryAt? p = s.tree.entryAt? p
  sources : ∀ dir name, s.locator.marker.outputName name ≠ none → name ≠ fileName →
    v.get? (dir ++ [name]) = s.tree.get? (dir ++ [name])
  outputs : ∀ q ∈ qs, v.exists? q.output = true
  lockfile : load v (Cache.pathIn s.root) = .valid (finalLockfile s.tree s.root o qs)
  keys : ∀ key, ((recorded s.tree s.root o.force).get? key).isSome →
    s.tree.exists? (s.root.join key) = true → v.exists? (s.root.join key) = true

namespace Completed

variable {t u v : FileTree} {root : Path} {context : KeyMap Json} {engine : Engine} {o : Options}
  {s : Setting} {files : List String} {qs : List Product} {outcome : Outcome}

/-- Where no output leads, everything is as before the outputs were written. -/
theorem get?_of_not_output (h : Completed t root context engine o s files qs u v outcome)
    (hw : WellFormed t) {loc : Location}
    (hn : ∀ q ∈ qs, t.target? q.output .followed ≠ some loc) : u.get? loc = t.get? loc := by
  refine (h.written_tree hw).get?_of_not_target fun e he htarget => ?_
  obtain ⟨q, hq, rfl⟩ := List.mem_map.mp he
  exact hn q (List.mem_of_mem_filter hq) (target?_followed_of_written htarget)

/-- Every output is there once the outputs have been written. -/
theorem exists_output (h : Completed t root context engine o s files qs u v outcome)
    (hw : WellFormed t) {q : Product} (hq : q ∈ qs) : u.exists? q.output = true := by
  have hwritten := h.written_tree hw
  rw [exists?_eq]
  by_cases hidentical : q.isIdentical t (recorded t root o.force) = true
  · refine hwritten.isSome_entryAt? hw ?_
    rw [← exists?_eq]
    exact (Bool.and_eq_true_iff.mp hidentical).1
  · have hmem : (q.output, q.text) ∈ Run.writes t root o qs :=
      List.mem_map.mpr ⟨q, by simp [writtenOnes, hq, hidentical], rfl⟩
    obtain ⟨loc, hloc, -⟩ := hwritten.targets _ hmem
    have hlast : (t.lastWritten (Run.writes t root o qs) loc).isSome := by
      rw [lastWritten, Option.isSome_map, List.find?_isSome]
      exact ⟨_, List.mem_reverse.mpr hmem, by simpa using hloc⟩
    rw [hwritten.entryAt?_eq_lastWritten hw, target?_followed_of_written hloc]
    simp [hlast]

/-- What is consulted is as before once the outputs have been written. -/
theorem entryAt?_written (h : Completed t root context engine o s files qs u v outcome)
    (hw : WellFormed t) {p : Path}
    (hn : ∀ q ∈ qs, ∀ loc, t.target? q.output .followed = some loc →
      t.target? p .followed ≠ some loc) : u.entryAt? p = t.entryAt? p := by
  have hwritten := h.written_tree hw
  rw [entryAt?_eq hwritten.wellFormed, entryAt?_eq hw, hwritten.sameFrame.target?_eq]
  cases htarget : t.target? p .followed with
  | none => rfl
  | some loc => exact h.get?_of_not_output hw fun q hq hloc => hn q hq loc hloc htarget

/-- If the lockfile was not written, the tree is settled. -/
theorem settled_of_unmodified (h : Completed t root context engine o s files qs u u outcome)
    (hw : WellFormed t) (hkeep : KeepsInputs s o qs) (hm : outcome.lockfileModified = false) :
    Settled s o qs u := by
  obtain rfl := tree_of_prepare h.rendering.prepared
  obtain rfl := root_of_prepare h.rendering.prepared
  have hwritten := h.written_tree hw
  refine ⟨hwritten.wellFormed, fun p _ => hwritten.sameFrame.target?_eq p _, fun p hp => ?_,
    fun dir name hmarked _ => ?_, fun q hq => h.exists_output hw hq, ?_, fun key _ hkey => ?_⟩
  · exact h.entryAt?_written hw fun q hq loc hloc => hkeep.consulted q hq loc hloc p hp
  · exact h.get?_of_not_output hw fun q hq hloc =>
      hmarked (hkeep.unmarked q hq _ hloc name (by simp))
  · exact (h.load_iff hw).mpr (by simp [hm])
  · rw [exists?_eq] at hkey ⊢
    exact hwritten.isSome_entryAt? hw hkey

/-- If the lockfile was saved, it was put over what was at its place and nothing else changed. -/
theorem overwritten_of_saved (h : Completed t root context engine o s files qs u v outcome)
    (hw : WellFormed t) (hkeep : KeepsInputs s o qs) (hspares : SparesLockfile s o qs)
    {target : Location} {u' : FileTree}
    (hsaved : Saved (finalLockfile t root o qs) root s.locator.location target u u' v) :
    Overwritten u v s.place (finalLockfile t root o qs).render.toUTF8 := by
  obtain rfl := tree_of_prepare h.rendering.prepared
  exact hsaved.overwritten (h.rooted_written hw)
    ((h.get?_of_not_output hw hspares.sibling).trans hkeep.sibling)

/-- If the lockfile was saved, the tree is settled as far as its place was on no path. -/
theorem settled_of_saved (h : Completed t root context engine o s files qs u v outcome)
    (hw : WellFormed t) (hkeep : KeepsInputs s o qs) (hspares : SparesLockfile s o qs)
    {target : Location} {u' : FileTree}
    (hsaved : Saved (finalLockfile t root o qs) root s.locator.location target u u' v) :
    Settled s o qs v := by
  have hover := h.overwritten_of_saved hw hkeep hspares hsaved
  obtain rfl := tree_of_prepare h.rendering.prepared
  obtain rfl := root_of_prepare h.rendering.prepared
  have hwritten := h.written_tree hw
  have hu := h.rooted_written hw
  have hv := hover.wellFormed hu.wellFormed hu.directory replaceable_fileName.isName
  have hleads : ∀ p, ¬ s.tree.LeadsBy p s.place → ¬ u.LeadsBy p s.place := fun p hn hl =>
    hn (hwritten.sameFrame.symm.leadsBy hl)
  have hresolve : ∀ p ∈ consulted s o qs, v.resolve p = u.resolve p := fun p hp =>
    hover.resolve_eq (hleads p (hspares.consulted p hp))
  have htarget : ∀ p ∈ consulted s o qs,
      v.target? p .followed = s.tree.target? p .followed := fun p hp =>
    (congrArg Place.target? (hresolve p hp)).trans (hwritten.sameFrame.target?_eq p _)
  have hentry : ∀ p ∈ consulted s o qs, v.entryAt? p = s.tree.entryAt? p := fun p hp =>
    (congrArg Place.entryAt? (hresolve p hp)).trans
      (h.entryAt?_written hw fun q hq loc hloc => hkeep.consulted q hq loc hloc p hp)
  refine ⟨hv, htarget, hentry, fun dir name hmarked hname => ?_, fun q hq => ?_, ?_,
    fun key hon hkey => ?_⟩
  · rw [hover.get?_of_ne fun he => hname (by simpa using (List.append_inj' he rfl).2)]
    exact h.get?_of_not_output hw fun q hq hloc =>
      hmarked (hkeep.unmarked q hq _ hloc name (by simp))
  · have hthere := h.exists_output hw hq
    unfold exists? at hthere ⊢
    rwa [hover.resolve_eq (hleads _ (hspares.outputs q hq))]
  · have hroot := h.rooted hw
    have hroot' : Rooted v s.root s.locator.location := ⟨hv, resolve_eq_found
      ((hentry _ (root_mem_consulted s o qs)).trans (by rw [entryAt?, hroot.resolve]; rfl))
      ((htarget _ (root_mem_consulted s o qs)).trans hroot.target?)⟩
    have hfile := hroot'.entryAt?_join (List.cons_ne_nil fileName []) hover.get?_self
    rw [Path.ofNames_singleton] at hfile
    exact load_eq_valid_iff.mpr ⟨_, hfile hsaved.admissible, ofBytes_render _ _ rfl⟩
  · obtain ⟨l, hl⟩ : ∃ l, loaded? s.tree s.root o.force = some l := by
      rcases loaded?_eq s.tree s.root o.force with hl | hl
      · simp [recorded, hl, new] at hon
      · exact ⟨_, hl⟩
    obtain ⟨old, hold, -⟩ := load_eq_valid_iff.mp (loaded?_eq_some_iff.mp hl).2
    obtain ⟨bytes, hbytes⟩ := hwritten.exists_file hw hold
    refine hover.exists?_of_exists? hwritten.wellFormed hv (fun text hlink => ?_) ?_
    · rw [Setting.place, List.dropLast_concat]
      exact hu.exists_takesFile_of_link replaceable_fileName.isName hlink hbytes
    · rw [exists?_eq] at hkey ⊢
      exact hwritten.isSome_entryAt? hw hkey

end Completed

end Run
end Stencil
