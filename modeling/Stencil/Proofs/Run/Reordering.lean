import Stencil.Proofs.Path.Order
import Stencil.Proofs.Run.LockfileContents
import Stencil.Proofs.Run.Keys
import Stencil.Proofs.Run.Siblings

/-! Runs over the same files in another order. What is gathered of each file stands for itself, and
outputs that have a place of their own can be written in any order. -/
namespace Stencil
namespace Run

open FileTree Lockfile

/-! ## Root templates -/

/-- Paths are put in either order among others, if only equal ones compare as equal. -/
theorem insertPath_comm {p q : Path} (h : p.compare q = .eq → p = q) (paths : List Path) :
    insertPath p (insertPath q paths) = insertPath q (insertPath p paths) := by
  have hlt : ∀ {p q : Path}, p.compare q = .lt → ∀ paths : List Path,
      insertPath p (insertPath q paths) = insertPath q (insertPath p paths) := by
    intro p q hpq paths
    have hqp : q.compare p = .gt := Std.OrientedCmp.gt_of_lt hpq
    induction paths with
    | nil => simp [insertPath, hpq, hqp]
    | cons x rest ih =>
      cases hqx : q.compare x with
      | lt =>
        have hpx : p.compare x = .lt := Std.TransCmp.lt_trans hpq hqx
        simp [insertPath, hpq, hqp, hqx, hpx]
      | eq =>
        have hpx : p.compare x = .lt := Std.TransCmp.lt_of_lt_of_eq hpq hqx
        simp [insertPath, hqp, hqx, hpx]
      | gt => cases hpx : p.compare x <;> simp [insertPath, hqp, hqx, hpx, ih]
  cases hpq : p.compare q with
  | lt => exact hlt hpq paths
  | eq => rw [h hpq]
  | gt => exact (hlt (Std.OrientedCmp.gt_iff_lt.mp hpq) paths).symm

variable {t u v : FileTree} {root : Path} {context : KeyMap Json} {engine : Engine} {o : Options}
  {s : Setting} {files first second : List String} {qs qs' : List Product} {outcome : Outcome}

/-! ## Rendering -/

/-- Files in another order are rendered to the same. -/
theorem exists_naive_perm (h : first.Perm second) (hq : naive s first = .ok qs) :
    ∃ qs', naive s second = .ok qs' ∧ qs.Perm qs' := by
  induction h generalizing qs with
  | nil => exact ⟨qs, hq, .refl qs⟩
  | cons relative _ ih =>
    obtain ⟨q, more, hproduct, hmore, rfl⟩ := naive_cons_eq_ok_iff.mp hq
    obtain ⟨more', hmore', hperm⟩ := ih hmore
    exact ⟨_, naive_cons_eq_ok_iff.mpr ⟨q, more', hproduct, hmore', rfl⟩, hperm.append_left _⟩
  | swap x y rest =>
    obtain ⟨q, _, hproduct, hmore, rfl⟩ := naive_cons_eq_ok_iff.mp hq
    obtain ⟨q', more, hproduct', hmore', rfl⟩ := naive_cons_eq_ok_iff.mp hmore
    refine ⟨_, naive_cons_eq_ok_iff.mpr ⟨q', _, hproduct',
      naive_cons_eq_ok_iff.mpr ⟨q, more, hproduct, hmore', rfl⟩, rfl⟩, ?_⟩
    rw [← List.append_assoc, ← List.append_assoc]
    exact List.perm_append_comm.append_right more
  | trans _ _ ih ih' =>
    obtain ⟨middle, hmiddle, hperm⟩ := ih hq
    obtain ⟨last, hlast, hperm'⟩ := ih' hmiddle
    exact ⟨last, hlast, hperm.trans hperm'⟩

/-- What a run with the files in some order gathers before it writes. -/
def gathering (s : Setting) (force : Bool) (files : List String) : Except Failure Progress :=
  (collect s 0 { cache := (Cache.open s.tree s.root force).1 } files).2

/-- No two files have the same output, and no output is a link. -/
structure OwnOutputs (s : Setting) (files : List String) : Prop where
  distinct : ∀ x ∈ files, ∀ y ∈ files, ∀ a b, IsLocatedIn s x a → IsLocatedIn s y b →
    a.output = b.output → x = y
  notLink : ∀ x ∈ files, ∀ a, IsLocatedIn s x a →
    ∀ loc text, s.tree.locate a.output .kept ≠ .found loc (.link text)

section

variable (hw : WellFormed t) (hfree : t.BackslashFree)
  (hp : prepare t root context engine o = .ok s) (hs : Selection.files t s.ignore root = .ok files)

include hw hfree hp hs

/-- Selected files are rendered each for itself, in whatever order. -/
theorem recalled_eq_naive_of_subset (hsub : first ⊆ files) : recalled s [] first = naive s first :=
  recalled_eq_naive
    (fun _ hr _ _ hl => (readByKey_of_locate hw hfree hp hs (hsub hr) hl).2) (by simp)

theorem gathering_eq_ok_iff (hsub : first ⊆ files) {p : Progress} :
    gathering s o.force first = .ok p ↔ ∃ qs, naive s first = .ok qs ∧ p = gathered t root o qs := by
  rw [gathering, tree_of_prepare hp, root_of_prepare hp, collect_ok_iff hp,
    recalled_eq_naive_of_subset hw hfree hp hs hsub]

end

/-- Outputs that lead to the same file are those of one template. -/
theorem text_eq_of_target? (hw : WellFormed t) (hp : prepare t root context engine o = .ok s)
    (hs : Selection.files t s.ignore root = .ok files) (hown : OwnOutputs s files)
    (hsub : first ⊆ files) (hq : naive s first = .ok qs) {x y : Product} (hx : x ∈ qs) (hy : y ∈ qs) {loc : Location}
    (hxloc : t.target? x.output .written = some loc)
    (hyloc : t.target? y.output .written = some loc) (hnot : t.get? loc ≠ some .directory) :
    x.text = y.text := by
  obtain rfl := tree_of_prepare hp
  have hplace : ∀ q ∈ qs, s.tree.target? q.output .written = some loc → ∃ relative dirs name out,
      relative ∈ files ∧ IsLocatedIn s relative q.located ∧
      s.engine q.located.text s.context = .ok q.text ∧
      Locator.Beside s.locator s.tree q.located dirs name out ∧
      loc = s.locator.location ++ dirs ++ [out] := by
    intro q hmem hloc
    obtain ⟨relative, hr, hlock, hlocate, htext⟩ := exists_of_mem_naive hq hmem
    obtain ⟨dirs, name, out, hbeside⟩ := exists_beside hw hp hs (hsub hr) ⟨hlock, hlocate⟩
    exact ⟨relative, dirs, name, out, hsub hr, ⟨hlock, hlocate⟩, htext, hbeside,
      hbeside.eq_of_target? (hown.notLink relative (hsub hr) _ ⟨hlock, hlocate⟩) hloc hnot⟩
  obtain ⟨rx, dirs, name, out, hrx, hlx, htx, hbx, rfl⟩ := hplace x hx hxloc
  obtain ⟨ry, dirs', name', out', hry, hly, hty, hby, hsame⟩ := hplace y hy hyloc
  obtain ⟨hdirs, hout⟩ := List.append_inj' hsame rfl
  obtain rfl := List.append_cancel_left hdirs
  obtain rfl : out = out' := (List.cons.inj hout).1
  obtain rfl := hown.distinct rx hrx ry hry _ _ hlx hly (hbx.output_eq hby)
  have hlocated : x.located = y.located :=
    (Locator.locate_eq_some_iff.mp hlx.2).unique (Locator.locate_eq_some_iff.mp hly.2)
  rw [hlocated] at htx
  exact Except.ok.inj (htx.symm.trans hty)

/-- Root templates come in the same order. -/
theorem rootTemplates_perm (hw : WellFormed t) (hp : prepare t root context engine o = .ok s)
    (hs : Selection.files t s.ignore root = .ok files) (hsub : first ⊆ files)
    (hq : naive s first = .ok qs)
    (hperm : qs.Perm qs') :
    qs.foldl (fun ps q => insertPath q.located.rootTemplate ps) [] =
      qs'.foldl (fun ps q => insertPath q.located.rootTemplate ps) [] := by
  refine hperm.foldl_eq' (fun x hx y hy paths => insertPath_comm (fun h => ?_) paths) []
  have hlocated : ∀ q ∈ qs, IsLocated s files q.located := by
    intro q hmem
    obtain ⟨relative, hr, -, hlocate, -⟩ := exists_of_mem_naive hq hmem
    exact ⟨relative, hsub hr, hlocate⟩
  obtain ⟨names, hnx⟩ := exists_namedBy hw hp hs (hlocated x hx)
  obtain ⟨others, hny⟩ := exists_namedBy hw hp hs (hlocated y hy)
  have hroot := (rooted_of_prepare hp hw).admissible.ne_empty
  rw [hny.rootTemplate, hnx.rootTemplate, locatorRoot_of_prepare hp] at h ⊢
  rw [root_of_prepare hp] at h ⊢
  rw [Path.eq_of_compare_join hroot hny.isName hnx.isName h]

theorem writes_perm (h : qs.Perm qs') : (writes t root o qs).Perm (writes t root o qs') :=
  (h.filter _).map _

/-- The same is on record in the end. -/
theorem finalFiles_perm (hq : recalled s [] first = .ok qs) (hq' : recalled s [] second = .ok qs')
    (hperm : qs.Perm qs') : finalFiles t root o qs' = finalFiles t root o qs := by
  have hmem : ∀ q, q ∈ writtenOnes t (recorded t root o.force) qs ↔
      q ∈ writtenOnes t (recorded t root o.force) qs' := fun q => (hperm.filter _).mem_iff
  apply KeyMap.ext_get?
  intro key
  by_cases hwritten : ∃ q ∈ writtenOnes t (recorded t root o.force) qs, q.key = key
  · obtain ⟨q, hq₁, rfl⟩ := hwritten
    rw [finalFiles_get?_of_mem_writtenOnes hq hq₁,
      finalFiles_get?_of_mem_writtenOnes hq' ((hmem q).mp hq₁)]
  · rw [finalFiles_get?_of_not_written fun q hq₁ hk => hwritten ⟨q, hq₁, hk⟩,
      finalFiles_get?_of_not_written fun q hq₁ hk => hwritten ⟨q, (hmem q).mpr hq₁, hk⟩]

/-- Outcomes that differ at most in the order of what is written and left alone. -/
structure SameOutcome (a b : Outcome) : Prop where
  written : a.written.Perm b.written
  identical : a.identical.Perm b.identical
  rootTemplates : a.rootTemplates = b.rootTemplates
  lockfileModified : a.lockfileModified = b.lockfileModified

/-- The end of a run is gone through with the outputs in another order. -/
theorem Finishes.exists_perm {top : Location} (h : Finishes t root o qs u v outcome)
    (hr : Rooted t root top) (hperm : qs.Perm qs')
    (hone : ∀ e ∈ Run.writes t root o qs, ∀ f ∈ Run.writes t root o qs,
      t.target? e.1 .written = t.target? f.1 .written → e.2 = f.2)
    (hfinal : finalLockfile t root o qs' = finalLockfile t root o qs)
    (hroots : qs.foldl (fun ps q => insertPath q.located.rootTemplate ps) [] =
      qs'.foldl (fun ps q => insertPath q.located.rootTemplate ps) []) :
    ∃ u' v' outcome', Finishes t root o qs' u' v' outcome' ∧ SameOutcome outcome outcome' ∧
      Same v v' := by
  obtain ⟨u', hu', hsame⟩ := exists_writeAll_perm hr.wellFormed (writes_perm hperm) hone h.writes
  have hwritten := written_of_writeAll hr.wellFormed h.writes
  have hcommit : ∃ v', (Cache.mk (Cache.pathIn root) (loaded? t root o.force)
      (finalLockfile t root o qs') .empty).commit u' = (v', .ok outcome.lockfileModified) ∧
        Same v v' := by
    rw [hfinal]
    rcases commit_eq_ok_iff.mp h.commit with ⟨hm, hloaded, rfl⟩ | ⟨hm, hloaded, hsave⟩
    · exact ⟨u', commit_eq_ok_iff.mpr (.inl ⟨hm, hloaded, rfl⟩), hsame⟩
    · obtain ⟨v', hsave', hsame'⟩ := exists_save_of_agreeOff (hsame.agreeOff fun _ => False)
        (fun _ hf => hf.elim) (hr.of_sameFrame hwritten.sameFrame hwritten.wellFormed)
        (written_of_writeAll hr.wellFormed hu').wellFormed hsave
      exact ⟨v', commit_eq_ok_iff.mpr (.inr ⟨hm, hloaded, hsave'⟩), hsame'⟩
  obtain ⟨v', hcommit, hsame'⟩ := hcommit
  refine ⟨u', v', ⟨(writtenOnes t (recorded t root o.force) qs').map Product.output,
    (identicalOnes t (recorded t root o.force) qs').map Product.output,
    qs'.foldl (fun ps q => insertPath q.located.rootTemplate ps) [], outcome.lockfileModified⟩,
    ⟨hu', hcommit, rfl, rfl, rfl⟩, ⟨?_, ?_, ?_, rfl⟩, hsame'⟩
  · rw [h.written]
    exact (hperm.filter _).map _
  · rw [h.identical]
    exact (hperm.filter _).map _
  · rw [h.rootTemplates]
    exact hroots

section

variable (hw : WellFormed t) (hfree : t.BackslashFree)
  (hp : prepare t root context engine o = .ok s) (hs : Selection.files t s.ignore root = .ok files)
  (hown : OwnOutputs s files)

include hw hfree hp hs

/-- What is gathered of the files in one order is gathered in another. -/
theorem exists_gathering_perm (hfirst : first.Perm files) (hsecond : second.Perm files)
    {p : Progress} (h : gathering s o.force first = .ok p) :
    ∃ q, gathering s o.force second = .ok q ∧
      q.cache.applyStaged (Cache.present t root) = p.cache.applyStaged (Cache.present t root) := by
  obtain ⟨qs, hqs, rfl⟩ := (gathering_eq_ok_iff hw hfree hp hs hfirst.subset).mp h
  obtain ⟨qs', hqs', hperm⟩ := exists_naive_perm (hfirst.trans hsecond.symm) hqs
  refine ⟨_, (gathering_eq_ok_iff hw hfree hp hs hsecond.subset).mpr ⟨qs', hqs', rfl⟩, ?_⟩
  rw [← recalled_eq_naive_of_subset hw hfree hp hs hfirst.subset] at hqs
  rw [← recalled_eq_naive_of_subset hw hfree hp hs hsecond.subset] at hqs'
  rw [cache_gathered, cache_gathered, finalLockfile, finalLockfile,
    finalFiles_perm hqs hqs' hperm]

include hown

/-- A run that succeeds with the files in one order does so in another, and leaves the same. -/
theorem exists_onFiles_perm (hfirst : first.Perm files) (hsecond : second.Perm files)
    (h : (onFiles Writer.disk s o.force first ()).result = .ok outcome) :
    ∃ outcome', (onFiles Writer.disk s o.force second ()).result = .ok outcome' ∧
      SameOutcome outcome outcome' ∧ Same (onFiles Writer.disk s o.force first ()).tree
        (onFiles Writer.disk s o.force second ()).tree := by
  obtain ⟨qs, u, hq, hfinishes⟩ := (onFiles_eq_ok_iff hp).mp ⟨h, rfl⟩
  have hnaive := (recalled_eq_naive_of_subset hw hfree hp hs hfirst.subset).symm.trans hq
  obtain ⟨qs', hnaive', hperm⟩ := exists_naive_perm (hfirst.trans hsecond.symm) hnaive
  have hq' := (recalled_eq_naive_of_subset hw hfree hp hs hsecond.subset).trans hnaive'
  have hwritten := written_of_writeAll hw hfinishes.writes
  have hone : ∀ e ∈ writes t root o qs, ∀ f ∈ writes t root o qs,
      t.target? e.1 .written = t.target? f.1 .written → e.2 = f.2 := by
    intro e he f hf hsame
    obtain ⟨loc, heloc, hnot⟩ := hwritten.exists_target he
    obtain ⟨x, hx, rfl⟩ := List.mem_map.mp he
    obtain ⟨y, hy, rfl⟩ := List.mem_map.mp hf
    exact text_eq_of_target? hw hp hs hown hfirst.subset hnaive (List.mem_of_mem_filter hx)
      (List.mem_of_mem_filter hy) heloc (hsame.symm.trans heloc) hnot
  have hfinal : finalLockfile t root o qs' = finalLockfile t root o qs := by
    rw [finalLockfile, finalLockfile, finalFiles_perm hq hq' hperm]
  obtain ⟨u', v', outcome', hfinishes', houtcome, htree⟩ := hfinishes.exists_perm
    (rooted_of_prepare hp hw) hperm hone hfinal
    (rootTemplates_perm hw hp hs hfirst.subset hnaive hperm)
  obtain ⟨hresult, rfl⟩ := (onFiles_eq_ok_iff hp).mpr ⟨qs', u', hq', hfinishes'⟩
  exact ⟨outcome', hresult, houtcome, htree⟩

end

/-- Two children that point at the same file. -/
def twoChildren : FileTree :=
  ⟨["w"], [(["w"], .directory), (["w", "base"], .file "one".toUTF8),
    (["w", "a.etch.txt"], .file "!etch:child base".toUTF8),
    (["w", "b.etch.txt"], .file "!etch:child base".toUTF8)]⟩

set_option maxRecDepth 100000

end Run
end Stencil
