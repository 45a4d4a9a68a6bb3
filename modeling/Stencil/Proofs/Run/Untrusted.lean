import Stencil.Proofs.Run.Inputs
import Stencil.Proofs.Run.Keys

/-! Runs that trust no lockfile, because they are forced or find none that they can. What is at the
place of the lockfile instead makes no difference to them, and nothing of it is left. -/
namespace Stencil
namespace Run

open FileTree Lockfile

/-- At the place of the lockfile is nothing or a file, which the run does not trust and reads for
nothing else, and no link leads there. -/
structure Untrusts (t : FileTree) (root : Path) (context : KeyMap Json) (engine : Engine)
    (o : Options) (top : Location) : Prop where
  wellFormed : WellFormed t
  backslashFree : t.BackslashFree
  target? : t.target? root .followed = some top
  fileOnly : ∀ entry, t.get? (top ++ [fileName]) = some entry → ∃ bytes, entry = .file bytes
  unloaded : o.force = true ∨ ∀ l, load t (Cache.pathIn root) ≠ .valid l
  unlinked : t.Unlinked (top ++ [fileName])
  ignoreFiles : ∀ file ∈ o.ignoreFiles,
    t.target? (root.join file) .followed ≠ some (top ++ [fileName])
  templates : ∀ s files, prepare t root context engine o = .ok s →
    Selection.files t s.ignore root = .ok files →
    ∀ relative ∈ files, isLockfile relative = false → ∀ located,
      s.locator.locate t relative = .ok (some located) →
      t.target? located.rootTemplate .followed ≠ some (top ++ [fileName])

variable {a b u v : FileTree} {root : Path} {context : KeyMap Json} {engine : Engine} {o : Options}
  {s : Setting} {files : List String} {qs : List Product} {outcome : Outcome} {top : Location}

namespace Untrusts

theorem loaded?_eq (h : Untrusts a root context engine o top) : loaded? a root o.force = none := by
  rcases Lockfile.loaded?_eq a root o.force with hnone | hsome
  · exact hnone
  · obtain ⟨hforce, hload⟩ := loaded?_eq_some_iff.mp hsome
    rcases h.unloaded with hforced | hnot
    · simp [hforce] at hforced
    · exact absurd hload (hnot _)

theorem recorded_eq (h : Untrusts a root context engine o top) :
    recorded a root o.force = .empty := by
  rw [recorded, h.loaded?_eq]
  rfl

/-- With nothing on record every output is written. -/
theorem isIdentical_eq (h : Untrusts a root context engine o top) (q : Product) :
    q.isIdentical a (recorded a root o.force) = false := by
  simp [Product.isIdentical, h.recorded_eq]

theorem writtenOnes_eq (h : Untrusts a root context engine o top) (qs : List Product) :
    writtenOnes a (recorded a root o.force) qs = qs := by
  simp [writtenOnes, h.isIdentical_eq]

theorem identicalOnes_eq (h : Untrusts a root context engine o top) (qs : List Product) :
    identicalOnes a (recorded a root o.force) qs = [] := by
  simp [identicalOnes, h.isIdentical_eq]

/-- What is recorded in the end comes from this run alone. -/
theorem finalLockfile_eq (h : Untrusts a root context engine o top) (qs : List Product) :
    finalLockfile a root o qs =
      ⟨runningVersion, .ofList (qs.map fun q => (q.key, q.fingerprint))⟩ := by
  have hunion : ∀ m : KeyMap UInt32, KeyMap.empty.union m = m := KeyMap.ofList_entries
  rw [finalLockfile, finalFiles, h.writtenOnes_eq, h.recorded_eq]
  exact congrArg _ (hunion _)

theorem location_eq (h : Untrusts a root context engine o top)
    (hr : Rendering a root context engine o s files qs) : s.locator.location = top :=
  Option.some.inj ((hr.rooted h.wellFormed).target?.symm.trans h.target?)

/-- Nothing that is consulted is at the place of the lockfile. -/
theorem target?_consulted (h : Untrusts a root context engine o top)
    (hr : Rendering a root context engine o s files qs) {p : Path} (hp : p ∈ consulted s o qs) :
    a.target? p .followed ≠ some (top ++ [fileName]) := by
  have hrooted := hr.rooted h.wellFormed
  have hlocation := h.location_eq hr
  have hnaive := hr.naive h.wellFormed h.backslashFree
  have htemplates := h.templates s files hr.prepared hr.selected
  obtain ⟨_, _, _, -, -, -, -, rfl⟩ := prepare_eq_ok_iff.mp hr.prepared
  rcases List.mem_cons.mp hp with rfl | hp
  · rw [h.target?]
    simp
  rcases List.mem_append.mp hp with hp | hp
  · obtain ⟨file, hfile, rfl⟩ := List.mem_map.mp hp
    exact h.ignoreFiles file hfile
  · obtain ⟨q, hq, hpoints⟩ := List.mem_filterMap.mp hp
    obtain ⟨relative, hrelative, hlock, hlocate, -⟩ := exists_of_mem_naive hnaive hq
    unfold pointsAt at hpoints
    split at hpoints
    · next contents hread =>
      obtain ⟨pointer, hpointer, rfl⟩ := Option.map_eq_some_iff.mp hpoints
      have hfinds := Locator.locate_eq_some_iff.mp hlocate
      have hsame := hfinds.target?_pointer hrooted hread hpointer
      exact fun hplace => htemplates relative hrelative hlock q.located hlocate
        (hsame.symm.trans hplace)
    · simp at hpoints

/-- What differs at the place of the lockfile is none of a run's inputs. -/
theorem sameInputs (h : Untrusts a root context engine o top)
    (hr : Rendering a root context engine o s files qs) (hb : WellFormed b)
    (hagree : AgreeOff (· = top ++ [fileName]) a b) : SameInputs s o qs b := by
  obtain rfl := tree_of_prepare hr.prepared
  refine ⟨hb, fun p _ => hagree.sameFrame.target?_eq p _, fun p hp => ?_, fun _ hn hs _ =>
    get?_of_isSource (fun dir name _ hname => ?_) _ hn hs⟩
  · refine hagree.entryAt?_eq h.wellFormed hb fun loc hloc hplace => ?_
    exact h.target?_consulted hr hp (hplace ▸ hloc)
  · refine hagree.get?_eq _ fun hplace => hname ?_
    simpa using (List.append_inj' hplace rfl).2

/-- A run goes through the same in a tree that differs at the place of the lockfile alone. -/
theorem completed (h : Untrusts a root context engine o top)
    (hb : Untrusts b root context engine o top)
    (hagree : AgreeOff (· = top ++ [fileName]) a b)
    (hc : Completed a root context engine o s files qs u v outcome) :
    ∃ files' u' v', Completed b root context engine o { s with tree := b } files' qs u' v' outcome ∧
      Same v v' := by
  obtain ⟨files', hrendering, -⟩ := hc.rendering.of_sameInputs h.wellFormed
    (h.sameInputs hc.rendering hb.wellFormed hagree) o.force
  have hrooted : Rooted a root top := h.location_eq hc.rendering ▸ hc.rooted h.wellFormed
  obtain ⟨u', v', hfinishes, hsame | ⟨hunmodified, -⟩⟩ := hc.toFinishes.exists_of_agreeOff hrooted
    hb.wellFormed hagree (fun _ hl => .inl hl) (hb.loaded?_eq.trans h.loaded?_eq.symm)
    (fun q _ => (hb.isIdentical_eq q).trans (h.isIdentical_eq q).symm)
    ((hb.finalLockfile_eq qs).trans (h.finalLockfile_eq qs).symm)
  · exact ⟨files', u', v', ⟨hfinishes, hrendering⟩, hsame⟩
  · have hmodified := (hc.modified_iff h.wellFormed).mpr (.inl h.loaded?_eq)
    simp [hunmodified] at hmodified

/-- The lockfile that the run leaves is loaded. -/
theorem load_eq (h : Untrusts a root context engine o top)
    (hc : Completed a root context engine o s files qs u v outcome) :
    load v (Cache.pathIn root) = .valid (finalLockfile a root o qs) := by
  refine (hc.load_iff h.wellFormed).mpr fun ⟨hmodified, hleads⟩ => ?_
  rcases hc.unmodified_or_saved h.wellFormed with ⟨hm, -⟩ | ⟨-, -, target, u', hsaved⟩
  · simp [hm] at hmodified
  rw [h.location_eq hc.rendering] at hleads
  have hframe := (hc.written_tree h.wellFormed).sameFrame
  have htarget : a.target? (temporaryIn root) .written = some target :=
    (hframe.target?_eq _ _).symm.trans hsaved.target?
  exact not_leadsBy_of_unlinked (h.location_eq hc.rendering ▸ hc.rooted h.wellFormed)
    replaceable_fileName htarget h.fileOnly h.unlinked hleads

/-- On record in the end is just what is located. -/
theorem get?_finalFiles_iff (h : Untrusts a root context engine o top)
    (hr : Rendering a root context engine o s files qs) {key : String} {f : UInt32} :
    (finalFiles a root o qs).get? key = some f ↔ ∃ q ∈ qs, q.key = key ∧ q.fingerprint = f := by
  have hon : ∀ q ∈ qs, (finalFiles a root o qs).get? q.key = some q.fingerprint := fun q hq =>
    finalFiles_get?_of_mem hr h.wellFormed h.backslashFree hq
  constructor
  · intro hkey
    by_cases hlocated : ∃ q ∈ qs, q.key = key
    · obtain ⟨q, hq, rfl⟩ := hlocated
      exact ⟨q, hq, rfl, Option.some.inj ((hon q hq).symm.trans hkey)⟩
    · have hnot : ∀ q ∈ writtenOnes a (recorded a root o.force) qs, q.key ≠ key := fun q hq hk =>
        hlocated ⟨q, List.mem_of_mem_filter hq, hk⟩
      simp [finalFiles_get?_of_not_written hnot, h.recorded_eq] at hkey
  · rintro ⟨q, hq, rfl, rfl⟩
    exact hon q hq

/-- Keys stand for root templates. -/
theorem key_eq_iff (h : Untrusts a root context engine o top)
    (hr : Rendering a root context engine o s files qs) {x y : Product} (hx : x ∈ qs)
    (hy : y ∈ qs) : x.key = y.key ↔ x.located.rootTemplate = y.located.rootTemplate := by
  have hnaive := hr.naive h.wellFormed h.backslashFree
  have hlocated : ∀ q ∈ qs, IsLocated s files q.located := by
    intro q hq
    obtain ⟨relative, hmem, -, hlocate, -⟩ := exists_of_mem_naive hnaive hq
    exact ⟨relative, hmem, tree_of_prepare hr.prepared ▸ hlocate⟩
  constructor
  · intro hkey
    rw [(read_of_mem hr h.wellFormed h.backslashFree hx).1,
      (read_of_mem hr h.wellFormed h.backslashFree hy).1, hkey]
  · intro hsame
    obtain ⟨names, hnx⟩ :=
      exists_namedBy h.wellFormed hr.prepared hr.selected (hlocated x hx)
    obtain ⟨others, hny⟩ :=
      exists_namedBy h.wellFormed hr.prepared hr.selected (hlocated y hy)
    exact hnx.lockKey_eq_of_target? hny ((hnx.rootTemplate_eq_iff hny).mp hsame)

end Untrusts

/-- A template, and at most a text at the place of the lockfile. -/
def besideText (lock : Option String) : FileTree :=
  ⟨["w"], [(["w"], .directory), (["w", "a.etch.txt"], .file "one".toUTF8)] ++
    (lock.map fun text => (["w", ".etch.lock"], .file text.toUTF8)).toList⟩

set_option maxRecDepth 100000

theorem untrusts_besideText {lock : Option String} (h : lock = none ∨ lock = some "hello") :
    Untrusts (besideText lock) ⟨"."⟩ .empty verbatim {} ["w"] := by
  have hlinkFree : (besideText lock).LinkFree := by
    rcases h with rfl | rfl <;> exact .of_entries (by simp [besideText])
  have hunloaded : loaded? (besideText lock) ⟨"."⟩ false = none := by
    rcases h with rfl | rfl <;> decide +kernel
  have hcheck : (match prepare (besideText lock) ⟨"."⟩ .empty verbatim {} with
      | .ok s => decide (∀ relative ∈
          (Selection.files (besideText lock) s.ignore ⟨"."⟩).toOption.getD [],
          isLockfile relative = false →
          ∀ located ∈ (s.locator.locate (besideText lock) relative).toOption.join,
            (besideText lock).target? located.rootTemplate .followed ≠ some ["w", ".etch.lock"])
      | .error _ => false) = true := by
    rcases h with rfl | rfl <;> decide +kernel
  refine ⟨?_, ?_, ?_, ?_, .inr fun l hl => ?_, hlinkFree.unlinked _, by simp, ?_⟩
  · rcases h with rfl | rfl <;> exact .of_entries rfl (by decide +kernel)
  · rcases h with rfl | rfl <;> exact .of_entries (by decide +kernel)
  · rcases h with rfl | rfl <;> decide +kernel
  · rcases h with rfl | rfl <;> simp [besideText, get?, find?, fileName]
  · have hloaded := loaded?_eq_some_iff.mpr ⟨rfl, hl⟩
    simp [hunloaded] at hloaded
  · intro s files hs hfiles relative hr hlock located hlocate
    rw [hs] at hcheck
    dsimp only at hcheck
    rw [hfiles] at hcheck
    exact of_decide_eq_true hcheck relative hr hlock located (by simp [hlocate, Except.toOption])

end Run
end Stencil
