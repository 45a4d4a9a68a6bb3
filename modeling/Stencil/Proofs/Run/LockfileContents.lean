import Stencil.Proofs.Run.Refinement

/-! What is in the lockfile after a run. -/
namespace Stencil
namespace Run

open FileTree Lockfile

variable {t : FileTree} {root : Path} {context : KeyMap Json} {engine : Engine} {o : Options}
  {s : Setting} {files : List String} {qs : List Product}

/-- A product is the render of what its key leads to. -/
theorem read_of_mem (h : Rendering t root context engine o s files qs) (hw : WellFormed t)
    (hfree : t.BackslashFree) {q : Product} (hq : q ∈ qs) :
    q.located.rootTemplate = root.join q.key ∧ ReadByKey s q.located ∧
      engine q.located.text context = .ok q.text := by
  obtain ⟨relative, hr, -, hlocate, htext⟩ := exists_of_mem_naive (h.naive hw hfree) hq
  obtain ⟨htemplate, hread⟩ := readByKey_of_locate hw hfree h.prepared h.selected hr hlocate
  obtain ⟨_, _, _, -, -, -, -, rfl⟩ := prepare_eq_ok_iff.mp h.prepared
  exact ⟨htemplate, hread, htext⟩

/-- What is written is on record with its own render. -/
theorem finalFiles_get?_of_mem_writtenOnes (h : recalled s [] files = .ok qs) {q : Product}
    (hq : q ∈ writtenOnes t (recorded t root o.force) qs) :
    (finalFiles t root o qs).get? q.key = some q.fingerprint := by
  rw [finalFiles_get?]
  cases hfind : (writtenOnes t (recorded t root o.force) qs).reverse.find?
      fun x => x.key == q.key with
  | none =>
    have hnot := List.find?_eq_none.mp hfind q (List.mem_reverse.mpr hq)
    simp at hnot
  | some x =>
    have hx : x ∈ qs :=
      List.mem_of_mem_filter (List.mem_reverse.mp (List.mem_of_find?_eq_some hfind))
    have hkey : x.key = q.key := by simpa using List.find?_some hfind
    have htext : x.text = q.text :=
      oneTextEach_recalled (by simp [OneTextEach]) h x hx q (List.mem_of_mem_filter hq) hkey
    simp [Product.fingerprint, htext]

/-- Keys of which nothing is written stay while they lead to something. -/
theorem finalFiles_get?_of_not_written {key : String}
    (h : ∀ q ∈ writtenOnes t (recorded t root o.force) qs, q.key ≠ key) :
    (finalFiles t root o qs).get? key =
      if t.exists? (root.join key) then (recorded t root o.force).get? key else none := by
  have hnone : ((writtenOnes t (recorded t root o.force) qs).reverse.find? fun q => q.key == key) =
      none := by
    rw [List.find?_eq_none]
    intro q hq
    simpa using h q (List.mem_reverse.mp hq)
  rw [finalFiles_get?, hnone]
  rfl

/-- What is located is on record with its own render, whether it was written or left alone. -/
theorem finalFiles_get?_of_mem (h : Rendering t root context engine o s files qs)
    (hw : WellFormed t) (hfree : t.BackslashFree) {q : Product} (hq : q ∈ qs) :
    (finalFiles t root o qs).get? q.key = some q.fingerprint := by
  by_cases hwritten : ∃ x ∈ writtenOnes t (recorded t root o.force) qs, x.key = q.key
  · obtain ⟨x, hx, hkey⟩ := hwritten
    have htext : x.text = q.text :=
      oneTextEach_recalled (by simp [OneTextEach]) h.recalled x (List.mem_of_mem_filter hx) q hq
        hkey
    rw [← hkey, finalFiles_get?_of_mem_writtenOnes h.recalled hx]
    simp [Product.fingerprint, htext]
  · rw [finalFiles_get?_of_not_written fun x hx hkey => hwritten ⟨x, hx, hkey⟩]
    have hidentical : q.isIdentical t (recorded t root o.force) = true := by
      by_contra hn
      exact hwritten ⟨q, by simp [writtenOnes, hq, hn], rfl⟩
    obtain ⟨-, hread, -⟩ := read_of_mem h hw hfree hq
    have hthere : t.exists? (root.join q.key) = true := by
      unfold ReadByKey at hread
      rw [tree_of_prepare h.prepared, root_of_prepare h.prepared] at hread
      obtain ⟨bytes, hbytes, -⟩ := (readText_eq_ok_iff _ _).mp hread
      rw [exists?_eq]
      exact Option.isSome_of_eq_some hbytes
    simp only [Product.isIdentical, Bool.and_eq_true, beq_iff_eq] at hidentical
    simp [hthere, hidentical.2]

/-- Where nothing on record changes, what is written was not there. -/
theorem exists?_of_mem_writtenOnes (h : recalled s [] files = .ok qs)
    (hsame : finalFiles t root o qs = recorded t root o.force) {q : Product}
    (hq : q ∈ writtenOnes t (recorded t root o.force) qs) : t.exists? q.output = false := by
  have hon := finalFiles_get?_of_mem_writtenOnes h hq
  rw [hsame] at hon
  simpa [Product.isIdentical, hon] using (List.mem_filter.mp hq).2

/-- A lockfile that is left as it is has not been written to by way of an output either. -/
theorem Completed.entryAt?_of_unmodified {u v : FileTree} {outcome : Outcome}
    (h : Completed t root context engine o s files qs u v outcome) (hw : WellFormed t)
    (hsame : loaded? t root o.force = some (finalLockfile t root o qs)) :
    u.entryAt? (Cache.pathIn root) = t.entryAt? (Cache.pathIn root) := by
  obtain ⟨-, hload⟩ := loaded?_eq_some_iff.mp hsame
  obtain ⟨bytes, hbytes, -⟩ := load_eq_valid_iff.mp hload
  have hfiles : finalFiles t root o qs = recorded t root o.force := by
    rw [recorded, hsame]
    rfl
  rw [(h.written_tree hw).entryAt?_eq_lastWritten hw]
  cases htarget : t.target? (Cache.pathIn root) .followed with
  | none => rfl
  | some loc =>
    have hthere : t.get? loc = some (.file bytes) := by
      simpa [entryAt?_eq hw, htarget] using hbytes
    have hnone : t.lastWritten (Run.writes t root o qs) loc = none := by
      refine lastWritten_eq_none_iff.mpr fun e he hloc => ?_
      obtain ⟨q, hq, rfl⟩ := List.mem_map.mp he
      have habsent := exists?_of_mem_writtenOnes h.rendering.recalled hfiles hq
      have htaken := target?_followed_of_written hloc
      simp [exists?_eq, entryAt?_eq hw, htaken, hthere] at habsent
    simp [hnone]

/-- What has been recorded is loaded again, unless the lockfile was saved by way of itself. -/
theorem Completed.load_iff {u v : FileTree} {outcome : Outcome}
    (h : Completed t root context engine o s files qs u v outcome) (hw : WellFormed t) :
    load v (Cache.pathIn root) = .valid (finalLockfile t root o qs) ↔
      ¬ (outcome.lockfileModified = true ∧
        t.LeadsBy (temporaryIn root) (s.locator.location ++ [fileName])) := by
  have hframe := (h.written_tree hw).sameFrame
  rcases h.unmodified_or_saved hw with ⟨hm, hloaded, rfl⟩ | ⟨hm, -, target, u', hsaved⟩
  · obtain ⟨bytes, hbytes, hread⟩ := load_eq_valid_iff.mp (loaded?_eq_some_iff.mp hloaded).2
    have hentry := (h.entryAt?_of_unmodified hw hloaded).trans hbytes
    simp only [hm, Bool.false_eq_true, false_and, not_false_iff, iff_true]
    exact load_eq_valid_iff.mpr ⟨bytes, hentry, hread⟩
  · have hleads : t.LeadsBy (temporaryIn root) (s.locator.location ++ [fileName]) ↔
        u.LeadsBy (temporaryIn root) (s.locator.location ++ [fileName]) :=
      ⟨hframe.leadsBy, hframe.symm.leadsBy⟩
    simp only [hm, true_and]
    rw [hleads]
    exact hsaved.load_iff (h.rooted_written hw) rfl

/-- After a run the lockfile has the fingerprint of everything located, and of all else what was on
record of it while it leads to something. It is written if that is news, and it can be loaded
again unless it was written by way of itself. -/
theorem lockfile_contents {outcome : Outcome} (hw : WellFormed t) (hfree : t.BackslashFree)
    (hrun : (run Writer.disk t root context engine o ()).result = .ok outcome) :
    ∃ qs top entries, naiveRun t root context engine o = .ok qs ∧
      t.target? root .followed = some top ∧
      (∀ q ∈ qs, entries.get? q.key = some q.fingerprint) ∧
      (∀ key, (∀ q ∈ qs, q.key ≠ key) → entries.get? key =
        if t.exists? (root.join key) then (recorded t root o.force).get? key else none) ∧
      (outcome.lockfileModified = true ↔
        loaded? t root o.force = none ∨ entries ≠ recorded t root o.force) ∧
      (outcome.lockfileModified = false →
        (run Writer.disk t root context engine o ()).tree.readBytes (Cache.pathIn root) =
          t.readBytes (Cache.pathIn root)) ∧
      (load (run Writer.disk t root context engine o ()).tree (Cache.pathIn root) =
          .valid ⟨runningVersion, entries⟩ ↔
        ¬ (outcome.lockfileModified = true ∧
          t.LeadsBy (temporaryIn root) (top ++ [fileName]))) := by
  obtain ⟨s, files, qs, u, h⟩ := exists_completed hrun
  refine ⟨qs, _, finalFiles t root o qs, h.rendering.naiveRun hw hfree, (h.rooted hw).target?,
    fun q hq => finalFiles_get?_of_mem h.rendering hw hfree hq,
    fun key hkey => finalFiles_get?_of_not_written fun q hq => hkey q (List.mem_of_mem_filter hq),
    h.modified_iff hw, fun hunmodified => ?_, h.load_iff hw⟩
  rcases h.unmodified_or_saved hw with ⟨-, hloaded, hv⟩ | ⟨hm, -⟩
  · obtain ⟨bytes, hbytes, -⟩ := load_eq_valid_iff.mp (loaded?_eq_some_iff.mp hloaded).2
    have hentry := (h.entryAt?_of_unmodified hw hloaded).trans hbytes
    rw [hv, (readBytes_eq_ok_iff _ _).mpr hentry, (readBytes_eq_ok_iff _ _).mpr hbytes]
  · simp [hm] at hunmodified

set_option maxRecDepth 100000

theorem lockfile_contents_withLeftover :
    ∃ qs top entries,
      naiveRun (withLeftover "victim.txt") ⟨"."⟩ .empty verbatim {} = .ok qs ∧
      (withLeftover "victim.txt").target? ⟨"."⟩ .followed = some top ∧
      (∀ q ∈ qs, entries.get? q.key = some q.fingerprint) ∧
      (∀ key, (∀ q ∈ qs, q.key ≠ key) → entries.get? key =
        if (withLeftover "victim.txt").exists? (Path.join ⟨"."⟩ key) then
          (recorded (withLeftover "victim.txt") ⟨"."⟩ false).get? key
        else none) ∧
      (true = true ↔ loaded? (withLeftover "victim.txt") ⟨"."⟩ false = none ∨
        entries ≠ recorded (withLeftover "victim.txt") ⟨"."⟩ false) ∧
      (true = false →
        (run Writer.disk (withLeftover "victim.txt") ⟨"."⟩ .empty verbatim {} ()).tree.readBytes
            (Cache.pathIn ⟨"."⟩) =
          (withLeftover "victim.txt").readBytes (Cache.pathIn ⟨"."⟩)) ∧
      (load (run Writer.disk (withLeftover "victim.txt") ⟨"."⟩ .empty verbatim {} ()).tree
          (Cache.pathIn ⟨"."⟩) = .valid ⟨runningVersion, entries⟩ ↔
        ¬ (true = true ∧
          (withLeftover "victim.txt").LeadsBy (temporaryIn ⟨"."⟩) (top ++ [fileName]))) :=
  @lockfile_contents (withLeftover "victim.txt") ⟨"."⟩ .empty verbatim {}
    ⟨[⟨"./a.txt"⟩], [], [⟨"./a.etch.txt"⟩], true⟩ (wellFormed_withLeftover _)
    (backslashFree_withLeftover _) (by decide +kernel)

/-- A lockfile that is written by way of itself cannot be loaded again. -/
theorem leftover_loop_not_loaded :
    ¬ ∀ (t : FileTree) (root : Path) (context : KeyMap Json) (engine : Engine) (o : Options)
      (outcome : Outcome), WellFormed t → t.BackslashFree →
      (run Writer.disk t root context engine o ()).result = .ok outcome →
      ∃ l, load (run Writer.disk t root context engine o ()).tree (Cache.pathIn root) =
        .valid l := by
  intro h
  obtain ⟨l, hl⟩ := h (withLeftover ".etch.lock") ⟨"."⟩ .empty verbatim {}
    ⟨[⟨"./a.txt"⟩], [], [⟨"./a.etch.txt"⟩], true⟩ (wellFormed_withLeftover _)
    (backslashFree_withLeftover _) (by decide +kernel)
  have hother : load (run Writer.disk (withLeftover ".etch.lock") ⟨"."⟩ .empty verbatim {} ()).tree
      (Cache.pathIn ⟨"."⟩) =
        .unreadable "./.etch.lock" (.of .filesystemLoop) := by decide +kernel
  simp [hother] at hl

end Run
end Stencil
