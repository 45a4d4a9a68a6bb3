import Stencil.Proofs.Run.LockfileContents

/-! What is left of the outputs of a run. In a tree without links an output holds the text written
for it unless another was written over it, or the lockfile or its temporary sibling came in the way
when the lockfile was saved. -/
namespace Stencil

namespace FileTree

/-- At a place that has been written to is the text of one that was written there. -/
theorem Written.exists_at {t u : FileTree} {writes : List (Path × String)} (h : Written t u writes)
    {e : Path × String} (he : e ∈ writes) {loc : Location}
    (hloc : t.target? e.1 .written = some loc) :
    ∃ f ∈ writes, t.target? f.1 .written = some loc ∧ u.get? loc = some (.file f.2.toUTF8) := by
  rw [h.get?_eq]
  cases hlast : t.lastWritten writes loc with
  | none => exact absurd hloc (lastWritten_eq_none_iff.mp hlast e he)
  | some entry =>
    obtain ⟨f, hf, hfloc, rfl⟩ := exists_of_lastWritten hlast
    exact ⟨f, hf, hfloc, rfl⟩

end FileTree

namespace Run

open FileTree Lockfile

variable {t u v : FileTree} {root : Path} {context : KeyMap Json} {engine : Engine} {o : Options}
  {s : Setting} {files : List String} {qs : List Product} {outcome : Outcome}

namespace Completed

/-- Without links a run leads every path where it led before. -/
theorem sameFrame (h : Completed t root context engine o s files qs u v outcome) (hw : WellFormed t)
    (hfree : t.LinkFree) : SameFrame t v ∧ WellFormed v := by
  have hwritten := h.written_tree hw
  rcases h.unmodified_or_saved hw with ⟨-, -, rfl⟩ | ⟨-, -, target, u', hsaved⟩
  · exact ⟨hwritten.sameFrame, hwritten.wellFormed⟩
  · have hu := hwritten.sameFrame.linkFree hfree
    have hroot := h.rooted_written hw
    have hd' : u'.get? s.locator.location = some .directory :=
      (hsaved.put.sameFrame.alike _).directory.mp hroot.directory
    exact ⟨hwritten.sameFrame.trans (hsaved.sameFrame hroot hu),
      hsaved.moved.wellFormed hsaved.wellFormed hd' replaceable_fileName.isName⟩

/-- What a run without links in its way leaves at a place. -/
theorem get?_left (h : Completed t root context engine o s files qs u v outcome) (hw : WellFormed t)
    (hfree : t.LinkFree) (loc : Location) : v.get? loc =
      if outcome.lockfileModified = true then
        if loc = s.locator.location ++ [fileName] then
          some (.file (finalLockfile t root o qs).render.toUTF8)
        else if loc = s.locator.location ++ [temporaryName fileName] then none
        else u.get? loc
      else u.get? loc := by
  rcases h.unmodified_or_saved hw with ⟨hm, -, rfl⟩ | ⟨hm, -, target, u', hsaved⟩
  · simp [hm]
  · have hu := (h.written_tree hw).sameFrame.linkFree hfree
    rw [if_pos hm, hsaved.get?_eq (h.rooted_written hw) (hu _)]

/-- What is written has a place, where one of the texts written there is afterwards. -/
theorem exists_place (h : Completed t root context engine o s files qs u v outcome)
    (hw : WellFormed t) {q : Product} (hq : q ∈ writtenOnes t (recorded t root o.force) qs) :
    ∃ loc, t.target? q.output .followed = some loc ∧
      ∃ x ∈ writtenOnes t (recorded t root o.force) qs,
        t.target? x.output .followed = some loc ∧ u.get? loc = some (.file x.text.toUTF8) := by
  have hwritten := h.written_tree hw
  have hmem : (q.output, q.text) ∈ Run.writes t root o qs := List.mem_map.mpr ⟨q, hq, rfl⟩
  obtain ⟨loc, hloc, -⟩ := hwritten.targets _ hmem
  obtain ⟨f, hf, hfloc, hfile⟩ := hwritten.exists_at hmem hloc
  obtain ⟨x, hx, rfl⟩ := List.mem_map.mp hf
  exact ⟨loc, target?_followed_of_written hloc, x, hx, target?_followed_of_written hfloc, hfile⟩

end Completed

/-- After a run in a tree without links every output written holds its text exactly if outputs that
lead to the same file have the same text and, in case the lockfile was saved, no output leads to
its temporary sibling, and one that leads to the lockfile has its text. -/
theorem outputs_left_iff (hw : WellFormed t) (hfree : t.LinkFree)
    (hrun : (run Writer.disk t root context engine o ()).result = .ok outcome) :
    ∃ top written, t.target? root .followed = some top ∧
      written = writtenOnes t (recorded t root o.force) (products t root context engine o) ∧
      outcome.written = written.map Product.output ∧
      (t.BackslashFree → ∀ q ∈ written, engine q.located.text context = .ok q.text) ∧
      ((∀ q ∈ written, (run Writer.disk t root context engine o ()).tree.entryAt? q.output =
          some (.file q.text.toUTF8)) ↔
        (∀ a ∈ written, ∀ b ∈ written,
          t.target? a.output .followed = t.target? b.output .followed → a.text = b.text) ∧
        (outcome.lockfileModified = true → ∀ q ∈ written,
          t.target? q.output .followed ≠ some (top ++ [temporaryName fileName]) ∧
          (t.target? q.output .followed = some (top ++ [fileName]) →
            q.text = (finalLockfile t root o (products t root context engine o)).render))) := by
  obtain ⟨s, files, qs, u, h⟩ := exists_completed hrun
  rw [products_eq h.rendering]
  refine ⟨s.locator.location, _, (h.rooted hw).target?, rfl, h.written, fun hslash q hq =>
    (read_of_mem h.rendering hw hslash (List.mem_of_mem_filter hq)).2.2, ?_⟩
  generalize (run Writer.disk t root context engine o ()).tree = v at h ⊢
  obtain ⟨hframe, hv⟩ := h.sameFrame hw hfree
  have hentry : ∀ {p : Path} {loc : Location}, t.target? p .followed = some loc →
      v.entryAt? p = v.get? loc := by
    intro p loc hloc
    rw [entryAt?_eq hv, hframe.target?_eq, hloc, Option.bind_some]
  have htext : ∀ {a b : String},
      some (Entry.file a.toUTF8) = some (Entry.file b.toUTF8) → a = b := by
    intro a b hab
    have hread := congrArg String.fromUTF8? (Entry.file.inj (Option.some.inj hab))
    rwa [fromUTF8?_toUTF8, fromUTF8?_toUTF8, Option.some_inj] at hread
  constructor
  · intro hholds
    refine ⟨fun a ha b hb hsame => ?_, fun hm q hq => ⟨fun hsibling => ?_, fun hplace => ?_⟩⟩
    · obtain ⟨loc, hloc, -⟩ := h.exists_place hw ha
      have hheld := (hentry hloc).symm.trans (hholds a ha)
      rw [← hentry (hsame ▸ hloc), hholds b hb] at hheld
      exact (htext hheld).symm
    · have hheld := (hentry hsibling).symm.trans (hholds q hq)
      have hne : temporaryName fileName ≠ fileName := temporaryName_ne fileName
      simp [h.get?_left hw hfree, hm, hne] at hheld
    · have hheld := (hentry hplace).symm.trans (hholds q hq)
      rw [h.get?_left hw hfree, if_pos hm, if_pos rfl] at hheld
      exact (htext hheld).symm
  · rintro ⟨hone, hsaved⟩ q hq
    obtain ⟨loc, hloc, x, hx, hxloc, hfile⟩ := h.exists_place hw hq
    have hsame : x.text = q.text := hone x hx q hq (hxloc.trans hloc.symm)
    rw [hentry hloc, h.get?_left hw hfree, hfile, hsame]
    split
    · next hm =>
      obtain ⟨hsibling, hplace⟩ := hsaved hm q hq
      split
      · next he => rw [hplace (he ▸ hloc)]
      · split
        · next he => exact absurd (he ▸ hloc) hsibling
        · rfl
    · rfl

/-- Two templates that are rendered to the same file. -/
def twoForOne : FileTree :=
  ⟨["w"], [(["w"], .directory), (["w", "x.etch.txt"], .file "one".toUTF8),
    (["w", "x.txt.etch"], .file "two".toUTF8)]⟩

/-- A template that is rendered to the lockfile. -/
def forLockfile : FileTree :=
  ⟨["w"], [(["w"], .directory), (["w", ".etch.etch.lock"], .file "hello".toUTF8)]⟩

set_option maxRecDepth 100000

theorem outputs_left_twoForOne :
    ¬ ∀ q ∈ [inRoot "x.etch.txt" "x.txt" "one", inRoot "x.txt.etch" "x.txt" "two"],
      (run Writer.disk twoForOne ⟨"."⟩ .empty verbatim {} ()).tree.entryAt? q.output =
        some (.file q.text.toUTF8) := by
  obtain ⟨top, written, -, hwritten, -, -, hiff⟩ := @outputs_left_iff twoForOne ⟨"."⟩ .empty verbatim
    {} ⟨[⟨"./x.txt"⟩, ⟨"./x.txt"⟩], [], [⟨"./x.etch.txt"⟩, ⟨"./x.txt.etch"⟩], true⟩
    (.of_entries rfl (by decide +kernel)) (.of_entries (by simp [twoForOne])) (by decide +kernel)
  obtain rfl : written =
      [inRoot "x.etch.txt" "x.txt" "one", inRoot "x.txt.etch" "x.txt" "two"] :=
    hwritten.trans (by decide +kernel)
  intro hholds
  have hsame := (hiff.mp hholds).1 (inRoot "x.etch.txt" "x.txt" "one") (by simp)
    (inRoot "x.txt.etch" "x.txt" "two") (by simp) rfl
  revert hsame
  decide

/-- An output that is the lockfile's own file is lost when the lockfile is saved. -/
theorem output_at_lockfile_lost :
    ¬ ∀ (t : FileTree) (root : Path) (context : KeyMap Json) (engine : Engine) (o : Options)
      (outcome : Outcome), WellFormed t → t.LinkFree → o.templateMatcher = "etch" →
      (run Writer.disk t root context engine o ()).result = .ok outcome →
      ∀ q ∈ writtenOnes t (recorded t root o.force) (products t root context engine o),
        (run Writer.disk t root context engine o ()).tree.entryAt? q.output =
          some (.file q.text.toUTF8) := by
  intro h
  have hlost := h forLockfile ⟨"."⟩ .empty verbatim {}
    ⟨[⟨"./.etch.lock"⟩], [], [⟨"./.etch.etch.lock"⟩], true⟩
    (.of_entries rfl (by decide +kernel)) (.of_entries (by simp [forLockfile])) rfl
    (by decide +kernel) (inRoot ".etch.etch.lock" ".etch.lock" "hello") (by decide +kernel)
  revert hlost
  decide +kernel

end Run
end Stencil
