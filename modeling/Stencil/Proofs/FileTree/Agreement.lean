import Stencil.Proofs.FileTree.FailedReplacement
import Stencil.Proofs.FileTree.WriteAll

/-! Trees that have the same directories and links, and the same files but at some places. What can
be written to one can be written to the other, and they agree afterwards as they did before. -/
namespace Stencil
namespace FileTree

open Stencil.Path Relation

/-- Trees in which every look-up finds the same. -/
structure Same (t u : FileTree) : Prop where
  workDir : t.workDir = u.workDir
  get?_eq : ∀ loc, u.get? loc = t.get? loc

/-- Trees that differ in files alone, and only at some locations. -/
structure AgreeOff (off : Location → Prop) (t u : FileTree) : Prop where
  sameFrame : SameFrame t u
  get?_eq : ∀ loc, ¬ off loc → u.get? loc = t.get? loc

theorem Same.agreeOff {t u : FileTree} (h : Same t u) (off : Location → Prop) : AgreeOff off t u :=
  ⟨⟨h.workDir, fun loc => .of_eq (h.get?_eq loc).symm⟩, fun loc _ => h.get?_eq loc⟩

/-- Paths lead to the same in both. -/
theorem Same.resolve_eq {t u : FileTree} (h : Same t u) (p : Path) : u.resolve p = t.resolve p :=
  resolve_congr h.workDir fun loc _ => h.get?_eq loc

theorem SameFrame.takesFile {t u : FileTree} (h : SameFrame t u) {p : Path} {e : Ending}
    (hp : (t.locate p e).TakesFile) : (u.locate p e).TakesFile := by
  by_cases ha : Admissible p
  · rw [locate_eq t ha] at hp
    rw [locate_eq u ha, ← h.outset_eq]
    exact (outcome_alike fun loc _ => h.alike loc).2 hp
  · obtain ⟨kind, hkind⟩ := exists_failed_of_not_admissible ha
    exact absurd (hkind t e) (hp.ne_failed kind)

/-- A file is written to where its path leads, if that is to a file or to nothing. -/
theorem writeBytes_eq_ok_iff {t u : FileTree} {p : Path} {bytes : ByteArray} :
    t.writeBytes p bytes = .ok u ↔ (t.locate p .written).TakesFile ∧
      ∃ loc, t.target? p .written = some loc ∧ u = t.set loc (.file bytes) := by
  unfold writeBytes target?
  cases t.locate p .written with
  | found loc entry => cases entry <;> simp [Place.TakesFile, Place.target?, eq_comm]
  | vacant dir name => simp [Place.TakesFile, Place.target?, eq_comm]
  | failed kind => simp [Place.TakesFile]

/-- Everything is written if every path leads to a file or to nothing. -/
theorem exists_writeAll_iff {t : FileTree} (hw : WellFormed t) {writes : List (Path × String)} :
    (∃ u, t.writeAll writes = .ok u) ↔ ∀ e ∈ writes, (t.locate e.1 .written).TakesFile := by
  induction writes generalizing t with
  | nil => simp [writeAll]
  | cons e rest ih =>
    obtain ⟨p, text⟩ := e
    unfold writeAll
    cases hwrite : t.writeText p text with
    | error failure =>
      simp only [reduceCtorEq, exists_false, List.mem_cons, forall_eq_or_imp, false_iff, not_and]
      intro htakes
      obtain ⟨loc, hloc⟩ := htakes.exists_target?
      have hok : t.writeBytes p text.toUTF8 = .ok (t.set loc (.file text.toUTF8)) :=
        writeBytes_eq_ok_iff.mpr ⟨htakes, loc, hloc, rfl⟩
      exact absurd (hwrite.symm.trans hok) (by simp)
    | ok u =>
      obtain ⟨loc, htarget, hput, hu⟩ := exists_filePut hw hwrite
      have hframe := hput.sameFrame
      have hrest : (∀ e ∈ rest, (u.locate e.1 .written).TakesFile) ↔
          ∀ e ∈ rest, (t.locate e.1 .written).TakesFile :=
        ⟨fun h e he => hframe.symm.takesFile (h e he), fun h e he => hframe.takesFile (h e he)⟩
      have hfirst := (writeBytes_eq_ok_iff.mp hwrite).1
      dsimp only
      rw [ih hu, hrest, List.forall_mem_cons]
      exact (and_iff_right hfirst).symm

/-- In another order the writes lead to the same tree, if what is written to a location is one
text. -/
theorem exists_writeAll_perm {t u : FileTree} (hw : WellFormed t)
    {first second : List (Path × String)} (h : first.Perm second)
    (hone : ∀ e ∈ first, ∀ f ∈ first,
      t.target? e.1 .written = t.target? f.1 .written → e.2 = f.2)
    (hfirst : t.writeAll first = .ok u) : ∃ v, t.writeAll second = .ok v ∧ Same u v := by
  obtain ⟨v, hv⟩ := (exists_writeAll_iff hw).mpr fun e he =>
    (exists_writeAll_iff hw).mp ⟨u, hfirst⟩ e (h.mem_iff.mpr he)
  have hu := written_of_writeAll hw hfirst
  have hv' := written_of_writeAll hw hv
  refine ⟨v, hv, hu.sameFrame.workDir.symm.trans hv'.sameFrame.workDir, fun loc => ?_⟩
  rw [hu.get?_eq, hv'.get?_eq, lastWritten_perm h hone]

namespace AgreeOff

variable {off : Location → Prop} {t u : FileTree}

theorem symm (h : AgreeOff off t u) : AgreeOff off u t :=
  ⟨h.sameFrame.symm, fun loc hoff => (h.get?_eq loc hoff).symm⟩

/-- Trees agree that have a file or nothing at the only place where they differ. -/
theorem of_files {place : Location} (hdir : t.workDir = u.workDir)
    (hsame : ∀ loc, loc ≠ place → u.get? loc = t.get? loc)
    (ht : ∀ entry, t.get? place = some entry → ∃ bytes, entry = .file bytes)
    (hu : ∀ entry, u.get? place = some entry → ∃ bytes, entry = .file bytes) :
    AgreeOff (· = place) t u := by
  refine ⟨⟨hdir, fun loc entry hentry => ?_⟩, hsame⟩
  by_cases hloc : loc = place
  · subst hloc
    have hnot : ∀ {w : FileTree},
        (∀ entry, w.get? loc = some entry → ∃ bytes, entry = .file bytes) →
          w.get? loc ≠ some entry := by
      intro w hfiles hw
      obtain ⟨bytes, hbytes⟩ := hfiles entry hw
      exact hentry bytes hbytes
    exact ⟨fun h => absurd h (hnot ht), fun h => absurd h (hnot hu)⟩
  · rw [hsame loc hloc]

/-- Paths that lead elsewhere lead to the same. -/
theorem entryAt?_eq (h : AgreeOff off t u) (hw : WellFormed t) (hu : WellFormed u) {p : Path}
    (hp : ∀ loc ∈ t.target? p .followed, ¬ off loc) : u.entryAt? p = t.entryAt? p := by
  rw [FileTree.entryAt?_eq hu, FileTree.entryAt?_eq hw, h.sameFrame.target?_eq]
  cases htarget : t.target? p .followed with
  | none => rfl
  | some loc => exact h.get?_eq loc (hp loc htarget)

theorem entryAt?_elsewhere {loc : Location} (h : AgreeOff (· = loc) t u) (hw : WellFormed t)
    (hu : WellFormed u) {p : Path} (hp : t.target? p .followed ≠ some loc) :
    u.entryAt? p = t.entryAt? p := by
  refine h.entryAt?_eq hw hu fun there hthere he => hp ?_
  rw [← he]
  exact hthere

/-- What is written to one tree can be written to the other. -/
theorem exists_writeBytes (h : AgreeOff off t u) (hw : WellFormed t) (hu : WellFormed u) {p : Path}
    {bytes : ByteArray} {t' : FileTree} (hwrite : t.writeBytes p bytes = .ok t') :
    ∃ u', u.writeBytes p bytes = .ok u' ∧ AgreeOff off t' u' ∧ WellFormed t' ∧ WellFormed u' := by
  obtain ⟨htakes, loc, hloc, rfl⟩ := writeBytes_eq_ok_iff.mp hwrite
  have hloc' := (h.sameFrame.target?_eq p .written).trans hloc
  have hwrite' : u.writeBytes p bytes = .ok (u.set loc (.file bytes)) :=
    writeBytes_eq_ok_iff.mpr ⟨h.sameFrame.takesFile htakes, loc, hloc', rfl⟩
  obtain ⟨there, hthere, hput, hw'⟩ := exists_filePut hw hwrite
  obtain ⟨there', hthere', hput', hu'⟩ := exists_filePut hu hwrite'
  obtain rfl : there = loc := Option.some.inj (hthere.symm.trans hloc)
  obtain rfl : there' = there := Option.some.inj (hthere'.symm.trans hloc')
  refine ⟨_, hwrite', ⟨(hput.sameFrame.symm.trans h.sameFrame).trans hput'.sameFrame,
    fun other hoff => ?_⟩, hw', hu'⟩
  rw [hput.get?_eq, hput'.get?_eq, h.get?_eq other hoff]

theorem exists_writeAll (h : AgreeOff off t u) (hw : WellFormed t) (hu : WellFormed u)
    {writes : List (Path × String)} {t' : FileTree} (hwrite : t.writeAll writes = .ok t') :
    ∃ u', u.writeAll writes = .ok u' ∧ AgreeOff off t' u' := by
  induction writes generalizing t u with
  | nil =>
    obtain rfl := Except.ok.inj hwrite
    exact ⟨u, rfl, h⟩
  | cons e rest ih =>
    obtain ⟨p, text⟩ := e
    unfold writeAll at hwrite
    split at hwrite
    · simp at hwrite
    next first hfirst =>
    obtain ⟨first', hfirst', hnext, hw', hu'⟩ := h.exists_writeBytes hw hu hfirst
    obtain ⟨u', hrest, hagree⟩ := ih hnext hw' hu' hwrite
    refine ⟨u', ?_, hagree⟩
    have htext : u.writeText p text = .ok first' := hfirst'
    unfold writeAll
    rw [htext]
    exact hrest

end AgreeOff

/-- A file is replaced where its temporary sibling can be written and no directory is in its
place. -/
theorem exists_atomicWrite {t u : FileTree} {root : Path} {top : Location} {name : String}
    {bytes : ByteArray} (h : Rooted t root top) (hname : IsReplaceable name)
    (ha : Admissible (root.join name))
    (hwrite : t.writeBytes (temporaryFor (root.join name)) bytes = .ok u)
    (hfree : t.get? (top ++ [name]) ≠ some .directory) :
    ∃ v, t.atomicWrite (root.join name) bytes = (v, .ok ()) := by
  obtain ⟨into, dots, w⟩ := exists_ways h.admissible.ne_empty hname
  obtain ⟨target, htarget, hput, hw⟩ := exists_filePut h.wellFormed hwrite
  obtain ⟨k, hsteps⟩ := w.exists_steps (h.of_sameFrame hput.sameFrame hw)
  obtain ⟨there, entry, hentry, -, hsource, -⟩ := exists_removed htarget hput hw
  have hplace := locate_kept ha hname.isName (w.steps_file hname hsteps .kept)
  have hfree' : u.get? (top ++ [name]) ≠ some .directory := fun hd =>
    hfree ((hput.sameFrame.alike _).directory.mpr hd)
  have hrename : ∃ v, u.rename (temporaryFor (root.join name)) (root.join name) = .ok v := by
    unfold rename
    rw [hsource, hplace]
    cases hg : u.get? (top ++ [name]) with
    | none => exact ⟨_, rfl⟩
    | some old =>
      cases old with
      | directory => exact absurd hg hfree'
      | _ => exact ⟨_, rfl⟩
  obtain ⟨v, hv⟩ := hrename
  refine ⟨v, ?_⟩
  unfold atomicWrite writeTemporary replaceBy
  rw [w.ensureParent_eq h]
  simp only [hwrite, hv]

end FileTree
end Stencil
