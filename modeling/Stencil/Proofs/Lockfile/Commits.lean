import Stencil.Proofs.FileTree.Passage
import Stencil.Proofs.FileTree.Respelling
import Stencil.Proofs.Lockfile.Staging

/-! Commits of a cache that stays open. Main statement: a commit that writes leaves the lockfile as
the cache has it, and one that does not leaves it as the cache has it exactly if none has written
before, for a commit compares with what was loaded when the cache was opened. -/
namespace Stencil
namespace Lockfile

open FileTree Relation

/-- A cache at work in a tree. It is noted whether it has been written. -/
structure Session where
  tree : FileTree
  cache : Cache
  written : Bool

namespace Session

/-- A cache that has just been opened. -/
def opened (t : FileTree) (root : Path) (force : Bool) : Session :=
  ⟨t, (Cache.open t root force).1, false⟩

/-- One step of a session: a call, or a change of the tree that leaves the lockfile alone. -/
inductive Step (root : Path) : Session → Session → Prop
  | called {t c written} (call : Cache.Call) :
      Step root ⟨t, c, written⟩ ⟨t, Cache.after root c call, written⟩
  | changed {t u c written} (hu : WellFormed u)
      (hsame : u.entryAt? (Cache.pathIn root) = t.entryAt? (Cache.pathIn root)) :
      Step root ⟨t, c, written⟩ ⟨u, c, written⟩
  | committed {t v c written top modified} (hroot : Rooted t root top)
      (hcommit : c.commit t = (v, .ok modified)) :
      Step root ⟨t, c, written⟩ ⟨v, c, written || modified⟩
  | refused {t v c written top e} (hroot : Rooted t root top)
      (hcommit : c.commit t = (v, .error e)) : Step root ⟨t, c, written⟩ ⟨v, c, written⟩

abbrev Steps (root : Path) : Session → Session → Prop := ReflTransGen (Step root)

/-- What stays true of a cache that was opened with `loaded` on disk. Until it is written the same
is on disk, and from then on never again. -/
structure Since (root : Path) (loaded : Option Lockfile) (s : Session) : Prop where
  wellFormed : WellFormed s.tree
  path : s.cache.path = Cache.pathIn root
  onDisk : s.cache.onDisk = loaded
  version : s.cache.current.version = runningVersion
  unwritten : s.written = false → ∀ l ∈ loaded, load s.tree (Cache.pathIn root) = .valid l
  rewritten : s.written = true → ∀ l, load s.tree (Cache.pathIn root) = .valid l → loaded ≠ some l

variable {root : Path} {loaded : Option Lockfile} {s s' : Session} {t v : FileTree} {force : Bool}

theorem since_opened (hw : WellFormed t) (root : Path) (force : Bool) :
    Since root (loaded? t root force) (opened t root force) := by
  refine ⟨hw, ?_, ?_, ?_, fun _ l hl => ?_, fun h => by cases h⟩
  · rw [opened, fst_open]; rfl
  · rw [opened, fst_open]; rfl
  · rw [opened, fst_open, current_start]
  · exact (loaded?_eq_some_iff.mp hl).2

/-- A commit writes what differs from what was loaded. -/
theorem Since.commit_eq_ok_iff (h : Since root loaded s) {modified : Bool} :
    s.cache.commit s.tree = (v, .ok modified) ↔
      (modified = false ∧ loaded = some s.cache.current ∧ v = s.tree) ∨
      (modified = true ∧ loaded ≠ some s.cache.current ∧
        s.cache.current.save s.tree (Cache.pathIn root) = (v, .ok ())) := by
  obtain ⟨t, ⟨path, onDisk, current, staged⟩, written⟩ := s
  obtain rfl : path = Cache.pathIn root := h.path
  obtain rfl : onDisk = loaded := h.onDisk
  exact Lockfile.commit_eq_ok_iff

theorem Since.called (h : Since root loaded s) (call : Cache.Call) :
    Since root loaded ⟨s.tree, Cache.after root s.cache call, s.written⟩ := by
  cases call with
  | fingerprintOf key => exact ⟨h.1, h.2, h.3, h.4, h.5, h.6⟩
  | stage key fingerprint => exact ⟨h.1, h.2, h.3, h.4, h.5, h.6⟩
  | applyStaged now => exact ⟨h.1, h.2, h.3, h.4, h.5, h.6⟩

/-- Where a path leads to the same, the same lockfile is loaded. -/
theorem load_valid_congr {t u : FileTree} {p : Path} {l : Lockfile}
    (h : ∀ bytes, u.entryAt? p = some (.file bytes) ↔ t.entryAt? p = some (.file bytes)) :
    load u p = .valid l ↔ load t p = .valid l := by
  simp only [load_eq_valid_iff, h]

/-- Trees in which the lockfile is the same are as good as one another. -/
theorem Since.of_load_iff (h : Since root loaded s) (hv : WellFormed v)
    (hload : ∀ l, load v (Cache.pathIn root) = .valid l ↔
      load s.tree (Cache.pathIn root) = .valid l) :
    Since root loaded ⟨v, s.cache, s.written⟩ :=
  ⟨hv, h.path, h.onDisk, h.version, fun hn l hl => (hload l).mpr (h.unwritten hn l hl),
    fun hs l hl => h.rewritten hs l ((hload l).mp hl)⟩

theorem Since.committed (h : Since root loaded s) {top : Location} {modified : Bool}
    (hroot : Rooted s.tree root top) (hcommit : s.cache.commit s.tree = (v, .ok modified)) :
    Since root loaded ⟨v, s.cache, s.written || modified⟩ := by
  rcases h.commit_eq_ok_iff.mp hcommit with ⟨rfl, -, rfl⟩ | ⟨rfl, hne, hsave⟩
  · rw [Bool.or_false]
    exact h
  · obtain ⟨target, u, hsaved⟩ := exists_saved hroot hsave
    have htop := (hroot.of_sameFrame hsaved.put.sameFrame hsaved.wellFormed).directory
    refine ⟨hsaved.moved.wellFormed hsaved.wellFormed htop replaceable_fileName.isName, h.path,
      h.onDisk, h.version, fun hn => by simp at hn, fun _ l hl => ?_⟩
    rwa [hsaved.eq_of_load hroot h.version hl]

theorem Since.refused (h : Since root loaded s) {top : Location} {e : Problem}
    (hroot : Rooted s.tree root top) (hcommit : s.cache.commit s.tree = (v, .error e)) :
    Since root loaded ⟨v, s.cache, s.written⟩ := by
  have hwrite : ∃ bytes e', s.tree.atomicWrite (root.join fileName) bytes = (v, .error e') := by
    obtain ⟨t, ⟨path, onDisk, current, staged⟩, written⟩ := s
    obtain rfl : path = Cache.pathIn root := h.path
    exact ⟨_, (exists_of_commit_eq_error hcommit).2⟩
  obtain ⟨bytes, e', hwrite⟩ := hwrite
  obtain ⟨hv, hfile⟩ := hroot.file_iff_of_atomicWrite_failed replaceable_fileName hwrite
  exact h.of_load_iff hv fun l => load_valid_congr hfile

/-- Every step keeps what is true of the cache. -/
theorem Since.step (h : Since root loaded s) (hstep : Step root s s') : Since root loaded s' := by
  cases hstep with
  | called call => exact h.called call
  | changed hu hsame => exact h.of_load_iff hu fun l => load_valid_congr fun bytes => by rw [hsame]
  | committed hroot hcommit => exact h.committed hroot hcommit
  | refused hroot hcommit => exact h.refused hroot hcommit

theorem steps_afterAll {c : Cache} {written : Bool} (calls : List Cache.Call) :
    Steps root ⟨t, c, written⟩ ⟨t, Cache.afterAll root c calls, written⟩ := by
  induction calls generalizing c with
  | nil => exact .refl
  | cons call rest ih => exact .head (.called call) ih

theorem since_of_steps (hw : WellFormed t) (h : Steps root (opened t root force) s) :
    Since root (loaded? t root force) s := by
  induction h with
  | refl => exact since_opened hw root force
  | tail _ hstep ih => exact ih.step hstep

end Session

open Session

/-- A root that holds nothing but an empty lockfile. -/
def blank : FileTree :=
  ⟨["w"], [(["w"], .directory), (["w", fileName], .file new.render.toUTF8)]⟩

/-- A fingerprint is put on record for what is missing. -/
def recordedOnce : Cache :=
  Cache.afterAll ⟨"."⟩ (Cache.open blank ⟨"."⟩ false).1 [.stage "a.etch" 1, .applyStaged blank]

def savedOnce : FileTree := (recordedOnce.commit blank).1

/-- What is missing is dropped again, from the cache that has been saved. -/
def droppedAgain : Cache := Cache.after ⟨"."⟩ recordedOnce (.applyStaged savedOnce)

set_option maxRecDepth 100000

theorem wellFormed_blank : WellFormed blank := .of_entries rfl (by decide)

theorem rooted_blank : Rooted blank ⟨"."⟩ ["w"] := rooted_dot wellFormed_blank

theorem commit_recordedOnce : recordedOnce.commit blank = (savedOnce, .ok true) := by
  have hok : (recordedOnce.commit blank).2.toOption = some true := by decide +kernel
  refine Prod.ext rfl ?_
  cases hanswer : (recordedOnce.commit blank).2 with
  | ok modified => simpa [hanswer, Except.toOption] using hok
  | error e => simp [hanswer, Except.toOption] at hok

theorem commit_droppedAgain : droppedAgain.commit savedOnce = (savedOnce, .ok false) := by
  have hsame : droppedAgain.isModified = false := by decide +kernel
  simp [Cache.commit, hsame]

theorem steps_recordedOnce :
    Steps ⟨"."⟩ (opened blank ⟨"."⟩ false) ⟨blank, recordedOnce, false⟩ := steps_afterAll _

theorem steps_droppedAgain :
    Steps ⟨"."⟩ (opened blank ⟨"."⟩ false) ⟨savedOnce, droppedAgain, true⟩ :=
  (steps_recordedOnce.tail (.committed rooted_blank commit_recordedOnce)).tail (.called _)

theorem rooted_savedOnce : Rooted savedOnce ⟨"."⟩ savedOnce.workDir :=
  rooted_dot (since_of_steps wellFormed_blank steps_droppedAgain).wellFormed

end Lockfile
end Stencil
