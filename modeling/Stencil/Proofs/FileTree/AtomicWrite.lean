import Stencil.Proofs.FileTree.Ancestors

/-! Writing a file atomically, from the directories that are missing to the rename. Main statement:
a write that succeeds has put the file in its place and made what was missing on the way, and one
that something is in the way of leaves the tree as it was. -/
namespace Stencil
namespace FileTree

open Stencil.Path Relation

variable {t u v : FileTree} {p q : Path} {name : String} {dots idle : List String} {dir : Location}
  {k : Nat} {bytes : ByteArray}

/-! ## Names of temporary siblings -/

theorem isEntry_temporaryName (h : IsEntry name) : IsEntry (temporaryName name) := by
  have hlong : 5 ≤ (temporaryName name).toList.length := by
    simp [temporaryName]
  have hne : ∀ s : String, s.toList.length < 5 → temporaryName name ≠ s := by
    rintro s hs rfl
    omega
  refine ⟨hne _ (by decide), hne _ (by decide), hne _ (by decide), ?_⟩
  simp [temporaryName, h.slash_notMem]

/-- The temporary sibling of a file is in its directory. -/
theorem Spelt.sibling (h : Spelt p q name dots idle) :
    Spelt (temporaryFor p) q (temporaryName name) [] [] := by
  have heq : temporaryFor p = p.withFileName (temporaryName name) := by
    simp [temporaryFor, h.fileName, temporaryName]
  rw [heq]
  exact h.withFileName (isEntry_temporaryName h.isEntry)

/-- A file may have a name that its temporary sibling may have. -/
theorem isReplaceable (h : IsEntry name) (hs : IsName (temporaryName name)) :
    IsReplaceable name := by
  refine ⟨⟨h.ne_empty, h.ne_dot, h.ne_dots, h.slash_notMem, ?_⟩, hs⟩
  have hshort := hs.short
  simp only [temporaryName, String.utf8ByteSize_append] at hshort
  omega

/-! ## What is in no place and what is idle -/

theorem replace_of_find?_eq_none {entries : List (Location × Entry)} {loc : Location}
    (h : find? entries loc = none) (entry : Entry) :
    replace entries loc entry = entries ++ [(loc, entry)] := by
  induction entries with
  | nil => rfl
  | cons e rest ih =>
    obtain ⟨l, x⟩ := e
    by_cases hl : l = loc
    · simp [find?, hl] at h
    · simp only [find?, hl, if_false] at h
      simp [replace, hl, ih h]

/-- What was put where nothing was is taken away without a trace. -/
theorem erase_set (hw : WellFormed t) {loc : Location} (hfree : t.get? loc = none)
    (entry : Entry) : (t.set loc entry).erase loc = t := by
  have hne : loc ≠ [] := by
    rintro rfl
    simp [get?] at hfree
  have hfind : find? t.entries loc = none := by simpa [get?, hne] using hfree
  have hbelow : ∀ e ∈ t.entries, ¬ loc <+: e.1 := by
    intro e he hp
    have hsome : (t.get? e.1).isSome := by
      have hee : e.1 ≠ [] := fun hnil => hne (List.prefix_nil.mp (hnil ▸ hp))
      simpa [get?, hee] using (find?_isSome_iff t.entries e.1).mpr ⟨e, he, rfl⟩
    have hsame := hw.eq_of_prefix hp (by simp [hfree]) hsome
    simp [hsame, hfree] at hsome
  have hkeep : t.entries.filter (fun e => !loc.isPrefixOf e.1) = t.entries :=
    List.filter_eq_self.mpr fun e he => by
      rw [Bool.not_eq_true', Bool.eq_false_iff, Ne, List.isPrefixOf_iff_prefix]
      exact hbelow e he
  have hself : loc.isPrefixOf loc = true := List.isPrefixOf_iff_prefix.mpr List.prefix_rfl
  simp [set, erase, replace_of_find?_eq_none hfind, List.filter_append, hkeep, hself]

/-- A path that ends in idle steps leads to a directory or nowhere. -/
theorem outcome_of_idle {n : Nat} {d : Location} (s : List String) (hne : idle ≠ [])
    (hidle : ∀ s ∈ idle, s = "." ∨ s = "") :
    (∃ there, t.outcome .kept ⟨n, d, s ++ idle⟩ = .found there .directory) ∨
      ∃ kind, t.outcome .kept ⟨n, d, s ++ idle⟩ = .failed kind := by
  by_cases h : ∃ there, t.outcome .followed ⟨n, d, s⟩ = .found there .directory
  · obtain ⟨there, hthere⟩ := h
    obtain ⟨k, hsteps⟩ := exists_steps_of_directory (r := []) (by simp) (by simpa using hthere)
    refine .inl ⟨there, ?_⟩
    rw [outcome_of_steps (hsteps.append (.kept hne))]
    exact outcome_idle hidle
  · exact .inr (exists_failed_beyond (.kept hne) hne fun there hthere => h ⟨there, hthere⟩)

theorem not_rename_of_directory {loc : Location} (h : t.locate p .kept = .found loc .directory) :
    t.rename q p ≠ .ok u := by
  unfold rename
  rw [h]
  cases t.locate q .kept <;> simp

theorem not_rename_of_failed {kind : IoKind} (h : t.locate p .kept = .failed kind) :
    t.rename q p ≠ .ok u := by
  unfold rename
  rw [h]
  cases t.locate q .kept <;> simp

/-- Nothing is renamed to a path that ends in something idle. -/
theorem Spelt.idle_eq_nil (h : Spelt p q name dots idle) {source : Path}
    (hrename : t.rename source p = .ok u) : idle = [] := by
  by_contra hne
  have ha := admissible_of_rename hrename
  have hout : t.outset p =
      ⟨maxLinks, start t.workDir p.text, (steps q.text ++ (dots ++ [name])) ++ idle⟩ := by
    rw [outset, h.steps_eq]
    simp
  have hplace := outcome_of_idle (t := t) (n := maxLinks) (d := start t.workDir p.text)
    (steps q.text ++ (dots ++ [name])) hne h.after
  rw [← hout, ← locate_eq t ha] at hplace
  rcases hplace with ⟨there, hthere⟩ | ⟨kind, hkind⟩
  · exact not_rename_of_directory hthere hrename
  · exact not_rename_of_failed hkind hrename

/-! ## The directory of a file -/

theorem outset_of_empty (he : q.text = "") : t.outset q = ⟨maxLinks, t.workDir, []⟩ := by
  have hrelative : ¬ "".startsWith "/" = true := not_startsWith_of_notMem (by simp)
  have hsteps : steps "" = [] := by decide
  rw [outset, he, hsteps, start, if_neg hrelative]

/-- The steps to the directory of a file. -/
theorem IsIn.exists_steps (h : t.IsIn p dir) (hs : Spelt p q name dots idle) :
    ∃ k, Steps t .followed (t.outset q) ⟨k, dir, []⟩ := by
  obtain ⟨q', hq', hin⟩ := h
  obtain rfl : q' = q := Option.some.inj (hq'.symm.trans hs.parent)
  split at hin
  · next he =>
    rw [outset_of_empty he, hin]
    exact ⟨_, .refl⟩
  · exact (exists_steps_of_resolve hin).2

theorem isIn_of_steps (ha : Admissible p) (hs : Spelt p q name dots idle)
    (h : Steps t .followed (t.outset q) ⟨k, dir, []⟩) : t.IsIn p dir := by
  refine ⟨q, hs.parent, ?_⟩
  split
  · next he =>
    rw [outset_of_empty he] at h
    have hout := outcome_of_steps h
    rw [outcome_of_ends .here, outcome_of_ends .here] at hout
    exact (Place.found.inj hout).1.symm
  · next hne =>
    rw [resolve, locate_eq t (ha.of_prefix hne hs.isPrefix), outcome_of_steps h]
    exact outcome_of_ends .here

/-! ## The sibling written -/

/-- Nothing is at the temporary sibling of a path. -/
def SiblingFree (t : FileTree) (p : Path) : Prop :=
  ∀ loc entry, t.locate (temporaryFor p) .kept ≠ .found loc entry

/-- The temporary sibling has been written into the directory of a file, where nothing was. -/
structure SiblingPut (t u : FileTree) (q : Path) (dir : Location) (name : String)
    (bytes : ByteArray) : Prop where
  free : t.get? (dir ++ [temporaryName name]) = none
  put : FilePut t u (dir ++ [temporaryName name]) bytes
  wellFormed : WellFormed u
  isReplaceable : IsReplaceable name
  steps : ∃ k, Steps u .followed (u.outset q) ⟨k, dir, []⟩

/-- Where nothing was at the sibling, nothing is once the directory is made. -/
theorem Made.sibling_free (hm : Made t u dir) (hw : WellFormed t) (hin : u.IsIn p dir)
    (hs : Spelt p q name dots idle) (hfree : t.SiblingFree p) (ha : Admissible (temporaryFor p)) :
    u.get? (dir ++ [temporaryName name]) = none := by
  by_contra hsome
  rcases hm.adds _ (Option.isSome_iff_ne_none.mpr hsome) with hsome | hp
  · obtain rfl := hm.unchanged (hw.above dir _ hsome)
    obtain ⟨k, hsteps⟩ := hin.exists_steps hs
    have hplace := locate_kept ha (hw.named dir _ hsome)
      (hs.sibling.exists_steps hsteps (.kept (by simp)))
    obtain ⟨entry, hentry⟩ := Option.isSome_iff_exists.mp hsome
    rw [hentry] at hplace
    exact hfree _ _ hplace
  · have hle := hp.length_le
    simp only [List.length_append, List.length_singleton] at hle
    omega

/-- What writing the temporary sibling does to a tree that has the directory. -/
theorem siblingPut_of_writeBytes (hw : WellFormed t) (hin : t.IsIn p dir)
    (hs : Spelt p q name dots idle) (hfree : t.get? (dir ++ [temporaryName name]) = none)
    (h : t.writeBytes (temporaryFor p) bytes = .ok u) : SiblingPut t u q dir name bytes := by
  obtain ⟨target, htarget, hput, hu⟩ := exists_filePut hw h
  obtain ⟨k, hsteps⟩ := hin.exists_steps hs
  have hentry := hs.sibling.isEntry
  have hlast : Extends .followed .written ([] ++ temporaryName name :: []) :=
    .of_getLast? _ _ (by simp) (by simpa using hentry.ne_empty)
  have hplace := outcome_of_free hentry (hs.sibling.exists_steps hsteps hlast) hfree
  rw [target?_eq t (admissible_of_target? htarget)] at htarget
  rcases hplace with ⟨hvacant, hsname⟩ | ⟨kind, hfailed⟩
  · rw [hvacant] at htarget
    obtain rfl : dir ++ [temporaryName name] = target := Option.some.inj htarget
    refine ⟨hfree, hput, hu, FileTree.isReplaceable hs.isEntry hsname, k, ?_⟩
    rw [← hput.sameFrame.outset_eq]
    exact hsteps.alike fun loc _ => hput.sameFrame.alike loc
  · simp [hfailed, Place.target?] at htarget

/-- The sibling that has been written is found. -/
theorem SiblingPut.locate_eq (h : SiblingPut t u q dir name bytes) (hs : Spelt p q name dots idle)
    (ha : Admissible (temporaryFor p)) :
    u.locate (temporaryFor p) .kept = .found (dir ++ [temporaryName name]) (.file bytes) := by
  obtain ⟨k, hsteps⟩ := h.steps
  have hplace := locate_kept ha h.isReplaceable.sibling
    (hs.sibling.exists_steps hsteps (.kept (by simp)))
  rwa [h.put.get?_eq, if_pos rfl] at hplace

/-- The sibling that has been written is moved, and nothing is left of it. -/
theorem SiblingPut.moved (h : SiblingPut t u q dir name bytes) (hs : Spelt p q name dots [])
    (ha : Admissible (temporaryFor p)) (hrename : u.rename (temporaryFor p) p = .ok v) :
    Moved u v dir name := by
  obtain ⟨k, hsteps⟩ := h.steps
  have hsource := locate_kept ha h.isReplaceable.sibling
    (hs.sibling.exists_steps hsteps (.kept (by simp)))
  have hplace := locate_kept (admissible_of_rename hrename) h.isReplaceable.isName
    (hs.exists_steps hsteps (.kept (by simp)))
  exact moved_of_rename h.wellFormed hsource hplace (by simp [h.put.get?_eq]) hrename

theorem SiblingPut.get?_moved (h : SiblingPut t u q dir name bytes) (hm : Moved u v dir name)
    (loc : Location) :
    v.get? loc = if loc = dir ++ [name] then some (.file bytes) else t.get? loc := by
  rw [hm.get?_eq]
  split
  · rw [h.put.get?_eq, if_pos rfl]
  · split
    · next hloc => rw [hloc, h.free]
    · next hloc => rw [h.put.get?_eq, if_neg hloc]

/-! ## The file in its place -/

/-- Something is in the way of a file: it is a directory, or some path above it is something else. -/
def IsBlocked (t : FileTree) (p : Path) : Prop :=
  (∃ loc, t.locate p .kept = .found loc .directory) ∨ ∃ a, Above a p ∧ IsObstacle t a

/-- What has become of a tree in which a file has been put in its place: in its directory, which
has been made if it was missing, the file has the name that the path ends in. -/
structure IsInPlace (t v : FileTree) (p : Path) (dir : Location) (name : String)
    (bytes : ByteArray) : Prop where
  /-- With the directories made, the path is in the directory -/
  isIn : (t.ensureParent p).1.IsIn p dir
  /-- If it was in a directory before, it is that one -/
  directory : ∀ before, t.IsIn p before → before = dir
  /-- Nothing but directories is made on the way -/
  missing : ∀ loc, loc <+: dir → t.get? loc = none ∨ t.get? loc = some .directory
  /-- What was at the path itself, a link included, was in the place of the file -/
  place : ∀ loc entry, t.locate p .kept = .found loc entry →
    loc = dir ++ [name] ∧ entry ≠ .directory
  workDir : v.workDir = t.workDir
  get?_eq : ∀ loc, v.get? loc =
    if loc = dir ++ [name] then some (.file bytes)
    else if loc <+: dir then some .directory
    else t.get? loc
  sibling : v.get? (dir ++ [temporaryName name]) = none
  /-- The path leads to the file, unless it led by a link that the file has taken the place of -/
  reached : (∀ q, p.parent? = some q → ¬ t.LeadsBy q (dir ++ [name])) →
    v.IsIn p dir ∧ v.locate p .kept = .found (dir ++ [name]) (.file bytes) ∧
      v.locate (temporaryFor p) .kept = .vacant dir (temporaryName name)

theorem IsIn.unique {other : Location} (h : t.IsIn p dir) (h' : t.IsIn p other) : dir = other := by
  obtain ⟨q, hq, hin⟩ := h
  obtain ⟨q', hq', hin'⟩ := h'
  obtain rfl : q = q' := Option.some.inj (hq.symm.trans hq')
  split at hin
  · next he =>
    rw [if_pos he] at hin'
    rw [hin, hin']
  · next he =>
    rw [if_neg he, hin] at hin'
    exact (Place.found.inj hin').1

/-- A path is in the directory that it was in. -/
theorem IsIn.grown (h : t.IsIn p dir) (hg : Grown t u) : u.IsIn p dir := by
  obtain ⟨q, hq, hin⟩ := h
  refine ⟨q, hq, ?_⟩
  split
  · next he =>
    rw [if_pos he] at hin
    rw [hin, hg.workDir]
  · next he =>
    rw [if_neg he] at hin
    exact locate_eq_of_found hg.workDir.symm hg.keeps hin

/-- The steps to the directory are the same with the file in its place, unless they lead by a link
that it has taken the place of. -/
theorem Made.steps_of_put {g : FileTree} (hm : Made t g dir) (hw : WellFormed t)
    (hnew : ∀ loc, v.get? loc = if loc = dir ++ [name] then some (.file bytes) else g.get? loc)
    (hnot : g.get? (dir ++ [name]) ≠ some .directory) (hv : ¬ t.LeadsBy q (dir ++ [name]))
    (h : Steps g .followed (g.outset q) ⟨k, dir, []⟩) :
    Steps v .followed (g.outset q) ⟨k, dir, []⟩ := by
  refine h.alike fun loc hvisits => ?_
  by_cases hloc : loc = dir ++ [name]
  · subst hloc
    have hlink : ∀ target, g.get? (dir ++ [name]) ≠ some (.link target) := by
      intro target hlink
      have ht := (hm.grown.adds _ _ hlink).resolve_right (by simp)
      obtain rfl := hm.unchanged (hw.above dir name (by simp [ht]))
      exact hv hvisits
    intro entry hentry
    rw [hnew, if_pos rfl]
    refine iff_of_false (fun hold => ?_) fun hput => hentry bytes (Option.some.inj hput).symm
    cases entry with
    | file old => exact hentry old rfl
    | directory => exact hnot hold
    | link target => exact hlink target hold
  · exact .of_eq (by rw [hnew, if_neg hloc])

/-- A write that succeeds has put the file in its place. -/
theorem isInPlace_of_atomicWrite (hw : WellFormed t) (hname : p.fileName? = some name)
    (hup : .parent ∉ p.components) (hfree : t.SiblingFree p)
    (h : t.atomicWrite p bytes = (v, .ok ())) : ∃ dir, IsInPlace t v p dir name bytes := by
  obtain ⟨g, u, hparented, hbytes, hrename⟩ := exists_of_atomicWrite h
  obtain ⟨dir, hin, hmade⟩ :=
    exists_made_of_ensureParent hw hname (up_notMem_steps hup) hparented
  obtain ⟨q, dots, idle, hs, -⟩ := exists_spelt hname
  obtain ⟨target, htarget, -⟩ := exists_filePut hmade.grown.wellFormed hbytes
  have hsa := admissible_of_target? htarget
  have hpa := admissible_of_rename hrename
  have hput := siblingPut_of_writeBytes hmade.grown.wellFormed hin hs
    (hmade.sibling_free hw hin hs hfree hsa) hbytes
  obtain rfl := hs.idle_eq_nil hrename
  have hmoved := hput.moved hs hsa hrename
  have hnew := hput.get?_moved hmoved
  have hne : dir ++ [temporaryName name] ≠ dir ++ [name] := by
    simpa using temporaryName_ne name
  have hnot : g.get? (dir ++ [name]) ≠ some .directory := by
    have hold := hmoved.free
    rwa [hput.put.get?_eq, if_neg hne.symm] at hold
  have hdir : v.workDir = g.workDir := by
    rw [← hmoved.workDir, hput.put.eq]
    rfl
  obtain ⟨k, hsteps⟩ := hin.exists_steps hs
  refine ⟨dir, ?_, fun before hb => ?_, fun loc hp => ?_, fun loc entry hfound => ?_, ?_,
    fun loc => ?_, ?_, fun hv => ?_⟩
  · rwa [hparented]
  · exact (hb.grown hmade.grown).unique hin
  · cases ht : t.get? loc with
    | none => exact .inl rfl
    | some entry =>
      have hg := hmade.grown.keeps loc entry ht
      rw [hmade.get?_eq, if_pos hp] at hg
      exact .inr hg.symm
  · have hg := locate_eq_of_found hmade.grown.workDir.symm hmade.grown.keeps hfound
    have hplace := locate_kept hpa hput.isReplaceable.isName (hs.exists_steps hsteps (.kept (by simp)))
    rw [hg] at hplace
    cases hold : g.get? (dir ++ [name]) with
    | none => simp [hold] at hplace
    | some old =>
      rw [hold] at hplace hnot
      obtain ⟨rfl, rfl⟩ := Place.found.inj hplace
      exact ⟨rfl, fun he => hnot (congrArg some he)⟩
  · rw [hdir, hmade.grown.workDir]
  · rw [hnew, hmade.get?_eq]
  · rw [hnew, if_neg hne, hput.free]
  · have hsv := hmade.steps_of_put hw hnew hnot (hv q hs.parent) hsteps
    have hout : g.outset q = v.outset q := by rw [outset, outset, hdir]
    rw [hout] at hsv
    have hfile := locate_kept hpa hput.isReplaceable.isName (hs.exists_steps hsv (.kept (by simp)))
    have hsibling := locate_kept hsa hput.isReplaceable.sibling
      (hs.sibling.exists_steps hsv (.kept (by simp)))
    rw [hnew, if_pos rfl] at hfile
    rw [hnew, if_neg hne, hput.free] at hsibling
    exact ⟨isIn_of_steps hpa hs hsv, hfile, hsibling⟩

/-- A write that a directory is in the place of leaves the tree as it was. -/
theorem exists_error_of_directory (hw : WellFormed t) (hname : p.fileName? = some name)
    (hup : .parent ∉ p.components) (hfree : t.SiblingFree p) {loc : Location}
    (hplace : t.locate p .kept = .found loc .directory) :
    ∃ e, t.atomicWrite p bytes = (t, .error e) := by
  have hparent := ensureParent_of_found hname (up_notMem_steps hup) hplace
  obtain ⟨dir, hin, hmade⟩ :=
    exists_made_of_ensureParent hw hname (up_notMem_steps hup) hparent
  obtain ⟨q, dots, idle, hs, -⟩ := exists_spelt hname
  cases hwritten : t.writeTemporary p bytes with
  | error e => exact ⟨e, by simp only [atomicWrite, hparent, hwritten]⟩
  | ok u =>
    have hbytes := writeBytes_of_writeTemporary hwritten
    obtain ⟨target, htarget, -⟩ := exists_filePut hw hbytes
    have hsa := admissible_of_target? htarget
    have hput := siblingPut_of_writeBytes hw hin hs (hmade.sibling_free hw hin hs hfree hsa) hbytes
    have hsibling := hput.locate_eq hs hsa
    have hstill : u.locate p .kept = .found loc .directory := by
      refine locate_eq_of_found (by rw [hput.put.eq]; rfl) (fun other found hother => ?_) hplace
      rw [hput.put.get?_eq, if_neg, hother]
      rintro rfl
      simp [hput.free] at hother
    have hrename : u.rename (temporaryFor p) p = .error (.of .isADirectory) := by
      simp only [rename, hsibling, hstill]
    have hremove : u.removeFile (temporaryFor p) = .ok t := by
      simp only [removeFile, hsibling]
      rw [hput.put.eq, erase_set hw hput.free]
    simp only [atomicWrite, hparent, hwritten, replaceBy, hrename, hremove]
    exact ⟨_, rfl⟩

/-- Writing a file atomically puts it in its place and makes the directories that are missing on
the way, or changes nothing if something is in the way. -/
theorem atomicWrite_spec (hw : WellFormed t) (hname : p.fileName? = some name)
    (hup : .parent ∉ p.components) (hfree : t.SiblingFree p) (bytes : ByteArray) :
    (∀ v, t.atomicWrite p bytes = (v, .ok ()) → ∃ dir, IsInPlace t v p dir name bytes) ∧
      (IsBlocked t p → ∃ e, t.atomicWrite p bytes = (t, .error e)) := by
  refine ⟨fun v h => isInPlace_of_atomicWrite hw hname hup hfree h, ?_⟩
  rintro (⟨loc, hplace⟩ | ⟨a, habove, hobstacle⟩)
  · exact exists_error_of_directory hw hname hup hfree hplace
  · obtain ⟨e, he⟩ := hobstacle.exists_ensureParent habove (up_notMem_steps hup)
    exact ⟨e, by simp only [atomicWrite, he]⟩

/-- A directory and a link that leads to it. -/
def besideLink : FileTree :=
  ⟨["w"], [(["w"], .directory), (["w", "d"], .directory), (["w", "l"], .link "d")]⟩

theorem siblingFree_of_entryAt? (h : (t.locate (temporaryFor p) .kept).entryAt? = none) :
    t.SiblingFree p := by
  intro loc entry hfound
  simp [hfound, Place.entryAt?] at h

/-- A file is put into a missing directory beyond the link, and none in the place of the
directory. -/
theorem atomicWrite_besideLink :
    (∃ v dir, besideLink.atomicWrite ⟨"l/new/f"⟩ "x".toUTF8 = (v, .ok ()) ∧
      IsInPlace besideLink v ⟨"l/new/f"⟩ dir "f" "x".toUTF8) ∧
    ∃ e, besideLink.atomicWrite ⟨"d"⟩ "x".toUTF8 = (besideLink, .error e) := by
  have hw : WellFormed besideLink := .of_entries rfl (by decide +kernel)
  constructor
  · cases hwrite : besideLink.atomicWrite ⟨"l/new/f"⟩ "x".toUTF8 with
    | mk v r =>
      have hok : (besideLink.atomicWrite ⟨"l/new/f"⟩ "x".toUTF8).2.toBool = true := by
        decide +kernel
      rw [hwrite] at hok
      cases r with
      | error e => simp [Except.toBool] at hok
      | ok =>
        have hname : (Path.mk "l/new/f").fileName? = some "f" := by decide +kernel
        obtain ⟨dir, hdir⟩ := (atomicWrite_spec hw hname (by decide +kernel)
          (siblingFree_of_entryAt? (by decide +kernel)) _).1 v hwrite
        exact ⟨v, dir, rfl, hdir⟩
  · have hentry : (besideLink.locate ⟨"d"⟩ .kept).entryAt? = some .directory := by decide +kernel
    have hname : (Path.mk "d").fileName? = some "d" := by decide +kernel
    refine (atomicWrite_spec hw hname (by decide +kernel)
      (siblingFree_of_entryAt? (by decide +kernel)) _).2 (.inl ?_)
    cases hplace : besideLink.locate ⟨"d"⟩ .kept with
    | found loc entry =>
      rw [hplace] at hentry
      exact ⟨loc, by rw [Option.some.inj hentry]⟩
    | _ => simp [hplace, Place.entryAt?] at hentry

end FileTree
end Stencil
