import Stencil.Proofs.FileTree.Below

/-! Replacing a file in vain. What may be left over are directories made for the file; at its path
everything is as it was. -/
namespace Stencil
namespace FileTree

open Stencil.Path Relation

/-- Directories have been added where nothing was. -/
structure Grown (t u : FileTree) : Prop where
  workDir : t.workDir = u.workDir
  keeps : ∀ loc entry, t.get? loc = some entry → u.get? loc = some entry
  adds : ∀ loc entry, u.get? loc = some entry → t.get? loc = some entry ∨ entry = .directory
  wellFormed : WellFormed u

namespace Grown

variable {t u v : FileTree}

theorem refl (hw : WellFormed t) : Grown t t := ⟨rfl, fun _ _ h => h, fun _ _ h => .inl h, hw⟩

theorem trans (h : Grown t u) (g : Grown u v) : Grown t v := by
  refine ⟨h.workDir.trans g.workDir, fun loc entry ht => g.keeps _ _ (h.keeps _ _ ht),
    fun loc entry hv => ?_, g.wellFormed⟩
  rcases g.adds loc entry hv with hu | hd
  · exact h.adds loc entry hu
  · exact .inr hd

end Grown

/-- A new directory is put under a name that was free. -/
theorem grown_of_makeDirectory {t u : FileTree} {p : Path} (hw : WellFormed t)
    (h : t.makeDirectory p = .ok u) : Grown t u := by
  have hentry := entryAt?_locate hw (withoutSlash p) .kept
  unfold makeDirectory at h
  unfold target? at hentry
  cases hp : t.locate (withoutSlash p) .kept with
  | found loc entry => simp [hp] at h
  | failed kind => simp [hp] at h
  | vacant dir name =>
    rw [hp] at h hentry
    have hnone : t.get? (dir ++ [name]) = none := hentry.symm
    obtain rfl : t.set (dir ++ [name]) .directory = u := Except.ok.inj h
    have htarget : t.target? (withoutSlash p) .kept = some (dir ++ [name]) := by
      rw [target?, hp]
      rfl
    rw [target?_eq t (admissible_of_target? htarget)] at htarget
    obtain ⟨dir', name', hsame, hdir, hname⟩ :=
      exists_of_target? hw (hw.grounded_outset _) htarget (by simp [hnone])
    obtain ⟨rfl, hn⟩ := List.append_inj' hsame rfl
    obtain rfl : name = name' := by simpa using hn
    have hne : dir ++ [name] ≠ [] := by simp
    refine ⟨rfl, fun loc entry hl => ?_, fun loc entry hl => ?_, ?_⟩
    · rw [get?_set _ _ _ hne, if_neg, hl]
      rintro rfl
      simp [hnone] at hl
    · rw [get?_set _ _ _ hne] at hl
      split at hl
      · exact .inr (Option.some.inj hl).symm
      · exact .inl hl
    · refine hw.change rfl (fun loc hl => ?_) fun d n hs => ?_
      · rw [get?_set _ _ _ hne]
        split
        · rfl
        · exact hl
      · rw [get?_set _ _ _ hne] at hs
        by_cases he : d ++ [n] = dir ++ [name]
        · obtain ⟨rfl, hn⟩ := List.append_inj' he rfl
          exact .inr ⟨hdir, (List.cons.inj hn).1 ▸ hname⟩
        · rw [if_neg he] at hs
          exact .inl hs

theorem grown_of_ensureOne {t u : FileTree} {p : Path} (hw : WellFormed t)
    (h : t.ensureOne p = .ok u) : Grown t u := by
  unfold ensureOne at h
  split at h
  · next hmade =>
    obtain rfl := Except.ok.inj h
    exact grown_of_makeDirectory hw hmade
  · split at h
    · obtain rfl := Except.ok.inj h
      exact .refl hw
    · simp at h

/-- A chain of directories, made as far as it goes. -/
theorem grown_makeChain {t : FileTree} (hw : WellFormed t) (chain : List Path) :
    Grown t (t.makeChain chain).1 := by
  induction chain generalizing t with
  | nil => exact .refl hw
  | cons p above ih =>
    unfold makeChain
    split
    · next hmade => exact grown_of_ensureOne hw hmade
    · split
      · have habove := ih hw
        split
        · next hchain => rwa [hchain] at habove
        · next hchain =>
          rw [hchain] at habove
          split
          · next hmade => exact habove.trans (grown_of_ensureOne habove.wellFormed hmade)
          · exact habove
      · exact .refl hw

theorem grown_ensureParent {t : FileTree} (hw : WellFormed t) (p : Path) :
    Grown t (t.ensureParent p).1 := by
  unfold ensureParent
  split
  · next q hq =>
    split
    · exact .refl hw
    · unfold ensureDirectory
      split
      · split <;> exact .refl hw
      · have hmade := grown_makeChain hw (ancestry (q.text.length + 1) q)
        split
        · next hchain => rwa [← makeDirectories, hchain] at hmade
        · next hchain => rwa [← makeDirectories, hchain] at hmade
  · exact .refl hw

/-- Where something is found, everything on the way is there. -/
theorem Visits.isSome_of_found {t : FileTree} {e : Ending} {a : Stage} {loc there : Location}
    {entry : Entry} (hv : Visits t e a loc) (h : t.outcome e a = .found there entry) :
    (t.get? loc).isSome := by
  obtain ⟨⟨n, dir, _⟩, hb, s, rest, rfl, hl, rfl⟩ := hv
  rw [outcome_of_steps hb, outcome_of_looks t hl] at h
  cases hg : t.get? (dir ++ [s]) with
  | none =>
    rw [hg] at h
    dsimp only at h
    split at h <;> simp at h
  | some entry => rfl

/-- What is found at a path is found there in a tree that has the same wherever the path leads by
something. -/
theorem locate_eq_of_found {t u : FileTree} {p : Path} {e : Ending} {there : Location}
    {entry : Entry} (hdir : u.workDir = t.workDir)
    (hsame : ∀ loc found, t.get? loc = some found → u.get? loc = some found)
    (h : t.locate p e = .found there entry) : u.locate p e = .found there entry := by
  have ha : Admissible p := by
    by_contra hn
    obtain ⟨kind, hkind⟩ := exists_failed_of_not_admissible hn
    simp [hkind] at h
  have hout : u.outset p = t.outset p := by rw [outset, outset, hdir]
  rw [locate_eq t ha] at h
  rw [locate_eq u ha, hout, ← h]
  refine outcome_congr fun loc hv => ?_
  obtain ⟨found, hfound⟩ := Option.isSome_iff_exists.mp (hv.isSome_of_found h)
  rw [hfound, hsame loc found hfound]

/-- What is at a path is still there, and no file or link has come to be there. -/
structure Spares (t u : FileTree) (p : Path) : Prop where
  keeps : ∀ loc entry, t.locate p .kept = .found loc entry → u.get? loc = some entry
  adds : ∀ loc entry, entry ≠ .directory → u.locate p .kept = .found loc entry →
    t.get? loc = some entry

theorem Grown.spares {t u : FileTree} (h : Grown t u) (hw : WellFormed t) (p : Path) :
    Spares t u p := by
  refine ⟨fun loc entry ht => h.keeps _ _ (get?_of_found hw ht), fun loc entry hne hu => ?_⟩
  exact (h.adds _ _ (get?_of_found h.wellFormed hu)).resolve_right hne

/-- A temporary sibling that has been written can be removed. -/
theorem exists_removed {g w : FileTree} {p : Path} {bytes : ByteArray} {target : Location}
    (htarget : g.target? p .written = some target) (hput : FilePut g w target bytes)
    (hw : WellFormed w) :
    ∃ loc entry, entry ≠ .directory ∧ w.get? loc = some entry ∧
      w.locate p .kept = .found loc entry ∧ w.removeFile p = .ok (w.erase loc) := by
  have ha := admissible_of_target? htarget
  have hfollowed : w.target? p .followed = some target := by
    rw [hput.sameFrame.target?_eq]
    exact target?_followed_of_written htarget
  have hfile : w.entryAt? p = some (.file bytes) := by
    rw [entryAt?_eq hw, hfollowed, Option.bind_some, hput.get?_eq, if_pos rfl]
  have hout : w.outcome .followed (w.outset p) = .found target (.file bytes) := by
    rw [← locate_eq w ha]
    exact resolve_eq_found hfile hfollowed
  obtain ⟨loc, entry, hne, hkept⟩ : ∃ loc entry, entry ≠ .directory ∧
      w.outcome .kept (w.outset p) = .found loc entry := by
    rcases outcome_kept_of_found hout with h | ⟨loc, text, h⟩
    · exact ⟨_, _, by simp, h⟩
    · exact ⟨_, _, by simp, h⟩
  rw [← locate_eq w ha] at hkept
  refine ⟨loc, entry, hne, get?_of_found hw hkept, hkept, ?_⟩
  unfold removeFile
  cases entry with
  | directory => exact absurd rfl hne
  | _ => simp only [hkept]

/-- A file or link that is there can be renamed unless a directory is in its way, or none is there
to hold it. -/
theorem locate_of_rename_failed {w : FileTree} {p q : Path} {loc : Location} {entry : Entry}
    {e : IoError} (hq : w.locate q .kept = .found loc entry) (h : w.rename q p = .error e) :
    (∃ there, w.locate p .kept = .found there .directory) ∨
      ∃ kind, w.locate p .kept = .failed kind := by
  unfold rename at h
  rw [hq] at h
  cases hp : w.locate p .kept with
  | found there old =>
    cases old with
    | directory => exact .inl ⟨there, rfl⟩
    | _ => simp [hp] at h
  | vacant dir name => simp [hp] at h
  | failed kind => exact .inr ⟨kind, rfl⟩

/-- Once the temporary sibling is removed, everything else is as before the rename. -/
theorem get?_of_erased {w : FileTree} {loc other : Location} {found : Entry}
    (hne : loc ≠ []) (h : (w.erase loc).get? other = some found) : w.get? other = some found := by
  rw [get?_erase _ _ hne] at h
  split at h
  · simp at h
  · exact h

theorem spares_of_rename_failed {t g w : FileTree} {p q : Path} {bytes : ByteArray}
    {target : Location} {e : IoError} (hg : Grown t g)
    (htarget : g.target? q .written = some target) (hput : FilePut g w target bytes)
    (hw' : WellFormed w) (h : w.rename q p = .error e) :
    Spares t ((w.removeFile q).toOption.getD w) p := by
  obtain ⟨gone, was, hnotdir, hgone, hkept, hremoved⟩ := exists_removed htarget hput hw'
  have hne : gone ≠ [] := by
    rintro rfl
    simp [get?, hnotdir.symm] at hgone
  rw [hremoved]
  change Spares t (w.erase gone) p
  refine ⟨fun loc entry ht => ?_, fun loc entry hentry hv => ?_⟩
  · have hgfound := locate_eq_of_found hg.workDir.symm hg.keeps ht
    have hplace : w.target? p .kept = some loc := by
      rw [hput.sameFrame.target?_eq, target?, hgfound]
      rfl
    rcases locate_of_rename_failed hkept h with ⟨there, hthere⟩ | ⟨kind, hfailed⟩
    · obtain rfl : there = loc := by simpa [target?, hthere, Place.target?] using hplace
      have hdir := get?_of_found hw' hthere
      have hsame : entry = .directory := by
        have hgdir := (hput.sameFrame.alike there).directory.mpr hdir
        rw [get?_of_found hg.wellFormed hgfound] at hgdir
        exact Option.some.inj hgdir
      rw [hsame, hw'.get?_erase (by simp [hgone, hnotdir]), if_neg, hdir]
      rintro rfl
      rw [hdir] at hgone
      exact hnotdir (Option.some.inj hgone).symm
    · simp [target?, hfailed, Place.target?] at hplace
  · have hfound : w.locate p .kept = .found loc entry :=
      locate_eq_of_found (t := w.erase gone) rfl (fun _ _ => get?_of_erased hne) hv
    rcases locate_of_rename_failed hkept h with ⟨there, hthere⟩ | ⟨kind, hfailed⟩
    · rw [hthere] at hfound
      exact absurd (Place.found.inj hfound).2.symm hentry
    · simp [hfailed] at hfound

/-- An atomic write that fails leaves what is at its path. -/
theorem spares_of_atomicWrite {t v : FileTree} {p : Path} {bytes : ByteArray} {e : Problem}
    (hw : WellFormed t) (h : t.atomicWrite p bytes = (v, .error e)) : Spares t v p := by
  have hgrown := grown_ensureParent hw p
  unfold atomicWrite at h
  split at h
  · next parented _ hparented =>
    rw [hparented] at hgrown
    obtain rfl := (Prod.mk.inj h).1
    exact hgrown.spares hw p
  next parented hparented =>
  rw [hparented] at hgrown
  split at h
  · obtain rfl := (Prod.mk.inj h).1
    exact hgrown.spares hw p
  next w hwritten =>
  obtain ⟨target, htarget, hput, hw'⟩ :=
    exists_filePut hgrown.wellFormed (writeBytes_of_writeTemporary hwritten)
  unfold replaceBy at h
  split at h
  · simp at h
  next hrename =>
  obtain rfl := (Prod.mk.inj h).1
  exact spares_of_rename_failed hgrown htarget hput hw' hrename

/-- Where a rename is refused, no file is in its way. -/
theorem not_file_of_rename_failed {w : FileTree} {p q : Path} {loc : Location} {entry : Entry}
    {e : IoError} (hq : w.locate q .kept = .found loc entry) (h : w.rename q p = .error e)
    (bytes : ByteArray) : w.entryAt? p ≠ some (.file bytes) := by
  intro hfile
  have ha := admissible_of_isSome (Option.isSome_of_eq_some hfile)
  obtain ⟨there, hthere⟩ := entryAt?_eq_some_iff.mp hfile
  rw [resolve, locate_eq w ha] at hthere
  have hkept := outcome_kept_of_found hthere
  rw [← locate_eq w ha] at hkept
  rcases locate_of_rename_failed hq h with ⟨place, hdir⟩ | ⟨kind, hfailed⟩
  · simp [hdir] at hkept
  · simp [hfailed] at hkept

/-- Without a file or link the rest of a tree is well-formed. -/
theorem WellFormed.erase {t : FileTree} {loc : Location} {entry : Entry} (h : WellFormed t)
    (hentry : t.get? loc = some entry) (hnotdir : entry ≠ .directory) : WellFormed (t.erase loc) := by
  have hfree : t.get? loc ≠ some .directory := by
    rw [hentry]
    exact fun hd => hnotdir (Option.some.inj hd)
  refine h.change rfl (fun other hd => ?_) fun dir name hs => .inl ?_
  · rw [h.get?_erase hfree, if_neg, hd]
    rintro rfl
    exact hfree hd
  · rw [h.get?_erase hfree] at hs
    split at hs
    · simp at hs
    · exact hs

section

variable {t v : FileTree} {root : Path} {top : Location} {name : String} {bytes : ByteArray}

/-- The bytes have been written to where the temporary sibling of a file leads, but what is in the
sibling's own place could not be moved to the file's, and has been taken away. -/
structure Withdrawn (t u v : FileTree) (root : Path) (top : Location) (name : String)
    (bytes : ByteArray) : Prop where
  written : t.writeBytes (temporaryFor (root.join name)) bytes = .ok u
  sibling : ∃ entry, entry ≠ .directory ∧ u.locate (temporaryFor (root.join name)) .kept =
    .found (top ++ [temporaryName name]) entry
  unmoved : ∃ e, u.rename (temporaryFor (root.join name)) (root.join name) = .error e
  eq : v = u.erase (top ++ [temporaryName name])

/-- Replacing a file of a root in vain has not begun, or has been withdrawn. -/
theorem Rooted.exists_withdrawn {e : Problem} (h : Rooted t root top) (hname : IsReplaceable name)
    (hwrite : t.atomicWrite (root.join name) bytes = (v, .error e)) :
    ((¬ ∃ u, t.writeBytes (temporaryFor (root.join name)) bytes = .ok u) ∧ v = t) ∨
      ∃ u, Withdrawn t u v root top name bytes := by
  obtain ⟨into, dots, w⟩ := exists_ways h.admissible.ne_empty hname
  unfold atomicWrite at hwrite
  rw [w.ensureParent_eq h] at hwrite
  dsimp only at hwrite
  split at hwrite
  · next e' hrefused =>
    refine .inl ⟨fun ⟨u, hu⟩ => ?_, (Prod.mk.inj hwrite).1.symm⟩
    simp [writeTemporary, hu] at hrefused
  next u htemporary =>
  have hbytes := writeBytes_of_writeTemporary htemporary
  obtain ⟨target, htarget, hput, hu⟩ := exists_filePut h.wellFormed hbytes
  unfold replaceBy at hwrite
  split at hwrite
  · simp at hwrite
  next e' hrename =>
  obtain rfl := (Prod.mk.inj hwrite).1
  obtain ⟨gone, entry, hnotdir, hgone, hkept, hremoved⟩ := exists_removed htarget hput hu
  obtain ⟨k, hsteps⟩ := w.exists_steps (h.of_sameFrame hput.sameFrame hu)
  have hplace := locate_kept (admissible_of_target? htarget) hname.sibling
    (w.steps_sibling hname hsteps .kept)
  obtain rfl : top ++ [temporaryName name] = gone := by
    rw [hkept] at hplace
    cases hg : u.get? (top ++ [temporaryName name]) with
    | none => simp [hg] at hplace
    | some found =>
      rw [hg] at hplace
      exact (Place.found.inj hplace).1.symm
  exact .inr ⟨u, hbytes, ⟨entry, hnotdir, hkept⟩, ⟨e', hrename⟩, by rw [hremoved]; rfl⟩

namespace Withdrawn

variable {u : FileTree}

theorem wellFormed_written (h : Withdrawn t u v root top name bytes) (hw : WellFormed t) :
    WellFormed u := by
  obtain ⟨-, -, -, hu⟩ := exists_filePut hw h.written
  exact hu

theorem get?_eq (h : Withdrawn t u v root top name bytes) (hw : WellFormed t) (loc : Location) :
    v.get? loc = if loc = top ++ [temporaryName name] then none else u.get? loc := by
  obtain ⟨entry, hnotdir, hkept⟩ := h.sibling
  have hu := h.wellFormed_written hw
  rw [h.eq, hu.get?_erase (by simp [get?_of_found hu hkept, hnotdir])]

theorem wellFormed (h : Withdrawn t u v root top name bytes) (hw : WellFormed t) :
    WellFormed v := by
  obtain ⟨entry, hnotdir, hkept⟩ := h.sibling
  have hu := h.wellFormed_written hw
  rw [h.eq]
  exact hu.erase (get?_of_found hu hkept) hnotdir

/-- No file was in the place that nothing could be moved to, and none is. -/
theorem not_file (h : Withdrawn t u v root top name bytes) (hw : WellFormed t) (old : ByteArray) :
    t.entryAt? (root.join name) ≠ some (.file old) ∧
      v.entryAt? (root.join name) ≠ some (.file old) := by
  obtain ⟨target, -, hput, hu⟩ := exists_filePut hw h.written
  obtain ⟨entry, hnotdir, hkept⟩ := h.sibling
  obtain ⟨e, hrename⟩ := h.unmoved
  have hno := not_file_of_rename_failed hkept hrename
  constructor
  · -- A file stays a file when the sibling is written.
    intro hold
    have hstill := hput.entryAt?_eq hw hu (root.join name)
    rw [hold] at hstill
    split at hstill
    · exact hno bytes hstill
    · exact hno old hstill
  · -- What is found without the sibling was found with it.
    intro hold
    obtain ⟨loc, hloc⟩ := entryAt?_eq_some_iff.mp hold
    rw [h.eq] at hloc
    have hloc' : u.resolve (root.join name) = .found loc (.file old) :=
      locate_eq_of_found (t := u.erase (top ++ [temporaryName name])) rfl
        (fun _ _ => get?_of_erased (by simp)) hloc
    exact hno old (entryAt?_eq_some_iff.mpr ⟨loc, hloc'⟩)

end Withdrawn

/-- Replacing a file of a root in vain keeps it, and puts none there. -/
theorem Rooted.file_iff_of_atomicWrite_failed {e : Problem} (h : Rooted t root top)
    (hname : IsReplaceable name)
    (hwrite : t.atomicWrite (root.join name) bytes = (v, .error e)) :
    WellFormed v ∧ ∀ old, v.entryAt? (root.join name) = some (.file old) ↔
      t.entryAt? (root.join name) = some (.file old) := by
  rcases h.exists_withdrawn hname hwrite with ⟨-, rfl⟩ | ⟨u, hwithdrawn⟩
  · exact ⟨h.wellFormed, fun old => .rfl⟩
  · refine ⟨hwithdrawn.wellFormed h.wellFormed, fun old => ?_⟩
    obtain ⟨hbefore, hafter⟩ := hwithdrawn.not_file h.wellFormed old
    exact iff_of_false hafter hbefore

end

/-! ## In a root without links -/

section

variable {t v : FileTree} {root : Path} {top : Location} {name : String} {bytes : ByteArray}

/-- A temporary sibling that is a file already can be written over. -/
theorem Rooted.exists_writeBytes_sibling {old : ByteArray} (h : Rooted t root top)
    (hname : IsReplaceable name) (hfile : t.get? (top ++ [temporaryName name]) = some (.file old))
    (ha : Admissible (root.join (temporaryName name))) :
    ∃ u, t.writeBytes (temporaryFor (root.join name)) bytes = .ok u := by
  have hroot := h.admissible.ne_empty
  have hsibling := ha.join_of_prefix hname.sibling.not_startsWith (withoutIdle_ne_empty hroot)
    (withoutIdle_isPrefix root)
  obtain ⟨into, dots, w⟩ := exists_ways hroot hname
  obtain ⟨k, hsteps⟩ := w.exists_steps h
  have hlooks : Looks .written (temporaryName name) [] :=
    ⟨by simp [hname.sibling.ne_dot, hname.sibling.ne_empty], hname.sibling.ne_dots, by simp,
      hname.sibling.short⟩
  refine ⟨t.set (top ++ [temporaryName name]) (.file bytes), ?_⟩
  unfold writeBytes
  rw [locate_eq t (temporaryFor_join root hname.isName ▸ hsibling),
    outcome_of_steps (w.steps_sibling hname hsteps .written), outcome_of_ends (.file hlooks hfile)]

/-- Replacing a file in vain takes away its temporary sibling, if that could be written, and
nothing else. -/
theorem Rooted.get?_of_atomicWrite_failed {e : Problem} (h : Rooted t root top)
    (hname : IsReplaceable name) (hfree : t.LinkFree)
    (hwrite : t.atomicWrite (root.join name) bytes = (v, .error e)) :
    ((¬ ∃ u, t.writeBytes (temporaryFor (root.join name)) bytes = .ok u) ∧ v = t) ∨
      ∀ loc, v.get? loc = if loc = top ++ [temporaryName name] then none else t.get? loc := by
  rcases h.exists_withdrawn hname hwrite with hrefused | ⟨u, hwithdrawn⟩
  · exact .inl hrefused
  obtain ⟨target, htarget, hput, -⟩ := exists_filePut h.wellFormed hwithdrawn.written
  obtain rfl := h.eq_of_target?_sibling hname (hfree _) htarget hput.notDirectory
  refine .inr fun loc => ?_
  rw [hwithdrawn.get?_eq h.wellFormed]
  split
  · rfl
  · next hne => rw [hput.get?_eq, if_neg hne]

end

end FileTree
end Stencil
