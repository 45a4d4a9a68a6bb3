import Stencil.Lockfile.Cache
import Stencil.Proofs.FileTree.Agreement
import Stencil.Proofs.FileTree.Below
import Stencil.Proofs.FileTree.Overwrite
import Stencil.Proofs.Lockfile.Document

/-! What is loaded when a cache is opened, and what is on disk after a commit. -/
namespace Stencil
namespace Lockfile

open FileTree

/-- The lockfile that a run loads, if it finds one that it trusts. -/
def loaded? (t : FileTree) (root : Path) (force : Bool) : Option Lockfile :=
  if force then none
  else
    match load t (Cache.pathIn root) with
    | .valid l => some l
    | _ => none

/-- The fingerprints that a run finds on record. -/
def recorded (t : FileTree) (root : Path) (force : Bool) : KeyMap UInt32 :=
  ((loaded? t root force).getD new).files

theorem fst_open (t : FileTree) (root : Path) (force : Bool) :
    (Cache.open t root force).1 = Cache.start (Cache.pathIn root) (loaded? t root force) := by
  unfold Cache.open loaded?
  cases force with
  | true => rfl
  | false =>
    simp only [Bool.false_eq_true, if_false]
    cases load t (Cache.pathIn root) <;> rfl

/-- What is staged goes over what is on record and still present. -/
theorem Cache.fingerprintOf_applyStaged (c : Cache) (present : String → Bool) (key : String) :
    (c.applyStaged present).fingerprintOf key =
      (c.staged.get? key).or (if present key then c.fingerprintOf key else none) := by
  rw [fingerprintOf, applyStaged, KeyMap.get?_union, KeyMap.get?_keep, fingerprintOf]

/-- A lockfile is found where a file of its text can be read. -/
theorem load_eq_valid_iff {t : FileTree} {p : Path} {l : Lockfile} :
    load t p = .valid l ↔
      ∃ bytes, t.entryAt? p = some (.file bytes) ∧ ofBytes p.text bytes = .valid l := by
  unfold load
  constructor
  · intro h
    split at h
    · next bytes hb => exact ⟨bytes, (readBytes_eq_ok_iff p bytes).mp hb, h⟩
    · split at h <;> simp at h
  · rintro ⟨bytes, hb, h⟩
    rw [(readBytes_eq_ok_iff p bytes).mpr hb]
    exact h

theorem version_of_ofBytes {path : String} {bytes : ByteArray} {l : Lockfile}
    (h : ofBytes path bytes = .valid l) : l.version = runningVersion := by
  unfold ofBytes at h
  split at h
  · split at h
    · next hv => rwa [← Loaded.valid.inj h]
    · simp at h
  · simp at h

theorem loaded?_eq_some_iff {t : FileTree} {root : Path} {force : Bool} {l : Lockfile} :
    loaded? t root force = some l ↔ force = false ∧ load t (Cache.pathIn root) = .valid l := by
  unfold loaded?
  cases force with
  | true => simp
  | false => cases load t (Cache.pathIn root) <;> simp

/-- Trees in which the same is found at the lockfile load the same. -/
theorem loaded?_congr {t u : FileTree} {root : Path}
    (h : u.entryAt? (Cache.pathIn root) = t.entryAt? (Cache.pathIn root)) (force : Bool) :
    loaded? u root force = loaded? t root force := by
  refine Option.ext fun l => ?_
  rw [loaded?_eq_some_iff, loaded?_eq_some_iff, load_eq_valid_iff, load_eq_valid_iff, h]

/-- A lockfile that is loaded is of the running version. -/
theorem loaded?_eq (t : FileTree) (root : Path) (force : Bool) :
    loaded? t root force = none ∨
      loaded? t root force = some ⟨runningVersion, recorded t root force⟩ := by
  unfold recorded
  cases h : loaded? t root force with
  | none => exact .inl rfl
  | some l =>
    obtain ⟨bytes, -, hb⟩ := load_eq_valid_iff.mp (loaded?_eq_some_iff.mp h).2
    have hversion := version_of_ofBytes hb
    obtain ⟨version, files⟩ := l
    obtain rfl : version = runningVersion := hversion
    exact .inr rfl

theorem current_start (t : FileTree) (root : Path) (force : Bool) :
    (Cache.start (Cache.pathIn root) (loaded? t root force)).current =
      ⟨runningVersion, recorded t root force⟩ := by
  unfold recorded Cache.start
  rcases loaded?_eq t root force with h | h <;> rw [h] <;> rfl

theorem replaceable_fileName : IsReplaceable fileName := by
  exact ⟨by decide, by decide⟩

/-- The temporary sibling of the lockfile of a root. -/
def temporaryIn (root : Path) : Path := temporaryFor (Cache.pathIn root)

/-- A lockfile has been saved: its bytes were written to `target`, and what is at the place of the
temporary sibling was moved to that of the lockfile. -/
structure Saved (l : Lockfile) (root : Path) (top target : Location) (u u' v : FileTree) :
    Prop where
  admissible : Admissible (Cache.pathIn root)
  target? : u.target? (temporaryIn root) .written = some target
  put : FilePut u u' target l.render.toUTF8
  wellFormed : WellFormed u'
  moved : Moved u' v top fileName

theorem save_eq_ok_iff {l : Lockfile} {u v : FileTree} {p : Path} :
    l.save u p = (v, .ok ()) ↔ u.atomicWrite p l.render.toUTF8 = (v, .ok ()) := by
  unfold save
  generalize u.atomicWrite p l.render.toUTF8 = result
  obtain ⟨t', answer⟩ := result
  cases answer <;> simp

theorem exists_saved {l : Lockfile} {u v : FileTree} {root : Path} {top : Location}
    (h : Rooted u root top) (hsave : l.save u (Cache.pathIn root) = (v, .ok ())) :
    ∃ target u', Saved l root top target u u' v := by
  obtain ⟨ha, target, u', htarget, hput, hw, hm⟩ :=
    exists_moved h replaceable_fileName (save_eq_ok_iff.mp hsave)
  exact ⟨target, u', ha, htarget, hput, hw, hm⟩

/-- What has been written to the temporary sibling can be written there. -/
theorem Saved.writeBytes_eq {l : Lockfile} {root : Path} {top target : Location}
    {u u' v : FileTree} (h : Saved l root top target u u' v) (hw : WellFormed u) :
    u.writeBytes (temporaryIn root) l.render.toUTF8 = .ok u' := by
  refine writeBytes_eq_ok_iff.mpr ⟨?_, target, h.target?, h.put.eq⟩
  have htarget := h.target?
  have hentry := entryAt?_locate hw (temporaryIn root) .written
  rw [htarget, Option.bind_some] at hentry
  unfold FileTree.target? at htarget
  cases hp : u.locate (temporaryIn root) .written with
  | vacant dir name => trivial
  | failed kind => simp [hp, Place.target?] at htarget
  | found loc entry =>
    rw [hp] at hentry
    rcases h.put.missing_or_file with hm | ⟨old, hold⟩
    · simp [hm, Place.entryAt?] at hentry
    · obtain rfl : entry = .file old := Option.some.inj (hentry.trans hold)
      trivial

/-- The bytes are found where the way to the temporary sibling leads. -/
theorem Saved.outcome_sibling {l : Lockfile} {root : Path} {top target : Location}
    {u u' v : FileTree} (h : Saved l root top target u u' v) :
    u'.outcome .followed (u'.outset (temporaryFor (root.join fileName))) =
      .found target (.file l.render.toUTF8) := by
  have htarget : u'.target? (temporaryIn root) .followed = some target := by
    rw [h.put.sameFrame.target?_eq]
    exact target?_followed_of_written h.target?
  have hlocate := locate_eq u' (admissible_of_target? htarget) .followed
  refine hlocate.symm.trans (resolve_eq_found ?_ htarget)
  rw [entryAt?_eq h.wellFormed, htarget, Option.bind_some, h.put.get?_eq, if_pos rfl]

/-- After a save something is found at the lockfile exactly if the way to its temporary sibling does
not lead by its own place; and then it is what was saved. -/
theorem Saved.entryAt?_eq {l : Lockfile} {root : Path} {top target : Location}
    {u u' v : FileTree} (h : Saved l root top target u u' v) (hr : Rooted u root top)
    (hn : ¬ u.LeadsBy (temporaryIn root) (top ++ [fileName])) :
    v.entryAt? (Cache.pathIn root) = some (.file l.render.toUTF8) := by
  obtain ⟨into, dots, w⟩ := exists_ways hr.admissible.ne_empty replaceable_fileName
  obtain ⟨k, hsteps⟩ := w.exists_steps (hr.of_sameFrame h.put.sameFrame h.wellFormed)
  exact entryAt?_of_not_leadsBy w replaceable_fileName hsteps h.outcome_sibling h.moved h.admissible
    fun hleads => hn (h.put.sameFrame.symm.leadsBy hleads)

theorem Saved.not_leadsBy {l : Lockfile} {root : Path} {top target : Location}
    {u u' v : FileTree} (h : Saved l root top target u u' v) (hr : Rooted u root top)
    (hsome : (v.entryAt? (Cache.pathIn root)).isSome) :
    ¬ u.LeadsBy (temporaryIn root) (top ++ [fileName]) := by
  obtain ⟨into, dots, w⟩ := exists_ways hr.admissible.ne_empty replaceable_fileName
  obtain ⟨k, hsteps⟩ := w.exists_steps (hr.of_sameFrame h.put.sameFrame h.wellFormed)
  intro hleads
  exact not_leadsBy_of_entryAt? w replaceable_fileName hsteps h.outcome_sibling h.moved hsome
    (h.put.sameFrame.leadsBy hleads)

/-- A lockfile that has been saved is loaded again, unless the way to its temporary sibling leads
by its own place. -/
theorem Saved.load_iff {l : Lockfile} {root : Path} {top target : Location} {u u' v : FileTree}
    (h : Saved l root top target u u' v) (hr : Rooted u root top)
    (hversion : l.version = runningVersion) :
    load v (Cache.pathIn root) = .valid l ↔ ¬ u.LeadsBy (temporaryIn root) (top ++ [fileName]) := by
  rw [load_eq_valid_iff]
  constructor
  · rintro ⟨bytes, hbytes, -⟩
    exact h.not_leadsBy hr (Option.isSome_of_eq_some hbytes)
  · intro hn
    exact ⟨_, h.entryAt?_eq hr hn, ofBytes_render _ l hversion⟩

/-- No other lockfile is loaded than the one that has been saved. -/
theorem Saved.eq_of_load {l m : Lockfile} {root : Path} {top target : Location}
    {u u' v : FileTree} (h : Saved l root top target u u' v) (hr : Rooted u root top)
    (hversion : l.version = runningVersion) (hload : load v (Cache.pathIn root) = .valid m) :
    m = l := by
  obtain ⟨bytes, hbytes, -⟩ := load_eq_valid_iff.mp hload
  have hn := h.not_leadsBy hr (Option.isSome_of_eq_some hbytes)
  exact Loaded.valid.inj (hload.symm.trans ((h.load_iff hr hversion).mpr hn))

/-- Without a link there the bytes are written to the place of the temporary sibling itself. -/
theorem Saved.target_eq {l : Lockfile} {root : Path} {top target : Location} {u u' v : FileTree}
    (h : Saved l root top target u u' v) (hr : Rooted u root top)
    (hfree : ∀ text, u.get? (top ++ [temporaryName fileName]) ≠ some (.link text)) :
    target = top ++ [temporaryName fileName] :=
  hr.eq_of_target?_sibling replaceable_fileName hfree h.target? h.put.notDirectory

theorem Saved.get?_eq {l : Lockfile} {root : Path} {top target : Location} {u u' v : FileTree}
    (h : Saved l root top target u u' v) (hr : Rooted u root top)
    (hfree : ∀ text, u.get? (top ++ [temporaryName fileName]) ≠ some (.link text))
    (loc : Location) : v.get? loc =
      if loc = top ++ [fileName] then some (.file l.render.toUTF8)
      else if loc = top ++ [temporaryName fileName] then none
      else u.get? loc := by
  obtain rfl := h.target_eq hr hfree
  rw [h.moved.get?_eq, h.put.get?_eq, if_pos rfl]
  split
  · rfl
  · split
    · rfl
    · next hne => rw [h.put.get?_eq, if_neg hne]

/-- Where nothing is at the place of the temporary sibling, saving puts the lockfile in its place
and changes nothing else. -/
theorem Saved.overwritten {l : Lockfile} {root : Path} {top target : Location} {u u' v : FileTree}
    (h : Saved l root top target u u' v) (hr : Rooted u root top)
    (hnone : u.get? (top ++ [temporaryName fileName]) = none) :
    Overwritten u v (top ++ [fileName]) l.render.toUTF8 := by
  refine ⟨h.put.sameFrame.workDir.trans h.moved.workDir, fun hd => ?_, fun other => ?_⟩
  · exact h.moved.free ((h.put.sameFrame.alike _).directory.mp hd)
  · rw [h.get?_eq hr (by simp [hnone])]
    split
    · rfl
    · split
      · next he => rw [he, hnone]
      · rfl

/-- Without links in a root, saving its lockfile changes no more than files. -/
theorem Saved.sameFrame {l : Lockfile} {root : Path} {top target : Location} {u u' v : FileTree}
    (h : Saved l root top target u u' v) (hr : Rooted u root top) (hfree : u.LinkFree) :
    SameFrame u v := by
  refine ⟨h.put.sameFrame.workDir.trans h.moved.workDir, fun loc entry hentry => ?_⟩
  rw [h.get?_eq hr fun text => hfree _ text]
  have hno : ∀ {other : Location}, u.get? other ≠ some .directory → u.get? other ≠ some entry := by
    intro other hd he
    cases entry with
    | file bytes => exact hentry bytes rfl
    | directory => exact hd he
    | link text => exact hfree _ _ he
  split
  · next he =>
    subst he
    have hd : u.get? (top ++ [fileName]) ≠ some .directory := fun hd =>
      h.moved.free ((h.put.sameFrame.alike _).directory.mp hd)
    exact ⟨fun hu => absurd hu (hno hd), fun hv => absurd (Option.some.inj hv).symm (hentry _)⟩
  · split
    · next he =>
      subst he
      have hd : u.get? (top ++ [temporaryName fileName]) ≠ some .directory := fun hd =>
        h.moved.notDirectory ((h.put.sameFrame.alike _).directory.mp hd)
      exact ⟨fun hu => absurd hu (hno hd), fun hv => by simp at hv⟩
    · rfl

/-- Where a lockfile can be saved, it can be saved in a tree that differs at most at its place and
where its temporary sibling leads; and then the trees are the same. -/
theorem exists_save_of_agreeOff {l : Lockfile} {root : Path} {top : Location} {off : Location → Prop}
    {t u v : FileTree} (h : AgreeOff off t u)
    (hoff : ∀ loc, off loc →
      loc = top ++ [fileName] ∨ t.target? (temporaryIn root) .written = some loc)
    (hr : Rooted t root top) (hu : WellFormed u)
    (hsave : l.save t (Cache.pathIn root) = (v, .ok ())) :
    ∃ v', l.save u (Cache.pathIn root) = (v', .ok ()) ∧ Same v v' := by
  obtain ⟨target, t', hsaved⟩ := exists_saved hr hsave
  have hru := hr.of_sameFrame h.sameFrame hu
  obtain ⟨u', hwrite, -⟩ := h.exists_writeBytes hr.wellFormed hu (hsaved.writeBytes_eq hr.wellFormed)
  have hfree : u.get? (top ++ [fileName]) ≠ some .directory := fun hd =>
    hsaved.moved.free ((hsaved.put.sameFrame.alike _).directory.mp
      ((h.sameFrame.alike _).directory.mpr hd))
  obtain ⟨v', hv'⟩ := exists_atomicWrite hru replaceable_fileName hsaved.admissible hwrite hfree
  have hsave' := save_eq_ok_iff.mpr hv'
  obtain ⟨target', w, hsaved'⟩ := exists_saved hru hsave'
  obtain rfl : target' = target := by
    have htarget := (h.sameFrame.target?_eq _ _).symm.trans hsaved'.target?
    exact Option.some.inj (htarget.symm.trans hsaved.target?)
  have hbeside : ∀ loc, loc ≠ top ++ [fileName] → w.get? loc = t'.get? loc := by
    intro loc hloc
    rw [hsaved.put.get?_eq, hsaved'.put.get?_eq]
    split
    · rfl
    · next hne =>
      refine h.get?_eq loc fun hl => (hoff loc hl).elim hloc fun htarget => hne ?_
      exact Option.some.inj (htarget.symm.trans hsaved.target?)
  refine ⟨v', hsave', ?_, fun loc => ?_⟩
  · calc v.workDir = t.workDir :=
          (hsaved.put.sameFrame.workDir.trans hsaved.moved.workDir).symm
      _ = u.workDir := h.sameFrame.workDir
      _ = v'.workDir := hsaved'.put.sameFrame.workDir.trans hsaved'.moved.workDir
  · have hsibling : top ++ [temporaryName fileName] ≠ top ++ [fileName] := by
      simpa using temporaryName_ne fileName
    rw [hsaved.moved.get?_eq, hsaved'.moved.get?_eq, hbeside _ hsibling]
    split
    · rfl
    · next hplace => rw [hbeside loc hplace]

/-- What a commit does: nothing, or it saves the lockfile. -/
theorem commit_eq_ok_iff {onDisk : Option Lockfile} {l : Lockfile} {staged : KeyMap UInt32}
    {root : Path} {u v : FileTree} {modified : Bool} :
    (Cache.mk (Cache.pathIn root) onDisk l staged).commit u = (v, .ok modified) ↔
      (modified = false ∧ onDisk = some l ∧ v = u) ∨
      (modified = true ∧ onDisk ≠ some l ∧ l.save u (Cache.pathIn root) = (v, .ok ())) := by
  unfold Cache.commit Cache.isModified
  by_cases hsame : onDisk = some l
  · simp [hsame, eq_comm, and_comm]
  · have hmodified : (onDisk != some l) = true := by simpa using hsame
    simp only [hmodified, if_true, hsame]
    generalize l.save u (Cache.pathIn root) = result
    obtain ⟨t', answer⟩ := result
    cases answer <;> simp [eq_comm, and_comm, hsame]

/-- A commit fails where the lockfile cannot be saved. -/
theorem exists_of_commit_eq_error {onDisk : Option Lockfile} {l : Lockfile}
    {staged : KeyMap UInt32} {root : Path} {u v : FileTree} {e : Problem}
    (h : (Cache.mk (Cache.pathIn root) onDisk l staged).commit u = (v, .error e)) :
    onDisk ≠ some l ∧ ∃ e', u.atomicWrite (root.join fileName) l.render.toUTF8 = (v, .error e') := by
  unfold Cache.commit Cache.isModified at h
  by_cases hsame : onDisk = some l
  · simp [hsame] at h
  · have hmodified : (onDisk != some l) = true := by simpa using hsame
    refine ⟨hsame, ?_⟩
    simp only [hmodified, if_true, save, Cache.pathIn] at h
    generalize u.atomicWrite (root.join fileName) l.render.toUTF8 = result at h ⊢
    obtain ⟨t', answer⟩ := result
    cases answer with
    | ok _ => simp at h
    | error e' => exact ⟨e', by simpa using congrArg Prod.fst h⟩

end Lockfile
end Stencil
