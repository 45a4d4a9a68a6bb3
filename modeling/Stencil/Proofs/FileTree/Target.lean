import Stencil.FileTree.Write
import Stencil.Proofs.FileTree.Continuation

/-! What a path names in a tree: every question asked of a path is answered by the location it
names and by what is there. -/
namespace Stencil
namespace FileTree

open Stencil.Path Relation

/-- The stage from which a path is followed. -/
def outset (t : FileTree) (p : Path) : Stage := ⟨maxLinks, start t.workDir p.text, steps p.text⟩

/-- A text that can be a path at all. -/
structure Admissible (p : Path) : Prop where
  ne_empty : p.text ≠ ""
  noNul : '\x00' ∉ p.text.toList
  short : p.text.utf8ByteSize < maxPath

theorem locate_eq (t : FileTree) {p : Path} (h : Admissible p) (e : Ending) :
    t.locate p e = t.outcome e (t.outset p) := by
  have hshort : ¬ maxPath ≤ p.text.utf8ByteSize := Nat.not_le.mpr h.short
  simp only [locate, h.ne_empty, if_false, List.contains_iff_mem, h.noNul, hshort]
  rfl

theorem exists_failed_of_not_admissible {p : Path} (h : ¬ Admissible p) :
    ∃ kind, ∀ (t : FileTree) (e : Ending), t.locate p e = .failed kind := by
  by_cases hempty : p.text = ""
  · exact ⟨_, fun t e => if_pos hempty⟩
  by_cases hnul : '\x00' ∈ p.text.toList
  · refine ⟨.invalidInput, fun t e => ?_⟩
    simp only [locate, hempty, if_false, List.contains_iff_mem, hnul, if_true]
  · have hlong : maxPath ≤ p.text.utf8ByteSize := Nat.not_lt.mp fun hs => h ⟨hempty, hnul, hs⟩
    refine ⟨.nameTooLong, fun t e => ?_⟩
    simp only [locate, hempty, if_false, List.contains_iff_mem, hnul, hlong, if_true]

/-- The location that a path names. -/
def target? (t : FileTree) (p : Path) (e : Ending) : Option Location := (t.locate p e).target?

/-- What is found at a path, links followed. -/
def entryAt? (t : FileTree) (p : Path) : Option Entry := (t.resolve p).entryAt?

/-- Following a path comes by a location. -/
def LeadsBy (t : FileTree) (p : Path) (loc : Location) : Prop :=
  Visits t .followed (t.outset p) loc

theorem admissible_of_target? {t : FileTree} {p : Path} {e : Ending} {loc : Location}
    (h : t.target? p e = some loc) : Admissible p := by
  by_contra hn
  obtain ⟨kind, hkind⟩ := exists_failed_of_not_admissible hn
  simp [target?, hkind, Place.target?] at h

theorem target?_eq (t : FileTree) {p : Path} (h : Admissible p) (e : Ending) :
    t.target? p e = (t.outcome e (t.outset p)).target? := by
  rw [target?, locate_eq t h]

section

variable {t : FileTree}

theorem WellFormed.grounded_outset (hw : WellFormed t) (p : Path) : Grounded t (t.outset p) :=
  ⟨get?_start _ hw.workDir, fun _ hs => slash_notMem_of_mem_steps hs⟩

theorem entryAt?_locate (hw : WellFormed t) (p : Path) (e : Ending) :
    (t.locate p e).entryAt? = (t.target? p e).bind t.get? := by
  by_cases ha : Admissible p
  · rw [target?, locate_eq t ha]
    exact entryAt?_outcome hw (hw.grounded_outset p)
  · obtain ⟨kind, hkind⟩ := exists_failed_of_not_admissible ha
    simp [target?, hkind, Place.entryAt?, Place.target?]

/-- What is found at a location is there. -/
theorem get?_of_found {p : Path} {e : Ending} {loc : Location} {entry : Entry}
    (hw : WellFormed t) (h : t.locate p e = .found loc entry) : t.get? loc = some entry := by
  have hentry := entryAt?_locate hw p e
  rw [target?, h] at hentry
  exact hentry.symm

theorem entryAt?_eq (hw : WellFormed t) (p : Path) :
    t.entryAt? p = (t.target? p .followed).bind t.get? := entryAt?_locate hw p .followed

/-- Without links no path leads to one. -/
theorem LinkFree.locate_ne_link (h : t.LinkFree) (hw : WellFormed t) (p : Path) (e : Ending)
    (loc : Location) (text : String) : t.locate p e ≠ .found loc (.link text) := by
  intro hp
  exact h loc text (get?_of_found hw hp)

theorem entryAt?_eq_outcome {p : Path} (ha : Admissible p) :
    t.entryAt? p = (t.outcome .followed (t.outset p)).entryAt? := by
  rw [entryAt?, resolve, locate_eq t ha]

theorem entryAt?_eq_some_iff {p : Path} {entry : Entry} :
    t.entryAt? p = some entry ↔ ∃ loc, t.resolve p = .found loc entry := by
  unfold entryAt?
  cases t.resolve p <;> simp [Place.entryAt?]

theorem admissible_of_isSome {p : Path} (h : (t.entryAt? p).isSome) :
    Admissible p := by
  by_contra hn
  obtain ⟨kind, hkind⟩ := exists_failed_of_not_admissible hn
  simp [entryAt?, resolve, hkind, Place.entryAt?] at h

theorem exists?_eq (t : FileTree) (p : Path) : t.exists? p = (t.entryAt? p).isSome := by
  unfold exists? entryAt?
  cases t.resolve p <;> rfl

theorem isDirectory_iff (p : Path) : t.isDirectory p = true ↔ t.entryAt? p = some .directory := by
  unfold isDirectory entryAt?
  cases t.resolve p with
  | found loc entry => cases entry <;> simp [Place.entryAt?]
  | _ => simp [Place.entryAt?]

theorem isFile_iff (p : Path) : t.isFile p = true ↔ ∃ bytes, t.entryAt? p = some (.file bytes) := by
  unfold isFile entryAt?
  cases t.resolve p with
  | found loc entry => cases entry <;> simp [Place.entryAt?]
  | _ => simp [Place.entryAt?]

theorem readBytes_eq_ok_iff (p : Path) (bytes : ByteArray) :
    t.readBytes p = .ok bytes ↔ t.entryAt? p = some (.file bytes) := by
  unfold readBytes entryAt?
  cases t.resolve p with
  | found loc entry => cases entry <;> simp [Place.entryAt?]
  | _ => simp [Place.entryAt?]

theorem canonicalize_eq_ok_iff (p : Path) (loc : Location) :
    t.canonicalize p = .ok loc ↔ t.target? p .followed = some loc ∧ (t.entryAt? p).isSome := by
  unfold canonicalize entryAt? target? resolve
  cases t.locate p .followed <;> simp [Place.entryAt?, Place.target?]

/-- A file's text is read from its bytes. -/
theorem readText_eq_ok_iff (p : Path) (text : String) :
    t.readText p = .ok text ↔
      ∃ bytes, t.entryAt? p = some (.file bytes) ∧ decode bytes = .ok text := by
  unfold readText
  constructor
  · intro h
    cases hb : t.readBytes p with
    | error e => simp [hb, bind, Except.bind] at h
    | ok bytes =>
      rw [hb] at h
      exact ⟨bytes, (readBytes_eq_ok_iff p bytes).mp hb, h⟩
  · rintro ⟨bytes, hb, hd⟩
    rw [(readBytes_eq_ok_iff p bytes).mpr hb]
    exact hd

theorem admissible_of_readText {p : Path} {text : String} (h : t.readText p = .ok text) :
    Admissible p := by
  obtain ⟨bytes, hbytes, -⟩ := (readText_eq_ok_iff p text).mp h
  exact admissible_of_isSome (Option.isSome_of_eq_some hbytes)

/-- What is found is found where the path leads. -/
theorem resolve_eq_found {p : Path} {loc : Location} {entry : Entry}
    (he : t.entryAt? p = some entry)
    (hloc : t.target? p .followed = some loc) : t.resolve p = .found loc entry := by
  unfold entryAt? at he
  unfold target? at hloc
  unfold resolve at he ⊢
  cases hp : t.locate p .followed with
  | found other entry' =>
    rw [hp] at he hloc
    obtain rfl := Option.some.inj he
    obtain rfl := Option.some.inj hloc
    rfl
  | _ => simp [hp, Place.entryAt?] at he

end

/-! ## Trees that differ in files alone -/

/-- The trees have the same directories and links. -/
structure SameFrame (t u : FileTree) : Prop where
  workDir : t.workDir = u.workDir
  alike : ∀ loc, AlikeAt t u loc

namespace SameFrame

variable {t u v : FileTree}

theorem refl (t : FileTree) : SameFrame t t := ⟨rfl, fun _ => .of_eq rfl⟩

theorem symm (h : SameFrame t u) : SameFrame u t := ⟨h.workDir.symm, fun loc => (h.alike loc).symm⟩

theorem trans (h : SameFrame t u) (g : SameFrame u v) : SameFrame t v :=
  ⟨h.workDir.trans g.workDir,
    fun loc entry he => (h.alike loc entry he).trans (g.alike loc entry he)⟩

theorem linkFree (h : SameFrame t u) (hfree : t.LinkFree) : u.LinkFree :=
  fun loc text hl => hfree loc text (((h.alike loc).link text).mpr hl)

theorem outset_eq (h : SameFrame t u) (p : Path) : t.outset p = u.outset p := by
  rw [outset, outset, h.workDir]

theorem target?_eq (h : SameFrame t u) (p : Path) (e : Ending) : u.target? p e = t.target? p e := by
  by_cases ha : Admissible p
  · rw [FileTree.target?_eq u ha, FileTree.target?_eq t ha, ← h.outset_eq]
    exact (outcome_alike fun loc _ => h.alike loc).1
  · obtain ⟨kind, hkind⟩ := exists_failed_of_not_admissible ha
    simp only [target?, hkind]

theorem leadsBy (h : SameFrame t u) {p : Path} {loc : Location} (hv : t.LeadsBy p loc) :
    u.LeadsBy p loc := by
  rw [LeadsBy, ← h.outset_eq]
  exact hv.alike fun other _ => h.alike other

end SameFrame

/-- A tree that has the same at all that a path leads by leads it to the same place. -/
theorem resolve_congr {t u : FileTree} {p : Path} (hdir : t.workDir = u.workDir)
    (h : ∀ loc, t.LeadsBy p loc → u.get? loc = t.get? loc) : u.resolve p = t.resolve p := by
  by_cases ha : Admissible p
  · have hout : u.outset p = t.outset p := by rw [outset, outset, hdir]
    rw [resolve, resolve, locate_eq u ha, locate_eq t ha, hout]
    exact outcome_congr h
  · obtain ⟨kind, hkind⟩ := exists_failed_of_not_admissible ha
    rw [resolve, resolve, hkind, hkind]

/-! ## Writing a file -/

theorem Extends.of_written : Extends .written .followed [] :=
  ⟨fun _ _ h => ⟨h.notIdle, h.notUp, by simp, h.short⟩, by simp⟩

theorem Looks.followed {e : Ending} {s : String} {rest : List String} (h : Looks e s rest) :
    Looks .followed s rest := ⟨h.notIdle, h.notUp, by simp, h.short⟩

/-- Where a file can be written, it is found. -/
theorem outcome_followed_of_written {t : FileTree} {a : Stage} {loc : Location}
    (h : (t.outcome .written a).target? = some loc) :
    t.outcome .followed a = t.outcome .written a := by
  obtain ⟨b, hb, hend⟩ := exists_ends t .written a
  have hsteps : Steps t .followed a b := by simpa using hb.append Extends.of_written
  rw [outcome_of_steps hsteps]
  revert hend h
  generalize t.outcome .written a = p
  intro h hend
  cases hend with
  | here => exact outcome_of_ends .here
  | missing hl hm => exact outcome_of_ends (.missing hl.followed hm)
  | file hl hf => exact outcome_of_ends (.file hl.followed hf)
  | kept _ _ hk => simp at hk
  | _ => simp [Place.target?] at h

theorem target?_followed_of_written {t : FileTree} {p : Path} {loc : Location}
    (h : t.target? p .written = some loc) : t.target? p .followed = some loc := by
  have ha := admissible_of_target? h
  rw [target?_eq t ha] at h ⊢
  rwa [outcome_followed_of_written h]

/-- What is found at the end of a path is found without following a last link, or behind one. -/
theorem outcome_kept_of_found {t : FileTree} {a : Stage} {loc : Location} {entry : Entry}
    (h : t.outcome .followed a = .found loc entry) :
    t.outcome .kept a = .found loc entry ∨
      ∃ there target, t.outcome .kept a = .found there (.link target) := by
  obtain ⟨b, hb, hend⟩ := exists_ends t .kept a
  have hx : Extends .kept .followed [] :=
    ⟨fun _ _ h => ⟨h.notIdle, h.notUp, by simp, h.short⟩, by simp⟩
  have hsteps : Steps t .followed a b := by simpa using hb.append hx
  rw [outcome_of_steps hsteps] at h
  revert hend
  generalize t.outcome .kept a = place
  intro hend
  cases hend with
  | here =>
    rw [outcome_of_ends .here] at h
    exact .inl h
  | @barred n d s rest hidle hup hnot =>
    have hnot' : ¬ Looks .followed s rest :=
      fun hl => hnot ⟨hl.notIdle, hl.notUp, by simp, hl.short⟩
    obtain ⟨kind, hkind⟩ := outcome_of_not_looks hidle hup hnot'
    simp [hkind] at h
  | missing hl hm => simp [outcome_of_ends (.missing hl.followed hm)] at h
  | lost hl hr hm => simp [outcome_of_ends (.lost hl.followed hr hm)] at h
  | file hl hf =>
    rw [outcome_of_ends (.file hl.followed hf)] at h
    exact .inl h
  | blocked hl hr hf => simp [outcome_of_ends (.blocked hl.followed hr hf)] at h
  | kept => exact .inr ⟨_, _, rfl⟩
  | exhausted hl hlink => simp [outcome_of_ends (.exhausted hl.followed hlink (by simp))] at h

/-- A tree with a file written at a location, where there was a file or nothing. -/
structure FilePut (t u : FileTree) (loc : Location) (bytes : ByteArray) : Prop where
  eq : u = t.set loc (.file bytes)
  missing_or_file : t.get? loc = none ∨ ∃ old, t.get? loc = some (.file old)

namespace FilePut

variable {t u : FileTree} {loc : Location} {bytes : ByteArray}

theorem ne_nil (h : FilePut t u loc bytes) : loc ≠ [] := by
  rintro rfl
  rcases h.missing_or_file with h | ⟨old, h⟩ <;> simp [get?] at h

theorem notDirectory (h : FilePut t u loc bytes) : t.get? loc ≠ some .directory := by
  rcases h.missing_or_file with h | ⟨old, h⟩ <;> simp [h]

theorem get?_eq (h : FilePut t u loc bytes) (other : Location) :
    u.get? other = if other = loc then some (.file bytes) else t.get? other := by
  rw [h.eq, get?_set _ _ _ h.ne_nil]

theorem sameFrame (h : FilePut t u loc bytes) : SameFrame t u := by
  refine ⟨by rw [h.eq]; rfl, fun other entry hentry => ?_⟩
  rw [h.get?_eq]
  by_cases he : other = loc
  · subst he
    have hnew : some (Entry.file bytes) ≠ some entry :=
      fun hc => hentry bytes (Option.some.inj hc).symm
    have hold : t.get? other ≠ some entry := by
      rcases h.missing_or_file with hm | ⟨old, hf⟩
      · simp [hm]
      · rw [hf]
        exact fun hc => hentry old (Option.some.inj hc).symm
    simp [hnew, hold]
  · rw [if_neg he]

/-- The file written is found at every path that leads to it, and all else stays. -/
theorem entryAt?_eq (h : FilePut t u loc bytes) (hw : WellFormed t) (hw' : WellFormed u)
    (p : Path) : u.entryAt? p =
      if t.target? p .followed = some loc then some (.file bytes) else t.entryAt? p := by
  rw [FileTree.entryAt?_eq hw', FileTree.entryAt?_eq hw, h.sameFrame.target?_eq]
  cases t.target? p .followed with
  | none => simp
  | some other => simp [h.get?_eq]

end FilePut

/-- What writing a file does. -/
theorem exists_filePut {t u : FileTree} {p : Path} {bytes : ByteArray} (hw : WellFormed t)
    (h : t.writeBytes p bytes = .ok u) :
    ∃ loc, t.target? p .written = some loc ∧ FilePut t u loc bytes ∧ WellFormed u := by
  have hput : ∃ loc, t.target? p .written = some loc ∧ FilePut t u loc bytes := by
    have hentry := entryAt?_locate hw p .written
    unfold writeBytes at h
    unfold target? at hentry ⊢
    cases hp : t.locate p .written with
    | found loc entry =>
      cases entry with
      | file old =>
        rw [hp] at h hentry
        exact ⟨loc, rfl, (Except.ok.inj h).symm, .inr ⟨old, hentry.symm⟩⟩
      | _ => simp [hp] at h
    | vacant dir name =>
      rw [hp] at h hentry
      exact ⟨dir ++ [name], rfl, (Except.ok.inj h).symm, .inl hentry.symm⟩
    | failed kind => simp [hp] at h
  obtain ⟨loc, htarget, hput⟩ := hput
  refine ⟨loc, htarget, hput, ?_⟩
  have hne := hput.notDirectory
  rw [target?_eq t (admissible_of_target? htarget)] at htarget
  obtain ⟨dir, name, rfl, hdir, hname⟩ := exists_of_target? hw (hw.grounded_outset p) htarget hne
  rw [hput.eq]
  exact hw.set_file bytes hdir hname hne

end FileTree
end Stencil
