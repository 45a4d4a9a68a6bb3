import Stencil.Proofs.FileTree.Below
import Stencil.Proofs.Locator
import Stencil.Proofs.Text.Cut
import Stencil.Proofs.Text.Trim
import Mathlib.Data.List.Induction

/-! Where a child's pointer leads, however it is spelt: to a file below the root, which is then known
by where it really is; to a file elsewhere, which is refused without being read; or to no file. -/
namespace Stencil
namespace Locator

open FileTree Stencil.Path

variable {l : Locator} {t : FileTree} {relative outputName pointer contents : String}
  {names : List String} {loc : Location} {bytes : ByteArray} {text : String}

/-! ## The text of a child -/

/-- The flag and a pointer, with nothing but white space around and between them. -/
structure IsChildText (flag contents pointer : String) : Prop where
  flag_ne_empty : flag ≠ ""
  trim_flag : Text.trim flag = flag
  pointer_ne_empty : pointer ≠ ""
  trim_pointer : Text.trim pointer = pointer
  blanks : ∃ lead mid tail, Text.allBlank lead = true ∧ Text.allBlank mid = true ∧
    Text.allBlank tail = true ∧ contents = lead ++ flag ++ mid ++ pointer ++ tail

theorem IsChildText.pointer? (h : IsChildText l.childFlag contents pointer) :
    l.pointer? contents = some pointer := by
  obtain ⟨lead, mid, tail, hlead, hmid, htail, hcontents⟩ := h.blanks
  have hflag := Text.firm_of_trim h.flag_ne_empty h.trim_flag
  have hpointer := Text.firm_of_trim h.pointer_ne_empty h.trim_pointer
  have hall : ∀ {s : String}, Text.allBlank s = true → ∀ c ∈ s.toList, Text.isBlank c = true :=
    fun hs => List.all_eq_true.mp hs
  have htrim : Text.trim contents = l.childFlag ++ (mid ++ pointer) := by
    have hfirm := (hflag.append hpointer mid.toList).trim_append (hall hlead) (hall htail)
    have hlist : contents =
        String.ofList (lead.toList ++ (l.childFlag.toList ++ mid.toList ++ pointer.toList) ++
          tail.toList) := by
      rw [hcontents]
      exact String.toList_inj.mp (by simp)
    rw [hlist, hfirm]
    exact String.toList_inj.mp (by simp)
  have hrest : Text.trim (mid ++ pointer) = pointer := by
    have hfirm := hpointer.trim_append (hall hmid) (List.forall_mem_nil _)
    simpa using hfirm
  rw [Locator.pointer?, htrim, Text.stripStart?_eq_some_iff.mpr rfl, Option.map_some, hrest]

/-- A file that has the marker in its name and holds the text of a child. -/
structure IsChild (l : Locator) (t : FileTree) (relative outputName pointer : String) : Prop where
  marked : (Path.mk relative).fileName?.bind l.marker.outputName = some outputName
  reads : ∃ contents, t.readText (l.root.join relative) = .ok contents ∧
    IsChildText l.childFlag contents pointer

/-- What is located in a child is decided by what its pointer leads to. -/
theorem IsChild.locate_eq (h : IsChild l t relative outputName pointer) :
    l.locate t relative =
      match l.resolvePointer t (l.root.join relative) pointer with
      | .error f => .error f
      | .ok (rootTemplate, lockKey) =>
        match readText t rootTemplate with
        | .error f => .error f
        | .ok text => .ok (some ⟨l.root.join relative,
            (l.root.join relative).withFileName outputName, rootTemplate, lockKey, .child, text⟩) := by
  obtain ⟨contents, hread, htext⟩ := h.reads
  unfold locate
  simp only [h.marked, readText_eq_ok_iff.mpr hread, htext.pointer?, bind, Except.bind]
  cases l.resolvePointer t (l.root.join relative) pointer with
  | error f => rfl
  | ok pair =>
    obtain ⟨target, key⟩ := pair
    dsimp only
    cases readText t target <;> rfl

/-! ## Pointers that lead to no file below the root -/

/-- A pointer that leads to no file is answered with the pointer itself. -/
theorem IsChild.locate_of_not_isFile (h : IsChild l t relative outputName pointer)
    (hfile : t.isFile (l.root.join pointer) = false) :
    l.locate t relative =
      .error (.childTemplateNotFound (l.root.join relative).text pointer) := by
  obtain ⟨_, _, htext⟩ := h.reads
  have hresolve : l.resolvePointer t (l.root.join relative) pointer =
      .error (.childTemplateNotFound (l.root.join relative).text pointer) := by
    simp [resolvePointer, resolveAgainst, htext.pointer_ne_empty, hfile]
  rw [h.locate_eq, hresolve]

theorem isFile_of_resolve {p : Path} (h : t.resolve p = .found loc (.file bytes)) :
    t.isFile p = true := by
  rw [isFile, h]

theorem canonicalize_of_resolve {p : Path} {entry : Entry} (h : t.resolve p = .found loc entry) :
    t.canonicalize p = .ok loc := by
  rw [FileTree.canonicalize, h]

/-- What is found at a path is at the location that the path names. -/
theorem target?_of_resolve (hw : WellFormed t) {p : Path} {entry : Entry}
    (h : t.resolve p = .found loc entry) :
    t.target? p .followed = some loc ∧ t.get? loc = some entry := by
  have htarget : t.target? p .followed = some loc := by
    rw [resolve] at h
    rw [target?, h]
    rfl
  have hentry : t.entryAt? p = some entry := entryAt?_eq_some_iff.mpr ⟨loc, h⟩
  refine ⟨htarget, ?_⟩
  rwa [entryAt?_eq hw, htarget] at hentry

/-- A pointer that leads out of the root is refused, whatever the file there holds. -/
theorem IsChild.locate_of_outside (h : IsChild l t relative outputName pointer)
    (hreach : t.resolve (l.root.join pointer) = .found loc (.file bytes))
    (hout : ¬ l.location <+: loc) :
    l.locate t relative = .error (.templateOutsideRoot (l.root.join pointer).text
      (l.root.join relative).text l.root.text) := by
  obtain ⟨_, _, htext⟩ := h.reads
  have hbelow : below? l.location loc = none := by
    rw [below?, if_neg]
    rwa [List.isPrefixOf_iff_prefix]
  have hresolve : l.resolvePointer t (l.root.join relative) pointer =
      .error (.templateOutsideRoot (l.root.join pointer).text (l.root.join relative).text
        l.root.text) := by
    simp [resolvePointer, resolveAgainst, htext.pointer_ne_empty, isFile_of_resolve hreach,
      canonicalize_of_resolve hreach, hbelow]
  rw [h.locate_eq, hresolve]

/-- Whatever else a file held, it would be found in the same place. -/
theorem exists_filePut_set (hw : WellFormed t) (hfile : t.get? loc = some (.file bytes))
    (other : ByteArray) :
    FilePut t (t.set loc (.file other)) loc other ∧ WellFormed (t.set loc (.file other)) := by
  refine ⟨⟨rfl, .inr ⟨bytes, hfile⟩⟩, ?_⟩
  cases loc using List.reverseRecOn with
  | nil => simp [get?] at hfile
  | append_singleton dir name =>
    have hthere : (t.get? (dir ++ [name])).isSome := Option.isSome_of_eq_some hfile
    exact hw.set_file other (hw.above dir name hthere) (hw.named dir name hthere) (by simp [hfile])

/-- A pointer that leads out of the root would be refused alike if the file there held anything else,
unless that file is the child itself. -/
theorem IsChild.locate_set_of_outside (h : IsChild l t relative outputName pointer)
    (hw : WellFormed t) (hreach : t.resolve (l.root.join pointer) = .found loc (.file bytes))
    (hout : ¬ l.location <+: loc) (hself : t.target? (l.root.join relative) .followed ≠ some loc)
    (other : ByteArray) :
    l.locate (t.set loc (.file other)) relative = l.locate t relative := by
  obtain ⟨htarget, hfile⟩ := target?_of_resolve hw hreach
  obtain ⟨hput, hw'⟩ := exists_filePut_set hw hfile other
  have hreach' : (t.set loc (.file other)).resolve (l.root.join pointer) =
      .found loc (.file other) := by
    refine resolve_eq_found ?_ ?_
    · rw [hput.entryAt?_eq hw hw', if_pos htarget]
    · rw [hput.sameFrame.target?_eq, htarget]
  have hchild : IsChild l (t.set loc (.file other)) relative outputName pointer := by
    obtain ⟨contents, hread, htext⟩ := h.reads
    obtain ⟨old, hold, hdecode⟩ := (FileTree.readText_eq_ok_iff _ _).mp hread
    refine ⟨h.marked, contents, (FileTree.readText_eq_ok_iff _ _).mpr ⟨old, ?_, hdecode⟩, htext⟩
    rw [hput.entryAt?_eq hw hw', if_neg hself, hold]
  rw [hchild.locate_of_outside hreach' hout, h.locate_of_outside hreach hout]

/-! ## Pointers that lead to a file below the root -/

theorem IsChild.points (h : IsChild l t relative outputName pointer)
    (hreach : t.resolve (l.root.join pointer) = .found (l.location ++ names) (.file bytes)) :
    Points l t pointer names := by
  obtain ⟨_, _, htext⟩ := h.reads
  exact ⟨htext.pointer_ne_empty, isFile_of_resolve hreach, canonicalize_of_resolve hreach⟩

/-- However a pointer is spelt, what is located is told by where its file really is. -/
theorem IsChild.locate_of_below (h : IsChild l t relative outputName pointer)
    (hr : Rooted t l.root l.location)
    (hreach : t.resolve (l.root.join pointer) = .found (l.location ++ names) (.file bytes))
    (htext : decode bytes = .ok text) (ha : Admissible (l.root.join (ofNames names))) :
    l.locate t relative = .ok (some ⟨l.root.join relative,
      (l.root.join relative).withFileName outputName, l.root.join (ofNames names),
      stored (ofNames names), .child, text⟩) := by
  obtain ⟨contents, hread, hchild⟩ := h.reads
  obtain ⟨-, hfile⟩ := target?_of_resolve hr.wellFormed hreach
  have hne : names ≠ [] := by
    rintro rfl
    rw [List.append_nil, hr.directory] at hfile
    simp at hfile
  have hentry := hr.entryAt?_join hne hfile ha
  exact locate_eq_some_iff.mpr (.child h.marked hread hchild.pointer? (h.points hreach)
    ((FileTree.readText_eq_ok_iff _ _).mpr ⟨bytes, hentry, htext⟩))

theorem IsChild.locate_of_not_admissible (h : IsChild l t relative outputName pointer)
    (hreach : t.resolve (l.root.join pointer) = .found (l.location ++ names) (.file bytes))
    (ha : ¬ Admissible (l.root.join (ofNames names))) :
    ∃ e, l.locate t relative =
      .error (.fileSystem "read" (l.root.join (ofNames names)).text e) := by
  obtain ⟨kind, hkind⟩ := exists_failed_of_not_admissible ha
  have hread : readText t (l.root.join (ofNames names)) =
      .error (.fileSystem "read" (l.root.join (ofNames names)).text (.of kind)) := by
    simp [readText, FileTree.readText, readBytes, resolve, hkind, bind, Except.bind]
  have hresolve : l.resolvePointer t (l.root.join relative) pointer =
      .ok (l.root.join (ofNames names), stored (ofNames names)) :=
    resolvePointer_eq_ok_iff.mpr ⟨names, h.points hreach, rfl, rfl⟩
  refine ⟨.of kind, ?_⟩
  rw [h.locate_eq, hresolve]
  simp only [hread]

end Locator
end Stencil
