import Stencil.Proofs.FileTree.Target

/-! Writing files one after the other. -/
namespace Stencil
namespace FileTree

open Stencil.Path

/-- Every text is written to its path in turn, up to the first that is refused. -/
def writeAll (t : FileTree) : List (Path × String) → Except IoError FileTree
  | [] => .ok t
  | (p, text) :: rest =>
    match t.writeText p text with
    | .error e => .error e
    | .ok u => u.writeAll rest

/-- The writes that are taken, up to the first that is refused. -/
def accepted (t : FileTree) : List (Path × String) → List (Path × String)
  | [] => []
  | (p, text) :: rest =>
    match t.writeText p text with
    | .error _ => []
    | .ok u => (p, text) :: u.accepted rest

theorem accepted_isPrefix (t : FileTree) (writes : List (Path × String)) :
    t.accepted writes <+: writes := by
  induction writes generalizing t with
  | nil => exact List.prefix_refl _
  | cons e rest ih =>
    obtain ⟨p, text⟩ := e
    unfold accepted
    cases t.writeText p text with
    | error e => exact List.nil_prefix
    | ok u => exact (List.cons_prefix_cons).mpr ⟨rfl, ih u⟩

/-- All writes are taken if none is refused. -/
theorem accepted_of_writeAll {t u : FileTree} {writes : List (Path × String)}
    (h : t.writeAll writes = .ok u) : t.accepted writes = writes := by
  induction writes generalizing t with
  | nil => rfl
  | cons e rest ih =>
    obtain ⟨p, text⟩ := e
    unfold writeAll at h
    unfold accepted
    cases hwrite : t.writeText p text with
    | error e => simp [hwrite] at h
    | ok t' =>
      rw [hwrite] at h
      exact congrArg ((p, text) :: ·) (ih h)

/-- After writes that are all taken, more writes go on in the tree that they have left. -/
theorem writeAll_append {t u : FileTree} {first : List (Path × String)}
    (h : t.writeAll first = .ok u) (second : List (Path × String)) :
    t.writeAll (first ++ second) = u.writeAll second := by
  induction first generalizing t with
  | nil =>
    obtain rfl := Except.ok.inj h
    rfl
  | cons e rest ih =>
    obtain ⟨p, text⟩ := e
    unfold writeAll at h
    rw [List.cons_append, writeAll]
    cases hwrite : t.writeText p text with
    | error e => simp [hwrite] at h
    | ok t' =>
      rw [hwrite] at h
      exact ih h

theorem accepted_append {t u : FileTree} {first : List (Path × String)}
    (h : t.writeAll first = .ok u) (second : List (Path × String)) :
    t.accepted (first ++ second) = first ++ u.accepted second := by
  induction first generalizing t with
  | nil =>
    obtain rfl := Except.ok.inj h
    rfl
  | cons e rest ih =>
    obtain ⟨p, text⟩ := e
    unfold writeAll at h
    rw [List.cons_append, accepted]
    cases hwrite : t.writeText p text with
    | error e => simp [hwrite] at h
    | ok t' =>
      rw [hwrite] at h
      exact congrArg ((p, text) :: ·) (ih h)

/-- Nothing is taken after a write that is refused. -/
theorem accepted_append_of_refused {t : FileTree} {first : List (Path × String)}
    (h : t.accepted first ≠ first) (second : List (Path × String)) :
    t.accepted (first ++ second) = t.accepted first := by
  induction first generalizing t with
  | nil => exact absurd rfl h
  | cons e rest ih =>
    obtain ⟨p, text⟩ := e
    rw [List.cons_append, accepted, accepted]
    rw [accepted] at h
    cases hwrite : t.writeText p text with
    | error e => rfl
    | ok t' =>
      rw [hwrite] at h
      exact congrArg ((p, text) :: ·) (ih fun hall => h (congrArg ((p, text) :: ·) hall))

/-- A single write leaves what it writes if it is taken, and the tree otherwise. -/
theorem writeAll_accepted_singleton (t : FileTree) (p : Path) (text : String) :
    t.writeAll (t.accepted [(p, text)]) = .ok ((t.writeText p text).toOption.getD t) := by
  cases hwrite : t.writeText p text with
  | error e => simp [accepted, writeAll, hwrite, Except.toOption]
  | ok u => simp [accepted, writeAll, hwrite, Except.toOption]

/-- What has been written last to a location. -/
def lastWritten (t : FileTree) (writes : List (Path × String)) (loc : Location) : Option Entry :=
  (writes.reverse.find? fun e => t.target? e.1 .written == some loc).map fun e => .file e.2.toUTF8

theorem lastWritten_cons (t : FileTree) (p : Path) (text : String) (rest : List (Path × String))
    (loc : Location) : t.lastWritten ((p, text) :: rest) loc =
      (t.lastWritten rest loc).or
        (if t.target? p .written = some loc then some (.file text.toUTF8) else none) := by
  unfold lastWritten
  rw [List.reverse_cons, List.find?_append]
  cases List.find? (fun e => t.target? e.1 .written == some loc) rest.reverse with
  | some e => rfl
  | none => by_cases h : t.target? p .written = some loc <;> simp [h]

theorem lastWritten_eq_none_iff {t : FileTree} {writes : List (Path × String)} {loc : Location} :
    t.lastWritten writes loc = none ↔ ∀ e ∈ writes, t.target? e.1 .written ≠ some loc := by
  simp [lastWritten]

theorem exists_of_lastWritten {t : FileTree} {writes : List (Path × String)} {loc : Location}
    {entry : Entry} (h : t.lastWritten writes loc = some entry) :
    ∃ e ∈ writes, t.target? e.1 .written = some loc ∧ entry = .file e.2.toUTF8 := by
  obtain ⟨e, hfind, rfl⟩ := Option.map_eq_some_iff.mp h
  exact ⟨e, List.mem_reverse.mp (List.mem_of_find?_eq_some hfind),
    by simpa using List.find?_some hfind, rfl⟩

theorem lastWritten_congr {t u : FileTree} (h : SameFrame t u) (writes : List (Path × String))
    (loc : Location) : u.lastWritten writes loc = t.lastWritten writes loc := by
  simp only [lastWritten, h.target?_eq]

/-- In another order of the writes the same is written last, if what is written to a location is one
text. -/
theorem lastWritten_perm {t : FileTree} {first second : List (Path × String)}
    (h : first.Perm second) (hone : ∀ e ∈ first, ∀ f ∈ first,
      t.target? e.1 .written = t.target? f.1 .written → e.2 = f.2) (loc : Location) :
    t.lastWritten second loc = t.lastWritten first loc := by
  cases hfirst : t.lastWritten first loc with
  | none =>
    rw [lastWritten_eq_none_iff] at hfirst ⊢
    exact fun e he => hfirst e (h.mem_iff.mpr he)
  | some entry =>
    obtain ⟨e, he, heloc, rfl⟩ := exists_of_lastWritten hfirst
    cases hsecond : t.lastWritten second loc with
    | none => exact absurd heloc (lastWritten_eq_none_iff.mp hsecond e (h.mem_iff.mp he))
    | some other =>
      obtain ⟨f, hf, hfloc, rfl⟩ := exists_of_lastWritten hsecond
      rw [hone e he f (h.mem_iff.mpr hf) (heloc.trans hfloc.symm)]

/-- The trees before and after files have been written. -/
structure Written (t u : FileTree) (writes : List (Path × String)) : Prop where
  sameFrame : SameFrame t u
  wellFormed : WellFormed u
  get?_eq : ∀ loc, u.get? loc = (t.lastWritten writes loc).or (t.get? loc)
  targets : ∀ e ∈ writes, ∃ loc, t.target? e.1 .written = some loc ∧
    (t.get? loc = none ∨ ∃ old, t.get? loc = some (.file old))

theorem Written.refl {t : FileTree} (hw : WellFormed t) : Written t t [] :=
  ⟨.refl t, hw, fun _ => rfl, by simp⟩

theorem written_of_writeAll {t u : FileTree} {writes : List (Path × String)} (hw : WellFormed t)
    (h : t.writeAll writes = .ok u) : Written t u writes := by
  induction writes generalizing t with
  | nil =>
    obtain rfl := Except.ok.inj h
    exact .refl hw
  | cons e rest ih =>
    obtain ⟨p, text⟩ := e
    unfold writeAll at h
    split at h
    · simp at h
    next t' ht' =>
    obtain ⟨loc, htarget, hput, hw'⟩ := exists_filePut hw ht'
    have hrest := ih hw' h
    refine ⟨hput.sameFrame.trans hrest.sameFrame, hrest.wellFormed, fun other => ?_, ?_⟩
    · rw [hrest.get?_eq, lastWritten_congr hput.sameFrame, lastWritten_cons, hput.get?_eq, htarget]
      by_cases hloc : other = loc
      · subst hloc
        cases t.lastWritten rest other <;> simp
      · cases t.lastWritten rest other <;> simp [hloc, Ne.symm hloc]
    · intro e he
      rcases List.mem_cons.mp he with rfl | he
      · exact ⟨loc, htarget, hput.missing_or_file⟩
      · obtain ⟨other, hother, hfile⟩ := hrest.targets e he
        rw [hput.sameFrame.target?_eq] at hother
        refine ⟨other, hother, ?_⟩
        have halike := (hput.sameFrame.alike other).symm
        rcases hfile with hm | ⟨old, hf⟩
        · exact halike.missing_or_file (by simp [hm]) (by simp [hm])
        · exact halike.missing_or_file (by simp [hf]) (by simp [hf])

namespace Written

variable {t u : FileTree} {writes : List (Path × String)}

/-- Whatever has been written was written to a file or to nothing. -/
theorem exists_target (h : Written t u writes) {e : Path × String} (he : e ∈ writes) :
    ∃ loc, t.target? e.1 .written = some loc ∧ t.get? loc ≠ some .directory := by
  obtain ⟨loc, hloc, hold⟩ := h.targets e he
  refine ⟨loc, hloc, ?_⟩
  rcases hold with hm | ⟨old, hf⟩
  · simp [hm]
  · simp [hf]

/-- Where nothing has been written, everything is as it was. -/
theorem get?_of_not_target (h : Written t u writes) {loc : Location}
    (hn : ∀ e ∈ writes, t.target? e.1 .written ≠ some loc) : u.get? loc = t.get? loc := by
  rw [h.get?_eq, lastWritten_eq_none_iff.mpr hn, Option.none_or]

theorem isSome_of_isSome (h : Written t u writes) {loc : Location} (hs : (t.get? loc).isSome) :
    (u.get? loc).isSome := by
  rw [h.get?_eq]
  cases t.lastWritten writes loc <;> simp [hs]

/-- A file stays a file, though it may be another. -/
theorem exists_get?_file (h : Written t u writes) {loc : Location} {bytes : ByteArray}
    (hfile : t.get? loc = some (.file bytes)) : ∃ bytes', u.get? loc = some (.file bytes') := by
  rw [h.get?_eq, hfile]
  cases hlast : t.lastWritten writes loc with
  | none => exact ⟨bytes, rfl⟩
  | some entry =>
    obtain ⟨e, -, -, rfl⟩ := exists_of_lastWritten hlast
    exact ⟨_, rfl⟩

theorem isSome_entryAt? (h : Written t u writes) (hw : WellFormed t) {p : Path}
    (hs : (t.entryAt? p).isSome) : (u.entryAt? p).isSome := by
  rw [entryAt?_eq hw] at hs
  rw [entryAt?_eq h.wellFormed, h.sameFrame.target?_eq]
  cases htarget : t.target? p .followed with
  | none => simp [htarget] at hs
  | some loc =>
    rw [htarget] at hs
    exact h.isSome_of_isSome hs

/-- What is written is found where it was written, unless something else was put over it. -/
theorem entryAt?_eq_lastWritten (h : Written t u writes) (hw : WellFormed t) (p : Path) :
    u.entryAt? p = ((t.target? p .followed).bind (t.lastWritten writes)).or (t.entryAt? p) := by
  rw [entryAt?_eq h.wellFormed, entryAt?_eq hw, h.sameFrame.target?_eq]
  cases t.target? p .followed with
  | none => rfl
  | some loc => exact h.get?_eq loc

theorem exists_file (h : Written t u writes) (hw : WellFormed t) {p : Path} {bytes : ByteArray}
    (hp : t.entryAt? p = some (.file bytes)) : ∃ bytes', u.entryAt? p = some (.file bytes') := by
  rw [entryAt?_eq hw] at hp
  obtain ⟨loc, htarget, hfile⟩ := Option.bind_eq_some_iff.mp hp
  rw [entryAt?_eq h.wellFormed, h.sameFrame.target?_eq, htarget]
  exact h.exists_get?_file hfile

end Written

end FileTree
end Stencil
