import Stencil.Locator
import Stencil.Proofs.FileTree.Target

/-! What is located, and by which key. In a tree whose names have no backslash a key is the path of
its root template from the root. -/
namespace Stencil

namespace Locator

open FileTree Stencil.Path

/-- Reading for a run fails where reading fails. -/
theorem readText_eq_ok_iff {t : FileTree} {p : Path} {text : String} :
    readText t p = .ok text ↔ t.readText p = .ok text := by
  unfold readText
  cases t.readText p <;> simp

/-- Where a child's pointer leads: a file below the root, whose names from there are `names`. -/
structure Points (l : Locator) (t : FileTree) (pointer : String) (names : List String) : Prop where
  ne_empty : pointer ≠ ""
  isFile : t.isFile (l.root.join pointer) = true
  canonicalize : t.canonicalize (l.root.join pointer) = .ok (l.location ++ names)

theorem below?_eq_some_iff {top loc : Location} {names : List String} :
    below? top loc = some names ↔ loc = top ++ names := by
  unfold below?
  constructor
  · intro h
    split at h
    · next hp =>
      obtain ⟨rest, rfl⟩ := List.isPrefixOf_iff_prefix.mp hp
      simpa using Option.some.inj h
    · simp at h
  · rintro rfl
    simp

theorem resolvePointer_eq_ok_iff {l : Locator} {t : FileTree} {child : Path} {pointer : String}
    {target : Path} {key : String} :
    l.resolvePointer t child pointer = .ok (target, key) ↔
      ∃ names, Points l t pointer names ∧ target = l.root.join (ofNames names) ∧
        key = stored (ofNames names) := by
  unfold resolvePointer resolveAgainst
  constructor
  · intro h
    dsimp only at h
    split at h
    · simp at h
    next hne =>
    split at h
    · simp at h
    next hfile =>
    split at h
    · simp at h
    next loc hloc =>
    split at h
    · simp at h
    next names hnames =>
    have hpair := Except.ok.inj h
    rw [below?_eq_some_iff] at hnames
    refine ⟨names, ⟨hne, by simpa using hfile, hnames ▸ hloc⟩, ?_, ?_⟩
    · exact (Prod.mk.inj hpair).1.symm
    · exact (Prod.mk.inj hpair).2.symm
  · rintro ⟨names, ⟨hne, hfile, hloc⟩, rfl, rfl⟩
    simp [hne, hfile, hloc, below?_eq_some_iff.mpr rfl]

/-- What is located in a file. -/
inductive Finds (l : Locator) (t : FileTree) (relative : String) : Located → Prop
  | inPlace {outputName contents : String}
      (hname : (Path.mk relative).fileName?.bind l.marker.outputName = some outputName)
      (hread : t.readText (l.root.join relative) = .ok contents)
      (hpointer : l.pointer? contents = none) :
      Finds l t relative ⟨l.root.join relative, (l.root.join relative).withFileName outputName,
        l.root.join relative, stored relative, .inPlace, contents⟩
  | child {outputName contents pointer text : String} {names : List String}
      (hname : (Path.mk relative).fileName?.bind l.marker.outputName = some outputName)
      (hread : t.readText (l.root.join relative) = .ok contents)
      (hpointer : l.pointer? contents = some pointer) (hpoints : Points l t pointer names)
      (htext : t.readText (l.root.join (ofNames names)) = .ok text) :
      Finds l t relative ⟨l.root.join relative, (l.root.join relative).withFileName outputName,
        l.root.join (ofNames names), stored (ofNames names), .child, text⟩

theorem locate_eq_none_iff {l : Locator} {t : FileTree} {relative : String} :
    l.locate t relative = .ok none ↔
      (Path.mk relative).fileName?.bind l.marker.outputName = none := by
  unfold locate
  cases (Path.mk relative).fileName?.bind l.marker.outputName with
  | none => simp
  | some outputName =>
    simp only [reduceCtorEq, iff_false]
    cases readText t (l.root.join relative) with
    | error f => simp [bind, Except.bind]
    | ok contents =>
      simp only [bind, Except.bind]
      cases l.pointer? contents with
      | none => simp
      | some pointer =>
        cases hr : l.resolvePointer t (l.root.join relative) pointer with
        | error f => simp [hr]
        | ok pair =>
          cases ht : readText t pair.1 <;> simp [hr, ht]

theorem locate_eq_some_iff {l : Locator} {t : FileTree} {relative : String} {located : Located} :
    l.locate t relative = .ok (some located) ↔ Finds l t relative located := by
  constructor
  · intro h
    unfold locate at h
    split at h
    · simp at h
    next outputName hname =>
    cases hread : readText t (l.root.join relative) with
    | error f => simp [hread, bind, Except.bind] at h
    | ok contents =>
      simp only [hread, bind, Except.bind] at h
      cases hpointer : l.pointer? contents with
      | none =>
        rw [hpointer] at h
        rw [← Option.some.inj (Except.ok.inj h)]
        exact .inPlace hname (readText_eq_ok_iff.mp hread) hpointer
      | some pointer =>
        rw [hpointer] at h
        cases hresolve : l.resolvePointer t (l.root.join relative) pointer with
        | error f => simp [hresolve] at h
        | ok pair =>
          obtain ⟨target, key⟩ := pair
          simp only [hresolve] at h
          cases htext : readText t target with
          | error f => simp [htext] at h
          | ok text =>
            rw [htext] at h
            obtain ⟨names, hpoints, rfl, rfl⟩ := resolvePointer_eq_ok_iff.mp hresolve
            rw [← Option.some.inj (Except.ok.inj h)]
            exact .child hname (readText_eq_ok_iff.mp hread) hpointer hpoints
              (readText_eq_ok_iff.mp htext)
  · intro h
    unfold locate
    cases h with
    | inPlace hname hread hpointer =>
      simp [hname, readText_eq_ok_iff.mpr hread, hpointer, bind, Except.bind]
    | child hname hread hpointer hpoints htext =>
      have hresolve := (@resolvePointer_eq_ok_iff l t (l.root.join relative) _ _ _).mpr
        ⟨_, hpoints, rfl, rfl⟩
      simp [hname, readText_eq_ok_iff.mpr hread, hpointer, hresolve,
        readText_eq_ok_iff.mpr htext, bind, Except.bind]

/-- No more than one template is located in a file. -/
theorem Finds.unique {l : Locator} {t : FileTree} {relative : String} {a b : Located}
    (ha : Finds l t relative a) (hb : Finds l t relative b) : a = b := by
  have hsame := (locate_eq_some_iff.mpr ha).symm.trans (locate_eq_some_iff.mpr hb)
  exact Option.some.inj (Except.ok.inj hsame)

/-- What a pointer leads to is there. -/
theorem Points.isSome {l : Locator} {t : FileTree} {pointer : String} {names : List String}
    (h : Points l t pointer names) (hw : WellFormed t) : (t.get? (l.location ++ names)).isSome := by
  obtain ⟨htarget, hentry⟩ := (canonicalize_eq_ok_iff _ _).mp h.canonicalize
  rw [entryAt?_eq hw, htarget] at hentry
  exact hentry

/-- The file that a pointer leads to is where its names lead. -/
theorem Points.exists_file {l : Locator} {t : FileTree} {pointer : String} {names : List String}
    (h : Points l t pointer names) (hw : WellFormed t) :
    ∃ bytes, t.entryAt? (l.root.join pointer) = some (.file bytes) ∧
      t.get? (l.location ++ names) = some (.file bytes) := by
  obtain ⟨bytes, hbytes⟩ := (isFile_iff _).mp h.isFile
  obtain ⟨htarget, -⟩ := (canonicalize_eq_ok_iff _ _).mp h.canonicalize
  refine ⟨bytes, hbytes, ?_⟩
  rwa [entryAt?_eq hw, htarget] at hbytes

theorem Finds.source_eq {l : Locator} {t : FileTree} {relative : String} {located : Located}
    (h : Finds l t relative located) : located.source = l.root.join relative := by
  cases h <;> rfl

/-- The output has the name that the marker leaves of the file's. -/
theorem Finds.exists_outputName {l : Locator} {t : FileTree} {relative : String} {located : Located}
    (h : Finds l t relative located) : ∃ name out, (Path.mk relative).fileName? = some name ∧
      l.marker.outputName name = some out ∧
      located.output = located.source.withFileName out := by
  cases h with
  | inPlace hmarked =>
    obtain ⟨name, hname, hout⟩ := Option.bind_eq_some_iff.mp hmarked
    exact ⟨name, _, hname, hout, rfl⟩
  | child hmarked =>
    obtain ⟨name, hname, hout⟩ := Option.bind_eq_some_iff.mp hmarked
    exact ⟨name, _, hname, hout, rfl⟩

/-- The text of a template is that of its root template. -/
theorem Finds.readText {l : Locator} {t : FileTree} {relative : String} {located : Located}
    (h : Finds l t relative located) : t.readText located.rootTemplate = .ok located.text := by
  cases h with
  | inPlace _ hread => exact hread
  | child _ _ _ _ htext => exact htext

/-- Without backslashes a key is the path of the root template from the root. -/
theorem Finds.key_spec {l : Locator} {t : FileTree} {relative : String} {located : Located}
    (h : Finds l t relative located) (hw : WellFormed t) (hfree : t.BackslashFree)
    (hrelative : '\\' ∉ relative.toList) :
    located.rootTemplate = l.root.join located.lockKey ∧
      t.readText (l.root.join located.lockKey) = .ok located.text := by
  cases h with
  | inPlace hname hread hpointer =>
    have hkey : stored relative = relative := stored_of_notMem hrelative
    simp only [hkey]
    exact ⟨trivial, hread⟩
  | @child _ _ _ _ names hname hread hpointer hpoints htext =>
    have hkey : stored (ofNames names) = ofNames names := stored_ofNames fun n hn =>
      hfree _ (hpoints.isSome hw) n (by simp [hn])
    simp only [hkey]
    exact ⟨trivial, htext⟩

end Locator
end Stencil
