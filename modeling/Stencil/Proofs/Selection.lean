import Stencil.Selection
import Stencil.Proofs.FileTree.Replacement
import Mathlib.Data.List.Sort

/-! The selected files of a root are the files below it that no rule leaves out, given by their
names and in the order of these. -/
namespace Stencil

/-- Trees that have the same at the ignore files give the same rules. -/
theorem IgnoreSpec.build_congr {t u : FileTree} {root : Path} {files : List String}
    (h : ∀ file ∈ files, u.entryAt? (root.join file) = t.entryAt? (root.join file))
    (patterns : List String) :
    IgnoreSpec.build u root files patterns = IgnoreSpec.build t root files patterns := by
  have hlines : ∀ file ∈ files, fileLines u root file = fileLines t root file := by
    intro file hfile
    have hsame := h file hfile
    unfold fileLines Path.resolveAgainst
    dsimp only
    have hisFile : u.isFile (root.join file) = t.isFile (root.join file) := by
      rw [Bool.eq_iff_iff, FileTree.isFile_iff, FileTree.isFile_iff, hsame]
    rw [hisFile]
    cases hf : t.isFile (root.join file) with
    | false => simp
    | true =>
      obtain ⟨bytes, hbytes⟩ := (FileTree.isFile_iff _).mp hf
      have hread : u.readText (root.join file) = t.readText (root.join file) := by
        rw [FileTree.readText, FileTree.readText, (FileTree.readBytes_eq_ok_iff _ _).mpr hbytes,
          (FileTree.readBytes_eq_ok_iff _ _).mpr (hsame.trans hbytes)]
      simp only [hread]
  have hall : allLines u root files = allLines t root files := by
    clear h
    induction files with
    | nil => rfl
    | cons file rest ih =>
      unfold allLines
      rw [hlines file (by simp), ih fun f hf => hlines f (by simp [hf])]
  rw [build, build, hall]

namespace Selection

open FileTree Stencil.Path

theorem mem_entriesIn_iff (t : FileTree) (dir : Location) (name : String) (entry : Entry) :
    (name, entry) ∈ entriesIn t dir ↔ t.get? (dir ++ [name]) = some entry := by
  unfold entriesIn
  simp only [List.mem_filterMap, Option.map_eq_some_iff, mem_children_iff]
  constructor
  · rintro ⟨n, -, e, he, hpair⟩
    obtain ⟨rfl, rfl⟩ := Prod.mk.inj hpair
    exact he
  · intro h
    exact ⟨name, by simp [h], entry, h, rfl⟩

theorem entriesIn_sorted (t : FileTree) (dir : Location) :
    (entriesIn t dir).Pairwise fun a b => a.1 < b.1 := by
  unfold entriesIn
  rw [List.pairwise_filterMap]
  refine (children_sorted t dir).imp fun {x y} hlt a ha b hb => ?_
  obtain ⟨_, -, rfl⟩ := Option.map_eq_some_iff.mp ha
  obtain ⟨_, -, rfl⟩ := Option.map_eq_some_iff.mp hb
  exact hlt

/-- What is selected in a directory. -/
def selectedFrom (t : FileTree) (spec : IgnoreSpec) (fuel : Nat) (dir : Location)
    (names : List String) (e : String × Entry) : List (List String) :=
  if spec.isIgnored (ofNames (names ++ [e.1])) (e.2 = .directory) then []
  else
    match e.2 with
    | .file _ => [names ++ [e.1]]
    | .directory => below t spec fuel (dir ++ [e.1]) (names ++ [e.1])
    | .link _ => []

theorem below_succ (t : FileTree) (spec : IgnoreSpec) (fuel : Nat) (dir : Location)
    (names : List String) : below t spec (fuel + 1) dir names =
      (entriesIn t dir).flatMap (selectedFrom t spec fuel dir names) := rfl

/-- Neither a file is left out nor a directory on the way to it. -/
def Passes (spec : IgnoreSpec) (names : List String) : List String → Prop
  | [] => False
  | [name] => spec.isIgnored (ofNames (names ++ [name])) false = false
  | name :: rest =>
    spec.isIgnored (ofNames (names ++ [name])) true = false ∧ Passes spec (names ++ [name]) rest

/-- The selected files below a directory, as far down as the walk may go. -/
theorem mem_below_iff {t : FileTree} (hw : WellFormed t) {spec : IgnoreSpec} {fuel : Nat}
    {dir : Location} {names path : List String} :
    path ∈ below t spec fuel dir names ↔ ∃ rest, path = names ++ rest ∧ rest.length ≤ fuel ∧
      Passes spec names rest ∧ ∃ bytes, t.get? (dir ++ rest) = some (.file bytes) := by
  induction fuel generalizing dir names with
  | zero =>
    simp only [below, List.not_mem_nil, false_iff]
    rintro ⟨rest, -, hlength, hpass, -⟩
    obtain rfl : rest = [] := by simpa using hlength
    exact hpass
  | succ fuel ih =>
    rw [below_succ, List.mem_flatMap]
    constructor
    · rintro ⟨⟨name, entry⟩, he, hpath⟩
      rw [mem_entriesIn_iff] at he
      unfold selectedFrom at hpath
      split at hpath
      · simp at hpath
      next hkept =>
      split at hpath
      · next bytes heq =>
        obtain rfl : entry = .file bytes := heq
        exact ⟨[name], by simpa using hpath, by simp, by simpa [Passes] using hkept, bytes, he⟩
      · next heq =>
        obtain rfl : entry = .directory := heq
        obtain ⟨rest, rfl, hlength, hpass, bytes, hfile⟩ := ih.mp hpath
        cases rest with
        | nil => exact absurd hpass id
        | cons x rest =>
          exact ⟨name :: x :: rest, by simp, by simpa using hlength, ⟨by simpa using hkept, hpass⟩,
            bytes, by simpa using hfile⟩
      · simp at hpath
    · rintro ⟨rest, rfl, hlength, hpass, bytes, hfile⟩
      cases rest with
      | nil => exact absurd hpass id
      | cons name rest =>
        cases rest with
        | nil =>
          have hkept : spec.isIgnored (ofNames (names ++ [name])) false = false := hpass
          refine ⟨(name, .file bytes), (mem_entriesIn_iff _ _ _ _).mpr hfile, ?_⟩
          simp [selectedFrom, hkept]
        | cons x rest =>
          obtain ⟨hkept, hpass⟩ := hpass
          have hdirectory : t.get? (dir ++ [name]) = some .directory :=
            hw.directory_of_prefix (List.cons_ne_nil x rest) (by simp [hfile])
          refine ⟨(name, .directory), (mem_entriesIn_iff _ _ _ _).mpr hdirectory, ?_⟩
          simp only [selectedFrom, decide_true, hkept, Bool.false_eq_true, if_false]
          exact ih.mpr
            ⟨x :: rest, by simp, by simpa using hlength, hpass, bytes, by simpa using hfile⟩

/-- Selected files come in the order of their names, each once. -/
theorem sorted_below {t : FileTree} (hw : WellFormed t) (spec : IgnoreSpec) (fuel : Nat)
    (dir : Location) (names : List String) : (below t spec fuel dir names).Pairwise (· < ·) := by
  induction fuel generalizing dir names with
  | zero => exact .nil
  | succ fuel ih =>
    have hstart : ∀ e path, path ∈ selectedFrom t spec fuel dir names e →
        ∃ rest, path = names ++ e.1 :: rest := by
      intro e path hpath
      unfold selectedFrom at hpath
      split at hpath
      · simp at hpath
      · split at hpath
        · exact ⟨[], by simpa using hpath⟩
        · obtain ⟨rest, rfl, -⟩ := (mem_below_iff hw).mp hpath
          exact ⟨rest, by simp⟩
        · simp at hpath
    rw [below_succ, List.pairwise_flatMap]
    refine ⟨fun e _ => ?_, (entriesIn_sorted t dir).imp fun {e f} hlt x hx y hy => ?_⟩
    · unfold selectedFrom
      split
      · exact .nil
      · split
        · exact List.pairwise_singleton _ _
        · exact ih _ _
        · exact .nil
    · obtain ⟨xs, rfl⟩ := hstart e x hx
      obtain ⟨ys, rfl⟩ := hstart f y hy
      exact List.append_left_lt (List.cons_lt_cons_iff.mpr (.inl hlt))

/-- Nothing is deeper in a tree than the walk goes. -/
theorem length_le_depth {t : FileTree} {loc : Location} (hs : (t.get? loc).isSome) :
    loc.length ≤ depth t := by
  have hfold : ∀ (entries : List (Location × Entry)) (d : Nat),
      d ≤ entries.foldl (fun d e => max d e.1.length) d ∧
        ∀ e ∈ entries, e.1.length ≤ entries.foldl (fun d e => max d e.1.length) d := by
    intro entries
    induction entries with
    | nil => simp
    | cons e rest ih =>
      intro d
      obtain ⟨hd, hrest⟩ := ih (max d e.1.length)
      rw [List.foldl_cons]
      refine ⟨by omega, fun x hx => ?_⟩
      rcases List.mem_cons.mp hx with rfl | hx
      · omega
      · exact hrest x hx
  by_cases hnil : loc = []
  · simp [hnil]
  · simp only [get?, hnil, if_false] at hs
    obtain ⟨e, he, rfl⟩ := (find?_isSome_iff _ _).mp hs
    have hle := (hfold t.entries 0).2 e he
    unfold depth
    omega

/-- A root is walked from where it leads. -/
theorem files_eq {t : FileTree} {root : Path} {top : Location} (h : Rooted t root top)
    (spec : IgnoreSpec) :
    files t spec root = .ok ((below t spec (depth t) top []).map ofNames) := by
  have hresolve := h.resolve
  unfold files
  rw [locate_eq t h.admissible]
  rcases outcome_kept_of_found h.outcome with hkept | ⟨loc, target, hkept⟩
  · rw [hkept]
  · rw [hkept]
    simp only [hresolve]

/-- Selected are the files of the tree that no rule leaves out on the way. -/
theorem mem_files_iff {t : FileTree} {spec : IgnoreSpec} {root : Path} {top : Location}
    (h : Rooted t root top) {selected : List String} (hs : files t spec root = .ok selected)
    {relative : String} : relative ∈ selected ↔ ∃ names, relative = ofNames names ∧
      Passes spec [] names ∧ ∃ bytes, t.get? (top ++ names) = some (.file bytes) := by
  rw [files_eq h] at hs
  rw [← Except.ok.inj hs, List.mem_map]
  constructor
  · rintro ⟨names, hnames, rfl⟩
    obtain ⟨_, rfl, -, hpass, hfile⟩ := (mem_below_iff h.wellFormed).mp hnames
    exact ⟨_, rfl, hpass, hfile⟩
  · rintro ⟨names, rfl, hpass, bytes, hfile⟩
    have hdeep : (top ++ names).length ≤ depth t := length_le_depth (by simp [hfile])
    rw [List.length_append] at hdeep
    exact ⟨names, (mem_below_iff h.wellFormed).mpr
      ⟨names, rfl, by omega, hpass, bytes, hfile⟩, rfl⟩

theorem Passes.ne_nil {spec : IgnoreSpec} {names rest : List String}
    (h : Passes spec names rest) : rest ≠ [] := by
  rintro rfl
  exact h

/-- Every selected file is a file of the tree, by names that a file may have. -/
theorem exists_names_of_mem_files {t : FileTree} {spec : IgnoreSpec} {root : Path} {top : Location}
    (h : Rooted t root top) {selected : List String} (hs : files t spec root = .ok selected)
    {relative : String} (hr : relative ∈ selected) :
    ∃ names bytes, names ≠ [] ∧ relative = ofNames names ∧
      t.get? (top ++ names) = some (.file bytes) := by
  obtain ⟨names, rfl, hpass, bytes, hfile⟩ := (mem_files_iff h hs).mp hr
  exact ⟨names, bytes, hpass.ne_nil, rfl, hfile⟩

/-- Of selected files those of a kind are the same in trees that have the same files of it, as far
as no rule leaves them out. -/
theorem filter_below_congr {t u : FileTree} (ht : WellFormed t) (hu : WellFormed u)
    (spec : IgnoreSpec) (top : Location) (p : List String → Bool)
    (h : ∀ names, p names = true → Passes spec [] names →
      ((∃ bytes, t.get? (top ++ names) = some (.file bytes)) ↔
        ∃ bytes, u.get? (top ++ names) = some (.file bytes))) :
    (below u spec (depth u) top []).filter p = (below t spec (depth t) top []).filter p := by
  have hdeep : ∀ {w : FileTree} {names : List String},
      (∃ bytes, w.get? (top ++ names) = some (.file bytes)) → names.length ≤ depth w := by
    rintro w names ⟨bytes, hfile⟩
    have hle : (top ++ names).length ≤ depth w := length_le_depth (by simp [hfile])
    simp only [List.length_append] at hle
    omega
  apply List.Pairwise.eq_of_mem_iff ((sorted_below hu spec _ top []).filter p)
    ((sorted_below ht spec _ top []).filter p)
  intro path
  simp only [List.mem_filter, mem_below_iff ht, mem_below_iff hu, List.nil_append]
  constructor
  · rintro ⟨⟨names, rfl, -, hpass, hfile⟩, hp⟩
    have hfile' := (h path hp hpass).mpr hfile
    exact ⟨⟨path, rfl, hdeep hfile', hpass, hfile'⟩, hp⟩
  · rintro ⟨⟨names, rfl, -, hpass, hfile⟩, hp⟩
    have hfile' := (h path hp hpass).mp hfile
    exact ⟨⟨path, rfl, hdeep hfile', hpass, hfile'⟩, hp⟩

theorem backslash_notMem_of_mem_files {t : FileTree} {spec : IgnoreSpec} {root : Path}
    {top : Location} (h : Rooted t root top) (hfree : t.BackslashFree)
    {selected : List String} (hs : files t spec root = .ok selected) {relative : String}
    (hr : relative ∈ selected) : '\\' ∉ relative.toList := by
  obtain ⟨names, bytes, -, rfl, hfile⟩ := exists_names_of_mem_files h hs hr
  intro hc
  rcases mem_ofNames hc with hc | ⟨n, hn, hc⟩
  · exact absurd hc (by decide)
  · exact hfree (top ++ names) (by simp [hfile]) n (List.mem_append_right _ hn) hc

end Selection
end Stencil
