import Stencil.Proofs.FileTree.Replacement

/-! Files below a root, by the names that lead down to them. -/
namespace Stencil
namespace FileTree

open Stencil.Path Relation

variable {t : FileTree} {root : Path} {top : Location} {names : List String}

namespace Rooted

/-- Without what is idle at its end the root leads to the same directory. -/
theorem exists_steps (h : Rooted t root top) : ∃ k, Steps t .followed
    ⟨maxLinks, start t.workDir root.text, kept root.text.toList⟩ ⟨k, top, []⟩ := by
  have hout := h.outcome
  rw [outset] at hout
  rcases steps_cases root.text with hs | hs
  · rw [hs, ← List.append_nil (kept _)] at hout
    exact exists_steps_of_directory (by simp) hout
  · rw [hs] at hout
    exact exists_steps_of_directory (by simp) hout

theorem outset_join (h : Rooted t root top) (hn : ∀ n ∈ names, IsName n) (hne : names ≠ []) :
    t.outset (root.join (ofNames names)) =
      ⟨maxLinks, start t.workDir root.text, kept root.text.toList ++ names⟩ := by
  have hroot := h.admissible.ne_empty
  have hstart := ofNames_not_startsWith hn
  have hlast : (cut (ofNames names).toList).getLast? ≠ some "" := by
    rw [cut_ofNames (fun n hmem => (hn n hmem).slash_notMem) hne]
    intro hlast
    exact (hn _ (List.mem_of_getLast? hlast)).ne_empty rfl
  rw [outset, steps_join hroot hstart hlast, kept_ofNames hn,
    start_congr (startsWith_join hroot hstart)]

/-- Names that lead down to a file lead there from the root. -/
theorem outcome_join (h : Rooted t root top) {bytes : ByteArray} (hne : names ≠ [])
    (hfile : t.get? (top ++ names) = some (.file bytes)) :
    t.outcome .followed (t.outset (root.join (ofNames names))) =
      .found (top ++ names) (.file bytes) := by
  have hthere : (t.get? (top ++ names)).isSome := by simp [hfile]
  have hnames : ∀ n ∈ names, IsName n := fun n hn =>
    h.wellFormed.names_of_isSome hthere n (List.mem_append_right _ hn)
  obtain ⟨k, hsteps⟩ := h.exists_steps
  rw [h.outset_join hnames hne]
  obtain ⟨init, name, rfl⟩ : ∃ init name, names = init ++ [name] :=
    ⟨names.dropLast, names.getLast hne, (List.dropLast_append_getLast hne).symm⟩
  have hname : IsName name := hnames name (by simp)
  have hinit : t.get? (top ++ init) = some .directory :=
    h.wellFormed.above (top ++ init) name (by simp [hfile])
  have hfirst := hsteps.append (Extends.followed (init ++ [name]))
  have hsecond := steps_names (e := .followed) (n := k) (q := [name]) h.wellFormed hinit
    (fun n hn => hnames n (by simp [hn])) (by simp [hname.ne_empty])
  have hlooks : Looks .followed name [] :=
    ⟨by simp [hname.ne_dot, hname.ne_empty], hname.ne_dots, by simp, hname.short⟩
  rw [outcome_of_steps (hfirst.trans hsecond), ← List.append_assoc]
  rw [← List.append_assoc] at hfile
  exact outcome_of_ends (.file hlooks hfile)

theorem target?_join (h : Rooted t root top) {bytes : ByteArray} (hne : names ≠ [])
    (hfile : t.get? (top ++ names) = some (.file bytes))
    (ha : Admissible (root.join (ofNames names))) :
    t.target? (root.join (ofNames names)) .followed = some (top ++ names) := by
  rw [FileTree.target?_eq t ha, h.outcome_join hne hfile]
  rfl

theorem entryAt?_join (h : Rooted t root top) {bytes : ByteArray} (hne : names ≠ [])
    (hfile : t.get? (top ++ names) = some (.file bytes))
    (ha : Admissible (root.join (ofNames names))) :
    t.entryAt? (root.join (ofNames names)) = some (.file bytes) := by
  rw [entryAt?_eq_outcome ha, h.outcome_join hne hfile]
  rfl

/-- A link in a root by which a file is found leads to a file. -/
theorem exists_takesFile_of_link (h : Rooted t root top) {name text : String} {bytes : ByteArray}
    (hname : IsName name) (hl : t.get? (top ++ [name]) = some (.link text))
    (he : t.entryAt? (root.join name) = some (.file bytes)) :
    ∃ n, (t.outcome .followed ⟨n, start top text, steps text⟩).TakesFile := by
  obtain ⟨k, hsteps⟩ := h.exists_steps
  have houtset : t.outset (root.join name) =
      ⟨maxLinks, start t.workDir root.text, kept root.text.toList ++ [name]⟩ := by
    rw [← h.outset_join (by simpa using hname) (by simp), ofNames_singleton]
  have hlooks : Looks .followed name [] :=
    ⟨by simp [hname.ne_dot, hname.ne_empty], hname.ne_dots, by simp, hname.short⟩
  rw [entryAt?_eq_outcome (admissible_of_isSome (Option.isSome_of_eq_some he)), houtset,
    outcome_of_steps (hsteps.append (Extends.followed [name])), List.nil_append,
    outcome_of_looks t hlooks, hl] at he
  cases k with
  | zero => simp [Place.entryAt?] at he
  | succ n =>
    simp only [List.append_nil, reduceCtorEq, and_false, if_false] at he
    refine ⟨n, ?_⟩
    cases hout : t.outcome .followed ⟨n, start top text, steps text⟩ with
    | found loc entry =>
      rw [hout] at he
      obtain rfl : entry = .file bytes := Option.some.inj he
      trivial
    | vacant dir name => trivial
    | failed kind => simp [hout, Place.entryAt?] at he

/-- A directory below a root is a root itself. -/
theorem below (h : Rooted t root top) (hdir : t.get? (top ++ names) = some .directory)
    (ha : Admissible (root.join (ofNames names))) :
    Rooted t (root.join (ofNames names)) (top ++ names) := by
  have hroot := h.admissible.ne_empty
  have hn : ∀ n ∈ names, IsName n := fun n hmem =>
    h.wellFormed.names_of_isSome (Option.isSome_of_eq_some hdir) n (by simp [hmem])
  have hstart := ofNames_not_startsWith hn
  obtain ⟨k, hsteps⟩ := h.exists_steps
  have hnames := steps_names (e := .followed) (n := k) (q := []) h.wellFormed hdir hn (by simp)
  rw [List.append_nil] at hnames
  have hall : Steps t .followed
      ⟨maxLinks, start t.workDir root.text, kept root.text.toList ++ names⟩ ⟨k, top ++ names, []⟩ :=
    (hsteps.append (Extends.followed names)).trans hnames
  refine ⟨h.wellFormed, ?_⟩
  rw [FileTree.resolve, locate_eq t ha, FileTree.outset, start_congr (startsWith_join hroot hstart)]
  rcases steps_cases (root.join (ofNames names)).text with hs | hs
  · rw [hs, kept_join hroot hstart, kept_ofNames hn, outcome_of_steps hall]
    exact outcome_of_ends .here
  · rw [hs, kept_join hroot hstart, kept_ofNames hn,
      outcome_of_steps (Steps.append (Extends.followed [""]) hall)]
    exact outcome_idle (by simp)

/-- A path that is put in the place of a file leads to the directory of the file. -/
theorem exists_steps_withFileName (h : Rooted t root top) {name out : String} (hname : IsName name)
    (hne : out ≠ "") (hslash : '/' ∉ out.toList) :
    ∃ k, ∀ e, Steps t e (t.outset ((root.join name).withFileName out)) ⟨k, top, [out]⟩ := by
  have hroot := h.admissible.ne_empty
  have hidle := withoutIdle_ne_empty hroot
  have hstart : ¬ out.startsWith "/" := not_startsWith_of_notMem hslash
  obtain ⟨dots, hdots, hkept⟩ := exists_kept_withoutIdle root
  obtain ⟨n, hn⟩ := h.exists_steps
  have hout : t.outcome .followed ⟨maxLinks, start t.workDir root.text,
      kept root.withoutIdle.text.toList ++ dots⟩ = .found top .directory := by
    rw [← hkept, outcome_of_steps hn]
    exact outcome_of_ends .here
  obtain ⟨k, hsteps⟩ := exists_steps_of_directory (fun s hs => .inl (hdots s hs)) hout
  refine ⟨k, fun e => ?_⟩
  have houtset : t.outset ((root.join name).withFileName out) =
      ⟨maxLinks, start t.workDir root.text, kept root.withoutIdle.text.toList ++ [out]⟩ := by
    rw [withFileName_join root hname.isEntry, outset,
      steps_join hidle hstart (by simp [cut_of_notMem hslash, hne]), kept_of_notMem hslash hne,
      start_congr ((startsWith_join hidle hstart).trans (startsWith_withoutIdle root))]
  rw [houtset]
  generalize kept root.withoutIdle.text.toList = into at hsteps
  exact hsteps.append (Extends.of_getLast? _ _ (by simp) (by simp [hne]))

end Rooted

/-- A file is written right under the last name of its path, or what has that name is a link. -/
theorem eq_or_link_of_target?_written (hw : WellFormed t) {p : Path} {out : String} {k : Nat}
    (hsteps : ∀ e, Steps t e (t.outset p) ⟨k, top, [out]⟩) (htop : t.get? top = some .directory)
    (hne : out ≠ "") (hdot : out ≠ ".") {loc : Location} (htarget : t.target? p .written = some loc)
    (hfree : t.get? loc ≠ some .directory) :
    loc = top ++ [out] ∨ ∃ text, t.locate p .kept = .found (top ++ [out]) (.link text) := by
  have ha := admissible_of_target? htarget
  rw [target?_eq t ha, outcome_of_steps (hsteps .written)] at htarget
  have hidle : ¬ (out = "." ∨ out = "") := by simp [hne, hdot]
  by_cases hup : out = ".."
  · subst hup
    rw [outcome_of_step .up, outcome_of_ends .here] at htarget
    obtain rfl : top.dropLast = loc := Option.some.inj htarget
    exact absurd (hw.directory_dropLast htop) hfree
  by_cases hlooks : Looks .written out []
  · rw [outcome_of_looks t hlooks] at htarget
    cases hg : t.get? (top ++ [out]) with
    | none => exact .inl (by simpa [hg, Place.target?, eq_comm] using htarget)
    | some entry =>
      cases entry with
      | file bytes => exact .inl (by simpa [hg, Place.target?, eq_comm] using htarget)
      | directory =>
        simp only [hg] at htarget
        rw [outcome_of_ends .here] at htarget
        exact .inl (Option.some.inj htarget).symm
      | link text =>
        have hkept : Looks .kept out [] := ⟨hidle, hup, by simp, hlooks.short⟩
        refine .inr ⟨text, ?_⟩
        rw [locate_eq t ha, outcome_of_steps (hsteps .kept), outcome_of_looks t hkept, hg]
        rfl
  · obtain ⟨kind, hkind⟩ := outcome_of_not_looks hidle hup hlooks
    simp [hkind, Place.target?] at htarget

/-- A temporary sibling is written right beside its file, or it is a link. -/
theorem Rooted.eq_or_link_sibling (h : Rooted t root top) {name : String}
    (hname : IsReplaceable name) {loc : Location}
    (htarget : t.target? (temporaryFor (root.join name)) .written = some loc)
    (hfree : t.get? loc ≠ some .directory) : loc = top ++ [temporaryName name] ∨
      ∃ text, t.locate (temporaryFor (root.join name)) .kept =
        .found (top ++ [temporaryName name]) (.link text) := by
  obtain ⟨into, dots, w⟩ := exists_ways h.admissible.ne_empty hname
  obtain ⟨k, hsteps⟩ := w.exists_steps h
  exact eq_or_link_of_target?_written h.wellFormed (w.steps_sibling hname hsteps) h.directory
    hname.sibling.ne_empty hname.sibling.ne_dot htarget hfree

/-- A temporary sibling that is no link is written right beside its file. -/
theorem Rooted.eq_of_target?_sibling (h : Rooted t root top) {name : String}
    (hname : IsReplaceable name)
    (hlink : ∀ text, t.get? (top ++ [temporaryName name]) ≠ some (.link text)) {loc : Location}
    (htarget : t.target? (temporaryFor (root.join name)) .written = some loc)
    (hfree : t.get? loc ≠ some .directory) : loc = top ++ [temporaryName name] :=
  (h.eq_or_link_sibling hname htarget hfree).resolve_right fun ⟨text, hkept⟩ =>
    hlink text (get?_of_found h.wellFormed hkept)

/-- A file below a root is read alike in trees that have it both. -/
theorem readText_join_congr {u : FileTree} {bytes : ByteArray} (h : Rooted t root top)
    (g : Rooted u root top) (hne : names ≠ []) (hfile : t.get? (top ++ names) = some (.file bytes))
    (hsame : u.get? (top ++ names) = t.get? (top ++ names)) {text : String}
    (hread : t.readText (root.join (ofNames names)) = .ok text) :
    u.readText (root.join (ofNames names)) = .ok text := by
  obtain ⟨old, hold, hdecode⟩ := (readText_eq_ok_iff _ _).mp hread
  have ha := admissible_of_isSome (Option.isSome_of_eq_some hold)
  have hentry := h.entryAt?_join hne hfile ha
  obtain rfl : bytes = old := by simpa using hentry.symm.trans hold
  exact (readText_eq_ok_iff _ _).mpr ⟨bytes, g.entryAt?_join hne (hsame.trans hfile) ha, hdecode⟩

end FileTree
end Stencil
