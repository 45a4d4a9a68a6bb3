import Stencil.Proofs.Run.Templates

/-! Where a run writes. What is read is below the root, links or no links. What is written goes to
paths below the root as well, but a link that has the name of an output, or of the temporary sibling
of the lockfile, is followed wherever it leads. -/
namespace Stencil
namespace Run

open FileTree Lockfile

/-- Every file that is not as it was is below a location. -/
def Confined (top : Location) (t v : FileTree) : Prop :=
  ∀ loc bytes, v.get? loc = some (.file bytes) → t.get? loc ≠ some (.file bytes) → top <+: loc

/-- A path below a location is a link itself. -/
def IsLinkBelow (t : FileTree) (top : Location) (p : Path) : Prop :=
  ∃ loc text, top <+: loc ∧ t.locate p .kept = .found loc (.link text)

/-- What a run hands to the disk one after the other: its outputs, and the document of the lockfile
unless that has been loaded. It is handed to the temporary sibling. -/
def handed (t : FileTree) (root : Path) (o : Options) (qs : List Product) : List (Path × String) :=
  writes t root o qs ++
    if loaded? t root o.force = some (finalLockfile t root o qs) then []
    else [(temporaryIn root, (finalLockfile t root o qs).render)]

/-- Each of the writes leads below a location, or to a place that holds in the end what it held. -/
def KeepsBelow (t : FileTree) (top : Location) (written : List (Path × String)) : Prop :=
  ∀ e ∈ written, ∀ loc, t.target? e.1 .written = some loc →
    top <+: loc ∨ t.lastWritten written loc = t.get? loc

variable {t : FileTree} {root : Path} {context : KeyMap Json} {engine : Engine} {o : Options}
  {s : Setting} {files : List String} {qs : List Product} {loc : Location}

/-- A run that renders leaves what the writes leave that the disk has taken, but for the lockfile and
its temporary sibling, however it ends. -/
theorem exists_writeAll_handed (h : Rendering t root context engine o s files qs)
    (hw : WellFormed t) : ∃ x, t.writeAll (t.accepted (handed t root o qs)) = .ok x ∧
      AgreeBeside s.locator.location x (run Writer.disk t root context engine o ()).tree := by
  obtain ⟨u, hu, hends⟩ := run_disk_of_rendering h
  generalize run Writer.disk t root context engine o () = finished at hends ⊢
  obtain ⟨lines, v, state, result⟩ := finished
  dsimp only at hends ⊢
  rcases hends with ⟨hrefused, -, rfl⟩ | ⟨hall, e, hcommit, -⟩ | ⟨outcome, -, hc⟩
  · refine ⟨v, ?_, fun _ _ _ => rfl⟩
    rw [handed, accepted_append_of_refused hrefused]
    exact hu
  · rw [hall] at hu
    have hwritten := written_of_writeAll hw hu
    have hroot := (h.rooted hw).of_sameFrame hwritten.sameFrame hwritten.wellFormed
    obtain ⟨hunlike, e', hwrite⟩ := exists_of_commit_eq_error hcommit
    rw [handed, if_neg hunlike, accepted_append hu, writeAll_append hu]
    refine ⟨_, writeAll_accepted_singleton _ _ _, fun loc _ hsibling => ?_⟩
    rcases hroot.exists_withdrawn replaceable_fileName hwrite with ⟨hnot, rfl⟩ | ⟨x, hwithdrawn⟩
    · cases htext : v.writeText (temporaryIn root) (finalLockfile t root o qs).render with
      | error e => rfl
      | ok x => exact absurd ⟨x, htext⟩ hnot
    · have htext : u.writeText (temporaryIn root) (finalLockfile t root o qs).render = .ok x :=
        hwithdrawn.written
      rw [hwithdrawn.get?_eq hroot.wellFormed, if_neg hsibling, htext]
      rfl
  · rw [handed]
    rcases hc.unmodified_or_saved hw with ⟨-, hlike, rfl⟩ | ⟨-, hunlike, target, x, hsaved⟩
    · rw [if_pos hlike, List.append_nil, accepted_of_writeAll hc.writes]
      exact ⟨v, hc.writes, fun _ _ _ => rfl⟩
    · rw [if_neg hunlike, accepted_append hc.writes, writeAll_append hc.writes]
      refine ⟨_, writeAll_accepted_singleton _ _ _, fun loc hplace hsibling => ?_⟩
      have htext : u.writeText (temporaryIn root) (finalLockfile t root o qs).render = .ok x :=
        hsaved.writeBytes_eq (hc.written_tree hw).wellFormed
      rw [hsaved.moved.get?_of_ne hplace hsibling, htext]
      rfl

/-- The writes that the disk has taken from a run, with the tree that they leave. -/
theorem exists_written_handed (h : Rendering t root context engine o s files qs)
    (hw : WellFormed t) : ∃ x, Written t x (t.accepted (handed t root o qs)) ∧
      AgreeBeside s.locator.location x (run Writer.disk t root context engine o ()).tree := by
  obtain ⟨x, hx, hagree⟩ := exists_writeAll_handed h hw
  exact ⟨x, written_of_writeAll hw hx, hagree⟩

/-- Outside its root a run leaves what has been written there last, if anything was. -/
theorem get?_of_not_below (h : Rendering t root context engine o s files qs) (hw : WellFormed t)
    (hloc : ¬ s.locator.location <+: loc) :
    (run Writer.disk t root context engine o ()).tree.get? loc =
      (t.lastWritten (t.accepted (handed t root o qs)) loc).or (t.get? loc) := by
  obtain ⟨x, hwritten, hagree⟩ := exists_written_handed h hw
  rw [hagree loc, hwritten.get?_eq]
  · rintro rfl
    exact hloc (List.prefix_append _ _)
  · rintro rfl
    exact hloc (List.prefix_append _ _)

/-- What the disk takes goes below the root, or to where a link leads. -/
theorem below_or_link_of_mem_accepted (h : Rendering t root context engine o s files qs)
    (hw : WellFormed t) {e : Path × String} (he : e ∈ t.accepted (handed t root o qs)) :
    ∃ loc, t.target? e.1 .written = some loc ∧
      (s.locator.location <+: loc ∨ IsLinkBelow t s.locator.location e.1) := by
  obtain ⟨x, hwritten, -⟩ := exists_written_handed h hw
  obtain ⟨loc, hloc, hfree⟩ := hwritten.exists_target he
  refine ⟨loc, hloc, ?_⟩
  rcases List.mem_append.mp ((accepted_isPrefix _ _).subset he) with houtput | hdocument
  · obtain ⟨q, hq, rfl⟩ := List.mem_map.mp houtput
    obtain ⟨relative, hr, hlocated⟩ := exists_of_mem_recalled h.recalled (List.mem_of_mem_filter hq)
    obtain ⟨dirs, name, out, hbeside⟩ := exists_beside hw h.prepared h.selected hr hlocated
    rcases hbeside.eq_or_link hloc hfree with rfl | ⟨text, hkept⟩
    · exact .inl (by simp)
    · exact .inr ⟨_, text, by simp, hkept⟩
  · obtain rfl : e = (temporaryIn root, (finalLockfile t root o qs).render) := by
      split at hdocument
      · simp at hdocument
      · simpa using hdocument
    rcases (h.rooted hw).eq_or_link_sibling replaceable_fileName hloc hfree with
      rfl | ⟨text, hkept⟩
    · exact .inl (List.prefix_append _ _)
    · exact .inr ⟨_, text, List.prefix_append _ _, hkept⟩

/-- A run stays within its root exactly if its writes do, or leave what is there. -/
theorem confined_iff_of_rendering (h : Rendering t root context engine o s files qs)
    (hw : WellFormed t) :
    Confined s.locator.location t (run Writer.disk t root context engine o ()).tree ↔
      KeepsBelow t s.locator.location (t.accepted (handed t root o qs)) := by
  constructor
  · intro hconfined e he loc hloc
    by_contra hn
    obtain ⟨hout, hlast⟩ := not_or.mp hn
    cases hentry : t.lastWritten (t.accepted (handed t root o qs)) loc with
    | none => exact lastWritten_eq_none_iff.mp hentry e he hloc
    | some entry =>
      obtain ⟨f, -, -, rfl⟩ := exists_of_lastWritten hentry
      refine hout (hconfined loc _ ?_ fun hsame => hlast (hentry.trans hsame.symm))
      rw [get?_of_not_below h hw hout, hentry]
      rfl
  · intro hkeeps loc bytes hfile hnew
    by_contra hout
    rw [get?_of_not_below h hw hout] at hfile
    cases hentry : t.lastWritten (t.accepted (handed t root o qs)) loc with
    | none =>
      rw [hentry, Option.none_or] at hfile
      exact hnew hfile
    | some entry =>
      obtain ⟨e, he, hloc, -⟩ := exists_of_lastWritten hentry
      have hlast := (hkeeps e he loc hloc).resolve_left hout
      rw [hlast, Option.or_self] at hfile
      exact hnew hfile

/-- Where no output is a link, nor the temporary sibling of the lockfile, a run stays within its
root. -/
theorem confined_of_not_link (h : Rendering t root context engine o s files qs) (hw : WellFormed t)
    (hlink : ∀ e ∈ t.accepted (handed t root o qs), ¬ IsLinkBelow t s.locator.location e.1) :
    Confined s.locator.location t (run Writer.disk t root context engine o ()).tree := by
  refine (confined_iff_of_rendering h hw).mpr fun e he loc hloc => .inl ?_
  obtain ⟨other, hother, hbelow⟩ := below_or_link_of_mem_accepted h hw he
  obtain rfl := Option.some.inj (hother.symm.trans hloc)
  exact hbelow.resolve_right (hlink e he)

/-- Templates are read below the root. A run that does not render changes nothing. What one that
renders has the disk take, with or without success, goes below the root or to where a link leads that
has the name of an output or of the lockfile's temporary sibling; outside the root that is all it
changes. So every file that it changes is below the root exactly if what is written elsewhere is what
is there. -/
theorem run_confined_iff (hw : WellFormed t) :
    (∀ s files, prepare t root context engine o = .ok s →
      Selection.files t s.ignore root = .ok files →
      t.target? root .followed = some s.locator.location ∧
        ∀ loc, IsTemplateAt s files loc → s.locator.location <+: loc) ∧
    ((¬ ∃ s files qs, Rendering t root context engine o s files qs) →
      (run Writer.disk t root context engine o ()).tree = t) ∧
    ∀ s files qs, Rendering t root context engine o s files qs →
      (∀ e ∈ t.accepted (handed t root o qs), ∃ loc, t.target? e.1 .written = some loc ∧
        (s.locator.location <+: loc ∨ IsLinkBelow t s.locator.location e.1)) ∧
      (∀ loc, ¬ s.locator.location <+: loc →
        (run Writer.disk t root context engine o ()).tree.get? loc =
          (t.lastWritten (t.accepted (handed t root o qs)) loc).or (t.get? loc)) ∧
      (Confined s.locator.location t (run Writer.disk t root context engine o ()).tree ↔
        KeepsBelow t s.locator.location (t.accepted (handed t root o qs))) := by
  refine ⟨fun s files hp hs => ⟨(rooted_of_prepare hp hw).target?, fun loc hloc => ?_⟩,
    fun hnot => ?_, fun s files qs h => ⟨fun e he => below_or_link_of_mem_accepted h hw he,
      fun loc hloc => get?_of_not_below h hw hloc, confined_iff_of_rendering h hw⟩⟩
  · obtain ⟨names, bytes, rfl, -, -⟩ := hloc.exists_names hw hp hs
    exact List.prefix_append _ _
  · obtain ⟨f, -, htree⟩ := run_of_not_rendering hnot Writer.disk ()
    exact htree

/-- A root with a template, a link that has the name of its output, and a file beside the root. -/
def withOutputLink (target : String) : FileTree :=
  ⟨["w"], [(["w"], .directory), (["w", "proj"], .directory),
    (["w", "proj", "a.etch.txt"], .file "new".toUTF8), (["w", "proj", "a.txt"], .link target),
    (["w", "outside.txt"], .file "precious".toUTF8)]⟩

/-- What is located in that root. -/
def belowProj : Product :=
  ⟨⟨⟨"proj/a.etch.txt"⟩, ⟨"proj/a.txt"⟩, ⟨"proj/a.etch.txt"⟩, "a.etch.txt", .inPlace, "new"⟩, "new"⟩

theorem wellFormed_withOutputLink (target : String) : WellFormed (withOutputLink target) :=
  .of_entries rfl (by simp [withOutputLink, get?, find?]; decide)

set_option maxRecDepth 100000

/-- A link that leads back into the root, to a file that is not there yet, does no harm. -/
theorem run_confined_back : ∃ s files qs,
    Rendering (withOutputLink "../proj/b.txt") ⟨"proj"⟩ .empty verbatim {} s files qs ∧
      Confined ["w", "proj"] (withOutputLink "../proj/b.txt")
        (run Writer.disk (withOutputLink "../proj/b.txt") ⟨"proj"⟩ .empty verbatim {} ()).tree := by
  have hrun : (run Writer.disk (withOutputLink "../proj/b.txt") ⟨"proj"⟩ .empty verbatim {} ()).result
      = .ok ⟨[⟨"proj/a.txt"⟩], [], [⟨"proj/a.etch.txt"⟩], true⟩ := by decide +kernel
  obtain ⟨s, files, qs, u, hc⟩ := exists_completed hrun
  obtain rfl : [belowProj] = qs := Eq.trans (by decide +kernel) (products_eq hc.rendering)
  obtain ⟨hread, -, hrendered⟩ := @run_confined_iff (withOutputLink "../proj/b.txt") ⟨"proj"⟩ .empty
    verbatim {} (wellFormed_withOutputLink _)
  obtain ⟨hroot, -⟩ := hread s files hc.rendering.prepared hc.rendering.selected
  have htop : s.locator.location = ["w", "proj"] :=
    Option.some.inj (hroot.symm.trans (by decide +kernel))
  obtain ⟨-, -, hconfined⟩ := hrendered s files _ hc.rendering
  rw [htop] at hconfined
  have hbelow : ∀ e ∈ (withOutputLink "../proj/b.txt").accepted
      (handed (withOutputLink "../proj/b.txt") ⟨"proj"⟩ {} [belowProj]),
      ∀ loc ∈ (withOutputLink "../proj/b.txt").target? e.1 .written, ["w", "proj"] <+: loc := by
    decide +kernel
  exact ⟨s, files, _, hc.rendering,
    hconfined.mpr fun e he loc hloc => .inl (hbelow e he loc hloc)⟩

/-- Through a link that has the name of an output a file outside the root is written over. -/
theorem output_link_not_confined :
    ¬ ∀ (t : FileTree) (root : Path) (context : KeyMap Json) (engine : Engine) (o : Options)
      (top : Location), WellFormed t → t.target? root .followed = some top →
      Confined top t (run Writer.disk t root context engine o ()).tree := by
  intro h
  have hconfined := h (withOutputLink "../outside.txt") ⟨"proj"⟩ .empty verbatim {} ["w", "proj"]
    (wellFormed_withOutputLink _) (by decide +kernel) ["w", "outside.txt"] "new".toUTF8
    (by decide +kernel) (by decide +kernel)
  exact absurd hconfined (by decide)

end Run
end Stencil
