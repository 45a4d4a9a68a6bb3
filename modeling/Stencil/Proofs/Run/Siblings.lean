import Stencil.Proofs.FileTree.Below
import Stencil.Proofs.Locator
import Stencil.Proofs.Marker
import Stencil.Proofs.Run.Completion

/-! Outputs are written beside the files that they are rendered from, under the names that the
marker leaves. -/
namespace Stencil
namespace Locator

open FileTree Stencil.Path

/-- Where a located file is, and what its output is called. -/
structure Beside (l : Locator) (t : FileTree) (located : Located) (dirs : List String)
    (name out : String) : Prop where
  isName : IsName name
  file : ∃ bytes, t.get? (l.location ++ dirs ++ [name]) = some (.file bytes)
  rooted : Rooted t (l.root.join (ofNames dirs)) (l.location ++ dirs)
  source : located.source = (l.root.join (ofNames dirs)).join name
  output : located.output = located.source.withFileName out
  outputName : l.marker.outputName name = some out

variable {l : Locator} {t : FileTree} {located : Located} {dirs : List String} {name out : String}

/-- The file that something is located in has been read. -/
theorem Finds.exists_readText_source {relative : String} (h : Finds l t relative located) :
    ∃ contents, t.readText located.source = .ok contents := by
  cases h with
  | inPlace _ hread => exact ⟨_, hread⟩
  | child _ hread => exact ⟨_, hread⟩

theorem Finds.admissible_source {relative : String} (h : Finds l t relative located) :
    Admissible located.source := by
  obtain ⟨contents, hread⟩ := h.exists_readText_source
  exact admissible_of_readText hread

/-- What is located in a selected file has its output beside the file. -/
theorem Finds.exists_beside {spec : IgnoreSpec} {files : List String} {relative : String}
    (h : Finds l t relative located) (hr : Rooted t l.root l.location)
    (hs : Selection.files t spec l.root = .ok files) (hmem : relative ∈ files) :
    ∃ dirs name out, Beside l t located dirs name out := by
  obtain ⟨names, bytes, hne, rfl, hfile⟩ := Selection.exists_names_of_mem_files hr hs hmem
  obtain ⟨dirs, name, rfl⟩ : ∃ dirs name, names = dirs ++ [name] :=
    ⟨names.dropLast, names.getLast hne, (List.dropLast_append_getLast hne).symm⟩
  have hnames : ∀ n ∈ dirs ++ [name], IsName n := fun n hn =>
    hr.wellFormed.names_of_isSome (Option.isSome_of_eq_some hfile) n (by simp [hn])
  have hdirs : ∀ n ∈ dirs, IsName n := fun n hn => hnames n (by simp [hn])
  have hname : IsName name := hnames name (by simp)
  have hjoin := join_ofNames_concat hr.admissible.ne_empty hdirs hname
  have hlast := fileName?_ofNames_concat hnames
  rw [← List.append_assoc] at hfile
  have hdir : t.get? (l.location ++ dirs) = some .directory :=
    hr.wellFormed.above _ name (Option.isSome_of_eq_some hfile)
  have ha := h.admissible_source
  rw [h.source_eq, hjoin] at ha
  have hdirne := join_ne_empty hr.admissible.ne_empty (ofNames_not_startsWith hdirs)
  have hrooted := hr.below hdir (ha.of_prefix hdirne (prefix_join _ hname.not_startsWith))
  obtain ⟨name', out, hname', hout, houtput⟩ := h.exists_outputName
  obtain rfl := Option.some.inj (hlast.symm.trans hname')
  exact ⟨dirs, name, out, hname, ⟨bytes, hfile⟩, hrooted, h.source_eq.trans hjoin, houtput, hout⟩

namespace Beside

theorem target?_source (h : Beside l t located dirs name out) (ha : Admissible located.source) :
    t.target? located.source .followed = some (l.location ++ dirs ++ [name]) := by
  obtain ⟨bytes, hfile⟩ := h.file
  have hsource : located.source = (l.root.join (ofNames dirs)).join (ofNames [name]) := by
    rw [ofNames_singleton, h.source]
  rw [hsource] at ha ⊢
  exact h.rooted.target?_join (by simp) hfile ha

/-- An output is written right under its name, or it is a link. -/
theorem eq_or_link (h : Beside l t located dirs name out) {loc : Location}
    (htarget : t.target? located.output .written = some loc)
    (hfree : t.get? loc ≠ some .directory) : loc = l.location ++ dirs ++ [out] ∨
      ∃ text, t.locate located.output .kept =
        .found (l.location ++ dirs ++ [out]) (.link text) := by
  obtain ⟨hne, hdot, hslash⟩ := Marker.outputName_spec h.outputName h.isName.slash_notMem
  obtain ⟨k, hsteps⟩ := h.rooted.exists_steps_withFileName h.isName hne hslash
  rw [← h.source, ← h.output] at hsteps
  exact eq_or_link_of_target?_written h.rooted.wellFormed hsteps h.rooted.directory hne hdot htarget
    hfree

/-- An output that is no link is written right under its name. -/
theorem eq_of_target? (h : Beside l t located dirs name out)
    (hlink : ∀ loc text, t.locate located.output .kept ≠ .found loc (.link text)) {loc : Location}
    (htarget : t.target? located.output .written = some loc)
    (hfree : t.get? loc ≠ some .directory) : loc = l.location ++ dirs ++ [out] :=
  (h.eq_or_link htarget hfree).resolve_right fun ⟨text, hkept⟩ => hlink _ text hkept

/-- Outputs under the same name in the same directory are spelt alike. -/
theorem output_eq {other : Located} {name' : String} (h : Beside l t located dirs name out)
    (h' : Beside l t other dirs name' out) : located.output = other.output := by
  rw [h.output, h'.output, h.source, h'.source, withFileName_join _ h.isName.isEntry,
    withFileName_join _ h'.isName.isEntry]

end Beside
end Locator

namespace Run

open FileTree

/-- What a run locates in a selected file has its output beside the file. -/
theorem exists_beside {t : FileTree} {root : Path} {context : KeyMap Json} {engine : Engine}
    {o : Options} {s : Setting} {files : List String} {relative : String} {located : Located}
    (hw : WellFormed t) (hp : prepare t root context engine o = .ok s)
    (hs : Selection.files t s.ignore root = .ok files) (hr : relative ∈ files)
    (h : IsLocatedIn s relative located) :
    ∃ dirs name out, Locator.Beside s.locator t located dirs name out := by
  have hrooted := rooted_of_prepare hp hw
  have hroot := (locatorRoot_of_prepare hp).trans (root_of_prepare hp)
  obtain rfl := tree_of_prepare hp
  exact (Locator.locate_eq_some_iff.mp h.2).exists_beside (hroot ▸ hrooted) (hroot ▸ hs) hr

end Run
end Stencil
