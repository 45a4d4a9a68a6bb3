import Stencil.Proofs.FileTree.Respelling
import Stencil.Proofs.Locator.Pointer
import Stencil.Proofs.Marker.Literal
import Stencil.Proofs.Run.Keys

/-! Children and what they point at. Main statement: a pointer is told by the file that it reaches and
not by its spelling; a file that is not really below the root is refused, and no run renders the text
of such a file. -/
namespace Stencil
namespace Run

open FileTree Lockfile Stencil.Path

variable {ω : Type} {t : FileTree} {root : Path} {context : KeyMap Json} {engine : Engine}
  {o : Options} {s : Setting} {files : List String}

/-! ## Texts that a run renders -/

/-- Both engines render alike what the files below a location hold. -/
def RendersAlike (t : FileTree) (top : Location) (context : KeyMap Json)
    (engine engine' : Engine) : Prop :=
  ∀ names bytes text, t.get? (top ++ names) = some (.file bytes) → decode bytes = .ok text →
    engine' text context = engine text context

theorem render_congr {engine' : Engine} {located : Located} (renders : KeyMap Rendered)
    (h : engine' located.text s.context = s.engine located.text s.context) :
    render { s with engine := engine' } located renders = render s located renders := by
  rw [render, render]
  simp only [h]

theorem step_congr {engine' : Engine} (p : Progress) {relative : String}
    (h : ∀ located, s.locator.locate s.tree relative = .ok (some located) →
      engine' located.text s.context = s.engine located.text s.context) :
    step { s with engine := engine' } p relative = step s p relative := by
  rw [step, step]
  cases hl : s.locator.locate s.tree relative with
  | error f => rfl
  | ok found =>
    cases found with
    | none => rfl
    | some located =>
      have hrender := render_congr p.renders (h located hl)
      simp only [record, hrender]
      rfl

theorem collect_congr {engine' : Engine} (index : Nat) (p : Progress)
    (h : ∀ relative ∈ files, ∀ located, s.locator.locate s.tree relative = .ok (some located) →
      engine' located.text s.context = s.engine located.text s.context) :
    collect { s with engine := engine' } index p files = collect s index p files := by
  induction files generalizing index p with
  | nil => rfl
  | cons relative rest ih =>
    rw [collect, collect, step_congr p (h relative (by simp))]
    simp only [ih _ _ fun x hx => h x (List.mem_cons_of_mem _ hx)]

/-- The engine takes no part in what a run is prepared to. -/
theorem prepare_withEngine (engine engine' : Engine) :
    prepare t root context engine' o =
      (prepare t root context engine o).map fun s => { s with engine := engine' } := by
  rw [prepare, prepare]
  cases validateRoot t root with
  | error f => rfl
  | ok _ =>
    cases Marker.read o.templateMatcher with
    | error f => rfl
    | ok marker =>
      simp only [bind, Except.bind]
      cases Locator.create t root marker o.childFlag with
      | error f => rfl
      | ok locator => cases IgnoreSpec.build t root o.ignoreFiles o.exclude <;> rfl

/-- A template's text is that of a file really below the root. -/
theorem exists_file_of_locate (hp : prepare t root context engine o = .ok s) (hw : WellFormed t)
    (hfiles : Selection.files t s.ignore root = .ok files) {relative : String}
    (hmem : relative ∈ files) {located : Located}
    (h : s.locator.locate t relative = .ok (some located)) :
    ∃ names bytes, t.get? (s.locator.location ++ names) = some (.file bytes) ∧
      decode bytes = .ok located.text := by
  have hfinds := Locator.locate_eq_some_iff.mp h
  have hr := rooted_of_prepare hp hw
  rw [← (locatorRoot_of_prepare hp).trans (root_of_prepare hp)] at hr hfiles
  obtain ⟨names, hnamed⟩ := hfinds.exists_namedBy hr hfiles hmem
  obtain ⟨bytes, hentry, hdecode⟩ := (FileTree.readText_eq_ok_iff _ _).mp hfinds.readText
  rw [entryAt?_eq hw, hnamed.target?, Option.bind_some] at hentry
  exact ⟨names, bytes, hentry, hdecode⟩

/-- A run renders nothing but what files hold that are really below its root. -/
theorem run_of_rendersAlike {top : Location} (hr : Rooted t root top) {engine' : Engine}
    (h : RendersAlike t top context engine engine') (w : Writer ω) (state : ω) :
    run w t root context engine' o state = run w t root context engine o state := by
  rw [run, run, prepare_withEngine engine engine']
  cases hp : prepare t root context engine o with
  | error f => rfl
  | ok s =>
    have htop : s.locator.location = top :=
      Option.some.inj ((rooted_of_prepare hp hr.wellFormed).target?.symm.trans hr.target?)
    simp only [Except.map]
    cases hfiles : Selection.files t s.ignore root with
    | error f => rfl
    | ok files =>
      have hcollect : ∀ p, collect { s with engine := engine' } 0 p files = collect s 0 p files := by
        refine fun p => collect_congr 0 p fun relative hmem located hl => ?_
        rw [tree_of_prepare hp] at hl
        obtain ⟨names, bytes, hfile, hdecode⟩ :=
          exists_file_of_locate hp hr.wellFormed hfiles hmem hl
        rw [context_of_prepare hp, engine_of_prepare hp]
        exact h names bytes _ (htop ▸ hfile) hdecode
      simp only [onFiles, hcollect]

/-! ## What a pointer comes to -/

/-- A child whose pointer is a link to a template in another directory. -/
def linked : FileTree := ⟨["w"], [(["w"], .directory), (["w", "templates"], .directory),
  (["w", "templates", "base.txt"], .file "x".toUTF8), (["w", "k"], .link "templates/base.txt"),
  (["w", "a.etch.txt"], .file "!etch:child k".toUTF8)]⟩

def etchMarker : Marker := ⟨Regex.between "etch".toList, Regex.behind "etch".toList⟩

def locatorAt (root : Path) : Locator := ⟨root, ["w"], etchMarker, "!etch:child"⟩

theorem wellFormed_linked : WellFormed linked := .of_entries rfl (by decide)

theorem outputName_etchMarker :
    (Path.mk "a.etch.txt").fileName?.bind etchMarker.outputName = some "a.txt" := by
  have hname : (Path.mk (ofNames ([] ++ ["a.etch.txt"]))).fileName? = some "a.etch.txt" :=
    fileName?_ofNames_concat (by decide)
  rw [List.nil_append, ofNames_singleton] at hname
  rw [hname, Option.bind_some, Marker.outputName, etchMarker,
    Marker.unmarked?_eq (by decide) (by decide)]
  decide

theorem isChildText_linked : Locator.IsChildText "!etch:child" "!etch:child k" "k" :=
  ⟨by decide, by decide, by decide, by decide, "", " ", "", by decide, by decide, by decide,
    by decide⟩

/-- The working directory by so many dots that a path can hardly get longer. -/
def longRoot : Path := dots 2039

theorem resolve_longRoot {name : String} {loc : Location} {entry : Entry} (hname : IsName name)
    (hnul : '\x00' ∉ name.toList) (hsize : 2 * 2039 + 2 + name.utf8ByteSize < maxPath)
    (hentry : (linked.outcome .followed ⟨maxLinks, ["w"], [name]⟩).entryAt? = some entry)
    (htarget : (linked.outcome .followed ⟨maxLinks, ["w"], [name]⟩).target? = some loc) :
    linked.resolve (longRoot.join name) = .found loc entry := by
  have ha : Admissible (longRoot.join name) := admissible_dots_join hname.not_startsWith hnul hsize
  have hout : linked.outcome .followed (linked.outset (longRoot.join name)) =
      linked.outcome .followed ⟨maxLinks, ["w"], [name]⟩ :=
    outcome_dots_join wellFormed_linked (by decide) hname
  refine resolve_eq_found ?_ ?_
  · rw [entryAt?_eq_outcome ha, hout, hentry]
  · rw [target?_eq linked ha, hout, htarget]

end Run
end Stencil
