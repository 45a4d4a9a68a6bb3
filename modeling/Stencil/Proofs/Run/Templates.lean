import Stencil.Proofs.Run.Keys
import Stencil.Proofs.Run.OutputsLeft
import Stencil.Proofs.Run.Siblings

/-! What a run leaves of its own templates. Outputs go beside templates and are named like them, so
an output may be another template; and so may the lockfile and its temporary sibling. -/
namespace Stencil
namespace Run

open FileTree Lockfile Stencil.Path

/-- A template is located in a file here, or a located file points here. -/
def IsTemplateAt (s : Setting) (files : List String) (loc : Location) : Prop :=
  ∃ relative ∈ files, ∃ a, IsLocatedIn s relative a ∧
    (s.tree.target? a.source .followed = some loc ∨
      s.tree.target? a.rootTemplate .followed = some loc)

variable {t v : FileTree} {root : Path} {context : KeyMap Json} {engine : Engine} {o : Options}
  {s : Setting} {files : List String} {qs : List Product} {loc : Location}

/-- In a run that renders, the places of templates are those of its products. -/
theorem isTemplateAt_iff (h : recalled s [] files = .ok qs) :
    IsTemplateAt s files loc ↔ ∃ q ∈ qs,
      s.tree.target? q.located.source .followed = some loc ∨
        s.tree.target? q.located.rootTemplate .followed = some loc := by
  constructor
  · rintro ⟨relative, hr, a, ⟨hlock, hlocate⟩, hloc⟩
    have hfinds := Locator.locate_eq_some_iff.mp hlocate
    obtain ⟨q, hq, hlocate'⟩ := exists_mem_of_isSource h hr (isSource_of_finds hlock hfinds)
    obtain rfl := hfinds.unique (Locator.locate_eq_some_iff.mp hlocate')
    exact ⟨q, hq, hloc⟩
  · rintro ⟨q, hq, hloc⟩
    obtain ⟨relative, hr, hlocated⟩ := exists_of_mem_recalled h hq
    exact ⟨relative, hr, q.located, hlocated, hloc⟩

/-- A template is a file below the root, and the path by which it is read leads down to it. -/
theorem IsTemplateAt.exists_names (h : IsTemplateAt s files loc) (hw : WellFormed t)
    (hp : prepare t root context engine o = .ok s)
    (hs : Selection.files t s.ignore root = .ok files) :
    ∃ names bytes, loc = s.locator.location ++ names ∧ t.get? loc = some (.file bytes) ∧
      Admissible (root.join (ofNames names)) := by
  obtain ⟨relative, hr, a, ⟨-, hlocate⟩, hloc⟩ := h
  obtain ⟨names', hnamed⟩ := exists_namedBy hw hp hs ⟨relative, hr, hlocate⟩
  have hrooted := rooted_of_prepare hp hw
  have hroot := locatorRoot_of_prepare hp
  obtain rfl := tree_of_prepare hp
  obtain rfl := root_of_prepare hp
  have hfinds := Locator.locate_eq_some_iff.mp hlocate
  rcases hloc with hloc | hloc
  · obtain ⟨names, bytes, hne, rfl, hfile⟩ := Selection.exists_names_of_mem_files hrooted hs hr
    have hsource : a.source = s.root.join (ofNames names) := hroot ▸ hfinds.source_eq
    have ha := admissible_of_target? hloc
    rw [hsource] at ha hloc
    obtain rfl := Option.some.inj ((hrooted.target?_join hne hfile ha).symm.trans hloc)
    exact ⟨names, bytes, rfl, hfile, ha⟩
  · have ha := admissible_of_target? hloc
    rw [hnamed.rootTemplate, hroot] at ha
    obtain ⟨bytes, hbytes, -⟩ := (FileTree.readText_eq_ok_iff _ _).mp hfinds.readText
    obtain rfl := Option.some.inj (hnamed.target?.symm.trans hloc)
    rw [entryAt?_eq hw, hnamed.target?] at hbytes
    exact ⟨names', bytes, rfl, hbytes, ha⟩

/-- A run goes on to save a lockfile: every output has been written, and what was loaded is not what
is on record now. -/
structure GoesOnToSave (t : FileTree) (root : Path) (o : Options) (qs : List Product) : Prop where
  accepted : t.accepted (writes t root o qs) = writes t root o qs
  unlike : loaded? t root o.force ≠ some (finalLockfile t root o qs)

/-- A run has saved its lockfile. -/
def HasSaved (result : Except Failure Outcome) : Prop :=
  ∃ outcome, result = .ok outcome ∧ outcome.lockfileModified = true

@[simp] theorem not_hasSaved_error (f : Failure) : ¬ HasSaved (.error f) := by
  simp [HasSaved]

@[simp] theorem hasSaved_ok_iff (outcome : Outcome) :
    HasSaved (.ok outcome) ↔ outcome.lockfileModified = true := by
  simp [HasSaved]

/-- How a run may leave a place. -/
inductive LeftAt (t : FileTree) (root : Path) (top : Location) (o : Options) (qs : List Product)
    (result : Except Failure Outcome) (loc : Location) : Option Entry → Prop
  /-- It is the place of the temporary sibling of the lockfile. -/
  | sibling (hsave : GoesOnToSave t root o qs) (hloc : loc = top ++ [temporaryName fileName]) :
      LeftAt t root top o qs result loc none
  /-- It is the place of the lockfile. -/
  | lockfile (hsaved : HasSaved result) (hloc : loc = top ++ [fileName]) :
      LeftAt t root top o qs result loc (some (.file (finalLockfile t root o qs).render.toUTF8))
  /-- It has what was written there, if anything was. -/
  | rest (hsave : ¬ (GoesOnToSave t root o qs ∧ loc = top ++ [temporaryName fileName]))
      (hsaved : ¬ (HasSaved result ∧ loc = top ++ [fileName])) :
      LeftAt t root top o qs result loc
        ((t.lastWritten (t.accepted (writes t root o qs)) loc).or (t.get? loc))

/-- Where a lockfile cannot be saved, a file below the root is left unless it is the temporary
sibling of the lockfile. -/
theorem get?_of_commit_failed {u v : FileTree} {top : Location} {names : List String}
    {onDisk : Option Lockfile} {l : Lockfile} {e : Problem} {bytes : ByteArray}
    (hr : Rooted u root top) (hfree : u.LinkFree)
    (hfile : u.get? (top ++ names) = some (.file bytes))
    (ha : Admissible (root.join (ofNames names)))
    (hcommit : (Cache.mk (Cache.pathIn root) onDisk l .empty).commit u = (v, .error e)) :
    v.get? (top ++ names) =
      if top ++ names = top ++ [temporaryName fileName] then none else u.get? (top ++ names) := by
  obtain ⟨-, e', hwrite⟩ := exists_of_commit_eq_error hcommit
  rcases hr.get?_of_atomicWrite_failed replaceable_fileName hfree hwrite with ⟨hnot, rfl⟩ | hgone
  · rw [if_neg]
    intro hsibling
    obtain rfl := List.append_cancel_left hsibling
    rw [ofNames_singleton] at ha
    exact hnot (hr.exists_writeBytes_sibling replaceable_fileName hfile ha)
  · exact hgone _

/-- How a run that renders, with or without success, leaves the place of a template. -/
theorem leftAt_of_isTemplateAt (h : Rendering t root context engine o s files qs)
    (hw : WellFormed t) (hfree : t.LinkFree) (hloc : IsTemplateAt s files loc) :
    LeftAt t root s.locator.location o qs (run Writer.disk t root context engine o ()).result loc
      ((run Writer.disk t root context engine o ()).tree.get? loc) := by
  obtain ⟨u, hu, hends⟩ := run_disk_of_rendering h
  have hwritten := written_of_writeAll hw hu
  have hframe := hwritten.sameFrame
  generalize run Writer.disk t root context engine o () = finished at hends ⊢
  obtain ⟨lines, v, state, result⟩ := finished
  dsimp only at hends ⊢
  rcases hends with ⟨hrefused, ⟨f, rfl⟩, rfl⟩ | ⟨hall, e, hcommit, f, rfl⟩ | ⟨outcome, rfl, hc⟩
  · rw [hwritten.get?_eq]
    exact .rest (fun hs => hrefused hs.1.accepted) (by simp)
  · obtain ⟨names, bytes, rfl, hfile, ha⟩ := hloc.exists_names hw h.prepared h.selected
    obtain ⟨bytes', hfile'⟩ := hwritten.exists_get?_file hfile
    rw [get?_of_commit_failed ((h.rooted hw).of_sameFrame hframe hwritten.wellFormed)
      (hframe.linkFree hfree) hfile' ha hcommit]
    split
    · next hsibling => exact .sibling ⟨hall, (exists_of_commit_eq_error hcommit).1⟩ hsibling
    · next hsibling =>
      rw [hwritten.get?_eq]
      exact .rest (fun hs => hsibling hs.2) (by simp)
  · rw [hc.get?_left hw hfree]
    rcases hc.unmodified_or_saved hw with ⟨hm, hlike, -⟩ | ⟨hm, hunlike, -⟩
    · rw [if_neg (by simp [hm]), hwritten.get?_eq]
      exact .rest (fun hs => hs.1.unlike hlike) (by simp [hm])
    · rw [if_pos hm]
      split
      · next hplace => exact .lockfile ((hasSaved_ok_iff _).mpr hm) hplace
      · next hplace =>
        split
        · next hsibling => exact .sibling ⟨accepted_of_writeAll hc.writes, hunlike⟩ hsibling
        · next hsibling =>
          rw [hwritten.get?_eq]
          exact .rest (fun hs => hsibling hs.2) (fun hs => hplace hs.2)

/-- Nothing that a run puts into the tree or takes out of it changes a template. -/
structure SparesTemplates (t : FileTree) (root : Path) (o : Options) (s : Setting)
    (files : List String) (qs : List Product) (result : Except Failure Outcome) : Prop where
  outputs : ∀ loc, IsTemplateAt s files loc →
    ¬ (HasSaved result ∧ loc = s.locator.location ++ [fileName]) →
    ∀ entry, t.lastWritten (t.accepted (writes t root o qs)) loc = some entry →
      t.get? loc = some entry
  sibling : GoesOnToSave t root o qs →
    ¬ IsTemplateAt s files (s.locator.location ++ [temporaryName fileName])
  lockfile : HasSaved result → IsTemplateAt s files (s.locator.location ++ [fileName]) →
    t.get? (s.locator.location ++ [fileName]) =
      some (.file (finalLockfile t root o qs).render.toUTF8)

/-- Templates that are left one by one are all kept exactly if they are spared. -/
theorem kept_iff_of_leftAt {result : Except Failure Outcome}
    (hthere : ∀ loc, IsTemplateAt s files loc → t.get? loc ≠ none)
    (hleft : ∀ loc, IsTemplateAt s files loc →
      LeftAt t root s.locator.location o qs result loc (v.get? loc)) :
    (∀ loc, IsTemplateAt s files loc → v.get? loc = t.get? loc) ↔
      SparesTemplates t root o s files qs result := by
  have hne : temporaryName fileName ≠ fileName := temporaryName_ne fileName
  constructor
  · intro hkept
    refine ⟨fun loc hloc hplace entry hentry => ?_, fun hsave hloc => ?_, fun hsaved hloc => ?_⟩
    · have hl := hleft loc hloc
      rw [hkept loc hloc] at hl
      generalize hwas : t.get? loc = was at hl
      cases hl with
      | sibling => exact absurd hwas (hthere loc hloc)
      | lockfile hsaved hat => exact absurd ⟨hsaved, hat⟩ hplace
      | rest => rw [hentry, Option.some_or]
    · have hl := hleft _ hloc
      rw [hkept _ hloc] at hl
      generalize hwas : t.get? (s.locator.location ++ [temporaryName fileName]) = was at hl
      cases hl with
      | sibling => exact hthere _ hloc hwas
      | lockfile _ hat => exact hne (by simpa using hat)
      | rest hnot => exact hnot ⟨hsave, rfl⟩
    · have hl := hleft _ hloc
      rw [hkept _ hloc] at hl
      generalize hwas : t.get? (s.locator.location ++ [fileName]) = was at hl
      cases hl with
      | sibling => exact absurd hwas (hthere _ hloc)
      | lockfile => rfl
      | rest _ hnot => exact absurd ⟨hsaved, rfl⟩ hnot
  · intro hspares loc hloc
    have hl := hleft loc hloc
    generalize v.get? loc = left at hl ⊢
    cases hl with
    | sibling hsave hat => exact absurd (hat ▸ hloc) (hspares.sibling hsave)
    | lockfile hsaved hat =>
      subst hat
      exact (hspares.lockfile hsaved hloc).symm
    | rest _ hplace =>
      cases hentry : t.lastWritten (t.accepted (writes t root o qs)) loc with
      | none => rw [Option.none_or]
      | some entry =>
        rw [Option.some_or]
        exact (hspares.outputs loc hloc hplace entry hentry).symm

/-- An output goes beside the template that it is rendered from, under the name that the marker
leaves. -/
def GoesBeside (t : FileTree) (s : Setting) (qs : List Product) (output : Path) : Prop :=
  ∃ q ∈ qs, q.output = output ∧ ∃ dir name out,
    t.target? q.located.source .followed = some (dir ++ [name]) ∧
    s.locator.marker.outputName name = some out ∧
    t.target? output .written = some (dir ++ [out])

theorem goesBeside_of_mem_accepted (h : Rendering t root context engine o s files qs)
    (hw : WellFormed t) (hfree : t.LinkFree) {e : Path × String}
    (he : e ∈ t.accepted (writes t root o qs)) : GoesBeside t s qs e.1 := by
  obtain ⟨q, hq, rfl⟩ := List.mem_map.mp ((accepted_isPrefix _ _).subset he)
  have hmem : q ∈ qs := List.mem_of_mem_filter hq
  obtain ⟨u, hu, -⟩ := run_disk_of_rendering h
  obtain ⟨loc, hloc, hnot⟩ := (written_of_writeAll hw hu).exists_target he
  obtain ⟨relative, hr, hlocated⟩ := exists_of_mem_recalled h.recalled hmem
  obtain ⟨dirs, name, out, hbeside⟩ := exists_beside hw h.prepared h.selected hr hlocated
  refine ⟨q, hmem, rfl, s.locator.location ++ dirs, name, out, ?_, hbeside.outputName, ?_⟩
  · exact hbeside.target?_source (Locator.locate_eq_some_iff.mp hlocated.2).admissible_source
  · obtain rfl := hbeside.eq_of_target? (hfree.locate_ne_link hw _ _) hloc hnot
    exact hloc

/-- A run that does not render leaves the tree. One that does, with or without success, puts its
outputs beside their templates, and leaves the templates exactly if no template is changed by an
output, by the temporary sibling of the lockfile or by the lockfile. -/
theorem templates_kept_iff (hw : WellFormed t) (hfree : t.LinkFree) :
    ((¬ ∃ s files qs, Rendering t root context engine o s files qs) →
      (run Writer.disk t root context engine o ()).tree = t) ∧
    ∀ s files qs, Rendering t root context engine o s files qs →
      (∀ e ∈ t.accepted (writes t root o qs), GoesBeside t s qs e.1) ∧
      ((∀ loc, IsTemplateAt s files loc →
          (run Writer.disk t root context engine o ()).tree.get? loc = t.get? loc) ↔
        SparesTemplates t root o s files qs
          (run Writer.disk t root context engine o ()).result) := by
  refine ⟨fun hnot => ?_, fun s files qs h =>
    ⟨fun e he => goesBeside_of_mem_accepted h hw hfree he, ?_⟩⟩
  · obtain ⟨f, -, htree⟩ := run_of_not_rendering hnot Writer.disk ()
    exact htree
  refine kept_iff_of_leftAt (fun loc hloc hnone => ?_) fun loc hloc =>
    leftAt_of_isTemplateAt h hw hfree hloc
  obtain ⟨names, bytes, -, hfile, -⟩ := hloc.exists_names hw h.prepared h.selected
  simp [hnone] at hfile

/-- A template, and a child that points at it. -/
def childOfTemplate : FileTree :=
  ⟨["w"], [(["w"], .directory), (["w", "a.etch.txt"], .file "one".toUTF8),
    (["w", "b.etch.txt"], .file "!etch:child a.etch.txt".toUTF8)]⟩

/-- A template whose output is another template. -/
def chained : FileTree :=
  ⟨["w"], [(["w"], .directory), (["w", "a.etch.etch.txt"], .file "one".toUTF8),
    (["w", "a.etch.txt"], .file "two".toUTF8)]⟩

set_option maxRecDepth 100000

theorem templates_kept_childOfTemplate :
    ∃ s files qs, Rendering childOfTemplate ⟨"."⟩ .empty verbatim {} s files qs ∧
      IsTemplateAt s files ["w", "a.etch.txt"] ∧ IsTemplateAt s files ["w", "b.etch.txt"] ∧
      ∀ loc, IsTemplateAt s files loc →
        (run Writer.disk childOfTemplate ⟨"."⟩ .empty verbatim {} ()).tree.get? loc =
          childOfTemplate.get? loc := by
  have hrun : (run Writer.disk childOfTemplate ⟨"."⟩ .empty verbatim {} ()).result =
      .ok ⟨[⟨"./a.txt"⟩, ⟨"./b.txt"⟩], [], [⟨"./a.etch.txt"⟩], true⟩ := by decide +kernel
  obtain ⟨s, files, qs, u, hc⟩ := exists_completed hrun
  obtain rfl : [inRoot "a.etch.txt" "a.txt" "one", childProduct "b" "a.etch.txt" "one"] = qs :=
    Eq.trans (by decide +kernel) (products_eq hc.rendering)
  have hat : ∀ loc, IsTemplateAt s files loc ↔
      ["w", "a.etch.txt"] = loc ∨ ["w", "b.etch.txt"] = loc := by
    intro loc
    have htargets : childOfTemplate.target? ⟨"./a.etch.txt"⟩ .followed = some ["w", "a.etch.txt"] ∧
        childOfTemplate.target? ⟨"./b.etch.txt"⟩ .followed = some ["w", "b.etch.txt"] := by
      decide +kernel
    rw [isTemplateAt_iff hc.rendering.recalled, tree_of_prepare hc.rendering.prepared]
    simp [inRoot, childProduct, htargets, or_comm]
  have htop : ["w"] = s.locator.location := by
    have htarget := (hc.rooted (.of_entries rfl (by decide +kernel))).target?
    exact Option.some.inj (Eq.trans (by decide +kernel) htarget)
  refine ⟨s, files, _, hc.rendering, (hat _).mpr (.inl rfl), (hat _).mpr (.inr rfl), ?_⟩
  refine ((templates_kept_iff (.of_entries rfl (by decide +kernel))
    (.of_entries (by simp [childOfTemplate]))).2 s files _ hc.rendering).2.mpr ⟨?_, ?_, ?_⟩
  · have hnone : ∀ loc ∈ [["w", "a.etch.txt"], ["w", "b.etch.txt"]],
        childOfTemplate.lastWritten (childOfTemplate.accepted (writes childOfTemplate ⟨"."⟩ {}
          [inRoot "a.etch.txt" "a.txt" "one", childProduct "b" "a.etch.txt" "one"])) loc = none := by
      decide +kernel
    intro loc hloc _ entry hentry
    rw [hnone loc (by simpa [eq_comm] using (hat loc).mp hloc)] at hentry
    simp at hentry
  · intro _ hloc
    rw [← htop, hat] at hloc
    exact absurd hloc (by decide)
  · intro _ hloc
    rw [← htop, hat] at hloc
    exact absurd hloc (by decide)

/-- A template that is the output of another one is written over. -/
theorem chained_template_lost :
    ¬ ∀ (t : FileTree) (root : Path) (context : KeyMap Json) (engine : Engine) (o : Options)
      (s : Setting) (files : List String) (loc : Location), WellFormed t → t.LinkFree →
      o.templateMatcher = "etch" → prepare t root context engine o = .ok s →
      Selection.files t s.ignore root = .ok files → IsTemplateAt s files loc →
      (run Writer.disk t root context engine o ()).tree.get? loc = t.get? loc := by
  intro h
  have hrun : (run Writer.disk chained ⟨"."⟩ .empty verbatim {} ()).result =
      .ok ⟨[⟨"./a.etch.txt"⟩, ⟨"./a.txt"⟩], [], [⟨"./a.etch.etch.txt"⟩, ⟨"./a.etch.txt"⟩], true⟩ := by
    decide +kernel
  obtain ⟨s, files, qs, u, hc⟩ := exists_completed hrun
  have hqs := products_eq hc.rendering
  have hat : IsTemplateAt s files ["w", "a.etch.txt"] := by
    rw [isTemplateAt_iff hc.rendering.recalled, tree_of_prepare hc.rendering.prepared, ← hqs]
    exact ⟨inRoot "a.etch.txt" "a.txt" "two", by decide +kernel, .inl (by decide +kernel)⟩
  have hkept := h chained ⟨"."⟩ .empty verbatim {} s files ["w", "a.etch.txt"]
    (.of_entries rfl (by decide +kernel)) (.of_entries (by simp [chained])) rfl
    hc.rendering.prepared hc.rendering.selected hat
  revert hkept
  decide +kernel

end Run
end Stencil
