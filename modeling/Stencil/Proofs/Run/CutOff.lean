import Stencil.Proofs.FileTree.CutOff
import Stencil.Proofs.FileTree.Respelling
import Stencil.Proofs.Run.Inputs
import Stencil.Proofs.Run.Siblings

/-! A run that is cut off as it saves its lockfile, and the run after it. Main statement: the lockfile
is the old one or the new one, and the next run goes as it would have gone, unless it takes what has
been left of the temporary sibling for a template. -/
namespace Stencil
namespace Run

open FileTree Lockfile Stencil.Path

variable {t u w v : FileTree} {root : Path} {context : KeyMap Json} {engine : Engine} {o : Options}
  {s : Setting} {files : List String} {qs : List Product} {outcome : Outcome} {loc : Location}
  {bytes : ByteArray}

/-- A file at a location is a template to a run. -/
def Setting.WouldTake (s : Setting) (loc : Location) : Prop :=
  ∃ names, loc = s.locator.location ++ names ∧
    isSource s.locator.marker (ofNames names) = true ∧ Selection.Passes s.ignore [] names

/-- Nothing that a run consults leads to a location, and no output, nothing on record and not the
lockfile. -/
structure Avoids (s : Setting) (o : Options) (qs : List Product) (loc : Location) : Prop where
  consulted : ∀ p ∈ consulted s o qs, s.tree.target? p .followed ≠ some loc
  outputs : ∀ q ∈ qs, s.tree.target? q.output .followed ≠ some loc
  keys : ∀ key, ((recorded s.tree s.root o.force).get? key).isSome →
    s.tree.target? (s.root.join key) .followed ≠ some loc
  lockfile : s.tree.target? (Cache.pathIn s.root) .followed ≠ some loc

/-- Runs in two trees render the same, end alike, and leave the same outputs and the same on
record. -/
structure SameRun (t u : FileTree) (root : Path) (context : KeyMap Json) (engine : Engine)
    (o : Options) : Prop where
  products : products u root context engine o = products t root context engine o
  result : (run Writer.disk u root context engine o ()).result =
    (run Writer.disk t root context engine o ()).result
  outputs : ∀ q ∈ Run.products t root context engine o,
    (run Writer.disk u root context engine o ()).tree.entryAt? q.output =
      (run Writer.disk t root context engine o ()).tree.entryAt? q.output
  loaded : loaded? (run Writer.disk u root context engine o ()).tree root false =
    loaded? (run Writer.disk t root context engine o ()).tree root false

namespace Avoids

variable (h : Avoids s o qs loc) (hw : WellFormed s.tree) (hu : WellFormed u)
  (hagree : AgreeOff (· = loc) s.tree u)

include h hw hu hagree

theorem sameInputs (hnot : ¬ s.WouldTake loc) : SameInputs s o qs u where
  wellFormed := hu
  target?_eq p _ := hagree.sameFrame.target?_eq p _
  entryAt?_eq p hp := hagree.entryAt?_elsewhere hw hu (h.consulted p hp)
  sources names _ hs hpass := hagree.get?_eq _ fun he => hnot ⟨names, he.symm, hs, hpass⟩

theorem loaded?_eq : loaded? u s.root o.force = loaded? s.tree s.root o.force :=
  loaded?_congr (hagree.entryAt?_elsewhere hw hu h.lockfile) _

theorem recorded_eq : recorded u s.root o.force = recorded s.tree s.root o.force := by
  rw [recorded, h.loaded?_eq hw hu hagree, recorded]

theorem isIdentical_eq : ∀ q ∈ qs, q.isIdentical u (recorded u s.root o.force) =
    q.isIdentical s.tree (recorded s.tree s.root o.force) := by
  intro q hq
  have hthere : u.entryAt? q.output = s.tree.entryAt? q.output :=
    hagree.entryAt?_elsewhere hw hu (h.outputs q hq)
  rw [Product.isIdentical, Product.isIdentical, exists?_eq, exists?_eq, hthere,
    h.recorded_eq hw hu hagree]

theorem finalLockfile_eq : finalLockfile u s.root o qs = finalLockfile s.tree s.root o qs := by
  have hwritten : writtenOnes u (recorded u s.root o.force) qs =
      writtenOnes s.tree (recorded s.tree s.root o.force) qs :=
    List.filter_congr fun q hq => by rw [h.isIdentical_eq hw hu hagree q hq]
  refine congrArg (Lockfile.mk runningVersion) (KeyMap.ext_get? fun key => ?_)
  rw [finalFiles_get?, finalFiles_get?, hwritten, h.recorded_eq hw hu hagree]
  refine congrArg (Option.or _) ?_
  cases hkey : (recorded s.tree s.root o.force).get? key with
  | none => simp
  | some f =>
    have hthere : u.entryAt? (s.root.join key) = s.tree.entryAt? (s.root.join key) :=
      hagree.entryAt?_elsewhere hw hu (h.keys key (by simp [hkey]))
    rw [exists?_eq, exists?_eq, hthere]

end Avoids

/-- A run goes the same where it avoids what has been left and does not take it for a template. -/
theorem Completed.sameRun (h : Completed t root context engine o s files qs w v outcome)
    (hw : WellFormed t) (hu : WellFormed u) (hput : FilePut t u loc bytes)
    (htarget : t.target? (temporaryIn root) .written = some loc) (havoids : Avoids s o qs loc)
    (hnot : ¬ s.WouldTake loc) : SameRun t u root context engine o := by
  have hagree := hput.agreeOff
  have hrooted := h.rooted hw
  obtain rfl := tree_of_prepare h.rendering.prepared
  obtain rfl := root_of_prepare h.rendering.prepared
  obtain ⟨files', hrendering, -⟩ :=
    h.rendering.of_sameInputs hw (havoids.sameInputs hw hu hagree hnot) o.force
  obtain ⟨w', v', hfinishes, hends⟩ := h.toFinishes.exists_of_agreeOff hrooted hu hagree
    (fun _ hl => .inr (hl ▸ htarget)) (havoids.loaded?_eq hw hu hagree)
    (havoids.isIdentical_eq hw hu hagree) (havoids.finalLockfile_eq hw hu hagree)
  have h' : Completed u s.root context engine o { s with tree := u } files' qs w' v' outcome :=
    ⟨hfinishes, hrendering⟩
  have hentry : ∀ p, s.tree.target? p .followed ≠ some loc → v'.entryAt? p = v.entryAt? p := by
    intro p hp
    rcases hends with hsame | ⟨-, rfl, rfl, hleft⟩
    · rw [entryAt?, entryAt?, hsame.resolve_eq]
    · have hwritten := h.written_tree hw
      refine hleft.entryAt?_elsewhere hwritten.wellFormed (h'.written_tree hu).wellFormed ?_
      rwa [hwritten.sameFrame.target?_eq]
  obtain ⟨hresult, rfl⟩ := h.run_eq
  obtain ⟨hresult', rfl⟩ := h'.run_eq
  rw [← products_eq h.rendering] at havoids
  exact ⟨(products_eq h'.rendering).trans (products_eq h.rendering).symm,
    hresult'.trans hresult.symm, fun q hq => hentry _ (havoids.outputs q hq),
    loaded?_congr (hentry _ havoids.lockfile) false⟩

/-- Where a run would take a file for a template, it has taken it if it has rendered. -/
theorem Rendering.exists_source (h : Rendering t root context engine o s files qs)
    (hw : WellFormed t) (hfile : t.get? loc = some (.file bytes)) (htake : s.WouldTake loc) :
    ∃ q ∈ qs, t.target? q.located.source .followed = some loc := by
  obtain ⟨names, rfl, hsource, hpass⟩ := htake
  have hrooted := h.rooted hw
  have hmem : ofNames names ∈ files :=
    (Selection.mem_files_iff hrooted h.selected).mpr ⟨names, rfl, hpass, bytes, hfile⟩
  obtain ⟨q, hq, hlocate⟩ := exists_mem_of_isSource h.recalled hmem hsource
  have hroot := locatorRoot_of_prepare h.prepared
  obtain rfl := tree_of_prepare h.prepared
  obtain rfl := root_of_prepare h.prepared
  have hfinds := Locator.locate_eq_some_iff.mp hlocate
  have ha := hfinds.admissible_source
  rw [hfinds.source_eq, hroot] at ha
  refine ⟨q, hq, ?_⟩
  rw [hfinds.source_eq, hroot]
  exact hrooted.target?_join hpass.ne_nil hfile ha

/-- What has been taken for a template is there. -/
theorem Rendering.isSome_source (h : Rendering t root context engine o s files qs)
    (hw : WellFormed t) {q : Product} (hq : q ∈ qs)
    (hloc : t.target? q.located.source .followed = some loc) : (t.get? loc).isSome := by
  obtain ⟨relative, -, -, hlocate⟩ := exists_of_mem_recalled h.recalled hq
  obtain rfl := tree_of_prepare h.prepared
  obtain ⟨text, hread⟩ := (Locator.locate_eq_some_iff.mp hlocate).exists_readText_source
  obtain ⟨old, hold, -⟩ := (readText_eq_ok_iff _ _).mp hread
  rw [entryAt?_eq hw, hloc] at hold
  exact Option.isSome_of_eq_some hold

/-- A run that goes the same does not take what has been left for a template. -/
theorem Completed.not_wouldTake (h : Completed t root context engine o s files qs w v outcome)
    (hw : WellFormed t) (hu : WellFormed u) (hput : FilePut t u loc bytes)
    (havoids : Avoids s o qs loc) (hnone : t.get? loc = none)
    (hsame : SameRun t u root context engine o) : ¬ s.WouldTake loc := by
  intro htake
  obtain ⟨s', files', qs', w', h'⟩ := exists_completed (hsame.result.trans h.run_eq.1)
  obtain rfl : qs' = qs :=
    (products_eq h'.rendering).symm.trans (hsame.products.trans (products_eq h.rendering))
  have hagree := hput.agreeOff
  obtain rfl := tree_of_prepare h.rendering.prepared
  obtain rfl := root_of_prepare h.rendering.prepared
  have hentry : ∀ p ∈ consulted s o qs', u.entryAt? p = s.tree.entryAt? p := fun p hp =>
    hagree.entryAt?_elsewhere hw hu (havoids.consulted p hp)
  have hprepared := prepare_congr h.rendering.prepared (hagree.sameFrame.target?_eq s.root _)
    (hentry _ (root_mem_consulted s o qs'))
    (fun file hf => hentry _ (ignoreFile_mem_consulted s qs' hf)) context o.force
  obtain rfl := Except.ok.inj (h'.rendering.prepared.symm.trans hprepared)
  have hfile : u.get? loc = some (.file bytes) := by rw [hput.get?_eq, if_pos rfl]
  obtain ⟨q, hq, hloc⟩ := h'.rendering.exists_source hu hfile htake
  rw [hagree.sameFrame.target?_eq] at hloc
  simpa [hnone] using h.rendering.isSome_source hw hq hloc

/-- To the default marker a file in the place of the temporary sibling is a template unless it is
ignored. -/
theorem wouldTake_siblingPlace_iff (hp : prepare t root context engine o = .ok s)
    (hmatcher : o.templateMatcher = "etch") :
    s.WouldTake s.siblingPlace ↔ s.ignore.isIgnored (temporaryName fileName) false = false := by
  obtain ⟨marker, _, _, -, -, hmarker, -, rfl⟩ := prepare_eq_ok_iff.mp hp
  have hsource : isSource marker (temporaryName fileName) = true := by
    have hetch : (Marker.read "etch").toOption.map (isSource · (temporaryName fileName)) =
        some true := by decide +kernel
    rw [← hmatcher, hmarker] at hetch
    exact Option.some.inj hetch
  constructor
  · rintro ⟨names, hplace, -, hpass⟩
    obtain rfl : [temporaryName fileName] = names := List.append_cancel_left hplace
    simpa [Selection.Passes] using hpass
  · intro hkept
    refine ⟨[temporaryName fileName], rfl, ?_, ?_⟩
    · rwa [ofNames_singleton]
    · simpa [Selection.Passes] using hkept

theorem two_le_size_render (l : Lockfile) : 2 ≤ l.render.toUTF8.size := by
  have hlast : 2 ≤ "\n\x7d\n".utf8ByteSize := by decide
  obtain ⟨before, hrender⟩ : ∃ before, l.render = before ++ "\n\x7d\n" := ⟨_, rfl⟩
  rw [String.toUTF8, String.size_toByteArray, hrender, String.utf8ByteSize_append]
  exact hlast.trans (Nat.le_add_left _ _)

/-- A commit that is cut off leaves the old lockfile or the new one, exactly if its temporary sibling
does not lead to the place of the lockfile. Apart from that it leaves nothing, or some bytes where the
temporary sibling leads. If the next run does not get there in another way, it goes as it would have
gone if it does not take the bytes for a template, and only then if nothing was there before. To the
default marker they are a template unless they are ignored. -/
theorem run_after_cutOff {top : Location} (h : Rooted t root top) (l : Lockfile) :
    ((∀ u, CutOff t (Cache.pathIn root) l.render.toUTF8 u →
        u.entryAt? (Cache.pathIn root) = t.entryAt? (Cache.pathIn root) ∨
          u.entryAt? (Cache.pathIn root) = some (.file l.render.toUTF8)) ↔
      ¬ MeetsSibling t (Cache.pathIn root)) ∧
    ∀ u, CutOff t (Cache.pathIn root) l.render.toUTF8 u → u = t ∨ ∃ loc count,
      t.target? (temporaryIn root) .written = some loc ∧
      FilePut t u loc (l.render.toUTF8.extract 0 count) ∧
      ∀ context engine o s outcome, prepare t root context engine o = .ok s →
        (run Writer.disk t root context engine o ()).result = .ok outcome →
        (Avoids s o (products t root context engine o) loc →
          (¬ s.WouldTake loc → SameRun t u root context engine o) ∧
          (t.get? loc = none → SameRun t u root context engine o → ¬ s.WouldTake loc)) ∧
        (o.templateMatcher = "etch" → (∀ text, t.get? s.siblingPlace ≠ some (.link text)) →
          (s.WouldTake loc ↔ s.ignore.isIgnored (temporaryName fileName) false = false)) := by
  refine ⟨h.whole_iff replaceable_fileName (two_le_size_render l), fun u hcut => ?_⟩
  refine (h.exists_leftover replaceable_fileName hcut).imp_right ?_
  rintro ⟨loc, count, htarget, hput, hu⟩
  refine ⟨loc, count, htarget, hput, fun context engine o s outcome hp hrun => ⟨?_, ?_⟩⟩
  · obtain ⟨s', files, qs, w, hc⟩ := exists_completed hrun
    obtain rfl := Except.ok.inj (hc.rendering.prepared.symm.trans hp)
    rw [products_eq hc.rendering]
    exact fun havoids => ⟨hc.sameRun h.wellFormed hu hput htarget havoids,
      hc.not_wouldTake h.wellFormed hu hput havoids⟩
  · intro hmatcher hlink
    have hlocation : s.locator.location = top :=
      Option.some.inj ((rooted_of_prepare hp h.wellFormed).target?.symm.trans h.target?)
    have hplace : loc = s.siblingPlace := by
      rw [Setting.siblingPlace, hlocation] at hlink ⊢
      exact h.eq_of_target?_sibling replaceable_fileName hlink htarget hput.notDirectory
    rw [hplace]
    exact wouldTake_siblingPlace_iff hp hmatcher

/-- A template has been rendered, and its output written. -/
def beforeCommit : FileTree :=
  ⟨["w"], [(["w"], .directory), (["w", "a.etch.txt"], .file "one".toUTF8),
    (["w", "a.txt"], .file "one".toUTF8)]⟩

/-- What is about to be saved. -/
def committed : Lockfile := ⟨runningVersion, .ofList [("a.etch.txt", fingerprint "one")]⟩

/-- Two bytes have reached the temporary sibling. -/
def afterCut : FileTree := beforeCommit.set ["w", "..etch.lock.tmp"] (.file "\x7b\n".toUTF8)

/-- Rules may ignore what is left of the temporary sibling. -/
def leaving (exclude : List String) : Options := { exclude }

set_option maxRecDepth 100000

theorem rooted_beforeCommit : Rooted beforeCommit ⟨"."⟩ ["w"] :=
  rooted_dot (.of_entries rfl (by decide))

theorem cutOff_afterCut :
    CutOff beforeCommit (Cache.pathIn ⟨"."⟩) committed.render.toUTF8 afterCut :=
  (rooted_beforeCommit.cutOff_iff replaceable_fileName).mpr (.inr ⟨2, by decide +kernel⟩)

theorem avoids_beforeCommit {exclude : List String}
    (h : exclude = [] ∨ exclude = ["/..etch.lock.tmp"]) :
    ∃ s, prepare beforeCommit ⟨"."⟩ .empty verbatim (leaving exclude) = .ok s ∧
      s.siblingPlace = ["w", "..etch.lock.tmp"] ∧
      s.ignore.isIgnored (temporaryName fileName) false = !exclude.isEmpty ∧
      Avoids s (leaving exclude) (products beforeCommit ⟨"."⟩ .empty verbatim (leaving exclude))
        ["w", "..etch.lock.tmp"] := by
  have hcheck : (match prepare beforeCommit ⟨"."⟩ .empty verbatim (leaving exclude) with
      | .ok s => decide (s.tree = beforeCommit ∧ s.root = ⟨"."⟩ ∧
          s.siblingPlace = ["w", "..etch.lock.tmp"] ∧
          s.ignore.isIgnored (temporaryName fileName) false = !exclude.isEmpty ∧
          ∀ p ∈ Cache.pathIn s.root :: consulted s (leaving exclude)
              (products beforeCommit ⟨"."⟩ .empty verbatim (leaving exclude)) ++
              (products beforeCommit ⟨"."⟩ .empty verbatim (leaving exclude)).map Product.output,
            s.tree.target? p .followed ≠ some ["w", "..etch.lock.tmp"])
      | .error _ => false) = true := by
    rcases h with rfl | rfl <;> decide +kernel
  have hnothing : recorded beforeCommit ⟨"."⟩ false = .empty := by decide +kernel
  split at hcheck
  · next s hs =>
    obtain ⟨htree, hroot, hplace, hignored, haway⟩ := of_decide_eq_true hcheck
    refine ⟨s, hs, hplace, hignored, fun p hp => haway p ?_, fun q hq => haway _ ?_, ?_, haway _ ?_⟩
    · simp [hp]
    · simp only [List.mem_append, List.mem_map]
      exact .inr ⟨q, hq, rfl⟩
    · intro key hkey
      rw [htree, hroot] at hkey
      simp [leaving, hnothing] at hkey
    · simp
  · simp at hcheck

theorem run_after_cutOff_afterCut :
    SameRun beforeCommit afterCut ⟨"."⟩ .empty verbatim (leaving ["/..etch.lock.tmp"]) ∧
      ¬ SameRun beforeCommit afterCut ⟨"."⟩ .empty verbatim (leaving []) := by
  obtain ⟨-, hcut⟩ := run_after_cutOff rooted_beforeCommit committed
  rcases hcut afterCut cutOff_afterCut with hsame | ⟨loc, count, htarget, -, hnext⟩
  · exact absurd hsame (by decide +kernel)
  obtain rfl : ["w", "..etch.lock.tmp"] = loc :=
    Option.some.inj (Eq.trans (by decide +kernel) htarget)
  have hfree : beforeCommit.get? ["w", "..etch.lock.tmp"] = none := by decide +kernel
  constructor
  · obtain ⟨s, hs, hplace, hignored, havoids⟩ := avoids_beforeCommit (.inr rfl)
    obtain ⟨hruns, hmarked⟩ := hnext .empty verbatim (leaving ["/..etch.lock.tmp"]) s
      ⟨[⟨"./a.txt"⟩], [], [⟨"./a.etch.txt"⟩], true⟩ hs (by decide +kernel)
    refine (hruns havoids).1 fun htake => ?_
    simpa [hignored] using (hmarked rfl (by simp [hplace, hfree])).mp htake
  · obtain ⟨s, hs, hplace, hignored, havoids⟩ := avoids_beforeCommit (.inl rfl)
    obtain ⟨hruns, hmarked⟩ := hnext .empty verbatim (leaving []) s
      ⟨[⟨"./a.txt"⟩], [], [⟨"./a.etch.txt"⟩], true⟩ hs (by decide +kernel)
    exact fun hsame => (hruns havoids).2 hfree hsame
      ((hmarked rfl (by simp [hplace, hfree])).mpr (by simp [hignored]))

/-- To the default marker what is left is a template, with an output of its own. -/
theorem leftover_is_template : ¬ ∀ (t u : FileTree) (root : Path) (top : Location) (l : Lockfile)
    (context : KeyMap Json) (engine : Engine) (o : Options) (outcome : Outcome),
    Rooted t root top → o.templateMatcher = "etch" →
    CutOff t (Cache.pathIn root) l.render.toUTF8 u →
    (run Writer.disk t root context engine o ()).result = .ok outcome →
    (run Writer.disk u root context engine o ()).result = .ok outcome := by
  intro hclaim
  have hsame := hclaim beforeCommit afterCut ⟨"."⟩ ["w"] committed .empty verbatim {}
    ⟨[⟨"./a.txt"⟩], [], [⟨"./a.etch.txt"⟩], true⟩ rooted_beforeCommit rfl cutOff_afterCut
    (by decide +kernel)
  have htaken : (run Writer.disk afterCut ⟨"."⟩ .empty verbatim {} ()).result =
      .ok ⟨[⟨"./..lock.tmp"⟩, ⟨"./a.txt"⟩], [], [⟨"./..etch.lock.tmp"⟩, ⟨"./a.etch.txt"⟩], true⟩ := by
    decide +kernel
  simp [htaken] at hsame

end Run
end Stencil
