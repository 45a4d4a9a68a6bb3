import Stencil.Proofs.FileTree.WriteAll
import Stencil.Proofs.Lockfile.Cache
import Stencil.Proofs.Run.Products
import Stencil.Proofs.Selection

/-! What a run that succeeds has gone through: it has rendered, written and committed. -/
namespace Stencil
namespace Run

open FileTree Lockfile

/-! ## Preparing -/

/-- What a run is prepared to, if its root is a directory and its options make sense. -/
theorem prepare_eq_ok_iff {t : FileTree} {root : Path} {context : KeyMap Json} {engine : Engine}
    {o : Options} {s : Setting} :
    prepare t root context engine o = .ok s ↔
      ∃ marker top ignore, t.entryAt? root = some .directory ∧
        t.target? root .followed = some top ∧ Marker.read o.templateMatcher = .ok marker ∧
        IgnoreSpec.build t root o.ignoreFiles o.exclude = .ok ignore ∧
        s = ⟨t, root, context, engine, ⟨root, top, marker, o.childFlag⟩, ignore⟩ := by
  have hroot : validateRoot t root = .ok () ↔ t.entryAt? root = some .directory := by
    unfold validateRoot
    rw [exists?_eq]
    cases hd : t.isDirectory root with
    | true =>
      have hentry := (isDirectory_iff root).mp hd
      simp [hentry]
    | false =>
      have hentry : t.entryAt? root ≠ some .directory := fun h => by
        simp [(isDirectory_iff root).mpr h] at hd
      cases he : t.entryAt? root with
      | none => simp
      | some entry => simpa [he] using hentry
  constructor
  · intro h
    unfold prepare at h
    cases hv : validateRoot t root with
    | error f => simp [hv, bind, Except.bind] at h
    | ok _ =>
      have hdirectory := hroot.mp hv
      cases hm : Marker.read o.templateMatcher with
      | error f => simp [hv, hm, bind, Except.bind] at h
      | ok marker =>
        cases hc : t.canonicalize root with
        | error e => simp [hv, hm, hc, Locator.create, bind, Except.bind] at h
        | ok top =>
          cases hi : IgnoreSpec.build t root o.ignoreFiles o.exclude with
          | error f => simp [hv, hm, hc, hi, Locator.create, bind, Except.bind] at h
          | ok ignore =>
            refine ⟨marker, top, ignore, hdirectory, ((canonicalize_eq_ok_iff _ _).mp hc).1, rfl,
              rfl, ?_⟩
            simpa [hv, hm, hc, hi, Locator.create, bind, Except.bind] using h.symm
  · rintro ⟨marker, top, ignore, hdirectory, htop, hm, hi, rfl⟩
    have hc := (canonicalize_eq_ok_iff root top).mpr ⟨htop, by simp [hdirectory]⟩
    simp [prepare, hroot.mpr hdirectory, hm, hc, hi, Locator.create, bind, Except.bind]

/-! ## Rendering -/

/-- A run has rendered all its templates and written nothing. -/
structure Rendering (t : FileTree) (root : Path) (context : KeyMap Json) (engine : Engine)
    (o : Options) (s : Setting) (files : List String) (qs : List Product) : Prop where
  prepared : prepare t root context engine o = .ok s
  selected : Selection.files t s.ignore root = .ok files
  recalled : recalled s [] files = .ok qs

/-- What the walk of a run has gathered. -/
def gathered (t : FileTree) (root : Path) (o : Options) (qs : List Product) : Progress :=
  qs.foldl (advance t) { cache := .start (Cache.pathIn root) (loaded? t root o.force) }

variable {t : FileTree} {root : Path} {context : KeyMap Json} {engine : Engine} {o : Options}
  {s : Setting} {files : List String} {qs : List Product}

theorem tree_of_prepare (h : prepare t root context engine o = .ok s) : s.tree = t := by
  obtain ⟨_, _, _, -, -, -, -, rfl⟩ := prepare_eq_ok_iff.mp h
  rfl

theorem root_of_prepare (h : prepare t root context engine o = .ok s) : s.root = root := by
  obtain ⟨_, _, _, -, -, -, -, rfl⟩ := prepare_eq_ok_iff.mp h
  rfl

theorem locatorRoot_of_prepare (h : prepare t root context engine o = .ok s) :
    s.locator.root = s.root := by
  obtain ⟨_, _, _, -, -, -, -, rfl⟩ := prepare_eq_ok_iff.mp h
  rfl

theorem context_of_prepare (h : prepare t root context engine o = .ok s) : s.context = context := by
  obtain ⟨_, _, _, -, -, -, -, rfl⟩ := prepare_eq_ok_iff.mp h
  rfl

theorem engine_of_prepare (h : prepare t root context engine o = .ok s) : s.engine = engine := by
  obtain ⟨_, _, _, -, -, -, -, rfl⟩ := prepare_eq_ok_iff.mp h
  rfl

theorem collect_ok_iff (h : prepare t root context engine o = .ok s) (p : Progress) :
    (collect s 0 { cache := (Cache.open t root o.force).1 } files).2 = .ok p ↔
      ∃ qs, recalled s [] files = .ok qs ∧ p = gathered t root o qs := by
  rw [fst_open, collect_eq s files 0 (remembers_start _), tree_of_prepare h]
  cases recalled s [] files with
  | error f => simp [Except.map]
  | ok qs =>
    simp only [Except.map, Except.ok.injEq, exists_eq_left']
    exact ⟨fun h => h.symm, fun h => h.symm⟩

/-- The templates of a run with the texts that it renders, from the start. -/
def products (t : FileTree) (root : Path) (context : KeyMap Json) (engine : Engine) (o : Options) :
    List Product :=
  match prepare t root context engine o with
  | .error _ => []
  | .ok s =>
    match Selection.files t s.ignore root with
    | .error _ => []
    | .ok files => (recalled s [] files).toOption.getD []

theorem products_eq (h : Rendering t root context engine o s files qs) :
    products t root context engine o = qs := by
  unfold products
  rw [h.prepared]
  dsimp only
  rw [h.selected]
  dsimp only
  rw [h.recalled]
  rfl

theorem rooted_of_prepare (h : prepare t root context engine o = .ok s) (hw : WellFormed t) :
    Rooted t root s.locator.location := by
  obtain ⟨_, top, _, hdirectory, htop, -, -, rfl⟩ := prepare_eq_ok_iff.mp h
  exact ⟨hw, resolve_eq_found hdirectory htop⟩

theorem Rendering.rooted (h : Rendering t root context engine o s files qs) (hw : WellFormed t) :
    Rooted t root s.locator.location := rooted_of_prepare h.prepared hw

/-- A walk that has rendered finishes with what it has gathered. -/
theorem onFiles_of_recalled {ω : Type} (hp : prepare t root context engine o = .ok s)
    (hq : recalled s [] files = .ok qs) (w : Writer ω) (state : ω) :
    ∃ lines, onFiles w s o.force files state =
      { finish w root (gathered t root o qs) t state with
        lines := lines ++ (finish w root (gathered t root o qs) t state).lines } := by
  have hcollect :
      (collect s 0 { cache := (Cache.open t root o.force).1 } files).2 =
        .ok (gathered t root o qs) := (collect_ok_iff hp _).mpr ⟨qs, hq, rfl⟩
  unfold onFiles
  rw [tree_of_prepare hp, root_of_prepare hp]
  generalize Lockfile.Cache.open t root o.force = opened at hcollect ⊢
  obtain ⟨cache, status⟩ := opened
  dsimp only at hcollect ⊢
  generalize collect s 0 { cache } files = result at hcollect ⊢
  obtain ⟨lines, answer⟩ := result
  obtain rfl : answer = .ok (gathered t root o qs) := hcollect
  exact ⟨resetLines status ++ lines, rfl⟩

/-- A walk that does not render fails and leaves the tree as it is. -/
theorem onFiles_of_not_recalled {ω : Type} (hp : prepare t root context engine o = .ok s)
    (hq : ¬ ∃ qs, recalled s [] files = .ok qs) (w : Writer ω) (state : ω) :
    ∃ f, (onFiles w s o.force files state).result = .error f ∧
      (onFiles w s o.force files state).tree = t := by
  have hcollect := @collect_ok_iff t root context engine o s files hp
  unfold onFiles
  rw [tree_of_prepare hp, root_of_prepare hp]
  generalize Lockfile.Cache.open t root o.force = opened at hcollect ⊢
  obtain ⟨cache, status⟩ := opened
  dsimp only at hcollect ⊢
  generalize collect s 0 { cache } files = result at hcollect ⊢
  obtain ⟨lines, answer⟩ := result
  cases answer with
  | error f => exact ⟨f, rfl, rfl⟩
  | ok p =>
    obtain ⟨qs, hqs, -⟩ := (hcollect p).mp rfl
    exact absurd ⟨qs, hqs⟩ hq

theorem run_eq_onFiles {ω : Type} (hp : prepare t root context engine o = .ok s)
    (hs : Selection.files t s.ignore root = .ok files) (w : Writer ω) (state : ω) :
    run w t root context engine o state = onFiles w s o.force files state := by
  simp only [run, hp, hs]

/-- A run that has rendered finishes with what it has gathered. -/
theorem run_of_rendering {ω : Type} (h : Rendering t root context engine o s files qs)
    (w : Writer ω) (state : ω) :
    ∃ lines, run w t root context engine o state =
      { finish w root (gathered t root o qs) t state with
        lines := lines ++ (finish w root (gathered t root o qs) t state).lines } := by
  rw [run_eq_onFiles h.prepared h.selected]
  exact onFiles_of_recalled h.prepared h.recalled w state

/-- A run that does not render fails and leaves the tree as it is. -/
theorem run_of_not_rendering {ω : Type}
    (h : ¬ ∃ s files qs, Rendering t root context engine o s files qs)
    (w : Writer ω) (state : ω) :
    ∃ f, (run w t root context engine o state).result = .error f ∧
      (run w t root context engine o state).tree = t := by
  cases hp : prepare t root context engine o with
  | error f => exact ⟨f, by simp only [run, hp], by simp only [run, hp]⟩
  | ok s =>
    cases hs : Selection.files t s.ignore root with
    | error f => exact ⟨f, by simp only [run, hp, hs], by simp only [run, hp, hs]⟩
    | ok files =>
      rw [run_eq_onFiles hp hs]
      exact onFiles_of_not_recalled hp (fun ⟨qs, hq⟩ => h ⟨s, files, qs, hp, hs, hq⟩) w state

/-! ## Writing and committing -/

/-- The outputs that a run writes, in the order of the walk. -/
def writes (t : FileTree) (root : Path) (o : Options) (qs : List Product) : List (Path × String) :=
  (writtenOnes t (recorded t root o.force) qs).map fun q => (q.output, q.text)

/-- The fingerprints on record after a run: what is still present, and what has been written. -/
def finalFiles (t : FileTree) (root : Path) (o : Options) (qs : List Product) : KeyMap UInt32 :=
  ((recorded t root o.force).keep (Cache.present t root)).union
    (KeyMap.empty.insertAll
      ((writtenOnes t (recorded t root o.force) qs).map fun q => (q.key, q.fingerprint)))

/-- The lockfile that a run ends with. -/
def finalLockfile (t : FileTree) (root : Path) (o : Options) (qs : List Product) : Lockfile :=
  ⟨runningVersion, finalFiles t root o qs⟩

theorem pending_gathered : (gathered t root o qs).pending.reverse = writes t root o qs := by
  rw [gathered, pending_foldl, current_start]
  rfl

theorem identical_gathered : (gathered t root o qs).identical.reverse =
    (identicalOnes t (recorded t root o.force) qs).map Product.output := by
  rw [gathered, identical_foldl, current_start]
  rfl

theorem cache_gathered : (gathered t root o qs).cache.applyStaged (Cache.present t root) =
    ⟨Cache.pathIn root, loaded? t root o.force, finalLockfile t root o qs, .empty⟩ := by
  rw [gathered, cache_foldl]
  unfold Cache.applyStaged
  simp only [current_start]
  rfl

/-- The disk is handed the outputs up to the first that it refuses. -/
theorem emit_disk (pairs : List (Path × String)) (t : FileTree) :
    t.writeAll (t.accepted pairs) = .ok (emit Writer.disk pairs t ()).tree ∧
      (emit Writer.disk pairs t ()).written = (t.accepted pairs).map (·.1) ∧
      ((emit Writer.disk pairs t ()).refused = none ↔ t.accepted pairs = pairs) := by
  induction pairs generalizing t with
  | nil => exact ⟨rfl, rfl, by simp [emit, accepted]⟩
  | cons e rest ih =>
    obtain ⟨p, text⟩ := e
    have hdisk : Writer.disk p text t () = (t.writeText p text).map (·, ()) := rfl
    unfold emit accepted
    rw [hdisk]
    cases hwrite : t.writeText p text with
    | error e => exact ⟨rfl, rfl, by simp [Except.map]⟩
    | ok u =>
      obtain ⟨htree, hwritten, hrefused⟩ := ih u
      refine ⟨?_, congrArg (p :: ·) hwritten, ?_⟩
      · unfold writeAll
        rw [hwrite]
        exact htree
      · simpa [Except.map] using hrefused

/-- Everything that the end of a successful run has gone through: `u` is the tree after the outputs
have been written, `v` the one that the run leaves. -/
structure Finishes (t : FileTree) (root : Path) (o : Options) (qs : List Product) (u v : FileTree)
    (outcome : Outcome) : Prop where
  writes : t.writeAll (writes t root o qs) = .ok u
  commit : (Cache.mk (Cache.pathIn root) (loaded? t root o.force)
    (finalLockfile t root o qs) .empty).commit u = (v, .ok outcome.lockfileModified)
  written : outcome.written = (writtenOnes t (recorded t root o.force) qs).map Product.output
  identical : outcome.identical = (identicalOnes t (recorded t root o.force) qs).map Product.output
  rootTemplates : outcome.rootTemplates =
    qs.foldl (fun ps q => insertPath q.located.rootTemplate ps) []

/-- How the end of a run with the disk comes out: an output is refused after those accepted, or the
lockfile cannot be committed, or everything is gone through. -/
theorem finish_disk (t : FileTree) (root : Path) (o : Options) (qs : List Product) :
    ∃ u, t.writeAll (t.accepted (writes t root o qs)) = .ok u ∧
      ((t.accepted (writes t root o qs) ≠ writes t root o qs ∧
          (∃ f, (finish Writer.disk root (gathered t root o qs) t ()).result = .error f) ∧
          (finish Writer.disk root (gathered t root o qs) t ()).tree = u) ∨
        (t.accepted (writes t root o qs) = writes t root o qs ∧ ∃ e,
          (Cache.mk (Cache.pathIn root) (loaded? t root o.force) (finalLockfile t root o qs)
            .empty).commit u =
              ((finish Writer.disk root (gathered t root o qs) t ()).tree, .error e) ∧
          ∃ f, (finish Writer.disk root (gathered t root o qs) t ()).result = .error f) ∨
        ∃ outcome, (finish Writer.disk root (gathered t root o qs) t ()).result = .ok outcome ∧
          Finishes t root o qs u (finish Writer.disk root (gathered t root o qs) t ()).tree
            outcome) := by
  obtain ⟨htree, hwritten, hrefused⟩ := emit_disk (writes t root o qs) t
  refine ⟨_, htree, ?_⟩
  unfold finish
  rw [cache_gathered, pending_gathered]
  generalize emit Writer.disk (writes t root o qs) t () = emission at htree hwritten hrefused ⊢
  obtain ⟨told, written, u, state, refused⟩ := emission
  dsimp only at htree hwritten hrefused ⊢
  cases refused with
  | some f => exact .inl ⟨fun hall => absurd (hrefused.mpr hall) (by simp), ⟨f, rfl⟩, rfl⟩
  | none =>
    have hall := hrefused.mp rfl
    dsimp only
    generalize hc : (Cache.mk (Cache.pathIn root) (loaded? t root o.force)
      (finalLockfile t root o qs) .empty).commit u = committed
    obtain ⟨v, answer⟩ := committed
    cases answer with
    | error e => exact .inr (.inl ⟨hall, e, rfl, _, rfl⟩)
    | ok modified =>
      refine .inr (.inr ⟨_, rfl, hall ▸ htree, hc, ?_, identical_gathered, ?_⟩)
      · rw [hwritten, hall]
        simp [Run.writes]
      · exact rootTemplates_foldl t qs _

/-- The end of a run that goes through everything succeeds with what it has gone through. -/
theorem Finishes.finish_eq {u v : FileTree} {outcome : Outcome}
    (h : Finishes t root o qs u v outcome) :
    (finish Writer.disk root (gathered t root o qs) t ()).result = .ok outcome ∧
      (finish Writer.disk root (gathered t root o qs) t ()).tree = v := by
  have hall := accepted_of_writeAll h.writes
  obtain ⟨w, hw, ⟨hnot, -⟩ | ⟨-, e, hc, -⟩ | ⟨outcome', hresult, h'⟩⟩ := finish_disk t root o qs
  · exact absurd hall hnot
  · obtain rfl : w = u := Except.ok.inj (hw.symm.trans (hall.symm ▸ h.writes))
    simp [h.commit] at hc
  · obtain rfl : w = u := Except.ok.inj (h'.writes.symm.trans h.writes)
    obtain ⟨htree, hmodified⟩ := Prod.mk.inj (h'.commit.symm.trans h.commit)
    refine ⟨?_, htree⟩
    obtain ⟨written, identical, rootTemplates, modified⟩ := outcome
    obtain ⟨written', identical', rootTemplates', modified'⟩ := outcome'
    obtain rfl : written' = written := h'.written.trans h.written.symm
    obtain rfl : identical' = identical := h'.identical.trans h.identical.symm
    obtain rfl : rootTemplates' = rootTemplates := h'.rootTemplates.trans h.rootTemplates.symm
    obtain rfl : modified' = modified := Except.ok.inj hmodified
    exact hresult

/-- The end of a run is gone through in a tree that differs at most at the place of the lockfile and
where its temporary sibling leads, if the same is to be written and recorded there. A lockfile that
is saved leaves no difference. -/
theorem Finishes.exists_of_agreeOff {u w v : FileTree} {outcome : Outcome} {top : Location}
    {off : Location → Prop} (h : Finishes t root o qs w v outcome) (hr : Rooted t root top)
    (hu : WellFormed u) (hagree : AgreeOff off t u)
    (hoff : ∀ loc, off loc →
      loc = top ++ [fileName] ∨ t.target? (temporaryIn root) .written = some loc)
    (hloaded : loaded? u root o.force = loaded? t root o.force)
    (hidentical : ∀ q ∈ qs, q.isIdentical u (recorded u root o.force) =
      q.isIdentical t (recorded t root o.force))
    (hfinal : finalLockfile u root o qs = finalLockfile t root o qs) :
    ∃ w' v', Finishes u root o qs w' v' outcome ∧
      (Same v v' ∨ outcome.lockfileModified = false ∧ v = w ∧ v' = w' ∧ AgreeOff off w w') := by
  have hwrittenOnes : writtenOnes u (recorded u root o.force) qs =
      writtenOnes t (recorded t root o.force) qs :=
    List.filter_congr fun q hq => by rw [hidentical q hq]
  have hidenticalOnes : identicalOnes u (recorded u root o.force) qs =
      identicalOnes t (recorded t root o.force) qs := List.filter_congr hidentical
  have hwrites : Run.writes u root o qs = Run.writes t root o qs := by
    rw [Run.writes, Run.writes, hwrittenOnes]
  obtain ⟨w', hw', hleft⟩ := hagree.exists_writeAll hr.wellFormed hu h.writes
  have hwritten := written_of_writeAll hr.wellFormed h.writes
  have hwf := (written_of_writeAll hu hw').wellFormed
  have hends : ∀ v', (Cache.mk (Cache.pathIn root) (loaded? t root o.force)
      (finalLockfile t root o qs) .empty).commit w' = (v', .ok outcome.lockfileModified) →
      Finishes u root o qs w' v' outcome := fun v' hcommit =>
    ⟨hwrites ▸ hw', by rw [hloaded, hfinal]; exact hcommit, by rw [h.written, hwrittenOnes],
      by rw [h.identical, hidenticalOnes], h.rootTemplates⟩
  rcases commit_eq_ok_iff.mp h.commit with ⟨hm, hsame, rfl⟩ | ⟨hm, hne, hsave⟩
  · exact ⟨w', w', hends w' (commit_eq_ok_iff.mpr (.inl ⟨hm, hsame, rfl⟩)),
      .inr ⟨hm, rfl, rfl, hleft⟩⟩
  · obtain ⟨v', hsave', hsame⟩ := exists_save_of_agreeOff hleft
      (fun loc hl => (hoff loc hl).imp_right ((hwritten.sameFrame.target?_eq _ _).trans ·))
      (hr.of_sameFrame hwritten.sameFrame hwritten.wellFormed) hwf hsave
    exact ⟨w', v', hends v' (commit_eq_ok_iff.mpr (.inr ⟨hm, hne, hsave'⟩)), .inl hsame⟩

/-- A walk over files succeeds if all of them are rendered and the end is gone through. -/
theorem onFiles_eq_ok_iff (hp : prepare t root context engine o = .ok s) {v : FileTree}
    {outcome : Outcome} :
    ((onFiles Writer.disk s o.force files ()).result = .ok outcome ∧
        (onFiles Writer.disk s o.force files ()).tree = v) ↔
      ∃ qs u, recalled s [] files = .ok qs ∧ Finishes t root o qs u v outcome := by
  constructor
  · rintro ⟨hresult, rfl⟩
    by_cases hq : ∃ qs, recalled s [] files = .ok qs
    · obtain ⟨qs, hq⟩ := hq
      obtain ⟨lines, hlines⟩ := onFiles_of_recalled hp hq Writer.disk ()
      rw [hlines] at hresult ⊢
      obtain ⟨u, -, ⟨-, ⟨f, hf⟩, -⟩ | ⟨-, e, -, f, hf⟩ | ⟨outcome', hr, hfinishes⟩⟩ :=
        finish_disk t root o qs
      · simp [hf] at hresult
      · simp [hf] at hresult
      · obtain rfl : outcome' = outcome := Except.ok.inj (hr.symm.trans hresult)
        exact ⟨qs, u, hq, hfinishes⟩
    · obtain ⟨f, hf, -⟩ := onFiles_of_not_recalled hp hq Writer.disk ()
      simp [hf] at hresult
  · rintro ⟨qs, u, hq, hfinishes⟩
    obtain ⟨lines, hlines⟩ := onFiles_of_recalled hp hq Writer.disk ()
    rw [hlines]
    exact hfinishes.finish_eq

/-- Everything that a successful run has gone through. -/
structure Completed (t : FileTree) (root : Path) (context : KeyMap Json) (engine : Engine)
    (o : Options) (s : Setting) (files : List String) (qs : List Product) (u v : FileTree)
    (outcome : Outcome) : Prop extends Finishes t root o qs u v outcome where
  rendering : Rendering t root context engine o s files qs

/-- How a run with the disk ends that has rendered everything: an output is refused after those
accepted, or the lockfile cannot be committed, or it completes. -/
theorem run_disk_of_rendering (h : Rendering t root context engine o s files qs) :
    ∃ u, t.writeAll (t.accepted (writes t root o qs)) = .ok u ∧
      ((t.accepted (writes t root o qs) ≠ writes t root o qs ∧
          (∃ f, (run Writer.disk t root context engine o ()).result = .error f) ∧
          (run Writer.disk t root context engine o ()).tree = u) ∨
        (t.accepted (writes t root o qs) = writes t root o qs ∧ ∃ e,
          (Cache.mk (Cache.pathIn root) (loaded? t root o.force) (finalLockfile t root o qs)
            .empty).commit u = ((run Writer.disk t root context engine o ()).tree, .error e) ∧
          ∃ f, (run Writer.disk t root context engine o ()).result = .error f) ∨
        ∃ outcome, (run Writer.disk t root context engine o ()).result = .ok outcome ∧
          Completed t root context engine o s files qs u
            (run Writer.disk t root context engine o ()).tree outcome) := by
  obtain ⟨lines, hrun⟩ := run_of_rendering h Writer.disk ()
  obtain ⟨u, hu, hends⟩ := finish_disk t root o qs
  refine ⟨u, hu, ?_⟩
  rw [hrun]
  exact hends.imp_right (Or.imp_right fun ⟨outcome, hr, hf⟩ => ⟨outcome, hr, hf, h⟩)

theorem exists_completed {outcome : Outcome}
    (h : (run Writer.disk t root context engine o ()).result = .ok outcome) :
    ∃ s files qs u, Completed t root context engine o s files qs u
      (run Writer.disk t root context engine o ()).tree outcome := by
  by_cases hr : ∃ s files qs, Rendering t root context engine o s files qs
  · obtain ⟨s, files, qs, hr⟩ := hr
    have hrun := run_eq_onFiles hr.prepared hr.selected Writer.disk ()
    rw [hrun] at h ⊢
    obtain ⟨qs', u, hq, hfinishes⟩ := (onFiles_eq_ok_iff hr.prepared).mp ⟨h, rfl⟩
    exact ⟨s, files, qs', u, hfinishes, hr.prepared, hr.selected, hq⟩
  · obtain ⟨f, hf, -⟩ := run_of_not_rendering hr Writer.disk ()
    simp [hf] at h

/-- A run that goes through everything succeeds with what it has gone through. -/
theorem Completed.run_eq {u v : FileTree} {outcome : Outcome}
    (h : Completed t root context engine o s files qs u v outcome) :
    (run Writer.disk t root context engine o ()).result = .ok outcome ∧
      (run Writer.disk t root context engine o ()).tree = v := by
  rw [run_eq_onFiles h.rendering.prepared h.rendering.selected]
  exact (onFiles_eq_ok_iff h.rendering.prepared).mpr ⟨qs, u, h.rendering.recalled, h.toFinishes⟩

namespace Completed

variable {u v : FileTree} {outcome : Outcome}

theorem rooted (h : Completed t root context engine o s files qs u v outcome) (hw : WellFormed t) :
    Rooted t root s.locator.location := h.rendering.rooted hw

theorem written_tree (h : Completed t root context engine o s files qs u v outcome)
    (hw : WellFormed t) : Written t u (Run.writes t root o qs) := written_of_writeAll hw h.writes

theorem rooted_written (h : Completed t root context engine o s files qs u v outcome)
    (hw : WellFormed t) : Rooted u root s.locator.location :=
  (h.rooted hw).of_sameFrame (h.written_tree hw).sameFrame (h.written_tree hw).wellFormed

/-- The lockfile is as it was loaded, or it has been saved. -/
theorem unmodified_or_saved (h : Completed t root context engine o s files qs u v outcome)
    (hw : WellFormed t) :
    (outcome.lockfileModified = false ∧
      loaded? t root o.force = some (finalLockfile t root o qs) ∧ v = u) ∨
    (outcome.lockfileModified = true ∧
      loaded? t root o.force ≠ some (finalLockfile t root o qs) ∧
      ∃ target u', Saved (finalLockfile t root o qs) root s.locator.location target u u' v) := by
  rcases commit_eq_ok_iff.mp h.commit with hsame | ⟨hmodified, hne, hsave⟩
  · exact .inl hsame
  · exact .inr ⟨hmodified, hne, exists_saved (h.rooted_written hw) hsave⟩

/-- The lockfile has been modified if none was loaded or what is on record has changed. -/
theorem modified_iff (h : Completed t root context engine o s files qs u v outcome)
    (hw : WellFormed t) : outcome.lockfileModified = true ↔
      loaded? t root o.force = none ∨ finalFiles t root o qs ≠ recorded t root o.force := by
  have hsame : loaded? t root o.force = some (finalLockfile t root o qs) ↔
      ¬ (loaded? t root o.force = none ∨ finalFiles t root o qs ≠ recorded t root o.force) := by
    rcases loaded?_eq t root o.force with hl | hl
    · simp [hl]
    · simp [hl, finalLockfile, eq_comm]
  rcases h.unmodified_or_saved hw with ⟨hm, hl, -⟩ | ⟨hm, hl, -⟩
  · exact ⟨fun h => by simp [hm] at h, fun h => absurd h (hsame.mp hl)⟩
  · exact ⟨fun _ => not_not.mp fun hn => hl (hsame.mpr hn), fun _ => hm⟩

end Completed

/-- What is written is on record afterwards. -/
theorem finalFiles_get? (t : FileTree) (root : Path) (o : Options) (qs : List Product)
    (key : String) : (finalFiles t root o qs).get? key =
      (((writtenOnes t (recorded t root o.force) qs).reverse.find? fun q => q.key == key).map
        Product.fingerprint).or
      (if t.exists? (root.join key) then (recorded t root o.force).get? key else none) := by
  rw [finalFiles, KeyMap.get?_union, KeyMap.get?_keep, KeyMap.get?_insertAll, ← List.map_reverse,
    List.find?_map, KeyMap.get?_empty, Option.or_none, Option.map_map]
  rfl

end Run
end Stencil
