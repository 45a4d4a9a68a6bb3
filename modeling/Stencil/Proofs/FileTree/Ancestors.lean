import Stencil.Proofs.FileTree.FailedReplacement
import Stencil.Proofs.Path.Parent

/-! Making the directory of a file. If it can be made, the directories that were missing on the way
to it have been made and nothing else; if something on the way is no directory, nothing is made. -/
namespace Stencil
namespace FileTree

open Stencil.Path Relation

/-! ## Steps in a tree that has grown -/

section

variable {t u v : FileTree} {e e' : Ending} {a b : Stage}

theorem Step.grown (h : Step t e a b) (hg : Grown t u) : Step u e a b := by
  cases h with
  | idle h => exact .idle h
  | up => exact .up
  | enter h hd => exact .enter h (hg.keeps _ _ hd)
  | link h hl hk => exact .link h (hg.keeps _ _ hl) hk

theorem Steps.grown (h : Steps t e a b) (hg : Grown t u) : Steps u e a b := by
  induction h with
  | refl => exact .refl
  | tail _ hs ih => exact .tail ih (hs.grown hg)

theorem Grown.outset_eq (hg : Grown t u) (p : Path) : u.outset p = t.outset p := by
  rw [outset, outset, hg.workDir]

/-- A link at the end of steps that others come after is followed, whatever becomes of the last
step. -/
theorem Extends.kept {q : List String} (hq : q ≠ []) : Extends .followed .kept q :=
  ⟨fun _ _ h => ⟨h.notIdle, h.notUp, by simp, h.short⟩, by simp [hq]⟩

theorem Extends.of_kept : Extends .kept .followed [] :=
  ⟨fun _ _ h => by simpa using h.followed, by simp⟩

/-- Steps that do not lead to a directory lead nowhere beyond. -/
theorem exists_failed_beyond {n : Nat} {d : Location} {p q : List String}
    (hx : Extends .followed e q) (hq : q ≠ [])
    (h : ∀ dir, t.outcome .followed ⟨n, d, p⟩ ≠ .found dir .directory) :
    ∃ kind, t.outcome e ⟨n, d, p ++ q⟩ = .failed kind := by
  obtain ⟨b, hb, hend⟩ := exists_ends t .followed ⟨n, d, p⟩
  rw [outcome_of_steps (hb.append hx)]
  revert hend h
  generalize t.outcome .followed ⟨n, d, p⟩ = place
  intro h hend
  cases hend with
  | here => exact absurd rfl (h _)
  | @barred m dir s rest hidle hup hnot =>
    have hnot' : ¬ Looks e s (rest ++ q) := fun hl => hnot ⟨hl.notIdle, hl.notUp, by simp, hl.short⟩
    obtain ⟨kind, hkind⟩ := outcome_of_not_looks hidle hup hnot'
    exact ⟨kind, hkind _ _ _⟩
  | missing hl hm => exact ⟨_, outcome_of_ends (.lost (hx.looks _ _ hl) (by simpa) hm)⟩
  | lost hl hr hm => exact ⟨_, outcome_of_ends (.lost (hx.looks _ _ hl) (by simp [hr]) hm)⟩
  | file hl hf => exact ⟨_, outcome_of_ends (.blocked (hx.looks _ _ hl) (by simpa) hf)⟩
  | blocked hl hr hf =>
    exact ⟨_, outcome_of_ends (.blocked (hx.looks _ _ hl) (by simp [hr]) hf)⟩
  | kept _ _ hk => simp at hk
  | exhausted hl hlink hk =>
    exact ⟨_, outcome_of_ends (.exhausted (hx.looks _ _ hl) hlink (hx.goesOn _ hk))⟩

end

/-! ## From a directory to what is in it -/

section

variable {t u : FileTree} {p q : Path} {name : String} {dots idle : List String} {dir : Location}
  {k : Nat} {e : Ending}

theorem exists_steps_of_resolve (h : t.resolve q = .found dir .directory) :
    Admissible q ∧ ∃ k, Steps t .followed (t.outset q) ⟨k, dir, []⟩ := by
  have htarget : t.target? q .followed = some dir := by
    rw [target?, ← resolve, h]
    rfl
  have ha := admissible_of_target? htarget
  rw [resolve, locate_eq t ha] at h
  exact ⟨ha, exists_steps_of_directory (r := []) (by simp) (by simpa [outset] using h)⟩

/-- The steps to a file lead by way of its directory. -/
theorem Spelt.exists_steps (h : Spelt p q name dots idle)
    (hs : Steps t .followed (t.outset q) ⟨k, dir, []⟩)
    (hx : Extends .followed e (dots ++ name :: idle)) :
    Steps t e (t.outset p) ⟨k, dir, name :: idle⟩ := by
  have hout : t.outset p =
      ⟨maxLinks, start t.workDir q.text, steps q.text ++ (dots ++ name :: idle)⟩ := by
    rw [outset, h.steps_eq, start_congr h.startsWith]
  rw [hout]
  exact (hs.append hx).trans (steps_idle h.before (name :: idle))

/-- A name that is free is vacant, or it cannot be taken. -/
theorem outcome_of_free {a : Stage} (hname : IsEntry name) (hs : Steps t e a ⟨k, dir, [name]⟩)
    (hfree : t.get? (dir ++ [name]) = none) :
    (t.outcome e a = .vacant dir name ∧ IsName name) ∨ ∃ kind, t.outcome e a = .failed kind := by
  rw [outcome_of_steps hs]
  by_cases hl : Looks e name []
  · exact .inl ⟨outcome_of_ends (.missing hl hfree), hl.isName hname.slash_notMem⟩
  · obtain ⟨kind, hkind⟩ := outcome_of_not_looks (by simp [hname.ne_dot, hname.ne_empty])
      hname.ne_dots hl
    exact .inr ⟨kind, hkind _ _ _⟩

/-- A directory put in a vacant place is found there. -/
theorem outcome_of_vacant {a : Stage} (h : t.outcome .kept a = .vacant dir name) (hg : Grown t u)
    (hd : u.get? (dir ++ [name]) = some .directory) :
    u.outcome .followed a = .found (dir ++ [name]) .directory := by
  obtain ⟨b, hb, hend⟩ := exists_ends t .kept a
  rw [h] at hend
  cases hend with
  | missing hl hm =>
    have hsteps := (hb.append Extends.of_kept).grown hg
    simp only [List.append_nil] at hsteps
    rw [outcome_of_steps (hsteps.tail (.enter hl.followed hd))]
    exact outcome_of_ends .here

end

/-! ## Directories made on the way to one -/

/-- The directories that were missing on the way to one have been made. -/
structure Made (t u : FileTree) (dir : Location) : Prop where
  grown : Grown t u
  directory : u.get? dir = some .directory
  adds : ∀ loc, (u.get? loc).isSome → (t.get? loc).isSome ∨ loc <+: dir
  /-- Nothing is made if the directory is there -/
  unchanged : t.get? dir = some .directory → u = t

namespace Made

variable {t u v : FileTree} {dir : Location} {name : String}

theorem refl (hw : WellFormed t) (hd : t.get? dir = some .directory) : Made t t dir :=
  ⟨.refl hw, hd, fun _ h => .inl h, fun _ => rfl⟩

theorem get?_eq (h : Made t u dir) (loc : Location) :
    u.get? loc = if loc <+: dir then some .directory else t.get? loc := by
  split
  · next hp =>
    obtain ⟨below, rfl⟩ := hp
    by_cases hb : below = []
    · simpa [hb] using h.directory
    · exact h.grown.wellFormed.directory_of_prefix hb (by simp [h.directory])
  · next hp =>
    cases ht : t.get? loc with
    | some entry => exact h.grown.keeps loc entry ht
    | none =>
      by_contra hu
      rcases h.adds loc (Option.isSome_iff_ne_none.mpr hu) with hs | hp'
      · simp [ht] at hs
      · exact hp hp'

/-- In a directory that has just been made there is nothing. -/
theorem free (h : Made t u dir) (hw : WellFormed t) (hmissing : t.get? dir ≠ some .directory)
    (name : String) : u.get? (dir ++ [name]) = none := by
  by_contra hs
  rcases h.adds _ (Option.isSome_iff_ne_none.mpr hs) with hs | hp
  · exact hmissing (hw.above dir name hs)
  · have hle := hp.length_le
    simp only [List.length_append, List.length_singleton] at hle
    omega

theorem below (h : Made t u dir) (hw : WellFormed t) (hmissing : t.get? dir ≠ some .directory)
    (g : Made u v (dir ++ [name])) : Made t v (dir ++ [name]) := by
  refine ⟨h.grown.trans g.grown, g.directory, fun loc hs => ?_, fun hd => ?_⟩
  · rcases g.adds loc hs with hs | hp
    · exact (h.adds loc hs).imp_right fun hp => hp.trans (List.prefix_append dir [name])
    · exact .inr hp
  · exact absurd (hw.above dir name (by simp [hd])) hmissing

end Made

section

variable {t u : FileTree} {p q a : Path}

/-- A directory that is made takes a vacant place. -/
theorem made_of_makeDirectory (hw : WellFormed t) (hp : p.withoutIdle = p)
    (h : t.makeDirectory p = .ok u) : ∃ dir name, t.locate p .kept = .vacant dir name ∧
      u.resolve p = .found (dir ++ [name]) .directory ∧ Made t u (dir ++ [name]) := by
  have hg := grown_of_makeDirectory hw h
  unfold makeDirectory at h
  rw [(trimmed_spec hp).2] at h
  cases hplace : t.locate p .kept with
  | found loc entry => simp [hplace] at h
  | failed kind => simp [hplace] at h
  | vacant dir name =>
    rw [hplace] at h
    obtain rfl : t.set (dir ++ [name]) .directory = u := Except.ok.inj h
    have hfree : t.get? (dir ++ [name]) = none := by
      have hentry := entryAt?_locate hw p .kept
      rw [target?, hplace] at hentry
      exact hentry.symm
    have hmade : (t.set (dir ++ [name]) .directory).get? (dir ++ [name]) = some .directory :=
      get?_set_self t _ (by simp)
    have htarget : t.target? p .kept = some (dir ++ [name]) := by
      rw [target?, hplace]
      rfl
    have ha := admissible_of_target? htarget
    refine ⟨dir, name, rfl, ?_, hg, hmade, fun loc hs => ?_, by simp [hfree]⟩
    · rw [locate_eq t ha] at hplace
      rw [resolve, locate_eq _ ha, hg.outset_eq]
      exact outcome_of_vacant hplace hg hmade
    · rw [get?_set _ _ _ (by simp)] at hs
      split at hs
      · next he => exact .inr (he ▸ List.prefix_rfl)
      · exact .inl hs

/-- A directory that may be there is there, or it is made. -/
theorem ensureOne_cases (hw : WellFormed t) (hp : p.withoutIdle = p) (h : t.ensureOne p = .ok u) :
    (∃ dir, t.resolve p = .found dir .directory ∧ u = t) ∨
      ∃ dir name, t.locate p .kept = .vacant dir name ∧
        u.resolve p = .found (dir ++ [name]) .directory ∧ Made t u (dir ++ [name]) := by
  unfold ensureOne at h
  split at h
  · next hmade =>
    obtain rfl := Except.ok.inj h
    exact .inr (made_of_makeDirectory hw hp hmade)
  · split at h
    · next hd =>
      obtain ⟨dir, hdir⟩ := entryAt?_eq_some_iff.mp ((isDirectory_iff p).mp hd)
      exact .inl ⟨dir, hdir, (Except.ok.inj h).symm⟩
    · simp at h

/-- A chain of directories is made in one go, or after the rest of it. -/
theorem makeChain_cases {above : List Path} (h : t.makeChain (p :: above) = (u, .ok ())) :
    t.ensureOne p = .ok u ∨ ∃ w e, t.ensureOne p = .error e ∧ t.makeChain above = (w, .ok ()) ∧
      w.ensureOne p = .ok u := by
  unfold makeChain at h
  split at h
  · next hok => exact .inl (hok.trans (by simpa using h))
  next e he =>
  split at h
  · split at h
    · simp at h
    next w hw =>
    split at h
    · next hok => exact .inr ⟨w, e, he, hw, hok.trans (by simpa using h)⟩
    · simp at h
  · simp at h

/-- A chain of directories begins with the path itself, and goes on with its parent's. -/
theorem ancestry_succ (fuel : Nat) (hne : p.text ≠ "") :
    ancestry (fuel + 1) p = p :: ((p.parent?.map (ancestry fuel)).getD []) := by
  rw [ancestry, if_neg hne]
  cases p.parent? <;> rfl

/-- A directory that could only be made after its parent is new in it. -/
theorem Made.of_retry {w : FileTree} {name : String} {dots : List String} {dir : Location}
    {e : IoError} (hm : Made t w dir) (hw : WellFormed t) (hs : Spelt p q name dots [])
    (hp : p.withoutIdle = p) (hq : w.resolve q = .found dir .directory)
    (herror : t.ensureOne p = .error e) (h : w.ensureOne p = .ok u) :
    u.resolve p = .found (dir ++ [name]) .directory ∧ Made t u (dir ++ [name]) := by
  have hmissing : t.get? dir ≠ some .directory := by
    intro hd
    obtain rfl := hm.unchanged hd
    simp [h] at herror
  obtain ⟨-, k, hsteps⟩ := exists_steps_of_resolve hq
  have hfree := hm.free hw hmissing name
  have hlast : dots ++ [name] ≠ [] := by simp
  rcases ensureOne_cases hm.grown.wellFormed hp h with ⟨there, hthere, -⟩ | ⟨d, s, hvacant, hu, hmu⟩
  · -- What is in no place yet is no directory.
    have ha := admissible_of_isSome (t := w) (p := p) (by simp [entryAt?, hthere, Place.entryAt?])
    rw [resolve, locate_eq w ha] at hthere
    rcases outcome_of_free hs.isEntry (hs.exists_steps hsteps (.followed _)) hfree with
      ⟨hvacant, -⟩ | ⟨kind, hfailed⟩
    · simp [hvacant] at hthere
    · simp [hfailed] at hthere
  · have htarget : w.target? p .kept = some (d ++ [s]) := by
      rw [target?, hvacant]
      rfl
    have ha := admissible_of_target? htarget
    rw [locate_eq w ha] at hvacant
    rcases outcome_of_free hs.isEntry (hs.exists_steps hsteps (.kept hlast)) hfree with
      ⟨hplace, -⟩ | ⟨kind, hfailed⟩
    · obtain ⟨rfl, rfl⟩ := Place.vacant.inj (hplace.symm.trans hvacant)
      exact ⟨hu, hm.below hw hmissing hmu⟩
    · simp [hfailed] at hvacant

/-- If a path's chain of directories can be made and is not empty, the path leads to a directory,
and those that were missing on the way to it have been made. -/
theorem made_of_makeChain (hw : WellFormed t) (fuel : Nat) (hp : p.withoutIdle = p)
    (hup : ".." ∉ steps p.text) (h : t.makeChain (ancestry fuel p) = (u, .ok ())) :
    (ancestry fuel p = [] ∧ u = t) ∨ ∃ dir, u.resolve p = .found dir .directory ∧ Made t u dir := by
  have hnothing : ∀ v, t.makeChain [] = (v, .ok ()) → v = t := fun v hv => (Prod.mk.inj hv).1.symm
  induction fuel generalizing p u with
  | zero => exact .inl ⟨rfl, hnothing u h⟩
  | succ fuel ih =>
    by_cases hne : p.text = ""
    · have hnil : ancestry (fuel + 1) p = [] := if_pos hne
      exact .inl ⟨hnil, hnothing u (hnil ▸ h)⟩
    rw [ancestry_succ fuel hne] at h
    rcases makeChain_cases h with h | ⟨w, e, herror, habove, h⟩
    · rcases ensureOne_cases hw hp h with ⟨dir, hdir, rfl⟩ | ⟨dir, name, -, hu, hmade⟩
      · exact .inr ⟨dir, hdir, .refl hw (get?_of_found hw hdir)⟩
      · exact .inr ⟨_, hu, hmade⟩
    -- The second attempt is another one only if something has been made in between.
    have hchanged : w ≠ t := by
      intro he
      rw [he, herror] at h
      simp at h
    cases hq : p.parent? with
    | none =>
      rw [hq] at habove
      exact absurd (hnothing w habove) hchanged
    | some q =>
      rw [hq] at habove
      by_cases hqe : q.text = ""
      · have hnil : ancestry fuel q = [] := by cases fuel <;> simp [ancestry, hqe]
        exact absurd (hnothing w (hnil ▸ habove)) hchanged
      obtain ⟨name, dots, idle, hs, htrim⟩ := exists_spelt_of_parent? hq hqe hup
      obtain rfl := htrim hp
      rcases ih hs.trimmed (hs.up_notMem hup) habove with ⟨-, hsame⟩ | ⟨dir, hdir, hmade⟩
      · exact absurd hsame hchanged
      · exact .inr ⟨_, hmade.of_retry hw hs hp hdir herror h⟩

/-- The directory that the file of a path is in. -/
def IsIn (t : FileTree) (p : Path) (dir : Location) : Prop :=
  ∃ q, p.parent? = some q ∧
    if q.text = "" then dir = t.workDir else t.resolve q = .found dir .directory

/-- If the directory of a file can be made, the directories that were missing on the way to it have
been made. -/
theorem exists_made_of_ensureParent {name : String} (hw : WellFormed t)
    (hname : p.fileName? = some name) (hup : ".." ∉ steps p.text)
    (h : t.ensureParent p = (u, .ok ())) : ∃ dir, u.IsIn p dir ∧ Made t u dir := by
  obtain ⟨q, dots, idle, hs, -⟩ := exists_spelt hname
  unfold ensureParent at h
  simp only [hs.parent] at h
  split at h
  · next hqe =>
    obtain rfl := (Prod.mk.inj h).1
    exact ⟨t.workDir, ⟨q, hs.parent, by rw [if_pos hqe]⟩, .refl hw hw.workDir⟩
  next hqe =>
  suffices hmade : ∃ dir, u.resolve q = .found dir .directory ∧ Made t u dir by
    obtain ⟨dir, hdir, hmade⟩ := hmade
    exact ⟨dir, ⟨q, hs.parent, by rwa [if_neg hqe]⟩, hmade⟩
  unfold ensureDirectory at h
  split at h
  · split at h
    · next hd =>
      obtain ⟨dir, hdir⟩ := entryAt?_eq_some_iff.mp ((isDirectory_iff q).mp hd)
      obtain rfl := (Prod.mk.inj h).1
      exact ⟨dir, hdir, .refl hw (get?_of_found hw hdir)⟩
    · simp at h
  · split at h
    · next v hv =>
      obtain rfl := (Prod.mk.inj h).1
      have hsome : ancestry (q.text.length + 1) q ≠ [] := by
        rw [ancestry_succ _ hqe]
        simp
      rcases made_of_makeChain hw _ hs.trimmed (hs.up_notMem hup) hv with ⟨hnil, -⟩ | hmade
      · exact absurd hnil hsome
      · exact hmade
    · simp at h

/-! ## Something in the way -/

/-- Something other than a directory is at a path. -/
structure IsObstacle (t : FileTree) (a : Path) : Prop where
  there : ∃ loc entry, t.locate a .kept = .found loc entry
  notDirectory : t.isDirectory a = false

theorem IsObstacle.ne_empty (h : IsObstacle t a) : a.text ≠ "" := by
  intro he
  obtain ⟨loc, entry, hfound⟩ := h.there
  simp [locate, he] at hfound

/-- No path leads on from what is no directory. -/
theorem exists_failed_of_above {e : Ending} (hne : a.text ≠ "") (ha : t.isDirectory a = false)
    (h : Above a p) (hup : ".." ∉ steps p.text) (he : e ≠ .written) :
    ∃ kind, t.locate p e = .failed kind := by
  by_cases hp : Admissible p
  · obtain ⟨rest, hrest, hsteps, hstart, hprefix⟩ := h.exists_steps hne hup
    have hout : t.outset p = ⟨maxLinks, start t.workDir a.text, steps a.text ++ rest⟩ := by
      rw [outset, hsteps, start_congr hstart]
    rw [locate_eq t hp, hout]
    refine exists_failed_beyond ?_ hrest fun dir hdir => ?_
    · cases e with
      | kept => exact .kept hrest
      | followed => exact .followed rest
      | written => exact absurd rfl he
    · have hfound : t.resolve a = .found dir .directory := by
        rw [resolve, locate_eq t (hp.of_prefix hne hprefix)]
        exact hdir
      simp [isDirectory, hfound] at ha
  · obtain ⟨kind, hkind⟩ := exists_failed_of_not_admissible hp
    exact ⟨kind, hkind t e⟩

theorem isDirectory_of_failed {kind : IoKind} (h : t.locate p .followed = .failed kind) :
    t.isDirectory p = false := by
  simp [isDirectory, resolve, h]

theorem ensureOne_of_makeDirectory {e : IoError} (hd : t.isDirectory p = false)
    (h : t.makeDirectory p = .error e) : t.ensureOne p = .error e := by
  simp [ensureOne, h, hd]

/-- No directory is made where an obstacle is. -/
theorem IsObstacle.ensureOne_eq (h : IsObstacle t a) (ha : a.withoutIdle = a) :
    t.ensureOne a = .error (.of .alreadyExists) := by
  obtain ⟨loc, entry, hfound⟩ := h.there
  refine ensureOne_of_makeDirectory h.notDirectory ?_
  simp [makeDirectory, (trimmed_spec ha).2, hfound]

/-- No directory is made beyond an obstacle. -/
theorem IsObstacle.above (h : IsObstacle t a) (hap : Above a p) (hp : p.withoutIdle = p)
    (hup : ".." ∉ steps p.text) :
    t.isDirectory p = false ∧ ∃ e, t.ensureOne p = .error e := by
  obtain ⟨kind, hfollowed⟩ := exists_failed_of_above (e := .followed) h.ne_empty h.notDirectory hap
    hup (by simp)
  obtain ⟨kind', hkept⟩ := exists_failed_of_above (e := .kept) h.ne_empty h.notDirectory hap hup
    (by simp)
  have hd := isDirectory_of_failed hfollowed
  refine ⟨hd, .of kind', ensureOne_of_makeDirectory hd ?_⟩
  simp [makeDirectory, (trimmed_spec hp).2, hkept]

/-- A chain whose first directory cannot be made changes nothing if the rest of it, where that is
tried, changes nothing. -/
theorem exists_makeChain_of_error {above : List Path} {e : IoError} (he : t.ensureOne p = .error e)
    (h : e.kind = .notFound → (t.makeChain above).1 = t) :
    ∃ e', t.makeChain (p :: above) = (t, .error e') := by
  simp only [makeChain, he]
  by_cases hk : e.kind = .notFound
  · have hsame := h hk
    rw [if_pos hk]
    cases hmade : t.makeChain above with
    | mk w r =>
      obtain rfl : w = t := by rwa [hmade] at hsame
      cases r with
      | error e' => exact ⟨e', rfl⟩
      | ok => exact ⟨e, by simp only [he]⟩
  · exact ⟨e, by rw [if_neg hk]⟩

theorem Above.exists_parent? (h : Above a p) : ∃ q, p.parent? = some q ∧ (a = q ∨ Above a q) := by
  cases h with
  | parent h => exact ⟨a, h, .inl rfl⟩
  | further h g => exact ⟨_, h, .inr g⟩

/-- The directory of what is beyond an obstacle is the obstacle, or beyond it as well. -/
theorem IsObstacle.exists_spelt (h : IsObstacle t a) (hap : Above a p)
    (hup : ".." ∉ steps p.text) : ∃ q name dots idle, Spelt p q name dots idle ∧
      q.text ≠ "" ∧ (a = q ∨ Above a q) := by
  obtain ⟨q, hq, haq⟩ := hap.exists_parent?
  have hqe : q.text ≠ "" := by
    rcases haq with rfl | haq
    · exact h.ne_empty
    · exact haq.ne_empty
  obtain ⟨name, dots, idle, hs, -⟩ := exists_spelt_of_parent? hq hqe hup
  exact ⟨q, name, dots, idle, hs, hqe, haq⟩

/-- A chain of directories that comes by an obstacle is not made, and nothing is changed. -/
theorem IsObstacle.makeChain_spec (h : IsObstacle t a) (fuel : Nat) (hp : p.withoutIdle = p)
    (hup : ".." ∉ steps p.text) (hap : a = p ∨ Above a p) :
    (t.makeChain (ancestry fuel p)).1 = t ∧
      (fuel ≠ 0 → ∃ e, t.makeChain (ancestry fuel p) = (t, .error e)) := by
  induction fuel generalizing p with
  | zero => exact ⟨rfl, fun hne => absurd rfl hne⟩
  | succ fuel ih =>
    suffices herror : ∃ e, t.makeChain (ancestry (fuel + 1) p) = (t, .error e) by
      obtain ⟨e, he⟩ := herror
      exact ⟨congrArg Prod.fst he, fun _ => ⟨e, he⟩⟩
    rcases hap with rfl | hap
    · rw [ancestry_succ _ h.ne_empty]
      exact exists_makeChain_of_error (h.ensureOne_eq hp) fun hk => by simp [IoError.of] at hk
    · obtain ⟨-, e, he⟩ := h.above hap hp hup
      obtain ⟨q, name, dots, idle, hs, -, haq⟩ := h.exists_spelt hap hup
      rw [ancestry_succ _ hap.ne_empty, hs.parent]
      exact exists_makeChain_of_error he fun _ => (ih hs.trimmed (hs.up_notMem hup) haq).1

/-- The directory of a file beyond an obstacle is not made, and nothing is changed. -/
theorem IsObstacle.exists_ensureParent (h : IsObstacle t a) (hap : Above a p)
    (hup : ".." ∉ steps p.text) : ∃ e, t.ensureParent p = (t, .error e) := by
  obtain ⟨q, name, dots, idle, hs, hqe, haq⟩ := h.exists_spelt hap hup
  have hupq := hs.up_notMem hup
  have hd : t.isDirectory q = false := by
    rcases haq with rfl | haq
    · exact h.notDirectory
    · exact (h.above haq hs.trimmed hupq).1
  obtain ⟨e, he⟩ := (h.makeChain_spec (q.text.length + 1) hs.trimmed hupq haq).2 (by simp)
  simp only [ensureParent, hs.parent, hqe, if_false, ensureDirectory, hd, makeDirectories, he]
  split
  · exact ⟨_, rfl⟩
  · exact ⟨_, rfl⟩

/-- Where something is found, its directory is there. -/
theorem ensureParent_of_found {name : String} {loc : Location} {entry : Entry}
    (hname : p.fileName? = some name) (hup : ".." ∉ steps p.text)
    (h : t.locate p .kept = .found loc entry) : t.ensureParent p = (t, .ok ()) := by
  obtain ⟨q, dots, idle, hs, -⟩ := exists_spelt hname
  by_cases hqe : q.text = ""
  · simp [ensureParent, hs.parent, hqe]
  · have hd : t.isDirectory q = true := by
      by_contra hn
      obtain ⟨kind, hkind⟩ := exists_failed_of_above (e := .kept) hqe (by simpa using hn)
        (.parent hs.parent) hup (by simp)
      simp [h] at hkind
    have hthere : t.exists? q = true := by
      rw [exists?_eq, (isDirectory_iff q).mp hd]
      rfl
    simp [ensureParent, hs.parent, hqe, ensureDirectory, hthere, hd]

end

end FileTree
end Stencil
