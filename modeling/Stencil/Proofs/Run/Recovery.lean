import Stencil.Proofs.Run.Atomicity
import Stencil.Proofs.Run.History
import Stencil.Proofs.Run.Idempotence

/-! Runs that are stopped at an output, between two that succeed. The lockfile stays that of the
first, while the outputs are those of all of them. -/
namespace Stencil
namespace Run

open FileTree Lockfile

/-! ## Runs that are stopped -/

/-- What a writer accepts goes to the disk. -/
def IsFaithful {ω : Type} (w : Writer ω) : Prop :=
  ∀ p text t x u y, w p text t x = .ok (u, y) → t.writeText p text = .ok u

section

variable (root : Path) (engine : Engine) (o : Options)

/-- A run that fails as an output is refused, with what its writer has accepted before. -/
def IsStopped (t : FileTree) (accepted : List (Path × String)) (u : FileTree) : Prop :=
  ∃ (context : KeyMap Json) (force : Bool) (ω : Type) (w : Writer ω) (x : ω) (f : Failure)
    (output : Path × String), IsFaithful w ∧
    (runIn (Surroundings.ofWriter w).watched t root context engine { o with force }
      ((t, x), [])).world.2 = accepted.map .accepted ++ [.refused output] ∧
    (run w t root context engine { o with force } x).result = .error f ∧
    (run w t root context engine { o with force } x).tree = u

/-- Runs that have been stopped, one after the other, with all that was accepted. -/
inductive AreStopped : FileTree → List (Path × String) → FileTree → Prop
  | none {t} : AreStopped t [] t
  | next {t u v accepted more} (hfirst : IsStopped root engine o t accepted u)
      (hrest : AreStopped u more v) : AreStopped t (accepted ++ more) v

end

/-- The text that was accepted last for an output. -/
def lastAccepted (accepted : List (Path × String)) (p : Path) : Option String :=
  (accepted.reverse.find? fun e => e.1 == p).map (·.2)

theorem lastAccepted_append (accepted more : List (Path × String)) (p : Path) :
    lastAccepted (accepted ++ more) p = (lastAccepted more p).or (lastAccepted accepted p) := by
  unfold lastAccepted
  rw [List.reverse_append, List.find?_append, Option.map_or]

theorem lastAccepted_eq_none {accepted : List (Path × String)} {p : Path}
    (h : ∀ e ∈ accepted, e.1 ≠ p) : lastAccepted accepted p = none := by
  simpa [lastAccepted] using h

theorem lastAccepted_eq_some {accepted : List (Path × String)} {p : Path} {text : String}
    (h : (p, text) ∈ accepted) (hone : ∀ e ∈ accepted, e.1 = p → e.2 = text) :
    lastAccepted accepted p = some text := by
  unfold lastAccepted
  cases hfind : accepted.reverse.find? fun e => e.1 == p with
  | none =>
    have hnot := List.find?_eq_none.mp hfind _ (List.mem_reverse.mpr h)
    simp at hnot
  | some e =>
    have hpath : e.1 = p := by simpa using List.find?_some hfind
    exact congrArg some (hone e (List.mem_reverse.mp (List.mem_of_find?_eq_some hfind)) hpath)

theorem writeAll_of_handOver {ω : Type} {w : Writer ω} (hw : IsFaithful w)
    {outputs : List (Path × String)} {t u : FileTree} {x y : ω}
    (h : handOver (.ofWriter w) outputs (t, x) = some (u, y)) : t.writeAll outputs = .ok u := by
  induction outputs generalizing t x with
  | nil =>
    obtain ⟨rfl, -⟩ := Prod.mk.inj (Option.some.inj h)
    rfl
  | cons first rest ih =>
    obtain ⟨p, text⟩ := first
    unfold handOver Surroundings.ofWriter at h
    dsimp only at h
    cases hwrite : w p text t x with
    | error e => simp [hwrite] at h
    | ok next =>
      obtain ⟨t', x'⟩ := next
      rw [hwrite] at h
      unfold writeAll
      rw [hw _ _ _ _ _ _ hwrite]
      exact ih h

theorem selected_of_walkOf {s : Setting} {files : List String} (h : walkOf s = files.map .ok) :
    Selection.files s.tree s.ignore s.root = .ok files := by
  unfold walkOf at h
  cases hs : Selection.files s.tree s.ignore s.root with
  | error f =>
    rw [hs] at h
    cases files <;> simp at h
  | ok found =>
    rw [hs] at h
    exact congrArg Except.ok (List.map_injective_iff.mpr (fun _ _ => Except.ok.inj) h)

variable {t u v w : FileTree} {root : Path} {context : KeyMap Json} {engine : Engine} {o : Options}
  {s : Setting} {files : List String} {qs : List Product} {accepted : List (Path × String)}
  {outcome : Outcome}

theorem RendersAll.rendering {files : List String}
    (h : RendersAll walkOf t root context engine o s files qs) :
    Rendering t root context engine o s files qs := by
  refine ⟨h.prepared, ?_, h.recalled⟩
  have hselected := selected_of_walkOf h.walked
  rwa [tree_of_prepare h.prepared, root_of_prepare h.prepared] at hselected

/-- A run that has been stopped has rendered everything, and written what was accepted. -/
theorem IsStopped.exists_rendering (h : IsStopped root engine o t accepted u) :
    ∃ context force s files qs, Rendering t root context engine { o with force } s files qs ∧
      (∀ e ∈ accepted, ∃ q ∈ qs, e.1 = q.output) ∧ t.writeAll accepted = .ok u := by
  obtain ⟨context, force, ω, w, x, f, output, hfaithful, hcalls, hfails, rfl⟩ := h
  have hrun := runIn_ofWriter w t root context engine { o with force } x
  have hstop := stopsAt_ofCalls (congrArg Left.result hrun |>.trans hfails)
  have hplace : Stop.ofCalls (accepted.map Call.accepted ++ [.refused output]) =
      .writing accepted.length := by simp [Stop.ofCalls]
  rw [hcalls, hplace] at hstop
  obtain ⟨s, files, qs, last, y, hrenders, hrefused, hworld⟩ := hstop
  have hrendering : Rendering t root context engine { o with force } s files qs :=
    RendersAll.rendering hrenders
  have hsame : accepted = (writes t root { o with force } qs).take accepted.length := by
    rw [hworld] at hcalls
    have hmap := (List.append_inj' hcalls rfl).1
    exact (List.map_injective_iff.mpr (fun _ _ => Call.accepted.inj) hmap).symm
  obtain ⟨z, e, haccepted, hlast, -⟩ := hrefused.refused
  have hkept : y = z := by
    unfold Surroundings.ofWriter at hlast
    dsimp only at hlast
    split at hlast
    · exact (Prod.mk.inj hlast).1.symm
    · simp at hlast
  have htree : (run w t root context engine { o with force } x).tree = z.1 := by
    have hleft := congrArg Left.world hrun
    rw [runIn_watched _ _ _ _ _ _ _ [], Left.unwatched, hworld, hkept] at hleft
    exact congrArg Prod.fst hleft.symm
  refine ⟨context, force, s, files, qs, hrendering, fun e he => ?_, ?_⟩
  · rw [hsame] at he
    obtain ⟨q, hq, rfl⟩ := List.mem_map.mp (List.mem_of_mem_take he)
    exact ⟨q, List.mem_of_mem_filter hq, rfl⟩
  · rw [htree, hsame]
    exact writeAll_of_handOver hfaithful haccepted

/-! ## What stays through it -/

/-- Outputs that keep clear of one another, of what a run reads and of the lockfile. -/
structure KeepsClear (s : Setting) (o : Options) (qs : List Product) : Prop where
  inputs : KeepsInputs s o qs
  lockfile : SparesLockfile s o qs
  link : ∀ q ∈ qs, ∀ loc ∈ s.tree.target? q.output .followed,
    s.tree.target? (Cache.pathIn s.root) .followed ≠ some loc
  apart : ∀ a ∈ qs, ∀ b ∈ qs, ∀ loc ∈ s.tree.target? a.output .followed,
    s.tree.target? b.output .followed = some loc → a = b

instance (s : Setting) (o : Options) (qs : List Product) : Decidable (KeepsClear s o qs) :=
  decidable_of_iff (KeepsInputs s o qs ∧ SparesLockfile s o qs ∧
    (∀ q ∈ qs, ∀ loc ∈ s.tree.target? q.output .followed,
      s.tree.target? (Cache.pathIn s.root) .followed ≠ some loc) ∧
    ∀ a ∈ qs, ∀ b ∈ qs, ∀ loc ∈ s.tree.target? a.output .followed,
      s.tree.target? b.output .followed = some loc → a = b)
    ⟨fun ⟨a, b, c, d⟩ => ⟨a, b, c, d⟩, fun ⟨a, b, c, d⟩ => ⟨a, b, c, d⟩⟩

/-- A settled tree in which the outputs are where they were, and are not the lockfile. -/
structure Ready (s : Setting) (o : Options) (qs : List Product) (v : FileTree) : Prop where
  settled : Settled s o qs v
  leads : ∀ q ∈ qs, v.target? q.output .followed = s.tree.target? q.output .followed
  clear : ∀ q ∈ qs, ¬ v.LeadsBy q.output s.place
  link : ∀ q ∈ qs, ∀ loc ∈ s.tree.target? q.output .followed,
    v.target? (Cache.pathIn s.root) .followed ≠ some loc
  sibling : v.get? s.siblingPlace = none

namespace Completed

theorem get?_siblingPlace (h : Completed t root context engine o s files qs u v outcome)
    (hw : WellFormed t) (hclear : KeepsClear s o qs) : u.get? s.siblingPlace = none := by
  obtain rfl := tree_of_prepare h.rendering.prepared
  exact (h.get?_of_not_output hw hclear.lockfile.sibling).trans hclear.inputs.sibling

theorem ready_of_unmodified (h : Completed t root context engine o s files qs u u outcome)
    (hw : WellFormed t) (hclear : KeepsClear s o qs) (hm : outcome.lockfileModified = false) :
    Ready s o qs u := by
  have hsettled := h.settled_of_unmodified hw hclear.inputs hm
  have hnone := h.get?_siblingPlace hw hclear
  obtain rfl := tree_of_prepare h.rendering.prepared
  have hframe := (h.written_tree hw).sameFrame
  refine ⟨hsettled, fun q _ => ?_, fun q hq hl => ?_, fun q hq loc hloc => ?_, hnone⟩
  · exact hframe.target?_eq q.output .followed
  · exact hclear.lockfile.outputs q hq (hframe.symm.leadsBy hl)
  · rw [hframe.target?_eq]
    exact hclear.link q hq loc hloc

theorem ready_of_saved (h : Completed t root context engine o s files qs u v outcome)
    (hw : WellFormed t) (hclear : KeepsClear s o qs) {target : Location} {u' : FileTree}
    (hsaved : Saved (finalLockfile t root o qs) root s.locator.location target u u' v) :
    Ready s o qs v := by
  have hsettled := h.settled_of_saved hw hclear.inputs hclear.lockfile hsaved
  have hover := h.overwritten_of_saved hw hclear.inputs hclear.lockfile hsaved
  have hnone := h.get?_siblingPlace hw hclear
  obtain rfl := tree_of_prepare h.rendering.prepared
  obtain rfl := root_of_prepare h.rendering.prepared
  have hframe := (h.written_tree hw).sameFrame
  have hrooted : Rooted v s.root s.locator.location := hsettled.sameInputs.rooted (h.rooted hw)
  have hplace := hrooted.target?_join (List.cons_ne_nil fileName []) hover.get?_self
  rw [Path.ofNames_singleton] at hplace
  have hnot : ∀ q ∈ qs, ¬ u.LeadsBy q.output s.place := fun q hq hl =>
    hclear.lockfile.outputs q hq (hframe.symm.leadsBy hl)
  refine ⟨hsettled, fun q hq => ?_, fun q hq hl => ?_, fun q hq loc hloc hsame => ?_, ?_⟩
  · have hresolve := congrArg Place.target? (hover.resolve_eq (hnot q hq))
    exact hresolve.trans (hframe.target?_eq q.output .followed)
  · exact hnot q hq (hover.leadsBy (hnot q hq) hl)
  · rw [Cache.pathIn, hplace hsaved.admissible] at hsame
    exact hclear.inputs.lockfile q hq (hloc.trans hsame.symm)
  · rw [hover.get?_of_ne, hnone]
    intro he
    exact temporaryName_ne fileName (by simpa [Setting.place, Setting.siblingPlace] using he)

/-- The tree that a run leaves is ready for the next. -/
theorem ready (h : Completed t root context engine o s files qs u v outcome)
    (hw : WellFormed t) (hclear : KeepsClear s o qs) : Ready s o qs v := by
  rcases h.unmodified_or_saved hw with ⟨hm, -, rfl⟩ | ⟨-, -, target, u', hsaved⟩
  · exact h.ready_of_unmodified hw hclear hm
  · exact h.ready_of_saved hw hclear hsaved

end Completed

namespace Ready

variable {writes : List (Path × String)}

/-- What no output leads to is not changed by writing outputs. -/
theorem get?_written (h : Ready s o qs v) (hwritten : Written v w writes)
    (hto : ∀ e ∈ writes, ∃ q ∈ qs, e.1 = q.output) {loc : Location}
    (hn : ∀ q ∈ qs, s.tree.target? q.output .followed ≠ some loc) : w.get? loc = v.get? loc := by
  refine hwritten.get?_of_not_target fun e he htarget => ?_
  obtain ⟨q, hq, houtput⟩ := hto e he
  refine hn q hq ?_
  rw [← h.leads q hq, ← houtput]
  exact target?_followed_of_written htarget

theorem entryAt?_written (h : Ready s o qs v) (hwritten : Written v w writes)
    (hto : ∀ e ∈ writes, ∃ q ∈ qs, e.1 = q.output) {p : Path}
    (hn : ∀ q ∈ qs, ∀ loc ∈ s.tree.target? q.output .followed, v.target? p .followed ≠ some loc) :
    w.entryAt? p = v.entryAt? p := by
  rw [entryAt?_eq hwritten.wellFormed, entryAt?_eq h.settled.wellFormed,
    hwritten.sameFrame.target?_eq]
  cases htarget : v.target? p .followed with
  | none => rfl
  | some loc => exact h.get?_written hwritten hto fun q hq hloc => hn q hq loc hloc htarget

/-- After outputs have been written the tree is as ready as before. -/
theorem written (h : Ready s o qs v) (hclear : KeepsClear s o qs) (hwritten : Written v w writes)
    (hto : ∀ e ∈ writes, ∃ q ∈ qs, e.1 = q.output) : Ready s o qs w := by
  have hframe := hwritten.sameFrame
  have hsettled : Settled s o qs w := by
    refine ⟨hwritten.wellFormed, fun p hp => ?_, fun p hp => ?_, fun dir name hmarked hname => ?_,
      fun q hq => ?_, ?_, fun key hon hkey => ?_⟩
    · exact (hframe.target?_eq p _).trans (h.settled.target?_eq p hp)
    · refine (h.entryAt?_written hwritten hto fun q hq loc hloc => ?_).trans
        (h.settled.entryAt?_eq p hp)
      rw [h.settled.target?_eq p hp]
      exact hclear.inputs.consulted q hq loc hloc p hp
    · rw [h.get?_written hwritten hto fun q hq hloc =>
        hmarked (hclear.inputs.unmarked q hq _ hloc name (by simp))]
      exact h.settled.sources dir name hmarked hname
    · have hthere := h.settled.outputs q hq
      rw [exists?_eq] at hthere ⊢
      exact hwritten.isSome_entryAt? h.settled.wellFormed hthere
    · have hload := h.settled.lockfile
      rw [load_eq_valid_iff] at hload ⊢
      rwa [h.entryAt?_written hwritten hto h.link]
    · have hthere := h.settled.keys key hon hkey
      rw [exists?_eq] at hthere ⊢
      exact hwritten.isSome_entryAt? h.settled.wellFormed hthere
  refine ⟨hsettled, fun q hq => (hframe.target?_eq _ _).trans (h.leads q hq),
    fun q hq hl => h.clear q hq (hframe.symm.leadsBy hl), fun q hq loc hloc => ?_, ?_⟩
  · rw [hframe.target?_eq]
    exact h.link q hq loc hloc
  · exact (h.get?_written hwritten hto hclear.lockfile.sibling).trans h.sibling

theorem exists_target (h : Ready s o qs v) {q : Product} (hq : q ∈ qs) :
    ∃ loc, v.target? q.output .followed = some loc ∧
      s.tree.target? q.output .followed = some loc := by
  have hthere := h.settled.outputs q hq
  rw [exists?_eq, entryAt?_eq h.settled.wellFormed] at hthere
  cases htarget : v.target? q.output .followed with
  | none => simp [htarget] at hthere
  | some loc => exact ⟨loc, rfl, (h.leads q hq).symm.trans htarget⟩

/-- What is last at an output is what was written to it last. -/
theorem entryAt?_output (h : Ready s o qs v) (hclear : KeepsClear s o qs)
    (hwritten : Written v w writes) (hto : ∀ e ∈ writes, ∃ q ∈ qs, e.1 = q.output) {q : Product}
    (hq : q ∈ qs) : w.entryAt? q.output =
      ((lastAccepted writes q.output).map fun text => .file text.toUTF8).or
        (v.entryAt? q.output) := by
  obtain ⟨loc, hloc, hloc'⟩ := h.exists_target hq
  have hplace : ∀ e ∈ writes, v.target? e.1 .written = some loc ↔ e.1 = q.output := by
    intro e he
    obtain ⟨x, hx, houtput⟩ := hto e he
    constructor
    · intro htarget
      have hfollowed := target?_followed_of_written htarget
      rw [houtput, h.leads x hx] at hfollowed
      rw [houtput, hclear.apart x hx q hq loc hfollowed hloc']
    · intro hsame
      obtain ⟨other, hother, -⟩ := hwritten.targets e he
      have hfollowed := target?_followed_of_written hother
      rw [hsame, hloc] at hfollowed
      rw [hother, Option.some.inj hfollowed]
  have hlast : v.lastWritten writes loc =
      (lastAccepted writes q.output).map fun text => .file text.toUTF8 := by
    unfold lastWritten lastAccepted
    rw [Option.map_map, ← List.head?_filter, ← List.head?_filter]
    congr 2
    refine List.filter_congr fun e he => ?_
    rw [Bool.eq_iff_iff, beq_iff_eq, beq_iff_eq]
    exact hplace e (List.mem_reverse.mp he)
  rw [hwritten.entryAt?_eq_lastWritten h.settled.wellFormed, hloc, Option.bind_some, hlast]

end Ready

/-! ## Runs in a tree that is ready -/

namespace Completed

variable {context' : KeyMap Json} {force : Bool} {s' : Setting} {files' : List String}
  {fs : List Product}

/-- A run in a settled tree renders what was located before, in its own context. -/
theorem exists_located (h : Completed t root context engine o s files qs u v outcome)
    (hw : WellFormed t) (hfree : t.BackslashFree) (hsettled : Settled s o qs w)
    (hr : Rendering w root context' engine { o with force } s' files' fs) {q : Product}
    (hq : q ∈ fs) :
    engine q.located.text context' = .ok q.text ∧ ∃ x ∈ qs, x.located = q.located := by
  obtain rfl := tree_of_prepare h.rendering.prepared
  obtain rfl := root_of_prepare h.rendering.prepared
  obtain rfl := engine_of_prepare h.rendering.prepared
  obtain rfl : { s with tree := w, context := context' } = s' :=
    Except.ok.inj ((h.rendering.prepare_of_sameInputs hsettled.sameInputs context' force).symm.trans
      hr.prepared)
  obtain ⟨found, hfound, hsame⟩ := hsettled.sameInputs.exists_files (h.rooted hw) h.rendering.selected
  obtain rfl : found = files' := Except.ok.inj (hfound.symm.trans hr.selected)
  have hnaive := h.naive_of_recalled hw hfree hsettled hr.recalled hsame
  obtain ⟨relative, hrelative, hlock, hlocate, htext⟩ := exists_of_mem_naive hnaive hq
  have hfinds := Locator.locate_eq_some_iff.mp hlocate
  have hmem : relative ∈ files.filter (isSource s.locator.marker) := by
    rw [← hsame]
    exact List.mem_filter.mpr ⟨hrelative, isSource_of_finds hlock hfinds⟩
  obtain ⟨hrelative, hsource⟩ := List.mem_filter.mp hmem
  obtain ⟨x, hx, -, hx'⟩ := h.rendering.finds_of_sameInputs hw hsettled.sameInputs hrelative hsource
  exact ⟨htext, x, hx, hx'.unique hfinds⟩

/-- Runs that are stopped leave a tree as ready as it was, with what they wrote in the outputs. -/
theorem ready_of_areStopped (h : Completed t root context engine o s files qs u v outcome)
    (hw : WellFormed t) (hfree : t.BackslashFree) (hclear : KeepsClear s o qs) {a b : FileTree}
    (hstopped : AreStopped root engine o a accepted b) (hready : Ready s o qs a) :
    Ready s o qs b ∧ ∀ q ∈ qs, b.entryAt? q.output =
      ((lastAccepted accepted q.output).map fun text => .file text.toUTF8).or
        (a.entryAt? q.output) := by
  induction hstopped with
  | none => exact ⟨hready, fun _ _ => rfl⟩
  | @next a a' b accepted more hfirst _ ih =>
    obtain ⟨context', force, s', files', fs, hrendering, houtputs, hwrites⟩ :=
      hfirst.exists_rendering
    have hwritten := written_of_writeAll hready.settled.wellFormed hwrites
    have hto : ∀ e ∈ accepted, ∃ q ∈ qs, e.1 = q.output := by
      intro e he
      obtain ⟨q, hq, houtput⟩ := houtputs e he
      obtain ⟨-, x, hx, hlocated⟩ := h.exists_located hw hfree hready.settled hrendering hq
      exact ⟨x, hx, houtput.trans (congrArg Located.output hlocated.symm)⟩
    obtain ⟨hready', hheld⟩ := ih (hready.written hclear hwritten hto)
    refine ⟨hready', fun q hq => ?_⟩
    rw [hheld q hq, hready.entryAt?_output hclear hwritten hto hq, lastAccepted_append,
      Option.map_or, Option.or_assoc]

/-- A run that is not forced leaves alone what the lockfile has from the run before. -/
theorem isIdentical_again (h : Completed t root context engine o s files qs u v outcome)
    (hw : WellFormed t) (hfree : t.BackslashFree) (hsettled : Settled s o qs w)
    (hr : Rendering w root context' engine { o with force := false } s' files' fs)
    (hc : CollisionFree ((qs ++ fs).map Product.text)) {q : Product} (hq : q ∈ fs) :
    q.isIdentical w (recorded w root false) = true ↔ q ∈ qs := by
  obtain ⟨-, x, hx, hlocated⟩ := h.exists_located hw hfree hsettled hr hq
  have hkey : q.key = x.key := congrArg Located.lockKey hlocated.symm
  have hthere : w.exists? q.output = true := by
    have hx' := hsettled.outputs x hx
    rwa [Product.output, hlocated] at hx'
  have hon : (recorded w root false).get? q.key = some x.fingerprint := by
    rw [h.recorded_settled hsettled, hkey]
    exact finalFiles_get?_of_mem h.rendering hw hfree hx
  simp only [Product.isIdentical, hthere, hon, Bool.true_and, beq_iff_eq, Option.some.injEq]
  constructor
  · intro hsame
    have htext : x.text = q.text := hc x.text (List.mem_map_of_mem (List.mem_append_left fs hx))
      q.text (List.mem_map_of_mem (List.mem_append_right qs hq)) hsame
    obtain rfl : x = q := by
      cases x
      cases q
      simp_all
    exact hx
  · intro hmem
    have hone := oneTextEach_recalled (by simp [OneTextEach]) h.rendering.recalled
    rw [Product.fingerprint, hone x hx q hmem hkey.symm]
    rfl

/-- A run leaves the outputs as it has written them, if the tree was ready. -/
theorem entryAt?_output_left {o' : Options} {u' v' : FileTree} {outcome' : Outcome}
    (h : Completed w root context' engine o' s' files' fs u' v' outcome') (hw : WellFormed w)
    (hlocation : s'.locator.location = s.locator.location) (hready : Ready s o qs u') {q : Product}
    (hq : q ∈ qs) : v'.entryAt? q.output = u'.entryAt? q.output := by
  rcases h.unmodified_or_saved hw with ⟨-, -, rfl⟩ | ⟨-, -, target, saved, hsaved⟩
  · rfl
  · rw [hlocation] at hsaved
    have hover := hsaved.overwritten (hlocation ▸ h.rooted_written hw) hready.sibling
    exact congrArg Place.entryAt? (hover.resolve_eq (hready.clear q hq))

/-- In a tree that is ready a run has one product for each output. -/
theorem eq_of_output (h : Completed t root context engine o s files qs u v outcome)
    (hw : WellFormed t) (hfree : t.BackslashFree) (hclear : KeepsClear s o qs)
    (hready : Ready s o qs w)
    (hr : Rendering w root context' engine { o with force } s' files' fs) {a b : Product}
    (ha : a ∈ fs) (hb : b ∈ fs) (hsame : a.output = b.output) : a = b := by
  obtain ⟨-, x, hx, hxa⟩ := h.exists_located hw hfree hready.settled hr ha
  obtain ⟨-, y, hy, hyb⟩ := h.exists_located hw hfree hready.settled hr hb
  have houtput : x.output = y.output := by
    rw [Product.output, Product.output, hxa, hyb]
    exact hsame
  obtain ⟨loc, -, hloc⟩ := hready.exists_target hx
  obtain rfl := hclear.apart x hx y hy loc hloc (houtput ▸ hloc)
  have hlocated : a.located = b.located := hxa.symm.trans hyb
  have htext := oneTextEach_recalled (by simp [OneTextEach]) hr.recalled a ha b hb
    (congrArg Located.lockKey hlocated)
  cases a
  cases b
  exact congrArg₂ Product.mk hlocated htext

/-- A run that goes through in a tree that is ready writes what is not rendered as in the first. -/
theorem entryAt?_again {u' v' : FileTree} {outcome' : Outcome}
    (h : Completed t root context engine o s files qs u v outcome) (hw : WellFormed t)
    (hfree : t.BackslashFree) (hclear : KeepsClear s o qs) (hready : Ready s o qs w)
    (h' : Completed w root context' engine { o with force := false } s' files' fs u' v' outcome')
    (hc : CollisionFree ((qs ++ fs).map Product.text)) {q : Product} (hq : q ∈ fs) :
    v'.entryAt? q.output =
      if q ∈ qs then w.entryAt? q.output else some (.file q.text.toUTF8) := by
  have hw' := hready.settled.wellFormed
  have hwritten := h'.written_tree hw'
  have hto : ∀ e ∈ Run.writes w root { o with force := false } fs, ∃ x ∈ qs, e.1 = x.output := by
    intro e he
    obtain ⟨r, hr, rfl⟩ := List.mem_map.mp he
    obtain ⟨-, x, hx, hlocated⟩ :=
      h.exists_located hw hfree hready.settled h'.rendering (List.mem_of_mem_filter hr)
    exact ⟨x, hx, congrArg Located.output hlocated.symm⟩
  obtain ⟨-, x, hx, hlocated⟩ := h.exists_located hw hfree hready.settled h'.rendering hq
  have houtput : x.output = q.output := congrArg Located.output hlocated
  have hlocation : s'.locator.location = s.locator.location := by
    have hagain := h.rendering.prepare_of_sameInputs hready.settled.sameInputs context' false
    rw [← Except.ok.inj (hagain.symm.trans h'.rendering.prepared)]
  rw [← houtput, h'.entryAt?_output_left hw' hlocation
    (hready.written hclear hwritten hto) hx, hready.entryAt?_output hclear hwritten hto hx, houtput]
  have honly : ∀ e ∈ Run.writes w root { o with force := false } fs, e.1 = q.output →
      e = (q.output, q.text) ∧ q ∉ qs := by
    intro e he hsame
    obtain ⟨r, hr, rfl⟩ := List.mem_map.mp he
    obtain ⟨hmem, hdiffers⟩ := List.mem_filter.mp hr
    obtain rfl := h.eq_of_output hw hfree hclear hready h'.rendering hmem hq hsame
    refine ⟨rfl, fun hold => ?_⟩
    simp [(h.isIdentical_again hw hfree hready.settled h'.rendering hc hq).mpr hold] at hdiffers
  split
  · next hold =>
    rw [lastAccepted_eq_none fun e he hsame => (honly e he hsame).2 hold]
    rfl
  · next hnew =>
    have hdiffers : q.isIdentical w (recorded w root false) ≠ true := fun hi =>
      hnew ((h.isIdentical_again hw hfree hready.settled h'.rendering hc hq).mp hi)
    have hmem : (q.output, q.text) ∈ Run.writes w root { o with force := false } fs :=
      List.mem_map.mpr ⟨q, by simp [writtenOnes, hq, hdiffers], rfl⟩
    rw [lastAccepted_eq_some hmem fun e he hsame => congrArg Prod.snd (honly e he hsame).1]
    rfl

end Completed

/-- After a run, any number of runs that are stopped at an output whatever their contexts, and a run
that goes through, all outputs hold their renders exactly if each that is rendered as in the first
run was last written so by the stopped ones, or was not written by them and was left so by the
first. -/
theorem recovered_iff {context' : KeyMap Json} {outcome' : Outcome} (hw : WellFormed t)
    (hfree : t.BackslashFree) (hs : prepare t root context engine o = .ok s)
    (hclear : KeepsClear s o (products t root context engine o))
    (hfirst : (run Writer.disk t root context engine o ()).result = .ok outcome)
    (hstopped : AreStopped root engine o (run Writer.disk t root context engine o ()).tree accepted w)
    (hlast : (run Writer.disk w root context' engine { o with force := false } ()).result =
      .ok outcome')
    (hc : CollisionFree ((products t root context engine o ++
      products w root context' engine { o with force := false }).map Product.text)) :
    (∀ q ∈ products w root context' engine { o with force := false },
      Fresh engine context'
        (run Writer.disk w root context' engine { o with force := false } ()).tree.entryAt? q) ↔
    ∀ q ∈ products w root context' engine { o with force := false },
      q ∈ products t root context engine o →
        ((lastAccepted accepted q.output).map fun text => Entry.file text.toUTF8).or
          ((run Writer.disk t root context engine o ()).tree.entryAt? q.output) =
            some (.file q.text.toUTF8) := by
  obtain ⟨s₁, files, qs, u, h⟩ := exists_completed hfirst
  obtain rfl : s₁ = s := Except.ok.inj (h.rendering.prepared.symm.trans hs)
  rw [products_eq h.rendering] at hclear hc ⊢
  obtain ⟨hready, hheld⟩ := h.ready_of_areStopped hw hfree hclear hstopped (h.ready hw hclear)
  obtain ⟨s', files', fs, u', h'⟩ := exists_completed hlast
  rw [products_eq h'.rendering] at hc ⊢
  refine forall₂_congr fun q hq => ?_
  obtain ⟨htext, x, hx, hlocated⟩ := h.exists_located hw hfree hready.settled h'.rendering hq
  have houtput : x.output = q.output := congrArg Located.output hlocated
  have hfresh : Fresh engine context'
      (run Writer.disk w root context' engine { o with force := false } ()).tree.entryAt? q ↔
        (run Writer.disk w root context' engine { o with force := false } ()).tree.entryAt?
          q.output = some (.file q.text.toUTF8) := by
    simp [Fresh, htext]
  rw [hfresh, h.entryAt?_again hw hfree hclear hready h' hc hq, ← houtput, hheld x hx]
  by_cases hold : q ∈ qs <;> simp [hold]

/-- An engine that tells whether it was given anything. -/
def telling : Engine := fun text context =>
  .ok (if (context.get? "x").isSome then text ++ "!" else text)

/-- A context with something in it. -/
def something : KeyMap Json := KeyMap.empty.insert "x" .null

/-- Two templates that have been rendered without a context, with a text in the first output. -/
def renderedTwo (text : String) : FileTree :=
  ⟨["w"], [(["w"], .directory), (["w", "a.etch.txt"], .file "one".toUTF8),
    (["w", "b.etch.txt"], .file "two".toUTF8), (["w", "a.txt"], .file text.toUTF8),
    (["w", "b.txt"], .file "two".toUTF8), (["w", ".etch.lock"], .file (Lockfile.render
      ⟨runningVersion, .ofList [("a.etch.txt", fingerprint "one"),
        ("b.etch.txt", fingerprint "two")]⟩).toUTF8)]⟩

theorem isFaithful_roomFor : IsFaithful roomFor := by
  intro p text t room u y h
  cases room with
  | zero => simp [roomFor] at h
  | succ room =>
    cases hwrite : t.writeText p text with
    | error e => simp [roomFor, hwrite, Except.map] at h
    | ok next =>
      have hboth : (next, room) = (u, y) := by simpa [roomFor, hwrite, Except.map] using h
      rw [(Prod.mk.inj hboth).1]

set_option maxRecDepth 100000

/-- A first run, a run with something in its context that is stopped after the first output, and a
last run without a context. -/
theorem runs_twoTemplates :
    ((run Writer.disk twoTemplates ⟨"."⟩ .empty telling {} ()).result =
        .ok ⟨[⟨"./a.txt"⟩, ⟨"./b.txt"⟩], [], [⟨"./a.etch.txt"⟩, ⟨"./b.etch.txt"⟩], true⟩ ∧
      (run Writer.disk twoTemplates ⟨"."⟩ .empty telling {} ()).tree = renderedTwo "one") ∧
    ((runIn (Surroundings.ofWriter roomFor).watched (renderedTwo "one") ⟨"."⟩ something telling
        { ({} : Options) with force := false } ((renderedTwo "one", 1), [])).world.2 =
          [.accepted (⟨"./a.txt"⟩, "one!"), .refused (⟨"./b.txt"⟩, "two!")] ∧
      (run roomFor (renderedTwo "one") ⟨"."⟩ something telling
        { ({} : Options) with force := false } 1).result =
          .error (.fileSystem "write" "./b.txt" (.of .other)) ∧
      (run roomFor (renderedTwo "one") ⟨"."⟩ something telling
        { ({} : Options) with force := false } 1).tree = renderedTwo "one!") ∧
    ((run Writer.disk (renderedTwo "one!") ⟨"."⟩ .empty telling
        { ({} : Options) with force := false } ()).result =
          .ok ⟨[], [⟨"./a.txt"⟩, ⟨"./b.txt"⟩], [⟨"./a.etch.txt"⟩, ⟨"./b.etch.txt"⟩], false⟩ ∧
      (run Writer.disk (renderedTwo "one!") ⟨"."⟩ .empty telling
        { ({} : Options) with force := false } ()).tree.entryAt?
          (inRoot "a.etch.txt" "a.txt" "one").output = some (.file "one!".toUTF8)) ∧
    products twoTemplates ⟨"."⟩ .empty telling {} =
      [inRoot "a.etch.txt" "a.txt" "one", inRoot "b.etch.txt" "b.txt" "two"] ∧
    products (renderedTwo "one!") ⟨"."⟩ .empty telling { ({} : Options) with force := false } =
      [inRoot "a.etch.txt" "a.txt" "one", inRoot "b.etch.txt" "b.txt" "two"] ∧
    CollisionFree ["one", "two", "one", "two"] := by
  unfold CollisionFree
  decide +kernel

theorem wellFormed_twoTemplates : WellFormed twoTemplates :=
  .of_entries rfl (by simp [twoTemplates, get?, find?]; decide)

theorem backslashFree_twoTemplates : twoTemplates.BackslashFree :=
  .of_entries (by simp [twoTemplates])

theorem prepared_twoTemplates : ∃ s, prepare twoTemplates ⟨"."⟩ .empty telling {} = .ok s ∧
    KeepsClear s {} (products twoTemplates ⟨"."⟩ .empty telling {}) := by
  have hcheck : (match prepare twoTemplates ⟨"."⟩ .empty telling {} with
      | .ok s => decide (KeepsClear s {} (products twoTemplates ⟨"."⟩ .empty telling {}))
      | .error _ => false) = true := by decide +kernel
  split at hcheck
  · next s hs => exact ⟨s, hs, of_decide_eq_true hcheck⟩
  · simp at hcheck

theorem areStopped_twoTemplates : AreStopped ⟨"."⟩ telling {}
    (run Writer.disk twoTemplates ⟨"."⟩ .empty telling {} ()).tree [(⟨"./a.txt"⟩, "one!")]
      (renderedTwo "one!") := by
  obtain ⟨⟨-, hfirst⟩, hrun, -⟩ := runs_twoTemplates
  have hstopped : IsStopped ⟨"."⟩ telling {} (renderedTwo "one") [(⟨"./a.txt"⟩, "one!")]
      (renderedTwo "one!") :=
    ⟨something, false, Nat, roomFor, 1, _, (⟨"./b.txt"⟩, "two!"), isFaithful_roomFor, hrun⟩
  rw [hfirst]
  exact .next hstopped .none

theorem collisionFree_twoTemplates : CollisionFree ((products twoTemplates ⟨"."⟩ .empty telling {} ++
    products (renderedTwo "one!") ⟨"."⟩ .empty telling
      { ({} : Options) with force := false }).map Product.text) := by
  obtain ⟨-, -, -, hproducts, hproducts', hc⟩ := runs_twoTemplates
  rw [hproducts, hproducts']
  exact hc

theorem recovered_iff_twoTemplates :
    ¬ ∀ q ∈ products (renderedTwo "one!") ⟨"."⟩ .empty telling { ({} : Options) with force := false },
      Fresh telling .empty (run Writer.disk (renderedTwo "one!") ⟨"."⟩ .empty telling
        { ({} : Options) with force := false } ()).tree.entryAt? q := by
  obtain ⟨s, hs, hclear⟩ := prepared_twoTemplates
  obtain ⟨⟨hfirst, -⟩, -, ⟨hlast, -⟩, hproducts, hproducts', -⟩ := runs_twoTemplates
  have hiff := recovered_iff wellFormed_twoTemplates backslashFree_twoTemplates hs hclear hfirst
    areStopped_twoTemplates hlast collisionFree_twoTemplates
  rw [hiff, hproducts, hproducts']
  intro hheld
  have hone := hheld (inRoot "a.etch.txt" "a.txt" "one") (by simp) (by simp)
  revert hone
  decide

/-- After a stopped run whose first output is written, the lockfile still has the fingerprint of what
was there before, and the next run leaves the output as it is. -/
theorem stopped_run_not_recovered :
    ¬ ∀ (t w : FileTree) (root : Path) (context context' : KeyMap Json) (engine : Engine)
      (o : Options) (s : Setting) (accepted : List (Path × String)) (outcome outcome' : Outcome),
      WellFormed t → t.BackslashFree → prepare t root context engine o = .ok s →
      (∀ q ∈ products t root context engine o, q.located.kind = .inPlace) →
      KeepsClear s o (products t root context engine o) →
      (run Writer.disk t root context engine o ()).result = .ok outcome →
      AreStopped root engine o (run Writer.disk t root context engine o ()).tree accepted w →
      (run Writer.disk w root context' engine { o with force := false } ()).result = .ok outcome' →
      CollisionFree ((products t root context engine o ++
        products w root context' engine { o with force := false }).map Product.text) →
      ∀ q ∈ products w root context' engine { o with force := false },
        Fresh engine context'
          (run Writer.disk w root context' engine { o with force := false } ()).tree.entryAt? q := by
  intro h
  obtain ⟨s, hs, hclear⟩ := prepared_twoTemplates
  obtain ⟨⟨hfirst, -⟩, -, ⟨hlast, hother⟩, hproducts, hproducts', -⟩ := runs_twoTemplates
  have hinPlace : ∀ q ∈ products twoTemplates ⟨"."⟩ .empty telling {},
      q.located.kind = .inPlace := by
    rw [hproducts]
    decide
  have hmem : inRoot "a.etch.txt" "a.txt" "one" ∈ products (renderedTwo "one!") ⟨"."⟩ .empty telling
      { ({} : Options) with force := false } := by
    rw [hproducts']
    exact List.mem_cons_self
  obtain ⟨text, htext, hheld⟩ := h twoTemplates (renderedTwo "one!") ⟨"."⟩ .empty .empty telling {}
    s _ _ _ wellFormed_twoTemplates backslashFree_twoTemplates hs hinPlace hclear hfirst
    areStopped_twoTemplates hlast collisionFree_twoTemplates _ hmem
  obtain rfl : "one" = text := Except.ok.inj htext
  exact absurd (hother.symm.trans hheld) (by decide)

end Run
end Stencil
