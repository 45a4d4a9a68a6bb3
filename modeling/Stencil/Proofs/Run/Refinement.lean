import Stencil.Proofs.Locator
import Stencil.Proofs.Run.Completion

/-! A run does what the naive procedure does: it locates every selected file, renders each template
for itself and compares it with what was there before the run. -/
namespace Stencil
namespace Run

open FileTree Lockfile

/-- A run has rendered all templates that it has located. -/
def PastRendering (t : FileTree) (root : Path) (context : KeyMap Json) (engine : Engine)
    (o : Options) : Prop :=
  ∃ s files p, prepare t root context engine o = .ok s ∧
    Selection.files t s.ignore root = .ok files ∧
    (collect s 0 { cache := (Cache.open t root o.force).1 } files).2 = .ok p

/-- Every selected file located and every template rendered for itself, from the start. -/
def naiveRun (t : FileTree) (root : Path) (context : KeyMap Json) (engine : Engine) (o : Options) :
    Except Failure (List Product) := do
  let s ← prepare t root context engine o
  let files ← Selection.files t s.ignore root
  naive s files

variable {t : FileTree} {root : Path} {context : KeyMap Json} {engine : Engine} {o : Options}
  {s : Setting} {files : List String} {qs : List Product}

theorem naiveRun_eq_ok_iff : naiveRun t root context engine o = .ok qs ↔
    ∃ s files, prepare t root context engine o = .ok s ∧
      Selection.files t s.ignore root = .ok files ∧ naive s files = .ok qs := by
  unfold naiveRun
  cases hp : prepare t root context engine o with
  | error f => simp [bind, Except.bind]
  | ok s =>
    cases hs : Selection.files t s.ignore root with
    | error f => simp [bind, Except.bind, hs]
    | ok files => simp [bind, Except.bind, hs]

/-- What is located in a selected file is read by its key. -/
theorem readByKey_of_locate (hw : WellFormed t) (hfree : t.BackslashFree)
    (hp : prepare t root context engine o = .ok s)
    (hs : Selection.files t s.ignore root = .ok files) {relative : String} (hr : relative ∈ files)
    {located : Located} (hl : s.locator.locate s.tree relative = .ok (some located)) :
    located.rootTemplate = root.join located.lockKey ∧ ReadByKey s located := by
  obtain ⟨marker, top, ignore, hdirectory, htop, -, -, rfl⟩ := prepare_eq_ok_iff.mp hp
  have hrooted : Rooted t root top := ⟨hw, resolve_eq_found hdirectory htop⟩
  have hrelative := Selection.backslash_notMem_of_mem_files hrooted hfree hs hr
  exact (Locator.locate_eq_some_iff.mp hl).key_spec hw hfree hrelative

theorem recalled_eq_naive_of_backslashFree (hw : WellFormed t) (hfree : t.BackslashFree)
    (hp : prepare t root context engine o = .ok s)
    (hs : Selection.files t s.ignore root = .ok files) : recalled s [] files = naive s files :=
  recalled_eq_naive (fun _ hr _ _ hl => (readByKey_of_locate hw hfree hp hs hr hl).2) (by simp)

theorem Rendering.naive (h : Rendering t root context engine o s files qs) (hw : WellFormed t)
    (hfree : t.BackslashFree) : naive s files = .ok qs := by
  rw [← recalled_eq_naive_of_backslashFree hw hfree h.prepared h.selected]
  exact h.recalled

theorem Rendering.naiveRun (h : Rendering t root context engine o s files qs) (hw : WellFormed t)
    (hfree : t.BackslashFree) : naiveRun t root context engine o = .ok qs :=
  naiveRun_eq_ok_iff.mpr ⟨s, files, h.prepared, h.selected, h.naive hw hfree⟩

theorem pastRendering_iff (hw : WellFormed t) (hfree : t.BackslashFree) :
    PastRendering t root context engine o ↔ ∃ qs, naiveRun t root context engine o = .ok qs := by
  constructor
  · rintro ⟨s, files, p, hp, hs, hc⟩
    obtain ⟨qs, hqs, -⟩ := (collect_ok_iff hp p).mp hc
    exact ⟨qs, Rendering.naiveRun ⟨hp, hs, hqs⟩ hw hfree⟩
  · rintro ⟨qs, hqs⟩
    obtain ⟨s, files, hp, hs, hn⟩ := naiveRun_eq_ok_iff.mp hqs
    rw [← recalled_eq_naive_of_backslashFree hw hfree hp hs] at hn
    exact ⟨s, files, _, hp, hs, (collect_ok_iff hp _).mpr ⟨qs, hn, rfl⟩⟩

/-- Trees agree but for the lockfile of a directory and its temporary sibling. -/
def AgreeBeside (top : Location) (u v : FileTree) : Prop :=
  ∀ loc, loc ≠ top ++ [fileName] → loc ≠ top ++ [temporaryName fileName] → v.get? loc = u.get? loc

/-- Bytes written to the temporary sibling of a lockfile change nothing but the lockfile and the
sibling: they go to either of the two, or to where they are already. -/
def KeepsBeside (u : FileTree) (root : Path) (top : Location) (bytes : ByteArray) : Prop :=
  ∀ target, u.target? (temporaryIn root) .written = some target →
    target = top ++ [fileName] ∨ target = top ++ [temporaryName fileName] ∨
      u.get? target = some (.file bytes)

theorem agreeBeside_of_saved {l : Lockfile} {top target : Location} {u u' v : FileTree}
    (h : Saved l root top target u u' v) :
    AgreeBeside top u v ↔ KeepsBeside u root top l.render.toUTF8 := by
  constructor
  · intro hagree other hother
    obtain rfl : target = other := Option.some.inj (h.target?.symm.trans hother)
    by_cases hplace : target = top ++ [fileName]
    · exact .inl hplace
    by_cases hsibling : target = top ++ [temporaryName fileName]
    · exact .inr (.inl hsibling)
    · refine .inr (.inr ?_)
      rw [← hagree target hplace hsibling, h.moved.get?_of_ne hplace hsibling, h.put.get?_eq,
        if_pos rfl]
  · intro hkeeps loc hplace hsibling
    rw [h.moved.get?_of_ne hplace hsibling, h.put.get?_eq]
    split
    · next he =>
      subst he
      rcases hkeeps loc h.target? with hl | hl | hl
      · exact absurd hl hplace
      · exact absurd hl hsibling
      · exact hl.symm
    · rfl

/-- A run that succeeds has written and left alone what the naive procedure finds, in the order of
the walk. It changes nothing else if the lockfile, when it is saved, keeps to itself. -/
theorem run_refines_naive (hw : WellFormed t) (hfree : t.BackslashFree) :
    (PastRendering t root context engine o ↔ ∃ qs, naiveRun t root context engine o = .ok qs) ∧
    ∀ outcome, (run Writer.disk t root context engine o ()).result = .ok outcome →
      ∃ qs top u, naiveRun t root context engine o = .ok qs ∧
        t.target? root .followed = some top ∧
        outcome.written = (writtenOnes t (recorded t root o.force) qs).map Product.output ∧
        outcome.identical = (identicalOnes t (recorded t root o.force) qs).map Product.output ∧
        t.writeAll (writes t root o qs) = .ok u ∧
        (AgreeBeside top u (run Writer.disk t root context engine o ()).tree ↔
          (outcome.lockfileModified = true →
            KeepsBeside u root top (finalLockfile t root o qs).render.toUTF8)) := by
  refine ⟨pastRendering_iff hw hfree, fun outcome hrun => ?_⟩
  obtain ⟨s, files, qs, u, h⟩ := exists_completed hrun
  refine ⟨qs, _, u, h.rendering.naiveRun hw hfree, (h.rooted hw).target?, h.written, h.identical,
    h.writes, ?_⟩
  rcases h.unmodified_or_saved hw with ⟨hm, -, hv⟩ | ⟨hm, -, target, u', hsaved⟩
  · rw [hv]
    simp [hm, AgreeBeside]
  · rw [agreeBeside_of_saved hsaved]
    simp [hm]

/-- An engine that leaves templates as they are. -/
def verbatim : Engine := fun text _ => .ok text

/-- What is located of a child that points at a file, with the text of the file as its render. -/
def childProduct (name target text : String) : Product :=
  ⟨⟨⟨"./" ++ name ++ ".etch.txt"⟩, ⟨"./" ++ name ++ ".txt"⟩, ⟨"./" ++ target⟩, target, .child, text⟩,
    text⟩

/-- What is located of a template in a root, with its own text as its render. -/
def inRoot (source output text : String) : Product :=
  ⟨⟨⟨"./" ++ source⟩, ⟨"./" ++ output⟩, ⟨"./" ++ source⟩, source, .inPlace, text⟩, text⟩

/-- A tree with a template, and a link left where the temporary sibling of its lockfile goes. -/
def withLeftover (target : String) : FileTree :=
  ⟨["w"], [(["w"], .directory), (["w", "a.etch.txt"], .file "new".toUTF8),
    (["w", "victim.txt"], .file "precious".toUTF8), (["w", "..etch.lock.tmp"], .link target)]⟩

theorem wellFormed_withLeftover (target : String) : WellFormed (withLeftover target) :=
  .of_entries rfl (by simp [withLeftover, get?, find?]; decide)

theorem backslashFree_withLeftover (target : String) : (withLeftover target).BackslashFree :=
  .of_entries (by simp [withLeftover])

set_option maxRecDepth 100000

theorem run_refines_naive_withLeftover :
    ∃ qs top u, naiveRun (withLeftover "victim.txt") ⟨"."⟩ .empty verbatim {} = .ok qs ∧
      (withLeftover "victim.txt").target? ⟨"."⟩ .followed = some top ∧
      [⟨"./a.txt"⟩] = (writtenOnes (withLeftover "victim.txt")
        (recorded (withLeftover "victim.txt") ⟨"."⟩ false) qs).map Product.output ∧
      [] = (identicalOnes (withLeftover "victim.txt")
        (recorded (withLeftover "victim.txt") ⟨"."⟩ false) qs).map Product.output ∧
      (withLeftover "victim.txt").writeAll (writes (withLeftover "victim.txt") ⟨"."⟩ {} qs) =
        .ok u ∧
      (AgreeBeside top u
          (run Writer.disk (withLeftover "victim.txt") ⟨"."⟩ .empty verbatim {} ()).tree ↔
        (true = true → KeepsBeside u ⟨"."⟩ top
          (finalLockfile (withLeftover "victim.txt") ⟨"."⟩ {} qs).render.toUTF8)) :=
  (run_refines_naive (wellFormed_withLeftover _) (backslashFree_withLeftover _)).2
    ⟨[⟨"./a.txt"⟩], [], [⟨"./a.etch.txt"⟩], true⟩ (by decide +kernel)

/-- Without the condition on the saved lockfile other files may change: it is written through the
link that is left. -/
theorem leftover_link_not_agreeBeside :
    ¬ ∀ (t : FileTree) (root : Path) (context : KeyMap Json) (engine : Engine) (o : Options)
      (outcome : Outcome) (qs : List Product) (top : Location) (u : FileTree),
      WellFormed t → t.BackslashFree →
      (run Writer.disk t root context engine o ()).result = .ok outcome →
      naiveRun t root context engine o = .ok qs → t.target? root .followed = some top →
      t.writeAll (writes t root o qs) = .ok u →
      AgreeBeside top u (run Writer.disk t root context engine o ()).tree := by
  intro h
  have hagree := h (withLeftover "victim.txt") ⟨"."⟩ .empty verbatim {}
    ⟨[⟨"./a.txt"⟩], [], [⟨"./a.etch.txt"⟩], true⟩
    [⟨⟨⟨"./a.etch.txt"⟩, ⟨"./a.txt"⟩, ⟨"./a.etch.txt"⟩, "a.etch.txt", .inPlace, "new"⟩, "new"⟩]
    ["w"] ((withLeftover "victim.txt").set ["w", "a.txt"] (.file "new".toUTF8))
    (wellFormed_withLeftover _) (backslashFree_withLeftover _) (by decide +kernel)
    (by decide +kernel) (by decide +kernel) (by decide +kernel) ["w", "victim.txt"] (by decide)
    (by decide)
  revert hagree
  decide +kernel

end Run
end Stencil
