import Stencil.Proofs.Run.LockfileContents

/-! A ledger of the texts that runs write, which knows neither fingerprints nor the lockfile. It
tells what is in the outputs as long as no two texts have the same fingerprint. -/
namespace Stencil
namespace Run

open FileTree Lockfile

/-- The text last written for each key, and what is at each output. -/
structure Ledger where
  recorded : String → Option String
  held : Path → Option Entry

namespace Ledger

/-- A ledger of nothing but the tree that it starts from. -/
def start (t : FileTree) : Ledger := ⟨fun _ => none, t.entryAt?⟩

/-- The output is there, and the text last written for the key is that of the product. -/
def isCurrent (l : Ledger) (q : Product) : Bool :=
  (l.held q.output).isSome && l.recorded q.key == some q.text

/-- The products that are not current are written, in turn. A key that leads to nothing is
forgotten unless something is written for it. -/
def after (l : Ledger) (t : FileTree) (root : Path) (qs : List Product) : Ledger :=
  let written := qs.filter fun q => !l.isCurrent q
  { recorded := fun key =>
      ((written.reverse.find? fun q => q.key == key).map Product.text).or
        (if t.exists? (root.join key) then l.recorded key else none)
    held := fun p =>
      ((t.target? p .followed).bind
        (t.lastWritten (written.map fun q => (q.output, q.text)))).or (l.held p) }

/-- Every output of a key that is recorded holds the text recorded for it. -/
def Holds (l : Ledger) (all : List Product) : Prop :=
  ∀ x ∈ all, ∀ text, l.recorded x.key = some text → l.held x.output = some (.file text.toUTF8)

/-- Among all the products of many runs, a run that locates a key locates every output of it, and
outputs of different keys do not lead to the same place. -/
structure Steady (all : List Product) (t : FileTree) (qs : List Product) : Prop where
  complete : ∀ q ∈ qs, ∀ x ∈ all, x.key = q.key → ∃ y ∈ qs, y.key = x.key ∧ y.output = x.output
  apart : ∀ q ∈ qs, ∀ x ∈ all, ∀ loc ∈ t.target? x.output .followed,
    t.target? q.output .followed = some loc → q.key = x.key

variable {l : Ledger} {t : FileTree} {root : Path} {qs all : List Product}

theorem recorded_of_isCurrent {q : Product} (h : l.isCurrent q = true) :
    l.recorded q.key = some q.text := by
  simp only [isCurrent, Bool.and_eq_true, beq_iff_eq] at h
  exact h.2

/-- What is recorded has just been written, or all that has its key is current. -/
theorem recorded_after {key text : String} (h : (l.after t root qs).recorded key = some text) :
    (∃ q ∈ qs, q.key = key ∧ q.text = text) ∨
      (∀ q ∈ qs, q.key = key → l.isCurrent q = true) ∧ l.recorded key = some text := by
  unfold after at h
  rcases Option.or_eq_some_iff.mp h with h | ⟨hnone, h⟩
  · obtain ⟨q, hq, htext⟩ := Option.map_eq_some_iff.mp h
    have hmem := List.mem_reverse.mp (List.mem_of_find?_eq_some hq)
    exact .inl ⟨q, List.mem_of_mem_filter hmem, by simpa using List.find?_some hq, htext⟩
  · refine .inr ⟨fun q hq hkey => ?_, ?_⟩
    · by_contra hcurrent
      have hnot := List.find?_eq_none.mp (Option.map_eq_none_iff.mp hnone) q
        (List.mem_reverse.mpr (by simp [hq, hcurrent]))
      simp [hkey] at hnot
    · split at h
      · exact h
      · simp at h

/-- An output that holds a text, or is written, holds the text after a run that has no other text
for its key. -/
theorem held_after (hsteady : Steady all t qs) {x : Product} (hx : x ∈ all) {text : String}
    (htext : ∀ q ∈ qs, q.key = x.key → q.text = text)
    (h : l.held x.output = some (.file text.toUTF8) ∨
      ∃ y ∈ qs, y.output = x.output ∧ l.isCurrent y = false ∧
        (t.target? y.output .written).isSome) :
    (l.after t root qs).held x.output = some (.file text.toUTF8) := by
  unfold after
  dsimp only
  cases htarget : t.target? x.output .followed with
  | none =>
    rcases h with h | ⟨y, -, houtput, -, hsome⟩
    · simpa using h
    · obtain ⟨loc, hloc⟩ := Option.isSome_iff_exists.mp hsome
      rw [houtput] at hloc
      simp [target?_followed_of_written hloc] at htarget
  | some loc =>
    rw [Option.bind_some]
    cases hlast : t.lastWritten ((qs.filter fun q => !l.isCurrent q).map fun q =>
        (q.output, q.text)) loc with
    | some entry =>
      obtain ⟨e, he, hloc, rfl⟩ := exists_of_lastWritten hlast
      obtain ⟨q, hq, rfl⟩ := List.mem_map.mp he
      have hmem := List.mem_of_mem_filter hq
      have hkey := hsteady.apart q hmem x hx loc htarget (target?_followed_of_written hloc)
      rw [Option.some_or, htext q hmem hkey]
    | none =>
      rcases h with h | ⟨y, hy, houtput, hcurrent, hsome⟩
      · rw [Option.none_or, h]
      · obtain ⟨other, hother⟩ := Option.isSome_iff_exists.mp hsome
        have hsame : other = loc := by
          have hto := target?_followed_of_written hother
          rw [houtput, htarget] at hto
          exact (Option.some.inj hto).symm
        refine absurd (hsame ▸ hother) (lastWritten_eq_none_iff.mp hlast (y.output, y.text) ?_)
        exact List.mem_map.mpr ⟨y, by simp [hy, hcurrent], rfl⟩

namespace Holds

/-- After a steady run every output that it locates holds its render. -/
theorem held_after (h : l.Holds all) (hsteady : Steady all t qs) (hone : OneTextEach qs)
    (hall : ∀ q ∈ qs, q ∈ all)
    (htargets : ∀ q ∈ qs, l.isCurrent q = false → (t.target? q.output .written).isSome)
    {q : Product} (hq : q ∈ qs) :
    (l.after t root qs).held q.output = some (.file q.text.toUTF8) := by
  refine Ledger.held_after hsteady (hall q hq) (fun x hx hkey => hone x hx q hq hkey) ?_
  cases hcurrent : l.isCurrent q with
  | true => exact .inl (h q (hall q hq) q.text (recorded_of_isCurrent hcurrent))
  | false => exact .inr ⟨q, hq, rfl, hcurrent, htargets q hq hcurrent⟩

/-- A steady run keeps outputs and records in step. -/
theorem after (h : l.Holds all) (hsteady : Steady all t qs) (hone : OneTextEach qs)
    (hall : ∀ q ∈ qs, q ∈ all)
    (htargets : ∀ q ∈ qs, l.isCurrent q = false → (t.target? q.output .written).isSome) :
    (l.after t root qs).Holds all := by
  intro x hx text hon
  by_cases hlocated : ∃ q ∈ qs, q.key = x.key
  · obtain ⟨q, hq, hkey⟩ := hlocated
    obtain ⟨y, hy, hykey, houtput⟩ := hsteady.complete q hq x hx hkey.symm
    have htext : y.text = text := by
      rcases recorded_after hon with ⟨w, hw, hwkey, rfl⟩ | ⟨hcurrent, hrecorded⟩
      · exact hone y hy w hw (hykey.trans hwkey.symm)
      · have hsame := recorded_of_isCurrent (hcurrent y hy hykey)
        rw [hykey, hrecorded] at hsame
        exact (Option.some.inj hsame).symm
    rw [← houtput, ← htext]
    exact h.held_after hsteady hone hall htargets hy
  · rcases recorded_after hon with ⟨w, hw, hwkey, -⟩ | ⟨-, hrecorded⟩
    · exact absurd ⟨w, hw, hwkey⟩ hlocated
    · exact Ledger.held_after hsteady hx (fun q hq hkey => absurd ⟨q, hq, hkey⟩ hlocated)
        (.inl (h x hx text hrecorded))

end Holds

end Ledger

/-- No two renders share a fingerprint. -/
def CollisionFree (texts : List String) : Prop :=
  ∀ a ∈ texts, ∀ b ∈ texts, fingerprint a = fingerprint b → a = b

/-- The lockfile is saved by way of its temporary sibling alone, and no output leads by either or
to where the sibling leads. -/
def SavesApart (root : Path) (paths : List Path) (t : FileTree) : Prop :=
  ∀ top ∈ t.target? root .followed,
    ¬ t.LeadsBy (temporaryIn root) (top ++ [fileName]) ∧
    ∀ p ∈ paths, ¬ t.LeadsBy p (top ++ [fileName]) ∧
      ¬ t.LeadsBy p (top ++ [temporaryName fileName]) ∧
      ∀ loc ∈ t.target? p .followed, t.target? (temporaryIn root) .followed ≠ some loc

variable {t u v : FileTree} {root : Path} {context : KeyMap Json} {engine : Engine} {o : Options}
  {s : Setting} {files : List String} {qs : List Product} {outcome : Outcome}
  {paths : List Path} {texts : List String} {l : Ledger}

/-- Without links in the way, saving the lockfile leaves the outputs as they have been written. -/
theorem Completed.entryAt?_left (h : Completed t root context engine o s files qs u v outcome)
    (hw : WellFormed t) (hapart : SavesApart root paths t) {p : Path} (hp : p ∈ paths) :
    v.entryAt? p = u.entryAt? p := by
  have hframe := (h.written_tree hw).sameFrame
  obtain ⟨-, hpaths⟩ := hapart _ (h.rooted hw).target?
  obtain ⟨hplace, hsibling, hdistinct⟩ := hpaths p hp
  rcases h.unmodified_or_saved hw with ⟨-, -, rfl⟩ | ⟨-, -, target, u', hsaved⟩
  · rfl
  · have hback : ∀ {loc}, u'.LeadsBy p loc → t.LeadsBy p loc := fun hl =>
      hframe.symm.leadsBy (hsaved.put.sameFrame.symm.leadsBy hl)
    have hmoved : v.resolve p = u'.resolve p :=
      hsaved.moved.resolve_eq (fun hl => hplace (hback hl)) (fun hl => hsibling (hback hl))
    have htarget : t.target? (temporaryIn root) .followed = some target := by
      rw [← hframe.target?_eq]
      exact target?_followed_of_written hsaved.target?
    rw [entryAt?, hmoved, ← entryAt?,
      hsaved.put.entryAt?_eq (h.written_tree hw).wellFormed hsaved.wellFormed, if_neg]
    intro hloc
    rw [hframe.target?_eq] at hloc
    exact hdistinct target hloc htarget

/-- What a ledger tells of a tree: the lockfile has the fingerprints of the texts recorded, and the
outputs are as they are held. -/
structure Ledger.Tells (l : Ledger) (root : Path) (paths : List Path) (texts : List String)
    (t : FileTree) : Prop where
  recorded : ∀ key, (Lockfile.recorded t root false).get? key = (l.recorded key).map fingerprint
  held : ∀ p ∈ paths, t.entryAt? p = l.held p
  met : ∀ key text, l.recorded key = some text → text ∈ texts

namespace Ledger.Tells

/-- Where no fingerprints collide, the ledger leaves alone what the run leaves alone. -/
theorem isIdentical_eq (h : l.Tells root paths texts t) (hc : CollisionFree texts) {q : Product}
    (hp : q.output ∈ paths) (ht : q.text ∈ texts) :
    q.isIdentical t (Lockfile.recorded t root false) = l.isCurrent q := by
  unfold Product.isIdentical Ledger.isCurrent
  rw [exists?_eq, h.held _ hp, h.recorded]
  congr 1
  cases htext : l.recorded q.key with
  | none => rfl
  | some text =>
    rw [Bool.eq_iff_iff]
    simp only [Option.map_some, beq_iff_eq, Option.some.injEq, Product.fingerprint]
    exact ⟨hc text (h.met _ _ htext) q.text ht, congrArg fingerprint⟩

theorem writtenOnes_eq (h : l.Tells root paths texts t) (hc : CollisionFree texts)
    (hqs : ∀ q ∈ qs, q.output ∈ paths ∧ q.text ∈ texts) :
    writtenOnes t (Lockfile.recorded t root false) qs = qs.filter fun q => !l.isCurrent q := by
  refine List.filter_congr fun q hq => ?_
  rw [h.isIdentical_eq hc (hqs q hq).1 (hqs q hq).2]

/-- A run does to the tree what its round does to the ledger. -/
theorem after (h : l.Tells root paths texts t) (hc : CollisionFree texts) (hforce : o.force = false)
    (hrun : Completed t root context engine o s files qs u v outcome) (hw : WellFormed t)
    (hapart : SavesApart root paths t) (hqs : ∀ q ∈ qs, q.output ∈ paths ∧ q.text ∈ texts) :
    (l.after t root qs).Tells root paths texts v := by
  have hwritten : writtenOnes t (Lockfile.recorded t root o.force) qs =
      qs.filter fun q => !l.isCurrent q := by
    rw [hforce]
    exact h.writtenOnes_eq hc hqs
  have hrecorded : Lockfile.recorded v root false = finalFiles t root o qs := by
    have hload := (hrun.load_iff hw).mpr fun hl => (hapart _ (hrun.rooted hw).target?).1 hl.2
    rw [Lockfile.recorded, loaded?_eq_some_iff.mpr ⟨rfl, hload⟩]
    rfl
  refine ⟨fun key => ?_, fun p hp => ?_, fun key text hon => ?_⟩
  · rw [hrecorded, finalFiles_get?, hwritten, hforce, h.recorded]
    unfold Ledger.after
    dsimp only
    rw [Option.map_or, Option.map_map]
    congr 1
    split <;> rfl
  · rw [hrun.entryAt?_left hw hapart hp, (hrun.written_tree hw).entryAt?_eq_lastWritten hw,
      h.held p hp, Run.writes, hwritten]
    rfl
  · rcases recorded_after hon with ⟨q, hq, -, rfl⟩ | ⟨-, hon⟩
    · exact (hqs q hq).2
    · exact h.met key text hon

/-- An edit that spares the outputs and the lockfile is no matter to the ledger. -/
theorem edit (h : l.Tells root paths texts t)
    (hedit : ∀ p ∈ Cache.pathIn root :: paths, u.entryAt? p = t.entryAt? p) :
    l.Tells root paths texts u := by
  refine ⟨fun key => ?_, fun p hp => ?_, h.met⟩
  · have hsame : loaded? u root false = loaded? t root false := by
      apply Option.ext
      intro l
      rw [loaded?_eq_some_iff, loaded?_eq_some_iff, load_eq_valid_iff, load_eq_valid_iff,
        hedit _ List.mem_cons_self]
    rw [← h.recorded, Lockfile.recorded, hsame]
    rfl
  · rw [hedit p (List.mem_cons_of_mem _ hp), h.held p hp]

end Ledger.Tells

end Run
end Stencil
