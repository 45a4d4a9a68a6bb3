import Stencil.Proofs.FileTree.Passage
import Stencil.Proofs.Run.Ledger
import Mathlib.Data.List.Chain

/-! Runs one after the other, with edits between them. What they leave in the outputs is what the
ledger tells, and if they are steady, every output holds the render of its template. -/
namespace Stencil
namespace Run

open FileTree Lockfile

/-- The output holds the render of the template's own text. -/
def Fresh (engine : Engine) (context : KeyMap Json) (held : Path → Option Entry) (q : Product) :
    Prop :=
  ∃ text, engine q.located.text context = .ok text ∧ held q.output = some (.file text.toUTF8)

/-- A run in a history: the tree that it is given, and its context. -/
structure Round where
  tree : FileTree
  context : KeyMap Json

section

variable (root : Path) (engine : Engine) (o : Options)

/-- The tree that a round leaves. -/
def Round.left (r : Round) : FileTree := (run Writer.disk r.tree root r.context engine o ()).tree

/-- What a round locates and renders. -/
def Round.products (r : Round) : List Product := Run.products r.tree root r.context engine o

/-- The outputs of all rounds. -/
def outputs (rounds : List Round) : List Path :=
  rounds.flatMap fun r => (r.products root engine o).map Product.output

/-- The renders met in all rounds. -/
def renders (rounds : List Round) : List String :=
  rounds.flatMap fun r => (r.products root engine o).map Product.text

/-- Runs that succeed, the first without a lockfile. Between them everything may be edited but
the outputs, earlier and later ones, and the lockfile. -/
structure IsHistory (rounds : List Round) : Prop where
  unforced : o.force = false
  wellFormed : ∀ r ∈ rounds, WellFormed r.tree
  succeeds : ∀ r ∈ rounds,
    ∃ outcome, (run Writer.disk r.tree root r.context engine o ()).result = .ok outcome
  starts : ∀ r ∈ rounds.head?, r.tree.entryAt? (Cache.pathIn root) = none
  edited : rounds.IsChain fun r r' => ∀ p ∈ Cache.pathIn root :: outputs root engine o rounds,
    r'.tree.entryAt? p = (r.left root engine o).entryAt? p

/-- Runs that succeed, each written to some paths with some texts. Between them these paths and the
lockfile are spared. -/
structure IsCourse (paths : List Path) (texts : List String) (rounds : List Round) : Prop where
  wellFormed : ∀ r ∈ rounds, WellFormed r.tree
  succeeds : ∀ r ∈ rounds,
    ∃ outcome, (run Writer.disk r.tree root r.context engine o ()).result = .ok outcome
  apart : ∀ r ∈ rounds, SavesApart root paths r.tree
  within : ∀ r ∈ rounds, ∀ q ∈ r.products root engine o, q.output ∈ paths ∧ q.text ∈ texts
  edited : rounds.IsChain fun r r' => ∀ p ∈ Cache.pathIn root :: paths,
    r'.tree.entryAt? p = (r.left root engine o).entryAt? p

/-- By the ledger every round leaves the render of every template in its output. -/
def Ledger.Keeps : Ledger → List Round → Prop
  | _, [] => True
  | l, r :: rest =>
    let l := l.after r.tree root (r.products root engine o)
    (∀ q ∈ r.products root engine o, Fresh engine r.context l.held q) ∧ l.Keeps rest

/-- Every round that locates a key locates every output that any round has for it, and outputs of
different keys never lead to the same place. -/
def IsSteady (rounds : List Round) : Prop :=
  ∀ r ∈ rounds, Ledger.Steady (rounds.flatMap (Round.products root engine o)) r.tree
    (r.products root engine o)

end

variable {t u v : FileTree} {root : Path} {context : KeyMap Json} {engine : Engine} {o : Options}
  {s : Setting} {files : List String} {qs : List Product} {outcome : Outcome}
  {paths : List Path} {texts : List String} {l : Ledger} {r : Round} {rest : List Round}

namespace IsCourse

theorem tail (h : IsCourse root engine o paths texts (r :: rest)) :
    IsCourse root engine o paths texts rest :=
  ⟨fun r' hr => h.wellFormed r' (List.mem_cons_of_mem _ hr),
    fun r' hr => h.succeeds r' (List.mem_cons_of_mem _ hr),
    fun r' hr => h.apart r' (List.mem_cons_of_mem _ hr),
    fun r' hr => h.within r' (List.mem_cons_of_mem _ hr), h.edited.tail⟩

/-- The first round as a run that is completed. -/
theorem exists_completed_head (h : IsCourse root engine o paths texts (r :: rest)) :
    ∃ s files u outcome, Completed r.tree root r.context engine o s files (r.products root engine o)
      u (r.left root engine o) outcome := by
  obtain ⟨outcome, hresult⟩ := h.succeeds r List.mem_cons_self
  obtain ⟨s, files, qs, u, hrun⟩ := exists_completed hresult
  have hproducts : r.products root engine o = qs := products_eq hrun.rendering
  exact ⟨s, files, u, outcome, hproducts ▸ hrun⟩

theorem tells_left (h : IsCourse root engine o paths texts (r :: rest)) (hforce : o.force = false)
    (hc : CollisionFree texts) (hl : l.Tells root paths texts r.tree) :
    (l.after r.tree root (r.products root engine o)).Tells root paths texts
      (r.left root engine o) := by
  obtain ⟨s, files, u, outcome, hrun⟩ := h.exists_completed_head
  exact hl.after hc hforce hrun (h.wellFormed r List.mem_cons_self) (h.apart r List.mem_cons_self)
    (h.within r List.mem_cons_self)

/-- The ledger after a round tells of the tree of the next. -/
theorem tells_next (h : IsCourse root engine o paths texts (r :: rest)) (hforce : o.force = false)
    (hc : CollisionFree texts) (hl : l.Tells root paths texts r.tree) :
    ∀ r' ∈ rest.head?, (l.after r.tree root (r.products root engine o)).Tells root paths texts
      r'.tree :=
  fun r' hr' => (h.tells_left hforce hc hl).edit ((List.isChain_cons.mp h.edited).1 r' hr')

/-- What is not current by the ledger can be written. -/
theorem isSome_target (h : IsCourse root engine o paths texts (r :: rest)) (hforce : o.force = false)
    (hc : CollisionFree texts) (hl : l.Tells root paths texts r.tree) :
    ∀ q ∈ r.products root engine o, l.isCurrent q = false →
      (r.tree.target? q.output .written).isSome := by
  intro q hq hcurrent
  obtain ⟨s, files, u, outcome, hrun⟩ := h.exists_completed_head
  have hmem : (q.output, q.text) ∈ writes r.tree root o (r.products root engine o) := by
    rw [writes, hforce, hl.writtenOnes_eq hc (h.within r List.mem_cons_self)]
    exact List.mem_map.mpr ⟨q, by simp [hq, hcurrent], rfl⟩
  obtain ⟨loc, hloc, -⟩ :=
    (hrun.written_tree (h.wellFormed r List.mem_cons_self)).targets _ hmem
  exact Option.isSome_of_eq_some hloc

end IsCourse

/-- The rounds of a course go along with the ledger. -/
theorem fresh_iff_of_tells {rounds : List Round} (h : IsCourse root engine o paths texts rounds)
    (hforce : o.force = false) (hc : CollisionFree texts)
    (hl : ∀ r ∈ rounds.head?, l.Tells root paths texts r.tree) :
    (∀ r ∈ rounds, ∀ q ∈ r.products root engine o,
      Fresh engine r.context (r.left root engine o).entryAt? q) ↔ l.Keeps root engine o rounds := by
  induction rounds generalizing l with
  | nil => simp [Ledger.Keeps]
  | cons r rest ih =>
    have htells := hl r rfl
    have hleft := h.tells_left hforce hc htells
    have hfresh : ∀ q ∈ r.products root engine o,
        (Fresh engine r.context (r.left root engine o).entryAt? q ↔
          Fresh engine r.context (l.after r.tree root (r.products root engine o)).held q) := by
      intro q hq
      unfold Fresh
      rw [hleft.held _ (h.within r List.mem_cons_self q hq).1]
    rw [List.forall_mem_cons, ih h.tail (h.tells_next hforce hc htells), Ledger.Keeps]
    exact and_congr_left' (forall₂_congr hfresh)

/-- In steady rounds the ledger has the render of every template in its output. -/
theorem keeps_of_holds {rounds : List Round} {all : List Product}
    (h : IsCourse root engine o paths texts rounds) (hforce : o.force = false)
    (hc : CollisionFree texts) (hl : ∀ r ∈ rounds.head?, l.Tells root paths texts r.tree)
    (hfree : ∀ r ∈ rounds, r.tree.BackslashFree)
    (hall : ∀ r ∈ rounds, ∀ q ∈ r.products root engine o, q ∈ all)
    (hsteady : ∀ r ∈ rounds, Ledger.Steady all r.tree (r.products root engine o))
    (hholds : l.Holds all) : l.Keeps root engine o rounds := by
  induction rounds generalizing l with
  | nil => trivial
  | cons r rest ih =>
    obtain ⟨s, files, u, outcome, hrun⟩ := h.exists_completed_head
    have htells := hl r rfl
    have hone : OneTextEach (r.products root engine o) :=
      oneTextEach_recalled (by simp [OneTextEach]) hrun.rendering.recalled
    have htargets := h.isSome_target hforce hc htells
    have hsame := hsteady r List.mem_cons_self
    have hmem := hall r List.mem_cons_self
    refine ⟨fun q hq => ⟨q.text, ?_, hholds.held_after hsame hone hmem htargets hq⟩, ?_⟩
    · exact (read_of_mem hrun.rendering (h.wellFormed r List.mem_cons_self)
        (hfree r List.mem_cons_self) hq).2.2
    · exact ih h.tail (h.tells_next hforce hc htells)
        (fun r' hr => hfree r' (List.mem_cons_of_mem _ hr))
        (fun r' hr => hall r' (List.mem_cons_of_mem _ hr))
        (fun r' hr => hsteady r' (List.mem_cons_of_mem _ hr))
        (hholds.after hsame hone hmem htargets)

theorem IsHistory.isCourse {rounds : List Round} (h : IsHistory root engine o rounds)
    (hapart : ∀ r ∈ rounds, SavesApart root (outputs root engine o rounds) r.tree) :
    IsCourse root engine o (outputs root engine o rounds) (renders root engine o rounds) rounds :=
  ⟨h.wellFormed, h.succeeds, hapart,
    fun r hr _ hq => ⟨List.mem_flatMap.mpr ⟨r, hr, List.mem_map_of_mem hq⟩,
      List.mem_flatMap.mpr ⟨r, hr, List.mem_map_of_mem hq⟩⟩, h.edited⟩

/-- Without a lockfile the ledger starts with nothing on record. -/
theorem tells_start (h : t.entryAt? (Cache.pathIn root) = none) :
    (Ledger.start t).Tells root paths texts t := by
  refine ⟨fun key => ?_, fun _ _ => rfl, fun _ _ hon => by simp [Ledger.start] at hon⟩
  have hnone : loaded? t root false = none := by
    rw [Option.eq_none_iff_forall_ne_some]
    intro l hl
    obtain ⟨bytes, hbytes, -⟩ := load_eq_valid_iff.mp (loaded?_eq_some_iff.mp hl).2
    simp [h] at hbytes
  rw [Lockfile.recorded, hnone]
  rfl

/-- Two children, before anything is rendered. -/
def children (target : String) (more : List (Location × Entry)) : FileTree :=
  ⟨["w"], [(["w"], .directory), (["w", "one"], .file "1".toUTF8), (["w", "two"], .file "2".toUTF8),
    (["w", "x.etch.txt"], .file ("!etch:child " ++ target).toUTF8),
    (["w", "y.etch.txt"], .file "!etch:child two".toUTF8)] ++ more⟩

/-- What the first run puts beside the children. -/
def rendered : List (Location × Entry) :=
  [(["w", "x.txt"], .file "1".toUTF8), (["w", "y.txt"], .file "2".toUTF8),
    (["w", ".etch.lock"], .file (Lockfile.render ⟨runningVersion,
      .ofList [("one", fingerprint "1"), ("two", fingerprint "2")]⟩).toUTF8)]

/-- The first child is pointed at the file of the second. -/
def switched : FileTree := children "two" rendered

/-- The file of the first child has another text. -/
def retyped : FileTree := (children "one" rendered).set ["w", "one"] (.file "3".toUTF8)

/-- A run for each of two children, and another after an edit. -/
def editedInto (v : FileTree) : List Round := [⟨children "one" [], .empty⟩, ⟨v, .empty⟩]

theorem forall_mem_editedInto {v : FileTree} {p : Round → Prop} :
    (∀ r ∈ editedInto v, p r) ↔ p ⟨children "one" [], .empty⟩ ∧ p ⟨v, .empty⟩ := by
  simp [editedInto]

set_option maxRecDepth 100000

/-- What is rendered before the edit and after either, and what the runs leave and the edit spares. -/
theorem runs_children :
    (Round.products ⟨"."⟩ verbatim {} ⟨children "one" [], .empty⟩ =
        [childProduct "x" "one" "1", childProduct "y" "two" "2"] ∧
      (run Writer.disk (children "one" []) ⟨"."⟩ .empty verbatim {} ()).result =
        .ok ⟨[⟨"./x.txt"⟩, ⟨"./y.txt"⟩], [], [⟨"./one"⟩, ⟨"./two"⟩], true⟩ ∧
      Round.left ⟨"."⟩ verbatim {} ⟨children "one" [], .empty⟩ = children "one" rendered ∧
      (children "one" []).entryAt? (Cache.pathIn ⟨"."⟩) = none) ∧
    (Round.products ⟨"."⟩ verbatim {} ⟨switched, .empty⟩ =
        [childProduct "x" "two" "2", childProduct "y" "two" "2"] ∧
      (run Writer.disk switched ⟨"."⟩ .empty verbatim {} ()).result =
        .ok ⟨[], [⟨"./x.txt"⟩, ⟨"./y.txt"⟩], [⟨"./two"⟩], false⟩ ∧
      Round.left ⟨"."⟩ verbatim {} ⟨switched, .empty⟩ = switched) ∧
    Round.products ⟨"."⟩ verbatim {} ⟨retyped, .empty⟩ =
        [childProduct "x" "one" "3", childProduct "y" "two" "2"] ∧
      (run Writer.disk retyped ⟨"."⟩ .empty verbatim {} ()).result =
        .ok ⟨[⟨"./x.txt"⟩], [⟨"./y.txt"⟩], [⟨"./one"⟩, ⟨"./two"⟩], true⟩ ∧
      ∀ p ∈ [Cache.pathIn ⟨"."⟩, ⟨"./x.txt"⟩, ⟨"./y.txt"⟩, ⟨"./x.txt"⟩, ⟨"./y.txt"⟩],
        retyped.entryAt? p = (children "one" rendered).entryAt? p := by decide +kernel

theorem products_children : Round.products ⟨"."⟩ verbatim {} ⟨children "one" [], .empty⟩ =
    [childProduct "x" "one" "1", childProduct "y" "two" "2"] := runs_children.1.1

theorem products_switched : Round.products ⟨"."⟩ verbatim {} ⟨switched, .empty⟩ =
    [childProduct "x" "two" "2", childProduct "y" "two" "2"] := runs_children.2.1.1

theorem products_retyped : Round.products ⟨"."⟩ verbatim {} ⟨retyped, .empty⟩ =
    [childProduct "x" "one" "3", childProduct "y" "two" "2"] := runs_children.2.2.1

theorem outputs_editedInto {v : FileTree} {target text : String}
    (hproducts : Round.products ⟨"."⟩ verbatim {} ⟨v, .empty⟩ =
      [childProduct "x" target text, childProduct "y" "two" "2"]) :
    outputs ⟨"."⟩ verbatim {} (editedInto v) =
      [⟨"./x.txt"⟩, ⟨"./y.txt"⟩, ⟨"./x.txt"⟩, ⟨"./y.txt"⟩] := by
  simp only [outputs, editedInto, List.flatMap_cons, products_children, hproducts]
  rfl

theorem renders_editedInto {v : FileTree} {target text : String}
    (hproducts : Round.products ⟨"."⟩ verbatim {} ⟨v, .empty⟩ =
      [childProduct "x" target text, childProduct "y" "two" "2"]) :
    renders ⟨"."⟩ verbatim {} (editedInto v) = ["1", "2", text, "2"] := by
  simp only [renders, editedInto, List.flatMap_cons, products_children, hproducts]
  rfl

/-- After an edit that spares the outputs and the lockfile the two runs are a history. -/
theorem isHistory_editedInto {v : FileTree} {target text : String} {outcome : Outcome}
    (hw : WellFormed v)
    (hproducts : Round.products ⟨"."⟩ verbatim {} ⟨v, .empty⟩ =
      [childProduct "x" target text, childProduct "y" "two" "2"])
    (hrun : (run Writer.disk v ⟨"."⟩ .empty verbatim {} ()).result = .ok outcome)
    (hspared : ∀ p ∈ [Cache.pathIn ⟨"."⟩, ⟨"./x.txt"⟩, ⟨"./y.txt"⟩, ⟨"./x.txt"⟩, ⟨"./y.txt"⟩],
      v.entryAt? p = (children "one" rendered).entryAt? p) :
    IsHistory ⟨"."⟩ verbatim {} (editedInto v) := by
  refine ⟨rfl, ?_, ?_, ?_, ?_⟩
  · rw [forall_mem_editedInto]
    exact ⟨.of_entries (by decide) (by decide), hw⟩
  · rw [forall_mem_editedInto]
    exact ⟨⟨_, runs_children.1.2.1⟩, ⟨_, hrun⟩⟩
  · rintro r hr
    obtain rfl : ⟨children "one" [], .empty⟩ = r := by simpa [editedInto] using hr
    exact runs_children.1.2.2.2
  · rw [outputs_editedInto hproducts]
    refine .cons_cons ?_ (.singleton _)
    rw [runs_children.1.2.2.1]
    exact hspared

theorem isHistory_retyped : IsHistory ⟨"."⟩ verbatim {} (editedInto retyped) :=
  isHistory_editedInto (.of_entries (by decide) (by decide)) products_retyped
    runs_children.2.2.2.1 runs_children.2.2.2.2

theorem isSteady_retyped : IsSteady ⟨"."⟩ verbatim {} (editedInto retyped) := by
  have hall : (editedInto retyped).flatMap (Round.products ⟨"."⟩ verbatim {}) =
      [childProduct "x" "one" "1", childProduct "y" "two" "2", childProduct "x" "one" "3",
        childProduct "y" "two" "2"] := by
    simp only [editedInto, List.flatMap_cons, products_children, products_retyped]
    rfl
  rw [IsSteady, hall, forall_mem_editedInto, products_children, products_retyped]
  exact ⟨⟨by decide +kernel, by decide +kernel⟩, ⟨by decide +kernel, by decide +kernel⟩⟩

end Run
end Stencil
