import Stencil.Proofs.FileTree.Target

/-! What a path comes by is computed by following it. -/
namespace Stencil
namespace FileTree

open Stencil.Path Relation

instance (e : Ending) (s : String) (rest : List String) : Decidable (Looks e s rest) :=
  decidable_of_iff (¬ (s = "." ∨ s = "") ∧ s ≠ ".." ∧ ¬ (e = .written ∧ rest = [""]) ∧
      s.utf8ByteSize ≤ maxName)
    ⟨fun ⟨a, b, c, d⟩ => ⟨a, b, c, d⟩, fun ⟨a, b, c, d⟩ => ⟨a, b, c, d⟩⟩

/-- The locations that are looked up on the way from a directory. Links on the way are handed to
`onLink`. -/
def lookups (t : FileTree) (e : Ending)
    (onLink : Location → String → List String → List Location) :
    Location → List String → List Location
  | _, [] => []
  | dir, s :: rest =>
    if s = "." ∨ s = "" then lookups t e onLink dir rest
    else if s = ".." then lookups t e onLink dir.dropLast rest
    else if Looks e s rest then
      (dir ++ [s]) ::
        match t.get? (dir ++ [s]) with
        | some .directory => lookups t e onLink (dir ++ [s]) rest
        | some (.link target) => if rest = [] ∧ e = .kept then [] else onLink dir target rest
        | _ => []
    else []

/-- The locations that a path comes by, as long as links may be followed. -/
def passage (t : FileTree) (e : Ending) : Nat → Location → List String → List Location
  | 0 => lookups t e fun _ _ _ => []
  | n + 1 => lookups t e fun dir target rest =>
      passage t e n (start dir target) (steps target ++ rest)

variable {t : FileTree} {e : Ending} {a b : Stage} {loc : Location}

theorem looksUp_cons_iff {n : Nat} {d : Location} {s : String} {rest : List String} :
    LooksUp e ⟨n, d, s :: rest⟩ loc ↔ Looks e s rest ∧ loc = d ++ [s] := by
  constructor
  · rintro ⟨s', rest', heq, hl, rfl⟩
    obtain ⟨rfl, rfl⟩ := List.cons.inj heq
    exact ⟨hl, rfl⟩
  · rintro ⟨hl, rfl⟩
    exact ⟨s, rest, rfl, hl, rfl⟩

/-- After a step a path comes by what the rest of it comes by. -/
theorem mem_passage_of_step (h : Step t e a b) :
    loc ∈ t.passage e a.links a.dir a.rest ↔
      LooksUp e a loc ∨ loc ∈ t.passage e b.links b.dir b.rest := by
  cases h with
  | @idle n d s rest h =>
    have hnot : ¬ Looks e s rest := fun hl => hl.notIdle h
    cases n <;> simp [passage, lookups, looksUp_cons_iff, h, hnot]
  | @up n d rest =>
    have hnot : ¬ Looks e ".." rest := fun hl => hl.notUp rfl
    cases n <;> simp [passage, lookups, looksUp_cons_iff, hnot]
  | @enter n d s rest h hd =>
    cases n <;> simp [passage, lookups, looksUp_cons_iff, h, h.notIdle, h.notUp, hd]
  | @link n d s rest target h hl hk =>
    simp [passage, lookups, looksUp_cons_iff, h, h.notIdle, h.notUp, hl, hk]

/-- Where no step is made, nothing more is looked up. -/
theorem mem_passage_of_ends {p : Place} (h : Ends t e a p) :
    loc ∈ t.passage e a.links a.dir a.rest ↔ LooksUp e a loc := by
  cases h with
  | @here n d =>
    have hnot : ¬ LooksUp e ⟨n, d, []⟩ loc := by simp [LooksUp]
    cases n <;> simp [passage, lookups, hnot]
  | @barred n d s rest h hup hb =>
    cases n <;> simp [passage, lookups, looksUp_cons_iff, h, hup, hb]
  | @missing n d s h hm =>
    cases n <;> simp [passage, lookups, looksUp_cons_iff, h, h.notIdle, h.notUp, hm]
  | @lost n d s rest h hr hm =>
    cases n <;> simp [passage, lookups, looksUp_cons_iff, h, h.notIdle, h.notUp, hm]
  | @file n d s bytes h hf =>
    cases n <;> simp [passage, lookups, looksUp_cons_iff, h, h.notIdle, h.notUp, hf]
  | @blocked n d s rest bytes h hr hf =>
    cases n <;> simp [passage, lookups, looksUp_cons_iff, h, h.notIdle, h.notUp, hf]
  | @kept n d s target h hl hk =>
    cases n <;> simp [passage, lookups, looksUp_cons_iff, h.notIdle, h.notUp, hl, hk]
  | @exhausted d s rest target h hl hk =>
    simp [passage, lookups, looksUp_cons_iff, h, h.notIdle, h.notUp, hl]

theorem visits_iff_mem_passage :
    Visits t e a loc ↔ loc ∈ t.passage e a.links a.dir a.rest := by
  induction a using step_induction (t := t) (e := e) with
  | h a ih =>
    by_cases hstep : ∃ b, Step t e a b
    · obtain ⟨b, hb⟩ := hstep
      rw [mem_passage_of_step hb, ← ih b hb]
      constructor
      · rintro ⟨c, hc, hl⟩
        rcases ReflTransGen.cases_head hc with rfl | ⟨b', hb', hc⟩
        · exact .inl hl
        · obtain rfl := hb.unique hb'
          exact .inr ⟨c, hc, hl⟩
      · rintro (hl | ⟨c, hc, hl⟩)
        · exact ⟨a, .refl, hl⟩
        · exact ⟨c, .head hb hc, hl⟩
    · obtain ⟨p, hp⟩ := (step_or_ends t e a).resolve_left hstep
      rw [mem_passage_of_ends hp]
      constructor
      · rintro ⟨c, hc, hl⟩
        rcases ReflTransGen.cases_head hc with rfl | ⟨b, hb, -⟩
        · exact hl
        · exact absurd ⟨b, hb⟩ hstep
      · exact fun hl => ⟨a, .refl, hl⟩

instance (t : FileTree) (p : Path) (loc : Location) : Decidable (t.LeadsBy p loc) :=
  decidable_of_iff _ visits_iff_mem_passage.symm

end FileTree
end Stencil
