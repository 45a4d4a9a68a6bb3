import Stencil.Proofs.FileTree.ReadBack

/-! A file put over another file, over a link or where nothing was. Paths that do not lead by its
place are followed as before, and whatever was found is still found if the place led to a file. -/
namespace Stencil
namespace FileTree

open Stencil.Path Relation

/-- A tree with a file put at a location, over anything but a directory. -/
structure Overwritten (u v : FileTree) (loc : Location) (bytes : ByteArray) : Prop where
  workDir : u.workDir = v.workDir
  free : u.get? loc ≠ some .directory
  get?_eq : ∀ other, v.get? other = if other = loc then some (.file bytes) else u.get? other

namespace Overwritten

variable {u v : FileTree} {loc : Location} {bytes : ByteArray}

theorem get?_self (h : Overwritten u v loc bytes) : v.get? loc = some (.file bytes) := by
  rw [h.get?_eq, if_pos rfl]

theorem get?_of_ne (h : Overwritten u v loc bytes) {other : Location} (hne : other ≠ loc) :
    v.get? other = u.get? other := by
  rw [h.get?_eq, if_neg hne]

theorem wellFormed {top : Location} {name : String}
    (h : Overwritten u v (top ++ [name]) bytes) (hu : WellFormed u)
    (htop : u.get? top = some .directory) (hname : IsName name) : WellFormed v := by
  refine hu.change h.workDir.symm (fun other hd => ?_) fun dir n hs => ?_
  · rw [h.get?_of_ne, hd]
    rintro rfl
    exact h.free hd
  · by_cases he : dir ++ [n] = top ++ [name]
    · obtain ⟨rfl, hn⟩ := List.append_inj' he rfl
      exact .inr ⟨htop, (List.cons.inj hn).1 ▸ hname⟩
    · rw [h.get?_of_ne he] at hs
      exact .inl hs

/-- Paths that do not lead by the place of the file lead where they did. -/
theorem resolve_eq (h : Overwritten u v loc bytes) {p : Path} (hn : ¬ u.LeadsBy p loc) :
    v.resolve p = u.resolve p := by
  refine resolve_congr h.workDir fun other hleads => h.get?_of_ne ?_
  rintro rfl
  exact hn hleads

theorem leadsBy (h : Overwritten u v loc bytes) {p : Path} (hn : ¬ u.LeadsBy p loc)
    {other : Location} (hl : v.LeadsBy p other) : u.LeadsBy p other := by
  rw [LeadsBy, outset, ← h.workDir] at hl
  refine hl.of_alike fun place hplace => .of_eq (h.get?_of_ne ?_).symm
  rintro rfl
  exact hn hplace

/-- What was found is still found, if a link that is gone led to where a file can be. -/
theorem exists?_of_exists? (h : Overwritten u v loc bytes) (hu : WellFormed u) (hv : WellFormed v)
    (hlink : ∀ text, u.get? loc = some (.link text) →
      ∃ n, (u.outcome .followed ⟨n, start loc.dropLast text, steps text⟩).TakesFile)
    {p : Path} (hp : u.exists? p = true) : v.exists? p = true := by
  rw [exists?_eq] at hp ⊢
  have ha := admissible_of_isSome hp
  have houtset : v.outset p = u.outset p := by rw [outset, outset, h.workDir]
  rcases alike_or_part u v .followed (u.outset p) with halike | ⟨b, other, hbu, hbv, hl, hn⟩
  · have htarget : v.target? p .followed = u.target? p .followed := by
      rw [FileTree.target?_eq v ha, FileTree.target?_eq u ha, houtset]
      exact (outcome_alike halike).1
    rw [FileTree.entryAt?_eq hu] at hp
    rw [FileTree.entryAt?_eq hv, htarget]
    cases hother : u.target? p .followed with
    | none => simp [hother] at hp
    | some other =>
      rw [hother] at hp
      rw [Option.bind_some, h.get?_eq]
      split
      · rfl
      · exact hp
  · -- The trees part at the place of the file, so the path ends there.
    obtain rfl : other = loc := by
      by_contra hne
      exact hn (.of_eq (h.get?_of_ne hne).symm)
    obtain ⟨m, dir, _⟩ := b
    obtain ⟨s, rest, rfl, hlooks, rfl⟩ := hl
    rw [entryAt?_eq_outcome ha, outcome_of_steps hbu, outcome_of_looks u hlooks] at hp
    have hrest : rest = [] := by
      by_contra hne
      cases hg : u.get? (dir ++ [s]) with
      | none => simp [hg, hne, Place.entryAt?] at hp
      | some entry =>
        cases entry with
        | directory => exact h.free hg
        | file old => simp [hg, hne, Place.entryAt?] at hp
        | link text =>
          obtain ⟨n, hfile⟩ := hlink text hg
          rw [List.dropLast_concat] at hfile
          cases m with
          | zero => simp [hg, hne, Place.entryAt?] at hp
          | succ m =>
            rcases outcome_beyond hfile m rest with ⟨hnil, -⟩ | ⟨kind, hkind⟩
            · exact hne hnil
            · simp [hg, hne, hkind, Place.entryAt?] at hp
    subst hrest
    rw [entryAt?_eq_outcome ha, houtset, outcome_of_steps hbv,
      outcome_of_ends (.file hlooks h.get?_self)]
    rfl

end Overwritten

end FileTree
end Stencil
