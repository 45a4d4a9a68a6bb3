import Stencil.Proofs.FileTree.Agreement

/-! A replacement that is cut off leaves the tree as it was, or some of the bytes where the temporary
sibling leads. Main statement: at the file's own path are the old bytes or the new ones, unless the
temporary sibling leads to the same place. -/
namespace Stencil
namespace FileTree

open Stencil.Path

variable {t u : FileTree} {root : Path} {top : Location} {name : String} {bytes : ByteArray}

/-- Trees before and after a file has been put differ at the file alone. -/
theorem FilePut.agreeOff {loc : Location} (h : FilePut t u loc bytes) : AgreeOff (· = loc) t u :=
  ⟨h.sameFrame, fun other hne => by rw [h.get?_eq, if_neg hne]⟩

theorem writeTemporary_eq_ok_iff {p : Path} :
    t.writeTemporary p bytes = .ok u ↔ t.writeBytes (temporaryFor p) bytes = .ok u := by
  refine ⟨writeBytes_of_writeTemporary, fun h => ?_⟩
  unfold writeTemporary
  rw [h]

/-- The bytes that are meant for the temporary sibling of a path go to where the path leads. -/
structure MeetsSibling (t : FileTree) (p : Path) : Prop where
  takesFile : (t.locate (temporaryFor p) .written).TakesFile
  target?_eq : t.target? (temporaryFor p) .written = t.target? p .followed

namespace Rooted

/-- Below a root a replacement is cut off before anything is written or with some of the bytes
written. -/
theorem cutOff_iff (h : Rooted t root top) (hname : IsReplaceable name) :
    CutOff t (root.join name) bytes u ↔ u = t ∨ ∃ count,
      t.writeBytes (temporaryFor (root.join name)) (bytes.extract 0 count) = .ok u := by
  obtain ⟨into, dots, w⟩ := exists_ways h.admissible.ne_empty hname
  have hparent := w.ensureParent_eq h
  constructor
  · intro hcut
    cases hcut with
    | before => exact .inl rfl
    | parented hmade => exact .inl (congrArg Prod.fst (hmade.symm.trans hparent))
    | written count hmade hwrite =>
      obtain rfl := congrArg Prod.fst (hmade.symm.trans hparent)
      exact .inr ⟨count, writeTemporary_eq_ok_iff.mp hwrite⟩
  · rintro (rfl | ⟨count, hwrite⟩)
    · exact .before
    · exact .written count hparent (writeTemporary_eq_ok_iff.mpr hwrite)

/-- What is left of a replacement that is cut off. -/
theorem exists_leftover (h : Rooted t root top) (hname : IsReplaceable name)
    (hcut : CutOff t (root.join name) bytes u) : u = t ∨ ∃ loc count,
      t.target? (temporaryFor (root.join name)) .written = some loc ∧
      FilePut t u loc (bytes.extract 0 count) ∧ WellFormed u := by
  refine ((h.cutOff_iff hname).mp hcut).imp_right fun ⟨count, hwrite⟩ => ?_
  obtain ⟨loc, htarget, hput, hw⟩ := exists_filePut h.wellFormed hwrite
  exact ⟨loc, count, htarget, hput, hw⟩

/-- Where the two meet, any number of the bytes may be found at the file's own path. -/
theorem exists_partial (h : Rooted t root top) (hname : IsReplaceable name)
    (hmeets : MeetsSibling t (root.join name)) (count : Nat) :
    ∃ u, CutOff t (root.join name) bytes u ∧
      u.entryAt? (root.join name) = some (.file (bytes.extract 0 count)) := by
  obtain ⟨loc, hloc⟩ := hmeets.takesFile.exists_target?
  have hwrite : t.writeBytes (temporaryFor (root.join name)) (bytes.extract 0 count) =
      .ok (t.set loc (.file (bytes.extract 0 count))) :=
    writeBytes_eq_ok_iff.mpr ⟨hmeets.takesFile, loc, hloc, rfl⟩
  obtain ⟨loc', hloc', hput, hw⟩ := exists_filePut h.wellFormed hwrite
  refine ⟨_, (h.cutOff_iff hname).mpr (.inr ⟨count, hwrite⟩), ?_⟩
  rw [hput.entryAt?_eq h.wellFormed hw, ← hmeets.target?_eq, hloc', if_pos rfl]

/-- Wherever a replacement is cut off, the old bytes are found or the new ones, exactly if the
temporary sibling does not lead to the same place. -/
theorem whole_iff (h : Rooted t root top) (hname : IsReplaceable name) (hsize : 2 ≤ bytes.size) :
    (∀ u, CutOff t (root.join name) bytes u →
      u.entryAt? (root.join name) = t.entryAt? (root.join name) ∨
        u.entryAt? (root.join name) = some (.file bytes)) ↔
      ¬ MeetsSibling t (root.join name) := by
  constructor
  · intro hwhole hmeets
    -- None of the bytes and one of them are not both what was there before.
    have hold : ∀ count < 2,
        t.entryAt? (root.join name) = some (.file (bytes.extract 0 count)) := by
      intro count hcount
      obtain ⟨u, hcut, hfound⟩ := h.exists_partial hname hmeets count
      rcases hwhole u hcut with hthere | hnew
      · exact hthere.symm.trans hfound
      · have hshort := congrArg ByteArray.size
          (Entry.file.inj (Option.some.inj (hfound.symm.trans hnew)))
        rw [ByteArray.size_extract] at hshort
        omega
    have hsizes := congrArg ByteArray.size
      (Entry.file.inj (Option.some.inj ((hold 0 (by omega)).symm.trans (hold 1 (by omega)))))
    rw [ByteArray.size_extract, ByteArray.size_extract] at hsizes
    omega
  · intro hmeets u hcut
    rcases (h.cutOff_iff hname).mp hcut with rfl | ⟨count, hwrite⟩
    · exact .inl rfl
    · obtain ⟨loc, htarget, hput, hw⟩ := exists_filePut h.wellFormed hwrite
      refine .inl ((hput.entryAt?_eq h.wellFormed hw _).trans (if_neg fun hsame => hmeets ?_))
      exact ⟨(writeBytes_eq_ok_iff.mp hwrite).1, htarget.trans hsame.symm⟩

end Rooted
end FileTree
end Stencil
