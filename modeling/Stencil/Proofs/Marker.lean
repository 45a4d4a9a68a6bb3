import Stencil.Marker
import Stencil.Proofs.Regex.Advance

/-! What a marker leaves of a name: an output's name has no character that is not in that of its
template. -/
namespace Stencil
namespace Marker

variable {m : Marker} {name out : String}

theorem unmarked?_of_outputName (h : m.outputName name = some out) :
    m.unmarked? name.toList = some out.toList ∧ out ≠ "" ∧ out ≠ "." := by
  unfold outputName at h
  split at h
  · next cs hcs =>
    obtain ⟨hne, hout⟩ := Option.ite_none_left_eq_some.mp h
    obtain rfl := Option.some.inj hout
    obtain ⟨hempty, hdot⟩ := not_or.mp hne
    rw [String.toList_ofList]
    refine ⟨hcs, fun he => hempty ?_, fun he => hdot ?_⟩
    · simpa using congrArg String.toList he
    · simpa using congrArg String.toList he
  · simp at h

/-- The name of an output says something and has no separator that its template's has not. -/
theorem outputName_spec (h : m.outputName name = some out) (hslash : '/' ∉ name.toList) :
    out ≠ "" ∧ out ≠ "." ∧ '/' ∉ out.toList := by
  obtain ⟨hu, hempty, hdot⟩ := unmarked?_of_outputName h
  refine ⟨hempty, hdot, fun hc => ?_⟩
  have hsub : out.toList ⊆ name.toList ++ ['.'] := by
    unfold unmarked? at hu
    split at hu
    · next hout => exact Option.some.inj hu ▸ Regex.subset_of_replaceFirst hout
    · exact List.Subset.trans (Regex.subset_of_replaceFirst hu) (by simp)
  have hmem := hsub hc
  simp [hslash] at hmem

end Marker
end Stencil
