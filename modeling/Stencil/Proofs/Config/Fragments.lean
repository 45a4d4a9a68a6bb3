import Stencil.Config
import Mathlib.Data.List.Induction
import Mathlib.Data.List.Nodup

/-! Folding the fragments of a document. A key stands where it came up first and has the value that
was given last. -/
namespace Stencil

namespace Fields

variable {fields entries : List (String × α)} {key : String} {e : String × α}

theorem map_fst_put (fields : List (String × α)) (key : String) (value : α) :
    (put fields key value).map (·.1) =
      if key ∈ fields.map (·.1) then fields.map (·.1) else fields.map (·.1) ++ [key] := by
  induction fields with
  | nil => simp [put]
  | cons e rest ih =>
    obtain ⟨k, v⟩ := e
    by_cases hk : k = key
    · simp [put, hk]
    · have hmem : (key = k ∨ key ∈ rest.map (·.1)) ↔ key ∈ rest.map (·.1) := by
        simp [Ne.symm hk]
      simp only [put, hk, if_false, List.map_cons, ih, List.mem_cons, hmem]
      split <;> rfl

theorem nodup_put (h : (fields.map (·.1)).Nodup) (key : String) (value : α) :
    ((put fields key value).map (·.1)).Nodup := by
  rw [map_fst_put]
  split
  · exact h
  · next hnot => exact List.concat_eq_append ▸ List.Nodup.concat hnot h

theorem merge_append_singleton (fields entries : List (String × α)) (e : String × α) :
    merge fields (entries ++ [e]) = put (merge fields entries) e.1 e.2 := by
  simp [merge]

/-- Keys are in the order of their first appearance. -/
theorem map_fst_merge (entries : List (String × α)) :
    (merge [] entries).map (·.1) = (entries.map (·.1)).eraseDups := by
  induction entries using List.reverseRecOn with
  | nil => rfl
  | append_singleton entries e ih =>
    rw [merge_append_singleton, map_fst_put, ih, List.map_append, List.eraseDups_append]
    by_cases hmem : e.1 ∈ entries.map (·.1)
    · simp [hmem, List.removeAll]
    · simp [hmem, List.removeAll, List.eraseDups_cons]

theorem nodup_merge (entries : List (String × α)) : ((merge [] entries).map (·.1)).Nodup := by
  induction entries using List.reverseRecOn with
  | nil => exact .nil
  | append_singleton entries e ih =>
    rw [merge_append_singleton]
    exact nodup_put ih e.1 e.2

/-- Each key is found with its last value. -/
theorem get?_merge (entries : List (String × α)) (key : String) :
    get? (merge [] entries) key = entries.reverse.lookup key := by
  induction entries using List.reverseRecOn with
  | nil => rfl
  | append_singleton entries e ih =>
    rw [merge_append_singleton, List.reverse_append, List.reverse_singleton,
      List.singleton_append, List.lookup_cons]
    by_cases hk : key = e.1
    · simp [hk]
    · rw [get?_put_of_ne _ _ hk, ih, beq_eq_false_iff_ne.mpr hk]

theorem mem_iff_get? (h : (fields.map (·.1)).Nodup) :
    e ∈ fields ↔ get? fields e.1 = some e.2 := by
  induction fields with
  | nil => simp [get?]
  | cons f rest ih =>
    obtain ⟨k, v⟩ := f
    obtain ⟨hk, hrest⟩ := List.nodup_cons.mp h
    by_cases he : k = e.1
    · subst he
      have hnot : e ∉ rest := fun hmem => hk (List.mem_map.mpr ⟨e, hmem, rfl⟩)
      simp [get?, hnot, Prod.ext_iff, eq_comm]
    · have hne : e ≠ (k, v) := fun h => he (by rw [h])
      simp [get?, he, hne, ih hrest]

/-- An entry is left if it is the last with its key. -/
theorem mem_merge_iff : e ∈ merge [] entries ↔ entries.reverse.lookup e.1 = some e.2 := by
  rw [mem_iff_get? (nodup_merge entries), get?_merge]

end Fields

namespace Config

theorem fragments_objects (what : String) (fs : List (List (String × Json))) :
    fragments what (.array (fs.map .object)) = .ok fs := by
  unfold fragments
  induction fs with
  | nil => rfl
  | cons f rest ih => 
    simp only [List.map_cons, List.mapM_cons, fragment]
    simp only [] at ih
    rw [ih]
    rfl

/-- Only the entries count, not how they are spread over fragments. -/
theorem foldEntries_objects (what : String) (fs : List (List (String × Json))) :
    foldEntries what (.array (fs.map .object)) = .ok (Fields.merge [] fs.flatten) := by
  rw [foldEntries, fragments_objects, Fields.merge, List.foldl_flatten]
  rfl

end Config
end Stencil
