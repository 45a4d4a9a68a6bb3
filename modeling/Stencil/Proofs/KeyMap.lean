import Stencil.KeyMap
import Mathlib.Data.List.Sort

/-! Maps by what they hold: looking up decides equality, and each operation is told by its
lookups. -/
namespace Stencil
namespace KeyMap

theorem get?_eq_some_iff (m : KeyMap α) (key : String) (value : α) :
    m.get? key = some value ↔ (key, value) ∈ m.entries := by
  obtain ⟨entries, hs⟩ := m
  simp only [get?]
  induction entries with
  | nil => simp
  | cons e rest ih =>
    obtain ⟨k, v⟩ := e
    obtain ⟨hlt, hrest⟩ := List.pairwise_cons.mp hs
    by_cases hk : k = key
    · subst hk
      have habsent : (k, value) ∉ rest := fun h => String.lt_irrefl k (hlt _ h)
      simp [habsent, eq_comm]
    · simpa [hk, Ne.symm hk] using ih hrest

/-- Maps that answer every lookup alike are the same. -/
theorem ext_get? {m n : KeyMap α} (h : ∀ key, m.get? key = n.get? key) : m = n := by
  have hasymm : Std.Asymm fun a b : String × α => a.1 < b.1 :=
    ⟨fun _ _ hab hba => String.lt_irrefl _ (String.lt_trans hab hba)⟩
  apply ext
  apply m.sorted.eq_of_mem_iff n.sorted
  intro e
  rw [← get?_eq_some_iff, ← get?_eq_some_iff, h]

@[simp] theorem get?_empty (key : String) : (empty : KeyMap α).get? key = none := rfl

theorem get?_insert (m : KeyMap α) (key other : String) (value : α) :
    (m.insert key value).get? other = if other = key then some value else m.get? other := by
  split
  · next h => subst h; exact get?_insert_self m other value
  · next h => exact get?_insert_of_ne m value h

/-- Inserting what is there changes nothing. -/
theorem insert_of_get? {m : KeyMap α} {key : String} {value : α} (h : m.get? key = some value) :
    m.insert key value = m := by
  apply ext_get?
  intro other
  rw [get?_insert]
  split
  · next he => rw [he, h]
  · rfl

theorem insertAll_cons (m : KeyMap α) (e : String × α) (rest : List (String × α)) :
    m.insertAll (e :: rest) = (m.insert e.1 e.2).insertAll rest := rfl

theorem get?_keep (m : KeyMap α) (p : String → Bool) (key : String) :
    (m.keep p).get? key = if p key then m.get? key else none := by
  apply Option.ext
  intro value
  rw [get?_eq_some_iff]
  by_cases hp : p key <;> simp [keep, hp, get?_eq_some_iff]

/-- A later entry with the key wins over earlier ones and over the map. -/
theorem get?_insertAll (m : KeyMap α) (entries : List (String × α)) (key : String) :
    (m.insertAll entries).get? key =
      ((entries.reverse.find? fun e => e.1 == key).map (·.2)).or (m.get? key) := by
  induction entries generalizing m with
  | nil => simp [insertAll]
  | cons e rest ih =>
    rw [insertAll_cons, ih, get?_insert, List.reverse_cons, List.find?_append]
    cases List.find? (fun e => e.1 == key) rest.reverse with
    | some f => simp
    | none =>
      by_cases hk : key = e.1
      · simp [hk]
      · simp [hk, Ne.symm hk]

theorem find?_reverse_entries (m : KeyMap α) (key : String) :
    ((m.entries.reverse.find? fun e => e.1 == key).map (·.2)) = m.get? key := by
  apply Option.ext
  intro value
  rw [get?_eq_some_iff]
  constructor
  · intro h
    obtain ⟨e, he, rfl⟩ := Option.map_eq_some_iff.mp h
    have hm := List.mem_of_find?_eq_some he
    have hk : e.1 = key := by simpa using List.find?_some he
    subst hk
    simpa using hm
  · intro h
    cases hf : m.entries.reverse.find? fun e => e.1 == key with
    | none =>
      have := List.find?_eq_none.mp hf (key, value) (by simpa using h)
      simp at this
    | some e =>
      have hm : e ∈ m.entries := by simpa using List.mem_of_find?_eq_some hf
      have hk : e.1 = key := by simpa using List.find?_some hf
      obtain ⟨k, v⟩ := e
      subst hk
      have hv := (get?_eq_some_iff m k v).mpr hm
      rw [(get?_eq_some_iff m k value).mpr h] at hv
      exact hv.symm

theorem get?_union (m n : KeyMap α) (key : String) :
    (m.union n).get? key = (n.get? key).or (m.get? key) := by
  rw [union, get?_insertAll, find?_reverse_entries]

/-- A map is read back from its own entries. -/
@[simp] theorem ofList_entries (m : KeyMap α) : ofList m.entries = m := by
  apply ext_get?
  intro key
  rw [ofList, get?_insertAll, find?_reverse_entries, get?_empty, Option.or_none]

/-- What a key holds is what its last entry says. -/
theorem get?_ofList_eq_some_iff {entries : List (String × α)} {key : String} {value : α} :
    (ofList entries).get? key = some value ↔
      ∃ front rest, entries = front ++ (key, value) :: rest ∧ key ∉ rest.map (·.1) := by
  rw [ofList, get?_insertAll, get?_empty, Option.or_none, Option.map_eq_some_iff]
  constructor
  · rintro ⟨⟨k, v⟩, hfind, rfl⟩
    obtain ⟨hk, later, earlier, hreverse, hlater⟩ := List.find?_eq_some_iff_append.mp hfind
    obtain rfl : k = key := by simpa using hk
    refine ⟨earlier.reverse, later.reverse, ?_, fun hmem => ?_⟩
    · simpa using congrArg List.reverse hreverse
    · obtain ⟨e, he, hek⟩ := List.mem_map.mp hmem
      simpa [hek] using hlater e (List.mem_reverse.mp he)
  · rintro ⟨front, rest, rfl, hrest⟩
    refine ⟨(key, value), List.find?_eq_some_iff_append.mpr
      ⟨by simp, rest.reverse, front.reverse, by simp, fun e he => ?_⟩, rfl⟩
    have hne : e.1 ≠ key := fun h => hrest (List.mem_map.mpr ⟨e, List.mem_reverse.mp he, h⟩)
    simpa using hne

/-- Later entries win over earlier ones. -/
theorem ofList_append (first second : List (String × α)) :
    ofList (first ++ second) = (ofList first).union (ofList second) := by
  apply ext_get?
  intro key
  rw [get?_union, ofList, ofList, ofList, get?_insertAll, get?_insertAll, get?_insertAll,
    get?_empty, Option.or_none, Option.or_none, Option.or_none, List.reverse_append,
    List.find?_append]
  cases second.reverse.find? fun e => e.1 == key <;> rfl

theorem mem_keys_ofList (entries : List (String × α)) (key : String) :
    key ∈ (ofList entries).entries.map (·.1) ↔ key ∈ entries.map (·.1) := by
  have hget := get?_insertAll (empty : KeyMap α) entries key
  constructor
  · intro h
    obtain ⟨e, he, rfl⟩ := List.mem_map.mp h
    have hsome : (ofList entries).get? e.1 = some e.2 := (get?_eq_some_iff _ _ _).mpr he
    rw [ofList, hget, get?_empty, Option.or_none] at hsome
    obtain ⟨f, hf, -⟩ := Option.map_eq_some_iff.mp hsome
    have hm : f ∈ entries := by simpa using List.mem_of_find?_eq_some hf
    have hk : f.1 = e.1 := by simpa using List.find?_some hf
    exact List.mem_map.mpr ⟨f, hm, hk⟩
  · intro h
    obtain ⟨e, he, rfl⟩ := List.mem_map.mp h
    cases hf : entries.reverse.find? fun f => f.1 == e.1 with
    | none =>
      have := List.find?_eq_none.mp hf e (by simpa using he)
      simp at this
    | some f =>
      rw [hf, get?_empty, Option.or_none] at hget
      have hm := (get?_eq_some_iff _ _ _).mp (show (ofList entries).get? e.1 = some f.2 from hget)
      exact List.mem_map.mpr ⟨_, hm, rfl⟩

end KeyMap
end Stencil
