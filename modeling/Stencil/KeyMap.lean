/-! Finite maps from texts, kept in the order of their keys. -/
namespace Stencil

/-- Entries with strictly increasing keys, by code point. -/
structure KeyMap (α : Type) where
  entries : List (String × α)
  sorted : entries.Pairwise (fun a b => a.1 < b.1)
  deriving Repr

namespace KeyMap

/-- Put an entry where its key belongs, over one with the same key. -/
def place (key : String) (value : α) : List (String × α) → List (String × α)
  | [] => [(key, value)]
  | (k, v) :: rest =>
    if key < k then (key, value) :: (k, v) :: rest
    else if k < key then (k, v) :: place key value rest
    else (key, value) :: rest

theorem eq_of_not_lt {a b : String} (h : ¬ a < b) (g : ¬ b < a) : a = b :=
  String.le_antisymm (String.not_lt.mp g) (String.not_lt.mp h)

theorem mem_place {key : String} {value : α} {entries : List (String × α)} {e : String × α}
    (h : e ∈ place key value entries) : e = (key, value) ∨ e ∈ entries := by
  induction entries with
  | nil => simp_all [place]
  | cons f rest ih =>
    obtain ⟨k, v⟩ := f
    rw [place] at h
    split at h
    · simpa using h
    · split at h
      · rcases List.mem_cons.mp h with h | h
        · exact .inr (by simp [h])
        · rcases ih h with h | h
          · exact .inl h
          · exact .inr (List.mem_cons_of_mem _ h)
      · rcases List.mem_cons.mp h with h | h
        · exact .inl h
        · exact .inr (List.mem_cons_of_mem _ h)

theorem sorted_place (key : String) (value : α) {entries : List (String × α)}
    (h : entries.Pairwise (fun a b => a.1 < b.1)) :
    (place key value entries).Pairwise (fun a b => a.1 < b.1) := by
  induction entries with
  | nil => simp [place]
  | cons f rest ih =>
    obtain ⟨k, v⟩ := f
    rw [List.pairwise_cons] at h
    rw [place]
    split
    · rename_i hk
      refine List.pairwise_cons.mpr ⟨?_, List.pairwise_cons.mpr h⟩
      intro e he
      rcases List.mem_cons.mp he with rfl | he
      · exact hk
      · exact String.lt_trans hk (h.1 e he)
    · split
      · rename_i _ hk
        refine List.pairwise_cons.mpr ⟨?_, ih h.2⟩
        intro e he
        rcases mem_place he with rfl | he
        · exact hk
        · exact h.1 e he
      · rename_i hk hk'
        have hkey : key = k := eq_of_not_lt hk hk'
        subst hkey
        exact List.pairwise_cons.mpr ⟨h.1, h.2⟩

def empty : KeyMap α := ⟨[], .nil⟩

instance : Inhabited (KeyMap α) := ⟨empty⟩

def get? (m : KeyMap α) (key : String) : Option α :=
  (m.entries.find? fun e => e.1 == key).map (·.2)

def insert (m : KeyMap α) (key : String) (value : α) : KeyMap α :=
  ⟨place key value m.entries, sorted_place key value m.sorted⟩

/-- The entries whose key is kept. -/
def keep (m : KeyMap α) (p : String → Bool) : KeyMap α :=
  ⟨m.entries.filter fun e => p e.1, m.sorted.filter _⟩

/-- Later entries replace earlier ones. -/
def insertAll (m : KeyMap α) (entries : List (String × α)) : KeyMap α :=
  entries.foldl (fun m e => m.insert e.1 e.2) m

def ofList (entries : List (String × α)) : KeyMap α := empty.insertAll entries

/-- The entries of both, those of `n` winning. -/
def union (m n : KeyMap α) : KeyMap α := m.insertAll n.entries

def size (m : KeyMap α) : Nat := m.entries.length

def isEmpty (m : KeyMap α) : Bool := m.entries.isEmpty

instance [BEq α] : BEq (KeyMap α) := ⟨fun m n => m.entries == n.entries⟩

theorem ext {m n : KeyMap α} (h : m.entries = n.entries) : m = n := by
  cases m; cases n; simp_all

instance [DecidableEq α] : DecidableEq (KeyMap α) := fun m n =>
  decidable_of_iff (m.entries = n.entries) ⟨ext, fun h => by rw [h]⟩

theorem find?_place_self (key : String) (value : α) (entries : List (String × α)) :
    ((place key value entries).find? fun e => e.1 == key) = some (key, value) := by
  induction entries with
  | nil => simp [place]
  | cons f rest ih =>
    obtain ⟨k, v⟩ := f
    rw [place]
    split
    · simp
    · split
      · rename_i _ hk
        have hne : k ≠ key := fun h => String.lt_irrefl key (h ▸ hk)
        simp [hne, ih]
      · simp

@[simp] theorem get?_insert_self (m : KeyMap α) (key : String) (value : α) :
    (m.insert key value).get? key = some value := by
  simp [get?, insert, find?_place_self]

theorem find?_place_of_ne {key other : String} (value : α) (h : other ≠ key)
    (entries : List (String × α)) :
    ((place key value entries).find? fun e => e.1 == other) =
      entries.find? fun e => e.1 == other := by
  induction entries with
  | nil => simp [place, Ne.symm h]
  | cons f rest ih =>
    obtain ⟨k, v⟩ := f
    rw [place]
    split
    · simp [List.find?_cons, Ne.symm h]
    · split
      · simp [List.find?_cons, ih]
      · rename_i hk hk'
        have hkey : key = k := eq_of_not_lt hk hk'
        subst hkey
        simp [Ne.symm h]

theorem get?_insert_of_ne (m : KeyMap α) {key other : String} (value : α) (h : other ≠ key) :
    (m.insert key value).get? other = m.get? other := by
  simp [get?, insert, find?_place_of_ne value h]

end KeyMap
end Stencil
