import Stencil.Proofs.KeyMap
import Stencil.Proofs.Path
import Mathlib.Data.List.Induction

/-! What is at a location, after a change and by name; and trees in which every entry is in a
directory, under a name that a file may have. -/
namespace Stencil
namespace FileTree

open Stencil.Path

theorem get?_set (t : FileTree) {loc : Location} (other : Location) (entry : Entry) (h : loc ≠ []) :
    (t.set loc entry).get? other = if other = loc then some entry else t.get? other := by
  split
  · next he =>
    subst he
    exact get?_set_self t entry h
  · next he => exact get?_set_of_ne t entry he

theorem find?_filter (entries : List (Location × Entry)) (p : Location → Bool) (loc : Location) :
    find? (entries.filter fun e => p e.1) loc = if p loc then find? entries loc else none := by
  induction entries with
  | nil => simp [find?]
  | cons e rest ih =>
    obtain ⟨l, x⟩ := e
    by_cases hl : l = loc
    · subst hl
      by_cases hp : p l <;> simp [find?, hp, ih]
    · by_cases hp : p l <;> simp [find?, hp, hl, ih]

theorem get?_erase (t : FileTree) {loc : Location} (other : Location) (h : loc ≠ []) :
    (t.erase loc).get? other = if loc <+: other then none else t.get? other := by
  by_cases ho : other = []
  · have hnot : ¬ loc <+: [] := by simpa using h
    simp [get?, ho, hnot]
  · simp only [get?, ho, if_false, erase]
    rw [find?_filter t.entries (fun l => !loc.isPrefixOf l) other]
    by_cases hp : loc <+: other
    · simp [hp, List.isPrefixOf_iff_prefix.mpr hp]
    · simp [hp]

theorem find?_isSome_iff (entries : List (Location × Entry)) (loc : Location) :
    (find? entries loc).isSome ↔ ∃ e ∈ entries, e.1 = loc := by
  induction entries with
  | nil => simp [find?]
  | cons e rest ih =>
    obtain ⟨l, x⟩ := e
    by_cases hl : l = loc <;> simp [find?, hl, ih]

theorem nameBelow?_eq_some_iff (dir loc : Location) (name : String) :
    nameBelow? dir loc = some name ↔ loc = dir ++ [name] := by
  unfold nameBelow?
  constructor
  · intro h
    split at h
    · next n hn =>
      obtain ⟨init, rfl⟩ := List.getLast?_eq_some_iff.mp hn
      by_cases hd : init = dir
      · simp_all
      · simp [hd] at h
    · simp at h
  · rintro rfl
    simp

/-- A directory lists the names under which something is found in it. -/
theorem mem_children_iff (t : FileTree) (dir : Location) (name : String) :
    name ∈ t.children dir ↔ (t.get? (dir ++ [name])).isSome := by
  rw [children, KeyMap.mem_keys_ofList]
  have hget : t.get? (dir ++ [name]) = find? t.entries (dir ++ [name]) := by simp [get?]
  rw [hget, find?_isSome_iff, List.map_map]
  simp only [List.mem_map, List.mem_filterMap, nameBelow?_eq_some_iff, Function.comp_apply,
    exists_eq_right]

theorem children_sorted (t : FileTree) (dir : Location) :
    (t.children dir).Pairwise (· < ·) :=
  List.pairwise_map.mpr (KeyMap.sorted _)

/-- No name has a backslash. -/
def BackslashFree (t : FileTree) : Prop :=
  ∀ loc, (t.get? loc).isSome → ∀ n ∈ loc, '\\' ∉ n.toList

/-- It is enough to look at the entries one by one. -/
theorem BackslashFree.of_entries {t : FileTree} (h : ∀ e ∈ t.entries, ∀ n ∈ e.1, '\\' ∉ n.toList) :
    t.BackslashFree := by
  intro loc hs n hn
  by_cases hne : loc = []
  · simp [hne] at hn
  · simp only [get?, hne, if_false] at hs
    obtain ⟨e, he, rfl⟩ := (find?_isSome_iff _ _).mp hs
    exact h e he n hn

/-- Nothing in the tree is a link. -/
def LinkFree (t : FileTree) : Prop := ∀ loc target, t.get? loc ≠ some (.link target)

theorem mem_of_find?_eq_some {entries : List (Location × Entry)} {loc : Location} {entry : Entry}
    (h : find? entries loc = some entry) : (loc, entry) ∈ entries := by
  induction entries with
  | nil => simp [find?] at h
  | cons e rest ih =>
    obtain ⟨l, x⟩ := e
    by_cases hl : l = loc
    · obtain rfl : x = entry := by simpa [find?, hl] using h
      simp [hl]
    · exact List.mem_cons_of_mem _ (ih (by simpa [find?, hl] using h))

/-- It is enough to look at the entries one by one. -/
theorem LinkFree.of_entries {t : FileTree} (h : ∀ e ∈ t.entries, ∀ target, e.2 ≠ .link target) :
    t.LinkFree := by
  intro loc target hl
  by_cases hne : loc = []
  · simp [get?, hne] at hl
  · simp only [get?, hne, if_false] at hl
    exact h _ (mem_of_find?_eq_some hl) target rfl

instance : DecidablePred IsName := fun s =>
  decidable_of_iff (s ≠ "" ∧ s ≠ "." ∧ s ≠ ".." ∧ '/' ∉ s.toList ∧ s.utf8ByteSize ≤ maxName)
    ⟨fun ⟨a, b, c, d, e⟩ => ⟨a, b, c, d, e⟩, fun ⟨a, b, c, d, e⟩ => ⟨a, b, c, d, e⟩⟩

/-- Trees as a file system holds them. -/
structure WellFormed (t : FileTree) : Prop where
  workDir : t.get? t.workDir = some .directory
  above : ∀ dir name, (t.get? (dir ++ [name])).isSome → t.get? dir = some .directory
  named : ∀ dir name, (t.get? (dir ++ [name])).isSome → IsName name

namespace WellFormed

variable {t : FileTree}

/-- It is enough to look at the entries one by one. -/
theorem of_entries (hw : t.get? t.workDir = some .directory)
    (h : ∀ e ∈ t.entries, t.get? e.1.dropLast = some .directory ∧
      ∀ name ∈ e.1.getLast?, IsName name) :
    WellFormed t := by
  have hentry : ∀ dir name, (t.get? (dir ++ [name])).isSome →
      t.get? dir = some .directory ∧ IsName name := by
    intro dir name hs
    have hget : t.get? (dir ++ [name]) = find? t.entries (dir ++ [name]) := by simp [get?]
    rw [hget, find?_isSome_iff] at hs
    obtain ⟨e, he, hloc⟩ := hs
    have hboth := h e he
    rw [hloc] at hboth
    simpa using hboth
  exact ⟨hw, fun dir name hs => (hentry dir name hs).1, fun dir name hs => (hentry dir name hs).2⟩

theorem directory_of_prefix (h : WellFormed t) {dir below : Location} (hne : below ≠ [])
    (hs : (t.get? (dir ++ below)).isSome) : t.get? dir = some .directory := by
  induction below using List.reverseRecOn with
  | nil => exact absurd rfl hne
  | append_singleton init name ih =>
    rw [← List.append_assoc] at hs
    have habove := h.above _ _ hs
    by_cases hinit : init = []
    · simpa [hinit] using habove
    · exact ih hinit (by simp [habove])

theorem directory_dropLast (h : WellFormed t) {dir : Location} (hd : t.get? dir = some .directory) :
    t.get? dir.dropLast = some .directory := by
  cases dir using List.reverseRecOn with
  | nil => exact hd
  | append_singleton init name =>
    rw [List.dropLast_concat]
    exact h.above init name (by simp [hd])

/-- Nothing is below what is no directory. -/
theorem eq_of_prefix (h : WellFormed t) {loc other : Location} (hp : loc <+: other)
    (hd : t.get? loc ≠ some .directory) (hs : (t.get? other).isSome) : other = loc := by
  obtain ⟨below, rfl⟩ := hp
  by_cases hb : below = []
  · simp [hb]
  · exact absurd (h.directory_of_prefix hb hs) hd

/-- Nothing is below a file or a link, so without it all else is as it was. -/
theorem get?_erase (h : WellFormed t) {loc : Location} (hd : t.get? loc ≠ some .directory)
    (other : Location) : (t.erase loc).get? other = if other = loc then none else t.get? other := by
  have hne : loc ≠ [] := by
    rintro rfl
    exact hd rfl
  rw [FileTree.get?_erase _ _ hne]
  by_cases hp : loc <+: other
  · rw [if_pos hp]
    split
    · rfl
    · next hother =>
      by_contra hs
      exact hother (h.eq_of_prefix hp hd (Option.isSome_iff_ne_none.mpr (Ne.symm hs)))
  · have hother : other ≠ loc := by
      rintro rfl
      exact hp (List.prefix_refl _)
    rw [if_neg hp, if_neg hother]

theorem names_of_isSome (h : WellFormed t) {loc : Location} (hs : (t.get? loc).isSome) :
    ∀ n ∈ loc, IsName n := by
  intro n hn
  obtain ⟨init, rest, rfl⟩ := List.append_of_mem hn
  apply h.named init n
  by_cases hr : rest = []
  · simpa [hr] using hs
  · have hsplit : init ++ n :: rest = (init ++ [n]) ++ rest := by simp
    rw [hsplit] at hs
    simp [h.directory_of_prefix hr hs]

/-- A tree stays well-formed if its directories stay and what is new is put into them. -/
theorem change {u : FileTree} (h : WellFormed t) (hdir : u.workDir = t.workDir)
    (hkeep : ∀ loc, t.get? loc = some .directory → u.get? loc = some .directory)
    (hnew : ∀ dir name, (u.get? (dir ++ [name])).isSome →
      (t.get? (dir ++ [name])).isSome ∨ (t.get? dir = some .directory ∧ IsName name)) :
    WellFormed u := by
  refine ⟨hdir ▸ hkeep _ h.workDir, fun dir name hs => hkeep dir ?_, fun dir name hs => ?_⟩
  · rcases hnew dir name hs with ht | ⟨hd, -⟩
    · exact h.above dir name ht
    · exact hd
  · rcases hnew dir name hs with ht | ⟨-, hn⟩
    · exact h.named dir name ht
    · exact hn

/-- A file may be put where one is, and under a new name in a directory. -/
theorem set_file (h : WellFormed t) {dir : Location} {name : String} (bytes : ByteArray)
    (hd : t.get? dir = some .directory) (hname : IsName name)
    (hfile : t.get? (dir ++ [name]) ≠ some .directory) :
    WellFormed (t.set (dir ++ [name]) (.file bytes)) := by
  have hne : dir ++ [name] ≠ [] := by simp
  refine h.change rfl (fun loc hl => ?_) fun d n hs => ?_
  · rw [get?_set _ _ _ hne, if_neg, hl]
    rintro rfl
    exact hfile hl
  · rw [get?_set _ _ _ hne] at hs
    by_cases he : d ++ [n] = dir ++ [name]
    · obtain ⟨rfl, hn⟩ := List.append_inj' he rfl
      exact .inr ⟨hd, (List.cons.inj hn).1 ▸ hname⟩
    · rw [if_neg he] at hs
      exact .inl hs

end WellFormed
end FileTree
end Stencil
