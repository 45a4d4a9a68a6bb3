import Stencil.Proofs.FileTree.Below

/-! One directory under two spellings, maybe from two working directories. What is found below it is
the same file, whichever spelling leads there. -/
namespace Stencil
namespace FileTree

open Stencil.Path Relation

/-- The same tree from another working directory. -/
def workingIn (t : FileTree) (dir : Location) : FileTree := { t with workDir := dir }

@[simp] theorem get?_workingIn (t : FileTree) (dir loc : Location) :
    (t.workingIn dir).get? loc = t.get? loc := rfl

/-- Only where a path starts depends on the working directory. -/
theorem outcome_workingIn (t : FileTree) (dir : Location) (e : Ending) (a : Stage) :
    (t.workingIn dir).outcome e a = t.outcome e a := outcome_congr fun _ _ => rfl

/-- The steps that are put after those of a directory. -/
def tailOf (p : String) : List String :=
  if (cut p.toList).getLast? = some "" then kept p.toList ++ [""] else kept p.toList

theorem steps_join_tailOf {root : Path} {p : String} (hroot : root.text ≠ "")
    (hp : ¬ p.startsWith "/") (hkept : kept p.toList ≠ []) :
    steps (root.join p).text = kept root.text.toList ++ tailOf p := by
  have hlength : 1 < (cut (root.join p).text.toList).length := by
    obtain ⟨base, -, htext⟩ := toList_join hroot hp
    have hbase := List.length_pos_of_ne_nil (cut_ne_nil base)
    have hrest := List.length_pos_of_ne_nil (cut_ne_nil p.toList)
    rw [htext, cut_append, List.length_append]
    omega
  have hboth : kept root.text.toList ++ kept p.toList ≠ [] := by simp [hkept]
  unfold tailOf
  by_cases hlast : (cut p.toList).getLast? = some ""
  · have hpieces := (getLast?_cut_join hroot hp).trans hlast
    rw [if_pos hlast, ← List.append_assoc, ← kept_join hroot hp]
    refine if_pos ⟨hlength, hpieces, ?_⟩
    rwa [← kept_join hroot hp] at hboth
  · rw [if_neg hlast]
    exact steps_join hroot hp hlast

namespace Rooted

variable {t : FileTree} {root second : Path} {dir top : Location} {p : String} {bytes : ByteArray}

/-- What leads no further than the root leads to a directory. -/
theorem kept_ne_nil (h : Rooted t root top) (hp : ¬ p.startsWith "/")
    (hfile : t.entryAt? (root.join p) = some (.file bytes)) : kept p.toList ≠ [] := by
  intro hkept
  have hroot := h.admissible.ne_empty
  obtain ⟨k, hsteps⟩ := h.exists_steps
  obtain ⟨idle, hidle, hjoin⟩ : ∃ idle, (∀ s ∈ idle, s = "." ∨ s = "") ∧
      steps (root.join p).text = kept root.text.toList ++ idle := by
    have hboth := kept_join hroot hp
    rw [hkept, List.append_nil] at hboth
    rcases steps_cases (root.join p).text with hs | hs
    · exact ⟨[], by simp, by rw [hs, hboth, List.append_nil]⟩
    · exact ⟨[""], by simp, by rw [hs, hboth]⟩
  rw [entryAt?_eq_outcome (admissible_of_isSome (Option.isSome_of_eq_some hfile)), outset, hjoin,
    start_congr (startsWith_join hroot hp),
    outcome_of_steps (hsteps.append (Extends.followed idle))] at hfile
  dsimp only at hfile
  rw [List.nil_append, outcome_idle hidle] at hfile
  simp [Place.entryAt?] at hfile

/-- A file below a root is found from there, however many links the root has used up. -/
theorem exists_target_of_file (h : Rooted t root top) (hp : ¬ p.startsWith "/")
    (hfile : t.entryAt? (root.join p) = some (.file bytes)) :
    ∃ loc, (t.outcome .followed ⟨maxLinks, top, tailOf p⟩).target? = some loc ∧
      t.get? loc = some (.file bytes) := by
  have hroot := h.admissible.ne_empty
  have ha := admissible_of_isSome (Option.isSome_of_eq_some hfile)
  obtain ⟨k, hsteps⟩ := h.exists_steps
  have hk : k ≤ maxLinks := hsteps.links_le
  have htarget := entryAt?_eq h.wellFormed (root.join p)
  rw [hfile, eq_comm, Option.bind_eq_some_iff] at htarget
  obtain ⟨loc, hloc, hget⟩ := htarget
  refine ⟨loc, target?_of_le ?_ hk, hget⟩
  rw [target?_eq t ha, outset, steps_join_tailOf hroot hp (h.kept_ne_nil hp hfile),
    start_congr (startsWith_join hroot hp),
    outcome_of_steps (hsteps.append (Extends.followed (tailOf p)))] at hloc
  exact hloc

/-- Both spellings of a root lead to the same files. -/
theorem eq_of_entryAt?_join {bytes' : ByteArray} (h : Rooted t root top)
    (h' : Rooted (t.workingIn dir) second top)
    (hfile : t.entryAt? (root.join p) = some (.file bytes))
    (hfile' : (t.workingIn dir).entryAt? (second.join p) = some (.file bytes')) :
    bytes = bytes' := by
  by_cases hp : p.startsWith "/" = true
  · have ha := admissible_of_isSome (Option.isSome_of_eq_some hfile)
    have hjoin : ∀ base : Path, base.join p = ⟨p⟩ := fun base => if_pos hp
    rw [hjoin] at hfile hfile' ha
    have houtset : (t.workingIn dir).outset ⟨p⟩ = t.outset ⟨p⟩ := by
      rw [outset, outset, start, start, if_pos hp, if_pos hp]
    rw [entryAt?_eq_outcome ha, houtset, outcome_workingIn, ← entryAt?_eq_outcome ha, hfile]
      at hfile'
    exact Entry.file.inj (Option.some.inj hfile')
  · obtain ⟨loc, hloc, hget⟩ := h.exists_target_of_file hp hfile
    obtain ⟨loc', hloc', hget'⟩ := h'.exists_target_of_file hp hfile'
    rw [outcome_workingIn, hloc] at hloc'
    obtain rfl := Option.some.inj hloc'
    exact Entry.file.inj (Option.some.inj (hget.symm.trans hget'))

end Rooted
/-! ## The working directory by any number of dots -/

def dotted : Nat → List Char
  | 0 => ['.']
  | n + 1 => '.' :: '/' :: dotted n

def dots (n : Nat) : Path := ⟨String.ofList (dotted n)⟩

theorem size_dots (n : Nat) : (dots n).text.utf8ByteSize = 2 * n + 1 := by
  induction n with
  | zero => rfl
  | succ n ih =>
    have htext : (dots (n + 1)).text = "./" ++ (dots n).text :=
      String.toList_inj.mp (by simp [dots, dotted])
    have hfront : "./".utf8ByteSize = 2 := by decide
    rw [htext, String.utf8ByteSize_append, ih, hfront]
    omega

theorem noNul_dots (n : Nat) : '\x00' ∉ (dots n).text.toList := by
  induction n with
  | zero => decide +kernel
  | succ n ih => simpa [dots, dotted] using ih

theorem not_startsWith_dots (n : Nat) : ¬ (dots n).text.startsWith "/" := by
  intro h
  obtain ⟨rest, hrest⟩ := String.startsWith_string_iff.mp h
  cases n <;> simp [dots, dotted] at hrest

theorem eq_dot_of_mem_kept {n : Nat} {s : String} (h : s ∈ kept (dots n).text.toList) :
    s = "." := by
  have hone : kept ['.'] = ["."] := by decide +kernel
  induction n with
  | zero => simpa [dots, dotted, hone] using h
  | succ n ih =>
    have htext : (dots (n + 1)).text.toList = ['.'] ++ '/' :: (dots n).text.toList := by
      simp [dots, dotted]
    rw [htext, kept_append, hone, List.singleton_append, List.mem_cons] at h
    exact h.elim id ih

variable {t : FileTree} {n : Nat}

theorem admissible_dots (hn : 2 * n + 1 < maxPath) : Admissible (dots n) := by
  refine ⟨fun hempty => ?_, noNul_dots n, by rwa [size_dots]⟩
  have hsize := size_dots n
  rw [hempty] at hsize
  simp at hsize

/-- How long a path behind the dots is. -/
theorem size_dots_join (n : Nat) {p : String} (hp : ¬ p.startsWith "/") :
    2 * n + 1 + p.utf8ByteSize ≤ ((dots n).join p).text.utf8ByteSize ∧
      ((dots n).join p).text.utf8ByteSize ≤ 2 * n + 2 + p.utf8ByteSize := by
  have hslash : "/".utf8ByteSize = 1 := by decide
  have hsize := size_dots n
  rcases text_join (dots n) hp with h | h
  · rw [h, String.utf8ByteSize_append]
    omega
  · rw [h, String.utf8ByteSize_append, String.utf8ByteSize_append]
    omega

theorem admissible_dots_join {p : String} (hp : ¬ p.startsWith "/") (hnul : '\x00' ∉ p.toList)
    (hn : 2 * n + 2 + p.utf8ByteSize < maxPath) : Admissible ((dots n).join p) := by
  have hroot := (admissible_dots (n := n) (by omega)).ne_empty
  refine ⟨join_ne_empty hroot hp, fun hmem => ?_, Nat.lt_of_le_of_lt (size_dots_join n hp).2 hn⟩
  have hdots := noNul_dots n
  rcases text_join (dots n) hp with h | h <;> simp [h, hdots, hnul] at hmem

theorem start_dots (dir : Location) (n : Nat) : start dir (dots n).text = dir :=
  if_neg (not_startsWith_dots n)

theorem rooted_dots (hw : WellFormed t) (hn : 2 * n + 1 < maxPath) : Rooted t (dots n) t.workDir := by
  have hidle : ∀ s ∈ steps (dots n).text, s = "." ∨ s = "" := by
    intro s hs
    rcases steps_cases (dots n).text with hsteps | hsteps
    · exact .inl (eq_dot_of_mem_kept (hsteps ▸ hs))
    · rw [hsteps, List.mem_append, List.mem_singleton] at hs
      exact hs.imp_left eq_dot_of_mem_kept
  refine ⟨hw, ?_⟩
  rw [resolve, locate_eq t (admissible_dots hn), outset, start_dots, outcome_idle hidle]

/-- The working directory is a root by a single dot. -/
theorem rooted_dot (hw : WellFormed t) : Rooted t ⟨"."⟩ t.workDir :=
  @rooted_dots t 0 hw (by decide)

/-- Behind the dots a name is looked up in the working directory, with all links left. -/
theorem outcome_dots_join {name : String} (hw : WellFormed t) (hn : 2 * n + 1 < maxPath)
    (hname : IsName name) :
    t.outcome .followed (t.outset ((dots n).join name)) =
      t.outcome .followed ⟨maxLinks, t.workDir, [name]⟩ := by
  have hnames : ∀ m ∈ [name], IsName m := by simpa using hname
  have houtset := (rooted_dots hw hn).outset_join hnames (by simp)
  rw [ofNames_singleton, start_dots] at houtset
  rw [houtset]
  exact outcome_of_steps (steps_idle (fun s hs => .inl (eq_dot_of_mem_kept hs)) [name])

end FileTree
end Stencil
