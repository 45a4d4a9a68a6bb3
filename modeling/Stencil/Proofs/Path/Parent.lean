import Stencil.FileTree.Atomic
import Stencil.Proofs.Path

/-! A path and the directory it is in: the steps of the one are those of the other, the name, and
steps that lead nowhere. -/
namespace Stencil
namespace Path

open Text

/-! ## The end of a path -/

/-- With nothing idle at its end, a path is one separator or dot, or it ends in a piece that
counts. `cs` is reversed. -/
theorem dropIdle_cases (cs : List Char) :
    dropIdle cs = [] ∨ dropIdle cs = ['/'] ∨ dropIdle cs = ['.'] ∨
      ((dropIdle cs).takeWhile (· != '/') ≠ [] ∧ (dropIdle cs).takeWhile (· != '/') ≠ ['.']) := by
  fun_induction dropIdle cs with
  | case1 => simp
  | case2 _ _ ih => exact ih
  | case3 => simp
  | case4 _ _ ih => exact ih
  | case5 cs hdot hslash =>
    cases cs with
    | nil => simp
    | cons c rest =>
      have hc : c ≠ '/' := fun he => hslash rest (by rw [he])
      cases rest with
      | nil => by_cases h : c = '.' <;> simp [h, hc]
      | cons d rest =>
        by_cases hd : d = '/'
        · have hne : c ≠ '.' := fun he => hdot rest (by rw [he, hd])
          simp [hc, hd, hne]
        · simp [hc, hd]

/-- What stands before the last component is empty or ends in a separator. -/
theorem beforeLast_cases (p : Path) : p.beforeLast = "" ∨ p.beforeLast.endsWith "/" = true := by
  cases hds : (dropIdle p.text.toList.reverse).dropWhile (· != '/') with
  | nil => exact .inl (by simp [beforeLast, hds])
  | cons c rest =>
    have hstop := List.head?_dropWhile_not (· != '/') (dropIdle p.text.toList.reverse)
    rw [hds] at hstop
    refine .inr (endsWith_slash_iff.mpr ?_)
    simpa [beforeLast, hds] using hstop

theorem join_beforeLast (p : Path) {name : String} (hname : ¬ name.startsWith "/") :
    (Path.mk p.beforeLast).join name = ⟨p.beforeLast ++ name⟩ := by
  rcases beforeLast_cases p with h | h <;> simp [join, hname, h]

/-- A path is its last piece put after what stands before it, if that piece counts. -/
theorem withoutIdle_cases (p : Path) :
    p.withoutIdle.text ∈ ["", "/", "."] ∨
      ∃ last, last ≠ "" ∧ last ≠ "." ∧ '/' ∉ last.toList ∧
        p.withoutIdle = (Path.mk p.beforeLast).join last := by
  rcases dropIdle_cases p.text.toList.reverse with h | h | h | ⟨hne, hdot⟩
  · exact .inl (by simp [withoutIdle, h])
  · exact .inl (by simp [withoutIdle, h])
  · exact .inl (by simp [withoutIdle, h])
  refine .inr ⟨String.ofList ((dropIdle p.text.toList.reverse).takeWhile (· != '/')).reverse,
    by simpa using hne, fun he => hdot ?_, ?_⟩
  · simpa using congrArg (fun s => s.toList.reverse) he
  have hslash : '/' ∉ (String.ofList
      ((dropIdle p.text.toList.reverse).takeWhile (· != '/')).reverse).toList := by
    simp only [String.toList_ofList, List.mem_reverse]
    intro hmem
    simpa using List.all_eq_true.mp List.all_takeWhile _ hmem
  refine ⟨hslash, ?_⟩
  rw [join_beforeLast p (not_startsWith_of_notMem hslash), withoutIdle, beforeLast,
    ← String.ofList_append, ← List.reverse_append, List.takeWhile_append_dropWhile]

/-! ## Pieces that count -/

theorem filter_pieces (p : Path) : (p.pieces.filter fun s => s ≠ "" ∧ s ≠ ".") =
    (kept p.text.toList).filter (· ≠ ".") := by
  rw [kept, List.filter_filter, pieces_eq]
  congr 1
  funext s
  by_cases h : s = "" <;> by_cases h' : s = "." <;> simp [h, h']

/-- What is idle at the end of a path does not count. -/
theorem filter_pieces_withoutIdle (p : Path) : (p.pieces.filter fun s => s ≠ "" ∧ s ≠ ".") =
    p.withoutIdle.pieces.filter fun s => s ≠ "" ∧ s ≠ "." := by
  obtain ⟨dots, hdots, hkept⟩ := exists_kept_withoutIdle p
  have hnone : dots.filter (· ≠ ".") = [] :=
    List.filter_eq_nil_iff.mpr fun s hs => by simp [hdots s hs]
  rw [filter_pieces, filter_pieces, hkept, List.filter_append, hnone, List.append_nil]

/-- Either nothing of a path counts, or it ends in the last piece that does. -/
theorem pieces_cases (p : Path) :
    (p.withoutIdle.text ∈ ["", "/", "."] ∧ (p.pieces.filter fun s => s ≠ "" ∧ s ≠ ".") = []) ∨
      ∃ last, (p.pieces.filter fun s => s ≠ "" ∧ s ≠ ".").getLast? = some last ∧
        p.withoutIdle = (Path.mk p.beforeLast).join last := by
  rw [filter_pieces_withoutIdle]
  rcases withoutIdle_cases p with hp | ⟨last, hne, hdot, hslash, hp⟩
  · refine .inl ⟨hp, ?_⟩
    rw [filter_pieces]
    simp only [List.mem_cons, List.not_mem_nil, or_false] at hp
    rcases hp with hp | hp | hp <;> rw [hp] <;> decide
  · refine .inr ⟨last, ?_, hp⟩
    rw [hp]
    refine getLast?_pieces_join ?_
    rw [filter_pieces, kept_of_notMem hslash hne]
    simp [hdot]

/-- The file name of a path is the piece that it ends in. -/
theorem withoutIdle_of_fileName? {p : Path} {name : String} (h : p.fileName? = some name) :
    p.withoutIdle = (Path.mk p.beforeLast).join name := by
  obtain ⟨hname, -⟩ := fileName?_eq_some_iff.mp h
  rcases pieces_cases p with ⟨-, hnone⟩ | ⟨last, hlast, hp⟩
  · rw [hnone] at hname
    exact absurd hname (by simp)
  · rwa [Option.some.inj (hname.symm.trans hlast)]

theorem eq_of_parent? {p q : Path} (h : p.parent? = some q) :
    q = (Path.mk p.beforeLast).withoutIdle := by
  unfold parent? at h
  split at h
  · simp at h
  · simp at h
  · rw [← Option.some.inj h]
    simp [beforeLast, withoutIdle]

theorem not_root_of_parent? {p q : Path} (h : p.parent? = some q) : p.components ≠ [.root] := by
  intro hroot
  simp [parent?, hroot] at h

/-- The directory of a file is what stands before it, but for what is idle at the end of that. -/
theorem parent?_of_fileName? {p : Path} {name : String} (h : p.fileName? = some name) :
    p.parent? = some (Path.mk p.beforeLast).withoutIdle := by
  obtain ⟨q, hq, -⟩ := exists_parent? h
  rw [hq, eq_of_parent? hq]

/-- A path that nowhere leads up has a name if the directory that it is in is spelt out. -/
theorem exists_fileName?_of_parent? {p q : Path} (h : p.parent? = some q) (hq : q.text ≠ "")
    (hup : ".." ∉ p.pieces) : ∃ name, p.fileName? = some name := by
  rcases pieces_cases p with ⟨hp, hnone⟩ | ⟨last, hlast, -⟩
  · -- Only the top has neither a name nor an empty directory, and it is in none.
    have hbefore : p.beforeLast ≠ "" := by
      intro he
      rw [eq_of_parent? h, he] at hq
      exact hq rfl
    have htop : p.withoutIdle.text = "/" := by
      have htext : (dropIdle p.text.toList.reverse) = p.withoutIdle.text.toList.reverse := by simp
      simp only [List.mem_cons, List.not_mem_nil, or_false] at hp
      rcases hp with hp | hp | hp
      · exact absurd (by rw [beforeLast, htext, hp]; decide) hbefore
      · exact hp
      · exact absurd (by rw [beforeLast, htext, hp]; decide) hbefore
    have habsolute : p.isAbsolute = true := by
      rw [isAbsolute, ← startsWith_withoutIdle, htop]
      exact String.startsWith_string_iff.mpr List.prefix_rfl
    refine absurd ?_ (not_root_of_parent? h)
    simp only [components, hnone, habsolute, List.map_nil, if_true]
  · refine ⟨last, fileName?_eq_some_iff.mpr ⟨hlast, fun he => hup ?_⟩⟩
    exact he ▸ (List.mem_filter.mp (List.mem_of_getLast? hlast)).1

/-! ## A name put after a directory -/

section

variable {name : String}

theorem kept_join_name (root : Path) (hslash : '/' ∉ name.toList) (hne : name ≠ "") :
    kept (root.join name).text.toList = kept root.text.toList ++ [name] := by
  have hstart := not_startsWith_of_notMem hslash
  by_cases hroot : root.text = ""
  · simp [join, hstart, hroot, kept_of_notMem hslash hne]
  · rw [kept_join hroot hstart, kept_of_notMem hslash hne]

theorem getLast?_cut_join_name (root : Path) (hslash : '/' ∉ name.toList) :
    (cut (root.join name).text.toList).getLast? = some name := by
  have hstart := not_startsWith_of_notMem hslash
  by_cases hroot : root.text = ""
  · simp [join, hstart, hroot, cut_of_notMem hslash]
  · simp [getLast?_cut_join hroot hstart, cut_of_notMem hslash]

theorem startsWith_join_name (root : Path) (hslash : '/' ∉ name.toList) :
    (root.join name).text.startsWith "/" = root.text.startsWith "/" := by
  have hstart := not_startsWith_of_notMem hslash
  by_cases hroot : root.text = ""
  · have hempty : "".startsWith "/" = false := by
      rw [Bool.eq_false_iff, Ne, String.startsWith_string_iff]
      simp
    simp [join, hstart, hroot, hempty]
  · exact startsWith_join hroot hstart

end

end Path

namespace FileTree

open Stencil.Path

variable {p q a : Path} {name : String} {dots idle : List String}

/-- A path without anything idle at its end takes no empty step, and a directory is made under it
as it is. -/
theorem trimmed_spec (h : p.withoutIdle = p) :
    steps p.text = kept p.text.toList ∧ withoutSlash p = p := by
  rcases withoutIdle_cases p with hp | ⟨last, hne, -, hslash, hp⟩
  · obtain ⟨text⟩ := p
    rw [h] at hp
    simp only [List.mem_cons, List.not_mem_nil, or_false] at hp
    rcases hp with rfl | rfl | rfl <;> decide
  · rw [h] at hp
    have hlast := getLast?_cut_join_name (Path.mk p.beforeLast) hslash
    rw [← hp] at hlast
    refine ⟨steps_eq_kept (by simpa [hlast] using hne), ?_⟩
    obtain ⟨base, hbase⟩ := suffix_join (Path.mk p.beforeLast) last
    rw [← hp] at hbase
    obtain ⟨c, cs, hcs⟩ := List.exists_cons_of_ne_nil (by simpa using hne : last.toList.reverse ≠ [])
    have hc : c ≠ '/' := by
      rintro rfl
      exact hslash (List.mem_reverse.mp (hcs ▸ List.mem_cons_self))
    have hreverse : p.text.toList.reverse = c :: (cs ++ base.reverse) := by
      rw [← hbase, List.reverse_append, hcs, List.cons_append]
    have hkeep : (p.text.toList.reverse.dropWhile (· == '/')) = p.text.toList.reverse := by
      simp [hreverse, hc]
    unfold withoutSlash
    simp only [hkeep, List.reverse_reverse, String.ofList_toList, ite_self]

theorem up_mem_steps (h : ".." ∈ p.pieces) : ".." ∈ steps p.text := by
  have hkept : ".." ∈ kept p.text.toList := List.mem_filter.mpr ⟨h, by decide⟩
  rcases steps_cases p.text with hs | hs
  · exact hs ▸ hkept
  · exact hs ▸ List.mem_append_left _ hkept

theorem up_notMem_steps (h : .parent ∉ p.components) : ".." ∉ steps p.text := by
  intro hmem
  have hkept : ".." ∈ kept p.text.toList := by
    rcases steps_cases p.text with hs | hs
    · exact hs ▸ hmem
    · rw [hs] at hmem
      simpa using hmem
  refine h ?_
  have hrest : .parent ∈ (p.pieces.filter fun s => s ≠ "" ∧ s ≠ ".").map componentOf :=
    List.mem_map.mpr ⟨"..", List.mem_filter.mpr ⟨(List.mem_filter.mp hkept).1, by decide⟩, rfl⟩
  unfold components
  dsimp only
  split_ifs
  · exact List.mem_cons_of_mem _ hrest
  · exact List.mem_cons_of_mem _ hrest
  · exact hrest

/-- What a path ends in beyond its last piece that counts leads nowhere. -/
theorem exists_idle_steps (p : Path) : ∃ idle, (∀ s ∈ idle, s = "." ∨ s = "") ∧
    steps p.text = kept p.withoutIdle.text.toList ++ idle ∧ (p.withoutIdle = p → idle = []) := by
  by_cases htrim : p.withoutIdle = p
  · refine ⟨[], by simp, ?_, fun _ => rfl⟩
    rw [(trimmed_spec htrim).1, htrim, List.append_nil]
  obtain ⟨dots, hdots, hkept⟩ := exists_kept_withoutIdle p
  rcases steps_cases p.text with hs | hs
  · exact ⟨dots, fun s hmem => .inl (hdots s hmem), hs.trans hkept, fun h => absurd h htrim⟩
  · refine ⟨dots ++ [""], fun s hmem => ?_, ?_, fun h => absurd h htrim⟩
    · rcases List.mem_append.mp hmem with hmem | hmem
      · exact .inl (hdots s hmem)
      · exact .inr (by simpa using hmem)
    · rw [hs, hkept, List.append_assoc]

/-- The steps to a file: those to its directory, some that are idle, its name, and others that are
idle. -/
structure Spelt (p q : Path) (name : String) (dots idle : List String) : Prop where
  parent : p.parent? = some q
  trimmed : q.withoutIdle = q
  fileName : p.fileName? = some name
  before : ∀ s ∈ dots, s = "." ∨ s = ""
  after : ∀ s ∈ idle, s = "." ∨ s = ""
  steps_eq : steps p.text = steps q.text ++ (dots ++ name :: idle)
  startsWith : p.text.startsWith "/" = q.text.startsWith "/"
  isPrefix : q.text.toList <+: p.text.toList

theorem Spelt.isEntry (h : Spelt p q name dots idle) : IsEntry name := .of_fileName? h.fileName

/-- Every path with a file name is spelt in this way. -/
theorem exists_spelt (h : p.fileName? = some name) :
    ∃ q dots idle, Spelt p q name dots idle ∧ (p.withoutIdle = p → idle = []) := by
  have hname := IsEntry.of_fileName? h
  obtain ⟨root, hp, hparent⟩ : ∃ root : Path, p.withoutIdle = root.join name ∧
      p.parent? = some root.withoutIdle := ⟨_, withoutIdle_of_fileName? h, parent?_of_fileName? h⟩
  obtain ⟨dots, hdots, hroot⟩ := exists_kept_withoutIdle root
  obtain ⟨idle, hidle, hsteps, htrim⟩ := exists_idle_steps p
  have htop := withoutIdle_withoutIdle root
  refine ⟨_, dots, idle, ⟨hparent, htop, h, fun s hs => .inl (hdots s hs), hidle, ?_, ?_, ?_⟩,
    htrim⟩
  · rw [hsteps, hp, kept_join_name root hname.slash_notMem hname.ne_empty, hroot,
      (trimmed_spec htop).1]
    simp
  · rw [startsWith_withoutIdle, ← startsWith_withoutIdle p, hp,
      startsWith_join_name root hname.slash_notMem]
  · have hjoin := prefix_join root hname.not_startsWith
    rw [← hp] at hjoin
    exact (withoutIdle_isPrefix root).trans (hjoin.trans (withoutIdle_isPrefix p))

/-- A path that nowhere leads up is spelt in this way if the directory that it is in is spelt
out. -/
theorem exists_spelt_of_parent? (h : p.parent? = some q) (hq : q.text ≠ "")
    (hup : ".." ∉ steps p.text) :
    ∃ name dots idle, Spelt p q name dots idle ∧ (p.withoutIdle = p → idle = []) := by
  obtain ⟨name, hname⟩ := exists_fileName?_of_parent? h hq fun hmem => hup (up_mem_steps hmem)
  obtain ⟨other, dots, idle, hs, htrim⟩ := exists_spelt hname
  obtain rfl : other = q := Option.some.inj (hs.parent.symm.trans h)
  exact ⟨name, dots, idle, hs, htrim⟩

theorem Spelt.up_notMem (h : Spelt p q name dots idle) (hup : ".." ∉ steps p.text) :
    ".." ∉ steps q.text := by
  rw [h.steps_eq] at hup
  exact fun hmem => hup (List.mem_append_left _ hmem)

/-- A sibling of a file is in the directory as well. -/
theorem Spelt.withFileName {other : String} (h : Spelt p q name dots idle) (hother : IsEntry other) :
    Spelt (p.withFileName other) q other [] [] := by
  have hp : p.withFileName other = q.join other := by rw [Path.withFileName, h.fileName, h.parent]
  have hlast := getLast?_cut_join_name q hother.slash_notMem
  refine ⟨?_, h.trimmed, fileName?_withFileName h.fileName hother, by simp, by simp, ?_, ?_, ?_⟩
  · rw [parent?_withFileName h.fileName hother, h.parent]
  · rw [hp, steps_eq_kept (by simpa [hlast] using hother.ne_empty),
      kept_join_name q hother.slash_notMem hother.ne_empty, (trimmed_spec h.trimmed).1]
    rfl
  · rw [hp, startsWith_join_name q hother.slash_notMem]
  · rw [hp]
    exact prefix_join q hother.not_startsWith

/-! ## Ancestors -/

/-- A path is some way up from another. -/
inductive Above : Path → Path → Prop
  | parent {below dir : Path} (h : below.parent? = some dir) : Above dir below
  | further {top below dir : Path} (h : below.parent? = some dir) (g : Above top dir) :
    Above top below

theorem Above.ne_empty (h : Above a p) : p.text ≠ "" := by
  have hparent : ∃ q, p.parent? = some q := by
    cases h with
    | parent h => exact ⟨_, h⟩
    | further h => exact ⟨_, h⟩
  obtain ⟨q, hq⟩ := hparent
  intro he
  obtain ⟨text⟩ := p
  subst he
  have hnone : (Path.mk "").parent? = none := by decide
  simp [hnone] at hq

/-- A path leads on from those above it. -/
theorem Above.exists_steps (h : Above a p) (ha : a.text ≠ "") (hup : ".." ∉ steps p.text) :
    ∃ rest, rest ≠ [] ∧ steps p.text = steps a.text ++ rest ∧
      p.text.startsWith "/" = a.text.startsWith "/" ∧ a.text.toList <+: p.text.toList := by
  induction h with
  | parent h =>
    obtain ⟨name, dots, idle, hs, -⟩ := exists_spelt_of_parent? h ha hup
    exact ⟨_, by simp, hs.steps_eq, hs.startsWith, hs.isPrefix⟩
  | further h g ih =>
    obtain ⟨name, dots, idle, hs, -⟩ := exists_spelt_of_parent? h g.ne_empty hup
    obtain ⟨rest, -, hsteps, hstart, hprefix⟩ := ih ha (hs.up_notMem hup)
    refine ⟨rest ++ (dots ++ name :: idle), by simp, ?_, hs.startsWith.trans hstart,
      hprefix.trans hs.isPrefix⟩
    rw [hs.steps_eq, hsteps, List.append_assoc]

end FileTree
end Stencil
