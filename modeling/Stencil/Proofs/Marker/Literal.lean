import Stencil.Marker
import Stencil.Proofs.Regex.Literal
import Mathlib.Data.List.Induction

/-! Markers that stand for themselves. What such a marker leaves of a name is told by the components
between the dots of the name, without an expression being matched. -/
namespace Stencil

open Text

namespace Regex

/-! ## The two expressions of a marker -/

namespace Reader

/-- A word after a stop, in a group of its own. -/
theorem exists_regex?_eq {w : List Char} (hne : w ≠ []) (h : ∀ c ∈ w, isPlain c = true)
    (rest : List Char) : ∃ depth ≤ 2, ∀ fuel,
      regex? (w.length + fuel + 3) [] [] {} [] [] ("\\.(?:".toList ++ w ++ ')' :: rest) =
        regex? fuel [] [] {} [] [⟨some (literal w), depth⟩, plainPart '.'] rest := by
  refine ⟨(concat (w.map plainPart).reverse).depth + 1,
    Nat.add_le_add_right (depth_concat_plain w) 1, fun fuel => ?_⟩
  have hfuel : w.length + fuel + 3 = w.length + (fuel + 1) + 1 + 1 := by omega
  have htext : "\\.(?:".toList ++ w ++ ')' :: rest =
      '\\' :: '.' :: '(' :: '?' :: ':' :: (w ++ ')' :: rest) := by simp
  rw [hfuel, htext, regex?_stop, regex?_group, regex?_plain_append h, List.append_nil,
    ← concat_plain hne]
  simp [regex?, skip, alternation, depthOf]

end Reader

def stop : Regex := .set (.single '.')

/-- The word between two stops. -/
def between (w : List Char) : Regex := .seq stop (.seq (literal w) stop)

/-- The word after the last stop. -/
def behind (w : List Char) : Regex := .seq stop (.seq (literal w) (.look .textEnd))

theorem takes_between {w : List Char} (h : w ≠ []) : (between w).Takes ('.' :: (w ++ ['.'])) :=
  (takes_single '.').seq ((takes_literal h).seq (takes_single '.'))

theorem takesLast_behind {w : List Char} (h : w ≠ []) : (behind w).TakesLast ('.' :: w) := by
  have hlast := (takes_single '.').seq_last ((takes_literal h).seq_last takesLast_textEnd)
  rwa [List.append_nil] at hlast

/-- The room that either takes. -/
def room (w : List Char) : Nat := stateSize * ((String.ofList w).utf8ByteSize + 2)

theorem occupies_between {w : List Char} (h : w ≠ []) : (between w).Occupies (room w) := by
  have hseq := (occupies_single '.').seq ((occupies_literal h).seq (occupies_single '.'))
  have hroom : stateSize * '.'.utf8Size +
      (stateSize * (String.ofList w).utf8ByteSize + stateSize * '.'.utf8Size) = room w := by
    have hone : ('.' : Char).utf8Size = 1 := rfl
    rw [hone, room, stateSize]
    omega
  rwa [hroom] at hseq

theorem occupies_behind {w : List Char} (h : w ≠ []) : (behind w).Occupies (room w) := by
  have hseq := (occupies_single '.').seq ((occupies_literal h).seq occupies_textEnd)
  have hroom : stateSize * '.'.utf8Size +
      (stateSize * (String.ofList w).utf8ByteSize + stateSize) = room w := by
    have hone : ('.' : Char).utf8Size = 1 := rfl
    rw [hone, room, stateSize]
    omega
  rwa [hroom] at hseq

theorem read?_eq {cs : List Char} {r : Reader.Nested Regex} {n : Nat}
    (h : Reader.regex? (cs.length + 1) [] [] {} [] [] cs = some r)
    (hdepth : r.depth ≤ maxDepth) (hroom : r.value.Occupies n) :
    read? cs = if n ≤ maxSize then some r.value else none := by
  rw [read?, h]
  simp [hdepth, hroom.fits]

variable {w : List Char}

theorem read?_between (hne : w ≠ []) (h : ∀ c ∈ w, Reader.isPlain c = true) :
    read? ("\\.(?:".toList ++ w ++ ")\\.".toList) =
      if room w ≤ maxSize then some (between w) else none := by
  obtain ⟨depth, hdepth, hread⟩ := Reader.exists_regex?_eq hne h ['\\', '.']
  refine read?_eq (r := ⟨between w, depth + 1⟩) ?_ ?_ (occupies_between hne)
  · have htext : "\\.(?:".toList ++ w ++ ")\\.".toList =
        "\\.(?:".toList ++ w ++ ')' :: ['\\', '.'] := by simp
    have hlength : ("\\.(?:".toList ++ w ++ ")\\.".toList).length + 1 = w.length + 6 + 3 := by
      simp
    rw [hlength, htext, hread, Reader.regex?_stop, Reader.regex?_end]
    simp [Reader.concat, Reader.plainPart, Reader.depthOf, between, stop]
  · exact Nat.le_trans (Nat.add_le_add_right hdepth 1) (by decide)

theorem read?_behind (hne : w ≠ []) (h : ∀ c ∈ w, Reader.isPlain c = true) :
    read? ("\\.(?:".toList ++ w ++ ")$".toList) =
      if room w ≤ maxSize then some (behind w) else none := by
  obtain ⟨depth, hdepth, hread⟩ := Reader.exists_regex?_eq hne h ['$']
  refine read?_eq (r := ⟨behind w, depth + 1⟩) ?_ ?_ (occupies_behind hne)
  · have htext : "\\.(?:".toList ++ w ++ ")$".toList =
        "\\.(?:".toList ++ w ++ ')' :: ['$'] := by simp
    have hlength : ("\\.(?:".toList ++ w ++ ")$".toList).length + 1 = w.length + 5 + 3 := by
      simp
    rw [hlength, htext, hread, Reader.regex?_textEnd, Reader.regex?_end]
    simp [Reader.concat, Reader.plainPart, Reader.depthOf, behind, stop]
  · exact Nat.le_trans (Nat.add_le_add_right hdepth 1) (by decide)

end Regex

/-! ## Components -/

namespace Marker

open Regex

/-- What lies between the dots of a name. -/
def components (name : List Char) : List (List Char) := name.splitOn '.'

/-- The name that has these components. -/
def joined (cs : List (List Char)) : List Char := ['.'].intercalate cs

/-- The components without the first of the inner ones that is the word or, if no inner one is,
without the last if that is the word. One that is first of all counts for neither. -/
def withoutMarker? (w : List Char) (cs : List (List Char)) : Option (List (List Char)) :=
  match cs.tail.dropLast.idxOf? w with
  | some i => some (cs.eraseIdx (i + 1))
  | none => if 1 < cs.length ∧ cs.getLast? = some w then some cs.dropLast else none

theorem joined_cons_cons (c d : List Char) (cs : List (List Char)) :
    joined (c :: d :: cs) = c ++ '.' :: joined (d :: cs) := by
  simp [joined, List.intercalate_cons_cons]

theorem joined_concat {init : List (List Char)} (h : init ≠ []) (d : List Char) :
    joined (init ++ [d]) = joined init ++ '.' :: d := by
  induction init with
  | nil => exact absurd rfl h
  | cons c init ih =>
    cases init with
    | nil => simp [joined, List.intercalate_cons_cons]
    | cons e init =>
      have hrest := ih (by simp)
      rw [List.cons_append] at hrest
      rw [List.cons_append, List.cons_append, joined_cons_cons, joined_cons_cons, hrest,
        List.append_assoc, List.cons_append]

theorem dot_notMem_of_mem_components {name c : List Char} (h : c ∈ components name) : '.' ∉ c := by
  induction name generalizing c with
  | nil => simp_all [components]
  | cons d name ih =>
    rw [components, List.splitOn_cons_eq_if_modifyHead] at h
    split at h
    · rcases List.mem_cons.mp h with rfl | h
      · exact List.not_mem_nil
      · exact ih h
    · next hd =>
      obtain ⟨e, es, hes⟩ := List.exists_cons_of_ne_nil (List.splitOn_ne_nil '.' name)
      rw [hes, List.modifyHead_cons] at h
      have hrest : ∀ f ∈ e :: es, '.' ∉ f := fun f hf => ih (by rwa [components, hes])
      rcases List.mem_cons.mp h with rfl | h
      · have hne : '.' ≠ d := fun he => hd (by simp [← he])
        simpa [hne] using hrest e List.mem_cons_self
      · exact hrest c (List.mem_cons_of_mem _ h)

variable {w : List Char} {cs : List (List Char)}

/-- The word between two dots is the first of the inner components that is the word. -/
theorem replaceFirst_between (hne : w ≠ []) (hw : '.' ∉ w) (hcs : ∀ c ∈ cs, '.' ∉ c) :
    (between w).replaceFirst (joined cs) ['.'] =
      (cs.tail.dropLast.idxOf? w).map fun i => joined (cs.eraseIdx (i + 1)) := by
  rw [(takes_between hne).replaceFirst]
  have hdot : '.' ∈ w ++ ['.'] := by simp
  induction cs with
  | nil => rfl
  | cons c cs ih =>
    have hc : '.' ∉ c := hcs c (by simp)
    cases cs with
    | nil =>
      have hnone : breakOn? ('.' :: (w ++ ['.'])) c = none :=
        breakOn?_eq_none (List.mem_cons_of_mem _ hdot) hc
      simp [joined, hnone]
    | cons d cs =>
      have hd : '.' ∉ d := hcs d (by simp)
      have hrest := ih fun e he => hcs e (List.mem_cons_of_mem _ he)
      rw [joined_cons_cons, breakOn?_append_cons hc]
      cases cs with
      | nil =>
        have hlead : dropLead? (w ++ ['.']) (joined [d]) = none :=
          dropLead?_eq_none hdot (by simpa [joined] using hd)
        have hnone : breakOn? ('.' :: (w ++ ['.'])) (joined [d]) = none :=
          breakOn?_eq_none (List.mem_cons_of_mem _ hdot) (by simpa [joined] using hd)
        simp [hlead, hnone]
      | cons e cs =>
        have hlead : dropLead? (w ++ ['.']) (joined (d :: e :: cs)) =
            if d = w then some (joined (e :: cs)) else none := by
          rw [joined_cons_cons, dropLead?_concat hw hd]
        rw [hlead, List.tail_cons, List.dropLast_cons_cons, List.idxOf?_cons]
        by_cases hdw : d = w
        · simp [hdw, joined_cons_cons]
        · have hlonger := congrArg (Option.map (c ++ '.' :: ·)) hrest
          rw [Option.map_map, Option.map_map] at hlonger
          simpa [hdw, joined_cons_cons, Function.comp_def] using hlonger

theorem replaceFirst_behind (hne : w ≠ []) (hw : '.' ∉ w) (hcs : ∀ c ∈ cs, '.' ∉ c) :
    (behind w).replaceFirst (joined cs) [] =
      if 1 < cs.length ∧ cs.getLast? = some w then some (joined cs.dropLast) else none := by
  have hlast := takesLast_behind hne
  cases cs using List.reverseRecOn with
  | nil =>
    have hsuffix : ¬ '.' :: w <:+ joined [] := by simp [joined]
    simp [replaceFirst, find?, hlast.findFrom_eq_none [] hsuffix]
  | append_singleton init d =>
    have hd : '.' ∉ d := hcs d (by simp)
    by_cases hinit : init = []
    · subst hinit
      have hsuffix : ¬ '.' :: w <:+ d := fun h => hd (h.subset List.mem_cons_self)
      simp [replaceFirst, find?, joined, hlast.findFrom_eq_none [] hsuffix]
    · rw [joined_concat hinit, List.dropLast_concat, List.getLast?_concat, List.length_append]
      have hlength : 0 < init.length := List.length_pos_of_ne_nil hinit
      by_cases hdw : d = w
      · subst hdw
        simp [replaceFirst, find?, hlast.findFrom_append, hlength]
      · have hsuffix : ¬ '.' :: w <:+ joined init ++ '.' :: d :=
          fun h => hdw (eq_of_stop_suffix hw hd h).symm
        simp [replaceFirst, find?, hlast.findFrom_eq_none [] hsuffix, hdw]

/-- What a marker leaves of a name, told by the name's components. -/
theorem unmarked?_eq (hne : w ≠ []) (hw : '.' ∉ w) (name : List Char) :
    unmarked? ⟨between w, behind w⟩ name = (withoutMarker? w (components name)).map joined := by
  have hcs : ∀ c ∈ components name, '.' ∉ c := fun c hc => dot_notMem_of_mem_components hc
  have hname : joined (components name) = name := List.intercalate_splitOn '.'
  have hmiddle := replaceFirst_between hne hw hcs
  have hfinal := replaceFirst_behind hne hw hcs
  rw [hname] at hmiddle hfinal
  rw [unmarked?, hmiddle, hfinal, withoutMarker?]
  cases (components name).tail.dropLast.idxOf? w with
  | some i => rfl
  | none => simp [apply_ite (Option.map joined)]

/-- The name of the output, told by the components of the template's name. -/
def literalName? (pattern name : String) : Option String :=
  match withoutMarker? pattern.toList (components name.toList) with
  | some cs => if joined cs = [] ∨ joined cs = ['.'] then none else some (String.ofList (joined cs))
  | none => none

/-- A pattern of which every character stands for itself is read if there is room for it, and then
takes a component out of a name as its definition by components says. -/
theorem outputName_literal {pattern : String} (hne : pattern ≠ "")
    (hplain : ∀ c ∈ pattern.toList, Regex.Reader.isPlain c = true) :
    ((∃ m, read pattern = .ok m) ↔
      Regex.stateSize * (pattern.utf8ByteSize + 2) ≤ Regex.maxSize) ∧
    ∀ m, read pattern = .ok m → ∀ name, m.outputName name = literalName? pattern name := by
  have hlist : pattern.toList ≠ [] := by simpa using hne
  have hdot : '.' ∉ pattern.toList := fun h => by simpa [Regex.Reader.isPlain] using hplain _ h
  have hroom : room pattern.toList = Regex.stateSize * (pattern.utf8ByteSize + 2) := by
    rw [room, String.ofList_toList]
  have hread : read pattern = if Regex.stateSize * (pattern.utf8ByteSize + 2) ≤ Regex.maxSize then
      .ok ⟨between pattern.toList, behind pattern.toList⟩
      else .error (.invalidTemplateMatcher pattern unreadable) := by
    rw [read, read?_between hlist hplain, read?_behind hlist hplain, hroom]
    split_ifs <;> rfl
  rw [hread]
  refine ⟨?_, fun m hm name => ?_⟩
  · split_ifs with h <;> simp [h]
  · obtain ⟨-, hm⟩ := (ite_eq_iff.mp hm).resolve_right fun h => by simp at h
    obtain rfl := Except.ok.inj hm
    rw [outputName, unmarked?_eq hlist hdot, literalName?]
    cases withoutMarker? pattern.toList (components name.toList) with
    | none => rfl
    | some cs => rfl

/-- The first inner component goes before the last, and a component that only contains the pattern
or starts the name stays. -/
theorem outputName_etch : ("etch" ≠ "" ∧ ∀ c ∈ "etch".toList, Regex.Reader.isPlain c = true) ∧
    ∃ m, read "etch" = .ok m ∧ m.outputName "a.etch.etch.etch" = some "a.etch.etch" ∧
      m.outputName "etch.a.etch" = some "etch.a" ∧ m.outputName "a.sketch.b" = none ∧
      m.outputName ".etch" = none := by
  have hne : "etch" ≠ "" := by decide
  have hplain : ∀ c ∈ "etch".toList, Regex.Reader.isPlain c = true := by
    simp [Regex.Reader.isPlain]
  obtain ⟨hread, hname⟩ := outputName_literal hne hplain
  obtain ⟨m, hm⟩ := hread.mpr (by decide +kernel)
  refine ⟨⟨hne, hplain⟩, m, hm, ?_⟩
  rw [hname m hm, hname m hm, hname m hm, hname m hm]
  decide +kernel

end Marker
end Stencil
