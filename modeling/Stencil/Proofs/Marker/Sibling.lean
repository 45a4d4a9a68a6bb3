import Stencil.Proofs.Locator
import Stencil.Proofs.Marker
import Stencil.Proofs.Marker.Literal
import Stencil.Proofs.Path
import Stencil.Proofs.Regex.Group

/-! An output's name beside the name of its template. It is that of a file in the same directory
unless it is `..`, and it is shorter than the template's if the pattern makes sense on its own. -/
namespace Stencil

open Text

namespace Regex

/-! ## Reading -/

/-- An expression between two stops. -/
def within (r : Regex) : Regex := .seq stop (.seq r stop)

/-- An expression after the last stop. -/
def atEnd (r : Regex) : Regex := .seq stop (.seq r (.look .textEnd))

namespace Reader

/-- A tail is read as one more part, whatever was read before it. -/
def ReadsAs (tail : List Char) (last : Part) : Prop :=
  ∀ left names items, regex? (left + (tail.length + 4)) [] names {} [] items tail =
    some (concat (last :: items))

theorem readsAs_stop : ReadsAs ['\\', '.'] (plainPart '.') := fun left names items =>
  (regex?_stop (left + 5) [] names [] items []).trans (regex?_end (left + 4) names _)

theorem readsAs_textEnd : ReadsAs ['$'] ⟨some (.look .textEnd), 0⟩ := fun left names items =>
  (regex?_textEnd (left + 4) [] names [] items []).trans (regex?_end (left + 3) names _)

end Reader

/-- An expression that is read on its own is read as the same one in a marker's group. -/
theorem read?_marked {inner tail : List Char} {r whole last : Regex} {depth : Nat}
    (hs : Reader.Trailing tail) (htail : Reader.ReadsAs tail ⟨some last, depth⟩)
    (h : read? inner = some r)
    (hwhole : read? ("\\.(?:".toList ++ inner ++ ')' :: tail) = some whole) :
    whole = .seq stop (.seq r last) := by
  unfold read? at h hwhole
  cases hinner : Reader.regex? (inner.length + 1) [] [] {} [] [] inner with
  | none => simp [hinner] at h
  | some alone =>
  have hr : alone.value = r := by
    rw [hinner] at h
    exact (Option.ite_none_right_eq_some.mp h).2 |> Option.some.inj
  have htext : "\\.(?:".toList ++ inner ++ ')' :: tail =
      '\\' :: '.' :: '(' :: '?' :: ':' :: (inner ++ ')' :: tail) := by simp
  have hfuel : ("\\.(?:".toList ++ inner ++ ')' :: tail).length + 1 =
      inner.length + 1 + (tail.length + 4) + 1 + 1 := by
    simp
    omega
  rw [hfuel, htext, Reader.regex?_stop, Reader.regex?_group] at hwhole
  rcases Reader.regex?_append hs ⟨{}, [], [Reader.plainPart '.'], false⟩ hinner (tail.length + 4)
    with hnone | ⟨left, names, hread⟩
  · rw [List.nil_append] at hnone
    simp [hnone] at hwhole
  · rw [List.nil_append] at hread
    rw [hread, htail] at hwhole
    obtain ⟨-, hvalue⟩ := Option.ite_none_right_eq_some.mp hwhole
    rw [← Option.some.inj hvalue, ← hr]
    rfl

/-! ## What is taken -/

theorem Takes.after_eq {r : Regex} {w : List Char} (h : r.Takes w) {c d : Cursor}
    (hd : d ∈ r.ends c) : c.after = w ++ d.after := by
  rw [h c.before c.after] at hd
  split at hd
  · next rest hlead =>
    obtain rfl := List.mem_singleton.mp hd
    exact dropLead?_eq_some_iff.mp hlead
  · simp at hd

variable {r : Regex} {front w back : List Char}

theorem Finds.within (h : r.within.Finds front w back) : ∃ u, w = '.' :: (u ++ ['.']) := by
  obtain ⟨c, hc, hrest⟩ := mem_ends_seq h.ends
  obtain ⟨d, hd, hstop⟩ := mem_ends_seq hrest
  obtain ⟨u, hu, -⟩ := (advances_ends r c d hd).exists_append
  have hfirst : w ++ back = ['.'] ++ c.after := (takes_single '.').after_eq hc
  have hlast : d.after = ['.'] ++ back := (takes_single '.').after_eq hstop
  have hboth : w ++ back = '.' :: (u ++ ['.']) ++ back := by simp [hfirst, hu, hlast]
  exact ⟨u, List.append_cancel_right hboth⟩

theorem Finds.atEnd (h : r.atEnd.Finds front w back) : back = [] ∧ ∃ u, w = '.' :: u := by
  obtain ⟨c, hc, hrest⟩ := mem_ends_seq h.ends
  obtain ⟨d, hd, hlook⟩ := mem_ends_seq hrest
  have hend : d.after = [] ∧ back = [] := by
    have hlook := hlook
    rw [takesLast_textEnd d.before d.after] at hlook
    split at hlook
    · next hnil => simp_all
    · simp at hlook
  obtain ⟨u, hu, -⟩ := (advances_ends r c d hd).exists_append
  have hfirst : w ++ back = ['.'] ++ c.after := (takes_single '.').after_eq hc
  refine ⟨hend.2, u, ?_⟩
  simpa [hend.1, hend.2, hu] using hfirst

end Regex

namespace Marker

open Regex Stencil.Path

variable {pattern name out : String} {m : Marker} {r : Regex}

/-- What is put between the dots means the same there as on its own. -/
theorem eq_of_read (hr : read? pattern.toList = some r) (h : read pattern = .ok m) :
    m = ⟨r.within, r.atEnd⟩ := by
  unfold read at h
  dsimp only at h
  split at h
  · next middle final hmiddle hfinal =>
    have hwithin : middle = r.within :=
      read?_marked ⟨by simp, by simp⟩ Reader.readsAs_stop hr (by simpa using hmiddle)
    have hatEnd : final = r.atEnd :=
      read?_marked ⟨by simp, by simp⟩ Reader.readsAs_textEnd hr (by simpa using hfinal)
    rw [← Except.ok.inj h, hwithin, hatEnd]
  · simp at h

/-- What such a marker takes is a dot with what stands behind it, up to the next dot or all. -/
theorem exists_taken {cs rest : List Char} (h : unmarked? ⟨r.within, r.atEnd⟩ cs = some rest) :
    (∃ front u back, cs = front ++ '.' :: (u ++ '.' :: back) ∧ rest = front ++ '.' :: back) ∨
      ∃ u, cs = rest ++ '.' :: u := by
  unfold unmarked? at h
  split at h
  · next out hout =>
    obtain rfl := Option.some.inj h
    obtain ⟨front, w, back, rfl, rfl, hfinds⟩ := exists_finds_of_replaceFirst hout
    obtain ⟨u, rfl⟩ := hfinds.within
    exact .inl ⟨front, u, back, by simp, by simp⟩
  · obtain ⟨front, w, back, rfl, rfl, hfinds⟩ := exists_finds_of_replaceFirst h
    obtain ⟨rfl, u, rfl⟩ := hfinds.atEnd
    exact .inr ⟨u, by simp⟩

/-- The names that may lose all but two dots. -/
def IsDotted (name : String) : Prop :=
  ∃ u, name = "." ++ u ++ ".." ∨ name = ".." ++ u ++ "." ∨ name = "..." ++ u

theorem isDotted_of_taken {front u back : List Char}
    (hname : name.toList = front ++ '.' :: (u ++ '.' :: back))
    (hout : front ++ '.' :: back = ['.', '.']) : IsDotted name := by
  refine ⟨String.ofList u, ?_⟩
  simp only [← String.toList_inj]
  cases front with
  | nil =>
    obtain rfl : back = ['.'] := by simpa using hout
    exact .inl (by simp [hname])
  | cons c front =>
    obtain ⟨rfl, hrest⟩ := List.cons.inj hout
    obtain ⟨rfl, rfl⟩ : front = [] ∧ back = [] := by
      simpa using (List.append_eq_singleton_iff.mp hrest)
    exact .inr (.inl (by simp [hname]))

/-- A marker that makes sense on its own shortens a name, and leaves `..` of dotted names only. -/
theorem outputName_alone (hr : read? pattern.toList = some r) (hm : read pattern = .ok m)
    (h : m.outputName name = some out) :
    out.length < name.length ∧ (out = ".." → IsDotted name) := by
  obtain ⟨hu, -⟩ := unmarked?_of_outputName h
  rw [eq_of_read hr hm] at hu
  simp only [← String.length_toList]
  rcases exists_taken hu with ⟨front, u, back, hname, hout⟩ | ⟨u, hname⟩
  · refine ⟨?_, fun hdots => isDotted_of_taken hname ?_⟩
    · simp only [hname, hout, List.length_append, List.length_cons]
      omega
    · rw [← hout, hdots]
      rfl
  · refine ⟨by simp [hname], fun hdots => ⟨String.ofList u, .inr (.inr ?_)⟩⟩
    rw [← String.toList_inj, hname, hdots]
    simp

/-- Whatever a marker leaves of a name is one as well, unless it is `..`; then the output is beside
the template and is another file if it has another name. A marker that makes sense on its own always
leaves another name, and `..` of dotted names only. -/
theorem outputName_sibling (hm : read pattern = .ok m) :
    (∀ name out, IsEntry name → m.outputName name = some out →
      (IsEntry out ↔ out ≠ "..") ∧
      ∀ r, read? pattern.toList = some r →
        out.length < name.length ∧ (out = ".." → IsDotted name)) ∧
    ∀ (l : Locator) (t : FileTree) (relative : String) (located : Located), l.marker = m →
      l.locate t relative = .ok (some located) →
      ∃ name out, IsEntry name ∧ m.outputName name = some out ∧
        located.source.fileName? = some name ∧
        (located.output.fileName? = some out ∧
          located.output.parent? = located.source.parent? ↔ out ≠ "..") ∧
        (out ≠ name → located.output.same located.source = false) := by
  have hentry : ∀ {name out}, IsEntry name → m.outputName name = some out → out ≠ ".." →
      IsEntry out := by
    intro name out hname h hdots
    obtain ⟨hempty, hdot, hslash⟩ := outputName_spec h hname.slash_notMem
    exact ⟨hempty, hdot, hdots, hslash⟩
  refine ⟨fun name out hname h => ⟨⟨IsEntry.ne_dots, hentry hname h⟩, fun r hr =>
    outputName_alone hr hm h⟩, ?_⟩
  rintro l t relative located rfl hlocated
  have hfinds := Locator.locate_eq_some_iff.mp hlocated
  obtain ⟨name, out, hname, hout, houtput⟩ := hfinds.exists_outputName
  have hentryName := IsEntry.of_fileName? hname
  have hsource : located.source.fileName? = some name := by
    rw [hfinds.source_eq]
    exact fileName?_join_of_fileName? l.root hname
  have hother : located.output.fileName? = if out = ".." then none else some out := by
    rw [houtput]
    split_ifs with hdots
    · rw [hdots, fileName?_withFileName_dots hsource]
    · exact fileName?_withFileName hsource (hentry hentryName hout hdots)
  refine ⟨name, out, hentryName, hout, hsource, ⟨fun ⟨hfile, _⟩ hdots => ?_, fun hdots => ?_⟩,
    fun hne => same_eq_false hsource ?_⟩
  · simp [hother, hdots] at hfile
  · rw [hother, if_neg hdots, houtput]
    exact ⟨rfl, parent?_withFileName hsource (hentry hentryName hout hdots)⟩
  · rw [hother]
    split_ifs <;> simp [hne]

/-- A directory with one template. -/
def oneTemplate : FileTree := ⟨["w"], [(["w"], .directory), (["w", "a.x.txt"], .file "one".toUTF8)]⟩

/-- A marker with two spellings. -/
theorem outputName_sibling_choice : ∃ m, read "e.ch|x" = .ok m ∧
    m.outputName "a.x.txt" = some "a.txt" ∧ IsEntry "a.txt" ∧ "a.txt".length < "a.x.txt".length ∧
    ∃ located, (Locator.mk ⟨"."⟩ ["w"] m "!etch:child").locate oneTemplate "a.x.txt" =
        .ok (some located) ∧
      located.output.fileName? = some "a.txt" ∧
      located.output.parent? = located.source.parent? ∧
      located.output.same located.source = false := by
  have hread : ((read "e.ch|x").toOption.map fun m => m.outputName "a.x.txt") =
      some (some "a.txt") := by decide +kernel
  have hlocated : ((read "e.ch|x").toOption.map fun m =>
      ((Locator.mk ⟨"."⟩ ["w"] m "!etch:child").locate oneTemplate "a.x.txt").toOption.join.map
        (·.source.fileName?)) = some (some (some "a.x.txt")) := by decide +kernel
  have halone : (read? "e.ch|x".toList).isSome = true := by decide +kernel
  obtain ⟨r, hr⟩ := Option.isSome_iff_exists.mp halone
  cases hm : read "e.ch|x" with
  | error f => simp [hm, Except.toOption] at hread
  | ok m =>
    rw [hm] at hread hlocated
    obtain ⟨hnames, hlocates⟩ := outputName_sibling hm
    have hout : m.outputName "a.x.txt" = some "a.txt" := Option.some.inj hread
    obtain ⟨hentry, hshorter⟩ :=
      hnames "a.x.txt" "a.txt" ⟨by decide, by decide, by decide, by decide⟩ hout
    refine ⟨m, rfl, hout, hentry.mpr (by decide), (hshorter r hr).1, ?_⟩
    obtain ⟨located, hlocate, hsource⟩ := Option.map_eq_some_iff.mp (Option.some.inj hlocated)
    cases hanswer : (Locator.mk ⟨"."⟩ ["w"] m "!etch:child").locate oneTemplate "a.x.txt" with
    | error f => simp [hanswer, Except.toOption] at hlocate
    | ok answer =>
      rw [hanswer] at hlocate
      obtain rfl : answer = some located := hlocate
      obtain ⟨name, out, -, hout', hname, hbeside, hother⟩ :=
        hlocates _ oneTemplate "a.x.txt" located rfl hanswer
      obtain rfl := Option.some.inj (hname.symm.trans hsource)
      obtain rfl := Option.some.inj (hout'.symm.trans hout)
      obtain ⟨hfile, hparent⟩ := hbeside.mpr (by decide)
      exact ⟨located, rfl, hfile, hparent, hother (by decide)⟩

/-- Each kind of dotted name is left with two dots, and by a pattern that makes sense only in the
group a name may be left as it is. -/
theorem dots_left :
    (¬ ∀ pattern m name out, read pattern = .ok m → IsEntry name → m.outputName name = some out →
      IsEntry out ∧ out ≠ name) ∧
    ((read "etch").toOption.map fun m => ["..etch.", ".etch..", "...etch"].map m.outputName) =
      some [some "..", some "..", some ".."] ∧
    ((read ")|(?:").toOption.map fun m => m.outputName "a.b") = some (some "a.b") := by
  refine ⟨fun h => ?_, by decide +kernel, by decide +kernel⟩
  have hread : ((read "etch").toOption.map fun m => m.outputName "..etch.") = some (some "..") := by
    decide +kernel
  cases hm : read "etch" with
  | error f => simp [hm, Except.toOption] at hread
  | ok m =>
    rw [hm] at hread
    have hsibling := h "etch" m "..etch." ".." hm ⟨by decide, by decide, by decide, by decide⟩
      (Option.some.inj hread)
    exact hsibling.1.ne_dots rfl

end Marker
end Stencil
