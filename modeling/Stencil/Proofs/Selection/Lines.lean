import Stencil.Proofs.Glob.Ending
import Stencil.Proofs.Selection.Spelling
import Mathlib.Data.List.DropRight

/-! Lines of rules, and what is left of them without the blanks at their ends. Main statement: the
rules are those of the lines as they are, unless a line ends in an escaped blank; and even then the
two agree about every path that ends neither in a blank nor in a backslash. -/
namespace Stencil

open Text

namespace Text

theorem dropBlankEnd_eq (cs : List Char) : dropBlankEnd cs = cs.rdropWhile isBlank := rfl

/-- Blanks at the end leave a first character that is none. -/
theorem head?_dropBlankEnd {cs : List Char} {c : Char} (hc : isBlank c = false) :
    (dropBlankEnd cs).head? = some c ↔ cs.head? = some c := by
  constructor
  · intro h
    obtain ⟨rest, hrest⟩ := List.head?_eq_some_iff.mp h
    obtain ⟨more, hmore⟩ := List.rdropWhile_prefix isBlank (l := cs)
    rw [← hmore, ← dropBlankEnd_eq, hrest, List.cons_append, List.head?_cons]
  · intro h
    obtain ⟨rest, rfl⟩ := List.head?_eq_some_iff.mp h
    have hne : dropBlankEnd (c :: rest) ≠ [] := by
      rw [dropBlankEnd_eq, Ne, List.rdropWhile_eq_nil_iff]
      exact fun hall => by simp [hc] at hall
    obtain ⟨d, front, hd⟩ := List.exists_cons_of_ne_nil hne
    have hprefix := List.rdropWhile_prefix isBlank (l := c :: rest)
    rw [← dropBlankEnd_eq, hd, List.cons_prefix_cons] at hprefix
    rw [hd, List.head?_cons, hprefix.1]

end Text

namespace IgnoreRule

/-- The line holds a rule, and a backslash goes before the blank at its end. -/
def EndsEscaped (line : List Char) : Prop :=
  line.head? ≠ some '#' ∧ ∃ front, line = front ++ ['\\', ' ']

theorem trimmedLine_dropBlankEnd (line : List Char) :
    trimmedLine (dropBlankEnd line) = dropBlankEnd line := by
  unfold trimmedLine
  split
  · rfl
  · exact List.rdropWhile_idempotent isBlank line

theorem trimmedLine_of_not_endsEscaped {line : List Char} (hcomment : line.head? ≠ some '#')
    (h : ¬ EndsEscaped line) : trimmedLine line = dropBlankEnd line := by
  unfold trimmedLine
  rw [if_neg]
  intro htake
  refine h ⟨hcomment, (line.reverse.drop 2).reverse, ?_⟩
  have hline := List.take_append_drop 2 line.reverse
  rw [htake] at hline
  simpa using (congrArg List.reverse hline).symm

/-- Blanks at the end make no difference to a rule, but for one that is escaped. -/
theorem ofLine_dropBlankEnd {line : List Char} (h : ¬ EndsEscaped line) :
    ofLine (dropBlankEnd line) = ofLine line := by
  have hmark : isBlank '#' = false := by decide
  unfold ofLine
  by_cases hcomment : line.head? = some '#'
  · rw [if_pos ((head?_dropBlankEnd hmark).mpr hcomment), if_pos hcomment]
  · rw [if_neg (mt (head?_dropBlankEnd hmark).mp hcomment), if_neg hcomment,
      trimmedLine_dropBlankEnd, trimmedLine_of_not_endsEscaped hcomment h]

/-! ## An escaped blank -/

theorem leadingSigns_append (front : List Char) : ∃ keeps anchored pattern, ∀ t, Glob.IsTail t →
    leadingSigns (front ++ '\\' :: t) = (keeps, anchored, pattern ++ '\\' :: t) := by
  rcases front with _ | ⟨a, front⟩
  · exact ⟨false, false, [], fun t ht => by rcases ht with rfl | rfl <;> rfl⟩
  by_cases hslash : a = '/'
  · exact ⟨false, true, front, fun t _ => by simp [leadingSigns, hslash]⟩
  by_cases hnot : a = '!'
  · rcases front with _ | ⟨b, front⟩
    · exact ⟨true, false, [], fun t _ => by simp [leadingSigns, hnot]⟩
    by_cases hb : b = '/'
    · exact ⟨true, true, front, fun t _ => by simp [leadingSigns, hnot, hb]⟩
    · exact ⟨true, false, b :: front, fun t _ => by simp [leadingSigns, hnot, hb]⟩
  by_cases hescape : a = '\\' ∧ ∃ b more, front = b :: more ∧ (b = '!' ∨ b = '#')
  · obtain ⟨rfl, b, more, rfl, rfl | rfl⟩ := hescape
    · exact ⟨false, false, '!' :: more, fun t _ => rfl⟩
    · exact ⟨false, false, '#' :: more, fun t _ => rfl⟩
  · refine ⟨false, false, a :: front, fun t _ => ?_⟩
    rcases front with _ | ⟨b, front⟩
    · simp [leadingSigns, hslash, hnot]
    · by_cases ha : a = '\\'
      · have hb : b ≠ '!' := fun he => hescape ⟨ha, b, front, rfl, .inl he⟩
        have hb' : b ≠ '#' := fun he => hescape ⟨ha, b, front, rfl, .inr he⟩
        simp [leadingSigns, ha, hb, hb']
      · simp [leadingSigns, ha, hslash, hnot]

theorem trailingSign_append (pattern : List Char) {t : List Char} (ht : Glob.IsTail t) :
    trailingSign (pattern ++ '\\' :: t) = (false, pattern ++ '\\' :: t) := by
  rcases ht with rfl | rfl <;> simp [trailingSign]

theorem glob_append (keeps anchored : Bool) (pattern : List Char) : ∃ cs, ∀ t, Glob.IsTail t →
    (Written.mk keeps anchored false (pattern ++ '\\' :: t)).glob = cs ++ '\\' :: t := by
  refine ⟨if anchored = false ∧ '/' ∉ pattern then ['*', '*', '/'] ++ pattern else pattern,
    fun t ht => ?_⟩
  have hnotStars : pattern ++ '\\' :: t ≠ ['*', '*'] := fun he => by
    have hmem : '\\' ∈ ['*', '*'] := he ▸ by simp
    simp at hmem
  have hslash : '/' ∉ t := by rcases ht with rfl | rfl <;> simp
  have hmem : '/' ∈ pattern ++ '\\' :: t ↔ '/' ∈ pattern := by simp [hslash]
  have hend : ∀ cs : List Char, (cs ++ '\\' :: t).reverse.take 3 ≠ ['*', '*', '/'] := by
    rcases ht with rfl | rfl <;> simp
  simp only [Written.glob, Bool.not_eq_true', List.contains_eq_mem, decide_eq_false_iff_not, hmem,
    hnotStars, ne_eq, not_false_eq_true, and_true]
  split_ifs with hdeep hstars hstars
  · rw [← List.append_assoc] at hstars
    exact absurd hstars (hend _)
  · rw [List.append_assoc]
  · exact absurd hstars (hend _)
  · rfl

/-- What is read of a line that ends in an escaped blank, with it and without. -/
theorem exists_ofLine_eq (front : List Char) : ∃ keeps cs, ∀ t, Glob.IsTail t →
    (front ++ '\\' :: t).head? ≠ some '#' → trimmedLine (front ++ '\\' :: t) = front ++ '\\' :: t →
      ofLine (front ++ '\\' :: t) =
        (match Glob.read (cs ++ '\\' :: t) with
        | .ok p => .ok (some ⟨keeps, false, p⟩)
        | .error () => .error ()) := by
  obtain ⟨keeps, anchored, pattern, hsigns⟩ := leadingSigns_append front
  obtain ⟨cs, hglob⟩ := glob_append keeps anchored pattern
  refine ⟨keeps, cs, fun t ht hcomment htrim => ?_⟩
  have hwritten : written (front ++ '\\' :: t) = ⟨keeps, anchored, false, pattern ++ '\\' :: t⟩ := by
    simp only [written, hsigns t ht, trailingSign_append pattern ht]
  unfold ofLine
  rw [if_neg hcomment]
  simp only [htrim, hwritten, hglob t ht]
  cases Glob.read (cs ++ '\\' :: t) <;> simp

/-- Without the blank a rule is none, or only about paths that end in a backslash instead of a
blank. -/
theorem ofLine_escaped {line : List Char} (h : EndsEscaped line) {rule : Option IgnoreRule}
    (hrule : ofLine (dropBlankEnd line) = .ok rule) : ∃ a b, rule = some a ∧
      ofLine line = .ok (some b) ∧ b.keeps = a.keeps ∧ b.onlyDirectories = a.onlyDirectories ∧
      (∀ path, Glob.accepts a.pattern path = true → path.toList.getLast? = some '\\') ∧
      ∀ path, Glob.accepts b.pattern path = true → path.toList.getLast? = some ' ' := by
  obtain ⟨hcomment, front, rfl⟩ := h
  obtain ⟨keeps, cs, hread⟩ := exists_ofLine_eq front
  have hcut : dropBlankEnd (front ++ ['\\', ' ']) = front ++ ['\\'] := by
    have hwhole : front ++ ['\\', ' '] = (front ++ ['\\']) ++ [' '] := by simp
    rw [dropBlankEnd_eq, hwhole, List.rdropWhile_concat_pos isBlank _ _ (by decide),
      List.rdropWhile_concat_neg isBlank _ _ (by decide)]
  have hcomment' : (front ++ ['\\']).head? ≠ some '#' := by
    cases front with
    | nil => simp
    | cons c front => exact hcomment
  have htrim : trimmedLine (front ++ ['\\']) = front ++ ['\\'] := by
    rw [← hcut, trimmedLine_dropBlankEnd]
  rw [hcut, hread [] (.inl rfl) hcomment' htrim] at hrule
  cases hp : Glob.read (cs ++ ['\\']) with
  | error e => simp [hp] at hrule
  | ok p =>
    rw [hp] at hrule
    obtain rfl := Except.ok.inj hrule
    obtain ⟨q, hq, hpends, hqends⟩ := Glob.read_escaped hp
    refine ⟨_, ⟨keeps, false, q⟩, rfl, ?_, rfl, rfl, hpends, hqends⟩
    rw [hread [' '] (.inr rfl) hcomment (by simp [trimmedLine]), hq]

/-- The rules say the same about paths that end neither in a blank nor in a backslash. -/
structure Alike (a b : IgnoreRule) : Prop where
  keeps : b.keeps = a.keeps
  onlyDirectories : b.onlyDirectories = a.onlyDirectories
  accepts : ∀ path : String, path.toList.getLast? ≠ some ' ' → path.toList.getLast? ≠ some '\\' →
    Glob.accepts b.pattern path = Glob.accepts a.pattern path

theorem Alike.refl (a : IgnoreRule) : Alike a a := ⟨rfl, rfl, fun _ _ _ => rfl⟩

/-- A line that can be read without the blanks at its end can be read with them. -/
theorem exists_alike {line : List Char} {rule : Option IgnoreRule}
    (h : ofLine (dropBlankEnd line) = .ok rule) :
    ∃ whole, ofLine line = .ok whole ∧ List.Forall₂ Alike rule.toList whole.toList := by
  by_cases hescaped : EndsEscaped line
  · obtain ⟨a, b, rfl, hb, hkeeps, honly, haends, hbends⟩ := ofLine_escaped hescaped h
    refine ⟨some b, hb, .cons ⟨hkeeps, honly, fun path hblank hback => ?_⟩ .nil⟩
    have ha : Glob.accepts a.pattern path = false := by
      simpa using fun he => hback (haends path he)
    have hb : Glob.accepts b.pattern path = false := by
      simpa using fun he => hblank (hbends path he)
    rw [ha, hb]
  · rw [ofLine_dropBlankEnd hescaped] at h
    exact ⟨rule, h, List.forall₂_same.mpr fun a _ => .refl a⟩

end IgnoreRule

namespace IgnoreSpec

open IgnoreRule

variable {lines : List String} {rules : List IgnoreRule}

/-! ## All lines -/

theorem startsWith_hash_iff {s : String} : s.startsWith "#" = true ↔ s.toList.head? = some '#' := by
  have hiff : s.startsWith "#" = true ↔ "#".toList <+: s.toList :=
    (String.Slice.startsWith_string_iff (s := s.toSlice)).trans (by simp)
  rw [hiff, List.head?_eq_some_iff]
  exact ⟨fun ⟨rest, h⟩ => ⟨rest, h.symm⟩, fun ⟨rest, h⟩ => ⟨rest, h.symm⟩⟩

theorem map_nil_append (e : Except Failure (List IgnoreRule)) :
    (e.map fun rules => (none : Option IgnoreRule).toList ++ rules) = e := by
  cases e <;> rfl

theorem ofLine_skipped {line : String}
    (h : (!allBlank (trimEnd line) && !(trimEnd line).startsWith "#") = false) :
    ofLine (trimEnd line).toList = .ok none := by
  unfold ofLine
  split
  · rfl
  next hcomment =>
  have hblank : allBlank (trimEnd line) = true := by
    rcases Bool.and_eq_false_iff.mp h with hblank | hhash
    · simpa using hblank
    · rw [Bool.not_eq_false'] at hhash
      exact absurd (startsWith_hash_iff.mp hhash) hcomment
  have hempty : (trimEnd line).toList = [] := by
    rw [trimEnd, String.toList_ofList, dropBlankEnd_eq, ← List.rdropWhile_idempotent,
      List.rdropWhile_eq_nil_iff]
    simpa [allBlank, trimEnd, dropBlankEnd_eq] using hblank
  simp [hempty, trimmedLine, dropBlankEnd_eq]

/-- The lines that are skipped hold no rule. -/
theorem readRules_prepared (lines : List String) :
    readRules (prepared lines) = readRules (lines.map trimEnd) := by
  induction lines with
  | nil => rfl
  | cons line lines ih =>
    have hprepared : prepared (line :: lines) =
        if (!allBlank (trimEnd line) && !(trimEnd line).startsWith "#") = true
        then trimEnd line :: prepared lines else prepared lines := by
      rw [prepared, List.map_cons, List.filter_cons]
      rfl
    rw [hprepared, List.map_cons, readRules]
    split
    · rw [readRules, ih]
    · next hskip =>
      rw [ofLine_skipped (Bool.eq_false_iff.mpr hskip)]
      exact ih.trans (map_nil_append _).symm

theorem ofLine_trimEnd {line : String} (h : ¬ EndsEscaped line.toList) :
    ofLine (trimEnd line).toList = ofLine line.toList := by
  rw [trimEnd, String.toList_ofList, ofLine_dropBlankEnd h]

theorem toOption_readRules_trimEnd (h : ∀ line ∈ lines, ¬ EndsEscaped line.toList) :
    (readRules (lines.map trimEnd)).toOption = (readRules lines).toOption := by
  induction lines with
  | nil => rfl
  | cons line lines ih =>
    have hrest := ih fun l hl => h l (by simp [hl])
    rw [List.map_cons, readRules, readRules, ofLine_trimEnd (h line (by simp))]
    cases ofLine line.toList with
    | error e => rfl
    | ok rule =>
      cases ha : readRules (lines.map trimEnd) <;> cases hb : readRules lines <;>
        simp_all [Except.map, Except.toOption]

theorem exists_readRules (h : readRules (lines.map trimEnd) = .ok rules) :
    ∃ whole, readRules lines = .ok whole ∧ List.Forall₂ Alike rules whole := by
  induction lines generalizing rules with
  | nil =>
    obtain rfl : [] = rules := by simpa [readRules] using h
    exact ⟨[], rfl, .nil⟩
  | cons line lines ih =>
    rw [List.map_cons, readRules] at h
    cases hline : ofLine (trimEnd line).toList with
    | error e => simp [hline] at h
    | ok rule =>
      cases hrest : readRules (lines.map trimEnd) with
      | error f => simp [hline, hrest, Except.map] at h
      | ok more =>
        rw [hline, hrest] at h
        obtain rfl := Except.ok.inj h
        rw [trimEnd, String.toList_ofList] at hline
        obtain ⟨first, hfirst, halike⟩ := exists_alike hline
        obtain ⟨whole, hwhole, hmore⟩ := ih hrest
        refine ⟨first.toList ++ whole, by rw [readRules, hfirst, hwhole]; rfl, ?_⟩
        exact List.rel_append halike hmore

theorem suffix_getD_stripStart? (lead s : String) :
    ((stripStart? lead s).getD s).toList <:+ s.toList := by
  obtain ⟨front, h⟩ := exists_append_stripStart? lead s
  exact ⟨front.toList, by rw [← String.toList_append, ← h]⟩

/-- What the rules see of a path is its end. -/
theorem seen_suffix (spec : IgnoreSpec) (p : String) : (spec.seen p).toList <:+ p.toList := by
  unfold seen
  dsimp only
  split
  · exact suffix_getD_stripStart? _ _
  · exact (suffix_getD_stripStart? _ _).trans
      ((suffix_getD_stripStart? _ _).trans (suffix_getD_stripStart? _ _))

theorem getLast?_seen (spec : IgnoreSpec) {p : String} {c : Char} (h : p.toList.getLast? ≠ some c) :
    (spec.seen p).toList.getLast? ≠ some c := by
  intro hlast
  obtain ⟨front, hfront⟩ := List.getLast?_eq_some_iff.mp hlast
  obtain ⟨lead, hlead⟩ := seen_suffix spec p
  refine h (List.getLast?_eq_some_iff.mpr ⟨lead ++ front, ?_⟩)
  rw [← hlead, hfront, List.append_assoc]

theorem find?_of_alike {rules whole : List IgnoreRule} (h : List.Forall₂ Alike rules whole)
    {path : String} (hblank : path.toList.getLast? ≠ some ' ')
    (hback : path.toList.getLast? ≠ some '\\') (isDirectory : Bool) :
    (whole.find? (decides path isDirectory)).map (·.keeps) =
      (rules.find? (decides path isDirectory)).map (·.keeps) := by
  induction h with
  | nil => rfl
  | @cons a b rules whole halike _ ih =>
    have hsame : decides path isDirectory b = decides path isDirectory a := by
      rw [decides, decides, halike.onlyDirectories, halike.accepts path hblank hback]
    rw [List.find?_cons, List.find?_cons, hsame]
    cases decides path isDirectory a with
    | true => simp [halike.keeps]
    | false => exact ih

/-- Rules that are alike decide alike. -/
theorem isIgnored_of_alike {a b : IgnoreSpec} (hroot : a.root = b.root)
    (hrules : List.Forall₂ Alike a.rules b.rules) {p : String}
    (hblank : p.toList.getLast? ≠ some ' ') (hback : p.toList.getLast? ≠ some '\\')
    (isDirectory : Bool) : a.isIgnored p isDirectory = b.isIgnored p isDirectory := by
  have hsame : a.seen p = b.seen p := by rw [seen, seen, hroot]
  have hfind := find?_of_alike (List.rel_reverse hrules) (getLast?_seen b hblank)
    (getLast?_seen b hback) isDirectory
  have hignored : ∀ spec : IgnoreSpec, spec.isIgnored p isDirectory =
      (((spec.rules.reverse.find? (decides (spec.seen p) isDirectory)).map (·.keeps)).elim false
        fun keeps => !keeps) := by
    intro spec
    rw [isIgnored]
    cases spec.rules.reverse.find? (decides (spec.seen p) isDirectory) <;> rfl
  rw [hignored, hignored, hsame, hfind]

/-- The rules of the lines as they are, compiled in their order. -/
def compiled (root : Path) (lines : List String) : Except Failure IgnoreSpec :=
  (readRules lines).map fun rules => ⟨withoutCurrent root.text, rules⟩

/-- What is built of lines is compiled from the lines as they are, unless one of them ends in an
escaped blank. Then too, whatever is built is ignored alike, but for paths that end in a blank or a
backslash. -/
theorem build_eq_compiled {t : FileTree} {root : Path} {files patterns lines : List String}
    (h : allLines t root files = .ok lines) :
    ((∀ line ∈ lines ++ patterns, ¬ EndsEscaped line.toList) →
      (build t root files patterns).toOption = (compiled root (lines ++ patterns)).toOption) ∧
    ∀ spec, build t root files patterns = .ok spec →
      ∃ whole, compiled root (lines ++ patterns) = .ok whole ∧
        ∀ p isDirectory, p.toList.getLast? ≠ some ' ' → p.toList.getLast? ≠ some '\\' →
          spec.isIgnored p isDirectory = whole.isIgnored p isDirectory := by
  have hbuild : build t root files patterns =
      (readRules ((lines ++ patterns).map trimEnd)).map fun rules =>
        ⟨withoutCurrent root.text, rules⟩ := by
    rw [build, h, ← readRules_prepared]
  rw [hbuild, compiled]
  generalize lines ++ patterns = all at *
  constructor
  · intro hescaped
    have hsame := toOption_readRules_trimEnd hescaped
    cases ha : readRules (all.map trimEnd) <;>
      cases hb : readRules all <;> simp_all [Except.map, Except.toOption]
  · intro spec hspec
    cases hread : readRules (all.map trimEnd) with
    | error f =>
      rw [hread] at hspec
      cases hspec
    | ok rules =>
      rw [hread] at hspec
      obtain rfl := Except.ok.inj hspec
      obtain ⟨whole, hwhole, halike⟩ := exists_readRules hread
      refine ⟨⟨withoutCurrent root.text, whole⟩, by rw [hwhole]; rfl, fun p d hblank hback => ?_⟩
      exact isIgnored_of_alike (a := ⟨withoutCurrent root.text, rules⟩)
        (b := ⟨withoutCurrent root.text, whole⟩) rfl halike hblank hback d

/-- A directory with an ignore file. -/
def withRules : FileTree :=
  ⟨["w"], [(["w"], .directory), (["w", ".ignored"], .file "# none \\ \n \t\n/a?log \r\n".toUTF8)]⟩

set_option maxRecDepth 100000

theorem allLines_withRules :
    allLines withRules ⟨"."⟩ [".ignored"] = .ok ["# none \\ ", " \t", "/a?log "] := by
  have hlines : (allLines withRules ⟨"."⟩ [".ignored"]).toOption =
      some ["# none \\ ", " \t", "/a?log "] := by decide +kernel
  cases h : allLines withRules ⟨"."⟩ [".ignored"] with
  | error f => simp [h, Except.toOption] at hlines
  | ok lines =>
    rw [h] at hlines
    rw [Option.some.inj hlines]

/-- A comment and a line of blanks are skipped, and other blanks at the end of a line are cut. -/
theorem build_eq_compiled_withRules :
    (build withRules ⟨"."⟩ [".ignored"] ["!/a.log\t"]).toOption =
        (compiled ⟨"."⟩ ["# none \\ ", " \t", "/a?log ", "!/a.log\t"]).toOption ∧
      ((build withRules ⟨"."⟩ [".ignored"] ["!/a.log\t"]).toOption.map fun spec =>
        (spec.isIgnored "a-log" false, spec.isIgnored "a.log" false)) = some (true, false) := by
  refine ⟨(build_eq_compiled allLines_withRules).1 ?_, by decide +kernel⟩
  rintro line hline ⟨hcomment, front, hfront⟩
  have hends : line.toList.reverse.take 2 = [' ', '\\'] := by rw [hfront]; simp
  simp only [List.cons_append, List.nil_append, List.mem_cons, List.not_mem_nil, or_false] at hline
  rcases hline with rfl | rfl | rfl | rfl <;> revert hcomment hends <;> decide +kernel

/-- A line that ends in an escaped blank is refused or, if the backslash is escaped too, read as if
there were no blank. -/
theorem escaped_blank_lost :
    (¬ ∀ t root files patterns lines, allLines t root files = .ok lines →
      ((build t root files patterns).toOption.isSome ↔
        (compiled root (lines ++ patterns)).toOption.isSome)) ∧
    ((compiled ⟨"."⟩ ["/a\\ "]).toOption.map fun spec => spec.isIgnored "a " false) = some true ∧
    ((compiled ⟨"."⟩ ["/a\\\\ "]).toOption.map fun spec => spec.isIgnored "a\\ " false) = some true ∧
    ((build withRules ⟨"."⟩ [] ["/a\\\\ "]).toOption.map fun spec =>
      spec.isIgnored "a\\ " false) = some false := by
  refine ⟨fun h => ?_, by decide +kernel, by decide +kernel, by decide +kernel⟩
  have hsome := (h withRules ⟨"."⟩ [] ["/a\\ "] [] rfl).mpr (by decide +kernel)
  revert hsome
  decide +kernel

end IgnoreSpec
end Stencil
