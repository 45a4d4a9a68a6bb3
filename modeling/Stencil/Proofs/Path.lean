import Stencil.FileTree.Resolve
import Mathlib.Data.List.Basic

/-! Paths and the steps they take: a path put together from others takes their steps in turn. -/
namespace Stencil

namespace Text

theorem splitOnChar_append (c : Char) (acc as bs : List Char) :
    splitOnChar c acc (as ++ c :: bs) = splitOnChar c acc as ++ splitOnChar c [] bs := by
  induction as generalizing acc with
  | nil => simp [splitOnChar]
  | cons a as ih => by_cases h : a = c <;> simp [splitOnChar, h, ih]

theorem splitOnChar_of_notMem {c : Char} {cs : List Char} (h : c ∉ cs) (acc : List Char) :
    splitOnChar c acc cs = [acc.reverse ++ cs] := by
  induction cs generalizing acc with
  | nil => simp [splitOnChar]
  | cons d cs ih =>
    obtain ⟨hd, hcs⟩ : c ≠ d ∧ c ∉ cs := by simpa using h
    simp [splitOnChar, Ne.symm hd, ih hcs]

theorem splitOnChar_ne_nil (c : Char) (acc cs : List Char) : splitOnChar c acc cs ≠ [] := by
  induction cs generalizing acc with
  | nil => simp [splitOnChar]
  | cons d cs ih => by_cases h : d = c <;> simp [splitOnChar, h, ih]

theorem notMem_of_mem_splitOnChar {c : Char} {acc cs piece : List Char} (hacc : c ∉ acc)
    (h : piece ∈ splitOnChar c acc cs) : c ∉ piece := by
  induction cs generalizing acc with
  | nil => simp_all [splitOnChar]
  | cons d cs ih =>
    by_cases hd : d = c
    · simp only [splitOnChar, hd, if_true, List.mem_cons] at h
      rcases h with rfl | h
      · simpa using hacc
      · exact ih List.not_mem_nil h
    · simp only [splitOnChar, hd, if_false] at h
      exact ih (by simp [hacc, Ne.symm hd]) h

end Text

namespace Path

open Text

/-- The pieces of a text between its separators. -/
def cut (cs : List Char) : List String := (splitOnChar '/' [] cs).map String.ofList

theorem pieces_eq (p : Path) : p.pieces = cut p.text.toList := rfl

theorem cut_append (as bs : List Char) : cut (as ++ '/' :: bs) = cut as ++ cut bs := by
  simp [cut, splitOnChar_append]

theorem cut_of_notMem {cs : List Char} (h : '/' ∉ cs) : cut cs = [String.ofList cs] := by
  simp [cut, splitOnChar_of_notMem h]

@[simp] theorem cut_nil : cut [] = [""] := rfl

theorem cut_ne_nil (cs : List Char) : cut cs ≠ [] := by
  simpa [cut] using splitOnChar_ne_nil '/' [] cs

theorem slash_notMem_of_mem_cut {cs : List Char} {s : String} (h : s ∈ cut cs) :
    '/' ∉ s.toList := by
  obtain ⟨piece, hp, rfl⟩ := List.mem_map.mp h
  simpa using notMem_of_mem_splitOnChar List.not_mem_nil hp

/-- The pieces that are not empty. -/
def kept (cs : List Char) : List String := (cut cs).filter (· ≠ "")

theorem kept_append (as bs : List Char) : kept (as ++ '/' :: bs) = kept as ++ kept bs := by
  simp [kept, cut_append]

@[simp] theorem kept_nil : kept [] = [] := by simp [kept]

theorem kept_of_notMem {name : String} (h : '/' ∉ name.toList) (hne : name ≠ "") :
    kept name.toList = [name] := by
  simp [kept, cut_of_notMem h, hne]

theorem endsWith_slash_iff {s : String} :
    s.endsWith "/" = true ↔ s.toList.getLast? = some '/' := by
  have hiff : s.endsWith "/" = true ↔ "/".toList <:+ s.toList :=
    (String.Slice.endsWith_string_iff (s := s.toSlice)).trans (by simp)
  rw [hiff, List.getLast?_eq_some_iff]
  exact ⟨fun ⟨base, h⟩ => ⟨base, h.symm⟩, fun ⟨base, h⟩ => ⟨base, h.symm⟩⟩

/-- Putting something after a path puts one separator between them. -/
theorem toList_join {root : Path} {p : String} (hroot : root.text ≠ "") (hp : ¬ p.startsWith "/") :
    ∃ base, (root.text.toList = base ∨ root.text.toList = base ++ ['/']) ∧
      (root.join p).text.toList = base ++ '/' :: p.toList := by
  by_cases he : root.text.endsWith "/" = true
  · obtain ⟨base, hbase⟩ := List.getLast?_eq_some_iff.mp (endsWith_slash_iff.mp he)
    refine ⟨base, .inr hbase, ?_⟩
    simp [join, hp, he, hbase]
  · refine ⟨root.text.toList, .inl rfl, ?_⟩
    simp [join, hp, hroot, he]

theorem kept_join {root : Path} {p : String} (hroot : root.text ≠ "") (hp : ¬ p.startsWith "/") :
    kept (root.join p).text.toList = kept root.text.toList ++ kept p.toList := by
  obtain ⟨base, hbase, htext⟩ := toList_join hroot hp
  rw [htext, kept_append]
  rcases hbase with h | h <;> simp [h, kept_append]

theorem getLast?_cut_join {root : Path} {p : String} (hroot : root.text ≠ "")
    (hp : ¬ p.startsWith "/") :
    (cut (root.join p).text.toList).getLast? = (cut p.toList).getLast? := by
  obtain ⟨base, -, htext⟩ := toList_join hroot hp
  rw [htext, cut_append, List.getLast?_append_of_ne_nil _ (cut_ne_nil _)]

theorem startsWith_join {root : Path} {p : String} (hroot : root.text ≠ "")
    (hp : ¬ p.startsWith "/") : (root.join p).text.startsWith "/" = root.text.startsWith "/" := by
  obtain ⟨base, hbase, htext⟩ := toList_join hroot hp
  rw [Bool.eq_iff_iff, String.startsWith_string_iff, String.startsWith_string_iff, htext]
  have hne : root.text.toList ≠ [] := by simpa using hroot
  rcases hbase with h | h <;> cases base <;> simp_all

theorem text_join (root : Path) {p : String} (hp : ¬ p.startsWith "/") :
    (root.join p).text = root.text ++ p ∨ (root.join p).text = root.text ++ "/" ++ p := by
  unfold join
  rw [if_neg hp]
  split
  · exact .inl rfl
  · exact .inr rfl

theorem prefix_join (root : Path) {p : String} (hp : ¬ p.startsWith "/") :
    root.text.toList <+: (root.join p).text.toList := by
  rcases text_join root hp with h | h
  · exact ⟨p.toList, by simp [h]⟩
  · exact ⟨'/' :: p.toList, by simp [h]⟩

theorem join_ne_empty {root : Path} {p : String} (hroot : root.text ≠ "")
    (hp : ¬ p.startsWith "/") : (root.join p).text ≠ "" := by
  intro he
  have hprefix := prefix_join root hp
  rw [he] at hprefix
  exact hroot (String.toList_inj.mp (List.prefix_nil.mp hprefix))

/-- What is put after a directory stands at the end of the path. -/
theorem suffix_join (root : Path) (p : String) : p.toList <:+ (root.join p).text.toList := by
  unfold join
  split
  · exact List.suffix_rfl
  · split
    · simp
    · exact ⟨root.text.toList ++ ['/'], by simp⟩

theorem join_inj {root : Path} {p q : String} (hp : ¬ p.startsWith "/") (hq : ¬ q.startsWith "/")
    (h : root.join p = root.join q) : p = q := by
  unfold join at h
  simp only [hp, hq, Bool.false_eq_true, if_false] at h
  split at h <;> simpa using h

/-! ## Names -/

/-- A name that a file system lets a file have. -/
structure IsName (s : String) : Prop where
  ne_empty : s ≠ ""
  ne_dot : s ≠ "."
  ne_dots : s ≠ ".."
  slash_notMem : '/' ∉ s.toList
  short : s.utf8ByteSize ≤ FileTree.maxName

theorem not_startsWith_of_notMem {s : String} (h : '/' ∉ s.toList) : ¬ s.startsWith "/" := by
  intro hs
  have hprefix : "/".toList <+: s.toList := String.startsWith_string_iff.mp hs
  exact h (List.IsPrefix.subset hprefix (by simp))

/-- A name that an entry of a directory can have, but for its length. -/
structure IsEntry (s : String) : Prop where
  ne_empty : s ≠ ""
  ne_dot : s ≠ "."
  ne_dots : s ≠ ".."
  slash_notMem : '/' ∉ s.toList

theorem IsName.isEntry {s : String} (h : IsName s) : IsEntry s :=
  ⟨h.ne_empty, h.ne_dot, h.ne_dots, h.slash_notMem⟩

theorem IsEntry.not_startsWith {s : String} (h : IsEntry s) : ¬ s.startsWith "/" :=
  not_startsWith_of_notMem h.slash_notMem

theorem IsName.not_startsWith {s : String} (h : IsName s) : ¬ s.startsWith "/" :=
  h.isEntry.not_startsWith

theorem IsName.kept {s : String} (h : IsName s) : kept s.toList = [s] :=
  kept_of_notMem h.slash_notMem h.ne_empty

theorem IsEntry.cut {s : String} (h : IsEntry s) : cut s.toList = [s] := by
  simp [cut_of_notMem h.slash_notMem]

@[simp] theorem ofNames_singleton (name : String) : ofNames [name] = name := by
  simp [ofNames]

theorem ofNames_cons_cons (a b : String) (rest : List String) :
    ofNames (a :: b :: rest) = a ++ "/" ++ ofNames (b :: rest) := by
  simp [ofNames, String.intercalate_cons_cons]

theorem cut_ofNames {names : List String} (h : ∀ n ∈ names, '/' ∉ n.toList) (hne : names ≠ []) :
    cut (ofNames names).toList = names := by
  induction names with
  | nil => exact absurd rfl hne
  | cons a rest ih =>
    cases rest with
    | nil => simp [cut_of_notMem (h a (by simp))]
    | cons b rest =>
      have hrest := ih (fun n hn => h n (List.mem_cons_of_mem _ hn)) (by simp)
      have htext : (ofNames (a :: b :: rest)).toList =
          a.toList ++ '/' :: (ofNames (b :: rest)).toList := by
        simp [ofNames_cons_cons]
      rw [htext, cut_append, hrest, cut_of_notMem (h a (by simp))]
      simp

theorem kept_ofNames {names : List String} (h : ∀ n ∈ names, IsName n) :
    kept (ofNames names).toList = names := by
  by_cases hne : names = []
  · simp [hne, ofNames]
  · rw [kept, cut_ofNames (fun n hn => (h n hn).slash_notMem) hne]
    exact List.filter_eq_self.mpr fun n hn => by simpa using (h n hn).ne_empty

theorem ofNames_not_startsWith {names : List String} (h : ∀ n ∈ names, IsName n) :
    ¬ (ofNames names).startsWith "/" := by
  intro hs
  obtain ⟨rest, hrest⟩ := String.startsWith_string_iff.mp hs
  cases names with
  | nil => simp [ofNames] at hrest
  | cons a as =>
    have hcut := cut_ofNames (fun n hn => (h n hn).slash_notMem) (List.cons_ne_nil a as)
    rw [← hrest] at hcut
    have hfirst : cut ([] ++ '/' :: rest) = a :: as := hcut
    rw [cut_append, cut_nil, List.singleton_append] at hfirst
    exact (h a (by simp)).ne_empty (List.cons.inj hfirst).1.symm

theorem mem_ofNames {c : Char} {names : List String} (h : c ∈ (ofNames names).toList) :
    c = '/' ∨ ∃ n ∈ names, c ∈ n.toList := by
  induction names with
  | nil => simp [ofNames] at h
  | cons a rest ih =>
    cases rest with
    | nil => exact .inr ⟨a, by simp, by simpa using h⟩
    | cons b rest =>
      have hcases : c ∈ a.toList ∨ c = '/' ∨ c ∈ (ofNames (b :: rest)).toList := by
        simpa [ofNames_cons_cons, or_assoc] using h
      rcases hcases with h | h | h
      · exact .inr ⟨a, by simp, h⟩
      · exact .inl h
      · rcases ih h with h | ⟨n, hn, hc⟩
        · exact .inl h
        · exact .inr ⟨n, List.mem_cons_of_mem _ hn, hc⟩

theorem subset_ofNames {names : List String} {n : String} (h : n ∈ names) :
    n.toList ⊆ (ofNames names).toList := by
  induction names with
  | nil => simp at h
  | cons a rest ih =>
    cases rest with
    | nil =>
      obtain rfl : n = a := by simpa using h
      simp
    | cons b rest =>
      intro c hc
      rcases List.mem_cons.mp h with rfl | h
      · simp [ofNames_cons_cons, hc]
      · simp [ofNames_cons_cons, ih h hc]

theorem ofNames_concat {init : List String} (h : init ≠ []) (name : String) :
    ofNames (init ++ [name]) = ofNames init ++ "/" ++ name := by
  induction init with
  | nil => exact absurd rfl h
  | cons a rest ih =>
    cases rest with
    | nil => simp [ofNames_cons_cons]
    | cons b rest =>
      have hrest := ih (List.cons_ne_nil b rest)
      simp only [List.cons_append] at hrest
      simp only [List.cons_append, ofNames_cons_cons, hrest, String.append_assoc]

theorem getLast?_ofNames {names : List String} (h : ∀ n ∈ names, IsName n) :
    (ofNames names).toList.getLast? ≠ some '/' := by
  intro hlast
  by_cases hne : names = []
  · simp [hne, ofNames] at hlast
  · obtain ⟨base, hbase⟩ := List.getLast?_eq_some_iff.mp hlast
    have hcut := cut_ofNames (fun n hn => (h n hn).slash_notMem) hne
    have hempty : "" ∈ names := by
      rw [← hcut, hbase, cut_append]
      simp
    exact (h "" hempty).ne_empty rfl

/-- Names lead to a file by way of its directory. -/
theorem join_ofNames_concat {root : Path} {dirs : List String} {name : String}
    (hroot : root.text ≠ "") (hdirs : ∀ n ∈ dirs, IsName n) (hname : IsName name) :
    root.join (ofNames (dirs ++ [name])) = (root.join (ofNames dirs)).join name := by
  have hstart := hname.not_startsWith
  by_cases hnil : dirs = []
  · subst hnil
    by_cases hend : root.text.endsWith "/" = true
    · simp [join, hstart, hend, ofNames]
    · have hslash : (root.text ++ "/").endsWith "/" = true := by
        rw [endsWith_slash_iff]
        simp
      simp [join, hstart, hroot, hend, hslash, ofNames]
  · have hboth : ∀ n ∈ dirs ++ [name], IsName n := by
      simpa [or_imp, forall_and] using ⟨hdirs, hname⟩
    have hdir := ofNames_not_startsWith hdirs
    have hend : ¬ (root.join (ofNames dirs)).text.endsWith "/" = true := by
      rw [endsWith_slash_iff]
      obtain ⟨base, -, htext⟩ := toList_join hroot hdir
      have hne : (ofNames dirs).toList ≠ [] := by
        intro he
        have hkept := kept_ofNames hdirs
        rw [he, kept_nil] at hkept
        exact hnil hkept.symm
      rw [htext, List.getLast?_append, List.getLast?_cons, List.getLast?_eq_some_getLast hne]
      have hlast := getLast?_ofNames hdirs
      rw [List.getLast?_eq_some_getLast hne] at hlast
      simpa using hlast
    have hne := join_ne_empty hroot hdir
    have hall := ofNames_not_startsWith hboth
    rw [ofNames_concat hnil] at hall ⊢
    have htext : (root.join (ofNames dirs)).join name =
        ⟨(root.join (ofNames dirs)).text ++ "/" ++ name⟩ := by
      generalize root.join (ofNames dirs) = dir at hend hne
      simp [join, hstart, hend, hne]
    rw [htext]
    unfold join
    simp only [hall, hdir, Bool.false_eq_true, if_false]
    split <;> simp [String.append_assoc]

/-- What has no backslash is stored as it is. -/
theorem stored_of_notMem {p : String} (h : '\\' ∉ p.toList) : stored p = p := by
  have hlead : ∀ q : List Char, dropLead? ('\\' :: q) p.toList = none := by
    intro q
    cases hp : p.toList with
    | nil => rfl
    | cons c cs =>
      have hc : '\\' ≠ c := fun hc => h (by simp [hp, ← hc])
      simp [dropLead?, hc]
  have hunc : stripStart? "\\\\?\\UNC\\" p = none := by
    simpa [stripStart?] using hlead _
  have hlong : stripStart? "\\\\?\\" p = none := by
    simpa [stripStart?] using hlead _
  have hmap : p.toList.map (fun c => if c = '\\' then '/' else c) = p.toList := by
    conv_rhs => rw [← List.map_id p.toList]
    apply List.map_congr_left
    intro c hc
    have hne : c ≠ '\\' := fun he => h (he ▸ hc)
    simp [hne]
  rw [stored, hunc, hlong]
  apply String.toList_inj.mp
  simpa using hmap

theorem stored_ofNames {names : List String} (h : ∀ n ∈ names, '\\' ∉ n.toList) :
    stored (ofNames names) = ofNames names := by
  apply stored_of_notMem
  intro hc
  rcases mem_ofNames hc with hc | ⟨n, hn, hc⟩
  · exact absurd hc (by decide)
  · exact h n hn hc

theorem backslash_notMem_stored (p : String) : '\\' ∉ (stored p).toList := by
  unfold stored
  dsimp only
  rw [String.toList_map, List.mem_map]
  rintro ⟨c, -, hc⟩
  by_cases h : c = '\\' <;> simp [h] at hc

/-- The stored spelling leads to the same path exactly if nothing in it was changed. -/
theorem join_stored_iff {root : Path} {p : String} (hp : ¬ p.startsWith "/") :
    root.join (stored p) = root.join p ↔ '\\' ∉ p.toList := by
  constructor
  · intro h hc
    by_cases hs : (stored p).startsWith "/"
    · have htext : (root.join p).text = stored p := by rw [← h, join, if_pos hs]
      apply backslash_notMem_stored p
      rw [← htext]
      exact (suffix_join root p).subset hc
    · rw [← join_inj hs hp h] at hc
      exact backslash_notMem_stored p hc
  · intro h
    rw [stored_of_notMem h]

/-! ## The last component -/

theorem componentOf_eq_name_iff {s name : String} :
    componentOf s = .name name ↔ s = name ∧ name ≠ ".." := by
  unfold componentOf
  split_ifs with h
  · simp only [false_iff, not_and, not_not]
    exact fun hs => hs ▸ h
  · simp only [Component.name.injEq, iff_self_and]
    exact fun hs => hs ▸ h

/-- A path has the file name that is the last of its pieces to count for something. -/
theorem fileName?_eq_some_iff {p : Path} {name : String} : p.fileName? = some name ↔
    (p.pieces.filter fun s => s ≠ "" ∧ s ≠ ".").getLast? = some name ∧ name ≠ ".." := by
  have hlast : p.fileName? = some name ↔ p.components.getLast? = some (.name name) := by
    unfold fileName?
    split
    · next s hs => simp [hs]
    · next hnone =>
      simp only [reduceCtorEq, false_iff]
      exact fun hs => hnone _ hs
  have hrest : p.components.getLast? = some (.name name) ↔
      ((p.pieces.filter fun s => s ≠ "" ∧ s ≠ ".").map componentOf).getLast? =
        some (.name name) := by
    unfold components
    dsimp only
    generalize (p.pieces.filter fun s => s ≠ "" ∧ s ≠ ".").map componentOf = rest
    split_ifs
    · rw [List.getLast?_cons]
      cases rest.getLast? <;> simp
    · rw [List.getLast?_cons]
      cases rest.getLast? <;> simp
    · rfl
  rw [hlast, hrest, List.getLast?_map, Option.map_eq_some_iff]
  simp only [componentOf_eq_name_iff]
  constructor
  · rintro ⟨s, hs, rfl, hdots⟩
    exact ⟨hs, hdots⟩
  · rintro ⟨hs, hdots⟩
    exact ⟨name, hs, rfl, hdots⟩

theorem IsEntry.of_fileName? {p : Path} {name : String} (h : p.fileName? = some name) :
    IsEntry name := by
  obtain ⟨hlast, hdots⟩ := fileName?_eq_some_iff.mp h
  obtain ⟨hmem, hkeep⟩ := List.mem_filter.mp (List.mem_of_getLast? hlast)
  obtain ⟨hempty, hdot⟩ := of_decide_eq_true hkeep
  exact ⟨hempty, hdot, hdots, slash_notMem_of_mem_cut (pieces_eq p ▸ hmem)⟩

theorem fileName?_of_getLast? {p : Path} {name : String}
    (h : (cut p.text.toList).getLast? = some name)
    (hname : IsEntry name) : p.fileName? = some name := by
  obtain ⟨init, hinit⟩ := List.getLast?_eq_some_iff.mp h
  rw [fileName?_eq_some_iff]
  simp [pieces_eq, hinit, hname.ne_empty, hname.ne_dot, hname.ne_dots]

theorem fileName?_of_isEntry {name : String} (h : IsEntry name) :
    (Path.mk name).fileName? = some name :=
  fileName?_of_getLast? (by rw [h.cut]; rfl) h

/-- The last piece of a path that counts for something is that of what was put at its end, if that
has one. -/
theorem getLast?_pieces_join {root : Path} {relative last : String}
    (h : ((Path.mk relative).pieces.filter fun s => s ≠ "" ∧ s ≠ ".").getLast? = some last) :
    ((root.join relative).pieces.filter fun s => s ≠ "" ∧ s ≠ ".").getLast? = some last := by
  by_cases hstart : relative.startsWith "/" = true
  · rwa [join, if_pos hstart]
  by_cases hroot : root.text = ""
  · rw [join, if_neg hstart, if_pos (.inl hroot), hroot, String.empty_append]
    exact h
  obtain ⟨base, -, htext⟩ := toList_join hroot hstart
  rw [pieces_eq] at h
  rw [pieces_eq, htext, cut_append, List.filter_append, List.getLast?_append, h]
  rfl

theorem fileName?_join_of_fileName? (root : Path) {relative name : String}
    (h : (Path.mk relative).fileName? = some name) :
    (root.join relative).fileName? = some name := by
  obtain ⟨hlast, hdots⟩ := fileName?_eq_some_iff.mp h
  exact fileName?_eq_some_iff.mpr ⟨getLast?_pieces_join hlast, hdots⟩

theorem fileName?_ofNames_concat {init : List String} {name : String}
    (h : ∀ n ∈ init ++ [name], IsName n) :
    (Path.mk (ofNames (init ++ [name]))).fileName? = some name := by
  refine fileName?_of_getLast? ?_ (h name (by simp)).isEntry
  rw [cut_ofNames (fun n hn => (h n hn).slash_notMem) (by simp), List.getLast?_concat]

theorem components_getLast?_of_fileName? {p : Path} {name : String} (h : p.fileName? = some name) :
    p.components.getLast? = some (.name name) := by
  unfold fileName? at h
  split at h
  · next s hs => simpa [← Option.some.inj h] using hs
  · simp at h

/-- What is dropped at the end of a path makes no step, and the path stays as absolute as it was. -/
theorem dropIdle_spec (cs : List Char) :
    (∃ dots, (∀ s ∈ dots, s = ".") ∧ kept cs.reverse = kept (dropIdle cs).reverse ++ dots) ∧
      (dropIdle cs).getLast? = cs.getLast? := by
  fun_induction dropIdle cs with
  | case1 cs hcs =>
    have hnil : cs = [] := by simpa using hcs
    subst hnil
    exact ⟨⟨["."], by simp, by decide⟩, rfl⟩
  | case2 cs hcs ih =>
    obtain ⟨⟨dots, hdots, hkept⟩, hlast⟩ := ih
    refine ⟨⟨dots ++ ["."], ?_, ?_⟩, ?_⟩
    · intro s hs
      rcases List.mem_append.mp hs with hs | hs
      · exact hdots s hs
      · simpa using hs
    · have hdot : kept ['.'] = ["."] := by decide
      have hsep : kept ('/' :: cs).reverse = kept cs.reverse := by
        simpa using kept_append cs.reverse []
      have hsplit : ('.' :: '/' :: cs).reverse = cs.reverse ++ '/' :: ['.'] := by simp
      rw [hsplit, kept_append, hdot, ← List.append_assoc, ← hkept, hsep]
    · rw [hlast]
      simp
  | case3 cs hcs =>
    have hnil : cs = [] := by simpa using hcs
    subst hnil
    exact ⟨⟨[], by simp, by simp⟩, rfl⟩
  | case4 cs hcs ih =>
    obtain ⟨⟨dots, hdots, hkept⟩, hlast⟩ := ih
    refine ⟨⟨dots, hdots, ?_⟩, ?_⟩
    · have hsep : kept ('/' :: cs).reverse = kept cs.reverse := by
        simpa using kept_append cs.reverse []
      rw [hsep, hkept]
    · rw [hlast]
      obtain ⟨d, ds, rfl⟩ := List.exists_cons_of_ne_nil (by simpa using hcs : cs ≠ [])
      simp
  | case5 cs _ _ => exact ⟨⟨[], by simp, by simp⟩, rfl⟩

theorem dropIdle_suffix (cs : List Char) : dropIdle cs <:+ cs := by
  fun_induction dropIdle cs with
  | case1 cs hcs =>
    have hnil : cs = [] := by simpa using hcs
    subst hnil
    exact List.suffix_cons _ _
  | case2 cs _ ih => exact ih.trans (List.suffix_cons _ _)
  | case3 cs hcs =>
    have hnil : cs = [] := by simpa using hcs
    subst hnil
    exact List.suffix_refl _
  | case4 cs _ ih => exact ih.trans (List.suffix_cons _ _)
  | case5 cs _ _ => exact List.suffix_refl _

@[simp] theorem dropIdle_dropIdle (cs : List Char) : dropIdle (dropIdle cs) = dropIdle cs := by
  fun_induction dropIdle cs with
  | case1 => simp [dropIdle]
  | case2 cs _ ih => exact ih
  | case3 => simp [dropIdle]
  | case4 cs _ ih => exact ih
  | case5 cs hdot hslash =>
    unfold dropIdle
    split
    · exact absurd rfl (hdot _)
    · exact absurd rfl (hslash _)
    · rfl

/-- From the end of a path its name is taken off as a whole, with nothing idle before it. -/
theorem dropWhile_dropIdle {name : String} (hname : IsEntry name) (rest : List Char) :
    (dropIdle (name.toList.reverse ++ rest)).dropWhile (· != '/') = rest.dropWhile (· != '/') := by
  have hne : name.toList.reverse ≠ [] := by simpa using hname.ne_empty
  obtain ⟨c, cs, hcs⟩ := List.exists_cons_of_ne_nil hne
  have hslash : ∀ d ∈ c :: cs, d ≠ '/' := by
    intro d hd hslash
    refine hname.slash_notMem ?_
    rw [← List.mem_reverse, hcs, ← hslash]
    exact hd
  have hidle : dropIdle (c :: cs ++ rest) = c :: cs ++ rest := by
    unfold dropIdle
    split
    · next cs' hstart =>
      -- A dot before a separator would be the whole name.
      cases cs with
      | nil =>
        have hdot : name.toList = ['.'] := by
          rw [← List.reverse_inj, hcs]
          simp_all
        exact absurd (String.toList_inj.mp hdot) hname.ne_dot
      | cons d ds => exact absurd (by simp_all) (hslash d (by simp))
    · next cs' hstart => exact absurd (List.cons.inj hstart).1 (hslash c (by simp))
    · rfl
  rw [hcs, hidle, List.dropWhile_append_of_pos fun d hd => bne_iff_ne.mpr (hslash d hd)]

/-! ## Directories and their files -/

/-- A directory without what is idle at the end of its path. -/
def withoutIdle (p : Path) : Path := ⟨String.ofList (dropIdle p.text.toList.reverse).reverse⟩

@[simp] theorem toList_withoutIdle (p : Path) :
    p.withoutIdle.text.toList = (dropIdle p.text.toList.reverse).reverse := by
  simp [withoutIdle]

@[simp] theorem withoutIdle_withoutIdle (p : Path) : p.withoutIdle.withoutIdle = p.withoutIdle := by
  rw [withoutIdle, toList_withoutIdle, List.reverse_reverse, dropIdle_dropIdle, withoutIdle]

theorem head?_withoutIdle (p : Path) : p.withoutIdle.text.toList.head? = p.text.toList.head? := by
  rw [toList_withoutIdle, List.head?_reverse, (dropIdle_spec _).2, List.getLast?_reverse]

theorem withoutIdle_ne_empty {p : Path} (h : p.text ≠ "") : p.withoutIdle.text ≠ "" := by
  intro he
  have hhead := head?_withoutIdle p
  rw [he, eq_comm] at hhead
  exact h (String.toList_inj.mp (List.head?_eq_none_iff.mp hhead))

theorem withoutIdle_isPrefix (p : Path) : p.withoutIdle.text.toList <+: p.text.toList := by
  simpa using List.reverse_prefix.mpr (dropIdle_suffix p.text.toList.reverse)

theorem startsWith_withoutIdle (p : Path) :
    p.withoutIdle.text.startsWith "/" = p.text.startsWith "/" := by
  have hhead := head?_withoutIdle p
  rw [Bool.eq_iff_iff, String.startsWith_string_iff, String.startsWith_string_iff]
  cases hq : p.withoutIdle.text.toList <;> cases hp : p.text.toList <;> simp_all

theorem exists_kept_withoutIdle (p : Path) : ∃ dots, (∀ s ∈ dots, s = ".") ∧
    kept p.text.toList = kept p.withoutIdle.text.toList ++ dots := by
  obtain ⟨⟨dots, hdots, hkept⟩, -⟩ := dropIdle_spec p.text.toList.reverse
  exact ⟨dots, hdots, by simpa using hkept⟩

theorem fileName?_join (root : Path) {name : String} (hname : IsEntry name) :
    (root.join name).fileName? = some name :=
  fileName?_join_of_fileName? root (fileName?_of_isEntry hname)

/-- The directory of a file right below a root is the root, but for what is idle at its end. -/
theorem parent?_join (root : Path) {name : String} (hname : IsEntry name) :
    (root.join name).parent? = some root.withoutIdle := by
  have hlast := components_getLast?_of_fileName? (fileName?_join root hname)
  have hstart := hname.not_startsWith
  have hbefore : dropIdle ((dropIdle (root.join name).text.toList.reverse).dropWhile (· != '/')) =
      dropIdle root.text.toList.reverse := by
    by_cases hroot : root.text = ""
    · have htext : (root.join name).text.toList.reverse = name.toList.reverse ++ [] := by
        simp [join, hstart, hroot]
      rw [htext, dropWhile_dropIdle hname, hroot]
      rfl
    · obtain ⟨base, hbase, htext⟩ := toList_join hroot hstart
      rw [htext, List.reverse_append, List.reverse_cons, List.append_assoc,
        dropWhile_dropIdle hname]
      rcases hbase with h | h
      · have hne : base ≠ [] := fun hnil => hroot (by simpa [hnil] using h)
        rw [h]
        conv_lhs => unfold dropIdle
        simp [hne]
      · rw [h]
        simp
  simp only [parent?, hlast, hbefore, withoutIdle]

/-- Another file of a directory does not depend on the name that it takes the place of. -/
theorem withFileName_join (root : Path) {name : String} (hname : IsEntry name) (other : String) :
    (root.join name).withFileName other = root.withoutIdle.join other := by
  rw [withFileName, fileName?_join root hname, parent?_join root hname]

/-! ## Files beside files -/

variable {p : Path} {name other : String}

/-- A file is in a directory, with nothing idle at the end of its path. -/
theorem exists_parent? (h : p.fileName? = some name) :
    ∃ q, p.parent? = some q ∧ q.withoutIdle = q := by
  refine ⟨Path.mk _, by rw [parent?, components_getLast?_of_fileName? h], ?_⟩
  rw [withoutIdle, String.toList_ofList, List.reverse_reverse, dropIdle_dropIdle]

theorem fileName?_withFileName (h : p.fileName? = some name) (hother : IsEntry other) :
    (p.withFileName other).fileName? = some other := by
  obtain ⟨q, hq, -⟩ := exists_parent? h
  rw [withFileName, h, hq]
  exact fileName?_join q hother

theorem parent?_withFileName (h : p.fileName? = some name) (hother : IsEntry other) :
    (p.withFileName other).parent? = p.parent? := by
  obtain ⟨q, hq, hidle⟩ := exists_parent? h
  rw [withFileName, h, hq]
  exact (parent?_join q hother).trans (congrArg some hidle)

/-- What leads up instead is no file. -/
theorem fileName?_withFileName_dots (h : p.fileName? = some name) :
    (p.withFileName "..").fileName? = none := by
  obtain ⟨q, hq, -⟩ := exists_parent? h
  rw [withFileName, h, hq, Option.eq_none_iff_forall_not_mem]
  intro other hother
  obtain ⟨hlast, hdots⟩ := fileName?_eq_some_iff.mp hother
  have hup : ((Path.mk "..").pieces.filter fun s => s ≠ "" ∧ s ≠ ".").getLast? = some ".." := by
    decide
  rw [getLast?_pieces_join hup] at hlast
  exact hdots (Option.some.inj hlast).symm

/-- Paths that lead to files of different names are not the same. -/
theorem same_eq_false {q : Path} (hp : p.fileName? = some name) (hq : q.fileName? ≠ some name) :
    q.same p = false := by
  rw [same, beq_eq_false_iff_ne]
  intro heq
  rw [fileName?, heq] at hq
  exact hq hp

end Path

namespace FileTree

open Stencil.Path

theorem steps_eq_kept {text : String} (h : (cut text.toList).getLast? ≠ some "") :
    steps text = kept text.toList :=
  if_neg fun hc => h hc.2.1

/-- A separator at the end leaves one empty step. -/
theorem steps_cases (text : String) :
    steps text = kept text.toList ∨ steps text = kept text.toList ++ [""] := by
  by_cases h : 1 < (cut text.toList).length ∧ (cut text.toList).getLast? = some "" ∧
      kept text.toList ≠ []
  · exact .inr (if_pos h)
  · exact .inl (if_neg h)

theorem slash_notMem_of_mem_steps {text s : String} (h : s ∈ steps text) : '/' ∉ s.toList := by
  have hkept : ∀ s ∈ kept text.toList, '/' ∉ s.toList := fun s hs =>
    slash_notMem_of_mem_cut (List.mem_filter.mp hs).1
  rcases steps_cases text with hs | hs
  · exact hkept s (hs ▸ h)
  · rcases List.mem_append.mp (hs ▸ h) with h | h
    · exact hkept s h
    · simp [List.mem_singleton.mp h]

/-- A path that ends in a name takes that step last. -/
theorem steps_join {root : Path} {p : String} (hroot : root.text ≠ "") (hp : ¬ p.startsWith "/")
    (hlast : (cut p.toList).getLast? ≠ some "") :
    steps (root.join p).text = kept root.text.toList ++ kept p.toList := by
  rw [steps_eq_kept (by rwa [getLast?_cut_join hroot hp]), kept_join hroot hp]

end FileTree
end Stencil
