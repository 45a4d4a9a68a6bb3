import Stencil.Proofs.FileTree.Respelling
import Stencil.Proofs.Glob
import Stencil.Proofs.Selection.Order
import Stencil.Proofs.Text.Cut

/-! One root under two spellings. Main statement: the rules are the same, and a path is ignored
alike by whatever rules exactly if both spellings leave the same of it to the rules: a root that is
not the directory one is in is taken off the front of a path, though the path starts below it. -/
namespace Stencil

open FileTree Stencil.Path

namespace Text

/-- Endings of one text that have the same size are the same. -/
theorem eq_of_append_eq_append {a b x y : String} (h : a ++ x = b ++ y)
    (hsize : x.utf8ByteSize = y.utf8ByteSize) : x = y := by
  have hlonger : ∀ {u v : String} {more : List Char}, u.utf8ByteSize = v.utf8ByteSize →
      u.toList = more ++ v.toList → u = v := by
    intro u v more hsize hmore
    obtain rfl : u = String.ofList more ++ v := String.toList_inj.mp (by simpa using hmore)
    have hnone : (String.ofList more).utf8ByteSize = 0 := by
      rw [String.utf8ByteSize_append] at hsize
      omega
    rw [String.utf8ByteSize_eq_zero_iff.mp hnone, String.empty_append]
  have htexts := congrArg String.toList h
  rw [String.toList_append, String.toList_append, List.append_eq_append_iff] at htexts
  rcases htexts with ⟨more, -, hmore⟩ | ⟨more, -, hmore⟩
  · exact hlonger hsize hmore
  · exact (hlonger hsize.symm hmore).symm

end Text

namespace IgnoreRule

open Text

theorem dropBlankEnd_concat (cs : List Char) {c : Char} (hc : isBlank c = false) :
    dropBlankEnd (cs ++ [c]) = cs ++ [c] := by
  simp [dropBlankEnd, dropBlank, hc]

/-- A line that starts with a separator and ends with a `?` is a rule of the pattern between. -/
theorem ofLine_anchored {cs : List Char} {p : Glob.Pattern} (h : Glob.read (cs ++ ['?']) = .ok p) :
    ofLine ('/' :: (cs ++ ['?'])) = .ok (some ⟨false, false, p⟩) := by
  have htrim : trimmedLine ('/' :: (cs ++ ['?'])) = '/' :: (cs ++ ['?']) := by
    have hmark : isBlank '?' = false := by decide
    have hblank := dropBlankEnd_concat ('/' :: cs) hmark
    unfold trimmedLine
    rw [if_neg (by simp)]
    exact hblank
  have hwritten : written ('/' :: (cs ++ ['?'])) = ⟨false, true, false, cs ++ ['?']⟩ := by
    simp [written, leadingSigns, trailingSign]
  have hglob : (Written.mk false true false (cs ++ ['?'])).glob = cs ++ ['?'] := by
    simp [Written.glob]
  unfold ofLine
  rw [if_neg (by simp)]
  simp only [htrim, hwritten, hglob, h, List.isEmpty_cons, Bool.false_eq_true, if_false]

end IgnoreRule

namespace IgnoreSpec

open Text

/-- What the rules for a root see of a path below it. -/
def seenBelow (root : Path) (p : String) : String := seen ⟨withoutCurrent root.text, []⟩ p

theorem build_eq_ok_iff {t : FileTree} {root : Path} {files patterns : List String}
    {spec : IgnoreSpec} :
    build t root files patterns = .ok spec ↔ spec.root = withoutCurrent root.text ∧
      ∃ lines, allLines t root files = .ok lines ∧
        readRules (prepared (lines ++ patterns)) = .ok spec.rules := by
  obtain ⟨top, rules⟩ := spec
  unfold build
  cases hlines : allLines t root files with
  | error f => simp
  | ok lines =>
    cases hread : readRules (prepared (lines ++ patterns)) with
    | error f => simp [hread, Except.map]
    | ok rules' => simp [hread, Except.map, eq_comm, and_comm]

theorem seen_eq_seenBelow {spec : IgnoreSpec} {root : Path}
    (h : spec.root = withoutCurrent root.text) (p : String) : spec.seen p = seenBelow root p := by
  rw [seenBelow, seen, seen, h]

/-- The same rules answer alike to what they see alike. -/
theorem isIgnored_congr {a b : IgnoreSpec} {p : String} (hrules : a.rules = b.rules)
    (hseen : a.seen p = b.seen p) (isDirectory : Bool) :
    a.isIgnored p isDirectory = b.isIgnored p isDirectory := by
  rw [isIgnored, isIgnored, hrules, hseen]

/-- One rule can tell a text from all of other sizes. -/
theorem exists_pattern {s : String} (hne : s ≠ "") (hlast : s.toList.getLast? ≠ some '/') :
    ∃ line, ∀ t root, ∃ spec, build t root [] [line] = .ok spec ∧
      spec.root = withoutCurrent root.text ∧
      (∀ p isDirectory, spec.seen p = s → spec.isIgnored p isDirectory = true) ∧
      ∀ p isDirectory, spec.isIgnored p isDirectory = true →
        (spec.seen p).utf8ByteSize = s.utf8ByteSize := by
  obtain ⟨p, hread, hshape⟩ := Glob.exists_read_shapeOf hne
  obtain ⟨cs, hcs⟩ := Glob.exists_shapeOf_eq hne hlast
  rw [hcs] at hread
  have hline : prepared [String.ofList ('/' :: (cs ++ ['?']))] =
      [String.ofList ('/' :: (cs ++ ['?']))] := by
    have hmark : isBlank '?' = false := by decide
    have htrim := IgnoreRule.dropBlankEnd_concat ('/' :: cs) hmark
    have hslash : isBlank '/' = false := by decide
    rw [List.cons_append] at htrim
    simp [prepared, trimEnd, htrim, allBlank, hslash]
  have hrules : readRules [String.ofList ('/' :: (cs ++ ['?']))] = .ok [⟨false, false, p⟩] := by
    simp [readRules, IgnoreRule.ofLine_anchored hread, Except.map]
  refine ⟨String.ofList ('/' :: (cs ++ ['?'])), fun t root =>
    ⟨⟨withoutCurrent root.text, [⟨false, false, p⟩]⟩, ?_, rfl, fun q isDirectory hq => ?_,
      fun q isDirectory hq => ?_⟩⟩
  · exact build_eq_ok_iff.mpr ⟨rfl, [], rfl, by rw [List.nil_append, hline, hrules]⟩
  · simp [isIgnored, decides, hq, hshape.self]
  · refine hshape.size _ ?_
    by_contra hno
    simp [isIgnored, decides, hno] at hq

/-! ## What a root leaves to be seen -/

variable {root first second : Path} {names : List String}

/-- A root takes of a path below it what it has in common with the root's own text: the root is not
the current directory, and the path does not lie in it directly. -/
def Strips (root : Path) (p : String) : Prop :=
  withoutCurrent root.text ≠ "" ∧ ¬ Path.same ⟨withoutCurrent root.text⟩ ⟨"."⟩ ∧ '/' ∈ p.toList ∧
    ∃ rest, p = withoutCurrent root.text ++ rest

theorem withoutCurrent_ofNames (h : ∀ n ∈ names, IsName n) :
    withoutCurrent (ofNames names) = ofNames names := by
  unfold withoutCurrent
  cases hs : stripStart? "./" (ofNames names) with
  | none => rfl
  | some rest =>
    have htext := congrArg String.toList (stripStart?_eq_some_iff.mp hs)
    have hne : names ≠ [] := by
      rintro rfl
      simp [ofNames] at htext
    have hcut := cut_ofNames (fun n hn => (h n hn).slash_notMem) hne
    rw [htext, String.toList_append, show "./".toList ++ rest.toList = ['.'] ++ '/' :: rest.toList
      from rfl, cut_append] at hcut
    have hdot : "." ∈ names := by
      rw [← hcut]
      simp [cut_of_notMem]
    exact absurd rfl (h _ hdot).ne_dot

theorem stripStart?_separator (h : ∀ n ∈ names, IsName n) :
    stripStart? "/" (ofNames names) = none := by
  rw [Option.eq_none_iff_forall_ne_some]
  intro rest hrest
  refine ofNames_not_startsWith h ?_
  rw [stripStart?_eq_some_iff.mp hrest]
  simp [String.startsWith_string_iff]

/-- The rules see a path whole, or without what it starts with. -/
theorem exists_append_seenBelow (root : Path) (h : ∀ n ∈ names, IsName n) :
    ∃ lead, ofNames names = lead ++ seenBelow root (ofNames names) ∧
      (Strips root (ofNames names) ↔ lead ≠ "") := by
  unfold seenBelow seen
  dsimp only
  rw [withoutCurrent_ofNames h]
  split
  · next hwhole =>
    refine ⟨"", by simp, iff_of_false ?_ (by simp)⟩
    rintro ⟨-, hsame, hslash, -⟩
    rcases hwhole with hwhole | hwhole
    · exact hsame hwhole
    · simp [hslash] at hwhole
  · next hwhole =>
    obtain ⟨hsame, hslash⟩ : ¬ Path.same ⟨withoutCurrent root.text⟩ ⟨"."⟩ ∧
        '/' ∈ (ofNames names).toList := by simpa using hwhole
    cases hs : stripStart? (withoutCurrent root.text) (ofNames names) with
    | none =>
      refine ⟨"", by simp [stripStart?_separator h], iff_of_false ?_ (by simp)⟩
      rintro ⟨-, -, -, rest, hrest⟩
      rw [stripStart?_eq_some_iff.mpr hrest] at hs
      simp at hs
    | some rest =>
      have hrest := stripStart?_eq_some_iff.mp hs
      obtain ⟨slash, htail⟩ := exists_append_stripStart? "/" rest
      refine ⟨withoutCurrent root.text ++ slash, ?_, ?_⟩
      · rw [Option.getD_some, String.append_assoc, ← htail, ← hrest]
      · have hstrips : Strips root (ofNames names) ↔ withoutCurrent root.text ≠ "" :=
          ⟨And.left, fun hne => ⟨hne, hsame, hslash, rest, hrest⟩⟩
        rw [hstrips]
        refine not_congr ⟨fun hnone => ?_, fun hnone => (String.append_eq_empty_iff.mp hnone).1⟩
        rw [hnone, String.empty_append] at hrest
        rw [← hrest, stripStart?_separator h, Option.getD_none] at htail
        have hsize := congrArg String.length htail
        rw [String.length_append] at hsize
        simpa [hnone] using hsize

/-- A path is seen whole exactly if the root takes nothing of it. -/
theorem seenBelow_eq_self_iff (root : Path) (h : ∀ n ∈ names, IsName n) :
    seenBelow root (ofNames names) = ofNames names ↔ ¬ Strips root (ofNames names) := by
  obtain ⟨lead, htext, hstrips⟩ := exists_append_seenBelow root h
  rw [hstrips, not_not]
  constructor
  · intro hself
    have hsize := congrArg String.length htext
    rw [hself, String.length_append] at hsize
    simpa using hsize
  · rintro rfl
    rw [String.empty_append] at htext
    exact htext.symm

/-- An absolute root takes nothing of a path below it. -/
theorem not_strips_of_absolute (habsolute : root.text.startsWith "/")
    (h : ∀ n ∈ names, IsName n) : ¬ Strips root (ofNames names) := by
  rintro ⟨-, -, -, rest, hrest⟩
  rw [String.startsWith_string_iff] at habsolute
  obtain ⟨more, hmore⟩ := habsolute
  have hwhole : withoutCurrent root.text = root.text := by
    unfold withoutCurrent
    cases hs : stripStart? "./" root.text with
    | none => rfl
    | some tail =>
      have htext := congrArg String.toList (stripStart?_eq_some_iff.mp hs)
      rw [← hmore] at htext
      simp at htext
  refine ofNames_not_startsWith h ?_
  rw [String.startsWith_string_iff, hrest, hwhole, String.toList_append, ← hmore,
    List.append_assoc]
  exact List.prefix_append _ _

/-- What two roots leave of a path to be seen is the same if it has the same size. -/
theorem seenBelow_eq_of_size (h : ∀ n ∈ names, IsName n)
    (hsize : (seenBelow first (ofNames names)).utf8ByteSize =
      (seenBelow second (ofNames names)).utf8ByteSize) :
    seenBelow first (ofNames names) = seenBelow second (ofNames names) := by
  obtain ⟨a, ha, -⟩ := exists_append_seenBelow first h
  obtain ⟨b, hb, -⟩ := exists_append_seenBelow second h
  exact eq_of_append_eq_append (ha.symm.trans hb) hsize

/-- What is seen of a path does not end with a separator. -/
theorem getLast?_seenBelow (root : Path) (h : ∀ n ∈ names, IsName n) :
    (seenBelow root (ofNames names)).toList.getLast? ≠ some '/' := by
  obtain ⟨lead, htext, -⟩ := exists_append_seenBelow root h
  have hlast := getLast?_ofNames h
  intro hslash
  rw [htext, String.toList_append, List.getLast?_append, hslash] at hlast
  exact hlast rfl

section

variable {t : FileTree} {dir top : Location}

theorem lines_eq (h : Rooted t first top) (h' : Rooted (t.workingIn dir) second top) {file : String}
    {lines lines' : List String} (hlines : fileLines t first file = .ok lines)
    (hlines' : fileLines (t.workingIn dir) second file = .ok lines') : lines = lines' := by
  have hread : ∀ {u : FileTree} {root : Path} {lines : List String},
      fileLines u root file = .ok lines → ∃ bytes text, u.entryAt? (root.join file) =
        some (.file bytes) ∧ decode bytes = .ok text ∧ lines = Text.lines text := by
    intro u root lines hok
    unfold fileLines resolveAgainst at hok
    dsimp only at hok
    split at hok
    · simp at hok
    · split at hok
      · next text htext =>
        obtain ⟨bytes, hbytes, hdecode⟩ := (readText_eq_ok_iff _ _).mp htext
        exact ⟨bytes, text, hbytes, hdecode, (Except.ok.inj hok).symm⟩
      · simp at hok
  obtain ⟨bytes, text, hbytes, hdecode, rfl⟩ := hread hlines
  obtain ⟨bytes', text', hbytes', hdecode', rfl⟩ := hread hlines'
  obtain rfl := h.eq_of_entryAt?_join h' hbytes hbytes'
  rw [Except.ok.inj (hdecode.symm.trans hdecode')]

/-- Both spellings of a root lead to the same ignore files. -/
theorem allLines_eq (h : Rooted t first top) (h' : Rooted (t.workingIn dir) second top)
    {files : List String} {lines lines' : List String}
    (hlines : allLines t first files = .ok lines)
    (hlines' : allLines (t.workingIn dir) second files = .ok lines') : lines = lines' := by
  induction files generalizing lines lines' with
  | nil => exact Except.ok.inj (hlines.symm.trans hlines')
  | cons file rest ih =>
    unfold allLines at hlines hlines'
    cases ha : fileLines t first file with
    | error f => simp [ha] at hlines
    | ok these =>
      cases hb : fileLines (t.workingIn dir) second file with
      | error f => simp [hb] at hlines'
      | ok those =>
        simp only [ha, hb] at hlines hlines'
        cases hmore : allLines t first rest with
        | error f => simp [hmore, Except.map] at hlines
        | ok more =>
          cases hmore' : allLines (t.workingIn dir) second rest with
          | error f => simp [hmore', Except.map] at hlines'
          | ok more' =>
            simp only [hmore, hmore', Except.map, Except.ok.injEq] at hlines hlines'
            rw [← hlines, ← hlines', lines_eq h h' ha hb, ih hmore hmore']

/-- The rules do not depend on how the root is spelled. -/
theorem rules_eq (h : Rooted t first top) (h' : Rooted (t.workingIn dir) second top)
    {files patterns : List String} {a b : IgnoreSpec} (ha : build t first files patterns = .ok a)
    (hb : build (t.workingIn dir) second files patterns = .ok b) : a.rules = b.rules := by
  obtain ⟨-, lines, hlines, hrules⟩ := build_eq_ok_iff.mp ha
  obtain ⟨-, lines', hlines', hrules'⟩ := build_eq_ok_iff.mp hb
  obtain rfl := allLines_eq h h' hlines hlines'
  exact Except.ok.inj (hrules.symm.trans hrules')

end

/-- Whatever rules are built for two spellings of a root, both answer alike about a path. -/
def AnswersAlike (t : FileTree) (dir : Location) (first second : Path) (p : String) : Prop :=
  ∀ files patterns a b, build t first files patterns = .ok a →
    build (t.workingIn dir) second files patterns = .ok b →
    ∀ isDirectory, a.isIgnored p isDirectory = b.isIgnored p isDirectory

variable {t : FileTree} {dir top : Location}

/-- What is seen alike is answered alike. -/
theorem answersAlike_of_seenBelow_eq (h : Rooted t first top)
    (h' : Rooted (t.workingIn dir) second top) {p : String}
    (hseen : seenBelow first p = seenBelow second p) : AnswersAlike t dir first second p := by
  intro files patterns a b ha hb isDirectory
  refine isIgnored_congr (rules_eq h h' ha hb) ?_ isDirectory
  rw [seen_eq_seenBelow (build_eq_ok_iff.mp ha).1, seen_eq_seenBelow (build_eq_ok_iff.mp hb).1,
    hseen]

/-- A path of which the first root leaves more to be seen is told apart by a pattern. -/
theorem exists_line_of_size_lt {p : String}
    (hlast : (seenBelow first p).toList.getLast? ≠ some '/')
    (hsize : (seenBelow second p).utf8ByteSize < (seenBelow first p).utf8ByteSize)
    (t u : FileTree) : ∃ line a b, build t first [] [line] = .ok a ∧
      build u second [] [line] = .ok b ∧ a.isIgnored p false = true ∧
      b.isIgnored p false = false := by
  have hne : seenBelow first p ≠ "" := by
    intro he
    simp [he] at hsize
  obtain ⟨line, hline⟩ := exists_pattern hne hlast
  obtain ⟨a, ha, hroot, haccepts, -⟩ := hline t first
  obtain ⟨b, hb, hroot', -, hrejects⟩ := hline u second
  refine ⟨line, a, b, ha, hb, haccepts p false (seen_eq_seenBelow hroot p), ?_⟩
  rw [Bool.eq_false_iff]
  intro hignored
  have hsame := hrejects p false hignored
  rw [seen_eq_seenBelow hroot'] at hsame
  omega

theorem seenBelow_eq_of_answersAlike (h : ∀ n ∈ names, IsName n)
    (halike : AnswersAlike t dir first second (ofNames names)) :
    seenBelow first (ofNames names) = seenBelow second (ofNames names) := by
  refine seenBelow_eq_of_size h (le_antisymm (le_of_not_gt fun hlt => ?_)
    (le_of_not_gt fun hlt => ?_))
  · obtain ⟨line, a, b, ha, hb, hyes, hno⟩ := exists_line_of_size_lt
      (getLast?_seenBelow first h) hlt t (t.workingIn dir)
    simp [halike [] [line] a b ha hb false, hno] at hyes
  · obtain ⟨line, b, a, hb, ha, hyes, hno⟩ := exists_line_of_size_lt
      (getLast?_seenBelow second h) hlt (t.workingIn dir) t
    simp [← halike [] [line] a b ha hb false, hno] at hyes

end IgnoreSpec

namespace Selection

open IgnoreSpec

variable {t : FileTree} {first second : Path} {dir top : Location}

theorem IsSelected.respelled {a b : IgnoreSpec} {names : List String}
    (hselected : IsSelected t a top names)
    (hsame : ∀ names, names ≠ [] → (t.get? (top ++ names)).isSome → ∀ isDirectory,
      a.isIgnored (ofNames names) isDirectory = b.isIgnored (ofNames names) isDirectory)
    (dir : Location) : IsSelected (t.workingIn dir) b top names where
  ne_nil := hselected.ne_nil
  file := hselected.file
  directories := hselected.directories
  kept := by
    obtain ⟨bytes, hfile⟩ := hselected.file
    rw [← hsame names hselected.ne_nil (Option.isSome_of_eq_some hfile)]
    exact hselected.kept
  entered := fun above below hsplit habove hbelow => by
    have hthere := hselected.directories above below hsplit hbelow
    rw [← hsame above habove (Option.isSome_of_eq_some hthere)]
    exact hselected.entered above below hsplit habove hbelow

/-- Rules that answer alike about all there is select the same. -/
theorem files_eq_of_isIgnored (h : Rooted t first top) (h' : Rooted (t.workingIn dir) second top)
    {a b : IgnoreSpec} (hsame : ∀ names, names ≠ [] → (t.get? (top ++ names)).isSome →
      ∀ isDirectory, a.isIgnored (ofNames names) isDirectory =
        b.isIgnored (ofNames names) isDirectory) :
    files t a first = files (t.workingIn dir) b second := by
  have hbelow : below t a (depth t) top [] =
      below (t.workingIn dir) b (depth (t.workingIn dir)) top [] := by
    refine List.Pairwise.eq_of_mem_iff (sorted_below h.wellFormed a _ top [])
      (sorted_below h'.wellFormed b _ top []) fun names => ?_
    rw [mem_below_top_iff h.wellFormed, mem_below_top_iff h'.wellFormed]
    exact ⟨fun hnames => hnames.respelled hsame dir, fun hnames =>
      hnames.respelled (fun names hne hthere isDirectory =>
        (hsame names hne hthere isDirectory).symm) t.workDir⟩
  rw [files_eq h, files_eq h', hbelow]

/-- The selection does not depend on how a root is spelled as long as both spellings leave the same
of a path to be seen: what is seen alike is answered alike, a path below the root is answered alike
only if it is, and if all there is is seen alike the same files are selected in the same order. A
path is seen whole unless the spelling of the root takes what it starts with. -/
theorem selection_of_spellings (h : Rooted t first top)
    (h' : Rooted (t.workingIn dir) second top) :
    (∀ p, seenBelow first p = seenBelow second p → AnswersAlike t dir first second p) ∧
    (∀ names, (∀ n ∈ names, IsName n) →
      (AnswersAlike t dir first second (ofNames names) ↔
        seenBelow first (ofNames names) = seenBelow second (ofNames names)) ∧
      ∀ root, seenBelow root (ofNames names) = ofNames names ↔ ¬ Strips root (ofNames names)) ∧
    ∀ ignoring patterns a b, build t first ignoring patterns = .ok a →
      build (t.workingIn dir) second ignoring patterns = .ok b →
      (∀ names, names ≠ [] → (t.get? (top ++ names)).isSome →
        seenBelow first (ofNames names) = seenBelow second (ofNames names)) →
      files t a first = files (t.workingIn dir) b second := by
  refine ⟨fun p => answersAlike_of_seenBelow_eq h h', fun names hnames =>
    ⟨⟨seenBelow_eq_of_answersAlike hnames, answersAlike_of_seenBelow_eq h h'⟩,
      fun root => seenBelow_eq_self_iff root hnames⟩,
    fun ignoring patterns a b ha hb hseen => ?_⟩
  exact files_eq_of_isIgnored h h' fun names hne hthere isDirectory =>
    answersAlike_of_seenBelow_eq h h' (hseen names hne hthere) ignoring patterns a b ha hb
      isDirectory

/-- A directory with a directory of its own name in it. -/
def nested : FileTree :=
  ⟨["w"], [(["w"], .directory), (["w", "proj"], .directory),
    (["w", "proj", "a.txt"], .file "".toUTF8), (["w", "proj", "proj"], .directory),
    (["w", "proj", "proj", "a.txt"], .file "".toUTF8)]⟩

/-- The rules of one pattern that is tied to the root. -/
def withoutTop (root : Path) : IgnoreSpec :=
  ⟨withoutCurrent root.text, (readRules ["/a.txt"]).toOption.getD []⟩

set_option maxRecDepth 100000

theorem build_withoutTop (t : FileTree) (root : Path) :
    build t root [] ["/a.txt"] = .ok (withoutTop root) := by
  have hline : prepared ["/a.txt"] = ["/a.txt"] := by decide +kernel
  refine build_eq_ok_iff.mpr ⟨rfl, [], rfl, ?_⟩
  rw [List.nil_append, hline]
  rfl

theorem selection_of_spellings_nested :
    ¬ AnswersAlike nested ["w", "proj"] ⟨"proj"⟩ ⟨"."⟩ "proj/a.txt" ∧
      AnswersAlike nested ["w", "proj"] ⟨"proj"⟩ ⟨"."⟩ "a.txt" ∧
      files nested (withoutTop ⟨"proj"⟩) ⟨"proj"⟩ =
        files (nested.workingIn ["w"]) (withoutTop ⟨"./proj"⟩) ⟨"./proj"⟩ := by
  have hroot : Rooted nested ⟨"proj"⟩ ["w", "proj"] :=
    ⟨.of_entries rfl (by decide +kernel), resolve_eq_found (by decide +kernel) (by decide +kernel)⟩
  have hwithin : Rooted (nested.workingIn ["w", "proj"]) ⟨"."⟩ ["w", "proj"] :=
    ⟨.of_entries rfl (by decide +kernel), resolve_eq_found (by decide +kernel) (by decide +kernel)⟩
  have hbeside : Rooted (nested.workingIn ["w"]) ⟨"./proj"⟩ ["w", "proj"] :=
    ⟨.of_entries rfl (by decide +kernel), resolve_eq_found (by decide +kernel) (by decide +kernel)⟩
  obtain ⟨halike, hnames, -⟩ := selection_of_spellings hroot hwithin
  obtain ⟨-, -, hfiles⟩ := selection_of_spellings hroot hbeside
  have hspelled : withoutCurrent "./proj" = withoutCurrent "proj" := by decide +kernel
  refine ⟨fun hsame => ?_, halike "a.txt" (by decide +kernel), ?_⟩
  · have hseen := (hnames ["proj", "a.txt"] (by decide +kernel)).1.mp hsame
    exact absurd hseen (by decide +kernel)
  · refine hfiles [] ["/a.txt"] _ _ (build_withoutTop ..) (build_withoutTop ..) fun names _ _ => ?_
    rw [seenBelow, seenBelow, hspelled]

theorem nested_not_selected :
    build nested ⟨"proj"⟩ [] ["/a.txt"] = .ok (withoutTop ⟨"proj"⟩) ∧
      build (nested.workingIn ["w", "proj"]) ⟨"."⟩ [] ["/a.txt"] = .ok (withoutTop ⟨"."⟩) ∧
      nested.target? ⟨"proj"⟩ .followed =
        (nested.workingIn ["w", "proj"]).target? ⟨"."⟩ .followed ∧
      (withoutTop ⟨"proj"⟩).isIgnored "proj/a.txt" false = true ∧
      (withoutTop ⟨"."⟩).isIgnored "proj/a.txt" false = false ∧
      (files nested (withoutTop ⟨"proj"⟩) ⟨"proj"⟩).toOption = some [] ∧
      (files (nested.workingIn ["w", "proj"]) (withoutTop ⟨"."⟩) ⟨"."⟩).toOption =
        some ["proj/a.txt"] := by
  refine ⟨build_withoutTop .., build_withoutTop .., ?_, ?_, ?_, ?_, ?_⟩ <;> decide +kernel

end Selection
end Stencil
