import Stencil.FileTree.Atomic
import Stencil.Proofs.FileTree.Target

/-! Replacing a file of a directory by way of its temporary sibling. -/
namespace Stencil
namespace FileTree

open Stencil.Path Relation

/-- A path leads to a directory of a well-formed tree. -/
structure Rooted (t : FileTree) (root : Path) (top : Location) : Prop where
  wellFormed : WellFormed t
  resolve : t.resolve root = .found top .directory

namespace Rooted

variable {t u : FileTree} {root : Path} {top : Location}

theorem target? (h : Rooted t root top) : t.target? root .followed = some top := by
  have hr := h.resolve
  unfold FileTree.resolve at hr
  simp [FileTree.target?, hr, Place.target?]

theorem admissible (h : Rooted t root top) : Admissible root := admissible_of_target? h.target?

theorem outcome (h : Rooted t root top) :
    t.outcome .followed (t.outset root) = .found top .directory := by
  rw [← locate_eq t h.admissible]
  exact h.resolve

theorem directory (h : Rooted t root top) : t.get? top = some .directory := by
  have hentry := entryAt?_eq h.wellFormed root
  simpa [h.target?, entryAt?, h.resolve, Place.entryAt?] using hentry.symm

theorem of_sameFrame (h : Rooted t root top) (hf : SameFrame t u) (hw : WellFormed u) :
    Rooted u root top := by
  have htop : u.target? root .followed = some top := (hf.target?_eq root _).trans h.target?
  refine ⟨hw, resolve_eq_found ?_ htop⟩
  rw [entryAt?_eq hw, htop]
  exact (hf.alike top).directory.mp h.directory

end Rooted

/-- The name of the temporary sibling of a file. -/
def temporaryName (name : String) : String := "." ++ name ++ ".tmp"

theorem temporaryName_ne (name : String) : temporaryName name ≠ name := by
  intro h
  have hlength := congrArg (fun s => s.toList.length) h
  simp [temporaryName] at hlength
  omega

/-- A name that is as good for a file as for its temporary sibling. -/
structure IsReplaceable (name : String) : Prop where
  isName : IsName name
  sibling : IsName (temporaryName name)

theorem Admissible.of_prefix {p q : Path} (h : Admissible p) (hne : q.text ≠ "")
    (hp : q.text.toList <+: p.text.toList) : Admissible q := by
  obtain ⟨rest, hrest⟩ := hp
  have htext : p.text = q.text ++ String.ofList rest := by
    apply String.toList_inj.mp
    simp [← hrest]
  refine ⟨hne, fun hn => h.noNul ?_, ?_⟩
  · rw [← hrest]
    exact List.mem_append_left _ hn
  · have hshort := h.short
    rw [htext, String.utf8ByteSize_append] at hshort
    omega

/-- A name that makes an admissible path in a directory makes one in a directory spelt shorter. -/
theorem Admissible.join_of_prefix {p q : Path} {name : String} (h : Admissible (p.join name))
    (hname : ¬ name.startsWith "/") (hne : q.text ≠ "") (hp : q.text.toList <+: p.text.toList) :
    Admissible (q.join name) := by
  obtain ⟨rest, hrest⟩ := hp
  have htext : p.text = q.text ++ String.ofList rest := by
    apply String.toList_inj.mp
    simp [← hrest]
  by_cases hnil : rest = []
  · obtain rfl : q = p := by
      obtain ⟨text⟩ := q
      obtain ⟨text'⟩ := p
      simpa [hnil, eq_comm] using htext
    exact h
  refine ⟨join_ne_empty hne hname, fun hn => ?_, ?_⟩
  · have hmem : '\x00' ∈ q.text.toList ∨ '\x00' ∈ name.toList := by
      rcases text_join q hname with ht | ht <;> simpa [ht] using hn
    refine h.noNul ?_
    rcases hmem with hc | hc
    · exact (prefix_join p hname).subset (hrest ▸ List.mem_append_left _ hc)
    · exact (suffix_join p name).subset hc
  · -- What the shorter directory lacks makes up for a separator that it may need.
    have hshort := h.short
    have hsize : 0 < (String.ofList rest).utf8ByteSize := by
      simpa [Nat.pos_iff_ne_zero] using hnil
    have hslash : "/".utf8ByteSize = 1 := rfl
    have hlong : p.text.utf8ByteSize + name.utf8ByteSize ≤ (p.join name).text.utf8ByteSize := by
      rcases text_join p hname with ht | ht <;> simp only [ht, String.utf8ByteSize_append] <;> omega
    have hle : (q.join name).text.utf8ByteSize ≤
        q.text.utf8ByteSize + 1 + name.utf8ByteSize := by
      rcases text_join q hname with ht | ht <;>
        simp only [ht, String.utf8ByteSize_append, hslash] <;> omega
    rw [htext, String.utf8ByteSize_append] at hlong
    omega

theorem temporaryFor_join (root : Path) {name : String} (hname : IsName name) :
    temporaryFor (root.join name) = root.withoutIdle.join (temporaryName name) := by
  simp [temporaryFor, fileName?_join root hname.isEntry, withFileName_join root hname.isEntry,
    temporaryName]

/-- The steps to a file of a root and to its temporary sibling begin alike. -/
structure Ways (root : Path) (name : String) (into dots : List String) : Prop where
  idle : ∀ s ∈ dots, s = "." ∨ s = ""
  kept_root : kept root.text.toList = into ++ dots
  file : ∀ t : FileTree, t.outset (root.join name) =
    ⟨maxLinks, start t.workDir root.text, into ++ (dots ++ [name])⟩
  sibling : ∀ t : FileTree, t.outset (temporaryFor (root.join name)) =
    ⟨maxLinks, start t.workDir root.text, into ++ [temporaryName name]⟩
  parent : ∃ q, (root.join name).parent? = some q ∧ q.text ≠ "" ∧
    q.text.toList <+: root.text.toList ∧
    ∃ r, (∀ s ∈ r, s = "." ∨ s = "") ∧
      ∀ t : FileTree, t.outset q = ⟨maxLinks, start t.workDir root.text, into ++ r⟩

theorem start_congr {a b : String} (h : a.startsWith "/" = b.startsWith "/") (d : Location) :
    start d a = start d b := by
  rw [start, start, h]

theorem exists_ways {root : Path} {name : String} (hroot : root.text ≠ "")
    (hname : IsReplaceable name) : ∃ into dots, Ways root name into dots := by
  have hparent := parent?_join root hname.isName.isEntry
  have hqne := withoutIdle_ne_empty hroot
  have hstart := startsWith_withoutIdle root
  obtain ⟨dots, hdots, hkept⟩ := exists_kept_withoutIdle root
  have hidle : ∀ s ∈ dots, s = "." ∨ s = "" := fun s hs => .inl (hdots s hs)
  have htemporary := temporaryFor_join root hname.isName
  have hsteps : ∀ {p : Path} {n : String}, p.text ≠ "" → IsName n →
      steps (p.join n).text = kept p.text.toList ++ [n] := by
    intro p n hp hn
    rw [steps_join hp hn.not_startsWith (by simp [hn.isEntry.cut, hn.ne_empty]), hn.kept]
  refine ⟨kept root.withoutIdle.text.toList, dots, hidle, hkept, fun t => ?_, fun t => ?_, _, hparent,
    hqne, withoutIdle_isPrefix root, ?_⟩
  · rw [outset, hsteps hroot hname.isName, hkept, List.append_assoc,
      start_congr (startsWith_join hroot hname.isName.not_startsWith)]
  · rw [outset, htemporary, hsteps hqne hname.sibling,
      start_congr ((startsWith_join hqne hname.sibling.not_startsWith).trans hstart)]
  · rcases steps_cases root.withoutIdle.text with h | h
    · exact ⟨[], by simp, fun t => by rw [outset, h, start_congr hstart, List.append_nil]⟩
    · exact ⟨[""], by simp, fun t => by rw [outset, h, start_congr hstart]⟩

namespace Ways

variable {t u v : FileTree} {root : Path} {top : Location} {name : String}
  {into dots : List String} {k : Nat}

/-- The common steps lead to the root. -/
theorem exists_steps (w : Ways root name into dots) (h : Rooted t root top) :
    ∃ k, Steps t .followed ⟨maxLinks, start t.workDir root.text, into⟩ ⟨k, top, []⟩ := by
  have hout := h.outcome
  rw [outset] at hout
  rcases steps_cases root.text with hs | hs
  · rw [hs, w.kept_root] at hout
    exact exists_steps_of_directory w.idle hout
  · rw [hs, w.kept_root, List.append_assoc] at hout
    refine exists_steps_of_directory (fun s hmem => ?_) hout
    rcases List.mem_append.mp hmem with hmem | hmem
    · exact w.idle s hmem
    · exact .inr (by simpa using hmem)

theorem steps_sibling (w : Ways root name into dots) (hname : IsReplaceable name)
    (h : Steps t .followed ⟨maxLinks, start t.workDir root.text, into⟩ ⟨k, top, []⟩) (e : Ending) :
    Steps t e (t.outset (temporaryFor (root.join name))) ⟨k, top, [temporaryName name]⟩ := by
  rw [w.sibling]
  exact h.append (Extends.of_getLast? _ _ (by simp) (by simp [hname.sibling.ne_empty]))

theorem steps_file (w : Ways root name into dots) (hname : IsReplaceable name)
    (h : Steps t .followed ⟨maxLinks, start t.workDir root.text, into⟩ ⟨k, top, []⟩) (e : Ending) :
    Steps t e (t.outset (root.join name)) ⟨k, top, [name]⟩ := by
  rw [w.file]
  have hroot := h.append (Extends.of_getLast? .followed e (q := dots ++ [name]) (by simp)
    (by simp [hname.isName.ne_empty]))
  exact hroot.trans (steps_idle w.idle [name])

/-- The directory of the file is there, and nothing has to be made. -/
theorem ensureParent_eq (w : Ways root name into dots) (h : Rooted t root top) :
    t.ensureParent (root.join name) = (t, .ok ()) := by
  obtain ⟨q, hq, hqne, hprefix, r, hr, hout⟩ := w.parent
  obtain ⟨k, hsteps⟩ := w.exists_steps h
  have hplace : t.resolve q = .found top .directory := by
    rw [FileTree.resolve, locate_eq t (h.admissible.of_prefix hqne hprefix), hout,
      outcome_of_steps (hsteps.append (Extends.followed r))]
    exact outcome_idle hr
  have hthere : t.exists? q = true := by simp [exists?, hplace]
  have hdirectory : t.isDirectory q = true := by simp [isDirectory, hplace]
  simp [ensureParent, hq, hqne, ensureDirectory, hthere, hdirectory]

/-- Where the temporary sibling has been written to, no directory is in its place. -/
theorem notDirectory_of_filePut (w : Ways root name into dots) (hname : IsReplaceable name)
    {u : FileTree} {target : Location} {bytes : ByteArray}
    (htarget : t.target? (temporaryFor (root.join name)) .written = some target)
    (hput : FilePut t u target bytes)
    (h : Steps u .followed ⟨maxLinks, start u.workDir root.text, into⟩ ⟨k, top, []⟩) :
    u.get? (top ++ [temporaryName name]) ≠ some .directory := by
  intro hd
  have hlooks : Looks .written (temporaryName name) [] :=
    ⟨by simp [hname.sibling.ne_dot, hname.sibling.ne_empty], hname.sibling.ne_dots, by simp,
      hname.sibling.short⟩
  have hall := (w.steps_sibling hname h .written).tail (.enter hlooks hd)
  have hto : u.target? (temporaryFor (root.join name)) .written =
      some (top ++ [temporaryName name]) := by
    rw [FileTree.target?_eq u (admissible_of_target? htarget), outcome_of_steps hall,
      outcome_of_ends .here]
    rfl
  rw [hput.sameFrame.target?_eq, htarget] at hto
  have hfile := hput.get?_eq target
  rw [if_pos rfl, Option.some.inj hto, hd] at hfile
  simp at hfile

end Ways

/-- A name in a directory that is reached is kept as it is there. -/
theorem locate_kept {t : FileTree} {p : Path} {top : Location} {name : String} {k : Nat}
    (ha : Admissible p) (hname : IsName name) (h : Steps t .kept (t.outset p) ⟨k, top, [name]⟩) :
    t.locate p .kept =
      match t.get? (top ++ [name]) with
      | none => .vacant top name
      | some entry => .found (top ++ [name]) entry := by
  have hlooks : Looks .kept name [] :=
    ⟨by simp [hname.ne_dot, hname.ne_empty], hname.ne_dots, by simp, hname.short⟩
  rw [locate_eq t ha, outcome_of_steps h, outcome_of_looks t hlooks]
  cases hg : t.get? (top ++ [name]) with
  | none => rfl
  | some entry =>
    cases entry with
    | directory => exact outcome_of_ends .here
    | _ => rfl

/-- The temporary sibling has been put in the place of the file. -/
structure Moved (u v : FileTree) (top : Location) (name : String) : Prop where
  workDir : u.workDir = v.workDir
  free : u.get? (top ++ [name]) ≠ some .directory
  isSome : (u.get? (top ++ [temporaryName name])).isSome
  notDirectory : u.get? (top ++ [temporaryName name]) ≠ some .directory
  get?_eq : ∀ loc, v.get? loc =
    if loc = top ++ [name] then u.get? (top ++ [temporaryName name])
    else if loc = top ++ [temporaryName name] then none
    else u.get? loc

theorem Moved.wellFormed {u v : FileTree} {top : Location} {name : String} (h : Moved u v top name)
    (hw : WellFormed u) (htop : u.get? top = some .directory) (hname : IsName name) :
    WellFormed v := by
  refine hw.change h.workDir.symm (fun loc hl => ?_) fun dir n hs => ?_
  · rw [h.get?_eq, if_neg, if_neg, hl]
    · rintro rfl
      exact h.notDirectory hl
    · rintro rfl
      exact h.free hl
  · rw [h.get?_eq] at hs
    split at hs
    · next he =>
      obtain ⟨rfl, hn⟩ := List.append_inj' he rfl
      exact .inr ⟨htop, (List.cons.inj hn).1 ▸ hname⟩
    · split at hs
      · simp at hs
      · exact .inl hs

/-- Moving a file to its place takes it away from where it was. -/
theorem Moved.of_set_erase {u : FileTree} {top : Location} {name : String} {entry : Entry}
    (hw : WellFormed u) (hentry : u.get? (top ++ [temporaryName name]) = some entry)
    (hdir : entry ≠ .directory) (hfree : u.get? (top ++ [name]) ≠ some .directory) :
    Moved u ((u.erase (top ++ [temporaryName name])).set (top ++ [name]) entry) top name := by
  have hnot : u.get? (top ++ [temporaryName name]) ≠ some .directory := by
    rw [hentry]
    exact fun h => hdir (Option.some.inj h)
  refine ⟨rfl, hfree, by simp [hentry], hnot, fun loc => ?_⟩
  rw [get?_set _ _ _ (by simp), hw.get?_erase hnot, hentry]

/-- A rename that succeeds has moved what is in the sibling's place. -/
theorem moved_of_rename {u v : FileTree} {p q : Path} {top : Location} {name : String}
    (hw : WellFormed u)
    (hsource : u.locate q .kept = match u.get? (top ++ [temporaryName name]) with
      | none => .vacant top (temporaryName name)
      | some entry => .found (top ++ [temporaryName name]) entry)
    (hplace : u.locate p .kept = match u.get? (top ++ [name]) with
      | none => .vacant top name
      | some entry => .found (top ++ [name]) entry)
    (hnotdir : u.get? (top ++ [temporaryName name]) ≠ some .directory)
    (h : u.rename q p = .ok v) : Moved u v top name := by
  unfold rename at h
  rw [hsource] at h
  cases hentry : u.get? (top ++ [temporaryName name]) with
  | none => simp [hentry] at h
  | some entry =>
    have hdir : entry ≠ .directory := fun he => hnotdir (by rw [hentry, he])
    rw [hentry, hplace] at h
    have hne : top ++ [name] ≠ top ++ [temporaryName name] := by
      simpa using (temporaryName_ne name).symm
    cases hthere : u.get? (top ++ [name]) with
    | none =>
      simp only [hthere] at h
      rw [← Except.ok.inj h]
      exact .of_set_erase hw hentry hdir (by simp [hthere])
    | some there =>
      cases there with
      | directory => simp [hthere] at h
      | _ =>
        simp only [hthere, hne, if_false] at h
        rw [← Except.ok.inj h]
        exact .of_set_erase hw hentry hdir (by simp [hthere])

/-- Nothing is renamed to a path that is not admissible. -/
theorem admissible_of_rename {u v : FileTree} {p q : Path} (h : u.rename q p = .ok v) :
    Admissible p := by
  by_contra hn
  obtain ⟨kind, hkind⟩ := exists_failed_of_not_admissible hn
  unfold rename at h
  rw [hkind] at h
  cases hs : u.locate q .kept <;> simp [hs] at h

theorem writeBytes_of_writeTemporary {t u : FileTree} {p : Path} {bytes : ByteArray}
    (h : t.writeTemporary p bytes = .ok u) : t.writeBytes (temporaryFor p) bytes = .ok u := by
  unfold writeTemporary at h
  split at h
  · next hok => rw [hok, Except.ok.inj h]
  · simp at h

/-- An atomic write that succeeds has made its directory, written the sibling and renamed it. -/
theorem exists_of_atomicWrite {t v : FileTree} {p : Path} {bytes : ByteArray}
    (h : t.atomicWrite p bytes = (v, .ok ())) :
    ∃ parented u, t.ensureParent p = (parented, .ok ()) ∧
      parented.writeBytes (temporaryFor p) bytes = .ok u ∧
      u.rename (temporaryFor p) p = .ok v := by
  unfold atomicWrite at h
  split at h
  · simp at h
  next parented hparented =>
  split at h
  · simp at h
  next u hu =>
  refine ⟨parented, u, hparented, writeBytes_of_writeTemporary hu, ?_⟩
  unfold replaceBy at h
  split at h
  · next hok => rw [hok, (Prod.mk.inj h).1]
  · simp at h

/-- What an atomic write comes to: the bytes are written to where the temporary sibling leads, and
what is in the sibling's place is moved. -/
theorem exists_moved {t v : FileTree} {root : Path} {top : Location} {name : String}
    {bytes : ByteArray} (h : Rooted t root top) (hname : IsReplaceable name)
    (hwrite : t.atomicWrite (root.join name) bytes = (v, .ok ())) :
    Admissible (root.join name) ∧
      ∃ target u, t.target? (temporaryFor (root.join name)) .written = some target ∧
        FilePut t u target bytes ∧ WellFormed u ∧ Moved u v top name := by
  obtain ⟨into, dots, w⟩ := exists_ways h.admissible.ne_empty hname
  obtain ⟨parented, u, hparented, hbytes, hrename⟩ := exists_of_atomicWrite hwrite
  have ha := admissible_of_rename hrename
  obtain rfl : t = parented := congrArg Prod.fst ((w.ensureParent_eq h).symm.trans hparented)
  obtain ⟨target, htarget, hput, hw⟩ := exists_filePut h.wellFormed hbytes
  obtain ⟨k, hsteps⟩ := w.exists_steps (h.of_sameFrame hput.sameFrame hw)
  have hsource := locate_kept (admissible_of_target? htarget) hname.sibling
    (w.steps_sibling hname hsteps .kept)
  have hplace := locate_kept ha hname.isName (w.steps_file hname hsteps .kept)
  have hnotdir := w.notDirectory_of_filePut hname htarget hput hsteps
  exact ⟨ha, target, u, htarget, hput, hw, moved_of_rename hw hsource hplace hnotdir hrename⟩

end FileTree
end Stencil
