import Stencil.Proofs.Lockfile.Cache

/-! A lockfile and its text. Main statement: a file that holds the text of a lockfile is loaded as
that lockfile, and two lockfiles have the same text only where they have the same entries, however
these were put in. -/
namespace Stencil

namespace KeyMap

/-- What is found in a map that was put together is what was put in last. -/
theorem get?_ofList (entries : List (String × α)) (key : String) :
    (ofList entries).get? key = entries.reverse.lookup key := by
  rw [ofList, get?_insertAll, get?_empty, Option.or_none]
  induction entries.reverse with
  | nil => rfl
  | cons e rest ih =>
    obtain ⟨k, v⟩ := e
    by_cases hk : key = k
    · subst hk; simp
    · have hkey : (key == k) = false := beq_eq_false_iff_ne.mpr hk
      have hkey' : (k == key) = false := beq_eq_false_iff_ne.mpr (Ne.symm hk)
      rw [List.find?_cons, List.lookup_cons]
      simp only [hkey, hkey', ih]

theorem ofList_inj {a b : List (String × α)} :
    ofList a = ofList b ↔ ∀ key, a.reverse.lookup key = b.reverse.lookup key := by
  simp only [← get?_ofList]
  exact ⟨fun h key => by rw [h], ext_get?⟩

end KeyMap

namespace Lockfile

theorem render_inj {l m : Lockfile} : l.render = m.render ↔ l = m := by
  refine ⟨fun h => ?_, fun h => h ▸ rfl⟩
  have hread : (Json.readRaw? l.render).bind ofJson? = (Json.readRaw? m.render).bind ofJson? := by
    rw [h]
  simpa only [readRaw?_render, Option.bind_some, ofJson?_asJson, Option.some.injEq] using hread

theorem toUTF8_render_inj {l m : Lockfile} : l.render.toUTF8 = m.render.toUTF8 ↔ l = m :=
  toUTF8_inj.trans render_inj

/-- The text of a lockfile tells it: a file of the text is loaded as it, and texts are the same
only where versions and entries are, whatever the order in which the entries were put in. -/
theorem text_tells_lockfile :
    (∀ (files : KeyMap UInt32) (t : FileTree) (p : Path),
      t.readBytes p = .ok (Lockfile.mk runningVersion files).render.toUTF8 →
        load t p = .valid ⟨runningVersion, files⟩) ∧
    (∀ l m : Lockfile, l.render.toUTF8 = m.render.toUTF8 ↔ l = m) ∧
    ∀ (v w : String) (a b : List (String × UInt32)),
      (Lockfile.mk v (.ofList a)).render.toUTF8 = (Lockfile.mk w (.ofList b)).render.toUTF8 ↔
        v = w ∧ ∀ key, a.reverse.lookup key = b.reverse.lookup key := by
  refine ⟨fun files t p h => ?_, fun l m => toUTF8_render_inj, fun v w a b => ?_⟩
  · rw [load, h]
    exact ofBytes_render p.text _ rfl
  · rw [toUTF8_render_inj, Lockfile.mk.injEq, KeyMap.ofList_inj]

/-- Keys that are empty, need escapes or leave ASCII; one of them is given twice. -/
def oddEntries : List (String × UInt32) :=
  [("", 0), ("a\"b\\c", 1), ("\x00\n\x7f", 4294967295), ("é/😀", 3), ("", 5)]

/-- A directory with nothing but a lockfile of these entries. -/
def onlyLockfile : FileTree :=
  ⟨[], [([fileName], .file (Lockfile.mk runningVersion (.ofList oddEntries)).render.toUTF8)]⟩

theorem text_tells_lockfile_oddKeys :
    onlyLockfile.readBytes ⟨fileName⟩ =
        .ok (Lockfile.mk runningVersion (.ofList oddEntries)).render.toUTF8 ∧
      load onlyLockfile ⟨fileName⟩ = .valid ⟨runningVersion, .ofList oddEntries⟩ ∧
      (Lockfile.mk "" (.ofList oddEntries)).render.toUTF8 =
        (Lockfile.mk "" (.ofList oddEntries.tail.reverse)).render.toUTF8 := by
  have hread : onlyLockfile.readBytes ⟨fileName⟩ =
      .ok (Lockfile.mk runningVersion (.ofList oddEntries)).render.toUTF8 := by
    decide +kernel
  refine ⟨hread, text_tells_lockfile.1 _ _ _ hread, (text_tells_lockfile.2.2 _ _ _ _).mpr ⟨rfl, ?_⟩⟩
  intro key
  simp only [oddEntries, List.tail_cons, List.reverse_cons, List.reverse_nil, List.nil_append,
    List.cons_append, List.lookup_cons, List.lookup_nil]
  grind

end Lockfile
end Stencil
