import Stencil.Proofs.FileTree.Lookup
import Mathlib.Logic.Relation

/-! Following a path as a system of single steps. Steps depend on directories and links only, so
trees that differ in files alone lead every path to the same location. -/
namespace Stencil
namespace FileTree

open Stencil.Path Relation

/-- How far a path has been followed: the links that may still be followed, the directory
reached and the steps left. -/
structure Stage where
  links : Nat
  dir : Location
  rest : List String

/-- Where the steps left lead. -/
def outcome (t : FileTree) (e : Ending) (a : Stage) : Place := t.walk e a.links a.dir a.rest

/-- A step that is looked up in the directory reached. -/
structure Looks (e : Ending) (s : String) (rest : List String) : Prop where
  notIdle : ¬ (s = "." ∨ s = "")
  notUp : s ≠ ".."
  free : ¬ (e = .written ∧ rest = [""])
  short : s.utf8ByteSize ≤ maxName

inductive Step (t : FileTree) (e : Ending) : Stage → Stage → Prop
  | idle {n d s rest} (h : s = "." ∨ s = "") : Step t e ⟨n, d, s :: rest⟩ ⟨n, d, rest⟩
  | up {n d rest} : Step t e ⟨n, d, ".." :: rest⟩ ⟨n, d.dropLast, rest⟩
  | enter {n d s rest} (h : Looks e s rest) (hd : t.get? (d ++ [s]) = some .directory) :
      Step t e ⟨n, d, s :: rest⟩ ⟨n, d ++ [s], rest⟩
  | link {n d s rest target} (h : Looks e s rest) (hl : t.get? (d ++ [s]) = some (.link target))
      (hk : ¬ (rest = [] ∧ e = .kept)) :
      Step t e ⟨n + 1, d, s :: rest⟩ ⟨n, start d target, steps target ++ rest⟩

theorem Step.unique {t : FileTree} {e : Ending} {a b c : Stage} (hb : Step t e a b)
    (hc : Step t e a c) : b = c := by
  cases hb with
  | idle h =>
    cases hc with
    | idle => rfl
    | up => simp at h
    | enter h' => exact absurd h h'.notIdle
    | link h' => exact absurd h h'.notIdle
  | up =>
    cases hc with
    | idle h => simp at h
    | up => rfl
    | enter h => exact absurd rfl h.notUp
    | link h => exact absurd rfl h.notUp
  | enter h hd =>
    cases hc with
    | idle h' => exact absurd h' h.notIdle
    | up => exact absurd rfl h.notUp
    | enter => rfl
    | link _ hl => simp [hd] at hl
  | link h hl =>
    cases hc with
    | idle h' => exact absurd h' h.notIdle
    | up => exact absurd rfl h.notUp
    | enter _ hd => simp [hl] at hd
    | link _ hl' =>
      obtain rfl : _ = _ := Entry.link.inj (Option.some.inj (hl.symm.trans hl'))
      rfl

abbrev Steps (t : FileTree) (e : Ending) : Stage → Stage → Prop := ReflTransGen (Step t e)

/-- Where a stage ends that makes no further step. -/
inductive Ends (t : FileTree) (e : Ending) : Stage → Place → Prop
  | here {n d} : Ends t e ⟨n, d, []⟩ (.found d .directory)
  | barred {n d s rest} (h : ¬ (s = "." ∨ s = "")) (hup : s ≠ "..") (hb : ¬ Looks e s rest) {kind} :
      t.outcome e ⟨n, d, s :: rest⟩ = .failed kind → Ends t e ⟨n, d, s :: rest⟩ (.failed kind)
  | missing {n d s} (h : Looks e s []) (hm : t.get? (d ++ [s]) = none) :
      Ends t e ⟨n, d, [s]⟩ (.vacant d s)
  | lost {n d s rest} (h : Looks e s rest) (hr : rest ≠ []) (hm : t.get? (d ++ [s]) = none) :
      Ends t e ⟨n, d, s :: rest⟩ (.failed .notFound)
  | file {n d s bytes} (h : Looks e s []) (hf : t.get? (d ++ [s]) = some (.file bytes)) :
      Ends t e ⟨n, d, [s]⟩ (.found (d ++ [s]) (.file bytes))
  | blocked {n d s rest bytes} (h : Looks e s rest) (hr : rest ≠ [])
      (hf : t.get? (d ++ [s]) = some (.file bytes)) :
      Ends t e ⟨n, d, s :: rest⟩ (.failed .notADirectory)
  | kept {n d s target} (h : Looks e s []) (hl : t.get? (d ++ [s]) = some (.link target))
      (hk : e = .kept) : Ends t e ⟨n, d, [s]⟩ (.found (d ++ [s]) (.link target))
  | exhausted {d s rest target} (h : Looks e s rest) (hl : t.get? (d ++ [s]) = some (.link target))
      (hk : ¬ (rest = [] ∧ e = .kept)) : Ends t e ⟨0, d, s :: rest⟩ (.failed .filesystemLoop)

/-- What a looked-up step finds decides how the path goes on. -/
theorem outcome_of_looks (t : FileTree) {e : Ending} {n : Nat} {d : Location} {s : String}
    {rest : List String} (h : Looks e s rest) :
    t.outcome e ⟨n, d, s :: rest⟩ =
      match t.get? (d ++ [s]) with
      | none => if rest = [] then .vacant d s else .failed .notFound
      | some .directory => t.outcome e ⟨n, d ++ [s], rest⟩
      | some (.file bytes) =>
        if rest = [] then .found (d ++ [s]) (.file bytes) else .failed .notADirectory
      | some (.link target) =>
        if rest = [] ∧ e = .kept then .found (d ++ [s]) (.link target)
        else
          match n with
          | 0 => .failed .filesystemLoop
          | n + 1 => t.outcome e ⟨n, start d target, steps target ++ rest⟩ := by
  have hshort : ¬ maxName < s.utf8ByteSize := Nat.not_lt.mpr h.short
  cases hg : t.get? (d ++ [s]) with
  | none => cases n <;> simp [outcome, walk, follow, h.notIdle, h.notUp, h.free, hshort, hg]
  | some entry =>
    cases entry <;> cases n <;>
      simp [outcome, walk, follow, h.notIdle, h.notUp, h.free, hshort, hg]

theorem outcome_of_step {t : FileTree} {e : Ending} {a b : Stage} (h : Step t e a b) :
    t.outcome e a = t.outcome e b := by
  cases h with
  | @idle n d s rest h =>
    cases n <;> simp [outcome, walk, follow, h]
  | @up n d rest =>
    cases n <;> simp [outcome, walk, follow]
  | enter h hd => rw [outcome_of_looks t h, hd]
  | link h hl hk => simp only [outcome_of_looks t h, hl, hk, if_false]

theorem outcome_of_steps {t : FileTree} {e : Ending} {a b : Stage} (h : Steps t e a b) :
    t.outcome e a = t.outcome e b := by
  induction h with
  | refl => rfl
  | tail _ hs ih => exact ih.trans (outcome_of_step hs)

theorem outcome_of_ends {t : FileTree} {e : Ending} {a : Stage} {p : Place} (h : Ends t e a p) :
    t.outcome e a = p := by
  cases h with
  | @here n d => cases n <;> rfl
  | barred _ _ _ h => exact h
  | missing h hm => rw [outcome_of_looks t h, hm]; rfl
  | lost h hr hm => rw [outcome_of_looks t h, hm]; exact if_neg hr
  | file h hf => rw [outcome_of_looks t h, hf]; rfl
  | blocked h hr hf => rw [outcome_of_looks t h, hf]; exact if_neg hr
  | kept h hl hk =>
    rw [outcome_of_looks t h, hl]
    exact if_pos ⟨rfl, hk⟩
  | exhausted h hl hk => simp only [outcome_of_looks t h, hl, hk, if_false]

/-- A step that is neither idle, nor up, nor looked up fails, in every tree alike. -/
theorem outcome_of_not_looks {e : Ending} {s : String} {rest : List String}
    (h : ¬ (s = "." ∨ s = "")) (hup : s ≠ "..") (hl : ¬ Looks e s rest) :
    ∃ kind, ∀ (t : FileTree) n d, t.outcome e ⟨n, d, s :: rest⟩ = .failed kind := by
  by_cases hf : e = .written ∧ rest = [""]
  · refine ⟨.isADirectory, fun t n d => ?_⟩
    cases n <;> simp only [outcome, walk, follow, h, hup, hf, and_self, if_false, if_true]
  · have hlong : maxName < s.utf8ByteSize := Nat.lt_of_not_ge fun hs => hl ⟨h, hup, hf, hs⟩
    refine ⟨.nameTooLong, fun t n d => ?_⟩
    cases n <;> simp only [outcome, walk, follow, h, hup, hf, hlong, if_false, if_true]

/-- Every stage makes a step or ends. -/
theorem step_or_ends (t : FileTree) (e : Ending) (a : Stage) :
    (∃ b, Step t e a b) ∨ ∃ p, Ends t e a p := by
  obtain ⟨n, d, rest⟩ := a
  cases rest with
  | nil => exact .inr ⟨_, .here⟩
  | cons s rest =>
    by_cases hidle : s = "." ∨ s = ""
    · exact .inl ⟨_, .idle hidle⟩
    by_cases hup : s = ".."
    · subst hup
      exact .inl ⟨_, .up⟩
    by_cases h : Looks e s rest
    · cases hg : t.get? (d ++ [s]) with
      | none =>
        by_cases hr : rest = []
        · subst hr
          exact .inr ⟨_, .missing h hg⟩
        · exact .inr ⟨_, .lost h hr hg⟩
      | some entry =>
        cases entry with
        | directory => exact .inl ⟨_, .enter h hg⟩
        | file bytes =>
          by_cases hr : rest = []
          · subst hr
            exact .inr ⟨_, .file h hg⟩
          · exact .inr ⟨_, .blocked h hr hg⟩
        | link target =>
          by_cases hk : rest = [] ∧ e = .kept
          · obtain ⟨rfl, hk⟩ := hk
            exact .inr ⟨_, .kept h hg hk⟩
          · cases n with
            | zero => exact .inr ⟨_, .exhausted h hg hk⟩
            | succ n => exact .inl ⟨_, .link h hg hk⟩
    · obtain ⟨kind, hkind⟩ := outcome_of_not_looks hidle hup h
      exact .inr ⟨_, .barred hidle hup h (hkind t n d)⟩

/-- Steps come to an end: a link uses up one of the links left, all else a step. -/
theorem step_induction {t : FileTree} {e : Ending} {motive : Stage → Prop}
    (h : ∀ a, (∀ b, Step t e a b → motive b) → motive a) (a : Stage) : motive a := by
  obtain ⟨n, d, rest⟩ := a
  induction n generalizing d rest with
  | zero =>
    induction rest generalizing d with
    | nil => exact h _ fun b hb => by cases hb
    | cons s rest ih =>
      refine h _ fun b hb => ?_
      cases hb with
      | idle => exact ih _
      | up => exact ih _
      | enter => exact ih _
  | succ n ihn =>
    induction rest generalizing d with
    | nil => exact h _ fun b hb => by cases hb
    | cons s rest ih =>
      refine h _ fun b hb => ?_
      cases hb with
      | idle => exact ih _
      | up => exact ih _
      | enter => exact ih _
      | link => exact ihn _ _

/-- Every path runs to its end. -/
theorem exists_ends (t : FileTree) (e : Ending) (a : Stage) :
    ∃ b, Steps t e a b ∧ Ends t e b (t.outcome e a) := by
  induction a using step_induction (t := t) (e := e) with
  | h a ih =>
    rcases step_or_ends t e a with ⟨b, hb⟩ | ⟨p, hp⟩
    · obtain ⟨c, hc, hend⟩ := ih b hb
      exact ⟨c, .head hb hc, outcome_of_step hb ▸ hend⟩
    · exact ⟨a, .refl, outcome_of_ends hp ▸ hp⟩

/-! ## Trees that lead alike -/

/-- The location that a stage looks up next. -/
def LooksUp (e : Ending) (a : Stage) (loc : Location) : Prop :=
  ∃ s rest, a.rest = s :: rest ∧ Looks e s rest ∧ a.dir ++ [s] = loc

/-- The steps from a stage come by a location. -/
def Visits (t : FileTree) (e : Ending) (a : Stage) (loc : Location) : Prop :=
  ∃ b, Steps t e a b ∧ LooksUp e b loc

/-- The same directory or link is at a location, or neither tree has one there. -/
def AlikeAt (t u : FileTree) (loc : Location) : Prop :=
  ∀ entry, (∀ bytes, entry ≠ .file bytes) → (t.get? loc = some entry ↔ u.get? loc = some entry)

theorem AlikeAt.of_eq {t u : FileTree} {loc : Location} (h : t.get? loc = u.get? loc) :
    AlikeAt t u loc := fun _ _ => by rw [h]

theorem AlikeAt.symm {t u : FileTree} {loc : Location} (h : AlikeAt t u loc) : AlikeAt u t loc :=
  fun entry he => (h entry he).symm

theorem AlikeAt.directory {t u : FileTree} {loc : Location} (h : AlikeAt t u loc) :
    t.get? loc = some .directory ↔ u.get? loc = some .directory := h _ (by simp)

theorem AlikeAt.link {t u : FileTree} {loc : Location} (h : AlikeAt t u loc) (target : String) :
    t.get? loc = some (.link target) ↔ u.get? loc = some (.link target) := h _ (by simp)

/-- Where one tree has a file or nothing, so has the other. -/
theorem AlikeAt.missing_or_file {t u : FileTree} {loc : Location} (h : AlikeAt t u loc)
    (hd : t.get? loc ≠ some .directory) (hl : ∀ target, t.get? loc ≠ some (.link target)) :
    u.get? loc = none ∨ ∃ bytes, u.get? loc = some (.file bytes) := by
  cases hu : u.get? loc with
  | none => exact .inl rfl
  | some entry =>
    cases entry with
    | file bytes => exact .inr ⟨bytes, rfl⟩
    | directory => exact absurd (h.directory.mpr hu) hd
    | link target => exact absurd ((h.link target).mpr hu) (hl target)

theorem Step.alike {t u : FileTree} {e : Ending} {a b : Stage} (h : Step t e a b)
    (ha : ∀ loc, LooksUp e a loc → AlikeAt t u loc) : Step u e a b := by
  cases h with
  | idle h => exact .idle h
  | up => exact .up
  | enter h hd => exact .enter h ((ha _ ⟨_, _, rfl, h, rfl⟩).directory.mp hd)
  | link h hl hk => exact .link h (((ha _ ⟨_, _, rfl, h, rfl⟩).link _).mp hl) hk

theorem Steps.alike {t u : FileTree} {e : Ending} {a b : Stage} (h : Steps t e a b)
    (ha : ∀ loc, Visits t e a loc → AlikeAt t u loc) : Steps u e a b := by
  induction h using ReflTransGen.head_induction_on with
  | refl => exact .refl
  | head hs _ ih =>
    have hstep := hs.alike fun loc hl => ha loc ⟨_, .refl, hl⟩
    exact .head hstep (ih fun loc ⟨c, hc, hl⟩ => ha loc ⟨c, .head hs hc, hl⟩)

theorem Visits.alike {t u : FileTree} {e : Ending} {a : Stage} {loc : Location}
    (h : Visits t e a loc) (ha : ∀ other, Visits t e a other → AlikeAt t u other) :
    Visits u e a loc := by
  obtain ⟨b, hb, hl⟩ := h
  exact ⟨b, hb.alike ha, hl⟩

/-- In a tree that is alike wherever the way leads in another, it leads nowhere else. -/
theorem Visits.of_alike {t u : FileTree} {e : Ending} {a : Stage} {loc : Location}
    (h : Visits u e a loc) (ha : ∀ other, Visits t e a other → AlikeAt t u other) :
    Visits t e a loc := by
  obtain ⟨b, hb, hl⟩ := h
  induction hb using ReflTransGen.head_induction_on with
  | refl => exact ⟨b, .refl, hl⟩
  | head hs _ ih =>
    have hstep := hs.alike fun other hlooks => (ha other ⟨_, .refl, hlooks⟩).symm
    obtain ⟨c, hc, hl⟩ := ih fun other ⟨c, hc, hlooks⟩ => ha other ⟨c, .head hstep hc, hlooks⟩
    exact ⟨c, .head hstep hc, hl⟩

namespace Place

/-- The location that a path names, whether or not something is there. -/
def target? : Place → Option Location
  | found loc _ => some loc
  | vacant dir name => some (dir ++ [name])
  | failed _ => none

def entryAt? : Place → Option Entry
  | found _ entry => some entry
  | _ => none

/-- A file is at the place, or nothing but the way to it. -/
def TakesFile : Place → Prop
  | found _ (.file _) => True
  | vacant .. => True
  | _ => False

theorem TakesFile.exists_target? {p : Place} (h : p.TakesFile) : ∃ loc, p.target? = some loc := by
  cases p with
  | found loc entry => exact ⟨loc, rfl⟩
  | vacant dir name => exact ⟨dir ++ [name], rfl⟩
  | failed kind => exact absurd h id

theorem TakesFile.ne_failed {p : Place} (h : p.TakesFile) (kind : IoKind) : p ≠ failed kind := by
  rintro rfl
  exact h

theorem TakesFile.ne_directory {p : Place} (h : p.TakesFile) (loc : Location) :
    p ≠ found loc .directory := by
  rintro rfl
  exact h

end Place

theorem Ends.alike {t u : FileTree} {e : Ending} {a : Stage} {p : Place} (h : Ends t e a p)
    (ha : ∀ loc, LooksUp e a loc → AlikeAt t u loc) :
    ∃ q, Ends u e a q ∧ q.target? = p.target? ∧ (p.TakesFile → q.TakesFile) := by
  cases h with
  | here => exact ⟨_, .here, rfl, id⟩
  | @barred n d s rest h hup hb =>
    obtain ⟨kind, hkind⟩ := outcome_of_not_looks h hup hb
    exact ⟨_, .barred h hup hb (hkind u n d), rfl, id⟩
  | missing h hm =>
    have hloc := ha _ ⟨_, _, rfl, h, rfl⟩
    rcases hloc.missing_or_file (by simp [hm]) (by simp [hm]) with hu | ⟨bytes, hu⟩
    · exact ⟨_, .missing h hu, rfl, fun _ => trivial⟩
    · exact ⟨_, .file h hu, rfl, fun _ => trivial⟩
  | lost h hr hm =>
    have hloc := ha _ ⟨_, _, rfl, h, rfl⟩
    rcases hloc.missing_or_file (by simp [hm]) (by simp [hm]) with hu | ⟨bytes, hu⟩
    · exact ⟨_, .lost h hr hu, rfl, False.elim⟩
    · exact ⟨_, .blocked h hr hu, rfl, False.elim⟩
  | file h hf =>
    have hloc := ha _ ⟨_, _, rfl, h, rfl⟩
    rcases hloc.missing_or_file (by simp [hf]) (by simp [hf]) with hu | ⟨bytes, hu⟩
    · exact ⟨_, .missing h hu, rfl, fun _ => trivial⟩
    · exact ⟨_, .file h hu, rfl, fun _ => trivial⟩
  | blocked h hr hf =>
    have hloc := ha _ ⟨_, _, rfl, h, rfl⟩
    rcases hloc.missing_or_file (by simp [hf]) (by simp [hf]) with hu | ⟨bytes, hu⟩
    · exact ⟨_, .lost h hr hu, rfl, False.elim⟩
    · exact ⟨_, .blocked h hr hu, rfl, False.elim⟩
  | kept h hl hk =>
    exact ⟨_, .kept h (((ha _ ⟨_, _, rfl, h, rfl⟩).link _).mp hl) hk, rfl, id⟩
  | exhausted h hl hk =>
    exact ⟨_, .exhausted h (((ha _ ⟨_, _, rfl, h, rfl⟩).link _).mp hl) hk, rfl, id⟩

/-- A tree that is alike wherever a path comes by takes it to the same location. -/
theorem outcome_alike {t u : FileTree} {e : Ending} {a : Stage}
    (ha : ∀ loc, Visits t e a loc → AlikeAt t u loc) :
    (u.outcome e a).target? = (t.outcome e a).target? ∧
      ((t.outcome e a).TakesFile → (u.outcome e a).TakesFile) := by
  obtain ⟨b, hb, hend⟩ := exists_ends t e a
  obtain ⟨q, hq, htarget⟩ := hend.alike fun loc hl => ha loc ⟨b, hb, hl⟩
  rwa [outcome_of_steps (hb.alike ha), outcome_of_ends hq]

theorem Ends.congr {t u : FileTree} {e : Ending} {a : Stage} {p : Place} (h : Ends t e a p)
    (ha : ∀ loc, LooksUp e a loc → u.get? loc = t.get? loc) : Ends u e a p := by
  cases h with
  | here => exact .here
  | @barred n d s rest h hup hb kind hkind =>
    obtain ⟨kind', hkind'⟩ := outcome_of_not_looks h hup hb
    obtain rfl : kind' = kind := Place.failed.inj ((hkind' t n d).symm.trans hkind)
    exact .barred h hup hb (hkind' u n d)
  | missing h hm => exact .missing h ((ha _ ⟨_, _, rfl, h, rfl⟩).trans hm)
  | lost h hr hm => exact .lost h hr ((ha _ ⟨_, _, rfl, h, rfl⟩).trans hm)
  | file h hf => exact .file h ((ha _ ⟨_, _, rfl, h, rfl⟩).trans hf)
  | blocked h hr hf => exact .blocked h hr ((ha _ ⟨_, _, rfl, h, rfl⟩).trans hf)
  | kept h hl hk => exact .kept h ((ha _ ⟨_, _, rfl, h, rfl⟩).trans hl) hk
  | exhausted h hl hk => exact .exhausted h ((ha _ ⟨_, _, rfl, h, rfl⟩).trans hl) hk

/-- A tree that has the same at all that a path comes by takes it to the same place. -/
theorem outcome_congr {t u : FileTree} {e : Ending} {a : Stage}
    (ha : ∀ loc, Visits t e a loc → u.get? loc = t.get? loc) : u.outcome e a = t.outcome e a := by
  obtain ⟨b, hb, hend⟩ := exists_ends t e a
  have hb' := hb.alike fun loc hv => AlikeAt.of_eq (ha loc hv).symm
  rw [outcome_of_steps hb']
  exact outcome_of_ends (hend.congr fun loc hl => ha loc ⟨b, hb, hl⟩)

/-- Either two trees are alike wherever a path comes by, or it comes in both to the place where
they part. -/
theorem alike_or_part (t u : FileTree) (e : Ending) (a : Stage) :
    (∀ loc, Visits t e a loc → AlikeAt t u loc) ∨
      ∃ b loc, Steps t e a b ∧ Steps u e a b ∧ LooksUp e b loc ∧ ¬ AlikeAt t u loc := by
  induction a using step_induction (t := t) (e := e) with
  | h a ih =>
    by_cases hpart : ∃ loc, LooksUp e a loc ∧ ¬ AlikeAt t u loc
    · obtain ⟨loc, hl, hn⟩ := hpart
      exact .inr ⟨a, loc, .refl, .refl, hl, hn⟩
    have halike : ∀ loc, LooksUp e a loc → AlikeAt t u loc := fun loc hl =>
      not_not.mp fun hn => hpart ⟨loc, hl, hn⟩
    by_cases hstep : ∃ b, Step t e a b
    · obtain ⟨b, hb⟩ := hstep
      have hb' := hb.alike halike
      rcases ih b hb with h | ⟨c, loc, hc, hc', hl, hn⟩
      · refine .inl fun loc ⟨c, hc, hl⟩ => ?_
        rcases ReflTransGen.cases_head hc with rfl | ⟨b', hb'', hc⟩
        · exact halike loc hl
        · obtain rfl := hb''.unique hb
          exact h loc ⟨c, hc, hl⟩
      · exact .inr ⟨c, loc, .head hb hc, .head hb' hc', hl, hn⟩
    · refine .inl fun loc ⟨c, hc, hl⟩ => ?_
      rcases ReflTransGen.cases_head hc with rfl | ⟨b, hb, -⟩
      · exact halike loc hl
      · exact absurd ⟨b, hb⟩ hstep

/-! ## Stages of a well-formed tree -/

/-- The directory reached is there, and what is left are names or dots. -/
structure Grounded (t : FileTree) (a : Stage) : Prop where
  directory : t.get? a.dir = some .directory
  slash_notMem : ∀ s ∈ a.rest, '/' ∉ s.toList

theorem get?_start {t : FileTree} {d : Location} (target : String)
    (hd : t.get? d = some .directory) : t.get? (start d target) = some .directory := by
  unfold start
  split
  · rfl
  · exact hd

theorem Step.grounded {t : FileTree} {e : Ending} {a b : Stage} (hw : WellFormed t)
    (h : Step t e a b) (ha : Grounded t a) : Grounded t b := by
  obtain ⟨hd, hslash⟩ := ha
  cases h with
  | idle => exact ⟨hd, fun s hs => hslash s (List.mem_cons_of_mem _ hs)⟩
  | up => exact ⟨hw.directory_dropLast hd, fun s hs => hslash s (List.mem_cons_of_mem _ hs)⟩
  | enter h hdir => exact ⟨hdir, fun s hs => hslash s (List.mem_cons_of_mem _ hs)⟩
  | link h hl hk =>
    refine ⟨get?_start _ hd, fun s hs => ?_⟩
    rcases List.mem_append.mp hs with hs | hs
    · exact slash_notMem_of_mem_steps hs
    · exact hslash s (List.mem_cons_of_mem _ hs)

theorem Steps.grounded {t : FileTree} {e : Ending} {a b : Stage} (hw : WellFormed t)
    (h : Steps t e a b) (ha : Grounded t a) : Grounded t b := by
  induction h with
  | refl => exact ha
  | tail _ hs ih => exact hs.grounded hw ih

theorem Looks.isName {e : Ending} {s : String} {rest : List String} (h : Looks e s rest)
    (hslash : '/' ∉ s.toList) : IsName s :=
  ⟨fun he => h.notIdle (.inr he), fun he => h.notIdle (.inl he), h.notUp, hslash, h.short⟩

/-- What is found at the end of a path is what the tree has at the location it names. -/
theorem entryAt?_outcome {t : FileTree} {e : Ending} {a : Stage} (hw : WellFormed t)
    (ha : Grounded t a) : (t.outcome e a).entryAt? = (t.outcome e a).target?.bind t.get? := by
  obtain ⟨b, hb, hend⟩ := exists_ends t e a
  have hg := hb.grounded hw ha
  revert hend
  generalize t.outcome e a = p
  intro hend
  cases hend with
  | here => exact hg.directory.symm
  | barred => rfl
  | missing h hm => exact hm.symm
  | lost => rfl
  | file h hf => exact hf.symm
  | blocked => rfl
  | kept h hl hk => exact hl.symm
  | exhausted => rfl

/-- A path that does not end in a directory names something right in a directory. -/
theorem exists_of_target? {t : FileTree} {e : Ending} {a : Stage} {loc : Location}
    (hw : WellFormed t) (ha : Grounded t a) (h : (t.outcome e a).target? = some loc)
    (hne : t.get? loc ≠ some .directory) :
    ∃ dir name, loc = dir ++ [name] ∧ t.get? dir = some .directory ∧ IsName name := by
  obtain ⟨b, hb, hend⟩ := exists_ends t e a
  have hg := hb.grounded hw ha
  revert hend h
  generalize t.outcome e a = p
  intro h hend
  cases hend with
  | here =>
    obtain rfl := Option.some.inj h
    exact absurd hg.directory hne
  | barred => simp [Place.target?] at h
  | missing hl =>
    exact ⟨_, _, (Option.some.inj h).symm, hg.directory, hl.isName (hg.slash_notMem _ (by simp))⟩
  | lost => simp [Place.target?] at h
  | file hl =>
    exact ⟨_, _, (Option.some.inj h).symm, hg.directory, hl.isName (hg.slash_notMem _ (by simp))⟩
  | blocked => simp [Place.target?] at h
  | kept hl =>
    exact ⟨_, _, (Option.some.inj h).symm, hg.directory, hl.isName (hg.slash_notMem _ (by simp))⟩
  | exhausted => simp [Place.target?] at h

end FileTree
end Stencil
