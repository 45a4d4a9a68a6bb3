import Stencil.Proofs.FileTree.Replacement

/-! Reading back what was written by way of a temporary sibling. The file is found again unless the
way to the sibling, links and all, leads by the place of the file itself. -/
namespace Stencil
namespace FileTree

open Stencil.Path Relation

/-- Steps from a longer path go along with those of the shorter one up to its end. -/
theorem Steps.split {t : FileTree} {e e' : Ending} {q : List String} {a b c : Stage}
    (hx : Extends e e' q) (hc : Steps t e a c) (hb : Steps t e' ⟨a.links, a.dir, a.rest ++ q⟩ b) :
    (∃ d, Steps t e a d ∧ b = ⟨d.links, d.dir, d.rest ++ q⟩) ∨
      Steps t e' ⟨c.links, c.dir, c.rest ++ q⟩ b := by
  induction hc using ReflTransGen.head_induction_on with
  | refl => exact .inr hb
  | @head a a' hs _ ih =>
    rcases ReflTransGen.cases_head hb with rfl | ⟨x, hx', hb⟩
    · exact .inl ⟨a, .refl, rfl⟩
    · obtain rfl : x = ⟨a'.links, a'.dir, a'.rest ++ q⟩ := by
        rcases hs.extend hx a.links with ⟨i, hi, hstep⟩ | ⟨hlt, -⟩
        · obtain rfl : i = a'.links := by omega
          exact hx'.unique hstep
        · exact absurd hlt (Nat.lt_irrefl _)
      rcases ih hb with ⟨d, hd, rfl⟩ | h
      · exact .inl ⟨d, .head hs hd, rfl⟩
      · exact .inr h

/-- What a path passes by, a longer one passes by as well. -/
theorem Visits.append {t : FileTree} {e e' : Ending} {q : List String} {a : Stage} {loc : Location}
    (hx : Extends e e' q) (h : Visits t e a loc) :
    Visits t e' ⟨a.links, a.dir, a.rest ++ q⟩ loc := by
  obtain ⟨b, hb, s, rest, hrest, hl, hloc⟩ := h
  exact ⟨_, hb.append hx, s, rest ++ q, by simp [hrest], hx.looks _ _ hl, hloc⟩

/-- Where a directory is found, no step passed by a file or a vacant place. -/
theorem get?_of_passing {t : FileTree} {a : Stage} {loc top : Location}
    (hv : Visits t .followed a loc) (hout : t.outcome .followed a = .found top .directory) :
    t.get? loc = some .directory ∨ ∃ m dir target q, loc.dropLast = dir ∧
      t.get? loc = some (.link target) ∧
      t.outcome .followed ⟨m, start dir target, steps target ++ q⟩ = .found top .directory := by
  obtain ⟨⟨m, dir, _⟩, hb, s, rest, rfl, hl, rfl⟩ := hv
  rw [outcome_of_steps hb, outcome_of_looks t hl] at hout
  cases hg : t.get? (dir ++ [s]) with
  | none =>
    rw [hg] at hout
    dsimp only at hout
    split at hout <;> simp at hout
  | some entry =>
    cases entry with
    | directory => exact .inl rfl
    | file bytes =>
      rw [hg] at hout
      dsimp only at hout
      split at hout <;> simp at hout
    | link target =>
      refine .inr ⟨m - 1, dir, target, rest, by simp, rfl, ?_⟩
      rw [hg] at hout
      cases m with
      | zero => simp at hout
      | succ m => simpa using hout

/-- The step that a name makes where no directory is follows a link. -/
theorem exists_link_of_step {t : FileTree} {e : Ending} {n : Nat} {d : Location} {s : String}
    {rest : List String} {b : Stage} (hs : IsName s) (hd : t.get? (d ++ [s]) ≠ some .directory)
    (h : Step t e ⟨n, d, s :: rest⟩ b) :
    ∃ m text, n = m + 1 ∧ t.get? (d ++ [s]) = some (.link text) ∧
      b = ⟨m, start d text, steps text ++ rest⟩ := by
  cases h with
  | idle h =>
    rcases h with h | h
    · exact absurd h hs.ne_dot
    · exact absurd h hs.ne_empty
  | up => exact absurd rfl hs.ne_dots
  | enter _ hdirectory => exact absurd hdirectory hd
  | link _ hl => exact ⟨_, _, rfl, hl, rfl⟩

namespace Moved

variable {u v : FileTree} {top : Location} {name : String}

theorem get?_of_ne (hm : Moved u v top name) {loc : Location} (hp : loc ≠ top ++ [name])
    (hs : loc ≠ top ++ [temporaryName name]) : v.get? loc = u.get? loc := by
  rw [hm.get?_eq, if_neg hp, if_neg hs]

theorem get?_place (hm : Moved u v top name) :
    v.get? (top ++ [name]) = u.get? (top ++ [temporaryName name]) := by
  rw [hm.get?_eq, if_pos rfl]

theorem get?_sibling (hm : Moved u v top name) : v.get? (top ++ [temporaryName name]) = none := by
  have hne : top ++ [temporaryName name] ≠ top ++ [name] := by simpa using temporaryName_ne name
  rw [hm.get?_eq, if_neg hne, if_pos rfl]

/-- The trees part where the file is or where its sibling was. -/
theorem alike_or_part (hm : Moved u v top name) (a : Stage) :
    (∀ loc, Visits u .followed a loc → AlikeAt u v loc) ∨
      ∃ b, Steps u .followed a b ∧ Steps v .followed a b ∧
        (LooksUp .followed b (top ++ [name]) ∨
          LooksUp .followed b (top ++ [temporaryName name])) := by
  rcases FileTree.alike_or_part u v .followed a with h | ⟨b, loc, hu, hv, hl, hn⟩
  · exact .inl h
  · refine .inr ⟨b, hu, hv, ?_⟩
    by_cases hp : loc = top ++ [name]
    · exact .inl (hp ▸ hl)
    · refine .inr ?_
      by_cases hs : loc = top ++ [temporaryName name]
      · exact hs ▸ hl
      · exact absurd (.of_eq (hm.get?_of_ne hp hs).symm) hn

/-- Paths that lead by neither place lead where they did. -/
theorem resolve_eq (hm : Moved u v top name) {p : Path} (hp : ¬ u.LeadsBy p (top ++ [name]))
    (hs : ¬ u.LeadsBy p (top ++ [temporaryName name])) : v.resolve p = u.resolve p := by
  refine resolve_congr hm.workDir fun loc hleads => hm.get?_of_ne ?_ ?_
  · rintro rfl
    exact hp hleads
  · rintro rfl
    exact hs hleads

end Moved

/-- A link at the sibling's place that leads to where a file can be. -/
structure Forwards (u : FileTree) (top : Location) (name target : String) (m : Nat) : Prop where
  link : u.get? (top ++ [temporaryName name]) = some (.link target)
  takesFile : (u.outcome .followed ⟨m, start top target, steps target⟩).TakesFile

namespace Forwards

variable {u v : FileTree} {top : Location} {name target : String} {m : Nat}

theorem not_visits_sibling (h : Forwards u top name target m) :
    ¬ Visits u .followed ⟨m, start top target, steps target⟩ (top ++ [temporaryName name]) := by
  intro hv
  obtain ⟨kind, hkind⟩ := exists_failed_of_return h.link hv m []
  rw [List.append_nil] at hkind
  exact h.takesFile.ne_failed kind hkind

theorem ne_directory (h : Forwards u top name target m) (j : Nat) (q : List String)
    (loc : Location) :
    u.outcome .followed ⟨j, start top target, steps target ++ q⟩ ≠ .found loc .directory := by
  rcases outcome_beyond h.takesFile j q with ⟨-, heq⟩ | ⟨kind, hkind⟩
  · exact heq ▸ h.takesFile.ne_directory loc
  · simp [hkind]

/-- After the move the link leads back to itself, or on as before. -/
theorem returns_or_alike (h : Forwards u top name target m) (hm : Moved u v top name) :
    Visits v .followed ⟨m, start top target, steps target⟩ (top ++ [name]) ∨
      ∀ loc, Visits u .followed ⟨m, start top target, steps target⟩ loc → AlikeAt u v loc := by
  rcases hm.alike_or_part ⟨m, start top target, steps target⟩ with ha | ⟨b, hu, hv, hl | hl⟩
  · exact .inr ha
  · exact .inl ⟨b, hv, hl⟩
  · exact absurd ⟨b, hu, hl⟩ h.not_visits_sibling

/-- Nothing is found below the moved link. -/
theorem exists_failed (h : Forwards u top name target m) (hm : Moved u v top name) (j : Nat)
    {q : List String} (hq : q ≠ []) :
    ∃ kind, v.outcome .followed ⟨j, start top target, steps target ++ q⟩ = .failed kind := by
  rcases h.returns_or_alike hm with hv | ha
  · exact exists_failed_of_return (hm.get?_place.trans h.link) hv j q
  · rcases outcome_beyond ((outcome_alike ha).2 h.takesFile) j q with ⟨hnil, -⟩ | hfail
    · exact absurd hnil hq
    · exact hfail

end Forwards

section

variable {u v : FileTree} {root : Path} {top target : Location} {name : String} {bytes : ByteArray}
  {into dots : List String} {k : Nat}
  (w : Ways root name into dots) (hname : IsReplaceable name)
  (hsteps : Steps u .followed ⟨maxLinks, start u.workDir root.text, into⟩ ⟨k, top, []⟩)
  (hout : u.outcome .followed (u.outset (temporaryFor (root.join name))) =
    .found target (.file bytes))
  (hm : Moved u v top name)

theorem IsReplaceable.looks {s : String} (h : IsName s) : Looks .followed s [] :=
  ⟨by simp [h.ne_dot, h.ne_empty], h.ne_dots, by simp, h.short⟩

include w hname hsteps hout in
/-- A link at the sibling's place is where the bytes went through. -/
theorem exists_forwarded {text : String}
    (hl : u.get? (top ++ [temporaryName name]) = some (.link text)) :
    ∃ m, k = m + 1 ∧
      u.outcome .followed ⟨m, start top text, steps text⟩ = .found target (.file bytes) := by
  have hlooks := IsReplaceable.looks hname.sibling
  rw [outcome_of_steps (w.steps_sibling hname hsteps .followed), outcome_of_looks u hlooks,
    hl] at hout
  cases k with
  | zero => simp at hout
  | succ m => exact ⟨m, rfl, by simpa using hout⟩

include w hname hsteps hout in
theorem exists_forwards {text : String}
    (hl : u.get? (top ++ [temporaryName name]) = some (.link text)) :
    ∃ m, k = m + 1 ∧ Forwards u top name text m := by
  obtain ⟨m, hk, hfile⟩ := exists_forwarded w hname hsteps hout hl
  exact ⟨m, hk, hl, by rw [hfile]; trivial⟩

include w hname hsteps hout hm in
/-- The way to the root does not lead by the sibling. -/
theorem not_visits_sibling : ¬ Visits u .followed ⟨maxLinks, start u.workDir root.text, into⟩
    (top ++ [temporaryName name]) := by
  intro hv
  have htop := (outcome_of_steps hsteps).trans (outcome_of_ends .here)
  rcases get?_of_passing hv htop with hd | ⟨m, dir, text, q, hdir, hl, hdirectory⟩
  · exact hm.notDirectory hd
  · obtain rfl : top = dir := by simpa using hdir
    obtain ⟨_, -, hf⟩ := exists_forwards w hname hsteps hout hl
    exact hf.ne_directory m q top hdirectory

include w hname hsteps hout hm in
theorem entryAt?_of_not_leadsBy (ha : Admissible (root.join name))
    (hn : ¬ u.LeadsBy (temporaryFor (root.join name)) (top ++ [name])) :
    v.entryAt? (root.join name) = some (.file bytes) := by
  have hsibling := w.steps_sibling hname hsteps .followed
  have hroot : Steps v .followed ⟨maxLinks, start u.workDir root.text, into⟩ ⟨k, top, []⟩ := by
    refine hsteps.alike fun loc hv => .of_eq (hm.get?_of_ne ?_ ?_).symm
    · rintro rfl
      refine hn ?_
      rw [LeadsBy, w.sibling]
      exact hv.append (Extends.followed [temporaryName name])
    · rintro rfl
      exact not_visits_sibling w hname hsteps hout hm hv
  rw [hm.workDir] at hroot
  have hfile := w.steps_file hname hroot .followed
  rw [entryAt?_eq_outcome ha, outcome_of_steps hfile,
    outcome_of_looks v (IsReplaceable.looks hname.isName), hm.get?_place]
  cases hg : u.get? (top ++ [temporaryName name]) with
  | none =>
    have hsome := hm.isSome
    simp [hg] at hsome
  | some entry =>
    cases entry with
    | directory => exact absurd hg hm.notDirectory
    | file old =>
      rw [outcome_of_steps hsibling, outcome_of_looks u (IsReplaceable.looks hname.sibling),
        hg] at hout
      simpa [Place.entryAt?] using (Place.found.inj hout).2
    | link text =>
      obtain ⟨m, rfl, hforward⟩ := exists_forwarded w hname hsteps hout hg
      have hf : Forwards u top name text m := ⟨hg, by rw [hforward]; trivial⟩
      have hlink := Step.link (n := m) (IsReplaceable.looks hname.sibling) hg (by simp)
      rw [List.append_nil] at hlink
      have hmoved : v.outcome .followed ⟨m, start top text, steps text⟩ =
          u.outcome .followed ⟨m, start top text, steps text⟩ := by
        refine outcome_congr fun loc hv => hm.get?_of_ne ?_ ?_
        · rintro rfl
          obtain ⟨b, hb, hl⟩ := hv
          exact hn ⟨b, (hsibling.tail hlink).trans hb, hl⟩
        · rintro rfl
          exact hf.not_visits_sibling hv
      simpa [Place.entryAt?] using congrArg Place.entryAt? (hmoved.trans hforward)

include w hname hsteps hout hm in
/-- After the move nothing is found through a place where the trees part. -/
theorem exists_failed_of_part {b : Stage} {q : List String} (hq : q ≠ [])
    (hl : LooksUp .followed b (top ++ [name]) ∨ LooksUp .followed b (top ++ [temporaryName name])) :
    ∃ kind, v.outcome .followed ⟨b.links, b.dir, b.rest ++ q⟩ = .failed kind := by
  obtain ⟨m, dir, _⟩ := b
  rcases hl with ⟨s, rest, rfl, hl, hloc⟩ | ⟨s, rest, rfl, hl, hloc⟩
  · obtain ⟨rfl, hs⟩ := List.append_inj' hloc rfl
    obtain rfl : s = name := by simpa using hs
    have hl' := (Extends.followed q).looks _ _ hl
    cases hg : u.get? (dir ++ [temporaryName s]) with
    | none =>
      have hsome := hm.isSome
      simp [hg] at hsome
    | some entry =>
      have hplace := hm.get?_place.trans hg
      cases entry with
      | directory => exact absurd hg hm.notDirectory
      | file old => exact ⟨_, outcome_of_ends (.blocked hl' (by simp [hq]) hplace)⟩
      | link text =>
        cases m with
        | zero => exact ⟨_, outcome_of_ends (.exhausted hl' hplace (by simp))⟩
        | succ m =>
          obtain ⟨_, -, hf⟩ := exists_forwards w hname hsteps hout hg
          obtain ⟨kind, hkind⟩ := hf.exists_failed hm m (q := rest ++ q) (by simp [hq])
          exact ⟨kind, (outcome_of_step (.link hl' hplace (by simp))).trans hkind⟩
  · obtain ⟨rfl, hs⟩ := List.append_inj' hloc rfl
    obtain rfl : s = temporaryName name := by simpa using hs
    have hl' := (Extends.followed q).looks _ _ hl
    exact ⟨_, outcome_of_ends (.lost hl' (by simp [hq]) hm.get?_sibling)⟩

include w hname hsteps hout hm in
/-- The way to the root does not lead by the place, if the trees are alike on it. -/
theorem not_visits_place
    (halike : ∀ loc, Visits u .followed ⟨maxLinks, start u.workDir root.text, into⟩ loc →
      AlikeAt u v loc) :
    ¬ Visits u .followed ⟨maxLinks, start u.workDir root.text, into⟩ (top ++ [name]) := by
  intro hv
  have htop := (outcome_of_steps hsteps).trans (outcome_of_ends .here)
  rcases get?_of_passing hv htop with hd | ⟨m, dir, text, q, hdir, hl, hdirectory⟩
  · exact hm.free hd
  · obtain rfl : top = dir := by simpa using hdir
    have hmoved := ((halike _ hv).link text).mp hl
    obtain ⟨_, -, hf⟩ := exists_forwards w hname hsteps hout (hm.get?_place ▸ hmoved)
    exact hf.ne_directory m q top hdirectory

include w hname hsteps hout hm in
theorem not_leadsBy_of_entryAt? (he : (v.entryAt? (root.join name)).isSome) :
    ¬ u.LeadsBy (temporaryFor (root.join name)) (top ++ [name]) := by
  intro hleads
  have ha := admissible_of_isSome he
  have hfound : ∀ kind, v.outcome .followed (v.outset (root.join name)) ≠ .failed kind := by
    intro kind hkind
    simp [entryAt?_eq_outcome ha, hkind, Place.entryAt?] at he
  rcases hm.alike_or_part ⟨maxLinks, start u.workDir root.text, into⟩ with halike | ⟨b, -, hb, hl⟩
  · have hroot := hsteps.alike halike
    rw [hm.workDir] at hroot
    have hfile := w.steps_file hname hroot .followed
    rw [LeadsBy, w.sibling] at hleads
    obtain ⟨b, hb, hl⟩ := hleads
    obtain ⟨x, rest, hrest, hlooks, hloc⟩ := hl
    obtain ⟨hdir, hx⟩ := List.append_inj' hloc rfl
    obtain rfl : x = name := by simpa using hx
    rcases Steps.split (Extends.followed [temporaryName x]) hsteps hb with ⟨d, hd, rfl⟩ | hb
    · -- On the way to the root.
      obtain ⟨m, dir, left⟩ := d
      cases left with
      | nil => exact temporaryName_ne x (by simpa using (List.cons.inj hrest).1)
      | cons y left =>
        obtain rfl : y = x := (List.cons.inj hrest).1
        have hlooks' : Looks .followed y left :=
          ⟨hlooks.notIdle, hlooks.notUp, by simp, hlooks.short⟩
        exact not_visits_place w hname hsteps hout hm halike ⟨_, hd, y, left, rfl, hlooks', hloc⟩
    · -- On the way of a link that has been moved to the place.
      rcases ReflTransGen.cases_head hb with rfl | ⟨c, hc, hb⟩
      · exact temporaryName_ne x (List.cons.inj hrest).1
      obtain ⟨m, text, rfl, hlink, rfl⟩ := exists_link_of_step hname.sibling hm.notDirectory hc
      obtain ⟨m', hm', hf⟩ := exists_forwards w hname hsteps hout hlink
      obtain rfl : m = m' := Nat.succ.inj hm'
      have hplace := hm.get?_place.trans hlink
      have hreturn : Visits v .followed ⟨m, start top text, steps text⟩ (top ++ [x]) := by
        rcases hf.returns_or_alike hm with hv | ha'
        · exact hv
        · refine Visits.alike ?_ ha'
          rw [List.append_nil] at hb
          exact ⟨b, hb, x, rest, hrest, hlooks, hloc⟩
      obtain ⟨kind, hkind⟩ := exists_failed_of_return hplace hreturn m []
      refine hfound kind ?_
      rw [outcome_of_steps hfile,
        outcome_of_step (.link (IsReplaceable.looks hname.isName) hplace (by simp))]
      exact hkind
  · -- The way to the root leads where the trees part.
    have hlonger := hb.append (Extends.followed (dots ++ [name]))
    obtain ⟨kind, hkind⟩ := exists_failed_of_part w hname hsteps hout hm (q := dots ++ [name])
      (by simp) hl
    refine hfound kind ?_
    rw [w.file, ← hm.workDir, outcome_of_steps hlonger]
    exact hkind

end

/-- No link leads to a location. -/
def Unlinked (t : FileTree) (loc : Location) : Prop :=
  ∀ there text, t.get? there = some (.link text) →
    (t.outcome .followed ⟨maxLinks, start there.dropLast text, steps text⟩).target? ≠ some loc

theorem LinkFree.unlinked {t : FileTree} (h : t.LinkFree) (loc : Location) : t.Unlinked loc :=
  fun _ _ hl => absurd hl (h _ _)

/-- Only by a link would the way to the temporary sibling lead by the place of the file. -/
theorem not_leadsBy_of_unlinked {t : FileTree} {root : Path} {top target : Location} {name : String}
    (h : Rooted t root top) (hname : IsReplaceable name)
    (htarget : t.target? (temporaryFor (root.join name)) .written = some target)
    (hfile : ∀ entry, t.get? (top ++ [name]) = some entry → ∃ bytes, entry = .file bytes)
    (hlinks : t.Unlinked (top ++ [name])) :
    ¬ t.LeadsBy (temporaryFor (root.join name)) (top ++ [name]) := by
  intro hleads
  have ha := admissible_of_target? htarget
  have hfound := target?_followed_of_written htarget
  rw [target?_eq t ha] at hfound
  -- A path that comes by the place ends there.
  have hplace : (t.outcome .followed (t.outset (temporaryFor (root.join name)))).target? =
      some (top ++ [name]) := by
    obtain ⟨⟨m, dir, _⟩, hb, s, rest, rfl, hl, hloc⟩ := hleads
    dsimp only at hl hloc
    rw [outcome_of_steps hb, outcome_of_looks t hl, hloc] at hfound ⊢
    cases hg : t.get? (top ++ [name]) with
    | none =>
      rw [hg] at hfound
      by_cases hrest : rest = []
      · simp [hrest, Place.target?, hloc]
      · simp [hrest, Place.target?] at hfound
    | some entry =>
      obtain ⟨bytes, rfl⟩ := hfile entry hg
      rw [hg] at hfound
      by_cases hrest : rest = []
      · simp [hrest, Place.target?]
      · simp [hrest, Place.target?] at hfound
  obtain ⟨into, dots, w⟩ := exists_ways h.admissible.ne_empty hname
  obtain ⟨k, hsteps⟩ := w.exists_steps h
  have hne : top ++ [temporaryName name] ≠ top ++ [name] := by simpa using temporaryName_ne name
  rw [outcome_of_steps (w.steps_sibling hname hsteps .followed),
    outcome_of_looks t (IsReplaceable.looks hname.sibling)] at hplace
  cases hg : t.get? (top ++ [temporaryName name]) with
  | none => simp [hg, Place.target?, temporaryName_ne] at hplace
  | some entry =>
    rw [hg] at hplace
    cases entry with
    | file bytes => simp [Place.target?, temporaryName_ne] at hplace
    | directory =>
      rw [outcome_of_ends .here] at hplace
      exact hne (Option.some.inj hplace)
    | link text =>
      cases k with
      | zero => simp [Place.target?] at hplace
      | succ k =>
        simp only [List.append_nil, reduceCtorEq, and_false, if_false] at hplace
        have hlinksLeft : k + 1 ≤ maxLinks := hsteps.links_le
        have hled := hlinks _ text hg
        rw [List.dropLast_concat] at hled
        exact hled (target?_of_le hplace (by omega))

end FileTree
end Stencil
