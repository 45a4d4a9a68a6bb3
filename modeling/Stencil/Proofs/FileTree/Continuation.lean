import Stencil.Proofs.FileTree.Resolution

/-! Steps put after the steps of a path, and links that lead back to themselves. -/
namespace Stencil
namespace FileTree

open Stencil.Path Relation

/-- What is done with a path can be done with it when `q` is put after it. -/
structure Extends (e e' : Ending) (q : List String) : Prop where
  looks : ∀ s rest, Looks e s rest → Looks e' s (rest ++ q)
  goesOn : ∀ rest : List String, ¬ (rest = [] ∧ e = .kept) → ¬ (rest ++ q = [] ∧ e' = .kept)

theorem Extends.followed (q : List String) : Extends .followed .followed q :=
  ⟨fun _ _ h => ⟨h.notIdle, h.notUp, by simp, h.short⟩, by simp⟩

theorem Extends.of_getLast? (e e' : Ending) {q : List String} (hq : q ≠ [])
    (hlast : q.getLast? ≠ some "") : Extends e e' q := by
  refine ⟨fun s rest h => ⟨h.notIdle, h.notUp, fun hw => hlast ?_, h.short⟩, by simp [hq]⟩
  rw [← List.getLast?_append_of_ne_nil rest hq, hw.2]
  rfl

section

variable {t : FileTree} {e e' : Ending} {q : List String} {a b : Stage}

theorem Step.extend (hx : Extends e e' q) (h : Step t e a b) (j : Nat) :
    (∃ i, i + a.links = j + b.links ∧
      Step t e' ⟨j, a.dir, a.rest ++ q⟩ ⟨i, b.dir, b.rest ++ q⟩) ∨
    (j < a.links ∧ ∃ kind, t.outcome e' ⟨j, a.dir, a.rest ++ q⟩ = .failed kind) := by
  cases h with
  | idle h => exact .inl ⟨j, rfl, .idle h⟩
  | up => exact .inl ⟨j, rfl, .up⟩
  | enter h hd => exact .inl ⟨j, rfl, .enter (hx.looks _ _ h) hd⟩
  | @link n d s rest target h hl hk =>
    have hlooks := hx.looks _ _ h
    have hon := hx.goesOn _ hk
    cases j with
    | zero =>
      refine .inr ⟨Nat.succ_pos n, .filesystemLoop, ?_⟩
      exact outcome_of_ends (.exhausted hlooks hl hon)
    | succ j =>
      have hstep := Step.link (n := j) hlooks hl hon
      rw [← List.append_assoc] at hstep
      exact .inl ⟨j, by simp only; omega, hstep⟩

/-- Steps are taken again with others after them and another number of links left, unless the
links run out. -/
theorem Steps.extend (hx : Extends e e' q) (h : Steps t e a b) (j : Nat) :
    (∃ i, i + a.links = j + b.links ∧
      Steps t e' ⟨j, a.dir, a.rest ++ q⟩ ⟨i, b.dir, b.rest ++ q⟩) ∨
    (j < a.links ∧ ∃ kind, t.outcome e' ⟨j, a.dir, a.rest ++ q⟩ = .failed kind) := by
  induction h using ReflTransGen.head_induction_on generalizing j with
  | refl => exact .inl ⟨j, rfl, .refl⟩
  | head hs _ ih =>
    rcases hs.extend hx j with ⟨i, hi, hstep⟩ | hfail
    · rcases ih i with ⟨k, hk, hsteps⟩ | ⟨hlt, kind, hkind⟩
      · exact .inl ⟨k, by omega, .head hstep hsteps⟩
      · exact .inr ⟨by omega, kind, (outcome_of_step hstep).trans hkind⟩
    · exact .inr hfail

theorem Steps.append (hx : Extends e e' q) (h : Steps t e a b) :
    Steps t e' ⟨a.links, a.dir, a.rest ++ q⟩ ⟨b.links, b.dir, b.rest ++ q⟩ := by
  rcases h.extend hx a.links with ⟨i, hi, hsteps⟩ | ⟨hlt, -⟩
  · obtain rfl : i = b.links := by omega
    exact hsteps
  · exact absurd hlt (Nat.lt_irrefl _)

theorem Steps.links_le (h : Steps t e a b) : b.links ≤ a.links := by
  induction h with
  | refl => exact Nat.le_refl _
  | tail _ hs ih =>
    refine Nat.le_trans ?_ ih
    cases hs with
    | link => exact Nat.le_succ _
    | _ => exact Nat.le_refl _

end

section

variable {t : FileTree} {n : Nat} {d : Location}

theorem steps_idle {e : Ending} {r : List String} (hr : ∀ s ∈ r, s = "." ∨ s = "")
    (q : List String) : Steps t e ⟨n, d, r ++ q⟩ ⟨n, d, q⟩ := by
  induction r with
  | nil => exact .refl
  | cons s r ih => exact .head (.idle (hr s (by simp))) (ih fun x hx => hr x (by simp [hx]))

theorem outcome_idle {e : Ending} {r : List String} (hr : ∀ s ∈ r, s = "." ∨ s = "") :
    t.outcome e ⟨n, d, r⟩ = .found d .directory := by
  have hsteps := steps_idle (t := t) (n := n) (d := d) (e := e) hr []
  rw [List.append_nil] at hsteps
  exact (outcome_of_steps hsteps).trans (outcome_of_ends .here)

/-- A path that leads to a directory also does without the idle steps at its end. -/
theorem exists_steps_of_directory {p r : List String} {top : Location}
    (hr : ∀ s ∈ r, s = "." ∨ s = "")
    (h : t.outcome .followed ⟨n, d, p ++ r⟩ = .found top .directory) :
    ∃ k, Steps t .followed ⟨n, d, p⟩ ⟨k, top, []⟩ := by
  obtain ⟨b, hb, hend⟩ := exists_ends t .followed ⟨n, d, p⟩
  have hlonger := hb.append (Extends.followed r)
  rw [outcome_of_steps hlonger] at h
  revert hend
  generalize t.outcome .followed ⟨n, d, p⟩ = place
  intro hend
  cases hend with
  | @here m dir =>
    obtain ⟨rfl, -⟩ := Place.found.inj ((outcome_idle hr).symm.trans h)
    exact ⟨m, hb⟩
  | @barred m dir s rest hidle hup hnot =>
    have hnot' : ¬ Looks .followed s (rest ++ r) := fun hl =>
      hnot ⟨hl.notIdle, hl.notUp, by simp, hl.short⟩
    obtain ⟨kind, hkind⟩ := outcome_of_not_looks hidle hup hnot'
    exact absurd ((hkind _ _ _).symm.trans h) (by simp)
  | missing hl hm =>
    have hl' := (Extends.followed r).looks _ _ hl
    simp only [List.cons_append] at h
    rw [outcome_of_looks t hl', hm] at h
    dsimp only at h
    split at h <;> simp at h
  | lost hl hne hm =>
    have hl' := (Extends.followed r).looks _ _ hl
    simp only [List.cons_append] at h
    rw [outcome_of_looks t hl', hm] at h
    simp [hne] at h
  | file hl hf =>
    have hl' := (Extends.followed r).looks _ _ hl
    simp only [List.cons_append] at h
    rw [outcome_of_looks t hl', hf] at h
    dsimp only at h
    split at h <;> simp at h
  | blocked hl hne hf =>
    have hl' := (Extends.followed r).looks _ _ hl
    simp only [List.cons_append] at h
    rw [outcome_of_looks t hl', hf] at h
    simp [hne] at h
  | kept _ _ hk => simp at hk
  | exhausted hl hlink =>
    have hl' := (Extends.followed r).looks _ _ hl
    simp only [List.cons_append] at h
    rw [outcome_of_looks t hl', hlink] at h
    simp at h

/-- A path to a file or a vacant place leads there with any number of links left, if they
suffice, and nowhere beyond. -/
theorem outcome_beyond {p : List String} (h : (t.outcome .followed ⟨n, d, p⟩).TakesFile) (j : Nat)
    (q : List String) :
    (q = [] ∧ t.outcome .followed ⟨j, d, p ++ q⟩ = t.outcome .followed ⟨n, d, p⟩) ∨
      ∃ kind, t.outcome .followed ⟨j, d, p ++ q⟩ = .failed kind := by
  obtain ⟨b, hb, hend⟩ := exists_ends t .followed ⟨n, d, p⟩
  revert hend h
  generalize t.outcome .followed ⟨n, d, p⟩ = place
  intro h hend
  rcases hb.extend (Extends.followed q) j with ⟨i, -, hsteps⟩ | ⟨-, hfail⟩
  · rw [outcome_of_steps hsteps]
    by_cases hq : q = []
    · subst hq
      refine .inl ⟨rfl, ?_⟩
      simp only [List.append_nil]
      cases hend with
      | missing hl hm => exact outcome_of_ends (.missing hl hm)
      | file hl hf => exact outcome_of_ends (.file hl hf)
      | _ => exact absurd h (by simp [Place.TakesFile])
    · refine .inr ?_
      cases hend with
      | missing hl hm =>
        exact ⟨_, outcome_of_ends (.lost ((Extends.followed q).looks _ _ hl) (by simpa) hm)⟩
      | file hl hf =>
        exact ⟨_, outcome_of_ends (.blocked ((Extends.followed q).looks _ _ hl) (by simpa) hf)⟩
      | _ => exact absurd h (by simp [Place.TakesFile])
  · exact .inr hfail

/-- With more links left a path leads where it led. -/
theorem target?_of_le {e : Ending} {p : List String} {m : Nat} {loc : Location}
    (h : (t.outcome e ⟨n, d, p⟩).target? = some loc) (hle : n ≤ m) :
    (t.outcome e ⟨m, d, p⟩).target? = some loc := by
  obtain ⟨b, hb, hend⟩ := exists_ends t e ⟨n, d, p⟩
  have hx : Extends e e [] := ⟨fun _ _ hl => by simpa using hl, fun _ hk => by simpa using hk⟩
  rcases hb.extend hx m with ⟨i, -, hsteps⟩ | ⟨hlt, -⟩
  · simp only [List.append_nil] at hsteps
    rw [outcome_of_steps hsteps]
    revert hend h
    generalize t.outcome e ⟨n, d, p⟩ = place
    intro h hend
    cases hend with
    | here => rwa [outcome_of_ends .here]
    | missing hl hm => rwa [outcome_of_ends (.missing hl hm)]
    | file hl hf => rwa [outcome_of_ends (.file hl hf)]
    | kept hl hlink hk => rwa [outcome_of_ends (.kept hl hlink hk)]
    | _ => simp [Place.target?] at h
  · exact absurd hlt (Nat.not_lt.mpr hle)

/-- A path fails that follows a link and so comes back to it. -/
theorem exists_failed_of_return {s target : String} {m : Nat}
    (hl : t.get? (d ++ [s]) = some (.link target))
    (hv : Visits t .followed ⟨m, start d target, steps target⟩ (d ++ [s])) (j : Nat)
    (q : List String) : ∃ kind, t.outcome .followed ⟨j, start d target, steps target ++ q⟩ =
      .failed kind := by
  obtain ⟨b, hb, s', rest, hrest, hlooks, hloc⟩ := hv
  obtain ⟨k, dir, _⟩ := b
  obtain rfl : _ = s' :: rest := hrest
  obtain ⟨rfl, hs⟩ := List.append_inj' hloc rfl
  obtain rfl : s' = s := by simpa using hs
  -- Every round uses up a link, so the rounds are counted by the links left.
  induction j using Nat.strongRecOn generalizing q with
  | ind j ih =>
    have hlooks' := (Extends.followed q).looks _ _ hlooks
    rcases hb.extend (Extends.followed q) j with ⟨i, hi, hsteps⟩ | ⟨-, hfail⟩
    · have hle : k ≤ m := hb.links_le
      rw [outcome_of_steps hsteps, List.cons_append]
      cases i with
      | zero => exact ⟨_, outcome_of_ends (.exhausted hlooks' hl (by simp))⟩
      | succ i =>
        rw [outcome_of_step (.link hlooks' hl (by simp))]
        exact ih i (by simp only at hi; omega) (rest ++ q)
    · exact hfail

/-- Names of directories, one below the other, are entered in turn. -/
theorem steps_names {e : Ending} (hw : WellFormed t) {names q : List String}
    (hdir : t.get? (d ++ names) = some .directory) (hn : ∀ x ∈ names, IsName x) (hq : q ≠ [""]) :
    Steps t e ⟨n, d, names ++ q⟩ ⟨n, d ++ names, q⟩ := by
  induction names using List.reverseRecOn generalizing q with
  | nil => simpa using ReflTransGen.refl
  | append_singleton init x ih =>
    have hx : IsName x := hn x (by simp)
    have hinit : t.get? (d ++ init) = some .directory :=
      hw.above (d ++ init) x (by simp [hdir])
    have hsteps := ih (q := x :: q) hinit (fun y hy => hn y (by simp [hy])) fun h =>
      hx.ne_empty (List.cons.inj h).1
    have hlooks : Looks e x q :=
      ⟨by simp [hx.ne_dot, hx.ne_empty], hx.ne_dots, fun h => hq h.2, hx.short⟩
    have hlast := Step.enter (t := t) (n := n) hlooks (d := d ++ init) (by simpa using hdir)
    simpa using hsteps.tail hlast

end

end FileTree
end Stencil
