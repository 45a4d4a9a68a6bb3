import Stencil.Proofs.FileTree.FailedReplacement
import Stencil.Proofs.Run.Refinement
import Stencil.Proofs.Run.Surroundings

/-! Where a run that fails stops: before it has called its writer at all, at one output, or at the
lockfile. -/
namespace Stencil

namespace Lockfile

open FileTree

/-- A commit that fails leaves what is at the path of the lockfile. -/
theorem spares_of_commit {c : Cache} {u v : FileTree} {e : Problem} (hw : WellFormed u)
    (h : c.commit u = (v, .error e)) : Spares u v c.path := by
  unfold Cache.commit at h
  split at h
  · unfold save at h
    generalize hwrite : u.atomicWrite c.path c.current.render.toUTF8 = result at h
    obtain ⟨w, answer⟩ := result
    cases answer with
    | ok _ => simp at h
    | error reason =>
      obtain rfl := (Prod.mk.inj h).1
      exact spares_of_atomicWrite hw hwrite
  · simp at h

end Lockfile

namespace Run

open FileTree Lockfile

/-! ## The walk -/

/-- An item of the walk fails, when others have been rendered. -/
inductive FailsOn (s : Setting) (seen : List Product) : Except Failure String → Failure → Prop
  | walking {f} : FailsOn s seen (.error f) f
  | locating {relative f} (hlock : isLockfile relative = false)
      (hl : s.locator.locate s.tree relative = .error f) : FailsOn s seen (.ok relative) f
  | rendering {relative located source} (hlock : isLockfile relative = false)
      (hl : s.locator.locate s.tree relative = .ok (some located))
      (hnew : ∀ q ∈ seen, q.key ≠ located.lockKey)
      (he : s.engine located.text s.context = .error source) :
      FailsOn s seen (.ok relative) (.render located.rootTemplate.text source)

theorem reuse_eq_error_iff {s : Setting} {seen : List Product} {located : Located} {f : Failure} :
    reuse s seen located = .error f ↔ (∀ q ∈ seen, q.key ≠ located.lockKey) ∧
      ∃ source, s.engine located.text s.context = .error source ∧
        f = .render located.rootTemplate.text source := by
  unfold reuse renderAlone
  cases hfind : seen.find? fun q => q.key == located.lockKey with
  | some q =>
    have hkey : q.key = located.lockKey := by simpa using List.find?_some hfind
    have hno : ¬ ∀ x ∈ seen, x.key ≠ located.lockKey := fun h =>
      h q (List.mem_of_find?_eq_some hfind) hkey
    simp [hno]
  | none =>
    have hnew : ∀ q ∈ seen, q.key ≠ located.lockKey := by simpa using hfind
    refine Iff.trans ?_ (and_iff_right hnew).symm
    cases s.engine located.text s.context with
    | error source => simp [eq_comm]
    | ok text => simp

theorem product?_eq_error_iff {s : Setting} {seen : List Product} {relative : String} {f : Failure} :
    product? s (reuse s seen) relative = .error f ↔ FailsOn s seen (.ok relative) f := by
  unfold product?
  constructor
  · intro h
    split at h
    · simp at h
    next hlock =>
    have hlock : isLockfile relative = false := by simpa using hlock
    split at h
    · next hl =>
      obtain rfl := Except.error.inj h
      exact .locating hlock hl
    · simp at h
    · next located hl =>
      cases hr : reuse s seen located with
      | ok q => simp [hr, Except.map] at h
      | error g =>
        rw [hr] at h
        obtain rfl : g = f := Except.error.inj h
        obtain ⟨hnew, source, he, rfl⟩ := reuse_eq_error_iff.mp hr
        exact .rendering hlock hl hnew he
  · intro h
    cases h with
    | locating hlock hl => simp [hlock, hl]
    | rendering hlock hl hnew he =>
      simp [hlock, hl, reuse_eq_error_iff.mpr ⟨hnew, _, he, rfl⟩, Except.map]

/-- The walk fails at some item, when all before it have been gone through. -/
def FailsWithin (s : Setting) (seen : List Product) (items : List (Except Failure String))
    (f : Failure) : Prop :=
  ∃ before item after found, items = before.map .ok ++ item :: after ∧
    recalled s seen before = .ok found ∧ FailsOn s (seen ++ found) item f

theorem FailsWithin.head {s : Setting} {seen : List Product} {item : Except Failure String}
    {rest : List (Except Failure String)} {f : Failure} (h : FailsOn s seen item f) :
    FailsWithin s seen (item :: rest) f :=
  ⟨[], item, rest, [], rfl, rfl, by simpa using h⟩

theorem FailsWithin.cons {s : Setting} {seen : List Product} {relative : String}
    {q : Option Product} {rest : List (Except Failure String)} {f : Failure}
    (hq : product? s (reuse s seen) relative = .ok q)
    (h : FailsWithin s (seen ++ q.toList) rest f) : FailsWithin s seen (.ok relative :: rest) f := by
  obtain ⟨before, item, after, found, rfl, hfound, hf⟩ := h
  refine ⟨relative :: before, item, after, q.toList ++ found, rfl,
    recalled_cons_eq_ok_iff.mpr ⟨q, found, hq, hfound, rfl⟩, ?_⟩
  rwa [← List.append_assoc]

/-- Either everything that the walk gives is gone through, or some item fails. -/
theorem walks_or_failsWithin (s : Setting) (seen : List Product)
    (items : List (Except Failure String)) :
    (∃ files qs, items = files.map .ok ∧ recalled s seen files = .ok qs) ∨
      ∃ f, FailsWithin s seen items f := by
  induction items generalizing seen with
  | nil => exact .inl ⟨[], [], rfl, rfl⟩
  | cons item rest ih =>
    cases item with
    | error f => exact .inr ⟨f, .head .walking⟩
    | ok relative =>
      cases hq : product? s (reuse s seen) relative with
      | error f => exact .inr ⟨f, .head (product?_eq_error_iff.mp hq)⟩
      | ok q =>
        rcases ih (seen ++ q.toList) with ⟨files, qs, rfl, hqs⟩ | ⟨f, hf⟩
        · exact .inl ⟨relative :: files, q.toList ++ qs, rfl,
            recalled_cons_eq_ok_iff.mpr ⟨q, qs, hq, hqs, rfl⟩⟩
        · exact .inr ⟨f, .cons hq hf⟩

/-- A run goes on through everything before the item that fails, and fails as the item does. -/
theorem collectFrom_of_failsWithin {s : Setting} {items : List (Except Failure String)}
    {f : Failure} {p : Progress} {seen : List Product} (index : Nat) (h : Remembers p seen)
    (hf : FailsWithin s seen items f) : (collectFrom s index p items).2 = .error f := by
  obtain ⟨before, item, after, found, rfl, hfound, hitem⟩ := hf
  induction before generalizing index p seen found with
  | nil =>
    obtain rfl := Except.ok.inj hfound
    rw [List.append_nil] at hitem
    cases item with
    | error g =>
      cases hitem
      rfl
    | ok relative =>
      have hstep := step_eq (s := s) h relative
      rw [product?_eq_error_iff.mpr hitem] at hstep
      rw [List.map_nil, List.nil_append]
      unfold collectFrom
      generalize step s p relative = result at hstep ⊢
      obtain ⟨lines, answer⟩ := result
      obtain rfl : answer = .error f := hstep
      rfl
  | cons relative before ih =>
    obtain ⟨q, more, hq, hmore, rfl⟩ := recalled_cons_eq_ok_iff.mp hfound
    have hstep := step_eq (s := s) h relative
    rw [hq] at hstep
    rw [← List.append_assoc] at hitem
    have hrest := ih (index + 1) (h.next hq) more hmore hitem
    rw [List.map_cons, List.cons_append]
    unfold collectFrom
    generalize step s p relative = result at hstep ⊢
    obtain ⟨lines, answer⟩ := result
    obtain rfl : answer = .ok (q.toList.foldl (advance s.tree) p) := hstep
    exact hrest

section

variable {World : Type} (around : Surroundings World)

/-! ## The outputs -/

/-- The world after outputs have been accepted, each in turn. -/
def handOver : List (Path × String) → World → Option World
  | [], x => some x
  | (p, text) :: rest, x =>
    match around.write p text x with
    | (y, .ok ()) => handOver rest y
    | (_, .error _) => none

/-- The outputs before one are accepted, and this one is refused. -/
structure RefusedAt (outputs : List (Path × String)) (x : World) (n : Nat)
    (output : Path × String) (y : World) (f : Failure) : Prop where
  nth : outputs[n]? = some output
  refused : ∃ z e, handOver around (outputs.take n) x = some z ∧
    around.write output.1 output.2 z = (y, .error e) ∧ f = .fileSystem "write" output.1.text e

/-- Either all outputs are accepted, or one is refused after those before it; and a list of calls
tells so. -/
theorem emitIn_cases (outputs : List (Path × String)) (x : World) (calls : List Call) :
    (∃ lines y, handOver around outputs x = some y ∧ emitIn around.watched outputs (x, calls) =
      (lines, (y, calls ++ outputs.map .accepted), .ok ())) ∨
    ∃ n output y f lines, RefusedAt around outputs x n output y f ∧
      emitIn around.watched outputs (x, calls) =
        (lines, (y, calls ++ ((outputs.take n).map .accepted ++ [.refused output])), .error f) := by
  induction outputs generalizing x calls with
  | nil => exact .inl ⟨[], x, rfl, by simp [emitIn]⟩
  | cons first rest ih =>
    obtain ⟨p, text⟩ := first
    unfold emitIn
    rw [watched_write]
    cases hwrite : around.write p text x with
    | mk y answer =>
      cases answer with
      | error e =>
        exact .inr ⟨0, (p, text), y, .fileSystem "write" p.text e,
          ["Writing compiled template to " ++ p.text ++ "."], ⟨rfl, x, e, rfl, hwrite, rfl⟩, by simp⟩
      | ok _ =>
        dsimp only
        rcases ih y (calls ++ [.accepted (p, text)]) with
          ⟨lines, z, hall, hwatched⟩ | ⟨n, output, z, f, lines, hrefused, hwatched⟩
        · rw [hwatched]
          exact .inl ⟨("Writing compiled template to " ++ p.text ++ ".") :: lines, z,
            by simp [handOver, hwrite, hall], by simp⟩
        · obtain ⟨hnth, w, e, hall, hlast, hf⟩ := hrefused
          rw [hwatched]
          exact .inr ⟨n + 1, output, z, f, ("Writing compiled template to " ++ p.text ++ ".") :: lines,
            ⟨hnth, w, e, by simp [handOver, hwrite, hall], hlast, hf⟩, by simp⟩

/-! ## The run -/

variable (walk : Setting → List (Except Failure String)) (t : FileTree) (root : Path)
  (context : KeyMap Json) (engine : Engine) (o : Options)

/-- A run cannot be prepared, or some item of its walk fails. -/
inductive FailsEarly : Failure → Prop
  | preparing {f} (hp : prepare t root context engine o = .error f) : FailsEarly f
  | walking {s f} (hp : prepare t root context engine o = .ok s)
      (hf : FailsWithin s [] (walk s) f) : FailsEarly f

/-- Everything that the walk gives has been located and rendered. -/
structure RendersAll (s : Setting) (files : List String) (qs : List Product) : Prop where
  prepared : prepare t root context engine o = .ok s
  walked : walk s = files.map .ok
  recalled : recalled s [] files = .ok qs

/-- The lockfile that a run tries to save. -/
def finalCache (qs : List Product) : Cache :=
  ⟨Cache.pathIn root, loaded? t root o.force, finalLockfile t root o qs, .empty⟩

/-- The lockfile is saved in a tree that is a part of the world. -/
def SavesIn (tree : World → FileTree) : Prop :=
  ∀ cache x, (tree (around.commit cache x).1, (around.commit cache x).2) = cache.commit (tree x)

/-- Where a run that fails has stopped. -/
inductive Stop where
  /-- Before it called for anything -/
  | rendering
  /-- At an output, with as many accepted before it -/
  | writing (n : Nat)
  | saving
  deriving DecidableEq

/-- What a watched run has called for, and what it has left, if it failed at a stop. -/
def StopsAt (x : World) (f : Failure) : Stop → Prop
  | .rendering => FailsEarly around.walk t root context engine o f ∧
      (runIn around.watched t root context engine o (x, [])).world = (x, [])
  | .writing n => ∃ s files qs output y,
      RendersAll around.walk t root context engine o s files qs ∧
      RefusedAt around (writes t root o qs) x n output y f ∧
      (runIn around.watched t root context engine o (x, [])).world =
        (y, ((writes t root o qs).take n).map .accepted ++ [.refused output])
  | .saving => ∃ s files qs y z e, RendersAll around.walk t root context engine o s files qs ∧
      handOver around (writes t root o qs) x = some y ∧
      around.commit (finalCache t root o qs) y = (z, .error e) ∧
      f = commitFailure (finalCache t root o qs) e ∧
      (runIn around.watched t root context engine o (x, [])).world =
        (z, (writes t root o qs).map .accepted ++ [.commit]) ∧
      ∀ tree, SavesIn around tree → WellFormed (tree y) →
        Spares (tree y) (tree z) (Cache.pathIn root)

/-- The stop at which the last of some calls was made. -/
def Stop.ofCalls (calls : List Call) : Stop :=
  match calls.getLast? with
  | some (.refused _) => .writing (calls.length - 1)
  | some .commit => .saving
  | _ => .rendering

variable {around walk t root context engine o}

/-- The calls of a run that has stopped tell where. -/
theorem StopsAt.ofCalls {x : World} {f : Failure} {stop : Stop}
    (h : StopsAt around t root context engine o x f stop) :
    Stop.ofCalls (runIn around.watched t root context engine o (x, [])).world.2 = stop := by
  cases stop with
  | rendering =>
    obtain ⟨-, hworld⟩ := h
    rw [hworld]
    rfl
  | writing n =>
    obtain ⟨_, _, qs, output, _, -, hrefused, hworld⟩ := h
    obtain ⟨hlt, -⟩ := List.getElem?_eq_some_iff.mp hrefused.nth
    have hlength : min n (writes t root o qs).length = n := by omega
    simp [hworld, Stop.ofCalls, hlength]
  | saving =>
    obtain ⟨_, _, _, _, _, _, -, -, -, -, hworld, -⟩ := h
    simp [hworld, Stop.ofCalls]

theorem collectFrom_of_rendersAll {s : Setting} {files : List String} {qs : List Product}
    (h : RendersAll walk t root context engine o s files qs) :
    (collectFrom s 0 { cache := (Cache.open t root o.force).1 } (walk s)).2 =
      .ok (gathered t root o qs) := by
  rw [h.walked, collectFrom_map_ok]
  exact (collect_ok_iff h.prepared _).mpr ⟨qs, h.recalled, rfl⟩

/-- A run is prepared and renders all that its walk gives, or it fails early. -/
theorem rendersAll_or_failsEarly (walk : Setting → List (Except Failure String)) (t : FileTree)
    (root : Path) (context : KeyMap Json) (engine : Engine) (o : Options) :
    (∃ s files qs, RendersAll walk t root context engine o s files qs) ∨
      ∃ f, FailsEarly walk t root context engine o f := by
  cases hp : prepare t root context engine o with
  | error f => exact .inr ⟨f, .preparing hp⟩
  | ok s =>
    rcases walks_or_failsWithin s [] (walk s) with ⟨files, qs, hwalk, hqs⟩ | ⟨f, hf⟩
    · exact .inl ⟨s, files, qs, hp, hwalk, hqs⟩
    · exact .inr ⟨f, .walking hp hf⟩

/-- A run that fails early has called for nothing. -/
theorem runIn_of_failsEarly {f : Failure} (h : FailsEarly around.walk t root context engine o f)
    (x : World) : ∃ lines, runIn around t root context engine o x = ⟨lines, x, .error f⟩ := by
  unfold runIn
  cases h with
  | preparing hp =>
    rw [hp]
    exact ⟨[], rfl⟩
  | @walking s _ hp hf =>
    have hcollect := collectFrom_of_failsWithin 0
      (remembers_start (Cache.open t root o.force).1) hf
    rw [hp]
    dsimp only
    generalize collectFrom s 0 { cache := (Cache.open t root o.force).1 } (around.walk s) = result
      at hcollect ⊢
    obtain ⟨lines, answer⟩ := result
    obtain rfl : answer = .error f := hcollect
    exact ⟨_, rfl⟩

/-- A run that has rendered everything finishes with what it has gathered. -/
theorem runIn_of_rendersAll {s : Setting} {files : List String} {qs : List Product}
    (h : RendersAll around.walk t root context engine o s files qs) (x : World) :
    ∃ lines, runIn around t root context engine o x =
      { finishIn around t root (gathered t root o qs) x with
        lines := lines ++ (finishIn around t root (gathered t root o qs) x).lines } := by
  have hcollect := collectFrom_of_rendersAll h
  unfold runIn
  rw [h.prepared]
  dsimp only
  generalize collectFrom s 0 { cache := (Cache.open t root o.force).1 } (around.walk s) = result
    at hcollect ⊢
  obtain ⟨lines, answer⟩ := result
  obtain rfl : answer = .ok (gathered t root o qs) := hcollect
  exact ⟨_, rfl⟩

/-- After rendering everything a run that fails has stopped at an output, or at the lockfile. -/
theorem exists_stop_of_rendersAll {s : Setting} {files : List String} {qs : List Product}
    (h : RendersAll around.walk t root context engine o s files qs) {x : World} {f : Failure}
    (hf : (runIn around.watched t root context engine o (x, [])).result = .error f) :
    ∃ stop, StopsAt around t root context engine o x f stop := by
  have hw : RendersAll around.watched.walk t root context engine o s files qs := h
  obtain ⟨lines, hrun⟩ := runIn_of_rendersAll hw (x, [])
  have hcache : (gathered t root o qs).cache.applyStaged (Cache.present t root) =
      finalCache t root o qs := cache_gathered
  have hfinish := congrArg Left.result hrun
  rw [hf] at hfinish
  have hworld := congrArg Left.world hrun
  unfold finishIn at hfinish hworld
  rw [hcache, pending_gathered] at hfinish hworld
  dsimp only at hfinish hworld
  rcases emitIn_cases around (writes t root o qs) x [] with
    ⟨lines', y, hall, hemit⟩ | ⟨n, output, y, g, lines', hrefused, hemit⟩
  · rw [hemit] at hfinish hworld
    simp only [watched_commit] at hfinish hworld
    cases hcommit : around.commit (finalCache t root o qs) y with
    | mk z answer =>
      rw [hcommit] at hfinish hworld
      cases answer with
      | ok modified => simp at hfinish
      | error e =>
        obtain rfl : f = commitFailure (finalCache t root o qs) e := Except.error.inj hfinish
        refine ⟨.saving, s, files, qs, y, z, e, h, hall, hcommit, rfl, hworld, ?_⟩
        intro tree htree hwf
        have hsave := htree (finalCache t root o qs) y
        rw [hcommit] at hsave
        exact spares_of_commit hwf hsave.symm
  · rw [hemit] at hfinish hworld
    obtain rfl : f = g := Except.error.inj hfinish
    exact ⟨.writing n, s, files, qs, output, y, h, hrefused, hworld⟩

/-- A run that fails early fails so, and has called for nothing. -/
theorem stopsAt_of_failsEarly {f : Failure} (x : World)
    (h : FailsEarly around.walk t root context engine o f) :
    (runIn around t root context engine o x).result = .error f ∧
      StopsAt around t root context engine o x f .rendering := by
  have hw : FailsEarly around.watched.walk t root context engine o f := h
  obtain ⟨lines, hrun⟩ := runIn_of_failsEarly hw (x, [])
  rw [runIn_watched around t root context engine o x [], hrun]
  exact ⟨rfl, h, by rw [hrun]⟩

/-- A run that fails has stopped where its calls tell. -/
theorem stopsAt_ofCalls {x : World} {f : Failure}
    (hf : (runIn around t root context engine o x).result = .error f) :
    StopsAt around t root context engine o x f
      (Stop.ofCalls (runIn around.watched t root context engine o (x, [])).world.2) := by
  obtain ⟨stop, hstop⟩ : ∃ stop, StopsAt around t root context engine o x f stop := by
    rcases rendersAll_or_failsEarly around.walk t root context engine o with
      ⟨s, files, qs, h⟩ | ⟨g, hg⟩
    · rw [runIn_watched around t root context engine o x []] at hf
      exact exists_stop_of_rendersAll h hf
    · obtain ⟨hresult, hstop⟩ := stopsAt_of_failsEarly x hg
      obtain rfl : f = g := Except.error.inj (hf.symm.trans hresult)
      exact ⟨.rendering, hstop⟩
  rwa [hstop.ofCalls]

end

/-- A disk with room for so many outputs. -/
def roomFor : Writer Nat := fun p text t room =>
  match room with
  | 0 => .error (.of .other)
  | room + 1 => (t.writeText p text).map (·, room)

/-- Two templates in a root. -/
def twoTemplates : FileTree :=
  ⟨["w"], [(["w"], .directory), (["w", "a.etch.txt"], .file "one".toUTF8),
    (["w", "b.etch.txt"], .file "two".toUTF8)]⟩

set_option maxRecDepth 100000

end Run
end Stencil
