import Stencil.Proofs.Run.Completion

/-! A run among surroundings of any kind: a walk that may fail at any file, a writer that may refuse
any output, and a place for the lockfile. What refuses may have changed something all the same.
Runs with a writer on a tree are among them, and a run goes the same way when it is watched. -/
namespace Stencil
namespace Run

open FileTree Lockfile

/-- What a run turns to outside: the files that it is to look at, and a world that takes outputs and
the lockfile. -/
structure Surroundings (World : Type) where
  walk : Setting → List (Except Failure String)
  write : Path → String → World → World × Except IoError Unit
  commit : Cache → World → World × Except Problem Bool

/-- What a run leaves behind among its surroundings. -/
structure Left (World : Type) where
  lines : Lines
  world : World
  result : Except Failure Outcome

/-- The files that the walk gives in their order, up to the first failure. -/
def collectFrom (s : Setting) (index : Nat) (p : Progress) :
    List (Except Failure String) → Lines × Except Failure Progress
  | [] => ([], .ok p)
  | .error f :: _ => ([], .error f)
  | .ok relative :: rest =>
    match step s p relative with
    | (lines, .error f) => (checked index relative ++ lines, .error f)
    | (lines, .ok p) =>
      let (more, result) := collectFrom s (index + 1) p rest
      (checked index relative ++ lines ++ more, result)

section

variable {World : Type} (around : Surroundings World)

/-- Hand over the outputs in order, up to the first that is refused. -/
def emitIn : List (Path × String) → World → Lines × World × Except Failure Unit
  | [], x => ([], x, .ok ())
  | (p, text) :: rest, x =>
    let line := "Writing compiled template to " ++ p.text ++ "."
    match around.write p text x with
    | (x, .error e) => ([line], x, .error (.fileSystem "write" p.text e))
    | (x, .ok ()) =>
      let (lines, x, answer) := emitIn rest x
      (line :: lines, x, answer)

/-- Hand over the outputs, then the lockfile. -/
def finishIn (t : FileTree) (root : Path) (p : Progress) (x : World) : Left World :=
  let cache := p.cache.applyStaged (Cache.present t root)
  match emitIn around p.pending.reverse x with
  | (lines, x, .error f) => ⟨lines, x, .error f⟩
  | (lines, x, .ok ()) =>
    match around.commit cache x with
    | (x, .error e) => ⟨lines, x, .error (commitFailure cache e)⟩
    | (x, .ok modified) =>
      ⟨lines, x,
        .ok ⟨p.pending.reverse.map (·.1), p.identical.reverse, p.rootTemplates, modified⟩⟩

def runIn (t : FileTree) (root : Path) (context : KeyMap Json) (engine : Engine) (o : Options)
    (x : World) : Left World :=
  match prepare t root context engine o with
  | .error f => ⟨[], x, .error f⟩
  | .ok s =>
    let (cache, status) := Cache.open t root o.force
    let (lines, collected) := collectFrom s 0 { cache } (around.walk s)
    let lines := resetLines status ++ lines
    match collected with
    | .error f => ⟨lines, x, .error f⟩
    | .ok p =>
      let done := finishIn around t root p x
      { done with lines := lines ++ done.lines }

end

/-! ## A writer on a tree -/

/-- The selected files as a walk that fails at most at once. -/
def walkOf (s : Setting) : List (Except Failure String) :=
  match Selection.files s.tree s.ignore s.root with
  | .error f => [.error f]
  | .ok files => files.map .ok

/-- A tree with a writer, in which the lockfile is saved. -/
def Surroundings.ofWriter {ω : Type} (w : Writer ω) : Surroundings (FileTree × ω) where
  walk := walkOf
  write p text x :=
    match w p text x.1 x.2 with
    | .error e => (x, .error e)
    | .ok y => (y, .ok ())
  commit cache x :=
    let (t, answer) := cache.commit x.1
    ((t, x.2), answer)

/-- What a run with a writer leaves, its tree and the writer's state taken together. -/
def Left.ofFinished {ω : Type} (done : Finished ω) : Left (FileTree × ω) :=
  ⟨done.lines, (done.tree, done.state), done.result⟩

theorem collectFrom_map_ok (s : Setting) (index : Nat) (p : Progress) (files : List String) :
    collectFrom s index p (files.map .ok) = collect s index p files := by
  induction files generalizing index p with
  | nil => rfl
  | cons relative rest ih =>
    rw [List.map_cons]
    unfold collectFrom collect
    cases step s p relative with
    | mk lines answer =>
      cases answer with
      | error f => rfl
      | ok p => simp only [ih]

theorem emitIn_ofWriter {ω : Type} (w : Writer ω) (pairs : List (Path × String)) (t : FileTree)
    (state : ω) :
    emitIn (.ofWriter w) pairs (t, state) =
      let emission := emit w pairs t state
      (emission.lines, (emission.tree, emission.state),
        match emission.refused with
        | some f => .error f
        | none => .ok ()) := by
  induction pairs generalizing t state with
  | nil => rfl
  | cons e rest ih =>
    obtain ⟨p, text⟩ := e
    unfold emitIn emit Surroundings.ofWriter
    dsimp only
    cases w p text t state with
    | error e => rfl
    | ok y =>
      obtain ⟨t, state⟩ := y
      have hrest := ih t state
      unfold Surroundings.ofWriter at hrest
      dsimp only at hrest ⊢
      rw [hrest]

/-- What a writer has accepted is all if nothing was refused. -/
theorem written_emit {ω : Type} (w : Writer ω) (pairs : List (Path × String)) (t : FileTree)
    (state : ω) (h : (emit w pairs t state).refused = none) :
    (emit w pairs t state).written = pairs.map (·.1) := by
  induction pairs generalizing t state with
  | nil => rfl
  | cons e rest ih =>
    obtain ⟨p, text⟩ := e
    unfold emit at h ⊢
    cases hw : w p text t state with
    | error e => simp [hw] at h
    | ok y =>
      rw [hw] at h
      exact congrArg (p :: ·) (ih _ _ h)

/-- A run with a writer is a run among the surroundings that the writer makes. -/
theorem runIn_ofWriter {ω : Type} (w : Writer ω) (t : FileTree) (root : Path)
    (context : KeyMap Json) (engine : Engine) (o : Options) (state : ω) :
    runIn (.ofWriter w) t root context engine o (t, state) =
      .ofFinished (run w t root context engine o state) := by
  unfold runIn run
  cases hp : prepare t root context engine o with
  | error f => rfl
  | ok s =>
    have htree := tree_of_prepare hp
    have hroot := root_of_prepare hp
    have hwalk : (Surroundings.ofWriter w).walk s = walkOf s := rfl
    simp only [hwalk, walkOf, htree, hroot]
    cases hs : Selection.files t s.ignore root with
    | error f => simp [collectFrom, Left.ofFinished]
    | ok files =>
      unfold onFiles
      simp only [collectFrom_map_ok, htree, hroot]
      cases collect s 0 { cache := (Cache.open t root o.force).1 } files with
      | mk lines collected =>
        cases collected with
        | error f => rfl
        | ok p =>
          unfold finishIn finish
          dsimp only
          rw [emitIn_ofWriter]
          dsimp only
          cases hrefused : (emit w p.pending.reverse t state).refused with
          | some f => rfl
          | none =>
            have hwritten := written_emit w p.pending.reverse t state hrefused
            simp only [Surroundings.ofWriter]
            cases hcommit : (p.cache.applyStaged (Cache.present t root)).commit
                (emit w p.pending.reverse t state).tree with
            | mk v answer =>
              cases answer with
              | error e => rfl
              | ok modified => rw [hwritten]; rfl

/-! ## A run that is watched -/

/-- What a run calls its surroundings for. -/
inductive Call where
  | accepted (output : Path × String)
  | refused (output : Path × String)
  /-- The lockfile was to be saved -/
  | commit
  deriving DecidableEq

/-- The same surroundings with a list of all calls, the latest last. -/
def Surroundings.watched {World : Type} (around : Surroundings World) :
    Surroundings (World × List Call) where
  walk := around.walk
  write p text x :=
    match around.write p text x.1 with
    | (y, .error e) => ((y, x.2 ++ [.refused (p, text)]), .error e)
    | (y, .ok ()) => ((y, x.2 ++ [.accepted (p, text)]), .ok ())
  commit cache x :=
    let (y, answer) := around.commit cache x.1
    ((y, x.2 ++ [.commit]), answer)

theorem watched_write {World : Type} (around : Surroundings World) (p : Path) (text : String)
    (x : World) (calls : List Call) : around.watched.write p text (x, calls) =
      match around.write p text x with
      | (y, .error e) => ((y, calls ++ [.refused (p, text)]), .error e)
      | (y, .ok ()) => ((y, calls ++ [.accepted (p, text)]), .ok ()) := rfl

theorem watched_commit {World : Type} (around : Surroundings World) (cache : Cache) (x : World)
    (calls : List Call) : around.watched.commit cache (x, calls) =
      (((around.commit cache x).1, calls ++ [.commit]), (around.commit cache x).2) := rfl

/-- What a watched run has left, but for the calls. -/
def Left.unwatched {World : Type} (left : Left (World × List Call)) : Left World :=
  ⟨left.lines, left.world.1, left.result⟩

theorem emitIn_watched {World : Type} (around : Surroundings World)
    (outputs : List (Path × String)) (x : World) (calls : List Call) :
    emitIn around outputs x =
      let emission := emitIn around.watched outputs (x, calls)
      (emission.1, emission.2.1.1, emission.2.2) := by
  induction outputs generalizing x calls with
  | nil => rfl
  | cons first rest ih =>
    obtain ⟨p, text⟩ := first
    unfold emitIn
    rw [watched_write]
    cases around.write p text x with
    | mk y answer =>
      cases answer with
      | error e => rfl
      | ok _ =>
        dsimp only
        rw [ih y (calls ++ [.accepted (p, text)])]

/-- A run does the same whether it is watched or not. -/
theorem runIn_watched {World : Type} (around : Surroundings World) (t : FileTree) (root : Path)
    (context : KeyMap Json) (engine : Engine) (o : Options) (x : World) (calls : List Call) :
    runIn around t root context engine o x =
      (runIn around.watched t root context engine o (x, calls)).unwatched := by
  unfold runIn
  cases prepare t root context engine o with
  | error f => rfl
  | ok s =>
    have hwalk : around.watched.walk = around.walk := rfl
    dsimp only
    rw [hwalk]
    cases collectFrom s 0 { cache := (Cache.open t root o.force).1 } (around.walk s) with
    | mk lines answer =>
      cases answer with
      | error f => rfl
      | ok p =>
        dsimp only
        unfold finishIn
        dsimp only
        rw [emitIn_watched around p.pending.reverse x calls]
        cases emitIn around.watched p.pending.reverse (x, calls) with
        | mk lines rest =>
          obtain ⟨⟨y, calls⟩, answer⟩ := rest
          cases answer with
          | error f => rfl
          | ok _ =>
            simp only [watched_commit]
            generalize around.commit (p.cache.applyStaged (Cache.present t root)) y = result
            obtain ⟨z, answer⟩ := result
            cases answer <;> rfl

end Run
end Stencil
