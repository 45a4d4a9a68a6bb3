import Stencil.CommandLine.Command
import Stencil.Proofs.Resolution.Started

/-! What has been started when a document turns out to be at fault. Main statement: nothing if it
cannot be loaded, but all commands of the document if it is the engine or the marker that it asks
for. -/
namespace Stencil

/-- All commands of a document, blank ones apart. -/
def Config.commands (c : Config) : List String :=
  (c.setup.filter fun command => !Text.allBlank command) ++ c.context.flatMap Variable.commands

namespace CommandLine

variable {σ : Type} {env : Environment} {sh : Shell FileTree} {t : FileTree} {root config : Path}
  {c : Config} {force : Bool} {f : Failure} {p : Problem}

/-- Run the setup commands and find the values of the context. -/
def carryOut (env : Environment) (sh : Shell σ) (c : Config) (s : σ) :
    Except Failure (KeyMap Json) × σ :=
  match sh.setup c.setup s with
  | (.error f, s) => (.error f, s)
  | (.ok (), s) => Variable.resolveAll env sh c.context s

/-- The engine is chosen when all commands have been run. -/
theorem prepare_eq (env : Environment) (sh : Shell FileTree) (t : FileTree) (root : Path)
    (c : Config) (force : Bool) : prepare env sh t root c force =
      match carryOut env sh c t with
      | (.error f, t) => (.error f, t)
      | (.ok context, t) =>
        ((chooseEngine c.engine t root).map fun engine => ⟨context, engine, runOptions c force⟩,
          t) := by
  rw [prepare, carryOut]
  generalize sh.setup c.setup t = done
  obtain ⟨_ | _, t⟩ := done <;> rfl

theorem notes_carryOut (env : Environment) (sh : Shell σ) (c : Config) (s : σ)
    (log : List String) :
    Notes c.commands log (carryOut env sh c s) (carryOut env sh.noting c (s, log)) := by
  have hsetup := sh.notes_setup s log c.setup
  rw [carryOut, carryOut]
  generalize sh.setup c.setup s = plain at hsetup ⊢
  generalize sh.noting.setup c.setup (s, log) = noted at hsetup ⊢
  cases hsetup with
  | failed f s started hf hstarted =>
    exact .failed f s started hf (hstarted.trans (List.prefix_append _ _))
  | ok _ s => exact (Variable.notes_resolveAll env sh c.context s _).after

/-- The commands that a run has started when it ends. -/
def started (env : Environment) (sh : Shell FileTree) (t : FileTree) (root config : Path) :
    List String :=
  match configure t root config with
  | .error _ => []
  | .ok c => (carryOut env sh.noting c (t, [])).2.2

/-- The problem of a document that cannot be loaded. -/
def notLoaded (config : Path) (f : Failure) : Problem :=
  (Problem.ofFailure f).within ("Failed to load config from " ++ config.text)

/-- Problems that are the document's own. -/
inductive DocumentFault (t : FileTree) (root config : Path) : Problem → Prop
  | unloadable {f : Failure} (h : Config.load t config = .error f) :
    DocumentFault t root config (notLoaded config f)
  | engine {c : Config} {f : Failure} (h : Config.load t config = .ok c)
      (hf : chooseEngine c.engine t root = .error f) :
    DocumentFault t root config (.ofFailure f)
  | marker {c : Config} {f : Failure} (h : Config.load t config = .ok c)
      (hf : Marker.read c.templateMatcher = .error f) :
    DocumentFault t root config (.ofFailure f)

theorem configure_of_unloadable (root : Path) (h : Config.load t config = .error f) :
    configure t root config = .error (notLoaded config f) := by
  rw [configure, h]
  rfl

/-- Once a document is loaded, only the root can stop the commands from being run. -/
theorem configure_of_loaded (root : Path) (h : Config.load t config = .ok c) :
    configure t root config = .ok c ∨
      ∃ f : Failure, f.category = .process ∧ configure t root config = .error (.ofFailure f) := by
  rw [configure, h]
  unfold Run.validateRoot
  dsimp only
  split
  · exact .inr ⟨_, rfl, rfl⟩
  · split
    · exact .inr ⟨_, rfl, rfl⟩
    · exact .inl rfl

theorem category_of_chooseEngine {o : EngineOptions} (h : chooseEngine o t root = .error f) :
    f.category = .config ∧ f.isOfContext = false := by
  unfold chooseEngine at h
  split at h <;> cases h
  exact ⟨rfl, rfl⟩

theorem category_of_read {pattern : String} (h : Marker.read pattern = .error f) :
    f.category = .config ∧ f.isOfContext = false := by
  unfold Marker.read at h
  dsimp only at h
  split at h <;> cases h
  exact ⟨rfl, rfl⟩

/-- Other failures than those of commands and values come when all commands have been run. -/
theorem started_of_failure (hconfig : configure t root config = .ok c)
    (hfail : (render env sh t root config force).result = .error (.ofFailure f))
    (hf : f.isOfContext = false) : started env sh t root config = c.commands := by
  unfold started
  rw [render, hconfig] at hfail
  simp only [hconfig, prepare_eq] at hfail ⊢
  have hnotes := notes_carryOut env sh c t []
  generalize carryOut env sh c t = plain at hnotes hfail
  generalize carryOut env sh.noting c (t, []) = noted at hnotes ⊢
  cases hnotes with
  | ok context t => rfl
  | failed g t started hg hstarted =>
    obtain rfl : g = f := by simpa [Problem.ofFailure] using hfail
    rw [hg] at hf
    cases hf

/-- A loaded document at fault has had its commands run. -/
theorem started_of_loaded (hload : Config.load t config = .ok c)
    (hfail : (render env sh t root config force).result = .error (.ofFailure f))
    (hcategory : f.category = .config) (hf : f.isOfContext = false) :
    started env sh t root config = c.commands := by
  rcases configure_of_loaded root hload with hconfig | ⟨g, hg, hconfig⟩
  · exact started_of_failure hconfig hfail hf
  · rw [render, hconfig] at hfail
    obtain rfl : g = f := by simpa [Problem.ofFailure] using hfail
    rw [hg] at hcategory
    cases hcategory

/-- A run that fails for a fault of its document has started no command if the document could not
be loaded, and does not depend on the shell at all; otherwise it has run all commands of the
document. -/
theorem started_of_documentFault
    (hfail : (render env sh t root config force).result = .error p)
    (hfault : DocumentFault t root config p) :
    started env sh t root config =
      (match Config.load t config with
      | .error _ => []
      | .ok c => c.commands) ∧
    ∀ f, Config.load t config = .error f →
      ∀ other, render env other t root config force = render env sh t root config force := by
  cases hfault with
  | unloadable h =>
    have hconfig := configure_of_unloadable root h
    refine ⟨by rw [started, hconfig, h], fun _ _ other => ?_⟩
    rw [render, render, hconfig]
  | engine h hf =>
    obtain ⟨hcategory, hcontext⟩ := category_of_chooseEngine hf
    rw [h]
    exact ⟨started_of_loaded h hfail hcategory hcontext, fun _ hno => by cases hno⟩
  | marker h hf =>
    obtain ⟨hcategory, hcontext⟩ := category_of_read hf
    rw [h]
    exact ⟨started_of_loaded h hfail hcategory hcontext, fun _ hno => by cases hno⟩

/-- A document with a setup command, and an engine that cannot do what is asked of it. -/
def withLateFault : FileTree :=
  ⟨["w"], [(["w"], .directory), (["w", "etch.config.yml"],
    .file "setup: touch ran\nengine: \x7bkind: tera, trim_blocks: true\x7d\n".toUTF8)]⟩

/-- A shell in which every command succeeds, and does nothing. -/
def idleShell : Shell FileTree := fun _ t => (⟨.exited 0, [], []⟩, t)

/-- What is wrong with the engine. -/
def engineFault : Failure :=
  .invalidConfigValue "engine" (TemplateError.options ("the tera engine does not support " ++
    "trim_blocks or lstrip_blocks, use \x7b%- and -%\x7d instead")).message

set_option maxRecDepth 100000

theorem load_withLateFault : ∃ c, Config.load withLateFault ⟨"./etch.config.yml"⟩ = .ok c ∧
    c.commands = ["touch ran"] ∧
      chooseEngine c.engine withLateFault ⟨"."⟩ = .error engineFault := by
  have hcheck : (match Config.load withLateFault ⟨"./etch.config.yml"⟩ with
      | .ok c => decide (c.commands = ["touch ran"]) &&
        (match chooseEngine c.engine withLateFault ⟨"."⟩ with
        | .error f => decide (f = engineFault)
        | .ok _ => false)
      | .error _ => false) = true := by decide +kernel
  split at hcheck
  · next c hc =>
    obtain ⟨hcommands, hengine⟩ := Bool.and_eq_true_iff.mp hcheck
    split at hengine
    · next f hf => exact ⟨c, hc, of_decide_eq_true hcommands, of_decide_eq_true hengine ▸ hf⟩
    · cases hengine
  · cases hcheck

theorem render_withLateFault :
    (render (fun _ => none) idleShell withLateFault ⟨"."⟩ ⟨"./etch.config.yml"⟩ false).result =
      .error (.ofFailure engineFault) := by
  have hcheck : (match (render (fun _ => none) idleShell withLateFault ⟨"."⟩
        ⟨"./etch.config.yml"⟩ false).result with
      | .error ⟨contexts, .inl f⟩ => decide (contexts = [] ∧ f = engineFault)
      | _ => false) = true := by decide +kernel
  split at hcheck
  · next contexts f hresult =>
    obtain ⟨rfl, rfl⟩ := of_decide_eq_true hcheck
    exact hresult
  · cases hcheck

theorem started_of_documentFault_withLateFault :
    (render (fun _ => none) idleShell withLateFault ⟨"."⟩ ⟨"./etch.config.yml"⟩ false).result =
        .error (.ofFailure engineFault) ∧
      DocumentFault withLateFault ⟨"."⟩ ⟨"./etch.config.yml"⟩ (.ofFailure engineFault) ∧
      started (fun _ => none) idleShell withLateFault ⟨"."⟩ ⟨"./etch.config.yml"⟩ =
        ["touch ran"] := by
  obtain ⟨c, hload, hcommands, hengine⟩ := load_withLateFault
  have hfault : DocumentFault withLateFault ⟨"."⟩ ⟨"./etch.config.yml"⟩ (.ofFailure engineFault) :=
    .engine hload hengine
  have hstarted := (started_of_documentFault render_withLateFault hfault).1
  rw [hload] at hstarted
  exact ⟨render_withLateFault, hfault, hstarted.trans hcommands⟩

/-- A fault of the document may show only after a command has been run. -/
theorem setup_before_engine :
    ¬ ∀ (env : Environment) (sh : Shell FileTree) (t : FileTree) (root config : Path)
      (force : Bool) (p : Problem), t.isDirectory root = true →
      (render env sh t root config force).result = .error p →
      DocumentFault t root config p → started env sh t root config = [] := by
  intro h
  obtain ⟨c, hload, -, hengine⟩ := load_withLateFault
  have hnone := h (fun _ => none) idleShell withLateFault ⟨"."⟩ ⟨"./etch.config.yml"⟩ false _
    (by decide +kernel) render_withLateFault (.engine hload hengine)
  revert hnone
  decide +kernel

end CommandLine
end Stencil
