import Stencil.Proofs.KeyMap
import Stencil.Proofs.Resolution.Started
import Mathlib.Data.List.Induction

/-! What finding the values of a context comes to, told without running anything twice: the variables
yield their values one after the other, or one of them fails after those before it have. Main
statements: the commands that are started, the state they leave and the result are those of this
account and no others; variables that follow others are resolved from the state that these leave. -/
namespace Stencil

variable {σ : Type}

/-! ## Commands -/

/-- What is said of a command that did not end as it should. -/
def Completed.failure (command : String) (done : Completed) : Failure :=
  match done.status with
  | .exited code =>
    .shellCommandFailed command ("exit code " ++ toString code) (Text.lossy done.errors)
  | .signalled => .shellCommandFailed command "terminated by signal" (Text.lossy done.errors)
  | .notStarted reason => .shellCommandFailed command ("could not start sh: " ++ reason) ""

namespace Shell

variable {sh : Shell σ} {s : σ} {log commands : List String} {command : String}

/-- The state that commands leave, one run after the other. -/
def after (sh : Shell σ) (commands : List String) (s : σ) : σ :=
  commands.foldl (fun s command => (sh command s).2) s

@[simp] theorem after_nil (s : σ) : sh.after [] s = s := rfl

@[simp] theorem after_cons (command : String) (rest : List String) (s : σ) :
    sh.after (command :: rest) s = sh.after rest (sh command s).2 := rfl

@[simp] theorem after_append (front rest : List String) (s : σ) :
    sh.after (front ++ rest) s = sh.after rest (sh.after front s) := List.foldl_append

def Succeeds (sh : Shell σ) (command : String) (s : σ) : Prop :=
  (sh command s).1.status = .exited 0

/-- Every command succeeds from the state that those before it leave. -/
inductive AllSucceed (sh : Shell σ) : List String → σ → Prop
  | nil (s : σ) : AllSucceed sh [] s
  | cons {command : String} {rest : List String} {s : σ} (head : sh.Succeeds command s)
      (tail : AllSucceed sh rest (sh command s).2) : AllSucceed sh (command :: rest) s

theorem noting_run_of_succeeds (h : sh.Succeeds command s) :
    sh.noting.run command (s, log) =
      (.ok (Text.lossy (sh command s).1.output), (sh command s).2, log ++ [command]) := by
  unfold Succeeds at h
  simp only [run, noting, h]

theorem noting_run_of_not_succeeds (h : ¬ sh.Succeeds command s) :
    sh.noting.run command (s, log) =
      (.error ((sh command s).1.failure command), (sh command s).2, log ++ [command]) := by
  unfold Succeeds at h
  simp only [run, noting, Completed.failure]
  cases hstatus : (sh command s).1.status with
  | exited code =>
    cases code with
    | zero => exact absurd hstatus h
    | succ code => rfl
  | signalled => rfl
  | notStarted reason => rfl

theorem noting_runAll_of_allSucceed (h : sh.AllSucceed commands s) :
    sh.noting.runAll commands (s, log) = (.ok (), sh.after commands s, log ++ commands) := by
  induction h generalizing log with
  | nil s => simp [runAll]
  | cons head tail ih =>
    rw [runAll, noting_run_of_succeeds head]
    simp [ih]

/-- Commands are run up to the first that does not succeed. -/
theorem noting_runAll_of_not_succeeds {front : List String} (h : sh.AllSucceed front s)
    (hcommand : ¬ sh.Succeeds command (sh.after front s)) (rest : List String) :
    sh.noting.runAll (front ++ command :: rest) (s, log) =
      (.error ((sh command (sh.after front s)).1.failure command),
        sh.after (front ++ [command]) s, log ++ (front ++ [command])) := by
  induction h generalizing log with
  | nil s =>
    rw [after_nil] at hcommand
    simp [runAll, noting_run_of_not_succeeds hcommand]
  | cons head tail ih =>
    rw [List.cons_append, runAll, noting_run_of_succeeds head]
    simp [ih hcommand]

theorem AllSucceed.of_concat {front : List String} {last : String}
    (h : sh.AllSucceed (front ++ [last]) s) :
    sh.AllSucceed front s ∧ sh.Succeeds last (sh.after front s) := by
  induction front generalizing s with
  | nil =>
    cases h with
    | cons head tail => exact ⟨.nil s, head⟩
  | cons command front ih =>
    cases h with
    | cons head tail => exact ⟨.cons head (ih tail).1, (ih tail).2⟩

theorem allSucceed_or (sh : Shell σ) (commands : List String) (s : σ) :
    sh.AllSucceed commands s ∨ ∃ front command rest, commands = front ++ command :: rest ∧
      sh.AllSucceed front s ∧ ¬ sh.Succeeds command (sh.after front s) := by
  induction commands generalizing s with
  | nil => exact .inl (.nil s)
  | cons command rest ih =>
    by_cases hcommand : sh.Succeeds command s
    · rcases ih (sh command s).2 with hrest | ⟨front, failing, back, rfl, hfront, hfailing⟩
      · exact .inl (.cons hcommand hrest)
      · exact .inr ⟨command :: front, failing, back, rfl, .cons hcommand hfront, hfailing⟩
    · exact .inr ⟨[], command, rest, rfl, .nil s, hcommand⟩

theorem noting_value_of_not_succeeds {front : List String} (h : sh.AllSucceed front s)
    (hcommand : ¬ sh.Succeeds command (sh.after front s)) (name : String) (rest : List String) :
    sh.noting.value name (front ++ command :: rest) (s, log) =
      (.error ((sh command (sh.after front s)).1.failure command),
        sh.after (front ++ [command]) s, log ++ (front ++ [command])) := by
  rw [value]
  -- The last command is run for its output, those in front of it for what they do.
  cases rest using List.reverseRecOn with
  | nil =>
    simp [noting_runAll_of_allSucceed h, noting_run_of_not_succeeds hcommand]
  | append_singleton rest last =>
    have hcommands : front ++ command :: (rest ++ [last]) = (front ++ command :: rest) ++ [last] := by
      simp
    rw [hcommands, List.getLast?_concat, List.dropLast_concat,
      noting_runAll_of_not_succeeds h hcommand]

end Shell

/-! ## One variable -/

namespace Variable

variable {env : Environment} {sh : Shell σ} {v : Variable} {s : σ} {log started : List String}
  {raw value : Json} {f : Failure}

/-- The text that the last of a variable's commands prints, after those in front of it. -/
def printed (sh : Shell σ) (front : List String) (last : String) (s : σ) : String :=
  Text.lossy (sh last (sh.after front s)).1.output

/-- What a variable yields before it is converted. -/
inductive Yields (env : Environment) (sh : Shell σ) (v : Variable) (s : σ) : Json → Prop
  | literal {value : Json} (hsource : v.source = .literal value) : Yields env sh v s value
  | found {name text : String} (hsource : v.source = .environment name)
      (hset : env name = some text) : Yields env sh v s (.string (Text.trim text))
  | fallback {name : String} {value : Json} (hsource : v.source = .environment name)
      (hunset : env name = none) (hfallback : v.fallback = some value) :
      Yields env sh v s (trimmed value)
  | printed {front : List String} {last : String} (hsource : v.source = .shell (front ++ [last]))
      (hfront : sh.AllSucceed front s) (hlast : sh.Succeeds last (sh.after front s))
      (hblank : Text.allBlank (printed sh front last s) = false) :
      Yields env sh v s (.string (Text.trim (printed sh front last s)))

/-- How a variable fails, and the commands that were started until then. -/
inductive Fails (env : Environment) (sh : Shell σ) (v : Variable) (s : σ) :
    Failure → List String → Prop
  | command {front rest : List String} {command : String}
      (hsource : v.source = .shell (front ++ command :: rest)) (hfront : sh.AllSucceed front s)
      (hcommand : ¬ sh.Succeeds command (sh.after front s)) :
      Fails env sh v s ((sh command (sh.after front s)).1.failure command) (front ++ [command])
  | unset {name : String} (hsource : v.source = .environment name) (hunset : env name = none)
      (hfallback : v.fallback = none) :
      Fails env sh v s (.missingEnvironmentVariable name v.name) []
  | noCommands (hsource : v.source = .shell []) :
      Fails env sh v s (.invalidContextVariable v.name "no commands to run") []
  | blank {front : List String} {last : String} (hsource : v.source = .shell (front ++ [last]))
      (hfront : sh.AllSucceed front s) (hlast : sh.Succeeds last (sh.after front s))
      (hblank : Text.allBlank (Variable.printed sh front last s) = true) :
      Fails env sh v s (.emptyShellOutput last v.name) (front ++ [last])
  | coercion {raw : Json} {f : Failure} (hraw : Yields env sh v s raw)
      (hcoerced : v.coerced raw = .error f) : Fails env sh v s f v.commands

theorem commands_of_shell {commands : List String} (h : v.source = .shell commands) :
    v.commands = commands := by
  rw [Variable.commands, h]

theorem commands_of_environment {name : String} (h : v.source = .environment name) :
    v.commands = [] := by
  rw [Variable.commands, h]

theorem Yields.noting_rawValue (h : v.Yields env sh s raw) :
    v.rawValue env sh.noting (s, log) =
      (.ok raw, sh.after v.commands s, log ++ v.commands) := by
  cases h with
  | literal hsource => simp [rawValue, Variable.commands, hsource]
  | found hsource hset => simp [rawValue, commands_of_environment hsource, hsource, hset]
  | fallback hsource hunset hfallback =>
    simp [rawValue, commands_of_environment hsource, hsource, hunset, hfallback]
  | printed hsource hfront hlast hblank =>
    rw [commands_of_shell hsource, rawValue, hsource]
    simp only [Shell.value, List.getLast?_concat, List.dropLast_concat,
      Shell.noting_runAll_of_allSucceed hfront, Shell.noting_run_of_succeeds hlast]
    rw [Variable.printed] at hblank
    simp [hblank, Variable.printed]

theorem Fails.noting_resolve (h : v.Fails env sh s f started) :
    v.resolve env sh.noting (s, log) = (.error f, sh.after started s, log ++ started) := by
  cases h with
  | @command front rest command hsource hfront hcommand =>
    rw [resolve, rawValue, hsource]
    simp only [Shell.noting_value_of_not_succeeds hfront hcommand]
  | unset hsource hunset hfallback => simp [resolve, rawValue, hsource, hunset, hfallback]
  | noCommands hsource => simp [resolve, rawValue, hsource, Shell.value]
  | blank hsource hfront hlast hblank =>
    rw [Variable.printed] at hblank
    simp [resolve, rawValue, hsource, Shell.value, Shell.noting_runAll_of_allSucceed hfront,
      Shell.noting_run_of_succeeds hlast, hblank]
  | coercion hraw hcoerced => rw [resolve, hraw.noting_rawValue]; simp [hcoerced]

/-- A variable is resolved or fails. -/
theorem exists_yields_or_fails (env : Environment) (sh : Shell σ) (v : Variable) (s : σ) :
    (∃ raw value, v.Yields env sh s raw ∧ v.coerced raw = .ok value) ∨
      ∃ f started, v.Fails env sh s f started := by
  have hcoerced : ∀ {raw}, v.Yields env sh s raw →
      (∃ raw value, v.Yields env sh s raw ∧ v.coerced raw = .ok value) ∨
        ∃ f started, v.Fails env sh s f started := by
    intro raw hraw
    cases h : v.coerced raw with
    | ok value => exact .inl ⟨raw, value, hraw, h⟩
    | error f => exact .inr ⟨f, v.commands, .coercion hraw h⟩
  cases hsource : v.source with
  | literal value => exact hcoerced (.literal hsource)
  | environment name =>
    cases hset : env name with
    | some text => exact hcoerced (.found hsource hset)
    | none =>
      cases hfallback : v.fallback with
      | some value => exact hcoerced (.fallback hsource hset hfallback)
      | none => exact .inr ⟨_, _, .unset hsource hset hfallback⟩
  | shell commands =>
    rcases sh.allSucceed_or commands s with hall | ⟨front, command, rest, rfl, hfront, hcommand⟩
    · cases commands using List.reverseRecOn with
      | nil => exact .inr ⟨_, _, .noCommands hsource⟩
      | append_singleton front last =>
        obtain ⟨hfront, hlast⟩ := hall.of_concat
        cases hblank : Text.allBlank (Variable.printed sh front last s) with
        | true => exact .inr ⟨_, _, .blank hsource hfront hlast hblank⟩
        | false => exact hcoerced (.printed hsource hfront hlast hblank)
    · exact .inr ⟨_, _, .command hsource hfront hcommand⟩

/-! ## All variables -/

/-- The variables yield their values one after the other. -/
inductive InTurn (env : Environment) (sh : Shell σ) :
    List Variable → σ → List (String × Json) → Prop
  | nil (s : σ) : InTurn env sh [] s []
  | cons {v : Variable} {rest : List Variable} {s : σ} {raw value : Json}
      {values : List (String × Json)} (hraw : v.Yields env sh s raw)
      (hcoerced : v.coerced raw = .ok value)
      (tail : InTurn env sh rest (sh.after v.commands s) values) :
      InTurn env sh (v :: rest) s ((v.name, value) :: values)

/-- The result for variables, and the commands that are started: each name has its last value after
the commands of all variables, or else there are those in front of the first variable that fails and
its own until then. -/
inductive ResolvesTo (env : Environment) (sh : Shell σ) (vs : List Variable) (s : σ) :
    Except Failure (KeyMap Json) → List String → Prop
  | all {values : List (String × Json)} {context : KeyMap Json} (h : InTurn env sh vs s values)
      (hlast : ∀ name value, context.get? name = some value ↔
        ∃ front rest, values = front ++ (name, value) :: rest ∧ name ∉ rest.map (·.1)) :
      ResolvesTo env sh vs s (.ok context) (vs.flatMap commands)
  | stopped {front rest : List Variable} {v : Variable} {values : List (String × Json)}
      {f : Failure} {started : List String} (hvs : vs = front ++ v :: rest)
      (hfront : InTurn env sh front s values)
      (hfails : v.Fails env sh (sh.after (front.flatMap commands) s) f started) :
      ResolvesTo env sh vs s (.error f) (front.flatMap commands ++ started)

variable {vs front : List Variable} {values : List (String × Json)}

theorem noting_resolve_of_yields (hraw : v.Yields env sh s raw) (hcoerced : v.coerced raw = .ok value) :
    v.resolve env sh.noting (s, log) =
      (.ok value, sh.after v.commands s, log ++ v.commands) := by
  rw [resolve, hraw.noting_rawValue]
  simp [hcoerced]

theorem InTurn.noting_resolveEach (h : InTurn env sh vs s values) :
    resolveEach env sh.noting vs (s, log) =
      (.ok values, sh.after (vs.flatMap commands) s, log ++ vs.flatMap commands) := by
  induction h generalizing log with
  | nil s => simp [resolveEach]
  | cons hraw hcoerced tail ih =>
    rw [resolveEach, noting_resolve_of_yields hraw hcoerced]
    simp [ih]

theorem Fails.noting_resolveEach (hfront : InTurn env sh front s values)
    (h : v.Fails env sh (sh.after (front.flatMap commands) s) f started) (rest : List Variable) :
    resolveEach env sh.noting (front ++ v :: rest) (s, log) =
      (.error f, sh.after (front.flatMap commands ++ started) s,
        log ++ (front.flatMap commands ++ started)) := by
  induction hfront generalizing log with
  | nil s =>
    rw [List.flatMap_nil, Shell.after_nil] at h
    rw [List.nil_append, resolveEach, h.noting_resolve]
    simp
  | cons hraw hcoerced tail ih =>
    rw [List.cons_append, resolveEach, noting_resolve_of_yields hraw hcoerced]
    have hrest := fun log => @ih log (by simpa using h)
    simp [hrest]

theorem ResolvesTo.noting_resolveAll {r : Except Failure (KeyMap Json)}
    (h : ResolvesTo env sh vs s r started) :
    resolveAll env sh.noting vs (s, log) = (r, sh.after started s, log ++ started) := by
  cases h with
  | @all values context h hlast =>
    have hcontext : KeyMap.ofList values = context := by
      refine KeyMap.ext_get? fun name => Option.ext fun value => ?_
      rw [KeyMap.get?_ofList_eq_some_iff, hlast]
    rw [resolveAll, h.noting_resolveEach]
    simp only [hcontext]
  | stopped hvs hfront hfails =>
    rw [resolveAll, hvs, hfails.noting_resolveEach hfront]

/-- Variables are resolved one after the other, or there is a first that fails. -/
theorem inTurn_or (env : Environment) (sh : Shell σ) (vs : List Variable) (s : σ) :
    (∃ values, InTurn env sh vs s values) ∨
      ∃ front v rest values f started, vs = front ++ v :: rest ∧ InTurn env sh front s values ∧
        v.Fails env sh (sh.after (front.flatMap commands) s) f started := by
  induction vs generalizing s with
  | nil => exact .inl ⟨[], .nil s⟩
  | cons v rest ih =>
    rcases exists_yields_or_fails env sh v s with ⟨raw, value, hraw, hcoerced⟩ | ⟨f, started, hfails⟩
    · rcases ih (sh.after v.commands s) with
        ⟨values, hrest⟩ | ⟨front, w, back, values, f, started, rfl, hfront, hfails⟩
      · exact .inl ⟨_, .cons hraw hcoerced hrest⟩
      · exact .inr ⟨v :: front, w, back, _, f, started, rfl, .cons hraw hcoerced hfront,
          by simpa using hfails⟩
    · exact .inr ⟨[], v, rest, [], f, started, rfl, .nil s, hfails⟩

theorem exists_resolvesTo (env : Environment) (sh : Shell σ) (vs : List Variable) (s : σ) :
    ∃ r started, ResolvesTo env sh vs s r started := by
  rcases inTurn_or env sh vs s with ⟨values, h⟩ | ⟨front, v, rest, values, f, started, hvs, h, hfails⟩
  · exact ⟨_, _, .all h fun _ _ => KeyMap.get?_ofList_eq_some_iff⟩
  · exact ⟨_, _, .stopped hvs h hfails⟩

/-- The account tells the result, the state that is left and the commands that are started. -/
theorem noting_resolveAll_eq_iff {r : Except Failure (KeyMap Json)} {s' : σ} {log' : List String} :
    resolveAll env sh.noting vs (s, log) = (r, s', log') ↔
      ∃ started, ResolvesTo env sh vs s r started ∧ s' = sh.after started s ∧
        log' = log ++ started := by
  constructor
  · intro h
    obtain ⟨result, started, hresult⟩ := exists_resolvesTo env sh vs s
    rw [hresult.noting_resolveAll] at h
    obtain ⟨rfl, hrest⟩ := Prod.mk.inj h
    obtain ⟨rfl, rfl⟩ := Prod.mk.inj hrest
    exact ⟨started, hresult, rfl, rfl⟩
  · rintro ⟨started, hresult, rfl, rfl⟩
    exact hresult.noting_resolveAll

/-- The shell itself comes to the same. -/
theorem resolveAll_eq_iff {r : Except Failure (KeyMap Json)} {s' : σ} :
    resolveAll env sh vs s = (r, s') ↔
      ∃ started, ResolvesTo env sh vs s r started ∧ s' = sh.after started s := by
  rw [(notes_resolveAll env sh vs s []).forget]
  constructor
  · intro h
    obtain ⟨rfl, rfl⟩ := Prod.mk.inj h
    obtain ⟨started, hresult, hs, -⟩ :=
      noting_resolveAll_eq_iff.mp (Eq.refl (resolveAll env sh.noting vs (s, [])))
    exact ⟨started, hresult, hs⟩
  · rintro ⟨started, hresult, rfl⟩
    rw [hresult.noting_resolveAll]

theorem resolveEach_append (env : Environment) (sh : Shell σ) (xs ys : List Variable) (s : σ) :
    resolveEach env sh (xs ++ ys) s =
      match resolveEach env sh xs s with
      | (.error f, s) => (.error f, s)
      | (.ok first, s) =>
        match resolveEach env sh ys s with
        | (.error f, s) => (.error f, s)
        | (.ok second, s) => (.ok (first ++ second), s) := by
  induction xs generalizing s with
  | nil =>
    simp only [List.nil_append, resolveEach]
    cases resolveEach env sh ys s with
    | mk r s => cases r <;> rfl
  | cons v xs ih =>
    rw [List.cons_append, resolveEach, resolveEach]
    cases v.resolve env sh s with
    | mk r s =>
      cases r with
      | error f => rfl
      | ok value =>
        simp only [ih]
        cases resolveEach env sh xs s with
        | mk r s =>
          cases r with
          | error f => rfl
          | ok first =>
            simp only
            cases resolveEach env sh ys s with
            | mk r s => cases r <;> rfl

/-- Variables that follow others are resolved from the state that these leave, and win. -/
theorem resolveAll_append (env : Environment) (sh : Shell σ) (xs ys : List Variable) (s : σ) :
    resolveAll env sh (xs ++ ys) s =
      match resolveAll env sh xs s with
      | (.error f, s) => (.error f, s)
      | (.ok first, s) =>
        match resolveAll env sh ys s with
        | (.error f, s) => (.error f, s)
        | (.ok second, s) => (.ok (first.union second), s) := by
  rw [resolveAll, resolveAll, resolveEach_append]
  cases resolveEach env sh xs s with
  | mk r s =>
    cases r with
    | error f => rfl
    | ok first =>
      simp only [resolveAll]
      cases resolveEach env sh ys s with
      | mk r s =>
        cases r with
        | error f => rfl
        | ok second => simp only [KeyMap.ofList_append]

/-- Resolving starts the commands of the variables in their order up to the first thing that fails,
and none after it; it gives that failure and nothing else, or each name its last value. So variables
in a row are resolved like those in front and then, from the state that these leave, the others. -/
theorem resolveAll_spec (env : Environment) (sh : Shell σ) (vs : List Variable) (s : σ)
    (log : List String) :
    (∀ r s' log', resolveAll env sh.noting vs (s, log) = (r, s', log') ↔
      ∃ started, ResolvesTo env sh vs s r started ∧ s' = sh.after started s ∧
        log' = log ++ started) ∧
    (∀ r s', resolveAll env sh vs s = (r, s') ↔
      ∃ started, ResolvesTo env sh vs s r started ∧ s' = sh.after started s) ∧
    ∀ more, resolveAll env sh (vs ++ more) s =
      match resolveAll env sh vs s with
      | (.error f, s) => (.error f, s)
      | (.ok first, s) =>
        match resolveAll env sh more s with
        | (.error f, s) => (.error f, s)
        | (.ok second, s) => (.ok (first.union second), s) :=
  ⟨fun _ _ _ => noting_resolveAll_eq_iff, fun _ _ => resolveAll_eq_iff,
    fun more => resolveAll_append env sh vs more s⟩

end Variable
end Stencil
