import Stencil.Resolution

/-! The commands that finding the values of a context starts. A shell that notes what it is given
shows them, and changes nothing else: they are the commands of the variables in their order, up to
the first thing that fails. -/
namespace Stencil

/-- Failures of commands and of values. -/
def Failure.isOfContext : Failure → Bool
  | .invalidContextVariable .. | .missingEnvironmentVariable .. | .shellCommandFailed ..
  | .emptyShellOutput .. | .coercionFailed .. => true
  | _ => false

/-- The commands of a variable. -/
def Variable.commands (v : Variable) : List String :=
  match v.source with
  | .shell commands => commands
  | _ => []

namespace Coercion

variable {k : Coercion} {v : Json} {f : Failure}

theorem isOfContext_of_finite (h : finite k v = .error f) : f.isOfContext = true := by
  unfold finite at h
  split at h <;> cases h <;> rfl

theorem isOfContext_of_apply (h : k.apply v = .error f) : f.isOfContext = true := by
  cases k with
  | str => cases h
  | int =>
    rw [apply, toInt] at h
    cases hfinite : finite int v with
    | error g =>
      obtain rfl : g = f := by simpa [hfinite, bind, Except.bind] using h
      exact isOfContext_of_finite hfinite
    | ok x =>
      simp only [hfinite, bind, Except.bind] at h
      split at h <;> cases h
      rfl
  | float =>
    rw [apply] at h
    cases hfinite : finite float v with
    | error g =>
      obtain rfl : g = f := by simpa [hfinite, Except.map] using h
      exact isOfContext_of_finite hfinite
    | ok x => simp [hfinite, Except.map] at h
  | bool =>
    rw [apply, toBool] at h
    split at h
    · cases h
    · split at h <;> cases h
      rfl
  | json =>
    rw [apply] at h
    unfold toJson at h
    split at h
    · split at h <;> cases h
      rfl
    · cases h

end Coercion

variable {σ α : Type}

/-- A shell that notes the commands it is given, after those noted before. -/
def Shell.noting (sh : Shell σ) : Shell (σ × List String) := fun command s =>
  let (done, after) := sh command s.1
  (done, after, s.2 ++ [command])

/-- What is done with a noting shell is what is done with the shell itself, and the commands are
noted, all of them unless one, or a value, fails. -/
inductive Notes (commands log : List String) :
    Except Failure α × σ → Except Failure α × σ × List String → Prop
  | ok (a : α) (s : σ) : Notes commands log (.ok a, s) (.ok a, s, log ++ commands)
  | failed (f : Failure) (s : σ) (started : List String) (hf : f.isOfContext = true)
      (hstarted : started <+: commands) :
      Notes commands log (.error f, s) (.error f, s, log ++ started)

namespace Notes

variable {commands more log : List String} {plain : Except Failure α × σ}
  {noted : Except Failure α × σ × List String}

theorem none_started (f : Failure) (s : σ) (hf : f.isOfContext = true) :
    Notes commands log (.error f, s) ((.error f, s, log) : Except Failure α × σ × List String) := by
  have h : Notes commands log ((.error f : Except Failure α), s) (.error f, s, log ++ []) :=
    .failed f s [] hf List.nil_prefix
  simpa using h

theorem none_needed (a : α) (s : σ) : Notes [] log (.ok a, s) (.ok a, s, log) := by
  have h : Notes [] log (.ok a, s) (.ok a, s, log ++ []) := .ok a s
  simpa using h

/-- What is noted is left out again. -/
theorem forget (h : Notes commands log plain noted) : plain = (noted.1, noted.2.1) := by
  cases h with
  | ok a s => rfl
  | failed f s started hf hstarted => rfl

/-- Commands that went well stand before those that follow. -/
theorem after (h : Notes more (log ++ commands) plain noted) :
    Notes (commands ++ more) log plain noted := by
  cases h with
  | ok a s => rw [List.append_assoc]; exact .ok a s
  | failed f s started hf hstarted =>
    rw [List.append_assoc]
    exact .failed f s _ hf ((List.prefix_append_right_inj commands).mpr hstarted)

end Notes

namespace Shell

variable (sh : Shell σ)

theorem notes_run (s : σ) (log : List String) (command : String) :
    Notes [command] log (sh.run command s) (sh.noting.run command (s, log)) := by
  unfold run noting
  obtain ⟨⟨status, output, errors⟩, after⟩ := sh command s
  rcases status with (_ | code) | _ | reason
  · exact .ok _ _
  all_goals exact .failed _ _ [command] rfl (List.prefix_refl _)

theorem notes_runAll (s : σ) (log commands : List String) :
    Notes commands log (sh.runAll commands s) (sh.noting.runAll commands (s, log)) := by
  induction commands generalizing s log with
  | nil => exact .none_needed () s
  | cons command rest ih =>
    have hhead := sh.notes_run s log command
    rw [runAll, runAll]
    generalize sh.run command s = plain at hhead ⊢
    generalize sh.noting.run command (s, log) = noted at hhead ⊢
    cases hhead with
    | ok output s => exact (ih s (log ++ [command])).after
    | failed f s started hf hstarted =>
      exact .failed f s started hf (hstarted.trans (List.prefix_append [command] rest))

theorem notes_setup (s : σ) (log commands : List String) :
    Notes (commands.filter fun c => !Text.allBlank c) log (sh.setup commands s)
      (sh.noting.setup commands (s, log)) := sh.notes_runAll s log _

theorem notes_value (s : σ) (log : List String) (name : String) (commands : List String) :
    Notes commands log (sh.value name commands s) (sh.noting.value name commands (s, log)) := by
  rw [value, value]
  cases hlast : commands.getLast? with
  | none => exact .none_started _ _ rfl
  | some last =>
    obtain ⟨front, rfl⟩ := List.getLast?_eq_some_iff.mp hlast
    have hfront := sh.notes_runAll s log front
    simp only [List.dropLast_concat]
    generalize sh.runAll front s = plain at hfront ⊢
    generalize sh.noting.runAll front (s, log) = noted at hfront ⊢
    cases hfront with
    | failed f s started hf hstarted =>
      exact .failed f s started hf (hstarted.trans (List.prefix_append front [last]))
    | ok _ s =>
      have hrun := sh.notes_run s (log ++ front) last
      refine Notes.after ?_
      dsimp only
      generalize sh.run last s = plain at hrun ⊢
      generalize sh.noting.run last (s, log ++ front) = noted at hrun ⊢
      cases hrun with
      | failed f s started hf hstarted => exact .failed f s started hf hstarted
      | ok output s =>
        dsimp only
        split
        · exact .failed _ s [last] rfl (List.prefix_refl _)
        · exact .ok _ s

end Shell

namespace Variable

variable (env : Environment) (sh : Shell σ)

theorem notes_rawValue (v : Variable) (s : σ) (log : List String) :
    Notes v.commands log (v.rawValue env sh s) (v.rawValue env sh.noting (s, log)) := by
  unfold commands rawValue
  cases v.source with
  | literal value => exact .none_needed _ s
  | shell commands => exact sh.notes_value s log v.name commands
  | environment name =>
    dsimp only
    split
    · exact .none_needed _ s
    · exact .none_needed _ s
    · exact .none_started _ s rfl

theorem isOfContext_of_coerced {v : Variable} {value : Json} {f : Failure}
    (h : v.coerced value = .error f) : f.isOfContext = true := by
  unfold coerced at h
  split at h
  · next k _ => exact Coercion.isOfContext_of_apply h
  · cases h

theorem notes_resolve (v : Variable) (s : σ) (log : List String) :
    Notes v.commands log (v.resolve env sh s) (v.resolve env sh.noting (s, log)) := by
  have hraw := v.notes_rawValue env sh s log
  rw [resolve, resolve]
  generalize v.rawValue env sh s = plain at hraw ⊢
  generalize v.rawValue env sh.noting (s, log) = noted at hraw ⊢
  cases hraw with
  | failed f s started hf hstarted => exact .failed f s started hf hstarted
  | ok value s =>
    dsimp only
    cases hcoerced : v.coerced value with
    | ok a => exact .ok a s
    | error f => exact .failed f s _ (isOfContext_of_coerced hcoerced) (List.prefix_refl _)

theorem notes_resolveEach (vs : List Variable) (s : σ) (log : List String) :
    Notes (vs.flatMap commands) log (resolveEach env sh vs s)
      (resolveEach env sh.noting vs (s, log)) := by
  induction vs generalizing s log with
  | nil => exact .none_needed _ s
  | cons v rest ih =>
    have hhead := v.notes_resolve env sh s log
    rw [resolveEach, resolveEach, List.flatMap_cons]
    generalize v.resolve env sh s = plain at hhead ⊢
    generalize v.resolve env sh.noting (s, log) = noted at hhead ⊢
    cases hhead with
    | failed f s started hf hstarted =>
      exact .failed f s started hf (hstarted.trans (List.prefix_append _ _))
    | ok value s =>
      have hrest := ih s (log ++ v.commands)
      refine Notes.after ?_
      dsimp only
      generalize resolveEach env sh rest s = plain at hrest ⊢
      generalize resolveEach env sh.noting rest (s, log ++ v.commands) = noted at hrest ⊢
      cases hrest with
      | failed f s started hf hstarted => exact .failed f s started hf hstarted
      | ok values s => exact .ok _ s

theorem notes_resolveAll (vs : List Variable) (s : σ) (log : List String) :
    Notes (vs.flatMap commands) log (resolveAll env sh vs s)
      (resolveAll env sh.noting vs (s, log)) := by
  have heach := notes_resolveEach env sh vs s log
  rw [resolveAll, resolveAll]
  generalize resolveEach env sh vs s = plain at heach ⊢
  generalize resolveEach env sh.noting vs (s, log) = noted at heach ⊢
  cases heach with
  | failed f s started hf hstarted => exact .failed f s started hf hstarted
  | ok values s => exact .ok _ s

end Variable
end Stencil
