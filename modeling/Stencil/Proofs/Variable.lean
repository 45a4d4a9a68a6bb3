import Stencil.Resolution
import Mathlib.Data.List.Nodup

/-! Definitions in full. Main statement: a value that is spelt out in full is defined as it would be
by itself, and the default of an unset environment variable is its value. Null is the one that is
lost: a key that is given null counts as left out. -/
namespace Stencil

theorem Fields.isSome_get?_iff {fields : List (String × Json)} {key : String} :
    (get? fields key).isSome ↔ key ∈ fields.map (·.1) := by
  induction fields with
  | nil => simp [get?]
  | cons e rest ih =>
    obtain ⟨k, v⟩ := e
    by_cases hk : k = key
    · simp [get?, hk]
    · simp [get?, hk, Ne.symm hk, ih]

namespace Variable

variable {name : String} {fields fields' : List (String × Json)} {v : Json}

/-! ## The keys of a definition -/

/-- What a key makes of a definition. -/
inductive Definition.Takes (d : Definition) : String → Json → Definition → Prop
  | kind {v : Json} {kind : String} (h : v.text = .ok kind) : Takes d "type" v { d with kind }
  | value (v : Json) : Takes d "value" v { d with value := v.optional }
  | fallback (v : Json) : Takes d "default" v { d with fallback := v.optional }
  | coercion {v : Json} {coercion : Option String} (h : v.optionalText = .ok coercion) :
      Takes d "as" v { d with coercion }

namespace Definition

variable {d d' r : Definition} {key other : String} {w : Json}

theorem read_cons_eq_ok_iff {rest : List (String × Json)} :
    d.read ((key, v) :: rest) = .ok r ↔ ∃ d', Takes d key v d' ∧ d'.read rest = .ok r := by
  constructor
  · intro h
    unfold read at h
    split at h
    · next hkey =>
      subst hkey
      cases htext : v.text with
      | error e => simp [htext] at h
      | ok kind => exact ⟨_, .kind htext, by simpa [htext] using h⟩
    · split at h
      · next hkey => exact ⟨_, hkey ▸ .value v, h⟩
      · split at h
        · next hkey => exact ⟨_, hkey ▸ .fallback v, h⟩
        · split at h
          · next hkey =>
            subst hkey
            cases htext : v.optionalText with
            | error e => simp [htext] at h
            | ok coercion => exact ⟨_, .coercion htext, by simpa [htext] using h⟩
          · simp at h
  · rintro ⟨d', htakes, hread⟩
    cases htakes with
    | kind htext => simpa [read, htext] using hread
    | value => simpa [read] using hread
    | fallback => simpa [read] using hread
    | coercion htext => simpa [read, htext] using hread

/-- Different keys are about different parts of a definition. -/
theorem Takes.swap (h : Takes d key v d') (h' : Takes d' other w r) (hne : key ≠ other) :
    ∃ d', Takes d other w d' ∧ Takes d' key v r := by
  cases h with
  | kind htext =>
    cases h' with
    | kind => exact absurd rfl hne
    | value => exact ⟨_, .value w, .kind htext⟩
    | fallback => exact ⟨_, .fallback w, .kind htext⟩
    | coercion htext' => exact ⟨_, .coercion htext', .kind htext⟩
  | value =>
    cases h' with
    | kind htext' => exact ⟨_, .kind htext', .value v⟩
    | value => exact absurd rfl hne
    | fallback => exact ⟨_, .fallback w, .value v⟩
    | coercion htext' => exact ⟨_, .coercion htext', .value v⟩
  | fallback =>
    cases h' with
    | kind htext' => exact ⟨_, .kind htext', .fallback v⟩
    | value => exact ⟨_, .value w, .fallback v⟩
    | fallback => exact absurd rfl hne
    | coercion htext' => exact ⟨_, .coercion htext', .fallback v⟩
  | coercion htext =>
    cases h' with
    | kind htext' => exact ⟨_, .kind htext', .coercion htext⟩
    | value => exact ⟨_, .value w, .coercion htext⟩
    | fallback => exact ⟨_, .fallback w, .coercion htext⟩
    | coercion => exact absurd rfl hne

/-- The order of the keys makes no difference to what is read. -/
theorem read_perm (h : fields.Perm fields') (hkeys : (fields.map (·.1)).Nodup)
    (hread : d.read fields = .ok r) : d.read fields' = .ok r := by
  induction h generalizing d with
  | nil => exact hread
  | cons e _ ih =>
    obtain ⟨d', htakes, hrest⟩ := read_cons_eq_ok_iff.mp hread
    exact read_cons_eq_ok_iff.mpr ⟨d', htakes, ih (List.nodup_cons.mp hkeys).2 hrest⟩
  | swap a b rest =>
    obtain ⟨d₁, hb, hread⟩ := read_cons_eq_ok_iff.mp hread
    obtain ⟨d₂, ha, hread⟩ := read_cons_eq_ok_iff.mp hread
    have hne : b.1 ≠ a.1 := by
      intro he
      simp [he] at hkeys
    obtain ⟨d', ha, hb⟩ := hb.swap ha hne
    exact read_cons_eq_ok_iff.mpr ⟨d', ha, read_cons_eq_ok_iff.mpr ⟨d₂, hb, hread⟩⟩
  | trans h _ ih ih' =>
    exact ih' ((h.map (·.1)).nodup_iff.mp hkeys) (ih hkeys hread)

end Definition

/-! ## Definitions -/

/-- What is read as a definition in full. -/
def IsInFull : Json → Prop
  | .object fields => "type" ∈ fields.map (·.1)
  | _ => False

/-- Anything else stands for itself. -/
theorem parse_of_not_isInFull (h : ¬ IsInFull v) : parse name v = .ok (inline name v) := by
  unfold parse
  split
  · next fields =>
    rw [if_neg (Fields.isSome_get?_iff.not.mpr h)]
  · rfl

/-- What is made of a definition in full once its keys have been read. -/
theorem parse_of_read {d : Definition} (hfull : IsInFull (.object fields))
    (hread : Definition.read {} fields = .ok d) :
    parse name (.object fields) =
      (ofDefinition name d).mapError (.invalidContextVariable name) := by
  have hbind : (Definition.read {} fields >>= ofDefinition name) = ofDefinition name d := by
    rw [hread]
    rfl
  rw [parse, if_pos (Fields.isSome_get?_iff.mpr hfull), hbind]
  cases ofDefinition name d with
  | error reason => rfl
  | ok v => rfl

theorem parse_of_perm {fields : List (String × Json)} {d : Definition}
    (hperm : fields.Perm fields') (hfull : IsInFull (.object fields'))
    (hkeys : (fields'.map (·.1)).Nodup) (hread : Definition.read {} fields' = .ok d) :
    parse name (.object fields) =
      (ofDefinition name d).mapError (.invalidContextVariable name) :=
  parse_of_read ((hperm.map (·.1)).mem_iff.mpr hfull)
    (Definition.read_perm hperm.symm hkeys hread)

theorem optional_of_ne_null (h : v ≠ .null) : v.optional = some v := by
  cases v with
  | null => exact absurd rfl h
  | bool => rfl
  | number => rfl
  | string => rfl
  | array => rfl
  | object => rfl

/-- The keys of a definition of a value. -/
def staticFields (v : Json) : List (String × Json) :=
  [("type", .string "static"), ("value", v)]

/-- The keys of a definition by an environment variable. -/
def environmentFields (kind envName : String) (fallback : Json) : List (String × Json) :=
  [("type", .string kind), ("value", .string envName), ("default", fallback)]

/-- A value that is spelt out is defined if it is not taken for a missing one. -/
theorem parse_static (hfields : fields.Perm (staticFields v)) :
    parse name (.object fields) =
      match v.optional with
      | some w => .ok (inline name w)
      | none => .error (.invalidContextVariable name missingValue) := by
  have hread : Definition.read {} (staticFields v) =
      .ok { kind := "static", value := v.optional } := rfl
  rw [parse_of_perm hfields (by simp [IsInFull, staticFields]) (by simp [staticFields]) hread]
  cases v.optional <;> rfl

theorem parse_environment {kind envName : String} {d : Json}
    (hkind : SourceKind.ofName? kind = some .environment) (hname : Text.allBlank envName = false)
    (hfields : fields.Perm (environmentFields kind envName d)) :
    parse name (.object fields) =
      .ok { name, source := .environment (Text.trim envName), fallback := d.optional } := by
  have hread : Definition.read {} (environmentFields kind envName d) =
      .ok { kind, value := some (.string envName), fallback := d.optional } := rfl
  rw [parse_of_perm hfields (by simp [IsInFull, environmentFields])
    (by simp [environmentFields]) hread]
  simp [ofDefinition, hkind, coercionNamed, sourceOf, environmentName, hname, Except.map, bind,
    Except.bind, Except.mapError]

/-! ## What is lost -/

/-- A definition in full says what it spells out, in whatever order: a value is defined as it would
be inline and as it would be by itself if that is no definition in full, and an unset environment
variable has its default for a value, texts trimmed. Null alone says nothing: it is refused as a
value, and as a default it leaves the variable without one. -/
theorem parse_inFull (name : String) :
    (∀ v fields, fields.Perm (staticFields v) →
      (v ≠ .null → parse name (.object fields) = .ok (inline name v) ∧
        (¬ IsInFull v → parse name (.object fields) = parse name v)) ∧
      (v = .null → parse name (.object fields) =
        .error (.invalidContextVariable name missingValue))) ∧
    ∀ kind envName d fields, SourceKind.ofName? kind = some .environment →
      Text.allBlank envName = false → fields.Perm (environmentFields kind envName d) →
      ∃ spec, parse name (.object fields) = .ok spec ∧
        ∀ (σ : Type) (env : Environment) (sh : Shell σ) (s : σ), env (Text.trim envName) = none →
          (d ≠ .null → resolveAll env sh [spec] s = (.ok (.ofList [(name, trimmed d)]), s)) ∧
          (d = .null → resolveAll env sh [spec] s =
            (.error (.missingEnvironmentVariable (Text.trim envName) name), s)) := by
  refine ⟨fun v fields hfields => ⟨fun hv => ?_, fun hv => ?_⟩,
    fun kind envName d fields hkind hname hfields =>
      ⟨_, parse_environment hkind hname hfields, fun σ env sh s hunset => ⟨fun hd => ?_, fun hd => ?_⟩⟩⟩
  · have hinline : parse name (.object fields) = .ok (inline name v) := by
      rw [parse_static hfields, optional_of_ne_null hv]
    exact ⟨hinline, fun hfull => hinline.trans (parse_of_not_isInFull hfull).symm⟩
  · rw [parse_static hfields, hv]
    rfl
  · simp [resolveAll, resolveEach, resolve, rawValue, hunset, optional_of_ne_null hd, coerced]
  · simp [resolveAll, resolveEach, resolve, rawValue, hunset, hd, Json.optional]

/-- No variable is set. -/
def bare : Environment := fun _ => none

/-- Nothing is started. -/
def idle : Shell Unit := fun _ s => (default, s)

/-- A value that would be taken for a definition if it stood by itself. -/
def lookalike : Json := .object [("type", .string "env"), ("value", .null)]

theorem parse_inFull_reordered :
    parse "x" (.object (staticFields lookalike).reverse) = .ok (inline "x" lookalike) ∧
    parse "x" (.object (staticFields (.array [.null]))) = parse "x" (.array [.null]) ∧
    parse "x" (.object (staticFields .null)) =
      .error (.invalidContextVariable "x" missingValue) ∧
    ∃ spec, parse "x" (.object (environmentFields "environment" " NAME" (.string " b ")).reverse) =
        .ok spec ∧
      resolveAll bare idle [spec] () = (.ok (.ofList [("x", .string "b")]), ()) := by
  obtain ⟨hstatic, henvironment⟩ := parse_inFull "x"
  refine ⟨((hstatic lookalike _ (List.reverse_perm _)).1 nofun).1,
    ((hstatic (.array [.null]) _ (.refl _)).1 nofun).2 id, (hstatic .null _ (.refl _)).2 rfl, ?_⟩
  obtain ⟨spec, hspec, hresolve⟩ := henvironment "environment" " NAME" (.string " b ") _ rfl
    (by decide +kernel) (List.reverse_perm _)
  have htrim : trimmed (.string " b ") = .string "b" :=
    congrArg Json.string (by decide +kernel : Text.trim " b " = "b")
  exact ⟨spec, hspec, htrim ▸ (hresolve Unit bare idle () rfl).1 nofun⟩

/-- Null is defined by itself but not in full, and it is no default. -/
theorem null_lost :
    parse "x" .null = .ok (inline "x" .null) ∧
    parse "x" (.object (staticFields .null)) =
      .error (.invalidContextVariable "x" missingValue) ∧
    ∃ spec, parse "x" (.object (environmentFields "env" "NAME" .null)) = .ok spec ∧
      resolveAll bare idle [spec] () = (.error (.missingEnvironmentVariable "NAME" "x"), ()) := by
  have htrim : Text.trim "NAME" = "NAME" := by decide +kernel
  exact ⟨rfl, rfl, _, parse_environment rfl (by decide +kernel) (.refl _), by rw [htrim]; rfl⟩

end Variable
end Stencil
