import Stencil.Proofs.Config.Settings
import Stencil.Proofs.Resolution.Started

/-! The variables that a document defines. Main statement: only the sequence of the definitions
counts, not how they are spread over mappings; there is one variable for each name, where the name
came up first, and it is what the last definition of the name says. -/
namespace Stencil

namespace Variable

variable {name : String} {v : Json} {x : Variable}

theorem name_of_ofDefinition {d : Definition} (h : ofDefinition name d = .ok x) :
    x.name = name := by
  unfold ofDefinition at h
  split at h
  · simp at h
  next kind _ =>
  cases hcoercion : coercionNamed d.coercion with
  | error e => simp [hcoercion, bind, Except.bind] at h
  | ok coercion =>
    cases hsource : sourceOf name kind d.value with
    | error e => simp [hcoercion, hsource, bind, Except.bind] at h
    | ok source =>
      simp only [hcoercion, hsource, bind, Except.bind, Except.ok.injEq] at h
      rw [← h]

/-- A variable has the name under which it is defined. -/
theorem name_of_parse (h : parse name v = .ok x) : x.name = name := by
  unfold parse at h
  split at h
  · next fields =>
    split at h
    · split at h
      · next found hread =>
        obtain rfl := Except.ok.inj h
        cases hd : Definition.read {} fields with
        | error e => simp [hd, bind, Except.bind] at hread
        | ok d => exact name_of_ofDefinition (by simpa [hd, bind, Except.bind] using hread)
      · simp at h
    · rw [← Except.ok.inj h]
      rfl
  · rw [← Except.ok.inj h]
    rfl

end Variable

namespace Config

variable {v w doc : Json} {fs gs ds : List (List (String × Json))}
  {entries folded other : List (String × Json)} {what : String}

/-! ## Folded entries -/

/-- A value that consists of mappings: of none, of one, or of a list of them. -/
inductive Mappings : Json → List (List (String × Json)) → Prop
  | nothing : Mappings .null []
  | one (fields : List (String × Json)) : Mappings (.object fields) [fields]
  | several (fs : List (List (String × Json))) : Mappings (.array (fs.map .object)) fs

/-- An entry that no later one with its name replaces. -/
def Stands (entries : List (String × Json)) (e : String × Json) : Prop :=
  ∃ front rest, entries = front ++ e :: rest ∧ e.1 ∉ rest.map (·.1)

/-- The entries with each name once, where it came up first and with the value that came last. -/
structure IsFolded (entries folded : List (String × Json)) : Prop where
  nodup : (folded.map (·.1)).Nodup
  order : folded.map (·.1) = (entries.map (·.1)).eraseDups
  stands : ∀ e ∈ folded, Stands entries e

theorem isFolded_merge (entries : List (String × Json)) :
    IsFolded entries (Fields.merge [] entries) := by
  refine ⟨Fields.nodup_merge entries, Fields.map_fst_merge entries, fun e he => ?_⟩
  obtain ⟨later, earlier, hsplit, hlater⟩ := List.lookup_eq_some_iff.mp (Fields.mem_merge_iff.mp he)
  refine ⟨earlier.reverse, later.reverse, by simpa using congrArg List.reverse hsplit, ?_⟩
  intro hmem
  obtain ⟨f, hf, hname⟩ := List.mem_map.mp hmem
  simpa [hname] using hlater f (List.mem_reverse.mp hf)

/-- No two entries stand under one name. -/
theorem Stands.unique {e f : String × Json} (he : Stands entries e) (hf : Stands entries f)
    (hname : e.1 = f.1) : e = f := by
  obtain ⟨front, rest, rfl, hrest⟩ := he
  obtain ⟨front', rest', hsame, hrest'⟩ := hf
  rcases List.append_eq_append_iff.mp hsame with ⟨mid, -, hmid⟩ | ⟨mid, -, hmid⟩
  · cases mid with
    | nil => exact (List.cons.inj hmid).1
    | cons g mid =>
      obtain ⟨rfl, rfl⟩ := List.cons.inj hmid
      exact absurd (by simp [hname]) hrest
  · cases mid with
    | nil => exact (List.cons.inj hmid).1.symm
    | cons g mid =>
      obtain ⟨rfl, rfl⟩ := List.cons.inj hmid
      exact absurd (by simp [hname]) hrest'

/-- Entries can be folded in one way only. -/
theorem IsFolded.unique (h : IsFolded entries folded) (g : IsFolded entries other) :
    folded = other := by
  have hlength : folded.length = other.length := by
    simpa using congrArg List.length (h.order.trans g.order.symm)
  refine List.ext_getElem hlength fun i hi hi' => ?_
  have hname : (folded[i]).1 = (other[i]).1 := by
    have hget := congrArg (·[i]?) (h.order.trans g.order.symm)
    simpa [hi, hi'] using hget
  exact (h.stands _ (List.getElem_mem hi)).unique (g.stands _ (List.getElem_mem hi')) hname

theorem fragments_eq_ok_iff : fragments what v = .ok fs ↔ Mappings v fs := by
  constructor
  · intro h
    cases v with
    | null =>
      obtain rfl := Except.ok.inj h
      exact .nothing
    | object fields =>
      obtain rfl := Except.ok.inj h
      exact .one fields
    | array items =>
      have hitems : items = fs.map .object := by
        rw [fragments] at h
        induction items generalizing fs with
        | nil =>
          obtain rfl : [] = fs := Except.ok.inj h
          rfl
        | cons item items ih =>
          rw [List.mapM_cons] at h
          cases hitem : fragment what item with
          | error f => simp [hitem, bind, Except.bind] at h
          | ok fields =>
            cases hrest : items.mapM (fragment what) with
            | error f => simp [hitem, hrest, bind, Except.bind] at h
            | ok more =>
              obtain rfl : fields :: more = fs := by
                simpa [hitem, hrest, bind, Except.bind, pure, Except.pure] using h
              obtain rfl : item = .object fields := by
                cases item <;> simp [fragment] at hitem
                rw [hitem]
              rw [ih hrest, List.map_cons]
      rw [hitems]
      exact .several fs
    | _ => simp [fragments] at h
  · intro h
    cases h with
    | nothing => rfl
    | one fields => rfl
    | several => exact fragments_objects what fs

theorem foldEntries_of_mappings (h : Mappings v fs) (what : String) :
    foldEntries what v = .ok (Fields.merge [] fs.flatten) := by
  rw [foldEntries, fragments_eq_ok_iff.mpr h, Fields.merge, List.foldl_flatten]
  rfl

/-- What is folded are the entries of the mappings, and nothing but mappings is accepted. -/
theorem foldEntries_eq_ok_iff :
    foldEntries what v = .ok folded ↔ ∃ fs, Mappings v fs ∧ IsFolded fs.flatten folded := by
  constructor
  · intro h
    cases hfragments : fragments what v with
    | error f => simp [foldEntries, hfragments, Except.map] at h
    | ok fs =>
      have hv := fragments_eq_ok_iff.mp hfragments
      obtain rfl := Except.ok.inj ((foldEntries_of_mappings hv what).symm.trans h)
      exact ⟨fs, hv, isFolded_merge _⟩
  · rintro ⟨fs, hv, hfolded⟩
    rw [foldEntries_of_mappings hv, (isFolded_merge _).unique hfolded]

/-- What an entry says that a later one replaces counts for nothing. -/
theorem IsFolded.redefine {front rest : List (String × Json)} {name : String} {d : Json}
    (h : IsFolded (front ++ (name, d) :: rest) folded) (hagain : name ∈ rest.map (·.1)) (d' : Json) :
    IsFolded (front ++ (name, d') :: rest) folded := by
  refine ⟨h.nodup, by simpa using h.order, fun e he => ?_⟩
  obtain ⟨before, after, hsplit, hafter⟩ := h.stands e he
  -- The entry that stands is another one, so it is in front of the replaced one or behind it.
  rcases List.append_eq_append_iff.mp hsplit with ⟨mid, rfl, hmid⟩ | ⟨mid, rfl, hmid⟩
  · cases mid with
    | nil =>
      obtain ⟨rfl, rfl⟩ := List.cons.inj hmid
      exact absurd hagain hafter
    | cons f mid =>
      obtain ⟨rfl, rfl⟩ := List.cons.inj hmid
      exact ⟨front ++ (name, d') :: mid, after, by simp, hafter⟩
  · cases mid with
    | nil =>
      obtain ⟨rfl, rfl⟩ := List.cons.inj hmid
      exact absurd hagain hafter
    | cons f mid =>
      obtain ⟨rfl, rfl⟩ := List.cons.inj hmid
      refine ⟨before, mid ++ (name, d') :: rest, by simp, ?_⟩
      simpa using hafter

/-! ## Variables -/

/-- The variables of entries, each read by itself. -/
def parseAll (entries : List (String × Json)) : Except Failure (List Variable) :=
  entries.mapM fun e => Variable.parse e.1 e.2

theorem parseAll_cons_eq_ok_iff {e : String × Json} {xs : List Variable} :
    parseAll (e :: entries) = .ok xs ↔
      ∃ x rest, Variable.parse e.1 e.2 = .ok x ∧ parseAll entries = .ok rest ∧ xs = x :: rest := by
  rw [parseAll, List.mapM_cons, ← parseAll]
  cases Variable.parse e.1 e.2 with
  | error f => simp [bind, Except.bind]
  | ok x =>
    cases parseAll entries with
    | error f => simp [bind, Except.bind]
    | ok rest => simp [bind, Except.bind, pure, Except.pure, eq_comm]

/-- Variables are named as their entries are, and each is made of one of them. -/
theorem spec_of_parseAll {xs : List Variable} (h : parseAll entries = .ok xs) :
    xs.map (·.name) = entries.map (·.1) ∧
      ∀ x ∈ xs, ∃ d, (x.name, d) ∈ entries ∧ Variable.parse x.name d = .ok x := by
  induction entries generalizing xs with
  | nil =>
    obtain rfl : [] = xs := Except.ok.inj h
    simp
  | cons e entries ih =>
    obtain ⟨x, rest, hx, hrest, rfl⟩ := parseAll_cons_eq_ok_iff.mp h
    have hname := Variable.name_of_parse hx
    obtain ⟨hnames, hmade⟩ := ih hrest
    refine ⟨by rw [List.map_cons, List.map_cons, hnames, hname], fun y hy => ?_⟩
    rcases List.mem_cons.mp hy with rfl | hy
    · exact ⟨e.2, by simp [hname], hname ▸ hx⟩
    · obtain ⟨d, hd, hparse⟩ := hmade y hy
      exact ⟨d, List.mem_cons_of_mem _ hd, hparse⟩

theorem exists_parseAll_iff : (∃ xs, parseAll entries = .ok xs) ↔
    ∀ e ∈ entries, ∃ x, Variable.parse e.1 e.2 = .ok x := by
  induction entries with
  | nil => simp [parseAll, pure, Except.pure]
  | cons e entries ih =>
    rw [List.forall_mem_cons, ← ih]
    constructor
    · rintro ⟨xs, h⟩
      obtain ⟨x, rest, hx, hrest, -⟩ := parseAll_cons_eq_ok_iff.mp h
      exact ⟨⟨x, hx⟩, rest, hrest⟩
    · rintro ⟨⟨x, hx⟩, rest, hrest⟩
      exact ⟨_, parseAll_cons_eq_ok_iff.mpr ⟨x, rest, hx, hrest, rfl⟩⟩

/-- The variables that entries define: one for each name, in the order in which the names came up,
made of the entry that stands. -/
structure AreDefined (entries : List (String × Json)) (xs : List Variable) : Prop where
  nodup : (xs.map (·.name)).Nodup
  order : xs.map (·.name) = (entries.map (·.1)).eraseDups
  stands : ∀ x ∈ xs, ∃ d, Stands entries (x.name, d) ∧ Variable.parse x.name d = .ok x

theorem IsFolded.areDefined {xs : List Variable} (h : IsFolded entries folded)
    (hxs : parseAll folded = .ok xs) : AreDefined entries xs := by
  obtain ⟨hnames, hmade⟩ := spec_of_parseAll hxs
  refine ⟨hnames ▸ h.nodup, hnames.trans h.order, fun x hx => ?_⟩
  obtain ⟨d, hd, hparse⟩ := hmade x hx
  exact ⟨d, h.stands _ hd, hparse⟩

/-- An entry that stands is folded. -/
theorem IsFolded.mem_iff {e : String × Json} (h : IsFolded entries folded) :
    e ∈ folded ↔ Stands entries e := by
  refine ⟨h.stands e, fun hstands => ?_⟩
  have hname : e.1 ∈ folded.map (·.1) := by
    obtain ⟨front, rest, rfl, -⟩ := hstands
    rw [h.order, List.mem_eraseDups]
    simp
  obtain ⟨f, hf, hsame⟩ := List.mem_map.mp hname
  rwa [← (h.stands f hf).unique hstands hsame]

theorem contextSetting_eq (hv : Mappings v fs) (h : IsFolded fs.flatten folded) :
    contextSetting v = parseAll folded := by
  rw [contextSetting, foldEntries_eq_ok_iff.mpr ⟨fs, hv, h⟩]
  rfl

theorem isNamedBy_context : Setting.context.isNamedBy "context" = true := by decide

theorem last?_context_of_stands (h : Stands entries ("context", v)) :
    last? .context entries = some ("context", v) := by
  obtain ⟨front, rest, rfl, hrest⟩ := h
  refine List.find?_eq_some_iff_append.mpr
    ⟨isNamedBy_context, rest.reverse, front.reverse, by simp, fun f hf => ?_⟩
  have hnot : Setting.context.isNamedBy f.1 ≠ true := fun hnamed => hrest (List.mem_map.mpr
    ⟨f, List.mem_reverse.mp hf, eq_of_isNamedBy (by decide) hnamed isNamedBy_context⟩)
  simpa using hnot

theorem ofJson_of_mappings (h : Mappings doc ds) : ofJson doc = ofJson (document ds) := by
  rw [ofJson, ofJson, foldEntries_of_mappings h, document, foldEntries_of_mappings (.several ds)]

theorem set_context_eq_ok_iff {c d : Config} :
    set c .context v = .ok d ↔ ∃ xs, contextSetting v = .ok xs ∧ d = { c with context := xs } := by
  rw [set]
  cases contextSetting v <;> simp [Except.map, eq_comm]

/-- The context of a configuration is read from the entry `context` that stands. -/
theorem contextSetting_of_ofJson {c : Config} (hdoc : Mappings doc ds)
    (hcontext : Stands ds.flatten ("context", v)) (h : ofJson doc = .ok c) :
    contextSetting v = .ok c.context := by
  have hobtained := value_ofJson (ofJson_of_mappings hdoc ▸ h) .context
  rw [deciding?_of_ne_engine (by decide), last?_context_of_stands hcontext] at hobtained
  obtain ⟨key, d, hkey, hset, hvalue⟩ := hobtained
  obtain rfl : Key.context = key := Option.some.inj ((Key.ofName?_name .context).symm.trans hkey)
  obtain ⟨xs, hxs, rfl⟩ := set_context_eq_ok_iff.mp hset
  exact hxs.trans (congrArg Except.ok hvalue.symm)

/-- A document of nothing but a context is accepted if the context is. -/
theorem exists_ofJson_context_iff :
    (∃ c, ofJson (.object [("context", v)]) = .ok c) ↔ ∃ xs, contextSetting v = .ok xs := by
  have hkey : Key.ofName? "context" = some .context := Key.ofName?_name .context
  have hmerge : Fields.merge [] [[("context", v)]].flatten = [("context", v)] := rfl
  rw [ofJson_of_mappings (.one _), exists_ofJson_iff, hmerge, List.forall_mem_singleton]
  constructor
  · rintro ⟨key, d, hname, hset⟩
    obtain rfl : Key.context = key := Option.some.inj (hkey.symm.trans hname)
    obtain ⟨xs, hxs, -⟩ := set_context_eq_ok_iff.mp hset
    exact ⟨xs, hxs⟩
  · rintro ⟨xs, hxs⟩
    exact ⟨.context, _, hkey, set_context_eq_ok_iff.mpr ⟨xs, hxs, rfl⟩⟩

/-- A configuration's variables depend on the sequence of the definitions only. A context is folded
to one entry for each name, where the name came up first and with the value that came last, however
the definitions are spread over mappings and whatever a definition says that is replaced later. A
configuration has one variable for each of these entries, in their order; so its commands are those
of definitions that stand, and it is accepted if those make sense. -/
theorem variables_of_definitions (hv : Mappings v fs) :
    (∀ what folded, foldEntries what v = .ok folded ↔ IsFolded fs.flatten folded) ∧
    (∀ what, ∃ folded, foldEntries what v = .ok folded) ∧
    (∀ what w gs, Mappings w gs → gs.flatten = fs.flatten →
      foldEntries what w = foldEntries what v) ∧
    (∀ front name d rest, fs.flatten = front ++ (name, d) :: rest → name ∈ rest.map (·.1) →
      ∀ what w gs d', Mappings w gs → gs.flatten = front ++ (name, d') :: rest →
        foldEntries what w = foldEntries what v) ∧
    (∀ doc ds c, Mappings doc ds → Stands ds.flatten ("context", v) → ofJson doc = .ok c →
      AreDefined fs.flatten c.context ∧
      ∀ command, (∀ e x, Stands fs.flatten e → Variable.parse e.1 e.2 = .ok x →
        command ∉ x.commands) → ∀ x ∈ c.context, command ∉ x.commands) ∧
    ((∃ c, ofJson (.object [("context", v)]) = .ok c) ↔
      ∀ e, Stands fs.flatten e → ∃ x, Variable.parse e.1 e.2 = .ok x) := by
  have hfolded := isFolded_merge fs.flatten
  have hfold : ∀ what, foldEntries what v = .ok (Fields.merge [] fs.flatten) :=
    foldEntries_of_mappings hv
  have hcontext : contextSetting v = parseAll (Fields.merge [] fs.flatten) :=
    contextSetting_eq hv hfolded
  refine ⟨fun what folded => ?_, fun what => ⟨_, hfold what⟩, fun what w gs hw hsame => ?_,
    fun front name d rest hsplit hagain what w gs d' hw hsplit' => ?_,
    fun doc ds c hdoc hstands hc => ?_, ?_⟩
  · rw [hfold]
    exact ⟨fun h => Except.ok.inj h ▸ hfolded, fun h => congrArg Except.ok (hfolded.unique h)⟩
  · rw [hfold, foldEntries_of_mappings hw, hsame]
  · have hreplaced : IsFolded (front ++ (name, d) :: rest) (Fields.merge [] fs.flatten) := by
      rw [← hsplit]
      exact hfolded
    have hsame := (isFolded_merge gs.flatten).unique (hsplit' ▸ hreplaced.redefine hagain d')
    rw [hfold, foldEntries_of_mappings hw, hsame]
  · have hxs := hcontext.symm.trans (contextSetting_of_ofJson hdoc hstands hc)
    have hdefined := hfolded.areDefined hxs
    refine ⟨hdefined, fun command hnone x hx => ?_⟩
    obtain ⟨d, hd, hparse⟩ := hdefined.stands x hx
    exact hnone _ x hd hparse
  · rw [exists_ofJson_context_iff, hcontext, exists_parseAll_iff]
    exact forall_congr' fun e => by rw [hfolded.mem_iff]

/-- A command that is replaced by a text, in a document of several mappings. -/
def replacedCommand : List (List (String × Json)) :=
  [[("name", .object [("type", .string "shell"), ("value", .string "whoami")])],
    [("other", .string "kept"), ("name", .string "second")]]

theorem ofJson_replacedCommand :
    ofJson (document [[("context", document replacedCommand)]]) =
      .ok { context := [.inline "name" (.string "second"), .inline "other" (.string "kept")] } := by
  rfl

theorem variables_of_definitions_replacedCommand :
    Mappings (document replacedCommand) replacedCommand ∧
      AreDefined replacedCommand.flatten
        [.inline "name" (.string "second"), .inline "other" (.string "kept")] := by
  refine ⟨.several _, ?_⟩
  obtain ⟨-, -, -, -, hcontext, -⟩ := variables_of_definitions (.several replacedCommand)
  exact (hcontext _ [[("context", document replacedCommand)]] _ (.several _)
    ⟨[], [], rfl, by simp⟩ ofJson_replacedCommand).1

end Config
end Stencil
