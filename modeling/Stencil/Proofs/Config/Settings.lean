import Stencil.Proofs.Config.Fragments
import Mathlib.Data.Set.List

/-! Which fragment of a document settles what. Main statement: each setting is read from the last
entry under its key; of the two keys of the engine, the one that came up later decides. -/
namespace Stencil
namespace Config

/-- What a configuration settles. -/
inductive Setting where
  | context
  | exclude
  | ignoreFiles
  | engine
  | templateMatcher
  | childFlag
  | setup
  deriving DecidableEq

/-- What a setting may be. -/
abbrev Setting.Value : Setting → Type
  | context => List Variable
  | exclude | ignoreFiles | setup => List String
  | engine => EngineOptions
  | templateMatcher | childFlag => String

/-- The engine has two keys. -/
def Key.setting : Key → Setting
  | context => .context
  | exclude => .exclude
  | ignoreFiles => .ignoreFiles
  | engine | jinja => .engine
  | templateMatcher => .templateMatcher
  | childFlag => .childFlag
  | setup => .setup

def value (c : Config) : (s : Setting) → s.Value
  | .context => c.context
  | .exclude => c.exclude
  | .ignoreFiles => c.ignoreFiles
  | .engine => c.engine
  | .templateMatcher => c.templateMatcher
  | .childFlag => c.childFlag
  | .setup => c.setup

/-- One setting as another configuration has it. -/
def taking (c d : Config) : Setting → Config
  | .context => { c with context := d.context }
  | .exclude => { c with exclude := d.exclude }
  | .ignoreFiles => { c with ignoreFiles := d.ignoreFiles }
  | .engine => { c with engine := d.engine }
  | .templateMatcher => { c with templateMatcher := d.templateMatcher }
  | .childFlag => { c with childFlag := d.childFlag }
  | .setup => { c with setup := d.setup }

@[simp] theorem value_taking_self (c d : Config) (s : Setting) :
    (c.taking d s).value s = d.value s := by cases s <;> rfl

theorem value_taking_of_ne (c d : Config) {s other : Setting} (h : other ≠ s) :
    (c.taking d s).value other = c.value other := by
  cases s <;> cases other <;> first | rfl | exact absurd rfl h

variable {c c' d : Config} {s : Setting} {key : Key} {v : Json} {ks : List (Key × Json)}
  {entries more : List (String × Json)} {fragments : List (List (String × Json))}

/-- An entry changes the setting of its key, and what it is changed to depends on the entry
alone. -/
theorem set_eq (c : Config) (key : Key) (v : Json) :
    c.set key v = (set {} key v).map fun d => c.taking d key.setting := by
  have hmap : ∀ {β : Type} (x : Except Failure β) (f : β → Config) (g : Config → Config),
      (x.map f).map g = x.map (g ∘ f) := by
    intro β x f g
    cases x <;> rfl
  cases key <;> simp only [set, hmap] <;> rfl

/-! ## All entries -/

theorem exists_setAll_iff (c : Config) (ks : List (Key × Json)) :
    (∃ c', c.setAll ks = .ok c') ↔ ∀ e ∈ ks, ∃ d, set {} e.1 e.2 = .ok d := by
  induction ks generalizing c with
  | nil => simp [setAll]
  | cons e rest ih =>
    obtain ⟨key, v⟩ := e
    rw [List.forall_mem_cons, setAll, set_eq]
    cases hset : set {} key v with
    | error f => simp [Except.map, bind, Except.bind]
    | ok d => simpa [Except.map, bind, Except.bind] using ih _

/-- A setting is as the last entry with a key of it has it. -/
theorem value_setAll (h : c.setAll ks = .ok c') (s : Setting) :
    match ks.reverse.find? fun e => e.1.setting = s with
    | none => c'.value s = c.value s
    | some e => ∃ d, set {} e.1 e.2 = .ok d ∧ c'.value s = d.value s := by
  induction ks generalizing c with
  | nil =>
    obtain rfl : c = c' := Except.ok.inj h
    rfl
  | cons e rest ih =>
    obtain ⟨key, v⟩ := e
    rw [setAll, set_eq] at h
    cases hset : set {} key v with
    | error f => simp [hset, Except.map, bind, Except.bind] at h
    | ok d =>
      replace h : (c.taking d key.setting).setAll rest = .ok c' := by
        simpa [hset, Except.map, bind, Except.bind] using h
      have hrest := ih h
      rw [List.reverse_cons, List.find?_append]
      cases hfind : rest.reverse.find? fun e => e.1.setting = s with
      | some e => simpa [hfind] using hrest
      | none =>
        simp only [hfind] at hrest
        by_cases hs : key.setting = s
        · subst hs
          simpa [hset] using hrest
        · simpa [hs, value_taking_of_ne c d (Ne.symm hs)] using hrest

theorem Key.ofName?_eq_some_iff {name : String} :
    Key.ofName? name = some key ↔ key.name = name := by
  refine ⟨fun h => ?_, fun h => h ▸ ofName?_name key⟩
  simpa using List.find?_some h

theorem keyed_cons (name : String) (v : Json) (rest : List (String × Json)) :
    keyed ((name, v) :: rest) =
      match Key.ofName? name with
      | some key => (keyed rest).map ((key, v) :: ·)
      | none => .error (.unknownConfigKey name (suggestion name)) := by
  rw [keyed, List.mapM_cons, ← keyed]
  cases Key.ofName? name with
  | none => rfl
  | some key => cases keyed rest <;> rfl

theorem keyed_map (ks : List (Key × Json)) : keyed (ks.map fun e => (e.1.name, e.2)) = .ok ks := by
  induction ks with
  | nil => rfl
  | cons e rest ih => simp [keyed_cons, Key.ofName?_name, ih, Except.map]

/-- The keys of a document are known. -/
theorem keyed_eq_ok_iff : keyed entries = .ok ks ↔ entries = ks.map fun e => (e.1.name, e.2) := by
  refine ⟨fun h => ?_, fun h => h ▸ keyed_map ks⟩
  induction entries generalizing ks with
  | nil =>
    obtain rfl : [] = ks := Except.ok.inj h
    rfl
  | cons e rest ih =>
    obtain ⟨name, v⟩ := e
    rw [keyed_cons] at h
    split at h
    · next key hname =>
      cases hrest : keyed rest with
      | error f => simp [hrest, Except.map] at h
      | ok others =>
        obtain rfl : (key, v) :: others = ks := by simpa [hrest, Except.map] using h
        rw [List.map_cons, ← ih hrest, Key.ofName?_eq_some_iff.mp hname]
    · cases h

/-! ## Documents -/

/-- A document of several mappings. -/
def document (fragments : List (List (String × Json))) : Json :=
  .array (fragments.map .object)

theorem ofJson_document_eq_ok_iff : ofJson (document fragments) = .ok c ↔
    ∃ ks, Fields.merge [] fragments.flatten = ks.map (fun e => (e.1.name, e.2)) ∧
      setAll {} ks = .ok c := by
  rw [ofJson, document, foldEntries_objects]
  simp only [bind, Except.bind]
  constructor
  · intro h
    cases hkeyed : keyed (Fields.merge [] fragments.flatten) with
    | error f => simp [hkeyed] at h
    | ok ks => exact ⟨ks, keyed_eq_ok_iff.mp hkeyed, by simpa [hkeyed] using h⟩
  · rintro ⟨ks, hks, h⟩
    simpa [keyed_eq_ok_iff.mpr hks] using h

/-- Whether a key names a setting. -/
def Setting.isNamedBy (s : Setting) (key : String) : Bool :=
  (Key.ofName? key).map Key.setting = some s

@[simp] theorem isNamedBy_name : s.isNamedBy key.name = decide (key.setting = s) := by
  simp [Setting.isNamedBy, Key.ofName?_name]

/-- The last entry that names a setting. -/
def last? (s : Setting) (entries : List (String × Json)) : Option (String × Json) :=
  entries.reverse.find? fun e => s.isNamedBy e.1

/-- Of the keys that name a setting, the one that came up last. -/
def newest? (s : Setting) (entries : List (String × Json)) : Option String :=
  (entries.map (·.1)).eraseDups.reverse.find? s.isNamedBy

/-- The last entry with the key that came up last. -/
def deciding? (s : Setting) (entries : List (String × Json)) : Option (String × Json) :=
  (newest? s entries).bind fun key => (entries.reverse.lookup key).map (key, ·)

/-- What an entry, or none, makes of a setting. -/
def Obtained (s : Setting) (x : s.Value) : Option (String × Json) → Prop
  | none => x = value {} s
  | some e => ∃ key d, Key.ofName? e.1 = some key ∧ set {} key e.2 = .ok d ∧ x = d.value s

/-- The entry that decides is the last one in the folded document. -/
theorem deciding?_eq (s : Setting) (entries : List (String × Json)) :
    deciding? s entries = (Fields.merge [] entries).reverse.find? fun e => s.isNamedBy e.1 := by
  have hnewest : newest? s entries =
      ((Fields.merge [] entries).reverse.find? fun e => s.isNamedBy e.1).map (·.1) := by
    rw [newest?, ← Fields.map_fst_merge, ← List.map_reverse, List.find?_map]
    rfl
  rw [deciding?, hnewest]
  cases hfind : (Fields.merge [] entries).reverse.find? fun e => s.isNamedBy e.1 with
  | none => rfl
  | some e =>
    have hmem : e ∈ Fields.merge [] entries := by simpa using List.mem_of_find?_eq_some hfind
    simp [Fields.mem_merge_iff.mp hmem]

theorem value_ofJson (h : ofJson (document fragments) = .ok c) (s : Setting) :
    Obtained s (c.value s) (deciding? s fragments.flatten) := by
  obtain ⟨ks, hks, hset⟩ := ofJson_document_eq_ok_iff.mp h
  have hvalue := value_setAll hset s
  rw [deciding?_eq, hks, ← List.map_reverse, List.find?_map]
  simp only [Function.comp_def, isNamedBy_name]
  cases hfind : ks.reverse.find? fun e => e.1.setting = s with
  | none => simpa [hfind, Obtained] using hvalue
  | some e =>
    obtain ⟨d, hd, hx⟩ : ∃ d, set {} e.1 e.2 = .ok d ∧ c.value s = d.value s := by
      simpa [hfind] using hvalue
    exact ⟨e.1, d, Key.ofName?_name e.1, hd, hx⟩

theorem Obtained.unique {x y : s.Value} {e : Option (String × Json)} (hx : Obtained s x e)
    (hy : Obtained s y e) : x = y := by
  cases e with
  | none => exact hx.trans hy.symm
  | some e =>
    obtain ⟨key, d, hkey, hd, rfl⟩ := hx
    obtain ⟨other, d', hother, hd', rfl⟩ := hy
    obtain rfl := Option.some.inj (hkey.symm.trans hother)
    obtain rfl := Except.ok.inj (hd.symm.trans hd')
    rfl

/-- A document is accepted if each of its last entries makes sense. -/
theorem exists_ofJson_iff : (∃ c, ofJson (document fragments) = .ok c) ↔
    ∀ e ∈ Fields.merge [] fragments.flatten,
      ∃ key d, Key.ofName? e.1 = some key ∧ set {} key e.2 = .ok d := by
  constructor
  · rintro ⟨c, hc⟩ e he
    obtain ⟨ks, hks, hset⟩ := ofJson_document_eq_ok_iff.mp hc
    obtain ⟨⟨key, v⟩, hk, rfl⟩ := List.mem_map.mp (hks ▸ he)
    obtain ⟨d, hd⟩ := (exists_setAll_iff {} ks).mp ⟨c, hset⟩ _ hk
    exact ⟨key, d, Key.ofName?_name key, hd⟩
  · intro h
    have hrange : Fields.merge [] fragments.flatten ∈
        Set.range (List.map fun e : Key × Json => (e.1.name, e.2)) := by
      rw [Set.range_list_map]
      intro e he
      obtain ⟨key, -, hkey, -⟩ := h e he
      exact ⟨(key, e.2), Prod.ext (Key.ofName?_eq_some_iff.mp hkey) rfl⟩
    obtain ⟨ks, hks⟩ := hrange
    obtain ⟨c, hc⟩ := (exists_setAll_iff {} ks).mpr fun e he => by
      obtain ⟨key, d, hkey, hd⟩ := h (e.1.name, e.2) (hks ▸ List.mem_map.mpr ⟨e, he, rfl⟩)
      obtain rfl := Option.some.inj ((Key.ofName?_name e.1).symm.trans hkey)
      exact ⟨d, hd⟩
    exact ⟨c, ofJson_document_eq_ok_iff.mpr ⟨ks, hks.symm, hc⟩⟩

/-! ## The last entry -/

theorem isNamedBy_iff {name : String} :
    s.isNamedBy name = true ↔ ∃ key : Key, key.name = name ∧ key.setting = s := by
  simp [Setting.isNamedBy, Key.ofName?_eq_some_iff]

/-- Only the engine has more than one key. -/
theorem eq_of_isNamedBy (hs : s ≠ .engine) {a b : String} (ha : s.isNamedBy a = true)
    (hb : s.isNamedBy b = true) : a = b := by
  obtain ⟨k, rfl, hk⟩ := isNamedBy_iff.mp ha
  obtain ⟨l, rfl, rfl⟩ := isNamedBy_iff.mp hb
  cases k <;> cases l <;> first | rfl | exact absurd rfl hs | cases hk

theorem newest?_eq_none_iff :
    newest? s entries = none ↔ ∀ e ∈ entries, s.isNamedBy e.1 = false := by
  simp [newest?]

theorem last?_eq_none_iff : last? s entries = none ↔ ∀ e ∈ entries, s.isNamedBy e.1 = false := by
  simp [last?]

theorem isNamedBy_of_newest? {name : String} (h : newest? s entries = some name) :
    s.isNamedBy name = true ∧ name ∈ entries.map (·.1) := by
  refine ⟨List.find?_some h, ?_⟩
  simpa only [List.mem_reverse, List.mem_eraseDups] using List.mem_of_find?_eq_some h

/-- No entry with the key of the last one comes after it. -/
theorem lookup_of_last? {e : String × Json} (h : last? s entries = some e) :
    entries.reverse.lookup e.1 = some e.2 := by
  obtain ⟨hnamed, before, after, hsplit, hbefore⟩ := List.find?_eq_some_iff_append.mp h
  refine List.lookup_eq_some_iff.mpr ⟨before, after, hsplit, fun f hf => ?_⟩
  have hnot : s.isNamedBy f.1 = false := by simpa using hbefore f hf
  simp only [bne_iff_ne, ne_eq]
  intro hsame
  rw [← hsame, hnamed] at hnot
  cases hnot

/-- The last entry decides exactly if its key is the one that came up last. -/
theorem deciding?_eq_last?_iff {e : String × Json} (h : last? s entries = some e) :
    deciding? s entries = some e ↔ newest? s entries = some e.1 := by
  constructor
  · intro hd
    obtain ⟨name, hname, hv⟩ := Option.bind_eq_some_iff.mp hd
    obtain ⟨v, -, rfl⟩ := Option.map_eq_some_iff.mp hv
    exact hname
  · intro hn
    simp [deciding?, hn, lookup_of_last? h]

/-- A setting with one key is decided by its last entry. -/
theorem deciding?_of_ne_engine (hs : s ≠ .engine) (entries : List (String × Json)) :
    deciding? s entries = last? s entries := by
  cases hlast : last? s entries with
  | none => rw [deciding?, newest?_eq_none_iff.mpr (last?_eq_none_iff.mp hlast), Option.bind_none]
  | some e =>
    rw [deciding?_eq_last?_iff hlast]
    cases hnewest : newest? s entries with
    | none => simp [last?_eq_none_iff.mpr (newest?_eq_none_iff.mp hnewest)] at hlast
    | some name =>
      have hnamed : s.isNamedBy e.1 = true := by simpa using List.find?_some hlast
      rw [eq_of_isNamedBy hs (isNamedBy_of_newest? hnewest).1 hnamed]

/-! ## One more fragment -/

theorem newest?_append (s : Setting) (entries more : List (String × Json)) :
    newest? s (entries ++ more) =
      (((more.map (·.1)).removeAll (entries.map (·.1))).eraseDups.reverse.find? s.isNamedBy).or
        (newest? s entries) := by
  rw [newest?, newest?, List.map_append, List.eraseDups_append, List.reverse_append,
    List.find?_append]

/-- A fragment leaves alone what it does not name. -/
theorem deciding?_append_of_last?_eq_none (h : last? s more = none) :
    deciding? s (entries ++ more) = deciding? s entries := by
  have hnot := last?_eq_none_iff.mp h
  have hnewest : newest? s (entries ++ more) = newest? s entries := by
    rw [newest?_append, List.find?_eq_none.mpr, Option.none_or]
    intro name hname
    simp only [List.removeAll, List.mem_reverse, List.mem_eraseDups, List.mem_filter] at hname
    obtain ⟨e, he, rfl⟩ := List.mem_map.mp hname.1
    simp [hnot e he]
  rw [deciding?, deciding?, hnewest]
  cases hn : newest? s entries with
  | none => rfl
  | some name =>
    have hnone : more.reverse.lookup name = none := by
      rw [List.lookup_eq_none_iff]
      intro e he
      simp only [bne_iff_ne, ne_eq]
      rintro rfl
      have hnamed := (isNamedBy_of_newest? hn).1
      rw [hnot e (List.mem_reverse.mp he)] at hnamed
      cases hnamed
    simp [List.lookup_append, hnone]

/-- A fragment decides what it names if no key in the document is newer than its own. -/
theorem deciding?_append (h : last? s more ≠ none)
    (hn : newest? s (entries ++ more) = newest? s more) :
    deciding? s (entries ++ more) = deciding? s more := by
  rw [deciding?, deciding?, hn]
  cases hnewest : newest? s more with
  | none => exact absurd (last?_eq_none_iff.mpr (newest?_eq_none_iff.mp hnewest)) h
  | some name =>
    obtain ⟨e, he, rfl⟩ := List.mem_map.mp (isNamedBy_of_newest? hnewest).2
    obtain ⟨v, hv⟩ := Option.isSome_iff_exists.mp
      (List.lookup_isSome_iff.mpr ⟨e, List.mem_reverse.mpr he, beq_self_eq_true e.1⟩)
    simp [List.lookup_append, hv]

theorem exists_ofJson_append {f : List (String × Json)} (hc : ofJson (document fragments) = .ok c)
    (hd : ofJson (document [f]) = .ok d) :
    ∃ c', ofJson (document (fragments ++ [f])) = .ok c' := by
  refine exists_ofJson_iff.mpr fun e he => ?_
  rw [Fields.mem_merge_iff, List.flatten_append, List.flatten_singleton, List.reverse_append,
    List.lookup_append, Option.or_eq_some_iff] at he
  rcases he with he | ⟨-, he⟩
  · exact exists_ofJson_iff.mp ⟨d, hd⟩ e (Fields.mem_merge_iff.mpr (by simpa using he))
  · exact exists_ofJson_iff.mp ⟨c, hc⟩ e (Fields.mem_merge_iff.mpr he)

/-- Every setting of a document that is a list of mappings is read from the last entry, over all
mappings, with the newest of its keys. This is the last entry that names the setting, but for the
engine only if that entry has the newest key of its two. So one more mapping overrides what it
names and nothing else, the engine if it names it by the key that is the newest. -/
theorem settings_of_fragments (h : ofJson (document fragments) = .ok c) :
    (∀ s, Obtained s (c.value s) (deciding? s fragments.flatten)) ∧
    (∀ s, s ≠ .engine → deciding? s fragments.flatten = last? s fragments.flatten) ∧
    (∀ s e, last? s fragments.flatten = some e →
      (deciding? s fragments.flatten = some e ↔ newest? s fragments.flatten = some e.1)) ∧
    ∀ f d, ofJson (document [f]) = .ok d →
      ∃ c', ofJson (document (fragments ++ [f])) = .ok c' ∧
        (∀ s, last? s f = none → c'.value s = c.value s) ∧
        ∀ s, last? s f ≠ none →
          (s ≠ .engine ∨ newest? s (fragments.flatten ++ f) = newest? s f) →
          c'.value s = d.value s := by
  refine ⟨value_ofJson h, fun s hs => deciding?_of_ne_engine hs _,
    fun s e he => deciding?_eq_last?_iff he, fun f d hd => ?_⟩
  obtain ⟨c', hc'⟩ := exists_ofJson_append h hd
  have hvalue : ∀ s, Obtained s (c'.value s) (deciding? s (fragments.flatten ++ f)) := fun s => by
    simpa using value_ofJson hc' s
  have hvalue' : ∀ s, Obtained s (d.value s) (deciding? s f) := fun s => by
    simpa using value_ofJson hd s
  refine ⟨c', hc', fun s hnone => ?_, fun s hsome hnew => ?_⟩
  · exact (deciding?_append_of_last?_eq_none hnone ▸ hvalue s).unique (value_ofJson h s)
  · have hdecides : deciding? s (fragments.flatten ++ f) = deciding? s f := by
      rcases hnew with hs | hn
      · rw [deciding?_of_ne_engine hs, deciding?_of_ne_engine hs, last?, List.reverse_append,
          List.find?_append]
        exact Option.or_of_isSome (Option.isSome_iff_ne_none.mpr hsome)
      · exact deciding?_append hsome hn
    exact (hdecides ▸ hvalue s).unique (hvalue' s)

/-- A document that names the engine by one key, then by the other, and once more by the first. -/
def twoNames : List (List (String × Json)) :=
  [[("engine", .object [("kind", .string "tera")]), ("jinja", .object [("kind", .string "jinja")])],
    [("engine", .object [("kind", .string "tera")]), ("exclude", .array [.string "target/"])]]

theorem ofJson_twoNames : ofJson (document twoNames) = .ok { exclude := ["target/"] } := by
  rfl

theorem settings_of_fragments_twoNames :
    ofJson (document twoNames) = .ok { exclude := ["target/"] } ∧
      last? .exclude twoNames.flatten = some ("exclude", .array [.string "target/"]) ∧
      deciding? .exclude twoNames.flatten = some ("exclude", .array [.string "target/"]) := by
  refine ⟨ofJson_twoNames, rfl, ?_⟩
  exact ((settings_of_fragments ofJson_twoNames).2.1 .exclude (by decide)).trans rfl

/-- The last entry that names the engine may count for nothing. -/
theorem engine_not_from_last :
    ¬ ∀ (fragments : List (List (String × Json))) (c : Config),
      ofJson (document fragments) = .ok c →
      ∀ s, Obtained s (c.value s) (last? s fragments.flatten) := by
  intro h
  obtain ⟨key, d, hkey, hd, hx⟩ := h twoNames _ ofJson_twoNames .engine
  obtain rfl := Option.some.inj ((Key.ofName?_name .engine).symm.trans hkey)
  have hlast : set {} .engine (.object [("kind", .string "tera")]) =
      .ok { engine := { kind := .tera } } := rfl
  obtain rfl := Except.ok.inj (hlast.symm.trans hd)
  have hkind : EngineKind.jinja = .tera := congrArg EngineOptions.kind hx
  cases hkind

end Config
end Stencil
