import Stencil.Proofs.Json.Tokens

/-! The grammar of documents, and the reader against it. What is read from a text is written there,
and what is written is read as long as its numbers fit and it does not nest too deep. -/
namespace Stencil
namespace Json

open Text Reader

namespace Form

/-- Blanks may stand before and after. -/
def padded (f : Form) : Form := fun cs =>
  ∃ before inner after, IsSkipped before ∧ f inner ∧ IsSkipped after ∧
    cs = before ++ (inner ++ after)

/-- One after the other with a comma between any two. -/
def separated : List Form → Form
  | [] => IsSkipped
  | [f] => f.padded
  | f :: g :: rest => fun cs =>
    ∃ first more, f.padded first ∧ separated (g :: rest) more ∧ cs = first ++ ',' :: more

/-- Between two brackets. -/
def between (left right : Char) (f : Form) : Form := fun cs =>
  ∃ inner, f inner ∧ cs = left :: (inner ++ [right])

/-- A key, and behind a colon its value. -/
def member (key value : Form) : Form := fun cs =>
  ∃ name before after inner, key name ∧ IsSkipped before ∧ IsSkipped after ∧ value inner ∧
    cs = name ++ (before ++ ':' :: (after ++ inner))

end Form

mutual

/-- The texts of a value, without the blanks around it. An integer has its decimal alone; which
float any other literal stands for is left to the reader. -/
def form : Json → Form
  | null => (· = ['n', 'u', 'l', 'l'])
  | bool true => (· = ['t', 'r', 'u', 'e'])
  | bool false => (· = ['f', 'a', 'l', 's', 'e'])
  | number (.int n) => (· = (toString n).toList)
  | number (.float x) => fun cs => ∃ rest, number? (cs ++ rest) = some (.float x, rest)
  | string s => quoted s
  | array items => .between '[' ']' (.separated (forms items))
  | object fields => .between '\x7b' '\x7d' (.separated (memberForms fields))

def forms : List Json → List Form
  | [] => []
  | v :: rest => form v :: forms rest

def memberForms : List (String × Json) → List Form
  | [] => []
  | (key, v) :: rest => .member (quoted key) (form v) :: memberForms rest

end

/-- A text of nothing but one value. -/
def IsText (v : Json) (s : String) : Prop := (form v).padded s.toList

theorem head?_skip_of_between {left right : Char} {f : Form} {cs : List Char}
    (hleft : skip [left] = [left]) (h : (Form.between left right f).padded cs) :
    (skip cs).head? = some left := by
  obtain ⟨before, inner, after, hbefore, ⟨items, -, rfl⟩, -, rfl⟩ := h
  rw [skip_append hbefore]
  by_cases hblank : left = ' ' ∨ left = '\t' ∨ left = '\n' ∨ left = '\r'
  · rcases hblank with rfl | rfl | rfl | rfl <;> cases hleft
  · simp only [not_or] at hblank
    simp [skip, hblank]

/-- The text of an array starts with a bracket. -/
theorem head?_skip_of_isText_array {items : List Json} {s : String} (h : IsText (.array items) s) :
    (skip s.toList).head? = some '[' := head?_skip_of_between rfl h

theorem head?_skip_of_isText_object {fields : List (String × Json)} {s : String}
    (h : IsText (.object fields) s) : (skip s.toList).head? = some '\x7b' :=
  head?_skip_of_between rfl h

/-! ## What is read is written -/

/-- At the front stands, behind blanks, a text of the form. -/
def Starts (f : Form) (cs rest : List Char) : Prop :=
  ∃ before inner, IsSkipped before ∧ f inner ∧ cs = before ++ (inner ++ rest)

theorem starts_of_skip {f : Form} {cs inner rest : List Char} (hskip : skip cs = inner ++ rest)
    (h : f inner) : Starts f cs rest := by
  obtain ⟨before, hbefore, rfl⟩ := exists_of_skip hskip
  exact ⟨before, inner, hbefore, h, rfl⟩

theorem Starts.padded {f : Form} {cs tail rest : List Char} (h : Starts f cs tail)
    (hskip : Reader.skip tail = rest) : ∃ first, f.padded first ∧ cs = first ++ rest := by
  obtain ⟨before, inner, hbefore, hinner, rfl⟩ := h
  obtain ⟨after, hafter, rfl⟩ := exists_of_skip hskip
  exact ⟨before ++ (inner ++ after), ⟨before, inner, after, hbefore, hinner, hafter, rfl⟩, by simp⟩

/-- What was read up to a closing bracket. -/
def Closes (right : Char) (fs : List Form) (cs rest : List Char) : Prop :=
  ∃ inner, Form.separated fs inner ∧ cs = inner ++ right :: rest

theorem closes_singleton {f : Form} {right : Char} {cs tail rest : List Char}
    (h : Starts f cs tail) (hskip : skip tail = right :: rest) : Closes right [f] cs rest := by
  obtain ⟨first, hfirst, rfl⟩ := h.padded hskip
  exact ⟨first, hfirst, rfl⟩

theorem closes_cons {f g : Form} {fs : List Form} {right : Char} {cs tail more rest : List Char}
    (h : Starts f cs tail) (hskip : skip tail = ',' :: more)
    (hmore : Closes right (g :: fs) more rest) : Closes right (f :: g :: fs) cs rest := by
  obtain ⟨first, hfirst, rfl⟩ := h.padded hskip
  obtain ⟨inner, hinner, rfl⟩ := hmore
  exact ⟨first ++ ',' :: inner, ⟨first, inner, hfirst, hinner, rfl⟩, by simp⟩

theorem closes_nil {right : Char} {cs rest : List Char} (h : skip cs = right :: rest) :
    Closes right [] cs rest := by
  obtain ⟨blank, hblank, rfl⟩ := exists_of_skip h
  exact ⟨blank, hblank, rfl⟩

theorem starts_quoted {cs tail rest : List Char} {fuel : Nat} {s : String}
    (hskip : skip cs = '"' :: tail) (h : text? fuel [] tail = some (s, rest)) :
    Starts (quoted s) cs rest := by
  obtain ⟨new, text, hnew, rfl, rfl⟩ := exists_of_text? h
  exact starts_of_skip (by simpa using hskip) ⟨text, by simpa using hnew, rfl⟩

theorem starts_between {left right : Char} {fs : List Form} {cs tail rest : List Char}
    (hskip : skip cs = left :: tail) (h : Closes right fs tail rest) :
    Starts (.between left right (.separated fs)) cs rest := by
  obtain ⟨inner, hinner, rfl⟩ := h
  exact starts_of_skip (by simpa using hskip) ⟨inner, hinner, rfl⟩

theorem starts_member {key value : Form} {cs tail more rest : List Char} (hkey : Starts key cs tail)
    (hcolon : skip tail = ':' :: more) (hvalue : Starts value more rest) :
    Starts (.member key value) cs rest := by
  obtain ⟨blank, name, hblank, hname, rfl⟩ := hkey
  obtain ⟨before, hbefore, rfl⟩ := exists_of_skip hcolon
  obtain ⟨after, inner, hafter, hinner, rfl⟩ := hvalue
  exact ⟨blank, _, hblank, ⟨name, before, after, inner, hname, hbefore, hafter, hinner, rfl⟩,
    by simp⟩

/-! At some fuel, what a reader gives is written in front of what it leaves. -/

def ItemsSound (fuel : Nat) : Prop :=
  ∀ {depth : Nat} {acc vs : List Json} {cs rest : List Char},
    items? fuel depth acc cs = some (vs, rest) →
      ∃ v new, vs = acc.reverse ++ v :: new ∧ Closes ']' (forms (v :: new)) cs rest

def FieldsSound (fuel : Nat) : Prop :=
  ∀ {depth : Nat} {acc es : List (String × Json)} {cs rest : List Char},
    fields? fuel depth acc cs = some (es, rest) →
      ∃ e new, es = acc.reverse ++ e :: new ∧ Closes '\x7d' (memberForms (e :: new)) cs rest

def ValueSound (fuel : Nat) : Prop :=
  ∀ {depth : Nat} {v : Json} {cs rest : List Char},
    value? fuel depth cs = some (v, rest) → Starts (form v) cs rest

theorem form_number {n : Number} {cs rest : List Char} (h : number? cs = some (n, rest)) :
    ∃ inner, form (.number n) inner ∧ cs = inner ++ rest := by
  cases n with
  | int n => exact ⟨_, rfl, eq_toString_of_number? h⟩
  | float x =>
    obtain ⟨inner, rfl⟩ := suffix_of_number? h
    exact ⟨inner, ⟨rest, h⟩, rfl⟩

theorem value_sound {fuel : Nat} (hitems : ItemsSound fuel) (hfields : FieldsSound fuel) :
    ValueSound (fuel + 1) := by
  intro depth v cs rest h
  rw [value?] at h
  split at h
  · next hskip =>
    obtain ⟨rfl, rfl⟩ := Prod.mk.inj (Option.some.inj h)
    exact starts_of_skip hskip rfl
  · next hskip =>
    obtain ⟨rfl, rfl⟩ := Prod.mk.inj (Option.some.inj h)
    exact starts_of_skip hskip rfl
  · next hskip =>
    obtain ⟨rfl, rfl⟩ := Prod.mk.inj (Option.some.inj h)
    exact starts_of_skip hskip rfl
  · next hskip =>
    obtain ⟨⟨s, tail⟩, htext, heq⟩ := Option.map_eq_some_iff.mp h
    obtain ⟨rfl, rfl⟩ := Prod.mk.inj heq
    exact starts_quoted hskip htext
  · next hskip =>
    split at h
    · cases h
    · split at h
      · next hclose =>
        obtain ⟨rfl, rfl⟩ := Prod.mk.inj (Option.some.inj h)
        exact starts_between hskip (closes_nil hclose)
      · obtain ⟨⟨vs, tail⟩, hread, heq⟩ := Option.map_eq_some_iff.mp h
        obtain ⟨rfl, rfl⟩ := Prod.mk.inj heq
        obtain ⟨v, new, rfl, hcloses⟩ := hitems hread
        exact starts_between hskip hcloses
  · next hskip =>
    split at h
    · cases h
    · split at h
      · next hclose =>
        obtain ⟨rfl, rfl⟩ := Prod.mk.inj (Option.some.inj h)
        exact starts_between hskip (closes_nil hclose)
      · obtain ⟨⟨es, tail⟩, hread, heq⟩ := Option.map_eq_some_iff.mp h
        obtain ⟨rfl, rfl⟩ := Prod.mk.inj heq
        obtain ⟨e, new, rfl, hcloses⟩ := hfields hread
        exact starts_between hskip hcloses
  · obtain ⟨⟨n, tail⟩, hread, heq⟩ := Option.map_eq_some_iff.mp h
    obtain ⟨rfl, rfl⟩ := Prod.mk.inj heq
    obtain ⟨inner, hinner, hcs⟩ := form_number hread
    exact starts_of_skip hcs hinner

theorem items_sound {fuel : Nat} (hvalue : ValueSound fuel) (hitems : ItemsSound fuel) :
    ItemsSound (fuel + 1) := by
  intro depth acc vs cs rest h
  rw [items?] at h
  split at h
  · cases h
  · next v tail hread =>
    split at h
    · next more hskip =>
      obtain ⟨w, new, rfl, hcloses⟩ := hitems h
      exact ⟨v, w :: new, by simp, closes_cons (hvalue hread) hskip hcloses⟩
    · next more hskip =>
      obtain ⟨rfl, rfl⟩ := Prod.mk.inj (Option.some.inj h)
      exact ⟨v, [], by simp, closes_singleton (hvalue hread) hskip⟩
    · cases h

theorem fields_sound {fuel : Nat} (hvalue : ValueSound fuel) (hfields : FieldsSound fuel) :
    FieldsSound (fuel + 1) := by
  intro depth acc es cs rest h
  rw [fields?] at h
  split at h
  · next hquote =>
    split at h
    · cases h
    · next key tail htext =>
      split at h
      · next hcolon =>
        split at h
        · cases h
        · next v tail hread =>
          have hmember := starts_member (starts_quoted hquote htext) hcolon (hvalue hread)
          split at h
          · next more hskip =>
            obtain ⟨e, new, rfl, hcloses⟩ := hfields h
            exact ⟨(key, v), e :: new, by simp, closes_cons hmember hskip hcloses⟩
          · next more hskip =>
            obtain ⟨rfl, rfl⟩ := Prod.mk.inj (Option.some.inj h)
            exact ⟨(key, v), [], by simp, closes_singleton hmember hskip⟩
          · cases h
      · cases h
  · cases h

/-- The three readers call each other with less fuel. -/
theorem readers_sound (fuel : Nat) : ValueSound fuel ∧ ItemsSound fuel ∧ FieldsSound fuel := by
  induction fuel with
  | zero => exact ⟨nofun, nofun, nofun⟩
  | succ fuel ih =>
    obtain ⟨hvalue, hitems, hfields⟩ := ih
    exact ⟨value_sound hitems hfields, items_sound hvalue hitems, fields_sound hvalue hfields⟩

theorem isText_of_readRaw? {s : String} {v : Json} (h : readRaw? s = some v) : IsText v s := by
  unfold readRaw? at h
  dsimp only at h
  split at h
  · next w rest hread =>
    split at h
    · next hend =>
      obtain rfl := Option.some.inj h
      obtain ⟨first, hfirst, hs⟩ :=
        ((readers_sound _).1 hread).padded (List.isEmpty_iff.mp hend)
      rwa [IsText, hs, List.append_nil]
    · cases h
  · cases h

/-! ## What is written is read -/

/-- Every text of the value is read as it, in as many steps as it has characters. -/
def Reads (depth : Nat) (v : Json) : Prop :=
  ∀ ⦃cs⦄, form v cs → ∀ ⦃fuel⦄, cs.length ≤ fuel → ∀ ⦃rest⦄, EndsNumber rest →
    value? fuel depth (cs ++ rest) = some (v, rest)

theorem reads_string (depth : Nat) (s : String) : Reads depth (.string s) := by
  rintro cs ⟨inner, hinner, rfl⟩ fuel hfuel rest -
  obtain ⟨fuel, rfl⟩ : ∃ m, fuel = m + 1 := ⟨fuel - 1, by simp at hfuel; omega⟩
  have hskip : skip ('"' :: (inner ++ '"' :: rest)) = '"' :: (inner ++ '"' :: rest) := rfl
  have hcs : '"' :: (inner ++ ['"']) ++ rest = '"' :: (inner ++ '"' :: rest) := by simp
  rw [hcs, value?, hskip]
  simp only [text?_of_writesChars hinner, Option.map_some]

theorem reads_natCast (depth : Nat) {n : Nat} (h : (n : Int) ≤ Number.greatest) :
    Reads depth (.number (.int n)) := by
  rintro cs rfl fuel hfuel rest hends
  rw [toList_toString_natCast] at hfuel ⊢
  have hpos := Nat.length_toDigits_pos (b := 10) (n := n)
  obtain ⟨fuel, rfl⟩ : ∃ m, fuel = m + 1 := ⟨fuel - 1, by omega⟩
  exact value?_toDigits fuel depth h hends

/-- A key and its value are read up to what separates them from the next. -/
theorem fields?_member {depth : Nat} {key : String} {v : Json} (hv : Reads depth v)
    {first : List Char} (h : Form.padded (.member (quoted key) (form v)) first) {fuel : Nat}
    (hfuel : first.length ≤ fuel) (acc : List (String × Json)) {tail : List Char}
    (hends : EndsNumber tail) :
    fields? (fuel + 1) depth acc (first ++ tail) =
      match skip tail with
      | ',' :: rest => fields? fuel depth ((key, v) :: acc) rest
      | '\x7d' :: rest => some (((key, v) :: acc).reverse, rest)
      | _ => none := by
  obtain ⟨front, inner, back, hfront, ⟨name, before, after, text, ⟨chars, hchars, rfl⟩, hbefore,
    hafter, htext, rfl⟩, hback, rfl⟩ := h
  have hquote : ∀ rest, skip ('"' :: rest) = '"' :: rest := fun _ => rfl
  have hcolon : ∀ rest, skip (':' :: rest) = ':' :: rest := fun _ => rfl
  have hvalue : value? fuel depth (after ++ (text ++ (back ++ tail))) =
      some (v, back ++ tail) := by
    rw [value?_skip hafter]
    refine hv htext ?_ (hends.skipped_append hback)
    simp only [List.length_append, List.length_cons] at hfuel
    omega
  have hcs : front ++ ('"' :: (chars ++ ['"']) ++ (before ++ ':' :: (after ++ text)) ++ back) ++
      tail = front ++ '"' :: (chars ++ '"' :: (before ++ ':' :: (after ++ (text ++
        (back ++ tail))))) := by simp
  rw [hcs, fields?, skip_append hfront, hquote]
  simp only [text?_of_writesChars hchars, skip_append hbefore, hcolon, hvalue]
  exact skip_append hback tail ▸ rfl

theorem fields?_separated {depth : Nat} {e : String × Json} {es : List (String × Json)}
    (hes : ∀ f ∈ e :: es, Reads depth f.2) {inner : List Char}
    (h : Form.separated (memberForms (e :: es)) inner) {fuel : Nat} (hfuel : inner.length < fuel)
    (acc : List (String × Json)) (rest : List Char) :
    fields? fuel depth acc (inner ++ '\x7d' :: rest) = some (acc.reverse ++ e :: es, rest) := by
  obtain ⟨fuel, rfl⟩ : ∃ m, fuel = m + 1 := ⟨fuel - 1, by omega⟩
  induction es generalizing e acc inner fuel with
  | nil =>
    rw [fields?_member (hes e (by simp)) h (Nat.le_of_lt_succ hfuel) acc
      (by simp [EndsNumber]; decide)]
    simp [skip]
  | cons f es ih =>
    obtain ⟨first, more, hfirst, hmore, rfl⟩ := h
    have hlength : first.length ≤ fuel ∧ more.length < fuel := by
      simp only [List.length_append, List.length_cons] at hfuel
      omega
    obtain ⟨fuel, rfl⟩ : ∃ m, fuel = m + 1 := ⟨fuel - 1, by omega⟩
    have hread := ih (fun g hg => hes g (by simp [hg])) hmore (e :: acc) fuel hlength.2
    rw [List.append_assoc, fields?_member (hes e (by simp)) hfirst hlength.1 acc
      (by simp [EndsNumber]; decide)]
    simpa [skip] using hread

theorem items?_item {depth : Nat} {v : Json} (hv : Reads depth v) {first : List Char}
    (h : (form v).padded first) {fuel : Nat} (hfuel : first.length ≤ fuel) (acc : List Json)
    {tail : List Char} (hends : EndsNumber tail) :
    items? (fuel + 1) depth acc (first ++ tail) =
      match skip tail with
      | ',' :: rest => items? fuel depth (v :: acc) rest
      | ']' :: rest => some ((v :: acc).reverse, rest)
      | _ => none := by
  obtain ⟨front, inner, back, hfront, hinner, hback, rfl⟩ := h
  have hvalue : value? fuel depth (front ++ (inner ++ (back ++ tail))) =
      some (v, back ++ tail) := by
    rw [value?_skip hfront]
    refine hv hinner ?_ (hends.skipped_append hback)
    simp only [List.length_append] at hfuel
    omega
  have hcs : front ++ (inner ++ back) ++ tail = front ++ (inner ++ (back ++ tail)) := by simp
  rw [hcs, items?, hvalue]
  dsimp only
  exact skip_append hback tail ▸ rfl

theorem items?_separated {depth : Nat} {v : Json} {vs : List Json}
    (hvs : ∀ w ∈ v :: vs, Reads depth w) {inner : List Char}
    (h : Form.separated (forms (v :: vs)) inner) {fuel : Nat} (hfuel : inner.length < fuel)
    (acc : List Json) (rest : List Char) :
    items? fuel depth acc (inner ++ ']' :: rest) = some (acc.reverse ++ v :: vs, rest) := by
  obtain ⟨fuel, rfl⟩ : ∃ m, fuel = m + 1 := ⟨fuel - 1, by omega⟩
  induction vs generalizing v acc inner fuel with
  | nil =>
    rw [items?_item (hvs v (by simp)) h (Nat.le_of_lt_succ hfuel) acc
      (by simp [EndsNumber]; decide)]
    simp [skip]
  | cons w vs ih =>
    obtain ⟨first, more, hfirst, hmore, rfl⟩ := h
    have hlength : first.length ≤ fuel ∧ more.length < fuel := by
      simp only [List.length_append, List.length_cons] at hfuel
      omega
    obtain ⟨fuel, rfl⟩ : ∃ m, fuel = m + 1 := ⟨fuel - 1, by omega⟩
    have hread := ih (fun u hu => hvs u (by simp [hu])) hmore (v :: acc) fuel hlength.2
    rw [List.append_assoc, items?_item (hvs v (by simp)) hfirst hlength.1 acc
      (by simp [EndsNumber]; decide)]
    simpa [skip] using hread

theorem value?_brace (fuel depth : Nat) (rest : List Char) :
    value? (fuel + 1) (depth + 1) ('\x7b' :: rest) =
      match skip rest with
      | '\x7d' :: rest => some (.object [], rest)
      | _ => (fields? fuel depth [] rest).map fun (es, rest) => (.object es, rest) := by
  rw [value?, show skip ('\x7b' :: rest) = '\x7b' :: rest from rfl]
  rfl

theorem reads_object {depth : Nat} {fields : List (String × Json)}
    (h : ∀ e ∈ fields, Reads depth e.2) : Reads (depth + 1) (.object fields) := by
  rintro cs ⟨inner, hinner, rfl⟩ fuel hfuel rest hends
  obtain ⟨fuel, rfl⟩ : ∃ m, fuel = m + 1 := ⟨fuel - 1, by simp at hfuel; omega⟩
  have hcs : '\x7b' :: (inner ++ ['\x7d']) ++ rest = '\x7b' :: (inner ++ '\x7d' :: rest) := by simp
  rw [hcs, value?_brace]
  cases fields with
  | nil =>
    have hclose : skip (inner ++ '\x7d' :: rest) = '\x7d' :: rest := skip_append hinner _
    rw [hclose]
    rfl
  | cons e es =>
    have hlength : inner.length < fuel := by
      simp only [List.length_cons, List.length_append] at hfuel
      omega
    have hread := fields?_separated h hinner hlength [] rest
    split
    · next hclose =>
      -- What is read as a field does not start with the closing brace.
      obtain ⟨fuel, rfl⟩ : ∃ m, fuel = m + 1 := ⟨fuel - 1, by simp at hfuel; omega⟩
      simp [fields?, hclose] at hread
    · rw [hread]
      rfl

theorem value?_bracket (fuel depth : Nat) (rest : List Char) :
    value? (fuel + 1) (depth + 1) ('[' :: rest) =
      match skip rest with
      | ']' :: rest => some (.array [], rest)
      | _ => (items? fuel depth [] rest).map fun (vs, rest) => (.array vs, rest) := by
  rw [value?, show skip ('[' :: rest) = '[' :: rest from rfl]
  rfl

theorem items?_of_skip_eq_close (fuel depth : Nat) (acc : List Json) {cs rest : List Char}
    (h : skip cs = ']' :: rest) : items? fuel depth acc cs = none := by
  have hnone : ∀ fuel, value? fuel depth cs = none
    | 0 => rfl
    | fuel + 1 => by
      rw [value?, h]
      rfl
  cases fuel with
  | zero => rfl
  | succ fuel => rw [items?, hnone]

theorem reads_array {depth : Nat} {items : List Json} (h : ∀ v ∈ items, Reads depth v) :
    Reads (depth + 1) (.array items) := by
  rintro cs ⟨inner, hinner, rfl⟩ fuel hfuel rest hends
  obtain ⟨fuel, rfl⟩ : ∃ m, fuel = m + 1 := ⟨fuel - 1, by simp at hfuel; omega⟩
  have hcs : '[' :: (inner ++ [']']) ++ rest = '[' :: (inner ++ ']' :: rest) := by simp
  rw [hcs, value?_bracket]
  cases items with
  | nil =>
    have hclose : skip (inner ++ ']' :: rest) = ']' :: rest := skip_append hinner _
    rw [hclose]
    rfl
  | cons v vs =>
    have hlength : inner.length < fuel := by
      simp only [List.length_cons, List.length_append] at hfuel
      omega
    have hread := items?_separated h hinner hlength [] rest
    split
    · next hclose =>
      rw [items?_of_skip_eq_close fuel depth [] hclose] at hread
      cases hread
    · rw [hread]
      rfl

theorem readRaw?_of_isText {s : String} {v : Json} (hv : Reads maxDepth v) (h : IsText v s) :
    readRaw? s = some v := by
  obtain ⟨before, inner, after, hbefore, hinner, hafter, hs⟩ := h
  have hlength : inner.length ≤ 2 * s.toList.length + 2 := by
    rw [hs, List.length_append, List.length_append]
    omega
  have hends : EndsNumber after := by
    simpa using endsNumber_nil.skipped_append hafter
  have hskip : skip after = [] := by simpa [skip] using skip_append hafter []
  have hread := hv hinner hlength hends
  rw [← value?_skip hbefore, ← hs] at hread
  unfold readRaw?
  simp [hread, hskip]

end Json
end Stencil
