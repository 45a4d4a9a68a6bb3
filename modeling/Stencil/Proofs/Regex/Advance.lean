import Stencil.Regex.Basic
import Mathlib.Data.List.Basic

/-! Matching a regular expression moves forward through a text and never changes it. -/
namespace Stencil
namespace Regex

/-- A place in the same text that is not before this one. -/
structure Ahead (c d : Cursor) : Prop where
  text : d.text = c.text
  position : c.position ≤ d.position

theorem Ahead.refl (c : Cursor) : Ahead c c := ⟨rfl, Nat.le_refl _⟩

theorem Ahead.trans {c d e : Cursor} (h : Ahead c d) (h' : Ahead d e) : Ahead c e :=
  ⟨h'.text.trans h.text, Nat.le_trans h.position h'.position⟩

/-- What lies between the places is taken. -/
theorem Ahead.exists_append {c d : Cursor} (h : Ahead c d) :
    ∃ w, c.after = w ++ d.after ∧ d.before = w.reverse ++ c.before := by
  have htext := h.text
  rw [Cursor.text, Cursor.text, List.append_eq_append_iff] at htext
  rcases htext with ⟨w, hbefore, hafter⟩ | ⟨w, hbefore, hafter⟩
  · have hlength := congrArg List.length hbefore
    have hposition := h.position
    rw [List.length_append, List.length_reverse, List.length_reverse] at hlength
    rw [Cursor.position, Cursor.position] at hposition
    obtain rfl : w = [] := List.eq_nil_of_length_eq_zero (by omega)
    refine ⟨[], by simpa using hafter.symm, ?_⟩
    simpa using (congrArg List.reverse hbefore).symm
  · exact ⟨w, hafter, by simpa using congrArg List.reverse hbefore⟩

/-- Whatever something leads to is ahead. -/
def Advances (f : Cursor → List Cursor) : Prop := ∀ c, ∀ d ∈ f c, Ahead c d

theorem mem_of_mem_distinct {seen : List Nat} {cs : List Cursor} {d : Cursor}
    (h : d ∈ distinct seen cs) : d ∈ cs := by
  induction cs generalizing seen with
  | nil => simp [distinct] at h
  | cons c cs ih =>
    unfold distinct at h
    split at h
    · exact List.mem_cons_of_mem _ (ih h)
    · rcases List.mem_cons.mp h with rfl | h
      · simp
      · exact List.mem_cons_of_mem _ (ih h)

theorem mem_ends_seq {r s : Regex} {c d : Cursor} (h : d ∈ (seq r s).ends c) :
    ∃ e ∈ r.ends c, d ∈ s.ends e := List.mem_flatMap.mp (mem_of_mem_distinct h)

variable {f : Cursor → List Cursor} {text : List Char} {x : Cursor}

theorem ahead_of_mem_andThen (hf : Advances f) {cs : List Cursor} (hcs : ∀ c ∈ cs, Ahead x c)
    {d : Cursor} (hd : d ∈ andThen f cs) : Ahead x d := by
  obtain ⟨c, hc, hd⟩ := List.mem_flatMap.mp (mem_of_mem_distinct hd)
  exact (hcs c hc).trans (hf c d hd)

theorem ahead_of_mem_times (hf : Advances f) {n : Nat} {cs : List Cursor}
    (hcs : ∀ c ∈ cs, Ahead x c) {d : Cursor} (hd : d ∈ times f n cs) : Ahead x d := by
  fun_induction times f n cs with
  | case1 => exact hcs d hd
  | case2 => simp at hd
  | case3 n c cs ih => exact ih (fun y hy => ahead_of_mem_andThen hf hcs hy) hd

theorem ahead_of_mem_prefer {greedy : Bool} {more stop : List Cursor}
    (hmore : ∀ c ∈ more, Ahead x c) (hstop : ∀ c ∈ stop, Ahead x c) {d : Cursor}
    (hd : d ∈ prefer greedy more stop) : Ahead x d := by
  have hboth := mem_of_mem_distinct hd
  have hmem : d ∈ more ∨ d ∈ stop := by
    split at hboth
    · exact List.mem_append.mp hboth
    · exact (List.mem_append.mp hboth).symm
  exact hmem.elim (hmore d) (hstop d)

/-! ## Tables -/

/-- A table leads ahead from places of the text. -/
def Table.Keeps (t : Table) (text : List Char) : Prop :=
  ∀ e ∈ t, e.1.text = text ∧ ∀ d ∈ e.2, Ahead e.1 d

theorem Table.Keeps.ahead_of_mem_at {t : Table} (h : t.Keeps text) {c : Cursor}
    (hc : c.text = text) {d : Cursor} (hd : d ∈ t.at c) : Ahead c d := by
  unfold Table.at at hd
  cases hfind : t.find? fun e => e.1.position == c.position with
  | none => simp [hfind] at hd
  | some e =>
    rw [hfind] at hd
    obtain ⟨htext, hahead⟩ := h e (List.mem_of_find?_eq_some hfind)
    have hsame : e.1.position = c.position := by simpa using List.find?_some hfind
    have hd := hahead d hd
    exact ⟨hd.text.trans (htext.trans hc.symm), hsame ▸ hd.position⟩

theorem Table.Keeps.reached (hf : Advances f) {fuel : Nat} {t : Table} {cs : List Cursor}
    (h : t.Keeps text) (hcs : ∀ c ∈ cs, c.text = text) : (reached f fuel t cs).Keeps text := by
  fun_induction Regex.reached f fuel t cs with
  | case1 => exact h
  | case2 => exact h
  | case3 t fuel c cs hthere ih => exact ih h fun y hy => hcs y (by simp [hy])
  | case4 t fuel c cs hthere ds ih =>
    have hc : c.text = text := hcs c (by simp)
    have hds : ∀ d ∈ ds, Ahead c d := hf c
    refine ih (fun e he => ?_) fun y hy => ?_
    · rcases List.mem_append.mp he with he | he
      · exact h e he
      · obtain rfl := List.mem_singleton.mp he
        exact ⟨hc, hds⟩
    · rcases List.mem_append.mp hy with hy | hy
      · exact hcs y (by simp [hy])
      · exact (hds y hy).text.trans hc

theorem Table.Keeps.extend {steps later : Table} (hs : steps.Keeps text) (hl : later.Keeps text)
    (greedy : Bool) : (extend steps greedy later).Keeps text := by
  intro e he
  obtain ⟨⟨c, ds⟩, hc, rfl⟩ := List.mem_map.mp he
  obtain ⟨htext, hds⟩ := hs _ hc
  have hself : ∀ d ∈ [c], Ahead c d := by simp [Ahead.refl]
  refine ⟨htext, fun d hd => ahead_of_mem_prefer (fun z hz => ?_) hself hd⟩
  obtain ⟨y, hy, hz⟩ := List.mem_flatMap.mp (mem_of_mem_distinct hz)
  exact (hds y hy).trans (hl.ahead_of_mem_at ((hds y hy).text.trans htext) hz)

theorem Table.Keeps.extendUpTo {steps t : Table} (hs : steps.Keeps text) (h : t.Keeps text)
    (greedy : Bool) (n : Nat) : (extendUpTo steps greedy n t).Keeps text := by
  induction n generalizing t with
  | zero => exact h
  | succ n ih =>
    unfold Regex.extendUpTo
    dsimp only
    split
    · exact h
    · exact ih (hs.extend h greedy)

theorem advances_upTo (hf : Advances f) (greedy : Bool) (n : Nat) :
    Advances (upTo f greedy n) := by
  intro c d hd
  have hsteps : (reached f ((c.after.length + 2) * (c.after.length + 2)) [] [c]).Keeps c.text :=
    Table.Keeps.reached hf (by simp [Table.Keeps]) (by simp)
  refine Table.Keeps.ahead_of_mem_at (hsteps.extendUpTo (fun e he => ?_) greedy n) rfl hd
  obtain ⟨y, hy, rfl⟩ := List.mem_map.mp he
  exact ⟨(hsteps y hy).1, by simp [Ahead.refl]⟩

/-! ## Rounds -/

theorem ahead_of_mem_roundEnds {greedy : Bool} {fuel : Nat}
    (hrounds : ∀ entered seen c, ∀ d ∈ (rounds f greedy fuel entered seen c).1, Ahead c d)
    (entered seen : List Nat) {cs : List Cursor} (hcs : ∀ c ∈ cs, Ahead x c) {d : Cursor}
    (hd : d ∈ (roundEnds f greedy fuel entered seen cs).1) : Ahead x d := by
  induction cs generalizing seen with
  | nil => simp [roundEnds] at hd
  | cons c cs ih =>
    have hrest : ∀ y ∈ cs, Ahead x y := fun y hy => hcs y (by simp [hy])
    have hc : Ahead x c := hcs c (by simp)
    unfold roundEnds at hd
    split at hd
    · exact ih seen hrest hd
    · dsimp only at hd
      generalize hmore : (if entered.contains c.position = true then ([], c.position :: seen)
        else rounds f greedy fuel entered (c.position :: seen) c) = more at hd
      have hround : ∀ y ∈ more.1, Ahead x y := by
        intro y hy
        rw [← hmore] at hy
        split at hy
        · simp at hy
        · exact hc.trans (hrounds _ _ c y hy)
      rcases List.mem_append.mp hd with hd | hd
      · have hmem : d = c ∨ d ∈ more.1 := by
          split at hd <;> simpa [or_comm] using hd
        rcases hmem with rfl | hmem
        · exact hc
        · exact hround d hmem
      · exact ih more.2 hrest hd

theorem ahead_of_mem_rounds (hf : Advances f) (greedy : Bool) (fuel : Nat)
    (entered seen : List Nat) {c d : Cursor}
    (hd : d ∈ (rounds f greedy fuel entered seen c).1) : Ahead c d := by
  induction fuel generalizing entered seen c d with
  | zero => simp [rounds] at hd
  | succ fuel ih =>
    unfold rounds at hd
    exact ahead_of_mem_roundEnds (fun entered seen c d hd => ih entered seen hd) _ _ (hf c) hd

theorem advances_onceOrMore (hf : Advances f) (greedy : Bool) :
    Advances (onceOrMore f greedy) := fun _ _ hd => ahead_of_mem_rounds hf greedy _ _ _ hd

/-- A match ends where it starts or behind. -/
theorem advances_ends (r : Regex) : Advances r.ends := by
  induction r with
  | empty =>
    intro c d hd
    rw [List.mem_singleton.mp hd]
    exact .refl c
  | set class_ =>
    intro c d hd
    unfold ends at hd
    split at hd
    · next y rest hafter =>
      split at hd
      · rw [List.mem_singleton.mp hd]
        exact ⟨by simp [Cursor.text, hafter], by simp [Cursor.position]⟩
      · simp at hd
    · simp at hd
  | look a =>
    intro c d hd
    unfold ends at hd
    split at hd
    · rw [List.mem_singleton.mp hd]
      exact .refl c
    · simp at hd
  | group r ih => exact ih
  | seq r s ihr ihs => exact fun c d hd => ahead_of_mem_andThen ihs (ihr c) hd
  | alt r s ihr ihs =>
    intro c d hd
    rcases List.mem_append.mp (mem_of_mem_distinct hd) with hd | hd
    · exact ihr c d hd
    · exact ihs c d hd
  | repeated r min max greedy ih =>
    intro c d hd
    have hself : ∀ y ∈ [c], Ahead c y := by simp [Ahead.refl]
    have htimes : ∀ n, ∀ y ∈ times r.ends n [c], Ahead c y := fun n y hy =>
      ahead_of_mem_times ih hself hy
    cases max with
    | some max => exact ahead_of_mem_andThen (advances_upTo ih greedy (max - min)) (htimes min) hd
    | none =>
      cases min with
      | zero => exact ahead_of_mem_prefer (advances_onceOrMore ih greedy c) hself hd
      | succ min => exact ahead_of_mem_andThen (advances_onceOrMore ih greedy) (htimes min) hd

/-! ## The first match -/

theorem findFrom_spec {r : Regex} {before cs : List Char} {start stop : Cursor}
    (h : r.findFrom before cs = some (start, stop)) :
    start.text = before.reverse ++ cs ∧ stop ∈ r.ends start := by
  induction cs generalizing before with
  | nil =>
    obtain ⟨e, he, hpair⟩ := Option.map_eq_some_iff.mp h
    obtain ⟨rfl, rfl⟩ := Prod.mk.inj hpair
    exact ⟨rfl, List.mem_of_head? he⟩
  | cons c cs ih =>
    unfold findFrom at h
    split at h
    · next e he =>
      obtain ⟨rfl, rfl⟩ := Prod.mk.inj (Option.some.inj h)
      exact ⟨rfl, List.mem_of_head? he⟩
    · simpa using ih h

/-- The first match takes a stretch of the text. -/
structure Finds (r : Regex) (front w back : List Char) : Prop where
  find : r.find? (front ++ w ++ back) =
    some (⟨front.reverse, w ++ back⟩, ⟨w.reverse ++ front.reverse, back⟩)
  ends : ⟨w.reverse ++ front.reverse, back⟩ ∈ r.ends ⟨front.reverse, w ++ back⟩

/-- A replacement takes the first match out of the text. -/
theorem exists_finds_of_replaceFirst {r : Regex} {cs put out : List Char}
    (h : r.replaceFirst cs put = some out) :
    ∃ front w back, cs = front ++ w ++ back ∧ out = front ++ put ++ back ∧ r.Finds front w back := by
  obtain ⟨⟨⟨before, after⟩, ⟨before', back⟩⟩, hfind, rfl⟩ := Option.map_eq_some_iff.mp h
  obtain ⟨htext, hends⟩ := findFrom_spec hfind
  obtain ⟨w, hafter, hbefore⟩ := (advances_ends r _ _ hends).exists_append
  dsimp only at hafter hbefore
  subst hafter hbefore
  have hcs : cs = before.reverse ++ w ++ back := by simpa [Cursor.text] using htext.symm
  refine ⟨before.reverse, w, back, hcs, rfl, ?_, ?_⟩
  · rw [← hcs, hfind, List.reverse_reverse]
  · rwa [List.reverse_reverse]

/-- What a replacement leaves was there or is put in. -/
theorem subset_of_replaceFirst {r : Regex} {cs put out : List Char}
    (h : r.replaceFirst cs put = some out) : out ⊆ cs ++ put := by
  obtain ⟨front, w, back, rfl, rfl, -⟩ := exists_finds_of_replaceFirst h
  intro x hx
  simp only [List.mem_append] at hx ⊢
  tauto

end Regex
end Stencil
