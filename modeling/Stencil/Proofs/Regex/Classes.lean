import Stencil.Proofs.Text.Cut
import Stencil.Regex.Reader
import Mathlib.Data.List.TakeWhile

/-! What stands for a character in an expression is read as before when a group is closed after it
and more follows: escapes and classes, with the blanks and comments between them. -/
namespace Stencil
namespace Regex
namespace Reader

open Text

/-- What may follow the parenthesis that closes the group. -/
structure Trailing (tail : List Char) : Prop where
  newline : '\n' ∉ tail
  colon : ':' ∉ tail

variable {tail : List Char} {f : Flags}

/-! ## Blanks and comments -/

theorem drop_dropWhile_append (hs : Trailing tail) (cs : List Char) :
    (cs.dropWhile (· != '\n')).drop 1 = [] ∧
        ((cs ++ ')' :: tail).dropWhile (· != '\n')).drop 1 = [] ∨
      ((cs ++ ')' :: tail).dropWhile (· != '\n')).drop 1 =
        (cs.dropWhile (· != '\n')).drop 1 ++ ')' :: tail := by
  induction cs with
  | nil =>
    have hnone : (')' :: tail).dropWhile (· != '\n') = [] := by
      rw [List.dropWhile_eq_nil_iff]
      intro c hc
      have hne : c ≠ '\n' := fun he => by
        subst he
        rcases List.mem_cons.mp hc with h | h
        · simp at h
        · exact hs.newline h
      simpa using hne
    exact .inl ⟨rfl, by rw [List.nil_append, hnone]; rfl⟩
  | cons c cs ih =>
    by_cases hc : c = '\n'
    · exact .inr (by simp [hc])
    · simpa [hc] using ih

/-- Blanks and comments are skipped as before. A comment that does not end takes the rest. -/
theorem skipSpace_append (hs : Trailing tail) {fuel fuel' : Nat} {cs : List Char}
    (h : cs.length ≤ fuel) (h' : cs.length < fuel') :
    (skipSpace fuel cs = [] ∧ (skipSpace fuel' (cs ++ ')' :: tail) = ')' :: tail ∨
        skipSpace fuel' (cs ++ ')' :: tail) = [])) ∨
    (skipSpace fuel cs ≠ [] ∧
      skipSpace fuel' (cs ++ ')' :: tail) = skipSpace fuel cs ++ ')' :: tail) := by
  have hparen : isBlank ')' = false := by decide
  induction fuel generalizing cs fuel' with
  | zero =>
    obtain rfl : cs = [] := List.eq_nil_of_length_eq_zero (Nat.le_zero.mp h)
    obtain ⟨fuel', rfl⟩ := Nat.exists_eq_succ_of_ne_zero (Nat.ne_of_gt h')
    exact .inl ⟨rfl, .inl (by simp [skipSpace, hparen])⟩
  | succ fuel ih =>
    obtain ⟨fuel', rfl⟩ := Nat.exists_eq_succ_of_ne_zero (Nat.ne_of_gt (Nat.zero_lt_of_lt h'))
    cases cs with
    | nil => exact .inl ⟨rfl, .inl (by simp [skipSpace, hparen])⟩
    | cons c cs =>
      rw [List.length_cons] at h h'
      rw [List.cons_append, skipSpace, skipSpace]
      split_ifs with hblank hcomment
      · exact ih (by omega) (by omega)
      · have hlength : ((cs.dropWhile (· != '\n')).drop 1).length ≤ cs.length :=
          (List.drop_sublist ..).length_le.trans (List.dropWhile_sublist _).length_le
        rcases drop_dropWhile_append hs cs with ⟨hnone, hnone'⟩ | hsome
        · rw [hnone, hnone']
          have hempty : ∀ n, skipSpace n [] = [] := fun n => by cases n <;> rfl
          exact .inl ⟨hempty _, .inr (hempty _)⟩
        · rw [hsome]
          exact ih (by omega) (by omega)
      · exact .inr ⟨by simp, rfl⟩

theorem skip_append (hs : Trailing tail) (f : Flags) (cs : List Char) :
    (skip f cs = [] ∧
      (skip f (cs ++ ')' :: tail) = ')' :: tail ∨ skip f (cs ++ ')' :: tail) = [])) ∨
    (skip f cs ≠ [] ∧ skip f (cs ++ ')' :: tail) = skip f cs ++ ')' :: tail) := by
  unfold skip
  split_ifs
  · exact skipSpace_append hs (Nat.le_refl _) (by simp)
  · cases cs with
    | nil => exact .inl ⟨rfl, .inl rfl⟩
    | cons c cs => exact .inr ⟨by simp, rfl⟩

theorem skip_append_of_cons (hs : Trailing tail) {cs rest : List Char} {c : Char}
    (h : skip f cs = c :: rest) : skip f (cs ++ ')' :: tail) = c :: (rest ++ ')' :: tail) := by
  rcases skip_append hs f cs with ⟨hnone, -⟩ | ⟨-, hsome⟩
  · rw [hnone] at h
    simp at h
  · rw [hsome, h, List.cons_append]

/-! ## Escapes -/

theorem codePoint?_append (hs : Trailing tail) {digits : Nat} (hdigits : 0 < digits)
    {cs rest : List Char} {d : Char} (h : codePoint? f digits cs = some (d, rest)) :
    codePoint? f digits (cs ++ ')' :: tail) = some (d, rest ++ ')' :: tail) := by
  unfold codePoint? at h ⊢
  cases hskip : skip f cs with
  | nil =>
    rw [hskip] at h
    simp [hdigits] at h
  | cons c more =>
    rw [hskip] at h
    rw [skip_append_of_cons hs hskip]
    by_cases hc : c = '\x7b'
    · subst hc
      cases hcut : cutAt '\x7d' more with
      | none => simp [hcut] at h
      | some pair =>
        obtain ⟨inner, left⟩ := pair
        simp only [hcut] at h
        simp only [cutAt_append hcut]
        split_ifs at h ⊢
        simp only [Option.bind_eq_bind, Option.bind_eq_some_iff, Option.some.injEq,
          Prod.mk.injEq] at h ⊢
        obtain ⟨n, hn, d', hd, rfl, rfl⟩ := h
        exact ⟨n, hn, d', hd, rfl, rfl⟩
    · split at h
      · next he => exact absurd (List.cons.inj he).1 hc
      split
      · next he => exact absurd (List.cons.inj he).1 hc
      split_ifs at h with hshort
      have hlength : digits ≤ (c :: more).length := not_lt.mp hshort
      have hlonger : ¬ (c :: (more ++ ')' :: tail)).length < digits := by
        rw [← List.cons_append, List.length_append]
        omega
      rw [if_neg hlonger, ← List.cons_append, List.take_append_of_le_length hlength,
        List.drop_append_of_le_length hlength]
      simp only [Option.bind_eq_bind, Option.bind_eq_some_iff, Option.some.injEq,
        Prod.mk.injEq] at h ⊢
      obtain ⟨n, hn, d', hd, rfl, rfl⟩ := h
      exact ⟨n, hn, d', hd, rfl, rfl⟩

theorem unicodeClass?_append (hs : Trailing tail) {negated : Bool} {cs rest : List Char}
    {s : CharClass} (h : unicodeClass? f negated cs = some (s, rest)) :
    unicodeClass? f negated (cs ++ ')' :: tail) = some (s, rest ++ ')' :: tail) := by
  unfold unicodeClass? at h ⊢
  by_cases hunicode : (!f.unicode) = true
  · simp [hunicode] at h
  rw [if_neg hunicode] at h ⊢
  dsimp only at h ⊢
  cases hskip : skip f cs with
  | nil => simp [hskip] at h
  | cons c more =>
    rw [hskip] at h
    rw [skip_append_of_cons hs hskip]
    by_cases hc : c = '\x7b'
    · subst hc
      cases hcut : cutAt '\x7d' more with
      | none => simp [hcut] at h
      | some pair =>
        obtain ⟨inner, left⟩ := pair
        simp only [hcut, Option.map_eq_some_iff, Prod.mk.injEq] at h
        simp only [cutAt_append hcut, Option.map_eq_some_iff, Prod.mk.injEq]
        obtain ⟨s', hs', rfl, rfl⟩ := h
        exact ⟨s', hs', rfl, rfl⟩
    · split at h
      · next he => simp at he
      · next he => exact absurd (List.cons.inj he).1 hc
      next he =>
      obtain ⟨rfl, rfl⟩ := List.cons.inj he
      by_cases hback : c = '\\'
      · simp [hback] at h
      rw [if_neg hback] at h ⊢
      simp only [Option.map_eq_some_iff, Prod.mk.injEq] at h ⊢
      obtain ⟨s', hs', rfl, rfl⟩ := h
      exact ⟨s', hs', rfl, rfl⟩

theorem edge?_append (hs : Trailing tail) {cs rest : List Char} {a : Assertion}
    (h : edge? f cs = some (a, rest)) :
    edge? f (cs ++ ')' :: tail) = some (a, rest ++ ')' :: tail) := by
  unfold edge? at h ⊢
  dsimp only at h ⊢
  by_cases hbrace : ∃ more, skip f cs = '\x7b' :: more
  · obtain ⟨more, hskip⟩ := hbrace
    simp only [hskip] at h
    simp only [skip_append_of_cons hs hskip]
    cases hinner : skip f more with
    | nil => simp [hinner] at h
    | cons c inner =>
      simp only [hinner, List.head?_cons] at h
      simp only [skip_append_of_cons hs hinner, List.head?_cons]
      split_ifs at h ⊢
      · cases hcut : cutAt '\x7d' (c :: inner) with
        | none => simp [hcut] at h
        | some pair =>
          obtain ⟨name, left⟩ := pair
          simp only [hcut, Option.map_eq_some_iff, Prod.mk.injEq] at h
          rw [← List.cons_append, cutAt_append hcut]
          simp only [Option.map_eq_some_iff, Prod.mk.injEq]
          obtain ⟨a', ha', rfl, rfl⟩ := h
          exact ⟨a', ha', rfl, rfl⟩
      · obtain ⟨rfl, rfl⟩ := Prod.mk.inj (Option.some.inj h)
        rfl
  · have hplain : ∀ more, skip f (cs ++ ')' :: tail) ≠ '\x7b' :: more := by
      intro more he
      rcases skip_append hs f cs with ⟨-, hrest | hrest⟩ | ⟨hne, hrest⟩
      · rw [hrest] at he
        simp at he
      · rw [hrest] at he
        simp at he
      · obtain ⟨c, inner, hinner⟩ := List.exists_cons_of_ne_nil hne
        rw [hrest, hinner, List.cons_append] at he
        exact hbrace ⟨inner, by rw [hinner, (List.cons.inj he).1]⟩
    split at h
    · next more hmore => exact absurd ⟨more, hmore⟩ hbrace
    obtain ⟨rfl, rfl⟩ := Prod.mk.inj (Option.some.inj h)
    rfl

/-- Most escapes are of one character. -/
theorem escape?_cons {c : Char} (h : c ∉ ['x', 'u', 'U', 'p', 'P', 'b']) (cs : List Char) :
    escape? f (c :: cs) = (escape? f [c]).map fun (e, _) => (e, cs) := by
  simp only [List.mem_cons, List.not_mem_nil, or_false, not_or] at h
  obtain ⟨hx, hu, hU, hp, hP, hb⟩ := h
  unfold escape?
  simp only [hx, hu, hU, hp, hP, hb, if_false, or_self, apply_ite (Option.map _), Option.map_some,
    Option.map_none]

theorem escape?_x (cs : List Char) : escape? f ('x' :: cs) =
    match codePoint? f 2 cs with
    | some (d, rest) => if !f.unicode && 128 ≤ d.toNat then none else some (.char d, rest)
    | none => none := rfl

theorem map_append {α β : Type} {o o' : Option (α × List Char)} {more : List Char} (g : α → β)
    (hread : ∀ {x rest}, o = some (x, rest) → o' = some (x, rest ++ more)) {y : β}
    {rest : List Char} (h : o.map (fun p => (g p.1, p.2)) = some (y, rest)) :
    o'.map (fun p => (g p.1, p.2)) = some (y, rest ++ more) := by
  obtain ⟨⟨x, left⟩, hx, hpair⟩ := Option.map_eq_some_iff.mp h
  obtain ⟨rfl, rfl⟩ := Prod.mk.inj hpair
  rw [hread hx]
  rfl

theorem escape?_append (hs : Trailing tail) {cs rest : List Char} {e : Escaped}
    (h : escape? f cs = some (e, rest)) :
    escape? f (cs ++ ')' :: tail) = some (e, rest ++ ')' :: tail) := by
  cases cs with
  | nil => simp [escape?] at h
  | cons c cs =>
    rw [List.cons_append]
    by_cases hc : c ∈ ['x', 'u', 'U', 'p', 'P', 'b']
    · simp only [List.mem_cons, List.not_mem_nil, or_false] at hc
      rcases hc with rfl | rfl | rfl | rfl | rfl | rfl
      · rw [escape?_x] at h ⊢
        cases hcode : codePoint? f 2 cs with
        | none => simp [hcode] at h
        | some pair =>
          obtain ⟨d, left⟩ := pair
          simp only [hcode] at h
          simp only [codePoint?_append hs (by decide) hcode]
          split_ifs at h ⊢
          simp_all
      · exact map_append Escaped.char (codePoint?_append hs (by decide)) h
      · exact map_append Escaped.char (codePoint?_append hs (by decide)) h
      · exact map_append Escaped.set (unicodeClass?_append hs) h
      · exact map_append Escaped.set (unicodeClass?_append hs) h
      · exact map_append Escaped.look (edge?_append hs) h
    · rw [escape?_cons hc] at h ⊢
      obtain ⟨⟨e', left⟩, hsingle, hpair⟩ := Option.map_eq_some_iff.mp h
      obtain ⟨rfl, rfl⟩ := Prod.mk.inj hpair
      rw [hsingle]
      rfl

/-! ## Classes -/

/-- A class of which the name stands between colons, made what `finish` says. -/
def nameEnd? (finish : CharClass → CharClass) (cs : List Char) : Option (CharClass × List Char) :=
  match cutAt ':' cs with
  | some (name, ']' :: rest) => (asciiClass? (String.ofList name)).map fun s => (finish s, rest)
  | _ => none

theorem namedClass?_negated (cs : List Char) :
    namedClass? f (':' :: '^' :: cs) = nameEnd? (fun s => .outside (inCase f s)) cs := rfl

theorem namedClass?_plain {cs : List Char} (h : cs.head? ≠ some '^') :
    namedClass? f (':' :: cs) = nameEnd? (inCase f) cs := by
  rcases cs with _ | ⟨d, cs⟩
  · rfl
  · have hd : d ≠ '^' := fun he => h (by simp [he])
    simp [namedClass?, hd]
    rfl

theorem nameEnd?_append (hs : Trailing tail) (finish : CharClass → CharClass) (cs : List Char) :
    nameEnd? finish (cs ++ ')' :: tail) =
      (nameEnd? finish cs).map fun (s, rest) => (s, rest ++ ')' :: tail) := by
  have hcolon : ':' ∉ ')' :: tail := by simpa using hs.colon
  unfold nameEnd?
  cases hcut : cutAt ':' cs with
  | none =>
    have hnone : cutAt ':' (cs ++ ')' :: tail) = none := by
      rw [cutAt_eq_none_iff] at hcut ⊢
      exact List.not_mem_append hcut hcolon
    rw [hnone]
    rfl
  | some pair =>
    obtain ⟨name, left⟩ := pair
    rw [cutAt_append hcut]
    rcases left with _ | ⟨d, left⟩
    · rfl
    · by_cases hd : d = ']'
      · subst hd
        simp [Function.comp_def]
      · simp [hd]

theorem namedClass?_append (hs : Trailing tail) (cs : List Char) :
    namedClass? f (cs ++ ')' :: tail) =
      (namedClass? f cs).map fun (s, rest) => (s, rest ++ ')' :: tail) := by
  rcases cs with _ | ⟨c, cs⟩
  · rfl
  by_cases hc : c = ':'
  · subst hc
    by_cases hnegated : cs.head? = some '^'
    · obtain ⟨cs, rfl⟩ := List.head?_eq_some_iff.mp hnegated
      exact nameEnd?_append hs _ cs
    · have hplain : (cs ++ ')' :: tail).head? ≠ some '^' := by
        cases cs <;> simp_all
      rw [List.cons_append, namedClass?_plain hplain, namedClass?_plain hnegated,
        nameEnd?_append hs]
  · have hnone : ∀ more, namedClass? f (c :: more) = none := fun more => by simp [namedClass?, hc]
    rw [List.cons_append, hnone, hnone]
    rfl

theorem setOperator?_append (cs : List Char) :
    setOperator? (cs ++ ')' :: tail) =
      (setOperator? cs).map fun (op, rest) => (op, rest ++ ')' :: tail) := by
  rcases cs with _ | ⟨c, _ | ⟨d, cs⟩⟩
  · rfl
  · simp [setOperator?]
  · by_cases hand : c = '&' ∧ d = '&'
    · obtain ⟨rfl, rfl⟩ := hand
      rfl
    by_cases hminus : c = '-' ∧ d = '-'
    · obtain ⟨rfl, rfl⟩ := hminus
      rfl
    by_cases htilde : c = '~' ∧ d = '~'
    · obtain ⟨rfl, rfl⟩ := htilde
      rfl
    have hnone : ∀ more, setOperator? (c :: d :: more) = none := by
      intro more
      unfold setOperator?
      split <;> simp_all
    rw [List.cons_append, List.cons_append, hnone, hnone]
    rfl

theorem setItem?_append (hs : Trailing tail) {cs rest : List Char} {e : Escaped}
    (h : setItem? f cs = some (e, rest)) :
    setItem? f (cs ++ ')' :: tail) = some (e, rest ++ ')' :: tail) := by
  rcases cs with _ | ⟨c, cs⟩
  · simp [setItem?] at h
  by_cases hc : c = '\\'
  · subst hc
    exact escape?_append hs h
  · have hplain : ∀ more, setItem? f (c :: more) = some (.char c, more) := fun more => by
      simp [setItem?]
    rw [hplain] at h
    rw [List.cons_append, hplain]
    simp_all

theorem startsRange_append (hs : Trailing tail) {cs : List Char} (hne : cs ≠ []) :
    startsRange f (cs ++ ')' :: tail) = startsRange f cs := by
  obtain ⟨c, more, rfl⟩ := List.exists_cons_of_ne_nil hne
  by_cases hc : c = '-'
  · subst hc
    rcases skip_append hs f more with ⟨hnone, hrest | hrest⟩ | ⟨hsome, hrest⟩
    · simp [startsRange, hnone, hrest]
    · simp [startsRange, hnone, hrest]
    · obtain ⟨d, left, hleft⟩ := List.exists_cons_of_ne_nil hsome
      simp only [List.cons_append, startsRange, hrest, hleft]
      by_cases hd : d = ']'
      · subst hd; rfl
      by_cases hd' : d = '-'
      · subst hd'; rfl
      simp [hd, hd']
  · simp [startsRange, hc]

theorem rangeOrItem?_append (hs : Trailing tail) {cs rest : List Char} {s : CharClass}
    (h : rangeOrItem? f cs = some (s, rest)) :
    rangeOrItem? f (cs ++ ')' :: tail) = some (s, rest ++ ')' :: tail) := by
  unfold rangeOrItem? at h ⊢
  cases hfirst : setItem? f cs with
  | none => simp [hfirst] at h
  | some pair =>
    obtain ⟨first, left⟩ := pair
    rw [hfirst] at h
    rw [setItem?_append hs hfirst]
    simp only [Option.bind_eq_bind, Option.bind_some] at h ⊢
    cases hskip : skip f left with
    | nil => simp [hskip] at h
    | cons c more =>
      rw [hskip] at h
      rw [skip_append_of_cons hs hskip]
      rw [if_neg (by simp)] at h ⊢
      rw [← List.cons_append, startsRange_append hs (by simp)]
      by_cases hrange : startsRange f (c :: more) = true
      · rw [if_pos hrange] at h ⊢
        simp only [List.cons_append, List.drop_one, List.tail_cons] at h ⊢
        cases hskip' : skip f more with
        | nil => simp [hskip', setItem?] at h
        | cons d more' =>
          rw [hskip'] at h
          rw [skip_append_of_cons hs hskip']
          cases hsecond : setItem? f (d :: more') with
          | none => simp [hsecond] at h
          | some pair =>
            obtain ⟨second, left'⟩ := pair
            rw [hsecond] at h
            rw [← List.cons_append, setItem?_append hs hsecond]
            simp only [Option.bind_some] at h ⊢
            cases first with
            | set _ => simp at h
            | look _ => simp at h
            | char a =>
              cases second with
              | set _ => simp at h
              | look _ => simp at h
              | char b =>
                simp only at h ⊢
                split_ifs at h ⊢
                simp_all
      · rw [if_neg hrange] at h ⊢
        simp only [Option.bind_eq_some_iff, Option.some.injEq, Prod.mk.injEq] at h ⊢
        obtain ⟨s', hs', rfl, rfl⟩ := h
        exact ⟨s', hs', rfl, rfl⟩

theorem classFront_append (items : List (Nested CharClass)) (cs : List Char) :
    classFront f items (cs ++ ')' :: tail) =
      ((classFront f items cs).1, (classFront f items cs).2 ++ ')' :: tail) := by
  induction cs generalizing items with
  | nil => simp [classFront]
  | cons c cs ih =>
    by_cases hdash : c = '-'
    · subst hdash
      simp [classFront, ih]
    by_cases hclose : c = ']'
    · subst hclose
      rw [List.cons_append, classFront, classFront]
      split_ifs <;> simp
    · simp [classFront, hdash, hclose]

/-- The front of a class is read as before, unless nothing is left of it. -/
theorem openClass_append (hs : Trailing tail) (cs : List Char) :
    (openClass f cs).2.2 = [] ∨ openClass f (cs ++ ')' :: tail) =
      ((openClass f cs).1, (openClass f cs).2.1, (openClass f cs).2.2 ++ ')' :: tail) := by
  have hfront : ∀ cs, (classFront f [] (skip f cs)).2 = [] ∨
      classFront f [] (skip f (cs ++ ')' :: tail)) =
        ((classFront f [] (skip f cs)).1, (classFront f [] (skip f cs)).2 ++ ')' :: tail) := by
    intro cs
    rcases skip_append hs f cs with ⟨hnone, -⟩ | ⟨-, hrest⟩
    · exact .inl (by rw [hnone]; rfl)
    · exact .inr (by rw [hrest, classFront_append])
  rcases skip_append hs f cs with ⟨hnone, -⟩ | ⟨hsome, hrest⟩
  · exact .inl (by simp [openClass, hnone, classFront])
  · obtain ⟨c, more, hmore⟩ := List.exists_cons_of_ne_nil hsome
    rw [hmore] at hrest
    by_cases hc : c = '^'
    · subst hc
      rcases hfront more with hnone | hfront
      · exact .inl (by simpa [openClass, hmore] using hnone)
      · exact .inr (by simp [openClass, hmore, hrest, hfront])
    · refine .inr ?_
      have happend : classFront f [] (c :: (more ++ ')' :: tail)) = _ :=
        classFront_append [] (c :: more)
      simp [openClass, hmore, hrest, hc, happend]

theorem skip_nil : skip f [] = [] := by
  unfold skip
  split <;> rfl

theorem class?_nil (fuel : Nat) (stack : List Around) (here : Around) :
    class? f fuel stack here [] = none := by
  cases fuel with
  | zero => rfl
  | succ fuel => rw [class?, skip_nil]

theorem class?_append (hs : Trailing tail) {fuel : Nat} {stack : List Around} {here : Around}
    {cs rest : List Char} {s : Nested CharClass} (h : class? f fuel stack here cs = some (s, rest))
    (more : Nat) :
    class? f (fuel + more) stack here (cs ++ ')' :: tail) = some (s, rest ++ ')' :: tail) := by
  induction fuel generalizing stack here cs with
  | zero => simp [class?] at h
  | succ fuel ih =>
    rw [Nat.add_right_comm]
    rw [class?] at h ⊢
    cases hskip : skip f cs with
    | nil => simp [hskip] at h
    | cons c cs =>
      rw [hskip] at h
      rw [skip_append_of_cons hs hskip]
      by_cases hopen : c = '['
      · subst hopen
        simp only [namedClass?_append hs] at h ⊢
        cases hnamed : namedClass? f cs with
        | some pair =>
          simp only [hnamed, Option.map_some] at h ⊢
          exact ih h
        | none =>
          simp only [hnamed, Option.map_none] at h ⊢
          rcases openClass_append (f := f) hs cs with hnone | hopen
          · rw [hnone, class?_nil] at h
            simp at h
          · rw [hopen]
            exact ih h
      by_cases hclose : c = ']'
      · subst hclose
        simp only at h ⊢
        cases stack with
        | nil =>
          obtain ⟨rfl, rfl⟩ := Prod.mk.inj (Option.some.inj h)
          rfl
        | cons outer stack => exact ih h
      · split at h
        · next he => simp at he
        · next he => exact absurd (List.cons.inj he).1 hopen
        · next he => exact absurd (List.cons.inj he).1 hclose
        split
        · next he => simp at he
        · next he => exact absurd (List.cons.inj he).1 hopen
        · next he => exact absurd (List.cons.inj he).1 hclose
        rw [← List.cons_append, setOperator?_append]
        cases hop : setOperator? (c :: cs) with
        | some pair =>
          simp only [hop, Option.map_some] at h ⊢
          exact ih h
        | none =>
          simp only [hop, Option.map_none] at h ⊢
          cases hitem : rangeOrItem? f (c :: cs) with
          | none => simp [hitem] at h
          | some pair =>
            simp only [hitem] at h
            simp only [rangeOrItem?_append hs hitem]
            exact ih h

/-- A class behind its opening bracket. -/
def bracketed? (f : Flags) (cs : List Char) : Option (Nested CharClass × List Char) :=
  let (negated, front, rest) := openClass f cs
  class? f (rest.length + 1) [] ⟨negated, none, front⟩ rest

theorem bracketed?_append (hs : Trailing tail) {cs rest : List Char} {s : Nested CharClass}
    (h : bracketed? f cs = some (s, rest)) :
    bracketed? f (cs ++ ')' :: tail) = some (s, rest ++ ')' :: tail) := by
  unfold bracketed? at h ⊢
  rcases openClass_append (f := f) hs cs with hnone | hfront
  · simp [hnone, class?_nil] at h
  rw [hfront]
  generalize openClass f cs = front at h ⊢
  obtain ⟨negated, front, left⟩ := front
  dsimp only at h ⊢
  have hlength : left.length + 1 + (tail.length + 1) = (left ++ ')' :: tail).length + 1 := by
    simp only [List.length_append, List.length_cons]
    omega
  rw [← hlength]
  exact class?_append hs h (tail.length + 1)

end Reader
end Regex
end Stencil
