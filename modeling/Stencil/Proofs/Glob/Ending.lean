import Stencil.Proofs.Glob

/-! A pattern with an escaped blank at its end, and what is left of it without the blank: it is no
pattern, or the backslash stands for itself and the path has to end with it. -/
namespace Stencil
namespace Glob

open Text

/-! ## Reading up to the backslash -/

/-- What may follow the last backslash: a blank, or nothing once it is cut off. -/
def IsTail (t : List Char) : Prop := t = [] ∨ t = [' ']

theorem doubleStar_cons (inGroup : Bool) (previous : Previous) (tokens : List Token) (c : Char) :
    ∃ (tokens' : List Token) (taken : Bool), ∀ rest,
      doubleStar inGroup previous tokens (c :: rest) =
        (tokens', if taken then rest else c :: rest) ∧ (taken = true → c = '/') := by
  unfold doubleStar
  dsimp only
  by_cases hc : c = '/'
  · subst hc
    split_ifs with hempty hstars hclose hslash
    · exact ⟨_, true, fun rest => ⟨rfl, fun _ => rfl⟩⟩
    · exact ⟨_, false, fun rest => ⟨rfl, by simp⟩⟩
    · simp at hclose
    · exact ⟨_, true, fun rest => ⟨rfl, fun _ => rfl⟩⟩
    · exact absurd rfl hslash
  · split_ifs with hempty hstars hclose
    · refine ⟨.star :: .star :: tokens, false, fun rest => ⟨?_, by simp⟩⟩
      split
      · next h => simp at h
      · next h => exact absurd (List.cons.inj h).1 hc
      · rfl
    · exact ⟨_, false, fun rest => ⟨rfl, by simp⟩⟩
    · exact ⟨_, false, fun rest => ⟨rfl, by simp⟩⟩
    · exact ⟨_, false, fun rest => ⟨rfl, by simp⟩⟩

theorem doubleStar_append (inGroup : Bool) (previous : Previous) (tokens : List Token)
    (cs : List Char) : ∃ tokens' left, left.length ≤ cs.length ∧ ∀ t,
      doubleStar inGroup previous tokens (cs ++ '\\' :: t) = (tokens', left ++ '\\' :: t) := by
  cases cs with
  | nil =>
    obtain ⟨tokens', taken, hstar⟩ := doubleStar_cons inGroup previous tokens '\\'
    have htaken : taken = false := by simpa using (hstar []).2
    exact ⟨tokens', [], Nat.le_refl _, fun t => by simpa [htaken] using (hstar t).1⟩
  | cons c cs =>
    obtain ⟨tokens', taken, hstar⟩ := doubleStar_cons inGroup previous tokens c
    refine ⟨tokens', if taken then cs else c :: cs, by cases taken <;> simp, fun t => ?_⟩
    rw [List.cons_append, (hstar _).1]
    cases taken <;> rfl

theorem classStart_append (cs : List Char) : ∃ negated inner, inner.length ≤ cs.length ∧ ∀ t,
    classStart (cs ++ '\\' :: t) = (negated, inner ++ '\\' :: t) := by
  unfold classStart
  cases cs with
  | nil => exact ⟨false, [], Nat.le_refl _, fun t => by simp⟩
  | cons c cs =>
    by_cases hnot : c = '!'
    · exact ⟨true, cs, by simp, fun t => by simp [hnot]⟩
    by_cases hcaret : c = '^'
    · exact ⟨true, cs, by simp, fun t => by simp [hcaret]⟩
    · exact ⟨false, c :: cs, by simp, fun t => by simp [hnot, hcaret]⟩

theorem classRanges_cons (first inRange : Bool) (ranges : List (Char × Char)) (c : Char) :
    (c = ']' ∧ ∃ found, ∀ rest,
      classRanges first inRange ranges (c :: rest) = .ok (some (found, rest))) ∨
    (∀ rest, classRanges first inRange ranges (c :: rest) = .error ()) ∨
    ∃ inRange' ranges', (inRange' = true → c = '-') ∧ ∀ rest,
      classRanges first inRange ranges (c :: rest) = classRanges false inRange' ranges' rest := by
  by_cases hclose : c = ']' ∧ (!first) = true
  · refine .inl ⟨hclose.1, (if inRange then ('-', '-') :: ranges else ranges).reverse, fun rest => ?_⟩
    unfold classRanges
    rw [if_pos hclose]
  by_cases hrange : c = '-' ∧ (!first) = true ∧ (!inRange) = true
  · refine .inr (.inr ⟨true, ranges, fun _ => hrange.1, fun rest => ?_⟩)
    conv_lhs => unfold classRanges
    rw [if_neg hclose, if_pos hrange]
  cases inRange with
  | false =>
    refine .inr (.inr ⟨false, (c, c) :: ranges, by simp, fun rest => ?_⟩)
    conv_lhs => unfold classRanges
    rw [if_neg hclose, if_neg hrange]
  | true =>
    cases ranges with
    | nil =>
      refine .inr (.inr ⟨false, [(c, c)], by simp, fun rest => ?_⟩)
      conv_lhs => unfold classRanges
      rw [if_neg hclose, if_neg hrange]
    | cons r more =>
      by_cases hr : c < r.1
      · refine .inr (.inl fun rest => ?_)
        unfold classRanges
        rw [if_neg hclose, if_neg hrange]
        exact if_pos hr
      · refine .inr (.inr ⟨false, (r.1, c) :: more, by simp, fun rest => ?_⟩)
        conv_lhs => unfold classRanges
        rw [if_neg hclose, if_neg hrange]
        exact if_neg hr

/-- A class is closed before the backslash or not at all. -/
theorem classRanges_append (cs : List Char) (first inRange : Bool) (ranges : List (Char × Char)) :
    (∀ t, IsTail t → classRanges first inRange ranges (cs ++ '\\' :: t) = .error ()) ∨
    (∀ t, IsTail t → classRanges first inRange ranges (cs ++ '\\' :: t) = .ok none) ∨
    ∃ found rest, rest.length ≤ cs.length ∧ ∀ t,
      classRanges first inRange ranges (cs ++ '\\' :: t) = .ok (some (found, rest ++ '\\' :: t)) := by
  induction cs generalizing first inRange ranges with
  | nil =>
    rcases classRanges_cons first inRange ranges '\\' with ⟨h, -⟩ | h | ⟨inRange', ranges', hdash, h⟩
    · exact absurd h (by decide)
    · exact .inl fun t _ => h t
    · obtain rfl : inRange' = false := by simpa using hdash
      refine .inr (.inl fun t ht => (h t).trans ?_)
      rcases ht with rfl | rfl <;> simp [classRanges]
  | cons c cs ih =>
    rcases classRanges_cons first inRange ranges c with
      ⟨-, found, h⟩ | h | ⟨inRange', ranges', -, h⟩
    · exact .inr (.inr ⟨found, cs, by simp, fun t => h _⟩)
    · exact .inl fun t _ => h _
    · rcases ih false inRange' ranges' with hrest | hrest | ⟨found, rest, hlength, hrest⟩
      · exact .inl fun t ht => (h _).trans (hrest t ht)
      · exact .inr (.inl fun t ht => (h _).trans (hrest t ht))
      · exact .inr (.inr ⟨found, rest, by simp; omega, fun t => (h _).trans (hrest t)⟩)

/-- One step of reading looks no farther than to the backslash. -/
theorem readTokens_step {c : Char} {cs : List Char} (h : c = '\\' → cs ≠ []) (stack : List Open)
    (literalBrackets : Bool) (previous : Previous) (tokens : List Token) :
    (∀ fuel t, IsTail t →
      readTokens (fuel + 1) stack literalBrackets previous tokens (c :: (cs ++ '\\' :: t)) =
        .error ()) ∨
    ∃ stack' literalBrackets' previous' tokens' rest, rest.length ≤ cs.length ∧ ∀ fuel t, IsTail t →
      readTokens (fuel + 1) stack literalBrackets previous tokens (c :: (cs ++ '\\' :: t)) =
        readTokens fuel stack' literalBrackets' previous' tokens' (rest ++ '\\' :: t) := by
  simp only [readTokens]
  split_ifs with hany hstar hbracket hopen hclose hcomma hescape
  · exact .inr ⟨_, _, _, _, cs, Nat.le_refl _, fun fuel t _ => rfl⟩
  · right
    by_cases hdouble : ∃ rest, cs = '*' :: rest
    · obtain ⟨rest, rfl⟩ := hdouble
      obtain ⟨tokens', left, hlength, hleft⟩ :=
        doubleStar_append (!stack.isEmpty) previous tokens rest
      refine ⟨stack, literalBrackets,
        some (if left.length < rest.length then '/' else '*'), tokens', left, by simp; omega,
        fun fuel t _ => ?_⟩
      simp [hleft]
    · have hsingle : ∀ t rest, cs ++ '\\' :: t ≠ '*' :: rest := by
        intro t rest
        cases cs with
        | nil => simp
        | cons d cs => exact fun he => hdouble ⟨cs, by rw [(List.cons.inj he).1]⟩
      refine ⟨stack, literalBrackets, some c, .star :: tokens, cs, Nat.le_refl _, fun fuel t _ => ?_⟩
      split
      · next rest hrest => exact absurd hrest (hsingle t rest)
      · rfl
  · obtain ⟨negated, inner, hlength, hstart⟩ := classStart_append cs
    rcases classRanges_append inner true false [] with hfail | hnone | ⟨found, rest, hrest, hfound⟩
    · exact .inl fun fuel t ht => by simp [hstart, hfail t ht]
    · refine .inr ⟨stack, true, some c, .literal '[' :: tokens, cs, Nat.le_refl _, fun fuel t ht => ?_⟩
      simp [hstart, hnone t ht]
    · refine .inr ⟨stack, literalBrackets, some ']', .set negated found :: tokens, rest,
        hrest.trans hlength, fun fuel t _ => ?_⟩
      simp [hstart, hfound t]
  · exact .inr ⟨_, _, _, _, cs, Nat.le_refl _, fun fuel t _ => rfl⟩
  · cases stack with
    | nil => exact .inl fun fuel t _ => rfl
    | cons opened stack => exact .inr ⟨_, _, _, _, cs, Nat.le_refl _, fun fuel t _ => rfl⟩
  · right
    cases stack with
    | nil => exact ⟨_, _, _, _, cs, Nat.le_refl _, fun fuel t _ => rfl⟩
    | cons opened stack => exact ⟨_, _, _, _, cs, Nat.le_refl _, fun fuel t _ => rfl⟩
  · obtain ⟨d, rest, rfl⟩ := List.exists_cons_of_ne_nil (h hescape)
    exact .inr ⟨_, _, _, _, rest, by simp, fun fuel t _ => rfl⟩
  · exact .inr ⟨_, _, _, _, cs, Nat.le_refl _, fun fuel t _ => rfl⟩

/-- A pattern that can be read without the blank at its end ends in an escaped backslash. -/
theorem readTokens_escaped {n : Nat} {cs : List Char} (hlength : cs.length ≤ n) (stack : List Open)
    (literalBrackets : Bool) (previous : Previous) (tokens : List Token) {cut : List Token}
    (h : readTokens (n + 2) stack literalBrackets previous tokens (cs ++ ['\\']) = .ok cut) :
    ∃ front, cut = .literal '\\' :: front ∧
      readTokens (n + 3) stack literalBrackets previous tokens (cs ++ ['\\', ' ']) =
        .ok (.literal ' ' :: .literal '\\' :: front) := by
  have hnone : IsTail [] := .inl rfl
  have hblank : IsTail [' '] := .inr rfl
  induction n generalizing cs stack literalBrackets previous tokens with
  | zero =>
    obtain rfl : cs = [] := List.eq_nil_of_length_eq_zero (Nat.le_zero.mp hlength)
    simp [readTokens] at h
  | succ n ih =>
    cases cs with
    | nil => simp [readTokens] at h
    | cons c cs =>
      have hshorter : cs.length ≤ n := by simpa using hlength
      by_cases hlast : c = '\\' ∧ cs = []
      · -- The backslash before the last one escapes it.
        obtain ⟨rfl, rfl⟩ := hlast
        have hread : stack.isEmpty = true ∧ cut = .literal '\\' :: tokens := by
          simp only [readTokens, List.cons_append, List.nil_append] at h
          split_ifs at h with hempty <;> simp_all
        obtain ⟨hempty, rfl⟩ := hread
        exact ⟨tokens, rfl, by simp [readTokens, hempty]⟩
      · rcases readTokens_step (fun hc hcs => hlast ⟨hc, hcs⟩) stack literalBrackets previous tokens with
          hfail | ⟨stack', literalBrackets', previous', tokens', rest, hrest, hstep⟩
        · rw [List.cons_append, hfail _ _ hnone] at h
          simp at h
        · rw [List.cons_append, hstep _ _ hnone] at h
          rw [List.cons_append, hstep _ _ hblank]
          exact ih (hrest.trans hshorter) _ _ _ _ h

/-! ## The end of what matches -/

theorem head?_of_mem_ends {rs : List Regex} {s : CharClass} {r : Regex}
    (h : sequence (rs ++ [.set s]) = some r) {c d : Cursor} (hd : d ∈ r.ends c) :
    ∃ b, d.before.head? = some b ∧ s.contains b.toNat = true := by
  induction rs generalizing r c with
  | nil =>
    obtain rfl : .set s = r := by simpa [sequence] using h
    unfold Regex.ends at hd
    split at hd
    · next b rest _ =>
      split at hd
      · next hb =>
        rw [List.mem_singleton.mp hd]
        exact ⟨b, rfl, hb⟩
      · simp at hd
    · simp at hd
  | cons first rs ih =>
    rw [List.cons_append, sequence] at h
    cases hrest : sequence (rs ++ [.set s]) with
    | none => exact absurd (sequence_eq_none_iff.mp hrest) (by simp)
    | some rest =>
      rw [hrest] at h
      obtain rfl := Option.some.inj h
      obtain ⟨e, -, hde⟩ := Regex.mem_ends_seq hd
      exact ih hrest hde

theorem bytesOf_singleton {c : Char} (hc : c.toNat < 128) : bytesOf (String.singleton c) = [c] := by
  obtain ⟨k, mark, hrange, hbytes⟩ := exists_encodes c
  obtain ⟨rfl, rfl⟩ : k = 0 ∧ mark = 0 := by omega
  have hbyte : c.toNat % 256 = c.toNat := Nat.mod_eq_of_lt (by omega)
  rw [bytesOf_eq, octets_eq, String.toList_singleton, List.flatMap_singleton, hbytes]
  simp [trailing, hbyte, Char.ofNat_toNat]

/-- A pattern that ends in a character matches only paths that end in it. -/
theorem getLast?_of_accepts {c : Char} (hc : c.toNat < 128) {front : List Token} {name : Bool}
    {path : String}
    (h : accepts ⟨(branch (.literal c :: front)).getD .empty, name⟩ path = true) :
    path.toList.getLast? = some c := by
  have hregex : (Token.literal c :: front).reverse.flatMap Token.regex =
      front.reverse.flatMap Token.regex ++ [.set (byteSet c)] := by
    simp [Token.regex, bytesOf_singleton hc]
  simp only [accepts, Bool.and_eq_true, List.any_eq_true] at h
  obtain ⟨-, d, hd, hempty⟩ := h
  cases hbranch : branch (.literal c :: front) with
  | none =>
    rw [branch, hregex] at hbranch
    exact absurd (sequence_eq_none_iff.mp hbranch) (by simp)
  | some r =>
    rw [hbranch, Option.getD_some] at hd
    rw [branch, hregex] at hbranch
    obtain ⟨b, hb, hcontains⟩ := head?_of_mem_ends hbranch hd
    have htext := (Regex.advances_ends r _ _ hd).text
    rw [Cursor.text, List.isEmpty_iff.mp hempty, List.append_nil] at htext
    have hlast : (bytesOf path).getLast? = some b := by
      have hbytes : d.before.reverse = bytesOf path := by simpa [Cursor.text, Cursor.start] using htext
      rw [← hbytes, List.getLast?_reverse, hb]
    have hsame : b = c := by
      rw [byteSet, CharClass.contains_single] at hcontains
      exact beq_iff_eq.mp hcontains
    exact getLast?_of_bytesOf hc (hsame ▸ hlast)

theorem read_of_literal {cs : List Char} {c : Char} {front : List Token}
    (h : readTokens (cs.length + 1) [] false none [] cs = .ok (.literal c :: front)) :
    read cs = .ok ⟨(branch (.literal c :: front)).getD .empty, aboutName (.literal c :: front)⟩ := by
  rw [read, h]

/-- Without the blank at its end the pattern is none, or is about paths that end in a backslash
instead of a blank. -/
theorem read_escaped {cs : List Char} {p : Pattern} (h : read (cs ++ ['\\']) = .ok p) :
    ∃ q, read (cs ++ ['\\', ' ']) = .ok q ∧
      (∀ path, accepts p path = true → path.toList.getLast? = some '\\') ∧
      ∀ path, accepts q path = true → path.toList.getLast? = some ' ' := by
  cases hcut : readTokens ((cs ++ ['\\']).length + 1) [] false none [] (cs ++ ['\\']) with
  | error e =>
    rw [read, hcut] at h
    simp at h
  | ok cut =>
    have hlength : (cs ++ ['\\']).length + 1 = cs.length + 2 := by simp
    have hcut' := hcut
    rw [hlength] at hcut'
    obtain ⟨front, rfl, hwhole⟩ := readTokens_escaped (Nat.le_refl cs.length) _ _ _ _ hcut'
    rw [read_of_literal hcut] at h
    obtain rfl := Except.ok.inj h
    have hlonger : (cs ++ ['\\', ' ']).length + 1 = cs.length + 3 := by simp
    refine ⟨_, read_of_literal (by rw [hlonger, hwhole]), fun path => ?_, fun path => ?_⟩
    · exact getLast?_of_accepts (by decide)
    · exact getLast?_of_accepts (by decide)

end Glob
end Stencil
