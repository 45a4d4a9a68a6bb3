import Stencil.Proofs.Regex.Classes

/-! An expression in a group is read as it is on its own: each of its parts stays the same when the
group is closed after it and more follows. -/
namespace Stencil
namespace Regex
namespace Reader

open Text

variable {tail : List Char} {f : Flags}

/-! ## Repetitions -/

theorem dropWhile_append {p : Char → Bool} (hp : p ')' = false) (cs : List Char) :
    (cs ++ ')' :: tail).dropWhile p = cs.dropWhile p ++ ')' :: tail := by
  induction cs with
  | nil => simp [hp]
  | cons c cs ih =>
    rw [List.cons_append, List.dropWhile_cons, List.dropWhile_cons, ih]
    split <;> rfl

theorem takeWhile_append {p : Char → Bool} (hp : p ')' = false) (cs : List Char) :
    (cs ++ ')' :: tail).takeWhile p = cs.takeWhile p := by
  induction cs with
  | nil => simp [hp]
  | cons c cs ih => rw [List.cons_append, List.takeWhile_cons, List.takeWhile_cons, ih]

theorem dropBlank_append (cs : List Char) :
    dropBlank (cs ++ ')' :: tail) = dropBlank cs ++ ')' :: tail := dropWhile_append (by decide) cs

theorem count?_append (hs : Trailing tail) {cs rest : List Char} {n : Nat}
    (h : count? f cs = some (n, rest)) :
    count? f (cs ++ ')' :: tail) = some (n, rest ++ ')' :: tail) := by
  unfold count? at h ⊢
  dsimp only at h ⊢
  rw [dropBlank_append]
  cases hskip : skip f (dropBlank cs) with
  | nil => simp [hskip] at h
  | cons c more =>
    rw [hskip] at h
    rw [skip_append_of_cons hs hskip, ← List.cons_append]
    generalize c :: more = cs' at h ⊢
    rw [takeWhile_append (by decide), dropWhile_append (by decide), dropBlank_append]
    split_ifs at h ⊢
    simp_all

theorem count?_nil : count? f [] = none := by simp [count?, dropBlank, skip_nil]

/-- The end of a repetition's bounds. -/
def boundsEnd? (low : Nat) (high : Option Nat) (cs : List Char) :
    Option (Nat × Option Nat × List Char) :=
  match cs with
  | '\x7d' :: rest => if high.any (· < low) then none else some (low, high, rest)
  | _ => none

theorem boundsEnd?_append {low low' : Nat} {high high' : Option Nat} {cs rest : List Char}
    (h : boundsEnd? low high cs = some (low', high', rest)) :
    boundsEnd? low high (cs ++ ')' :: tail) = some (low', high', rest ++ ')' :: tail) := by
  unfold boundsEnd? at h ⊢
  rcases cs with _ | ⟨d, cs⟩
  · simp at h
  by_cases hd : d = '\x7d'
  · subst hd
    simp only [List.cons_append] at h ⊢
    split_ifs at h ⊢
    simp_all
  · simp [hd] at h

theorem bounds?_append (hs : Trailing tail) {cs rest : List Char} {low : Nat} {high : Option Nat}
    (h : bounds? f cs = some (low, high, rest)) :
    bounds? f (cs ++ ')' :: tail) = some (low, high, rest ++ ')' :: tail) := by
  unfold bounds? at h ⊢
  simp only [Option.bind_eq_bind, Option.bind_eq_some_iff] at h ⊢
  obtain ⟨⟨n, left⟩, hlow, hhigh⟩ := h
  cases hskip : skip f cs with
  | nil =>
    rw [hskip, count?_nil] at hlow
    simp at hlow
  | cons c more =>
    rw [hskip] at hlow
    have hlow' := count?_append hs hlow
    rw [List.cons_append, ← skip_append_of_cons hs hskip] at hlow'
    refine ⟨(n, left ++ ')' :: tail), hlow', ?_⟩
    dsimp only at hhigh ⊢
    rcases left with _ | ⟨d, left⟩
    · simp at hhigh
    by_cases hd : d = ','
    · subst hd
      simp only [List.cons_append] at hhigh ⊢
      cases hskip' : skip f left with
      | nil => simp [hskip', count?_nil] at hhigh
      | cons e more' =>
        rw [hskip'] at hhigh
        rw [skip_append_of_cons hs hskip']
        by_cases he : e = '\x7d'
        · subst he
          simp only [Option.bind_some] at hhigh ⊢
          split_ifs at hhigh ⊢
          simp_all
        · split at hhigh
          · next hcons => exact absurd (List.cons.inj hcons).1 he
          split
          · next hcons => exact absurd (List.cons.inj hcons).1 he
          obtain ⟨⟨high', left'⟩, hcount, hend⟩ := Option.bind_eq_some_iff.mp hhigh
          obtain ⟨⟨m, left''⟩, hm, hpair⟩ := Option.map_eq_some_iff.mp hcount
          obtain ⟨rfl, rfl⟩ := Prod.mk.inj hpair
          rw [← List.cons_append, count?_append hs hm]
          exact boundsEnd?_append hend
    · split at hhigh
      · next hcons => exact absurd (List.cons.inj hcons).1 hd
      split
      · next hcons => exact absurd (List.cons.inj hcons).1 hd
      rw [Option.bind_some] at hhigh ⊢
      exact boundsEnd?_append hhigh

theorem repeatLast?_append {items items' : List Part} {low : Nat} {high : Option Nat}
    {cs rest : List Char} (h : repeatLast? f items low high cs = some (items', rest)) :
    repeatLast? f items low high (cs ++ ')' :: tail) = some (items', rest ++ ')' :: tail) := by
  unfold repeatLast? at h ⊢
  rcases items with _ | ⟨⟨_ | r, depth⟩, items⟩
  · simp at h
  · simp at h
  · simp only at h ⊢
    rcases cs with _ | ⟨c, cs⟩
    · simp_all
    by_cases hc : c = '?'
    · subst hc
      simp_all
    · simp [hc] at h ⊢
      obtain ⟨rfl, rfl⟩ := h
      simp

theorem repeatLast?_nil {items items' : List Part} {low : Nat} {high : Option Nat}
    {rest : List Char} (h : repeatLast? f items low high [] = some (items', rest)) : rest = [] := by
  unfold repeatLast? at h
  split at h
  · exact (Prod.mk.inj (Option.some.inj h)).2.symm
  · simp at h

/-! ## Groups -/

theorem flags?_append {seen : List Char} {off : Bool} {f g : Flags} {c : Char} {cs rest : List Char}
    (h : flags? seen off f cs = some (g, c, rest)) :
    flags? seen off f (cs ++ ')' :: tail) = some (g, c, rest ++ ')' :: tail) := by
  induction cs generalizing seen off f with
  | nil => simp [flags?] at h
  | cons d cs ih =>
    rw [flags?] at h
    rw [List.cons_append, flags?]
    split_ifs at h ⊢
    · simp_all
    · exact ih h
    · cases hset : f.set? d (!off) with
      | none => simp [hset] at h
      | some f' =>
        simp only [hset] at h ⊢
        exact ih h

theorem groupName?_append {cs rest : List Char} {name : String}
    (h : groupName? cs = some (name, rest)) :
    groupName? (cs ++ ')' :: tail) = some (name, rest ++ ')' :: tail) := by
  unfold groupName? at h ⊢
  cases hcut : cutAt '>' cs with
  | none => simp [hcut] at h
  | some pair =>
    obtain ⟨front, left⟩ := pair
    rw [hcut] at h
    rw [cutAt_append hcut]
    cases front with
    | nil => simp at h
    | cons c front =>
      simp only at h ⊢
      split_ifs at h ⊢
      simp_all

/-- The start of a group with more text behind it. -/
def GroupStart.followed (more : List Char) : GroupStart → GroupStart
  | group f noted name rest => group f noted name (rest ++ more)
  | setting f rest => setting f (rest ++ more)

/-- What a group with a name starts with. -/
def named? (f : Flags) (cs : List Char) : Option GroupStart :=
  (groupName? cs).map fun (name, rest) => .group f true (some name) rest

/-- What a group starts with that has flags, or what sets flags. -/
def flagged? (f : Flags) (cs : List Char) : Option GroupStart :=
  match flags? [] false f cs with
  | some (g, ':', rest) => some (.group g false none rest)
  | some (g, _, rest) => some (.setting g rest)
  | none => none

/-- What a group with flags or a name starts with, after the question mark. -/
def signedStart? (f : Flags) (cs : List Char) : Option GroupStart :=
  match cs with
  | '=' :: _ | '!' :: _ | '<' :: '=' :: _ | '<' :: '!' :: _ => none
  | 'P' :: '<' :: rest | '<' :: rest => named? f rest
  | ')' :: _ => none
  | rest => flagged? f rest

theorem groupStart?_eq (f : Flags) (cs : List Char) : groupStart? f cs =
    match skip f cs with
    | '?' :: rest => signedStart? f rest
    | rest => some (.group f true none rest) := by
  unfold groupStart?
  generalize skip f cs = text
  rcases text with _ | ⟨c, rest⟩
  · rfl
  by_cases hc : c = '?'
  · subst hc
    change _ = signedStart? f rest
    fun_cases signedStart? f rest with
    | case6 => simp_all [named?]
    | case8 =>
      split <;> simp_all
      rfl
    | _ => rfl
  · simp [hc]

theorem named?_append {cs : List Char} {g : GroupStart} (h : named? f cs = some g) :
    named? f (cs ++ ')' :: tail) = some (g.followed (')' :: tail)) := by
  obtain ⟨⟨name, rest⟩, hname, rfl⟩ := Option.map_eq_some_iff.mp h
  rw [named?, groupName?_append hname]
  rfl

theorem flagged?_append {cs : List Char} {g : GroupStart} (h : flagged? f cs = some g) :
    flagged? f (cs ++ ')' :: tail) = some (g.followed (')' :: tail)) := by
  unfold flagged? at h ⊢
  cases hflags : flags? [] false f cs with
  | none => simp [hflags] at h
  | some found =>
    obtain ⟨g', d, rest⟩ := found
    rw [hflags] at h
    rw [flags?_append hflags]
    by_cases hd : d = ':'
    · subst hd
      obtain rfl := Option.some.inj h
      rfl
    · simp at h ⊢
      subst h
      rfl

theorem signedStart?_append {cs : List Char} {g : GroupStart} (h : signedStart? f cs = some g) :
    signedStart? f (cs ++ ')' :: tail) = some (g.followed (')' :: tail)) := by
  revert h
  fun_cases signedStart? f cs with
  | case5 rest => exact fun h => named?_append h
  | case6 rest hequal hbang =>
    intro h
    rcases rest with _ | ⟨d, rest⟩
    · simp [named?, groupName?, cutAt] at h
    · have hread : signedStart? f ('<' :: d :: (rest ++ ')' :: tail)) =
          named? f (d :: (rest ++ ')' :: tail)) := signedStart?.eq_6 f _
            (fun more he => hequal rest (by rw [(List.cons.inj he).1]))
            (fun more he => hbang rest (by rw [(List.cons.inj he).1]))
      exact hread.trans (named?_append h)
  | case8 _ hequal hbang _ _ hold hname hclose =>
    intro h
    rcases cs with _ | ⟨c, cs⟩
    · simp [flagged?, flags?] at h
    have hfirst : ∀ {d : Char} {more : List Char}, c :: (cs ++ ')' :: tail) = d :: more → c = d :=
      fun he => (List.cons.inj he).1
    have hread : signedStart? f (c :: (cs ++ ')' :: tail)) =
        flagged? f (c :: (cs ++ ')' :: tail)) := by
      refine signedStart?.eq_8 f _ ?_ ?_ ?_ ?_ ?_ ?_ ?_
      · exact fun _ he => hequal cs (by rw [hfirst he])
      · exact fun _ he => hbang cs (by rw [hfirst he])
      · exact fun _ he => hname cs (by rw [hfirst he])
      · exact fun _ he => hname cs (by rw [hfirst he])
      · intro more he
        rcases cs with _ | ⟨d, cs⟩
        · simp at he
        · have hsecond : d = '<' := (List.cons.inj (List.cons.inj he).2).1
          exact hold cs (by rw [hfirst he, hsecond])
      · exact fun _ he => hname cs (by rw [hfirst he])
      · exact fun _ he => hclose cs (by rw [hfirst he])
    exact hread.trans (flagged?_append h)
  | _ => simp

/-- A group is started as before, unless nothing is left of it. -/
theorem groupStart?_append (hs : Trailing tail) {cs : List Char} {g : GroupStart}
    (h : groupStart? f cs = some g) :
    g = .group f true none [] ∨
      groupStart? f (cs ++ ')' :: tail) = some (g.followed (')' :: tail)) := by
  rw [groupStart?_eq] at h ⊢
  cases hskip : skip f cs with
  | nil =>
    rw [hskip] at h
    exact .inl (Option.some.inj h).symm
  | cons c more =>
    refine .inr ?_
    rw [hskip] at h
    rw [skip_append_of_cons hs hskip]
    by_cases hc : c = '?'
    · subst hc
      exact signedStart?_append h
    · simp [hc] at h ⊢
      subst h
      rfl

/-! ## Moves -/

/-- What stands for itself, or for a place, outside of classes and groups. -/
def plain? (f : Flags) (c : Char) : Option Regex :=
  if c = '.' then dot? f
  else if c = '^' then some (.look (lineStart f))
  else if c = '$' then some (.look (lineEnd f))
  else literal? f c

def Escaped.regex? (f : Flags) : Escaped → Option Regex
  | char d => literal? f d
  | set s => classRegex? f s
  | look a => some (.look a)

/-- What a character makes of the items that have been read, and what is left after it. -/
inductive Move where
  | group (g : GroupStart)
  | close (rest : List Char)
  | branch (rest : List Char)
  | items (items : List Part) (rest : List Char)

/-- A move with more text behind it. -/
def Move.followed (more : List Char) : Move → Move
  | group g => group (g.followed more)
  | close rest => close (rest ++ more)
  | branch rest => branch (rest ++ more)
  | items is rest => items is (rest ++ more)

/-- How often the signs `?`, `*` and `+` make something repeated. -/
def timesOf (c : Char) : Nat × Option Nat :=
  (if c = '+' then 1 else 0, if c = '?' then some 1 else none)

def move? (f : Flags) (items : List Part) (c : Char) (rest : List Char) : Option Move :=
  if c = '(' then (groupStart? f rest).map .group
  else if c = ')' then some (.close rest)
  else if c = '|' then some (.branch rest)
  else if c = '[' then
    (bracketed? f rest).bind fun (s, rest) =>
      (classRegex? f s.value).map fun r => .items (⟨some r, s.depth⟩ :: items) rest
  else if c = '?' ∨ c = '*' ∨ c = '+' then
    (repeatLast? f items (timesOf c).1 (timesOf c).2 rest).map
      fun (items, rest) => .items items rest
  else if c = '\x7b' then
    (bounds? f rest).bind fun (min, max, rest) =>
      (repeatLast? f items min max (skip f rest)).map fun (items, rest) => .items items rest
  else if c = '\\' then
    (escape? f rest).bind fun (e, rest) =>
      (e.regex? f).map fun r => .items (⟨some r, 0⟩ :: items) rest
  else (plain? f c).map fun r => .items (⟨some r, 0⟩ :: items) rest

/-- What becomes of an expression whose group is closed. -/
def Open.part (outer : Open) (r : Nested Regex) : Part :=
  ⟨some (if outer.noted then .group r.value else r.value), r.depth + 1⟩

/-- What is read after a move. -/
def after (fuel : Nat) (stack : List Open) (names : List String) (f : Flags)
    (branches : List (Nested Regex)) (items : List Part) : Move → Option (Nested Regex)
  | .group (.group g noted name rest) =>
    if name.any names.contains then none
    else regex? fuel (⟨f, branches, items, noted⟩ :: stack) (name.toList ++ names) g [] [] rest
  | .group (.setting g rest) => regex? fuel stack names g branches (⟨none, 0⟩ :: items) rest
  | .close rest =>
    match stack with
    | [] => none
    | outer :: stack =>
      regex? fuel stack names outer.flags outer.branches
        (outer.part (alternation branches (concat items)) :: outer.items) rest
  | .branch rest => regex? fuel stack names f (concat items :: branches) [] rest
  | .items items rest => regex? fuel stack names f branches items rest

theorem regex?_succ (fuel : Nat) (stack : List Open) (names : List String)
    (branches : List (Nested Regex)) (items : List Part) (cs : List Char) :
    regex? (fuel + 1) stack names f branches items cs =
      match skip f cs with
      | [] => if stack.isEmpty then some (alternation branches (concat items)) else none
      | c :: rest => (move? f items c rest).bind (after fuel stack names f branches items) := by
  rw [regex?]
  cases skip f cs with
  | nil => rfl
  | cons c rest =>
    dsimp only
    unfold move? timesOf
    by_cases hgroup : c = '('
    · rw [if_pos hgroup, if_pos hgroup]
      rcases groupStart? f rest with _ | (_ | _) <;> rfl
    rw [if_neg hgroup, if_neg hgroup]
    by_cases hclose : c = ')'
    · rw [if_pos hclose, if_pos hclose]
      cases stack <;> rfl
    rw [if_neg hclose, if_neg hclose]
    by_cases hbranch : c = '|'
    · rw [if_pos hbranch, if_pos hbranch]
      rfl
    rw [if_neg hbranch, if_neg hbranch]
    by_cases hclass : c = '['
    · rw [if_pos hclass, if_pos hclass]
      unfold bracketed?
      generalize openClass f rest = front
      obtain ⟨negated, front, left⟩ := front
      dsimp only
      rcases class? f (left.length + 1) [] ⟨negated, none, front⟩ left with _ | ⟨set, left⟩
      · rfl
      · dsimp only [Option.bind_some]
        cases classRegex? f set.value <;> rfl
    rw [if_neg hclass, if_neg hclass]
    by_cases hrepeat : c = '?' ∨ c = '*' ∨ c = '+'
    · rw [if_pos hrepeat, if_pos hrepeat]
      dsimp only
      generalize (if c = '+' then 1 else 0) = low
      generalize (if c = '?' then some 1 else none) = high
      cases repeatLast? f items low high rest <;> rfl
    rw [if_neg hrepeat, if_neg hrepeat]
    by_cases hbounds : c = '\x7b'
    · rw [if_pos hbounds, if_pos hbounds]
      rcases bounds? f rest with _ | ⟨low, high, left⟩
      · rfl
      · dsimp only [Option.bind_some]
        cases repeatLast? f items low high (skip f left) <;> rfl
    rw [if_neg hbounds, if_neg hbounds]
    by_cases hescape : c = '\\'
    · rw [if_pos hescape, if_pos hescape]
      rcases escape? f rest with _ | ⟨e | e | e, left⟩
      · rfl
      · dsimp only [Option.bind_some, Escaped.regex?]
        cases literal? f e <;> rfl
      · dsimp only [Option.bind_some, Escaped.regex?]
        cases classRegex? f e <;> rfl
      · rfl
    · rw [if_neg hescape, if_neg hescape]
      unfold plain?
      generalize (if c = '.' then dot? f else if c = '^' then some (look (lineStart f)) else
        if c = '$' then some (look (lineEnd f)) else literal? f c) = plain
      cases plain <;> rfl

/-- A move is made as before. If nothing is left after it, it may be another one, but no expression
is read then: a group is open. -/
theorem move?_append (hs : Trailing tail) {items : List Part} {c : Char} {rest : List Char}
    {m : Move} (h : move? f items c rest = some m) :
    m = .group (.group f true none []) ∨
    (∃ items', move? f items c (rest ++ ')' :: tail) = some (.items items' [])) ∨
    move? f items c (rest ++ ')' :: tail) = some (m.followed (')' :: tail)) := by
  unfold move? at h ⊢
  by_cases hgroup : c = '('
  · rw [if_pos hgroup] at h ⊢
    obtain ⟨g, hg, rfl⟩ := Option.map_eq_some_iff.mp h
    rcases groupStart?_append hs hg with rfl | hlonger
    · exact .inl rfl
    · exact .inr (.inr (by rw [hlonger]; rfl))
  rw [if_neg hgroup] at h ⊢
  by_cases hclose : c = ')'
  · rw [if_pos hclose] at h ⊢
    obtain rfl := Option.some.inj h
    exact .inr (.inr rfl)
  rw [if_neg hclose] at h ⊢
  by_cases hbranch : c = '|'
  · rw [if_pos hbranch] at h ⊢
    obtain rfl := Option.some.inj h
    exact .inr (.inr rfl)
  rw [if_neg hbranch] at h ⊢
  by_cases hclass : c = '['
  · rw [if_pos hclass] at h ⊢
    obtain ⟨⟨set, left⟩, hset, hread⟩ := Option.bind_eq_some_iff.mp h
    obtain ⟨r, hr, rfl⟩ := Option.map_eq_some_iff.mp hread
    exact .inr (.inr (by simp [bracketed?_append hs hset, hr, Move.followed]))
  rw [if_neg hclass] at h ⊢
  by_cases hrepeat : c = '?' ∨ c = '*' ∨ c = '+'
  · rw [if_pos hrepeat] at h ⊢
    obtain ⟨⟨items', left⟩, hlast, rfl⟩ := Option.map_eq_some_iff.mp h
    exact .inr (.inr (by rw [repeatLast?_append hlast]; rfl))
  rw [if_neg hrepeat] at h ⊢
  by_cases hbounds : c = '\x7b'
  · rw [if_pos hbounds] at h ⊢
    obtain ⟨⟨low, high, left⟩, hcount, hread⟩ := Option.bind_eq_some_iff.mp h
    obtain ⟨⟨items', left'⟩, hlast, rfl⟩ := Option.map_eq_some_iff.mp hread
    rw [bounds?_append hs hcount, Option.bind_some]
    dsimp only
    have hlonger : repeatLast? f items low high (skip f left ++ ')' :: tail) =
        some (items', left' ++ ')' :: tail) := repeatLast?_append hlast
    rcases skip_append hs f left with ⟨hnone, hrest | hrest⟩ | ⟨-, hrest⟩
    · rw [hnone, List.nil_append] at hlonger
      exact .inr (.inr (by rw [hrest, hlonger]; rfl))
    · rw [hnone] at hlast
      obtain rfl := repeatLast?_nil hlast
      exact .inr (.inl ⟨items', by rw [hrest, hlast]; rfl⟩)
    · exact .inr (.inr (by rw [hrest, hlonger]; rfl))
  rw [if_neg hbounds] at h ⊢
  by_cases hescape : c = '\\'
  · rw [if_pos hescape] at h ⊢
    obtain ⟨⟨e, left⟩, hread, he⟩ := Option.bind_eq_some_iff.mp h
    obtain ⟨r, hr, rfl⟩ := Option.map_eq_some_iff.mp he
    exact .inr (.inr (by simp [escape?_append hs hread, hr, Move.followed]))
  · rw [if_neg hescape] at h ⊢
    obtain ⟨r, hr, rfl⟩ := Option.map_eq_some_iff.mp h
    exact .inr (.inr (by rw [hr]; rfl))

/-! ## The whole expression -/

theorem regex?_nil {stack : List Open} (h : stack ≠ []) (fuel : Nat) (names : List String)
    (branches : List (Nested Regex)) (items : List Part) :
    regex? fuel stack names f branches items [] = none := by
  cases fuel with
  | zero => rfl
  | succ fuel => simp [regex?, skip_nil, h]

/-- What is read as an expression on its own becomes a part of what stands around it when its group
is closed, or nothing is read at all: the parenthesis may be in a comment. -/
theorem regex?_append (hs : Trailing tail) (outer : Open) {fuel : Nat} {stack : List Open}
    {names : List String} {branches : List (Nested Regex)} {items : List Part} {cs : List Char}
    {r : Nested Regex} (h : regex? fuel stack names f branches items cs = some r) (more : Nat) :
    regex? (fuel + more) (stack ++ [outer]) names f branches items (cs ++ ')' :: tail) = none ∨
    ∃ left names',
      regex? (fuel + more) (stack ++ [outer]) names f branches items (cs ++ ')' :: tail) =
        regex? (left + more) [] names' outer.flags outer.branches (outer.part r :: outer.items)
          tail := by
  induction fuel generalizing stack names f branches items cs with
  | zero => simp [regex?] at h
  | succ fuel ih =>
    rw [Nat.add_right_comm, regex?_succ]
    rw [regex?_succ] at h
    cases hskip : skip f cs with
    | nil =>
      rw [hskip] at h
      obtain ⟨hempty, hr⟩ := Option.ite_none_right_eq_some.mp h
      obtain rfl : stack = [] := List.isEmpty_iff.mp hempty
      obtain rfl := Option.some.inj hr
      rcases skip_append hs f cs with ⟨-, hrest | hrest⟩ | ⟨hne, -⟩
      · exact .inr ⟨fuel, names, by rw [hrest]; rfl⟩
      · exact .inl (by simp [hrest])
      · exact absurd hskip hne
    | cons c rest =>
      rw [hskip] at h
      rw [skip_append_of_cons hs hskip]
      obtain ⟨m, hm, hr⟩ := Option.bind_eq_some_iff.mp h
      dsimp only
      rcases move?_append hs hm with rfl | ⟨items', hend⟩ | hmove
      · simp [after, regex?_nil] at hr
      · exact .inl (by rw [hend]; exact regex?_nil (by simp) ..)
      · rw [hmove, Option.bind_some]
        cases m with
        | group g =>
          cases g with
          | group g noted name rest =>
            simp only [after, Move.followed, GroupStart.followed] at hr ⊢
            split_ifs at hr ⊢
            exact ih hr
          | setting g rest => exact ih hr
        | close rest =>
          cases stack with
          | nil => simp [after] at hr
          | cons inner stack => exact ih hr
        | branch rest => exact ih hr
        | items items rest => exact ih hr

end Reader
end Regex
end Stencil
