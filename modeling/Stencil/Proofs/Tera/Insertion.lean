import Stencil.Proofs.Engine.Form
import Stencil.Proofs.KeyMap
import Stencil.Tera.Alone

/-! Forms as Tera templates, from the source over its nodes to the text that is rendered. -/
namespace Stencil
namespace Tera

open Text Form

/-! ## Expressions -/

namespace Read

section

variable {α β : Type} {cs rest : List Char} {a : α}

theorem bind_of_some {x : Read α} (h : x cs = some (a, rest)) (f : α → Read β) :
    (x >>= f) cs = f a rest := by
  change (x cs).bind (fun p => f p.1 p.2) = _
  rw [h]
  rfl

theorem bind_of_none {x : Read α} (h : x cs = none) (f : α → Read β) : (x >>= f) cs = none := by
  change (x cs).bind (fun p => f p.1 p.2) = _
  rw [h]
  rfl

theorem seqRight_of_some {x : Read α} (h : x cs = some (a, rest)) (y : Read β) :
    (x *> y) cs = y rest := bind_of_some h fun _ => y

theorem seqRight_of_none {x : Read α} (h : x cs = none) (y : Read β) : (x *> y) cs = none :=
  bind_of_none h fun _ => y

theorem orElse_of_some {x : Read α} {r : α × List Char} (h : x cs = some r) (y : Read α) :
    (x <|> y) cs = some r := by
  change (x cs).orElse (fun _ => y cs) = _
  rw [h]
  rfl

theorem orElse_of_none {x : Read α} (h : x cs = none) (y : Read α) : (x <|> y) cs = y cs := by
  change (x cs).orElse (fun _ => y cs) = _
  rw [h]
  rfl

theorem pure_apply (a : α) : (pure a : Read α) cs = some (a, cs) := rfl

end

/-! Before the end of a tag, which a blank stands before. -/

theorem dropLead?_of_head {w : List Char} {c : Char} (h : w.head?.any (· != c) = true)
    (cs : List Char) : dropLead? w (c :: cs) = none := by
  cases w with
  | nil => exact absurd h Bool.false_ne_true
  | cons d w => rw [dropLead?, if_neg (by simpa using h)]

theorem literal_of_head {s : String} {c : Char} (h : s.toList.head?.any (· != c) = true)
    (cs : List Char) : literal s (c :: cs) = none := by
  rw [literal, dropLead?_of_head h]
  rfl

section

variable (rest : List Char)

theorem spaces_end : spaces (' ' :: '\x7d' :: rest) = some ((), '\x7d' :: rest) := by
  rw [spaces, List.dropWhile_cons_of_pos (by rfl), List.dropWhile_cons_of_neg (by decide)]

theorem sign_end {s : String} (h : s.toList.head?.any (· != '\x7d') = true) :
    sign s (' ' :: '\x7d' :: rest) = none := by
  rw [sign, seqRight_of_some (spaces_end rest), literal_of_head h]

theorem operator_end {s : String} (h : s.toList.head?.any (· != '\x7d') = true) :
    operator s (' ' :: '\x7d' :: rest) = none :=
  seqRight_of_none (sign_end rest h) someSpaces

theorem many_of_none {x : Read α} {cs : List Char} (h : x cs = none) (fuel : Nat) :
    many x fuel cs = some ([], cs) := by
  cases fuel with
  | zero => rfl
  | succ fuel => simp only [many, h]

theorem chain_of_none {op : Read α} {cs : List Char} (h : op cs = none) (operand : Read Expr)
    (join : α → Expr → Expr → Term) (fuel : Nat) (e : Expr) :
    chain op operand join fuel e cs = some (e, cs) := by
  cases fuel with
  | zero => rfl
  | succ fuel => rw [chain, orElse_of_none (bind_of_none h _), pure_apply]

theorem signFor_end {s : String} (h : s.toList.head?.any (· != '\x7d') = true) (a : α) :
    (sign s *> (pure a : Read α)) (' ' :: '\x7d' :: rest) = none :=
  seqRight_of_none (sign_end rest h) _

theorem mathOp_end (high : Bool) : mathOp high (' ' :: '\x7d' :: rest) = none := by
  cases high with
  | true =>
    rw [mathOp, if_pos rfl, orElse_of_none (signFor_end rest rfl _),
      orElse_of_none (signFor_end rest rfl _), bind_of_some (spaces_end rest),
      bind_of_none (literal_of_head rfl _)]
  | false =>
    rw [mathOp, if_neg Bool.false_ne_true, orElse_of_none (signFor_end rest rfl _),
      bind_of_some (spaces_end rest), bind_of_none (literal_of_head rfl _)]

theorem comparison_end : comparison (' ' :: '\x7d' :: rest) = none := by
  rw [comparison, orElse_of_none (signFor_end rest rfl _), orElse_of_none (signFor_end rest rfl _),
    orElse_of_none (signFor_end rest rfl _), orElse_of_none (signFor_end rest rfl _),
    orElse_of_none (signFor_end rest rfl _), signFor_end rest rfl]

theorem junction_end (isOr : Bool) : junction isOr (' ' :: '\x7d' :: rest) = none := by
  cases isOr with
  | true => exact seqRight_of_none (operator_end rest rfl) _
  | false => exact seqRight_of_none (operator_end rest rfl) _

theorem filter_end (fuel : Nat) : filter fuel (' ' :: '\x7d' :: rest) = none := by
  cases fuel with
  | zero => rw [filter]; rfl
  | succ fuel => rw [filter, bind_of_none (sign_end rest rfl)]

end

/-! At a name, and what it is not. -/

theorem not_isSpace {c : Char} (h : isNameChar c = true) : ¬isSpace c = true := by
  simp only [isSpace, Bool.or_eq_true, beq_iff_eq]
  rintro (((rfl | rfl) | rfl) | rfl) <;> exact Bool.false_ne_true h

section

variable {name : String} (h : IsVariable name) (rest : List Char)

/-- No word that a name does not start with is read. -/
theorem literal_name {w : String} (hblank : ' ' ∉ w.toList) (hw : ¬ w.toList <+: name.toList) :
    literal w (name.toList ++ ' ' :: rest) = none := by
  rw [literal, Option.map_eq_none_iff]
  refine Option.eq_none_iff_forall_ne_some.mpr fun after hafter => hw ?_
  rw [dropLead?_eq_some_iff] at hafter
  rcases List.append_eq_append_iff.mp hafter with ⟨more, hmore, hrest⟩ | ⟨more, hmore, -⟩
  · cases more with
    | nil => exact ⟨[], by simpa using hmore⟩
    | cons c more =>
      obtain rfl : ' ' = c := (List.cons.inj hrest).1
      exact absurd (by rw [hmore]; simp) hblank
  · exact ⟨more, hmore.symm⟩

include h

theorem name_end : Read.name (name.toList ++ ' ' :: rest) = some (name, ' ' :: rest) := by
  have htake := h.takeWhile_append rest
  have hdrop := h.dropWhile_append rest
  obtain ⟨c, cs, hname, hc⟩ := h.exists_cons
  rw [hname, List.cons_append] at htake hdrop ⊢
  rw [Read.name, if_pos hc, nameChars, htake, hdrop]
  simp [← hname]

theorem boolean_name : boolean (name.toList ++ ' ' :: rest) = none := by
  have hliteral : ∀ w ∈ ["true", "True", "false", "False"],
      literal w (name.toList ++ ' ' :: rest) = none := fun w hw =>
    literal_name rest ((by decide : ∀ w ∈ ["true", "True", "false", "False"], ' ' ∉ w.toList) w hw)
      (h.not_literal w hw)
  rw [boolean, orElse_of_none, seqRight_of_none]
  · rw [orElse_of_none (hliteral "false" (by simp)), hliteral "False" (by simp)]
  · refine seqRight_of_none ?_ _
    rw [orElse_of_none (hliteral "true" (by simp)), hliteral "True" (by simp)]

theorem spaces_name : spaces (' ' :: (name.toList ++ ' ' :: rest)) =
    some ((), name.toList ++ ' ' :: rest) := by
  obtain ⟨c, cs, hname, hc⟩ := h.exists_cons
  have hspace : ¬isSpace c = true := not_isSpace (h.isNameChar_of_mem (by simp [hname]))
  rw [spaces, List.dropWhile_cons_of_pos (by rfl), hname, List.cons_append,
    List.dropWhile_cons_of_neg hspace]

theorem sign_name {s : String} (hs : s.toList.head?.any (!isNameStart ·) = true) :
    sign s (' ' :: (name.toList ++ ' ' :: rest)) = none := by
  rw [sign, seqRight_of_some (spaces_name h rest)]
  obtain ⟨c, cs, hname, hc⟩ := h.exists_cons
  rw [hname]
  refine literal_of_head ?_ _
  cases hd : s.toList.head? with
  | none => simp [hd] at hs
  | some d => simpa using (ne_of_isNameStart hc (by simpa [hd] using hs)).symm

theorem quoted_name : quoted (name.toList ++ ' ' :: rest) = none := by
  obtain ⟨c, cs, hname, hc⟩ := h.exists_cons
  have hquote : ¬(c = '"' ∨ c = '\'' ∨ c = Char.ofNat 0x60) := by
    rintro (rfl | rfl | rfl) <;> exact Bool.false_ne_true hc
  rw [hname, List.cons_append, quoted, if_neg hquote]

theorem minus_name : minus (name.toList ++ ' ' :: rest) =
    some (false, name.toList ++ ' ' :: rest) := by
  obtain ⟨c, cs, hname, hc⟩ := h.exists_cons
  rw [hname, List.cons_append, minus]
  simpa using ne_of_isNameStart hc (d := '-') (by decide)

theorem digits_name : digits (name.toList ++ ' ' :: rest) = none := by
  obtain ⟨c, cs, hname, hc⟩ := h.exists_cons
  have hspan : Decimal.spanDigits (c :: (cs ++ ' ' :: rest)) = ([], c :: (cs ++ ' ' :: rest)) := by
    simp [Decimal.spanDigits, asciiDigit_of_isNameStart hc]
  rw [hname, List.cons_append, digits, hspan]
  simpa using ne_of_isNameStart hc (d := '0') (by decide)

theorem float_name : float (name.toList ++ ' ' :: rest) = none := by
  rw [float, bind_of_some (minus_name h rest), bind_of_none (digits_name h rest)]

theorem int_name : int (name.toList ++ ' ' :: rest) = none := by
  have hinteger : integer (name.toList ++ ' ' :: rest) = none := by
    rw [integer, bind_of_some (minus_name h rest), bind_of_none (digits_name h rest)]
  rw [int, bind_of_none hinteger]

end

section

variable {name : String} (h : IsVariable name) (rest : List Char)

theorem steps_end (fuel : Nat) : steps (fuel + 1) (' ' :: rest) = some ((), ' ' :: rest) := by
  have hstep : step fuel (' ' :: rest) = none := by
    cases fuel with
    | zero => rfl
    | succ fuel =>
      rw [step, orElse_of_none (bind_of_none (literal_of_head rfl rest) _),
        bind_of_none (literal_of_head rfl rest)]
  rw [steps, orElse_of_none (bind_of_none hstep _), pure_apply]

include h

theorem way_name (fuel : Nat) : way (fuel + 1) (name.toList ++ ' ' :: rest) =
    some (name, ' ' :: rest) := by
  have hsteps : (do let _ ← Read.name; steps (fuel + 1) : Read Unit) (name.toList ++ ' ' :: rest) =
      some ((), ' ' :: rest) := by
    rw [bind_of_some (name_end h rest), steps_end]
  rw [way, hsteps]
  simp

theorem call_name (fuel : Nat) : call fuel (name.toList ++ ' ' :: '\x7d' :: rest) = none := by
  cases fuel with
  | zero => rfl
  | succ fuel => rw [call, bind_of_some (name_end h _), bind_of_none (sign_end rest rfl)]

theorem value_name (fuel : Nat) : value (fuel + 3) (name.toList ++ ' ' :: '\x7d' :: rest) =
    some (.lookup name, ' ' :: '\x7d' :: rest) := by
  have htest : test (fuel + 2) (name.toList ++ ' ' :: '\x7d' :: rest) = none := by
    rw [test, bind_of_some (way_name h _ fuel), bind_of_none (sign_end rest rfl)]
  have hmacro : callMacro (fuel + 2) (name.toList ++ ' ' :: '\x7d' :: rest) = none := by
    rw [callMacro, bind_of_some (name_end h _), bind_of_none (sign_end rest rfl)]
  rw [value, orElse_of_none (boolean_name h _), orElse_of_none htest, orElse_of_none hmacro,
    orElse_of_none (call_name h rest _)]
  exact orElse_of_some (bind_of_some (way_name h _ (fuel + 1)) _) _

/-- A name alone is no text. -/
theorem textFiltered_name (fuel : Nat) :
    textFiltered (fuel + 5) (' ' :: (name.toList ++ ' ' :: '\x7d' :: rest)) = none := by
  have hquoted : (do return .text (← quoted) : Read Term) (name.toList ++ ' ' :: '\x7d' :: rest) =
      none := bind_of_none (quoted_name h _) _
  have hpart : concatPart (fuel + 3) (' ' :: (name.toList ++ ' ' :: '\x7d' :: rest)) =
      some (.lookup name, ' ' :: '\x7d' :: rest) := by
    rw [concatPart, seqRight_of_some (spaces_name h _), orElse_of_none (call_name h rest _),
      orElse_of_none (float_name h _), orElse_of_none (int_name h _), orElse_of_none hquoted,
      bind_of_some (way_name h _ (fuel + 1)), pure_apply]
  have hconcat : concat (fuel + 4) (' ' :: (name.toList ++ ' ' :: '\x7d' :: rest)) = none := by
    rw [concat, bind_of_some hpart,
      bind_of_some (many_of_none (seqRight_of_none (sign_end rest rfl) _) _)]
    rfl
  have htext : (do return Term.text (← spaces *> quoted) : Read Term)
      (' ' :: (name.toList ++ ' ' :: '\x7d' :: rest)) = none := by
    refine bind_of_none ?_ _
    rw [seqRight_of_some (spaces_name h _), quoted_name h]
  rw [textFiltered, bind_of_none]
  rw [orElse_of_none hconcat, htext]

/-- A negation needs a blank behind it, and what starts like one goes on. -/
theorem not_name : operator "not" (' ' :: (name.toList ++ ' ' :: rest)) = none := by
  have hspaces := spaces_name h rest
  by_cases hnot : "not".toList <+: name.toList
  · obtain ⟨more, hmore⟩ := hnot
    have hliteral : literal "not" (name.toList ++ ' ' :: rest) =
        some ((), more ++ ' ' :: rest) := by
      rw [literal, ← hmore, List.append_assoc, dropLead?_append]
      rfl
    have hsome : someSpaces (more ++ ' ' :: rest) = none := by
      cases more with
      | nil =>
        rw [List.append_nil, String.toList_inj] at hmore
        exact absurd (by simp [← hmore]) h.ne_word
      | cons c more =>
        have hspace : ¬isSpace c = true := not_isSpace (h.isNameChar_of_mem (by simp [← hmore]))
        rw [List.cons_append, someSpaces, if_neg hspace]
    have hboth : (spaces *> literal "not") (' ' :: (name.toList ++ ' ' :: rest)) =
        some ((), more ++ ' ' :: rest) := by rw [seqRight_of_some hspaces, hliteral]
    rw [operator, seqRight_of_some hboth, hsome]
  · rw [operator, seqRight_of_none]
    rw [seqRight_of_some hspaces, literal_name rest (by decide) hnot]

end

/-- What takes a name between blanks for what it leads to, before the end of a tag. -/
def ReadsName (x : Read Expr) : Prop :=
  ∀ (name : String) (rest : List Char), IsVariable name →
    x (' ' :: (name.toList ++ ' ' :: '\x7d' :: rest)) =
      some (.of (.lookup name), ' ' :: '\x7d' :: rest)

theorem ReadsName.bind {x : Read Expr} {f : Expr → Read Expr} (hx : ReadsName x)
    (hf : ∀ t rest, f (.of t) (' ' :: '\x7d' :: rest) = some (.of t, ' ' :: '\x7d' :: rest)) :
    ReadsName (x >>= f) := by
  intro name rest h
  rw [bind_of_some (hx name rest h), hf]

theorem ReadsName.chain {x : Read Expr} (hx : ReadsName x) {op : Read α}
    (hop : ∀ rest, op (' ' :: '\x7d' :: rest) = none) (operand : Read Expr)
    (join : α → Expr → Expr → Term) (fuel : Nat) :
    ReadsName (x >>= fun left => Read.chain op operand join fuel left) :=
  hx.bind fun t rest => chain_of_none (hop rest) operand join fuel (.of t)

/-- A reader that is tried first and fails at a name does not matter. -/
theorem ReadsName.orElse {x y : Read Expr} (hy : ReadsName y)
    (hx : ∀ name rest, IsVariable name →
      x (' ' :: (name.toList ++ ' ' :: '\x7d' :: rest)) = none) : ReadsName (x <|> y) := by
  intro name rest h
  rw [orElse_of_none (hx name rest h), hy name rest h]

theorem readsName_operand (fuel : Nat) : ReadsName (operand (fuel + 4)) := by
  intro name rest h
  rw [operand, orElse_of_none (bind_of_none (sign_name h _ rfl) _)]
  refine bind_of_some ?_ _
  rw [seqRight_of_some (spaces_name h _), value_name h]

theorem readsName_product (fuel : Nat) : ReadsName (product (fuel + 5)) := by
  rw [product]
  exact (readsName_operand fuel).chain (mathOp_end · true) _ _ _

theorem readsName_basic (fuel : Nat) : ReadsName (basic (fuel + 6)) := by
  rw [basic]
  exact (readsName_product fuel).chain (mathOp_end · false) _ _ _

theorem readsName_basicFiltered (fuel : Nat) : ReadsName (basicFiltered (fuel + 7)) := by
  rw [basicFiltered]
  refine (readsName_basic fuel).bind fun t rest => ?_
  exact bind_of_some (many_of_none (filter_end rest _) _) _

theorem readsName_filteredProduct (fuel : Nat) : ReadsName (filteredProduct (fuel + 8)) := by
  rw [filteredProduct]
  exact (readsName_basicFiltered fuel).chain (mathOp_end · true) _ _ _

theorem readsName_calculated (fuel : Nat) : ReadsName (calculated (fuel + 9)) := by
  rw [calculated]
  exact (readsName_filteredProduct fuel).chain (mathOp_end · false) _ _ _

theorem readsName_compared (fuel : Nat) : ReadsName (compared (fuel + 10)) := by
  rw [compared]
  refine ReadsName.bind (ReadsName.orElse (readsName_calculated fuel) fun name rest h =>
    textFiltered_name h rest (fuel + 4)) fun t rest => ?_
  rw [orElse_of_none (bind_of_none (comparison_end rest) _), pure_apply]

theorem contained_name {name : String} (h : IsVariable name) (rest : List Char) (fuel : Nat) :
    contained (fuel + 10) (' ' :: (name.toList ++ ' ' :: '\x7d' :: rest)) = none := by
  have hneedle := ReadsName.orElse (readsName_basicFiltered (fuel + 2)) (fun name rest h =>
    textFiltered_name h rest (fuel + 4)) name rest h
  have hnot : ((operator "not" *> pure true) <|> pure false : Read Bool) (' ' :: '\x7d' :: rest) =
      some (false, ' ' :: '\x7d' :: rest) := by
    rw [orElse_of_none (seqRight_of_none (operator_end rest rfl) _), pure_apply]
  rw [contained, bind_of_some hneedle, bind_of_some hnot, bind_of_none (sign_end rest rfl)]

theorem readsName_logicValue (fuel : Nat) : ReadsName (logicValue (fuel + 11)) := by
  intro name rest h
  have hnot : ((operator "not" *> pure true) <|> pure false : Read Bool)
      (' ' :: (name.toList ++ ' ' :: '\x7d' :: rest)) =
      some (false, ' ' :: (name.toList ++ ' ' :: '\x7d' :: rest)) := by
    rw [orElse_of_none (seqRight_of_none (not_name h _) _), pure_apply]
  -- a container is looked for first, and with no `in` the name is read again
  have hvalue := ReadsName.orElse (readsName_compared fuel) (fun name rest h =>
    contained_name h rest fuel) name rest h
  rw [logicValue]
  refine orElse_of_some ?_ _
  rw [bind_of_some hnot, bind_of_some hvalue, pure_apply]
  rfl

theorem readsName_conjunction (fuel : Nat) : ReadsName (conjunction (fuel + 12)) := by
  rw [conjunction]
  exact (readsName_logicValue fuel).chain (junction_end · false) _ _ _

theorem readsName_logic (fuel : Nat) : ReadsName (logic (fuel + 13)) := by
  rw [logic]
  exact (readsName_conjunction fuel).chain (junction_end · true) _ _ _

/-! ## Nodes -/

/-- The node that a piece is. -/
def nodeOf : Piece → Node
  | .text s => .text s
  | .variable_ name => .emit (.of (.lookup name))

theorem untilTag_append {cs rest : List Char} (h : IsPlain cs)
    (hrest : IsShut cs rest) (acc : List Char) :
    untilTag acc (cs ++ rest) = untilTag (cs.reverse ++ acc) rest := by
  induction cs generalizing acc with
  | nil => rfl
  | cons c cs ih =>
    have hopens := h.opensTag hrest
    rw [List.cons_append] at hopens ⊢
    rw [untilTag, if_neg (by simp [hopens]), ih h.of_cons hrest.of_cons, List.reverse_cons,
      List.append_assoc]
    rfl

/-- A text goes up to where a tag starts that removes no white space, or up to the end. -/
theorem nodes_text {text : String} (hne : text ≠ "") {rest : List Char}
    (h : IsPlain text.toList) (hrest : IsShut text.toList rest)
    (huntil : ∀ acc, untilTag acc rest = (acc, rest)) (htrims : trimsBefore rest = false)
    {fuel : Nat} {more : List Node} (hmore : nodes fuel {} false rest = some (more, [])) :
    nodes (fuel + 1) {} false (text.toList ++ rest) = some (nodeOf (.text text) :: more, []) := by
  have hall : untilTag [] (text.toList ++ rest) = (text.toList.reverse, rest) := by
    rw [untilTag_append h hrest, huntil, List.append_nil]
  obtain ⟨c, cs, hcs⟩ := List.exists_cons_of_ne_nil (mt String.toList_eq_nil_iff.mp hne)
  have htext : String.ofList (c :: cs) = text := by rw [← hcs, String.ofList_toList]
  rw [hcs] at h hall hrest ⊢
  have hopens := h.opensTag hrest
  rw [List.cons_append] at hopens hall ⊢
  rw [nodes]
  simp only [hopens, hall, hmore, htrims]
  simp [trimmed, nodeOf, htext]

theorem node_tag {name : String} (h : IsVariable name) (rest : List Char) (fuel : Nat) :
    node (fuel + 14) {}
        ('\x7b' :: '\x7b' :: ' ' :: (name.toList ++ ' ' :: '\x7d' :: '\x7d' :: rest)) =
      some ((nodeOf (.variable_ name), false), rest) := by
  have hlead : ∀ cs, literal "\x7b\x7b" ('\x7b' :: '\x7b' :: cs) = some ((), cs) := fun cs => rfl
  have hminus : ∀ cs, literal "\x7b\x7b-" ('\x7b' :: '\x7b' :: ' ' :: cs) = none := fun cs => rfl
  have hcomment : ∀ cs, comment ('\x7b' :: '\x7b' :: cs) = none := fun cs => rfl
  have hlogic := readsName_logic fuel name ('\x7d' :: rest) h
  have hend : variableEnd (' ' :: '\x7d' :: '\x7d' :: rest) = some (false, rest) := rfl
  rw [node, orElse_of_none (bind_of_none (hcomment _) _)]
  refine orElse_of_some ?_ _
  rw [bind_of_some ((orElse_of_none (hminus _) _).trans (hlead _)),
    bind_of_some (orElse_of_some hlogic _), bind_of_some hend, pure_apply]
  rfl

theorem nodes_tag {name : String} (h : IsVariable name) {rest : List Char} {fuel : Nat}
    {more : List Node} (hmore : nodes (fuel + 14) {} false rest = some (more, [])) :
    nodes (fuel + 15) {} false
        ('\x7b' :: '\x7b' :: ' ' :: (name.toList ++ ' ' :: '\x7d' :: '\x7d' :: rest)) =
      some (nodeOf (.variable_ name) :: more, []) := by
  have hopens : ∀ cs, opensTag ('\x7b' :: '\x7b' :: cs) = true := fun cs => rfl
  have hcloser : ∀ cs, closer? ('\x7b' :: '\x7b' :: cs) = none := fun cs => rfl
  rw [nodes]
  simp only [hopens, hcloser, node_tag h rest fuel, hmore]
  rfl

theorem nodes_form (f : Form) {fuel : Nat} (hfuel : 2 * f.insertions.length + 15 ≤ fuel) :
    nodes fuel {} false f.source.toList = some (f.pieces.map nodeOf, []) := by
  obtain ⟨insertions, last, hlast⟩ := f
  induction insertions generalizing fuel with
  | nil =>
    obtain ⟨fuel, rfl⟩ : ∃ k, fuel = k + 2 := Nat.exists_eq_add_of_le' (by omega)
    have hempty : ∀ k, nodes (k + 1) {} false [] = some ([], []) := fun k => by rw [nodes]
    rw [source_nil, pieces_nil, Piece.ofText]
    split_ifs with h
    · rw [h]
      exact hempty _
    · simpa using nodes_text h hlast (.inl rfl) (fun acc => rfl) rfl (hempty fuel)
  | cons i rest ih =>
    rw [List.length_cons] at hfuel
    obtain ⟨fuel, rfl⟩ : ∃ k, fuel = k + 16 := Nat.exists_eq_add_of_le' (by omega)
    have htag : ∀ k, fuel ≤ k → nodes (k + 15) {} false ('\x7b' :: '\x7b' :: ' ' ::
        (i.name.toList ++ ' ' :: '\x7d' :: '\x7d' :: (Form.mk rest last hlast).source.toList)) =
        some (nodeOf (.variable_ i.name) :: (Form.mk rest last hlast).pieces.map nodeOf, []) := by
      intro k hk
      have hrest : 2 * rest.length + 15 ≤ k + 14 := by omega
      exact nodes_tag i.isVariable (ih hrest)
    rw [toList_source_cons, pieces_cons, Piece.ofText]
    split_ifs with h
    · rw [h]
      exact htag (fuel + 1) (by omega)
    · exact nodes_text h i.isPlain (.inr i.last_ne) (fun acc => rfl) rfl
        (htag fuel (Nat.le_refl fuel))

/-! ## Templates -/

/-- No tag with a word and no comment starts here. -/
def StartsNoTag (cs : List Char) : Prop :=
  dropLead? ['\x7b', '%'] cs = none ∧ dropLead? ['\x7b', '#'] cs = none

namespace StartsNoTag

variable {cs : List Char} (h : StartsNoTag cs)

include h

theorem comment : comment cs = none := by
  have hshort : literal "\x7b#" cs = none := Option.map_eq_none_iff.mpr h.2
  have hlong : literal "\x7b#-" cs = none := by
    refine Option.map_eq_none_iff.mpr ?_
    rw [show "\x7b#-".toList = ['\x7b', '#'] ++ ['-'] from rfl, dropLead?_append_left, h.2]
    rfl
  rw [Read.comment, bind_of_none]
  rw [orElse_of_none hlong, hshort]

theorem tagWord : tagWord cs = none := by
  have hshort : literal "\x7b%" cs = none := Option.map_eq_none_iff.mpr h.1
  have hlong : literal "\x7b%-" cs = none := by
    refine Option.map_eq_none_iff.mpr ?_
    rw [show "\x7b%-".toList = ['\x7b', '%'] ++ ['-'] from rfl, dropLead?_append_left, h.1]
    rfl
  refine seqRight_of_none (seqRight_of_none ?_ _) _
  rw [tagStart, orElse_of_none hlong, hshort]

end StartsNoTag

theorem startsNoTag_of_opensTag {cs : List Char} (h : opensTag cs = false) : StartsNoTag cs := by
  rw [opensTag, List.any_eq_false] at h
  constructor
  · simpa using h "\x7b%" (by simp [openings])
  · simpa using h "\x7b#" (by simp [openings])

theorem startsNoTag_text {text rest : List Char} (h : IsPlain text)
    (hrest : IsShut text rest) (hstart : StartsNoTag rest) :
    StartsNoTag (text ++ rest) := by
  cases text with
  | nil => exact hstart
  | cons c cs => exact startsNoTag_of_opensTag (h.opensTag hrest)

/-- The first text of a form, and the tag that follows it. -/
theorem exists_lead (f : Form) : ∃ text rest,
    f.source.toList = text ++ rest ∧ IsPlain text ∧ IsShut text rest ∧
      StartsNoTag rest ∧ rest.dropWhile isSpace = rest := by
  obtain ⟨insertions, last, hlast⟩ := f
  cases insertions with
  | nil => exact ⟨last.toList, [], by simp, hlast, .inl rfl, ⟨rfl, rfl⟩, rfl⟩
  | cons i rest =>
    exact ⟨_, _, toList_source_cons last hlast i rest, i.isPlain, .inr i.last_ne, ⟨rfl, rfl⟩, rfl⟩

theorem startsNoTag_source (f : Form) : StartsNoTag f.source.toList := by
  obtain ⟨text, rest, hsource, hplain, hrest, hstart, -⟩ := exists_lead f
  rw [hsource]
  exact startsNoTag_text hplain hrest hstart

theorem startsNoTag_dropSpace (f : Form) : StartsNoTag (f.source.toList.dropWhile isSpace) := by
  obtain ⟨text, rest, hsource, hplain, hrest, hstart, hspace⟩ := exists_lead f
  have hsuffix := List.dropWhile_suffix isSpace (l := text)
  have hdrop : (text ++ rest).dropWhile isSpace = text.dropWhile isSpace ++ rest := by
    rw [List.dropWhile_append]
    split_ifs with hempty
    · rw [hspace, List.isEmpty_iff.mp hempty, List.nil_append]
    · rfl
  rw [hsource, hdrop]
  exact startsNoTag_text (hplain.of_infix hsuffix.isInfix) (hrest.of_suffix hsuffix) hstart

theorem optional_of_none {x : Read α} {cs : List Char} (h : x cs = none) :
    optional x cs = some (none, cs) := by
  have hmap : (some <$> x) cs = none := by
    change (x cs).bind (fun p => some (some p.1, p.2)) = none
    rw [h]
    rfl
  exact orElse_of_none hmap (pure none)

theorem template_form (f : Form) {fuel : Nat} (hfuel : 2 * f.insertions.length + 15 ≤ fuel) :
    template fuel f.source.toList = some (⟨f.pieces.map nodeOf, false⟩, []) := by
  have hstart := startsNoTag_source f
  have hdrop := startsNoTag_dropSpace f
  have hspaces : spaces f.source.toList = some ((), f.source.toList.dropWhile isSpace) := rfl
  have hextends : extends_ f.source.toList = none := bind_of_none hstart.tagWord _
  have himport : import_ (f.source.toList.dropWhile isSpace) = none :=
    bind_of_none hdrop.tagWord _
  have hcomments : many (spaces *> comment) fuel f.source.toList = some ([], f.source.toList) := by
    refine many_of_none ?_ fuel
    rw [seqRight_of_some hspaces, hdrop.comment]
  have himports : many (many (spaces *> comment) fuel *> spaces *> import_) fuel f.source.toList =
      some ([], f.source.toList) := by
    refine many_of_none ?_ fuel
    have hbefore : (many (spaces *> comment) fuel *> spaces) f.source.toList =
        some ((), f.source.toList.dropWhile isSpace) := by rw [seqRight_of_some hcomments, hspaces]
    rw [seqRight_of_some hbefore, himport]
  rw [template, bind_of_some (many_of_none hstart.comment fuel),
    bind_of_some (optional_of_none hextends), bind_of_some himports]
  exact bind_of_some (nodes_form f hfuel) _

end Read

theorem isDistinct_pieces (pieces : List Piece) (fuel : Nat) :
    (Template.mk (pieces.map Read.nodeOf) false).isDistinct fuel = true := by
  have hmacros : Template.macrosOf (pieces.map Read.nodeOf) = [] := by
    refine List.filterMap_eq_nil_iff.mpr fun node hnode => ?_
    obtain ⟨p, -, rfl⟩ := List.mem_map.mp hnode
    cases p <;> rfl
  have hblocks : Template.blocksOf fuel (pieces.map Read.nodeOf) = [] := by
    cases fuel with
    | zero => rfl
    | succ fuel =>
      refine List.flatMap_eq_nil_iff.mpr fun node hnode => ?_
      obtain ⟨p, -, rfl⟩ := List.mem_map.mp hnode
      cases p <;> rfl
  simp [Template.isDistinct, hmacros, hblocks]

theorem parse?_form (f : Form) : parse? f.source = some ⟨f.pieces.map Read.nodeOf, false⟩ := by
  have hfuel : 2 * f.insertions.length + 15 ≤ 30 * f.source.length + 1000 := by
    have := f.length_source
    rw [String.length_toList] at this
    omega
  rw [parse?]
  simp only [Read.template_form f hfuel]
  simp [isDistinct_pieces]

/-! ## Rendering -/

namespace Evaluation

variable {s : Setting} {st : State} {put : String → String}

theorem bind_of_ok {x : Render α} {f : α → Render β} {a : α} {st' : State}
    (h : x st = .ok (a, st')) : (x >>= f) st = f a st' := by
  change (x st).bind (fun p => f p.1 p.2) = _
  rw [h]
  rfl

theorem get_start : (get : Render State) {} = .ok ({}, {}) := rfl

/-- A name leads to what the context binds it to, where no frame knows it. -/
theorem lookup_name {name : String} (h : IsVariable name) {v : Json}
    (hv : s.context.get? name = some v) : lookup s name {} = .ok (v, {}) := by
  have hbracket : ¬name.toList.contains '[' = true := by
    rw [List.contains_iff_mem]
    exact fun hmem => Bool.false_ne_true (h.isNameChar_of_mem hmem)
  have hroot : Way.root name.toList = (name.toList, none) := by
    have hpoint : cutAt '.' name.toList = none :=
      cutAt_eq_none_iff.mpr fun hmem => Bool.false_ne_true (h.isNameChar_of_mem hmem)
    rw [Way.root, hpoint]
  have hlookup : ∀ m : KeyMap Json, KeyMap.lookup? m name = m.get? name := by
    intro m
    rw [KeyMap.lookup?, hroot]
  have hfind : find s {} (name.length + 1) name.toList = .ok v := by
    have hstate : State.lookup? s {} name = some v := by
      rw [State.lookup?, hlookup s.context, hv]
      simp [State.lookupFrames, Frame.lookup?, hlookup, Frame.hides, KeyMap.get?_empty]
    rw [find, if_neg hbracket, pure_bind]
    simp only [String.ofList_toList, hstate]
    rfl
  have hover : name ≠ overviewName := fun hname => h.ne_word (by simp [hname])
  rw [lookup, bind_of_ok get_start, if_neg hover]
  change (find s {} (name.length + 1) name.toList).bind (fun w => .ok (w, ({} : State))) = _
  rw [hfind]
  rfl

/-- A piece is rendered as what is put in its place, where its name means that. -/
theorem exec_nodeOf {p : Piece}
    (h : ∀ name, p = .variable_ name →
      IsVariable name ∧ s.context.get? name = some (.string (put name)))
    (fuel : Nat) : exec s (fuel + 2) (Read.nodeOf p) {} = .ok (p.filled put, {}) := by
  cases p with
  | text t => rfl
  | variable_ name =>
    obtain ⟨hname, hput⟩ := h name rfl
    have hattempt : attempt (lookup s name) {} = .ok (some (.string (put name)), {}) := by
      rw [attempt, lookup_name hname hput]
    have heval : eval s (fuel + 1) (.of (.lookup name)) {} = .ok (.string (put name), {}) := by
      rw [Expr.of, eval, bind_of_ok hattempt]
      rfl
    rw [Read.nodeOf, exec, bind_of_ok heval]
    rfl

/-- Each piece is rendered after the others. -/
theorem foldlM_pieces {pieces : List Piece}
    (h : ∀ name, .variable_ name ∈ pieces →
      IsVariable name ∧ s.context.get? name = some (.string (put name)))
    (fuel : Nat) (out : String) :
    ((pieces.map Read.nodeOf).foldlM (fun out node => do
      if (← get).flow = .running then return out ++ (← exec s (fuel + 2) node)
      else return out) out : Render String) {} =
      .ok (out ++ String.join (pieces.map (·.filled put)), {}) := by
  induction pieces generalizing out with
  | nil => simp; rfl
  | cons p pieces ih =>
    have hp := exec_nodeOf (p := p) (fun name hname => h name (by simp [hname])) fuel
    have ih := ih (fun name hname => h name (List.mem_cons_of_mem p hname)) (out ++ p.filled put)
    rw [List.map_cons, List.foldlM_cons, List.map_cons, String.join_cons, ← String.append_assoc,
      ← ih]
    refine bind_of_ok ?_
    rw [bind_of_ok get_start, if_pos rfl, bind_of_ok hp]
    rfl

/-- A template of pieces is rendered in a context that binds its names to texts. -/
theorem render_pieces {context : KeyMap Json} {pieces : List Piece}
    (h : ∀ name, .variable_ name ∈ pieces →
      IsVariable name ∧ context.get? name = some (.string (put name))) :
    render context ⟨pieces.map Read.nodeOf, false⟩ =
      .ok (String.join (pieces.map (·.filled put))) := by
  rw [render, if_neg Bool.false_ne_true]
  change (execAll _ maxNesting (pieces.map Read.nodeOf) {}).bind (fun p => .ok p.1) = _
  rw [maxNesting, execAll, foldlM_pieces h, String.empty_append]
  rfl

end Evaluation

/-- The engine drops a line end of the text that it has rendered, whatever it comes from. -/
theorem engine_form {o : EngineOptions} (ho : unsupported? o = none) : ∃ e, engine o = .ok e ∧
      ∀ (f : Form) (context : KeyMap Json) (value : String → String),
        (∀ i ∈ f.insertions, context.get? i.name = some (.string (value i.name))) →
        e f.source context =
          .ok (if o.keepTrailingNewline then f.filled value else dropLineEnd (f.filled value)) := by
  refine ⟨_, by rw [engine, ho], fun f context value hvalue => ?_⟩
  have hrender : Evaluation.render context ⟨f.pieces.map Read.nodeOf, false⟩ =
      .ok (f.filled value) := by
    rw [← join_filled]
    refine Evaluation.render_pieces fun name hname => ?_
    obtain ⟨i, hi, rfl⟩ := exists_of_mem_pieces hname
    exact ⟨i.isVariable, hvalue i hi⟩
  rw [renderSource, parse?_form]
  simp only [hrender]
  rfl

end Tera
end Stencil
