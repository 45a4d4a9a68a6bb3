import Stencil.Jinja.Library
import Stencil.Proofs.Engine.Form
import Stencil.Proofs.KeyMap

/-! Forms as Jinja templates, from the source over its tokens and statements to the text that is
rendered. -/
namespace Stencil
namespace Jinja

open Text Form

/-! ## Tokens -/

namespace Lexer

theorem openings_standard : openings .standard =
    [(.variable_, ['\x7b', '\x7b']), (.block, ['\x7b', '%']), (.comment, ['\x7b', '#'])] := by
  simp [openings, Delimiters.standard, List.mergeSort]

theorem openingAt?_eq_none {cs : List Char} (h : Tera.Read.opensTag cs = false) :
    openingAt? (openings .standard) cs = none := by
  simp only [Tera.Read.opensTag, Tera.Read.openings, List.any_eq_false] at h
  rw [openings_standard, openingAt?]
  simp_all [List.findSome?]

/-- A plain text is passed over. -/
theorem findOpening_append {cs rest : List Char} (h : IsPlain cs)
    (hrest : IsShut cs rest) (acc : List Char) :
    findOpening (openings .standard) acc (cs ++ rest) =
      findOpening (openings .standard) (cs.reverse ++ acc) rest := by
  induction cs generalizing acc with
  | nil => rfl
  | cons c cs ih =>
    have hnone := openingAt?_eq_none (h.opensTag hrest)
    rw [List.cons_append] at hnone ⊢
    rw [findOpening, hnone, ih h.of_cons hrest.of_cons, List.reverse_cons, List.append_assoc]
    rfl

/-- The tokens of a text, and those of a name in its tag. -/
def tokensOfPiece : Piece → List Token
  | .text s => [.data s]
  | .variable_ name => [.variableStart, .name name, .variableEnd]

theorem length_pieces_le (pieces : List Piece) :
    pieces.length ≤ (pieces.flatMap tokensOfPiece).length := by
  induction pieces with
  | nil => simp
  | cons p pieces ih =>
    have hp : 1 ≤ (tokensOfPiece p).length := by cases p <;> simp [tokensOfPiece]
    rw [List.flatMap_cons, List.length_cons, List.length_append]
    omega

theorem dataTokens_reverse (s : String) :
    dataTokens s.toList.reverse = (Piece.ofText s).flatMap tokensOfPiece := by
  rw [dataTokens, Piece.ofText]
  by_cases h : s = ""
  · simp [h]
  · simp [h, tokensOfPiece]

theorem isNameStart_eq : isNameStart = Tera.Read.isNameStart := rfl

theorem notMem_shortSigns {c : Char} (h : Tera.Read.isNameStart c = true) : c ∉ shortSigns := by
  have hsigns : shortSigns.all (!Tera.Read.isNameStart ·) = true := by decide
  intro hc
  simpa [h] using List.all_eq_true.mp hsigns c hc

theorem dropLead?_longSign {c : Char} (h : Tera.Read.isNameStart c = true) {s : String}
    (hs : s ∈ longSigns) (cs : List Char) : dropLead? s.toList (c :: cs) = none := by
  have hstart : ∀ s ∈ longSigns, ∃ d ds, s.toList = d :: ds ∧ Tera.Read.isNameStart d = false := by
    simp only [longSigns, List.forall_mem_cons]
    exact ⟨⟨_, _, rfl, rfl⟩, ⟨_, _, rfl, rfl⟩, ⟨_, _, rfl, rfl⟩, ⟨_, _, rfl, rfl⟩, ⟨_, _, rfl, rfl⟩,
      ⟨_, _, rfl, rfl⟩, by simp⟩
  obtain ⟨d, ds, hd, hstart⟩ := hstart s hs
  rw [hd, dropLead?, if_neg (ne_of_isNameStart h hstart).symm]

theorem insideToken_name {name : String} (h : IsVariable name) (rest : List Char) :
    insideToken false (name.toList ++ ' ' :: rest) = (.name name, ' ' :: rest) := by
  have htake : (name.toList ++ ' ' :: rest).takeWhile isNameChar = name.toList :=
    h.takeWhile_append rest
  have hdrop : (name.toList ++ ' ' :: rest).dropWhile isNameChar = ' ' :: rest :=
    h.dropWhile_append rest
  obtain ⟨c, cs, hname, hc⟩ := h.exists_cons
  have hlong : longSigns.findSome? (fun s =>
      (dropLead? s.toList (c :: (cs ++ ' ' :: rest))).map (s, ·)) = none :=
    List.findSome?_eq_none_iff.mpr fun s hs =>
      Option.map_eq_none_iff.mpr (dropLead?_longSign hc hs _)
  have hshort : shortSigns.contains c = false := by
    simpa using notMem_shortSigns hc
  have hquote : ¬(c = '\'' ∨ c = '"') := by
    rintro (rfl | rfl)
    · exact ne_of_isNameStart hc (d := '\'') (by decide) rfl
    · exact ne_of_isNameStart hc (d := '"') (by decide) rfl
  rw [hname, List.cons_append] at htake hdrop ⊢
  rw [insideToken, hlong]
  simp only [hshort, Bool.false_eq_true, if_false, if_neg hquote, asciiDigit_of_isNameStart hc,
    htake, hdrop]
  rw [isNameStart_eq, if_pos hc, ← hname, String.ofList_toList]

section

variable {m : Markup}

theorem tokens_blank (fuel : Nat) (before cs : List Char) :
    tokens m (fuel + 1) (.inside false 0 false) before (' ' :: cs) =
      tokens m fuel (.inside false 0 false) (' ' :: before) cs := by
  rw [tokens, if_pos (by rfl)]

variable (hm : m.delimiters = .standard)
include hm

theorem tokens_closing (fuel : Nat) (before rest : List Char) :
    ∃ before', tokens m (fuel + 1) (.inside false 0 false) before ('\x7d' :: '\x7d' :: rest) =
      .variableEnd :: tokens m fuel .outside before' rest := by
  have hclose : closing? ['\x7d', '\x7d'] ('\x7d' :: '\x7d' :: rest) = some (.standard, rest) := by
    simp [closing?, trimOf, dropLead?]
  rw [tokens, if_neg (by decide), hm]
  exact ⟨_, by simp [Delimiters.standard, hclose]; rfl⟩

theorem tokens_name {name : String} (h : IsVariable name) (fuel : Nat) (before rest : List Char) :
    ∃ before', tokens m (fuel + 1) (.inside false 0 false) before (name.toList ++ ' ' :: rest) =
      .name name :: tokens m fuel (.inside false 0 false) before' (' ' :: rest) := by
  have htoken := insideToken_name h rest
  obtain ⟨c, cs, hname, hc⟩ := h.exists_cons
  have hblank : ¬isAsciiBlank c = true := by
    simp only [isAsciiBlank, Bool.or_eq_true, beq_iff_eq]
    rintro ((((rfl | rfl) | rfl) | rfl) | rfl) <;> exact Bool.false_ne_true hc
  have hshort := notMem_shortSigns hc
  have hstandard : trimOf (c :: (cs ++ ' ' :: rest)) = (.standard, c :: (cs ++ ' ' :: rest)) := by
    have hminus : c ≠ '-' := fun h => hshort (h ▸ by decide)
    have hplus : c ≠ '+' := fun h => hshort (h ▸ by decide)
    rw [trimOf]
    · simpa using hminus
    · simpa using hplus
  have hbrace : '\x7d' ≠ c := fun h => hshort (h ▸ by decide)
  have hopen : closing? ['\x7d', '\x7d'] (c :: (cs ++ ' ' :: rest)) = none := by
    simp [closing?, hstandard, dropLead?, hbrace]
  rw [hname, List.cons_append] at htoken ⊢
  rw [tokens, if_neg hblank, hm]
  exact ⟨_, by simp [Delimiters.standard, hopen, htoken, isPoint, balance]; rfl⟩

/-- A name in its tag, once the tag is open. -/
theorem tokens_tag {name : String} (h : IsVariable name) (fuel : Nat) (before rest : List Char) :
    ∃ before', tokens m (fuel + 4) (.inside false 0 false) before
        (' ' :: (name.toList ++ ' ' :: '\x7d' :: '\x7d' :: rest)) =
      .name name :: .variableEnd :: tokens m fuel .outside before' rest := by
  rw [tokens_blank]
  obtain ⟨before₁, hname⟩ :=
    tokens_name hm h (fuel + 2) (' ' :: before) ('\x7d' :: '\x7d' :: rest)
  obtain ⟨before₂, hclosing⟩ := tokens_closing hm fuel (' ' :: before₁) rest
  exact ⟨before₂, by rw [hname, tokens_blank, hclosing]⟩

theorem tokens_insertion (i : Insertion) (fuel : Nat) (before rest : List Char) :
    ∃ before', tokens m (fuel + 5) .outside before
        (i.text.toList ++ '\x7b' :: '\x7b' :: ' ' ::
          (i.name.toList ++ ' ' :: '\x7d' :: '\x7d' :: rest)) =
      (Piece.ofText i.text ++ [Piece.variable_ i.name]).flatMap tokensOfPiece ++
        tokens m fuel .outside before' rest := by
  have hfind : ∀ cs, findOpening (openings .standard) [] (i.text.toList ++ '\x7b' :: '\x7b' :: cs) =
      (i.text.toList.reverse, some (.variable_, cs)) := by
    intro cs
    rw [findOpening_append i.isPlain (.inr i.last_ne), List.append_nil, findOpening,
      openings_standard]
    simp [openingAt?, dropLead?]
  have hopen : ∃ before₁, tokens m (fuel + 5) .outside before
        (i.text.toList ++ '\x7b' :: '\x7b' :: ' ' ::
          (i.name.toList ++ ' ' :: '\x7d' :: '\x7d' :: rest)) =
      dataTokens i.text.toList.reverse ++ .variableStart :: tokens m (fuel + 4)
        (.inside false 0 false) before₁
        (' ' :: (i.name.toList ++ ' ' :: '\x7d' :: '\x7d' :: rest)) := by
    rw [tokens]
    · rw [hm, hfind]
      exact ⟨_, by simp [trimOf, leadText]; rfl⟩
    · simp
  obtain ⟨before₁, hopen⟩ := hopen
  obtain ⟨before₂, htag⟩ := tokens_tag hm i.isVariable fuel before₁ rest
  refine ⟨before₂, ?_⟩
  rw [hopen, htag, dataTokens_reverse]
  simp [tokensOfPiece]

theorem tokens_form (f : Form) {fuel : Nat} (hfuel : 5 * f.insertions.length + 1 ≤ fuel)
    (before : List Char) :
    tokens m fuel .outside before f.source.toList = f.pieces.flatMap tokensOfPiece := by
  obtain ⟨insertions, last, hlast⟩ := f
  induction insertions generalizing fuel before with
  | nil =>
    obtain ⟨fuel, rfl⟩ : ∃ k, fuel = k + 1 := Nat.exists_eq_add_of_le' (by omega)
    have hfind := findOpening_append hlast (.inl rfl) []
    rw [source_nil, pieces_nil, ← dataTokens_reverse]
    cases hcs : last.toList with
    | nil => rfl
    | cons c cs =>
      rw [hcs] at hfind
      rw [tokens, hm]
      · simp_all [findOpening]
      · simp
  | cons i rest ih =>
    rw [List.length_cons] at hfuel
    obtain ⟨fuel, rfl⟩ : ∃ k, fuel = k + 5 := Nat.exists_eq_add_of_le' (by omega)
    obtain ⟨before', hstep⟩ :=
      tokens_insertion hm i fuel before (Form.mk rest last hlast).source.toList
    have hrest : 5 * rest.length + 1 ≤ fuel := by omega
    rw [toList_source_cons, hstep, ih before' hrest, pieces_cons]
    simp

end

end Lexer

/-! ## Statements -/

namespace Read

theorem bind_of_ok {x : Read α} {f : α → Read β} {a : α} {s s' : ReadState}
    (h : x s = .ok (a, s')) : (x >>= f) s = f a s' := by
  change Read.bind x f s = _
  rw [Read.bind, h]

/-- What reads no more at the end of a tag. -/
def Stops (f : Expr → Read Expr) : Prop :=
  ∀ (e : Expr) (s : ReadState) (rest : List Token), s.tokens = .variableEnd :: rest →
    f e s = .ok (e, s)

/-- What takes a name before the end of a tag for a variable. -/
def ReadsName (x : Read Expr) : Prop :=
  ∀ (name : String) (s : ReadState) (rest : List Token), IsVariable name →
    s.tokens = .name name :: .variableEnd :: rest →
      ∃ s', x s = .ok (.var name, s') ∧ s'.tokens = .variableEnd :: rest

theorem ReadsName.bind {x : Read Expr} {f : Expr → Read Expr} (hx : ReadsName x) (hf : Stops f) :
    ReadsName (x >>= f) := by
  intro name s rest hname hs
  obtain ⟨s', hs', hrest⟩ := hx name s rest hname hs
  exact ⟨s', by rw [bind_of_ok hs', hf _ s' rest hrest], hrest⟩

variable {s : ReadState} {rest : List Token}

theorem peek_end (h : s.tokens = .variableEnd :: rest) : peek s = .ok (some .variableEnd, s) := by
  rw [peek, h]

theorem peek_name {name : String} (h : s.tokens = .name name :: rest) :
    peek s = .ok (some (.name name), s) := by
  rw [peek, h]

theorem next_cons {t : Token} (h : s.tokens = t :: rest) (ht : ∀ e, t ≠ .bad e) :
    next s = .ok (some t, { s with tokens := rest }) := by
  rw [next, h]
  cases t <;> first | rfl | exact absurd rfl (ht _)

theorem skipSign_end (sign : String) (h : s.tokens = .variableEnd :: rest) :
    skipSign sign s = .ok (false, s) := by
  rw [skipSign, bind_of_ok (peek_end h)]
  rfl

theorem skipName_end (word : String) (h : s.tokens = .variableEnd :: rest) :
    skipName word s = .ok (false, s) := by
  rw [skipName, bind_of_ok (peek_end h)]
  rfl

theorem skipSign_name (sign : String) {name : String} (h : s.tokens = .name name :: rest) :
    skipSign sign s = .ok (false, s) := by
  rw [skipSign, bind_of_ok (peek_name h)]
  rfl

theorem skipName_name {word name : String} (hne : name ≠ word) (h : s.tokens = .name name :: rest) :
    skipName word s = .ok (false, s) := by
  have hname : isName (some (.name name)) word = false := by simpa [isName] using hne
  rw [skipName, bind_of_ok (peek_name h), hname]
  rfl

end Read

namespace Reader

open Read

/-! Nothing that may stand behind an operand is the end of a tag. -/

theorem stops_chain {operator? : Option Token → Option BinaryOp}
    (h : operator? (some .variableEnd) = none) (operand : Read Expr) (fuel : Nat) :
    Stops (chain operator? operand (fuel + 1)) := by
  intro e s rest hs
  rw [chain, bind_of_ok (peek_end hs), h]
  rfl

theorem stops_junction (word : String) (op : BinaryOp) (operand : Read Expr) (fuel : Nat) :
    Stops (junction word op operand (fuel + 1)) := by
  intro e s rest hs
  rw [junction, bind_of_ok (skipName_end word hs)]
  rfl

theorem stops_conditional (fuel depth : Nat) : Stops (conditional (fuel + 1) depth) := by
  intro e s rest hs
  rw [conditional, bind_of_ok (skipName_end "if" hs)]
  rfl

theorem stops_compared (operand : Read Expr) (fuel : Nat) :
    Stops fun first => do return compared first (← comparisons operand (fuel + 1) []) := by
  intro e s rest hs
  have hnone : comparisons operand (fuel + 1) [] s = .ok ([], s) := by
    rw [comparisons, bind_of_ok (peek_end hs)]
    rfl
  exact bind_of_ok hnone

theorem stops_postfixed (fuel depth : Nat) : Stops (postfixed (fuel + 1) depth) := by
  intro e s rest hs
  rw [postfixed, bind_of_ok (skipSign_end "." hs), if_neg Bool.false_ne_true,
    bind_of_ok (skipSign_end "[" hs), if_neg Bool.false_ne_true, bind_of_ok (peek_end hs)]
  rfl

theorem stops_filtered (fuel depth : Nat) : Stops (filtered (fuel + 1) depth) := by
  intro e s rest hs
  rw [filtered, bind_of_ok (skipSign_end "|" hs), if_neg Bool.false_ne_true,
    bind_of_ok (skipName_end "is" hs)]
  rfl

/-! Each level of expressions reads a name as the one below it does. -/

theorem readsName_primary (fuel depth : Nat) : ReadsName (primary (fuel + 1) (depth + 1)) := by
  intro name s rest hname hs
  have hconstant : constant? name = none := by
    have hnone : name ≠ "none" ∧ name ≠ "None" := by
      constructor <;> exact fun h => hname.ne_word (by simp [h])
    simp [constant?, hname.ne_literal, hnone]
  refine ⟨{ s with tokens := .variableEnd :: rest, usesCaller := s.usesCaller || name == "caller" },
    ?_, rfl⟩
  rw [primary, bind_of_ok (next_cons hs (by simp))]
  simp only [hconstant]
  rfl

theorem readsName_operand (fuel depth : Nat) : ReadsName (operand (fuel + 2) (depth + 1)) := by
  intro name s rest hname hs
  rw [operand, bind_of_ok (skipSign_name "-" hs), if_neg Bool.false_ne_true,
    bind_of_ok (skipSign_name "+" hs), if_neg Bool.false_ne_true]
  exact (readsName_primary fuel depth).bind (stops_postfixed fuel _) name s rest hname hs

theorem readsName_unary (fuel depth : Nat) : ReadsName (unary (fuel + 3) (depth + 1)) := by
  rw [unary]
  exact (readsName_operand fuel depth).bind (stops_filtered _ _)

theorem readsName_power (fuel depth : Nat) : ReadsName (power (fuel + 4) (depth + 1)) := by
  rw [power]
  exact (readsName_unary fuel depth).bind (stops_chain rfl _ _)

theorem readsName_product (fuel depth : Nat) : ReadsName (product (fuel + 5) (depth + 1)) := by
  rw [product]
  exact (readsName_power fuel depth).bind (stops_chain rfl _ _)

theorem readsName_joined (fuel depth : Nat) : ReadsName (joined (fuel + 6) (depth + 1)) := by
  rw [joined]
  exact (readsName_product fuel depth).bind (stops_chain rfl _ _)

theorem readsName_sum (fuel depth : Nat) : ReadsName (sum (fuel + 7) (depth + 1)) := by
  rw [sum]
  exact (readsName_joined fuel depth).bind (stops_chain rfl _ _)

theorem readsName_negation (fuel depth : Nat) : ReadsName (negation (fuel + 8) (depth + 1)) := by
  intro name s rest hname hs
  have hnot : name ≠ "not" := fun h => hname.ne_word (by simp [h])
  rw [negation, bind_of_ok (skipName_name hnot hs), if_neg Bool.false_ne_true]
  exact (readsName_sum fuel depth).bind (stops_compared _ _) name s rest hname hs

theorem readsName_conjunction (fuel depth : Nat) :
    ReadsName (conjunction (fuel + 9) (depth + 1)) := by
  rw [conjunction]
  exact (readsName_negation fuel depth).bind (stops_junction _ _ _ _)

theorem readsName_disjunction (fuel depth : Nat) :
    ReadsName (disjunction (fuel + 10) (depth + 1)) := by
  rw [disjunction]
  exact (readsName_conjunction fuel depth).bind (stops_junction _ _ _ _)

theorem readsName_expr (fuel depth : Nat) : ReadsName (expr (fuel + 11) (depth + 2)) := by
  rw [expr]
  exact (readsName_disjunction fuel depth).bind (stops_conditional _ _)

theorem readsName_anyExpr (fuel depth : Nat) : ReadsName (anyExpr (fuel + 11) (depth + 2)) := by
  intro name s rest hname hs
  obtain ⟨s', hs', hrest⟩ := readsName_expr fuel depth name s rest hname hs
  refine ⟨s', ?_, hrest⟩
  rw [anyExpr, tupleOf, bind_of_ok (peek_name hs)]
  simp only [List.isEmpty_nil, Bool.not_true, Bool.false_and, Bool.false_eq_true, if_false]
  rw [bind_of_ok hs', bind_of_ok (skipSign_end "," hrest)]
  rfl

/-- The statement that a piece is. -/
def stmtOf : Piece → Stmt
  | .text s => .raw s
  | .variable_ name => .emit (.var name)

theorem statements_pieces (pieces : List Piece)
    (hpieces : ∀ name, .variable_ name ∈ pieces → IsVariable name) {fuel : Nat}
    (hfuel : pieces.length + 12 ≤ fuel) (depth : Nat) (acc : List Stmt) (s : ReadState)
    (hs : s.tokens = pieces.flatMap Lexer.tokensOfPiece) :
    ∃ s', statements fuel (depth + 2) [] acc s = .ok (acc.reverse ++ pieces.map stmtOf, s') := by
  induction pieces generalizing fuel acc s with
  | nil =>
    obtain ⟨fuel, rfl⟩ : ∃ k, fuel = k + 1 := Nat.exists_eq_add_of_le' (by omega)
    have hnext : next s = .ok (none, s) := by rw [next, hs]; rfl
    refine ⟨s, ?_⟩
    rw [statements, bind_of_ok hnext, List.map_nil, List.append_nil]
    rfl
  | cons p pieces ih =>
    rw [List.length_cons] at hfuel
    obtain ⟨fuel, rfl⟩ : ∃ k, fuel = k + 12 := Nat.exists_eq_add_of_le' (by omega)
    have hrest : pieces.length + 12 ≤ fuel + 11 := by omega
    have hpieces' := fun name hname => hpieces name (List.mem_cons_of_mem p hname)
    cases p with
    | text t =>
      have htokens : s.tokens = .data t :: pieces.flatMap Lexer.tokensOfPiece := hs
      obtain ⟨s', hs'⟩ := ih hpieces' hrest (.raw t :: acc)
        { s with tokens := pieces.flatMap Lexer.tokensOfPiece } rfl
      refine ⟨s', ?_⟩
      rw [statements, bind_of_ok (next_cons htokens (by simp))]
      simpa [stmtOf] using hs'
    | variable_ name =>
      have htokens : s.tokens = .variableStart :: .name name :: .variableEnd ::
        pieces.flatMap Lexer.tokensOfPiece := hs
      obtain ⟨s₁, hexpr, hs₁⟩ := readsName_anyExpr fuel depth name
        { s with tokens := .name name :: .variableEnd :: pieces.flatMap Lexer.tokensOfPiece } _
        (hpieces name List.mem_cons_self) rfl
      obtain ⟨s', hs'⟩ := ih hpieces' hrest (.emit (.var name) :: acc)
        { s₁ with tokens := pieces.flatMap Lexer.tokensOfPiece } rfl
      refine ⟨s', ?_⟩
      rw [statements, bind_of_ok (next_cons htokens (by simp))]
      simp only
      rw [bind_of_ok hexpr, bind_of_ok (next_cons hs₁ (by simp))]
      simpa [stmtOf, isVariableEnd] using hs'

end Reader

/-- A form is read as its pieces, with the line end of its last text dropped where none is kept. -/
theorem parse_form {m : Markup} (hm : m.delimiters = .standard) (f : Form) :
    parse m f.source = .ok ((f.kept m.keepTrailingNewline).pieces.map Reader.stmtOf) := by
  let pieces := (f.kept m.keepTrailingNewline).pieces
  have htokens : tokensOf m f.source = pieces.flatMap Lexer.tokensOfPiece := by
    rw [tokensOf, ← toList_source_kept]
    refine Lexer.tokens_form hm _ ?_ []
    have := (f.kept m.keepTrailingNewline).length_source
    omega
  have hfuel : pieces.length + 12 ≤ 30 * (pieces.flatMap Lexer.tokensOfPiece).length + 3000 := by
    have := Lexer.length_pieces_le pieces
    omega
  have hvariable : ∀ name, .variable_ name ∈ pieces → IsVariable name := by
    intro name hname
    obtain ⟨i, -, rfl⟩ := exists_of_mem_pieces hname
    exact i.isVariable
  obtain ⟨s', hs'⟩ := Reader.statements_pieces pieces hvariable hfuel 148 []
    { tokens := pieces.flatMap Lexer.tokensOfPiece } rfl
  rw [parse, htokens]
  simp only [Reader.maxDepth, hs', List.reverse_nil, List.nil_append, pieces]

/-! ## Rendering -/

namespace Evaluation

open Render

variable {s : Setting} {m : Machine} {put : String → String}

theorem bind_of_ok {x : Render α} {f : α → Render β} {a : α} {n : Machine}
    (h : x m = .ok (a, n)) : (x >>= f) m = f a n := by
  change (x m).bind (fun p => f p.1 p.2) = _
  rw [h]
  rfl

theorem get_apply (m : Machine) : (get : Render Machine) m = .ok (m, m) := rfl

theorem write_of_not_discarding (h : m.discarding = false) (t : String) :
    write t m = .ok (t, m) := by
  rw [write, bind_of_ok (get_apply m), h]
  rfl

/-- A text that is not escaped is printed as it is. -/
theorem emit_text (hdiscard : m.discarding = false) (hescape : m.escaping = false) (t : String) :
    emit s (.string t false) m = .ok (t, m) := by
  simp only [emit]
  rw [bind_of_ok (get_apply m), hescape, if_neg Bool.false_ne_true]
  exact write_of_not_discarding hdiscard t

/-- A piece is rendered as what is put in its place, where its name means that. -/
theorem exec_stmtOf (hdiscard : m.discarding = false) (hescape : m.escaping = false) {p : Piece}
    (hp : ∀ name, p = .variable_ name → m.lookup? s name = some (.string (put name) false))
    (fuel : Nat) : exec s (fuel + 2) (Reader.stmtOf p) m = .ok (p.filled put, m) := by
  cases p with
  | text t =>
    rw [Reader.stmtOf, exec, write_of_not_discarding hdiscard]
    rfl
  | variable_ name =>
    have heval : eval s (fuel + 1) (.var name) m = .ok (.string (put name) false, m) := by
      rw [eval, bind_of_ok (get_apply m), hp name rfl]
      rfl
    rw [Reader.stmtOf, exec, bind_of_ok heval, emit_text hdiscard hescape]
    rfl

/-- Each piece is rendered after the others. -/
theorem foldlM_pieces (hdiscard : m.discarding = false) (hescape : m.escaping = false)
    {pieces : List Piece}
    (h : ∀ name, .variable_ name ∈ pieces → m.lookup? s name = some (.string (put name) false))
    (fuel : Nat) (out : String) :
    ((pieces.map Reader.stmtOf).foldlM (fun out stmt => do
      return out ++ (← exec s (fuel + 2) stmt)) out : Render String) m =
      .ok (out ++ String.join (pieces.map (·.filled put)), m) := by
  induction pieces generalizing out with
  | nil => simp; rfl
  | cons p pieces ih =>
    have hp := exec_stmtOf hdiscard hescape (p := p)
      (fun name hname => h name (by simp [hname])) fuel
    have ih := ih (fun name hname => h name (List.mem_cons_of_mem p hname)) (out ++ p.filled put)
    rw [List.map_cons, List.foldlM_cons, List.map_cons, String.join_cons, ← String.append_assoc,
      ← ih]
    exact bind_of_ok (bind_of_ok hp)

/-- A template of pieces is rendered in a context that binds its names to texts. -/
theorem render_pieces (pieces : List Piece)
    (h : ∀ name, .variable_ name ∈ pieces → s.context.get? name = some (.string (put name) false)) :
    render s (pieces.map Reader.stmtOf) = .ok (String.join (pieces.map (·.filled put))) := by
  let start : Machine := { blocks := Machine.addBlocks [] (pieces.map Reader.stmtOf) }
  have hlookup : ∀ name, .variable_ name ∈ pieces →
      start.lookup? s name = some (.string (put name) false) := by
    intro name hname
    simp [Machine.lookup?, start, Machine.lookupFrame?, Machine.closureOf, h name hname]
  have hall : execAll s 999999 (pieces.map Reader.stmtOf) start =
      .ok (String.join (pieces.map (·.filled put)), start) := by
    rw [execAll, foldlM_pieces (m := start) rfl rfl hlookup, String.empty_append]
  have hset : (set { start with parent := none } : Render PUnit) start = .ok (⟨⟩, start) := rfl
  have hparents : ∀ lost out, runParents s 999999 lost out start = .ok (out, start) := by
    intro lost out
    rw [runParents]
    rfl
  have hbody : (runBody s maxNesting (pieces.map Reader.stmtOf)) start =
      .ok (String.join (pieces.map (·.filled put)), start) := by
    rw [maxNesting, runBody, bind_of_ok (get_apply start), bind_of_ok hset, bind_of_ok hall,
      bind_of_ok (hparents _ _)]
    rfl
  rw [render, StateT.run, hbody]
  rfl

end Evaluation

theorem get?_contextOf (context : KeyMap Json) (name : String) :
    (contextOf context).get? name = (context.get? name).map Value.ofJson := by
  rw [contextOf, KeyMap.ofList, KeyMap.get?_insertAll, KeyMap.get?_empty, Option.or_none,
    ← KeyMap.find?_reverse_entries, ← List.map_reverse, List.find?_map]
  simp [Function.comp_def]

/-- The engine drops a line end of the template, and none that a value brings. -/
theorem engine_form {o : EngineOptions} (ho : o.delimiters = .standard) (t : FileTree)
    (root : Path) : ∃ e, engine o t root = .ok e ∧
      ∀ (f : Form) (context : KeyMap Json) (value : String → String),
        (∀ i ∈ f.insertions, context.get? i.name = some (.string (value i.name))) →
        e f.source context = .ok ((f.kept o.keepTrailingNewline).filled value) := by
  have hdistinct : distinctOpenings o.delimiters = true := by rw [ho]; decide
  refine ⟨_, by rw [engine, if_pos hdistinct], fun f context value hvalue => ?_⟩
  simp only [parse_form (m := markupOf o) ho f]
  rw [← join_filled]
  refine Evaluation.render_pieces _ fun name hname => ?_
  obtain ⟨i, hi, rfl⟩ := exists_of_mem_pieces hname
  rw [get?_contextOf, hvalue i (by simpa using hi)]
  rfl

end Jinja
end Stencil
