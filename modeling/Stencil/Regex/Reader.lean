import Stencil.Regex.Property
import Stencil.Regex.Size

/-! Reading the notation of regular expressions. -/
namespace Stencil
namespace Regex

/-- What the letters of `(?imsUuxR)` switch. -/
structure Flags where
  ignoreCase : Bool := false
  multiLine : Bool := false
  dotAll : Bool := false
  swapGreed : Bool := false
  unicode : Bool := true
  carriageReturn : Bool := false
  /-- Blanks and comments in the notation count for nothing -/
  spaced : Bool := false

namespace Flags

def set? (f : Flags) (letter : Char) (on : Bool) : Option Flags :=
  match letter with
  | 'i' => some { f with ignoreCase := on }
  | 'm' => some { f with multiLine := on }
  | 's' => some { f with dotAll := on }
  | 'U' => some { f with swapGreed := on }
  | 'u' => some { f with unicode := on }
  | 'R' => some { f with carriageReturn := on }
  | 'x' => some { f with spaced := on }
  | _ => none

end Flags

namespace Reader

open Text

/-- Blanks, and comments up to the end of their line. -/
def skipSpace : Nat → List Char → List Char
  | 0, cs => cs
  | _ + 1, [] => []
  | fuel + 1, c :: cs =>
    if isBlank c then skipSpace fuel cs
    else if c = '#' then skipSpace fuel ((cs.dropWhile (· != '\n')).drop 1)
    else c :: cs

def skip (f : Flags) (cs : List Char) : List Char :=
  if f.spaced then skipSpace cs.length cs else cs

/-- The characters that have a meaning of their own. -/
def isMeta (c : Char) : Bool := "\\.+*?()|[]\x7b\x7d^$#&-~".toList.contains c

/-- Any ASCII character but a letter, a digit, `<` and `>` may be escaped. -/
def isEscapable (c : Char) : Bool :=
  isMeta c || (c.toNat < 128 && !c.isAlphanum && c != '<' && c != '>')

def asciiWord (n : Nat) : Bool := n < 128 && Text.Property.isWord n

def asciiDigits : CharClass := .range 48 57

def asciiBlank : CharClass := .union [.range 9 13, .single ' ']

def asciiWords : CharClass := .union [asciiDigits, .range 65 90, .single '_', .range 97 122]

def perl (f : Flags) (letter : Char) : CharClass :=
  if letter = 'd' then (if f.unicode then Property.digits else asciiDigits)
  else if letter = 's' then (if f.unicode then Property.blank else asciiBlank)
  else if f.unicode then Property.word
  else asciiWords

def inCase (f : Flags) (s : CharClass) : CharClass :=
  if f.ignoreCase then (if f.unicode then .anyCase s else .asciiCase s) else s

/-- What an escape stands for. -/
inductive Escaped where
  | char (c : Char)
  | set (s : CharClass)
  | look (a : Assertion)

/-- The name of a property as it is compared: small letters only, without separators and a leading
`is`. -/
def plainName (name : List Char) : String :=
  let kept := name.filter fun c => c.toNat < 128 && c != '_' && c != '-' && !isBlank c
  let small := kept.map Char.toLower
  match small with
  | 'i' :: 's' :: rest => if rest = ['c'] then "isc" else String.ofList rest
  | _ => String.ofList small

def property? (name : List Char) : Option CharClass := Property.named? (plainName name)

/-- A property given as name and value. -/
def propertyValue? (name value : List Char) : Option CharClass :=
  Property.valued? (plainName name) (plainName value)

/-- `name`, `name=value`, `name:value` or `name!=value`. -/
def propertyText? (text : List Char) : Option CharClass :=
  match cutAt '=' text, cutAt ':' text with
  | some (before, value), colon =>
    if before.getLast? = some '!' then
      (propertyValue? before.dropLast value).map .outside
    else
      match colon with
      | some (name, value) => propertyValue? name value
      | none => propertyValue? before value
  | none, some (name, value) => propertyValue? name value
  | none, none => property? text

/-- What follows `\p` or `\P`. -/
def unicodeClass? (f : Flags) (negated : Bool) (cs : List Char) : Option (CharClass × List Char) :=
  if !f.unicode then none
  else
    let finish (s : CharClass) : CharClass :=
      if negated then .outside (inCase f s) else inCase f s
    match skip f cs with
    | [] => none
    | '\x7b' :: rest =>
      match cutAt '\x7d' rest with
      | none => none
      | some (name, rest) => (propertyText? name).map fun s => (finish s, rest)
    | c :: rest => if c = '\\' then none else (property? [c]).map fun s => (finish s, rest)

/-- A code point in a given number of hexadecimal digits, or in braces. -/
def codePoint? (f : Flags) (digits : Nat) (cs : List Char) : Option (Char × List Char) :=
  match skip f cs with
  | '\x7b' :: rest =>
    match cutAt '\x7d' rest with
    | none => none
    | some (inner, rest) =>
      if inner.isEmpty ∨ 8 < inner.length then none
      else do some (← scalar? (← hexNumber? inner), rest)
  | cs =>
    if cs.length < digits then none
    else do some (← scalar? (← hexNumber? (cs.take digits)), cs.drop digits)

def wordEdge (f : Flags) (allowed : Bool → Bool → Bool) : Assertion :=
  .word allowed (if f.unicode then Text.Property.isWord else asciiWord)

def edgeNamed? (f : Flags) (name : String) : Option Assertion :=
  if name = "start" then some (wordEdge f fun before after => !before && after)
  else if name = "end" then some (wordEdge f fun before after => before && !after)
  else if name = "start-half" then some (wordEdge f fun before _ => !before)
  else if name = "end-half" then some (wordEdge f fun _ after => !after)
  else none

/-- What follows `\b`: the name of an edge in braces, unless a count stands there. -/
def edge? (f : Flags) (cs : List Char) : Option (Assertion × List Char) :=
  let plain := wordEdge f fun before after => before != after
  match skip f cs with
  | '\x7b' :: rest =>
    let inner := skip f rest
    match inner.head? with
    | none => none
    | some c =>
      if c.isAlpha ∨ c = '-' then
        match cutAt '\x7d' inner with
        | none => none
        | some (name, rest) => (edgeNamed? f (String.ofList name)).map (·, rest)
      else some (plain, cs)
  | _ => some (plain, cs)

/-- What follows a backslash. -/
def escape? (f : Flags) : List Char → Option (Escaped × List Char)
  | [] => none
  | c :: cs =>
    if c = 'x' then
      match codePoint? f 2 cs with
      | some (d, rest) => if !f.unicode && 128 ≤ d.toNat then none else some (.char d, rest)
      | none => none
    else if c = 'u' then (codePoint? f 4 cs).map fun (d, rest) => (.char d, rest)
    else if c = 'U' then (codePoint? f 8 cs).map fun (d, rest) => (.char d, rest)
    else if c = 'p' ∨ c = 'P' then
      (unicodeClass? f (c == 'P') cs).map fun (s, rest) => (.set s, rest)
    else if c = 'd' ∨ c = 's' ∨ c = 'w' then some (.set (perl f c), cs)
    else if c = 'D' ∨ c = 'S' ∨ c = 'W' then some (.set (.outside (perl f c.toLower)), cs)
    else if isEscapable c then some (.char c, cs)
    else if c = 'a' then some (.char '\x07', cs)
    else if c = 'f' then some (.char '\x0c', cs)
    else if c = 't' then some (.char '\t', cs)
    else if c = 'n' then some (.char '\n', cs)
    else if c = 'r' then some (.char '\r', cs)
    else if c = 'v' then some (.char '\x0b', cs)
    else if c = 'A' then some (.look .textStart, cs)
    else if c = 'z' then some (.look .textEnd, cs)
    else if c = 'b' then (edge? f cs).map fun (a, rest) => (.look a, rest)
    else if c = 'B' then some (.look (wordEdge f fun before after => before == after), cs)
    else if c = '<' then
      some (.look (wordEdge f fun before after => !before && after), cs)
    else if c = '>' then
      some (.look (wordEdge f fun before after => before && !after), cs)
    else none

/-- The classes that have a name between colons. -/
def asciiClass? (name : String) : Option CharClass :=
  let digits := asciiDigits
  let upper := CharClass.range 65 90
  let lower := CharClass.range 97 122
  let letters := CharClass.either upper lower
  if name = "alnum" then some (.either digits letters)
  else if name = "alpha" then some letters
  else if name = "ascii" then some (.range 0 127)
  else if name = "blank" then some (.either (.single '\t') (.single ' '))
  else if name = "cntrl" then some (.either (.range 0 31) (.range 127 127))
  else if name = "digit" then some digits
  else if name = "graph" then some (.range 33 126)
  else if name = "lower" then some lower
  else if name = "print" then some (.range 32 126)
  else if name = "punct" then
    some (.union [.range 33 47, .range 58 64, .range 91 96, .range 123 126])
  else if name = "space" then some asciiBlank
  else if name = "upper" then some upper
  else if name = "word" then some asciiWords
  else if name = "xdigit" then some (.union [digits, .range 65 70, .range 97 102])
  else none

/-- `:name:]` or `:^name:]` after a bracket. -/
def namedClass? (f : Flags) : List Char → Option (CharClass × List Char)
  | ':' :: cs =>
    let (negated, cs) := match cs with
      | '^' :: cs => (true, cs)
      | cs => (false, cs)
    match cutAt ':' cs with
    | some (name, ']' :: rest) =>
      (asciiClass? (String.ofList name)).map fun s =>
        (if negated then .outside (inCase f s) else inCase f s, rest)
    | _ => none
  | _ => none

/-- Two sets combine from left to right. -/
inductive SetOperator where
  | intersection
  | difference
  | symmetricDifference

def combine (f : Flags) (pending : Option (CharClass × SetOperator)) (s : CharClass) :
    CharClass :=
  match pending with
  | none => s
  | some (lhs, .intersection) => .both (inCase f lhs) (inCase f s)
  | some (lhs, .difference) => .without (inCase f lhs) (inCase f s)
  | some (lhs, .symmetricDifference) => .exactlyOne (inCase f lhs) (inCase f s)

def setOperator? : List Char → Option (SetOperator × List Char)
  | '&' :: '&' :: rest => some (.intersection, rest)
  | '-' :: '-' :: rest => some (.difference, rest)
  | '~' :: '~' :: rest => some (.symmetricDifference, rest)
  | _ => none

/-- A character or an escaped set. -/
def setItem? (f : Flags) : List Char → Option (Escaped × List Char)
  | [] => none
  | '\\' :: cs => escape? f cs
  | c :: cs => some (.char c, cs)

def itemClass? (f : Flags) : Escaped → Option CharClass
  | .char c => if !f.unicode && 128 ≤ c.toNat then none else some (.single c)
  | .set s => some s
  | .look _ => none

/-- Something that was read, and how deep it nests. -/
structure Nested (α : Type) where
  value : α
  depth : Nat := 0

/-- The depth of several things one after the other: one more than that of the deepest, unless there is
only one. -/
def depthOf (items : List (Nested α)) : Nat :=
  match items with
  | [] => 0
  | [i] => i.depth
  | items => (items.map (·.depth)).foldl max 0 + 1

/-- A hyphen before the closing bracket or another hyphen is no range. -/
def startsRange (f : Flags) (cs : List Char) : Bool :=
  match cs with
  | '-' :: rest =>
    match skip f rest with
    | ']' :: _ => false
    | '-' :: _ => false
    | _ => true
  | _ => false

/-- A range or a single item. -/
def rangeOrItem? (f : Flags) (cs : List Char) : Option (CharClass × List Char) := do
  let (first, rest) ← setItem? f cs
  let rest := skip f rest
  if rest.isEmpty then none
  else if startsRange f rest then
    let (second, rest) ← setItem? f (skip f (rest.drop 1))
    match first, second with
    | .char a, .char b =>
      if b.toNat < a.toNat ∨ (!f.unicode && 128 ≤ b.toNat) then none
      else some (.range a.toNat b.toNat, rest)
    | _, _ => none
  else do some (← itemClass? f first, rest)

/-- Hyphens, and then a bracket that closes nothing yet, stand for themselves at the front. -/
def classFront (f : Flags) (items : List (Nested CharClass)) :
    List Char → List (Nested CharClass) × List Char
  | '-' :: cs => classFront f (⟨.single '-', 0⟩ :: items) cs
  | ']' :: cs => if items.isEmpty then ([⟨.single ']', 0⟩], cs) else (items, ']' :: cs)
  | cs => (items, cs)

/-- What follows an opening bracket: whether the set is negated, and its front. -/
def openClass (f : Flags) (cs : List Char) : Bool × List (Nested CharClass) × List Char :=
  match skip f cs with
  | '^' :: cs => (true, classFront f [] (skip f cs))
  | cs => (false, classFront f [] cs)

/-- What is left open around the set being read: whether it is negated, the set to its left and
the items before it. -/
structure Around where
  negated : Bool
  pending : Option (Nested CharClass × SetOperator)
  items : List (Nested CharClass)

/-- The set that was read, combined with the one to its left. -/
def Around.set (f : Flags) (a : Around) : Nested CharClass :=
  let s := CharClass.union (a.items.reverse.map (·.value))
  let depth := depthOf a.items
  match a.pending with
  | none => ⟨combine f none s, depth⟩
  | some (lhs, op) => ⟨combine f (some (lhs.value, op)) s, max lhs.depth depth + 1⟩

/-- A set up to the bracket that closes it. `stack` holds the sets around it. -/
def class? (f : Flags) : Nat → List Around → Around → List Char →
    Option (Nested CharClass × List Char)
  | 0, _, _, _ => none
  | fuel + 1, stack, here, cs =>
    match skip f cs with
    | [] => none
    | '[' :: rest =>
      match namedClass? f rest with
      | some (s, rest) => class? f fuel stack { here with items := ⟨s, 0⟩ :: here.items } rest
      | none =>
        let (negated, items, rest) := openClass f rest
        class? f fuel (here :: stack) ⟨negated, none, items⟩ rest
    | ']' :: rest =>
      let set := here.set f
      let s := inCase f set.value
      let s : Nested CharClass := ⟨if here.negated then .outside s else s, set.depth + 1⟩
      match stack with
      | [] => some (s, rest)
      | outer :: stack => class? f fuel stack { outer with items := s :: outer.items } rest
    | cs =>
      match setOperator? cs with
      | some (op, rest) =>
        class? f fuel stack { here with pending := some (here.set f, op), items := [] } rest
      | none =>
        match rangeOrItem? f cs with
        | some (s, rest) => class? f fuel stack { here with items := ⟨s, 0⟩ :: here.items } rest
        | none => none

/-- A number between blanks. -/
def count? (f : Flags) (cs : List Char) : Option (Nat × List Char) :=
  let cs := skip f (dropBlank cs)
  let digits := cs.takeWhile asciiDigit
  let n := digits.foldl (fun n c => 10 * n + digitValue c) 0
  if digits.isEmpty ∨ UInt32.size ≤ n then none
  else some (n, dropBlank (cs.dropWhile asciiDigit))

/-- What follows an opening brace: the bounds of a repetition. -/
def bounds? (f : Flags) (cs : List Char) : Option (Nat × Option Nat × List Char) := do
  let (low, rest) ← count? f (skip f cs)
  let (high, rest) ←
    match rest with
    | ',' :: rest =>
      match skip f rest with
      | '\x7d' :: rest => some (none, '\x7d' :: rest)
      | rest => (count? f rest).map fun (n, rest) => (some n, rest)
    | rest => some (some low, rest)
  match rest with
  | '\x7d' :: rest =>
    if high.any (· < low) then none else some (low, high, rest)
  | _ => none

/-- The letters of a group of flags: each at most once, and none missing after `-`. -/
def flags? (seen : List Char) (off : Bool) (f : Flags) : List Char → Option (Flags × Char × List Char)
  | [] => none
  | c :: cs =>
    if c = ':' ∨ c = ')' then
      if seen.head? = some '-' then none else some (f, c, cs)
    else if seen.contains c then none
    else if c = '-' then flags? (c :: seen) true f cs
    else
      match f.set? c (!off) with
      | some f => flags? (c :: seen) off f cs
      | none => none

def isNameStart (c : Char) : Bool := c == '_' || Text.Property.isAlphabetic c.toNat

def isNameChar (c : Char) : Bool :=
  c == '_' || c == '.' || c == '[' || c == ']' || Text.Property.isAlphanumeric c.toNat

/-- The name of a group up to `>`. -/
def groupName? (cs : List Char) : Option (String × List Char) :=
  match cutAt '>' cs with
  | some (c :: name, rest) =>
    if isNameStart c ∧ name.all isNameChar then some (String.ofList (c :: name), rest) else none
  | _ => none

/-- A part of an expression; one that only switches flags is no expression. -/
abbrev Part := Nested (Option Regex)

def concat (items : List Part) : Nested Regex :=
  ⟨match items.filterMap (·.value) with
    | [] => .empty
    | r :: rs => rs.foldl (fun s r => .seq r s) r, depthOf items⟩

def alternation (branches : List (Nested Regex)) (last : Nested Regex) : Nested Regex :=
  ⟨branches.foldl (fun s r => .alt r.value s) last.value, depthOf (last :: branches)⟩

def literal? (f : Flags) (c : Char) : Option Regex :=
  if !f.unicode && f.ignoreCase && 128 ≤ c.toNat then some (.set (.single c))
  else some (.set (inCase f (.single c)))

def classRegex? (f : Flags) (s : CharClass) : Option Regex :=
  if f.unicode ∨ s.isAscii then some (.set s) else none

def dot? (f : Flags) : Option Regex :=
  if !f.unicode then none
  else if f.dotAll then some (.set (.range 0 0x10FFFF))
  else if f.carriageReturn then
    some (.set (.outside (.either (.single '\n') (.single '\r'))))
  else some (.set (.outside (.single '\n')))

def lineStart (f : Flags) : Assertion :=
  if f.multiLine then .lineStart f.carriageReturn else .textStart

def lineEnd (f : Flags) : Assertion :=
  if f.multiLine then .lineEnd f.carriageReturn else .textEnd

/-- A group that is being read: the flags to go back to, and what was read before it. -/
structure Open where
  flags : Flags
  branches : List (Nested Regex)
  items : List Part
  noted : Bool

/-- A repetition sign makes the item before it repeated; another `?` makes it lazy. Flags are no
item. -/
def repeatLast? (f : Flags) (items : List Part) (min : Nat) (max : Option Nat)
    (cs : List Char) : Option (List Part × List Char) :=
  match items with
  | ⟨some r, depth⟩ :: items =>
    let (greedy, cs) := match cs with
      | '?' :: cs => (false, cs)
      | cs => (true, cs)
    some (⟨some (.repeated r min max (greedy != f.swapGreed)), depth + 1⟩ :: items, cs)
  | _ => none

/-- What a group opens with, after its parenthesis. -/
inductive GroupStart where
  | group (f : Flags) (noted : Bool) (name : Option String) (rest : List Char)
  | setting (f : Flags) (rest : List Char)

def groupStart? (f : Flags) (cs : List Char) : Option GroupStart :=
  match skip f cs with
  | '?' :: '=' :: _ | '?' :: '!' :: _ | '?' :: '<' :: '=' :: _ | '?' :: '<' :: '!' :: _ => none
  | '?' :: 'P' :: '<' :: rest | '?' :: '<' :: rest =>
    (groupName? rest).map fun (name, rest) => .group f true (some name) rest
  | '?' :: ')' :: _ => none
  | '?' :: rest =>
    match flags? [] false f rest with
    | some (g, ':', rest) => some (.group g false none rest)
    | some (g, _, rest) => some (.setting g rest)
    | none => none
  | rest => some (.group f true none rest)

/-- Read on, with the groups around in `stack`, the names used so far, the branches and items of
the group at hand, nearest first. -/
def regex? : Nat → List Open → List String → Flags → List (Nested Regex) → List Part →
    List Char → Option (Nested Regex)
  | 0, _, _, _, _, _, _ => none
  | fuel + 1, stack, names, f, branches, items, cs =>
    match skip f cs with
    | [] => if stack.isEmpty then some (alternation branches (concat items)) else none
    | c :: rest =>
      if c = '(' then
        match groupStart? f rest with
        | some (.group g noted name rest) =>
          if name.any names.contains then none
          else regex? fuel (⟨f, branches, items, noted⟩ :: stack) (name.toList ++ names) g [] [] rest
        | some (.setting g rest) => regex? fuel stack names g branches (⟨none, 0⟩ :: items) rest
        | none => none
      else if c = ')' then
        match stack with
        | [] => none
        | outer :: stack =>
          let inner := alternation branches (concat items)
          let r := if outer.noted then Regex.group inner.value else inner.value
          regex? fuel stack names outer.flags outer.branches (⟨some r, inner.depth + 1⟩ :: outer.items)
            rest
      else if c = '|' then regex? fuel stack names f (concat items :: branches) [] rest
      else if c = '[' then
        let (negated, front, rest) := openClass f rest
        match class? f (rest.length + 1) [] ⟨negated, none, front⟩ rest with
        | some (s, rest) =>
          match classRegex? f s.value with
          | some r => regex? fuel stack names f branches (⟨some r, s.depth⟩ :: items) rest
          | none => none
        | none => none
      else if c = '?' ∨ c = '*' ∨ c = '+' then
        let min := if c = '+' then 1 else 0
        let max := if c = '?' then some 1 else none
        match repeatLast? f items min max rest with
        | some (items, rest) => regex? fuel stack names f branches items rest
        | none => none
      else if c = '\x7b' then
        match bounds? f rest with
        | some (min, max, rest) =>
          match repeatLast? f items min max (skip f rest) with
          | some (items, rest) => regex? fuel stack names f branches items rest
          | none => none
        | none => none
      else if c = '\\' then
        match escape? f rest with
        | some (.char d, rest) =>
          match literal? f d with
          | some r => regex? fuel stack names f branches (⟨some r, 0⟩ :: items) rest
          | none => none
        | some (.set s, rest) =>
          match classRegex? f s with
          | some r => regex? fuel stack names f branches (⟨some r, 0⟩ :: items) rest
          | none => none
        | some (.look a, rest) =>
          regex? fuel stack names f branches (⟨some (.look a), 0⟩ :: items) rest
        | none => none
      else
        let item :=
          if c = '.' then dot? f
          else if c = '^' then some (.look (lineStart f))
          else if c = '$' then some (.look (lineEnd f))
          else literal? f c
        match item with
        | some r => regex? fuel stack names f branches (⟨some r, 0⟩ :: items) rest
        | none => none

end Reader

/-- Deeper expressions are refused. -/
def maxDepth : Nat := 250

/-- The expression that a text denotes. -/
def read? (cs : List Char) : Option Regex :=
  match Reader.regex? (cs.length + 1) [] [] {} [] [] cs with
  | some r => if r.depth ≤ maxDepth && r.value.fits then some r.value else none
  | none => none

end Regex
end Stencil
