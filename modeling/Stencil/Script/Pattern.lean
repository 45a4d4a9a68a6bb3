import Stencil.FileTree.Resolve
import Stencil.Script.Tree

/-! Patterns for texts and for the names of files. -/
namespace Stencil
namespace Script

/-- A character of an expanded word, and whether it stands for itself in a pattern. -/
structure Mark where
  char : Char
  literal : Bool
  deriving DecidableEq, Repr, Inhabited

namespace Mark

def isSign (m : Mark) (c : Char) : Bool := !m.literal && m.char == c

def textOf (ms : List Mark) : String := String.ofList (ms.map (·.char))

end Mark

/-- What one character of a class can be. -/
inductive Member where
  | range (low high : Char)
  | named (name : String)
  deriving Repr, Inhabited

inductive PatternItem where
  | one (c : Char)
  | any
  | many
  | among (negated : Bool) (members : List Member)
  deriving Repr, Inhabited

abbrev Pattern := List PatternItem

namespace Member

def isPunctuation (c : Char) : Bool := '!' ≤ c && c ≤ '~' && !c.isAlphanum

def inNamed (name : String) (c : Char) : Bool :=
  match name with
  | "alnum" => c.isAlphanum
  | "alpha" => c.isAlpha
  | "digit" => c.isDigit
  | "lower" => c.isLower
  | "upper" => c.isUpper
  | "space" => [' ', '\t', '\n', '\r', '\x0b', '\x0c'].contains c
  | "blank" => c == ' ' || c == '\t'
  | "punct" => isPunctuation c
  | "xdigit" => c.isDigit || ('a' ≤ c && c ≤ 'f') || ('A' ≤ c && c ≤ 'F')
  | "cntrl" => c.toNat < 32 || c.toNat == 127
  | "print" => 32 ≤ c.toNat && c.toNat < 127
  | "graph" => 32 < c.toNat && c.toNat < 127
  | _ => false

def contains (m : Member) (c : Char) : Bool :=
  match m with
  | range low high => low ≤ c && c ≤ high
  | named name => inNamed name c

end Member

namespace PatternItem

def accepts (i : PatternItem) (c : Char) : Bool :=
  match i with
  | one d => c == d
  | any => true
  | many => false
  | among negated members => (members.any fun m => m.contains c) != negated

end PatternItem

namespace Pattern

/-- The name of a class between `[:` and `:]`, once its bracket is passed. -/
def className? (ms : List Mark) : Option (String × List Mark) :=
  match ms with
  | ⟨':', _⟩ :: rest =>
    let name := rest.takeWhile fun m => m.char.isAlpha
    match rest.drop name.length with
    | ⟨':', _⟩ :: ⟨']', _⟩ :: rest => some (Mark.textOf name, rest)
    | _ => none
  | _ => none

/-- The members of a class up to its bracket; `none` if it is never closed. -/
def members? : Nat → Bool → List Mark → Option (List Member × List Mark)
  | 0, _, _ => none
  | fuel + 1, first, ms =>
    match ms with
    | [] => none
    | m :: rest =>
      if m.isSign ']' && !first then some ([], rest)
      else
        let named := if m.isSign '[' then className? rest else none
        match named, rest with
        | some (name, rest), _ =>
          (members? fuel false rest).map fun (more, rest) => (.named name :: more, rest)
        | none, d :: high :: rest' =>
          if d.isSign '-' && !high.isSign ']' then
            (members? fuel false rest').map fun (more, rest) =>
              (.range m.char high.char :: more, rest)
          else (members? fuel false rest).map fun (more, rest) => (.range m.char m.char :: more, rest)
        | none, rest =>
          (members? fuel false rest).map fun (more, rest) => (.range m.char m.char :: more, rest)

/-- A class after its bracket; a sign in front negates it. -/
def class? (sign : Char) (ms : List Mark) : Option (PatternItem × List Mark) :=
  let negated := ms.head?.any fun m => m.isSign sign
  (members? (ms.length + 1) true (if negated then ms.tail else ms)).map fun (members, rest) =>
    (.among negated members, rest)

def readItems : Nat → List Mark → Pattern
  | 0, _ => []
  | _ + 1, [] => []
  | fuel + 1, m :: rest =>
    if m.isSign '*' then .many :: readItems fuel rest
    else if m.isSign '?' then .any :: readItems fuel rest
    else if m.isSign '[' then
      match class? '!' rest with
      | some (i, rest) => i :: readItems fuel rest
      | none => .one '[' :: readItems fuel rest
    else .one m.char :: readItems fuel rest

def read (ms : List Mark) : Pattern := readItems (ms.length + 1) ms

/-- Whether a pattern is about a whole text. -/
def accepts : Pattern → List Char → Bool
  | [], cs => cs.isEmpty
  | .many :: p, [] => accepts p []
  | .many :: p, c :: cs => accepts p (c :: cs) || accepts (.many :: p) cs
  | _ :: _, [] => false
  | i :: p, c :: cs => i.accepts c && accepts p cs

/-- Whether anything but itself can match the text. -/
def isOpen (p : Pattern) : Bool :=
  p.any fun
    | .one _ => false
    | _ => true

/-- A text without the part at a side that a pattern is about. -/
def trim (p : Pattern) (side : Side) (longest : Bool) (cs : List Char) : List Char :=
  let counts := List.range (cs.length + 1)
  let counts := if longest then counts.reverse else counts
  match side with
  | .front =>
    match counts.find? fun n => accepts p (cs.take n) with
    | some n => cs.drop n
    | none => cs
  | .back =>
    match counts.find? fun n => accepts p (cs.drop (cs.length - n)) with
    | some n => cs.take (cs.length - n)
    | none => cs

/-- Texts, apart from one another, without the part at a side that a pattern is about. What a pattern
is about is looked for in one text at a time; at the back what comes after it goes too. -/
def trimAll (p : Pattern) (side : Side) (longest : Bool) : List (List Char) → List (List Char)
  | [] => []
  | first :: rest =>
    match side with
    | .front =>
      if longest && !rest.isEmpty && accepts p first then [[]]
      else trim p .front longest first :: rest
    | .back =>
      let places := (first :: rest).zipIdx.flatMap fun (cs, i) =>
        (List.range (cs.length + 1)).map fun n => (i, n)
      let hit := (if longest then places else places.reverse).find? fun (i, n) =>
        accepts p (((first :: rest)[i]?.getD []).drop n)
      match hit with
      | some (i, n) => (first :: rest).take i ++ [(((first :: rest)[i]?).getD []).take n]
      | none => first :: rest

/-- The names in a directory that a pattern is about. Hidden ones have to be asked for. -/
def namesIn (t : FileTree) (directory : String) (ms : List Mark) : List String :=
  let directory := if directory = "" then "." else directory
  let hidden := ms.head?.any fun m => m.char == '.'
  let p := read ms
  match t.resolve ⟨directory⟩ with
  | .found loc .directory =>
    let names := (if hidden then [".", ".."] else []) ++ t.children loc
    names.filter fun n => (hidden || !n.startsWith ".") && accepts p n.toList
  | _ => []

/-- Marks cut at the separators of a path. -/
def cutAtSlashes : List Mark → List (List Mark)
  | [] => [[]]
  | m :: ms =>
    if m.char = '/' then [] :: cutAtSlashes ms
    else
      match cutAtSlashes ms with
      | first :: rest => (m :: first) :: rest
      | [] => [[m]]

/-- The paths that begin like those given and go on as the pieces say. -/
def extend (t : FileTree) : List String → List (List Mark) → List String
  | paths, [] => paths
  | paths, [last] =>
    paths.flatMap fun path =>
      if isOpen (read last) then (namesIn t path last).map (path ++ ·)
      else
        let path := path ++ Mark.textOf last
        match t.locate ⟨path⟩ .kept with
        | .found .. => [path]
        | _ => []
  | paths, piece :: rest =>
    let next := paths.flatMap fun path =>
      if isOpen (read piece) then (namesIn t path piece).map (path ++ ·)
      else [path ++ Mark.textOf piece]
    extend t (next.map (· ++ "/")) rest

/-- The paths that a word stands for, in their order; the word itself if there are none. -/
def paths (t : FileTree) (ms : List Mark) : List String :=
  if isOpen (read ms) then
    match extend t [""] (cutAtSlashes ms) with
    | [] => [Mark.textOf ms]
    | found => found.mergeSort fun a b => a ≤ b
  else [Mark.textOf ms]

end Pattern
end Script
end Stencil
