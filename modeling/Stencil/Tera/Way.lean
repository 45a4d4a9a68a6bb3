import Stencil.Tera.Value

/-! Ways to values. A way is a text: names with dots between them, and brackets around a place, a
text in quotes or another way. Brackets give way to dots before a way is followed, and quotes then
keep the dots of a name together. -/
namespace Stencil
namespace Tera
namespace Way

open Text

/-- What stands in brackets that are `depth` deep, and what comes after them. -/
def inside (acc : List Char) : Nat → List Char → List Char × List Char
  | _, [] => (acc.reverse, [])
  | depth, c :: cs =>
    if c = ']' ∧ depth ≤ 1 then (acc.reverse, cs)
    else if c = ']' then inside (c :: acc) (depth - 1) cs
    else if c = '[' then inside (c :: acc) (depth + 1) cs
    else inside (c :: acc) depth cs

/-- A place in an array, as brackets hold it. -/
def isPlace (cs : List Char) : Bool :=
  !cs.isEmpty && cs.all asciiDigit && decide (Decimal.natOf cs < UInt64.size)

/-- The ways in brackets, those in other brackets apart. -/
def inner : Nat → List Char → List (List Char)
  | 0, _ => []
  | fuel + 1, cs =>
    match cs with
    | [] => []
    | '[' :: c :: rest =>
      if c = '"' ∨ c = '\'' then inner fuel rest
      else
        let (way, rest) := inside [c] 1 rest
        if isPlace way then inner fuel rest else way :: inner fuel rest
    | _ :: rest => inner fuel rest

/-- The way with the text of a value in place of the brackets around a way. -/
def substitute (way value cs : List Char) : List Char :=
  match breakOn? ('[' :: way ++ [']']) cs with
  | some (before, after) => before ++ '.' :: value ++ after
  | none => cs ++ '.' :: value

/-- Brackets as dots; a slash is spelt `~1` until the way is followed. -/
def dotted (cs : List Char) : List Char :=
  [("/", "~1"), ("['", ".\""), ("[\"", ".\""), ("[", "."), ("']", "\""), ("\"]", "\""),
    ("]", "")].foldl (fun cs (old, new) => replaceAll old.toList new.toList cs) cs

/-- The way without its first `n` bytes, if a character starts there. -/
def dropBytes? : Nat → List Char → Option (List Char)
  | 0, cs => some cs
  | _ + 1, [] => none
  | n + 1, c :: cs => if c.utf8Size ≤ n + 1 then dropBytes? (n + 1 - c.utf8Size) cs else none

/-- The first `n` bytes of the way, if a character ends there. -/
def takeBytes? : Nat → List Char → Option (List Char)
  | 0, _ => some []
  | _ + 1, [] => none
  | n + 1, c :: cs =>
    if c.utf8Size ≤ n + 1 then (takeBytes? (n + 1 - c.utf8Size) cs).map (c :: ·) else none

/-- Which quotes are open, and whether the last character was a backslash. -/
structure Quoting where
  single : Bool := false
  double : Bool := false
  escaped : Bool := false

/-- How many characters before the next name and how many up to its end; `none` if the name goes on
to the end. `i` is the number of characters read and `start` that of those before the name. -/
def scan (q : Quoting) (i start : Nat) : List Char → Quoting × Nat × Option Nat
  | [] => (q, start, none)
  | c :: cs =>
    if c = '\\' then scan { q with escaped := true } (i + 1) start cs
    else if q.escaped then scan { q with escaped := false } (i + 1) start cs
    else
      let q := if c = '"' then { q with double := !q.double }
        else if c = '\'' then { q with single := !q.single }
        else q
      if c = '"' ∨ c = '\'' ∨ (c = '.' ∧ !q.double ∧ !q.single) then
        if i = start then scan q (i + 1) (start + 1) cs else (q, start, some i)
      else scan q (i + 1) start cs

/-- The names on a way. Where they start and end is counted in characters but cut out in bytes; a
way that is cut within a character leads nowhere. -/
def names? (q : Quoting) : Nat → List Char → Option (List (List Char))
  | 0, _ => some []
  | fuel + 1, cs =>
    match scan q 0 0 cs with
    | (q, start, some stop) => do
      let name ← takeBytes? (stop - start) (← dropBytes? start cs)
      return name :: (← names? q fuel (← dropBytes? (stop + 1) cs))
    | (_, start, none) => do
      let name ← dropBytes? start cs
      return if name.isEmpty then [] else [name]

def unslashed (cs : List Char) : String :=
  String.ofList (replaceAll "~0".toList ['~'] (replaceAll "~1".toList ['/'] cs))

/-- What a way without brackets leads to. -/
def follow (v : Json) (cs : List Char) : Option Json :=
  (names? {} (cs.length + 1) cs).bind fun names =>
    names.foldl (fun w name => w.bind fun w => Value.get? w (unslashed name)) (some v)

/-- The name that a way starts with, and the rest of it. -/
def root (cs : List Char) : List Char × Option (List Char) :=
  match cutAt '.' cs with
  | some (name, rest) => (name, some rest)
  | none => (cs, none)

example : follow (.object [("a", .array [.bool true])]) "a.0".toList = some (.bool true) := by cbv

end Way
end Tera
end Stencil
