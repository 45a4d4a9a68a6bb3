import Stencil.Script.Expression
import Stencil.Script.Format
import Stencil.Script.World
import Stencil.Text.Cut

/-! Programs that turn text into text. -/
namespace Stencil
namespace Script

open Text

/-- Why an operation on a file failed, as programs tell it. -/
def reason (e : IoError) : String :=
  match e.kind with
  | .notFound => "No such file or directory"
  | .notADirectory => "Not a directory"
  | .isADirectory => "Is a directory"
  | .alreadyExists => "File exists"
  | .directoryNotEmpty => "Directory not empty"
  | .filesystemLoop => "Too many levels of symbolic links"
  | .nameTooLong => "File name too long"
  | _ => "Invalid argument"

def quotedName (s : String) : String := "'" ++ s ++ "'"

namespace Filter

/-- Arguments told apart: options, each one letter, and operands. Options in `taking` have a value,
which is the rest of their word or the next one. -/
def options (taking : List Char) : Nat → List String → List (Char × String) × List String
  | 0, args => ([], args)
  | _ + 1, [] => ([], [])
  | _ + 1, "--" :: rest => ([], rest)
  | fuel + 1, a :: rest =>
    match a.toList with
    | '-' :: c :: cs =>
      if taking.contains c then
        match cs, rest with
        | [], value :: rest =>
          let (found, operands) := options taking fuel rest
          ((c, value) :: found, operands)
        | cs, rest =>
          let (found, operands) := options taking fuel rest
          ((c, String.ofList cs) :: found, operands)
      else
        let more := if cs.isEmpty then rest else String.ofList ('-' :: cs) :: rest
        let (found, operands) := options taking fuel more
        ((c, "") :: found, operands)
    | _ =>
      let (found, operands) := options taking fuel rest
      (found, a :: operands)

def optionsOf (taking : String) (args : List String) : List (Char × String) × List String :=
  options taking.toList (args.foldl (fun n a => n + a.length + 2) 1) args

def has (o : List (Char × String)) (c : Char) : Bool := o.any (·.1 == c)

def bytesAt (w : World) (a : String) : Except IoError ByteArray × World :=
  if a = "-" then
    let (bytes, w) := w.readAll 0
    (.ok bytes, w)
  else (w.tree.readBytes ⟨a⟩, w)

/-- What the operands hold, or standard input if there are none. Those that cannot be read are told
of. -/
def inputs (w : World) (operands : List String) (told : String → String → String) :
    List (String × ByteArray) × World :=
  (if operands.isEmpty then ["-"] else operands).foldl (fun (found, w) a =>
    match bytesAt w a with
    | (.ok bytes, w) => (found ++ [(a, bytes)], w)
    | (.error e, w) => (found, (w.report (told a (reason e))).done 1)) ([], w.done 0)

def charsOf (bytes : ByteArray) : List Char := (lossy bytes.toList).toList

/-- The lines of a text, without their ends. -/
def linesOf (cs : List Char) : List (List Char) :=
  match splitOnChar '\n' [] cs |>.reverse with
  | [] :: rest => rest.reverse
  | all => all.reverse

def printChars (w : World) (cs : List Char) : World := w.print (String.ofList cs)

def printLines (w : World) (ls : List (List Char)) : World :=
  printChars w (ls.flatMap fun l => l ++ ['\n'])

def toldPlainly (tool : String) (a why : String) : String := tool ++ ": " ++ a ++ ": " ++ why

/-- Print what a function makes of the lines of all inputs together. -/
def throughLines (tool : String) (w : World) (operands : List String)
    (f : List (List Char) → List (List Char)) : World :=
  let (found, w) := inputs w operands (toldPlainly tool)
  printLines w (f (found.flatMap fun (_, bytes) => linesOf (charsOf bytes)))

def toldOpening (tool : String) (a why : String) : String :=
  tool ++ ": cannot open " ++ quotedName a ++ " for reading: " ++ why

/-- An old form of an option: a dash and a number. -/
def withCount (args : List String) : List String :=
  match args with
  | a :: rest =>
    match a.toList with
    | '-' :: c :: _ => if asciiDigit c then "-n" :: String.ofList a.toList.tail :: rest else args
    | _ => args
  | [] => []

def takeLines (n : Nat) (bytes : ByteArray) : ByteArray :=
  let rec go : Nat → List UInt8 → List UInt8
    | 0, _ => []
    | _, [] => []
    | n + 1, b :: rest => b :: (if b = 10 then go n rest else go (n + 1) rest)
  ⟨(go n bytes.toList).toArray⟩

def dropLines (n : Nat) (bytes : ByteArray) : ByteArray :=
  bytes.extract (takeLines n bytes).size bytes.size

def countLines (bytes : ByteArray) : Nat :=
  bytes.toList.count 10 + (if bytes.isEmpty || bytes.toList.getLast? = some 10 then 0 else 1)

def headOf (o : List (Char × String)) (bytes : ByteArray) : ByteArray :=
  match o.find? fun p => p.1 == 'c' || p.1 == 'n' with
  | some ('c', s) => bytes.extract 0 (s.toNat?.getD 0)
  | some (_, s) =>
    match s.toList with
    | '-' :: digits => takeLines (countLines bytes - Decimal.natOf digits) bytes
    | digits => takeLines (Decimal.natOf digits) bytes
  | none => takeLines 10 bytes

def tailOf (o : List (Char × String)) (bytes : ByteArray) : ByteArray :=
  match o.find? fun p => p.1 == 'c' || p.1 == 'n' with
  | some ('c', s) =>
    match s.toList with
    | '+' :: digits => bytes.extract (Decimal.natOf digits - 1) bytes.size
    | _ => bytes.extract (bytes.size - s.toNat?.getD 0) bytes.size
  | some (_, s) =>
    match s.toList with
    | '+' :: digits => dropLines (Decimal.natOf digits - 1) bytes
    | '-' :: digits => dropLines (countLines bytes - Decimal.natOf digits) bytes
    | digits => dropLines (countLines bytes - Decimal.natOf digits) bytes
  | none => dropLines (countLines bytes - 10) bytes

/-- Print a part of each input, under its name if there are several. -/
def eachPart (tool : String) (f : List (Char × String) → ByteArray → ByteArray) (w : World)
    (args : List String) : World :=
  let (o, operands) := optionsOf "nc" (withCount args)
  let (found, w) := inputs w operands (toldOpening tool)
  let (_, w) := found.foldl (fun (first, w) (a, bytes) =>
    let w := if operands.length < 2 then w
      else w.print ((if first then "" else "\n") ++ "==> " ++ a ++ " <==\n")
    (false, w.write 1 (f o bytes))) (true, w)
  w

/-- How many words there are; `inside` says that one goes on. -/
def countWords (inside : Bool) : List UInt8 → Nat
  | [] => 0
  | b :: rest =>
    if b = 32 ∨ (9 ≤ b ∧ b ≤ 13) then countWords false rest
    else (if inside then 0 else 1) + countWords true rest

/-- Lines, words, characters and bytes, those that are asked for. -/
def counts (o : List (Char × String)) (bytes : ByteArray) : List Nat :=
  let all := !(has o 'l' || has o 'w' || has o 'c' || has o 'm')
  (if all || has o 'l' then [bytes.toList.count 10] else []) ++
    (if all || has o 'w' then [countWords false bytes.toList] else []) ++
    (if has o 'm' then [bytes.size] else []) ++
    (if all || has o 'c' then [bytes.size] else [])

def padLeft (width : Nat) (s : String) : String :=
  String.ofList (List.replicate (width - s.length) ' ') ++ s

def wc (w : World) (args : List String) : World :=
  let (o, operands) := optionsOf "" args
  let (found, w) := inputs w operands (toldPlainly "wc")
  let rows := found.map fun (a, bytes) => (counts o bytes, a)
  let rows : List (List Nat × String) := if rows.length < 2 then rows
    else
      let total := rows.foldl (fun sums r =>
        if sums.isEmpty then r.1 else List.zipWith (· + ·) sums r.1) []
      rows ++ [(total, "total")]
  let columns : Nat := (rows.head?.map (·.1.length)).getD 0
  let size := found.foldl (fun n f => n + f.2.size) 0
  let width : Nat := if operands.isEmpty ∧ columns < 2 then 1
    else if operands.isEmpty ∨ operands.contains "-" then 7
    else if columns < 2 ∧ operands.length < 2 then 1
    else (toString size).length
  rows.foldl (fun w (ns, a) =>
    w.print (String.intercalate " " (ns.map fun n => padLeft width (toString n)) ++
      (if operands.isEmpty then "" else " " ++ a) ++ "\n")) w

/-- The number at the front of a line. -/
def numberOf (cs : List Char) : Int :=
  let (negative, digits) := Decimal.takeSign (cs.dropWhile fun c => c == ' ' || c == '\t')
  let n : Int := Decimal.natOf (digits.takeWhile asciiDigit)
  if negative then -n else n

def noMore (a b : List Char) : Bool := String.ofList a ≤ String.ofList b

def sorted (o : List (Char × String)) (ls : List (List Char)) : List (List Char) :=
  let key := fun (l : List Char) => if has o 'f' then l.map Char.toUpper else l
  let before := fun (a b : List Char) =>
    if has o 'n' then
      numberOf a < numberOf b || (numberOf a == numberOf b && (has o 'u' || noMore a b))
    else if key a == key b then has o 'u' || noMore a b else noMore (key a) (key b)
  let ls := ls.mergeSort before
  let same := fun (a b : List Char) => if has o 'n' then numberOf a == numberOf b else key a == key b
  let ls := if has o 'u' then
    ls.foldr (fun l rest =>
      match rest with
      | m :: more => if same l m then l :: more else l :: m :: more
      | [] => [l]) []
    else ls
  if has o 'r' then ls.reverse else ls

/-- Runs of equal lines. -/
def runsOf : List (List Char) → List (List Char × Nat)
  | [] => []
  | l :: rest =>
    match runsOf rest with
    | (m, n) :: more => if l = m then (l, n + 1) :: more else (l, 1) :: (m, n) :: more
    | [] => [(l, 1)]

def uniq (o : List (Char × String)) (ls : List (List Char)) : List (List Char) :=
  ((runsOf ls).filter fun (_, n) => (!has o 'd' || n != 1) && (!has o 'u' || n == 1)).map
    fun (l, n) => if has o 'c' then (padLeft 7 (toString n)).toList ++ ' ' :: l else l

/-- The characters that a set of `tr` has, in order. -/
def setOf : Nat → List Char → List Char
  | 0, _ => []
  | _ + 1, [] => []
  | fuel + 1, '\\' :: c :: rest =>
    match c with
    | 'n' => '\n' :: setOf fuel rest
    | 't' => '\t' :: setOf fuel rest
    | 'r' => '\r' :: setOf fuel rest
    | c =>
      let digits := ((c :: rest).take 3).takeWhile Format.isOctal
      if digits.isEmpty then c :: setOf fuel rest
      else
        Char.ofNat (Arithmetic.digits 8 0 digits).1 :: setOf fuel ((c :: rest).drop digits.length)
  | fuel + 1, '[' :: ':' :: rest =>
    match breakOn? ":]".toList rest with
    | some (name, rest) =>
      ((List.range 128).map Char.ofNat).filter (Member.inNamed (String.ofList name)) ++ setOf fuel rest
    | none => '[' :: ':' :: setOf fuel rest
  | fuel + 1, a :: '-' :: b :: rest =>
    (List.range (b.toNat + 1 - a.toNat)).map (fun n => Char.ofNat (a.toNat + n)) ++ setOf fuel rest
  | fuel + 1, c :: rest => c :: setOf fuel rest

/-- Runs of a character of a set become one. -/
def squeeze (set : List Char) : List Char → List Char
  | [] => []
  | c :: rest =>
    match rest with
    | [] => [c]
    | d :: _ => if c = d ∧ set.contains c then squeeze set rest else c :: squeeze set rest

def place? (c : Char) : Nat → List Char → Option Nat
  | _, [] => none
  | n, d :: rest => if c = d then some n else place? c (n + 1) rest

def tr (w : World) (args : List String) : World :=
  let (o, sets) := optionsOf "" args
  let (bytes, w) := w.readAll 0
  let cs := charsOf bytes
  let first := (sets.head?.map fun s => setOf (s.length + 1) s.toList).getD []
  let second := (sets.tail.head?.map fun s => setOf (s.length + 1) s.toList).getD []
  let inFirst := fun c => first.contains c != (has o 'c' || has o 'C')
  let out :=
    if has o 'd' then
      let cs := cs.filter fun c => !inFirst c
      if has o 's' then squeeze second cs else cs
    else if second.isEmpty then
      if has o 's' then squeeze (cs.filter inFirst).eraseDups cs else cs
    else
      let last := (second.getLast?).getD ' '
      let cs := cs.map fun c =>
        if inFirst c then
          if has o 'c' || has o 'C' then last else second.getD ((place? c 0 first).getD 0) last
        else c
      if has o 's' then squeeze second cs else cs
  (printChars w out).done 0

/-- Numbers from `low` to `high`, with no upper end if there is none. -/
def partOf? (s : List Char) : Option (Nat × Option Nat) :=
  let (low, rest) := Decimal.spanDigits s
  match rest with
  | [] => if low.isEmpty then none else some (Decimal.natOf low, some (Decimal.natOf low))
  | '-' :: high =>
    some (if low.isEmpty then 1 else Decimal.natOf low,
      if high.isEmpty then none else some (Decimal.natOf high))
  | _ => none

def chosen (parts : List (Nat × Option Nat)) (n : Nat) : Bool :=
  parts.any fun (low, high) => low ≤ n && (high.all fun h => n ≤ h)

def pick (parts : List (Nat × Option Nat)) (items : List α) : List α :=
  (items.zipIdx.filter fun (_, i) => chosen parts (i + 1)).map (·.1)

def cut (o : List (Char × String)) (ls : List (List Char)) : List (List Char) :=
  match o.find? fun p => ['f', 'c', 'b'].contains p.1 with
  | none => []
  | some (kind, list) =>
    let parts := (splitOnChar ',' [] list.toList).filterMap partOf?
    let delimiter := ((o.find? fun p => p.1 == 'd').bind (·.2.toList.head?)).getD '\t'
    if kind = 'f' then
      ls.filterMap fun l =>
        if l.contains delimiter then
          some (joinWith [delimiter] (pick parts (splitOnChar delimiter [] l)))
        else if has o 's' then none
        else some l
    else ls.map (pick parts)

/-- Numbers from the first to the last, `step` apart. -/
def count (step last : Int) : Nat → Int → List Int
  | 0, _ => []
  | fuel + 1, n =>
    if (0 < step ∧ n ≤ last) ∨ (step < 0 ∧ last ≤ n) then n :: count step last fuel (n + step) else []

def seqNumbers (first step last : Int) : List Int :=
  if step = 0 then [] else count step last ((last - first).natAbs / step.natAbs + 1) first

def seqOptions (separator : String) (equal : Bool) : List String → String × Bool × List String
  | "-s" :: s :: rest => seqOptions s equal rest
  | "-w" :: rest => seqOptions separator true rest
  | a :: rest =>
    match a.toList with
    | '-' :: 's' :: cs => seqOptions (String.ofList cs) equal rest
    | _ => (separator, equal, a :: rest)
  | [] => (separator, equal, [])

def seq (w : World) (args : List String) : World :=
  let (separator, equal, args) := seqOptions "\n" false args
  match args.mapM (Arithmetic.integer? true false) with
  | none | some [] => (w.report "seq: invalid argument").done 1
  | some (a :: rest) =>
    let numbers := match rest with
      | [] => seqNumbers 1 1 a
      | [b] => seqNumbers a 1 b
      | step :: last :: _ => seqNumbers a step last
    let texts := numbers.map toString
    let width := (texts.map (·.length)).foldl max 0
    let texts := if equal then texts.map fun s => Shortest.zeros (width - s.length) ++ s else texts
    (if texts.isEmpty then w else w.print (String.intercalate separator texts ++ "\n")).done 0

def dropSlashes (cs : List Char) : List Char :=
  match cs.reverse.dropWhile (· == '/') with
  | [] => if cs.isEmpty then [] else ['/']
  | rest => rest.reverse

def baseName (s : String) (ending : String) : String :=
  let cs := dropSlashes s.toList
  let name := if cs = ['/'] then cs else (cs.reverse.takeWhile (· ≠ '/')).reverse
  match dropLead? ending.toList.reverse name.reverse with
  | some [] | none => String.ofList name
  | some rest => String.ofList rest.reverse

def dirName (s : String) : String :=
  let cs := dropSlashes s.toList
  if !cs.contains '/' then "."
  else String.ofList (dropSlashes ((cs.reverse.dropWhile (· ≠ '/')).reverse))

def tee (w : World) (args : List String) : World :=
  let (o, files) := optionsOf "" args
  let (bytes, w) := w.readAll 0
  files.foldl (fun w a =>
    let before := if has o 'a' then (w.tree.readBytes ⟨a⟩).toOption.getD .empty else .empty
    match w.tree.writeBytes ⟨a⟩ (before ++ bytes) with
    | .ok tree => { w with tree }
    | .error e => (w.report ("tee: " ++ a ++ ": " ++ reason e)).done 1) ((w.write 1 bytes).done 0)

/-! ### Searching -/

def lowered (insensitive : Bool) (cs : List Char) : List Char :=
  if insensitive then cs.map Char.toLower else cs

/-- Whether one of the patterns is found in a line. -/
def matches_ (o : List (Char × String)) (patterns : List (List (List Expression))) (l : List Char) :
    Bool :=
  let l := lowered (has o 'i') l
  patterns.any fun p =>
    match Expression.search p l with
    | some (a, b) => !has o 'x' || (a.before.isEmpty && b.after.isEmpty)
    | none => false

/-- All parts of a line that a pattern matches. -/
def parts (p : List (List Expression)) : Nat → List Char → List (List Char)
  | 0, _ => []
  | fuel + 1, l =>
    match Expression.search p l with
    | some (a, b) =>
      let found := Expression.between a b
      if found.isEmpty then parts p fuel l.tail else found :: parts p fuel b.after
    | none => []

def grep (w : World) (args : List String) : World :=
  let (o, operands) := optionsOf "em" args
  let given := (o.filter (·.1 == 'e')).map (·.2)
  let (given, operands) := if given.isEmpty then (operands.take 1, operands.drop 1) else (given, operands)
  let texts := given.flatMap fun s => splitOnChar '\n' [] (lowered (has o 'i') s.toList)
  let read := fun (cs : List Char) =>
    if has o 'F' then some (Expression.fixed cs) else Expression.read? (has o 'E') cs
  match texts.mapM read with
  | none => (w.report "grep: Invalid regular expression").done 2
  | some patterns =>
    let (found, read) := inputs w operands (toldPlainly "grep")
    let failed := read.status ≠ 0
    let (hit, w) := found.foldl (fun (hit, w) (a, bytes) =>
      let ls := (linesOf (charsOf bytes)).zipIdx.filter fun (l, _) =>
        matches_ o patterns l != has o 'v'
      let ls := match (o.find? fun p => p.1 == 'm').bind (·.2.toNat?) with
        | some n => ls.take n
        | none => ls
      let named := (operands.length > 1 && !has o 'h') || has o 'H'
      let lead := if named then a ++ ":" else ""
      let hit := hit || !ls.isEmpty
      if has o 'q' then (hit, w)
      else if has o 'l' then (hit, if ls.isEmpty then w else w.print (a ++ "\n"))
      else if has o 'c' then (hit, w.print (lead ++ toString ls.length ++ "\n"))
      else
        (hit, ls.foldl (fun w (l, i) =>
          let lead := lead ++ (if has o 'n' then toString (i + 1) ++ ":" else "")
          let shown := if has o 'o' then patterns.flatMap fun p => parts p (l.length + 1) l else [l]
          shown.foldl (fun w cs => w.print (lead ++ String.ofList cs ++ "\n")) w) w)) (false, read)
    w.done (if failed ∧ !(hit ∧ has o 'q') then 2 else if hit then 0 else 1)

end Filter
end Script
end Stencil
