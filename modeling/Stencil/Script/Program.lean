import Stencil.Script.Condition
import Stencil.Script.Edit

/-! The programs that commands can run. -/
namespace Stencil
namespace Script

open Text

abbrev Program := World → List String → World

namespace Program

/-- A message of a program that has failed. -/
def failed (w : World) (message : String) : World := (w.report message).done 1

/-- Do something for each argument; the status is that of a failure if there was one. -/
def forEach (w : World) (args : List String) (f : World → String → Except String World) : World :=
  args.foldl (fun w a =>
    match f w a with
    | .ok w => w
    | .error message => failed w message) (w.done 0)

def withTree (w : World) (r : Except IoError FileTree) (told : String → String) :
    Except String World :=
  match r with
  | .ok tree => .ok { w with tree }
  | .error e => .error (told (reason e))

def numbered (n : Nat) : List (List Char) → List (List Char)
  | [] => []
  | l :: rest => ((Filter.padLeft 6 (toString n)).toList ++ '\t' :: l) :: numbered (n + 1) rest

def cat : Program := fun w args =>
  let (o, operands) := Filter.optionsOf "" args
  if Filter.has o 'n' then Filter.throughLines "cat" w operands (numbered 1)
  else
    (if operands.isEmpty then ["-"] else operands).foldl (fun w a =>
      match Filter.bytesAt w a with
      | (.ok bytes, w) => w.write 1 bytes
      | (.error e, w) => failed w (Filter.toldPlainly "cat" a (reason e))) (w.done 0)

def touch : Program := fun w args =>
  forEach w (Filter.optionsOf "" args).2 fun w a =>
    if w.tree.exists? ⟨a⟩ then .ok w
    else withTree w (w.tree.writeBytes ⟨a⟩ .empty) fun why =>
      "touch: cannot touch " ++ quotedName a ++ ": " ++ why

def makeDirectories : Program := fun w args =>
  let (o, operands) := Filter.optionsOf "m" args
  forEach w operands fun w a =>
    let told := fun why => "mkdir: cannot create directory " ++ quotedName a ++ ": " ++ why
    if Filter.has o 'p' then
      match w.tree.makeDirectories ⟨a⟩ with
      | (tree, .ok ()) => .ok { w with tree }
      | (_, .error e) => .error (told (reason e))
    else withTree w (w.tree.makeDirectory ⟨a⟩) told

def removeDirectories : Program := fun w args =>
  forEach w (Filter.optionsOf "" args).2 fun w a =>
    let told := fun why => "rmdir: failed to remove " ++ quotedName a ++ ": " ++ why
    match w.tree.locate ⟨a⟩ .kept with
    | .found loc .directory =>
      if (w.tree.children loc).isEmpty then .ok { w with tree := w.tree.erase loc }
      else .error (told "Directory not empty")
    | .found .. => .error (told "Not a directory")
    | .vacant .. => .error (told "No such file or directory")
    | .failed kind => .error (told (reason (.of kind)))

def removeFiles : Program := fun w args =>
  let (o, operands) := Filter.optionsOf "" args
  let told := fun a why => "rm: cannot remove " ++ quotedName a ++ ": " ++ why
  forEach w operands fun w a =>
    match w.tree.locate ⟨a⟩ .kept with
    | .found loc .directory =>
      if Filter.has o 'r' || Filter.has o 'R' then .ok { w with tree := w.tree.erase loc }
      else if Filter.has o 'd' && (w.tree.children loc).isEmpty then
        .ok { w with tree := w.tree.erase loc }
      else .error (told a "Is a directory")
    | .found loc _ => .ok { w with tree := w.tree.erase loc }
    | .vacant .. => if Filter.has o 'f' then .ok w else .error (told a "No such file or directory")
    | .failed kind =>
      if Filter.has o 'f' && (kind == .notFound || kind == .notADirectory) then .ok w
      else .error (told a (reason (.of kind)))

/-- A target that is a directory takes the file under its own name. -/
def targetOf (w : World) (source target : String) : Path :=
  if w.tree.isDirectory ⟨target⟩ then Path.join ⟨target⟩ (Filter.baseName source "") else ⟨target⟩

/-- The tree with everything below one location copied to another. -/
def copyTree (t : FileTree) (source target : Location) : FileTree :=
  t.entries.foldl (fun (t : FileTree) (loc, entry) =>
    if source.isPrefixOf loc then t.set (target ++ loc.drop source.length) entry else t) t

def copyOne (recursive : Bool) (w : World) (source target : String) : Except String World :=
  match w.tree.resolve ⟨source⟩ with
  | .found loc .directory =>
    if recursive then
      match w.tree.locate (targetOf w source target) .followed with
      | .vacant dir name => .ok { w with tree := copyTree w.tree loc (dir ++ [name]) }
      | .found there .directory => .ok { w with tree := copyTree w.tree loc there }
      | .found .. =>
        .error ("cp: cannot overwrite non-directory " ++ quotedName target ++ " with directory " ++
          quotedName source)
      | .failed kind =>
        .error ("cp: cannot create directory " ++ quotedName target ++ ": " ++ reason (.of kind))
    else .error ("cp: -r not specified; omitting directory " ++ quotedName source)
  | _ =>
    match w.tree.readBytes ⟨source⟩ with
    | .error e => .error ("cp: cannot stat " ++ quotedName source ++ ": " ++ reason e)
    | .ok bytes =>
      let p := targetOf w source target
      let same : Bool := match w.tree.canonicalize ⟨source⟩, w.tree.canonicalize p with
        | .ok a, .ok b => a == b
        | _, _ => false
      if same then
        .error ("cp: " ++ quotedName source ++ " and " ++ quotedName p.text ++ " are the same file")
      else withTree w (w.tree.writeBytes p bytes) fun why =>
        "cp: cannot create regular file " ++ quotedName p.text ++ ": " ++ why

def moveOne (w : World) (source target : String) : Except String World :=
  match w.tree.locate ⟨source⟩ .kept with
  | .found loc .directory =>
    match w.tree.locate (targetOf w source target) .kept with
    | .vacant dir name =>
      .ok { w with tree := (copyTree w.tree loc (dir ++ [name])).erase loc }
    | _ => .error ("mv: cannot move " ++ quotedName source ++ " to " ++ quotedName target)
  | .found .. =>
    withTree w (w.tree.rename ⟨source⟩ (targetOf w source target)) fun why =>
      "mv: cannot move " ++ quotedName source ++ " to " ++ quotedName target ++ ": " ++ why
  | .vacant .. => .error ("mv: cannot stat " ++ quotedName source ++ ": No such file or directory")
  | .failed kind => .error ("mv: cannot stat " ++ quotedName source ++ ": " ++ reason (.of kind))

/-- Do something for each of the sources and the target they have in common. -/
def ontoTarget (tool : String) (w : World) (operands : List String)
    (f : World → String → String → Except String World) : World :=
  match operands.reverse with
  | [] => failed w (tool ++ ": missing file operand")
  | [a] => failed w (tool ++ ": missing destination file operand after " ++ quotedName a)
  | [target, source] => forEach w [source] fun w a => f w a target
  | target :: sources =>
    if w.tree.isDirectory ⟨target⟩ then forEach w sources.reverse fun w a => f w a target
    else failed w (tool ++ ": target " ++ quotedName target ++ ": No such file or directory")

def copyFiles : Program := fun w args =>
  let (o, operands) := Filter.optionsOf "" args
  ontoTarget "cp" w operands
    (copyOne (Filter.has o 'r' || Filter.has o 'R' || Filter.has o 'a'))

def moveFiles : Program := fun w args =>
  ontoTarget "mv" w (Filter.optionsOf "" args).2 moveOne

def linkFile : Program := fun w args =>
  let (o, operands) := Filter.optionsOf "" args
  let operands := match operands with
    | [target] => [target, Filter.baseName target ""]
    | operands => operands
  ontoTarget "ln" w operands fun w target name =>
    let p := targetOf w target name
    let tree := if Filter.has o 'f' then (w.tree.removeFile p).toOption.getD w.tree else w.tree
    if Filter.has o 's' then
      withTree { w with tree } (tree.makeLink p target) fun why =>
        "ln: failed to create symbolic link " ++ quotedName p.text ++ ": " ++ why
    else
      match tree.readBytes ⟨target⟩ with
      | .ok bytes => withTree { w with tree } (tree.writeBytes p bytes) fun why =>
        "ln: failed to create hard link " ++ quotedName p.text ++ ": " ++ why
      | .error e => .error ("ln: failed to access " ++ quotedName target ++ ": " ++ reason e)

def namesOf (o : List (Char × String)) (w : World) (loc : Location) : List String :=
  let names := w.tree.children loc
  let shown := names.filter fun n =>
    Filter.has o 'a' || Filter.has o 'A' || !n.startsWith "."
  let shown := if Filter.has o 'a' then "." :: ".." :: shown else shown
  if Filter.has o 'r' then shown.reverse else shown

def ls : Program := fun w args =>
  let (o, operands) := Filter.optionsOf "" args
  let operands := if operands.isEmpty then ["."] else operands.mergeSort fun a b => a ≤ b
  let several := operands.length > 1
  let (files, directories, w) := operands.foldl
    (fun (files, directories, w) a =>
      match w.tree.resolve ⟨a⟩ with
      | .found loc .directory =>
        if Filter.has o 'd' then (files ++ [a], directories, w)
        else (files, directories ++ [(a, loc)], w)
      | .found .. => (files ++ [a], directories, w)
      | _ =>
        (files, directories, (w.report ("ls: cannot access " ++ quotedName a ++
          ": No such file or directory")).done 2))
    (([], [], w.done 0) : List String × List (String × Location) × World)
  let w := w.print (String.join (files.map (· ++ "\n")))
  let (_, w) := directories.foldl (fun (first, w) (a, loc) =>
    let lead := if several then (if first then "" else "\n") ++ a ++ ":\n" else ""
    (false, w.print (lead ++ String.join ((namesOf o w loc).map (· ++ "\n"))))) (files.isEmpty, w)
  w

/-- Whether a mode lets files be executed. -/
def executes? (mode : String) : Option Bool :=
  match mode.toList with
  | [] => none
  | cs =>
    if cs.all asciiDigit then some (cs.any fun c => digitValue c % 2 == 1)
    else
      match cutAt '+' cs, cutAt '-' cs with
      | some (_, what), _ => if what.contains 'x' then some true else none
      | none, some (_, what) => if what.contains 'x' then some false else none
      | none, none => (cutAt '=' cs).map fun (_, what) => what.contains 'x'

def changeMode : Program := fun w args =>
  match args with
  | mode :: files =>
    forEach w files fun w a =>
      match w.tree.canonicalize ⟨a⟩ with
      | .error e => .error ("chmod: cannot access " ++ quotedName a ++ ": " ++ reason e)
      | .ok loc =>
        let others := w.executables.filter (· ≠ loc)
        match executes? mode with
        | some true => .ok { w with executables := loc :: others }
        | some false => .ok { w with executables := others }
        | none => .ok w
  | [] => failed w "chmod: missing operand"

def readLink : Program := fun w args =>
  let (o, operands) := Filter.optionsOf "" args
  operands.foldl (fun w a =>
    if Filter.has o 'f' then
      match w.tree.resolve ⟨a⟩ with
      | .found loc _ => w.print ("/" ++ Path.ofNames loc ++ "\n")
      | .vacant dir name => w.print ("/" ++ Path.ofNames (dir ++ [name]) ++ "\n")
      | .failed _ => w.done 1
    else
      match w.tree.locate ⟨a⟩ .kept with
      | .found _ (.link target) => w.print (target ++ "\n")
      | _ => w.done 1) (w.done 0)

def printWorkDir : Program := fun w _ =>
  (w.print ("/" ++ Path.ofNames w.tree.workDir ++ "\n")).done 0

/-! ### Expressions of words -/

/-- A value: a text, or a number if the text is one. -/
def numberOf? (s : String) : Option Int :=
  match s.toList with
  | '-' :: c :: cs =>
    if (c :: cs).all asciiDigit then some (-(Decimal.natOf (c :: cs) : Int)) else none
  | cs => if !cs.isEmpty && cs.all asciiDigit then some (Decimal.natOf cs : Int) else none

def isNull (s : String) : Bool := s = "" || numberOf? s = some 0

def compareValues (a b : String) : Ordering :=
  match numberOf? a, numberOf? b with
  | some x, some y => compare x y
  | _, _ => if a < b then .lt else if a = b then .eq else .gt

def matched (s pattern : String) : Option String :=
  (Expression.read? false pattern.toList).map fun e =>
    let hasGroup := e.any (·.any fun
      | .group .. => true
      | _ => false)
    let found := e.flatMap fun b =>
      Expression.sequenceEnds (20 * s.length + 200) b ⟨[], s.toList, []⟩
    match found.head? with
    | some p =>
      if hasGroup then String.ofList ((p.groups.lookup 1).getD []) else toString p.before.length
    | none => if hasGroup then "" else "0"

def calculated (op a b : String) : Except String String :=
  let truth := fun (t : Bool) => Except.ok (if t then "1" else "0")
  let number := fun (f : Int → Int → Except String Int) =>
    match numberOf? a, numberOf? b with
    | some x, some y => (f x y).map toString
    | _, _ => .error "expr: non-integer argument"
  match op with
  | "|" => .ok (if isNull a then (if isNull b then "0" else b) else a)
  | "&" => .ok (if isNull a || isNull b then "0" else a)
  | "<" => truth (compareValues a b == .lt)
  | "<=" => truth (compareValues a b != .gt)
  | "=" | "==" => truth (compareValues a b == .eq)
  | "!=" => truth (compareValues a b != .eq)
  | ">=" => truth (compareValues a b != .lt)
  | ">" => truth (compareValues a b == .gt)
  | "+" => number fun x y => .ok (x + y)
  | "-" => number fun x y => .ok (x - y)
  | "*" => number fun x y => .ok (x * y)
  | "/" => number fun x y => if y = 0 then .error "expr: division by zero" else .ok (x.tdiv y)
  | "%" => number fun x y => if y = 0 then .error "expr: division by zero" else .ok (x.tmod y)
  | ":" =>
    match matched a b with
    | some s => .ok s
    | none => .error "expr: Invalid regular expression"
  | _ => .error "expr: syntax error"

/-- The operators between words, those that bind least first. -/
def exprLevels : List (List String) :=
  [["|"], ["&"], ["<", "<=", "=", "==", "!=", ">=", ">"], ["+", "-"], ["*", "/", "%"], [":"]]

mutual

def exprAt : Nat → List (List String) → List String → Except String (String × List String)
  | 0, _, _ => .error "expr: syntax error"
  | fuel + 1, [], ws =>
    match ws with
    | "(" :: rest => do
      let (v, rest) ← exprAt fuel exprLevels rest
      match rest with
      | ")" :: rest => return (v, rest)
      | _ => .error "expr: syntax error: expecting ')'"
    | "length" :: s :: rest => .ok (toString s.utf8ByteSize, rest)
    | "match" :: s :: p :: rest => (calculated ":" s p).map (·, rest)
    | "substr" :: s :: p :: n :: rest =>
      match numberOf? p, numberOf? n with
      | some p, some n =>
        .ok (if p ≤ 0 ∨ n ≤ 0 then "" else String.ofList ((s.toList.drop (p.toNat - 1)).take n.toNat),
          rest)
      | _, _ => .ok ("", rest)
    | "index" :: s :: cs :: rest =>
      .ok (toString ((s.toList.findIdx? fun c => cs.toList.contains c).map (· + 1) |>.getD 0), rest)
    | "+" :: s :: rest => .ok (s, rest)
    | s :: rest => .ok (s, rest)
    | [] => .error "expr: syntax error: missing argument"
  | fuel + 1, level :: tighter, ws => do
    let (v, rest) ← exprAt fuel tighter ws
    exprChain fuel level tighter v rest

def exprChain : Nat → List String → List (List String) → String → List String →
    Except String (String × List String)
  | 0, _, _, _, _ => .error "expr: syntax error"
  | fuel + 1, level, tighter, v, ws =>
    match ws with
    | op :: rest =>
      if level.contains op then do
        let (u, rest) ← exprAt fuel tighter rest
        exprChain fuel level tighter (← calculated op v u) rest
      else .ok (v, ws)
    | [] => .ok (v, [])

end

def expr : Program := fun w args =>
  if args.isEmpty then (w.report "expr: missing operand").done 2
  else
    match exprAt (10 * args.length + 20) exprLevels args with
    | .error message => (w.report message).done 2
    | .ok (v, []) => (w.print (v ++ "\n")).done (if isNull v then 1 else 0)
    | .ok (_, a :: _) =>
      (w.report ("expr: syntax error: unexpected argument " ++ quotedName a)).done 2

def printEnvironment : Program := fun w args =>
  match args with
  | [] => (w.print (String.join (w.environment.map fun (n, v) => n ++ "=" ++ v ++ "\n"))).done 0
  | names =>
    names.foldl (fun w n =>
      match w.environment.lookup n with
      | some v => w.print (v ++ "\n")
      | none => w.done 1) (w.done 0)

/-- Print words as they are. -/
def plainEcho : Program := fun w args =>
  let (newline, args) := match args with
    | "-n" :: rest => (false, rest)
    | args => (true, args)
  (w.print (String.intercalate " " args ++ (if newline then "\n" else ""))).done 0

def lines (tool : String) (f : List (Char × String) → List (List Char) → List (List Char))
    (taking : String) : Program := fun w args =>
  let (o, operands) := Filter.optionsOf taking args
  Filter.throughLines tool w operands (f o)

/-- The programs that are files of their own, by name. -/
def find? (name : String) : Option Program :=
  match name with
  | "basename" => some fun w args =>
    match args with
    | [] => failed w "basename: missing operand"
    | s :: rest => (w.print (Filter.baseName s (rest.headD "") ++ "\n")).done 0
  | "cat" => some cat
  | "chmod" => some changeMode
  | "cp" => some copyFiles
  | "cut" => some (lines "cut" Filter.cut "dfcb")
  | "dirname" => some fun w args =>
    (w.print (String.join (args.map fun s => Filter.dirName s ++ "\n"))).done 0
  | "echo" => some plainEcho
  | "expr" => some expr
  | "false" => some fun w _ => w.done 1
  | "grep" => some Filter.grep
  | "egrep" => some fun w args => Filter.grep w ("-E" :: args)
  | "fgrep" => some fun w args => Filter.grep w ("-F" :: args)
  | "head" => some (Filter.eachPart "head" Filter.headOf)
  | "ln" => some linkFile
  | "ls" => some ls
  | "mkdir" => some makeDirectories
  | "mv" => some moveFiles
  | "nl" => some (lines "nl" (fun _ => numbered 1) "")
  | "printenv" => some printEnvironment
  | "pwd" => some printWorkDir
  | "readlink" => some readLink
  | "realpath" => some fun w args => readLink w ("-f" :: args)
  | "rev" => some (lines "rev" (fun _ ls => ls.map List.reverse) "")
  | "rm" => some removeFiles
  | "rmdir" => some removeDirectories
  | "sed" => some Edit.sed
  | "seq" => some Filter.seq
  | "sleep" | "sync" => some fun w _ => w.done 0
  | "sort" => some (lines "sort" Filter.sorted "kt")
  | "tac" => some (lines "tac" (fun _ ls => ls.reverse) "")
  | "tail" => some (Filter.eachPart "tail" Filter.tailOf)
  | "tee" => some Filter.tee
  | "touch" => some touch
  | "tr" => some Filter.tr
  | "true" => some fun w _ => w.done 0
  | "uniq" => some (lines "uniq" Filter.uniq "")
  | "wc" => some Filter.wc
  | "yes" => some fun w args =>
    let line := (if args.isEmpty then "y" else String.intercalate " " args) ++ "\n"
    (w.print (String.join (List.replicate 2000 line))).done 0
  | _ => none

end Program
end Script
end Stencil
