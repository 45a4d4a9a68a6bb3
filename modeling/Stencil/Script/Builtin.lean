import Stencil.Script.Field
import Stencil.Script.Program
import Stencil.Script.Reader

/-! The commands that a shell carries out itself. -/
namespace Stencil
namespace Script
namespace Builtin

open Text

/-- A number that is not negative. -/
def natural? (s : String) : Option Nat :=
  match Arithmetic.integer? true false s with
  | some n => if 0 ≤ n ∧ n ≤ 2147483647 then some n.toNat else none
  | none => none

def illegal (w : World) (s : String) : World := w.abort ("Illegal number: " ++ s)

/-- The status is that of the last command if none is given. -/
def exit : Program := fun w args =>
  match args with
  | [] => w.exit w.status
  | a :: _ =>
    match natural? a with
    | some n => w.exit (n % 256)
    | none => illegal w a

def comeBack : Program := fun w args =>
  match args with
  | [] => { w with flow := .returning }
  | a :: _ =>
    match natural? a with
    | some n => { w with status := n, flow := .returning }
    | none => illegal w a

def leaveLoops (flow : Nat → Flow) : Program := fun w args =>
  match args with
  | [] => if w.loops = 0 then w.done 0 else { w.done 0 with flow := flow 1 }
  | a :: _ =>
    match natural? a with
    | some 0 | none => illegal w a
    | some n => if w.loops = 0 then w.done 0 else { w.done 0 with flow := flow (min n w.loops) }

def shift : Program := fun w args =>
  match args.head?.map natural? with
  | some none => illegal w (args.headD "")
  | n =>
    let n := (n.getD (some 1)).getD 1
    if w.arguments.length < n then w.abort "can't shift that many"
    else { w with arguments := w.arguments.drop n }.done 0

/-- A name with the value it is given, if it is given one. -/
def definition (a : String) : String × Option String :=
  match cutAt '=' a.toList with
  | some (name, value) => (String.ofList name, some (String.ofList value))
  | none => (a, none)

/-- Change what is known of names, some of which are given values. -/
def declare (change : Binding → Binding) : Program := fun w args =>
  args.foldl (fun w a =>
    if w.stopped then w
    else
      let (name, value) := definition a
      if !isName name.toList then w.abort (name ++ ": bad variable name")
      else
        let w := match value with
          | some v => w.assign name v
          | none => w
        if w.stopped then w
        else w.bind name (change ((w.bindings.get? name).getD ⟨none, false, false⟩))) (w.done 0)

def quotedFrom : Nat → List Char → List Char
  | 0, _ => []
  | fuel + 1, cs =>
    let plain := cs.takeWhile (· ≠ '\'')
    let rest := cs.drop plain.length
    let marks := rest.takeWhile (· == '\'')
    let lead := '\'' :: plain ++ ['\'']
    if marks.isEmpty then lead
    else
      let lead := lead ++ '"' :: marks ++ ['"']
      let rest := rest.drop marks.length
      if rest.isEmpty then lead else lead ++ quotedFrom fuel rest

/-- A text in single quotes; those in it are in double ones. -/
def quoted (s : String) : String := String.ofList (quotedFrom (s.length + 1) s.toList)

def listing (w : World) (lead : String) (shown : Binding → Bool) : World :=
  (w.print (String.join (w.bindings.entries.filterMap fun (name, b) =>
    if shown b then some (lead ++ name ++
      (match b.value with
      | some v => "=" ++ quoted v
      | none => "") ++ "\n")
    else none))).done 0

def exports : Program := fun w args =>
  match args with
  | [] | ["-p"] => listing w "export " (·.exported)
  | args => declare (fun b => { b with exported := true }) w args

def fix : Program := fun w args =>
  match args with
  | [] | ["-p"] => listing w "readonly " (·.fixed)
  | args => declare (fun b => { b with fixed := true }) w args

def unset : Program := fun w args =>
  let (functions, args) := match args with
    | "-f" :: rest => (true, rest)
    | "-v" :: rest => (false, rest)
    | args => (false, args)
  args.foldl (fun w a =>
    if w.stopped then w
    else if functions then { w with functions := w.functions.keep fun n => n ≠ a }
    else if ((w.bindings.get? a).map (·.fixed)).getD false then w.abort (a ++ ": is read only")
    else w.forget a) (w.done 0)

/-- Names of a function's own. -/
def own : Program := fun w args =>
  match w.frames with
  | [] => w.abort "not in a function"
  | frame :: frames =>
    args.foldl (fun w a =>
      let (name, value) := definition a
      let old := w.bindings.get? name
      let w := match w.frames with
        | frame :: frames =>
          if frame.any (·.1 == name) then w
          else { w with frames := ((name, old) :: frame) :: frames }
        | [] => w
      match value with
      | some v => w.assign name v
      | none => w) { w.done 0 with frames := frame :: frames }

/-! ### Options -/

def optionNames : List (String × Char) :=
  [("errexit", 'e'), ("noglob", 'f'), ("ignoreeof", 'I'), ("interactive", 'i'), ("monitor", 'm'),
    ("noexec", 'n'), ("stdin", 's'), ("xtrace", 'x'), ("verbose", 'v'), ("vi", 'V'), ("emacs", 'E'),
    ("noclobber", 'C'), ("allexport", 'a'), ("notify", 'b'), ("nounset", 'u'), ("privileged", 'p'),
    ("nolog", '\x01'),
    ("debug", '\x02')]

def setOption (w : World) (on : Bool) (c : Char) : World :=
  let others := w.options.filter (· ≠ c)
  { w with options := if on then others ++ [c] else others }

def setOptions : Nat → World → List String → World
  | 0, w, _ => w
  | _ + 1, w, [] => w
  | fuel + 1, w, a :: rest =>
    match a.toList with
    | ['-', '-'] => { w with arguments := rest }
    | ['-'] => if rest.isEmpty then w else { w with arguments := rest }
    | ['-', 'o'] | ['+', 'o'] =>
      match rest with
      | name :: rest =>
        match optionNames.lookup name with
        | some c => setOptions fuel (setOption w (a == "-o") c) rest
        | none => w.abort ("Illegal option " ++ a ++ " " ++ name)
      | [] =>
        w.print ("Current option settings\n" ++ String.join (optionNames.map fun (n, c) =>
          n ++ String.ofList (List.replicate (16 - n.length) ' ') ++
            (if w.hasOption c then "on" else "off") ++ "\n"))
    | sign :: c :: cs =>
      if sign = '-' ∨ sign = '+' then
        match (c :: cs).find? fun c => c != 'o' && !(optionNames.any (·.2 == c)) with
        | some bad =>
          w.abort ("Illegal option " ++ String.ofList [sign, bad])
        | none =>
          let w := ((c :: cs).filter (· != 'o')).foldl (fun w c => setOption w (sign == '-') c) w
          if cs.contains 'o' ∨ c = 'o' then
            setOptions fuel w (String.ofList [sign, 'o'] :: rest)
          else setOptions fuel w rest
      else { w with arguments := a :: rest }
    | _ => { w with arguments := a :: rest }

def set : Program := fun w args =>
  match args with
  | [] => listing w "" (·.value.isSome)
  | args =>
    let w := setOptions (2 * args.length + 1) w args
    if w.stopped then w else w.done 0

/-! ### Directories -/

def changeDirectory : Program := fun w args =>
  let args := args.filter fun a => a ≠ "-P" && a ≠ "-L" && a ≠ "--"
  let (target, shown) := match args with
    | "-" :: _ => ((w.lookup "OLDPWD").getD "", true)
    | a :: _ => (a, false)
    | [] => ((w.lookup "HOME").getD "", false)
  if target = "" then w.done 0
  else
    match w.tree.resolve ⟨target⟩ with
    | .found loc .directory =>
      let old := "/" ++ Path.ofNames w.tree.workDir
      let new := "/" ++ Path.ofNames loc
      let w := { w with tree := { w.tree with workDir := loc } }
      let w := (w.assign "OLDPWD" old).assign "PWD" new
      if shown then (w.print (new ++ "\n")).done 0 else w.done 0
    | _ => w.fail 2 ("can't cd to " ++ target)

/-! ### Reading -/

/-- One line of bytes: the characters, whether each is literal, what is left and whether the line
has an end. -/
def readLine (raw : Bool) : Nat → List UInt8 → List (UInt8 × Bool) × List UInt8 × Bool
  | 0, bytes => ([], bytes, false)
  | _ + 1, [] => ([], [], false)
  | fuel + 1, b :: rest =>
    if b = 10 then ([], rest, true)
    else if b = 92 ∧ !raw then
      match rest with
      | 10 :: rest => readLine raw fuel rest
      | c :: rest =>
        let (more, left) := readLine raw fuel rest
        ((c, true) :: more, left)
      | [] => ([], [], false)
    else
      let (more, left) := readLine raw fuel rest
      ((b, false) :: more, left)

/-- The marks of bytes, those of a stretch that is all literal or all not together. -/
def marksOf : List (UInt8 × Bool) → List Mark
  | [] => []
  | bytes =>
    let literals := bytes.map (·.2)
    let cs := (lossy (bytes.map (·.1))).toList
    if literals.all (!·) then cs.map fun c => ⟨c, false⟩
    else if cs.length = bytes.length then (cs.zip literals).map fun (c, l) => ⟨c, l⟩
    else cs.map fun c => ⟨c, false⟩

def read : Program := fun w args =>
  let (o, names) := Filter.optionsOf "p" args
  if names.isEmpty then w.fail 2 "arg count"
  else
    let (bytes, w) := w.readAll 0
    let bytes := bytes.toList
    let (line, left, ended) := readLine (Filter.has o 'r') (bytes.length + 1) bytes
    let w := w.unread 0 left.length
    let values := assignedFields w.separators names.length (marksOf line)
    let w := (names.zip values).foldl (fun w (name, value) =>
      if w.stopped then w else w.assign name value) w
    if w.stopped then w else w.done (if ended then 0 else 1)

/-! ### Signals -/

def signalNames : List (String × Nat) :=
  [("EXIT", 0), ("HUP", 1), ("INT", 2), ("QUIT", 3), ("ILL", 4), ("TRAP", 5), ("ABRT", 6), ("BUS", 7),
    ("FPE", 8), ("KILL", 9), ("USR1", 10), ("SEGV", 11), ("USR2", 12), ("PIPE", 13), ("ALRM", 14),
    ("TERM", 15), ("STKFLT", 16), ("CHLD", 17), ("CONT", 18), ("STOP", 19), ("TSTP", 20), ("TTIN", 21),
    ("TTOU", 22), ("URG", 23), ("XCPU", 24), ("XFSZ", 25), ("VTALRM", 26), ("PROF", 27),
    ("WINCH", 28), ("POLL", 29), ("PWR", 30), ("SYS", 31)]

def signal? (s : String) : Option (String × Nat) :=
  match s.toNat? with
  | some n => signalNames.find? (·.2 == n)
  | none => signalNames.find? (·.1 == s.map Char.toUpper)

def trap : Program := fun w args =>
  let args := if args.head? = some "--" then args.tail else args
  match args with
  | [] =>
    (w.print (String.join (signalNames.filterMap fun (name, _) =>
      (w.traps.get? name).map fun action =>
        "trap -- " ++ quoted action ++ " " ++ name ++ "\n"))).done 0
  | [s] =>
    match signal? s with
    | some (name, _) => { w with traps := w.traps.keep fun n => n ≠ name }.done 0
    | none => (w.report ("trap: " ++ s ++ ": bad trap")).done 1
  | action :: signals =>
    signals.foldl (fun w s =>
      match signal? s with
      | some (name, _) =>
        if action = "-" then { w with traps := w.traps.keep fun n => n ≠ name }
        else { w with traps := w.traps.insert name action }
      | none => (w.report ("trap: " ++ s ++ ": bad trap")).done 1) (w.done 0)

/-- A signal that comes to the shell itself. -/
def receive (w : World) (name : String) (number : Nat) : World :=
  if number = 0 then w.done 0
  else
    match w.traps.get? name with
    | some action =>
      if number = 9 then { w with flow := .killed 9 }
      else if action = "" then w.done 0
      else { w.done 0 with pending := w.pending ++ [action] }
    | none =>
      if [17, 18, 23, 28].contains number then w.done 0 else { w with flow := .killed number }

def killUsage : String :=
  "Usage: kill [-s sigspec | -signum | -sigspec] [pid | job]... or\nkill -l [exitstatus]"

/-- The names of signals, or the one for a status. -/
def listSignals (w : World) (args : List String) : World :=
  match args.head?.bind String.toNat? with
  | some n =>
    match signalNames.find? fun s => s.2 == n % 128 with
    | some (name, _) => (w.print (name ++ "\n")).done 0
    | none => w.fail 2 ("invalid signal number or exit status: " ++ args.headD "")
  | none =>
    (w.print ("0\n" ++ String.join (signalNames.tail.map fun s => s.1 ++ "\n"))).done 0

def kill : Program := fun w args =>
  if args.isEmpty then w.fail 2 killUsage
  else if args.head? = some "-l" then listSignals w args.tail
  else
  let (signal, args) : Option (String × Nat) × List String := match args with
    | "-s" :: s :: rest => (signal? s, rest)
    | a :: rest =>
      match a.toList with
      | '-' :: cs => (signal? (String.ofList cs), rest)
      | _ => (some ("TERM", 15), a :: rest)
    | [] => (some ("TERM", 15), [])
  match signal with
  | none => w.fail 2 ("invalid signal number or name: " ++ args.headD "")
  | some (name, number) =>
    args.foldl (fun w a =>
      if a = processId then receive w name number else w.fail 1 "No such process\n") (w.done 0)

/-! ### Options of commands -/

/-- The next option among arguments. -/
def nextOption : Program := fun w args =>
  match args with
  | letters :: name :: rest =>
    let given := if rest.isEmpty then w.arguments else rest
    let index := ((w.lookup "OPTIND").bind natural?).getD 1
    let place := if index = 0 then 0 else w.optionPlace
    let index := max index 1
    let finish := fun (w : World) (index : Nat) =>
      ({ (w.assign "OPTIND" (toString index)).assign name "?" with optionPlace := 0 }).done 1
    let silent := letters.startsWith ":"
    match given[index - 1]? with
    | none => finish w index
    | some a =>
      if a = "--" ∧ place = 0 then finish w (index + 1)
      else if (a = "-" ∨ !a.startsWith "-") ∧ place = 0 then finish w index
      else
        let place := max place 1
        let cs := a.toList.drop place
        let c := cs.headD '?'
        let atEnd := cs.length ≤ 1
        let step := fun (w : World) =>
          if atEnd then { w.assign "OPTIND" (toString (index + 1)) with optionPlace := 0 }
          else { w.assign "OPTIND" (toString index) with optionPlace := place + 1 }
        match cutAt c letters.toList with
        | some (_, after) =>
          if c = ':' then ((step w).assign name "?").done 0
          else if after.head? = some ':' then
            if !atEnd then
              let w := w.assign "OPTARG" (String.ofList cs.tail)
              ({ w.assign "OPTIND" (toString (index + 1)) with optionPlace := 0 }.assign name
                (String.singleton c)).done 0
            else
              match given[index]? with
              | some value =>
                let w := w.assign "OPTARG" value
                ({ w.assign "OPTIND" (toString (index + 2)) with optionPlace := 0 }.assign name
                  (String.singleton c)).done 0
              | none =>
                let w := step w
                if silent then
                  ((w.assign "OPTARG" (String.singleton c)).assign name ":").done 0
                else
                  ((w.report ("No arg for -" ++ String.singleton c ++ " option")).assign name
                    "?").done 0
          else ((step (w.forget "OPTARG")).assign name (String.singleton c)).done 0
        | none =>
          let w := step w
          if silent then ((w.assign "OPTARG" (String.singleton c)).assign name "?").done 0
          else
            (((w.report ("Illegal option -" ++ String.singleton c)).forget "OPTARG").assign name
              "?").done 0
  | _ => w.fail 2 "Usage: getopts optstring var [arg]"

/-! ### Printing and conditions -/

/-- Print under a format. What is printed waits until all of it is known. -/
def printf : Program := fun w args =>
  let print := fun (args : List String) =>
    match args with
    | [] => w.fail 2 "usage: printf format [arg ...]"
    | f :: rest =>
      let p := Format.printf f rest
      ((p.messages.foldl World.complain w).write 1 p.bytes).done p.status
  match args.head?.map String.toList with
  | some ['-', '-'] => print args.tail
  | some ('-' :: c :: _) => w.fail 2 ("Illegal option -" ++ String.singleton c)
  | _ => print args

def test : Program := fun w args =>
  match Condition.holds w args with
  | .ok b => w.done (if b then 0 else 1)
  | .error message => w.fail 2 message

def testInBrackets : Program := fun w args =>
  if args.getLast?.any (·.startsWith "]") then test w args.dropLast else w.fail 2 "missing ]"

/-- Commands that end the shell if they fail, apart from those that run others. -/
def findSpecial? (name : String) : Option Program :=
  match name with
  | ":" => some fun w _ => w.done 0
  | "break" => some (leaveLoops .breaking)
  | "continue" => some (leaveLoops .continuing)
  | "exit" => some exit
  | "export" => some exports
  | "readonly" => some fix
  | "return" => some comeBack
  | "set" => some set
  | "shift" => some shift
  | "times" => some fun w _ => (w.print "0m0.000000s 0m0.000000s\n0m0.000000s 0m0.000000s\n").done 0
  | "trap" => some trap
  | "unset" => some unset
  | "local" => some own
  | _ => none

def find? (name : String) : Option Program :=
  match name with
  | "cd" | "chdir" => some changeDirectory
  | "echo" => some fun w args => (w.write 1 (Format.echo args)).done 0
  | "false" => some fun w _ => w.done 1
  | "getopts" => some nextOption
  | "kill" => some kill
  | "printf" => some printf
  | "pwd" => some Program.printWorkDir
  | "read" => some read
  | "test" => some test
  | "[" => some testInBrackets
  | "true" => some fun w _ => w.done 0
  | "umask" => some fun w args => (if args.isEmpty then w.print "0022\n" else w).done 0
  | "wait" => some fun w args =>
    match args.getLast? with
    | some id => w.done ((w.jobs.lookup id).getD 127)
    | none => w.done 0
  | "alias" | "bg" | "fg" | "hash" | "jobs" | "ulimit" | "unalias" =>
    some fun w _ => w.done 0
  | _ => none

/-- Whether a shell carries a command out itself. -/
def isOwn (name : String) : Bool :=
  specialNames.contains name || (findSpecial? name).isSome || (find? name).isSome ||
    name = "command" || name = "type"
where
  specialNames : List String := Reading.specialCommands

/-- Where a program is, if there is one of this name. -/
def programPath? (w : World) (name : String) : Option String :=
  let dirs := match w.lookup "PATH" with
    | some path => (splitOnChar ':' [] path.toList).map String.ofList
    | none => ["/usr/bin"]
  let known := (Program.find? name).isSome || ["sh", "env", "xargs", "dash"].contains name
  (dirs.find? fun d => known && (d = "/bin" || d = "/usr/bin")).map fun d => d ++ "/" ++ name

/-- What a name is, as it is told. -/
def describe (w : World) (name : String) : Option String :=
  if keywords.contains name then some (name ++ " is a shell keyword")
  else if Reading.specialCommands.contains name then some (name ++ " is a special shell builtin")
  else if (w.functions.get? name).isSome then some (name ++ " is a shell function")
  else if isOwn name then some (name ++ " is a shell builtin")
  else (programPath? w name).map fun p => name ++ " is " ++ p

/-- What stands for a name when it is called, as it is told. -/
def calledAs (w : World) (name : String) : Option String :=
  if keywords.contains name || isOwn name || (w.functions.get? name).isSome then some name
  else programPath? w name

def tell (f : World → String → Option String) (missing : Bool) : Program := fun w names =>
  names.foldl (fun w name =>
    match f w name with
    | some s => w.print (s ++ "\n")
    | none => (if missing then w.print (name ++ ": not found\n") else w).done 127) (w.done 0)

end Builtin
end Script
end Stencil
