import Stencil.Script.Builtin

/-! Running commands. -/
namespace Stencil
namespace Script

open Text

/-- The number of a command that runs beside the shell. -/
def jobId (count : Nat) : String := toString (4243 + count)

/-- How many steps of running nest at most. -/
def maxNesting : Nat := 100000

namespace World

/-! ### Parameters -/

/-- The text between arguments that are joined. -/
def joint (w : World) : String := String.ofList (w.separators.take 1)

/-- The value of a parameter as one text. -/
def parameter? (w : World) (name : String) : Option String :=
  match name with
  | "?" => some (toString w.status)
  | "$" => some processId
  | "#" => some (toString w.arguments.length)
  | "-" => some (String.ofList ((Builtin.optionNames.reverse.map (·.2)).filter w.hasOption))
  | "0" => some w.name
  | "!" => w.jobs.head?.map (·.1)
  | "@" | "*" => if w.arguments.isEmpty then none else some (String.intercalate w.joint w.arguments)
  | name =>
    if name.toList.all asciiDigit then w.arguments[Decimal.natOf name.toList - 1]? else w.lookup name

/-- A parameter whose name is not that of a variable cannot be set. -/
def assignParameter (w : World) (name value : String) : World :=
  if isName name.toList then w.assign name value else w.abort (name ++ ": bad variable name")

/-! ### Opening files -/

/-- Why a file cannot be opened, where one that is missing is told of in its own way. -/
def reasonFor (missing : String) (e : IoError) : String :=
  match e.kind with
  | .notFound | .notADirectory => missing
  | _ => reason e

/-- The stream that a device name stands for. -/
def device? (target : String) : Option Nat :=
  match target with
  | "/dev/stdin" | "/dev/fd/0" => some 0
  | "/dev/stdout" | "/dev/fd/1" => some 1
  | "/dev/stderr" | "/dev/fd/2" => some 2
  | _ => none

def copyStream (w : World) (stream source : Nat) : Except String World :=
  match w.channelOf? source with
  | some i => .ok (w.connect stream i)
  | none => .error (toString source ++ ": Bad file descriptor")

def openToRead (w : World) (stream : Nat) (target : String) : Except String World :=
  match w.tree.resolve ⟨target⟩ with
  | .found loc (.file _) => .ok (w.onto stream (.file loc 0 false))
  | .found _ _ => .ok (w.onto stream .nowhere)
  | .vacant .. => .error ("cannot open " ++ target ++ ": No such file")
  | .failed kind => .error ("cannot open " ++ target ++ ": " ++ reasonFor "No such file" (.of kind))

def openToWrite (w : World) (stream : Nat) (target : String) (keep appends : Bool) :
    Except String World :=
  let told := fun (e : IoError) =>
    "cannot create " ++ target ++ ": " ++ reasonFor "Directory nonexistent" e
  let before := if keep then (w.tree.readBytes ⟨target⟩).toOption.getD .empty else .empty
  match w.tree.writeBytes ⟨target⟩ before with
  | .error e => .error (told e)
  | .ok tree =>
    match tree.canonicalize ⟨target⟩ with
    | .ok loc => .ok ({ w with tree }.onto stream (.file loc 0 appends))
    | .error e => .error (told e)

def openFile (w : World) (stream : Nat) (direction : Direction) (target : String) :
    Except String World :=
  if target = "/dev/null" then .ok (w.onto stream .nowhere)
  else
    match device? target with
    | some source => w.copyStream stream source
    | none =>
      match direction with
      | .read => w.openToRead stream target
      | .append => w.openToWrite stream target true true
      | .both => w.openToWrite stream target true false
      | .overwrite => w.openToWrite stream target false false
      | .write =>
        if w.hasOption 'C' && w.tree.isFile ⟨target⟩ then
          .error ("cannot create " ++ target ++ ": File exists")
        else w.openToWrite stream target false false

/-- Let a stream go where another does, or nowhere. -/
def openSame (w : World) (stream : Nat) (target : String) : Except String World :=
  match target.toList with
  | ['-'] => .ok (w.disconnect stream)
  | [d] =>
    if asciiDigit d then w.copyStream stream (digitValue d)
    else .ok (w.abort "Syntax error: Bad fd number")
  | _ => .ok (w.abort "Syntax error: Bad fd number")

/-! ### Shells within shells -/

/-- A shell of its own, which the traps are not about. -/
def inner (w : World) : World :=
  { w with traps := w.traps.keep fun n => w.traps.get? n == some "" }

/-- The names that every shell starts with, among those it is given. -/
def initialBindings (given : List (String × String)) : KeyMap Binding :=
  let own : KeyMap Binding := .ofList ((given.map fun (n, v) => (n, ⟨some v, true, false⟩)))
  (([("IFS", " \t\n"), ("OPTIND", "1"), ("PS1", "# "), ("PS2", "> "), ("PS4", "+ "),
    ("PPID", "4241")]).foldl
    (fun m (n, v) => m.insert n ⟨some v, false, false⟩) own)

/-- A shell that is started as a program. -/
def started (w : World) (name : String) (arguments : List String) (options : List Char) : World :=
  { w with
    bindings := initialBindings w.environment
    functions := .empty
    traps := .empty
    pending := []
    options
    name
    arguments
    speaker := none
    line := 1
    status := 0
    loops := 0
    frames := [] }

/-- How the end of a program by a signal is told. -/
def signalText (signal : Nat) : Option String :=
  match signal with
  | 1 => some "Hangup"
  | 3 => some "Quit"
  | 4 => some "Illegal instruction"
  | 6 => some "Aborted"
  | 7 => some "Bus error"
  | 8 => some "Floating point exception"
  | 9 => some "Killed"
  | 10 => some "User defined signal 1"
  | 11 => some "Segmentation fault"
  | 12 => some "User defined signal 2"
  | 14 => some "Alarm clock"
  | 15 => some "Terminated"
  | _ => none

/-- What a program that has ended leaves: a signal that ended it is a status. -/
def joinProgram (outer inner : World) : World :=
  let w := outer.leave inner
  match inner.flow with
  | .killed signal =>
    let w := { w with status := 128 + signal, flow := outer.flow }
    ((signalText signal).map w.report).getD w
  | _ => { w with status := w.status % 256 }

/-- The flow after a function or a file of commands. -/
def comeBack (w : World) : World :=
  match w.flow with
  | .returning => { w with flow := .onward }
  | _ => w

/-- The flow after a round of a loop, and whether another one follows. -/
def afterRound (w : World) : Bool × World :=
  match w.flow with
  | .onward => (true, w)
  | .breaking n => (false, { w with flow := if n ≤ 1 then .onward else .breaking (n - 1) })
  | .continuing n =>
    if n ≤ 1 then (true, { w with flow := .onward })
    else (false, { w with flow := .continuing (n - 1) })
  | _ => (false, w)

/-- With the option for it a failure that nothing asks about ends the shell. -/
def checked (w : World) (tested : Bool) : World :=
  if !tested && w.status != 0 && w.hasOption 'e' && !w.stopped then { w with flow := .leaving } else w

def trace (w : World) (words : List String) : World :=
  if w.hasOption 'x' && !words.isEmpty then
    w.report ((w.lookup "PS4").getD "+ " ++ String.intercalate " " words)
  else w

end World

/-- The lead of a word that stands for the home directory. -/
def homeLead (w : World) (word : Word) : List Atom × Word :=
  match word with
  | .text ['~'] false :: rest =>
    let alone := match rest with
      | [] => true
      | .text ['/'] false :: _ => true
      | _ => false
    match alone, w.lookup "HOME" with
    | true, some home => (Atom.literally home, rest)
    | _, _ => ([], word)
  | word => ([], word)

def dropFinalNewlines (cs : List Char) : List Char := (cs.reverse.dropWhile (· == '\n')).reverse

/-- The text that bytes are, without those that are zero. -/
def textOf (bytes : ByteArray) : String := lossy (bytes.toList.filter (· != 0))

/-- Whether words of a command that look like assignments are taken as such. -/
def takesAssignments (words : List Word) : Bool :=
  match words.head?.bind plain? with
  | some cs => ["export", "readonly", "local"].contains (String.ofList cs)
  | none => false

/-- The options of a shell that is started by its name: letters, and whether a command follows. -/
def shellOptions : List Char → Bool → List String → List Char × Bool × List String
  | letters, command, a :: rest =>
    match a.toList with
    | '-' :: c :: cs =>
      if a = "--" then (letters, command, rest)
      else
        shellOptions (letters ++ (c :: cs).filter (· != 'c')) (command || c == 'c' || cs.contains 'c')
          rest
    | _ => (letters, command, a :: rest)
  | letters, command, [] => (letters, command, [])

/-- Words that name values, before the others. -/
def leadingDefinitions : List String → List (String × String) × List String
  | a :: rest =>
    match cutAt '=' a.toList with
    | some (name, value) =>
      let (more, rest) := leadingDefinitions rest
      ((String.ofList name, String.ofList value) :: more, rest)
    | none => ([], a :: rest)
  | [] => ([], [])

/-- The words of a text for `xargs`. -/
def argumentsIn (w : World) : List String × World :=
  let (bytes, w) := w.readAll 0
  ((wordsOf [] (textOf bytes).toList).map String.ofList, w)

mutual

/-- The pieces that a part of a word is expanded to. With `loose` text is cut as values are. -/
def expandPart : Nat → (loose : Bool) → Part → World → List Atom × World
  | 0, _, _, w => ([], w)
  | fuel + 1, loose, p, w =>
    match p with
    | .text cs true => (if cs.isEmpty then [.mark] else cs.map fun c => .char c true, w)
    | .text cs false => (cs.map fun c => if loose then .loose c else .char c false, w)
    | .output body quoted =>
      let (text, w) := substitute fuel body w
      (Atom.ofValue quoted text, w)
    | .sum word quoted =>
      let (atoms, w) := expand fuel false word w
      let text := Atom.textOf atoms
      match Arithmetic.evaluate (fun name => (w.parameter? name).getD "") text.toList with
      | .ok (n, assigned) =>
        let w := assigned.foldl (fun w (name, n) => w.assign name (toString n)) w
        (Atom.ofValue quoted (toString n), w)
      | .error t => ([], if w.stopped then w else w.abort (t.message text))
    | .parameter name use quoted => expandParameter fuel name use quoted w

def expandParameter : Nat → String → Use → (quoted : Bool) → World → List Atom × World
  | 0, _, _, _, w => ([], w)
  | fuel + 1, name, use, quoted, w =>
    let value := w.parameter? name
    let isList := name = "@" || name = "*"
    let shown := if isList then
        if name = "*" && quoted then Atom.literally (String.intercalate w.joint w.arguments)
        else Atom.ofValues quoted (w.separators.take 1) w.arguments
      else Atom.ofValue quoted (value.getD "")
    let missing := fun (filled : Bool) => value.isNone || (filled && value == some "")
    let unknown := w.hasOption 'u' && value.isNone && !isList
    match use with
    | .plain => if unknown then ([], w.abort (name ++ ": parameter not set")) else (shown, w)
    | .length =>
      if unknown then ([], w.abort (name ++ ": parameter not set"))
      else
        (Atom.ofValue quoted (toString (value.getD "").utf8ByteSize), w)
    | .otherwise filled word => if missing filled then expand fuel (!quoted) word w else (shown, w)
    | .instead filled word => if missing filled then ([], w) else expand fuel (!quoted) word w
    | .assigned filled word =>
      if missing filled then
        let (atoms, w) := expand fuel (!quoted) word w
        let text := Atom.textOf atoms
        if w.stopped then ([], w) else (Atom.ofValue quoted text, w.assignParameter name text)
      else (shown, w)
    | .required filled word =>
      if missing filled then
        let (atoms, w) := expand fuel false word w
        let text := if word.isEmpty then
            "parameter not set" ++ (if filled then " or null" else "")
          else Atom.textOf atoms
        ([], if w.stopped then w else w.abort (name ++ ": " ++ text))
      else (shown, w)
    | .trimmed side longest word =>
      if unknown then ([], w.abort (name ++ ": parameter not set"))
      else if value.isNone then ([], w)
      else
        let (atoms, w) := expand fuel false word w
        let p := Pattern.read (Atom.marks atoms)
        if isList && (name = "@" || !quoted) then
          (Atom.ofValues quoted (w.separators.take 1)
            ((p.trimAll side longest (w.arguments.map String.toList)).map String.ofList), w)
        else (Atom.ofValue quoted (String.ofList (p.trim side longest (value.getD "").toList)), w)
    | .bad => ([], w.abort "Bad substitution")

/-- The pieces that a word is expanded to. -/
def expand : Nat → (loose : Bool) → Word → World → List Atom × World
  | 0, _, _, w => ([], w)
  | fuel + 1, loose, word, w =>
    let (lead, word) := homeLead w word
    word.foldl (fun (acc, w) p =>
      if w.stopped then (acc, w)
      else
        let (atoms, w) := expandPart fuel loose p w
        (acc ++ atoms, w)) (lead, w)

/-- The text that a word is expanded to as one. -/
def expandText : Nat → Word → World → String × World
  | 0, _, w => ("", w)
  | fuel + 1, word, w =>
    let (atoms, w) := expand fuel false word w
    (Atom.textOf atoms, w)

/-- What a command prints. -/
def substitute : Nat → Command → World → String × World
  | 0, _, w => ("", w)
  | fuel + 1, body, w =>
    let (i, opened) := w.addChannel (.collector .empty)
    let ended := finish fuel (run fuel false body (opened.inner.connect 1 i))
    let w := { w.leave ended with status := w.status, substituted := some ended.status }
    (String.ofList (dropFinalNewlines (textOf (w.collected i)).toList), w)

/-- The words that words are expanded to. -/
def expandAll : Nat → (assigning : Bool) → List Word → World → List String × World
  | 0, _, _, w => ([], w)
  | fuel + 1, assigning, words, w =>
    words.foldl (fun (acc, w) word =>
      if w.stopped then (acc, w)
      else if assigning && (Reading.assignment? word).isSome then
        let (text, w) := expandText fuel word w
        (acc ++ [text], w)
      else
        let (atoms, w) := expand fuel false word w
        let fields := fieldsOf w.separators atoms
        (acc ++ (if w.hasOption 'f' then fields.map Mark.textOf
          else fields.flatMap (Pattern.paths w.tree)), w)) ([], w)

/-- Open the streams of a command. A failure is answered with what has been opened before it. -/
def openAll : Nat → List Redirection → World → Except (String × World) World
  | 0, _, w => .ok w
  | fuel + 1, redirections, w =>
    redirections.foldl (fun (acc : Except (String × World) World) r =>
      match acc with
      | .error e => .error e
      | .ok w =>
        if w.stopped then .ok w
        else
          match r with
          | .file stream direction target =>
            let (text, w) := expandText fuel target w
            if w.stopped then .ok w
            else (w.openFile stream direction text).mapError (·, w)
          | .same stream target =>
            let (text, w) := expandText fuel target w
            if w.stopped then .ok w else (w.openSame stream text).mapError (·, w)
          | .document stream number =>
            let (text, w) := expandText fuel ((w.documents.lookup number).getD []) w
            .ok (if w.stopped then w else w.onto stream (.source (bytesOf text) 0))) (.ok w)

/-- Do something with streams redirected. The streams are as before in the end, unless `kept`. A
failure to open one ends the shell if `strict`. -/
def redirected : Nat → (kept strict : Bool) → List Redirection → World → (World → World) → World
  | 0, _, _, _, w, _ => w
  | fuel + 1, kept, strict, redirections, w, f =>
    let streams := redirections.map fun
      | .file stream .. => stream
      | .same stream _ => stream
      | .document stream _ => stream
    match openAll fuel redirections w with
    | .error (message, failed) =>
      let failed := (failed.restore w.streams streams).fail 2 message
      if strict then { failed with flow := .failing } else failed
    | .ok opened =>
      if opened.stopped then opened.restore w.streams streams
      else
        let ran := f opened
        if kept then ran else ran.restore w.streams streams

/-- The actions for signals that have come. -/
def attend : Nat → World → World
  | 0, w => w
  | fuel + 1, w =>
    match w.pending with
    | [] => w
    | action :: rest =>
      if w.stopped then w
      else
        let acted := runText fuel action.toList false { w with pending := rest, speaker := none }
        attend fuel (if acted.stopped then acted else { acted with status := w.status })

/-- The end of a shell: the action for it, if there is one. -/
def finish : Nat → World → World
  | 0, w => w
  | fuel + 1, w =>
    match w.flow, w.traps.get? "EXIT" with
    | .killed _, _ => w
    | _, some action =>
      let acted := runText fuel action.toList false
        { w with
          flow := .onward
          loops := 0
          speaker := none
          traps := w.traps.keep fun n => n ≠ "EXIT" }
      if acted.comeBack.flow = .onward then { acted with status := w.status, flow := .leaving } else acted
    | _, none => w

/-- Run the commands of a text, line after line. The status is zero if there are none. -/
def runText : Nat → List Char → (some_ : Bool) → World → World
  | 0, _, _, w => w
  | fuel + 1, source, some_, w =>
    runLines fuel { rest := source } some_ w

def runLines : Nat → Source → Bool → World → World
  | 0, _, _, w => w
  | fuel + 1, s, some_, w =>
    let s := { s with documents := w.documents, count := w.documentCount }
    match (Reading.line (fuelFor s.rest)).run s with
    | .error fault => { w with line := fault.line }.abort ("Syntax error: " ++ fault.message)
    | .ok (none, _) => if some_ then w else w.done 0
    | .ok (some c, s) =>
      let w := { w with documents := s.documents, documentCount := s.count }
      match c with
      | .nothing => runLines fuel s some_ w
      | c =>
        let w := run fuel false c w
        if w.stopped then w else runLines fuel s true w

/-- Run a shell as a program of its own. -/
def runShell : Nat → List String → World → World
  | 0, _, w => w
  | fuel + 1, args, w =>
    let (letters, command, args) := shellOptions [] false args
    if command then
      match args with
      | [] => (w.report "sh: 0: -c requires an argument").done 2
      | text :: rest =>
        w.joinProgram (finish fuel (runText fuel text.toList false
          (w.started (rest.headD "sh") rest.tail letters)))
    else
      match (if letters.contains 's' then [] else args) with
      | [] =>
        let (bytes, read) := w.readAll 0
        w.joinProgram (finish fuel (runText fuel (textOf bytes).toList false
          (read.started "sh" args letters)))
      | file :: rest =>
        match w.tree.readBytes ⟨file⟩ with
        | .ok bytes =>
          w.joinProgram (finish fuel (runText fuel (textOf bytes).toList false
            (w.started file rest letters)))
        | .error e =>
          (w.report ("sh: 0: cannot open " ++ file ++ ": " ++ World.reasonFor "No such file" e)).done 2

/-- Run a program that is not part of the shell. -/
def runProgram : Nat → String → List String → World → World
  | 0, _, _, w => w
  | fuel + 1, name, args, w =>
    let missing := fun (w : World) =>
      w.fail 127 (name ++ (if name = "" then ": Permission denied" else ": not found"))
    let base := if name.startsWith "/bin/" || name.startsWith "/usr/bin/" then Filter.baseName name ""
      else name
    if name.contains '/' && base = name then
      match w.tree.resolve ⟨name⟩ with
      | .found loc (.file _) =>
        if w.executables.contains loc then runShell fuel (name :: args) w
        else w.fail 126 (name ++ ": Permission denied")
      | .found .. => w.fail 126 (name ++ ": Permission denied")
      | .vacant .. => missing w
      | .failed kind =>
        if kind = .notFound || kind = .notADirectory then missing w
        else w.fail 127 (name ++ ": " ++ reason (.of kind))
    else if base = name && (Builtin.programPath? w name).isNone then missing w
    else
      match base with
      | "sh" | "dash" => runShell fuel args w
      | "env" =>
        let (fresh, args) := match args with
          | "-i" :: rest | "-" :: rest => (true, rest)
          | args => (false, args)
        let (given, args) := leadingDefinitions args
        let inner := if fresh then { w with bindings := .empty } else w
        let inner := given.foldl (fun w (n, v) => w.bind n ⟨some v, true, false⟩) inner
        match args with
        | [] => { Program.printEnvironment inner [] with bindings := w.bindings }
        | name :: args =>
          if (Builtin.programPath? w name).isSome || name.contains '/' then
            { runProgram fuel name args inner with bindings := w.bindings }
          else (w.report ("env: " ++ quotedName name ++ ": No such file or directory")).done 127
      | "xargs" =>
        let (words, w) := argumentsIn w
        match args with
        | [] => runProgram fuel "echo" words w
        | "-n" :: n :: name :: args =>
          let size := max 1 (Decimal.natOf n.toList)
          (List.range ((words.length + size - 1) / size)).foldl (fun w i =>
            runProgram fuel name (args ++ (words.drop (i * size)).take size) w) (w.done 0)
        | name :: args => runProgram fuel name (args ++ words) w
      | base =>
        match Program.find? base with
        | some program => program w args
        | none => missing w

/-- Call a function with arguments. -/
def call : Nat → Command → List String → World → World
  | 0, _, _, w => w
  | fuel + 1, body, args, w =>
    let ran := run fuel false body { w with arguments := args, loops := 0, frames := [] :: w.frames }
    let restored := (ran.frames.headD []).foldl (fun w (name, old) => w.reset name old) ran
    { restored.comeBack with arguments := w.arguments, loops := w.loops, frames := w.frames }

/-- Carry out a command. With `plain` it is no function. -/
def perform : Nat → (plain : Bool) → String → List String → World → World
  | 0, _, _, _, w => w
  | fuel + 1, plain, name, args, w =>
    let own := fun (f : World → World) =>
      let ran := f { w with speaker := some name }
      { ran with speaker := w.speaker }
    match name with
    | "eval" =>
      own fun w => runText fuel (String.intercalate " " args).toList false w
    | "." =>
      own fun w =>
        match args with
        | [] => w.done 0
        | file :: _ =>
          if !file.contains '/' then w.abort (file ++ ": not found")
          else
            match w.tree.readBytes ⟨file⟩ with
            | .error e =>
              w.abort ("cannot open " ++ file ++ ": " ++ World.reasonFor "No such file" e)
            | .ok bytes =>
              let ran := runText fuel (textOf bytes).toList false
                { w with speaker := some file, line := 1 }
              { ran.comeBack with line := w.line }
    | "exec" =>
      match args with
      | [] => w.done 0
      | name :: args =>
        let found := Builtin.programPath? w name
        if found.isNone && !name.contains '/' then
          (own fun w => w.fail 127 (name ++ ": not found")).exit 127
        else
          let ran := own fun w => runProgram fuel name args { w with traps := .empty }
          if ran.stopped then ran else ran.exit ran.status
    | "command" =>
      let plainly := fun (name : String) (args : List String) =>
        let ran := perform fuel true name args w
        if ran.flow = .failing then { ran with flow := .onward, speaker := w.speaker } else ran
      match args with
      | "-v" :: names => Builtin.tell Builtin.calledAs false w (names.take 1)
      | "-V" :: names => Builtin.tell Builtin.describe true w (names.take 1)
      | "-p" :: name :: args => plainly name args
      | "--" :: name :: args => plainly name args
      | name :: args => plainly name args
      | [] => w.done 0
    | "type" => Builtin.tell Builtin.describe true w args
    | name =>
      match Builtin.findSpecial? name, (if plain then none else w.functions.get? name),
        Builtin.find? name with
      | some f, _, _ => own fun w => f w args
      | none, some body, _ => call fuel body args w
      | none, none, some f =>
        let ran := own fun w => f w args
        if ran.flow = .failing then { ran with flow := .onward } else ran
      | none, none, none => runProgram fuel name args w

/-- Give names their values, and answer what they stood for before. -/
def assignAll : Nat → (exported : Bool) → List (String × Word) → World →
    List (String × Option Binding) × List String × World
  | 0, _, _, w => ([], [], w)
  | fuel + 1, exported, assignments, w =>
    assignments.foldl (fun (olds, shown, w) (name, word) =>
      if w.stopped then (olds, shown, w)
      else
        let (text, w) := expandText fuel word w
        if w.stopped then (olds, shown, w)
        else
          let old := w.bindings.get? name
          let w := w.assign name text
          let w := if exported && !w.stopped then w.bind name ⟨some text, true, false⟩ else w
          ((name, old) :: olds, shown ++ [name ++ "=" ++ text], w)) ([], [], w)

def runSimple : Nat → List (String × Word) → List Word → List Redirection → World → World
  | 0, _, _, _, w => w
  | fuel + 1, assignments, words, redirections, w =>
    let (args, w) := expandAll fuel (takesAssignments words) words { w with substituted := none }
    if w.stopped then w
    else
      let name := args.head?
      let special := name.any fun n => Reading.specialCommands.contains n
      let kept := name = some "exec" && args.length = 1
      let speaker := w.speaker
      let ran := redirected fuel kept special redirections w fun opened =>
        let (olds, shown, w) := assignAll fuel (!special && !args.isEmpty) assignments opened
        if w.stopped then w
        else
          let w := w.trace (shown ++ args)
          match args with
          | [] => w.done (w.substituted.getD 0)
          | name :: args =>
            let ran := perform fuel false name args w
            if special then ran
            else olds.foldl (fun w (name, old) => w.reset name old) ran
      { ran with speaker }

/-- The rounds of a loop, the last of which has ended with a status. -/
def rounds : Nat → (until_ tested : Bool) → Command → Command → (last : Nat) → World → World
  | 0, _, _, _, _, _, w => w
  | fuel + 1, until_, tested, test, body, last, w =>
    let w := run fuel true test w
    let (onward, w) := w.afterRound
    if !onward || w.stopped then w
    else if (w.status == 0) == until_ then w.done last
    else
      let (onward, w) := (run fuel tested body w).afterRound
      if onward then rounds fuel until_ tested test body w.status w else w

/-- Run a command. With `tested` its failure is asked about. -/
def run : Nat → (tested : Bool) → Command → World → World
  | 0, _, _, w => w
  | fuel + 1, tested, c, w =>
    if w.stopped || w.hasOption 'n' then w
    else
      match c with
      | .nothing => w.done 0
      | .simple line assignments words redirections =>
        attend fuel ((runSimple fuel assignments words redirections { w with line }).checked tested)
      | .pipe first second =>
        let (i, opened) := w.addChannel (.collector .empty)
        let source := finish fuel (run fuel tested first (opened.inner.connect 1 i))
        let w := w.leave source
        let target := finish fuel (run fuel tested second
          { w.inner.onto 0 (.source (w.collected i) 0) with status := opened.status })
        (w.leave target).checked tested
      | .not c =>
        let w := run fuel true c w
        if w.stopped then w else w.done (if w.status = 0 then 1 else 0)
      | .andThen first second =>
        let w := run fuel true first w
        if w.status = 0 then run fuel tested second w else w
      | .orElse first second =>
        let w := run fuel true first w
        if w.status = 0 then w else run fuel tested second w
      | .both first second => run fuel tested second (run fuel tested first w)
      | .cond test yes no =>
        let w := run fuel true test w
        if w.stopped then w
        else if w.status = 0 then run fuel tested yes w
        else run fuel tested no w
      | .loop until_ test body =>
        let ran := rounds fuel until_ tested test body 0 { w with loops := w.loops + 1 }
        { ran with loops := w.loops }
      | .each line name words body =>
        let (items, expanded) := expandAll fuel false words { w with line }
        if expanded.stopped then expanded
        else if items.isEmpty then expanded.done 0
        else
          let (_, ran) := items.foldl (fun (onward, w) item =>
            if !onward then (false, w)
            else
              let w := w.assign name item
              if w.stopped then (false, w) else (run fuel tested body w).afterRound)
            (true, { expanded with loops := w.loops + 1 })
          { ran with loops := w.loops }
      | .choose line subject choices =>
        let (text, w) := expandText fuel subject { w with line }
        let (_, body, w) := choices.foldl (fun (found, body, w) (patterns, c) =>
          if found || w.stopped then (found, body, w)
          else
            let (hit, w) := patterns.foldl (fun (hit, w) p =>
              if hit || w.stopped then (hit, w)
              else
                let (atoms, w) := expand fuel false p w
                ((Pattern.read (Atom.marks atoms)).accepts text.toList, w)) (false, w)
            (hit, if hit then c else body, w)) (false, Command.nothing, w)
        if w.stopped then w else run fuel tested body w
      | .group line body redirections =>
        redirected fuel false false redirections { w with line } fun w => run fuel tested body w
      | .apart line body redirections =>
        let inner := redirected fuel false false redirections { w.inner with line } fun w =>
          run fuel tested body w
        (w.leave (finish fuel inner)).checked tested
      | .behind c =>
        let ran := finish fuel (run fuel tested c (w.inner.onto 0 .nowhere))
        { w.leave ran with status := 0, jobs := (jobId w.jobs.length, ran.status) :: w.jobs }
      | .define name body => { w.done 0 with functions := w.functions.insert name body }

end

/-- A shell with these variables, for commands that act on a tree. -/
def shell (values : KeyMap String) : Shell FileTree := fun command t =>
  if command.toList.contains '\x00' then
    (⟨.notStarted "nul byte found in provided data", [], []⟩, t)
  else
    let bindings := World.initialBindings values.entries
    let w : World :=
      { tree := t, bindings := bindings.insert "PWD" ⟨some ("/" ++ Path.ofNames t.workDir), false, false⟩ }
    let w := finish maxNesting (runText maxNesting command.toList false w)
    let status := match w.flow with
      | .killed _ => ExitStatus.signalled
      | _ => .exited (w.status % 256)
    (⟨status, (w.collected 1).toList, (w.collected 2).toList⟩, { w.tree with workDir := t.workDir })

end Script
end Stencil
