import Stencil.FileTree.Write
import Stencil.KeyMap
import Stencil.Resolution
import Stencil.Script.Tree

/-! What commands act on: files, streams and the state of a shell. -/
namespace Stencil
namespace Script

def bytesOf (s : String) : ByteArray := s.toUTF8

/-- What the bytes of a stream come from or go to. Streams that were copied from one another share
it. -/
inductive Channel where
  /-- Bytes to be read, from a position on -/
  | source (bytes : ByteArray) (position : Nat)
  /-- The bytes written so far -/
  | collector (bytes : ByteArray)
  | file (loc : Location) (position : Nat) (appends : Bool)
  /-- Nothing comes from here and what goes here is lost -/
  | nowhere
  deriving Inhabited

/-- How the run goes on after a command. -/
inductive Flow where
  | onward
  /-- Out of so many loops -/
  | breaking (count : Nat)
  /-- On with the next round of a loop, out of those within it -/
  | continuing (count : Nat)
  | returning
  | leaving
  /-- Out of the shell, because of a failure -/
  | failing
  | killed (signal : Nat)
  deriving DecidableEq, Repr, Inhabited

/-- What a name stands for. It may be known without having a value. -/
structure Binding where
  value : Option String
  exported : Bool := false
  fixed : Bool := false
  deriving Repr, Inhabited

structure World where
  /-- Its working directory is that of the shell -/
  tree : FileTree
  executables : List Location := []
  channels : Array Channel := #[.source .empty 0, .collector .empty, .collector .empty]
  /-- The channel of each stream that is open -/
  streams : List (Nat × Nat) := [(0, 0), (1, 1), (2, 2)]
  bindings : KeyMap Binding := .empty
  functions : KeyMap Command := .empty
  documents : List (Nat × Word) := []
  /-- How many documents the texts read so far have -/
  documentCount : Nat := 0
  traps : KeyMap String := .empty
  /-- Signals that came while a command ran -/
  pending : List String := []
  /-- How far the options in the word that is looked at have been read -/
  optionPlace : Nat := 0
  options : List Char := []
  /-- The name under which the shell runs -/
  name : String := "sh"
  arguments : List String := []
  /-- The command that messages are of, if it is one of the shell itself -/
  speaker : Option String := none
  line : Nat := 1
  status : Nat := 0
  /-- How the last command ended whose output was put into the words of another -/
  substituted : Option Nat := none
  /-- How the commands ended that ran beside the shell, the latest first -/
  jobs : List (String × Nat) := []
  flow : Flow := .onward
  loops : Nat := 0
  /-- For each function that runs, what its own names stood for before -/
  frames : List (List (String × Option Binding)) := []
  deriving Inhabited

/-- The number under which a shell runs. -/
def processId : String := "4242"

namespace World

/-! ### Streams -/

def channelOf? (w : World) (stream : Nat) : Option Nat := w.streams.lookup stream

/-- Bytes with others put over them from a position on. -/
def overlay (bytes : ByteArray) (position : Nat) (new : ByteArray) : ByteArray :=
  let missing := position - bytes.size
  bytes.extract 0 position ++ ⟨(List.replicate missing 0).toArray⟩ ++ new ++
    bytes.extract (position + new.size) bytes.size

def write (w : World) (stream : Nat) (new : ByteArray) : World :=
  match w.channelOf? stream with
  | none => w
  | some i =>
    match w.channels[i]? with
    | some (.collector bytes) =>
      { w with channels := (w.channels.set! i .nowhere).set! i (.collector (bytes ++ new)) }
    | some (.file loc position appends) =>
      match w.tree.get? loc with
      | some (.file bytes) =>
        let position := if appends then bytes.size else position
        { w with
          tree := w.tree.set loc (.file (overlay bytes position new))
          channels := w.channels.set! i (.file loc (position + new.size) appends) }
      | _ => w
    | _ => w

/-- The bytes that are left to be read, and the world without them. -/
def readAll (w : World) (stream : Nat) : ByteArray × World :=
  match w.channelOf? stream with
  | none => (.empty, w)
  | some i =>
    match w.channels[i]? with
    | some (.source bytes position) =>
      (bytes.extract position bytes.size,
        { w with channels := w.channels.set! i (.source bytes bytes.size) })
    | some (.file loc position appends) =>
      match w.tree.get? loc with
      | some (.file bytes) =>
        (bytes.extract position bytes.size,
          { w with channels := w.channels.set! i (.file loc (max position bytes.size) appends) })
      | _ => (.empty, w)
    | _ => (.empty, w)

/-- Give back bytes at the end of what has been read. -/
def unread (w : World) (stream count : Nat) : World :=
  match w.channelOf? stream with
  | none => w
  | some i =>
    match w.channels[i]? with
    | some (.source bytes position) =>
      { w with channels := w.channels.set! i (.source bytes (position - count)) }
    | some (.file loc position appends) =>
      { w with channels := w.channels.set! i (.file loc (position - count) appends) }
    | _ => w

def addChannel (w : World) (c : Channel) : Nat × World :=
  (w.channels.size, { w with channels := w.channels.push c })

def connect (w : World) (stream channel : Nat) : World :=
  { w with streams := (stream, channel) :: w.streams.filter (·.1 ≠ stream) }

def disconnect (w : World) (stream : Nat) : World :=
  { w with streams := w.streams.filter (·.1 ≠ stream) }

/-- The world with one stream on a channel of its own. -/
def onto (w : World) (stream : Nat) (c : Channel) : World :=
  let (i, w) := w.addChannel c
  w.connect stream i

/-- These streams as they were before. -/
def restore (w : World) (before : List (Nat × Nat)) (streams : List Nat) : World :=
  streams.foldl (fun w stream =>
    match before.lookup stream with
    | some i => w.connect stream i
    | none => w.disconnect stream) w

def collected (w : World) (channel : Nat) : ByteArray :=
  match w.channels[channel]? with
  | some (.collector bytes) => bytes
  | _ => .empty

def print (w : World) (s : String) : World := w.write 1 (bytesOf s)

/-! ### Messages -/

def report (w : World) (message : String) : World := w.write 2 (bytesOf (message ++ "\n"))

/-- A message of the shell. -/
def complain (w : World) (message : String) : World :=
  let speaker := match w.speaker with
    | some s => s ++ ": "
    | none => ""
  w.report (w.name ++ ": " ++ toString w.line ++ ": " ++ speaker ++ message)

def done (w : World) (status : Nat) : World := { w with status }

def fail (w : World) (status : Nat) (message : String) : World := (w.complain message).done status

def exit (w : World) (code : Nat) : World := { w with status := code, flow := .leaving }

/-- A failure that ends the shell. -/
def abort (w : World) (message : String) : World :=
  { w.complain message with status := 2, flow := .failing }

def stopped (w : World) : Bool := w.flow != .onward

def hasOption (w : World) (o : Char) : Bool := w.options.contains o

/-! ### Names -/

def lookup (w : World) (name : String) : Option String := (w.bindings.get? name).bind (·.value)

def bind (w : World) (name : String) (b : Binding) : World :=
  { w with bindings := w.bindings.insert name b }

/-- Give a name a value; one that is fixed ends the shell. -/
def assign (w : World) (name value : String) : World :=
  let old := (w.bindings.get? name).getD ⟨none, false, false⟩
  if old.fixed then w.abort (name ++ ": is read only")
  else w.bind name { old with value := some value, exported := old.exported || w.hasOption 'a' }

def forget (w : World) (name : String) : World :=
  { w with bindings := w.bindings.keep fun n => n ≠ name }

/-- A name as it was before. -/
def reset (w : World) (name : String) (old : Option Binding) : World :=
  match old with
  | some b => w.bind name b
  | none => w.forget name

def separators (w : World) : List Char := ((w.lookup "IFS").getD " \t\n").toList

/-- The exported names with their values. -/
def environment (w : World) : List (String × String) :=
  w.bindings.entries.filterMap fun (name, b) =>
    if b.exported then b.value.map (name, ·) else none

/-- What a shell of its own leaves to the one that started it. -/
def leave (outer inner : World) : World :=
  { outer with
    tree := { inner.tree with workDir := outer.tree.workDir }
    executables := inner.executables
    channels := inner.channels
    documents := inner.documents
    documentCount := inner.documentCount
    status := inner.status
    flow := match inner.flow with
      | .killed signal => .killed signal
      | _ => outer.flow }

end World
end Script
end Stencil
