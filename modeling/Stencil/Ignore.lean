import Stencil.FileTree.Resolve
import Stencil.Glob

/-! Rules that say which files are left alone. The last rule that matches decides. -/
namespace Stencil

/-- A rule of an ignore file. -/
structure IgnoreRule where
  /-- Files that match are kept -/
  keeps : Bool
  onlyDirectories : Bool
  pattern : Glob.Pattern

namespace IgnoreRule

open Text

/-- An escaped blank at the end of a line belongs to the pattern. -/
def trimmedLine (line : List Char) : List Char :=
  if line.reverse.take 2 = [' ', '\\'] then line else dropBlankEnd line

/-- A rule before its pattern is read. -/
structure Written where
  keeps : Bool
  anchored : Bool
  onlyDirectories : Bool
  pattern : List Char
  deriving DecidableEq

/-- The signs before a pattern: `!` keeps, `/` ties the pattern to the top, a backslash lets
`!` and `#` stand for themselves. -/
def leadingSigns (line : List Char) : Bool × Bool × List Char :=
  match line with
  | '\\' :: '!' :: rest => (false, false, '!' :: rest)
  | '\\' :: '#' :: rest => (false, false, '#' :: rest)
  | line =>
    let (keeps, line) := match line with
      | '!' :: rest => (true, rest)
      | line => (false, line)
    match line with
    | '/' :: rest => (keeps, true, rest)
    | line => (keeps, false, line)

/-- A separator at the end asks for a directory; it may be escaped. -/
def trailingSign (pattern : List Char) : Bool × List Char :=
  match pattern.reverse with
  | '/' :: '\\' :: rest => (true, rest.reverse)
  | '/' :: rest => (true, rest.reverse)
  | _ => (false, pattern)

def written (line : List Char) : Written :=
  let (keeps, anchored, pattern) := leadingSigns line
  let (onlyDirectories, pattern) := trailingSign pattern
  ⟨keeps, anchored, onlyDirectories, pattern⟩

/-- A pattern without separators matches at any depth, and one that ends in `/**` only what is
below. -/
def Written.glob (w : Written) : List Char :=
  let deep := ['*', '*', '/']
  let pattern :=
    if !w.anchored ∧ !w.pattern.contains '/' ∧ w.pattern ≠ ['*', '*'] then deep ++ w.pattern
    else w.pattern
  if pattern.reverse.take 3 = ['*', '*', '/'] then pattern ++ ['/', '*'] else pattern

/-- The rule on a line; comments and empty lines hold none. -/
def ofLine (line : List Char) : Except Unit (Option IgnoreRule) :=
  if line.head? = some '#' then .ok none
  else
    let line := trimmedLine line
    if line.isEmpty then .ok none
    else
      let w := written line
      match Glob.read w.glob with
      | .ok r => .ok (some ⟨w.keeps, w.onlyDirectories, r⟩)
      | .error () => .error ()

end IgnoreRule

/-- Rules in their order, and the directory that they are about. -/
structure IgnoreSpec where
  root : String
  rules : List IgnoreRule

namespace IgnoreSpec

open Text

def withoutCurrent (p : String) : String := (stripStart? "./" p).getD p

/-- The path as the rules see it: without the root it may start with. A bare name is left as it
is. -/
def seen (spec : IgnoreSpec) (p : String) : String :=
  let p := withoutCurrent p
  if Path.same ⟨spec.root⟩ ⟨"."⟩ ∨ !p.toList.contains '/' then p
  else
    let p := (stripStart? spec.root p).getD p
    (stripStart? "/" p).getD p

def decides (path : String) (isDirectory : Bool) (rule : IgnoreRule) : Bool :=
  (!rule.onlyDirectories || isDirectory) && Glob.accepts rule.pattern path

/-- A file is ignored if the last rule that matches it does not keep it. -/
def isIgnored (spec : IgnoreSpec) (p : String) (isDirectory : Bool) : Bool :=
  match spec.rules.reverse.find? (decides (spec.seen p) isDirectory) with
  | some rule => !rule.keeps
  | none => false

/-- Lines that hold no rule are skipped, and blanks at the end of a line are no part of it. -/
def prepared (lines : List String) : List String :=
  (lines.map trimEnd).filter fun line => !allBlank line && !line.startsWith "#"

def unreadable : String := "not a glob pattern"

def readRules : List String → Except Failure (List IgnoreRule)
  | [] => .ok []
  | line :: rest =>
    match IgnoreRule.ofLine line.toList with
    | .error () => .error (.invalidIgnorePattern line unreadable)
    | .ok rule => (readRules rest).map fun rules => rule.toList ++ rules

/-- The lines of an ignore file, looked for below the root. -/
def fileLines (t : FileTree) (root : Path) (file : String) : Except Failure (List String) :=
  let p := Path.resolveAgainst root file
  if !t.isFile p then .error (.ignoreFileNotFound p.text)
  else
    match t.readText p with
    | .ok text => .ok (Text.lines text)
    | .error e => .error (.fileSystem "read" p.text e)

def allLines (t : FileTree) (root : Path) : List String → Except Failure (List String)
  | [] => .ok []
  | file :: rest =>
    match fileLines t root file with
    | .error f => .error f
    | .ok lines => (allLines t root rest).map (lines ++ ·)

/-- The rules of the ignore files in their order, then the patterns. -/
def build (t : FileTree) (root : Path) (files patterns : List String) :
    Except Failure IgnoreSpec :=
  match allLines t root files with
  | .error f => .error f
  | .ok lines =>
    (readRules (prepared (lines ++ patterns))).map fun rules => ⟨withoutCurrent root.text, rules⟩

end IgnoreSpec
end Stencil
