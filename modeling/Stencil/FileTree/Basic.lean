import Stencil.Failure
import Stencil.KeyMap
import Stencil.Path

/-! A tree of files, directories and symbolic links. -/
namespace Stencil

/-- The names from the top of the tree down to an entry. -/
abbrev Location := List String

inductive Entry where
  | file (bytes : ByteArray)
  | directory
  /-- A link holds the path it leads to, as written -/
  | link (target : String)
  deriving Inhabited

/-- Files are equal if their bytes are. -/
instance : DecidableEq Entry
  | .file a, .file b => decidable_of_iff (a.data = b.data) (by cases a; cases b; simp)
  | .link a, .link b => decidable_of_iff (a = b) (by simp)
  | .directory, .directory => isTrue rfl
  | .file _, .directory | .file _, .link _ | .directory, .file _ | .directory, .link _
  | .link _, .file _ | .link _, .directory => isFalse (by simp)

/-- Entries by location, with the directory that relative paths start from. The top is a
directory and has no entry. -/
structure FileTree where
  workDir : Location
  entries : List (Location × Entry)
  deriving DecidableEq, Inhabited

namespace FileTree

def find? (entries : List (Location × Entry)) (loc : Location) : Option Entry :=
  match entries with
  | [] => none
  | (l, e) :: rest => if l = loc then some e else find? rest loc

def replace (entries : List (Location × Entry)) (loc : Location) (entry : Entry) :
    List (Location × Entry) :=
  match entries with
  | [] => [(loc, entry)]
  | (l, e) :: rest => if l = loc then (loc, entry) :: rest else (l, e) :: replace rest loc entry

def get? (t : FileTree) (loc : Location) : Option Entry :=
  if loc = [] then some .directory else find? t.entries loc

/-- The tree with an entry put at a location. -/
def set (t : FileTree) (loc : Location) (entry : Entry) : FileTree :=
  { t with entries := replace t.entries loc entry }

/-- The tree without a location and all below it. -/
def erase (t : FileTree) (loc : Location) : FileTree :=
  { t with entries := t.entries.filter fun e => !loc.isPrefixOf e.1 }

/-- A tree that holds nothing but the way down to the working directory. -/
def empty (workDir : Location) : FileTree :=
  ⟨workDir, (List.range workDir.length).map fun i => (workDir.take (i + 1), .directory)⟩

/-- The last name of a location that is right below a directory. -/
def nameBelow? (dir loc : Location) : Option String :=
  match loc.getLast? with
  | some name => if loc.dropLast = dir then some name else none
  | none => none

/-- The names in a directory, in the order of their code points. -/
def children (t : FileTree) (dir : Location) : List String :=
  let names := t.entries.filterMap fun e => nameBelow? dir e.1
  (KeyMap.ofList (names.map (·, ()))).entries.map (·.1)

@[simp] theorem find?_replace_self (entries : List (Location × Entry)) (loc : Location)
    (entry : Entry) : find? (replace entries loc entry) loc = some entry := by
  induction entries with
  | nil => simp [replace, find?]
  | cons e rest ih =>
    obtain ⟨l, x⟩ := e
    by_cases h : l = loc <;> simp [replace, find?, h, ih]

theorem find?_replace_of_ne (entries : List (Location × Entry)) {loc other : Location}
    (entry : Entry) (h : other ≠ loc) :
    find? (replace entries loc entry) other = find? entries other := by
  induction entries with
  | nil => simp [replace, find?, Ne.symm h]
  | cons e rest ih =>
    obtain ⟨l, x⟩ := e
    by_cases hl : l = loc
    · subst hl; simp [replace, find?, Ne.symm h]
    · simp only [replace, hl, if_false, find?, ih]

theorem get?_set_self (t : FileTree) {loc : Location} (entry : Entry) (h : loc ≠ []) :
    (t.set loc entry).get? loc = some entry := by
  simp [get?, set, h]

theorem get?_set_of_ne (t : FileTree) {loc other : Location} (entry : Entry) (h : other ≠ loc) :
    (t.set loc entry).get? other = t.get? other := by
  by_cases ho : other = []
  · simp [get?, ho]
  · simp [get?, set, ho, find?_replace_of_ne _ entry h]

end FileTree
end Stencil
