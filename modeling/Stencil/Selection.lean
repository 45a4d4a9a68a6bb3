import Stencil.Ignore

/-! The files below a root that are not ignored. -/
namespace Stencil
namespace Selection

/-- The names that are reached in a directory, each with what is there. -/
def entriesIn (t : FileTree) (dir : Location) : List (String × Entry) :=
  (t.children dir).filterMap fun name => (t.get? (dir ++ [name])).map (name, ·)

/-- The files below a directory, by their names from the root down. A directory that is ignored
is not entered, and links are not followed. -/
def below (t : FileTree) (spec : IgnoreSpec) : Nat → Location → List String → List (List String)
  | 0, _, _ => []
  | fuel + 1, dir, names => (entriesIn t dir).flatMap fun (name, entry) =>
    let path := names ++ [name]
    if spec.isIgnored (Path.ofNames path) (entry = .directory) then []
    else
      match entry with
      | .file _ => [path]
      | .directory => below t spec fuel (dir ++ [name]) path
      | .link _ => []

/-- A bound on how deep the tree is. -/
def depth (t : FileTree) : Nat := t.entries.foldl (fun d e => max d e.1.length) 0 + 1

/-- The paths of the selected files from the root, directory by directory in the order of names.
A root that is itself a file is selected under no name. -/
def files (t : FileTree) (spec : IgnoreSpec) (root : Path) : Except Failure (List String) :=
  match t.locate root .kept with
  | .vacant .. => .error (.fileSystem "walk" root.text (.of .notFound))
  | .failed kind => .error (.fileSystem "walk" root.text (.of kind))
  | .found _ (.file _) => .ok [""]
  | .found loc .directory => .ok ((below t spec (depth t) loc []).map Path.ofNames)
  | .found _ (.link _) =>
    match t.resolve root with
    | .found loc .directory => .ok ((below t spec (depth t) loc []).map Path.ofNames)
    | .found .. => .ok []
    | .vacant .. => .error (.fileSystem "walk" root.text (.of .notFound))
    | .failed kind => .error (.fileSystem "walk" root.text (.of kind))

end Selection
end Stencil
