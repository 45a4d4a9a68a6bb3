import Stencil.Engine
import Stencil.FileTree.Resolve
import Stencil.Jinja.Evaluation
import Stencil.Jinja.Reader

/-! Templates with the files below a directory as their library. -/
namespace Stencil
namespace Jinja

/-- A template's name leads from the root downwards; other names belong to no template. -/
def templatePath? (root : Path) (name : String) : Option Path :=
  let parts := (Text.splitOnChar '/' [] name.toList).map String.ofList
  if parts.any fun part => part.startsWith "." || part.contains '\\' then none
  else some (parts.foldl Path.join root)

/-- The template that a file holds; a file that is not there is no fault. -/
def loadFrom (t : FileTree) (root : Path) (m : Markup) (name : String) :
    Value.Result (Option (List Stmt)) :=
  match templatePath? root name with
  | none => .ok none
  | some p =>
    match t.readText p with
    | .ok source => (parse m source).map some
    | .error e =>
      if e.kind = .notFound then .ok none else .error (.evaluation "could not read template")

/-- Opening delimiters must be told apart. -/
def distinctOpenings (d : Delimiters) : Bool :=
  let starts := [d.variableStart, d.blockStart, d.commentStart]
  starts.all (!·.isEmpty) && d.variableStart ≠ d.blockStart && d.blockStart ≠ d.commentStart &&
    d.variableStart ≠ d.commentStart

def markupOf (o : EngineOptions) : Markup :=
  ⟨o.delimiters, o.keepTrailingNewline, o.trimBlocks, o.lstripBlocks⟩

def contextOf (context : KeyMap Json) : KeyMap Value :=
  .ofList (context.entries.map fun e => (e.1, Value.ofJson e.2))

def engine (o : EngineOptions) (t : FileTree) (root : Path) : Except TemplateError Engine :=
  if distinctOpenings o.delimiters then
    let m := markupOf o
    .ok fun source context => do
      Evaluation.render ⟨!o.allowUndefined, contextOf context, loadFrom t root m⟩ (← parse m source)
  else .error (.options "invalid delimiters")

end Jinja
end Stencil
