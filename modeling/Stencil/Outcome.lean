import Stencil.Elapsed
import Stencil.Path
import Stencil.Report

/-! What a run has done. -/
namespace Stencil

structure Outcome where
  /-- Outputs that were written, in the order of the walk -/
  written : List Path
  /-- Outputs that were left as they are -/
  identical : List Path
  /-- The root templates, each once, component by component -/
  rootTemplates : List Path
  lockfileModified : Bool
  deriving DecidableEq, Repr

namespace Outcome

def writtenText (o : Outcome) (color : Bool) : String :=
  let text := toString o.written.length ++ " template(s) written"
  if o.written.isEmpty then text else Style.green.paint color text

/-- The line that ends a run. -/
def summary (o : Outcome) (elapsed : String) (color : Bool) : String :=
  o.writtenText color ++ ", " ++ toString o.identical.length ++ " identical. Lockfile " ++
    (if o.lockfileModified then "modified" else "unchanged") ++ ". " ++
    Style.dimmed.paint color elapsed

end Outcome
end Stencil
