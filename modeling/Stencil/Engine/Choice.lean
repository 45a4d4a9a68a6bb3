import Stencil.Jinja.Library
import Stencil.Tera.Alone

/-! The engine that the options name. -/
namespace Stencil

def EngineOptions.engine (o : EngineOptions) (t : FileTree) (root : Path) :
    Except TemplateError Engine :=
  match o.kind with
  | .jinja => Jinja.engine o t root
  | .tera => Tera.engine o

end Stencil
