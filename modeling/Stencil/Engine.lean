import Stencil.Failure
import Stencil.Json.Value
import Stencil.KeyMap

/-! What a run needs of a template language. -/
namespace Stencil

/-- An engine renders a source in a context. -/
abbrev Engine := String → KeyMap Json → Except TemplateError String

end Stencil
