import Stencil.Engine
import Stencil.EngineOptions
import Stencil.Tera.Evaluation
import Stencil.Tera.Grammar

/-! Templates that stand alone: none can load another. -/
namespace Stencil
namespace Tera

/-- A text without a line end at its end. -/
def dropLineEnd (text : String) : String :=
  match text.toList.reverse with
  | '\n' :: '\r' :: rest | '\n' :: rest => String.ofList rest.reverse
  | _ => text

/-- The rendered text, not the source, loses its last line end if that is asked for. -/
def renderSource (keepTrailingNewline : Bool) : Engine := fun source context =>
  match parse? source with
  | none => .error (.malformed "failed to parse the template")
  | some t => do
    let text ← Evaluation.render context t
    return if keepTrailingNewline then text else dropLineEnd text

/-- What the engine cannot do, if the options ask for it. -/
def unsupported? (o : EngineOptions) : Option String :=
  if o.hasCustomDelimiters then some "the tera engine does not support custom delimiters"
  else if o.allowUndefined then some "the tera engine does not support allow_undefined"
  else if o.trimBlocks || o.lstripBlocks then
    some ("the tera engine does not support trim_blocks or lstrip_blocks, use \x7b%- and -%\x7d " ++
      "instead")
  else none

def engine (o : EngineOptions) : Except TemplateError Engine :=
  match unsupported? o with
  | some message => .error (.options message)
  | none => .ok (renderSource o.keepTrailingNewline)

end Tera
end Stencil
