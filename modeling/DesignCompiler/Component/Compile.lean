import DesignCompiler.Component.Name
import DesignCompiler.Component.Template
import DesignCompiler.Markup

/-!
Contract: compiling a design tree into the source of a component.

Owns:
- the usual depth at which the markup stands in the source;
- `compile?`, which joins the name, the markup and the source text.

Does not own: reading trees and writing files.
-/

set_option autoImplicit false

namespace DesignCompiler.Component

/-- The usual depth of the root element inside the source. -/
def markupDepth : Int := 2

/-- The name of the compiled component: the one given, unless it is absent or empty. -/
def compiledName (root : Design.Node) (name : Option String) : String :=
  (name.filter fun name => !name.isEmpty).getD (derive root.attributes.name)

def compile? (root : Design.Node) (variant : Variant) (name instructions : Option String)
    (depth : Int := markupDepth) : Except ColorFault String := do
  let markup ← root.markup? depth
  .ok (render variant (compiledName root name) markup instructions)

end DesignCompiler.Component
