/-!
Contract: the variants of component sources.

Owns:
- `Variant` and the names under which variants are chosen;
- the file name extension of each variant.

Does not own: the sources, see `DesignCompiler.Component.Template`.
-/

set_option autoImplicit false

namespace DesignCompiler.Component

inductive Variant where
  | muiTsx
  | muiJsx
  | styledComponents
  | vanillaJsx
deriving DecidableEq

namespace Variant

def all : List Variant := [.muiTsx, .muiJsx, .styledComponents, .vanillaJsx]

def name : Variant → String
  | muiTsx => "mui-tsx"
  | muiJsx => "mui-jsx"
  | styledComponents => "styled-components"
  | vanillaJsx => "vanilla-jsx"

/-- The variant of a name; without a name or under an unknown one the plain variant is meant. -/
def resolve (name : Option String) : Variant :=
  (all.find? fun variant => some variant.name == name).getD .vanillaJsx

/-- The extension of the files of a variant: the typed variants have their own. -/
def extension : Variant → String
  | muiTsx | vanillaJsx => "tsx"
  | muiJsx | styledComponents => "jsx"

end Variant

end DesignCompiler.Component
