import DesignCompiler.Component.Variant

/-!
Contract: the source file of a component.

Owns:
- the text around the markup for each variant;
- the comment in which instructions are kept.

The markup, the name and the instructions are inserted as they are.

Does not own: the markup, see `DesignCompiler.Markup`.
-/

set_option autoImplicit false

namespace DesignCompiler.Component

/-- The comment for instructions, none for empty ones. -/
def instructionsComment : Option String → String
  | some text => if text.isEmpty then "" else "\n// " ++ text
  | none => ""

def propertiesType (name base : String) : String :=
  "interface " ++ name ++ "Props" ++ base ++ " \x7b\n  className?: string;\n\x7d\n\n"

/-- The lines from the return of a component to the end of its file. -/
def returnBlock (opening closing name markup : String) : String :=
  "  return (\n    " ++ opening ++ "\n" ++ markup ++ "\n    " ++ closing
    ++ "\n  );\n\x7d;\n\nexport default " ++ name ++ ";\n"

def render (variant : Variant) (name markup : String) (instructions : Option String) : String :=
  let comment := instructionsComment instructions
  match variant with
  | .muiTsx =>
    "import React from 'react';\nimport \x7b Box, BoxProps \x7d from '@mui/material';\n" ++ comment
      ++ "\n" ++ propertiesType name " extends BoxProps"
      ++ "export const " ++ name ++ ": React.FC<" ++ name
      ++ "Props> = (\x7b className, ...props \x7d) => \x7b\n"
      ++ returnBlock "<Box className=\x7bclassName\x7d \x7b...props\x7d>" "</Box>" name markup
  | .muiJsx =>
    "import React from 'react';\nimport \x7b Box \x7d from '@mui/material';\n" ++ comment
      ++ "\nexport const " ++ name ++ " = (\x7b className, ...props \x7d) => \x7b\n"
      ++ returnBlock "<Box className=\x7bclassName\x7d \x7b...props\x7d>" "</Box>" name markup
  | .styledComponents =>
    "import React from 'react';\nimport styled from 'styled-components';\n" ++ comment
      ++ "\nconst Container = styled.div\x60\n  /* Add your styles here */\n\x60;\n\n"
      ++ "export const " ++ name ++ " = (\x7b className \x7d) => \x7b\n"
      ++ returnBlock "<Container className=\x7bclassName\x7d>" "</Container>" name markup
  | .vanillaJsx =>
    "import React from 'react';\n" ++ comment ++ "\n" ++ propertiesType name ""
      ++ "export const " ++ name ++ ": React.FC<" ++ name
      ++ "Props> = (\x7b className \x7d) => \x7b\n"
      ++ returnBlock "<div className=\x7bclassName\x7d>" "</div>" name markup

end DesignCompiler.Component
