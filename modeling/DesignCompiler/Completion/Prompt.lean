import DesignCompiler.Json.Text

/-!
Contract: what a language model is asked for.

Owns:
- the fixed instructions and the question about one component;
- the request body that carries both.

Does not own: sending the request, see `DesignCompiler.Completion.Client`.
-/

set_option autoImplicit false

namespace DesignCompiler.Completion

/-- The role and the conventions that every question is asked under. -/
def systemPrompt : String :=
  "You are an expert React developer specializing in converting Figma designs to "
    ++ "production-ready React components.\n"
    ++ "Generate clean, maintainable, and properly typed React components based on "
    ++ "Figma design data.\n\n"
    ++ "Framework preferences:\n"
    ++ "- mui-tsx: Use Material-UI (MUI) with TypeScript\n"
    ++ "- mui-jsx: Use Material-UI (MUI) with JavaScript\n"
    ++ "- vanilla-jsx: Use plain React with inline styles (TypeScript)\n"
    ++ "- styled-components: Use styled-components library\n\n"
    ++ "Important guidelines:\n"
    ++ "1. Generate ONLY the component code, no explanations\n"
    ++ "2. Use proper TypeScript types when applicable\n"
    ++ "3. Follow React best practices\n"
    ++ "4. Use semantic HTML\n"
    ++ "5. Implement responsive design where appropriate\n"
    ++ "6. Match the Figma design's layout, spacing, colors, and typography as closely as "
    ++ "possible\n"
    ++ "7. Use flexbox/grid for layouts that have auto-layout properties\n"
    ++ "8. Extract reusable styles and patterns"

/-- What is asked beyond the design, nothing for empty instructions. -/
def requirements : Option String → String
  | some text => if text.isEmpty then "" else "Additional Requirements:\n" ++ text ++ "\n"
  | none => ""

def userPrompt (design : Json) (framework name : String) (instructions : Option String) : String :=
  "Convert this Figma component to a React component:\n\nComponent Name: " ++ name
    ++ "\nFramework: " ++ framework ++ "\n\nFigma Component Data:\n" ++ design.render .indented
    ++ "\n\n" ++ requirements instructions
    ++ "\n\nGenerate a complete, production-ready React component. Include all necessary "
    ++ "imports and proper structure."

def message (role content : String) : Json :=
  .object [("role", .string role), ("content", .string content)]

/-- How the answers are drawn and who asks. -/
structure Sampling where
  temperature : Binary64 := Binary64.ofRatio false 7 10
  maxTokens : Int := 4000
  username : String := "cascade-cli-user"

def payload (sampling : Sampling) (design : Json) (framework name : String)
    (instructions : Option String) (model : Json) : Json :=
  .object [("model", model),
    ("messages", .array [message "system" systemPrompt,
      message "user" (userPrompt design framework name instructions)]),
    ("temperature", .number (.float sampling.temperature)),
    ("max_tokens", .number (.int sampling.maxTokens)),
    ("username", .string sampling.username),
    ("playbook_id", .null)]

end DesignCompiler.Completion
