import DesignCompiler.Completion.CodeBlock
import DesignCompiler.Json.Basic

/-!
Contract: the answer of a language model.

Owns:
- `content?`, the content of the first choice of an answer;
- `code?`, the code in such a content.

Does not own: the transport of answers, see `DesignCompiler.Completion.Client`.
-/

set_option autoImplicit false

namespace DesignCompiler.Completion

def firstChoice? (answer : Json) : Option Json :=
  match answer.get? "choices" with
  | some (.array (first :: _)) => some first
  | _ => none

/-- The content of an answer, which is the empty text where it counts as absent; none if the answer
has no first choice with a message. -/
def content? (answer : Json) : Option Json :=
  match (firstChoice? answer).bind fun choice => choice.get? "message" with
  | some (.object fields) =>
    some (((fields.lookup "content").filter fun content => !content.isBlank).getD (.string ""))
  | _ => none

/-- The code in a content; none if the content is there and no text. -/
def code? : Json → Option String
  | .string content => some (codeBlock content)
  | content => if content.isBlank then some "" else none

end DesignCompiler.Completion
