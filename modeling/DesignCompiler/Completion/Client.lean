import DesignCompiler.Completion.Answer
import DesignCompiler.Completion.Prompt
import DesignCompiler.Design.Writing
import DesignCompiler.Failure

/-!
Contract: letting a language model write a component.

Owns:
- `Client` and the request that it sends;
- `Client.generate`, the code in the answer.

Does not own: retries, see `DesignCompiler.Http.Retry`.
-/

set_option autoImplicit false

namespace DesignCompiler.Completion

open DesignCompiler.Http

structure Client where
  url : String := "http://localhost:5000/api/proxy/openai"
  policy : RetryPolicy := .standard 1 (by decide)
  sampling : Sampling := {}

structure Question where
  root : Design.Node
  framework : String
  name : String
  instructions : Option String
  model : Json

def Client.order (client : Client) (question : Question) : Order :=
  { method := "POST"
    url := client.url
    headers := [("Content-Type", "application/json")]
    body := some (payload client.sampling question.root.toJson question.framework question.name
      question.instructions question.model) }

def invalidAnswer : Failure :=
  .remote ⟨.malformedResponse, "Invalid response from AI model", none⟩

def codeOf (answer : Json) : Except Failure String :=
  match content? answer with
  | none => .error invalidAnswer
  | some content =>
    match code? content with
    | some code => .ok code
    | none => .error (.shape .wrongType)

def Client.generate (client : Client) (question : Question) (replies : Replies) :
    Run Failure String :=
  (client.policy.execute (client.order question) replies).finish fun result =>
    match result with
    | .ok answer => codeOf answer
    | .error error => .error (.call error)

end DesignCompiler.Completion
