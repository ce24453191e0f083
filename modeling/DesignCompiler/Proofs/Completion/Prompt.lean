import DesignCompiler.Proofs.Completion.Answer
import DesignCompiler.Proofs.Design.Document
import DesignCompiler.Proofs.Http.Trace
import DesignCompiler.Proofs.Json.RoundTrip

/-!
Contract: what a language model is shown of a design.

Owns:
- `heading` and `ending`, the fixed parts of a question around the design;
- `AsksAbout`, the request bodies in which the text of a design stands between these two parts;
- the law that every attempt at a question about a tree that was read from a JSON text sends one
  such body, and that the body and the tree can be read back from their texts.

Names and instructions stand in the parts as they are, also where they look like a part themselves.

Does not own: what is made of the answer, see `DesignCompiler.Proofs.Completion.Answer`.
-/

set_option autoImplicit false

namespace DesignCompiler.Completion

open DesignCompiler.Http

/-! ### The parts of a question -/

/-- What stands before the design. -/
def heading (framework name : String) : String :=
  "Convert this Figma component to a React component:\n\nComponent Name: " ++ name
    ++ "\nFramework: " ++ framework ++ "\n\nFigma Component Data:\n"

/-- What stands after the design: the instructions, if there are any, and the task. -/
def ending (instructions : Option String) : String :=
  "\n\n"
    ++ (match instructions with
      | some text => if text = "" then "" else "Additional Requirements:\n" ++ text ++ "\n"
      | none => "")
    ++ "\n\nGenerate a complete, production-ready React component. Include all necessary "
    ++ "imports and proper structure."

private theorem ending_eq (instructions : Option String) :
    ending instructions =
      "\n\n" ++ requirements instructions
        ++ "\n\nGenerate a complete, production-ready React component. Include all necessary "
        ++ "imports and proper structure." := by
  cases instructions with
  | none => rfl
  | some text =>
      rw [ending, requirements]
      simp only [String.isEmpty_iff]

private theorem userPrompt_eq (design : Json) (framework name : String)
    (instructions : Option String) :
    userPrompt design framework name instructions =
      heading framework name ++ design.render .indented ++ ending instructions := by
  rw [ending_eq, ← String.append_assoc, ← String.append_assoc, ← String.append_assoc]
  rfl

/-! ### Bodies -/

def contentAt? (body : Json) (position : Nat) : Option String :=
  match body.get? "messages" with
  | some (.array messages) => (messages[position]?.bind fun message =>
      message.get? "content").bind Json.text?
  | _ => none

/-- The second message of a body is the question about a design: between the two fixed parts stands
a text that denotes this design. -/
def AsksAbout (body design : Json) (framework name : String) (instructions : Option String) :
    Prop :=
  ∃ text : String, Json.read text.toList = .ok design ∧
    contentAt? body 1 = some (heading framework name ++ text ++ ending instructions)

/-- A body asks about one design only. -/
theorem AsksAbout.eq {body design other : Json} {framework name : String}
    {instructions : Option String} (asks : AsksAbout body design framework name instructions)
    (asksOther : AsksAbout body other framework name instructions) : design = other := by
  obtain ⟨text, denoted, stands⟩ := asks
  obtain ⟨otherText, otherDenoted, otherStands⟩ := asksOther
  rw [stands] at otherStands
  have sameText : text = otherText :=
    (String.append_right_inj _).mp ((String.append_left_inj _).mp (Option.some.inj otherStands))
  rw [sameText] at denoted
  exact Except.ok.inj (denoted.symm.trans otherDenoted)

private theorem asksAbout_payload (sampling : Sampling) {design : Json}
    (document : design.IsDocument)
    (framework name : String) (instructions : Option String) (model : Json) :
    AsksAbout (payload sampling design framework name instructions model) design framework name
      instructions := by
  refine ⟨design.render .indented, ?_, ?_⟩
  · rw [Json.render, String.toList_ofList]
    exact document.read_chars .indented rfl 0
  · rw [← userPrompt_eq]
    rfl

private theorem isDocument_message (role content : String) : (message role content).IsDocument := by
  refine .object (by simp) ?_
  simp only [List.forall_mem_cons]
  exact ⟨.string role, .string content, List.forall_mem_nil _⟩

/-- A body is a value that texts denote if the bound on the answer is. -/
theorem isDocument_payload {sampling : Sampling}
    (readable : Json.IsReadable (.int sampling.maxTokens)) (design : Json)
    (framework name : String) (instructions : Option String) (model : String) :
    (payload sampling design framework name instructions (.string model)).IsDocument := by
  refine .object (by simp only [List.map_cons, List.map_nil]; decide) ?_
  simp only [List.forall_mem_cons]
  refine ⟨.string model, .array ?_, .number trivial, .number readable, .string sampling.username,
    .null, List.forall_mem_nil _⟩
  simp only [List.forall_mem_cons]
  exact ⟨isDocument_message .., isDocument_message .., List.forall_mem_nil _⟩

/-! ### Questions -/

/-- Every attempt at a question about a tree that was read from a JSON text posts the same body,
which can be read back from its texts.  The body carries the tree: it is read back from the text
between the heading and the ending, so that a body about another tree differs. -/
theorem Client.generate_carries_design {value : Json} {root : Design.Node}
    (document : value.IsDocument) (accepted : Design.Node.read value = .ok root)
    (client : Client) (framework name model : String) (instructions : Option String)
    (replies : Replies) :
    let question (root : Design.Node) : Question :=
      ⟨root, framework, name, instructions, .string model⟩
    ∃ body, (client.order (question root)).body = some body ∧
      (∀ request ∈ (client.generate (question root) replies).requests,
        request.method = "POST" ∧ request.body = some body) ∧
      ((∃ address, Url.read client.url = .ok address) →
        client.sampling.temperature.isFinite = true →
        (client.generate (question root) replies).requests ≠ []) ∧
      (Json.IsReadable (.int client.sampling.maxTokens) →
        ∀ style : Json.Style, style.ascii = false → Json.read (body.chars style 0) = .ok body) ∧
      AsksAbout body root.toJson framework name instructions ∧
      ∀ otherValue otherRoot, otherValue.IsDocument → Design.Node.read otherValue = .ok otherRoot →
        (client.order (question otherRoot)).body = some body →
        otherRoot.toJson = root.toJson := by
  intro question
  have asks {value : Json} {root : Design.Node} (document : value.IsDocument)
      (accepted : Design.Node.read value = .ok root) :
      AsksAbout (payload client.sampling root.toJson framework name instructions (.string model))
        root.toJson framework name instructions :=
    asksAbout_payload client.sampling (Design.Node.isDocument_of_read document accepted) ..
  refine ⟨_, rfl, fun request sent => ?_, ?_, ?_, asks document accepted, ?_⟩
  · exact Order.method_and_body_of_request (RetryPolicy.request_of_mem_requests sent)
  · rintro ⟨address, addressed⟩ drawn
    obtain ⟨request, sendable⟩ := client.exists_request (question root) addressed drawn rfl
    exact RetryPolicy.requests_ne_nil sendable replies
  · intro readable style plain
    exact (isDocument_payload readable ..).read_chars style plain 0
  · intro otherValue otherRoot otherDocument otherAccepted sameBody
    have asksOther := asks otherDocument otherAccepted
    rw [Option.some.inj sameBody] at asksOther
    exact asksOther.eq (asks document accepted)

/-- Every text looks like a part of a question, and the opacity is given as a text. -/
theorem Client.generate_carries_design_among_placeholders :
    let value : Json := .object
      [("type", .string "TEXT"), ("name", .string "\x7bnode_json\x7d"),
        ("characters", .string "\"\x7d\n\nGenerate a complete"), ("opacity", .string "0.50")]
    let root := Design.buildNode value
    let client : Client := { policy := .standard 3 (by decide) }
    let name := "\x7bframework\x7d"
    let instructions := some "\x7badditional\x7d\n\"\\n\""
    let question : Question := ⟨root, "mui-tsx", name, instructions, .string "m"⟩
    let replies := Replies.ofList [.response { status := 500 }, .response { status := 429 }]
    let requests := (client.generate question replies).requests
    requests.length = 3 ∧ ∃ body, (∀ request ∈ requests, request.body = some body) ∧
      Json.read (body.chars .line 0) = .ok body ∧
      AsksAbout body root.toJson "mui-tsx" name instructions := by
  intro value root client name instructions question replies requests
  have document : value.IsDocument := by
    refine .object (by decide) ?_
    simp only [List.forall_mem_cons]
    exact ⟨.string _, .string _, .string _, .string _, List.forall_mem_nil _⟩
  have accepted : Design.Node.read value = .ok root := by
    rfl
  obtain ⟨body, -, same, -, readBack, asks, -⟩ :=
    generate_carries_design document accepted client "mui-tsx" name "m" instructions replies
  exact ⟨by decide +kernel, body, fun request sent => (same request sent).2,
    readBack (by decide) .line rfl, asks⟩

end DesignCompiler.Completion
