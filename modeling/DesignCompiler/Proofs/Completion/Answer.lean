import Mathlib.Data.List.DropRight
import DesignCompiler.Completion.Client
import DesignCompiler.Proofs.Http.Answer
import DesignCompiler.Proofs.Json.Equality

/-!
Contract: what is made of the answers of a language model.

Owns:
- `Text.IsTrimmed`, the texts without blanks around them, and that trimming leads to one;
- `HasMessage`, the answers whose first choice has a message;
- `Completes`, the code or the failure that belongs to an answer, whatever JSON value it is;
- the ways in which a question can end.

Does not own: the remote call, see `DesignCompiler.Proofs.Http.Answer`.
-/

set_option autoImplicit false

namespace DesignCompiler.Text

/-! ### Trimmed texts -/

/-- Neither the first nor the last character of a text is a blank. -/
structure IsTrimmed (text : String) : Prop where
  first : ∀ c, text.toList.head? = some c → isBlank c = false
  last : ∀ c, text.toList.getLast? = some c → isBlank c = false

private theorem eq_false_of_head?_dropWhile {p : Char → Bool} {cs : List Char} {c : Char}
    (first : (cs.dropWhile p).head? = some c) : p c = false := by
  have kept := List.head?_dropWhile_not p cs
  rw [first] at kept
  simpa using kept

private theorem isTrimmed_strip (text : String) : IsTrimmed (strip text) := by
  have characters :
      (strip text).toList = (text.toList.dropWhile isBlank).rdropWhile isBlank := by
    rw [strip, String.toList_ofList]
    rfl
  refine ⟨fun c first => ?_, fun c last => ?_⟩
  · -- What is trimmed at the end is a part of what is trimmed at the start.
    obtain ⟨removed, kept⟩ :=
      List.rdropWhile_prefix isBlank (l := text.toList.dropWhile isBlank)
    have startsSo : (text.toList.dropWhile isBlank).head? = some c := by
      rw [← kept, List.head?_append, ← characters, first]
      rfl
    exact eq_false_of_head?_dropWhile startsSo
  · rw [characters, List.rdropWhile, List.getLast?_reverse] at last
    exact eq_false_of_head?_dropWhile last

end DesignCompiler.Text

namespace DesignCompiler.Completion

open DesignCompiler.Http

theorem isTrimmed_codeBlock (content : String) : Text.IsTrimmed (codeBlock content) :=
  Text.isTrimmed_strip _

/-! ### Answers -/

def HasMessage (answer : Json) (message : Fields) : Prop :=
  ∃ entries choice rest, answer = .object entries ∧
    entries.lookup "choices" = some (.array (.object choice :: rest)) ∧
    Fields.lookup choice "message" = some (.object message)

/-- What belongs to an answer: the code in the text of its message, no code in the absence of a
content, and a failure otherwise. -/
inductive Completes (answer : Json) : Except Failure String → Prop where
  | text {message : Fields} {content : String} :
      HasMessage answer message → message.lookup "content" = some (.string content) →
      Completes answer (.ok (codeBlock content))
  | absent {message : Fields} :
      HasMessage answer message → message.lookup "content" = none → Completes answer (.ok "")
  | blank {message : Fields} {content : Json} :
      HasMessage answer message → message.lookup "content" = some content →
      content.isBlank = true → Completes answer (.ok "")
  | wrongType {message : Fields} {content : Json} :
      HasMessage answer message → message.lookup "content" = some content →
      content.isBlank = false → content.text? = none →
      Completes answer (.error (.shape .wrongType))
  | noMessage :
      (∀ message, ¬ HasMessage answer message) → Completes answer (.error invalidAnswer)

private theorem exists_fields_of_get? {value entry : Json} {key : String}
    (found : value.get? key = some entry) :
    ∃ fields, value = .object fields ∧ Fields.lookup fields key = some entry := by
  cases value with
  | object fields => exact ⟨fields, rfl, found⟩
  | null | bool _ | number _ | string _ | array _ => cases found

private theorem HasMessage.content?_eq {answer : Json} {message : Fields}
    (has : HasMessage answer message) :
    content? answer = some
      (((message.lookup "content").filter fun content => !content.isBlank).getD (.string "")) := by
  obtain ⟨entries, choice, rest, rfl, choices, found⟩ := has
  have first : firstChoice? (.object entries) = some (.object choice) := by
    unfold firstChoice?
    rw [Json.get?, choices]
  have stored : (firstChoice? (.object entries)).bind (fun choice => choice.get? "message") =
      some (.object message) := by
    rw [first]
    exact found
  unfold content?
  rw [stored]
  rfl

private theorem hasMessage_of_content? {answer content : Json}
    (found : content? answer = some content) :
    ∃ message, HasMessage answer message := by
  unfold content? at found
  split at found
  · next message stored =>
      obtain ⟨first, isFirst, stored⟩ := Option.bind_eq_some_iff.mp stored
      obtain ⟨choice, rfl, told⟩ := exists_fields_of_get? stored
      unfold firstChoice? at isFirst
      split at isFirst
      · next rest choices =>
          obtain ⟨entries, rfl, listed⟩ := exists_fields_of_get? choices
          obtain rfl := Option.some.inj isFirst
          exact ⟨message, entries, choice, rest, rfl, listed, told⟩
      · cases isFirst
  · cases found

private theorem completes_codeOf_of_hasMessage {answer : Json} {message : Fields}
    (has : HasMessage answer message) : Completes answer (codeOf answer) := by
  unfold codeOf
  rw [has.content?_eq]
  cases stored : message.lookup "content" with
  | none => exact .absent has stored
  | some content =>
      rw [Option.filter_some]
      cases isBlank : content.isBlank with
      | true => exact .blank has stored isBlank
      | false =>
          cases content with
          | string text => exact .text has stored
          | null | bool _ | number _ | array _ | object _ =>
              simp only [Bool.not_false, ↓reduceIte, Option.getD_some, code?, isBlank,
                Bool.false_eq_true]
              exact .wrongType has stored isBlank rfl

private theorem completes_codeOf (answer : Json) : Completes answer (codeOf answer) := by
  by_cases has : ∃ message, HasMessage answer message
  · obtain ⟨message, has⟩ := has
    exact completes_codeOf_of_hasMessage has
  · have noContent : content? answer = none := by
      cases found : content? answer with
      | none => rfl
      | some content => exact absurd (hasMessage_of_content? found) has
    unfold codeOf
    rw [noContent]
    exact .noMessage (not_exists.mp has)

theorem Completes.isTrimmed {answer : Json} {result : Except Failure String}
    (completes : Completes answer result) {code : String} (completed : result = .ok code) :
    Text.IsTrimmed code := by
  cases completes with
  | text _ _ =>
      rw [← Except.ok.inj completed]
      exact isTrimmed_codeBlock _
  | absent _ _ | blank _ _ _ =>
      rw [← Except.ok.inj completed]
      exact isTrimmed_codeBlock ""
  | wrongType _ _ _ _ => cases completed
  | noMessage _ => cases completed

/-! ### Questions -/

variable {client : Client}

/-- Everything in the body that a model is asked with has a text, whatever the design holds. -/
theorem Client.exists_request (question : Question) {address : Url}
    (addressed : Url.read client.url = .ok address)
    (drawn : client.sampling.temperature.isFinite = true)
    (named : isWritable question.model = true) :
    ∃ request, (client.order question).request = .ok request := by
  have writable : (client.order question).body.all isWritable = true := by
    simp [order, payload, message, isWritable, areWritable, fieldsAreWritable, drawn, named]
  have resolved : (client.order question).resolve = .ok address := addressed
  unfold Order.request
  rw [resolved]
  simp only [writable, ↓reduceIte]
  exact ⟨_, rfl⟩

private theorem Client.result_generate (question : Question) (replies : Replies) :
    (client.generate question replies).result =
      match (client.policy.execute (client.order question) replies).result with
      | .ok answer => codeOf answer
      | .error error => .error (.call error) :=
  rfl

/-- A question ends with what belongs to the answer of the model, or with a remote error; without
an answer, it breaks off only if the transport does or if a wait has no text.  Code has no blanks
around it. -/
theorem Client.generate_ends {question : Question} {address : Url}
    (addressed : Url.read client.url = .ok address)
    (drawn : client.sampling.temperature.isFinite = true)
    (named : isWritable question.model = true) (replies : Replies) :
    ((∃ answer, AnsweredBy replies client.policy.maxAttempts answer ∧
        (client.policy.execute (client.order question) replies).result = .ok answer ∧
        Completes answer (client.generate question replies).result) ∨
      (∃ error, (client.generate question replies).result = .error (.remote error)) ∨
      (∃ i < client.policy.maxAttempts, ∃ fault, replies i = .foreign fault ∧
        (client.generate question replies).result = .error (.call (.foreign fault))) ∨
      (∃ i < client.policy.maxAttempts, client.policy.Overruns (i + 1) (replies i) ∧
        (client.generate question replies).result = .error (.call .wait))) ∧
    ∀ code, (client.generate question replies).result = .ok code → Text.IsTrimmed code := by
  obtain ⟨request, sendable⟩ := exists_request question addressed drawn named
  have concluded : client.policy.Concludes replies
      (client.policy.execute (client.order question) replies).result :=
    RetryPolicy.concludes_execute sendable replies
  rw [result_generate]
  generalize (client.policy.execute (client.order question) replies).result = result at concluded
  cases concluded with
  | @answered answer given =>
      have completes := completes_codeOf answer
      exact ⟨Or.inl ⟨answer, given, rfl, completes⟩, fun code => completes.isTrimmed⟩
  | failed => exact ⟨Or.inr (Or.inl ⟨_, rfl⟩), fun code completed => nomatch completed⟩
  | broken within reply =>
      exact ⟨Or.inr (Or.inr (Or.inl ⟨_, within, _, reply, rfl⟩)),
        fun code completed => nomatch completed⟩
  | overrun within overruns =>
      exact ⟨Or.inr (Or.inr (Or.inr ⟨_, within, overruns, rfl⟩)),
        fun code completed => nomatch completed⟩

/-- After a rate limit, the model answers in prose around a block of code. -/
theorem Client.generate_answers_second_attempt :
    let client : Client := { policy := .standard 2 (by decide) }
    let question : Question := ⟨⟨{ name := "card" }, []⟩, "mui-tsx", "Card", none, .string "m"⟩
    let text := "\x7b\"choices\":[\x7b\"message\":\x7b\"content\":"
      ++ "\"Sure:\\n\x60\x60\x60tsx\\n  x;\\t\\n\x60\x60\x60\\nBye\"\x7d\x7d]\x7d"
    let replies := Replies.ofList
      [.response { status := 429, headers := [("retry-after", "1")] },
        .response { status := 200, body := text.toUTF8.data.toList }]
    (client.generate question replies).result = .ok "x;" ∧ Text.IsTrimmed "x;" := by
  intro client question text replies
  have answered : (client.policy.execute (client.order question) replies).result =
      .ok (.object [("choices", .array [.object [("message", .object [("content",
        .string "Sure:\n\x60\x60\x60tsx\n  x;\t\n\x60\x60\x60\nBye")])]])]) := by
    decide +kernel
  have completed : (client.generate question replies).result = .ok "x;" := by
    rw [result_generate, answered]
    rfl
  have addressed : Url.read client.url = .ok
      ⟨"http".toList, "localhost:5000".toList, "/api/proxy/openai".toList, none⟩ := by
    decide +kernel
  have drawn : client.sampling.temperature.isFinite = true := by
    decide +kernel
  have named : isWritable question.model = true := rfl
  obtain ⟨-, isTrimmed⟩ := generate_ends addressed drawn named replies
  exact ⟨completed, isTrimmed "x;" completed⟩

/-- A content that is a number other than zero is neither code nor a remote error. -/
theorem Client.generate_breaks_off_at_numeric_content :
    let client : Client := {}
    let question : Question := ⟨⟨{ name := "card" }, []⟩, "mui-tsx", "Card", none, .string "m"⟩
    let text := "\x7b\"choices\":[\x7b\"message\":\x7b\"content\":5\x7d\x7d]\x7d"
    let replies := Replies.ofList
      [.response { status := 200, body := text.toUTF8.data.toList }]
    (client.generate question replies).result = .error (.shape .wrongType) ∧
      (∀ code, (client.generate question replies).result ≠ .ok code) ∧
      ∀ error, (client.generate question replies).result ≠ .error (.remote error) := by
  intro client question text replies
  have answered : (client.policy.execute (client.order question) replies).result =
      .ok (.object [("choices", .array [.object [("message", .object [("content",
        .number (.int 5))])]])]) := by
    decide +kernel
  have failed : (client.generate question replies).result = .error (.shape .wrongType) := by
    rw [result_generate, answered]
    rfl
  refine ⟨failed, fun code given => ?_, fun error given => ?_⟩
  · rw [failed] at given
    cases given
  · rw [failed] at given
    cases given

end DesignCompiler.Completion
