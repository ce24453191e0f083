import DesignCompiler.Proofs.Json.Equality
import DesignCompiler.Proofs.Service.Fetch
import Mathlib.Control.Monad.Basic

/-!
Contract: failures of a fetch, on the command line and in the answers of the service.

Owns: the law that both report such a failure with the same message, after the same requests and
the same waits.

Does not own: which failures a fetch has, see `DesignCompiler.Proofs.Http.Decision`.
-/

set_option autoImplicit false

namespace DesignCompiler.Service

open DesignCompiler.Http DesignCompiler.Files

/-- The status and the text with which a failure with a message is answered. -/
inductive Refuses (message : String) : Failure → Nat → String → Prop
  | notFound (error : RemoteError) (kind : error.kind = .notFound) :
      Refuses message (.call (.remote error)) 404 message
  | unauthorized (error : RemoteError) (kind : error.kind = .unauthorized) :
      Refuses message (.call (.remote error)) 401 message
  | rateLimited (error : RemoteError) (kind : error.kind = .rateLimited) :
      Refuses message (.call (.remote error)) 429 message
  | otherCall (error : RemoteError)
      (kind : error.kind ≠ .notFound ∧ error.kind ≠ .unauthorized ∧ error.kind ≠ .rateLimited) :
      Refuses message (.call (.remote error)) 502 ("Figma API error: " ++ message)
  | design (refusal : Design.Refusal) :
      Refuses message (.design refusal) 502 ("Figma API error: " ++ message)

private theorem exists_refuses {failure : Failure} (reported : failure.IsReported) :
    ∃ status text, Refuses failure.message failure status text ∧
      answerFailure failure = .ok (.refusal status (.string text)) := by
  cases reported with
  | call error =>
      cases kind : error.kind with
      | notFound =>
          refine ⟨_, _, .notFound error kind, ?_⟩
          simp only [answerFailure, kind, Failure.message]
      | unauthorized =>
          refine ⟨_, _, .unauthorized error kind, ?_⟩
          simp only [answerFailure, kind, Failure.message]
      | rateLimited =>
          refine ⟨_, _, .rateLimited error kind, ?_⟩
          simp only [answerFailure, kind, Failure.message]
      | network | malformedResponse =>
          refine ⟨_, _, .otherCall error (by simp [kind]), ?_⟩
          simp only [answerFailure, kind, Failure.message]
  | design found message => exact ⟨_, _, .design ⟨.defective found, message⟩, rfl⟩

/-- The message of a failure of a fetch: that of the error of a remote call, or the one about a
value that was fetched and describes no tree, in the words of a report. -/
inductive IsMessageOf (report : Option Design.Report) : Failure → String → Prop
  | call (error : RemoteError) : IsMessageOf report (.call (.remote error)) error.message
  | design {value : Json} {found : List Design.Defect} {message : String}
      (unread : Design.Node.read value = .error (.defective found))
      (said : message = (Design.ReadError.defective found).messageAbout report value) :
      IsMessageOf report (.design ⟨.defective found, message⟩) message

private theorem IsMessageOf.message_eq {report : Option Design.Report} {failure : Failure}
    {message : String} (isMessage : IsMessageOf report failure message) :
    failure.message = message := by
  cases isMessage <;> rfl

private theorem isMessageOf_message {α : Type} {report : Option Design.Report} {failure : Failure}
    (reported : failure.IsReported)
    (explains : Figma.Explains report (.error failure : Except Failure α)) :
    IsMessageOf report failure failure.message := by
  cases reported with
  | call error => exact .call error
  | design found message =>
      obtain ⟨value, unread, said⟩ := explains _ rfl
      exact .design unread said

/-- A command and a call both end with the message of a failure, having done the same before. -/
structure ReportedAlike (failure : Failure) (message : String) (outcome : CommandLine.Outcome)
    (run : Run Empty Answer) : Prop where
  status : outcome.status? = some 1
  diagnostics : outcome.diagnostics = outcome.progress ++ ("Error: " ++ message ++ "\n")
  answered : ∃ status text, Refuses message failure status text ∧
    IsAnswered run status (detail text)
  requests : run.requests = outcome.calls.requests
  sleeps : run.sleeps = outcome.calls.sleeps

section

variable {context : CommandLine.Context} {server : Server} {arguments : List String} {call : Call}
  {fileKey frameId : String} {failure : Failure} {tree : Tree} {replies : Replies}

/-- A command and a call that come to the same failure report it alike. -/
theorem FailWith.reportedAlike {outcome : CommandLine.Outcome}
    (fails : FailWith failure tree outcome server call replies) (reported : failure.IsReported) :
    ReportedAlike failure failure.message outcome (server.serve call replies) := by
  obtain ⟨endpoint, fields, events, posts, isPosted, handled, rfl⟩ := fails
  have same : (server.serve call replies).events = events := by
    rw [posts.events_serve isPosted, handled]
  obtain ⟨status, text, refuses, refused⟩ := exists_refuses reported
  have result : (server.handle endpoint call replies).result =
      .ok (.refusal status (.string text)) := by
    rw [handled]
    exact refused
  constructor
  · exact CommandLine.status?_fail_of_isExpected tree events reported.isExpected
  · exact reported.diagnostics_fail tree events
  · exact ⟨status, text, refuses, posts.isAnswered_of_ok isPosted result⟩
  · exact congrArg (fun events => (⟨events, .ok ()⟩ : Run Failure Unit).requests) same
  · exact congrArg (fun events => (⟨events, .ok ()⟩ : Run Failure Unit).sleeps) same

/-- Whatever the replies are, a failure to fetch a frame or the frames of a file is reported with
one message by a command and by the service that shares its client. -/
theorem reportedAlike_of_failed_fetch (shares : SharesClient context server)
    (reported : failure.IsReported) :
    (∀ fileKey frameId, AskForComponent arguments call fileKey frameId →
      (server.figma.fetchFrame fileKey frameId replies).result = .error failure →
      ∃ message, IsMessageOf server.figma.report failure message ∧
        ReportedAlike failure message (CommandLine.run context tree replies arguments)
          (server.serve call replies)) ∧
    ∀ fileKey, AskForFrames arguments call fileKey →
      (server.figma.listFrames fileKey replies).result = .error failure →
      ∃ message, IsMessageOf server.figma.report failure message ∧
        ReportedAlike failure message (CommandLine.run context tree replies arguments)
          (server.serve call replies) := by
  constructor
  · intro fileKey frameId ask failed
    have explains := server.figma.explains_fetchFrame fileKey frameId replies
    rw [failed] at explains
    exact ⟨_, isMessageOf_message reported explains,
      (ask.failWith shares tree failed).reportedAlike reported⟩
  · intro fileKey ask failed
    have explains := server.figma.explains_listFrames fileKey replies
    rw [failed] at explains
    exact ⟨_, isMessageOf_message reported explains,
      (ask.failWith shares tree failed).reportedAlike reported⟩

end

/-- A file that the service asks to wait for and then does not have. -/
theorem reportedAlike_of_missing_file :
    let context : CommandLine.Context :=
      { token := some "token", home := "/", directory := ⟨1, ["home"]⟩ }
    let server : Server := { figma := { token := "token" } }
    let componentCall : Call :=
      .posting "/api/v2/figma/to-react" "\x7b\"file_key\":\"K\",\"frame_id\":\"1-2\"\x7d"
    let framesCall : Call := .posting "/api/v2/figma/frames" "\x7b\"file_key\":\"K\"\x7d"
    let replies := Replies.ofList
      [.response { status := 429, headers := [("retry-after", "1")] }, .response { status := 404 }]
    let message := "File not found or you do not have access to this file."
    let failure := Failure.remote ⟨.notFound, message, some 404⟩
    ReportedAlike failure message
        (CommandLine.run context (.empty []) replies ["figma", "to-react", "K", "1-2"])
        (server.serve componentCall replies) ∧
      ReportedAlike failure message
        (CommandLine.run context (.empty []) replies ["figma", "frames", "K"])
        (server.serve framesCall replies) := by
  intro context server componentCall framesCall replies message failure
  have shares : SharesClient context server := ⟨rfl, by decide, rfl⟩
  have reported : failure.IsReported := .call _
  have componentBody :
      readBody componentCall = .ok [("file_key", .string "K"), ("frame_id", .string "1-2")] := by
    decide +kernel
  have framesBody : readBody framesCall = .ok [("file_key", .string "K")] := by decide +kernel
  let missing : RemoteError :=
    ⟨.notFound, "Resource not found or you do not have access to it (404)", some 404⟩
  have nodeMissing :
      (server.figma.nodeCall "K" "1-2" replies).result = .error (.remote missing) := by
    decide +kernel
  have fileMissing : (server.figma.fileCall "K" replies).result = .error (.remote missing) := by
    decide +kernel
  constructor
  · have asks : AskForComponent ["figma", "to-react", "K", "1-2"] componentCall "K" "1-2" := by
      constructor
      · refine ⟨{}, rfl, ?_⟩
        intro name named
        cases named
      · exact ⟨_, _, _, ⟨rfl, rfl, componentBody⟩, rfl, rfl, rfl⟩
    obtain ⟨said, isMessage, alike⟩ := (reportedAlike_of_failed_fetch shares reported).1 "K" "1-2"
      asks (Figma.Client.result_fetchFrame_of_error nodeMissing)
    rw [← isMessage.message_eq] at alike
    exact alike
  · have asks : AskForFrames ["figma", "frames", "K"] framesCall "K" :=
      ⟨rfl, ⟨_, ⟨rfl, rfl, framesBody⟩, rfl⟩, by decide⟩
    obtain ⟨said, isMessage, alike⟩ := (reportedAlike_of_failed_fetch shares reported).2 "K"
      asks (Figma.Client.result_listFrames_of_error fileMissing)
    rw [← isMessage.message_eq] at alike
    exact alike

end DesignCompiler.Service
