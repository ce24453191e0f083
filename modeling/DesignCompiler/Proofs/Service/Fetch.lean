import DesignCompiler.Proofs.CommandLine.Fetch
import DesignCompiler.Proofs.Service.Call

/-!
Contract: designs that are fetched for a command and for a call of the service.

Owns:
- `SharesClient`, a command line and a service that fetch designs in the same way;
- `AskForFrames` and `AskForComponent`, the arguments and calls that ask both of them for the same;
- what such arguments and calls come to, in terms of what is fetched;
- `FailWith`, a command and a call that come to the same failure.

Does not own: how the two compare, see `DesignCompiler.Proofs.Service.Failure` and
`DesignCompiler.Proofs.Service.Listing`.
-/

set_option autoImplicit false

namespace DesignCompiler.Service

open DesignCompiler.Http DesignCompiler.Files

/-- A command line and a service have the same token and the same settings of the client. -/
structure SharesClient (context : CommandLine.Context) (server : Server) : Prop where
  token : context.token = some server.figma.token
  filled : server.figma.token ≠ ""
  settings : { context.figma with token := server.figma.token } = server.figma

structure AskForFrames (arguments : List String) (call : Call) (fileKey : String) : Prop where
  parsed : CommandLine.parse arguments = .ok (.frames fileKey)
  posts : ∃ fields, Posts call .frames fields ∧ fields.lookup "file_key" = some (.string fileKey)
  filled : fileKey ≠ ""

/-- A call asks for the component of a frame that is to be fetched. -/
def FetchesComponent (call : Call) (component : ComponentRequest) (fileKey frameId : String) :
    Prop :=
  ∃ fields target, Posts call .toReact fields ∧ readComponent fields = .ok component ∧
    readTarget fields = .ok target ∧ target.resolve = .ok (fileKey, frameId)

/-- Arguments and a call ask for the component of a frame.  They need not agree on its options. -/
structure AskForComponent (arguments : List String) (call : Call) (fileKey frameId : String) :
    Prop where
  parsed : ∃ options, CommandLine.parse arguments = .ok (.toReact fileKey frameId options) ∧
    options.HasUsableName
  fetches : ∃ component, FetchesComponent call component fileKey frameId

variable {server : Server}

/-! ### The service -/

theorem AskForFrames.exists_handle_eq {arguments : List String} {call : Call} {fileKey : String}
    (ask : AskForFrames arguments call fileKey) (filled : server.figma.token ≠ "")
    (replies : Replies) :
    (∃ fields, Posts call .frames fields) ∧
      server.handle .frames call replies =
        (server.figma.listFrames fileKey replies).finish fun result =>
          match result with
          | .ok frames => listing fileKey frames
          | .error failure => answerFailure failure := by
  obtain ⟨fields, posts, key⟩ := ask.posts
  have notEmpty : server.figma.token.isEmpty = false := by simpa using filled
  refine ⟨⟨fields, posts⟩, ?_⟩
  rw [posts.handle_frames key ask.filled, Server.frames, notEmpty]
  rfl

theorem FetchesComponent.exists_handle_eq {call : Call} {component : ComponentRequest}
    {fileKey frameId : String} (fetches : FetchesComponent call component fileKey frameId)
    (filled : server.figma.token ≠ "") (replies : Replies) :
    (∃ fields, Posts call .toReact fields) ∧
      server.handle .toReact call replies =
        (server.figma.fetchFrame fileKey frameId replies).finish fun result =>
          match result with
          | .ok root => compiled root component
          | .error failure => answerFailure failure := by
  obtain ⟨fields, target, posts, asked, aimed, resolved⟩ := fetches
  have notEmpty : server.figma.token.isEmpty = false := by simpa using filled
  refine ⟨⟨fields, posts⟩, ?_⟩
  rw [posts.handle_toReact asked aimed, Server.toReact, notEmpty, resolved]
  rfl

/-! ### The commands -/

variable {arguments : List String} {call : Call} {fileKey frameId : String}

theorem SharesClient.clientOf?_eq {context : CommandLine.Context}
    (shares : SharesClient context server) :
    CommandLine.clientOf? context = .ok server.figma := by
  have notEmpty : server.figma.token.isEmpty = false := by simpa using shares.filled
  unfold CommandLine.clientOf?
  rw [shares.token, Option.filter_some, notEmpty]
  exact congrArg Except.ok shares.settings

theorem AskForFrames.run_eq (ask : AskForFrames arguments call fileKey)
    (context : CommandLine.Context) (tree : Tree) (replies : Replies) :
    CommandLine.run context tree replies arguments =
      CommandLine.runFrames context tree replies fileKey :=
  CommandLine.run_of_parse ask.parsed context tree replies

theorem AskForComponent.run_eq (ask : AskForComponent arguments call fileKey frameId)
    (context : CommandLine.Context) (tree : Tree) (replies : Replies) :
    ∃ options : CommandLine.ComponentOptions, options.HasUsableName ∧
      CommandLine.run context tree replies arguments =
        CommandLine.runToReact context tree replies fileKey frameId options := by
  obtain ⟨options, parsed, usable⟩ := ask.parsed
  exact ⟨options, usable, CommandLine.run_of_parse parsed context tree replies⟩

/-! ### Failed fetches -/

/-- A command and a call come to the same failure after the same events. -/
def FailWith (failure : Failure) (tree : Tree) (outcome : CommandLine.Outcome) (server : Server)
    (call : Call) (replies : Replies) : Prop :=
  ∃ endpoint fields events, Posts call endpoint fields ∧ endpoint.method = "POST" ∧
    server.handle endpoint call replies = ⟨events, answerFailure failure⟩ ∧
    outcome = CommandLine.fail tree events (.failed failure)

variable {context : CommandLine.Context} {replies : Replies} {failure : Failure}

theorem AskForFrames.failWith (ask : AskForFrames arguments call fileKey)
    (shares : SharesClient context server) (tree : Tree)
    (failed : (server.figma.listFrames fileKey replies).result = .error failure) :
    FailWith failure tree (CommandLine.run context tree replies arguments) server call replies := by
  obtain ⟨⟨fields, posts⟩, handled⟩ := ask.exists_handle_eq shares.filled replies
  refine ⟨.frames, fields, (server.figma.listFrames fileKey replies).events, posts, rfl, ?_, ?_⟩
  · rw [handled, Run.finish, failed]
  · rw [ask.run_eq, CommandLine.runFrames,
      CommandLine.withFetch_of_error shares.clientOf?_eq tree _ failed]

theorem AskForComponent.failWith (ask : AskForComponent arguments call fileKey frameId)
    (shares : SharesClient context server) (tree : Tree)
    (failed : (server.figma.fetchFrame fileKey frameId replies).result = .error failure) :
    FailWith failure tree (CommandLine.run context tree replies arguments) server call replies := by
  obtain ⟨options, usable, isRun⟩ := ask.run_eq context tree replies
  obtain ⟨component, fetches⟩ := ask.fetches
  obtain ⟨⟨fields, posts⟩, handled⟩ := fetches.exists_handle_eq shares.filled replies
  refine ⟨.toReact, fields, (server.figma.fetchFrame fileKey frameId replies).events, posts, rfl,
    ?_, ?_⟩
  · rw [handled, Run.finish, failed]
  · rw [isRun, CommandLine.runToReact_of_error shares.clientOf?_eq tree replies usable failed]

end DesignCompiler.Service
