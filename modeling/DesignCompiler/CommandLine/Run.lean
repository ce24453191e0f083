import DesignCompiler.CommandLine.Grammar
import DesignCompiler.CommandLine.Progress
import DesignCompiler.Component.Compile
import DesignCompiler.Component.Output
import DesignCompiler.ModelStore
import DesignCompiler.Settings

/-!
Contract: what the commands do.

Owns:
- `Context`, what the commands are told by their surroundings;
- `Outcome`, everything that a command does: requests and waits, the files afterwards, its output
  and how it ends;
- `run`, the outcome of the arguments.

A command that fails in an expected way shows the failure and ends with status one.  It writes a
component only after everything else has succeeded.  Its output and its diagnostics are accepted
whatever they hold, so that no command ends for what it says after it has written.

Does not own: how requests are answered.
-/

set_option autoImplicit false

namespace DesignCompiler.CommandLine

open DesignCompiler.Files DesignCompiler.Http

/-- What the commands are told by their surroundings. -/
structure Context where
  token : Option String
  home : String
  users : Users := fun _ => none
  /-- The directory of the remembered model. -/
  directory : Path
  /-- The model that is used when none is remembered. -/
  usualModel : String := "gpt-4o"
  figma : Figma.Client := { token := "" }
  completion : Completion.Client := {}
  /-- The depth of the root element inside the source of a component. -/
  markupDepth : Int := Component.markupDepth

inductive CommandError where
  | failed (failure : Failure)
  | file (error : FileError)
  /-- The output has no path. -/
  | output (fault : Component.OutputFault)
  /-- Nothing is left of an argument's value. -/
  | missingValue

def CommandError.message : CommandError → String
  | .failed failure => failure.message
  | .file error => error.message
  | .output fault => fault.message
  | .missingValue => "not enough values to unpack (expected 1, got 0)"

/-- Everything that a command does. -/
structure Outcome where
  events : List Event := []
  tree : Tree
  /-- What is shown at the end. -/
  output : String := ""
  /-- The status, or the failure that ends the program. -/
  result : Except CommandError Int

def versionText : String := "cascade 1.0.0\n"

def tokenHelp : String :=
  "Please set your Figma personal access token as FIGMA_TOKEN environment variable.\n"
    ++ "Example: export FIGMA_TOKEN=your_token_here\n"
    ++ "Get your token at: https://www.figma.com/developers/api#authentication\n"

/-- How an expected failure is shown; none for other ones, which end the program. -/
def CommandError.report? : CommandError → Option String
  | .failed (.credential use) =>
    some ("Error: " ++ Failure.credentialMessage use ++ "\n" ++ tokenHelp)
  | .failed failure =>
    if failure.isExpected then some ("Error: " ++ failure.message ++ "\n") else none
  | .file error =>
    error.cause.systemText?.map fun _ =>
      "Error: failed to write component: " ++ error.message ++ "\n"
  | .output _ | .missingValue => none

def fail (tree : Tree) (events : List Event) (error : CommandError) : Outcome :=
  { events, tree, result := .error error }

def clientOf? (context : Context) : Except Failure Figma.Client :=
  match context.token.filter fun token => !token.isEmpty with
  | some token => .ok { context.figma with token }
  | none => .error (.credential .command)

/-- Makes a remote call with the environment's token and goes on with what it yields. -/
def withFetch {α : Type} (context : Context) (tree : Tree) (fetch : Figma.Client → Run Failure α)
    (next : List Event → α → Outcome) : Outcome :=
  match clientOf? context with
  | .error failure => fail tree [] (.failed failure)
  | .ok client =>
    let run := fetch client
    match run.result with
    | .error failure => fail tree run.events (.failed failure)
    | .ok value => next run.events value

/-! ## Frames -/

def frameLines (position : Nat) (frame : Design.Node) : String :=
  let a := frame.attributes
  let size (member : Design.Box → Number) : String :=
    match a.box with
    | some box => (member box).text
    | none => "N/A"
  (Number.int position).text ++ ". " ++ a.name ++ "\n   ID: " ++ a.id
    ++ "\n   Size: " ++ size Design.Box.width ++ " x " ++ size Design.Box.height
    ++ "\n   Type: " ++ a.kind.tag ++ "\n"
    ++ (match a.background with
      | some color => "   Background: "
          ++ (Json.object (color.channels ++ color.extras)).render .asciiLine ++ "\n"
      | none => "")
    ++ "\n"

/-- The lines about the frames of a listing, the first of which has the given position. -/
def framesLines : Nat → List Design.Node → String
  | _, [] => ""
  | position, frame :: rest => frameLines position frame ++ framesLines (position + 1) rest

def framesOutput (fileKey : String) (frames : List Design.Node) : String :=
  if frames.isEmpty then "No frames found in this file.\n"
  else
    "\nFound " ++ (Number.int frames.length).text ++ " frame(s) in file: " ++ fileKey ++ "\n\n"
      ++ framesLines 1 frames

def runFrames (context : Context) (tree : Tree) (replies : Replies) (fileKey : String) : Outcome :=
  withFetch context tree (fun client => client.listFrames fileKey replies) fun events frames =>
    { events, tree, output := framesOutput fileKey frames, result := .ok 0 }

def runFrame (context : Context) (tree : Tree) (replies : Replies) (fileKey frameId : String) :
    Outcome :=
  withFetch context tree (fun client => client.fetchDocument fileKey frameId replies)
    fun events document =>
      { events, tree, output := document.render .indented ++ "\n", result := .ok 0 }

/-! ## Components -/

/-- The name of the component: the one given, unless it is absent or empty. -/
def componentName (options : ComponentOptions) (frame : Design.Node) : String :=
  (options.name.filter fun name => !name.isEmpty).getD (Component.suggest frame.attributes.name)

def savedOutput (path : Path) (variant : Component.Variant) (name : String) : String :=
  "✓ Component saved to: " ++ path.text ++ "\n✓ Framework: " ++ variant.name
    ++ "\n✓ Component name: " ++ name ++ "\n"

/-- The source of the component: compiled, or written by a language model.  The replies are those
after the fetch. -/
def sourceOf (context : Context) (tree : Tree) (replies : Replies) (options : ComponentOptions)
    (variant : Component.Variant) (frame : Design.Node) : Run Failure String :=
  let name := componentName options frame
  if options.ai then
    context.completion.generate
      { root := frame, framework := variant.name, name, instructions := some options.instructions,
        model := ModelStore.resolve options.model (ModelStore.selected tree context.directory)
          context.usualModel } replies
  else
    ⟨[], match Component.compile? frame variant (some name) (some options.instructions)
        context.markupDepth with
      | .ok source => .ok source
      | .error fault => .error (.color fault)⟩

def saveSource (context : Context) (tree : Tree) (events : List Event) (options : ComponentOptions)
    (variant : Component.Variant) (name source : String) : Outcome :=
  match Component.outputPath tree.here context.home name variant options.output
      context.users with
  | .error fault => fail tree events (.output fault)
  | .ok path =>
    match Component.write tree path source with
    | (tree, .error error) => fail tree events (.file error)
    | (tree, .ok ()) => { events, tree, output := savedOutput path variant name, result := .ok 0 }

def runToReact (context : Context) (tree : Tree) (replies : Replies) (fileKey frameId : String)
    (options : ComponentOptions) : Outcome :=
  match (options.name.filter fun name => !name.isEmpty).mapM Component.validate with
  | .error error => fail tree [] (.failed (.name error))
  | .ok _ =>
    let variant := Component.Variant.resolve (some options.framework)
    withFetch context tree (fun client => client.fetchFrame fileKey frameId replies)
      fun events frame =>
        let sent := (Run.requests (⟨events, .ok ()⟩ : Run Failure Unit)).length
        let source := sourceOf context tree (replies.after sent) options variant frame
        match source.result with
        | .error failure => fail tree (events ++ source.events) (.failed failure)
        | .ok text =>
          saveSource context tree (events ++ source.events) options variant
            (componentName options frame) text

/-! ## Models -/

def runGetModel (context : Context) (tree : Tree) : Outcome :=
  let selected := ModelStore.selected tree context.directory
  let output :=
    match selected.filter fun model => !model.isBlank with
    | some model => model.display ++ "\n"
    | none => "No model selected; using default "
        ++ (ModelStore.resolve none selected context.usualModel).display
        ++ " (" ++ (ModelStore.file context.directory).text ++ ")\n"
  { tree, output, result := .ok 0 }

def runSetModel (context : Context) (tree : Tree) (model : String) : Outcome :=
  match ModelStore.select tree context.directory model with
  | (tree, .error error) => fail tree [] (.file error)
  | (tree, .ok path) =>
    { tree, output := "Selected model set to " ++ model ++ " (" ++ path.text ++ ")\n",
      result := .ok 0 }

/-! ## The program -/

def runCommand (context : Context) (tree : Tree) (replies : Replies) : Command → Outcome
  | .frames fileKey => runFrames context tree replies fileKey
  | .frame fileKey frameId => runFrame context tree replies fileKey frameId
  | .toReact fileKey frameId options => runToReact context tree replies fileKey frameId options
  | .getModel => runGetModel context tree
  | .setModel model => runSetModel context tree model

def run (context : Context) (tree : Tree) (replies : Replies) (arguments : List String) : Outcome :=
  match parse arguments with
  | .ok command => runCommand context tree replies command
  | .error .usage => { tree, result := .ok 2 }
  | .error .help => { tree, result := .ok 0 }
  | .error .version => { tree, output := versionText, result := .ok 0 }
  | .error .missingValue => fail tree [] .missingValue

namespace Outcome

/-- The requests, waits and reports as a run. -/
def calls (outcome : Outcome) : Run CommandError Int :=
  ⟨outcome.events, outcome.result⟩

def progress (outcome : Outcome) : String :=
  "".intercalate (outcome.calls.reports.map fun attempt => (progress? attempt).getD "")

/-- What is shown beside the output: the progress, and the failure if it is an expected one. -/
def diagnostics (outcome : Outcome) : String :=
  outcome.progress ++
    match outcome.result with
    | .error error => error.report?.getD ""
    | .ok _ => ""

/-- The status of the program; none if a failure that is not expected ends it. -/
def status? (outcome : Outcome) : Option Int :=
  match outcome.result with
  | .ok status => some status
  | .error error => if error.report?.isSome then some 1 else none

end Outcome

end DesignCompiler.CommandLine
