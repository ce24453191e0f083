import DesignCompiler.Proofs.Composition
import DesignCompiler.Proofs.Json.Equality
import DesignCompiler.Proofs.Number.Range
import DesignCompiler.Proofs.Service.Fetch

/-!
Contract: the two listings of the frames of a file.

Owns:
- `Entry`, what both listings say about a frame, and the relations to what a command prints and to
  what the service answers;
- the law that both list the same entries, and its limit: the service fails as soon as a background
  has an entry besides its channels that is no number.

Does not own: which frames are listed, see `DesignCompiler.Proofs.Figma.Frames`.
-/

set_option autoImplicit false

namespace DesignCompiler.Service

open DesignCompiler.Http DesignCompiler.Files

/-! ### Entries -/

/-- What both listings say about a frame. -/
structure Entry where
  id : String
  name : String
  type : String
  /-- The width and the height, absent where there is no box. -/
  size : Option (Number × Number)

def Entry.of (frame : Design.Node) : Entry :=
  { id := frame.attributes.id
    name := frame.attributes.name
    type := frame.attributes.kind.tag
    size := frame.attributes.box.map fun box => (box.width, box.height) }

def Entry.text (position : Nat) (entry : Entry) : String :=
  let shown (member : Number × Number → Number) : String :=
    match entry.size with
    | some size => (member size).text
    | none => "N/A"
  (Number.int position).text ++ ". " ++ entry.name ++ "\n   ID: " ++ entry.id
    ++ "\n   Size: " ++ shown Prod.fst ++ " x " ++ shown Prod.snd
    ++ "\n   Type: " ++ entry.type ++ "\n"

/-- Lines print entries, the first of which has the given position.  A line about the background may
follow those about an entry. -/
inductive PrintsEntries : Nat → List Entry → String → Prop
  | nil {position : Nat} : PrintsEntries position [] ""
  | plain {position : Nat} {entry : Entry} {rest : List Entry} {text : String} :
      PrintsEntries (position + 1) rest text →
      PrintsEntries position (entry :: rest) (entry.text position ++ "\n" ++ text)
  | colored {position : Nat} {entry : Entry} {rest : List Entry} {text : String}
      (background : String) :
      PrintsEntries (position + 1) rest text →
      PrintsEntries position (entry :: rest)
        (entry.text position ++ ("   Background: " ++ background ++ "\n") ++ "\n" ++ text)

inductive PrintsListing (fileKey : String) : List Entry → String → Prop
  | none : PrintsListing fileKey [] "No frames found in this file.\n"
  | some {entry : Entry} {rest : List Entry} {text : String} :
      PrintsEntries 1 (entry :: rest) text →
      PrintsListing fileKey (entry :: rest)
        ("\nFound " ++ (Number.int (entry :: rest).length).text ++ " frame(s) in file: " ++ fileKey
          ++ "\n\n" ++ text)

/-- A member of a summary is null where there is no size, and otherwise the size as a double. -/
inductive IsSize : Option Number → Json → Prop
  | none : IsSize none .null
  | some {size : Number} {value : Binary64} :
      size.toBinary64? = some value → IsSize (some size) (.number (.float value))

def Entry.summary (entry : Entry) (width height color : Json) : Json :=
  .object [("id", .string entry.id), ("name", .string entry.name), ("type", .string entry.type),
    ("width", width), ("height", height), ("background_color", color)]

/-- A summary tells what an entry says. -/
def Entry.IsSummarised (entry : Entry) (summary : Json) : Prop :=
  ∃ width height color, summary = entry.summary width height color ∧
    IsSize (entry.size.map Prod.fst) width ∧ IsSize (entry.size.map Prod.snd) height

/-! ### What is summarised -/

/-- The numbers that a listing shows of a frame are finite. -/
structure HasFiniteNumbers (frame : Design.Node) : Prop where
  size : ∀ box ∈ frame.attributes.box, box.width.IsFinite ∧ box.height.IsFinite
  background : ∀ color ∈ frame.attributes.background,
    color.red.IsFinite ∧ color.green.IsFinite ∧ color.blue.IsFinite ∧ color.alpha.IsFinite

instance (frame : Design.Node) : Decidable (HasFiniteNumbers frame) :=
  decidable_of_iff
    ((∀ box ∈ frame.attributes.box, box.width.IsFinite ∧ box.height.IsFinite) ∧
      ∀ color ∈ frame.attributes.background,
        color.red.IsFinite ∧ color.green.IsFinite ∧ color.blue.IsFinite ∧ color.alpha.IsFinite)
    ⟨fun both => ⟨both.1, both.2⟩, fun finite => ⟨finite.size, finite.background⟩⟩

/-- Whatever the background of a frame holds besides its channels stands for a double. -/
def HasNumericExtras (frame : Design.Node) : Prop :=
  ∀ color ∈ frame.attributes.background,
    ∀ entry ∈ color.extras, (colorMember? entry.2).isSome = true

instance (frame : Design.Node) : Decidable (HasNumericExtras frame) :=
  inferInstanceAs (Decidable (∀ color ∈ frame.attributes.background,
    ∀ entry ∈ color.extras, (colorMember? entry.2).isSome = true))

private theorem exists_boxSummary {box : Option Design.Box} (member : Design.Box → Number)
    (finite : ∀ present ∈ box, (member present).IsFinite) :
    ∃ summary, boxSummary? box member = some summary ∧ IsSize (box.map member) summary := by
  cases box with
  | none => exact ⟨.null, rfl, .none⟩
  | some present =>
      obtain ⟨value, isDouble⟩ := finite present rfl
      refine ⟨.number (.float (.finite value)), ?_, .some isDouble⟩
      unfold boxSummary?
      dsimp only
      rw [isDouble]
      rfl

private theorem isSome_colorMember_of_isFinite {number : Number} (finite : number.IsFinite) :
    (colorMember? (.number number)).isSome = true := by
  obtain ⟨value, isDouble⟩ := finite
  unfold colorMember?
  dsimp only
  rw [isDouble]
  rfl

private theorem HasFiniteNumbers.isSome_colorMember {frame : Design.Node}
    (finite : HasFiniteNumbers frame)
    {color : Design.Color} (isBackground : color ∈ frame.attributes.background)
    {channel : String × Json} (isChannel : channel ∈ color.channels) :
    (colorMember? channel.2).isSome = true := by
  obtain ⟨red, green, blue, alpha⟩ := finite.background color isBackground
  simp only [Design.Color.channels, List.mem_cons, List.not_mem_nil, or_false] at isChannel
  rcases isChannel with rfl | rfl | rfl | rfl
  · exact isSome_colorMember_of_isFinite red
  · exact isSome_colorMember_of_isFinite green
  · exact isSome_colorMember_of_isFinite blue
  · exact isSome_colorMember_of_isFinite alpha

private theorem exists_colorSummary {color : Design.Color}
    (numeric : ∀ entry ∈ color.channels ++ color.extras, (colorMember? entry.2).isSome = true) :
    ∃ summary, colorSummary? color = some summary := by
  have shown : ∀ entry ∈ color.channels ++ color.extras, ∃ member,
      (colorMember? entry.2).map (fun value => (entry.1, shownNumber value)) = some member ∧
        member.1 = entry.1 := by
    intro entry isEntry
    obtain ⟨value, isDouble⟩ := Option.isSome_iff_exists.mp (numeric entry isEntry)
    rw [isDouble]
    exact ⟨_, rfl, rfl⟩
  obtain ⟨members, summarised, -⟩ := exists_mapM_eq_some shown
  refine ⟨.object members, ?_⟩
  unfold colorSummary?
  rw [summarised]
  rfl

private theorem colorSummary?_eq_none {color : Design.Color} {entry : String × Json}
    (isExtra : entry ∈ color.extras) (noDouble : colorMember? entry.2 = none) :
    colorSummary? color = none := by
  unfold colorSummary?
  rw [mapM_eq_none (List.mem_append_right color.channels isExtra)]
  · rfl
  · rw [noDouble]
    rfl

def backgroundSummary? (frame : Design.Node) : Option Json :=
  match frame.attributes.background with
  | none => some .null
  | some color => colorSummary? color

private theorem exists_backgroundSummary {frame : Design.Node} (finite : HasFiniteNumbers frame)
    (numeric : HasNumericExtras frame) : ∃ summary, backgroundSummary? frame = some summary := by
  unfold backgroundSummary?
  cases background : frame.attributes.background with
  | none => exact ⟨.null, rfl⟩
  | some color =>
      apply exists_colorSummary
      intro entry isEntry
      rcases List.mem_append.mp isEntry with isChannel | isExtra
      · exact finite.isSome_colorMember background isChannel
      · exact numeric color background entry isExtra

private theorem frameSummary?_eq (frame : Design.Node) :
    frameSummary? frame =
      (boxSummary? frame.attributes.box Design.Box.width).bind fun width =>
        (boxSummary? frame.attributes.box Design.Box.height).bind fun height =>
          (backgroundSummary? frame).bind fun color =>
            some ((Entry.of frame).summary width height color) := by
  unfold frameSummary? backgroundSummary?
  dsimp only
  cases frame.attributes.background <;> rfl

private theorem exists_frameSummary {frame : Design.Node} (finite : HasFiniteNumbers frame)
    (numeric : HasNumericExtras frame) :
    ∃ summary, frameSummary? frame = some summary ∧ (Entry.of frame).IsSummarised summary := by
  obtain ⟨width, isWidth, widthShown⟩ := exists_boxSummary Design.Box.width
    fun box isBox => (finite.size box isBox).1
  obtain ⟨height, isHeight, heightShown⟩ := exists_boxSummary Design.Box.height
    fun box isBox => (finite.size box isBox).2
  obtain ⟨color, isColor⟩ := exists_backgroundSummary finite numeric
  refine ⟨(Entry.of frame).summary width height color, ?_, width, height, color, rfl, ?_, ?_⟩
  · rw [frameSummary?_eq, isWidth, isHeight, isColor]
    rfl
  · rw [Entry.of, Option.map_map]
    exact widthShown
  · rw [Entry.of, Option.map_map]
    exact heightShown

private theorem frameSummary?_eq_none {frame : Design.Node}
    (notNumeric : ¬ HasNumericExtras frame) :
    frameSummary? frame = none := by
  unfold HasNumericExtras at notNumeric
  push Not at notNumeric
  obtain ⟨color, background, entry, isExtra, noDouble⟩ := notNumeric
  have colorless : backgroundSummary? frame = none := by
    unfold backgroundSummary?
    rw [background]
    exact colorSummary?_eq_none isExtra (Option.not_isSome_iff_eq_none.mp noDouble)
  rw [frameSummary?_eq, colorless]
  cases boxSummary? frame.attributes.box Design.Box.width with
  | none => rfl
  | some width => cases boxSummary? frame.attributes.box Design.Box.height <;> rfl

/-! ### What is printed -/

private theorem frameLines_eq (position : Nat) (frame : Design.Node) :
    CommandLine.frameLines position frame =
      (Entry.of frame).text position
        ++ (match frame.attributes.background with
          | some color => "   Background: "
              ++ (Json.object (color.channels ++ color.extras)).render .asciiLine ++ "\n"
          | none => "")
        ++ "\n" := by
  unfold CommandLine.frameLines Entry.text Entry.of
  dsimp only
  cases frame.attributes.background <;> cases frame.attributes.box <;> rfl

private theorem printsEntries_framesLines (position : Nat) (frames : List Design.Node) :
    PrintsEntries position (frames.map Entry.of) (CommandLine.framesLines position frames) := by
  induction frames generalizing position with
  | nil => exact .nil
  | cons frame rest inductionHypothesis =>
      have printed := inductionHypothesis (position + 1)
      rw [CommandLine.framesLines, frameLines_eq]
      cases frame.attributes.background with
      | none =>
          rw [String.append_empty]
          exact .plain printed
      | some color => exact .colored _ printed

private theorem printsListing_framesOutput (fileKey : String) (frames : List Design.Node) :
    PrintsListing fileKey (frames.map Entry.of) (CommandLine.framesOutput fileKey frames) := by
  cases frames with
  | nil => exact .none
  | cons frame rest =>
      have printed := printsEntries_framesLines 1 (frame :: rest)
      rw [List.map_cons] at printed ⊢
      have listed : PrintsListing fileKey _ _ := .some printed
      rw [List.length_cons, List.length_map] at listed
      exact listed

/-! ### Both listings -/

/-- The frames of a document whose numbers are finite are listed alike by a command and by the
service that shares its client, if the backgrounds hold nothing but numbers.  Otherwise the command
lists them all the same, while the service fails. -/
theorem listings_agree_if_numeric {context : CommandLine.Context} {server : Server}
    {arguments : List String} {call : Call} {fileKey : String} {replies : Replies} {body : Fields}
    {document : Json} {root : Design.Node} (tree : Tree) (shares : SharesClient context server)
    (ask : AskForFrames arguments call fileKey)
    (answered : (server.figma.fileCall fileKey replies).result = .ok (.object body))
    (stored : body.lookup "document" = some document)
    (read : Design.Node.read document = .ok root)
    (finite : ∀ frame ∈ root.frames, HasFiniteNumbers frame) :
    let outcome := CommandLine.run context tree replies arguments
    let entries := root.frames.map Entry.of
    outcome.status? = some 0 ∧ PrintsListing fileKey entries outcome.output ∧
      ((∀ frame ∈ root.frames, HasNumericExtras frame) →
        ∃ summaries, List.Forall₂ Entry.IsSummarised entries summaries ∧
          IsAnswered (server.serve call replies) 200
            (.json (.object [("file_key", .string fileKey), ("frames", .array summaries)]))) ∧
      ((∃ frame ∈ root.frames, ¬ HasNumericExtras frame) →
        IsAnswered (server.serve call replies) 500 (.text "Internal Server Error")) := by
  intro outcome entries
  have listed : (server.figma.listFrames fileKey replies).result = .ok root.frames := by
    rw [Figma.Client.result_listFrames answered, Figma.framesOf_object stored read]
  have isOutcome : outcome =
      { events := (server.figma.listFrames fileKey replies).events
        tree
        output := CommandLine.framesOutput fileKey root.frames
        result := .ok 0 } := by
    show CommandLine.run context tree replies arguments = _
    rw [ask.run_eq, CommandLine.runFrames,
      CommandLine.withFetch_of_ok shares.clientOf?_eq tree _ listed]
  obtain ⟨⟨fields, posts⟩, isHandling⟩ := ask.exists_handle_eq shares.filled replies
  have handled : (server.handle .frames call replies).result = listing fileKey root.frames := by
    rw [isHandling, Run.finish, listed]
  rw [isOutcome]
  refine ⟨rfl, printsListing_framesOutput fileKey root.frames, ?_, ?_⟩
  · intro numeric
    have isSummarised : ∀ frame ∈ root.frames, ∃ summary,
        frameSummary? frame = some summary ∧ (Entry.of frame).IsSummarised summary := by
      intro frame isFrame
      exact exists_frameSummary (finite frame isFrame) (numeric frame isFrame)
    obtain ⟨summaries, summarised, related⟩ := exists_mapM_eq_some isSummarised
    have isListing : listing fileKey root.frames = .ok (.success (.object
        [("file_key", .string fileKey), ("frames", .array summaries)])) := by
      unfold listing
      rw [summarised]
    refine ⟨summaries, List.forall₂_map_left_iff.mpr related, ?_⟩
    exact posts.isAnswered_of_ok rfl (handled.trans isListing)
  · intro notNumeric
    obtain ⟨frame, isFrame, notNumeric⟩ := notNumeric
    apply posts.isAnswered_of_error rfl
    · rw [handled]
      unfold listing
      rw [mapM_eq_none isFrame (frameSummary?_eq_none notNumeric)]

/-- A background with a name makes the service fail, although the command lists its frame. -/
theorem listing_fails_for_named_background :
    let context : CommandLine.Context :=
      { token := some "token", home := "/", directory := ⟨1, ["home"]⟩ }
    let server : Server := { figma := { token := "token" } }
    let call : Call := .posting "/api/v2/figma/frames" "\x7b\"file_key\":\"K\"\x7d"
    let text := "\x7b\"document\":\x7b\"type\":\"FRAME\","
      ++ "\"backgroundColor\":\x7b\"r\":1,\"name\":\"x\"\x7d\x7d\x7d"
    let document : Json := .object [("type", .string "FRAME"),
      ("backgroundColor", .object [("r", .number 1), ("name", .string "x")])]
    let replies : Replies := fun _ =>
      .response { status := 200, body := text.toUTF8.data.toList }
    (server.figma.fileCall "K" replies).result = .ok (.object [("document", document)]) ∧
      (∃ root, Design.Node.read document = .ok root ∧
        ∀ frame ∈ root.frames, HasFiniteNumbers frame) ∧
      (CommandLine.run context (.empty []) replies ["figma", "frames", "K"]).status? = some 0 ∧
      ∀ content, ¬ IsAnswered (server.serve call replies) 200 content := by
  intro context server call text document replies
  have status : (server.serve call replies).result.toOption.map Answer.status = some 500 := by
    decide +kernel
  refine ⟨by decide +kernel, ⟨_, rfl, by decide +kernel⟩, by decide +kernel, ?_⟩
  intro content isAnswered
  obtain ⟨answer, result, isSuccess, -⟩ := isAnswered
  rw [result] at status
  exact absurd (isSuccess.symm.trans (Option.some.inj status)) (by decide)

/-- A note in a background that reads as a number is listed, and another one makes the service
fail. -/
theorem listings_of_noted_background :
    let context : CommandLine.Context :=
      { token := some "token", home := "/", directory := ⟨1, ["home"]⟩ }
    let server : Server := { figma := { token := "token" } }
    let call : Call := .posting "/api/v2/figma/frames" "\x7b\"file_key\":\"K\"\x7d"
    let text (note : String) :=
      "\x7b\"document\":\x7b\"type\":\"FRAME\",\"absoluteBoundingBox\":\x7b\"width\":1\x7d,"
        ++ "\"backgroundColor\":\x7b\"r\":1,\"note\":\"" ++ note ++ "\"\x7d\x7d\x7d"
    let replies (note : String) : Replies := fun _ =>
      .response { status := 200, body := (text note).toUTF8.data.toList }
    let outcome (note : String) :=
      CommandLine.run context (.empty []) (replies note) ["figma", "frames", "K"]
    let run (note : String) := server.serve call (replies note)
    let entry : Entry := ⟨"", "", "FRAME", some (1, 0)⟩
    (PrintsListing "K" [entry] (outcome "2").output ∧
      ∃ summary, entry.IsSummarised summary ∧ IsAnswered (run "2") 200
        (.json (.object [("file_key", .string "K"), ("frames", .array [summary])]))) ∧
      PrintsListing "K" [entry] (outcome "x").output ∧
        IsAnswered (run "x") 500 (.text "Internal Server Error") := by
  intro context server call text replies outcome run entry
  have shares : SharesClient context server := ⟨rfl, by decide, rfl⟩
  have isBody : readBody call = .ok [("file_key", .string "K")] := by decide +kernel
  have ask : AskForFrames ["figma", "frames", "K"] call "K" :=
    ⟨rfl, ⟨_, ⟨rfl, rfl, isBody⟩, rfl⟩, by decide⟩
  let document (note : String) : Json := .object [("type", .string "FRAME"),
    ("absoluteBoundingBox", .object [("width", .number 1)]),
    ("backgroundColor", .object [("r", .number 1), ("note", .string note)])]
  let frame (note : String) : Design.Node :=
    ⟨{ kind := .frame, box := some { width := 1 },
       background := some { red := 1, extras := [("note", .string note)] } }, []⟩
  have read : ∀ note, Design.Node.read (document note) = .ok (frame note) := fun note => rfl
  constructor
  · have answered : (server.figma.fileCall "K" (replies "2")).result =
        .ok (.object [("document", document "2")]) := by
      decide +kernel
    obtain ⟨-, printed, listed, -⟩ := listings_agree_if_numeric (.empty []) shares ask answered rfl
      (read "2") (by decide +kernel)
    refine ⟨printed, ?_⟩
    obtain ⟨summaries, summarised, isAnswered⟩ := listed (by decide +kernel)
    cases summarised with
    | cons isSummarised noOthers =>
        cases noOthers
        exact ⟨_, isSummarised, isAnswered⟩
  · have answered : (server.figma.fileCall "K" (replies "x")).result =
        .ok (.object [("document", document "x")]) := by
      decide +kernel
    obtain ⟨-, printed, -, fails⟩ := listings_agree_if_numeric (.empty []) shares ask answered rfl
      (read "x") (by decide +kernel)
    exact ⟨printed, fails (by decide +kernel)⟩

end DesignCompiler.Service
