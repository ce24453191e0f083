import DesignCompiler.Proofs.Component.Source
import DesignCompiler.Proofs.Json.Equality
import DesignCompiler.Proofs.Service.Fetch
import Mathlib.Control.Monad.Basic

/-!
Contract: components of designs that are given and of designs that are fetched.

Owns:
- `GivesComponent`, the calls that bring a design along;
- `Compiles`, what is answered for a tree;
- the law that a design is answered alike in both ways, and with the same message if it is no tree.

Does not own: the sources of components, see `DesignCompiler.Proofs.Component.Source`.
-/

set_option autoImplicit false

namespace DesignCompiler.Service

open DesignCompiler.Component DesignCompiler.Http

/-- A call asks for the component of a design that it brings along. -/
def GivesComponent (call : Call) (component : ComponentRequest) (design : Fields) : Prop :=
  ∃ fields, Posts call .compile fields ∧ readComponent fields = .ok component ∧
    fields.lookup "node" = some (.object design)

def ComponentRequest.variant (component : ComponentRequest) : Variant :=
  .resolve (some component.framework)

/-- The status and the content that are answered for a tree: its source with the name that is used
in it, or a fault where there is no source. -/
inductive Compiles (root : Design.Node) (component : ComponentRequest) : Nat → Content → Prop
  | source {code markup : String}
      (compiled : compile? root component.variant component.name component.instructions = .ok code)
      (named : code = render component.variant (compiledName root component.name) markup
        component.instructions) :
      Compiles root component 200
        (.json (.object [("component_name", .string (compiledName root component.name)),
          ("framework", .string component.variant.name), ("code", .string code)]))
  | fault {fault : ColorFault}
      (failed : compile? root component.variant component.name component.instructions =
        .error fault) :
      Compiles root component 500 (.text "Internal Server Error")

/-! ### Names -/

private theorem compiledName_ne_empty (root : Design.Node) (name : Option String) :
    compiledName root name ≠ "" := by
  unfold compiledName
  cases chosen : name.filter fun name => !name.isEmpty with
  | some given =>
      obtain ⟨-, notEmpty⟩ := Option.filter_eq_some_iff.mp chosen
      simpa using notEmpty
  | none =>
      intro isEmpty
      exact (isAlphanumeric_derive root.attributes.name).1 (String.toList_eq_nil_iff.mpr isEmpty)

/-- The name that is chosen for a component is kept when it is chosen again. -/
theorem compiledName_compiledName (root : Design.Node) (name : Option String) :
    compiledName root (some (compiledName root name)) = compiledName root name := by
  have notEmpty : (compiledName root name).isEmpty = false := by
    simpa using compiledName_ne_empty root name
  rw [compiledName, Option.filter_some, notEmpty]
  rfl

private theorem compile?_compiledName (root : Design.Node) (variant : Variant)
    (name instructions : Option String) (depth : Int) :
    compile? root variant (some (compiledName root name)) instructions depth =
      compile? root variant name instructions depth := by
  unfold compile?
  rw [compiledName_compiledName]

/-! ### Answers -/

private theorem compiled_of_source {root : Design.Node} {component : ComponentRequest}
    {code : String}
    (source : compile? root component.variant component.name component.instructions = .ok code) :
    compiled root component = .ok (.success (.object
      [("component_name", .string (compiledName root component.name)),
        ("framework", .string component.variant.name), ("code", .string code)])) := by
  rw [← compile?_compiledName, ComponentRequest.variant] at source
  unfold compiled
  dsimp only
  rw [source]
  rfl

private theorem compiled_of_fault {root : Design.Node} {component : ComponentRequest}
    {fault : ColorFault}
    (failed : compile? root component.variant component.name component.instructions =
      .error fault) :
    compiled root component = .error (.color fault) := by
  rw [← compile?_compiledName, ComponentRequest.variant] at failed
  unfold compiled
  dsimp only
  rw [failed]

/-- Whichever endpoint compiles a tree, the answer is the same. -/
theorem exists_compiles (root : Design.Node) (component : ComponentRequest) :
    ∃ status content, Compiles root component status content ∧
      ∀ {server : Server} {call : Call} {endpoint : Endpoint} {fields : Fields} {replies : Replies},
        Posts call endpoint fields → endpoint.method = "POST" →
        (server.handle endpoint call replies).result = compiled root component →
        IsAnswered (server.serve call replies) status content := by
  cases source : compile? root component.variant component.name component.instructions with
  | ok code =>
      obtain ⟨skeleton, -, isRendered⟩ := compile?_eq_ok_iff.mp source
      refine ⟨_, _, .source source isRendered, ?_⟩
      intro server call endpoint fields replies posts isPosted handled
      exact posts.isAnswered_of_ok isPosted (handled.trans (compiled_of_source source))
  | error fault =>
      refine ⟨_, _, .fault source, ?_⟩
      intro server call endpoint fields replies posts isPosted handled
      exact posts.isAnswered_of_error isPosted (handled.trans (compiled_of_fault source))

theorem GivesComponent.exists_handle_eq {call : Call} {component : ComponentRequest}
    {design : Fields} (gives : GivesComponent call component design) (server : Server)
    (replies : Replies) :
    (∃ fields, Posts call .compile fields) ∧
      server.handle .compile call replies =
        ⟨[], server.compileGiven (.object design) component⟩ := by
  obtain ⟨fields, posts, asked, given⟩ := gives
  exact ⟨⟨fields, posts⟩, posts.handle_compile asked given server replies⟩

/-- A design is compiled alike whether it is given or fetched, and whatever else is replied.  If it
is no tree, both say so with the same message. -/
theorem given_and_fetched_compile_alike {server : Server} (filled : server.figma.token ≠ "")
    {fetching giving : Call} {component : ComponentRequest} {fileKey frameId : String}
    {design body : Fields} {replies : Replies} (others : Replies)
    (fetches : FetchesComponent fetching component fileKey frameId)
    (gives : GivesComponent giving component design) (notEmpty : design ≠ [])
    (answered : (server.figma.nodeCall fileKey frameId replies).result = .ok (.object body))
    (holds : Figma.HoldsDocument body (Figma.nodeId frameId) (.object design)) :
    (∀ root, Design.Node.read (.object design) = .ok root →
      ∃ status content, Compiles root component status content ∧
        IsAnswered (server.serve fetching replies) status content ∧
        IsAnswered (server.serve giving others) status content) ∧
    ∀ found, Design.Node.read (.object design) = .error (.defective found) →
      let error := Design.ReadError.defective found
      let message := error.messageAbout server.figma.report (.object design)
      IsAnswered (server.serve giving others) 422 (detail message) ∧
        IsAnswered (server.serve fetching replies) 502
          (detail ("Figma API error: " ++ message)) := by
  have notBlank : (Json.object design).isBlank = false := by
    cases design with
    | nil => exact absurd rfl notEmpty
    | cons entry rest => rfl
  have fetched : (server.figma.fetchFrame fileKey frameId replies).result =
      Figma.readNode (.object design) server.figma.report := by
    rw [Figma.Client.result_fetchFrame answered, holds.documentOf_eq notBlank]
    rfl
  obtain ⟨⟨fetchFields, postsFetch⟩, handledFetch⟩ := fetches.exists_handle_eq filled replies
  obtain ⟨⟨giveFields, postsGive⟩, handledGive⟩ :=
    gives.exists_handle_eq server others
  constructor
  · intro root read
    have isRoot : Figma.readNode (.object design) server.figma.report = .ok root := by
      rw [Figma.readNode, read]
    obtain ⟨status, content, compiles, isAnswered⟩ := exists_compiles root component
    refine ⟨status, content, compiles, isAnswered postsFetch rfl ?_, isAnswered postsGive rfl ?_⟩
    · rw [handledFetch, Run.finish, fetched, isRoot]
    · rw [handledGive, Server.compileGiven, isRoot]
  · intro found read error message
    have isDefective : Figma.readNode (.object design) server.figma.report =
        .error (.design ⟨error, message⟩) := by
      rw [Figma.readNode, read]
    have refusedGive : (server.handle .compile giving others).result =
        .ok (.refusal 422 (.string message)) := by
      rw [handledGive, Server.compileGiven, isDefective]
    have refusedFetch : (server.handle .toReact fetching replies).result =
        .ok (.refusal 502 (.string ("Figma API error: " ++ message))) := by
      rw [handledFetch, Run.finish, fetched, isDefective]
      rfl
    constructor
    · exact postsGive.isAnswered_of_ok rfl refusedGive
    · exact postsFetch.isAnswered_of_ok rfl refusedFetch

/-- A card is compiled alike after a pause, and a frame whose children are a number is refused. -/
theorem card_compiles_alike :
    let report := "1 validation error for tagged-union"
      ++ "[FrameNode,ComponentNode,InstanceNode,TextNode,OtherNode]\nOTHER.children\n"
      ++ "  Input should be a valid list [type=list_type, input_value=7, input_type=int]"
    let server : Server := { figma := { token := "token", report := some fun _ _ => report } }
    let options := ",\"framework\":\"mui-jsx\"\x7d"
    let fetching : Call := .posting "/api/v2/figma/to-react"
      ("\x7b\"file_key\":\"K\",\"frame_id\":\"1-2\"" ++ options)
    let giving (design : String) : Call :=
      .posting "/api/v2/figma/compile" ("\x7b\"node\":" ++ design ++ options)
    let replies (design : String) := Replies.ofList
      [.response { status := 429, headers := [("retry-after", "1")] },
        .response { status := 200, body :=
          ("\x7b\"nodes\":\x7b\"1:2\":\x7b\"document\":" ++ design
            ++ "\x7d\x7d\x7d").toUTF8.data.toList }]
    let card := "\x7b\"type\":\"FRAME\",\"name\":\"card\"\x7d"
    let numbered := "\x7b\"children\":7\x7d"
    (∃ code, IsAnswered (server.serve fetching (replies card)) 200 (.json (.object
          [("component_name", .string "Card"), ("framework", .string "mui-jsx"),
            ("code", .string code)])) ∧
        IsAnswered (server.serve (giving card) (replies card)) 200 (.json (.object
          [("component_name", .string "Card"), ("framework", .string "mui-jsx"),
            ("code", .string code)]))) ∧
      IsAnswered (server.serve (giving numbered) (replies numbered)) 422
          (detail ("Invalid design node data: " ++ report)) ∧
        IsAnswered (server.serve fetching (replies numbered)) 502
          (detail ("Figma API error: Invalid design node data: " ++ report)) := by
  intro report server options fetching giving replies card numbered
  let component : ComponentRequest := ⟨"mui-jsx", none, none⟩
  have fetchBody : readBody fetching = .ok [("file_key", .string "K"),
      ("frame_id", .string "1-2"), ("framework", .string "mui-jsx")] := by
    decide +kernel
  have fetches : FetchesComponent fetching component "K" "1-2" :=
    ⟨_, _, ⟨rfl, rfl, fetchBody⟩, rfl, rfl, rfl⟩
  constructor
  · let design : Fields := [("type", .string "FRAME"), ("name", .string "card")]
    let root : Design.Node := ⟨{ name := "card", kind := .frame }, []⟩
    have giveBody : readBody (giving card) =
        .ok [("node", .object design), ("framework", .string "mui-jsx")] := by
      decide +kernel
    have answered : (server.figma.nodeCall "K" "1-2" (replies card)).result = .ok (.object
        [("nodes", .object [("1:2", .object [("document", .object design)])])]) := by
      decide +kernel
    have named : compiledName root component.name = "Card" := by decide +kernel
    have hasSource : (compile? root component.variant component.name
        component.instructions).toOption.isSome = true := by
      decide +kernel
    obtain ⟨status, content, compiles, fetched, given⟩ :=
      (given_and_fetched_compile_alike (by decide) (replies card) fetches
        ⟨_, ⟨rfl, rfl, giveBody⟩, rfl, rfl⟩ (by decide) answered ⟨_, _, rfl, rfl, rfl⟩).1 root rfl
    cases compiles with
    | source compiled isRendered =>
        rw [named] at fetched given
        exact ⟨_, fetched, given⟩
    | fault failed =>
        rw [failed] at hasSource
        cases hasSource
  · let design : Fields := [("children", .number (.int 7))]
    have giveBody : readBody (giving numbered) =
        .ok [("node", .object design), ("framework", .string "mui-jsx")] := by
      decide +kernel
    have answered : (server.figma.nodeCall "K" "1-2" (replies numbered)).result = .ok (.object
        [("nodes", .object [("1:2", .object [("document", .object design)])])]) := by
      decide +kernel
    exact (given_and_fetched_compile_alike (by decide) (replies numbered) fetches
      ⟨_, ⟨rfl, rfl, giveBody⟩, rfl, rfl⟩ (by decide) answered ⟨_, _, rfl, rfl, rfl⟩).2 _ rfl

end DesignCompiler.Service
