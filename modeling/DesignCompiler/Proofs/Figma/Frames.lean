import DesignCompiler.Proofs.Design.Frames
import DesignCompiler.Proofs.Figma.Fetch
import DesignCompiler.Proofs.Json.Equality
import Mathlib.Control.Monad.Basic

/-!
Contract: the frames that are listed for a file.

Owns: the law that a listing holds a node for every object of the document that has the type of a
frame, in the order of the document, and nothing else.

Does not own: how listings are shown, see `DesignCompiler.Proofs.Service.Listing`.
-/

set_option autoImplicit false

namespace DesignCompiler.Figma

open DesignCompiler.Design DesignCompiler.Http

/-- Where the answer holds a design tree as its document, a node is listed for every path that leads
to an object with the type of a frame, in the order of the paths.  Each node is what is read of the
object, with its type, its texts and as many children. -/
theorem Client.listFrames_follows_document {client : Client} {fileKey : String} {replies : Replies}
    {body : Fields} {document : Json}
    (answered : (client.fileCall fileKey replies).result = .ok (.object body))
    (stored : body.lookup "document" = some document)
    (accepted : ∃ root, Node.read document = .ok root) :
    ∃ placed : List (List Nat × Node),
      (client.listFrames fileKey replies).result = .ok (placed.map Prod.snd) ∧
      placed.Pairwise (fun first second => first.1 < second.1) ∧
      (∀ path, (∃ frame, (path, frame) ∈ placed) ↔ LeadsToFrame document path) ∧
      ∀ path frame, (path, frame) ∈ placed →
        ∃ fields, nodeAt? path document = some (.object fields) ∧ frame.Shows fields := by
  obtain ⟨root, read⟩ := accepted
  have isTree := isTree_of_read read
  have isRoot : root = buildNode document := Node.eq_buildNode_of_read read
  refine ⟨root.placedFrames, ?_, root.pairwise_placedFrames, ?_, ?_⟩
  · rw [result_listFrames answered, framesOf_object stored read, root.map_snd_placedFrames]
  · intro path
    rw [isRoot]
    exact exists_mem_placedFrames_iff isTree
  · intro path frame isPlaced
    rw [isRoot] at isPlaced
    exact exists_shows_of_mem_placedFrames isTree isPlaced

/-- A component is listed below a text with characters, after a pause that the service asked for.
Its malformed fields count as absent. -/
theorem Client.listFrames_of_component_below_text :
    let client : Client := { token := "token" }
    let component : Fields :=
      [("type", .string "COMPONENT"), ("id", .string "1:2"), ("name", .number (.int 7)),
        ("children", .null), ("opacity", .string "dim"), ("fills", .bool true)]
    let text := "\x7b\"document\":\x7b\"children\":[\x7b\"type\":\"TEXT\",\"characters\":\"x\","
      ++ "\"children\":[\x7b\"type\":\"COMPONENT\",\"id\":\"1:2\",\"name\":7,\"children\":null,"
      ++ "\"opacity\":\"dim\",\"fills\":true\x7d]\x7d]\x7d\x7d"
    let document : Json := .object [("children", .array
      [.object [("type", .string "TEXT"), ("characters", .string "x"),
        ("children", .array [.object component])]])]
    let replies := Replies.ofList
      [.response { status := 429, headers := [("retry-after", "1")] },
        .response { status := 200, body := text.toUTF8.data.toList }]
    (client.fileCall "key" replies).result = .ok (.object [("document", document)]) ∧
      (∃ root, Node.read document = .ok root) ∧
      ∃ frames, (client.listFrames "key" replies).result = .ok frames ∧
        ∃ frame ∈ frames, frame.attributes.id = "1:2" ∧ frame.attributes.name = "" ∧
          frame.attributes.kind.tag = "COMPONENT" ∧ frame.children = [] := by
  intro client component text document replies
  have answered :
      (client.fileCall "key" replies).result = .ok (.object [("document", document)]) := by
    decide +kernel
  have accepted : ∃ root, Node.read document = .ok root := ⟨_, rfl⟩
  refine ⟨answered, accepted, ?_⟩
  obtain ⟨placed, listed, -, leads, shows⟩ := listFrames_follows_document answered rfl accepted
  obtain ⟨frame, isPlaced⟩ :=
    (leads [0, 0]).mpr ⟨component, rfl, "COMPONENT", by decide, rfl⟩
  obtain ⟨fields, found, told⟩ := shows [0, 0] frame isPlaced
  cases found
  refine ⟨_, listed, frame, List.mem_map_of_mem isPlaced, told.id, told.name, ?_, ?_⟩
  · exact (Json.string.inj (Option.some.inj told.type)).symm
  · exact List.eq_nil_of_length_eq_zero told.children

end DesignCompiler.Figma
