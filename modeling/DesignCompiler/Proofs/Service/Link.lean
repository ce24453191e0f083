import DesignCompiler.Proofs.CommandLine.Report
import DesignCompiler.Proofs.Figma.Link
import DesignCompiler.Proofs.Http.Trace
import DesignCompiler.Proofs.Http.Url
import DesignCompiler.Proofs.Service.Fetch

/-!
Contract: frames that are asked for by a link, and by the names of their file and themselves.

Owns:
- `Links` and `Names`, the calls that ask for a component in either way;
- `AsksForNode`, the runs whose requests ask for one node;
- the addresses of nodes, which can be read wherever the one of the design service can;
- the law that both ways ask for the same node if and only if its name holds no escape any more
  once it has been decoded.

A name in a link is decoded where the link is read and once more where the frame is fetched.

Does not own: links and names of nodes, see `DesignCompiler.Proofs.Figma.Link`.
-/

set_option autoImplicit false

namespace DesignCompiler

open DesignCompiler.Http

/-! ### Nodes -/

namespace Figma

private theorem isPathChar_of_isAlphanumeric {c : Char} (isLetter : Text.isAlphanumeric c = true) :
    IsPathChar c := by
  have isAscii := Text.toNat_lt_of_isAlphanumeric isLetter
  revert isLetter
  exact Text.forall_ascii (motive := fun c => Text.isAlphanumeric c = true → IsPathChar c)
    (by decide) isAscii

variable {client : Client}

/-- Wherever the address of the service can be read, those of nodes can. -/
theorem Client.hasNodeAddress {base : Url} (served : Url.read client.baseUrl = .ok base)
    {fileKey : String} (plain : ∀ c ∈ fileKey.toList, Text.isAlphanumeric c = true)
    (frameId : String) : client.HasNodeAddress fileKey frameId := by
  have path : filePath fileKey ++ "/nodes" =
      String.ofList ("/v1/files/".toList ++ fileKey.toList ++ "/nodes".toList) := by
    rw [String.ofList_append, String.ofList_append, String.ofList_toList, String.ofList_toList,
      String.ofList_toList, filePath]
  have isPath : ∀ c ∈ "/v1/files/".toList ++ fileKey.toList ++ "/nodes".toList, IsPathChar c := by
    simp only [List.forall_mem_append]
    refine ⟨⟨by simp [IsPathChar], ?_⟩, by simp [IsPathChar]⟩
    intro c member
    exact isPathChar_of_isAlphanumeric (plain c member)
  have read : Url.read (filePath fileKey ++ "/nodes") =
      .ok ⟨[], [], "/v1/files/".toList ++ fileKey.toList ++ "/nodes".toList, none⟩ := by
    rw [path]
    refine Url.read_path isPath ?_
    have start : "/v1/files/".toList = '/' :: 'v' :: "1/files/".toList := by
      decide
    intro rest same
    rw [start] at same
    cases same
  unfold HasNodeAddress Order.resolve order
  simp only [served, read]
  exact ⟨_, rfl⟩

/-- A run sends requests, and each of them asks for one node. -/
def AsksForNode {ε α : Type} (run : Run ε α) (id : String) : Prop :=
  run.requests ≠ [] ∧ ∀ request ∈ run.requests, request.parameters.lookup "ids" = some id

theorem AsksForNode.unique {ε α ε' α' : Type} {run : Run ε α} {other : Run ε' α'} {id id' : String}
    (asks : AsksForNode run id) (asksOther : AsksForNode other id')
    (same : run.requests = other.requests) : id = id' := by
  obtain ⟨sent, identified⟩ := asks
  obtain ⟨request, first⟩ := List.exists_mem_of_ne_nil _ sent
  have identifiedOther := asksOther.2 request (same ▸ first)
  rw [identified request first] at identifiedOther
  exact Option.some.inj identifiedOther

private theorem Client.asksForNode_fetchFrame {fileKey frameId : String}
    (addressed : client.HasNodeAddress fileKey frameId) (replies : Replies) :
    AsksForNode (client.fetchFrame fileKey frameId replies) (nodeId frameId) := by
  obtain ⟨url, resolved⟩ := addressed
  obtain ⟨request, sendable⟩ := exists_request resolved
  constructor
  · exact RetryPolicy.requests_ne_nil sendable replies
  · intro sent member
    have ordered : Order.request _ = .ok sent := RetryPolicy.request_of_mem_requests member
    rw [Order.parameters_of_request ordered rfl]
    rfl

/-- Which frame is fetched depends on what the service makes of its name. -/
theorem Client.fetchFrame_congr {frameId other : String} (same : nodeId frameId = nodeId other)
    (fileKey : String) (replies : Replies) :
    client.fetchFrame fileKey frameId replies = client.fetchFrame fileKey other replies := by
  unfold fetchFrame getFrame
  rw [same]

end Figma

/-! ### Calls -/

namespace Service

open DesignCompiler.Figma

/-- A call asks for the component of the node to which a link leads. -/
def Links (call : Call) (component : ComponentRequest) (link : String) : Prop :=
  ∃ fields target, Posts call .toReact fields ∧ readComponent fields = .ok component ∧
    readTarget fields = .ok target ∧ target.link = some link

/-- A call asks for the component of a node by the names of its file and the node. -/
def Names (call : Call) (component : ComponentRequest) (fileKey frameId : String) : Prop :=
  ∃ fields, Posts call .toReact fields ∧ readComponent fields = .ok component ∧
    readTarget fields = .ok ⟨none, some fileKey, some frameId⟩

private theorem isEmpty_ofList_eq_false {cs : List Char} (notEmpty : cs ≠ []) :
    (String.ofList cs).isEmpty = false := by
  simpa using notEmpty

variable {call linked named : Call} {component : ComponentRequest}

/-- The name of the node in a link is decoded before the node is fetched. -/
theorem Links.fetchesComponent {link : Link} {before after : List (List Char)} {name : List Char}
    (links : Links call component (link.text (some (before ++ naming name :: after))))
    (others : ∀ parameter ∈ before, IsOther parameter) (notEmpty : name ≠ [])
    (isValue : IsValue name) :
    FetchesComponent call component (String.ofList link.key)
      (String.ofList (nodeIdChars name)) := by
  obtain ⟨fields, target, posts, asked, aimed, leads⟩ := links
  have read := @Link.readLink_text_naming link before after others name notEmpty isValue
  have notBlank : (link.text (some (before ++ naming name :: after))).isEmpty = false := by
    apply Bool.eq_false_iff.mpr
    intro isEmpty
    rw [String.isEmpty_iff.mp isEmpty] at read
    cases read
  refine ⟨fields, target, posts, asked, aimed, ?_⟩
  unfold Target.resolve
  rw [leads]
  simp only [Option.filter_some, notBlank, read,
    isEmpty_ofList_eq_false (nodeIdChars_ne_nil notEmpty), Bool.not_false, if_true]

private theorem Names.fetchesComponent {fileKey frameId : String}
    (names : Names call component fileKey frameId) (keyed : fileKey ≠ "") (framed : frameId ≠ "") :
    FetchesComponent call component fileKey frameId := by
  obtain ⟨fields, posts, asked, aimed⟩ := names
  have filledKey : fileKey.isEmpty = false := by simpa using keyed
  have filledId : frameId.isEmpty = false := by simpa using framed
  refine ⟨fields, _, posts, asked, aimed, ?_⟩
  simp only [Target.resolve, Option.filter_none, Option.filter_some, filledKey, filledId,
    Bool.not_false, if_true]

private theorem FetchesComponent.requests_serve {fileKey frameId : String}
    (fetches : FetchesComponent call component fileKey frameId) {server : Server}
    (filled : server.figma.token ≠ "") (replies : Replies) :
    (server.serve call replies).requests =
      (server.figma.fetchFrame fileKey frameId replies).requests := by
  obtain ⟨⟨fields, posts⟩, handled⟩ := fetches.exists_handle_eq filled replies
  unfold Run.requests
  rw [posts.events_serve rfl, handled]
  rfl

/-- A call that fetches a component asks for the node that the service makes of its name. -/
theorem FetchesComponent.asksForNode {fileKey frameId : String}
    (fetches : FetchesComponent call component fileKey frameId) {server : Server}
    (filled : server.figma.token ≠ "")
    (addressed : server.figma.HasNodeAddress fileKey frameId) (replies : Replies) :
    AsksForNode (server.serve call replies) (nodeId frameId) := by
  unfold AsksForNode
  rw [fetches.requests_serve filled]
  exact Client.asksForNode_fetchFrame addressed replies

/-- Calls that ask for one node come to the same. -/
theorem FetchesComponent.handle_congr {other : Call} {fileKey frameId frameId' : String}
    (fetches : FetchesComponent call component fileKey frameId)
    (fetchesOther : FetchesComponent other component fileKey frameId')
    (same : nodeId frameId = nodeId frameId') {server : Server}
    (filled : server.figma.token ≠ "") (replies : Replies) :
    server.handle .toReact call replies = server.handle .toReact other replies := by
  rw [(fetches.exists_handle_eq filled replies).2, (fetchesOther.exists_handle_eq filled replies).2,
    Client.fetchFrame_congr same]

/-- A link asks for the node whose name is decoded twice; the names of the file and the node ask for
the one whose name is decoded once.  Both send the same requests, and come to the same, if and only
if no escape is left in the name once it has been decoded; and these are the names that decoding
again would keep. -/
theorem link_and_names_ask_alike_iff {server : Server} (filled : server.figma.token ≠ "")
    {base : Url} (served : Url.read server.figma.baseUrl = .ok base) {link : Link}
    {before after : List (List Char)} (others : ∀ parameter ∈ before, IsOther parameter)
    {name : List Char} (notEmpty : name ≠ []) (isValue : IsValue name)
    (links : Links linked component (link.text (some (before ++ naming name :: after))))
    (names : Names named component (String.ofList link.key) (String.ofList name))
    (replies : Replies) :
    let id := nodeId (String.ofList name)
    AsksForNode (server.serve linked replies) (nodeId id) ∧
    AsksForNode (server.serve named replies) id ∧
    ((server.serve linked replies).requests = (server.serve named replies).requests ↔
      ¬ HasEscape id.toList) ∧
    (¬ HasEscape id.toList →
      server.handle .toReact linked replies = server.handle .toReact named replies) ∧
    ∀ name : String, nodeId (nodeId name) = nodeId name ↔ ¬ HasEscape (nodeId name).toList := by
  intro id
  have decoded : id = String.ofList (nodeIdChars name) := nodeId_ofList name
  have plain : ∀ c ∈ (String.ofList link.key).toList, Text.isAlphanumeric c = true := by
    rw [String.toList_ofList]
    exact link.isAlphanumeric_key
  have keyed : String.ofList link.key ≠ "" := mt String.ofList_eq_empty_iff.mp link.key_ne_nil
  have framed : String.ofList name ≠ "" := mt String.ofList_eq_empty_iff.mp notEmpty
  have fetchesLinked : FetchesComponent linked component (String.ofList link.key) id := by
    rw [decoded]
    exact links.fetchesComponent others notEmpty isValue
  have fetchesNamed := names.fetchesComponent keyed framed
  have asksLinked := fetchesLinked.asksForNode filled
    (Client.hasNodeAddress served plain id) replies
  have asksNamed := fetchesNamed.asksForNode filled
    (Client.hasNodeAddress served plain (String.ofList name)) replies
  have kept := nodeId_nodeId_iff (String.ofList name)
  refine ⟨asksLinked, asksNamed, ⟨fun same => ?_, fun plainId => ?_⟩, fun plainId => ?_,
    nodeId_nodeId_iff⟩
  · exact kept.mp (asksLinked.unique asksNamed same)
  · rw [fetchesLinked.requests_serve filled, fetchesNamed.requests_serve filled,
      Client.fetchFrame_congr (kept.mpr plainId)]
  · exact fetchesLinked.handle_congr fetchesNamed (kept.mpr plainId) filled replies

/-- A colon that is escaped once is read alike in both ways. -/
theorem link_and_names_ask_alike_for_escaped_colon :
    let server : Server := { figma := { token := "token" } }
    let linked : Call := .posting "/api/v2/figma/to-react"
      "\x7b\"figma_url\":\"https://www.figma.com/design/k/n?node-id=7%3A16\"\x7d"
    let named : Call := .posting "/api/v2/figma/to-react"
      "\x7b\"file_key\":\"k\",\"frame_id\":\"7%3A16\"\x7d"
    let replies := Replies.ofList [.response { status := 404 }]
    AsksForNode (server.serve named replies) "7:16" ∧
      (server.serve linked replies).requests = (server.serve named replies).requests := by
  intro server linked named replies
  let link : Link := ⟨.design, "k".toList, "n".toList, none, by decide,
    List.all_eq_true.mp (by decide), by simp, nofun⟩
  let component : ComponentRequest := ⟨"vanilla-jsx", none, none⟩
  have linkedBody : readBody linked =
      .ok [("figma_url", .string "https://www.figma.com/design/k/n?node-id=7%3A16")] := by
    decide +kernel
  have namedBody : readBody named =
      .ok [("file_key", .string "k"), ("frame_id", .string "7%3A16")] := by
    decide +kernel
  have text : link.text (some ([] ++ naming "7%3A16".toList :: [])) =
      "https://www.figma.com/design/k/n?node-id=7%3A16" := by
    decide +kernel
  have links : Links linked component (link.text (some ([] ++ naming "7%3A16".toList :: []))) := by
    rw [text]
    exact ⟨_, _, ⟨rfl, rfl, linkedBody⟩, rfl, rfl, rfl⟩
  have names : Names named component (String.ofList link.key) (String.ofList "7%3A16".toList) :=
    ⟨_, ⟨rfl, rfl, namedBody⟩, rfl, rfl⟩
  have served : Url.read server.figma.baseUrl =
      .ok ⟨"https".toList, "api.figma.com".toList, [], none⟩ := by
    decide +kernel
  have spells : Spells "7:16".toList "7%3A16".toList :=
    .character (by decide) (@Spells.colon "%3A" _ _ (by decide)
      (.character (by decide) (.character (by decide) .nil)))
  have decoded : nodeId (String.ofList "7%3A16".toList) = "7:16" := by
    decide +kernel
  obtain ⟨-, asks, alike, -⟩ := link_and_names_ask_alike_iff (by decide) served
    (List.forall_mem_nil _) (by decide) spells.isValue links names replies
  rw [decoded] at asks alike
  exact ⟨asks, alike.mpr spells.not_hasEscape⟩

/-- An escape that is escaped itself is decoded once in the name of a node and twice in a link,
which so leads to another node. -/
theorem link_and_names_ask_apart_for_escaped_escape :
    let server : Server := { figma := { token := "token" } }
    let linked : Call := .posting "/api/v2/figma/to-react"
      "\x7b\"figma_url\":\"https://www.figma.com/design/k/n?node-id=1%252D2\"\x7d"
    let named : Call := .posting "/api/v2/figma/to-react"
      "\x7b\"file_key\":\"k\",\"frame_id\":\"1%252D2\"\x7d"
    let replies := Replies.ofList [.response { status := 404 }]
    let asked (call : Call) := (server.serve call replies).requests.map Request.parameters
    asked linked = [[("ids", "1:2"), ("depth", "100"), ("geometry", "paths")]] ∧
      asked named = [[("ids", "1%2D2"), ("depth", "100"), ("geometry", "paths")]] ∧
      (server.serve linked replies).requests ≠ (server.serve named replies).requests ∧
      nodeId (nodeId "1%252D2") ≠ nodeId "1%252D2" := by
  intro server linked named replies asked
  have askedLinked :
      asked linked = [[("ids", "1:2"), ("depth", "100"), ("geometry", "paths")]] := by
    decide +kernel
  have askedNamed :
      asked named = [[("ids", "1%2D2"), ("depth", "100"), ("geometry", "paths")]] := by
    decide +kernel
  refine ⟨askedLinked, askedNamed, fun same => ?_, by decide +kernel⟩
  have sameAsked : asked linked = asked named := congrArg (List.map Request.parameters) same
  rw [askedLinked, askedNamed] at sameAsked
  revert sameAsked
  decide

end Service

end DesignCompiler
