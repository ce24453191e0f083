import DesignCompiler.Proofs.Figma.Shape
import DesignCompiler.Proofs.Http.Trace
import DesignCompiler.Proofs.Json.Equality
import DesignCompiler.Proofs.Json.Fields
import Mathlib.Control.Monad.Basic

/-!
Contract: fetches as remote calls with errors of their own.

Owns:
- `Client.getOnce`, the remote call of a single request to get something;
- `Tells`, the failure by which the error of a remote call is told;
- `IsOneGet`, the fetches that do what such a call does and tell its errors;
- `Stores`, the document that is stored for a node, and `GivesDocument`, what a look for it gives;
- the law that every fetch is one such call, and that a document is looked for under the very name
  that was asked for.

Does not own: how often a request is repeated, see `DesignCompiler.Proofs.Http.Decision`.
-/

set_option autoImplicit false

namespace DesignCompiler.Figma

open DesignCompiler.Http

variable {client : Client} {replies : Replies}

/-! ### Remote calls -/

/-- The remote call of a single request to get what stands under a path. -/
def Client.getOnce (client : Client) (path : String) (parameters : Option (List Parameter))
    (replies : Replies) : Run CallError Json :=
  client.policy.execute
    { method := "GET"
      url := path
      base := some client.baseUrl
      headers := [("X-Figma-Token", client.token)]
      parameters := parameters
      body := none }
    replies

/-- The failure by which the error of a remote call is told: a missing file and a refused token in
other words, and every other error as it is. -/
inductive Tells : CallError → Failure → Prop
  | inOtherWords {error : RemoteError} (message : String)
      (renamed : error.kind = .notFound ∨ error.kind = .unauthorized) :
      Tells (.remote error) (.remote { error with message })
  | asItIs {error : CallError}
      (kept : ∀ other, error = .remote other →
        other.kind ≠ .notFound ∧ other.kind ≠ .unauthorized) :
      Tells error (.call error)

private theorem tells_failureOf (error : CallError) : Tells error (failureOf error) := by
  cases error with
  | remote error =>
      obtain ⟨kind, message, status⟩ := error
      cases kind with
      | notFound => exact .inOtherWords _ (Or.inl rfl)
      | unauthorized => exact .inOtherWords _ (Or.inr rfl)
      | rateLimited | network | malformedResponse =>
          refine .asItIs ?_
          rintro other ⟨⟩
          exact ⟨nofun, nofun⟩
  | foreign _ | order _ | wait => exact .asItIs nofun

/-- A fetch does what a single request to get something does, and it tells its errors. -/
structure IsOneGet {α : Type} (client : Client) (path : String)
    (parameters : Option (List Parameter)) (replies : Replies) (fetch : Fetch α) : Prop where
  events : fetch.events = (client.getOnce path parameters replies).events
  isGet : ∀ request ∈ fetch.requests, request.method = "GET" ∧ request.body = none ∧
    ∀ given, parameters = some given → request.parameters = given
  tells : ∀ error, (client.getOnce path parameters replies).result = .error error →
    ∃ failure, fetch.result = .error failure ∧ Tells error failure

private theorem Client.isOneGet_get {α : Type} (path : String)
    (parameters : Option (List Parameter)) (look : Json → Except Failure α) :
    IsOneGet client path parameters replies (client.get path parameters replies look) := by
  refine ⟨rfl, ?_, ?_⟩
  · intro request sent
    have ordered : Order.request _ = .ok request := RetryPolicy.request_of_mem_requests sent
    obtain ⟨method, body⟩ := Order.method_and_body_of_request ordered
    exact ⟨method, body, fun given isGiven => Order.parameters_of_request ordered isGiven⟩
  · intro error failed
    refine ⟨failureOf error, ?_, tells_failureOf error⟩
    unfold getOnce at failed
    simp only [get, order, Run.finish, failed]

/-! ### Documents -/

/-- An answer holds nodes: none where there is nothing or null, and else objects and nulls. -/
inductive HoldsNodes (body : Fields) : Fields → Prop
  | absent (absent : body.lookup "nodes" = none) : HoldsNodes body []
  | null (found : body.lookup "nodes" = some .null) : HoldsNodes body []
  | nodes {nodes : Fields} (found : body.lookup "nodes" = some (.object nodes))
      (entries : ∀ id value, nodes.lookup id = some value →
        value = .null ∨ ∃ entry, value = .object entry) : HoldsNodes body nodes

/-- A document is stored for a node, and it does not count as absent. -/
def Stores (nodes : Fields) (id : String) (document : Json) : Prop :=
  ∃ entry, nodes.lookup id = some (.object entry) ∧
    Fields.lookup entry "document" = some document ∧ document.isBlank = false

/-- A look for the document of a node gives the one that is stored; where there is none, the node is
missing. -/
structure GivesDocument (nodes : Fields) (id : String) (result : Except Failure Json) : Prop where
  stored : ∀ document, result = .ok document ↔ Stores nodes id document
  missing : result =
      .error (.remote ⟨.notFound, "Frame not found in the specified file.", none⟩) ↔
    ∀ document, ¬ Stores nodes id document

private theorem HoldsNodes.entriesAt_eq {body nodes : Fields} (holds : HoldsNodes body nodes) :
    entriesAt body "nodes" = nodes := by
  cases holds with
  | absent found | null found | nodes found _ => rw [entriesAt, found]

private theorem HoldsNodes.hasNodeEntries {body nodes : Fields} (holds : HoldsNodes body nodes)
    (id : String) : HasNodeEntries id body := by
  constructor
  · intro value found notBlank
    cases holds with
    | absent absent =>
        rw [absent] at found
        cases found
    | null isNull =>
        rw [isNull] at found
        cases found
        cases notBlank
    | nodes isObject _ =>
        rw [isObject] at found
        exact ⟨nodes, (Option.some.inj found).symm⟩
  · intro value found notBlank
    rw [holds.entriesAt_eq] at found
    cases holds with
    | absent _ | null _ => cases found
    | nodes _ entries =>
        rcases entries id value found with rfl | isObject
        · cases notBlank
        · exact isObject

theorem present?_entriesAt_iff {nodes : Fields} {id : String} {document : Json} :
    present? (entriesAt nodes id) "document" = some document ↔ Stores nodes id document := by
  constructor
  · intro present
    obtain ⟨found, notBlank⟩ := lookup_of_present? present
    unfold entriesAt at found
    split at found
    · next entry isEntry => exact ⟨entry, isEntry, found, notBlank⟩
    · cases found
  · rintro ⟨entry, isEntry, found, notBlank⟩
    rw [entriesAt, isEntry]
    exact present?_eq_some found notBlank

private theorem HoldsNodes.givesDocument {body nodes : Fields} (holds : HoldsNodes body nodes)
    (id : String) : GivesDocument nodes id (documentOf id (.object body)) := by
  rw [(holds.hasNodeEntries id).documentOf_eq, nodeAt, holds.entriesAt_eq]
  cases present : present? (entriesAt nodes id) "document" with
  | some document =>
      have stores := present?_entriesAt_iff.mp present
      refine ⟨fun other => ?_, iff_of_false nofun fun none => none document stores⟩
      rw [← present?_entriesAt_iff, present, Except.ok.injEq, Option.some.injEq]
  | none =>
      have storesNone (document : Json) : ¬ Stores nodes id document := by
        rw [← present?_entriesAt_iff, present]
        exact nofun
      exact ⟨fun other => iff_of_false nofun (storesNone other), iff_of_true rfl storesNone⟩

/-! ### Fetches -/

def Client.frameParameters (client : Client) (frameId : String) : List Parameter :=
  [("ids", nodeId frameId), ("depth", (Number.int client.nodeDepth).text),
    ("geometry", client.nodeGeometry)]

private theorem Client.result_fetchDocument {fileKey frameId : String} {body : Json}
    (answered : (client.getOnce (filePath fileKey ++ "/nodes")
      (some (client.frameParameters frameId)) replies).result = .ok body) :
    (client.fetchDocument fileKey frameId replies).result = documentOf (nodeId frameId) body := by
  have once : (client.policy.execute (client.order (filePath fileKey ++ "/nodes")
      (some (Client.nodeParameters [nodeId frameId] client.nodeDepth client.nodeGeometry)))
      replies).result = .ok body :=
    answered
  simp only [fetchDocument, getFrame, get, Run.finish, once]
  cases documentOf (nodeId frameId) body with
  | error failure => rfl
  | ok document => rfl

/-- Every fetch is one remote call of a single request, whose errors are told again, a missing file
and a refused token in other words.  The document of a frame is looked for under the name that was
asked for, and where none is stored there, the frame is missing. -/
theorem Client.fetches_are_one_get (client : Client) (replies : Replies) (fileKey frameId : String)
    (ids : List String) (depth : Int) (geometry : String) :
    IsOneGet client ("/v1/files/" ++ fileKey) none replies (client.fetchFile fileKey replies) ∧
    IsOneGet client ("/v1/files/" ++ fileKey) none replies (client.listFrames fileKey replies) ∧
    IsOneGet client ("/v1/files/" ++ fileKey ++ "/nodes")
      (some [("ids", ",".intercalate ids), ("depth", (Number.int depth).text),
        ("geometry", geometry)]) replies
      (client.fetchNodes fileKey ids depth geometry replies) ∧
    IsOneGet client ("/v1/files/" ++ fileKey ++ "/nodes") (some (client.frameParameters frameId))
      replies (client.fetchDocument fileKey frameId replies) ∧
    IsOneGet client ("/v1/files/" ++ fileKey ++ "/nodes") (some (client.frameParameters frameId))
      replies (client.fetchFrame fileKey frameId replies) ∧
    ∀ body nodes, (client.getOnce ("/v1/files/" ++ fileKey ++ "/nodes")
        (some (client.frameParameters frameId)) replies).result = .ok (.object body) →
      HoldsNodes body nodes →
      GivesDocument nodes (nodeId frameId)
        (client.fetchDocument fileKey frameId replies).result := by
  refine ⟨isOneGet_get _ _ _, isOneGet_get _ _ _, isOneGet_get _ _ _, isOneGet_get _ _ _,
    isOneGet_get _ _ _, ?_⟩
  intro body nodes answered holds
  rw [result_fetchDocument answered]
  exact holds.givesDocument (nodeId frameId)

/-- After a rate limit, a document is found under the colon form of a name, where null stands for no
node; and a missing file is told with its status. -/
theorem Client.fetches_are_one_get_after_rate_limit :
    let client : Client := { token := "token" }
    let limited : Reply := .response { status := 429, headers := [("retry-after", "1")] }
    let text := "\x7b\"nodes\":\x7b\"7:16\":\x7b\"document\":\x7b\"id\":\"7:16\"\x7d\x7d,"
      ++ "\"7:17\":null\x7d\x7d"
    let replies :=
      Replies.ofList [limited, .response { status := 200, body := text.toUTF8.data.toList }]
    let refusals := Replies.ofList [limited, .response { status := 404 }]
    (client.fetchDocument "K" "7-16" replies).result = .ok (.object [("id", .string "7:16")]) ∧
      (∀ request ∈ (client.fetchDocument "K" "7-16" replies).requests,
        request.parameters = [("ids", "7:16"), ("depth", "100"), ("geometry", "paths")]) ∧
      (client.fetchDocument "K" "7-17" replies).result =
        .error (.remote ⟨.notFound, "Frame not found in the specified file.", none⟩) ∧
      ∃ message,
        (client.listFrames "K" refusals).result =
          .error (.remote ⟨.notFound, message, some 404⟩) := by
  intro client limited text replies refusals
  let entry : Fields := [("document", .object [("id", .string "7:16")])]
  let nodes : Fields := [("7:16", .object entry), ("7:17", .null)]
  have holds : HoldsNodes [("nodes", .object nodes)] nodes := by
    refine .nodes rfl fun id value found => ?_
    have member := Fields.mem_of_lookup found
    simp only [nodes, List.mem_cons, Prod.mk.injEq, List.not_mem_nil, or_false] at member
    rcases member with ⟨-, rfl⟩ | ⟨-, rfl⟩
    · exact Or.inr ⟨entry, rfl⟩
    · exact Or.inl rfl
  have firstAnswered : (client.getOnce ("/v1/files/" ++ "K" ++ "/nodes")
      (some (client.frameParameters "7-16")) replies).result =
        .ok (.object [("nodes", .object nodes)]) := by
    decide +kernel
  have secondAnswered : (client.getOnce ("/v1/files/" ++ "K" ++ "/nodes")
      (some (client.frameParameters "7-17")) replies).result =
        .ok (.object [("nodes", .object nodes)]) := by
    decide +kernel
  have refused : (client.getOnce ("/v1/files/" ++ "K") none refusals).result = .error (.remote
      ⟨.notFound, "Resource not found or you do not have access to it (404)", some 404⟩) := by
    decide +kernel
  have firstId : nodeId "7-16" = "7:16" := by decide +kernel
  have secondId : nodeId "7-17" = "7:17" := by decide +kernel
  have asked : client.frameParameters "7-16" =
      [("ids", "7:16"), ("depth", "100"), ("geometry", "paths")] := by
    decide +kernel
  obtain ⟨-, -, -, isGet, -, gives⟩ :=
    fetches_are_one_get client replies "K" "7-16" [] 0 ""
  obtain ⟨-, -, -, -, -, givesSecond⟩ :=
    fetches_are_one_get client replies "K" "7-17" [] 0 ""
  obtain ⟨-, lists, -⟩ := fetches_are_one_get client refusals "K" "" [] 0 ""
  refine ⟨?_, fun request sent => ?_, ?_, ?_⟩
  · refine ((gives _ _ firstAnswered holds).stored _).mpr ⟨entry, ?_, rfl, rfl⟩
    rw [firstId]
    rfl
  · obtain ⟨-, -, parameters⟩ := isGet.isGet request sent
    exact (parameters _ rfl).trans asked
  · refine (givesSecond _ _ secondAnswered holds).missing.mpr ?_
    rintro document ⟨entry, stored, -⟩
    rw [secondId] at stored
    cases stored
  · obtain ⟨failure, failed, tells⟩ := lists.tells _ refused
    cases tells with
    | inOtherWords message _ => exact ⟨message, failed⟩
    | asItIs kept => exact absurd rfl (kept _ rfl).1

end DesignCompiler.Figma
