import Switchyard.AppServer.Parties
import Switchyard.AppServer.Size
import Switchyard.Admission.Evidence

/-! The preflight of a request: before a backend is started the largest wire that
the brief can lead to is built and measured, and so is the largest echo of it. -/

namespace Switchyard.Runner
open Library Json AppServer

def adapterProtocolError : ClassName := className "AdapterProtocolError"

/-- `members[key]`. -/
def item (members : Members) (key : String) : Except ClassName Json :=
  match members.lookup (text key) with
  | some value => .ok value
  | none => .error (className "KeyError")

theorem item_ok {members : Members} {key : String} {value : Json} :
    item members key = .ok value ↔ members.lookup (text key) = some value := by
  unfold item
  cases members.lookup (text key) <;> simp

/-- The schema files beside the package, and the validation of a request together with its brief. -/
structure Installation where
  boundedTurnEchoSchema : Bytes
  boundedTurnSchema : Bytes
  validateRequest : Members → Bytes → Except ClassName Unit

/-- What stands before the brief in the one input of a turn. -/
def PROMPT : Text :=
  text "Perform only the bounded work in this Nightshift worker brief. Do not spawn agents, change provider/model, " ++
    text "or perform protected effects. Report evidence and uncertainty; your answer is not qualification.\n"

/-- The two kinds of lifecycle notification, with the name of their time. -/
def LIFECYCLE : List (String × String) := [("item/started", "startedAtMs"), ("item/completed", "completedAtMs")]

/-- An identity of as many NUL code points as one may have. -/
def reservedId : Text := List.replicate 512 0

theorem reservedId_bounded : boundedId (.str reservedId) = true := by
  have length : reservedId.length = 512 := List.length_replicate
  simp only [boundedId, length]
  rfl

theorem reservedId_scalar : reservedId.Scalar := by
  intro point listed
  rw [List.eq_of_mem_replicate listed]
  decide

section
variable (host : Host) (floatRepr : ℚ → Text) (installation : Installation)

def captureContractForRequest (request : Members) : Except ClassName CaptureContract := do
  let schema ← item request "switchyard_schema_sha256"
  if equal schema (.str (host.digest installation.boundedTurnEchoSchema)) then return .boundedTurnEcho
  else if equal schema (.str (host.digest installation.boundedTurnSchema)) then return .boundedTurn
  else return .legacy

def boundedTurnStart (threadId : Json) (backend : Members) (brief : Bytes) : Except ClassName Members :=
  if boundedId threadId then
    match Text.decode? brief with
    | none => .error (className "UnicodeDecodeError")
    | some content => do
      let model ← item backend "model"
      return object [("threadId", threadId), ("model", model),
        ("input", .arr [.obj (object [("type", .str (text "text")), ("text", .str (PROMPT ++ content))])])]
  else .error adapterProtocolError

/-- The message that `request` sends for a turn. -/
def turnStart (requestId : Nat) (params : Members) : Request := ⟨requestId, text "turn/start", some params⟩

/-- The largest echo that is reserved, which names no emission time. -/
def reservedEcho (method timestamp : String) (expectedInput : Json) : Members :=
  object [("method", .str (text method)),
    ("params", .obj (object [("threadId", .str reservedId), ("turnId", .str reservedId),
      ("item", .obj (object [("type", .str (text "userMessage")), ("id", .str reservedId), ("clientId", .null),
        ("content", expectedInput)])),
      (timestamp, .int 9007199254740991)]))]

/-- A wire that is too long is refused. -/
def fitting (maximum : Nat) (wire : Bytes) : Except ClassName Unit :=
  if maximum < wire.length then .error adapterProtocolError else .ok ()

def reserveEcho (method timestamp : String) (expectedInput : Json) : Except ClassName Unit := do
  let wire ← requestWire floatRepr (reservedEcho method timestamp expectedInput)
  fitting MAXIMUM_USER_INPUT_ECHO_BYTES wire

def reserveEchoes (contract : CaptureContract) (params : Members) : Except ClassName Unit :=
  if contract = .boundedTurnEcho then
    match normalizedBoundedTurnInput (get params "input") with
    | none => .error (className "ValueError")
    | some expectedInput => do
      reserveEcho floatRepr "item/started" "startedAtMs" expectedInput
      reserveEcho floatRepr "item/completed" "completedAtMs" expectedInput
  else .ok ()

def preflightRequest (request : Members) (brief : Bytes) (backend : Members) : Except ClassName Members := do
  installation.validateRequest request brief
  let params ← boundedTurnStart (.str reservedId) backend brief
  let wire ← requestWire floatRepr (turnStart 9007199254740991 params).message
  let contract ← captureContractForRequest host installation request
  fitting (clientRequestByteBound (text "turn/start") contract) wire
  reserveEchoes floatRepr contract params
  let requestDigest ← item request "request_digest"
  let briefDigest ← item request "worker_brief_digest"
  let outputBytes ← item request "maximum_output_bytes"
  return object [("schema", .str (text "switchyard.provider-request-preflight/v1")), ("request_digest", requestDigest),
    ("worker_brief_digest", briefDigest), ("worker_brief_bytes", .int brief.length),
    ("maximum_reserved_turn_start_wire_bytes", .int wire.length),
    ("maximum_turn_start_wire_bytes", .int (clientRequestByteBound (text "turn/start") contract)),
    ("maximum_output_bytes", outputBytes), ("provider_contact", .bool false)]

end

variable {host : Host} {floatRepr : ℚ → Text} {installation : Installation} {request backend : Members} {brief : Bytes}

/-- The input of a turn in its normal form. -/
def normalInput (content : Text) : Json :=
  .arr [.obj (object [("type", .str (text "text")), ("text", .str (PROMPT ++ content)), ("text_elements", .arr [])])]

/-- The parameters of a turn on this thread. -/
def turnParams (threadId : Text) (model : Json) (content : Text) : Members :=
  object [("threadId", .str threadId), ("model", model),
    ("input", .arr [.obj (object [("type", .str (text "text")), ("text", .str (PROMPT ++ content))])])]

theorem fitting_ok {maximum : Nat} {wire : Bytes} : fitting maximum wire = .ok () ↔ wire.length ≤ maximum := by
  unfold fitting
  split
  · exact ⟨nofun, fun fits => by omega⟩
  · exact ⟨fun _ => by omega, fun _ => rfl⟩

/-- What an accepted preflight has seen. -/
structure Preflighted (host : Host) (floatRepr : ℚ → Text) (installation : Installation) (request backend : Members)
    (brief : Bytes) (content : Text) (model : Json) (contract : CaptureContract) (wire : Bytes) : Prop where
  decoded : Text.decode? brief = some content
  chosen : item backend "model" = .ok model
  contracted : captureContractForRequest host installation request = .ok contract
  written : requestWire floatRepr (turnStart 9007199254740991 (turnParams reservedId model content)).message = .ok wire
  bounded : wire.length ≤ clientRequestByteBound (text "turn/start") contract
  echoed : contract = .boundedTurnEcho → ∀ each ∈ LIFECYCLE,
    ∃ echo, requestWire floatRepr (reservedEcho each.1 each.2 (normalInput content)) = .ok echo ∧
      echo.length ≤ MAXIMUM_USER_INPUT_ECHO_BYTES

theorem normalizedBoundedTurnInput_params (threadId : Text) (model : Json) (content : Text) :
    normalizedBoundedTurnInput (get (turnParams threadId model content) "input") = some (normalInput content) := by
  have closes : closed (object [("type", .str (text "text")), ("text", .str (PROMPT ++ content))]) ["type", "text"] = true := by
    simp [closed, object, has, text_inj]
  have given : get (turnParams threadId model content) "input" =
      .arr [.obj (object [("type", .str (text "text")), ("text", .str (PROMPT ++ content))])] := by
    simp [turnParams, get_object_cons]
  simp [given, normalizedBoundedTurnInput, closes, get_object_cons, Json.is_iff, normalInput]

theorem boundedTurnStart_ok {threadId : Text} {params : Members} (bounded : boundedId (.str threadId) = true) :
    boundedTurnStart (.str threadId) backend brief = .ok params ↔ ∃ content model,
      Text.decode? brief = some content ∧ item backend "model" = .ok model ∧ params = turnParams threadId model content := by
  unfold boundedTurnStart
  rw [if_pos bounded]
  cases decoded : Text.decode? brief with
  | none => simp
  | some content =>
    cases chosen : item backend "model" with
    | error className =>
      refine ⟨nofun, ?_⟩
      rintro ⟨other, model, -, given, -⟩
      cases given
    | ok model =>
      constructor
      · intro started
        cases started
        exact ⟨content, model, rfl, rfl, rfl⟩
      · rintro ⟨other, given, same, chosen, rfl⟩
        cases same
        cases chosen
        rfl

theorem preflightRequest_ok {report : Members}
    (accepted : preflightRequest host floatRepr installation request brief backend = .ok report) :
    ∃ content model contract wire, Preflighted host floatRepr installation request backend brief content model contract wire ∧
      get report "maximum_reserved_turn_start_wire_bytes" = .int wire.length := by
  unfold preflightRequest at accepted
  obtain ⟨-, -, accepted⟩ := bind_ok.mp accepted
  obtain ⟨params, started, accepted⟩ := bind_ok.mp accepted
  obtain ⟨wire, written, accepted⟩ := bind_ok.mp accepted
  obtain ⟨contract, contracted, accepted⟩ := bind_ok.mp accepted
  obtain ⟨_, fits, accepted⟩ := bind_ok.mp accepted
  obtain ⟨_, echoed, accepted⟩ := bind_ok.mp accepted
  obtain ⟨requestDigest, -, accepted⟩ := bind_ok.mp accepted
  obtain ⟨briefDigest, -, accepted⟩ := bind_ok.mp accepted
  obtain ⟨outputBytes, -, accepted⟩ := bind_ok.mp accepted
  cases accepted
  obtain ⟨content, model, decoded, chosen, rfl⟩ := (boundedTurnStart_ok reservedId_bounded).mp started
  refine ⟨content, model, contract, wire, ⟨decoded, chosen, contracted, written, fitting_ok.mp fits, ?_⟩, ?_⟩
  · intro echo each listed
    unfold reserveEchoes at echoed
    rw [if_pos echo, normalizedBoundedTurnInput_params] at echoed
    obtain ⟨_, first, last⟩ := bind_ok.mp echoed
    simp only [LIFECYCLE, List.mem_cons, List.not_mem_nil, or_false] at listed
    rcases listed with rfl | rfl
    · obtain ⟨wire, written, fits⟩ := bind_ok.mp first
      exact ⟨wire, written, fitting_ok.mp fits⟩
    · obtain ⟨wire, written, fits⟩ := bind_ok.mp last
      exact ⟨wire, written, fitting_ok.mp fits⟩
  · simp [get_object_cons]

/-- Two turns differ in length by their request and thread identities. -/
private theorem turnStart_width (floatRepr : ℚ → Text) (requestId otherId : Nat) (threadId otherThread : Text) (model : Json) (content : Text) :
    (compact floatRepr (.obj (turnStart requestId (turnParams threadId model content)).message)).width +
        ((compact floatRepr (.int otherId)).width + (quoted otherThread).width) =
      (compact floatRepr (.obj (turnStart otherId (turnParams otherThread model content)).message)).width +
        ((compact floatRepr (.int requestId)).width + (quoted threadId).width) := by
  simp only [turnStart, Request.message, turnParams, object, List.map_cons, List.map_nil, List.cons_append, List.nil_append,
    compact_obj_width, memberWidth, compact_str, Rfc8785.stretched, List.sum_cons, List.sum_nil, List.length_cons,
    List.length_nil]
  omega

theorem turnStart_scalar (requestId : Nat) (threadId : Text) (model : Json) (content : Text) :
    Text.Scalar (compact floatRepr (.obj (turnStart requestId (turnParams threadId model content)).message)) ↔
      threadId.Scalar ∧ Text.Scalar (compact floatRepr model) ∧ content.Scalar := by
  have fixed (literal : String) : Text.Scalar (text literal) := Text.scalar_text literal
  have prompt : Text.Scalar PROMPT := (fixed _).append (fixed _)
  simp only [turnStart, Request.message, turnParams, object, List.map_cons, List.map_nil, List.cons_append, List.nil_append,
    scalar_compact_obj, scalar_compact_arr, List.forall_mem_cons, compact_str, scalar_quoted_iff, scalar_append_iff, fixed, prompt,
    scalar_compact_int, true_and, List.not_mem_nil, false_implies, implies_true, and_true]

/-- A turn on any thread under any safe identity is no longer than the one that was reserved. -/
theorem Preflighted.turnStart {content : Text} {model : Json} {contract : CaptureContract} {reserved : Bytes}
    (preflighted : Preflighted host floatRepr installation request backend brief content model contract reserved)
    {threadId : Text} (bounded : threadId.length ≤ 512) (scalar : threadId.Scalar) {requestId : Nat} (safe : requestId < 2 ^ 53) :
    ∃ wire, requestWire floatRepr (turnStart requestId (turnParams threadId model content)).message = .ok wire ∧
      wire.length ≤ reserved.length := by
  have whole := (turnStart_scalar _ _ _ _).mp ((requestWire_isOk floatRepr).mp ⟨reserved, preflighted.written⟩)
  obtain ⟨wire, written⟩ := (requestWire_isOk floatRepr).mpr
    ((turnStart_scalar requestId threadId model content).mpr ⟨scalar, whole.2⟩)
  refine ⟨wire, written, ?_⟩
  have same := turnStart_width floatRepr requestId 9007199254740991 threadId reservedId model content
  have identity := @compact_int_width_le floatRepr (requestId : Int) (by omega)
  have most : (compact floatRepr (.int ((9007199254740991 : Nat) : Int))).width = 16 := by
    rw [compact_int_width]
    decide
  have thread : (quoted threadId).width ≤ (quoted reservedId).width := quoted_width_le bounded
  rw [if_neg (by omega)] at identity
  rw [requestWire_length floatRepr written, requestWire_length floatRepr preflighted.written]
  omega

/-- Every turn of an accepted request passes the checks for its size, in the client and in the mapper. -/
theorem preflight_covers_turn_start {report : Members} {threadId : Text} {requestId : Nat}
    (accepted : preflightRequest host floatRepr installation request brief backend = .ok report)
    (bounded : boundedId (.str threadId) = true) (scalar : threadId.Scalar) (safe : requestId < 2 ^ 53) :
    ∃ params wire contract, ∃ reserved : Nat, boundedTurnStart (.str threadId) backend brief = .ok params ∧
      requestWire floatRepr (turnStart requestId params).message = .ok wire ∧
      captureContractForRequest host installation request = .ok contract ∧
      get report "maximum_reserved_turn_start_wire_bytes" = .int reserved ∧ wire.length ≤ reserved ∧
      reserved ≤ clientRequestByteBound (text "turn/start") contract ∧
      (contract = .boundedTurnEcho → (normalizedBoundedTurnInput (get params "input")).isSome) ∧
      (∀ client : Client, client.captureContract = contract → (contract = .boundedTurnEcho → client.boundedTurnEcho = none) →
        ∃ after, checkRequest floatRepr (turnStart requestId params) client = (.ok wire, after)) ∧
      (∀ parsed, host.loadsUnique wire = .ok parsed → equal parsed (.obj (turnStart requestId params).message) = true →
        ∃ raw, Admission.rawCustody host ⟨(turnStart requestId params).message, some wire⟩
          (clientRequestByteBound (text "turn/start") contract) = .ok raw) := by
  obtain ⟨content, model, contract, reserved, preflighted, reported⟩ := preflightRequest_ok accepted
  have short : threadId.length ≤ 512 := by
    simp only [boundedId, Bool.and_eq_true, decide_eq_true_eq] at bounded
    exact bounded.2
  obtain ⟨wire, written, fits⟩ := preflighted.turnStart short scalar safe
  have started := (boundedTurnStart_ok bounded).mpr ⟨content, model, preflighted.decoded, preflighted.chosen, rfl⟩
  have within := Nat.le_trans fits preflighted.bounded
  refine ⟨_, wire, contract, reserved.length, started, written, preflighted.contracted, reported, fits, preflighted.bounded,
    fun _ => by rw [normalizedBoundedTurnInput_params]; rfl, ?_, ?_⟩
  · intro client same unselected
    have named : get (turnParams threadId model content) "threadId" = .str threadId := by simp [turnParams, get_object_cons]
    have small : ¬ clientRequestByteBound (text "turn/start") client.captureContract < wire.length := by
      rw [same]
      omega
    have meets : Effect.Meets (checkRequest floatRepr (turnStart requestId (turnParams threadId model content))) client
        (fun given _ => given = wire) (fun _ _ => False) := by
      unfold checkRequest
      apply Effect.Meets.bind
      apply Effect.Meets.read
      apply Effect.Meets.bind
      apply Effect.Meets.lift
      · intro given sent
        obtain rfl : wire = given := Except.ok.inj (written.symm.trans sent)
        apply Effect.Meets.ite
        · intro large
          exact absurd large small
        · intro _
          apply Effect.Meets.ite
          · intro selects
            have free := unselected (same ▸ selects.1)
            simp only [turnStart, named, normalizedBoundedTurnInput_params]
            apply Effect.Meets.ite
            · intro _
              apply Effect.Meets.bind
              apply Effect.Meets.modify
              exact .pure rfl
            · intro refuses
              simp only [bounded, free, Option.isNone_none, Bool.and_self, not_true_eq_false] at refuses
          · intro _
            exact .pure rfl
      · intro className failed
        cases written.symm.trans failed
    cases result : checkRequest floatRepr (turnStart requestId (turnParams threadId model content)) client with
    | mk outcome after =>
      cases outcome with
      | error className => exact (meets.raises result).elim
      | ok given => exact ⟨after, by rw [meets.returns result]⟩
  · intro parsed decoded equals
    obtain ⟨raw, encoded⟩ : ∃ raw, wire = raw ++ ascii "\n" := by
      unfold requestWire at written
      split at written
      · cases written
        exact ⟨_, rfl⟩
      · cases written
    have terminated : wire.getLast? = some 10 := by
      rw [encoded]
      exact List.getLast?_concat
    have filled : 1 ≤ wire.length := by
      rw [encoded, List.length_append]
      exact Nat.le_add_left 1 _
    unfold Admission.rawCustody
    dsimp only
    rw [if_pos ⟨filled, within⟩, if_pos terminated, decoded]
    dsimp only
    rw [if_pos equals]
    unfold Admission.rawBytesCustody
    rw [if_pos ⟨filled, within⟩, dif_pos terminated]
    exact ⟨_, rfl⟩

/-! A request that its validation accepts, in the documents that it retains. Its brief is as long as the
filler of its packet, so the digests are chosen with the filler. -/

open Admission (literal FINAL_CODEX_SOURCE_HEAD)

/-- The digests of a request and of what it retains, in hexadecimal. -/
structure SampleDigests where
  packet : Nat
  retained : Nat
  brief : Nat
  predecessor : Nat
  predecessorBytes : Nat
  request : Nat

def sha256Text (digits : Nat) : Json := .str (text "sha256:" ++ Text.hex (ofHex digits).val)

def hexBytes (raw : Bytes) : Bytes := (Text.hex raw).map fun point => .ofNat point.val

def digestBytes (digits : Nat) : Bytes := hexBytes (ofHex digits).val

/-- What stands around the filler of the packet. -/
def packetHead : Bytes := ascii "\x7b\"filler\":\""

def packetTail (digests : SampleDigests) : Bytes :=
  ascii "\",\"global_constraints\":\x7b\x7d,\"packet_digest\":\"sha256:" ++ digestBytes digests.packet ++
    ascii "\",\"schema\":\"nightshift.orientation-packet/v1\"," ++ ascii "\"switchyard\":\x7b\"plan_ref\":\"nightshift-packet://" ++
    digestBytes digests.packet ++ ascii "\"\x7d,\"work_items\":[\x7b\"dependencies\":[],\"id\":\"w\"\x7d]\x7d"

/-- What stands around the filler in the brief, where the packet is hexadecimal. -/
def briefHead (digests : SampleDigests) : Bytes :=
  ascii "\x7b\"execution\":\x7b\"canonical_json\":\"\x7b\\\"adapter_id\\\":" ++ ascii "\\\"switchyard.codex-app-server\\\"," ++
    ascii "\\\"provider_model_class\\\":\\\"l\\\",\\\"resource_lock_keys\\\":" ++
    ascii "[\\\"l\\\"],\\\"workspace_identity\\\":\\\"/w\\\"\x7d\",\"contract\":" ++
    ascii "\"nightshift.foreman-execution-profile/v2#work-item\"\x7d," ++ ascii "\"global_constraints\":\x7b\"canonical_json\":\"\x7b\x7d\"," ++
    ascii "\"contract\":\"nightshift.orientation-packet/v1#global-constraints\"\x7d," ++ ascii "\"packet_digest\":\"sha256:" ++
    digestBytes digests.packet ++ ascii "\",\"packet_source\":\x7b\"bytes_hex\":\"" ++ hexBytes packetHead

def briefTail (digests : SampleDigests) : Bytes :=
  hexBytes (packetTail digests) ++ ascii "\",\"encoding\":\"hex\",\"retained_raw_digest\":\"sha256:" ++ digestBytes digests.retained ++
    ascii "\"\x7d,\"predecessor_receipts\":\x7b\x7d,\"schema\":" ++ ascii "\"nightshift.worker-brief-basis/v2\",\"work_item\":\x7b" ++
    ascii "\"canonical_json\":\"\x7b\\\"dependencies\\\":[],\\\"id\\\":\\\"w\\\"\x7d\"," ++
    ascii "\"contract\":\"nightshift.orientation-packet/v1#work-item\"\x7d\x7d"

/-- The canonical JSON of a brief whose packet has this many letters `f` as its filler. -/
def sampleBrief (digests : SampleDigests) (filler : Nat) : Bytes :=
  briefHead digests ++ List.replicate (2 * filler) 54 ++ briefTail digests

/-- What a request and its predecessor have in common. -/
def sharedFields (digests : SampleDigests) : List (String × Json) := [
  ("adapter_id", literal "switchyard.codex-app-server"), ("adapter_version", literal "2.0.0"),
  ("adapter_protocol", literal "switchyard.codex-app-server/v2"), ("packet_digest", sha256Text digests.packet),
  ("run_id", literal "r"), ("work_item_id", literal "w"), ("attempt_id", literal "a"),
  ("worker_brief_digest", sha256Text digests.brief), ("workspace_identity", literal "/w"), ("provider_model_class", literal "l"),
  ("timeout_seconds", .int 300), ("maximum_output_bytes", .int 65536), ("recursive_worker_swarms_forbidden", .bool true),
  ("approval_policy", literal "SURFACE_ONLY_NO_RESPONSE"), ("expected_receipt_schema", literal "nightshift.worker-terminal-receipt/v1")]

def samplePredecessor (digests : SampleDigests) : Members :=
  object ([("schema", literal "nightshift.worker-start-request/v2"), ("request_digest", sha256Text digests.predecessor)] ++
    sharedFields digests)

def sampleRequest (digests : SampleDigests) (schema : Nat) : Members :=
  object ([("schema", literal "nightshift.worker-start-request/v3"), ("request_digest", sha256Text digests.request),
    ("predecessor_schema", literal "nightshift.worker-start-request/v2"),
    ("predecessor_request_digest", sha256Text digests.predecessor), ("predecessor_sha256", sha256Text digests.predecessorBytes),
    ("predecessor_encoding", literal "hex"),
    ("predecessor_bytes_hex", .str (Text.hex (plainBytes (.obj (samplePredecessor digests))))),
    ("profile_digest", sha256Text 0x1900eab6c028483d7126599ee6f50de0d27907b5c65fa90524580b4b0f9852b0),
    ("work_attempt_id", literal "a"), ("dispatch_occurrence_id", literal "d"), ("provider_id", literal "openai"),
    ("model_id", literal "m"), ("model_class", literal "l"), ("selected_model_ordinal", .int 0),
    ("provider_admission_adapter_protocol", literal "switchyard.codex-app-server/v2"),
    ("provider_admission_binding_schema", literal "switchyard.codex-provider-admission-binding/v1"),
    ("provider_admission_evidence_schema", literal "switchyard.codex-provider-admission-evidence/v1"),
    ("provider_admission_snapshot_schema", literal "switchyard.codex-provider-admission-snapshot/v1"),
    ("codex_owner_head", literal FINAL_CODEX_SOURCE_HEAD),
    ("switchyard_owner_head", literal "2ba25db66d8b29dd215bd87e05f4ea794024b3b7"), ("switchyard_schema_sha256", sha256Text schema),
    ("switchyard_deterministic_fixture_sha256", sha256Text 0xcafa673ac58f60029fd6c1de229b4f57d9f42ba918b7ecb2a3bfb20cb2b41a31),
    ("provider_execution_id", .null), ("internal_provider_retry_count", .int 0), ("semantic_retry", .bool false),
    ("approval_response_authorized", .bool false), ("authority_effect", literal "LOCAL_AGENT_COMPUTE_SCHEDULING_ONLY")] ++
    sharedFields digests)

def sampleBackend : Members := object [("schema", literal "switchyard.provider-backend/v1"), ("executable", literal "/b"),
  ("executable_sha256", sha256Text 0x3bdbb4fe8397cd2b842430b39ccff01a8663c751945ef5e9a09e267fb8b1d359),
  ("executable_shape", literal "standalone-app-server"), ("codex_source_head", literal FINAL_CODEX_SOURCE_HEAD),
  ("codex_home", literal "/h"), ("provider", literal "openai"), ("model", literal "m")]

/-- An installation whose schema files hold their names, and whose validation knows one request and its brief. -/
def sampleInstallation (admitted : Members) (admittedBrief : Bytes) : Installation where
  boundedTurnEchoSchema := ascii "bounded-turn-echo"
  boundedTurnSchema := ascii "bounded-turn"
  validateRequest request brief :=
    if request = admitted ∧ brief = admittedBrief then .ok () else .error adapterProtocolError

theorem sampleInstallation_accepts (admitted : Members) (admittedBrief : Bytes) :
    (sampleInstallation admitted admittedBrief).validateRequest admitted admittedBrief = .ok () := if_pos ⟨rfl, rfl⟩

end Switchyard.Runner
