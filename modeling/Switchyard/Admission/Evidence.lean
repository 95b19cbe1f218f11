import Switchyard.AppServer.Frames
import Switchyard.Rfc8785

/-! Provider-admission evidence: exact wire bytes in custody, the sealed binding
of a dispatch, and the closed records that normalise one observation each. -/

namespace Switchyard.Admission
open Library Json AppServer

/-- ProviderAdmissionError with its text, or another exception with its class name. -/
inductive Failure
  | admission (message : Text)
  | other (className : ClassName)
deriving DecidableEq

def refused (message : String) : Failure := .admission (text message)

def literal (value : String) : Json := .str (text value)

def BINDING_SCHEMA : String := "switchyard.codex-provider-admission-binding/v1"
def EVIDENCE_SCHEMA : String := "switchyard.codex-provider-admission-evidence/v1"
def SNAPSHOT_SCHEMA : String := "switchyard.codex-provider-admission-snapshot/v1"
def CODEX_SOURCE_HEAD : String := "c36a8137638decf8b04a49611354a90f32c5a945"
def BETA_CODEX_SOURCE_HEAD : String := "6893ae42233aa95b1c1623497405681d99a589da"
def FINAL_CODEX_SOURCE_HEAD : String := "97b0acd5ce2ccb3c87a763606696c35a450947f6"
def MAXIMUM_RAW_EVIDENCE_BYTES : Nat := 16 * 1024
def MAXIMUM_ID_CODEPOINTS : Nat := 512
def MAXIMUM_DIAGNOSTIC_CODEPOINTS : Nat := 4096
def MAXIMUM_RECORDS : Nat := 4096
def MAXIMUM_SNAPSHOT_BYTES : Nat := 16 * 1024 * 1024
def U32_MAX : Int := 2 ^ 32 - 1
def SAFE_INTEGER_MAX : Int := 2 ^ 53 - 1
def SAFE_INTEGER_MIN : Int := -SAFE_INTEGER_MAX
def BINDING_DOMAIN : Bytes := ascii "switchyard.codex-provider-admission-binding.digest/v1" ++ [0]
def EVIDENCE_DOMAIN : Bytes := ascii "switchyard.codex-provider-admission-evidence.digest/v1" ++ [0]
def SNAPSHOT_DOMAIN : Bytes := ascii "switchyard.codex-provider-admission-snapshot.digest/v1" ++ [0]

def canonical (host : Host) (value : Json) : Except Failure Bytes :=
  match Rfc8785.dumps host value with
  | .ok raw => .ok raw
  | .error .unicodeEncode => .error (.other unicodeEncodeError)
  | .error failure => .error (.admission (text "value is outside RFC8785-JCS: " ++ failure.message))

/-- `_digest`: over the domain and the canonical form of everything but the field itself. -/
def digestOf (host : Host) (domain : Bytes) (value : Members) (field : String) : Except Failure Text := do
  let raw ← canonical host (.obj (value.filter fun member => member.1 != text field))
  return host.digest (domain ++ raw)

def identity (field : String) : Json → Except Failure Text
  | .str value =>
    if 1 ≤ value.length ∧ value.length ≤ MAXIMUM_ID_CODEPOINTS then .ok value else .error (refused ("invalid " ++ field))
  | _ => .error (refused ("invalid " ++ field))

def boundedInt (field : String) (value : Json) (minimum maximum : Int) : Except Failure Int :=
  match value with
  | .int value => if minimum ≤ value ∧ value ≤ maximum then .ok value else .error (refused ("invalid " ++ field))
  | _ => .error (refused ("invalid " ++ field))

/-- Set membership hashes its left side. -/
def requireHashable (value : Json) : Except Failure Unit :=
  if value.hashable then .ok () else .error (.other typeError)

def require (holds : Bool) (message : String) : Except Failure Unit :=
  if holds then .ok () else .error (refused message)

inductive Representation
  | exactWireBytes
  | exactAcquiredFrameBytes
deriving DecidableEq

def Representation.name : Representation → String
  | .exactWireBytes => "EXACT_WIRE_BYTES_INCLUDING_LINE_TERMINATOR"
  | .exactAcquiredFrameBytes => "EXACT_ACQUIRED_FRAME_BYTES_INCLUDING_LINE_TERMINATOR"

/-- Retained bytes end with their line terminator. -/
structure RawCustody where
  representation : Representation
  bytes : Bytes
  terminated : bytes.getLast? = some 10
deriving DecidableEq

def RawCustody.toJson (host : Host) (raw : RawCustody) : Json := .obj (object [
  ("representation", literal raw.representation.name),
  ("byte_length", .int raw.bytes.length),
  ("sha256", .str (host.digest raw.bytes)),
  ("encoding", literal "hex"),
  ("bytes_hex", .str (Text.hex raw.bytes))])

def rawBytesCustody (raw : Bytes) (representation : Representation) (maximum : Nat) : Except Failure RawCustody :=
  if 1 ≤ raw.length ∧ raw.length ≤ maximum then
    if terminated : raw.getLast? = some 10 then .ok ⟨representation, raw, terminated⟩
    else .error (refused "exact App Server evidence lacks line terminator")
  else .error (refused "App Server evidence exceeds exact byte bound")

/-- The retained bytes must parse, without repeated keys, to the message they came with. -/
def rawCustody (host : Host) (message : ServerMessage) (maximum : Nat) : Except Failure RawCustody :=
  match message.rawBytes with
  | none => .error (refused "exact App Server wire bytes are required")
  | some raw =>
    if 1 ≤ raw.length ∧ raw.length ≤ maximum then
      if raw.getLast? = some 10 then
        match host.loadsUnique raw with
        | .error (.malformed _ reason) => .error (.admission (text "invalid retained App Server wire JSON: " ++ reason))
        | .error (.duplicateKey key) => .error (.admission (text "duplicate App Server JSON key: " ++ key))
        | .error (.other className) => .error (.other className)
        | .ok parsed =>
          if equal parsed (.obj message.raw) then rawBytesCustody raw .exactWireBytes maximum
          else .error (refused "retained App Server wire bytes differ from parsed message")
      else .error (refused "exact App Server wire bytes lack line terminator")
    else .error (refused "App Server evidence exceeds exact byte bound")

def BINDING_IDENTITIES : List String :=
  ["work_attempt_id", "dispatch_occurrence_id", "adapter_process_occurrence_id", "app_server_session_identity",
    "thread_id", "turn_id", "provider", "model", "app_server_executable_identity"]

def BINDING_FIELDS : List String :=
  ["schema", "binding_digest", "codex_source_head", "executable_kind", "app_server_executable_sha256",
    "internal_provider_request_retries"] ++ BINDING_IDENTITIES

/-- `sha256:` and 64 lower-case hexadecimal digits. -/
def executableDigest : Json → Bool
  | .str value => value.length == 71 && (text "sha256:").isPrefixOf value &&
      (value.drop 7).all fun point => (48 ≤ point.val && point.val ≤ 57) || (97 ≤ point.val && point.val ≤ 102)
  | _ => false

def validateBinding (host : Host) : Json → Except Failure Unit
  | .obj value => do
    require (closed value BINDING_FIELDS) "closed provider-admission binding fields do not match"
    require (is (get value "schema") BINDING_SCHEMA) "foreign provider-admission binding schema"
    BINDING_IDENTITIES.forM fun field => do
      let _ ← identity field (get value field)
    requireHashable (get value "codex_source_head")
    require ([CODEX_SOURCE_HEAD, BETA_CODEX_SOURCE_HEAD, FINAL_CODEX_SOURCE_HEAD].any (is (get value "codex_source_head")))
      "Codex source head is not the accepted owner source"
    requireHashable (get value "executable_kind")
    require (["CAMPAIGN_CODEX_BUILD", "DETERMINISTIC_FIXTURE"].any (is (get value "executable_kind")))
      "unknown App Server executable custody kind"
    require (executableDigest (get value "app_server_executable_sha256")) "invalid App Server executable SHA-256"
    require (equal (get value "internal_provider_request_retries") (.int 0))
      "provider request retries must be exactly zero"
    let expected ← digestOf host BINDING_DOMAIN value "binding_digest"
    require (names (get value "binding_digest") expected) "provider-admission binding digest mismatch"
  | _ => .error (refused "closed provider-admission binding fields do not match")

/-- `seal_binding`. -/
def sealBinding (host : Host) (value : Members) : Except Failure Members := do
  let sealed := if has value "schema" then value else set value "schema" (literal BINDING_SCHEMA)
  let sealed := if has sealed "binding_digest" then sealed
    else set sealed "binding_digest" (.str (text "sha256:" ++ List.replicate 64 48))
  let expected ← digestOf host BINDING_DOMAIN sealed "binding_digest"
  let sealed := set sealed "binding_digest" (.str expected)
  validateBinding host (.obj sealed)
  return sealed

/-- A binding that `validate_binding` has accepted. -/
structure Binding (host : Host) where
  members : Members
  valid : validateBinding host (.obj members) = .ok ()

/-- The text under one of the binding's fields. -/
def Binding.text {host : Host} (binding : Binding host) (field : String) : Text := (get binding.members field).text?.getD []

inductive AcquisitionKind
  | loss
  | notification
  | serverRequest
  | clientRequest
  | clientResponse
  | unknown
deriving DecidableEq

def AcquisitionKind.name : AcquisitionKind → String
  | .loss => "LOSS"
  | .notification => "NOTIFICATION"
  | .serverRequest => "SERVER_REQUEST"
  | .clientRequest => "CLIENT_REQUEST"
  | .clientResponse => "CLIENT_RESPONSE"
  | .unknown => "UNKNOWN"

/-- Any kind but the five that are consumed is recorded as unknown. -/
def AcquisitionKind.of (kind : Json) : AcquisitionKind :=
  if is kind "LOSS" then .loss
  else if is kind "NOTIFICATION" then .notification
  else if is kind "SERVER_REQUEST" then .serverRequest
  else if is kind "CLIENT_REQUEST" then .clientRequest
  else if is kind "CLIENT_RESPONSE" then .clientResponse
  else .unknown

/-- `_Request`: one provider request occurrence. -/
structure Request where
  occurrenceId : Text
  ordinal : Int
  order : Int
  provider : Text
  model : Text
deriving DecidableEq

structure ExecutionIdentity where
  provider : Text
  model : Text
  appServerSessionIdentity : Text
  threadId : Text
  turnId : Text
  firstResponseId : Text
deriving DecidableEq

def ExecutionIdentity.toJson (execution : ExecutionIdentity) : Json := .obj (object [
  ("provider", .str execution.provider), ("model", .str execution.model),
  ("app_server_session_identity", .str execution.appServerSessionIdentity),
  ("thread_id", .str execution.threadId), ("turn_id", .str execution.turnId),
  ("first_response_id", .str execution.firstResponseId)])

def optionalIdentity (execution : Option ExecutionIdentity) : Json := (execution.map ExecutionIdentity.toJson).getD .null

structure StepIdentity where
  request : Request
  threadId : Text
  turnId : Text
  responseId : Text
deriving DecidableEq

def StepIdentity.toJson (step : StepIdentity) : Json := .obj (object [
  ("provider", .str step.request.provider), ("model", .str step.request.model),
  ("thread_id", .str step.threadId), ("turn_id", .str step.turnId),
  ("request_occurrence_id", .str step.request.occurrenceId), ("sampling_ordinal", .int step.request.ordinal),
  ("request_order", .int step.request.order), ("response_id", .str step.responseId)])

/-- The normalised terminal cut. -/
structure Cut where
  adapterProcessOccurrenceId : Text
  appServerSessionIdentity : Text
  streamQuiesced : Bool
  lossGeneration : Int
  processDisposition : Text
  orderedHighWater : Int
  consumedOrdinalCount : Nat
  outstandingClientRequestCount : Nat
  clean : Bool
deriving DecidableEq

def Cut.toJson (cut : Cut) : Json := .obj (object [
  ("adapter_process_occurrence_id", .str cut.adapterProcessOccurrenceId),
  ("app_server_session_identity", .str cut.appServerSessionIdentity),
  ("stream_quiesced", .bool cut.streamQuiesced), ("loss_generation", .int cut.lossGeneration),
  ("process_disposition", .str cut.processDisposition), ("ordered_high_water", .int cut.orderedHighWater),
  ("consumed_ordinal_count", .int cut.consumedOrdinalCount),
  ("outstanding_client_request_count", .int cut.outstandingClientRequestCount), ("clean", .bool cut.clean)])

/-- What a record says, by its kind. -/
inductive Normalized
  | discrepancy (detail : Json) (execution : Option ExecutionIdentity)
  | localTurnFact
  | watermark
  | clientRequestIssued (requestId : Int) (method paramsDigest : Text)
  | clientResponseRetained (requestId : Int) (method paramsDigest resultDigest : Text)
  | requestStarted (request : Request) (startedAtMs : Int)
  | executionStep (execution : ExecutionIdentity) (step : StepIdentity) (first : Bool) (observedAtMs : Int)
  | admissionRefused (request : Request) (retryAfterMs : Option Int) (diagnostic : Text) (observedAtMs : Int)
  | responseCompleted (responseId : Json)
  | waitingApproval (execution : Option ExecutionIdentity)
  | acquisitionCut (cut : Cut)
deriving DecidableEq

def Normalized.kind : Normalized → String
  | .discrepancy _ _ => "ADMISSION_DISCREPANCY"
  | .localTurnFact => "LOCAL_TURN_FACT"
  | .watermark => "ACQUISITION_WATERMARK"
  | .clientRequestIssued _ _ _ => "CLIENT_REQUEST_ISSUED"
  | .clientResponseRetained _ _ _ _ => "CLIENT_RESPONSE_RETAINED"
  | .requestStarted _ _ => "PROVIDER_REQUEST_STARTED"
  | .executionStep _ _ _ _ => "PROVIDER_EXECUTION_STEP"
  | .admissionRefused _ _ _ _ => "PROVIDER_ADMISSION_REFUSED"
  | .responseCompleted _ => "PROVIDER_RESPONSE_COMPLETED"
  | .waitingApproval _ => "WAITING_APPROVAL"
  | .acquisitionCut _ => "ACQUISITION_CUT"

def Normalized.toJson : Normalized → Json
  | .discrepancy detail execution => .obj (object [("detail", detail),
      ("provider_execution_identity", optionalIdentity execution),
      ("resume_same_attempt_only", .bool execution.isSome)])
  | .localTurnFact | .watermark => .obj (object [("proves_provider_admission", .bool false)])
  | .clientRequestIssued requestId method paramsDigest => .obj (object [("request_id", .int requestId),
      ("request_method", .str method), ("params_sha256", .str paramsDigest), ("proves_provider_admission", .bool false)])
  | .clientResponseRetained requestId method paramsDigest resultDigest => .obj (object [("request_id", .int requestId),
      ("request_method", .str method), ("params_sha256", .str paramsDigest), ("result_sha256", .str resultDigest),
      ("proves_provider_admission", .bool false)])
  | .requestStarted request startedAtMs => .obj (object [("request_occurrence_id", .str request.occurrenceId),
      ("sampling_ordinal", .int request.ordinal), ("request_order", .int request.order),
      ("started_at_ms", .int startedAtMs), ("proves_provider_admission", .bool false)])
  | .executionStep execution step first observedAtMs => .obj (object [
      ("provider_execution_identity", execution.toJson), ("provider_execution_step_identity", step.toJson),
      ("first_admission_boundary", .bool first), ("observed_at_ms", .int observedAtMs)])
  | .admissionRefused request retryAfterMs diagnostic observedAtMs => .obj (object [
      ("request_occurrence_id", .str request.occurrenceId), ("sampling_ordinal", .int request.ordinal),
      ("request_order", .int request.order), ("response_created", .bool false), ("will_retry", .bool false),
      ("refusal_kind", literal "MODEL_AT_CAPACITY"), ("codex_error_info", literal "serverOverloaded"),
      ("retry_after_ms", (retryAfterMs.map Json.int).getD .null), ("diagnostic", .str diagnostic),
      ("observed_at_ms", .int observedAtMs), ("provider_execution_identity", .null)])
  | .responseCompleted responseId => .obj (object [("response_id", responseId), ("proves_new_admission", .bool false)])
  | .waitingApproval execution => .obj (object [("approval_response_sent", .bool false),
      ("protected_effect_absent", .bool true), ("provider_execution_identity", optionalIdentity execution)])
  | .acquisitionCut cut => cut.toJson

structure Record where
  evidenceDigest : Text
  sequence : Nat
  acquisitionOrdinal : Option Nat
  acquisitionKind : Option AcquisitionKind
  method : Json
  normalized : Normalized
  raw : Option RawCustody
deriving DecidableEq

/-- `_base_fields`. -/
def baseFields {host : Host} (binding : Binding host) : List (String × Json) :=
  ["binding_digest", "work_attempt_id", "dispatch_occurrence_id", "adapter_process_occurrence_id",
    "app_server_session_identity", "thread_id", "turn_id", "provider", "model"].map fun field =>
      (field, get binding.members field)

def Record.toMembers {host : Host} (binding : Binding host) (record : Record) : Members := object (
  [("schema", literal EVIDENCE_SCHEMA), ("evidence_digest", .str record.evidenceDigest), ("sequence", .int record.sequence),
    ("acquisition_ordinal", (record.acquisitionOrdinal.map fun ordinal => Json.int ordinal).getD .null),
    ("acquisition_kind", (record.acquisitionKind.map fun kind => literal kind.name).getD .null)] ++
  baseFields binding ++
  [("kind", literal record.normalized.kind), ("method", record.method), ("normalized", record.normalized.toJson),
    ("raw", (record.raw.map (RawCustody.toJson host)).getD .null)])

end Switchyard.Admission
