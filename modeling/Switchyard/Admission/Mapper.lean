import Switchyard.Admission.Evidence
import Switchyard.Library.Effect

/-! The provider-admission mapper: one closed consumer that normalises ordered
acquisition envelopes into evidence records and a disposition. -/

namespace Switchyard.Admission
open Library Json AppServer

inductive AdmissionDisposition
  | unresolved
  | executionAdmitted
  | notAdmittedModelAtCapacity
  | admissionIndeterminate
deriving DecidableEq

def AdmissionDisposition.name : AdmissionDisposition → String
  | .unresolved => "UNRESOLVED"
  | .executionAdmitted => "EXECUTION_ADMITTED"
  | .notAdmittedModelAtCapacity => "NOT_ADMITTED_MODEL_AT_CAPACITY"
  | .admissionIndeterminate => "ADMISSION_INDETERMINATE"

inductive MechanismState
  | dispatching
  | executionAdmitted
  | running
  | waitingApproval
  | parkedNotAdmitted
  | providerCompleted
  | postAdmissionInterrupted
  | admissionIndeterminate
deriving DecidableEq

def MechanismState.name : MechanismState → String
  | .dispatching => "DISPATCHING"
  | .executionAdmitted => "EXECUTION_ADMITTED"
  | .running => "RUNNING"
  | .waitingApproval => "WAITING_APPROVAL"
  | .parkedNotAdmitted => "PARKED_NOT_ADMITTED"
  | .providerCompleted => "PROVIDER_COMPLETED"
  | .postAdmissionInterrupted => "POST_ADMISSION_INTERRUPTED"
  | .admissionIndeterminate => "ADMISSION_INDETERMINATE"

/-- `_ClientRequest`. -/
structure ClientRequest where
  requestId : Int
  method : Text
  paramsDigest : Text
deriving DecidableEq

/-- The lifecycle of the one selected turn under the bounded echo contract. Sets are lists without repetition. -/
structure BoundedTurn where
  turnInput : Option Json
  inputItemId : Option Text
  inputMethods : List Text
  agentItemId : Option Text
  agentText : Option Text
  completedAgentIds : List Text
  completedAgentBytes : Nat
  lastCompletedAgent : Option (Text × Text)
deriving DecidableEq

structure Mapper where
  records : List Record
  pending : Option Request
  completedRequests : List Text
  pendingStartedAtMs : Option Int
  openResponseId : Option Text
  clientRequests : List (Int × ClientRequest)
  bounded : BoundedTurn
  acquisitionCut : Option Cut
  expectedAcquisitionOrdinal : Nat
  currentAcquisitionOrdinal : Option Nat
  currentAcquisitionKind : Option AcquisitionKind
  lastBoundaryMs : Option Int
  retainedRecordBytes : Nat
  admissionDisposition : AdmissionDisposition
  mechanismState : MechanismState
  providerExecutionIdentity : Option ExecutionIdentity
deriving DecidableEq

/-- What the constructor fixes for the life of a mapper. -/
structure Settings (host : Host) where
  binding : Binding host
  captureContract : CaptureContract
  allowUnorderedFixture : Bool
  supported : captureContract ≠ .legacy → is (get binding.members "codex_source_head") FINAL_CODEX_SOURCE_HEAD = true

/-- `ProviderAdmissionMapper(binding, ...)`. -/
def Settings.of (host : Host) (binding : Json) (captureContract : CaptureContract) (allowUnorderedFixture : Bool) :
    Except Failure (Settings host) :=
  match binding with
  | .obj members =>
    match valid : validateBinding host (.obj members) with
    | .error failure => .error failure
    | .ok () =>
      if supported : captureContract ≠ .legacy → is (get members "codex_source_head") FINAL_CODEX_SOURCE_HEAD = true then
        .ok ⟨⟨members, valid⟩, captureContract, allowUnorderedFixture, supported⟩
      else .error (refused "bounded capture requires the final supported source")
  | _ => .error (refused "closed provider-admission binding fields do not match")

def BoundedTurn.initial : BoundedTurn := ⟨none, none, [], none, none, [], 0, none⟩

def Mapper.initial : Mapper where
  records := []
  pending := none
  completedRequests := []
  pendingStartedAtMs := none
  openResponseId := none
  clientRequests := []
  bounded := .initial
  acquisitionCut := none
  expectedAcquisitionOrdinal := 0
  currentAcquisitionOrdinal := none
  currentAcquisitionKind := none
  lastBoundaryMs := none
  retainedRecordBytes := 0
  admissionDisposition := .unresolved
  mechanismState := .dispatching
  providerExecutionIdentity := none

abbrev Operation := Effect Mapper Failure

section
variable {host : Host} (settings : Settings host)

/-- The record that would be appended, with its canonical size. -/
def evidence (mapper : Mapper) (method : Json) (raw : Option RawCustody) (normalized : Normalized) :
    Except Failure (Record × Nat) :=
  if MAXIMUM_RECORDS ≤ mapper.records.length then .error (refused "provider-admission evidence record bound exceeded")
  else do
    let draft : Record := {
      evidenceDigest := text "sha256:" ++ List.replicate 64 48
      sequence := mapper.records.length
      acquisitionOrdinal := mapper.currentAcquisitionOrdinal
      acquisitionKind := mapper.currentAcquisitionKind
      method := method
      normalized := normalized
      raw := raw }
    let digest ← digestOf host EVIDENCE_DOMAIN (draft.toMembers settings.binding) "evidence_digest"
    let stored := { draft with evidenceDigest := digest }
    let encoded ← canonical host (.obj (stored.toMembers settings.binding))
    if MAXIMUM_SNAPSHOT_BYTES < mapper.retainedRecordBytes + encoded.length then
      .error (refused "provider-admission evidence exceeds cumulative byte bound")
    else .ok (stored, encoded.length)

/-- `_record`. -/
def record (method : Json) (raw : Option RawCustody) (normalized : Normalized) : Operation Record := do
  let mapper ← Effect.read
  let (stored, recordBytes) ← Effect.lift (evidence settings mapper method raw normalized)
  Effect.modify fun mapper => { mapper with
    retainedRecordBytes := mapper.retainedRecordBytes + recordBytes
    records := mapper.records ++ [stored] }
  return stored

/-- Any discrepancy ends the dispatch: before admission as indeterminate, after it as interrupted. -/
def Mapper.interrupted (mapper : Mapper) : Mapper :=
  if mapper.providerExecutionIdentity = none then
    { mapper with admissionDisposition := .admissionIndeterminate, mechanismState := .admissionIndeterminate }
  else { mapper with mechanismState := .postAdmissionInterrupted }

/-- `detail[:MAXIMUM_DIAGNOSTIC_CODEPOINTS]`. -/
def sliced : Json → Except Failure Json
  | .str value => .ok (.str (value.take MAXIMUM_DIAGNOSTIC_CODEPOINTS))
  | .arr items => .ok (.arr (items.take MAXIMUM_DIAGNOSTIC_CODEPOINTS))
  | _ => .error (.other typeError)

def markDiscrepancy (detail method : Json) (raw : Option RawCustody) : Operation Record := do
  Effect.modify Mapper.interrupted
  let detail ← Effect.lift (sliced detail)
  let mapper ← Effect.read
  record settings method raw (.discrepancy detail mapper.providerExecutionIdentity)

/-- The fields that `_atomic` saves are put back; the bounded-turn fields are not among them. -/
def restored (checkpoint mapper : Mapper) : Mapper := { mapper with
  pending := checkpoint.pending
  pendingStartedAtMs := checkpoint.pendingStartedAtMs
  openResponseId := checkpoint.openResponseId
  clientRequests := checkpoint.clientRequests
  acquisitionCut := checkpoint.acquisitionCut
  expectedAcquisitionOrdinal := checkpoint.expectedAcquisitionOrdinal
  currentAcquisitionOrdinal := checkpoint.currentAcquisitionOrdinal
  currentAcquisitionKind := checkpoint.currentAcquisitionKind
  lastBoundaryMs := checkpoint.lastBoundaryMs
  completedRequests := checkpoint.completedRequests
  admissionDisposition := checkpoint.admissionDisposition
  mechanismState := checkpoint.mechanismState
  providerExecutionIdentity := checkpoint.providerExecutionIdentity
  retainedRecordBytes := checkpoint.retainedRecordBytes
  records := mapper.records.take checkpoint.records.length }

def atomic {α : Type} (operation : Operation α) : Operation α := operation.recovering restored

def requireAcquisitionOpen : Operation Unit := do
  let mapper ← Effect.read
  if mapper.acquisitionCut.isSome then Effect.raise (refused "terminal acquisition cut is already retained") else return ()

def markAcquisitionLoss (detail : Json) : Operation Record := atomic do
  requireAcquisitionOpen
  markDiscrepancy settings detail (literal "adapter/acquisition") none

def LEGACY_FACTS : List String := ["thread/start", "turn/start", "turn/started", "worker_started"]

def recordLegacyLocalFact (kind : Json) : Operation Record := atomic do
  requireAcquisitionOpen
  Effect.lift (requireHashable kind)
  if LEGACY_FACTS.any (is kind) then record settings kind none .localTurnFact
  else markDiscrepancy settings (literal "unknown legacy local-turn fact") kind none

def FIXTURE_METHODS : List String :=
  ["fixture/provider-admission-positive", "fixture/provider-order-approval-before-created",
    "fixture/provider-order-loss-before-created", "fixture/provider-order-duplicate-key",
    "fixture/provider-order-nested-duplicate-key"]

def OWNER_METHODS : List String := ["initialize", "thread/start", "turn/start", "thread/read", "thread/resume"]

/-- The method is one of these. -/
def among (methods : List String) (method : Text) : Bool := methods.any fun other => method == text other

/-- Why a client request is a discrepancy, before anything of it is retained. -/
def clientRequestRefusal (requestMethod : Text) (request : Members) : Option String :=
  let params := get request "params"
  if (boundedInt "client request id" (get request "id") 0 SAFE_INTEGER_MAX matches .error _) then
    some "invalid client request id"
  else if !closed request (["id", "method"] ++ if has request "params" then ["params"] else []) ||
      !names (get request "method") requestMethod then
    some "client request method or closed shape substitution"
  else if !(params matches .null) && params.members?.isNone then some "client request params are not an object"
  else if among FIXTURE_METHODS requestMethod && !is (get settings.binding.members "executable_kind") "DETERMINISTIC_FIXTURE" then
    some "fixture client request is not permitted for a campaign Codex build"
  else if !among FIXTURE_METHODS requestMethod && !among OWNER_METHODS requestMethod then some "unknown client request method"
  else if among ["turn/start", "thread/read", "thread/resume"] requestMethod &&
      !(params.members?.any fun params => names (get params "threadId") (settings.binding.text "thread_id")) then
    some "client request thread identity substitution"
  else none

/-- The end of `_client_request`: a fresh identity is retained with the digest of its params. -/
def issueClientRequest (requestMethod : Text) (request : Members) (raw : RawCustody) : Operation Record := do
  let mapper ← Effect.read
  let method := Json.str (text "client-request/" ++ requestMethod)
  let requestId ← Effect.lift (boundedInt "client request id" (get request "id") 0 SAFE_INTEGER_MAX)
  if (mapper.clientRequests.lookup requestId).isSome then
    markDiscrepancy settings (literal "duplicate client request identity") method raw
  else
    let params ← Effect.lift (canonical host (get request "params"))
    let paramsDigest := host.digest params
    Effect.modify fun mapper => { mapper with
      clientRequests := mapper.clientRequests ++ [(requestId, ⟨requestId, requestMethod, paramsDigest⟩)] }
    record settings method raw (.clientRequestIssued requestId requestMethod paramsDigest)

/-- `_client_request`. -/
def clientRequest (requestMethod : Text) (message : ServerMessage) : Operation Record := do
  let raw ← Effect.lift (rawCustody host message (clientRequestByteBound requestMethod settings.captureContract))
  let method := Json.str (text "client-request/" ++ requestMethod)
  match clientRequestRefusal settings requestMethod message.raw with
  | some detail => markDiscrepancy settings (literal detail) method raw
  | none =>
    if settings.captureContract = .boundedTurnEcho ∧ requestMethod = text "turn/start" then
      match normalizedBoundedTurnInput (get message.params "input") with
      | none => markDiscrepancy settings (literal "bounded turn input is outside the closed echo shape") method raw
      | some expectedInput =>
        let mapper ← Effect.read
        if mapper.bounded.turnInput.isSome then
          markDiscrepancy settings (literal "bounded turn echo permits only one selected input") method raw
        else
          Effect.modify fun mapper => { mapper with bounded := { mapper.bounded with turnInput := some expectedInput } }
          issueClientRequest settings requestMethod message.raw raw
    else issueClientRequest settings requestMethod message.raw raw

/-- Why a client response is a discrepancy, given the request it claims to answer. -/
def clientResponseRefusal (expected : ClientRequest) (requestMethod : Text) (response : Members) : Option Text :=
  if expected.method != requestMethod then
    some (text "client response request identity or method substitution")
  else if has response "result" == has response "error" ||
      !closed response (if has response "result" then ["id", "result"] else ["id", "error"]) then
    some (text "client response has non-closed result/error shape")
  else if has response "error" then some (text "client request returned an App Server error")
  else match get response "result" with
    | .obj result =>
      if among ["thread/start", "thread/read", "thread/resume"] requestMethod then
        if (get result "thread").members?.any fun thread => names (get thread "id") (settings.binding.text "thread_id") then none
        else some (requestMethod ++ text " response thread identity substitution")
      else if requestMethod = text "turn/start" then
        if (get result "turn").members?.any fun turn => names (get turn "id") (settings.binding.text "turn_id") then none
        else some (text "turn/start response turn identity substitution")
      else none
    | _ => some (text "client response result is not an object")

/-- `_client_response`. -/
def clientResponse (requestMethod : Text) (message : ServerMessage) : Operation Record := do
  let raw ← Effect.lift (rawCustody host message MAXIMUM_RAW_EVIDENCE_BYTES)
  let method := Json.str (text "client-response/" ++ requestMethod)
  match boundedInt "client response id" (get message.raw "id") 0 SAFE_INTEGER_MAX with
  | .error _ => markDiscrepancy settings (literal "invalid client response id") method raw
  | .ok responseId =>
    let mapper ← Effect.read
    match mapper.clientRequests.lookup responseId with
    | none => markDiscrepancy settings (literal "client response request identity or method substitution") method raw
    | some expected =>
      match clientResponseRefusal settings expected requestMethod message.raw with
      | some detail => markDiscrepancy settings (.str detail) method raw
      | none =>
        let result ← Effect.lift (canonical host (get message.raw "result"))
        Effect.modify fun mapper => { mapper with
          clientRequests := mapper.clientRequests.filter fun entry => entry.1 != responseId }
        record settings method raw
          (.clientResponseRetained responseId requestMethod expected.paramsDigest (host.digest result))

end

end Switchyard.Admission
