import Switchyard.Runner.Claims
import Switchyard.Admission.Calls

/-! A run from its claim on: it starts the backend and one bounded turn, drains what the
client acquires into the mapper and its own record, and classifies the final cut. -/

namespace Switchyard.Runner
open Library Json AppServer Admission

/-- What is fixed before a run contacts its backend. -/
structure Launch where
  inputs : Inputs
  workspace : Text
  captureContract : CaptureContract

/-- All that the client of one run returns: what `start` and the two requests do, what each drain
of the loop hands over while the deadline lasts, what is left after the cut, the cut itself, and
the clock at the end. -/
structure Client where
  start : Except ClassName Unit
  threadStart : Except ClassName Members
  turnStart : Except ClassName Members
  polls : List (List AcquisitionEnvelope)
  tail : List AcquisitionEnvelope
  cut : AcquisitionCut
  ended : Nanoseconds

/-- What a run keeps while it lasts. `delivered` is what its client has handed over so far, and
`heard` the messages among it that the run has gone on to interpret. -/
structure Running (host : Host) where
  store : RunStore
  record : Members
  mapper : Option (Settings host × Mapper)
  pending : List AcquisitionEnvelope
  delivered : List AcquisitionEnvelope
  heard : List ServerMessage
  outputBytes : Nat
  attributionFailed : Bool

abbrev Activity (host : Host) := Effect (Running host) ClassName

/-- `type(error).__name__`. -/
def failureName : Failure → ClassName
  | .admission _ => className "ProviderAdmissionError"
  | .other className => className

/-- `value[key]`. -/
def subscript (value : Json) (key : String) : Except ClassName Json :=
  match value with
  | .obj members => item members key
  | _ => .error typeError

section
variable {host : Host}

def assign (key : String) (value : Json) : Activity host Unit :=
  Effect.modify fun running => { running with record := set running.record key value }

/-- `store.update(record)`. -/
def persist : Activity host Unit := fun running =>
  match running.record.lookup (text "dispatch_occurrence_id") with
  | some (.str dispatch) =>
    let done := RunStore.update host dispatch running.record running.store
    (done.1, { running with store := done.2 })
  | _ => (.error (className "KeyError"), running)

/-- An operation of the mapper. -/
def onMapper {α : Type} (operation : Settings host → Operation α) : Activity host α := fun running =>
  match running.mapper with
  | none => (.error (className "AttributeError"), running)
  | some (settings, mapper) =>
    ((operation settings mapper).1.mapError failureName, { running with mapper := some (settings, (operation settings mapper).2) })

def markLoss (detail : String) : Activity host Unit := do
  let _ ← onMapper fun settings => markAcquisitionLoss settings (literal detail)

/-- `record["provider_admission"] = mapper.snapshot()`. -/
def retainSnapshot : Activity host Unit := do
  let running ← Effect.read
  match running.mapper with
  | none => Effect.raise (className "AttributeError")
  | some (settings, mapper) => do
    let retained ← Effect.lift ((snapshot settings mapper).mapError failureName)
    assign "provider_admission" (.obj retained)

/-- The message has this method. -/
def hasMethod (message : ServerMessage) (method : String) : Bool := message.method == some (text method)

/-- `params.get("threadId") == record["thread_id"]`. -/
def ofThread (record : Members) (message : ServerMessage) : Bool :=
  equal (get message.params "threadId") (get record "thread_id")

/-- Output or usage of this thread that names another turn. -/
def misattributed (record : Members) (message : ServerMessage) : Bool :=
  (hasMethod message "thread/tokenUsage/updated" || hasMethod message "item/completed") && ofThread record message &&
    !equal (get message.params "turnId") (get record "turn_id")

def projectUsage (message : ServerMessage) : Activity host Unit := do
  let running ← Effect.read
  if hasMethod message "thread/tokenUsage/updated" && ofThread running.record message && !running.attributionFailed then do
    let usage := get message.params "tokenUsage"
    assign "usage" usage
    assign "usage_state" (literal (if usage = .null then "NOT_OBSERVABLE" else "OBSERVED"))
    assign "usage_scope" (literal (if usage = .null then "NOT_OBSERVABLE" else "THREAD_CUMULATIVE_AND_LAST_PROVIDER_USAGE"))
    let turnId ← if usage = .null then pure .null else Effect.lift (item message.params "turnId")
    assign "usage_turn_id" turnId
  else pure ()

/-- `members.get(key, {})`. -/
def orEmpty (members : Members) (key : String) : Json := (members.lookup (text key)).getD (.obj [])

def projectTurn (message : ServerMessage) : Activity host Unit := do
  let running ← Effect.read
  if hasMethod message "turn/completed" && ofThread running.record message then
    match orEmpty message.params "turn" with
    | .obj turn =>
      if equal (get turn "id") (get running.record "turn_id") then assign "turn_status" (get turn "status") else pure ()
    | _ => Effect.raise (className "AttributeError")
  else pure ()

/-- `count > limit`. -/
def exceeds (count : Nat) (limit : Json) : Except ClassName Bool :=
  match number? limit with
  | some (.finite value) => .ok (value < count)
  | some (.infinite negative) => .ok negative
  | some .nan => .ok false
  | none => .error typeError

/-- The text of an agent message. -/
def agentText (item : Members) : Option Text :=
  if is (get item "type") "agentMessage" then (get item "text").text? else none

def projectOutput (request : Members) (message : ServerMessage) : Activity host Unit := do
  let running ← Effect.read
  if hasMethod message "item/completed" && ofThread running.record message && !running.attributionFailed then
    match orEmpty message.params "item" with
    | .obj completed =>
      match agentText completed with
      | none => pure ()
      | some content => do
        let size ← Effect.lift (utf8Length content)
        Effect.modify fun running => { running with outputBytes := running.outputBytes + size }
        let limit ← Effect.lift (item request "maximum_output_bytes")
        let exceeded ← Effect.lift (exceeds (running.outputBytes + size) limit)
        if exceeded then markLoss "worker output exceeds admitted bound" else assign "worker_output" (.str content)
    | _ => Effect.raise (className "AttributeError")
  else pure ()

/-- What the run makes of a message that its mapper has consumed. -/
def project (request : Members) (message : ServerMessage) : Activity host Unit := do
  let running ← Effect.read
  if misattributed running.record message then do
    Effect.modify fun running => { running with
      attributionFailed := true
      record := update running.record [("usage", .null), ("usage_state", literal "NOT_OBSERVABLE"),
        ("usage_scope", literal "NOT_OBSERVABLE"), ("usage_turn_id", .null), ("worker_output", .null)] }
    markLoss "output/usage turn attribution mismatch"
  else do
    projectUsage message
    projectTurn message
    projectOutput request message

def consume (request : Members) (envelope : AcquisitionEnvelope) : Activity host Unit := do
  let _ ← onMapper fun settings => consumeEnvelope settings envelope
  match envelope.message with
  | none => pure ()
  | some message => do
    Effect.modify fun running => { running with heard := running.heard ++ [message] }
    project request message

/-- `drain`, which is handed these envelopes. -/
def drain (request : Members) (handed : List AcquisitionEnvelope) : Activity host Unit := do
  let running ← Effect.read
  Effect.modify fun running => { running with delivered := running.delivered ++ handed }
  match running.mapper with
  | none => Effect.modify fun running => { running with pending := running.pending ++ handed }
  | some _ => do
    Effect.modify fun running => { running with pending := [] }
    (running.pending ++ handed).forM (consume request)
    retainSnapshot
    persist

/-- The states in which the loop stops. -/
def stops (state : MechanismState) : Bool :=
  [.providerCompleted, .parkedNotAdmitted, .waitingApproval, .admissionIndeterminate, .postAdmissionInterrupted].contains state

/-- The loop until its deadline. -/
def poll (request : Members) : List (List AcquisitionEnvelope) → Activity host Unit
  | [] => markLoss "admitted execution deadline elapsed"
  | handed :: rest => do
    drain request handed
    let running ← Effect.read
    if running.mapper.any fun held => stops held.2.mechanismState then pure () else poll request rest

/-- The effective context of the thread is what was requested. -/
def contextual (launch : Launch) (thread : Members) : Bool :=
  equal (get thread "model") (get launch.inputs.backend "model") &&
    equal (get thread "modelProvider") (get launch.inputs.backend "provider") &&
    equal (get thread "cwd") (.str launch.workspace) && equal (get thread "runtimeWorkspaceRoots") (.arr []) &&
    equal (get thread "instructionSources") (.arr []) &&
    equal (get thread "activePermissionProfile")
      (.obj (object [("id", literal "provider-bounded-read"), ("extends", .null)]))

/-- What binds the mapper to the dispatch, its thread and its turn. -/
def bindingMembers (launch : Launch) (record : Members) : Members :=
  let request := launch.inputs.request
  let backend := launch.inputs.backend
  object [("work_attempt_id", get request "work_attempt_id"), ("dispatch_occurrence_id", get request "dispatch_occurrence_id"),
    ("adapter_process_occurrence_id", get record "process_occurrence"),
    ("app_server_session_identity", get launch.inputs.dispatchRecord "app_server_session_identity"),
    ("thread_id", get record "thread_id"), ("turn_id", get record "turn_id"), ("provider", get backend "provider"),
    ("model", get backend "model"), ("codex_source_head", get backend "codex_source_head"),
    ("executable_kind", literal "CAMPAIGN_CODEX_BUILD"), ("app_server_executable_identity", get backend "executable"),
    ("app_server_executable_sha256", get backend "executable_sha256"), ("internal_provider_request_retries", .int 0)]

/-- `ProviderAdmissionMapper(seal_binding({...}), capture_contract=...)`. -/
def bindMapper (launch : Launch) : Activity host Unit := do
  let running ← Effect.read
  let sealed ← Effect.lift ((sealBinding host (bindingMembers launch running.record)).mapError failureName)
  let settings ← Effect.lift ((Settings.of host (.obj sealed) launch.captureContract false).mapError failureName)
  Effect.modify fun running => { running with mapper := some (settings, .initial) }

/-- The body of the outer `try`. -/
def attempt (launch : Launch) (client : Client) : Activity host Unit := do
  let backend := launch.inputs.backend
  Effect.lift client.start
  let thread ← Effect.lift client.threadStart
  Effect.lift (demand (contextual launch thread))
  let provider ← Effect.lift (item thread "modelProvider")
  let model ← Effect.lift (item thread "model")
  assign "observed_execution" (.obj (object [("state", literal "OBSERVED_THREAD_CONTEXT"), ("provider_id", provider),
    ("model_id", model), ("source", literal "CODEX_APP_SERVER_THREAD_START")]))
  let started ← Effect.lift (item thread "thread")
  let threadId ← Effect.lift (subscript started "id")
  assign "thread_id" threadId
  persist
  let _ ← Effect.lift (boundedTurnStart threadId backend launch.inputs.brief)
  let turn ← Effect.lift client.turnStart
  let opened ← Effect.lift (item turn "turn")
  let turnId ← Effect.lift (subscript opened "id")
  assign "turn_id" turnId
  persist
  bindMapper launch
  poll launch.inputs.request client.polls

/-- `except Exception as error`: exception type only, since diagnostics can contain secrets. -/
def recover (error : ClassName) : Activity host Unit := do
  assign "local_error_class" (.str error.val)
  let running ← Effect.read
  match running.mapper with
  | none => pure ()
  | some _ => markLoss "adapter operation failed"

/-- The state that a completed turn is retained with. -/
def terminal (status : Json) : Except ClassName String :=
  if status.hashable then
    if is status "completed" then .ok "PROVIDER_COMPLETED"
    else if is status "failed" then .ok "PROVIDER_FAILED"
    else if is status "interrupted" then .ok "PROVIDER_INTERRUPTED"
    else .ok "OUTCOME_UNKNOWN"
  else .error typeError

/-- The classification of a mapper that has consumed its cut. -/
def classify (launch : Launch) (mapper : Mapper) : Activity host Unit := do
  let backend := launch.inputs.backend
  let clean := mapper.acquisitionCut.any (·.clean)
  if mapper.mechanismState = .providerCompleted ∨ mapper.mechanismState = .postAdmissionInterrupted then
    assign "observed_execution" (.obj (object [("state", literal "OBSERVED_PROVIDER_BOUNDARY"),
      ("provider_id", get backend "provider"), ("model_id", get backend "model"),
      ("source", literal "ORDERED_PROVIDER_ADMISSION_EVIDENCE")]))
  else pure ()
  let running ← Effect.read
  if clean ∧ mapper.mechanismState = .providerCompleted then do
    let state ← Effect.lift (terminal (get running.record "turn_status"))
    assign "state" (literal state)
  else if clean ∧ mapper.mechanismState = .parkedNotAdmitted then assign "state" (literal "NOT_ADMITTED_MODEL_AT_CAPACITY")
  else assign "state" (literal "OUTCOME_UNKNOWN")

/-- What the cut makes of the mapper. -/
def settle (launch : Launch) (client : Client) : Activity host Unit := do
  drain launch.inputs.request client.tail
  let _ ← onMapper fun settings => consumeCut settings client.cut
  retainSnapshot
  let running ← Effect.read
  match running.mapper with
  | none => pure ()
  | some (_, mapper) => classify launch mapper

/-- The `finally` of the run. -/
def finalise (launch : Launch) (client : Client) : Activity host Unit := do
  let running ← Effect.read
  assign "pre_cleanup_mechanism_state"
    (literal ((running.mapper.map fun held => held.2.mechanismState.name).getD "NOT_OBSERVABLE"))
  match running.mapper with
  | none => pure ()
  | some _ => settle launch client
  assign "ended_at_unix_ms" (.int (unixMs client.ended))
  persist

/-- `run`, from its fresh claim on. -/
def run (launch : Launch) (client : Client) : Activity host Members := do
  ((attempt launch client).handling recover).finishing (finalise launch client)
  let running ← Effect.read
  return running.record

/-- A run that has just claimed its dispatch. -/
def Running.claimed (host : Host) (store : RunStore) (record : Members) : Running host := ⟨store, record, none, [], [], [], 0, false⟩

end

end Switchyard.Runner
