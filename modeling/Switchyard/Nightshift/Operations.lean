import Switchyard.Nightshift.Adapter

/-! The operations of the adapter: an attempt is started, observed and inspected, and
is sealed by a receipt once the App Server has made its terminal cut. -/

namespace Switchyard.Nightshift
open Library Json Runner AppServer Program

def TerminalCut.confirmed (cut : TerminalCut) : Bool :=
  cut.streamQuiesced && cut.lossGeneration == 0 &&
    ["EXITED", "EXITED_AFTER_TERMINATE", "EXITED_AFTER_KILL"].any fun each => text each == cut.processDisposition

/-- What a call is made with: its inputs from outside, how `_prompt` is spelled, and how many rounds its loops take. -/
structure Setting where
  host : Host
  unicode : Unicode
  /-- `json.dumps(value, sort_keys=True, ensure_ascii=False)`. -/
  spelled : Json → Text
  adapter : Adapter
  rounds : Nat

/-- `_provider_id`. -/
def providerId (identity : BackendIdentity) : Text := text "codex-app-server:" ++ identity.sha256.take 24

/-- `_session_id`. -/
def sessionId (host : Host) (identity : BackendIdentity) : Except Failure Text := do
  let raw ← encoded identity.home
  return text "codex-home:" ++ (Text.hex (host.sha256 raw).val).take 24

/-- `json.loads(value, object_pairs_hook=_unique_object)`. -/
def loadsUniqueText (host : Host) (value : Text) : Except Failure Json :=
  match host.loadsUniqueText value with
  | .ok decoded => .ok decoded
  | .error (.malformed className message) => .error (.other className message)
  | .error (.duplicateKey key) => .error (.protocol (text "duplicate JSON key: " ++ key))
  | .error (.other className) => .error (.other className [])

section
variable (setting : Setting)

/-- `_prompt`. -/
def prompt (attempt : Attempt) : Except Failure Text := do
  let brief ← loads setting.host attempt.briefRaw
  let workspace ← subscript attempt.request "workspace_identity"
  let model ← subscript attempt.request "provider_model_class"
  let timeout ← subscript attempt.request "timeout_seconds"
  let maximum ← subscript attempt.request "maximum_output_bytes"
  return setting.spelled (.obj (object [
    ("protocol", .str (text ADAPTER_PROTOCOL)), ("binding", .obj attempt.binding), ("workspace_identity", workspace),
    ("provider_model_class", model), ("timeout_seconds", timeout), ("maximum_output_bytes", maximum),
    ("recursive_worker_swarms_forbidden", .bool true), ("approval_policy", .str (text "SURFACE_ONLY_NO_RESPONSE")),
    ("expected_receipt_schema", .str (text RECEIPT_SCHEMA)), ("worker_outcome_schema", .str (text OUTCOME_SCHEMA)),
    ("worker_brief", brief),
    ("instruction", .str (text ("Perform only the bounded worker brief. Never answer an approval request. " ++
      "Return one exact canonical switchyard.codex-worker-outcome/v1 JSON object " ++
      "as the final agent message. The adapter adds only retained custody identities and seals the exact " ++
      "terminal receipt; process exit alone is not a result.")))]))

/-- The attempt that `start` admits. -/
def newAttempt (request : Members) (briefRaw : Bytes) (session clientMessageId startedAt : Text) : Attempt where
  binding := bindingFromStart request
  request := .obj request
  briefRaw := briefRaw
  backend := .obj setting.adapter.identity.asDict
  accountClass := setting.adapter.accountClass
  providerIdentity := providerId setting.adapter.identity
  modelIdentity := text "class:" ++ (Json.get request "provider_model_class").text?.getD []
  sessionIdentity := session
  threadId := none
  turnId := none
  queueId := none
  clientMessageId := clientMessageId
  status := .admitted
  startedAt := startedAt
  finalMessage := none
  terminalReceipt := none

/-- The identity of the dict under `key` of a response, or of the empty dict. -/
def identityOf (field key : String) (answer : Members) : Except Failure Text := do
  let value ← dict (orEmpty (Json.get answer key))
  requireId (text field) (Json.get value "id")

/-- The body of the `try` of `start`: a thread and a turn are started and recorded. -/
def launch (binding : Members) (workspace : Text) : Call Unit := do
  let threadResult ← Ask.request "thread/start" (object [("cwd", .str workspace)])
  let threadId ← lift (identityOf "thread_id" "thread" threadResult)
  update (attemptId binding) { threadId := some threadId, status := some .starting }
  let attempt ← load setting.host binding
  let prompted ← lift (prompt setting attempt)
  let turnResult ← Ask.request "turn/start" (object [("threadId", .str threadId),
    ("input", .arr [.obj (object [("type", .str (text "text")), ("text", .str prompted)])]),
    ("clientUserMessageId", .str attempt.clientMessageId)])
  let turnId ← lift (identityOf "turn_id" "turn" turnResult)
  update (attemptId binding) { turnId := some turnId, status := some .running }
  let attempt ← load setting.host binding
  let threadRaw ← lift (canonical setting.host (.obj threadResult))
  record setting.host setting.adapter attempt "provider_identity" (some (.parsed threadRaw "thread_start_response")) none []
  let turnRaw ← lift (canonical setting.host (.obj turnResult))
  record setting.host setting.adapter attempt "worker_started" (some (.parsed turnRaw "turn_start_response")) none []

/-- `NightshiftAdapter.start`. -/
def start (request : Members) (briefRaw : Bytes) : Call Members := do
  lift (validateStart setting.host setting.unicode request briefRaw)
  let workspace ← Ask.directory (Json.get request "workspace_identity")
  let session ← lift (sessionId setting.host setting.adapter.identity)
  let clientMessageId ← Ask.uuid
  let startedAt ← Ask.now
  let attempt := newAttempt setting request briefRaw session clientMessageId startedAt
  insertAttempt setting.host attempt
  record setting.host setting.adapter attempt "adapter_accepted" none none []
  (launch setting attempt.binding workspace).handling fun failure =>
    some (markIndeterminate setting.host setting.adapter attempt.binding failure.message)
  result setting.host attempt.binding

/-- The turn of the thread's history that has this identity. -/
def selectTurn (turnId : Text) : List Json → Except Failure (Option Members)
  | [] => .ok none
  | turn :: rest => do
    let members ← dict turn
    if equal (Json.get members "id") (.str turnId) then return some members else selectTurn turnId rest

/-- What a turn says of the attempt it is the turn of. -/
def ingestTurn (attempt : Attempt) (turnId : Text) (turn : Members) (evidence : Bytes) : Call Unit := do
  let found ← lift (requireId (text "turn_id") (Json.get turn "id"))
  lift (demand (found == turnId) "thread history turn identity substitution")
  let maximum ← lift (subscript attempt.request "maximum_output_bytes")
  let (bounded, truncated) ← lift (boundedUtf8 (finalAgentMessage turn) maximum)
  let completed ← lift (inTexts (Json.get turn "status") ["completed", "failed", "interrupted"])
  update (attemptId attempt.binding) { status := some (reportedStatus truncated completed), finalMessage := some bounded }
  if completed then
    recordCompletion setting.host setting.adapter attempt.binding truncated (some (.parsed evidence "thread_read_response"))
  else return ()

/-- `_ingest_thread`. -/
def ingestThread (attempt : Attempt) (thread : Members) (evidence : Bytes) : Call Unit :=
  if attempt.status = .indeterminate then return ()
  else match attempt.turnId with
    | none | some [] => return ()
    | some turnId => do
      match ← lift (selectTurn turnId (match Json.get thread "turns" with
        | .arr turns => turns
        | _ => [])) with
      | none => return ()
      | some turn => ingestTurn setting attempt turnId turn evidence

/-- `thread/read`: the response, and the thread in it. -/
def readThread (threadId : Text) : Call (Members × Members) := do
  let answer ← Ask.request "thread/read" (object [("threadId", .str threadId), ("includeTurns", .bool true)])
  let thread ← lift (dict (orEmpty (Json.get answer "thread")))
  lift (demand (equal (Json.get thread "id") (.str threadId)) "thread identity substitution")
  return (answer, thread)

def oversizedRead : Text := text "thread/read response exceeds retained raw byte bound"

/-- Whether a thread that was read can be resumed; a thread that is not loaded is resumed here. -/
def supported (threadId : Text) (thread : Members) : Call Bool := do
  let status ← lift (dict (orEmpty (Json.get thread "status")))
  if is (Json.get status "type") "notLoaded" then do
    let _ ← Ask.request "thread/resume" (object [("threadId", .str threadId)])
    return true
  else lift (inTexts (Json.get status "type") ["idle", "active"])

/-- A thread that was read is taken in, and is checked off by an event. -/
def checkpoint (binding : Members) (attempt : Attempt) (thread : Members) (evidence : Bytes) : Call Unit :=
  if MAXIMUM_RAW_APP_SERVER_EVENT_BYTES < evidence.length then
    markIndeterminate setting.host setting.adapter binding oversizedRead
  else do
    ingestThread setting attempt thread evidence
    let attempt ← load setting.host binding
    record setting.host setting.adapter attempt "checkpoint" none none []

/-- `NightshiftAdapter.resume` of an attempt that has a thread. -/
def resumeThread (binding : Members) (attempt : Attempt) (threadId : Text) : Call Unit := do
  let (answer, thread) ← readThread threadId
  if ← supported threadId thread then do
    let evidence ← lift (canonical setting.host (.obj answer))
    checkpoint setting binding attempt thread evidence
    drain setting.host setting.adapter binding setting.rounds
  else markIndeterminate setting.host setting.adapter binding (text "unsupported thread status")

/-- `NightshiftAdapter.resume`. -/
def resume (binding : Members) : Call Members := do
  let attempt ← load setting.host binding
  if attempt.status = .indeterminate then result setting.host binding
  else do
    lift (demand attempt.terminalReceipt.isNone "terminal attempt cannot resume")
    match attempt.threadId with
    | none => markIndeterminate setting.host setting.adapter binding (text "no retained thread identity")
    | some threadId => resumeThread setting binding attempt threadId
    result setting.host binding

/-- The thread that an attempt has is read and taken in. -/
def inspectThread (binding : Members) (attempt : Attempt) (threadId : Text) : Call Unit := do
  let (answer, thread) ← readThread threadId
  let evidence ← lift (canonical setting.host (.obj answer))
  if MAXIMUM_RAW_APP_SERVER_EVENT_BYTES < evidence.length then
    markIndeterminate setting.host setting.adapter binding oversizedRead
  else ingestThread setting attempt thread evidence

/-- `NightshiftAdapter.status`. -/
def status (binding : Members) : Call Members := do
  let attempt ← load setting.host binding
  if attempt.status = .indeterminate then result setting.host binding
  else do
    match attempt.threadId with
    | none => pure ()
    | some threadId => inspectThread setting binding attempt threadId
    drain setting.host setting.adapter binding setting.rounds
    result setting.host binding

/-- The drain after the cut. False when it ended the attempt. -/
def drainRetained (binding : Members) : Call Bool :=
  (do
    drain setting.host setting.adapter binding setting.rounds
    return true).handling fun failure => match failure with
      | .protocol why => some do
        markIndeterminate setting.host setting.adapter binding (text "App Server retained frame validation failed: " ++ why)
        return false
      | .other _ _ => none

/-- What the cut says of the attempt. -/
def judgeCut (binding : Members) (cut : TerminalCut) : Call Bool := do
  let attempt ← load setting.host binding
  if cut.confirmed = false ∧ attempt.status ≠ .indeterminate then do
    markIndeterminate setting.host setting.adapter binding (text ("App Server acquisition loss preceded terminal evidence cut " ++
      "or unconfirmed process exit prevented terminality"))
    let attempt ← load setting.host binding
    return decide (attempt.status ≠ .indeterminate)
  else return decide (attempt.status ≠ .indeterminate)

/-- `_finalize_acquisition`. -/
def finalizeAcquisition (binding : Members) : Call Bool := do
  match ← Ask.quiesce with
  | .absent => do
    markIndeterminate setting.host setting.adapter binding (text "App Server cannot establish terminal acquisition cut")
    return false
  | .failed failure => do
    markIndeterminate setting.host setting.adapter binding
      (text "App Server terminal acquisition cut failed: " ++ failure.message)
    return false
  | .foreign => do
    markIndeterminate setting.host setting.adapter binding (text "App Server returned foreign terminal acquisition cut")
    return false
  | .cut cut => if ← drainRetained setting binding then judgeCut setting binding cut else return false

/-- `NightshiftAdapter.finalize_occurrence`. -/
def finalizeOccurrence (binding : Members) : Call Members := do
  let _ ← finalizeAcquisition setting binding
  result setting.host binding

/-- The members that a receipt takes from its attempt. -/
def retainedIdentities (attempt : Attempt) : Except Failure (List (String × Json)) := do
  let packetDigest ← item attempt.binding "packet_digest"
  let runId ← item attempt.binding "run_id"
  let workItemId ← item attempt.binding "work_item_id"
  let attemptId ← item attempt.binding "attempt_id"
  return [("packet_digest", packetDigest), ("run_id", runId), ("work_item_id", workItemId), ("attempt_id", attemptId),
    ("adapter_id", .str (text ADAPTER_ID)), ("adapter_version", .str (text ADAPTER_VERSION)),
    ("provider_identity", .str attempt.providerIdentity), ("model_identity", .str attempt.modelIdentity),
    ("session_identity", .str attempt.sessionIdentity), ("thread_identity", optional attempt.threadId),
    ("turn_identity", optional attempt.turnId), ("queue_identity", optional attempt.queueId)]

/-- `validate_receipt`. -/
def validateReceipt (host : Host) (unicode : Unicode) (value : Members) (attempt : Attempt) : Except Failure Unit := do
  validateTerminalPredecessor host unicode value
  let expected ← retainedIdentities attempt
  expected.forM fun member => do
    let found ← item value member.1
    demand (equal found member.2) ("terminal " ++ member.1 ++ " substitution")
  let mutations ← item value "live_or_production_mutations"
  demand (mutations == .arr []) "live or production mutation declared"

/-- The receipt that `receipt_from_outcome` makes, without its digest. -/
def unsealedReceipt (identities : List (String × Json)) (startedAt endedAt : Text) (outcome : Members) : Members :=
  merged (object ([("schema", .str (text RECEIPT_SCHEMA)), ("receipt_digest", unsealed)] ++ identities ++
    [("started_at", .str startedAt), ("ended_at", .str endedAt)])) (without outcome "schema")

/-- `receipt_from_outcome`. -/
def receiptFromOutcome (outcome : Members) (attempt : Attempt) : Call Members := do
  lift (checkOutcome setting.unicode outcome)
  let identities ← lift (retainedIdentities attempt)
  let endedAt ← Ask.now
  let value := unsealedReceipt identities attempt.startedAt endedAt outcome
  let digest ← lift (digestOf setting.host RECEIPT_DOMAIN (.obj (without value "receipt_digest")))
  let receipt := Json.set value "receipt_digest" (.str digest)
  lift (validateReceipt setting.host setting.unicode receipt attempt)
  return receipt

/-- The outcome that a final message is. -/
def exactOutcome (host : Host) : Option Text → Except Failure Members
  | none => .error (raised "TypeError" "the JSON object must be str, bytes or bytearray, not NoneType")
  | some message => do
    match ← loadsUniqueText host message with
    | .obj outcome => do
      demand (closed outcome OUTCOME_FIELDS) "closed worker outcome fields do not match"
      let raw ← canonical host (.obj outcome)
      let written ← encoded message
      demand (raw == written) "worker outcome is not exact canonical JSON"
      return outcome
    | _ => .error (refused "closed worker outcome fields do not match")

/-- A failure to make a receipt that ends the attempt. -/
def outcomeFailure : Failure → Option Text
  | .protocol why => some why
  | .other name message => if name = className "JSONDecodeError" then some message else none

/-- The final message of a completed attempt is sealed, or ends it. -/
def sealAttempt (binding : Members) (attempt : Attempt) : Call Unit := do
  let receipt ← (do
    let outcome ← lift (exactOutcome setting.host attempt.finalMessage)
    let receipt ← receiptFromOutcome setting outcome attempt
    return some receipt).handling fun failure => (outcomeFailure failure).map fun why => do
      markIndeterminate setting.host setting.adapter binding why
      return none
  match receipt with
  | none => return ()
  | some receipt => do
    let raw ← lift (canonical setting.host (.obj receipt))
    update (attemptId binding) { status := some .terminal, terminalReceipt := some raw }

/-- `collect` of an attempt that has a final message. -/
def collectFinal (binding : Members) : Call Unit := do
  if ← finalizeAcquisition setting binding then do
    let attempt ← load setting.host binding
    if attempt.status = .providerCompleted then sealAttempt setting binding attempt
    else return ()
  else return ()

/-- `NightshiftAdapter.collect`. -/
def collect (binding : Members) : Call Members := do
  let attempt ← load setting.host binding
  if attempt.terminalReceipt.isSome then result setting.host binding
  else do
    let _ ← status setting binding
    let attempt ← load setting.host binding
    if attempt.finalMessage.getD [] = [] then pure () else collectFinal setting binding
    result setting.host binding

/-- `NightshiftAdapter.observe`, which polls this often before its deadline. -/
def observe (binding : Members) : Nat → Call Members
  | 0 => result setting.host binding
  | polls + 1 => do
    drain setting.host setting.adapter binding setting.rounds
    observe binding polls

/-- A call on an adapter. -/
inductive Operation
  | start (request : Members) (briefRaw : Bytes)
  | resume (binding : Members)
  | status (binding : Members)
  | collect (binding : Members)
  | observe (binding : Members) (polls : Nat)
  | finalizeOccurrence (binding : Members)

def Operation.call : Operation → Call Members
  | start request briefRaw => Nightshift.start setting request briefRaw
  | resume binding => Nightshift.resume setting binding
  | status binding => Nightshift.status setting binding
  | collect binding => Nightshift.collect setting binding
  | observe binding polls => Nightshift.observe setting binding polls
  | finalizeOccurrence binding => Nightshift.finalizeOccurrence setting binding

end
end Switchyard.Nightshift
