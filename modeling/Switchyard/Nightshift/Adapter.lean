import Switchyard.Library.Utf8
import Switchyard.Nightshift.Custody

/-! The operations of the adapter, as the questions they ask. Each of them loads the
attempt anew whenever it needs it, and every store access is a transaction of its own. -/

namespace Switchyard.Nightshift
open Library Json Runner AppServer Program

def EVENT_SCHEMA : String := "nightshift.worker-adapter-event/v1"
def RESULT_SCHEMA : String := "switchyard.codex-app-server-command-result/v1"
def EVENT_DOMAIN : Bytes := ascii "nightshift.worker-adapter-event.digest/v1" ++ [0]
def RAW_APP_SERVER_EVENT_DOMAIN : Bytes := ascii "switchyard.codex-app-server.raw-event/v1" ++ [0]
def MAXIMUM_RAW_APP_SERVER_EVENT_BYTES : Nat := 16 * 1024

/-- What stands for a digest until it is known. -/
def unsealed : Json := .str (text "sha256:" ++ List.replicate 64 48)

structure BackendIdentity where
  executable : Text
  version : Text
  sha256 : Text
  home : Text

def BackendIdentity.asDict (identity : BackendIdentity) : Members :=
  object [("executable", .str identity.executable), ("version", .str identity.version), ("sha256", .str identity.sha256),
    ("home", .str identity.home)]

/-- What an adapter holds besides its store and its client. -/
structure Adapter where
  identity : BackendIdentity
  accountClass : Text
  processOccurrenceIdentity : Text

structure Attempt where
  binding : Members
  request : Json
  briefRaw : Bytes
  backend : Json
  accountClass : Text
  providerIdentity : Text
  modelIdentity : Text
  sessionIdentity : Text
  threadId : Option Text
  turnId : Option Text
  queueId : Option Text
  clientMessageId : Text
  status : Status
  startedAt : Text
  finalMessage : Option Text
  terminalReceipt : Option Json

/-- An optional column or member. -/
def optional : Option Text → Json
  | some value => .str value
  | none => .null

/-- `value or {}`. -/
def orEmpty (value : Json) : Json :=
  match value with
  | .null | .bool false | .int 0 | .str [] | .arr [] | .obj [] => .obj []
  | .float (.finite number) => if number = 0 then .obj [] else value
  | _ => value

def typeName : Json → String
  | .null => "NoneType"
  | .bool _ => "bool"
  | .int _ => "int"
  | .float _ => "float"
  | .str _ => "str"
  | .arr _ => "list"
  | .obj _ => "dict"

/-- The dict whose `get` is called. -/
def dict (value : Json) : Except Failure Members :=
  match value with
  | .obj members => .ok members
  | other => .error (raised "AttributeError" ("'" ++ typeName other ++ "' object has no attribute 'get'"))

/-- `value["key"]`. -/
def subscript (value : Json) (key : String) : Except Failure Json :=
  match value with
  | .obj members => item members key
  | _ => .error (raised "TypeError" "string indices must be integers")

/-- Membership in a set of texts, which hashes its left side. -/
def inTexts (value : Json) (texts : List String) : Except Failure Bool :=
  if value.hashable then .ok (texts.any fun each => is value each) else .error (raised "TypeError" ("unhashable type: '" ++ typeName value ++ "'"))

/-- `{**first, **last}`. -/
def merged (first last : Members) : Members := first.filter (fun member => (last.lookup member.1).isNone) ++ last

/-- `size <= bound`, of a float. -/
def atMost (size : Nat) : Double → Bool
  | .finite bound => decide ((size : ℚ) ≤ bound)
  | .infinite negative => !negative
  | .nan => false

/-- `_bounded_utf8`. A lone surrogate cannot be encoded. -/
def boundedUtf8 (value : Option Text) (maximum : Json) : Except Failure (Option Text × Bool) :=
  match value with
  | none => .ok (none, false)
  | some value => do
    let raw ← encoded value
    match maximum with
    | .float bound =>
      if atMost raw.length bound then return (some value, false)
      else .error (raised "TypeError" "slice indices must be integers or None or have an __index__ method")
    | other => match integer? other with
      | some bound =>
        if (raw.length : Int) ≤ bound then return (some value, false)
        else
          let kept : Nat := if 0 ≤ bound then bound.toNat else raw.length - bound.natAbs
          return (some (Text.decodeIgnoring (raw.take kept)), true)
      | none => .error (raised "TypeError" "'<=' not supported between instances")

/-- `_final_agent_message`: the text of the last agent message among the items of a turn. -/
def finalAgentMessage (turn : Members) : Option Text :=
  let items := match Json.get turn "items" with
    | .arr items => items
    | _ => []
  (items.filterMap fun entry => match entry with
    | .obj members => if is (Json.get members "type") "agentMessage" then (Json.get members "text").text? else none
    | _ => none).getLast?

/-- `_message_ids`. -/
def messageIds (message : ServerMessage) : Option Text × Option Text :=
  let params := message.params
  let turnId := match Json.get params "turnId", Json.get params "turn" with
    | .str turnId, _ => some turnId
    | _, .obj turn => (Json.get turn "id").text?
    | _, _ => none
  ((Json.get params "threadId").text?, turnId)

section
variable (host : Host)

def loads (raw : Bytes) : Except Failure Json :=
  match host.loads raw with
  | .ok value => .ok value
  | .error (.malformed className message) => .error (.other className message)
  | .error (.duplicateKey key) => .error (.other (className "ValueError") key)
  | .error (.other className) => .error (.other className [])

/-- The receipt of a row; an empty one, and a null, is as good as none. -/
def AttemptRow.receipt (row : AttemptRow) : Except Failure (Option Json) :=
  match row.terminalReceipt with
  | none | some [] => .ok none
  | some raw => do
    match ← loads host raw with
    | .null => return none
    | receipt => return some receipt

/-- The attempt of a row, if the row is bound to these inputs. -/
def AttemptRow.attempt (row : AttemptRow) (binding : Members) : Except Failure Attempt := do
  let retained ← loads host row.binding
  demand (equal retained (.obj binding)) "attempt binding substitution"
  let receipt ← row.receipt host
  let request ← loads host row.request
  let backend ← loads host row.backend
  return {
    binding := retained.members?.getD [], request, briefRaw := row.briefRaw, backend
    accountClass := row.accountClass, providerIdentity := row.providerIdentity, modelIdentity := row.modelIdentity
    sessionIdentity := row.sessionIdentity, threadId := row.threadId, turnId := row.turnId, queueId := row.queueId
    clientMessageId := row.clientMessageId, status := row.status, startedAt := row.startedAt
    finalMessage := row.finalMessage, terminalReceipt := receipt }

def attemptId (binding : Members) : Text := (Json.get binding "attempt_id").text?.getD []

/-- `AdapterStore.load`. -/
def load (binding : Members) : Call Attempt := do
  lift (validateBinding binding)
  match ← Ask.select (attemptId binding) with
  | some row => lift (row.attempt host binding)
  | none => raise (refused "unknown attempt")

/-- `AdapterStore.update`. -/
def update (attemptId : Text) (changes : Changes) : Call Unit := do
  match ← Ask.update attemptId changes with
  | .ok () => return ()
  | .error none => raise (refused "unknown attempt")
  | .error (some status) => raise (refused (status.name.map Char.toLower ++ " attempt transition is terminally prohibited"))

/-- `AdapterStore.admit`. -/
def insertAttempt (attempt : Attempt) : Call Unit := do
  let binding ← lift (canonical host (.obj attempt.binding))
  let request ← lift (canonical host attempt.request)
  let backend ← lift (canonical host attempt.backend)
  let inserted ← Ask.insert {
    attemptId := attemptId attempt.binding, binding, request, briefRaw := attempt.briefRaw, backend
    accountClass := attempt.accountClass, providerIdentity := attempt.providerIdentity
    modelIdentity := attempt.modelIdentity, sessionIdentity := attempt.sessionIdentity, threadId := attempt.threadId
    turnId := attempt.turnId, queueId := attempt.queueId, clientMessageId := attempt.clientMessageId
    status := attempt.status, startedAt := attempt.startedAt, finalMessage := attempt.finalMessage, terminalReceipt := none }
  if inserted then return () else raise (raised "IntegrityError" "UNIQUE constraint failed: attempts.attempt_id")

/-- `_custody_extensions`. -/
def custodyExtensions (attempt : Attempt) : Except Failure Members := do
  let executable ← subscript attempt.backend "executable"
  let version ← subscript attempt.backend "version"
  let sha256 ← subscript attempt.backend "sha256"
  let home ← subscript attempt.backend "home"
  let requested ← subscript attempt.request "provider_model_class"
  return object [("codex_executable", executable), ("codex_version", version), ("codex_sha256", sha256), ("codex_home", home),
    ("account_class", .str attempt.accountClass), ("requested_provider_model_class", requested)]

/-- `_message_raw`. -/
def messageRaw (message : ServerMessage) : Except Failure Bytes := do
  let raw ← match message.rawBytes with
    | some raw => .ok raw
    | none => canonical host (.obj message.raw)
  demand (decide (raw.length ≤ MAXIMUM_RAW_APP_SERVER_EVENT_BYTES)) "App Server event exceeds retained raw byte bound"
  let parsed ← loadsUnique host (some (text "invalid retained App Server event: ")) raw
  demand (equal parsed (.obj message.raw)) "retained App Server event differs from parsed message"
  return raw

/-- The members of an event whose digest is not known yet. -/
def unsealedEvent (attempt : Attempt) (kind : String) (message : Option Text) (extensions : Members)
    (attemptId packetDigest runId workItemId : Json) (identity occurredAt : Text) : Members :=
  object [("schema", .str (text EVENT_SCHEMA)), ("event_digest", unsealed),
    ("event_id", .str (attemptId.text?.getD [] ++ text ":" ++ identity)), ("packet_digest", packetDigest), ("run_id", runId),
    ("work_item_id", workItemId), ("attempt_id", attemptId), ("adapter_id", .str (text ADAPTER_ID)),
    ("adapter_version", .str (text ADAPTER_VERSION)), ("occurred_at", .str occurredAt), ("kind", .str (text kind)),
    ("provider_identity", .str attempt.providerIdentity), ("model_identity", .str attempt.modelIdentity),
    ("session_identity", .str attempt.sessionIdentity), ("thread_identity", optional attempt.threadId),
    ("turn_identity", optional attempt.turnId), ("queue_identity", optional attempt.queueId), ("message", optional message),
    ("human_question", .null), ("extensions", .obj extensions)]

/-- `_event`, with the changes that are made to it. -/
def event (attempt : Attempt) (kind : String) (message : Option Text) (extensions : Members) : Call Members := do
  let attemptId ← lift (item attempt.binding "attempt_id")
  let identity ← Ask.uuid
  let packetDigest ← lift (item attempt.binding "packet_digest")
  let runId ← lift (item attempt.binding "run_id")
  let workItemId ← lift (item attempt.binding "work_item_id")
  let occurredAt ← Ask.now
  let value := unsealedEvent attempt kind message extensions attemptId packetDigest runId workItemId identity occurredAt
  let digest ← lift (digestOf host EVENT_DOMAIN (.obj (without value "event_digest")))
  return Json.set value "event_digest" (.str digest)

/-- What an event is evidence of: a message as it came, or a response that was parsed. -/
inductive Evidence
  | wire (message : ServerMessage) (kind : String)
  | parsed (raw : Bytes) (kind : String)

def Evidence.kind : Evidence → String
  | .wire _ kind | .parsed _ kind => kind

def Evidence.raw : Evidence → Except Failure Bytes
  | .wire message _ => messageRaw host message
  | .parsed raw _ => .ok raw

def Evidence.representation : Evidence → String
  | .wire ⟨_, some _⟩ _ => "exact_wire_bytes_including_line_terminator"
  | _ => "canonicalized_parsed_response"

/-- The members that evidence adds to the extensions of its event. -/
def Evidence.extensions (evidence : Evidence) : Except Failure (List (String × Json)) := do
  let raw ← evidence.raw host
  demand (decide (raw.length ≤ MAXIMUM_RAW_APP_SERVER_EVENT_BYTES)) "App Server event exceeds retained raw byte bound"
  return [("appserver_evidence_kind", .str (text evidence.kind)),
    ("appserver_evidence_representation", .str (text evidence.representation)),
    ("appserver_evidence_digest", .str (rawDigest host RAW_APP_SERVER_EVENT_DOMAIN raw)),
    ("appserver_evidence_encoding", .str (text "hex")), ("appserver_evidence_bytes_hex", .str (Text.hex raw))]

/-- The members that there are without evidence, or with it. -/
def evidenceExtensions : Option Evidence → Except Failure (List (String × Json))
  | none => .ok []
  | some evidence => evidence.extensions host

variable (adapter : Adapter)

/-- `_record`. -/
def record (attempt : Attempt) (kind : String) (evidence : Option Evidence) (message : Option Text)
    (fields : List (String × Json)) : Call Unit := do
  let custody ← lift (custodyExtensions attempt)
  let added ← lift (evidenceExtensions host evidence)
  let extensions := Json.update custody
    (("appserver_process_occurrence_identity", .str adapter.processOccurrenceIdentity) :: added ++ fields)
  let value ← event host attempt kind message extensions
  let attemptId ← lift (item attempt.binding "attempt_id")
  let raw ← lift (canonical host (.obj value))
  Ask.append ⟨attemptId.text?.getD [], (Json.get value "event_digest").text?.getD [], raw⟩

/-- `_mark_indeterminate`. -/
def markIndeterminate (binding : Members) (message : Text) : Call Unit := do
  let attempt ← load host binding
  update (attemptId binding) { status := some .indeterminate }
  record host adapter attempt "mechanism_indeterminate" none (some (message.take 4096)) []

/-- `NightshiftAdapter.result`. -/
def result (binding : Members) : Call Members := do
  let attempt ← load host binding
  let raws ← Ask.events (attemptId binding)
  let events ← lift (raws.mapM (loads host))
  return object [("schema", .str (text RESULT_SCHEMA)), ("binding", .obj attempt.binding),
    ("mechanism_state", .str (text attempt.status.name)), ("events", .arr events),
    ("terminal_receipt", attempt.terminalReceipt.getD .null)]

/-- Take everything out of a queue. -/
def discardQueue (queue : Waiting) : Nat → Call Unit
  | 0 => Ask.stall
  | rounds + 1 => do
    match ← Ask.next queue with
    | none => return ()
    | some _ => discardQueue queue rounds

/-- The provider's last words on a turn, and what they make of the attempt. -/
def reportedStatus (truncated completed : Bool) : Status :=
  if truncated then .indeterminate else if completed then .providerCompleted else .running

/-- The event of a completed turn. -/
def recordCompletion (binding : Members) (truncated : Bool) (evidence : Option Evidence) : Call Unit := do
  let attempt ← load host binding
  if truncated then
    record host adapter attempt "mechanism_indeterminate" evidence (some (text "provider final message exceeded byte bound")) []
  else record host adapter attempt "provider_completion_observation" evidence none []

/-- The part of `_notification` about the user's own message. -/
def acknowledge (attempt : Attempt) (binding : Members) (message : ServerMessage) (turnId : Option Text) : Call Unit :=
  let entry := (Json.get message.params "item").members?.getD []
  if (message.method = some (text "item/started") ∨ message.method = some (text "item/completed")) ∧
      is (Json.get entry "type") "userMessage" = true ∧ equal (Json.get entry "clientId") (.str attempt.clientMessageId) = true ∧
      turnId = attempt.turnId then
    update (attemptId binding) { status := some .running }
  else return ()

/-- The part of `_notification` about a completed turn. -/
def turnCompleted (attempt : Attempt) (binding : Members) (message : ServerMessage) (threadId turnId : Option Text) : Call Unit :=
  if message.method = some (text "turn/completed") ∧ threadId = attempt.threadId ∧ turnId = attempt.turnId then do
    let _ ← lift (messageRaw host message)
    let turn ← lift (dict (orEmpty (Json.get message.params "turn")))
    let maximum ← lift (subscript attempt.request "maximum_output_bytes")
    let (bounded, truncated) ← lift (boundedUtf8 (finalAgentMessage turn) maximum)
    update (attemptId binding) { status := some (reportedStatus truncated true), finalMessage := some bounded }
    recordCompletion host adapter binding truncated (some (.wire message "turn_completed_notification"))
  else return ()

/-- `_notification`. -/
def notification (binding : Members) (message : ServerMessage) : Call Unit := do
  let _ ← lift (messageRaw host message)
  let attempt ← load host binding
  let (threadId, turnId) := messageIds message
  if attempt.status = .indeterminate ∨ threadId.isSome ∧ threadId ≠ attempt.threadId then return ()
  else do
    acknowledge attempt binding message turnId
    turnCompleted host adapter attempt binding message threadId turnId

/-- One server request: it is surfaced, or it ends the drain. True when the drain goes on. -/
def surface (binding : Members) (message : ServerMessage) : Call Bool := do
  let attempt ← load host binding
  let (threadId, turnId) := messageIds message
  lift (demand (threadId.isSome && threadId == attempt.threadId) "approval request lacks exact retained thread binding")
  match messageRaw host message with
  | .error (.protocol why) => do
    markIndeterminate host adapter binding why
    return false
  | .error failure => raise failure
  | .ok _ => do
    lift (demand (turnId.isSome && turnId == attempt.turnId) "approval request lacks exact retained turn binding")
    update (attemptId binding) { status := some .waitingApproval }
    record host adapter attempt "waiting_approval" (some (.wire message "approval_server_request"))
      (some (text "approval request surfaced without response: " ++ message.method.getD (text "None")))
      [("approval_method", optional message.method), ("approval_response_sent", .bool false), ("protected_effect_absent", .bool true)]
    return true

/-- The server requests of a drain. -/
def drainRequests (binding : Members) : Nat → Call Bool
  | 0 => Ask.stall
  | rounds + 1 => do
    match ← Ask.next .serverRequests with
    | none => return true
    | some message =>
      if ← surface host adapter binding message then drainRequests binding rounds else return false

/-- One notification: an AdapterProtocolError ends the drain and the attempt. True when the drain goes on. -/
def observeNotification (binding : Members) (message : ServerMessage) : Call Bool :=
  (do
    notification host adapter binding message
    return true).handling fun failure => match failure with
      | .protocol why => some do
        markIndeterminate host adapter binding why
        return false
      | .other _ _ => none

def drainNotifications (binding : Members) : Nat → Call Unit
  | 0 => Ask.stall
  | rounds + 1 => do
    match ← Ask.next .notifications with
    | none => return ()
    | some message =>
      if ← observeNotification host adapter binding message then drainNotifications binding rounds else return ()

/-- Loss that the client reports: the attempt is lost and what is queued is discarded. -/
def drainLoss (binding : Members) (diagnostics : List Text) (rounds : Nat) : Call Unit := do
  let attempt ← load host binding
  update (attemptId binding) { status := some .indeterminate }
  diagnostics.forM fun diagnostic => record host adapter attempt "mechanism_indeterminate" none (some (diagnostic.take 4096)) []
  discardQueue .serverRequests rounds
  discardQueue .notifications rounds

/-- `_drain`, of at most `rounds` messages from each queue. -/
def drain (binding : Members) (rounds : Nat) : Call Unit := do
  let diagnostics ← Ask.diagnostics
  if diagnostics.isEmpty then do
    let attempt ← load host binding
    if attempt.status = .indeterminate then return ()
    else if ← drainRequests host adapter binding rounds then drainNotifications host adapter binding rounds
    else return ()
  else drainLoss host adapter binding diagnostics rounds

end
end Switchyard.Nightshift
