import Switchyard.Admission.Mapper

/-! Consumption of provider messages, ordered envelopes and the terminal cut,
and the snapshot of what a mapper has retained. -/

namespace Switchyard.Admission
open Library Json AppServer

section
variable {host : Host} (settings : Settings host)

def REQUEST_FIELDS : List String :=
  ["threadId", "turnId", "requestOccurrenceId", "samplingOrdinal", "requestOrder", "provider", "model", "startedAtMs"]

def RESPONSE_FIELDS : List String := (REQUEST_FIELDS.filter (· != "startedAtMs")) ++ ["responseId", "observedAtMs"]

def REFUSAL_FIELDS : List String := (REQUEST_FIELDS.filter (· != "startedAtMs")) ++
  ["responseCreated", "willRetry", "refusalKind", "codexErrorInfo", "retryAfterMs", "diagnostic", "observedAtMs"]

def COMPLETED_FIELDS : List String := ["threadId", "turnId", "responseId", "usage"]

def commonRequest (params : Members) (fields : List String) : Except Failure Request := do
  require (closed params fields) "closed provider notification fields do not match"
  [("threadId", "thread_id"), ("turnId", "turn_id"), ("provider", "provider"), ("model", "model")].forM fun pair => do
    let value ← identity pair.1 (get params pair.1)
    require (value == settings.binding.text pair.2) ("provider notification " ++ pair.1 ++ " substitution")
  let occurrenceId ← identity "requestOccurrenceId" (get params "requestOccurrenceId")
  let ordinal ← boundedInt "samplingOrdinal" (get params "samplingOrdinal") 0 U32_MAX
  let order ← boundedInt "requestOrder" (get params "requestOrder") 0 U32_MAX
  return ⟨occurrenceId, ordinal, order, settings.binding.text "provider", settings.binding.text "model"⟩

/-- `try: checks except ProviderAdmissionError: discrepancy`, and what follows where they pass. -/
def checkedAs {α : Type} (method : String) (raw : RawCustody) (checks : Except Failure α) (next : α → Operation Record) :
    Operation Record :=
  match checks with
  | .ok value => next value
  | .error (.admission reason) => markDiscrepancy settings (.str reason) (literal method) raw
  | .error failure => Effect.raise failure

def providerRequestChecks (mapper : Mapper) (params : Members) : Except Failure (Request × Int) := do
  let request ← commonRequest settings params REQUEST_FIELDS
  let startedAtMs ← boundedInt "startedAtMs" (get params "startedAtMs") SAFE_INTEGER_MIN SAFE_INTEGER_MAX
  require (mapper.lastBoundaryMs.all (· ≤ startedAtMs)) "provider request time precedes retained boundary"
  require (mapper.admissionDisposition != .notAdmittedModelAtCapacity && mapper.admissionDisposition != .admissionIndeterminate)
    "provider request follows closed dispatch disposition"
  require mapper.pending.isNone "new provider request hides an unresolved request occurrence"
  require mapper.openResponseId.isNone "new provider request precedes exact response completion"
  require (request.ordinal == mapper.completedRequests.length && request.order == mapper.completedRequests.length)
    "provider request ordering or hidden retry discrepancy"
  require (!mapper.completedRequests.contains request.occurrenceId) "duplicate provider request occurrence identity"
  require (!(0 < request.ordinal && mapper.providerExecutionIdentity.isNone))
    "multiple pre-admission sampling requests are not allowed"
  return (request, startedAtMs)

/-- `_provider_request`. -/
def providerRequest (params : Members) (raw : RawCustody) : Operation Record := do
  let mapper ← Effect.read
  checkedAs settings "providerRequest/started" raw (providerRequestChecks settings mapper params) fun (request, startedAtMs) => do
    Effect.modify fun mapper => { mapper with pending := some request, pendingStartedAtMs := some startedAtMs }
    record settings (literal "providerRequest/started") raw (.requestStarted request startedAtMs)

/-- `_match_pending`. -/
def matchPending (mapper : Mapper) (request : Request) : Except Failure Unit :=
  require (mapper.pending == some request) "provider boundary has no exact pending request"

/-- The record is an execution step that answers this response identity. -/
def Normalized.answers (responseId : Json) : Normalized → Bool
  | .executionStep _ step _ _ => names responseId step.responseId
  | _ => false

def responseStartedChecks (mapper : Mapper) (params : Members) : Except Failure (Request × Text × Int) := do
  let request ← commonRequest settings params RESPONSE_FIELDS
  matchPending mapper request
  let responseId ← identity "responseId" (get params "responseId")
  let observedAtMs ← boundedInt "observedAtMs" (get params "observedAtMs") SAFE_INTEGER_MIN SAFE_INTEGER_MAX
  require (mapper.pendingStartedAtMs.any (· ≤ observedAtMs)) "response-created time precedes request start"
  require (!mapper.records.any fun record => record.normalized.answers (.str responseId))
    "duplicate upstream response identity"
  return (request, responseId, observedAtMs)

/-- `_response_started`. -/
def responseStarted (params : Members) (raw : RawCustody) : Operation Record := do
  let mapper ← Effect.read
  checkedAs settings "rawResponse/started" raw (responseStartedChecks settings mapper params)
    fun (request, responseId, observedAtMs) => do
      let threadId := settings.binding.text "thread_id"
      let turnId := settings.binding.text "turn_id"
      let execution := mapper.providerExecutionIdentity.getD ⟨request.provider, request.model,
        settings.binding.text "app_server_session_identity", threadId, turnId, responseId⟩
      let first := mapper.providerExecutionIdentity.isNone
      Effect.modify fun mapper => { mapper with
        pending := none
        pendingStartedAtMs := none
        lastBoundaryMs := some observedAtMs
        openResponseId := some responseId
        completedRequests := mapper.completedRequests.insert request.occurrenceId
        providerExecutionIdentity := some execution
        admissionDisposition := if first then .executionAdmitted else mapper.admissionDisposition
        mechanismState := if first then .executionAdmitted else .running }
      record settings (literal "rawResponse/started") raw
        (.executionStep execution ⟨request, threadId, turnId, responseId⟩ first observedAtMs)

def retryAfterOf : Json → Except Failure (Option Int)
  | .null => .ok none
  | value => some <$> boundedInt "retryAfterMs" value 0 SAFE_INTEGER_MAX

def diagnosticOf : Json → Except Failure Text
  | .str diagnostic =>
    if diagnostic.length ≤ MAXIMUM_DIAGNOSTIC_CODEPOINTS then .ok diagnostic
    else .error (refused "provider refusal diagnostic exceeds bound")
  | _ => .error (refused "provider refusal diagnostic exceeds bound")

def providerRefusedChecks (mapper : Mapper) (params : Members) : Except Failure (Request × Option Int × Text × Int) := do
  let request ← commonRequest settings params REFUSAL_FIELDS
  matchPending mapper request
  require mapper.providerExecutionIdentity.isNone "provider refusal follows admitted execution"
  require ((get params "responseCreated" matches .bool false) && (get params "willRetry" matches .bool false))
    "provider refusal does not prove terminal pre-created state"
  require (is (get params "refusalKind") "modelAtCapacity") "unknown provider refusal kind"
  require (is (get params "codexErrorInfo") "serverOverloaded") "provider refusal typed error mismatch"
  let retryAfter ← retryAfterOf (get params "retryAfterMs")
  let diagnostic ← diagnosticOf (get params "diagnostic")
  let observedAtMs ← boundedInt "observedAtMs" (get params "observedAtMs") SAFE_INTEGER_MIN SAFE_INTEGER_MAX
  require (mapper.pendingStartedAtMs.any (· ≤ observedAtMs)) "provider refusal time precedes request start"
  return (request, retryAfter, diagnostic, observedAtMs)

/-- `_provider_refused`. -/
def providerRefused (params : Members) (raw : RawCustody) : Operation Record := do
  let mapper ← Effect.read
  checkedAs settings "providerAdmission/refused" raw (providerRefusedChecks settings mapper params)
    fun (request, retryAfter, diagnostic, observedAtMs) => do
      Effect.modify fun mapper => { mapper with
        pending := none
        pendingStartedAtMs := none
        lastBoundaryMs := some observedAtMs
        completedRequests := mapper.completedRequests.insert request.occurrenceId
        admissionDisposition := .notAdmittedModelAtCapacity
        mechanismState := .parkedNotAdmitted }
      record settings (literal "providerAdmission/refused") raw (.admissionRefused request retryAfter diagnostic observedAtMs)

/-- Why a response completion is a discrepancy. -/
def responseCompletedRefusal (mapper : Mapper) (params : Members) : Option String :=
  let responseId := get params "responseId"
  if !closed params COMPLETED_FIELDS then some "closed response-completed fields do not match"
  else if mapper.providerExecutionIdentity.isNone then
    some "response completion lacks an exact response-created boundary"
  else if !names (get params "threadId") (settings.binding.text "thread_id") ||
      !names (get params "turnId") (settings.binding.text "turn_id") then
    some "response completion identity substitution"
  else if !equal responseId ((mapper.openResponseId.map Json.str).getD .null) ||
      !mapper.records.any fun record => record.normalized.answers responseId then
    some "response completion has no exact admitted response identity"
  else none

/-- `_response_completed`. -/
def responseCompleted (params : Members) (raw : RawCustody) : Operation Record := do
  let mapper ← Effect.read
  match responseCompletedRefusal settings mapper params with
  | some detail => markDiscrepancy settings (literal detail) (literal "rawResponse/completed") raw
  | none =>
    Effect.modify fun mapper => { mapper with openResponseId := none, mechanismState := .running }
    record settings (literal "rawResponse/completed") raw (.responseCompleted (get params "responseId"))

/-- A member of a dict under a key that holds a dict. -/
def inner (params : Members) (key name : String) : Json := get ((get params key).members?.getD []) name

/-- Why a local turn fact is a discrepancy. -/
def localFactRefusal (mapper : Mapper) (method : Text) (params : Members) : Option String :=
  let threadId := if method = text "thread/started" then inner params "thread" "id" else get params "threadId"
  if !names threadId (settings.binding.text "thread_id") then some "local fact thread identity substitution"
  else if method ≠ text "thread/started" ∧ ¬ names (inner params "turn" "id") (settings.binding.text "turn_id") then
    some "local fact turn identity substitution"
  else if method = text "turn/completed" then
    if mapper.providerExecutionIdentity.isNone then
      if mapper.admissionDisposition = .notAdmittedModelAtCapacity ∧ mapper.mechanismState = .parkedNotAdmitted ∧
          mapper.pending.isNone ∧ mapper.openResponseId.isNone then none
      else some "turn completed without exact provider execution identity"
    else if mapper.pending.isSome ∨ mapper.openResponseId.isSome ∨ mapper.mechanismState = .waitingApproval then
      some "turn completed before exact response/approval sequence closed"
    else none
  else none

/-- `_local_fact`. -/
def localFact (method : Text) (params : Members) (raw : RawCustody) : Operation Record := do
  let mapper ← Effect.read
  match localFactRefusal settings mapper method params with
  | some detail => markDiscrepancy settings (literal detail) (.str method) raw
  | none =>
    if method = text "turn/completed" ∧ mapper.providerExecutionIdentity.isSome then
      Effect.modify fun mapper => { mapper with mechanismState := .providerCompleted }
    record settings (.str method) raw .localTurnFact

/-- Why a server request is a discrepancy. -/
def approvalRefusal (mapper : Mapper) (method : Text) (params : Members) : Option String :=
  if !among ["item/commandExecution/requestApproval", "item/fileChange/requestApproval"] method then
    some "unknown App Server server request"
  else if !names (get params "threadId") (settings.binding.text "thread_id") ||
      !names (get params "turnId") (settings.binding.text "turn_id") then some "approval identity substitution"
  else if mapper.providerExecutionIdentity.isNone then some "approval request preceded provider admission"
  else if mapper.openResponseId.isSome then some "approval request preceded exact response completion"
  else none

/-- `_approval_or_discrepancy`. -/
def approvalOrDiscrepancy (method : Text) (params : Members) (raw : RawCustody) : Operation Record := do
  let mapper ← Effect.read
  match approvalRefusal settings mapper method params with
  | some detail => markDiscrepancy settings (literal detail) (.str method) raw
  | none =>
    Effect.modify fun mapper => { mapper with mechanismState := .waitingApproval }
    record settings (.str method) raw (.waitingApproval mapper.providerExecutionIdentity)

/-! The closed item lifecycle of the selected turn. -/

abbrev Lifecycle := Effect BoundedTurn Failure

inductive Verdict
  | discrepancy (detail : String)
  | watermark
  | proceed
deriving DecidableEq

/-- A step of the lifecycle as a step of the mapper that holds it. -/
def onBounded {α : Type} (program : Lifecycle α) : Operation α := fun mapper =>
  ((program mapper.bounded).1, { mapper with bounded := (program mapper.bounded).2 })

/-- `_count_bounded_completed_agent`: the count grows even where it exceeds its bound. -/
def countBoundedCompletedAgent (content : Text) : Lifecycle Bool := do
  match utf8Length content with
  | .error className => Effect.raise (.other className)
  | .ok size =>
    Effect.modify fun bounded => { bounded with completedAgentBytes := bounded.completedAgentBytes + size }
    let bounded ← Effect.read
    return bounded.completedAgentBytes ≤ MAXIMUM_BOUNDED_AGENT_OUTPUT_BYTES

def textOf (value : Json) : Text := value.text?.getD []

def inputLifecycle (method itemId : Text) : Lifecycle Verdict := do
  let bounded ← Effect.read
  let started := method == text "item/started"
  if started && bounded.inputItemId.isSome then return .discrepancy "duplicate bounded user input start"
  else if !started && (bounded.inputItemId != some itemId || !bounded.inputMethods.contains (text "item/started")) then
    return .discrepancy "bounded user input completion lacks exact start"
  else
    Effect.modify fun bounded => if started then { bounded with inputItemId := some itemId } else bounded
    if bounded.inputMethods.contains method then return .discrepancy "duplicate bounded user input lifecycle event"
    else
      Effect.modify fun bounded => { bounded with inputMethods := bounded.inputMethods.insert method }
      return .watermark

def agentLifecycle (method itemId content : Text) : Lifecycle Verdict := do
  let bounded ← Effect.read
  if method = text "item/started" then
    if bounded.agentItemId.isSome || bounded.completedAgentIds.contains itemId then
      return .discrepancy "duplicate bounded agent output start"
    else
      Effect.modify fun bounded => { bounded with agentItemId := some itemId, agentText := some content }
      return .watermark
  else if bounded.agentItemId != some itemId || bounded.completedAgentIds.contains itemId then
    return .discrepancy "bounded agent output completion lacks exact start"
  else
    Effect.modify fun bounded => { bounded with agentText := some content }
    let fits ← countBoundedCompletedAgent content
    if !fits then return .discrepancy "bounded completed agent output exceeds decoded byte bound"
    else
      Effect.modify fun bounded => { bounded with
        completedAgentIds := bounded.completedAgentIds.insert itemId
        lastCompletedAgent := some (itemId, content)
        agentItemId := none
        agentText := none }
      return .watermark

/-- The item of a closed `turn/completed` summary. -/
def summaryItem (params : Members) : Members :=
  match inner params "turn" "items" with
  | .arr (item :: _) => item.members?.getD []
  | _ => []

/-- The lifecycle part of `_bounded_turn_agent_output`. -/
def lifecycle (method : Text) (params : Members) (isInput : Bool) : Lifecycle Verdict := do
  let itemId := textOf (inner params "item" "id")
  if isInput then inputLifecycle method itemId
  else if among ["item/started", "item/completed"] method then agentLifecycle method itemId (textOf (inner params "item" "text"))
  else
    let bounded ← Effect.read
    if method = text "item/agentMessage/delta" then
      if bounded.agentItemId.any fun agent => names (get params "itemId") agent then return .watermark
      else return .discrepancy "bounded agent delta lacks exact item start"
    else
      let item := summaryItem params
      if bounded.agentItemId.isSome || bounded.lastCompletedAgent != some (textOf (get item "id"), textOf (get item "text")) then
        return .discrepancy "bounded turn summary lacks exact completed agent item"
      else return .proceed

def isInputEcho (mapper : Mapper) (message : ServerMessage) : Bool :=
  isBoundedTurnUserInputEcho message mapper.bounded.turnInput (settings.binding.text "thread_id")
    (some (settings.binding.text "turn_id"))

def isAgentOutput (message : ServerMessage) : Except Failure Bool :=
  match isBoundedTurnAgentOutput message (settings.binding.text "thread_id") (some (settings.binding.text "turn_id")) with
  | .ok value => .ok value
  | .error className => .error (.other className)

/-- `_bounded_turn_agent_output`; `none` lets the normal local fact follow. -/
def boundedTurnAgentOutput (method : Text) (message : ServerMessage) (raw : RawCustody) : Operation (Option Record) := do
  let mapper ← Effect.read
  let isInput := isInputEcho settings mapper message
  let isOutput ← Effect.lift (isAgentOutput settings message)
  let verdict ← if !isInput && !isOutput then
      pure (.discrepancy "large item lifecycle is outside the selected bounded turn contract")
    else onBounded (lifecycle method message.params isInput)
  match verdict with
  | .proceed => return none
  | .discrepancy detail =>
    let marked ← markDiscrepancy settings (literal detail) (.str method) raw
    return some marked
  | .watermark =>
    let retained ← record settings (.str method) raw .watermark
    return some retained

/-- An agent message of the bound turn that no selection covered still counts. -/
def countsUnselected (params : Members) : Bool :=
  names (get params "threadId") (settings.binding.text "thread_id") &&
    names (get params "turnId") (settings.binding.text "turn_id") && is (inner params "item" "type") "agentMessage" &&
    (inner params "item" "text").text?.isSome

def providerBoundary (method : Text) : Bool :=
  ["providerAdmission/", "providerRequest/", "rawResponse/"].any fun start => (text start).isPrefixOf method

/-- A notification that is neither a boundary nor a fact. -/
def watermark (method : Text) (params : Members) (raw : RawCustody) : Operation Record := do
  let fits ← if method = text "item/completed" ∧ settings.captureContract = .boundedTurnEcho ∧
      countsUnselected settings params then
      onBounded (countBoundedCompletedAgent (textOf (inner params "item" "text")))
    else pure true
  if fits then record settings (.str method) raw .watermark
  else markDiscrepancy settings (literal "bounded completed agent output exceeds decoded byte bound") (.str method) raw

/-- The dispatch of `_consume_impl` on the method of a notification. -/
def notification (method : Text) (message : ServerMessage) (raw : RawCustody) (selected : Bool) : Operation (Option Record) := do
  let params := message.params
  if method = text "providerRequest/started" then some <$> providerRequest settings params raw
  else if method = text "rawResponse/started" then some <$> responseStarted settings params raw
  else if method = text "providerAdmission/refused" then some <$> providerRefused settings params raw
  else if method = text "rawResponse/completed" then some <$> responseCompleted settings params raw
  else if method = text "error" then
    some <$> markDiscrepancy settings (literal "coarse or unclassified App Server error cannot establish admission")
      (.str method) raw
  else if among ["thread/started", "turn/started", "turn/completed"] method then
    let checked ← if method = text "turn/completed" ∧ settings.captureContract = .boundedTurnEcho ∧ selected then
        boundedTurnAgentOutput settings method message raw
      else pure none
    match checked with
    | some marked => return some marked
    | none => some <$> localFact settings method params raw
  else if among ["item/started", "item/completed", "item/agentMessage/delta"] method ∧
      settings.captureContract = .boundedTurnEcho ∧ selected then boundedTurnAgentOutput settings method message raw
  else if providerBoundary method then
    some <$> markDiscrepancy settings (literal "unknown provider-boundary notification") (.str method) raw
  else some <$> watermark settings method params raw

/-- The states in which provider evidence can only be a discrepancy. -/
def gate (mapper : Mapper) (method : Text) (serverRequest : Bool) : Option String :=
  if mapper.admissionDisposition = .admissionIndeterminate then some "provider evidence followed an indeterminate dispatch"
  else if mapper.mechanismState = .providerCompleted then some "App Server activity followed completed turn"
  else if mapper.mechanismState = .postAdmissionInterrupted then
    some "provider evidence followed a post-admission interruption"
  else if mapper.mechanismState = .waitingApproval ∧ (serverRequest ∨ providerBoundary method) then
    some "provider activity followed unanswered approval"
  else none

/-- The frame may exceed the ordinary bound: it has one of the closed shapes of the selected turn. -/
def selectedEcho (mapper : Mapper) (message : ServerMessage) : Except Failure Bool :=
  if settings.captureContract = .boundedTurnEcho then
    if isInputEcho settings mapper message then .ok true else isAgentOutput settings message
  else .ok false

/-- The exact bytes of a provider message, with whether its shape was selected. -/
def providerCustody (mapper : Mapper) (message : ServerMessage) : Except Failure (Bool × RawCustody) := do
  let selected ← selectedEcho settings mapper message
  let raw ← rawCustody host message (if selected then MAXIMUM_USER_INPUT_ECHO_BYTES else MAXIMUM_RAW_EVIDENCE_BYTES)
  return (selected, raw)

/-- `_consume_impl`. -/
def consumeImpl (message : ServerMessage) (serverRequest : Bool) : Operation (Option Record) := do
  let mapper ← Effect.read
  match providerCustody settings mapper message with
  | .error (.admission reason) =>
    let method := match message.method with
      | some (point :: rest) => .str (point :: rest)
      | _ => literal "unknown"
    some <$> markDiscrepancy settings (.str reason) method none
  | .error failure => Effect.raise failure
  | .ok (selected, raw) =>
    match message.method with
    | none => some <$> markDiscrepancy settings (literal "App Server method is not a string") (literal "unknown") raw
    | some method =>
      if 1 ≤ method.length ∧ method.length ≤ MAXIMUM_ID_CODEPOINTS then
        match gate mapper method serverRequest with
        | some detail => some <$> markDiscrepancy settings (literal detail) (.str method) raw
        | none =>
          if serverRequest then some <$> approvalOrDiscrepancy settings method message.params raw
          else notification settings method message raw selected
      else some <$> markDiscrepancy settings (literal "App Server method exceeds identity bound") (literal "unknown") raw

/-- `consume`, which only fixtures may call. -/
def consume (message : ServerMessage) (serverRequest : Bool) : Operation (Option Record) :=
  if settings.allowUnorderedFixture then atomic do
    requireAcquisitionOpen
    consumeImpl settings message serverRequest
  else Effect.raise (refused "V2 provider admission requires an ordered acquisition envelope")

/-- `_consume_envelope_impl` once the current ordinal and kind are set. -/
def acquire (envelope : AcquisitionEnvelope) (ordinal : Nat) : Operation (Option Record) := do
  let mapper ← Effect.read
  let mark (detail : String) := some <$> markDiscrepancy settings (literal detail) (literal "adapter/acquisition") none
  if ordinal ≠ mapper.expectedAcquisitionOrdinal then
    Effect.modify fun mapper => { mapper with
      expectedAcquisitionOrdinal := max mapper.expectedAcquisitionOrdinal (ordinal + 1) }
    mark "ordered acquisition ordinal gap, duplicate, or reorder"
  else
    Effect.modify fun mapper => { mapper with expectedAcquisitionOrdinal := mapper.expectedAcquisitionOrdinal + 1 }
    match AcquisitionKind.of envelope.kind with
    | .loss =>
      if envelope.message.isSome then mark "loss envelope unexpectedly contains a decoded message"
      else match envelope.diagnostic with
        | .str diagnostic =>
          if 1 ≤ diagnostic.length ∧ diagnostic.length ≤ MAXIMUM_DIAGNOSTIC_CODEPOINTS then
            match envelope.rawBytes with
            | none => some <$> markDiscrepancy settings (.str diagnostic) (literal "adapter/acquisition") none
            | some bytes =>
              let raw ← Effect.lift (rawBytesCustody bytes .exactAcquiredFrameBytes MAXIMUM_RAW_EVIDENCE_BYTES)
              some <$> markDiscrepancy settings (.str diagnostic) (literal "adapter/acquisition") raw
          else Effect.raise (refused "invalid acquisition loss diagnostic")
        | _ => Effect.raise (refused "invalid acquisition loss diagnostic")
    | .unknown => mark "unknown ordered acquisition envelope kind"
    | kind =>
      match envelope.message with
      | none => mark "ordered message envelope shape mismatch"
      | some message =>
        if !(envelope.diagnostic matches .null) || envelope.rawBytes.isSome then mark "ordered message envelope shape mismatch"
        else match kind, envelope.requestMethod with
          | .clientRequest, .str requestMethod =>
            if 1 ≤ requestMethod.length ∧ requestMethod.length ≤ MAXIMUM_ID_CODEPOINTS then
              some <$> clientRequest settings requestMethod message
            else mark "client request lacks exact bounded request method"
          | .clientRequest, _ => mark "client request lacks exact bounded request method"
          | .clientResponse, .str requestMethod =>
            if 1 ≤ requestMethod.length ∧ requestMethod.length ≤ MAXIMUM_ID_CODEPOINTS then
              some <$> clientResponse settings requestMethod message
            else mark "client response lacks exact bounded request method"
          | .clientResponse, _ => mark "client response lacks exact bounded request method"
          | kind, .null => consumeImpl settings message (kind == .serverRequest)
          | _, _ => mark "ordered provider message unexpectedly carries a request method"

/-- `consume_envelope`. -/
def consumeEnvelope (envelope : AcquisitionEnvelope) : Operation (Option Record) := atomic do
  requireAcquisitionOpen
  let ordinal ← Effect.lift (boundedInt "acquisition ordinal" envelope.ordinal 0 SAFE_INTEGER_MAX)
  Effect.modify fun mapper => { mapper with currentAcquisitionOrdinal := some ordinal.toNat }
  Effect.lift (requireHashable envelope.kind)
  Effect.modify fun mapper => { mapper with currentAcquisitionKind := some (.of envelope.kind) }
  (acquire settings envelope ordinal.toNat).ensuring fun mapper => { mapper with
    currentAcquisitionOrdinal := none
    currentAcquisitionKind := none }

def PROCESS_DISPOSITIONS : List String :=
  ["UNKNOWN", "ABSENT", "RUNNING", "EXITED", "EXITED_AFTER_TERMINATE", "EXITED_AFTER_KILL", "EXIT_UNCONFIRMED"]

/-- The checks of `_consume_cut_impl` and the cut they normalise. -/
def normalizedCut (mapper : Mapper) (cut : AcquisitionCut) : Except Failure Cut := do
  let process := settings.binding.text "adapter_process_occurrence_id"
  let session := settings.binding.text "app_server_session_identity"
  require (names cut.adapterProcessOccurrenceId process && names cut.appServerSessionIdentity session)
    "acquisition-cut occurrence identity substitution"
  let streamQuiesced ← match cut.streamQuiesced with
    | .bool value => .ok value
    | _ => .error (refused "invalid acquisition-cut stream disposition")
  let lossGeneration ← boundedInt "acquisition-cut loss generation" cut.lossGeneration 0 SAFE_INTEGER_MAX
  let highWater ← boundedInt "acquisition-cut ordered high water" cut.orderedHighWater 0 SAFE_INTEGER_MAX
  requireHashable cut.processDisposition
  require (PROCESS_DISPOSITIONS.any (is cut.processDisposition)) "unknown acquisition-cut process disposition"
  let processClosed := ["EXITED", "EXITED_AFTER_TERMINATE", "EXITED_AFTER_KILL"].any (is cut.processDisposition)
  let semanticClosed := mapper.mechanismState == .providerCompleted || mapper.mechanismState == .parkedNotAdmitted
  return {
    adapterProcessOccurrenceId := process
    appServerSessionIdentity := session
    streamQuiesced := streamQuiesced
    lossGeneration := lossGeneration
    processDisposition := textOf cut.processDisposition
    orderedHighWater := highWater
    consumedOrdinalCount := mapper.expectedAcquisitionOrdinal
    outstandingClientRequestCount := mapper.clientRequests.length
    clean := streamQuiesced && processClosed && lossGeneration == 0 && highWater == mapper.expectedAcquisitionOrdinal &&
      mapper.clientRequests.isEmpty && semanticClosed }

/-- `consume_cut`. -/
def consumeCut (cut : AcquisitionCut) : Operation Record := atomic do
  requireAcquisitionOpen
  let mapper ← Effect.read
  let normalized ← Effect.lift (normalizedCut settings mapper cut)
  Effect.modify fun mapper => { mapper with acquisitionCut := some normalized }
  if !normalized.clean then Effect.modify Mapper.interrupted
  record settings (literal "adapter/acquisition-cut") none (.acquisitionCut normalized)

/-- The members of a snapshot under its digest. -/
def snapshotMembers (mapper : Mapper) (digest : Text) : Members := object [
  ("schema", literal SNAPSHOT_SCHEMA), ("snapshot_digest", .str digest), ("binding", .obj settings.binding.members),
  ("admission_disposition", literal mapper.admissionDisposition.name),
  ("mechanism_state", literal mapper.mechanismState.name),
  ("provider_execution_identity", optionalIdentity mapper.providerExecutionIdentity),
  ("acquisition_cut", (mapper.acquisitionCut.map Cut.toJson).getD .null),
  ("records", .arr (mapper.records.map fun record => .obj (record.toMembers settings.binding)))]

/-- `snapshot`. -/
def snapshot (mapper : Mapper) : Except Failure Members := do
  let digest ← digestOf host SNAPSHOT_DOMAIN (snapshotMembers settings mapper []) "snapshot_digest"
  return snapshotMembers settings mapper digest

end

end Switchyard.Admission
