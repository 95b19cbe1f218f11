import Switchyard.Admission.Consume

/-! What one mapper operation can assign and record. Every handler either records
one of these changes or raises with its log as it was. -/

namespace Switchyard.Admission
open Library Json AppServer

variable {host : Host} {settings : Settings host}

@[simp] theorem interrupted_records (mapper : Mapper) : mapper.interrupted.records = mapper.records := by
  unfold Mapper.interrupted
  split <;> rfl

@[simp] theorem interrupted_bounded (mapper : Mapper) : mapper.interrupted.bounded = mapper.bounded := by
  unfold Mapper.interrupted
  split <;> rfl

@[simp] theorem interrupted_identity (mapper : Mapper) :
    mapper.interrupted.providerExecutionIdentity = mapper.providerExecutionIdentity := by
  unfold Mapper.interrupted
  split <;> rfl

def Mapper.appended (mapper : Mapper) (stored : Record) (size : Nat) : Mapper :=
  { mapper with retainedRecordBytes := mapper.retainedRecordBytes + size, records := mapper.records ++ [stored] }

/-- A provider message in exact custody, under its method, where no gate refuses it. -/
structure Observed (settings : Settings host) (before : Mapper) (message : ServerMessage) (method : Text) (serverRequest : Bool)
    (raw : RawCustody) : Prop where
  custody : ∃ selected, providerCustody settings before message = .ok (selected, raw)
  named : message.method = some method
  opened : gate before method serverRequest = none
  kind : ∀ kind, before.currentAcquisitionKind = some kind → kind = if serverRequest then .serverRequest else .notification

/-- An accepted `item/completed` outside the closed shapes that still counts. -/
def Counted (settings : Settings host) (method : Text) (params : Members) : Prop :=
  method = text "item/completed" ∧ settings.captureContract = .boundedTurnEcho ∧ countsUnselected settings params = true

/-- How a frame that is no discrepancy moves the bounded turn. -/
inductive Tracked (settings : Settings host) (before : Mapper) (message : ServerMessage) (method : Text) :
    Verdict → BoundedTurn → Prop
  | selected {verdict : Verdict} {after : BoundedTurn} : selectedEcho settings before message = .ok true →
      lifecycle method message.params (isInputEcho settings before message) before.bounded = (.ok verdict, after) →
      Tracked settings before message method verdict after
  | counted {verdict : Verdict} {after : BoundedTurn} : selectedEcho settings before message = .ok false →
      Counted settings method message.params →
      countBoundedCompletedAgent (textOf (inner message.params "item" "text")) before.bounded = (.ok true, after) →
      Tracked settings before message method verdict after
  | untouched {verdict : Verdict} : selectedEcho settings before message = .ok false →
      ¬ Counted settings method message.params → Tracked settings before message method verdict before.bounded

/-- Under the echo contract the first `turn/start` selects its input; nothing else does. -/
def Selects (settings : Settings host) (before : Mapper) (requestMethod : Text) (message : ServerMessage) (input : Option Json) :
    Prop :=
  if settings.captureContract = .boundedTurnEcho ∧ requestMethod = text "turn/start" then
    before.bounded.turnInput = none ∧ input.isSome ∧ normalizedBoundedTurnInput (get message.params "input") = input
  else input = before.bounded.turnInput

/-- What may be recorded, with the fields as they are assigned before it. -/
inductive Change (settings : Settings host) (before : Mapper) : Json → Option RawCustody → Normalized → Mapper → Prop
  | discrepancy {method detail : Json} {raw : Option RawCustody} (bounded : BoundedTurn) :
      Change settings before method raw (.discrepancy detail before.providerExecutionIdentity)
        { before with bounded := bounded }.interrupted
  | clientRequestIssued {message : ServerMessage} {requestId : Int} {requestMethod paramsDigest : Text} {raw : RawCustody}
      {input : Option Json} :
      before.currentAcquisitionKind = some .clientRequest → before.clientRequests.lookup requestId = none →
      rawCustody host message (clientRequestByteBound requestMethod settings.captureContract) = .ok raw →
      Selects settings before requestMethod message input →
      Change settings before (.str (text "client-request/" ++ requestMethod)) (some raw)
        (.clientRequestIssued requestId requestMethod paramsDigest) { before with
          bounded := { before.bounded with turnInput := input }
          clientRequests := before.clientRequests ++ [(requestId, ⟨requestId, requestMethod, paramsDigest⟩)] }
  | clientResponseRetained {responseId : Int} {expected : ClientRequest} {resultDigest : Text} {raw : RawCustody} :
      before.currentAcquisitionKind = some .clientResponse → before.clientRequests.lookup responseId = some expected →
      Change settings before (.str (text "client-response/" ++ expected.method)) (some raw)
        (.clientResponseRetained responseId expected.method expected.paramsDigest resultDigest)
        { before with clientRequests := before.clientRequests.filter fun entry => entry.1 != responseId }
  | requestStarted {message : ServerMessage} {raw : RawCustody} {request : Request} {startedAtMs : Int} :
      Observed settings before message (text "providerRequest/started") false raw →
      providerRequestChecks settings before message.params = .ok (request, startedAtMs) →
      Change settings before (literal "providerRequest/started") (some raw) (.requestStarted request startedAtMs)
        { before with pending := some request, pendingStartedAtMs := some startedAtMs }
  | executionStep {message : ServerMessage} {raw : RawCustody} {request : Request} {responseId : Text} {observedAtMs : Int}
      {execution : ExecutionIdentity} {step : StepIdentity} :
      Observed settings before message (text "rawResponse/started") false raw →
      responseStartedChecks settings before message.params = .ok (request, responseId, observedAtMs) →
      execution = before.providerExecutionIdentity.getD ⟨request.provider, request.model,
        settings.binding.text "app_server_session_identity", settings.binding.text "thread_id",
        settings.binding.text "turn_id", responseId⟩ →
      step = ⟨request, settings.binding.text "thread_id", settings.binding.text "turn_id", responseId⟩ →
      Change settings before (literal "rawResponse/started") (some raw)
        (.executionStep execution step before.providerExecutionIdentity.isNone observedAtMs) { before with
          pending := none
          pendingStartedAtMs := none
          lastBoundaryMs := some observedAtMs
          openResponseId := some responseId
          completedRequests := before.completedRequests.insert request.occurrenceId
          providerExecutionIdentity := some execution
          admissionDisposition := if before.providerExecutionIdentity.isNone then .executionAdmitted
            else before.admissionDisposition
          mechanismState := if before.providerExecutionIdentity.isNone then .executionAdmitted else .running }
  | admissionRefused {message : ServerMessage} {raw : RawCustody} {request : Request} {retryAfter : Option Int}
      {diagnostic : Text} {observedAtMs : Int} :
      Observed settings before message (text "providerAdmission/refused") false raw →
      providerRefusedChecks settings before message.params = .ok (request, retryAfter, diagnostic, observedAtMs) →
      Change settings before (literal "providerAdmission/refused") (some raw)
        (.admissionRefused request retryAfter diagnostic observedAtMs) { before with
          pending := none
          pendingStartedAtMs := none
          lastBoundaryMs := some observedAtMs
          completedRequests := before.completedRequests.insert request.occurrenceId
          admissionDisposition := .notAdmittedModelAtCapacity
          mechanismState := .parkedNotAdmitted }
  | responseCompleted {message : ServerMessage} {raw : RawCustody} :
      Observed settings before message (text "rawResponse/completed") false raw →
      responseCompletedRefusal settings before message.params = none →
      Change settings before (literal "rawResponse/completed") (some raw) (.responseCompleted (get message.params "responseId"))
        { before with openResponseId := none, mechanismState := .running }
  | localFact {message : ServerMessage} {method : Text} {raw : RawCustody} {bounded : BoundedTurn} :
      Observed settings before message method false raw →
      among ["thread/started", "turn/started", "turn/completed"] method = true →
      localFactRefusal settings before method message.params = none →
      Tracked settings before message method .proceed bounded →
      Change settings before (.str method) (some raw) .localTurnFact { before with
        bounded := bounded
        mechanismState := if method = text "turn/completed" ∧ before.providerExecutionIdentity.isSome then .providerCompleted
          else before.mechanismState }
  | watermark {message : ServerMessage} {method : Text} {raw : RawCustody} {bounded : BoundedTurn} :
      Observed settings before message method false raw →
      among ["thread/started", "turn/started", "turn/completed"] method = false →
      Tracked settings before message method .watermark bounded →
      Change settings before (.str method) (some raw) .watermark { before with bounded := bounded }
  | waitingApproval {message : ServerMessage} {method : Text} {raw : RawCustody} :
      Observed settings before message method true raw → approvalRefusal settings before method message.params = none →
      Change settings before (.str method) (some raw) (.waitingApproval before.providerExecutionIdentity)
        { before with mechanismState := .waitingApproval }
  | legacyFact {kind : Json} : LEGACY_FACTS.any (is kind) = true → Change settings before kind none .localTurnFact before
  | cut {cut : AcquisitionCut} {normalized : Cut} : normalizedCut settings before cut = .ok normalized →
      Change settings before (literal "adapter/acquisition-cut") none (.acquisitionCut normalized)
        (if normalized.clean then { before with acquisitionCut := some normalized }
          else { before with acquisitionCut := some normalized }.interrupted)

/-- The record appended after one of the allowed changes. -/
def Stores (settings : Settings host) (allowed : Json → Option RawCustody → Normalized → Mapper → Prop) (stored : Record)
    (after : Mapper) : Prop :=
  ∃ method raw normalized assigned size, allowed method raw normalized assigned ∧
    evidence settings assigned method raw normalized = .ok (stored, size) ∧ after = assigned.appended stored size

/-- Where an operation raises, its log is as it was, and so is the bounded turn unless it is spoiled. -/
structure Fails (before : Mapper) (spoiled : Prop) (after : Mapper) : Prop where
  records : after.records = before.records
  bounded : after.bounded = before.bounded ↔ ¬ spoiled

abbrev Ends (settings : Settings host) (before : Mapper) (allowed : Json → Option RawCustody → Normalized → Mapper → Prop)
    (spoiled : Prop) (program : Operation Record) (start : Mapper) : Prop :=
  Effect.Meets program start (Stores settings allowed) fun _ => Fails before spoiled

abbrev EndsSome (settings : Settings host) (before : Mapper)
    (allowed : Json → Option RawCustody → Normalized → Mapper → Prop) (spoiled : Prop) (program : Operation (Option Record))
    (start : Mapper) : Prop :=
  Effect.Meets program start (fun found after => ∃ stored, found = some stored ∧ Stores settings allowed stored after)
    fun _ => Fails before spoiled

variable {before start : Mapper} {allowed : Json → Option RawCustody → Normalized → Mapper → Prop} {spoiled : Prop}

theorem Fails.kept (before : Mapper) : Fails before False before := ⟨rfl, by simp⟩

theorem Fails.harmless {after : Mapper} (fails : Fails before False after) (intact : ¬ spoiled) : Fails before spoiled after :=
  ⟨fails.records, by simp [fails.bounded, intact]⟩

theorem Ends.harmless {program : Operation Record} (ends : Ends settings before allowed False program start)
    (intact : ¬ spoiled) : Ends settings before allowed spoiled program start := by
  apply Effect.Meets.weaken ends
  · intro stored after stores
    exact stores
  · intro failure after fails
    exact fails.harmless intact

theorem Ends.some {program : Operation Record} (ends : Ends settings before allowed spoiled program start) :
    EndsSome settings before allowed spoiled (some <$> program) start := by
  apply Effect.Meets.bind
  apply Effect.Meets.weaken ends
  · intro stored after stores
    exact ⟨stored, rfl, stores⟩
  · intro failure after fails
    exact fails

/-- The canonicaliser refuses the record, or there is no room for it. -/
def Unrecordable (settings : Settings host) (mapper : Mapper) (method : Json) (raw : Option RawCustody) (normalized : Normalized) :
    Prop :=
  ∃ failure, evidence settings mapper method raw normalized = .error failure

theorem record_ends {method : Json} {raw : Option RawCustody} {normalized : Normalized}
    (shape : allowed method raw normalized start) (kept : start.records = before.records)
    (refuses : Unrecordable settings start method raw normalized → (start.bounded = before.bounded ↔ ¬ spoiled)) :
    Ends settings before allowed spoiled (record settings method raw normalized) start := by
  unfold record
  apply Effect.Meets.bind
  apply Effect.Meets.read
  apply Effect.Meets.bind
  apply Effect.Meets.lift
  · intro value found
    obtain ⟨stored, size⟩ := value
    apply Effect.Meets.bind
    apply Effect.Meets.modify
    exact Effect.Meets.pure ⟨method, raw, normalized, start, size, shape, found, rfl⟩
  · intro failure found
    exact ⟨kept, refuses ⟨failure, found⟩⟩

/-- A record that follows assignments outside the bounded turn. -/
theorem assigns_ends {method : Json} {raw : Option RawCustody} {normalized : Normalized}
    (shape : allowed method raw normalized start) (records : start.records = before.records)
    (bounded : start.bounded = before.bounded) :
    Ends settings before allowed False (record settings method raw normalized) start := by
  apply record_ends shape records
  simp [bounded]

/-- The discrepancy that a text becomes. -/
def discrepancyOf (mapper : Mapper) (detail : Text) : Normalized :=
  .discrepancy (.str (detail.take MAXIMUM_DIAGNOSTIC_CODEPOINTS)) mapper.providerExecutionIdentity

theorem markDiscrepancy_ends {detail : Text} {method : Json} {raw : Option RawCustody}
    (shape : allowed method raw (discrepancyOf start detail) start.interrupted) (kept : start.records = before.records)
    (refuses : Unrecordable settings start.interrupted method raw (discrepancyOf start detail) →
      (start.bounded = before.bounded ↔ ¬ spoiled)) :
    Ends settings before allowed spoiled (markDiscrepancy settings (.str detail) method raw) start := by
  unfold markDiscrepancy
  apply Effect.Meets.bind
  apply Effect.Meets.modify
  apply Effect.Meets.bind
  apply Effect.Meets.lift
  · intro value found
    cases found
    apply Effect.Meets.bind
    apply Effect.Meets.read
    rw [interrupted_identity]
    apply record_ends shape
    · rw [interrupted_records, kept]
    · rw [interrupted_bounded]
      exact refuses
  · intro failure found
    cases found

/-- A discrepancy that is marked before anything is assigned. -/
theorem marks_ends {method : Json} {raw : Option RawCustody} (detail : Text)
    (shape : allowed method raw (discrepancyOf before detail) before.interrupted) :
    Ends settings before allowed False (markDiscrepancy settings (.str detail) method raw) before := by
  apply markDiscrepancy_ends shape rfl
  simp

/-! Client messages. -/

/-- A change recorded under this method, with this message's bytes. -/
def Carried (settings : Settings host) (before : Mapper) (method : Text) (message : ServerMessage) (maximum : Nat) :
    Json → Option RawCustody → Normalized → Mapper → Prop := fun label raw normalized assigned =>
  label = .str method ∧ (∃ custody, raw = some custody ∧ rawCustody host message maximum = .ok custody) ∧
    Change settings before label raw normalized assigned

/-- A change recorded of a client request; one that is no discrepancy has selected what the request selects. -/
def Requested (settings : Settings host) (before : Mapper) (requestMethod : Text) (message : ServerMessage) :
    Json → Option RawCustody → Normalized → Mapper → Prop := fun label raw normalized assigned =>
  Carried settings before (text "client-request/" ++ requestMethod) message
      (clientRequestByteBound requestMethod settings.captureContract) label raw normalized assigned ∧
    ((∃ detail execution, normalized = .discrepancy detail execution) ∨
      Selects settings before requestMethod message assigned.bounded.turnInput)

/-- The record that would end `_client_request` cannot be appended. -/
def IssueRefused (settings : Settings host) (mapper : Mapper) (requestMethod : Text) (request : Members) (raw : RawCustody) :
    Prop :=
  let method := Json.str (text "client-request/" ++ requestMethod)
  ∀ requestId, boundedInt "client request id" (get request "id") 0 SAFE_INTEGER_MAX = .ok requestId →
    if (mapper.clientRequests.lookup requestId).isSome then
      Unrecordable settings mapper.interrupted method raw (discrepancyOf mapper (text "duplicate client request identity"))
    else ∀ params, canonical host (get request "params") = .ok params →
      Unrecordable settings mapper method raw (.clientRequestIssued requestId requestMethod (host.digest params))

/-- The request leaves its turn input behind although its record is refused. -/
structure LeaksRequest (settings : Settings host) (mapper : Mapper) (requestMethod : Text) (message : ServerMessage) : Prop where
  contract : settings.captureContract = .boundedTurnEcho
  method : requestMethod = text "turn/start"
  first : mapper.bounded.turnInput = none
  shape : clientRequestRefusal settings requestMethod message.raw = none
  input : (normalizedBoundedTurnInput (get message.params "input")).isSome = true
  refused : ∃ raw, rawCustody host message (clientRequestByteBound requestMethod settings.captureContract) = .ok raw ∧
    IssueRefused settings mapper requestMethod message.raw raw

theorem interrupted_with_bounded (mapper : Mapper) (bounded : BoundedTurn) :
    { mapper with bounded := bounded }.interrupted = { mapper.interrupted with bounded := bounded } := by
  unfold Mapper.interrupted
  split <;> rfl

theorem issueClientRequest_ends {requestMethod : Text} {message : ServerMessage} {raw : RawCustody}
    (custody : rawCustody host message (clientRequestByteBound requestMethod settings.captureContract) = .ok raw)
    (kind : before.currentAcquisitionKind = some .clientRequest) (input : Option Json)
    (selects : Selects settings before requestMethod message input)
    (refuses : IssueRefused settings before requestMethod message.raw raw →
      ({ before.bounded with turnInput := input } = before.bounded ↔ ¬ spoiled)) :
    Ends settings before (Requested settings before requestMethod message) spoiled
      (issueClientRequest settings requestMethod message.raw raw)
      { before with bounded := { before.bounded with turnInput := input } } := by
  unfold issueClientRequest
  apply Effect.Meets.bind
  apply Effect.Meets.read
  apply Effect.Meets.bind
  apply Effect.Meets.lift
  · intro requestId valid
    apply Effect.Meets.ite
    · intro taken
      apply markDiscrepancy_ends
      · exact ⟨⟨rfl, ⟨raw, rfl, custody⟩, .discrepancy _⟩, .inl ⟨_, _, rfl⟩⟩
      · rfl
      · intro refused
        apply refuses
        intro other again
        cases valid.symm.trans again
        rw [if_pos taken]
        rw [interrupted_with_bounded] at refused
        exact refused
    · intro fresh
      apply Effect.Meets.bind
      apply Effect.Meets.lift
      · intro params encoded
        apply Effect.Meets.bind
        apply Effect.Meets.modify
        apply record_ends
        · exact ⟨⟨rfl, ⟨raw, rfl, custody⟩,
            .clientRequestIssued kind (Option.not_isSome_iff_eq_none.mp fresh) custody selects⟩, .inr selects⟩
        · rfl
        · intro refused
          apply refuses
          intro other again
          cases valid.symm.trans again
          rw [if_neg fresh]
          intro other again
          cases encoded.symm.trans again
          exact refused
      · intro failure encoded
        refine ⟨rfl, refuses ?_⟩
        intro other again
        cases valid.symm.trans again
        rw [if_neg fresh]
        intro params again
        cases encoded.symm.trans again
  · intro failure invalid
    refine ⟨rfl, refuses ?_⟩
    intro other again
    cases invalid.symm.trans again

theorem clientRequest_ends {requestMethod : Text} {message : ServerMessage}
    (kind : before.currentAcquisitionKind = some .clientRequest) :
    Ends settings before (Requested settings before requestMethod message)
      (LeaksRequest settings before requestMethod message) (clientRequest settings requestMethod message) before := by
  unfold clientRequest
  apply Effect.Meets.bind
  apply Effect.Meets.lift
  · intro raw custody
    have marks (detail : String) (intact : ¬ LeaksRequest settings before requestMethod message) :
        Ends settings before (Requested settings before requestMethod message)
        (LeaksRequest settings before requestMethod message)
        (markDiscrepancy settings (literal detail) (.str (text "client-request/" ++ requestMethod)) raw) before := by
      apply Ends.harmless _ intact
      apply marks_ends
      exact ⟨⟨rfl, ⟨raw, rfl, custody⟩, .discrepancy before.bounded⟩, .inl ⟨_, _, rfl⟩⟩
    cases shape : clientRequestRefusal settings requestMethod message.raw with
    | some detail =>
      apply marks
      intro leaks
      cases shape.symm.trans leaks.shape
    | none =>
      apply Effect.Meets.ite
      · rintro ⟨contract, turnStart⟩
        cases input : normalizedBoundedTurnInput (get message.params "input") with
        | none =>
          apply marks
          intro leaks
          simpa [input] using leaks.input
        | some expectedInput =>
          apply Effect.Meets.bind
          apply Effect.Meets.read
          apply Effect.Meets.ite
          · intro taken
            apply marks
            intro leaks
            simp [leaks.first] at taken
          · intro open_
            have first : before.bounded.turnInput = none := by simpa using open_
            apply Effect.Meets.bind
            apply Effect.Meets.modify
            apply issueClientRequest_ends custody kind
            · rw [Selects, if_pos ⟨contract, turnStart⟩]
              exact ⟨first, rfl, input⟩
            · intro refused
              have leaks : LeaksRequest settings before requestMethod message :=
                ⟨contract, turnStart, first, shape, by rw [input]; rfl, raw, custody, refused⟩
              simp only [leaks, not_true_eq_false, iff_false]
              intro same
              have kept := congrArg BoundedTurn.turnInput same
              simp [first] at kept
      · intro other
        apply issueClientRequest_ends custody kind before.bounded.turnInput
        · rw [Selects, if_neg other]
        · intro _
          have intact : ¬ LeaksRequest settings before requestMethod message := fun leaks => other ⟨leaks.contract, leaks.method⟩
          simp [intact]
  · intro failure refused
    apply (Fails.kept before).harmless
    intro leaks
    obtain ⟨raw, custody, _⟩ := leaks.refused
    cases refused.symm.trans custody

theorem clientResponse_ends {requestMethod : Text} {message : ServerMessage}
    (kind : before.currentAcquisitionKind = some .clientResponse) :
    Ends settings before (Carried settings before (text "client-response/" ++ requestMethod) message MAXIMUM_RAW_EVIDENCE_BYTES)
      False (clientResponse settings requestMethod message) before := by
  unfold clientResponse
  apply Effect.Meets.bind
  apply Effect.Meets.lift
  · intro raw custody
    have marks (detail : Text) : Ends settings before
        (Carried settings before (text "client-response/" ++ requestMethod) message MAXIMUM_RAW_EVIDENCE_BYTES) False
        (markDiscrepancy settings (.str detail) (.str (text "client-response/" ++ requestMethod)) raw) before := by
      apply marks_ends
      exact ⟨rfl, ⟨raw, rfl, custody⟩, .discrepancy before.bounded⟩
    cases boundedInt "client response id" (get message.raw "id") 0 SAFE_INTEGER_MAX with
    | error failure => exact marks _
    | ok responseId =>
      apply Effect.Meets.bind
      apply Effect.Meets.read
      cases found : before.clientRequests.lookup responseId with
      | none => exact marks _
      | some expected =>
        cases shape : clientResponseRefusal settings expected requestMethod message.raw with
        | some detail =>
          simp only [shape]
          exact marks detail
        | none =>
          simp only [shape]
          have same : expected.method = requestMethod := by
            by_contra differ
            simp [clientResponseRefusal, differ] at shape
          subst same
          apply Effect.Meets.bind
          apply Effect.Meets.lift
          · intro result _
            apply Effect.Meets.bind
            apply Effect.Meets.modify
            apply assigns_ends
            · exact ⟨rfl, ⟨raw, rfl, custody⟩, .clientResponseRetained kind found⟩
            · rfl
            · rfl
          · intro failure _
            exact Fails.kept before
  · intro failure _
    exact Fails.kept before

end Switchyard.Admission
