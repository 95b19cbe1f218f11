import Switchyard.DirectApi.Store

/-! One direct API run: what it assigns to its record before, during and after
the single contact, and the store transactions around it. -/

namespace Switchyard.DirectApi
open Library Json

variable {host : Host}

/-- An exception of the attempt, as its handlers tell them apart. -/
inductive Raised
  | responseOverBound
  | localCancellation
  | timeout
  | other (className : ClassName)

def Raised.of : Failure → Raised
  | .protocol _ => .other (className "AdapterProtocolError")
  | .other className => .other className

/-- One `record[key] = value` or `record.update(...)`. None renames the dispatch. -/
structure Assignment where
  items : List (String × Json)
  kept : ∀ item ∈ items, item.1 ≠ "dispatch_occurrence_id"

def RunRecord.assign (record : RunRecord) (assignment : Assignment) : RunRecord where
  members := update record.members assignment.items
  dispatch := record.dispatch
  named := (get_update assignment.kept record.members).trans record.named

def RunRecord.assignAll (record : RunRecord) (assignments : List Assignment) : RunRecord :=
  assignments.foldl RunRecord.assign record

@[simp] theorem RunRecord.assign_dispatch (record : RunRecord) (assignment : Assignment) :
    (record.assign assignment).dispatch = record.dispatch := rfl

@[simp] theorem RunRecord.assignAll_dispatch (record : RunRecord) (assignments : List Assignment) :
    (record.assignAll assignments).dispatch = record.dispatch := by
  induction assignments generalizing record with
  | nil => rfl
  | cons assignment rest ih => exact ih (record.assign assignment)

theorem RunRecord.assignAll_members (record : RunRecord) (assignments : List Assignment) :
    (record.assignAll assignments).members = update record.members (assignments.flatMap Assignment.items) := by
  induction assignments generalizing record with
  | nil => rfl
  | cons assignment rest ih =>
    rw [List.flatMap_cons, update_append]
    exact ih (record.assign assignment)

/-- The attempt, as the assignments it makes to its record. -/
abbrev Attempt := Effect (List Assignment) Raised

namespace Attempt

def assign (items : List (String × Json)) (kept : ∀ item ∈ items, item.1 ≠ "dispatch_occurrence_id") : Attempt Unit :=
  Effect.modify fun assignments => assignments ++ [⟨items, kept⟩]

def lift {α : Type} (outcome : Except Failure α) : Attempt α := Effect.lift (outcome.mapError Raised.of)

end Attempt

structure Response where
  status : Json
  raw : Option Bytes

/-- What surrounds a run: its two callbacks and its transport. The transport that runs in a child
process asks for cancellation before each wait, so it has polls of its own; another has none. -/
structure Surroundings where
  cancelledBefore : Except Raised Bool
  credential : Except Raised (Option Text)
  polls : List (Except Raised Bool)
  reply : Except Raised Response
  cancelledAfter : Except Raised Bool

/-- The loop over the polls. The first one that raises, or asks for cancellation, ends it. -/
def polled : List (Except Raised Bool) → Except Raised Unit
  | [] => .ok ()
  | .ok false :: later => polled later
  | .ok true :: _ => .error .localCancellation
  | .error raised :: _ => .error raised

/-- What the call of the transport comes to: what a poll raised, or else its own answer. -/
def Surroundings.transport (surroundings : Surroundings) : Except Raised Response := do
  polled surroundings.polls
  surroundings.reply

theorem Surroundings.transport_replied {surroundings : Surroundings} (asked : polled surroundings.polls = .ok ()) :
    surroundings.transport = surroundings.reply := by
  rw [transport, asked]
  rfl

theorem Surroundings.transport_polled {surroundings : Surroundings} {raised : Raised}
    (asked : polled surroundings.polls = .error raised) : surroundings.transport = .error raised := by
  rw [transport, asked]
  rfl

def usable (credential : Text) : Bool := 1 ≤ credential.length && credential.length ≤ 8192

/-- `{**json.loads(body), ...}`. -/
def extended (host : Host) (body : Bytes) (items : List (String × Json)) : Except Failure Bytes := do
  match ← loads host body with
  | .obj members => canonical host (.obj (update members items))
  | _ => throw typeError

def requestBody (host : Host) (submission : Submission host) : Except Failure Bytes := do
  let request := submission.request
  let body ← canonical host (.obj (object [
    ("model", get request "model_id"),
    ("messages", .arr [.obj (object [("role", .str (text "user")),
      ("content", .str ((Text.decode? submission.admittedInput).getD []))])]),
    ("provider", .obj (object [("allow_fallbacks", .bool false)])),
    ("stream", .bool false)]))
  let body ← if isEnrolled request then extended host body [
      ("max_tokens", get request "maximum_completion_tokens"),
      ("provider", .obj (object [("allow_fallbacks", .bool false), ("require_parameters", .bool true),
        ("max_price", .obj (object [("prompt", get request "prompt_token_price_micros"),
          ("completion", get request "completion_token_price_micros"), ("request", .int 0)]))]))]
    else pure body
  if isV3 request then extended host body [("response_format", get request "response_format")] else pure body

/-- Up to the contact. `none` is an early return. -/
def prepare (host : Host) (submission : Submission host) (surroundings : Surroundings) :
    Attempt (Option (Bytes × Text)) := do
  let cancelled ← Effect.lift surroundings.cancelledBefore
  if cancelled then
    Attempt.assign [("state", .str (text "CANCELLED_BEFORE_CONTACT")), ("contact_state", .str (text "NOT_CONTACTED")),
      ("completion_state", .str (text "NOT_COMPLETED"))] (by simp)
    return none
  else
    let credential ← Effect.lift surroundings.credential
    match credential.filter usable with
    | none =>
      Attempt.assign [("state", .str (text "AUTHENTICATION_UNAVAILABLE")),
        ("contact_state", .str (text "NOT_CONTACTED")), ("completion_state", .str (text "NOT_COMPLETED"))] (by simp)
      return none
    | some credential =>
      let body ← Attempt.lift (requestBody host submission)
      return some (body, credential)

def contactStarted : Assignment := ⟨[("contact_state", .str (text "CONTACT_STARTED_OUTCOME_UNKNOWN"))], by simp⟩

def statusState (status : Int) : String :=
  if status = 401 ∨ status = 403 then "AUTHENTICATION_FAILED"
  else if status = 402 then "QUOTA_EXHAUSTED"
  else if status = 429 then "RATE_OR_CAPACITY_REFUSED"
  else if status = 503 then "PROVIDER_CAPACITY_UNAVAILABLE"
  else if status = 408 ∨ status = 504 then "PROVIDER_TIMEOUT_OUTCOME_UNKNOWN"
  else "PROVIDER_REFUSED"

/-- `_number`: what is neither a number nor negative. A NaN is not below zero. -/
def number : Json → Option Json
  | .int value => if value < 0 then none else some (.int value)
  | .float (.finite value) => if value < 0 then none else some (.float (.finite value))
  | .float (.infinite true) => none
  | .float value => some (.float value)
  | _ => none

/-- `value > limit` on a number. -/
def exceeds (limit : Int) : Json → Bool
  | .int value => limit < value
  | .float (.finite value) => (limit : ℚ) < value
  | .float (.infinite false) => true
  | _ => false

/-- `_PROVIDER_DIAGNOSTIC_TOKEN.fullmatch`. -/
def diagnosticToken (token : Text) : Bool :=
  match token with
  | [] => false
  | first :: rest => identifierPoint first && !([46, 95, 58, 47, 45].contains first.val) &&
      rest.length ≤ 127 && rest.all identifierPoint

/-- `token.lower()` where it is ASCII, which every retained token is. -/
def lower (token : Text) : Text :=
  token.map fun point => if 65 ≤ point.val ∧ point.val ≤ 90 then Fin.ofNat 0x110000 (point.val + 32) else point

def secretShaped (token : Text) : Bool :=
  ["sk-", "sk_", "pk-", "pk_"].any fun shape => (text shape).isPrefixOf (lower token)

/-- `credential in token`. -/
def contains (token credential : Text) : Bool := token.tails.any fun suffix => credential.isPrefixOf suffix

/-- The retained item of one diagnostic candidate, if it is retained. -/
def diagnostic (credential : Text) (value : Json) (target : String) : List (String × Json) :=
  let retained (token : Text) : List (String × Json) :=
    if diagnosticToken token && !contains token credential && !secretShaped token then [(target, .str token)] else []
  match value with
  | .str token => retained token
  | .int value => retained ((Rfc8785.decimal value).map fun byte => Fin.ofNat 0x110000 byte.toNat)
  | _ => []

/-- `_bounded_provider_error_metadata`. -/
def providerErrorMetadata (host : Host) (raw : Bytes) (credential : Text) : Except Raised (List (String × Json)) :=
  match host.loads raw with
  | .error (.malformed _ _) => .ok []
  | .error (.duplicateKey _) => .error (.other (className "ValueError"))
  | .error (.other className) => .error (.other className)
  | .ok (.obj response) => match get response "error" with
    | .obj error =>
      let metadata := (get error "metadata").members?.getD []
      let errorType := if has metadata "error_type" then get metadata "error_type" else get error "type"
      .ok (diagnostic credential (get error "code") "provider_error_code" ++
        diagnostic credential (get metadata "provider_code") "upstream_provider_error_code" ++
        diagnostic credential errorType "provider_error_type")
    | _ => .ok []
  | .ok _ => .ok []

theorem diagnostic_target {credential : Text} {value : Json} {target : String} {item : String × Json}
    (retained : item ∈ diagnostic credential value target) :
    item.1 = target ∧ ∃ token, item.2 = .str token ∧ diagnosticToken token = true := by
  unfold diagnostic at retained
  cases value with
  | str token =>
    simp only at retained
    split at retained
    next accepted =>
      obtain rfl := List.mem_singleton.mp retained
      simp only [Bool.and_eq_true] at accepted
      exact ⟨rfl, token, rfl, accepted.1.1⟩
    next => cases retained
  | int value =>
    simp only at retained
    split at retained
    next accepted =>
      obtain rfl := List.mem_singleton.mp retained
      simp only [Bool.and_eq_true] at accepted
      exact ⟨rfl, _, rfl, accepted.1.1⟩
    next => cases retained
  | null | bool _ | float _ | arr _ | obj _ => cases retained

theorem providerErrorMetadata_spec {raw : Bytes} {credential : Text} {items : List (String × Json)}
    (found : providerErrorMetadata host raw credential = .ok items) {item : String × Json} (listed : item ∈ items) :
    item.1 ∈ ["provider_error_code", "upstream_provider_error_code", "provider_error_type"] ∧
      ∃ token, item.2 = .str token ∧ diagnosticToken token = true := by
  unfold providerErrorMetadata at found
  split at found
  · cases found; cases listed
  · cases found
  · cases found
  · split at found
    · cases found
      simp only [List.mem_append] at listed
      rcases listed with (listed | listed) | listed
      · exact ⟨by simp [(diagnostic_target listed).1], (diagnostic_target listed).2⟩
      · exact ⟨by simp [(diagnostic_target listed).1], (diagnostic_target listed).2⟩
      · exact ⟨by simp [(diagnostic_target listed).1], (diagnostic_target listed).2⟩
    · cases found; cases listed
  · cases found; cases listed

theorem refusal_kept {raw : Bytes} {credential : Text} {state : String} {metadata : List (String × Json)}
    (found : providerErrorMetadata host raw credential = .ok metadata) :
    ∀ item ∈ [("state", .str (text state)), ("contact_state", .str (text "RESPONSE_OBSERVED")),
      ("completion_state", .str (text "NOT_COMPLETED"))] ++ metadata, item.1 ≠ "dispatch_occurrence_id" := by
  intro item listed
  rcases List.mem_append.mp listed with listed | listed
  · simp only [List.mem_cons, List.not_mem_nil, or_false] at listed
    rcases listed with rfl | rfl | rfl <;> simp
  · have target := (providerErrorMetadata_spec found listed).1
    simp only [List.mem_cons, List.not_mem_nil, or_false] at target
    rcases target with target | target | target <;> simp [target]

/-- `choices[0]` of a list with exactly one dict. -/
def soleChoice : Json → Option Members
  | .arr [.obj choice] => some choice
  | _ => none

def malformed : Attempt Unit :=
  Attempt.assign [("state", .str (text "MALFORMED_RESPONSE_OUTCOME_UNKNOWN")),
    ("contact_state", .str (text "RESPONSE_OBSERVED"))] (by simp)

/-- A response that is not acceptable as the requested completion, for the named reason. -/
def unacceptable (state : String) : Attempt Unit :=
  Attempt.assign [("state", .str (text state)), ("contact_state", .str (text "RESPONSE_OBSERVED")),
    ("completion_state", .str (text "NOT_ACCEPTABLE_AS_REQUESTED_COMPLETION"))] (by simp)

def recordCost (usage : Members) : Attempt Bool := do
  match number (get usage "cost") with
  | some cost =>
    Attempt.assign [("cost", .obj (object [("amount", cost), ("currency", .str (text "NOT_OBSERVABLE")),
      ("source", .str (text "response.usage.cost"))])),
      ("cost_state", .str (text "OBSERVED_AMOUNT_CURRENCY_NOT_OBSERVABLE"))] (by simp)
    return false
  | none => return false

/-- The three token counts, when all of them are numbers. -/
def tokenCounts (usage : Members) : Option (Json × Json × Json) := do
  let prompt ← number (get usage "prompt_tokens")
  let completion ← number (get usage "completion_tokens")
  let total ← number (get usage "total_tokens")
  return (prompt, completion, total)

def overBound (request : Members) (counts : Json × Json × Json) : Bool :=
  isEnrolled request && (exceeds (int request "maximum_prompt_tokens") counts.1 ||
    exceeds (int request "maximum_completion_tokens") counts.2.1 ||
    exceeds (int request "maximum_total_tokens") counts.2.2)

def usageOf (counts : Json × Json × Json) : Json := .obj (object [
  ("prompt_tokens", counts.1), ("completion_tokens", counts.2.1), ("total_tokens", counts.2.2)])

/-- The token counts and the cost of a response. True when the counts exceed the enrolled limits. -/
def recordUsage (request : Members) : Json → Attempt Bool
  | .obj usage => match tokenCounts usage with
    | some counts => do
      Attempt.assign [("usage", usageOf counts), ("usage_state", .str (text "OBSERVED_RESPONSE_ATTRIBUTED"))] (by simp)
      if overBound request counts then
        unacceptable "TOKEN_USAGE_OVER_BOUND"
        return true
      else recordCost usage
    | none => recordCost usage
  | _ => pure false

def finishReason : Json → Except Raised Json
  | .str reason => match reason.encode? with
    | some raw => .ok (if raw.length > 256 then .null else .str reason)
    | none => .error (.other (className "UnicodeEncodeError"))
  | _ => .ok .null

/-- A response with exactly one choice and output within its bound. -/
def complete (request response choice : Members) (output : Text) : Attempt Unit := do
  let exceeded ← recordUsage request (get response "usage")
  if exceeded then return ()
  else
    let reason ← Effect.lift (finishReason (get choice "finish_reason"))
    Attempt.assign [("state", .str (text "PROVIDER_COMPLETED")), ("contact_state", .str (text "RESPONSE_OBSERVED")),
      ("completion_state", .str (text "COMPLETED")), ("worker_output", .str output), ("finish_reason", reason)] (by simp)

def reportedExecution (response : Members) : Json :=
  let model := get response "model"
  .obj (object [
    ("state", .str (text (if model.text?.isSome then "OBSERVED_RESPONSE_IDENTITY" else "PARTIALLY_OBSERVED"))),
    ("provider_id", .str (text "openrouter")),
    ("model_id", if model.text?.isSome then model else .null),
    ("upstream_provider_id", if (get response "provider").text?.isSome then get response "provider" else .null),
    ("account_id", .null)])

/-- `message.get("content") if isinstance(message, dict) else None`. -/
def choiceContent (choice : Members) : Json :=
  match get choice "message" with
  | .obj message => get message "content"
  | _ => .null

/-- A decoded response of status 200. -/
def observe (request response : Members) : Attempt Unit := do
  Attempt.assign [("reported_execution", reportedExecution response)] (by simp)
  if !equal (get response "model") (get request "model_id") then unacceptable "MODEL_IDENTITY_MISMATCH"
  else match soleChoice (get response "choices") with
    | none => malformed
    | some choice => match choiceContent choice with
      | .str output => match output.encode? with
        | none => Effect.raise (.other (className "UnicodeEncodeError"))
        | some raw =>
          if raw.length > int request "maximum_output_bytes" then unacceptable "OUTPUT_UNAVAILABLE_OR_OVER_BOUND"
          else complete request response choice output
      | _ => unacceptable "OUTPUT_UNAVAILABLE_OR_OVER_BOUND"

/-- Everything after the transport has answered. -/
def respond (host : Host) (request : Members) (credential : Text) (cancelledAfter : Except Raised Bool)
    (response : Response) : Attempt Unit :=
  match response with
  | ⟨.int status, some raw⟩ =>
    if raw.length > int request "maximum_response_bytes" then unacceptable "RESPONSE_OVER_BOUND"
    else do
      Attempt.assign [("http_status", .int status)] (by simp)
      let cancelled ← Effect.lift cancelledAfter
      if cancelled then
        Attempt.assign [("state", .str (text "CANCELLED_AFTER_CONTACT_OUTCOME_UNKNOWN")),
          ("completion_state", .str (text "NOT_OBSERVABLE"))] (by simp)
      else if status ≠ 200 then
        match found : providerErrorMetadata host raw credential with
        | .error raised => Effect.raise raised
        | .ok metadata =>
          Attempt.assign ([("state", .str (text (statusState status))), ("contact_state", .str (text "RESPONSE_OBSERVED")),
            ("completion_state", .str (text "NOT_COMPLETED"))] ++ metadata) (refusal_kept found)
      else match host.loads raw with
        | .ok (.obj members) => observe request members
        | .ok _ => malformed
        | .error (.malformed _ _) => malformed
        | .error (.duplicateKey _) => Effect.raise (.other (className "ValueError"))
        | .error (.other className) => Effect.raise (.other className)
  | _ => Effect.raise (.other (className "AdapterProtocolError"))

/-- What the handler of an exception assigns. Only the class of an unknown one is kept. -/
def excepted : Raised → Assignment
  | .responseOverBound => ⟨[("state", .str (text "RESPONSE_OVER_BOUND")), ("contact_state", .str (text "RESPONSE_OBSERVED")),
      ("completion_state", .str (text "NOT_ACCEPTABLE_AS_REQUESTED_COMPLETION"))], by simp⟩
  | .localCancellation => ⟨[("state", .str (text "CANCELLED_AFTER_CONTACT_OUTCOME_UNKNOWN")),
      ("completion_state", .str (text "NOT_OBSERVABLE"))], by simp⟩
  | .timeout => ⟨[("state", .str (text "LOCAL_TIMEOUT_OUTCOME_UNKNOWN")),
      ("completion_state", .str (text "NOT_OBSERVABLE"))], by simp⟩
  | .other className => ⟨[("state", .str (text "TRANSPORT_OUTCOME_UNKNOWN")),
      ("completion_state", .str (text "NOT_OBSERVABLE")), ("local_error_class", .str className.val)], by simp⟩

/-- The record of an attempt that returned or whose exception was handled. -/
def RunRecord.concluded (record : RunRecord) : Except Raised Unit × List Assignment → RunRecord
  | (.ok _, assignments) => record.assignAll assignments
  | (.error raised, assignments) => (record.assignAll assignments).assign (excepted raised)

@[simp] theorem RunRecord.concluded_dispatch (record : RunRecord) (outcome : Except Raised Unit × List Assignment) :
    (record.concluded outcome).dispatch = record.dispatch := by
  obtain ⟨outcome, assignments⟩ := outcome
  cases outcome <;> simp [concluded]

/-- The record once the transport has answered or raised. -/
def answered (host : Host) (request : Members) (credential : Text) (surroundings : Surroundings) (record : RunRecord) :
    RunRecord :=
  match surroundings.transport with
  | .error raised => record.assign (excepted raised)
  | .ok response => record.concluded (respond host request credential surroundings.cancelledAfter response [])

@[simp] theorem answered_dispatch (request : Members) (credential : Text) (surroundings : Surroundings) (record : RunRecord) :
    (answered host request credential surroundings record).dispatch = record.dispatch := by
  unfold answered
  cases surroundings.transport with
  | error raised => rfl
  | ok response => exact record.concluded_dispatch _

/-- The `try` statement of `run`. Its handlers catch every exception. -/
def attempt (host : Host) (submission : Submission host) (surroundings : Surroundings) (record : RunRecord) :
    Effect Store Failure RunRecord := fun store =>
  match prepare host submission surroundings [] with
  | (.ok none, assignments) => (.ok (record.assignAll assignments), store)
  | (.error raised, assignments) => (.ok ((record.assignAll assignments).assign (excepted raised)), store)
  | (.ok (some (_, credential)), assignments) =>
    let started := (record.assignAll assignments).assign contactStarted
    match Store.update host started store with
    | (.error failure, store) => (.ok (started.assign (excepted (Raised.of failure))), store)
    | (.ok _, store) => (.ok (answered host submission.request credential surroundings started), store)

def ended (now : Nanoseconds) : Assignment := ⟨[("ended_at_unix_ms", .int (unixMs now))], by simp⟩

/-- Neither an open contact nor an unknown outcome. -/
def closes (record : RunRecord) : Bool :=
  !is (get record.members "contact_state") "CONTACT_STARTED_OUTCOME_UNKNOWN" &&
    !((text "OUTCOME_UNKNOWN").isSuffixOf ((get record.members "state").text?.getD []))

/-- The `finally` clause of `run`. -/
def finish (host : Host) (now : Nanoseconds) (record : RunRecord) : Effect Store Failure RunRecord := do
  let record := record.assign (ended now)
  Store.update host record
  if closes record then Store.closeConcurrencySlot record
  return record

def run (host : Host) (submission : Submission host) (surroundings : Surroundings) (startedAt endedAt : Nanoseconds) :
    Effect Store Failure Json := do
  match ← Store.claim host submission startedAt with
  | .retained value => return value
  | .fresh record =>
    let record ← attempt host submission surroundings record
    let record ← finish host endedAt record
    return .obj record.members

/-- `run` from its first statement: what `validate` refuses does not reach the store. -/
def runRequest (host : Host) (request : Members) (admittedInput : Bytes) (ownerBinding : Members)
    (requestKeys : (request.map Prod.fst).Nodup) (bindingKeys : (ownerBinding.map Prod.fst).Nodup)
    (surroundings : Surroundings) (startedAt endedAt : Nanoseconds) : Effect Store Failure Json :=
  match accepted : validate host request admittedInput ownerBinding with
  | .ok () => run host ⟨request, admittedInput, ownerBinding, requestKeys, bindingKeys, accepted⟩ surroundings
      startedAt endedAt
  | .error failure => Effect.raise failure

theorem runRequest_accepted {host : Host} {request ownerBinding : Members} {admittedInput : Bytes}
    {requestKeys : (request.map Prod.fst).Nodup} {bindingKeys : (ownerBinding.map Prod.fst).Nodup}
    {surroundings : Surroundings} {startedAt endedAt : Nanoseconds}
    (accepted : validate host request admittedInput ownerBinding = .ok ()) :
    runRequest host request admittedInput ownerBinding requestKeys bindingKeys surroundings startedAt endedAt =
      run host ⟨request, admittedInput, ownerBinding, requestKeys, bindingKeys, accepted⟩ surroundings startedAt endedAt := by
  unfold runRequest
  split
  · rfl
  · next failure refused => cases accepted.symm.trans refused

theorem runRequest_refused {host : Host} {request ownerBinding : Members} {admittedInput : Bytes}
    {requestKeys : (request.map Prod.fst).Nodup} {bindingKeys : (ownerBinding.map Prod.fst).Nodup}
    {surroundings : Surroundings} {startedAt endedAt : Nanoseconds} {failure : Failure}
    (refused : validate host request admittedInput ownerBinding = .error failure) :
    runRequest host request admittedInput ownerBinding requestKeys bindingKeys surroundings startedAt endedAt =
      Effect.raise failure := by
  unfold runRequest
  split
  · next accepted => cases accepted.symm.trans refused
  · next other refusal =>
    cases refused.symm.trans refusal
    rfl

/-- Whatever happens, the program only adds assignments that are allowed. -/
def Attempt.Assigns {α : Type} (allowed : Assignment → Prop) (program : Attempt α) : Prop :=
  ∀ start, ∃ new, (program start).2 = start ++ new ∧ ∀ assignment ∈ new, allowed assignment

namespace Attempt

variable {α β : Type} {allowed : Assignment → Prop} {program : Attempt α} {next : α → Attempt β}

theorem Assigns.nothing (same : ∀ start, (program start).2 = start) : Assigns allowed program := fun _ =>
  ⟨[], by simp [same], fun _ listed => absurd listed List.not_mem_nil⟩

theorem assigns_lift (outcome : Except Raised α) : Assigns allowed (Effect.lift outcome : Attempt α) :=
  .nothing fun _ => by cases outcome <;> rfl

theorem assigns_assign {items : List (String × Json)} {kept : ∀ item ∈ items, item.1 ≠ "dispatch_occurrence_id"}
    (good : allowed ⟨items, kept⟩) : Assigns allowed (Attempt.assign items kept) := fun _ =>
  ⟨[⟨items, kept⟩], rfl, fun _ listed => List.mem_singleton.mp listed ▸ good⟩

theorem Assigns.bind (first : Assigns allowed program) (rest : ∀ value, Assigns allowed (next value)) :
    Assigns allowed (program >>= next) := fun start => by
  obtain ⟨new, grown, each⟩ := first start
  rw [Effect.bind_apply]
  cases done : program start with
  | mk outcome after =>
    obtain rfl : after = start ++ new := by rw [← grown, done]
    cases outcome with
    | error raised => exact ⟨new, rfl, each⟩
    | ok value =>
      obtain ⟨more, further, others⟩ := rest value (start ++ new)
      refine ⟨new ++ more, by simp only [further, List.append_assoc], fun assignment listed => ?_⟩
      exact (List.mem_append.mp listed).elim (each assignment) (others assignment)

end Attempt

/-- A run that is not cancelled and whose transport answers 200 with these bytes. -/
def sampleSurroundings (raw : Bytes) : Surroundings :=
  ⟨.ok false, .ok (some (text "k")), [], .ok ⟨.int 200, some raw⟩, .ok false⟩

def sampleAnswer : Bytes := ascii ("\x7b\"model\":\"m1\",\"choices\":[\x7b\"message\":\x7b\"content\":\"ok\"\x7d\x7d]," ++
  "\"usage\":\x7b\"prompt_tokens\":3,\"completion_tokens\":1,\"total_tokens\":4\x7d\x7d")

end Switchyard.DirectApi
