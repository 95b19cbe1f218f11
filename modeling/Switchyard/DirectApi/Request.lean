import Switchyard.Library.Effect
import Switchyard.Rfc8785

/-! Admission of one direct API request: the closed request and owner binding
that `validate` accepts, and what an accepted enrolled request guarantees. -/

namespace Switchyard.DirectApi
open Library Json

/-- AdapterProtocolError with its text, or another exception with its class name. -/
inductive Failure
  | protocol (message : Text)
  | other (className : ClassName)
deriving DecidableEq

def require (holds : Bool) (message : String) : Except Failure Unit :=
  if holds then .ok () else .error (.protocol (text message))

@[simp] theorem require_ok {holds : Bool} {message : String} : require holds message = .ok () ↔ holds = true := by
  cases holds <;> simp [require]

def typeError : Failure := .other (className "TypeError")

def unicodeEncodeError : Failure := .other (className "UnicodeEncodeError")

/-- Set membership hashes its left side. -/
def requireHashable (value : Json) : Except Failure Unit :=
  if value.hashable then .ok () else .error typeError

/-- The checks under an `if` without `else`. -/
def optionally (condition : Bool) (checks : Except Failure Unit) : Except Failure Unit :=
  if condition then checks else .ok ()

theorem optionally_ok {condition : Bool} {checks : Except Failure Unit} :
    optionally condition checks = .ok () ↔ (condition = true → checks = .ok ()) := by
  cases condition <;> simp [optionally]

/-- `_canonical`: the adapter's own error for everything but a surrogate in an object key. -/
def canonical (host : Host) (value : Json) : Except Failure Bytes :=
  match Rfc8785.dumps host value with
  | .ok raw => .ok raw
  | .error .unicodeEncode => .error unicodeEncodeError
  | .error failure => .error (.protocol (text "value is outside RFC8785-JCS: " ++ failure.message))

theorem canonical_ok {host : Host} {value : Json} {raw : Bytes} :
    canonical host value = .ok raw ↔ Rfc8785.dumps host value = .ok raw := by
  unfold canonical
  split <;> simp_all

theorem canonical_accepted {host : Host} {value : Json} :
    (∃ raw, canonical host value = .ok raw) ↔ Rfc8785.Canonical value := by
  simp only [canonical_ok]
  exact Rfc8785.dumps_accepted host value

theorem bind_unit {α : Type} {first : Except Failure Unit} {next : Unit → Except Failure α} {value : α} :
    (first >>= next) = .ok value ↔ first = .ok () ∧ next () = .ok value := by
  cases first <;> simp [bind, Except.bind]

def PROTOCOL : String := "switchyard.openrouter-chat-completions/v1"
def ENDPOINT : String := "https://openrouter.ai/api/v1/chat/completions"
def REQUEST_DOMAIN : Bytes := ascii "switchyard.direct-api-request.digest/v1" ++ [0]
def BINDING_DOMAIN : Bytes := ascii "switchyard.direct-api-owner-binding.digest/v1" ++ [0]

def REQUEST_FIELDS : List String :=
  ["schema", "request_digest", "request_id", "work_attempt_id", "dispatch_occurrence_id", "admitted_input_sha256",
    "provider_id", "model_id", "account_id", "credential_source", "adapter_protocol", "endpoint", "timeout_seconds",
    "maximum_input_bytes", "maximum_response_bytes", "maximum_output_bytes", "internal_provider_retry_count",
    "semantic_retry", "allow_provider_model_fallback", "authority_effect"]

def REQUEST_V2_FIELDS : List String := REQUEST_FIELDS ++
  ["maximum_prompt_tokens", "maximum_completion_tokens", "maximum_total_tokens", "maximum_concurrent_requests",
    "spend_budget_id", "spend_budget_micros", "reserved_spend_micros", "prompt_token_price_micros",
    "completion_token_price_micros"]

def REQUEST_V3_FIELDS : List String := REQUEST_V2_FIELDS ++ ["response_format"]

/-- The binding members that repeat the request. -/
def PROJECTED_FIELDS : List String :=
  ["request_digest", "request_id", "work_attempt_id", "dispatch_occurrence_id", "admitted_input_sha256",
    "provider_id", "model_id", "account_id", "credential_source", "adapter_protocol", "endpoint", "authority_effect"]

def BINDING_FIELDS : List String := ["schema", "binding_digest"] ++ PROJECTED_FIELDS

def BINDING_V2_FIELDS : List String := BINDING_FIELDS ++
  ["owner_id", "owner_profile_id", "proposal_request_id", "proposal_request_digest"]

def identifierPoint (point : CodePoint) : Bool :=
  (48 ≤ point.val && point.val ≤ 57) || (65 ≤ point.val && point.val ≤ 90) || (97 ≤ point.val && point.val ≤ 122) ||
    [46, 95, 58, 47, 45].contains point.val

/-- `IDENTIFIER.fullmatch`. -/
def identifier (value : Text) : Bool :=
  1 ≤ value.length && value.length ≤ 512 && value.all identifierPoint

/-- `DIGEST.fullmatch`. -/
def digestText (value : Text) : Bool :=
  value.length == 71 && (text "sha256:").isPrefixOf value &&
    (value.drop 7).all fun point => (48 ≤ point.val && point.val ≤ 57) || (97 ≤ point.val && point.val ≤ 102)

def isIdentifier : Json → Bool
  | .str value => identifier value
  | _ => false

def isDigest : Json → Bool
  | .str value => digestText value
  | _ => false

/-- `isinstance(value, int) and not isinstance(value, bool) and low <= value <= high`. -/
def isBetween (low high : Int) : Json → Bool
  | .int value => low ≤ value && value ≤ high
  | _ => false

/-- A dict holds a string under this key. -/
def HasText (members : Members) (key : String) : Prop := ∃ content, get members key = .str content

theorem hasText_of_identifier {members : Members} {key : String} (valid : isIdentifier (get members key) = true) :
    HasText members key := by
  unfold HasText
  cases found : get members key with
  | str content => exact ⟨content, rfl⟩
  | null | bool _ | int _ | float _ | arr _ | obj _ =>
    rw [found] at valid
    cases valid

theorem hasText_of_digest {members : Members} {key : String} (valid : isDigest (get members key) = true) :
    HasText members key := by
  unfold HasText
  cases found : get members key with
  | str content => exact ⟨content, rfl⟩
  | null | bool _ | int _ | float _ | arr _ | obj _ =>
    rw [found] at valid
    cases valid

/-- The number under a key that `validate` has checked to be an `int`. -/
def int (members : Members) (key : String) : Int :=
  match get members key with
  | .int value => value
  | _ => 0

theorem int_of_isBetween {members : Members} {key : String} {low high : Int}
    (between : isBetween low high (get members key) = true) :
    get members key = .int (int members key) ∧ low ≤ int members key ∧ int members key ≤ high := by
  unfold int
  cases found : get members key with
  | int value =>
    rw [found] at between
    simpa [isBetween] using between
  | null | bool _ | float _ | str _ | arr _ | obj _ =>
    rw [found] at between
    cases between

/-- `_bounded_json` on a string, which is also how an object key is checked. -/
def boundedString (depth budget : Nat) (value : Text) : Except Failure Nat := do
  require (0 < budget && depth ≤ 32) "v3 response JSON Schema exceeds structural bound"
  match value.encode? with
  | none => throw unicodeEncodeError
  | some raw =>
    require (raw.length ≤ 16 * 1024) "v3 response JSON Schema string exceeds bound"
    return budget - 1

mutual
/-- `_bounded_json`, returning what is left of the shared node budget. -/
def boundedJson (depth budget : Nat) : Json → Except Failure Nat
  | .null | .bool _ | .int _ => do
    require (0 < budget && depth ≤ 32) "v3 response JSON Schema exceeds structural bound"
    return budget - 1
  | .str value => boundedString depth budget value
  | .arr items => do
    require (0 < budget && depth ≤ 32) "v3 response JSON Schema exceeds structural bound"
    boundedItems (depth + 1) (budget - 1) items
  | .obj members => do
    require (0 < budget && depth ≤ 32) "v3 response JSON Schema exceeds structural bound"
    boundedMembers (depth + 1) (budget - 1) members
  | .float _ => do
    require (0 < budget && depth ≤ 32) "v3 response JSON Schema exceeds structural bound"
    throw (.protocol (text "v3 response JSON Schema contains an unsupported JSON value"))

def boundedItems (depth budget : Nat) : List Json → Except Failure Nat
  | [] => .ok budget
  | item :: rest => do
    let left ← boundedJson depth budget item
    boundedItems depth left rest

def boundedMembers (depth budget : Nat) : Members → Except Failure Nat
  | [] => .ok budget
  | (key, item) :: rest => do
    let left ← boundedString depth budget key
    let left ← boundedJson depth left item
    boundedMembers depth left rest
end

def isV2 (request : Members) : Bool := is (get request "schema") "switchyard.direct-api-request/v2"

def isV3 (request : Members) : Bool := is (get request "schema") "switchyard.direct-api-request/v3"

/-- `request["schema"] in {".../v2", ".../v3"}`. -/
def isEnrolled (request : Members) : Bool := isV2 request || isV3 request

/-- The first checks of `validate`: closed fields, identities, selection and bounds of any version. -/
def validateRequest (host : Host) (request : Members) (admittedInput : Bytes) : Except Failure Unit := do
  let schema := get request "schema"
  requireHashable schema
  require (closed request (if isV3 request then REQUEST_V3_FIELDS else if isEnrolled request then REQUEST_V2_FIELDS
      else REQUEST_FIELDS) && (is schema "switchyard.direct-api-request/v1" || isEnrolled request))
    "closed direct API request fields do not match"
  require (isIdentifier (get request "request_id")) "invalid request_id"
  require (isIdentifier (get request "work_attempt_id")) "invalid work_attempt_id"
  require (isIdentifier (get request "dispatch_occurrence_id")) "invalid dispatch_occurrence_id"
  require (isIdentifier (get request "provider_id")) "invalid provider_id"
  require (isIdentifier (get request "model_id")) "invalid model_id"
  require (isIdentifier (get request "account_id")) "invalid account_id"
  require (!equal (get request "request_id") (get request "work_attempt_id") &&
      !equal (get request "request_id") (get request "dispatch_occurrence_id") &&
      !equal (get request "work_attempt_id") (get request "dispatch_occurrence_id"))
    "request, attempt, and dispatch identities must be distinct"
  require (isDigest (get request "admitted_input_sha256")) "invalid admitted input digest"
  require (equal (get request "admitted_input_sha256") (.str (host.digest admittedInput)))
    "admitted input differs from owner-bound bytes"
  require (is (get request "provider_id") "openrouter" && is (get request "adapter_protocol") PROTOCOL &&
      is (get request "endpoint") ENDPOINT)
    "direct API selection or effect boundary differs"
  requireHashable (get request "credential_source")
  require ((is (get request "credential_source") "environment:OPENROUTER_API_KEY" ||
        isEnrolled request && is (get request "credential_source") "maude-dedicated-config:OPENROUTER_API_KEY") &&
      equal (get request "internal_provider_retry_count") (.int 0) &&
      (get request "semantic_retry" matches .bool false) &&
      (get request "allow_provider_model_fallback" matches .bool false) &&
      is (get request "authority_effect") "LOCAL_AGENT_COMPUTE_SCHEDULING_ONLY")
    "direct API selection or effect boundary differs"
  require (isBetween 1 300 (get request "timeout_seconds")) "invalid timeout_seconds"
  require (isBetween 1 (1024 * 1024) (get request "maximum_input_bytes")) "invalid maximum_input_bytes"
  require (isBetween 1024 (16 * 1024 * 1024) (get request "maximum_response_bytes")) "invalid maximum_response_bytes"
  require (isBetween 1 (16 * 1024 * 1024) (get request "maximum_output_bytes")) "invalid maximum_output_bytes"
  require (admittedInput.length ≤ int request "maximum_input_bytes") "admitted input exceeds owner-bound limit"
  require (Text.decode? admittedInput).isSome "admitted input is not UTF-8"
  let basis ← canonical host (.obj (request.filter fun member => member.1 != text "request_digest"))
  require (equal (get request "request_digest") (.str (host.digest (REQUEST_DOMAIN ++ basis))))
    "direct API request digest mismatch"

/-- The enrolled limits of versions 2 and 3, with the reservation equation. -/
def validateEnrolled (request : Members) : Except Failure Unit := do
  require (isBetween 1 2000000 (get request "maximum_prompt_tokens")) "invalid maximum_prompt_tokens"
  require (isBetween 1 2000000 (get request "maximum_completion_tokens")) "invalid maximum_completion_tokens"
  require (isBetween 1 2000000 (get request "maximum_total_tokens")) "invalid maximum_total_tokens"
  require (int request "maximum_prompt_tokens" + int request "maximum_completion_tokens" ≤
    int request "maximum_total_tokens") "prompt and completion token limits exceed total token limit"
  require (int request "maximum_input_bytes" + 512 ≤ int request "maximum_prompt_tokens")
    "input byte limit exceeds conservative prompt token limit"
  require (isBetween 1 64 (get request "maximum_concurrent_requests")) "invalid maximum_concurrent_requests"
  require (isIdentifier (get request "spend_budget_id")) "invalid spend_budget_id"
  require (isBetween 1 (10 ^ 12) (get request "spend_budget_micros")) "invalid spend_budget_micros"
  require (isBetween 1 (10 ^ 12) (get request "reserved_spend_micros")) "invalid reserved_spend_micros"
  require (isBetween 1 (10 ^ 12) (get request "prompt_token_price_micros")) "invalid prompt_token_price_micros"
  require (isBetween 1 (10 ^ 12) (get request "completion_token_price_micros")) "invalid completion_token_price_micros"
  require (int request "reserved_spend_micros" ≤ int request "spend_budget_micros")
    "reserved spend exceeds enrolled budget"
  require (int request "reserved_spend_micros" ==
      int request "maximum_prompt_tokens" * int request "prompt_token_price_micros" +
        int request "maximum_completion_tokens" * int request "completion_token_price_micros")
    "reserved spend is not the fixed-price token envelope"

/-- The closed JSON Schema request of version 3. -/
def validateResponseFormat (host : Host) (request : Members) (admittedInput : Bytes) : Except Failure Unit := do
  let responseFormat := get request "response_format"
  discard (boundedJson 0 4096 responseFormat)
  let closedFormat : Bool := match responseFormat with
    | .obj members => closed members ["type", "json_schema"] && is (get members "type") "json_schema"
    | _ => false
  require closedFormat "v3 response format must be a closed JSON Schema request"
  let message := "v3 response JSON Schema is invalid or over bound"
  match get (responseFormat.members?.getD []) "json_schema" with
  | .obj specification => do
    require (closed specification ["name", "strict", "schema"]) message
    match get specification "name" with
    | .str name =>
      match name.encode? with
      | none => throw unicodeEncodeError
      | some raw => require (!name.isEmpty && raw.length ≤ 128) message
    | _ => require false message
    require (get specification "strict" matches .bool true) message
    require (get specification "schema").members?.isSome message
  | _ => require false message
  let raw ← canonical host responseFormat
  require (raw.length ≤ 64 * 1024) message
  require (admittedInput.length + raw.length + 512 ≤ int request "maximum_prompt_tokens")
    "v3 admitted input and response format exceed conservative prompt limit"

/-- The owner binding repeats the request and seals it under its own digest. -/
def validateBinding (host : Host) (request ownerBinding : Members) : Except Failure Unit := do
  require (closed ownerBinding (if isEnrolled request then BINDING_V2_FIELDS else BINDING_FIELDS) &&
      is (get ownerBinding "schema") (if isV3 request then "switchyard.direct-api-owner-binding/v3"
        else if isEnrolled request then "switchyard.direct-api-owner-binding/v2"
        else "switchyard.direct-api-owner-binding/v1"))
    "closed owner binding fields do not match"
  require (PROJECTED_FIELDS.all fun key => equal (get ownerBinding key) (get request key))
    "owner binding differs from exact request"
  let basis ← canonical host (.obj (ownerBinding.filter fun member => member.1 != text "binding_digest"))
  require (equal (get ownerBinding "binding_digest") (.str (host.digest (BINDING_DOMAIN ++ basis))))
    "owner binding digest mismatch"
  optionally (isEnrolled request) do
    require (isIdentifier (get ownerBinding "owner_id")) "invalid owner_id"
    require (isIdentifier (get ownerBinding "owner_profile_id")) "invalid owner_profile_id"
    require (isIdentifier (get ownerBinding "proposal_request_id")) "invalid proposal_request_id"
    require (isDigest (get ownerBinding "proposal_request_digest")) "invalid proposal request digest"

def validate (host : Host) (request : Members) (admittedInput : Bytes) (ownerBinding : Members) :
    Except Failure Unit := do
  validateRequest host request admittedInput
  optionally (isEnrolled request) (validateEnrolled request)
  optionally (isV3 request) (validateResponseFormat host request admittedInput)
  validateBinding host request ownerBinding

/-- The pinned part of an enrolled request: its limits and its price card. -/
structure LedgerConfig where
  maximumConcurrentRequests : Int
  spendBudgetMicros : Int
  promptTokenPriceMicros : Int
  completionTokenPriceMicros : Int
deriving DecidableEq

def ledgerConfig (request : Members) : LedgerConfig :=
  ⟨int request "maximum_concurrent_requests", int request "spend_budget_micros",
    int request "prompt_token_price_micros", int request "completion_token_price_micros"⟩

/-- What admission guarantees about the spend of an enrolled request. -/
structure Enrolled (request : Members) : Prop where
  budgetId : HasText request "spend_budget_id"
  tokens : ∀ key ∈ ["maximum_prompt_tokens", "maximum_completion_tokens", "maximum_total_tokens"],
    get request key = .int (int request key)
  concurrency : get request "maximum_concurrent_requests" = .int (ledgerConfig request).maximumConcurrentRequests
  budget : get request "spend_budget_micros" = .int (ledgerConfig request).spendBudgetMicros
  promptPrice : get request "prompt_token_price_micros" = .int (ledgerConfig request).promptTokenPriceMicros
  completionPrice : get request "completion_token_price_micros" = .int (ledgerConfig request).completionTokenPriceMicros
  promptPositive : 1 ≤ (ledgerConfig request).promptTokenPriceMicros
  completionPositive : 1 ≤ (ledgerConfig request).completionTokenPriceMicros
  reserved : get request "reserved_spend_micros" = .int (int request "reserved_spend_micros")
  reservedPositive : 1 ≤ int request "reserved_spend_micros"
  envelope : int request "reserved_spend_micros" =
    int request "maximum_prompt_tokens" * (ledgerConfig request).promptTokenPriceMicros +
      int request "maximum_completion_tokens" * (ledgerConfig request).completionTokenPriceMicros

theorem validateEnrolled_spec {request : Members} (accepted : validateEnrolled request = .ok ()) : Enrolled request := by
  simp only [validateEnrolled, bind_unit, require_ok, decide_eq_true_eq, beq_iff_eq] at accepted
  obtain ⟨promptTokens, completionTokens, totalTokens, -, -, concurrency, identity, budget, reserved, prompt, completion, -,
    envelope⟩ := accepted
  have tokens : ∀ key ∈ ["maximum_prompt_tokens", "maximum_completion_tokens", "maximum_total_tokens"],
      get request key = .int (int request key) := by
    simp only [List.forall_mem_cons, List.not_mem_nil, false_implies, implies_true, and_true]
    exact ⟨(int_of_isBetween promptTokens).1, (int_of_isBetween completionTokens).1, (int_of_isBetween totalTokens).1⟩
  exact ⟨hasText_of_identifier identity, tokens, (int_of_isBetween concurrency).1, (int_of_isBetween budget).1, (int_of_isBetween prompt).1,
    (int_of_isBetween completion).1, (int_of_isBetween prompt).2.1, (int_of_isBetween completion).2.1,
    (int_of_isBetween reserved).1, (int_of_isBetween reserved).2.1, envelope⟩

/-- What admission guarantees about a request and its binding, beyond their closed fields. -/
structure Admitted (host : Host) (request : Members) (admittedInput : Bytes) (ownerBinding : Members) : Prop where
  requestCanonical : Rfc8785.Canonical (.obj request)
  bindingCanonical : Rfc8785.Canonical (.obj ownerBinding)
  dispatch : isIdentifier (get request "dispatch_occurrence_id") = true
  model : isIdentifier (get request "model_id") = true
  decoded : (Text.decode? admittedInput).isSome
  texts : ∀ key ∈ ["request_id", "work_attempt_id", "dispatch_occurrence_id", "request_digest",
    "admitted_input_sha256", "model_id", "endpoint", "account_id", "credential_source"], HasText request key
  bindingDigest : HasText ownerBinding "binding_digest"
  enrolled : isEnrolled request = true → Enrolled request
  owner : isEnrolled request = true →
    ∀ key ∈ ["owner_id", "owner_profile_id", "proposal_request_id", "proposal_request_digest"], HasText ownerBinding key

/-- A basis without its digest is canonical, and the digest itself is ASCII. -/
private theorem sealed_canonical {host : Host} {members : Members} {key : String} {raw basis : Bytes}
    (distinct : (members.map Prod.fst).Nodup)
    (canonical : Rfc8785.dumps host (.obj (members.filter fun member => member.1 != text key)) = .ok basis)
    (sealing : get members key = .str (host.digest raw)) : Rfc8785.Canonical (.obj members) := by
  have each := Rfc8785.canonicalMembers_iff.mp ((Rfc8785.dumps_accepted host _).mp ⟨basis, canonical⟩)
  refine Rfc8785.canonicalMembers_iff.mpr fun member inside => ?_
  by_cases same : member.1 = text key
  · have found := lookup_of_mem distinct inside
    rw [same] at found
    have value : member.2 = .str (host.digest raw) := by simpa [Json.get, found] using sealing
    rw [same, value]
    exact ⟨Text.scalar_text key, host.scalar_digest raw⟩
  · exact each member (List.mem_filter.mpr ⟨inside, by simpa using same⟩)

theorem validate_spec {host : Host} {request ownerBinding : Members} {admittedInput : Bytes}
    (requestKeys : (request.map Prod.fst).Nodup) (bindingKeys : (ownerBinding.map Prod.fst).Nodup)
    (accepted : validate host request admittedInput ownerBinding = .ok ()) :
    Admitted host request admittedInput ownerBinding := by
  simp only [validate, bind_unit, optionally_ok] at accepted
  obtain ⟨first, limits, -, last⟩ := accepted
  simp only [validateRequest, bind_unit, require_ok] at first
  obtain ⟨-, -, requestId, attempt, dispatch, -, model, account, -, -, input, place, -, credential, -, -, -, -, -, decoded,
    first⟩ := first
  obtain ⟨basis, canonical, sealing⟩ := bind_ok.mp first
  simp only [validateBinding, bind_unit] at last
  obtain ⟨-, -, last⟩ := last
  obtain ⟨bindingBasis, bindingCanonical, last⟩ := bind_ok.mp last
  simp only [require_ok, equal_text] at sealing
  simp only [bind_unit, require_ok, equal_text, optionally_ok] at last
  obtain ⟨bindingSealing, owner⟩ := last
  simp only [Bool.and_eq_true, Bool.or_eq_true, is_iff] at place credential
  simp only [equal_text] at input
  exact {
    requestCanonical := sealed_canonical requestKeys (canonical_ok.mp canonical) sealing
    bindingCanonical := sealed_canonical bindingKeys (canonical_ok.mp bindingCanonical) bindingSealing
    dispatch
    model
    decoded
    texts := by
      simp only [List.forall_mem_cons, List.not_mem_nil, false_implies, implies_true, and_true]
      refine ⟨hasText_of_identifier requestId, hasText_of_identifier attempt, hasText_of_identifier dispatch,
        ⟨_, sealing⟩, ⟨_, input⟩, hasText_of_identifier model, ⟨_, place.2⟩, hasText_of_identifier account, ?_⟩
      rcases credential.1.1.1.1 with source | source
      · exact ⟨_, source⟩
      · exact ⟨_, source.2⟩
    bindingDigest := ⟨_, bindingSealing⟩
    enrolled := fun v2 => validateEnrolled_spec (limits v2)
    owner := fun v2 => by
      have checks := owner v2
      simp only [List.forall_mem_cons, List.not_mem_nil, false_implies, implies_true, and_true]
      exact ⟨hasText_of_identifier checks.1, hasText_of_identifier checks.2.1, hasText_of_identifier checks.2.2.1,
        hasText_of_digest checks.2.2.2⟩
  }

/-- What a caller hands to a run: two dicts and the input, as `validate` accepts them. -/
structure Submission (host : Host) where
  request : Members
  admittedInput : Bytes
  ownerBinding : Members
  requestKeys : (request.map Prod.fst).Nodup
  bindingKeys : (ownerBinding.map Prod.fst).Nodup
  accepted : validate host request admittedInput ownerBinding = .ok ()

namespace Submission

variable {host : Host} (submission : Submission host)

theorem admitted : Admitted host submission.request submission.admittedInput submission.ownerBinding :=
  validate_spec submission.requestKeys submission.bindingKeys submission.accepted

/-- `request["dispatch_occurrence_id"]`, a string once validated. -/
def dispatch : Text := ((get submission.request "dispatch_occurrence_id").text?).getD []

theorem get_dispatch : get submission.request "dispatch_occurrence_id" = .str submission.dispatch := by
  have identity := submission.admitted.dispatch
  unfold dispatch
  cases found : get submission.request "dispatch_occurrence_id" with
  | str value => rfl
  | null | bool _ | int _ | float _ | arr _ | obj _ =>
    rw [found] at identity
    cases identity

end Submission

def sampleBody : Members := object [
  ("model", .str (text "m1")),
  ("messages", .arr [.obj (object [("role", .str (text "user")), ("content", .str (text "hi"))])]),
  ("provider", .obj (object [("allow_fallbacks", .bool false)])), ("stream", .bool false)]

def sampleResponse : Members := object [
  ("model", .str (text "m1")),
  ("choices", .arr [.obj (object [("message", .obj (object [("content", .str (text "ok"))]))])]),
  ("usage", .obj (object [("prompt_tokens", .int 3), ("completion_tokens", .int 1), ("total_tokens", .int 4)]))]

/-- The provider reports a cost that is not a number. -/
def sampleNanResponse : Members := object [
  ("model", .str (text "m1")), ("choices", .arr [.obj (object [("message", .obj (object [("content", .str (text "ok"))]))])]),
  ("usage", .obj (object [("cost", .float .nan)]))]

def sampleRecord : Members := object [
  ("schema", .str (text "switchyard.direct-api-run/v1")), ("request_id", .str (text "r1")),
  ("work_attempt_id", .str (text "w1")), ("dispatch_occurrence_id", .str (text "d1")),
  ("request_digest", .str (text "sha256:d95f3fa0f8b242f814692c93b26564a3368372697b59b8f9c9a3d99026d6f477")),
  ("admitted_input_sha256", .str (text "sha256:8f434346648f6b96df89dda901c5176b10a6d83961dd3c1ac88b59b2dc327aa4")),
  ("owner_binding_digest", .str (text "sha256:7857c899a2bce805ac09ddaa7f6607932baa026d0aa82cbca8a332a781eaac5e")),
  ("requested_execution", .obj (object [("provider_id", .str (text "openrouter")), ("model_id", .str (text "m1")), ("endpoint", .str (text "https://openrouter.ai/api/v1/chat/completions")), ("account_id", .str (text "a1"))])),
  ("reported_execution", .obj (object [("state", .str (text "OBSERVED_RESPONSE_IDENTITY")), ("provider_id", .str (text "openrouter")), ("model_id", .str (text "m1")), ("upstream_provider_id", .null), ("account_id", .null)])),
  ("enrolled_endpoint", .str (text "https://openrouter.ai/api/v1/chat/completions")),
  ("enrolled_account_id", .str (text "a1")), ("credential_source", .str (text "environment:OPENROUTER_API_KEY")),
  ("state", .str (text "PROVIDER_COMPLETED")), ("contact_state", .str (text "RESPONSE_OBSERVED")),
  ("completion_state", .str (text "COMPLETED")), ("acceptance_state", .str (text "NOT_EVALUATED_BY_SWITCHYARD")),
  ("usage", .obj (object [("prompt_tokens", .int 3), ("completion_tokens", .int 1), ("total_tokens", .int 4)])),
  ("usage_state", .str (text "OBSERVED_RESPONSE_ATTRIBUTED")), ("cost", .null),
  ("cost_state", .str (text "NOT_OBSERVABLE")), ("worker_output", .str (text "ok")), ("finish_reason", .null),
  ("internal_provider_retry_count", .int 0), ("semantic_retry", .bool false),
  ("provider_or_model_substitution_allowed", .bool false),
  ("authority_effect", .str (text "LOCAL_AGENT_COMPUTE_SCHEDULING_ONLY")), ("started_at_unix_ms", .int 0),
  ("operator_note", .str (text "claim precedes contact; duplicate dispatches inspect retained state and never regenerate")),
  ("token_limits", .obj (object [("maximum_prompt_tokens", .int 600), ("maximum_completion_tokens", .int 100), ("maximum_total_tokens", .int 700)])),
  ("enrolled_owner", .obj (object [("owner_id", .str (text "o1")), ("owner_profile_id", .str (text "p1")), ("proposal_request_id", .str (text "q1")), ("proposal_request_digest", .str (text "sha256:e3b0c44298fc1c149afbf4c8996fb92427ae41e4649b934ca495991b7852b855"))])),
  ("spend_reservation", .obj (object [("budget_id", .str (text "b1")), ("reservation_scope", .str (text "sha256:cf04130765f9440a970c066379e4d6c47ad54955b24e0be27e4942c88fabc07e")), ("budget_micros", .int 2000), ("reserved_micros", .int 800), ("state", .str (text "RESERVED"))])),
  ("http_status", .int 200), ("ended_at_unix_ms", .int 0)]

/-- A host that knows the digests and the documents of one request. -/
def sampleHost : Host where
  sha256 raw := match raw.length with
    | 2 => ⟨[143, 67, 67, 70, 100, 143, 107, 150, 223, 137, 221, 169, 1, 197, 23, 107,
        16, 166, 216, 57, 97, 221, 60, 26, 200, 139, 89, 178, 220, 50, 122, 164], rfl⟩
    | 1006 => ⟨[217, 95, 63, 160, 248, 178, 66, 248, 20, 105, 44, 147, 178, 101, 100, 163,
        54, 131, 114, 105, 123, 89, 184, 249, 201, 163, 217, 144, 38, 214, 244, 119], rfl⟩
    | 817 => ⟨[120, 87, 200, 153, 162, 188, 232, 5, 172, 9, 221, 170, 127, 102, 7, 147,
        43, 170, 2, 109, 10, 168, 44, 188, 168, 163, 50, 167, 129, 234, 172, 94], rfl⟩
    | 52 => ⟨[207, 4, 19, 7, 101, 249, 68, 10, 151, 12, 6, 99, 121, 228, 214, 196,
        122, 213, 73, 85, 178, 78, 11, 226, 126, 73, 66, 200, 143, 171, 192, 126], rfl⟩
    | _ => ⟨[227, 176, 196, 66, 152, 252, 28, 20, 154, 251, 244, 200, 153, 111, 185, 36,
        39, 174, 65, 228, 100, 155, 147, 76, 164, 149, 153, 27, 120, 82, 184, 85], by decide⟩
  loads raw := match raw.length with
    | 110 => .ok (.obj sampleBody)
    | 122 => .ok (.obj sampleResponse)
    | 76 => .ok (.obj sampleNanResponse)
    | 1995 => .ok (.obj sampleRecord)
    | _ => .error (.malformed (className "JSONDecodeError") (text "Expecting value: line 1 column 1 (char 0)"))
  loadsUnique _ := .error (.malformed (className "JSONDecodeError") (text "Expecting value: line 1 column 1 (char 0)"))
  loadsUniqueText _ := .error (.malformed (className "JSONDecodeError") (text "Expecting value: line 1 column 1 (char 0)"))
  floatText _ := ascii "0.5"
  copies _ := true

def sampleRequest : Members := object [
  ("schema", .str (text "switchyard.direct-api-request/v2")), ("request_id", .str (text "r1")),
  ("work_attempt_id", .str (text "w1")), ("dispatch_occurrence_id", .str (text "d1")),
  ("admitted_input_sha256", .str (text "sha256:8f434346648f6b96df89dda901c5176b10a6d83961dd3c1ac88b59b2dc327aa4")),
  ("provider_id", .str (text "openrouter")), ("model_id", .str (text "m1")), ("account_id", .str (text "a1")),
  ("credential_source", .str (text "environment:OPENROUTER_API_KEY")),
  ("adapter_protocol", .str (text "switchyard.openrouter-chat-completions/v1")),
  ("endpoint", .str (text "https://openrouter.ai/api/v1/chat/completions")), ("timeout_seconds", .int 60),
  ("maximum_input_bytes", .int 8), ("maximum_response_bytes", .int 4096), ("maximum_output_bytes", .int 1024),
  ("internal_provider_retry_count", .int 0), ("semantic_retry", .bool false),
  ("allow_provider_model_fallback", .bool false),
  ("authority_effect", .str (text "LOCAL_AGENT_COMPUTE_SCHEDULING_ONLY")), ("maximum_prompt_tokens", .int 600),
  ("maximum_completion_tokens", .int 100), ("maximum_total_tokens", .int 700),
  ("maximum_concurrent_requests", .int 1), ("spend_budget_id", .str (text "b1")), ("spend_budget_micros", .int 2000),
  ("reserved_spend_micros", .int 800), ("prompt_token_price_micros", .int 1),
  ("completion_token_price_micros", .int 2),
  ("request_digest", .str (text "sha256:d95f3fa0f8b242f814692c93b26564a3368372697b59b8f9c9a3d99026d6f477"))]

def sampleBinding : Members := object [
  ("request_digest", .str (text "sha256:d95f3fa0f8b242f814692c93b26564a3368372697b59b8f9c9a3d99026d6f477")),
  ("request_id", .str (text "r1")), ("work_attempt_id", .str (text "w1")),
  ("dispatch_occurrence_id", .str (text "d1")),
  ("admitted_input_sha256", .str (text "sha256:8f434346648f6b96df89dda901c5176b10a6d83961dd3c1ac88b59b2dc327aa4")),
  ("provider_id", .str (text "openrouter")), ("model_id", .str (text "m1")), ("account_id", .str (text "a1")),
  ("credential_source", .str (text "environment:OPENROUTER_API_KEY")),
  ("adapter_protocol", .str (text "switchyard.openrouter-chat-completions/v1")),
  ("endpoint", .str (text "https://openrouter.ai/api/v1/chat/completions")),
  ("authority_effect", .str (text "LOCAL_AGENT_COMPUTE_SCHEDULING_ONLY")),
  ("schema", .str (text "switchyard.direct-api-owner-binding/v2")), ("owner_id", .str (text "o1")),
  ("owner_profile_id", .str (text "p1")), ("proposal_request_id", .str (text "q1")),
  ("proposal_request_digest", .str (text "sha256:e3b0c44298fc1c149afbf4c8996fb92427ae41e4649b934ca495991b7852b855")),
  ("binding_digest", .str (text "sha256:7857c899a2bce805ac09ddaa7f6607932baa026d0aa82cbca8a332a781eaac5e"))]

def sampleSubmission : Submission sampleHost where
  request := sampleRequest
  admittedInput := ascii "hi"
  ownerBinding := sampleBinding
  requestKeys := by decide +kernel
  bindingKeys := by decide +kernel
  accepted := by decide +kernel

end Switchyard.DirectApi
