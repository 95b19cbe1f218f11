import Switchyard.Runner.Preflight
import Switchyard.Reread

/-! The receipt of a dispatch that ended before its provider was claimed: what it
binds, when it was written, and the validation that every reader repeats. -/

namespace Switchyard.Runner
open Library Json AppServer

/-- What `re`, `datetime` and `calendar` make of digits and of a date with its time of day. -/
structure Calendar where
  decimal : CodePoint → Option Nat
  seconds : Text → Option Int
  spelled : Int → Text

def PRELAUNCH_DOMAIN : Bytes := ascii "switchyard.provider-prelaunch-closure.digest/v1" ++ [0]
def PRELAUNCH_SCHEMA : Text := text "switchyard.provider-prelaunch-closure/v1"

def canonical (host : Host) (value : Json) : Except ClassName Bytes :=
  match Rfc8785.dumps host value with
  | .ok raw => .ok raw
  | .error .unicodeEncode => .error unicodeEncodeError
  | .error _ => .error adapterProtocolError

theorem canonical_ok {host : Host} {value : Json} {raw : Bytes} :
    canonical host value = .ok raw ↔ Rfc8785.dumps host value = .ok raw := by
  unfold canonical
  split <;> simp_all

/-- What a run is admitted with. The validators leave a request that names its dispatch by a string. -/
structure Inputs where
  request : Members
  brief : Bytes
  backend : Members
  dispatchRecord : Members
  dispatch : Text
  named : get request "dispatch_occurrence_id" = .str dispatch

/-- `raise AdapterProtocolError` unless this holds. -/
def demand (holds : Bool) : Except ClassName Unit := if holds then .ok () else .error adapterProtocolError

theorem demand_ok {holds : Bool} : demand holds = .ok () ↔ holds = true := by
  cases holds <;> simp [demand]

/-- `value in {...}`, which hashes the value. -/
def among (value : Json) (literals : List String) : Except ClassName Bool :=
  if value.hashable then .ok (literals.any fun literal => is value literal) else .error (className "TypeError")

def hexadecimal (value : Json) (length : Nat) : Bool :=
  match value with
  | .str value => value.length == length && value.all fun point =>
      (48 ≤ point.val && point.val ≤ 57) || (97 ≤ point.val && point.val ≤ 102)
  | _ => false

def sha256Identity (value : Json) : Bool :=
  match value with
  | .str value => value.take 7 == text "sha256:" && hexadecimal (.str (value.drop 7)) 64
  | _ => false

def boundedIdentifier (value : Json) : Except ClassName Bool :=
  match value with
  | .str value => do
    let size ← utf8Length value
    return 0 < size && size ≤ 256 && value.all fun point => 32 ≤ point.val && point.val != 127
  | _ => .ok false

section
variable (calendar : Calendar)

/-- The groups of `\d{4}-\d{2}-\d{2}T\d{2}:\d{2}:\d{2}` and of the fraction before the final `Z`. -/
def timestampGroups (value : Text) : Option (Text × Text) :=
  let shaped := (value.take 19).length == 19 && ((value.take 19).zip (text "dddd-dd-ddTdd:dd:dd")).all fun pair =>
    if pair.2.val == 100 then (calendar.decimal pair.1).isSome else pair.1 == pair.2
  if shaped then
    if value.drop 19 = text "Z" then some (value.take 19, [])
    else
      let fraction := (value.drop 20).dropLast
      if (value.drop 19).head? = (text ".").head? && (value.drop 20).getLast? = (text "Z").head? &&
          [3, 6, 9].contains fraction.length && fraction.all fun point => (calendar.decimal point).isSome then
        some (value.take 19, fraction)
      else none
  else none

/-- `int(value or "0")` of decimal digits. -/
def number (value : Text) : Nat := value.foldl (fun total point => 10 * total + (calendar.decimal point).getD 0) 0

/-- `_timestamp`: nanoseconds, spelled in one way only. -/
def timestamp (value : Json) : Except ClassName Int :=
  match value with
  | .str value =>
    match timestampGroups calendar value with
    | none => .error adapterProtocolError
    | some (basis, fraction) =>
      if fraction ≠ [] ∧ (number calendar fraction = 0 ∨
          3 < fraction.length ∧ fraction.drop (fraction.length - 3) = text "000") then .error adapterProtocolError
      else match calendar.seconds basis with
        | none => .error adapterProtocolError
        | some seconds => .ok (seconds * 1000000000 + number calendar (fraction ++ List.replicate (9 - fraction.length) 48))
  | _ => .error adapterProtocolError

/-- The last digits of a number, with leading zeros. -/
def digits : Nat → Nat → Text
  | 0, _ => []
  | width + 1, value => digits width (value / 10) ++ [Fin.ofNat 0x110000 (48 + value % 10)]

/-- `_utc_now()` at this reading of the clock. -/
def utcNow (now : Nanoseconds) : Text :=
  let nanos := (now.toInt.fmod 1000000000).toNat
  calendar.spelled (now.toInt.fdiv 1000000000) ++
    (if nanos = 0 then []
      else if nanos % 1000000 = 0 then text "." ++ digits 3 (nanos / 1000000)
      else if nanos % 1000 = 0 then text "." ++ digits 6 (nanos / 1000)
      else text "." ++ digits 9 nanos) ++ text "Z"

end

/-- Exact original inputs, including source identities; no provider observations. -/
def prelaunchBinding (host : Host) (request : Members) (brief : Bytes) (backend dispatchRecord : Members) :
    Except ClassName Members := do
  let copied ← ["packet_digest", "run_id", "work_item_id", "work_attempt_id", "dispatch_occurrence_id", "request_digest",
    "worker_brief_digest", "switchyard_owner_head", "codex_owner_head"].mapM fun key => do return (key, ← item request key)
  let occurrence ← item dispatchRecord "adapter_process_occurrence_id"
  let requestBytes ← canonical host (.obj request)
  let backendBytes ← canonical host (.obj backend)
  let dispatchDigest ← item dispatchRecord "dispatch_digest"
  let dispatchBytes ← canonical host (.obj dispatchRecord)
  return object (copied ++ [("adapter_process_occurrence_id", occurrence), ("request_sha256", .str (host.digest requestBytes)),
    ("brief_sha256", .str (host.digest brief)), ("backend_sha256", .str (host.digest backendBytes)),
    ("dispatch_digest", dispatchDigest), ("dispatch_sha256", .str (host.digest dispatchBytes))])

def BINDING_IDS : List String :=
  ["run_id", "work_item_id", "work_attempt_id", "dispatch_occurrence_id", "adapter_process_occurrence_id"]

def BINDING_HASHES : List String := ["packet_digest", "request_digest", "request_sha256", "worker_brief_digest", "brief_sha256",
  "backend_sha256", "dispatch_digest", "dispatch_sha256"]

def BINDING_HEADS : List String := ["switchyard_owner_head", "codex_owner_head"]

def CLOSURE_FIELDS : List String := ["schema", "closure_digest", "binding", "closed_at", "evidence_mode", "failure_code",
  "supervisor_attestation", "observer_source_head", "observer_runner_sha256", "state", "provider_claim_absent", "backend_started",
  "authority_effect"]

def PROOF_FIELDS : List String := ["schema", "binding", "supervisor_identity", "host", "unit", "invocation_id", "active_state",
  "result", "exit_code", "observed_at", "original_runner_sha256", "unit_evidence_sha256", "failure_evidence_sha256", "boundary",
  "original_producer_terminated", "alternate_writers_excluded", "trust_basis"]

/-- All of these fields are bounded identifiers. -/
def demandIdentifiers (members : Members) : List String → Except ClassName Unit
  | [] => .ok ()
  | key :: rest => do
    let bounded ← boundedIdentifier (get members key)
    demand bounded
    demandIdentifiers members rest

def validateBinding : Json → Except ClassName Unit
  | .obj binding => do
    demand (closed binding (BINDING_IDS ++ BINDING_HASHES ++ BINDING_HEADS))
    demandIdentifiers binding BINDING_IDS
    demand (BINDING_HASHES.all fun key => sha256Identity (get binding key))
    demand (BINDING_HEADS.all fun key => hexadecimal (get binding key) 40)
  | _ => .error adapterProtocolError

/-- The attestation of an owner that the producer ended before its claim. -/
def validateProof (calendar : Calendar) (proof : Members) (binding : Json) (closedAt : Int) : Except ClassName Unit := do
  demand (closed proof PROOF_FIELDS)
  demand (is (get proof "schema") "switchyard.prelaunch-supervisor-attestation/v1")
  demand (equal (get proof "binding") binding)
  let active ← among (get proof "active_state") ["inactive", "failed"]
  demand active
  demand (is (get proof "result") "exit-code")
  demand (match get proof "exit_code" with
    | .int code => 0 < code && code ≤ 2 ^ 32 - 1
    | _ => false)
  demand (is (get proof "boundary") "BEFORE_PROVIDER_CLAIM")
  demand (get proof "original_producer_terminated" = .bool true && get proof "alternate_writers_excluded" = .bool true)
  demand (is (get proof "trust_basis") "OWNER_ATTESTATION_NOT_INDEPENDENT_PROCESS_PROOF")
  demand (hexadecimal (get proof "invocation_id") 32)
  demandIdentifiers proof ["supervisor_identity", "host", "unit"]
  demand (["original_runner_sha256", "unit_evidence_sha256", "failure_evidence_sha256"].all fun key =>
    sha256Identity (get proof key))
  let observedAt ← timestamp calendar (get proof "observed_at")
  demand (observedAt ≤ closedAt)

def closureDigest (host : Host) (closure : Members) : Except ClassName Text := do
  let raw ← canonical host (.obj (closure.filter fun member => member.1 != text "closure_digest"))
  return host.digest (PRELAUNCH_DOMAIN ++ raw)

def validatePrelaunchClosure (host : Host) (calendar : Calendar) (closure : Members) : Except ClassName Unit := do
  demand (closed closure CLOSURE_FIELDS)
  let raw ← canonical host (.obj closure)
  demand (raw.length ≤ 32 * 1024)
  validateBinding (get closure "binding")
  demand (get closure "schema" = .str PRELAUNCH_SCHEMA && is (get closure "state") "PRELAUNCH_CLOSED")
  let coded ← among (get closure "failure_code") ["EXECUTABLE_CAPTURE_FAILED", "REQUEST_PREFLIGHT_FAILED"]
  demand coded
  demand (get closure "provider_claim_absent" = .bool true && get closure "backend_started" = .bool false)
  demand (is (get closure "authority_effect") "LOCAL_PRELAUNCH_CLOSURE_ONLY")
  demand (hexadecimal (get closure "observer_source_head") 40 && sha256Identity (get closure "observer_runner_sha256"))
  let closedAt ← timestamp calendar (get closure "closed_at")
  if is (get closure "failure_code") "EXECUTABLE_CAPTURE_FAILED" && is (get closure "evidence_mode") "OBSERVED_CAPTURE_FAILURE" &&
      get closure "supervisor_attestation" = .null then pure ()
  else
    demand (is (get closure "evidence_mode") "SUPERVISOR_ATTESTED_PRECLAIM_FAILURE")
    match get closure "supervisor_attestation" with
    | .obj proof => validateProof calendar proof (get closure "binding") closedAt
    | _ => .error adapterProtocolError
  let sealed ← closureDigest host closure
  demand (get closure "closure_digest" = .str sealed)

/-- The receipt before anything has checked it, by the runner whose source is given. -/
def prelaunchReceipt (host : Host) (runner : Bytes) (inputs : Inputs) (sourceHead : Json) (proof : Option Members)
    (closedAt failureCode : Text) : Except ClassName Members := do
  let binding ← prelaunchBinding host inputs.request inputs.brief inputs.backend inputs.dispatchRecord
  let closure := object [("schema", .str PRELAUNCH_SCHEMA), ("binding", .obj binding), ("closed_at", .str closedAt),
    ("evidence_mode", .str (text (if proof.isNone then "OBSERVED_CAPTURE_FAILURE" else "SUPERVISOR_ATTESTED_PRECLAIM_FAILURE"))),
    ("failure_code", .str failureCode), ("supervisor_attestation", (proof.map Json.obj).getD .null),
    ("observer_source_head", sourceHead), ("observer_runner_sha256", .str (host.digest runner)),
    ("state", .str (text "PRELAUNCH_CLOSED")), ("provider_claim_absent", .bool true), ("backend_started", .bool false),
    ("authority_effect", .str (text "LOCAL_PRELAUNCH_CLOSURE_ONLY"))]
  let sealed ← closureDigest host closure
  return set closure "closure_digest" (.str sealed)

def newPrelaunchClosure (host : Host) (calendar : Calendar) (runner : Bytes) (inputs : Inputs) (sourceHead : Json)
    (proof : Option Members) (closedAt failureCode : Text) : Except ClassName Members := do
  let closure ← prelaunchReceipt host runner inputs sourceHead proof closedAt failureCode
  validatePrelaunchClosure host calendar closure
  let closed ← timestamp calendar (.str closedAt)
  let openedAt ← item inputs.dispatchRecord "opened_at"
  let opened ← timestamp calendar openedAt
  demand (opened ≤ closed)
  return closure

/-- The receipt is valid, and not dated before the dispatch was opened. -/
structure Receivable (host : Host) (calendar : Calendar) (runner : Bytes) (inputs : Inputs) (sourceHead : Json)
    (proof : Option Members) (closedAt failureCode : Text) (closure : Members) : Prop where
  made : prelaunchReceipt host runner inputs sourceHead proof closedAt failureCode = .ok closure
  valid : validatePrelaunchClosure host calendar closure = .ok ()
  dated : ∃ closed openedAt opened, timestamp calendar (.str closedAt) = .ok closed ∧
    item inputs.dispatchRecord "opened_at" = .ok openedAt ∧ timestamp calendar openedAt = .ok opened ∧ opened ≤ closed

variable {host : Host} {calendar : Calendar} {runner : Bytes} {inputs : Inputs} {sourceHead : Json} {proof : Option Members}
  {closedAt failureCode : Text} {closure : Members}

theorem newPrelaunchClosure_ok :
    newPrelaunchClosure host calendar runner inputs sourceHead proof closedAt failureCode = .ok closure ↔
      Receivable host calendar runner inputs sourceHead proof closedAt failureCode closure := by
  unfold newPrelaunchClosure
  constructor
  · intro accepted
    obtain ⟨made, receipt, accepted⟩ := bind_ok.mp accepted
    obtain ⟨_, valid, accepted⟩ := bind_ok.mp accepted
    obtain ⟨closed, closes, accepted⟩ := bind_ok.mp accepted
    obtain ⟨openedAt, given, accepted⟩ := bind_ok.mp accepted
    obtain ⟨opened, opens, accepted⟩ := bind_ok.mp accepted
    obtain ⟨_, ordered, same⟩ := bind_ok.mp accepted
    cases same
    exact ⟨receipt, valid, closed, openedAt, opened, closes, given, opens, of_decide_eq_true (demand_ok.mp ordered)⟩
  · rintro ⟨made, valid, closed, openedAt, opened, closes, given, opens, ordered⟩
    have fine : demand (decide (opened ≤ closed)) = .ok () := demand_ok.mpr (decide_eq_true ordered)
    exact bind_ok.mpr ⟨closure, made, bind_ok.mpr ⟨(), valid, bind_ok.mpr ⟨closed, closes, bind_ok.mpr ⟨openedAt, given,
      bind_ok.mpr ⟨opened, opens, bind_ok.mpr ⟨(), fine, rfl⟩⟩⟩⟩⟩⟩

/-- A receipt binds what it was made for. -/
theorem prelaunchReceipt_binding (made : prelaunchReceipt host runner inputs sourceHead proof closedAt failureCode = .ok closure) :
    ∃ binding, prelaunchBinding host inputs.request inputs.brief inputs.backend inputs.dispatchRecord = .ok binding ∧
      get closure "binding" = .obj binding := by
  unfold prelaunchReceipt at made
  obtain ⟨binding, bound, made⟩ := bind_ok.mp made
  obtain ⟨sealed, -, same⟩ := bind_ok.mp made
  cases same
  refine ⟨binding, bound, ?_⟩
  simp [get_set, get_object_cons]

/-- A valid closure can be written. -/
theorem validatePrelaunchClosure_canonical (valid : validatePrelaunchClosure host calendar closure = .ok ()) :
    ∃ raw, canonical host (.obj closure) = .ok raw := by
  unfold validatePrelaunchClosure at valid
  obtain ⟨_, -, valid⟩ := bind_ok.mp valid
  obtain ⟨raw, written, -⟩ := bind_ok.mp valid
  exact ⟨raw, written⟩

end Switchyard.Runner
