import Switchyard.Nightshift.Receipt

/-! The worker brief of a start request: the packet it retains, what it recognises of
that packet, and the receipts of the work it builds on. -/

namespace Switchyard.Nightshift
open Library Json Runner

def ADAPTER_ID : String := "switchyard.codex-app-server"
def ADAPTER_PROTOCOL : String := "switchyard.codex-app-server/v1"
def ADAPTER_VERSION : String := "switchyard.codex-app-server/v1"
def START_SCHEMA : String := "nightshift.worker-start-request/v2"
def BINDING_SCHEMA : String := "nightshift.worker-attempt-binding/v1"
def BRIEF_SCHEMA : String := "nightshift.worker-brief-basis/v2"
def START_DOMAIN : Bytes := ascii "nightshift.worker-start-request.digest/v2" ++ [0]
def BRIEF_DOMAIN : Bytes := ascii "nightshift.worker-brief.digest/v2" ++ [0]
def RAW_DOMAIN : Bytes := ascii "nightshift.foreman-retained-raw.digest/v1" ++ [0]
def PACKET_DOMAIN : Bytes := ascii "nightshift.orientation-packet.digest/v1" ++ [0]
def MAXIMUM_BRIEF_BYTES : Nat := 16 * 1024 * 1024

def START_FIELDS : List String :=
  ["schema", "request_digest", "adapter_id", "adapter_version", "adapter_protocol", "packet_digest", "run_id", "work_item_id",
    "attempt_id", "worker_brief_digest", "workspace_identity", "provider_model_class", "timeout_seconds",
    "maximum_output_bytes", "recursive_worker_swarms_forbidden", "approval_policy", "expected_receipt_schema"]

def BRIEF_FIELDS : List String :=
  ["schema", "packet_digest", "packet_source", "work_item", "predecessor_receipts", "global_constraints", "execution"]

def SOURCE_FIELDS : List String := ["retained_raw_digest", "encoding", "bytes_hex"]

def PREDECESSOR_FIELDS : List String := ["receipt_kind", "retained_raw_digest", "encoding", "bytes_hex"]

def RECOGNIZED_FIELDS : List String := ["contract", "canonical_json"]

def EXECUTION_FIELDS : List String := ["adapter_id", "workspace_identity", "resource_lock_keys", "provider_model_class"]

def protocol (message : Text) : Failure := .protocol message

def require (holds : Bool) (message : Text) : Except Failure Unit := if holds then .ok () else .error (protocol message)

theorem require_ok {holds : Bool} {message : Text} : require holds message = .ok () ↔ holds = true := by
  cases holds <;> simp [require]

/-- `value.encode("utf-8")`. -/
def encoded (value : Text) : Except Failure Bytes :=
  match Text.encode? value with
  | some raw => .ok raw
  | none => .error (.other (className "UnicodeEncodeError") Rfc8785.Failure.unicodeEncode.message)

/-- `isinstance(value, int)`, which a bool is too. -/
def integer? : Json → Option Int
  | .int value => some value
  | .bool value => some (if value then 1 else 0)
  | _ => none

/-- `json.loads(raw, object_pairs_hook=_unique_object)`; `named` is what stands before the text of a decoding error
that is refused, and other decoding errors are raised as they are. -/
def loadsUnique (host : Host) (named : Option Text) (raw : Bytes) : Except Failure Json :=
  match host.loadsUnique raw, named with
  | .ok value, _ => .ok value
  | .error (.malformed _ message), some named => .error (.protocol (named ++ message))
  | .error (.malformed className message), none => .error (.other className message)
  | .error (.duplicateKey key), _ => .error (.protocol (text "duplicate JSON key: " ++ key))
  | .error (.other className), _ => .error (.other className [])

variable (host : Host) (unicode : Unicode)

/-- `_exact_source`. -/
def exactSource (label : Text) (value : Json) (fields : List String) : Except Failure Bytes :=
  match value with
  | .obj source => do
    require (closed source fields) (label ++ text " source fields do not match")
    require (is (Json.get source "encoding") "hex") (label ++ text " source encoding mismatch")
    let claimed ← requireDigest (label ++ text " retained_raw_digest") (Json.get source "retained_raw_digest")
    match Json.get source "bytes_hex" with
    | .str encoded => do
      require (encoded.length % 2 == 0 && unicode.lower encoded == encoded) (label ++ text " source is not lowercase hexadecimal")
      match Text.fromHex? encoded with
      | none => .error (protocol (label ++ text " source is not hexadecimal"))
      | some raw => do
        require (Text.hex raw == encoded) (label ++ text " source hexadecimal mismatch")
        require (rawDigest host RAW_DOMAIN raw == claimed) (label ++ text " retained raw digest mismatch")
        return raw
    | _ => .error (protocol (label ++ text " source is not lowercase hexadecimal"))
  | _ => .error (protocol (label ++ text " source fields do not match"))

/-- `_exact_json`. -/
def exactJson (label : Text) (raw : Bytes) : Except Failure Members := do
  match ← loadsUnique host (some (text "invalid " ++ label ++ text " JSON: ")) raw with
  | .obj members => return members
  | _ => .error (protocol (label ++ text " must be an object"))

/-- `_recognized`. -/
def recognized (label : String) (value : Json) (contract : String) : Except Failure Members :=
  match value with
  | .obj wrapper => do
    require (closed wrapper RECOGNIZED_FIELDS) (text label ++ text " recognized wrapper fields do not match")
    require (is (Json.get wrapper "contract") contract) (text label ++ text " recognized contract mismatch")
    match Json.get wrapper "canonical_json" with
    | .str canonicalJson => do
      let raw ← encoded canonicalJson
      let parsed ← exactJson host (text label ++ text " recognized") raw
      let again ← canonical host (.obj parsed)
      require (Text.decode? again == some canonicalJson) (text label ++ text " recognized JSON is not canonical")
      return parsed
    | _ => .error (protocol (text label ++ text " recognized JSON is absent"))
  | _ => .error (protocol (text label ++ text " recognized wrapper fields do not match"))

/-- `expected.removeprefix("sha256:")`. -/
def digestHex (expected : Text) : Text := if expected.take 7 = text "sha256:" then expected.drop 7 else expected

/-- What the adapter digests of a packet: a copy without its digest and without the plan reference. -/
def packetPreimage (preimage : Members) : Except Failure Members :=
  let preimage := without preimage "packet_digest"
  match Json.get preimage "switchyard" with
  | .obj switchyard => .ok (Json.set preimage "switchyard" (.obj (without switchyard "plan_ref")))
  | _ => .error (refused "retained packet switchyard record absent")

/-- `_verify_packet_digest`. -/
def verifyPacketDigest (packet : Members) (expected : Text) : Except Failure Unit := do
  demand (is (Json.get packet "schema") "nightshift.orientation-packet/v1") "foreign retained packet schema"
  demand (equal (Json.get packet "packet_digest") (.str expected)) "retained packet identity mismatch"
  let raw ← canonical host (.obj packet)
  match ← loadsUnique host none raw with
  | .obj copy => do
    let preimage ← packetPreimage copy
    let digest ← digestOf host PACKET_DOMAIN (.obj preimage)
    demand (digest == expected) "retained packet digest mismatch"
    match Json.get packet "switchyard" with
    | .obj switchyard =>
      demand (equal (Json.get switchyard "plan_ref") (.str (text "nightshift-packet://" ++ digestHex expected)))
        "retained packet plan reference mismatch"
    | _ => .error (refused "retained packet plan reference mismatch")
  | _ => .error (raised "AttributeError" "'list' object has no attribute 'pop'")

/-- The same, for the digest of a start request, which is a text. -/
def verifyRetained (packet : Members) : Json → Except Failure Unit
  | .str expected => verifyPacketDigest host packet expected
  | _ => .error (refused "retained packet digest mismatch")

/-- `len(values) == len(set(values))`. -/
def distinct : List Json → Bool
  | [] => true
  | value :: rest => (rest.all fun other => !equal value other) && distinct rest

/-- The work item of a packet with this identity, which must be the only one. -/
def selectWorkItem (workItems : List Json) (workItemId : Json) : Except Failure Members :=
  match workItems.filterMap fun entry => match entry with
    | .obj members => if equal (Json.get members "id") workItemId then some members else none
    | _ => none with
  | [workItem] => .ok workItem
  | _ => .error (refused "retained packet work item identity mismatch")

/-- The locks of the execution profile. -/
def checkLocks : Json → Except Failure Unit
  | .arr [] => .error (refused "execution resource locks invalid")
  | .arr locks =>
    if locks.all Json.hashable then do
      demand (distinct locks) "execution resource locks invalid"
      locks.forM fun lock => discard (requireId (text "resource lock") lock)
    else .error (raised "TypeError" "unhashable type")
  | _ => .error (refused "execution resource locks invalid")

/-- The identities of the work items that a work item depends on. -/
def dependenciesOf (workItem : Members) : Except Failure (List Text) :=
  match Json.get workItem "dependencies" with
  | .arr items =>
    match items.mapM Json.text? with
    | some dependencies => .ok dependencies
    | none => .error (refused "work item dependencies invalid")
  | _ => .error (refused "work item dependencies invalid")

def validatePredecessor (label : Text) (kind : Json) (receipt : Members) : Except Failure Unit :=
  if is kind "terminal" then validateTerminalPredecessor host unicode receipt
  else if is kind "not_started" then validateNotStartedPredecessor host unicode receipt
  else .error (protocol (label ++ text " receipt kind mismatch"))

/-- The receipt of one dependency, with its source. -/
def checkPredecessor (start : Members) (predecessor : Text × Json) : Except Failure Unit := do
  let label := text "predecessor " ++ predecessor.1
  let raw ← exactSource host unicode label predecessor.2 PREDECESSOR_FIELDS
  let receipt ← exactJson host label raw
  validatePredecessor host unicode label (Json.get ((predecessor.2.members?).getD []) "receipt_kind") receipt
  let packetDigest ← item start "packet_digest"
  let runId ← item start "run_id"
  require (equal (Json.get receipt "packet_digest") packetDigest && equal (Json.get receipt "run_id") runId &&
    equal (Json.get receipt "work_item_id") (.str predecessor.1)) (label ++ text " receipt binding mismatch")

/-- The receipts of the brief, one for each dependency. -/
def checkPredecessors (start : Members) (dependencies : List Text) : Json → Except Failure Unit
  | .obj predecessors => do
    demand (decide (predecessors.length ≤ 1024)) "predecessor receipt count exceeds bound"
    demand (predecessors.all (fun entry => dependencies.contains entry.1) &&
      dependencies.all fun dependency => (predecessors.lookup dependency).isSome) "predecessor receipt set differs from dependencies"
    predecessors.forM (checkPredecessor host unicode start)
  | _ => .error (refused "predecessor receipt set differs from dependencies")

/-- `validate_brief`. -/
def validateBrief (value : Json) (briefRaw : Bytes) (start : Members) : Except Failure Unit := do
  demand (decide (briefRaw.length ≤ MAXIMUM_BRIEF_BYTES)) "worker brief exceeds total bound"
  match value with
  | .obj brief => do
    demand (closed brief BRIEF_FIELDS) "closed worker brief fields do not match"
    demand (is (Json.get brief "schema") BRIEF_SCHEMA) "foreign worker brief schema"
    let packetDigest ← item start "packet_digest"
    demand (equal (Json.get brief "packet_digest") packetDigest) "worker brief packet identity mismatch"
    let packetRaw ← exactSource host unicode (text "packet") (Json.get brief "packet_source") SOURCE_FIELDS
    let packet ← exactJson host (text "retained packet") packetRaw
    verifyRetained host packet packetDigest
    match Json.get packet "work_items" with
    | .arr workItems => do
      let workItemId ← item start "work_item_id"
      let workItem ← selectWorkItem workItems workItemId
      let recognizedWork ← recognized host "work item" (Json.get brief "work_item") "nightshift.orientation-packet/v1#work-item"
      demand (equal (.obj recognizedWork) (.obj workItem)) "recognized work item differs from retained packet"
      let recognizedGlobal ← recognized host "global constraints" (Json.get brief "global_constraints")
        "nightshift.orientation-packet/v1#global-constraints"
      demand (equal (.obj recognizedGlobal) (Json.get packet "global_constraints"))
        "recognized global constraints differ from retained packet"
      let execution ← recognized host "execution" (Json.get brief "execution") "nightshift.foreman-execution-profile/v2#work-item"
      demand (closed execution EXECUTION_FIELDS) "execution profile work-item fields do not match"
      ["adapter_id", "workspace_identity", "provider_model_class"].forM fun field => do
        let expected ← item start field
        demand (equal (Json.get execution field) expected) ("execution " ++ field ++ " mismatch")
      checkLocks (Json.get execution "resource_lock_keys")
      let dependencies ← dependenciesOf workItem
      checkPredecessors host unicode start dependencies (Json.get brief "predecessor_receipts")
    | _ => .error (refused "retained packet work items absent")
  | _ => .error (refused "closed worker brief fields do not match")

/-- `validate_start`, with the adapter's own protocol and version. -/
def validateStart (value : Members) (briefRaw : Bytes) : Except Failure Unit := do
  demand (closed value START_FIELDS) "closed start request fields do not match"
  demand (is (Json.get value "schema") START_SCHEMA) "foreign start schema"
  demand (is (Json.get value "adapter_id") ADAPTER_ID) "adapter_id mismatch"
  demand (is (Json.get value "adapter_protocol") ADAPTER_PROTOCOL) "adapter_protocol mismatch"
  demand (is (Json.get value "adapter_version") ADAPTER_VERSION) "adapter_version mismatch"
  ["run_id", "work_item_id", "attempt_id", "workspace_identity", "provider_model_class"].forM fun field =>
    discard (requireId (text field) (Json.get value field))
  ["request_digest", "packet_digest", "worker_brief_digest"].forM fun field =>
    discard (requireDigest (text field) (Json.get value field))
  let digest ← digestOf host START_DOMAIN (.obj (without value "request_digest"))
  demand (equal (.str digest) (Json.get value "request_digest")) "request_digest mismatch"
  let brief ← loadsUnique host (some (text "invalid worker brief: ")) briefRaw
  let raw ← canonical host brief
  demand (raw == briefRaw) "worker brief is not exact canonical JSON"
  demand (equal (.str (rawDigest host BRIEF_DOMAIN briefRaw)) (Json.get value "worker_brief_digest")) "worker_brief_digest mismatch"
  validateBrief host unicode brief briefRaw value
  demand ((match integer? (Json.get value "timeout_seconds"), integer? (Json.get value "maximum_output_bytes") with
      | some timeout, some maximum => decide (1 ≤ timeout ∧ timeout ≤ 86400 ∧ 1024 ≤ maximum ∧ maximum ≤ 16 * 1024 * 1024)
      | _, _ => false) &&
    Json.get value "recursive_worker_swarms_forbidden" == .bool true &&
    is (Json.get value "approval_policy") "SURFACE_ONLY_NO_RESPONSE" &&
    is (Json.get value "expected_receipt_schema") RECEIPT_SCHEMA) "start boundary mismatch"

/-- `binding_from_start`. -/
def bindingFromStart (value : Members) : Members :=
  object [("schema", .str (text BINDING_SCHEMA)), ("request_digest", Json.get value "request_digest"),
    ("packet_digest", Json.get value "packet_digest"), ("run_id", Json.get value "run_id"),
    ("work_item_id", Json.get value "work_item_id"), ("attempt_id", Json.get value "attempt_id"),
    ("adapter_id", Json.get value "adapter_id"), ("adapter_version", Json.get value "adapter_version")]

/-- `validate_binding`. -/
def validateBinding (value : Members) : Except Failure Unit := do
  let schema ← item value "schema"
  demand (is schema BINDING_SCHEMA) "foreign binding schema"
  ["request_digest", "packet_digest"].forM fun field => do
    let found ← item value field
    discard (requireDigest (text field) found)
  ["run_id", "work_item_id", "attempt_id", "adapter_id", "adapter_version"].forM fun field => do
    let found ← item value field
    discard (requireId (text field) found)
  demand (is (Json.get value "adapter_id") ADAPTER_ID && is (Json.get value "adapter_version") ADAPTER_VERSION)
    "adapter binding mismatch"

end Switchyard.Nightshift
