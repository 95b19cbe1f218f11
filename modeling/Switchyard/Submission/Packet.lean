import Switchyard.Nightshift.Recognition
import Switchyard.Submission.WorkItems

/-! Orientation packets as the submission protocol reads them: canonical JSON that
satisfies the packet schema, with the digest of what it says. -/

namespace Switchyard.Submission
open Library Json

def NIGHTSHIFT_PACKET_SCHEMA : String := "nightshift.orientation-packet/v1"
def PLAN_REF_PREFIX : Text := text "nightshift-packet://"
def NIGHTSHIFT_PACKET_DIGEST_DOMAIN_V1 : Bytes := ascii "nightshift.orientation-packet.digest/v1" ++ [0]
def MAX_PACKET_UTF8_BYTES : Nat := 1000000

def CANONICALIZATION : Members := object [("algorithm", .str (text "RFC8785-JCS")), ("digest_algorithm", .str (text "SHA-256")),
  ("digest_preimage", .str (text ("domain prefix nightshift.orientation-packet.digest/v1 NUL, then " ++
    "packet object with packet_digest and switchyard.plan_ref omitted as RFC8785-JCS")))]

/-- What `datetime.fromisoformat(text).astimezone(timezone.utc)` makes of a text. -/
inductive Moment
  | malformed
  | naive
  | outOfRange
  | utc (microseconds : Int)

/-- What the packet reader takes from jsonschema and datetime. -/
structure Readers where
  /-- The place and the text of the first violation of the packet schema. -/
  violation : Members → Option (Text × Text)
  /-- Its pattern asks for `sha256:` and lower case digits, and lets a line feed follow. -/
  digest : ∀ packet, violation packet = none → ∃ value, get packet "packet_digest" = .str value ∧
    (Runner.sha256Identity (.str value) = true ∨ ∃ head, value = head ++ [10] ∧ Runner.sha256Identity (.str head) = true)
  moment : Text → Moment
  isoformat : Int → Text

variable (host : Host) (unicode : Nightshift.Unicode) (readers : Readers)

/-- `text.encode("utf-8")`. -/
def encoded (value : Text) : Except Failure Bytes :=
  match Text.encode? value with
  | some raw => .ok raw
  | none => .error (.other (className "UnicodeEncodeError"))

/-- `canonical_json`. -/
def canonicalJson (value : Json) : Except Failure Text :=
  match Rfc8785.dumps host value with
  | .ok raw =>
    match Text.decode? raw with
    | some content => .ok content
    | none => .error (.other (className "UnicodeDecodeError"))
  | .error .unicodeEncode => .error (.other (className "UnicodeEncodeError"))
  | .error failure => .error (.protocol (text "value is outside RFC8785-JCS: " ++ failure.message))

/-- `json.loads(text, object_pairs_hook=_object_without_duplicate_keys)`. -/
def loadsPacket (value : Text) : Except Failure Json :=
  match host.loadsUniqueText value with
  | .ok parsed => .ok parsed
  | .error (.malformed _ message) => .error (.protocol (text "invalid packet JSON: " ++ message))
  | .error (.duplicateKey key) => .error (.protocol (text "duplicate JSON object key: " ++ key))
  | .error (.other className) => .error (.other className)

/-- `_required_digest`. -/
def requiredDigest (value : Text) : Except Failure Text :=
  if Runner.hexadecimal (.str (unicode.lower value)) 64 then .ok (unicode.lower value)
  else .error (refused "packet_digest must be a 64-character hexadecimal SHA256")

/-- `nightshift_plan_ref`. -/
def nightshiftPlanRef (packetDigest : Text) : Except Failure Text := do
  let digest ← requiredDigest unicode packetDigest
  return PLAN_REF_PREFIX ++ digest

/-- What is left of a packet, or of its copy, without its digest and its plan reference. -/
def stripped (packet : Members) : Members :=
  let preimage := Nightshift.without packet "packet_digest"
  match get preimage "switchyard" with
  | .obj switchyard => set preimage "switchyard" (.obj (Nightshift.without switchyard "plan_ref"))
  | _ => preimage

/-- `nightshift_preimage_obj`. It strips a deep copy, and a packet that nests too deep is not copied. -/
def nightshiftPreimageObj (value : Members) : Except Failure Members :=
  if host.copies value then .ok (stripped value) else .error (.other recursionError)

/-- `nightshift_preimage_digest`. -/
def nightshiftPreimageDigest (value : Members) : Except Failure Text := do
  let preimage ← nightshiftPreimageObj host value
  let content ← canonicalJson host (.obj preimage)
  let raw ← encoded content
  return Text.hex (host.sha256 (NIGHTSHIFT_PACKET_DIGEST_DOMAIN_V1 ++ raw)).val

/-- `members["key"]`. -/
def member (members : Members) (key : String) : Except Failure Json :=
  match members.lookup (text key) with
  | some value => .ok value
  | none => .error (.other (className "KeyError"))

/-- A text, where the schema has seen to it that it is one. -/
def textual : Json → Except Failure Text
  | .str value => .ok value
  | _ => .error (.other (className "AttributeError"))

def dictionary : Json → Except Failure Members
  | .obj members => .ok members
  | _ => .error (.other (className "TypeError"))

def listing : Json → Except Failure (List Json)
  | .arr items => .ok items
  | _ => .error (.other (className "TypeError"))

def readReference (value : Json) : Except Failure WorkRef := do
  let reference ← dictionary value
  let kind ← member reference "contract_kind"
  let schema ← member reference "contract_schema"
  let contractSchema ← textual schema
  return ⟨if is kind "exact_work_proposal_v1" then .exactWorkProposalV1 else .repositoryActualEquivalent, contractSchema⟩

def textMember (members : Members) (key : String) : Except Failure Text := do
  let value ← member members key
  textual value

def listMember (members : Members) (key : String) : Except Failure (List Json) := do
  let value ← member members key
  listing value

def readWorkItem (value : Json) : Except Failure WorkItem := do
  let workItem ← dictionary value
  let id ← textMember workItem "id"
  let campaignValue ← member workItem "campaign"
  let campaign ← dictionary campaignValue
  let codename ← textMember campaign "codename"
  let canonicalSlug ← textMember campaign "canonical_slug"
  let dependencyValues ← listMember workItem "dependencies"
  let dependencies ← dependencyValues.mapM textual
  let referenceValues ← listMember workItem "exact_work_refs"
  let exactWorkRefs ← referenceValues.mapM readReference
  return ⟨id, ⟨codename, canonicalSlug⟩, dependencies, exactWorkRefs⟩

/-- `_parse_timestamp`. -/
def parseTimestamp (value : Text) : Except Failure Int :=
  match readers.moment (value.flatMap fun point => if point.val = 0x5A then text "+00:00" else [point]) with
  | .malformed => .error (refused "timestamps must use RFC3339/ISO-8601 syntax")
  | .naive => .error (refused "timestamps must include a timezone offset")
  | .outOfRange => .error (.other (className "OverflowError"))
  | .utc microseconds => .ok microseconds

/-- `_normalize_timestamp`. -/
def normalizeTimestamp (field : String) : Json → Except Failure Text
  | .str [] => .error (refused (field ++ " must be an RFC3339 timestamp string"))
  | .str value => do
    let moment ← parseTimestamp readers value
    return readers.isoformat moment
  | _ => .error (refused (field ++ " must be an RFC3339 timestamp string"))

/-- `_validate_nightshift_schema`. -/
def validateNightshiftSchema (value : Members) : Except Failure Unit :=
  match readers.violation value with
  | none => .ok ()
  | some (location, message) =>
    .error (.protocol (text "Nightshift packet schema violation at " ++ location ++ text ": " ++ message))

/-- The part of `_validate_nightshift_semantics` before the work items. -/
def validatePacket (value : Members) : Except Failure Unit := do
  let schema ← member value "schema"
  demand (is schema NIGHTSHIFT_PACKET_SCHEMA) ("schema must be '" ++ NIGHTSHIFT_PACKET_SCHEMA ++ "'")
  let canonicalization ← member value "canonicalization"
  demand (equal canonicalization (.obj CANONICALIZATION)) "packet canonicalization contract is invalid"
  let createdText ← textMember value "created_at"
  let createdAt ← parseTimestamp readers createdText
  let currentText ← textMember value "current_until"
  let currentUntil ← parseTimestamp readers currentText
  demand (decide (createdAt < currentUntil)) "packet created_at must precede current_until"
  let authoringValue ← member value "authoring"
  let authoring ← dictionary authoringValue
  ["agent", "session", "authority_basis"].forM fun field => do
    let found ← textMember authoring field
    demand (!unicode.blank found) ("authoring." ++ field ++ " must be non-empty")
  let switchyardValue ← member value "switchyard"
  let switchyard ← dictionary switchyardValue
  let aliasName ← textMember switchyard "alias"
  demand (!unicode.blank aliasName) "switchyard.alias must be non-empty"

/-- `_validate_nightshift_semantics`. -/
def validateNightshiftSemantics (value : Members) : Except Failure Unit := do
  validatePacket unicode readers value
  let itemValues ← listMember value "work_items"
  let items ← itemValues.mapM readWorkItem
  validateWorkItems unicode items

structure NightshiftPacket where
  packetText : Text
  packetObj : Members
  packetDigest : Text
  planRef : Text
  aliasName : Text
  createdAt : Text
  currentUntil : Text
deriving DecidableEq

/-- The digits after `sha256:` of a packet digest. -/
def digestSuffix : Json → Except Failure Text
  | .str value =>
    if value.take 7 = text "sha256:" then .ok (value.drop 7) else .error (refused "packet_digest must be sha256:<hex>")
  | _ => .error (refused "packet_digest must be sha256:<hex>")

/-- What `from_json` makes of a packet whose text is canonical. -/
def fromObject (value : Text) (packetObj : Members) : Except Failure NightshiftPacket := do
  validateNightshiftSchema readers packetObj
  validateNightshiftSemantics unicode readers packetObj
  let createdAt ← normalizeTimestamp readers "created_at" (get packetObj "created_at")
  let currentUntil ← normalizeTimestamp readers "current_until" (get packetObj "current_until")
  let suffix ← digestSuffix (get packetObj "packet_digest")
  let digestHex ← requiredDigest unicode suffix
  let recomputedDigest ← nightshiftPreimageDigest host packetObj
  demand (digestHex == recomputedDigest) "packet_digest does not match the Nightshift preimage"
  let switchyardValue ← member packetObj "switchyard"
  let switchyard ← dictionary switchyardValue
  let observedPlanRef ← member switchyard "plan_ref"
  let expectedPlanRef ← nightshiftPlanRef unicode digestHex
  demand (equal observedPlanRef (.str expectedPlanRef)) "switchyard.plan_ref does not match packet_digest"
  let aliasName ← textMember switchyard "alias"
  return ⟨value, packetObj, digestHex, expectedPlanRef, aliasName, createdAt, currentUntil⟩

/-- `NightshiftPacket.from_json`. -/
def fromJson (value : Text) : Except Failure NightshiftPacket := do
  let size ← encoded value
  demand (decide (size.length ≤ MAX_PACKET_UTF8_BYTES)) "packet exceeds 1 MB UTF-8 limit"
  match ← loadsPacket host value with
  | .obj packetObj => do
    let again ← canonicalJson host (.obj packetObj)
    demand (value == again) "packet bytes must be canonical RFC8785-JCS JSON"
    fromObject host unicode readers value packetObj
  | _ => .error (refused "packet must be a JSON object")

end Switchyard.Submission
