import Switchyard.Nightshift.Timestamp

/-! The receipts of a worker: what a predecessor's receipt must satisfy, and what is
checked of the outcome a worker reports before a receipt is made of it. -/

namespace Switchyard.Nightshift
open Library Json Runner

def RECEIPT_SCHEMA : String := "nightshift.worker-terminal-receipt/v1"
def OUTCOME_SCHEMA : String := "switchyard.codex-worker-outcome/v1"
def RECEIPT_DOMAIN : Bytes := ascii "nightshift.worker-terminal-receipt.digest/v1" ++ [0]
def NOT_STARTED_DOMAIN : Bytes := ascii "nightshift.work-item-not-started-receipt.digest/v1" ++ [0]

def RECEIPT_FIELDS : List String :=
  ["schema", "receipt_digest", "packet_digest", "run_id", "work_item_id", "attempt_id", "adapter_id", "adapter_version",
    "provider_identity", "model_identity", "session_identity", "thread_identity", "turn_identity", "queue_identity",
    "started_at", "ended_at", "state", "result_classification", "repositories", "tests", "evidence",
    "live_or_production_mutations", "remaining_trigger", "next_lawful_action", "human_questions", "teardown", "extensions"]

def OUTCOME_FIELDS : List String :=
  ["schema", "state", "result_classification", "repositories", "tests", "evidence", "live_or_production_mutations",
    "remaining_trigger", "next_lawful_action", "human_questions", "teardown", "extensions"]

def NOT_STARTED_FIELDS : List String :=
  ["schema", "receipt_digest", "packet_digest", "run_id", "work_item_id", "recorded_at", "state", "result_classification",
    "evidence", "remaining_trigger", "next_lawful_action", "human_questions", "extensions"]

/-- The fields of a question besides its identity. Python goes through them in no fixed order. -/
def QUESTION_TEXTS : List String := ["question", "exhausted_evidence", "safe_default", "consequences", "resume_point"]

def REPOSITORY_FIELDS : List String := ["repository", "branch", "head", "push_status"]

def TEARDOWN_FIELDS : List String := ["live_runtime", "secrets", "teardown"]

/-- `_bounded_text`. -/
def boundedText (unicode : Unicode) (field : Text) : Json → Except Failure Unit
  | .str value =>
    if unicode.blank value || decide (65536 < value.length) then .error (.protocol (text "invalid worker outcome " ++ field))
    else .ok ()
  | _ => .error (.protocol (text "invalid worker outcome " ++ field))

/-- A list of texts of at most 65536 characters. -/
def shortTexts : Json → Bool
  | .arr items => items.all fun entry => match entry with
    | .str value => decide (value.length ≤ 65536)
    | _ => false
  | _ => false

/-- `_string_list`. -/
def stringList (field : String) (value : Json) : Except Failure Unit :=
  demand (shortTexts value) ("invalid worker outcome " ++ field)

/-- `_receipt_string_list`. -/
def receiptStringList (field : String) (value : Json) : Except Failure Unit :=
  demand (shortTexts value) ("invalid receipt " ++ field)

/-- A dict with these fields, all of them texts. -/
def textRecord (fields : List String) : Json → Bool
  | .obj members => closed members fields && members.all fun member => member.2.text?.isSome
  | _ => false

mutual
/-- `_validate_interoperable_extension`. -/
def validateInteroperableExtension : Json → Except Failure Unit
  | .null | .bool _ | .str _ => .ok ()
  | .int value => demand (decide (value.natAbs ≤ 9007199254740991)) "invalid RFC8785 number"
  | .float (.finite value) => demand (decide (|value| ≤ 9007199254740991)) "invalid RFC8785 number"
  | .float _ => .error (refused "invalid RFC8785 number")
  | .arr items => validateItems items
  | .obj members => do
    demand (decide (members.length ≤ 64)) "invalid receipt extensions"
    validateMembers members

def validateItems : List Json → Except Failure Unit
  | [] => .ok ()
  | value :: rest => do
    validateInteroperableExtension value
    validateItems rest

def validateMembers : Members → Except Failure Unit
  | [] => .ok ()
  | (key, value) :: rest => do
    let _ ← requireId (text "RFC8785 object key") (.str key)
    validateInteroperableExtension value
    validateMembers rest
end

/-- A list of dicts with the fields of a question; `prefix` stands before the names of its texts. -/
def validateQuestions (unicode : Unicode) (whole each leading : String) : Json → Except Failure Unit
  | .arr questions => questions.forM fun question =>
    match question with
    | .obj members => do
      demand (closed members ("question_id" :: QUESTION_TEXTS)) each
      let _ ← requireId (text "question_id") (Json.get members "question_id")
      QUESTION_TEXTS.forM fun field => boundedText unicode (text (leading ++ field)) (Json.get members field)
    | _ => .error (refused each)
  | _ => .error (refused whole)

def validateExtensions (message : String) : Json → Except Failure Unit
  | .obj members => do
    demand (decide (members.length ≤ 64)) message
    validateInteroperableExtension (.obj members)
  | _ => .error (refused message)

variable (host : Host) (unicode : Unicode)

/-- `_validate_receipt_common`. -/
def validateReceiptCommon (value : Members) (domain : Bytes) : Except Failure Unit := do
  let claimed ← requireDigest (text "receipt_digest") (Json.get value "receipt_digest")
  let digest ← digestOf host domain (.obj (without value "receipt_digest"))
  demand (digest == claimed) "predecessor receipt digest mismatch"
  let _ ← requireDigest (text "packet_digest") (Json.get value "packet_digest")
  ["run_id", "work_item_id"].forM fun field => discard (requireId (text field) (Json.get value field))
  ["state", "result_classification", "remaining_trigger", "next_lawful_action"].forM fun field =>
    boundedText unicode (text field) (Json.get value field)
  validateQuestions unicode "invalid receipt human questions" "invalid receipt human question" "" (Json.get value "human_questions")
  validateExtensions "invalid receipt extensions" (Json.get value "extensions")

/-- `_validate_terminal_predecessor`. -/
def validateTerminalPredecessor (value : Members) : Except Failure Unit := do
  demand (closed value RECEIPT_FIELDS && is (Json.get value "schema") RECEIPT_SCHEMA)
    "terminal predecessor receipt fields do not match"
  validateReceiptCommon host unicode value RECEIPT_DOMAIN
  ["attempt_id", "adapter_id", "adapter_version", "provider_identity", "model_identity"].forM fun field =>
    discard (requireId (text field) (Json.get value field))
  ["session_identity", "thread_identity", "turn_identity", "queue_identity"].forM fun field =>
    match Json.get value field with
    | .null => .ok ()
    | found => discard (requireId (text field) found)
  let started ← requireRfc3339 unicode.decimals (text "started_at") (Json.get value "started_at")
  let ended ← requireRfc3339 unicode.decimals (text "ended_at") (Json.get value "ended_at")
  demand (!later started ended) "invalid receipt timestamps"
  ["tests", "evidence", "live_or_production_mutations"].forM fun field => receiptStringList field (Json.get value field)
  demand (match Json.get value "repositories" with
    | .arr repositories => repositories.all (textRecord REPOSITORY_FIELDS)
    | _ => false) "invalid receipt repositories"
  demand (textRecord TEARDOWN_FIELDS (Json.get value "teardown")) "invalid receipt teardown"

/-- `_validate_not_started_predecessor`. -/
def validateNotStartedPredecessor (value : Members) : Except Failure Unit := do
  demand (closed value NOT_STARTED_FIELDS && is (Json.get value "schema") "nightshift.work-item-not-started-receipt/v1")
    "not-started predecessor receipt fields do not match"
  validateReceiptCommon host unicode value NOT_STARTED_DOMAIN
  let _ ← requireRfc3339 unicode.decimals (text "recorded_at") (Json.get value "recorded_at")
  receiptStringList "evidence" (Json.get value "evidence")

def checkRepositories : Json → Except Failure Unit
  | .arr repositories => repositories.forM fun repository =>
    match repository with
    | .obj members => do
      demand (closed members REPOSITORY_FIELDS) "invalid worker outcome repository custody"
      members.forM fun member => boundedText unicode (text "repository " ++ member.1) member.2
    | _ => .error (refused "invalid worker outcome repository custody")
  | _ => .error (refused "invalid worker outcome repositories")

def checkTeardown : Json → Except Failure Unit
  | .obj members => do
    demand (closed members TEARDOWN_FIELDS) "invalid worker outcome teardown"
    members.forM fun member => boundedText unicode (text "teardown " ++ member.1) member.2
  | _ => .error (refused "invalid worker outcome teardown")

/-- What `receipt_from_outcome` checks before it makes a receipt. -/
def checkOutcome (outcome : Members) : Except Failure Unit := do
  demand (is (Json.get outcome "schema") OUTCOME_SCHEMA) "foreign worker outcome schema"
  ["state", "result_classification", "remaining_trigger", "next_lawful_action"].forM fun field =>
    boundedText unicode (text field) (Json.get outcome field)
  ["tests", "evidence", "live_or_production_mutations"].forM fun field => stringList field (Json.get outcome field)
  checkRepositories unicode (Json.get outcome "repositories")
  validateQuestions unicode "invalid worker outcome human questions" "invalid worker outcome human question" "question "
    (Json.get outcome "human_questions")
  demand (Json.get outcome "live_or_production_mutations" == .arr []) "worker outcome declares protected effect"
  checkTeardown unicode (Json.get outcome "teardown")
  validateExtensions "invalid worker outcome extensions" (Json.get outcome "extensions")

end Switchyard.Nightshift
