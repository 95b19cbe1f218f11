import Switchyard.Library.Utf8
import Switchyard.Nightshift.Brief
import Switchyard.Spelled

/-! What an accepted brief gives the worker, beside what its packet says. The brief
is compared as a Python value and handed on as text. -/

namespace Switchyard.Nightshift
open Library Json Runner

/-- What a start request and its brief are read as. -/
structure Reading where
  brief : Members
  packetRaw : Bytes
  packet : Members
  packetDigest : Text
  before : List Json
  workItem : Members
  after : List Json
  globalConstraints : Members
  /-- The text the worker is given for its work item, and the value it was recognised as. -/
  workJson : Text
  recognizedWork : Members
  /-- The same for the global constraints. -/
  globalJson : Text
  recognizedGlobal : Members
  dependencies : List Text
  predecessors : Members

/-- This text is byte for byte the canonical JSON of this value. -/
def Writes (host : Host) (value : Json) (written : Text) : Prop :=
  ∃ raw, Text.encode? written = some raw ∧ Rfc8785.dumps host value = .ok raw

/-- The worker is given exactly what the packet says. -/
structure Reading.Exact (host : Host) (reading : Reading) : Prop where
  work : Writes host (.obj reading.workItem) reading.workJson
  global : Writes host (.obj reading.globalConstraints) reading.globalJson

variable {host : Host} {unicode : Unicode} {start : Members} {briefRaw : Bytes}

theorem loadsUnique_ok {named : Option Text} {raw : Bytes} {value : Json} :
    loadsUnique host named raw = .ok value ↔ host.loadsUnique raw = .ok value := by
  unfold loadsUnique
  split <;> simp_all

theorem item_ok {members : Members} {key : String} {value : Json} (found : item members key = .ok value) : get members key = value := by
  unfold item at found
  unfold Json.get
  split at found
  next seen => rw [seen, Option.getD_some]; cases found; rfl
  next => cases found

theorem forM_ok {α : Type} {check : α → Except Failure Unit} {values : List α} (done : values.forM check = .ok ()) :
    ∀ value ∈ values, check value = .ok () := by
  induction values with
  | nil => nofun
  | cons value rest ih =>
    have unfolded : (value :: rest).forM check = (check value >>= fun _ => rest.forM check) := rfl
    rw [unfolded] at done
    obtain ⟨_, first, later⟩ := bind_ok.mp done
    exact List.forall_mem_cons.mpr ⟨first, ih later⟩

theorem equal_obj_left {members : Members} {value : Json} (same : equal (.obj members) value = true) : ∃ other, value = .obj other := by
  cases value with
  | obj other => exact ⟨other, rfl⟩
  | _ => simp [equal, number?] at same

/-- What the host's decoder and canonicaliser promise: the hook of the decoder refuses a repeated key, and the
canonicaliser writes integral floats as it writes integers. -/
structure Faithful (host : Host) : Prop where
  distinct : ∀ raw value, host.loadsUnique raw = .ok value → Distinct value
  numbers : Numbers host

theorem verifyPacketDigest_canonical {packet : Members} {expected : Text} (verified : verifyPacketDigest host packet expected = .ok ()) :
    Rfc8785.Canonical (.obj packet) := by
  obtain ⟨_, -, done⟩ := bind_ok.mp verified
  obtain ⟨_, -, done⟩ := bind_ok.mp done
  obtain ⟨raw, spelled, -⟩ := bind_ok.mp done
  exact (Rfc8785.dumps_accepted host _).mp ⟨raw, canonical_ok.mp spelled⟩

def sampleUnicode : Unicode where
  decimals := sampleDecimals
  lower value := value.map lowered
  lowerAscii _ _ := rfl
  space point := decide (9 ≤ point.val ∧ point.val ≤ 13 ∨ 28 ≤ point.val ∧ point.val ≤ 32)
  spaceAscii _ _ := rfl

def samplePacketDigest : Text := text "sha256:7a2f9e25a73740e33fb2ea2f95968944ad4bcf15e2612cc05cdc4f8b80b0b7e5"

def sampleConstraints : Members := object [("scope", .str (text "docs"))]

def sampleEarlier : Members := object [("dependencies", .arr []), ("id", .str (text "v"))]

def sampleItem (flag : Json) : Members :=
  object [("dependencies", .arr [.str (text "v")]), ("flag", flag), ("id", .str (text "w"))]

def samplePacket : Members := object [
  ("global_constraints", .obj sampleConstraints), ("packet_digest", .str samplePacketDigest),
  ("schema", .str (text "nightshift.orientation-packet/v1")),
  ("switchyard", .obj (object [("plan_ref",
    .str (text "nightshift-packet://7a2f9e25a73740e33fb2ea2f95968944ad4bcf15e2612cc05cdc4f8b80b0b7e5"))])),
  ("work_items", .arr [.obj sampleEarlier, .obj (sampleItem (.int 1))])]

/-- The receipt of the work item that the asked one depends on. -/
def sampleNotStarted : Members := object [
  ("evidence", .arr []), ("extensions", .obj []), ("human_questions", .arr []), ("next_lawful_action", .str (text "none")),
  ("packet_digest", .str samplePacketDigest),
  ("receipt_digest", .str (text "sha256:b98f11e9f7d057750f51cdbb572967bf9d85f7ddabba765ddbc9ee0cd233952e")),
  ("recorded_at", .str (text "2026-01-01T00:00:00Z")), ("remaining_trigger", .str (text "none")),
  ("result_classification", .str (text "NOT_NEEDED")), ("run_id", .str (text "r")),
  ("schema", .str (text "nightshift.work-item-not-started-receipt/v1")), ("state", .str (text "NOT_STARTED")),
  ("work_item_id", .str (text "v"))]

def sampleExecution : Members := object [
  ("adapter_id", .str (text ADAPTER_ID)), ("provider_model_class", .str (text "m")),
  ("resource_lock_keys", .arr [.str (text "l")]), ("workspace_identity", .str (text "/w"))]

def samplePacketRaw : Bytes := plainBytes (.obj samplePacket)

def sampleSource (raw : Bytes) (digest : String) (rest : List (String × Json)) : Json :=
  .obj (object ([("bytes_hex", .str (Text.hex raw)), ("encoding", .str (text "hex"))] ++ rest ++
    [("retained_raw_digest", .str (text "sha256:" ++ text digest))]))

def samplePredecessors : Members :=
  object [("v", sampleSource (plainBytes (.obj sampleNotStarted)) "644eec3e390efeeb65051eeff665aba8a7c5a54e5aa45d50ba2f21e7ce6c56f6"
    [("receipt_kind", .str (text "not_started"))])]

def sampleRecognized (value : Members) (contract : String) : Json :=
  .obj (object [("canonical_json", .str (canonicalText (.obj value))), ("contract", .str (text contract))])

def sampleBrief : Members := object [
  ("execution", sampleRecognized sampleExecution "nightshift.foreman-execution-profile/v2#work-item"),
  ("global_constraints", sampleRecognized sampleConstraints "nightshift.orientation-packet/v1#global-constraints"),
  ("packet_digest", .str samplePacketDigest),
  ("packet_source", sampleSource samplePacketRaw "87d06e0d157f0e6ad51ce8bf07ce2f6733af5a4fa21ae7c71a83e704e7263909" []),
  ("predecessor_receipts", .obj samplePredecessors), ("schema", .str (text BRIEF_SCHEMA)),
  ("work_item", sampleRecognized (sampleItem (.bool true)) "nightshift.orientation-packet/v1#work-item")]

def sampleBriefRaw : Bytes := plainBytes (.obj sampleBrief)

def sampleStart : Members := object [
  ("schema", .str (text START_SCHEMA)), ("adapter_id", .str (text ADAPTER_ID)), ("adapter_version", .str (text ADAPTER_VERSION)),
  ("adapter_protocol", .str (text ADAPTER_PROTOCOL)), ("packet_digest", .str samplePacketDigest), ("run_id", .str (text "r")),
  ("work_item_id", .str (text "w")), ("attempt_id", .str (text "a")),
  ("worker_brief_digest", .str (text "sha256:0ad394fa9847b3021dc5083baa16277d44ce47b17479f080252788df0c18a82d")),
  ("workspace_identity", .str (text "/w")), ("provider_model_class", .str (text "m")), ("timeout_seconds", .int 60),
  ("maximum_output_bytes", .int 1024), ("recursive_worker_swarms_forbidden", .bool true),
  ("approval_policy", .str (text "SURFACE_ONLY_NO_RESPONSE")), ("expected_receipt_schema", .str (text RECEIPT_SCHEMA)),
  ("request_digest", .str (text "sha256:4ed9c135b688efe64f226a2149d2cece50b27e45d60f40afe1d4ff1c9ee579f7"))]

/-- The digests that are taken of this start, by the length of what is digested. -/
def startDigests : List (Nat × Nat) := [
  (224, 0x7a2f9e25a73740e33fb2ea2f95968944ad4bcf15e2612cc05cdc4f8b80b0b7e5),
  (413, 0x87d06e0d157f0e6ad51ce8bf07ce2f6733af5a4fa21ae7c71a83e704e7263909),
  (431, 0xb98f11e9f7d057750f51cdbb572967bf9d85f7ddabba765ddbc9ee0cd233952e),
  (513, 0x644eec3e390efeeb65051eeff665aba8a7c5a54e5aa45d50ba2f21e7ce6c56f6),
  (724, 0x4ed9c135b688efe64f226a2149d2cece50b27e45d60f40afe1d4ff1c9ee579f7),
  (2695, 0x0ad394fa9847b3021dc5083baa16277d44ce47b17479f080252788df0c18a82d)]

/-- A host that knows the digests and the documents of this start, by their lengths. -/
def sampleHost : Host := { plainHost with
  sha256 := digestTable startDigests
  loadsUnique := fun raw => match raw.length with
    | 371 => .ok (.obj samplePacket)
    | 2661 => .ok (.obj sampleBrief)
    | 471 => .ok (.obj sampleNotStarted)
    | 43 => .ok (.obj (sampleItem (.bool true)))
    | 16 => .ok (.obj sampleConstraints)
    | 124 => .ok (.obj sampleExecution)
    | _ => .error (.malformed (className "JSONDecodeError") (text "Expecting value: line 1 column 1 (char 0)")) }

theorem sampleHost_faithful : Faithful sampleHost where
  distinct raw value loaded := by
    have each : ∀ members ∈ [samplePacket, sampleBrief, sampleNotStarted, sampleItem (.bool true), sampleConstraints, sampleExecution],
        Distinct (.obj members) := by
      simp [samplePacket, sampleBrief, sampleNotStarted, sampleItem, sampleEarlier, sampleConstraints, sampleExecution, sampleRecognized,
        samplePredecessors, sampleSource, object, Distinct, DistinctMembers, DistinctItems, text_inj]
    unfold sampleHost at loaded
    dsimp only at loaded
    split at loaded <;> cases loaded <;> exact each _ (by simp)
  numbers value _ _ := by
    show Rfc8785.decimal (value : ℚ).num = _
    rw [Rat.num_intCast]

end Switchyard.Nightshift
