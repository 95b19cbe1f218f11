import Switchyard.Host

/-! The frames of the App Server protocol: messages, acquisition envelopes, the
terminal cut, and the closed shapes that may exceed the ordinary frame bound. -/

namespace Switchyard.AppServer
open Library Json

def MAXIMUM_RETAINED_ADAPTER_EVENT_BYTES : Nat := 16 * 1024
def MAXIMUM_TURN_START_REQUEST_BYTES : Nat := 256 * 1024
def MAXIMUM_USER_INPUT_ECHO_BYTES : Nat := 256 * 1024
def MAXIMUM_BOUNDED_AGENT_OUTPUT_BYTES : Nat := 32 * 1024

def typeError : ClassName := className "TypeError"

def unicodeEncodeError : ClassName := className "UnicodeEncodeError"

/-- The three texts that `client_request_byte_bound` accepts; a constructor refuses any other. -/
inductive CaptureContract
  | legacy
  | boundedTurn
  | boundedTurnEcho
deriving DecidableEq

def clientRequestByteBound (method : Text) : CaptureContract → Nat
  | .legacy => MAXIMUM_RETAINED_ADAPTER_EVENT_BYTES
  | .boundedTurn | .boundedTurnEcho =>
    if method = text "turn/start" then MAXIMUM_TURN_START_REQUEST_BYTES else MAXIMUM_RETAINED_ADAPTER_EVENT_BYTES

/-- `value == identity` for a string. -/
def names (value : Json) (identity : Text) : Bool := equal value (.str identity)

theorem names_iff {value : Json} {identity : Text} : names value identity = true ↔ value = .str identity := equal_text

def boundedId : Json → Bool
  | .str value => 1 ≤ value.length && value.length ≤ 512
  | _ => false

def boundedI64 : Json → Bool
  | .int value => -(2 ^ 53 - 1) ≤ value && value ≤ 2 ^ 53 - 1
  | _ => false

structure ServerMessage where
  raw : Members
  rawBytes : Option Bytes
deriving DecidableEq

def ServerMessage.method (message : ServerMessage) : Option Text := (get message.raw "method").text?

def ServerMessage.params (message : ServerMessage) : Members := (get message.raw "params").members?.getD []

/-- Nothing checks the fields of an envelope when it is built, so each may hold any value. -/
structure AcquisitionEnvelope where
  ordinal : Json
  kind : Json
  message : Option ServerMessage
  diagnostic : Json
  rawBytes : Option Bytes
  requestMethod : Json
deriving DecidableEq

structure AcquisitionCut where
  streamQuiesced : Json
  lossGeneration : Json
  processDisposition : Json
  orderedHighWater : Json
  adapterProcessOccurrenceId : Json
  appServerSessionIdentity : Json

/-- `len(value.encode("utf-8"))`. -/
def utf8Length (value : Text) : Except ClassName Nat :=
  match value.encode? with
  | some raw => .ok raw.length
  | none => .error unicodeEncodeError

theorem utf8Length_ok {value : Text} {size : Nat} :
    utf8Length value = .ok size ↔ ∃ raw, value.encode? = some raw ∧ raw.length = size := by
  unfold utf8Length
  cases value.encode? <;> simp

/-- The closed outgoing notification envelope of the supported source. -/
def sourceNotificationEnvelope (message : ServerMessage) : Bool :=
  closed message.raw ["method", "params", "emittedAtMs"] && boundedI64 (get message.raw "emittedAtMs") &&
    match get message.raw "emittedAtMs" with
    | .int value => 0 < value
    | _ => false

/-- `normalized_bounded_turn_input`; `none` is its ValueError. -/
def normalizedBoundedTurnInput : Json → Option Json
  | .arr [.obj item] =>
    if closed item ["type", "text"] && is (get item "type") "text" then
      match get item "text" with
      | .str content =>
        some (.arr [.obj (object [("type", .str (text "text")), ("text", .str content), ("text_elements", .arr [])])])
      | _ => none
    else none
  | _ => none

/-- A set of constants is asked for a phase, which hashes it. -/
def boundedAgentItem : Json → Except ClassName Bool
  | .obj item =>
    if closed item ["type", "id", "text", "phase", "memoryCitation", "delivery"] &&
        is (get item "type") "agentMessage" && boundedId (get item "id") then
      match get item "text" with
      | .str content => do
        let size ← utf8Length content
        if size > MAXIMUM_BOUNDED_AGENT_OUTPUT_BYTES then return false
        else
          let phase := get item "phase"
          if phase.hashable then
            return ((phase matches .null) || is phase "commentary" || is phase "final_answer") &&
              (get item "memoryCitation" matches .null) && (get item "delivery" matches .null)
          else throw typeError
      | _ => return false
    else return false
  | _ => return false

/-- The notification names the bound thread and, where one is known, the bound turn. -/
def addressed (params : Members) (threadId : Text) (turnId : Option Text) : Bool :=
  names (get params "threadId") threadId && turnId.all (names (get params "turnId"))

def isBoundedTurnUserInputEcho (message : ServerMessage) (expectedInput : Option Json) (threadId : Text)
    (turnId : Option Text) : Bool :=
  match expectedInput, message.method with
  | some expected, some method =>
    let params := message.params
    let timestamp := if method = text "item/started" then "startedAtMs" else "completedAtMs"
    sourceNotificationEnvelope message && (method == text "item/started" || method == text "item/completed") &&
      closed params ["threadId", "turnId", "item", timestamp] && addressed params threadId turnId &&
      boundedI64 (get params timestamp) &&
      match get params "item" with
      | .obj item =>
        closed item ["type", "id", "clientId", "content"] && is (get item "type") "userMessage" &&
          boundedId (get item "id") && (get item "clientId" matches .null) && equal (get item "content") expected
      | _ => false
  | _, _ => false

/-- `value is None or _bounded_i64(value)`. -/
def optionalI64 (value : Json) : Bool := (value matches .null) || boundedI64 value

/-- The turn of a closed `turn/completed` summary, with the item it must carry. -/
def boundedTurnSummary (turnId : Option Text) : Json → Except ClassName Bool
  | .obj turn =>
    if closed turn ["id", "items", "itemsView", "status", "error", "startedAt", "completedAt", "durationMs"] &&
        turnId.all (names (get turn "id")) then
      match get turn "items" with
      | .arr [item] => do
        let agent ← boundedAgentItem item
        return agent && is (get turn "itemsView") "summary" && is (get turn "status") "completed" &&
          (get turn "error" matches .null) && optionalI64 (get turn "startedAt") &&
          optionalI64 (get turn "completedAt") && optionalI64 (get turn "durationMs")
      | _ => return false
    else return false
  | _ => return false

/-- Only source-defined agent output frames, never generic item traffic. -/
def isBoundedTurnAgentOutput (message : ServerMessage) (threadId : Text) (turnId : Option Text) : Except ClassName Bool :=
  let params := message.params
  if sourceNotificationEnvelope message then
    match message.method with
    | some method =>
      if method = text "item/started" ∨ method = text "item/completed" then
        let timestamp := if method = text "item/started" then "startedAtMs" else "completedAtMs"
        if closed params ["threadId", "turnId", "item", timestamp] && addressed params threadId turnId &&
            boundedI64 (get params timestamp) then boundedAgentItem (get params "item")
        else .ok false
      else if method = text "item/agentMessage/delta" then
        if closed params ["threadId", "turnId", "itemId", "delta"] && addressed params threadId turnId &&
            boundedId (get params "itemId") then
          match get params "delta" with
          | .str delta => do
            let size ← utf8Length delta
            return size ≤ MAXIMUM_BOUNDED_AGENT_OUTPUT_BYTES
          | _ => .ok false
        else .ok false
      else if method = text "turn/completed" then
        if closed params ["threadId", "turn", "emittedAtMs"] && names (get params "threadId") threadId &&
            boundedI64 (get params "emittedAtMs") then boundedTurnSummary turnId (get params "turn")
        else .ok false
      else .ok false
    | none => .ok false
  else .ok false

end Switchyard.AppServer
