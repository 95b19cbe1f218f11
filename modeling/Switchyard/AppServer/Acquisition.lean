import Switchyard.AppServer.Frames
import Switchyard.Library.Effect

/-! The reader side of an App Server client: one stdout line at a time is
classified and offered to bounded queues, and whatever is refused is a loss. -/

namespace Switchyard.AppServer
open Library Json

def MAXIMUM_APP_SERVER_LINE_BYTES : Nat := 32 * 1024 * 1024
def MAXIMUM_APP_SERVER_MESSAGE_QUEUE_ITEMS : Nat := 256
def MAXIMUM_APP_SERVER_MESSAGE_QUEUE_BYTES : Nat := 16 * 1024 * 1024
def MAXIMUM_APP_SERVER_DIAGNOSTIC_ITEMS : Nat := 64
def MAXIMUM_APP_SERVER_DIAGNOSTIC_BYTES : Nat := 65536

/-- How `put_nowait` refuses an item: the queue is full, or its size cannot be taken. -/
inductive Refusal
  | full
  | raised (className : ClassName)

structure ByteBoundedQueue (α : Type) where
  maxItems : Nat
  maxBytes : Nat
  size : α → Except ClassName Nat
  queue : List (Nat × α)
  queuedBytes : Nat
  counted : queuedBytes = (queue.map Prod.fst).sum

namespace ByteBoundedQueue

variable {α : Type}

def empty (maxItems maxBytes : Nat) (size : α → Except ClassName Nat) : ByteBoundedQueue α :=
  ⟨maxItems, maxBytes, size, [], 0, rfl⟩

def putNowait (target : ByteBoundedQueue α) (item : α) : Except Refusal (ByteBoundedQueue α) :=
  if target.maxItems ≤ target.queue.length then .error .full
  else match target.size item with
    | .error className => .error (.raised className)
    | .ok itemBytes =>
      if target.maxBytes < target.queuedBytes + itemBytes then .error .full
      else .ok { target with
        queue := target.queue ++ [(itemBytes, item)]
        queuedBytes := target.queuedBytes + itemBytes
        counted := by simp [target.counted] }

/-- `get_nowait`; `none` is `queue.Empty`. -/
def getNowait (source : ByteBoundedQueue α) : Option (α × ByteBoundedQueue α) :=
  match shape : source.queue with
  | [] => none
  | (itemBytes, item) :: rest => some (item, { source with
      queue := rest
      queuedBytes := source.queuedBytes - itemBytes
      counted := by simp [source.counted, shape] })

end ByteBoundedQueue

/-- The bounds that the constructor accepts. -/
structure Limits where
  lineBytes : Nat
  messageItems : Nat
  messageBytes : Nat
  orderedItems : Nat
  orderedBytes : Nat
  line : 1 ≤ lineBytes ∧ lineBytes ≤ MAXIMUM_APP_SERVER_LINE_BYTES
  message : 1 ≤ messageItems ∧ messageItems ≤ MAXIMUM_APP_SERVER_MESSAGE_QUEUE_ITEMS ∧
    1 ≤ messageBytes ∧ messageBytes ≤ MAXIMUM_APP_SERVER_MESSAGE_QUEUE_BYTES
  ordered : 1 ≤ orderedItems ∧ orderedItems ≤ MAXIMUM_APP_SERVER_MESSAGE_QUEUE_ITEMS ∧
    1 ≤ orderedBytes ∧ orderedBytes ≤ MAXIMUM_APP_SERVER_MESSAGE_QUEUE_BYTES

/-- What the reader's threads share. Every message here wraps the line it was read from or written as. -/
structure Client where
  maximumLineBytes : Nat
  captureContract : CaptureContract
  notifications : ByteBoundedQueue ServerMessage
  serverRequests : ByteBoundedQueue ServerMessage
  acquisitionDiagnostics : ByteBoundedQueue Text
  orderedAcquisition : Option (ByteBoundedQueue AcquisitionEnvelope)
  acquisitionOrdinal : Nat
  stdoutRefusedFrames : Nat
  notificationOverflows : Nat
  serverRequestOverflows : Nat
  lossGeneration : Nat
  pending : List (Int × Option Members)
  pendingMethods : List (Int × Text)
  boundedTurnEcho : Option (Text × Json)
  boundedTurnId : Option Text

/-- `_message_bytes` of a message that carries its line. -/
def messageBytes (message : ServerMessage) : Except ClassName Nat := .ok ((message.rawBytes.map List.length).getD 0)

/-- The encoded length of an optional string field. -/
def optionalLength : Json → Except ClassName Nat
  | .str value => utf8Length value
  | _ => .ok 0

def envelopeBytes (envelope : AcquisitionEnvelope) : Except ClassName Nat := do
  let message ← (envelope.message.map messageBytes).getD (.ok 0)
  let diagnostic ← optionalLength envelope.diagnostic
  let method ← optionalLength envelope.requestMethod
  return 64 + message + diagnostic + (envelope.rawBytes.map List.length).getD 0 + method

/-- A client as its constructor leaves it, with ordered acquisition. -/
def Client.initial (limits : Limits) (captureContract : CaptureContract) : Client where
  maximumLineBytes := limits.lineBytes
  captureContract := captureContract
  notifications := .empty limits.messageItems limits.messageBytes messageBytes
  serverRequests := .empty limits.messageItems limits.messageBytes messageBytes
  acquisitionDiagnostics := .empty MAXIMUM_APP_SERVER_DIAGNOSTIC_ITEMS MAXIMUM_APP_SERVER_DIAGNOSTIC_BYTES utf8Length
  orderedAcquisition := some (.empty limits.orderedItems limits.orderedBytes envelopeBytes)
  acquisitionOrdinal := 0
  stdoutRefusedFrames := 0
  notificationOverflows := 0
  serverRequestOverflows := 0
  lossGeneration := 0
  pending := []
  pendingMethods := []
  boundedTurnEcho := none
  boundedTurnId := none

/-- The queue that notifications or server requests are routed to. -/
def Client.queueFor (client : Client) (serverRequest : Bool) : ByteBoundedQueue ServerMessage :=
  if serverRequest then client.serverRequests else client.notifications

def Client.withQueueFor (client : Client) (serverRequest : Bool) (target : ByteBoundedQueue ServerMessage) : Client :=
  if serverRequest then { client with serverRequests := target } else { client with notifications := target }

abbrev Reader := Effect Client ClassName

/-- `_next_ordered_locked`, where `copied` says whether `copy.deepcopy` of the message returns. -/
def nextOrderedLocked (copied : Bool) (kind : String) (message : Option ServerMessage) (diagnostic : Json)
    (rawBytes : Option Bytes) (requestMethod : Json) : Reader Bool := fun client =>
  match client.orderedAcquisition with
  | none => (.ok true, client)
  | some target =>
    let counted := { client with acquisitionOrdinal := client.acquisitionOrdinal + 1 }
    let retainedRaw := rawBytes.filter fun raw => raw.length ≤ MAXIMUM_RETAINED_ADAPTER_EVENT_BYTES
    -- the ordinal is drawn before the copy
    if message.isSome && !copied then (.error recursionError, counted)
    else match target.putNowait
        ⟨.int client.acquisitionOrdinal, .str (text kind), message, diagnostic, retainedRaw, requestMethod⟩ with
    | .ok target => (.ok true, { counted with orderedAcquisition := some target })
    | .error .full => (.ok false, counted)
    | .error (.raised className) => (.error className, counted)

/-- All that an ordered offer can come to: there is no ordered queue, or it takes the envelope, or it refuses it,
or an exception is raised by the copy or by the measure of the envelope. -/
theorem nextOrderedLocked_meets {copied : Bool} {kind : String} {message : Option ServerMessage} {diagnostic : Json}
    {rawBytes : Option Bytes} {requestMethod : Json} {client : Client} {returned : Bool → Client → Prop}
    {raised : ClassName → Client → Prop} (absent : client.orderedAcquisition = none → returned true client)
    (present : ∀ source, client.orderedAcquisition = some source →
      let counted := { client with acquisitionOrdinal := client.acquisitionOrdinal + 1 }
      let offered := source.putNowait ⟨.int client.acquisitionOrdinal, .str (text kind), message, diagnostic,
        rawBytes.filter fun raw => raw.length ≤ MAXIMUM_RETAINED_ADAPTER_EVENT_BYTES, requestMethod⟩
      (∀ target, offered = .ok target → returned true { counted with orderedAcquisition := some target }) ∧
        returned false counted ∧
        ∀ className, message.isSome ∧ copied = false ∨ offered = .error (.raised className) → raised className counted) :
    Effect.Meets (nextOrderedLocked copied kind message diagnostic rawBytes requestMethod) client returned raised := by
  unfold Effect.Meets nextOrderedLocked
  cases ordered : client.orderedAcquisition with
  | none => exact absent ordered
  | some source =>
    obtain ⟨taken, refused, raises⟩ := present source ordered
    dsimp only
    by_cases uncopied : (message.isSome && !copied) = true
    · rw [if_pos uncopied]
      simp only [Bool.and_eq_true, Bool.not_eq_true'] at uncopied
      exact ordered ▸ raises recursionError (.inl uncopied)
    · rw [if_neg uncopied]
      cases put : source.putNowait _ with
      | ok target => exact taken target put
      | error refusal =>
        cases refusal with
        | full => exact ordered ▸ refused
        | raised className => exact ordered ▸ raises className (.inr put)

def recordLossLocked (message : Text) (rawBytes : Option Bytes) : Reader Unit := do
  Effect.modify fun client => { client with lossGeneration := client.lossGeneration + 1 }
  let client ← Effect.read
  match client.acquisitionDiagnostics.putNowait message with
  | .ok diagnostics => Effect.modify fun client => { client with acquisitionDiagnostics := diagnostics }
  | .error .full => pure ()
  | .error (.raised className) => Effect.raise className
  let _ ← nextOrderedLocked true "LOSS" none (.str (message.take 4096)) rawBytes .null
  return ()

/-- A line that is counted as refused before its loss is recorded. -/
def refuseFrame (message : String) (rawBytes : Option Bytes) : Reader Unit := do
  Effect.modify fun client => { client with stdoutRefusedFrames := client.stdoutRefusedFrames + 1 }
  recordLossLocked (text message) rawBytes

/-- `_offer_message`: the message goes to its own queue and, if that takes it, to the ordered one. -/
def offerMessage (host : Host) (serverRequest : Bool) (message : ServerMessage) : Reader Unit := do
  let client ← Effect.read
  match (client.queueFor serverRequest).putNowait message with
  | .error .full =>
    Effect.modify fun client =>
      if serverRequest then { client with serverRequestOverflows := client.serverRequestOverflows + 1 }
      else { client with notificationOverflows := client.notificationOverflows + 1 }
    recordLossLocked
      (text (if serverRequest then "App Server server request refused by bounded acquisition queue"
        else "App Server notification refused by bounded acquisition queue")) message.rawBytes
  | .error (.raised className) => Effect.raise className
  | .ok target =>
    Effect.modify fun client => client.withQueueFor serverRequest target
    let taken ← nextOrderedLocked (host.copies message.raw) (if serverRequest then "SERVER_REQUEST" else "NOTIFICATION")
      (some message) .null none .null
    if taken then return ()
    else recordLossLocked (text "App Server ordered acquisition envelope refused by bounded queue") none

/-- `json.loads(raw_line.decode("utf-8"))`; without a class name the exception is one the reader handles. -/
def decodeLine (host : Host) (rawLine : Bytes) : Except (Option ClassName) Json :=
  match Text.decode? rawLine with
  | none => .error none
  | some line =>
    match host.loadsUniqueText line with
    | .ok value => .ok value
    | .error (.malformed _ _) | .error (.duplicateKey _) => .error none
    | .error (.other className) => .error (if className.val = text "ValueError" then none else some className)

/-- The closed shapes of the selected turn may exceed the ordinary frame bound. -/
def isSelectedEcho (client : Client) (message : ServerMessage) (rawLine : Bytes) : Except ClassName Bool :=
  match client.boundedTurnEcho with
  | some (threadId, input) =>
    if client.captureContract = .boundedTurnEcho ∧ rawLine.length ≤ MAXIMUM_USER_INPUT_ECHO_BYTES then
      if isBoundedTurnUserInputEcho message (some input) threadId none then .ok true
      else do
        let agent ← isBoundedTurnAgentOutput message threadId client.boundedTurnId
        return agent && client.boundedTurnId.isSome
    else .ok false
  | none => .ok false

def isInteger : Json → Bool
  | .int _ => true
  | _ => false

/-- A nonempty string method, params absent or an object, an id absent or an integer. -/
def methodShape (message : Members) : Bool :=
  (match get message "method" with
    | .str method => !method.isEmpty
    | _ => false) &&
  (!has message "params" || (get message "params").members?.isSome) && (!has message "id" || isInteger (get message "id"))

def readMethodFrame (host : Host) (message : Members) (rawLine : Bytes) : Reader Unit := do
  if methodShape message then
    let wrapped : ServerMessage := ⟨message, some rawLine⟩
    let client ← Effect.read
    let selected ← Effect.lift (isSelectedEcho client wrapped rawLine)
    if MAXIMUM_RETAINED_ADAPTER_EVENT_BYTES < rawLine.length && !selected then
      refuseFrame "App Server notification or server request refused by retained-event byte bound" none
    else offerMessage host (has message "id") wrapped
  else refuseFrame "App Server method frame refused as malformed protocol shape" (some rawLine)

/-- The turn that a `turn/start` response names. -/
def startedTurn (message : Members) : Option Text :=
  match get message "result" with
  | .obj result =>
    match get result "turn" with
    | .obj turn => if boundedId (get turn "id") then (get turn "id").text? else none
    | _ => none
  | _ => none

def offerResponse (host : Host) (message : Members) (rawLine : Bytes) (requestMethod : Text) : Reader Unit := do
  if MAXIMUM_RETAINED_ADAPTER_EVENT_BYTES < rawLine.length then
    refuseFrame "App Server response refused by retained-event byte bound" none
  else
    let taken ← nextOrderedLocked (host.copies message) "CLIENT_RESPONSE" (some ⟨message, some rawLine⟩) .null none (.str requestMethod)
    if taken then return ()
    else recordLossLocked (text "App Server ordered acquisition envelope refused by bounded queue") none

/-- The response is offered and then handed to the request that waits for it. -/
def readResponseFrame (host : Host) (message : Members) (rawLine : Bytes) : Reader Unit := do
  match get message "id" with
  | .int requestId =>
    let client ← Effect.read
    match client.pending.lookup requestId with
    | none => refuseFrame "App Server response refused for unknown request identity" (some rawLine)
    | some _ =>
      match client.pendingMethods.lookup requestId with
      | none => refuseFrame "App Server response refused without exact request-method custody" (some rawLine)
      | some requestMethod =>
        if requestMethod = text "turn/start" ∧ client.captureContract = .boundedTurnEcho ∧ (startedTurn message).isSome then
          Effect.modify fun client => { client with boundedTurnId := startedTurn message }
        offerResponse host message rawLine requestMethod
        let client ← Effect.read
        match client.pending.lookup requestId with
        | some none =>
          Effect.modify fun client => { client with
            pending := client.pending.map fun entry => if entry.1 = requestId then (entry.1, some message) else entry }
        | _ => refuseFrame "duplicate App Server response refused" (some rawLine)
  | _ => refuseFrame "App Server response refused with noninteger request identity" (some rawLine)

/-- One pass of `_read_stdout_loop` over a line up to its terminator or the end of the stream. -/
def readFrame (host : Host) (rawLine : Bytes) : Reader Unit := do
  let client ← Effect.read
  if client.maximumLineBytes < rawLine.length || rawLine.getLast? != some 10 then
    refuseFrame "App Server stdout frame refused by bounded acquisition" none
  else match decodeLine host rawLine with
    | .error none => refuseFrame "App Server stdout frame refused as invalid JSON" (some rawLine)
    | .error (some className) => Effect.raise className
    | .ok (.obj message) =>
      if has message "method" then readMethodFrame host message rawLine
      else if has message "id" then readResponseFrame host message rawLine
      else refuseFrame "App Server stdout object refused as unclassified protocol frame" (some rawLine)
    | .ok _ => refuseFrame "App Server stdout JSON frame refused as a non-object" (some rawLine)

end Switchyard.AppServer
