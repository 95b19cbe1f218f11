import Switchyard.AppServer.Acquisition

/-! The stdout reader in smaller steps: a line is classified before the acquisition
lock is taken, and what it then asks for is a list of actions that a drain may separate. -/

namespace Switchyard.AppServer
open Library Json

/-- The kinds of ordered envelope that hold a stdout line. -/
inductive FrameKind
  | notification
  | serverRequest
  | clientResponse (requestMethod : Text)

def FrameKind.name : FrameKind → String
  | .notification => "NOTIFICATION"
  | .serverRequest => "SERVER_REQUEST"
  | .clientResponse _ => "CLIENT_RESPONSE"

def FrameKind.requestMethod : FrameKind → Json
  | .clientResponse method => .str method
  | _ => .null

/-- What is left to do under the acquisition lock. -/
inductive Action
  | offer (serverRequest : Bool) (message : Members) (rawLine : Bytes)
  | order (kind : FrameKind) (message : Members) (rawLine : Bytes)
  | refuse (message : String) (rawBytes : Option Bytes)
  | lose (message : Text) (rawBytes : Option Bytes)
  | hand (requestId : Int) (message : Members) (rawLine : Bytes)

def refusedEnvelope : Text := text "App Server ordered acquisition envelope refused by bounded queue"

/-- The action up to its first queue operation, with the actions that must follow. -/
def Action.perform (host : Host) : Action → Reader (List Action)
  | .offer serverRequest message rawLine => do
    let client ← Effect.read
    match (client.queueFor serverRequest).putNowait ⟨message, some rawLine⟩ with
    | .error .full =>
      Effect.modify fun client =>
        if serverRequest then { client with serverRequestOverflows := client.serverRequestOverflows + 1 }
        else { client with notificationOverflows := client.notificationOverflows + 1 }
      return [.lose (text (if serverRequest then "App Server server request refused by bounded acquisition queue"
        else "App Server notification refused by bounded acquisition queue")) (some rawLine)]
    | .error (.raised className) => Effect.raise className
    | .ok target =>
      Effect.modify fun client => client.withQueueFor serverRequest target
      return [.order (if serverRequest then .serverRequest else .notification) message rawLine]
  | .order kind message rawLine => do
    let taken ← nextOrderedLocked (host.copies message) kind.name (some ⟨message, some rawLine⟩) .null none kind.requestMethod
    return if taken then [] else [.lose refusedEnvelope none]
  | .refuse message rawBytes => do
    Effect.modify fun client => { client with stdoutRefusedFrames := client.stdoutRefusedFrames + 1 }
    return [.lose (text message) rawBytes]
  | .lose message rawBytes => do
    recordLossLocked message rawBytes
    return []
  | .hand requestId message rawLine => do
    let client ← Effect.read
    match client.pending.lookup requestId with
    | some none =>
      Effect.modify fun client => { client with
        pending := client.pending.map fun entry => if entry.1 = requestId then (entry.1, some message) else entry }
      return []
    | _ => return [.refuse "duplicate App Server response refused" (some rawLine)]

/-- What a method frame asks for, as its selection is read before the lock is taken. -/
def methodActions (message : Members) (rawLine : Bytes) : Reader (List Action) := do
  if methodShape message then
    let client ← Effect.read
    let selected ← Effect.lift (isSelectedEcho client ⟨message, some rawLine⟩ rawLine)
    if MAXIMUM_RETAINED_ADAPTER_EVENT_BYTES < rawLine.length && !selected then
      return [.refuse "App Server notification or server request refused by retained-event byte bound" none]
    else return [.offer (has message "id") message rawLine]
  else return [.refuse "App Server method frame refused as malformed protocol shape" (some rawLine)]

def responseActions (message : Members) (rawLine : Bytes) : Reader (List Action) := do
  match get message "id" with
  | .int requestId =>
    let client ← Effect.read
    match client.pending.lookup requestId with
    | none => return [.refuse "App Server response refused for unknown request identity" (some rawLine)]
    | some _ =>
      match client.pendingMethods.lookup requestId with
      | none => return [.refuse "App Server response refused without exact request-method custody" (some rawLine)]
      | some requestMethod =>
        if requestMethod = text "turn/start" ∧ client.captureContract = .boundedTurnEcho ∧ (startedTurn message).isSome then
          Effect.modify fun client => { client with boundedTurnId := startedTurn message }
        let offered : Action := if MAXIMUM_RETAINED_ADAPTER_EVENT_BYTES < rawLine.length then
            .refuse "App Server response refused by retained-event byte bound" none
          else .order (.clientResponse requestMethod) message rawLine
        return [offered, .hand requestId message rawLine]
  | _ => return [.refuse "App Server response refused with noninteger request identity" (some rawLine)]

/-- What one line asks for under the lock. -/
def frameActions (host : Host) (rawLine : Bytes) : Reader (List Action) := do
  let client ← Effect.read
  if client.maximumLineBytes < rawLine.length || rawLine.getLast? != some 10 then
    return [.refuse "App Server stdout frame refused by bounded acquisition" none]
  else match decodeLine host rawLine with
    | .error none => return [.refuse "App Server stdout frame refused as invalid JSON" (some rawLine)]
    | .error (some className) => Effect.raise className
    | .ok (.obj message) =>
      if has message "method" then methodActions message rawLine
      else if has message "id" then responseActions message rawLine
      else return [.refuse "App Server stdout object refused as unclassified protocol frame" (some rawLine)]
    | .ok _ => return [.refuse "App Server stdout JSON frame refused as a non-object" (some rawLine)]

/-- An action with all that follows it, when nothing intervenes. -/
def Action.whole (host : Host) : Action → Reader Unit
  | .offer serverRequest message rawLine => offerMessage host serverRequest ⟨message, some rawLine⟩
  | .order kind message rawLine => do
    let taken ← nextOrderedLocked (host.copies message) kind.name (some ⟨message, some rawLine⟩) .null none kind.requestMethod
    if taken then return () else recordLossLocked refusedEnvelope none
  | .refuse message rawBytes => refuseFrame message rawBytes
  | .lose message rawBytes => recordLossLocked message rawBytes
  | .hand requestId message rawLine => do
    let client ← Effect.read
    match client.pending.lookup requestId with
    | some none =>
      Effect.modify fun client => { client with
        pending := client.pending.map fun entry => if entry.1 = requestId then (entry.1, some message) else entry }
    | _ => refuseFrame "duplicate App Server response refused" (some rawLine)

def performAll (host : Host) : List Action → Reader Unit
  | [] => return ()
  | action :: rest => do
    action.whole host
    performAll host rest

variable {host : Host}

theorem performAll_single (action : Action) : performAll host [action] = action.whole host := by
  funext client
  simp only [performAll, Effect.bind_apply]
  cases action.whole host client with
  | mk outcome after => cases outcome <;> rfl

private theorem asked (action : Action) (client : Client) :
    ((pure [action] : Reader (List Action)) >>= performAll host) client = action.whole host client :=
  congrFun (performAll_single action) client

/-- An action with nothing in between is its first step with all that must follow. -/
theorem Action.whole_perform (action : Action) : action.whole host = action.perform host >>= performAll host := by
  funext client
  cases action with
  | offer serverRequest message rawLine =>
    simp only [Action.whole, Action.perform, offerMessage, Effect.bind_apply, Effect.read_apply]
    cases (client.queueFor serverRequest).putNowait ⟨message, some rawLine⟩ with
    | ok target =>
      simp only [Effect.bind_apply, Effect.modify_apply, Effect.pure_apply, performAll_single]
      cases serverRequest <;> rfl
    | error refusal =>
      cases refusal with
      | full => simp only [Effect.bind_apply, Effect.modify_apply, Effect.pure_apply, performAll_single, Action.whole]
      | raised className => rfl
  | order kind message rawLine =>
    simp only [Action.whole, Action.perform, Effect.bind_apply]
    cases nextOrderedLocked (host.copies message) kind.name (some ⟨message, some rawLine⟩) .null none kind.requestMethod client with
    | mk outcome after =>
      cases outcome with
      | error className => rfl
      | ok taken =>
        cases taken with
        | true => rfl
        | false => exact (congrFun (performAll_single (.lose refusedEnvelope none)) after).symm
  | refuse message rawBytes =>
    simp only [Action.whole, Action.perform, refuseFrame, Effect.bind_apply, Effect.modify_apply, Effect.pure_apply,
      performAll_single]
  | lose message rawBytes =>
    simp only [Action.whole, Action.perform, Effect.bind_apply]
    cases recordLossLocked message rawBytes client with
    | mk outcome after => cases outcome <;> rfl
  | hand requestId message rawLine =>
    simp only [Action.whole, Action.perform, Effect.bind_apply, Effect.read_apply]
    cases client.pending.lookup requestId with
    | none => exact (asked (.refuse "duplicate App Server response refused" (some rawLine)) client).symm
    | some answer =>
      cases answer with
      | none => rfl
      | some response => exact (asked (.refuse "duplicate App Server response refused" (some rawLine)) client).symm

private theorem refused (message : String) (rawBytes : Option Bytes) (client : Client) :
    refuseFrame message rawBytes client = ((pure [.refuse message rawBytes] : Reader (List Action)) >>= performAll host) client :=
  (asked (.refuse message rawBytes) client).symm

private theorem readMethodFrame_actions (message : Members) (rawLine : Bytes) (client : Client) :
    readMethodFrame host message rawLine client = (methodActions message rawLine >>= performAll host) client := by
  simp only [readMethodFrame, methodActions]
  by_cases shape : methodShape message
  · rw [if_pos shape, if_pos shape]
    simp only [Effect.bind_apply, Effect.read_apply]
    cases selection : isSelectedEcho client ⟨message, some rawLine⟩ rawLine with
    | error className => rfl
    | ok selected =>
      simp only [Effect.lift_ok]
      by_cases large : (decide (MAXIMUM_RETAINED_ADAPTER_EVENT_BYTES < rawLine.length) && !selected) = true
      · rw [if_pos large, if_pos large]
        exact refused _ _ client
      · rw [if_neg large, if_neg large]
        exact (asked (.offer (has message "id") message rawLine) client).symm
  · rw [if_neg shape, if_neg shape]
    exact refused _ _ client

/-- The two actions of a response, in their order. -/
private theorem deliver_actions (message : Members) (rawLine : Bytes) (requestMethod : Text) (requestId : Int) (client : Client) :
    (offerResponse host message rawLine requestMethod >>= fun _ => (Action.hand requestId message rawLine).whole host) client =
      performAll host [if MAXIMUM_RETAINED_ADAPTER_EVENT_BYTES < rawLine.length then
          .refuse "App Server response refused by retained-event byte bound" none
        else .order (.clientResponse requestMethod) message rawLine, .hand requestId message rawLine] client := by
  have offered : offerResponse host message rawLine requestMethod = (if MAXIMUM_RETAINED_ADAPTER_EVENT_BYTES < rawLine.length then
      Action.refuse "App Server response refused by retained-event byte bound" none
      else .order (.clientResponse requestMethod) message rawLine).whole host := by
    unfold offerResponse
    by_cases large : MAXIMUM_RETAINED_ADAPTER_EVENT_BYTES < rawLine.length
    · rw [if_pos large, if_pos large]
      rfl
    · rw [if_neg large, if_neg large]
      rfl
  rw [offered, performAll, performAll_single]

private theorem readResponseFrame_actions (message : Members) (rawLine : Bytes) (client : Client) :
    readResponseFrame host message rawLine client = (responseActions message rawLine >>= performAll host) client := by
  unfold readResponseFrame responseActions
  cases get message "id" with
  | int requestId =>
    dsimp only
    simp only [Effect.bind_apply, Effect.read_apply]
    cases client.pending.lookup requestId with
    | none => exact refused _ _ client
    | some _ =>
      dsimp only
      cases client.pendingMethods.lookup requestId with
      | none => exact refused _ _ client
      | some requestMethod =>
        dsimp only
        by_cases started : requestMethod = text "turn/start" ∧ client.captureContract = .boundedTurnEcho ∧
            (startedTurn message).isSome
        · rw [if_pos started, if_pos started]
          exact deliver_actions message rawLine requestMethod requestId _
        · rw [if_neg started, if_neg started]
          exact deliver_actions message rawLine requestMethod requestId _
  | _ => exact refused _ _ client

/-- Reading a frame is classifying its line and then performing what it asks for. -/
theorem readFrame_actions (host : Host) (rawLine : Bytes) :
    readFrame host rawLine = frameActions host rawLine >>= performAll host := by
  funext client
  simp only [readFrame, frameActions, Effect.bind_apply, Effect.read_apply]
  by_cases broken : (decide (client.maximumLineBytes < rawLine.length) || rawLine.getLast? != some 10) = true
  · rw [if_pos broken, if_pos broken]
    exact refused _ _ client
  · rw [if_neg broken, if_neg broken]
    cases decodeLine host rawLine with
    | error failure =>
      cases failure with
      | none => exact refused _ _ client
      | some className => rfl
    | ok value =>
      cases value with
      | obj message =>
        dsimp only
        by_cases method : has message "method" = true
        · rw [if_pos method, if_pos method]
          exact readMethodFrame_actions message rawLine client
        · rw [if_neg method, if_neg method]
          by_cases response : has message "id" = true
          · rw [if_pos response, if_pos response]
            exact readResponseFrame_actions message rawLine client
          · rw [if_neg response, if_neg response]
            exact refused _ _ client
      | _ => exact refused _ _ client

end Switchyard.AppServer
