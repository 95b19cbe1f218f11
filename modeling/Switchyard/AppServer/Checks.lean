import Switchyard.AppServer.Actions
import Switchyard.AppServer.Wire

/-! What `_write` checks of its arguments before it takes the write lock, for any call
and for a request of the client. -/

namespace Switchyard.AppServer
open Library Json

/-- The arguments of `_write`. -/
structure Call where
  message : Members
  acquisitionKind : Option String
  requestMethod : Option Text

namespace Call

def method (call : Call) : Json :=
  match call.requestMethod with
  | some method => .str method
  | none => .null

def byteBound (call : Call) (contract : CaptureContract) : Nat :=
  match call.requestMethod with
  | some method => clientRequestByteBound method contract
  | none => MAXIMUM_RETAINED_ADAPTER_EVENT_BYTES

def isRequest (call : Call) : Prop := call.acquisitionKind = some "CLIENT_REQUEST"

instance (call : Call) : Decidable call.isRequest := inferInstanceAs (Decidable (_ = _))

/-- What `_next_ordered_locked` puts into the queue. -/
def envelope (call : Call) (kind : String) (wire : Bytes) (ordinal : Nat) : AcquisitionEnvelope where
  ordinal := .int ordinal
  kind := .str (text kind)
  message := some ⟨call.message, some wire⟩
  diagnostic := .null
  rawBytes := none
  requestMethod := call.method

/-- The input that a bounded turn selects; `none` is an AppServerError. -/
def echo? (call : Call) : Option (Text × Json) :=
  match get call.message "params" with
  | .obj params =>
    match get params "threadId", normalizedBoundedTurnInput (get params "input") with
    | .str threadId, some expectedInput => if boundedId (.str threadId) then some (threadId, expectedInput) else none
    | _, _ => none
  | _ => none

end Call

section
variable (floatRepr : ℚ → Text)

/-- The checks of `_write` before it takes the write lock: the bytes to send and the input to select. -/
def examine (call : Call) (client : Client) : Except ClassName (Bytes × Option (Text × Json)) := do
  let wire ← requestWire floatRepr call.message
  if client.orderedAcquisition.isSome ∧ call.isRequest ∧
      (get call.message "method" ≠ call.method ∨ call.byteBound client.captureContract < wire.length) then
    .error (className "AppServerError")
  else if client.captureContract = .boundedTurnEcho ∧ call.isRequest ∧ call.requestMethod = some (text "turn/start") then
    match call.echo?, client.boundedTurnEcho with
    | some selection, none => .ok (wire, some selection)
    | _, _ => .error (className "AppServerError")
  else .ok (wire, none)

/-- The selection is stored by an assignment of its own. -/
def select (selection : Option (Text × Json)) (client : Client) : Client :=
  match selection with
  | some selection => { client with boundedTurnEcho := some selection }
  | none => client

/-- The checks of `_write` before it takes the write lock; they select the input of a bounded turn. -/
def checkRequest (request : Request) : Reader Bytes := do
  let client ← Effect.read
  let wire ← Effect.lift (requestWire floatRepr request.message)
  if clientRequestByteBound request.method client.captureContract < wire.length then
    Effect.raise (className "AppServerError")
  else
    if client.captureContract = .boundedTurnEcho ∧ request.method = text "turn/start" then
      match request.params with
      | some params =>
        match get params "threadId", normalizedBoundedTurnInput (get params "input") with
        | .str threadId, some expectedInput =>
          if boundedId (.str threadId) && client.boundedTurnEcho.isNone then
            Effect.modify fun client => { client with boundedTurnEcho := some (threadId, expectedInput) }
          else Effect.raise (className "AppServerError")
        | _, _ => Effect.raise (className "AppServerError")
      | none => Effect.raise (className "AppServerError")
    return wire

end

/-- A request as an argument of `_write`. -/
def Request.call (request : Request) : Call := ⟨request.message, some "CLIENT_REQUEST", some request.method⟩

@[simp] theorem Request.message_method (request : Request) : get request.message "method" = .str request.method := rfl

theorem Request.message_params (request : Request) :
    get request.message "params" = (request.params.map Json.obj).getD .null := by
  cases shape : request.params with
  | none => simp [Request.message, shape]; rfl
  | some params => simp [Request.message, shape]; rfl

/-- The checks of a request are these checks, followed by the selection. -/
theorem checkRequest_examine (floatRepr : ℚ → Text) (request : Request) {client : Client}
    (ordered : client.orderedAcquisition.isSome) : checkRequest floatRepr request client = match examine floatRepr request.call client with
      | .ok (wire, selection) => (.ok wire, select selection client)
      | .error className => (.error className, client) := by
  have asks : request.call.isRequest := rfl
  have bound : request.call.byteBound client.captureContract = clientRequestByteBound request.method client.captureContract := rfl
  have message : request.call.message = request.message := rfl
  simp only [checkRequest, examine, Effect.bind_apply, Effect.read_apply, ordered, asks, bound, message, true_and]
  cases requestWire floatRepr request.message with
  | error className => rfl
  | ok wire =>
    have named : get request.message "method" = request.call.method := rfl
    by_cases large : clientRequestByteBound request.method client.captureContract < wire.length
    · simp [large, bind, Except.bind]
    · have method : request.call.requestMethod = some (text "turn/start") ↔ request.method = text "turn/start" := by
        simp [Request.call]
      by_cases selects : client.captureContract = .boundedTurnEcho ∧ request.method = text "turn/start"
      · obtain ⟨contract, start⟩ := selects
        rw [contract, start] at large
        simp only [large, named, method, contract, start, bind, Except.bind, Call.echo?, message, request.message_params, ne_eq,
          not_true_eq_false, false_or, and_self, if_true, if_false, Effect.lift_ok]
        cases request.params with
        | none => rfl
        | some params =>
          simp only [Option.map_some, Option.getD_some]
          cases get params "threadId" with
          | str threadId =>
            cases normalizedBoundedTurnInput (get params "input") with
            | none => rfl
            | some expectedInput =>
              cases bounded : boundedId (.str threadId) with
              | false => simp [bounded, Effect.bind]
              | true => cases echo : client.boundedTurnEcho <;> simp [bounded, Effect.bind, select]
          | _ => rfl
      · simp [large, named, method, selects, bind, Except.bind, select]

end Switchyard.AppServer
