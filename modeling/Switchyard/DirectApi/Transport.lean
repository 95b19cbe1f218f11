import Switchyard.Library.Base64
import Switchyard.DirectApi.Run

/-! The isolated transport: the envelope that is handed to a child process, what the
child makes of it, and what the parent makes of the child's one answer. -/

namespace Switchyard.DirectApi
open Library Json

/-- The arguments of one contact. -/
structure Contact where
  endpoint : Text
  body : Bytes
  credential : Text
  timeoutSeconds : Int
  maximumResponseBytes : Int
deriving DecidableEq

def Contact.envelope (contact : Contact) : Json := .obj (object [
  ("endpoint", .str contact.endpoint), ("body", .str (Base64.encode contact.body)), ("credential", .str contact.credential),
  ("timeout_seconds", .int contact.timeoutSeconds), ("maximum_response_bytes", .int contact.maximumResponseBytes)])

/-- How a child ends that writes nothing: `SystemExit(2)`, or an exception. -/
inductive ChildExit
  | refused
  | raised (className : ClassName)
deriving DecidableEq

def MAXIMUM_ENVELOPE : Nat := 16 * 1024 * 1024
def MAXIMUM_BODY : Nat := 8 * 1024 * 1024
def MAXIMUM_RESPONSE : Nat := 16 * 1024 * 1024

/-- The five members of an envelope, each of its type and within its range. -/
def admissibleEnvelope (envelope : Members) : Bool :=
  closed envelope ["endpoint", "body", "credential", "timeout_seconds", "maximum_response_bytes"] &&
    is (get envelope "endpoint") ENDPOINT && (get envelope "body").text?.isSome && (get envelope "credential").text?.isSome &&
    isBetween 1 300 (get envelope "timeout_seconds") && isBetween 1024 MAXIMUM_RESPONSE (get envelope "maximum_response_bytes")

/-- The checks of `_http_transport_child` on what it reads from its input. -/
def readEnvelope (host : Host) (raw : Bytes) : Except ChildExit Contact :=
  if raw.length > MAXIMUM_ENVELOPE then .error .refused
  else match host.loads raw with
    | .ok (.obj envelope) =>
      if admissibleEnvelope envelope then
        match Base64.decode? ((get envelope "body").text?.getD []) with
        | none => .error .refused
        | some body =>
          if body.length > MAXIMUM_BODY then .error .refused
          else .ok ⟨(get envelope "endpoint").text?.getD [], body, (get envelope "credential").text?.getD [],
            int envelope "timeout_seconds", int envelope "maximum_response_bytes"⟩
      else .error .refused
    | .ok _ | .error (.malformed _ _) | .error (.duplicateKey _) => .error .refused
    | .error (.other className) => .error (.raised className)

/-- What a child writes of its transport's answer, or of the class of its exception. -/
def childResult : Except ClassName (Int × Bytes) → Json
  | .ok (status, response) => .obj (object [("kind", .str (text "response")), ("status", .int status),
      ("body", .str (Base64.encode response))])
  | .error className => .obj (object [("kind", .str (text "error")), ("error_class", .str className.val)])

def Failure.className : Failure → ClassName
  | .protocol _ => Switchyard.className "AdapterProtocolError"
  | .other className => className

/-- `_http_transport_child` around the transport it runs. -/
def httpTransportChild (host : Host) (transport : Contact → Except ClassName (Int × Bytes)) (input : Bytes) :
    Except ChildExit Bytes := do
  let contact ← readEnvelope host input
  match canonical host (childResult (transport contact)) with
  | .ok output => .ok output
  | .error failure => .error (.raised failure.className)

def runtimeError : Raised := .other (className "RuntimeError")

/-- What the parent makes of the output of a child that has exited with code zero. -/
def readResult (host : Host) (maximumResponseBytes : Int) (output : Bytes) : Except Raised (Int × Bytes) :=
  match host.loads output with
  | .ok (.obj result) =>
    if is (get result "kind") "error" then
      if is (get result "error_class") "TimeoutError" || is (get result "error_class") "socket.timeout" then .error .timeout
      else if is (get result "error_class") "ResponseOverBound" then .error .responseOverBound
      else .error runtimeError
    else if is (get result "kind") "response" && closed result ["kind", "status", "body"] then
      match get result "status", get result "body" with
      | .int status, .str body => match Base64.decode? body with
        | some response => if response.length > maximumResponseBytes then .error .responseOverBound else .ok (status, response)
        | none => .error runtimeError
      | _, _ => .error runtimeError
    else .error runtimeError
  | .ok _ | .error (.malformed _ _) | .error (.duplicateKey _) => .error runtimeError
  | .error (.other className) => .error (.other className)

/-- `_isolated_http_transport`. A cancellation or the deadline may interrupt the child before it exits. -/
def isolatedHttpTransport (host : Host) (child : Bytes → Except ChildExit Bytes) (interrupted : Option Raised)
    (contact : Contact) : Except Raised (Int × Bytes) :=
  match canonical host contact.envelope with
  | .error failure => .error (Raised.of failure)
  | .ok payload => match interrupted with
    | some raised => .error raised
    | none => match child payload with
      | .error _ => .error runtimeError
      | .ok output =>
        if output.length > contact.maximumResponseBytes * 2 + 4096 then .error runtimeError
        else readResult host contact.maximumResponseBytes output

/-- The contact that `run` makes of a submission. -/
def Submission.contact {host : Host} (submission : Submission host) (body : Bytes) (credential : Text) : Contact :=
  ⟨text ENDPOINT, body, credential, int submission.request "timeout_seconds", int submission.request "maximum_response_bytes"⟩

end Switchyard.DirectApi
