import Switchyard.AppServer.Checks
import Switchyard.Library.Lines
import Switchyard.Library.Transition

/-! The parties around one started client: two reader threads, the callers of
`request`, whoever drains the ordered queue, and the terminal cut. The
acquisition lock has one holder at a time; a drain needs no lock. -/

namespace Switchyard.AppServer
open Library Json

def MAXIMUM_APP_SERVER_STDERR_LINE_BYTES : Nat := 16 * 1024
def MAXIMUM_APP_SERVER_STDERR_QUEUE_ITEMS : Nat := 256
def MAXIMUM_APP_SERVER_STDERR_QUEUE_BYTES : Nat := 1024 * 1024

/-- A reader thread and a holder of the acquisition lock. -/
inductive Side
  | stdout
  | stderr
deriving DecidableEq

inductive Party
  | reader (side : Side)
  | writer
  | quiescer
deriving DecidableEq

inductive Disposition
  | running
  | cleanEof
  | failure
deriving DecidableEq

def Disposition.name : Disposition → String
  | .running => "RUNNING"
  | .cleanEof => "CLEAN_EOF"
  | .failure => "FAILURE"

/-- Between two lines, with a line already classified, on its way out of an exception, or done. -/
inductive Phase
  | looping
  | decided (actions : List Action)
  | failed (detail : Text)
  | marked (detail : Text)
  | ended

structure Thread where
  lines : List Bytes
  phase : Phase
  disposition : Disposition

/-- The bounds on the stderr side that the constructor accepts. -/
structure StderrLimits where
  lineBytes : Nat
  items : Nat
  bytes : Nat
  line : 1 ≤ lineBytes ∧ lineBytes ≤ MAXIMUM_APP_SERVER_STDERR_LINE_BYTES
  queue : 1 ≤ items ∧ items ≤ MAXIMUM_APP_SERVER_STDERR_QUEUE_ITEMS ∧
    1 ≤ bytes ∧ bytes ≤ MAXIMUM_APP_SERVER_STDERR_QUEUE_BYTES

structure Stderr where
  maximumLineBytes : Nat
  lines : ByteBoundedQueue Text
  refusedFrames : Nat
  queueOverflows : Nat

/-- A request that has passed its checks, with the bytes to send. -/
structure Transmission where
  request : Request
  wire : Bytes

/-- Who has the write lock, and how far it got. -/
inductive Writing
  | ordering (transmission : Transmission)
  | refusing (transmission : Transmission)
  | sending (transmission : Transmission)
  | quiescing

inductive Stage
  | lock
  | close
  | release
  | wait
  | terminate
  | confirmTerminate
  | kill
  | confirmKill
  | join (side : Side)
  | check (side : Side)
  | conclude
  | returned (cut : AcquisitionCut)
  | raised

structure Quiesce where
  stage : Stage
  streamQuiesced : Bool
  processDisposition : String

/-- How an operation on the process, a lock or a thread ends. -/
inductive Outcome
  | fine
  | timedOut
  | failed (detail : Text)

def Side.failure : Side → String
  | .stdout => "App Server stdout reader failed: "
  | .stderr => "App Server stderr reader failed: "

/-- What follows the check of one reader. -/
def Side.next : Side → Stage
  | .stdout => .join .stderr
  | .stderr => .conclude

/-- `quiesce_acquisition` at the operations whose outcome it does not choose: where it goes
on, the process disposition it learns, and the loss it records. -/
def Stage.proceed : Stage → Outcome → Option (Stage × Option String × Option Text)
  | .lock, .timedOut => some (.wait, none, some (text "App Server writer lock did not quiesce at terminal evidence boundary"))
  | .lock, .failed detail =>
    some (.wait, none, some (text "App Server input close failed at terminal evidence boundary: " ++ detail))
  | .close, .failed detail =>
    some (.release, none, some (text "App Server input close failed at terminal evidence boundary: " ++ detail))
  | .wait, .fine => some (.join .stdout, some "EXITED", none)
  | .wait, .timedOut => some (.terminate, none, some (text "App Server did not quiesce at terminal evidence boundary"))
  | .wait, .failed detail =>
    some (.terminate, none, some (text "App Server wait failed at terminal evidence boundary: " ++ detail))
  | .terminate, .fine => some (.confirmTerminate, none, none)
  | .terminate, .failed detail =>
    some (.confirmTerminate, none, some (text "App Server terminate failed at terminal evidence boundary: " ++ detail))
  | .confirmTerminate, .fine => some (.join .stdout, some "EXITED_AFTER_TERMINATE", none)
  | .confirmTerminate, .timedOut =>
    some (.kill, none, some (text "App Server did not exit after terminate at terminal evidence boundary"))
  | .confirmTerminate, .failed detail =>
    some (.kill, none, some (text "App Server terminate wait failed at terminal evidence boundary: " ++ detail))
  | .kill, .fine => some (.confirmKill, none, none)
  | .kill, .failed detail =>
    some (.confirmKill, none, some (text "App Server kill failed at terminal evidence boundary: " ++ detail))
  | .confirmKill, .fine => some (.join .stdout, some "EXITED_AFTER_KILL", none)
  | .confirmKill, .failed detail =>
    some (.join .stdout, some "EXIT_UNCONFIRMED",
      some (text "App Server final wait failed at terminal evidence boundary: " ++ detail))
  | .join side, .timedOut =>
    some (side.next, none, some (text "App Server reader did not reach EOF at terminal evidence boundary"))
  | .join side, .failed detail =>
    some (side.next, none, some (text "App Server reader join failed at terminal evidence boundary: " ++ detail))
  | _, _ => none

structure System where
  client : Client
  stdout : Thread
  stderr : Thread
  stderrState : Stderr
  holder : Option (Party × List Action)
  nextId : Nat
  issued : List Request
  waiting : List Transmission
  writer : Option Writing
  stdinClosed : Bool
  finishing : List (Nat × Option Text)
  quiesce : Option Quiesce
  adapterProcessOccurrenceId : Text
  appServerSessionIdentity : Text

namespace System

def thread (system : System) : Side → Thread
  | .stdout => system.stdout
  | .stderr => system.stderr

def withThread (system : System) (side : Side) (thread : Thread) : System :=
  match side with
  | .stdout => { system with stdout := thread }
  | .stderr => { system with stderr := thread }

def holds (system : System) (party : Party) : Prop := ∃ actions, system.holder = some (party, actions)

/-- The holder of the lock takes an exception. -/
def interrupt (system : System) (detail : Text) : Party → System
  | .reader side =>
    match (system.thread side).phase with
    | .looping => { system.withThread side { system.thread side with phase := .failed detail } with holder := none }
    | _ => { system with holder := none }
  | .writer =>
    match system.writer with
    | some (.refusing transmission) => { system with
        holder := none
        writer := none
        finishing := system.finishing ++ [(transmission.request.requestId, none)] }
    | _ => { system with holder := none }
  | .quiescer => { system with
      holder := none
      writer := match system.writer with
        | some .quiescing => none
        | writer => writer
      quiesce := system.quiesce.map fun quiesce => { quiesce with stage := .raised } }

end System

section
variable (host : Host) (floatRepr : ℚ → Text) (replaced : Bytes → { line : Text // line.Scalar })

/-- `str.rstrip("\r\n")`. -/
def rstripLine (line : Text) : Text :=
  (line.reverse.dropWhile fun point => point.val == 13 || point.val == 10).reverse

/-- One pass of `_read_stderr_loop`, where `replaced` decodes with replacement characters. -/
def stderrActions (rawLine : Bytes) (stderr : Stderr) : List Action × Stderr :=
  if stderr.maximumLineBytes < rawLine.length || rawLine.getLast? != some 10 then
    ([.lose (text "App Server stderr frame refused by bounded acquisition") none],
      { stderr with refusedFrames := stderr.refusedFrames + 1 })
  else match stderr.lines.putNowait (rstripLine (replaced rawLine).val) with
    | .ok lines => ([], { stderr with lines := lines })
    | .error _ => ([.lose (text "App Server stderr line refused by bounded acquisition queue") none],
        { stderr with queueOverflows := stderr.queueOverflows + 1 })

/-- `_pending.pop` and `_pending_methods.pop`. -/
def unregister (requestId : Nat) (client : Client) : Client := { client with
  pending := client.pending.filter fun entry => entry.1 != requestId
  pendingMethods := client.pendingMethods.filter fun entry => entry.1 != requestId }

/-- The caller resumes with its response. -/
def resume (requestId : Nat) (requestMethod : Text) (response : Members) (client : Client) : Client :=
  let client := unregister requestId client
  if !has response "error" && requestMethod = text "turn/start" && client.captureContract = .boundedTurnEcho &&
      (startedTurn response).isSome then
    { client with boundedTurnId := startedTurn response }
  else client

/-- What a step shows: a line read with the selection its reader saw, a request that is given an
ordinal or has been sent, an envelope that was drained, and the cut. -/
inductive Label
  | quiet
  | took (rawLine : Bytes) (echo : Option (Text × Json)) (turnId : Option Text)
  | ordered (wire : Bytes)
  | sent (wire : Bytes)
  | got (envelope : AcquisitionEnvelope)
  | cut (cut : AcquisitionCut)

/-- The request is copied before `_next_ordered_locked` is called, which copies it once more. -/
def orderRequest (transmission : Transmission) : Reader Bool :=
  if host.copies transmission.request.message then
    nextOrderedLocked true "CLIENT_REQUEST" (some ⟨transmission.request.message, some transmission.wire⟩) .null none
      (.str transmission.request.method)
  else Effect.raise recursionError

def System.cutOf (system : System) (quiesce : Quiesce) : AcquisitionCut where
  streamQuiesced := .bool quiesce.streamQuiesced
  lossGeneration := .int system.client.lossGeneration
  processDisposition := .str (text quiesce.processDisposition)
  orderedHighWater := .int system.client.acquisitionOrdinal
  adapterProcessOccurrenceId := .str system.adapterProcessOccurrenceId
  appServerSessionIdentity := .str system.appServerSessionIdentity

/-- One step of one party. -/
inductive Step : System → Label → System → Prop
  | perform {system : System} {party : Party} {action : Action} {rest next : List Action} {client : Client} :
      system.holder = some (party, action :: rest) → action.perform host system.client = (.ok next, client) →
      Step system .quiet { system with client := client, holder := some (party, next ++ rest) }
  /-- The queue of a caller that no longer waits may still take one response. -/
  | orphaned {system : System} {party : Party} {requestId : Int} {message : Members} {rawLine : Bytes} {rest : List Action} :
      system.holder = some (party, .hand requestId message rawLine :: rest) → system.client.pending.lookup requestId = none →
      Step system .quiet { system with holder := some (party, rest) }
  | interrupted {system : System} {party : Party} {action : Action} {rest : List Action} {className : ClassName}
      {client : Client} {detail : Text} :
      system.holder = some (party, action :: rest) → action.perform host system.client = (.error className, client) →
      Step system .quiet ({ system with client := client }.interrupt detail party)
  | leave {system : System} {party : Party} :
      system.holder = some (party, []) → Step system .quiet { system with holder := none }
  | read {system : System} {rawLine : Bytes} {rest : List Bytes} {actions : List Action} {client : Client} :
      system.stdout.phase = .looping → ¬ system.holds (.reader .stdout) → system.stdout.lines = rawLine :: rest →
      frameActions host rawLine system.client = (.ok actions, client) →
      Step system (.took rawLine system.client.boundedTurnEcho system.client.boundedTurnId)
        { system with client := client, stdout := { system.stdout with lines := rest, phase := .decided actions } }
  | misread {system : System} {rawLine : Bytes} {rest : List Bytes} {className : ClassName} {client : Client} {detail : Text} :
      system.stdout.phase = .looping → ¬ system.holds (.reader .stdout) → system.stdout.lines = rawLine :: rest →
      frameActions host rawLine system.client = (.error className, client) →
      Step system (.took rawLine system.client.boundedTurnEcho system.client.boundedTurnId)
        { system with client := client, stdout := { system.stdout with lines := rest, phase := .failed detail } }
  | readStderr {system : System} {rawLine : Bytes} {rest : List Bytes} :
      system.stderr.phase = .looping → ¬ system.holds (.reader .stderr) → system.stderr.lines = rawLine :: rest →
      Step system .quiet { system with
        stderr := { system.stderr with lines := rest, phase := .decided (stderrActions replaced rawLine system.stderrState).1 }
        stderrState := (stderrActions replaced rawLine system.stderrState).2 }
  | broken {system : System} {side : Side} {detail : Text} :
      (system.thread side).phase = .looping → ¬ system.holds (.reader side) →
      Step system .quiet (system.withThread side { system.thread side with phase := .failed detail })
  | enter {system : System} {side : Side} {actions : List Action} :
      (system.thread side).phase = .decided actions → system.holder = none →
      Step system .quiet { system.withThread side { system.thread side with phase := .looping } with
        holder := some (.reader side, actions) }
  | mark {system : System} {side : Side} {detail : Text} :
      (system.thread side).phase = .failed detail → system.holder = none →
      Step system .quiet (system.withThread side { system.thread side with phase := .marked detail, disposition := .failure })
  | report {system : System} {side : Side} {detail : Text} :
      (system.thread side).phase = .marked detail → system.holder = none →
      Step system .quiet { system.withThread side { system.thread side with phase := .ended } with
        holder := some (.reader side, [.lose (text side.failure ++ detail) none]) }
  | eof {system : System} {side : Side} :
      (system.thread side).phase = .looping → system.holder = none → (system.thread side).lines = [] →
      Step system .quiet (system.withThread side { system.thread side with phase := .ended, disposition := .cleanEof })
  /-- `request` draws an identity and registers its response queue. -/
  | issue {system : System} {method : Text} {params : Option Members} :
      Step system .quiet { system with
        nextId := system.nextId + 1
        issued := system.issued ++ [⟨system.nextId, method, params⟩]
        client := { system.client with
          pending := system.client.pending ++ [((system.nextId : Int), none)]
          pendingMethods := system.client.pendingMethods ++ [((system.nextId : Int), method)] } }
  | pass {system : System} {before after : List Request} {request : Request} {wire : Bytes} {client : Client} :
      system.issued = before ++ request :: after → checkRequest floatRepr request system.client = (.ok wire, client) →
      Step system .quiet { system with
        client := client, issued := before ++ after, waiting := system.waiting ++ [⟨request, wire⟩] }
  | fail {system : System} {before after : List Request} {request : Request} {className : ClassName} {client : Client} :
      system.issued = before ++ request :: after → checkRequest floatRepr request system.client = (.error className, client) →
      Step system .quiet { system with
        client := client, issued := before ++ after, finishing := system.finishing ++ [(request.requestId, none)] }
  | acquire {system : System} {before after : List Transmission} {transmission : Transmission} :
      system.waiting = before ++ transmission :: after → system.writer = none →
      Step system .quiet { system with waiting := before ++ after, writer := some (.ordering transmission) }
  | order {system : System} {transmission : Transmission} {client : Client} :
      system.writer = some (.ordering transmission) → system.holder = none →
      orderRequest host transmission system.client = (.ok true, client) →
      Step system (.ordered transmission.wire) { system with client := client, writer := some (.sending transmission) }
  | orderRefused {system : System} {transmission : Transmission} {client : Client} :
      system.writer = some (.ordering transmission) → system.holder = none →
      orderRequest host transmission system.client = (.ok false, client) →
      Step system (.ordered transmission.wire) { system with
        client := client
        writer := some (.refusing transmission)
        holder := some (.writer, [.lose (text "App Server ordered client request refused by bounded queue") none]) }
  | orderRaised {system : System} {transmission : Transmission} {className : ClassName} {client : Client} :
      system.writer = some (.ordering transmission) → system.holder = none →
      orderRequest host transmission system.client = (.error className, client) →
      Step system .quiet { system with
        client := client, writer := none, finishing := system.finishing ++ [(transmission.request.requestId, none)] }
  | refused {system : System} {transmission : Transmission} :
      system.writer = some (.refusing transmission) → ¬ system.holds .writer →
      Step system .quiet { system with
        writer := none, finishing := system.finishing ++ [(transmission.request.requestId, none)] }
  | send {system : System} {transmission : Transmission} :
      system.writer = some (.sending transmission) → system.stdinClosed = false →
      Step system (.sent transmission.wire) { system with
        writer := none
        finishing := system.finishing ++ [(transmission.request.requestId, some transmission.request.method)] }
  | unsent {system : System} {transmission : Transmission} :
      system.writer = some (.sending transmission) →
      Step system .quiet { system with
        writer := none, finishing := system.finishing ++ [(transmission.request.requestId, none)] }
  | answered {system : System} {before after : List (Nat × Option Text)} {requestId : Nat} {method : Text} {response : Members} :
      system.finishing = before ++ (requestId, some method) :: after →
      system.client.pending.lookup (requestId : Int) = some (some response) →
      Step system .quiet { system with
        client := resume requestId method response system.client, finishing := before ++ after }
  | abandoned {system : System} {before after : List (Nat × Option Text)} {requestId : Nat} {method : Option Text} :
      system.finishing = before ++ (requestId, method) :: after →
      Step system .quiet { system with client := unregister requestId system.client, finishing := before ++ after }
  | got {system : System} {source rest : ByteBoundedQueue AcquisitionEnvelope} {envelope : AcquisitionEnvelope} :
      system.client.orderedAcquisition = some source → source.getNowait = some (envelope, rest) →
      Step system (.got envelope) { system with client := { system.client with orderedAcquisition := some rest } }
  | begin {system : System} : system.quiesce = none →
      Step system .quiet { system with quiesce := some ⟨.lock, true, "RUNNING"⟩ }
  | lock {system : System} {quiesce : Quiesce} :
      system.quiesce = some quiesce → quiesce.stage = .lock → system.writer = none →
      Step system .quiet { system with writer := some .quiescing, quiesce := some { quiesce with stage := .close } }
  | close {system : System} {quiesce : Quiesce} :
      system.quiesce = some quiesce → quiesce.stage = .close →
      Step system .quiet { system with stdinClosed := true, quiesce := some { quiesce with stage := .release } }
  | release {system : System} {quiesce : Quiesce} :
      system.quiesce = some quiesce → quiesce.stage = .release → ¬ system.holds .quiescer →
      Step system .quiet { system with writer := none, quiesce := some { quiesce with stage := .wait } }
  | proceed {system : System} {quiesce : Quiesce} {outcome : Outcome} {stage : Stage} {learnt : Option String} :
      system.quiesce = some quiesce → ¬ system.holds .quiescer → quiesce.stage.proceed outcome = some (stage, learnt, none) →
      Step system .quiet { system with quiesce := some { quiesce with
        stage := stage, processDisposition := learnt.getD quiesce.processDisposition } }
  | proceedLossy {system : System} {quiesce : Quiesce} {outcome : Outcome} {stage : Stage} {learnt : Option String}
      {reason : Text} : system.quiesce = some quiesce → system.holder = none →
      quiesce.stage.proceed outcome = some (stage, learnt, some reason) →
      Step system .quiet { system with
        holder := some (.quiescer, [.lose reason none])
        quiesce := some ⟨stage, false, learnt.getD quiesce.processDisposition⟩ }
  | joined {system : System} {quiesce : Quiesce} {side : Side} :
      system.quiesce = some quiesce → ¬ system.holds .quiescer → quiesce.stage = .join side →
      (system.thread side).phase = .ended → ¬ system.holds (.reader side) →
      Step system .quiet { system with quiesce := some { quiesce with stage := .check side } }
  | checked {system : System} {quiesce : Quiesce} {side : Side} :
      system.quiesce = some quiesce → system.holder = none → quiesce.stage = .check side →
      (system.thread side).disposition = .cleanEof →
      Step system .quiet { system with quiesce := some { quiesce with stage := side.next } }
  | unclean {system : System} {quiesce : Quiesce} {side : Side} :
      system.quiesce = some quiesce → system.holder = none → quiesce.stage = .check side →
      (system.thread side).disposition ≠ .cleanEof →
      Step system .quiet { system with
        holder := some (.quiescer, [.lose (text "App Server reader ended without clean EOF: " ++
          text (system.thread side).disposition.name) none])
        quiesce := some { quiesce with stage := side.next, streamQuiesced := false } }
  | conclude {system : System} {quiesce : Quiesce} :
      system.quiesce = some quiesce → system.holder = none → quiesce.stage = .conclude →
      Step system (.cut (system.cutOf quiesce))
        { system with quiesce := some { quiesce with stage := .returned (system.cutOf quiesce) } }

end

/-- A client right after its threads have been started. -/
def System.initial (limits : Limits) (stderrLimits : StderrLimits) (captureContract : CaptureContract)
    (adapterProcessOccurrenceId appServerSessionIdentity : Text) (stdout stderr : Bytes) : System where
  client := Client.initial limits captureContract
  stdout := ⟨splitLines 10 stdout, .looping, .running⟩
  stderr := ⟨splitLines 10 stderr, .looping, .running⟩
  stderrState := ⟨stderrLimits.lineBytes, .empty stderrLimits.items stderrLimits.bytes utf8Length, 0, 0⟩
  holder := none
  nextId := 1
  issued := []
  waiting := []
  writer := none
  stdinClosed := false
  finishing := []
  quiesce := none
  adapterProcessOccurrenceId := adapterProcessOccurrenceId
  appServerSessionIdentity := appServerSessionIdentity

end Switchyard.AppServer
