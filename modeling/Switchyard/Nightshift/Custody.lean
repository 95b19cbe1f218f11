import Switchyard.Library.Program
import Switchyard.AppServer.Frames
import Switchyard.Nightshift.Brief

/-! The adapter's store and what a call may ask: one guarded update serves every
operation, and an event is inserted at most once under its digest. -/

namespace Switchyard.Nightshift
open Library Json Runner AppServer

inductive Status
  | admitted
  | starting
  | running
  | waitingApproval
  | providerCompleted
  | terminal
  | indeterminate
deriving DecidableEq

def Status.name : Status → String
  | .admitted => "ADMITTED"
  | .starting => "STARTING"
  | .running => "RUNNING"
  | .waitingApproval => "WAITING_APPROVAL"
  | .providerCompleted => "PROVIDER_COMPLETED"
  | .terminal => "TERMINAL"
  | .indeterminate => "INDETERMINATE"

/-- A row of `attempts`. -/
structure AttemptRow where
  attemptId : Text
  binding : Bytes
  request : Bytes
  briefRaw : Bytes
  backend : Bytes
  accountClass : Text
  providerIdentity : Text
  modelIdentity : Text
  sessionIdentity : Text
  threadId : Option Text
  turnId : Option Text
  queueId : Option Text
  clientMessageId : Text
  status : Status
  startedAt : Text
  finalMessage : Option Text
  terminalReceipt : Option Bytes
deriving DecidableEq

/-- A row of `events`, whose place is its sequence. -/
structure EventRow where
  attemptId : Text
  digest : Text
  raw : Bytes
deriving DecidableEq

/-- The keyword arguments of `AdapterStore.update`. -/
structure Changes where
  threadId : Option Text := none
  turnId : Option Text := none
  status : Option Status := none
  finalMessage : Option (Option Text) := none
  terminalReceipt : Option Bytes := none
deriving DecidableEq

namespace Changes

/-- Whether the guard keeps these values from an attempt that is INDETERMINATE. -/
def prohibitedFromIndeterminate (changes : Changes) : Bool :=
  changes.status.getD .indeterminate != .indeterminate || changes.terminalReceipt.isSome

/-- The guard of the update. -/
def admits (changes : Changes) (status : Status) : Bool :=
  if changes.prohibitedFromIndeterminate then status != .indeterminate && status != .terminal else status != .terminal

def apply (changes : Changes) (row : AttemptRow) : AttemptRow :=
  { row with
    threadId := changes.threadId.or row.threadId
    turnId := changes.turnId.or row.turnId
    status := changes.status.getD row.status
    finalMessage := changes.finalMessage.getD row.finalMessage
    terminalReceipt := changes.terminalReceipt.or row.terminalReceipt }

end Changes

/-- How `quiesce_acquisition` ends. -/
structure TerminalCut where
  streamQuiesced : Bool
  lossGeneration : Int
  processDisposition : Text
deriving DecidableEq

inductive Quiesced
  | absent
  | failed (failure : Failure)
  | foreign
  | cut (cut : TerminalCut)

/-- The two queues of the App Server client. -/
inductive Waiting
  | serverRequests
  | notifications
deriving DecidableEq

/-- What a call asks of its store, of the App Server client and of its host. -/
inductive Question
  | insert (row : AttemptRow)
  | update (attemptId : Text) (changes : Changes)
  | append (event : EventRow)
  | select (attemptId : Text)
  | events (attemptId : Text)
  | request (method : String) (params : Members)
  | diagnostics
  | next (queue : Waiting)
  | quiesce
  | directory (workspace : Json)
  | uuid
  | now
  | stall

/-- A stalled call is never answered. -/
@[reducible] def Question.Reply : Question → Type
  | .insert _ => Bool
  | .update _ _ => Except (Option Status) Unit
  | .append _ => Unit
  | .select _ => Option AttemptRow
  | .events _ => List Bytes
  | .request _ _ => Except Failure Members
  | .diagnostics => List Text
  | .next _ => Option ServerMessage
  | .quiesce => Quiesced
  | .directory _ => Except Failure Text
  | .uuid | .now => Text
  | .stall => Empty

structure AdapterStore where
  rows : List AttemptRow
  events : List EventRow
deriving DecidableEq

namespace AdapterStore

def empty : AdapterStore := ⟨[], []⟩

def find (store : AdapterStore) (attemptId : Text) : Option AttemptRow :=
  store.rows.find? fun row => row.attemptId == attemptId

def changed (store : AdapterStore) (attemptId : Text) (changes : Changes) : AdapterStore :=
  { store with rows := store.rows.map fun row => if row.attemptId = attemptId then changes.apply row else row }

/-- `UPDATE attempts SET ... WHERE attempt_id=? AND ...`, and the status that kept it from one row. -/
def update (store : AdapterStore) (attemptId : Text) (changes : Changes) : Except (Option Status) Unit × AdapterStore :=
  match store.find attemptId with
  | some row => if changes.admits row.status then (.ok (), store.changed attemptId changes) else (.error (some row.status), store)
  | none => (.error none, store)

/-- `INSERT INTO attempts`, whose primary key is the attempt. -/
def insert (store : AdapterStore) (row : AttemptRow) : Bool × AdapterStore :=
  if (store.find row.attemptId).isSome then (false, store) else (true, { store with rows := store.rows ++ [row] })

/-- `INSERT OR IGNORE INTO events`, whose digests are unique. -/
def append (store : AdapterStore) (event : EventRow) : AdapterStore :=
  if store.events.any fun other => other.digest == event.digest then store
  else { store with events := store.events ++ [event] }

def eventsOf (store : AdapterStore) (attemptId : Text) : List Bytes :=
  (store.events.filter fun event => event.attemptId == attemptId).map EventRow.raw

/-- What the store answers, as one transaction; what it is not asked is answered elsewhere. -/
def transact (store : AdapterStore) : (question : Question) → Option (question.Reply × AdapterStore)
  | .insert row => some (store.insert row)
  | .update attemptId changes => some (store.update attemptId changes)
  | .append event => some ((), store.append event)
  | .select attemptId => some (store.find attemptId, store)
  | .events attemptId => some (store.eventsOf attemptId, store)
  | _ => none

/-- One question is answered, by the store or by anything else. -/
def Answers (store : AdapterStore) (question : Question) (answer : question.Reply) (after : AdapterStore) : Prop :=
  match store.transact question with
  | some result => result = (answer, after)
  | none => after = store

/-- A world that answers by itself what the store does not. -/
def world (environment : List (Exchange Question.Reply) → (question : Question) → Option question.Reply) (store : AdapterStore)
    (history : List (Exchange Question.Reply)) (question : Question) : Option (question.Reply × AdapterStore) :=
  match store.transact question with
  | some result => some result
  | none => (environment history question).map (·, store)

theorem world_answers {environment : List (Exchange Question.Reply) → (question : Question) → Option question.Reply}
    (store : AdapterStore) (history : List (Exchange Question.Reply)) (question : Question) (answer : question.Reply)
    (after : AdapterStore) (answered : store.world environment history question = some (answer, after)) :
    store.Answers question answer after := by
  unfold world at answered
  unfold Answers
  split at answered
  next result transacted => exact Option.some.inj answered
  next waiting =>
    obtain ⟨_, _, same⟩ := Option.map_eq_some_iff.mp answered
    cases same
    rfl

end AdapterStore

/-- What the operations of the adapter are made of. -/
abbrev Call := Program Question.Reply Failure

namespace Ask
open Program

abbrev insert (row : AttemptRow) : Call Bool := answerTo (Question.insert row)

abbrev update (attemptId : Text) (changes : Changes) : Call (Except (Option Status) Unit) :=
  answerTo (Question.update attemptId changes)

abbrev append (event : EventRow) : Call Unit := answerTo (Question.append event)

abbrev select (attemptId : Text) : Call (Option AttemptRow) := answerTo (Question.select attemptId)

abbrev events (attemptId : Text) : Call (List Bytes) := answerTo (Question.events attemptId)

/-- A request whose failure is raised. -/
def request (method : String) (params : Members) : Call Members := do
  let answer : Except Failure Members ← answerTo (Question.request method params)
  lift answer

abbrev diagnostics : Call (List Text) := answerTo Question.diagnostics

abbrev next (queue : Waiting) : Call (Option ServerMessage) := answerTo (Question.next queue)

abbrev quiesce : Call Quiesced := answerTo Question.quiesce

def directory (workspace : Json) : Call Text := do
  let answer : Except Failure Text ← answerTo (Question.directory workspace)
  lift answer

abbrev uuid : Call Text := answerTo Question.uuid

abbrev now : Call Text := answerTo Question.now

/-- The rounds of a loop are used up. -/
def stall {α : Type} : Call α := .ask Question.stall nofun

end Ask
end Switchyard.Nightshift
