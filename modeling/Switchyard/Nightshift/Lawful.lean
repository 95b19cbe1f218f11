import Switchyard.Nightshift.Operations

/-! What the operations may do to the store: every change is one of a few lawful
kinds, and a receipt is sealed only after a clean cut of the same call. -/

namespace Switchyard.Nightshift
open Library Json Runner AppServer Program

abbrev History := List (Exchange Question.Reply)

/-- This question has been asked, and has been answered so. -/
def Answered (history : History) (question : Question) (answer : question.Reply) : Prop :=
  (⟨question, answer⟩ : Exchange Question.Reply) ∈ history

/-- The call has made the attempt INDETERMINATE, or has found it so. -/
def Lost (history : History) (attemptId : Text) : Prop :=
  (∃ changes : Changes, changes.status = some .indeterminate ∧ Answered history (.update attemptId changes) (.ok ())) ∨
    ∃ row : AttemptRow, row.status = .indeterminate ∧ Answered history (.select attemptId) (some row)

/-- No loss is reported, and what is taken from a queue is retained as it came. -/
def CalmReply (host : Host) : (question : Question) → question.Reply → Prop
  | .diagnostics => fun reported => reported = []
  | .next _ => fun taken => ∀ message, taken = some message → ∃ raw, messageRaw host message = .ok raw
  | _ => fun _ => True

def Calm (host : Host) (exchange : Exchange Question.Reply) : Prop := CalmReply host exchange.question exchange.answer

/-- A drain that went through. -/
structure Drained (host : Host) (tail : History) : Prop where
  calm : ∀ exchange ∈ tail, Calm host exchange
  reported : Answered tail .diagnostics []
  requests : Answered tail (.next .serverRequests) none
  notifications : Answered tail (.next .notifications) none

/-- The App Server has shown this turn, of the thread and the identity that the attempt retains. -/
inductive Shown (history : History) (row : AttemptRow) (turn : Members) : Prop
  | notified {message : ServerMessage} : Answered history (.next .notifications) (some message) →
      message.method = some (text "turn/completed") → messageIds message = (row.threadId, row.turnId) →
      orEmpty (Json.get message.params "turn") = .obj turn → Shown history row turn
  | read {params answer thread : Members} {turns : List Json} {threadId turnId : Text} :
      Answered history (.request "thread/read" params) (.ok answer) → orEmpty (Json.get answer "thread") = .obj thread →
      row.threadId = some threadId → Json.get thread "id" = .str threadId → Json.get thread "turns" = .arr turns →
      .obj turn ∈ turns → row.turnId = some turnId → Json.get turn "id" = .str turnId → Shown history row turn

/-- What the attempt is given as its final message: a bounded part of what a turn shown to this call says. -/
structure Reported (host : Host) (history : History) (attemptId : Text) (row : AttemptRow) (turn : Members) (maximum : Json)
    (bounded : Option Text) (truncated : Bool) : Prop where
  selected : Answered history (.select attemptId) (some row)
  shown : Shown history row turn
  requested : ∃ request, loads host row.request = .ok request ∧ subscript request "maximum_output_bytes" = .ok maximum
  bounded : boundedUtf8 (finalAgentMessage turn) maximum = .ok (bounded, truncated)

/-- A receipt of this attempt, and the outcome it is made of. -/
structure Receipted (host : Host) (unicode : Unicode) (attempt : Attempt) (outcome receipt : Members) : Prop where
  read : ∃ message, attempt.finalMessage = some message ∧ host.loadsUniqueText message = .ok (.obj outcome) ∧
    ∃ raw, canonical host (.obj outcome) = .ok raw ∧ Text.encode? message = some raw
  closed : closed outcome OUTCOME_FIELDS = true
  checked : checkOutcome unicode outcome = .ok ()
  taken : ∃ identities endedAt digest, retainedIdentities attempt = .ok identities ∧
    receipt = Json.set (unsealedReceipt identities attempt.startedAt endedAt outcome) "receipt_digest" (.str digest) ∧
    digestOf host RECEIPT_DOMAIN (.obj (without receipt "receipt_digest")) = .ok digest
  valid : validateReceipt host unicode receipt attempt = .ok ()

/-- The call has made a clean cut, drained what was left, and then found the attempt completed. -/
structure Cut (host : Host) (history : History) (attemptId : Text) (row : AttemptRow) : Prop where
  clean : ∃ before cut tail endedAt, cut.confirmed = true ∧ Drained host tail ∧
    history = before ++ (⟨.quiesce, .cut cut⟩ :: tail) ++ [⟨.select attemptId, some row⟩, ⟨.now, endedAt⟩]
  completed : row.status = .providerCompleted

inductive Lawful (host : Host) (unicode : Unicode) (history : History) (attemptId : Text) : Changes → Prop
  | starting {threadId : Text} : requireId (text "thread_id") (.str threadId) = .ok threadId →
      Lawful host unicode history attemptId { threadId := some threadId, status := some .starting }
  | running {turnId : Text} : requireId (text "turn_id") (.str turnId) = .ok turnId →
      Lawful host unicode history attemptId { turnId := some turnId, status := some .running }
  | acknowledged : Lawful host unicode history attemptId { status := some .running }
  | waiting : Lawful host unicode history attemptId { status := some .waitingApproval }
  | lost : Lawful host unicode history attemptId { status := some .indeterminate }
  | reported (completed : Bool) {row : AttemptRow} {turn : Members} {maximum : Json} {bounded : Option Text} {truncated : Bool} :
      Reported host history attemptId row turn maximum bounded truncated →
      Lawful host unicode history attemptId { status := some (reportedStatus truncated completed), finalMessage := some bounded }
  | sealed {binding outcome receipt : Members} {row : AttemptRow} {attempt : Attempt} {raw : Bytes} :
      Cut host history attemptId row → row.attempt host binding = .ok attempt →
      Receipted host unicode attempt outcome receipt → canonical host (.obj receipt) = .ok raw →
      Lawful host unicode history attemptId { status := some .terminal, terminalReceipt := some raw }

/-- A row as `start` inserts it. -/
structure Fresh (host : Host) (unicode : Unicode) (row : AttemptRow) : Prop where
  admitted : row.status = .admitted
  threadless : row.threadId = none
  turnless : row.turnId = none
  silent : row.finalMessage = none
  unsealed : row.terminalReceipt = none
  started : ∃ request, validateStart host unicode request row.briefRaw = .ok () ∧
    canonical host (.obj request) = .ok row.request ∧
    canonical host (.obj (bindingFromStart request)) = .ok row.binding ∧ row.attemptId = attemptId (bindingFromStart request)
  backed : ∃ backend, canonical host (.obj backend) = .ok row.backend

/-- An event of the log: canonical, of its attempt, and under the digest of what it says. -/
structure Logged (host : Host) (event : EventRow) : Prop where
  sound : ∃ value, canonical host (.obj value) = .ok event.raw ∧ Json.get value "attempt_id" = .str event.attemptId ∧
    Json.get value "event_digest" = .str event.digest ∧
    digestOf host EVENT_DOMAIN (.obj (without value "event_digest")) = .ok event.digest

def Allowed (host : Host) (unicode : Unicode) (history : History) : Question → Prop
  | .insert row => Fresh host unicode row
  | .update attemptId changes => Lawful host unicode history attemptId changes
  | .append event => Logged host event
  | _ => True

/-- An attempt that the call knows to be lost is not found otherwise. -/
def CredibleReply (history : History) : (question : Question) → question.Reply → Prop
  | .select attemptId => fun answer => (Lost history attemptId → ∃ row, answer = some row ∧ row.status = .indeterminate) ∧
      ∀ row, answer = some row → row.attemptId = attemptId
  | _ => fun _ => True

def rules (host : Host) (unicode : Unicode) : Rules Question.Reply :=
  ⟨Allowed host unicode, fun history exchange => CredibleReply history exchange.question exchange.answer⟩

/-- The call keeps the rules from this history on, and returns as `returned` says if it returns. -/
abbrev Leads (setting : Setting) {α : Type} (returned : α → History → Prop) (call : Call α) (history : History) : Prop :=
  Keeps (rules setting.host setting.unicode) returned (fun _ _ => True) call history

/-- A fact about histories that calm exchanges keep. -/
def Lasting (host : Host) (fact : History → Prop) : Prop :=
  ∀ history exchange, Calm host exchange → fact history → fact (history ++ [exchange])

variable {setting : Setting} {history : History} {binding : Members} {fact : History → Prop}

theorem Answered.later {question : Question} {answer : question.Reply} (answered : Answered history question answer)
    (tail : History) : Answered (history ++ tail) question answer := List.mem_append_left _ answered

theorem answered_last (history : History) (question : Question) (answer : question.Reply) :
    Answered (history ++ [⟨question, answer⟩]) question answer := List.mem_append_right _ (List.mem_singleton_self _)

theorem Lost.later {attemptId : Text} (lost : Lost history attemptId) (tail : History) : Lost (history ++ tail) attemptId :=
  lost.imp (fun ⟨changes, same, answered⟩ => ⟨changes, same, answered.later tail⟩)
    fun ⟨row, same, answered⟩ => ⟨row, same, answered.later tail⟩

theorem lasting_true (host : Host) : Lasting host fun _ => True := fun _ _ _ _ => trivial

theorem lasting_lost (host : Host) (attemptId : Text) : Lasting host (Lost · attemptId) := fun _ _ _ lost => lost.later _

/-- The history since `start` is calm, and these exchanges are among it. -/
def Since (host : Host) (start seen history : History) : Prop :=
  ∃ tail, history = start ++ tail ∧ (∀ exchange ∈ tail, Calm host exchange) ∧ ∀ exchange ∈ seen, exchange ∈ tail

theorem since_refl (host : Host) (start : History) : Since host start [] start :=
  ⟨[], by simp, fun _ listed => absurd listed List.not_mem_nil, fun _ listed => absurd listed List.not_mem_nil⟩

theorem Since.sees {host : Host} {start seen history : History} (since : Since host start seen history)
    (exchange : Exchange Question.Reply) (calm : Calm host exchange) :
    Since host start (exchange :: seen) (history ++ [exchange]) := by
  obtain ⟨tail, rfl, all, among⟩ := since
  refine ⟨tail ++ [exchange], by simp, fun other listed => ?_, fun other listed => ?_⟩
  · rcases List.mem_append.mp listed with listed | listed
    · exact all other listed
    · exact List.mem_singleton.mp listed ▸ calm
  · rcases List.mem_cons.mp listed with rfl | listed
    · exact List.mem_append_right _ (List.mem_singleton_self _)
    · exact List.mem_append_left _ (among other listed)

theorem lasting_since (host : Host) (start seen : History) : Lasting host (Since host start seen) := by
  intro history exchange calm since
  obtain ⟨tail, same, all, among⟩ := since.sees exchange calm
  exact ⟨tail, same, all, fun other listed => among other (List.mem_cons_of_mem _ listed)⟩

end Switchyard.Nightshift
