import Switchyard.AppServer.Lossless
import Switchyard.AppServer.Parties
import Switchyard.Library.Numbered

/-! Ordered custody over any interleaving of the parties. Each action moves the
counter and the queue in one of few ways, and whatever is refused leaves a loss
to be recorded before its party can go on. -/

namespace Switchyard.AppServer
open Library Json

/-- The envelope carries this ordinal. -/
def Ordinal (envelope : AcquisitionEnvelope) (ordinal : Nat) : Prop := envelope.ordinal = .int ordinal

/-- The envelope of a stdout line. -/
def frameEnvelope (kind : FrameKind) (message : Members) (rawLine : Bytes) (ordinal : Nat) : AcquisitionEnvelope where
  ordinal := .int ordinal
  kind := .str (text kind.name)
  message := some ⟨message, some rawLine⟩
  diagnostic := .null
  rawBytes := none
  requestMethod := kind.requestMethod

/-- The envelope of a request. -/
def requestEnvelope (transmission : Transmission) (ordinal : Nat) : AcquisitionEnvelope :=
  transmission.request.call.envelope "CLIENT_REQUEST" transmission.wire ordinal

/-- The line that a NOTIFICATION, SERVER_REQUEST or CLIENT_RESPONSE envelope holds. -/
def carriedLine (envelope : AcquisitionEnvelope) : Option Bytes :=
  if envelope.kind = .str (text "NOTIFICATION") ∨ envelope.kind = .str (text "SERVER_REQUEST") ∨
      envelope.kind = .str (text "CLIENT_RESPONSE") then envelope.message.bind ServerMessage.rawBytes
  else none

/-- The bytes that a CLIENT_REQUEST envelope holds. -/
def requestedWire (envelope : AcquisitionEnvelope) : Option Bytes :=
  if envelope.kind = .str (text "CLIENT_REQUEST") then envelope.message.bind ServerMessage.rawBytes else none

theorem carriedLine_frame (kind : FrameKind) (message : Members) (rawLine : Bytes) (ordinal : Nat) :
    carriedLine (frameEnvelope kind message rawLine ordinal) = some rawLine := by
  unfold carriedLine
  rw [if_pos]
  · rfl
  · cases kind with
    | notification => exact .inl rfl
    | serverRequest => exact .inr (.inl rfl)
    | clientResponse method => exact .inr (.inr rfl)

theorem carriedLine_request (transmission : Transmission) (ordinal : Nat) :
    carriedLine (requestEnvelope transmission ordinal) = none := by
  unfold carriedLine
  rw [if_neg]
  simp [requestEnvelope, Call.envelope, text_inj]

/-- The envelopes that wait in the ordered queue. -/
def Client.envelopes (client : Client) : List AcquisitionEnvelope :=
  (client.orderedAcquisition.map fun source => source.queue.map Prod.snd).getD []

def Client.Queued (client : Client) : Prop :=
  ∃ source, client.orderedAcquisition = some source ∧ source.size = envelopeBytes

/-- What happened to the queue and the counters: envelopes were added under the next ordinal, ordinals
were drawn, losses were counted. -/
structure Progress (before : Client) (added : List AcquisitionEnvelope) (drawn losses : Nat) (after : Client) : Prop where
  queued : after.Queued
  envelopes : after.envelopes = before.envelopes ++ added
  ordinal : after.acquisitionOrdinal = before.acquisitionOrdinal + drawn
  losses : after.lossGeneration = before.lossGeneration + losses

theorem Progress.still {before after : Client} (queued : before.Queued)
    (queue : after.orderedAcquisition = before.orderedAcquisition) (ordinal : after.acquisitionOrdinal = before.acquisitionOrdinal)
    (losses : after.lossGeneration = before.lossGeneration) : Progress before [] 0 0 after := by
  refine ⟨?_, ?_, ordinal, losses⟩
  · unfold Client.Queued
    rw [queue]
    exact queued
  · unfold Client.envelopes
    rw [queue, List.append_nil]

theorem Progress.then {before middle after : Client} {added : List AcquisitionEnvelope} {drawn losses more : Nat}
    (first : Progress before [] 0 losses middle) (last : Progress middle added drawn more after) :
    Progress before added drawn (losses + more) after := by
  refine ⟨last.queued, ?_, ?_, ?_⟩
  · rw [last.envelopes, first.envelopes, List.append_nil]
  · rw [last.ordinal, first.ordinal, Nat.add_zero]
  · rw [last.losses, first.losses, Nat.add_assoc]

theorem ByteBoundedQueue.putNowait_grows {α : Type} {target after : ByteBoundedQueue α} {item : α}
    (put : target.putNowait item = .ok after) :
    after.queue.map Prod.snd = target.queue.map Prod.snd ++ [item] ∧ after.size = target.size := by
  unfold ByteBoundedQueue.putNowait at put
  split at put
  · cases put
  · split at put
    · cases put
    · split at put
      · cases put
      · cases put
        exact ⟨by simp, rfl⟩

theorem nextOrderedLocked_progress (copied : Bool) (kind : String) (message : Option ServerMessage) (diagnostic : Json)
    (rawBytes : Option Bytes) (requestMethod : Json) {client : Client} (queued : client.Queued) :
    Effect.Meets (nextOrderedLocked copied kind message diagnostic rawBytes requestMethod) client
      (fun taken after => Progress client (if taken then [⟨.int client.acquisitionOrdinal, .str (text kind), message, diagnostic,
        rawBytes.filter fun raw => raw.length ≤ MAXIMUM_RETAINED_ADAPTER_EVENT_BYTES, requestMethod⟩] else []) 1 0 after)
      (fun _ after => Progress client [] 1 0 after) := by
  obtain ⟨source, ordered, sized⟩ := queued
  apply nextOrderedLocked_meets
  · intro absent
    cases ordered.symm.trans absent
  · intro other present
    cases ordered.symm.trans present
    have still : Progress client [] 1 0 { client with acquisitionOrdinal := client.acquisitionOrdinal + 1 } :=
      ⟨⟨source, ordered, sized⟩, (List.append_nil _).symm, rfl, rfl⟩
    refine ⟨fun target put => ?_, still, fun _ _ => still⟩
    obtain ⟨content, size⟩ := ByteBoundedQueue.putNowait_grows put
    refine ⟨⟨target, rfl, size.trans sized⟩, ?_, rfl, rfl⟩
    simp only [Client.envelopes, ordered, Option.map_some, Option.getD_some, content, if_true]

/-- A loss was counted, and its envelope drew an ordinal of its own unless an exception came first. -/
def LossRecorded (before after : Client) : Prop :=
  ∃ added drawn, Progress before added drawn 1 after ∧
    (added = [] ∨ drawn = 1 ∧ ∃ envelope, added = [envelope] ∧ Ordinal envelope before.acquisitionOrdinal)

theorem recordLossLocked_recorded (message : Text) (rawBytes : Option Bytes) {client : Client} (queued : client.Queued) :
    Effect.Meets (recordLossLocked message rawBytes) client (fun _ => LossRecorded client) (fun _ => LossRecorded client) := by
  have offered (middle : Client) (counted : Progress client [] 0 1 middle) : Effect.Meets
      (nextOrderedLocked true "LOSS" none (.str (message.take 4096)) rawBytes .null >>= fun _ => pure ()) middle
      (fun _ => LossRecorded client) (fun _ => LossRecorded client) := by
    have ordinal : middle.acquisitionOrdinal = client.acquisitionOrdinal := counted.ordinal
    apply Effect.Meets.bind
    apply (nextOrderedLocked_progress _ _ _ _ _ _ counted.queued).weaken
    · intro taken after grown
      apply Effect.Meets.pure
      refine ⟨_, 1, counted.then grown, ?_⟩
      cases taken with
      | true => exact .inr ⟨rfl, _, rfl, congrArg (fun given : Nat => Json.int given) ordinal⟩
      | false => exact .inl rfl
    · intro className after grown
      exact ⟨[], 1, counted.then grown, .inl rfl⟩
  have counted (middle : Client) (queue : middle.orderedAcquisition = client.orderedAcquisition)
      (ordinal : middle.acquisitionOrdinal = client.acquisitionOrdinal)
      (losses : middle.lossGeneration = client.lossGeneration + 1) : Progress client [] 0 1 middle := by
    refine ⟨?_, ?_, ordinal, losses⟩
    · unfold Client.Queued
      rw [queue]
      exact queued
    · unfold Client.envelopes
      rw [queue, List.append_nil]
  unfold recordLossLocked
  apply Effect.Meets.bind
  apply Effect.Meets.modify
  apply Effect.Meets.bind
  apply Effect.Meets.read
  split
  · apply Effect.Meets.bind
    apply Effect.Meets.modify
    exact offered _ (counted _ rfl rfl rfl)
  · exact offered _ (counted _ rfl rfl rfl)
  · apply Effect.Meets.raise
    exact ⟨[], 0, counted _ rfl rfl rfl, .inl rfl⟩

/-- All that one action can do, exceptions included. -/
inductive Performs (before : Client) : Action → Except ClassName (List Action) → Client → Prop
  | offered {serverRequest : Bool} {message : Members} {rawLine : Bytes} {kind : FrameKind} {after : Client} :
      Progress before [] 0 0 after → Performs before (.offer serverRequest message rawLine) (.ok [.order kind message rawLine]) after
  | overflowed {serverRequest : Bool} {message : Members} {rawLine : Bytes} {reason : Text} {kept : Option Bytes} {after : Client} :
      Progress before [] 0 0 after → Performs before (.offer serverRequest message rawLine) (.ok [.lose reason kept]) after
  | ordered {kind : FrameKind} {message : Members} {rawLine : Bytes} {after : Client} :
      Progress before [frameEnvelope kind message rawLine before.acquisitionOrdinal] 1 0 after →
      Performs before (.order kind message rawLine) (.ok []) after
  | unordered {kind : FrameKind} {message : Members} {rawLine : Bytes} {after : Client} :
      Progress before [] 1 0 after → Performs before (.order kind message rawLine) (.ok [.lose refusedEnvelope none]) after
  | refused {message : String} {kept : Option Bytes} {after : Client} :
      Progress before [] 0 0 after → Performs before (.refuse message kept) (.ok [.lose (text message) kept]) after
  | lost {message : Text} {kept : Option Bytes} {after : Client} :
      LossRecorded before after → Performs before (.lose message kept) (.ok []) after
  | handed {requestId : Int} {message : Members} {rawLine : Bytes} {after : Client} :
      Progress before [] 0 0 after → Performs before (.hand requestId message rawLine) (.ok []) after
  | duplicate {requestId : Int} {message : Members} {rawLine : Bytes} {reason : String} {after : Client} :
      Progress before [] 0 0 after →
      Performs before (.hand requestId message rawLine) (.ok [.refuse reason (some rawLine)]) after
  | raised {action : Action} {className : ClassName} {drawn : Nat} {after : Client} :
      Progress before [] drawn 0 after → (∀ reason kept, action ≠ .lose reason kept) →
      Performs before action (.error className) after
  | lossRaised {reason : Text} {kept : Option Bytes} {className : ClassName} {after : Client} :
      LossRecorded before after → Performs before (.lose reason kept) (.error className) after

theorem perform_performs {host : Host} {before after : Client} (queued : before.Queued) {action : Action}
    {outcome : Except ClassName (List Action)} (done : action.perform host before = (outcome, after)) :
    Performs before action outcome after := by
  have still {middle : Client} (queue : middle.orderedAcquisition = before.orderedAcquisition)
      (ordinal : middle.acquisitionOrdinal = before.acquisitionOrdinal)
      (losses : middle.lossGeneration = before.lossGeneration) : Progress before [] 0 0 middle :=
    .still queued queue ordinal losses
  cases action with
  | offer serverRequest message rawLine =>
    simp only [Action.perform, Effect.bind_apply, Effect.read_apply] at done
    cases put : (before.queueFor serverRequest).putNowait ⟨message, some rawLine⟩ with
    | ok target =>
      rw [put] at done
      cases done
      cases serverRequest <;> exact .offered (still rfl rfl rfl)
    | error refusal =>
      rw [put] at done
      cases refusal with
      | full =>
        cases done
        cases serverRequest <;> exact .overflowed (still rfl rfl rfl)
      | raised className =>
        cases done
        exact .raised (still rfl rfl rfl) (fun _ _ same => by cases same)
  | order kind message rawLine =>
    simp only [Action.perform, Effect.bind_apply] at done
    have progress := nextOrderedLocked_progress (host.copies message) kind.name (some ⟨message, some rawLine⟩) .null none
      kind.requestMethod queued
    cases result : nextOrderedLocked (host.copies message) kind.name (some ⟨message, some rawLine⟩) .null none
        kind.requestMethod before with
    | mk taken middle =>
      rw [result] at done
      cases taken with
      | error className =>
        cases done
        exact .raised (progress.raises result) (fun _ _ same => by cases same)
      | ok taken =>
        have grown := progress.returns result
        cases taken with
        | true =>
          cases done
          exact .ordered grown
        | false =>
          cases done
          exact .unordered grown
  | refuse message rawBytes =>
    cases done
    exact .refused (still rfl rfl rfl)
  | lose message rawBytes =>
    simp only [Action.perform, Effect.bind_apply] at done
    have recorded := recordLossLocked_recorded message rawBytes queued
    cases result : recordLossLocked message rawBytes before with
    | mk ended middle =>
      rw [result] at done
      cases ended with
      | error className =>
        cases done
        exact .lossRaised (recorded.raises result)
      | ok _ =>
        cases done
        exact .lost (recorded.returns result)
  | hand requestId message rawLine =>
    simp only [Action.perform, Effect.bind_apply, Effect.read_apply] at done
    cases waiting : before.pending.lookup requestId with
    | none =>
      rw [waiting] at done
      cases done
      exact .duplicate (still rfl rfl rfl)
    | some answer =>
      rw [waiting] at done
      cases answer with
      | none =>
        cases done
        exact .handed (still rfl rfl rfl)
      | some response =>
        cases done
        exact .duplicate (still rfl rfl rfl)

/-- The line that an action still has to put into the ordered queue. -/
def Action.line? : Action → Option Bytes
  | .offer _ _ rawLine | .order _ _ rawLine => some rawLine
  | _ => none

/-- The action will count a loss. -/
def Action.owes : Action → Bool
  | .refuse _ _ | .lose _ _ => true
  | _ => false

/-- A line is refused, or it is carried once. -/
def Asks (rawLine : Bytes) (actions : List Action) : Prop :=
  (∃ action ∈ actions, action.owes) ∨ rawLine.getLast? = some 10 ∧ actions.filterMap Action.line? = [rawLine]

variable {host : Host} {floatRepr : ℚ → Text} {replaced : Bytes → { line : Text // line.Scalar }}

theorem refuse_asks {rawLine : Bytes} {message : String} {kept : Option Bytes} : Asks rawLine [.refuse message kept] :=
  .inl ⟨_, List.mem_cons_self, rfl⟩

private theorem methodActions_asks (message : Members) (rawLine : Bytes) (client : Client) (terminated : rawLine.getLast? = some 10) :
    Effect.Meets (methodActions message rawLine) client (fun actions after => after = client ∧ Asks rawLine actions)
      (fun _ after => after = client) := by
  unfold methodActions
  apply Effect.Meets.ite
  · intro shape
    apply Effect.Meets.bind
    apply Effect.Meets.read
    apply Effect.Meets.bind
    apply Effect.Meets.lift
    · intro selected test
      apply Effect.Meets.ite
      · intro large
        exact .pure ⟨rfl, refuse_asks⟩
      · intro fits
        exact .pure ⟨rfl, .inr ⟨terminated, rfl⟩⟩
    · intro className test
      rfl
  · intro shapeless
    exact .pure ⟨rfl, refuse_asks⟩

/-- The client but for the selected turn. -/
def Client.ledger (client : Client) : Option (ByteBoundedQueue AcquisitionEnvelope) × Nat × Nat :=
  (client.orderedAcquisition, client.acquisitionOrdinal, client.lossGeneration)

private theorem responseActions_asks (message : Members) (rawLine : Bytes) (client : Client)
    (terminated : rawLine.getLast? = some 10) :
    Effect.Meets (responseActions message rawLine) client
      (fun actions after => after.ledger = client.ledger ∧ Asks rawLine actions) (fun _ after => after.ledger = client.ledger) := by
  have delivered (requestMethod : Text) (requestId : Int) : Asks rawLine
      [if MAXIMUM_RETAINED_ADAPTER_EVENT_BYTES < rawLine.length then
          .refuse "App Server response refused by retained-event byte bound" none
        else .order (.clientResponse requestMethod) message rawLine, .hand requestId message rawLine] := by
    by_cases large : MAXIMUM_RETAINED_ADAPTER_EVENT_BYTES < rawLine.length
    · rw [if_pos large]
      exact .inl ⟨_, List.mem_cons_self, rfl⟩
    · rw [if_neg large]
      exact .inr ⟨terminated, rfl⟩
  unfold responseActions
  split
  · apply Effect.Meets.bind
    apply Effect.Meets.read
    split
    · exact .pure ⟨rfl, refuse_asks⟩
    · split
      · exact .pure ⟨rfl, refuse_asks⟩
      · next requestMethod _ =>
        dsimp only
        split
        · apply Effect.Meets.bind
          apply Effect.Meets.modify
          exact .pure ⟨rfl, delivered _ _⟩
        · exact .pure ⟨rfl, delivered _ _⟩
  · exact .pure ⟨rfl, refuse_asks⟩

theorem frameActions_asks (host : Host) (rawLine : Bytes) (client : Client) :
    Effect.Meets (frameActions host rawLine) client
      (fun actions after => after.ledger = client.ledger ∧ Asks rawLine actions) (fun _ after => after.ledger = client.ledger) := by
  unfold frameActions
  apply Effect.Meets.bind
  apply Effect.Meets.read
  apply Effect.Meets.ite
  · intro broken
    exact .pure ⟨rfl, refuse_asks⟩
  · intro whole
    have terminated : rawLine.getLast? = some 10 := by
      simp only [Bool.or_eq_true, bne_iff_ne, ne_eq, not_or, not_not] at whole
      exact whole.2
    split
    · exact .pure ⟨rfl, refuse_asks⟩
    · exact .raise rfl
    · apply Effect.Meets.ite
      · intro method
        apply (methodActions_asks _ rawLine client terminated).weaken
        · intro actions after same
          exact ⟨congrArg Client.ledger same.1, same.2⟩
        · intro className after same
          exact congrArg Client.ledger same
      · intro other
        apply Effect.Meets.ite
        · intro response
          exact responseActions_asks _ rawLine client terminated
        · intro unclassified
          exact .pure ⟨rfl, refuse_asks⟩
    · exact .pure ⟨rfl, refuse_asks⟩

theorem select_ledger (selection : Option (Text × Json)) (client : Client) : (select selection client).ledger = client.ledger := by
  cases selection <;> rfl

theorem checkRequest_ledger (request : Request) {client : Client} (queued : client.Queued) :
    Effect.Meets (checkRequest floatRepr request) client
      (fun wire after => after.ledger = client.ledger ∧ requestWire floatRepr request.message = .ok wire)
      (fun _ after => after.ledger = client.ledger) := by
  obtain ⟨source, present, -⟩ := queued
  have examined := @checkRequest_examine floatRepr request client (by rw [present]; rfl)
  refine .intro (fun wire after passed => ?_) fun className after raised => ?_
  · rw [examined] at passed
    split at passed
    next written selection fine =>
      cases passed
      obtain ⟨serialized, done, rest⟩ := bind_ok.mp fine
      refine ⟨select_ledger selection client, ?_⟩
      split at rest
      · cases rest
      · split at rest
        · split at rest
          · cases rest
            exact done
          · cases rest
        · cases rest
          exact done
    next => cases passed
  · rw [examined] at raised
    split at raised
    · cases raised
    · cases raised
      rfl

end Switchyard.AppServer
