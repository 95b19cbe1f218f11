import Switchyard.AppServer.Custody

/-! The stdout reader over a whole byte stream, while other threads may change
the client between any two of its operations. -/

namespace Switchyard.AppServer
open Library Json

/-- An agent item whose text cannot be encoded, or whose phase cannot be looked up behind a text within its bound. -/
def UnreadableItem (value : Json) : Prop :=
  ∃ item content, value = .obj item ∧ closed item ["type", "id", "text", "phase", "memoryCitation", "delivery"] = true ∧
    is (get item "type") "agentMessage" = true ∧ boundedId (get item "id") = true ∧ get item "text" = .str content ∧
    (¬ content.Scalar ∨ (∃ raw, content.encode? = some raw ∧ raw.length ≤ MAXIMUM_BOUNDED_AGENT_OUTPUT_BYTES) ∧
      (get item "phase").hashable = false)

/-- A closed agent output frame of the selected thread and turn with such an item, or with such a delta. -/
def UnreadableOutput (message : ServerMessage) (threadId : Text) (turnId : Option Text) : Prop :=
  sourceNotificationEnvelope message = true ∧
    ((∃ timestamp, (message.method = some (text "item/started") ∧ timestamp = "startedAtMs" ∨
          message.method = some (text "item/completed") ∧ timestamp = "completedAtMs") ∧
        closed message.params ["threadId", "turnId", "item", timestamp] = true ∧
        addressed message.params threadId turnId = true ∧ boundedI64 (get message.params timestamp) = true ∧
        UnreadableItem (get message.params "item")) ∨
      (message.method = some (text "item/agentMessage/delta") ∧
        closed message.params ["threadId", "turnId", "itemId", "delta"] = true ∧
        addressed message.params threadId turnId = true ∧ boundedId (get message.params "itemId") = true ∧
        ∃ delta, get message.params "delta" = .str delta ∧ ¬ delta.Scalar) ∨
      (message.method = some (text "turn/completed") ∧ closed message.params ["threadId", "turn", "emittedAtMs"] = true ∧
        names (get message.params "threadId") threadId = true ∧ boundedI64 (get message.params "emittedAtMs") = true ∧
        ∃ turn item, get message.params "turn" = .obj turn ∧
          closed turn ["id", "items", "itemsView", "status", "error", "startedAt", "completedAt", "durationMs"] = true ∧
          turnId.all (names (get turn "id")) = true ∧ get turn "items" = .arr [item] ∧ UnreadableItem item))

theorem utf8Length_error {value : Text} : (∃ className, utf8Length value = .error className) ↔ ¬ value.Scalar := by
  rw [← Text.encode?_eq_none]
  unfold utf8Length
  cases value.encode? with
  | none => exact ⟨fun _ => rfl, fun _ => ⟨_, rfl⟩⟩
  | some raw => exact ⟨nofun, nofun⟩

theorem boundedAgentItem_raises {value : Json} :
    (∃ className, boundedAgentItem value = .error className) ↔ UnreadableItem value := by
  cases value with
  | obj item =>
    unfold boundedAgentItem
    dsimp only
    by_cases shape : (closed item ["type", "id", "text", "phase", "memoryCitation", "delivery"] &&
        is (get item "type") "agentMessage" && boundedId (get item "id")) = true
    · rw [if_pos shape]
      simp only [Bool.and_eq_true] at shape
      cases held : get item "text" with
      | str content =>
        have unreadable : UnreadableItem (.obj item) ↔ ¬ content.Scalar ∨
            (∃ raw, content.encode? = some raw ∧ raw.length ≤ MAXIMUM_BOUNDED_AGENT_OUTPUT_BYTES) ∧
              (get item "phase").hashable = false := by
          constructor
          · rintro ⟨other, text, same, -, -, -, given, broken⟩
            cases same
            cases held.symm.trans given
            exact broken
          · intro broken
            exact ⟨item, content, rfl, shape.1.1, shape.1.2, shape.2, held, broken⟩
        rw [unreadable]
        dsimp only
        cases encoded : content.encode? with
        | none =>
          have broken := Text.encode?_eq_none.mp encoded
          have raised : utf8Length content = .error unicodeEncodeError := by unfold utf8Length; rw [encoded]
          rw [raised]
          exact ⟨fun _ => .inl broken, fun _ => ⟨_, rfl⟩⟩
        | some raw =>
          have scalar : content.Scalar := Text.encode?_isSome.mp (by rw [encoded]; rfl)
          have sized : utf8Length content = .ok raw.length := utf8Length_ok.mpr ⟨raw, encoded, rfl⟩
          rw [sized]
          dsimp only [bind, Except.bind]
          by_cases large : raw.length > MAXIMUM_BOUNDED_AGENT_OUTPUT_BYTES
          · rw [if_pos large]
            refine ⟨nofun, fun broken => ?_⟩
            rcases broken with broken | ⟨⟨other, same, short⟩, -⟩
            · exact absurd scalar broken
            · cases same
              omega
          · rw [if_neg large]
            cases phase : (get item "phase").hashable with
            | true =>
              refine ⟨nofun, fun broken => ?_⟩
              rcases broken with broken | ⟨-, unhashable⟩
              · exact absurd scalar broken
              · cases unhashable
            | false => exact ⟨fun _ => .inr ⟨⟨raw, rfl, by omega⟩, rfl⟩, fun _ => ⟨_, rfl⟩⟩
      | _ =>
        refine ⟨nofun, ?_⟩
        rintro ⟨other, content, same, -, -, -, given, -⟩
        cases same
        cases held.symm.trans given
    · rw [if_neg shape]
      refine ⟨nofun, ?_⟩
      rintro ⟨other, content, same, members, kind, identity, -⟩
      cases same
      exact absurd (by simp only [members, kind, identity, Bool.and_true]) shape
  | _ =>
    refine ⟨nofun, ?_⟩
    rintro ⟨item, content, same, -⟩
    cases same

/-- Behind a failing test nothing is evaluated. -/
private theorem guarded_raises {condition : Bool} {tested : Except ClassName Bool} :
    (∃ className, (if condition then tested else .ok false) = .error className) ↔
      condition = true ∧ ∃ className, tested = .error className := by
  cases condition <;> simp

private theorem boundedTurnSummary_raises {turnId : Option Text} {value : Json} :
    (∃ className, boundedTurnSummary turnId value = .error className) ↔ ∃ turn item, value = .obj turn ∧
      closed turn ["id", "items", "itemsView", "status", "error", "startedAt", "completedAt", "durationMs"] = true ∧
      turnId.all (names (get turn "id")) = true ∧ get turn "items" = .arr [item] ∧ UnreadableItem item := by
  cases value with
  | obj turn =>
    unfold boundedTurnSummary
    dsimp only
    by_cases shape : (closed turn ["id", "items", "itemsView", "status", "error", "startedAt", "completedAt", "durationMs"] &&
        turnId.all (names (get turn "id"))) = true
    · rw [if_pos shape]
      simp only [Bool.and_eq_true] at shape
      split
      next item held =>
        cases tested : boundedAgentItem item with
        | error className =>
          exact ⟨fun _ => ⟨turn, item, rfl, shape.1, shape.2, held, boundedAgentItem_raises.mp ⟨_, tested⟩⟩, fun _ => ⟨_, rfl⟩⟩
        | ok agent =>
          refine ⟨nofun, ?_⟩
          rintro ⟨other, entry, same, -, -, given, broken⟩
          cases same
          cases held.symm.trans given
          obtain ⟨className, raised⟩ := boundedAgentItem_raises.mpr broken
          cases tested.symm.trans raised
      next other =>
        refine ⟨nofun, ?_⟩
        rintro ⟨turn, entry, same, -, -, given, -⟩
        cases same
        exact absurd given (other entry)
    · rw [if_neg shape]
      refine ⟨nofun, ?_⟩
      rintro ⟨other, entry, same, members, selected, -⟩
      cases same
      exact absurd (by simp only [members, selected, Bool.and_true]) shape
  | _ =>
    refine ⟨nofun, ?_⟩
    rintro ⟨turn, item, same, -⟩
    cases same

theorem isBoundedTurnAgentOutput_raises {message : ServerMessage} {threadId : Text} {turnId : Option Text} :
    (∃ className, isBoundedTurnAgentOutput message threadId turnId = .error className) ↔
      UnreadableOutput message threadId turnId := by
  have different {first last : String} (differ : first ≠ last) : text first ≠ text last := mt text_inj.mp differ
  unfold isBoundedTurnAgentOutput UnreadableOutput
  dsimp only
  rw [guarded_raises]
  refine and_congr_right fun _ => ?_
  cases named : message.method with
  | none => simp
  | some method =>
    dsimp only
    by_cases item : method = text "item/started" ∨ method = text "item/completed"
    · rw [if_pos item, guarded_raises, boundedAgentItem_raises]
      constructor
      · rintro ⟨shape, broken⟩
        simp only [Bool.and_eq_true] at shape
        refine .inl ⟨_, ?_, shape.1.1, shape.1.2, shape.2, broken⟩
        rcases item with rfl | rfl
        · exact .inl ⟨rfl, if_pos rfl⟩
        · exact .inr ⟨rfl, if_neg (different (by decide))⟩
      · rintro (⟨timestamp, known, members, selected, stamped, broken⟩ | ⟨same, -⟩ | ⟨same, -⟩)
        · have stamp : (if method = text "item/started" then "startedAtMs" else "completedAtMs") = timestamp := by
            rcases known with ⟨same, rfl⟩ | ⟨same, rfl⟩
            · exact if_pos (Option.some.inj same)
            · rw [Option.some.inj same]
              exact if_neg (different (by decide))
          rw [stamp]
          exact ⟨by simp only [members, selected, stamped, Bool.and_true], broken⟩
        · cases same
          exact absurd item (not_or.mpr ⟨different (by decide), different (by decide)⟩)
        · cases same
          exact absurd item (not_or.mpr ⟨different (by decide), different (by decide)⟩)
    · rw [if_neg item]
      have unstamped (timestamp : String) : ¬ (method = text "item/started" ∧ timestamp = "startedAtMs" ∨
          method = text "item/completed" ∧ timestamp = "completedAtMs") := by
        rintro (⟨same, -⟩ | ⟨same, -⟩)
        · exact item (.inl same)
        · exact item (.inr same)
      simp only [Option.some.injEq, unstamped, false_and, exists_false, false_or]
      by_cases delta : method = text "item/agentMessage/delta"
      · have other : ¬ method = text "turn/completed" := by
          rw [delta]
          exact different (by decide)
        rw [if_pos delta, guarded_raises]
        simp only [other, false_and, or_false, Bool.and_eq_true, and_assoc]
        refine ⟨?_, ?_⟩
        · rintro ⟨members, selected, identity, broken⟩
          refine ⟨delta, members, selected, identity, ?_⟩
          cases held : get message.params "delta" with
          | str content =>
            rw [held] at broken
            dsimp only at broken
            refine ⟨content, rfl, utf8Length_error.mp ?_⟩
            cases sized : utf8Length content with
            | error className => exact ⟨className, rfl⟩
            | ok size =>
              rw [sized] at broken
              exact absurd broken nofun
          | _ =>
            rw [held] at broken
            exact absurd broken nofun
        · rintro ⟨-, members, selected, identity, content, held, broken⟩
          refine ⟨members, selected, identity, ?_⟩
          obtain ⟨className, raised⟩ := utf8Length_error.mpr broken
          rw [held]
          dsimp only
          rw [raised]
          exact ⟨className, rfl⟩
      · rw [if_neg delta]
        simp only [delta, false_and, false_or]
        by_cases completed : method = text "turn/completed"
        · rw [if_pos completed, guarded_raises, boundedTurnSummary_raises]
          simp only [completed, true_and, Bool.and_eq_true, and_assoc]
        · rw [if_neg completed]
          simp [completed]

/-- The test of a frame against the selected turn raises: an echo is selected, the frame is short enough to be
tested and is not the input echo, and it is agent output that cannot be read. -/
def Unreadable (client : Client) (message : Members) (rawLine : Bytes) : Prop :=
  ∃ threadId input, client.boundedTurnEcho = some (threadId, input) ∧ client.captureContract = .boundedTurnEcho ∧
    rawLine.length ≤ MAXIMUM_USER_INPUT_ECHO_BYTES ∧
    isBoundedTurnUserInputEcho ⟨message, some rawLine⟩ (some input) threadId none = false ∧
    UnreadableOutput ⟨message, some rawLine⟩ threadId client.boundedTurnId

theorem isSelectedEcho_raises {client : Client} {message : Members} {rawLine : Bytes} :
    (∃ className, isSelectedEcho client ⟨message, some rawLine⟩ rawLine = .error className) ↔
      Unreadable client message rawLine := by
  unfold isSelectedEcho Unreadable
  cases client.boundedTurnEcho with
  | none => simp
  | some selected =>
    obtain ⟨threadId, input⟩ := selected
    dsimp only
    by_cases tested : client.captureContract = .boundedTurnEcho ∧ rawLine.length ≤ MAXIMUM_USER_INPUT_ECHO_BYTES
    · rw [if_pos tested]
      cases echo : isBoundedTurnUserInputEcho ⟨message, some rawLine⟩ (some input) threadId none with
      | true =>
        rw [if_pos rfl]
        refine ⟨nofun, ?_⟩
        rintro ⟨thread, content, same, -, -, other, -⟩
        cases same
        cases echo.symm.trans other
      | false =>
        rw [if_neg (by decide)]
        constructor
        · rintro ⟨className, raised⟩
          refine ⟨threadId, input, rfl, tested.1, tested.2, echo, isBoundedTurnAgentOutput_raises.mp ?_⟩
          cases output : isBoundedTurnAgentOutput ⟨message, some rawLine⟩ threadId client.boundedTurnId with
          | error className => exact ⟨className, rfl⟩
          | ok agent =>
            rw [output] at raised
            cases raised
        · rintro ⟨thread, content, same, -, -, -, broken⟩
          cases same
          obtain ⟨className, raised⟩ := isBoundedTurnAgentOutput_raises.mpr broken
          rw [raised]
          exact ⟨className, rfl⟩
    · rw [if_neg tested]
      refine ⟨nofun, ?_⟩
      rintro ⟨thread, content, -, contract, short, -⟩
      exact absurd ⟨contract, short⟩ tested

/-- An offer to the ordered queue. -/
structure Offered where
  kind : FrameKind
  message : Members
  rawLine : Bytes

/-- Where the reader stands: between two lines, at work on one, at the end of the stream, or out by an exception.
At work it keeps the offers accepted and the losses counted for the line so far. -/
inductive Reading.Phase
  | between
  | working (rawLine : Bytes) (actions : List Action) (accepted : List Offered) (losses : Nat)
  | ended
  | raised (className : ClassName)

structure Reading where
  stream : Bytes
  client : Client
  phase : Reading.Phase

/-- An offer that the ordered queue took leaves nothing to do; a refused one leaves a loss. -/
def Action.accepted : Action → List Action → List Offered
  | .order kind message rawLine, [] => [⟨kind, message, rawLine⟩]
  | _, _ => []

/-- The bounds, the contract and how the queues measure their items are set when the client is built. -/
structure Client.Built (maximumLineBytes : Nat) (client : Client) : Prop where
  line : client.maximumLineBytes = maximumLineBytes
  notifications : client.notifications.size = messageBytes
  serverRequests : client.serverRequests.size = messageBytes
  diagnostics : client.acquisitionDiagnostics.size = utf8Length
  ordered : ∀ source, client.orderedAcquisition = some source → source.size = envelopeBytes

namespace Reading

/-- What a step shows: a line taken, an action tried, a line done with what became of it, or nothing. -/
inductive Label
  | took (rawLine : Bytes) (client : Client)
  | tried (action : Action) (outcome : Except ClassName (List Action)) (before after : Client)
  | done (rawLine : Bytes) (accepted : List Offered) (losses : Nat)
  | quiet

/-- One operation of the reader, or whatever another thread does to the client. -/
inductive Step (host : Host) (maximumLineBytes : Nat) : Reading → Label → Reading → Prop
  | take {stream : Bytes} {client after : Client} {actions : List Action} :
      stream ≠ [] → frameActions host (nextLine 10 maximumLineBytes stream).1 client = (.ok actions, after) →
      Step host maximumLineBytes ⟨stream, client, .between⟩ (.took (nextLine 10 maximumLineBytes stream).1 client)
        ⟨(nextLine 10 maximumLineBytes stream).2, after, .working (nextLine 10 maximumLineBytes stream).1 actions [] 0⟩
  | fail {stream : Bytes} {client after : Client} {className : ClassName} :
      stream ≠ [] → frameActions host (nextLine 10 maximumLineBytes stream).1 client = (.error className, after) →
      Step host maximumLineBytes ⟨stream, client, .between⟩ (.took (nextLine 10 maximumLineBytes stream).1 client)
        ⟨(nextLine 10 maximumLineBytes stream).2, after, .raised className⟩
  | perform {stream rawLine : Bytes} {client after : Client} {action : Action} {rest next : List Action}
      {accepted : List Offered} {losses : Nat} :
      action.perform host client = (.ok next, after) →
      Step host maximumLineBytes ⟨stream, client, .working rawLine (action :: rest) accepted losses⟩
        (.tried action (.ok next) client after)
        ⟨stream, after, .working rawLine (next ++ rest) (accepted ++ action.accepted next)
          (losses + (after.lossGeneration - client.lossGeneration))⟩
  | interrupt {stream rawLine : Bytes} {client after : Client} {action : Action} {rest : List Action}
      {accepted : List Offered} {losses : Nat} {className : ClassName} :
      action.perform host client = (.error className, after) →
      Step host maximumLineBytes ⟨stream, client, .working rawLine (action :: rest) accepted losses⟩
        (.tried action (.error className) client after) ⟨stream, after, .raised className⟩
  /-- The queue of a caller that no longer waits may still take one response. -/
  | orphan {stream rawLine : Bytes} {client : Client} {requestId : Int} {message : Members} {line : Bytes}
      {rest : List Action} {accepted : List Offered} {losses : Nat} :
      client.pending.lookup requestId = none →
      Step host maximumLineBytes ⟨stream, client, .working rawLine (.hand requestId message line :: rest) accepted losses⟩ .quiet
        ⟨stream, client, .working rawLine rest accepted losses⟩
  | finish {stream rawLine : Bytes} {client : Client} {accepted : List Offered} {losses : Nat} :
      Step host maximumLineBytes ⟨stream, client, .working rawLine [] accepted losses⟩ (.done rawLine accepted losses)
        ⟨stream, client, .between⟩
  | eof {client : Client} :
      Step host maximumLineBytes ⟨[], client, .between⟩ .quiet ⟨[], client, .ended⟩
  | other {stream : Bytes} {before after : Client} {phase : Phase} :
      after.Built maximumLineBytes → Step host maximumLineBytes ⟨stream, before, phase⟩ .quiet ⟨stream, after, phase⟩

end Reading

/-- The line is short enough and ends in its terminator. -/
def WholeLine (maximumLineBytes : Nat) (rawLine : Bytes) : Prop :=
  rawLine.length ≤ maximumLineBytes ∧ rawLine.getLast? = some 10

instance (maximumLineBytes : Nat) (rawLine : Bytes) : Decidable (WholeLine maximumLineBytes rawLine) :=
  inferInstanceAs (Decidable (_ ∧ _))

/-- A well-formed method frame whose test against the selected turn raises. -/
def Misread (host : Host) (client : Client) (rawLine : Bytes) : Prop :=
  WholeLine client.maximumLineBytes rawLine ∧ ∃ message, decodeLine host rawLine = .ok (.obj message) ∧
    has message "method" = true ∧ methodShape message = true ∧ Unreadable client message rawLine

/-- A frame on its way into the ordered queue that nests too deep to be copied, or that answers a request whose own
method cannot be encoded, while the queue has a place. -/
def Unorderable (host : Host) (client : Client) (action : Action) : Prop :=
  ∃ kind message rawLine source, action = .order kind message rawLine ∧ client.orderedAcquisition = some source ∧
    (host.copies message = false ∨
      (∃ method, kind = .clientResponse method ∧ ¬ method.Scalar) ∧ source.queue.length < source.maxItems)

/-- All that an action leads to when it does not raise, with the losses it counts. -/
inductive Leads : Action → List Action → Nat → Prop
  | offered {serverRequest : Bool} {message : Members} {rawLine : Bytes} {kind : FrameKind} :
      (∀ method, kind ≠ .clientResponse method) → Leads (.offer serverRequest message rawLine) [.order kind message rawLine] 0
  | overflowed {serverRequest : Bool} {message : Members} {rawLine : Bytes} {reason : String} {kept : Option Bytes} :
      Leads (.offer serverRequest message rawLine) [.lose (text reason) kept] 0
  | ordered {kind : FrameKind} {message : Members} {rawLine : Bytes} : Leads (.order kind message rawLine) [] 0
  | unordered {kind : FrameKind} {message : Members} {rawLine : Bytes} :
      Leads (.order kind message rawLine) [.lose refusedEnvelope none] 0
  | refused {message : String} {kept : Option Bytes} : Leads (.refuse message kept) [.lose (text message) kept] 0
  | lost {message : Text} {kept : Option Bytes} : Leads (.lose message kept) [] 1
  | handed {requestId : Int} {message : Members} {rawLine : Bytes} : Leads (.hand requestId message rawLine) [] 0
  | duplicate {requestId : Int} {message : Members} {rawLine : Bytes} {reason : String} :
      Leads (.hand requestId message rawLine) [.refuse reason (some rawLine)] 0

/-- What the actions of a line amount to: it is refused, offered, or a response to be ordered and handed over. -/
inductive Assigned (host : Host) (maximumLineBytes : Nat) (rawLine : Bytes) : List Action → Prop
  | refused {message : String} {kept : Option Bytes} : Assigned host maximumLineBytes rawLine [.refuse message kept]
  | offered {serverRequest : Bool} {message : Members} : WholeLine maximumLineBytes rawLine →
      decodeLine host rawLine = .ok (.obj message) → Assigned host maximumLineBytes rawLine [.offer serverRequest message rawLine]
  | ordered {method : Text} {message : Members} {requestId : Int} : WholeLine maximumLineBytes rawLine →
      decodeLine host rawLine = .ok (.obj message) →
      Assigned host maximumLineBytes rawLine [.order (.clientResponse method) message rawLine, .hand requestId message rawLine]
  | handed {reason : String} {kept : Option Bytes} {message : Members} {requestId : Int} : WholeLine maximumLineBytes rawLine →
      Assigned host maximumLineBytes rawLine [.refuse reason kept, .hand requestId message rawLine]

/-- The reason of a loss can be encoded. -/
def Action.Plain (action : Action) : Prop := ∀ reason kept, action = .lose reason kept → reason.Scalar

variable {host : Host} {maximumLineBytes : Nat}

theorem Client.Built.changed {before after : Client} (built : before.Built maximumLineBytes)
    (line : after.maximumLineBytes = before.maximumLineBytes)
    (notifications : after.notifications = before.notifications) (serverRequests : after.serverRequests = before.serverRequests)
    (diagnostics : after.acquisitionDiagnostics = before.acquisitionDiagnostics)
    (ordered : after.orderedAcquisition = before.orderedAcquisition) : after.Built maximumLineBytes where
  line := line.trans built.line
  notifications := notifications ▸ built.notifications
  serverRequests := serverRequests ▸ built.serverRequests
  diagnostics := diagnostics ▸ built.diagnostics
  ordered := ordered ▸ built.ordered

private theorem putNowait_raised {α : Type} {target : ByteBoundedQueue α} {item : α} {className : ClassName} :
    target.putNowait item = .error (.raised className) ↔
      target.queue.length < target.maxItems ∧ target.size item = .error className := by
  unfold ByteBoundedQueue.putNowait
  by_cases full : target.maxItems ≤ target.queue.length
  · rw [if_pos full]
    exact ⟨fun full => (by cases full), fun room => absurd room.1 (by omega)⟩
  · rw [if_neg full]
    cases target.size item with
    | error failure => simp; omega
    | ok itemBytes =>
      dsimp only
      split <;> exact ⟨fun full => (by cases full), fun room => (by cases room.2)⟩

theorem Unorderable.raises {client after : Client} {action : Action} {next : List Action} (built : client.Built maximumLineBytes)
    (unorderable : Unorderable host client action) : action.perform host client ≠ (.ok next, after) := by
  obtain ⟨kind, message, rawLine, source, rfl, present, cause⟩ := unorderable
  have raises : ∃ className, nextOrderedLocked (host.copies message) kind.name (some ⟨message, some rawLine⟩) .null none
      kind.requestMethod client =
        (.error className, { client with acquisitionOrdinal := client.acquisitionOrdinal + 1 }) := by
    unfold nextOrderedLocked
    rw [present]
    dsimp only
    cases copied : host.copies message with
    | false => exact ⟨_, rfl⟩
    | true =>
      rcases cause with uncopied | ⟨⟨method, rfl, unscalar⟩, room⟩
      · cases copied.symm.trans uncopied
      · obtain ⟨className, failed⟩ := utf8Length_error.mpr unscalar
        have put : source.putNowait ⟨.int client.acquisitionOrdinal, .str (text (FrameKind.clientResponse method).name),
            some ⟨message, some rawLine⟩, .null, Option.none.filter fun raw => raw.length ≤ MAXIMUM_RETAINED_ADAPTER_EVENT_BYTES,
            (FrameKind.clientResponse method).requestMethod⟩ = .error (.raised className) := by
          refine putNowait_raised.mpr ⟨room, ?_⟩
          rw [built.ordered source present]
          simp [FrameKind.requestMethod, envelopeBytes, optionalLength, failed, messageBytes, bind, Except.bind]
        refine ⟨className, ?_⟩
        simp only [Option.isSome_some, Bool.not_true, Bool.and_false, Bool.false_eq_true, if_false, put]
  obtain ⟨className, raised⟩ := raises
  intro result
  simp only [Action.perform, Effect.bind_apply, raised] at result
  cases result

/-- An ordered offer raises only where its message cannot be copied, or while there is a place for an envelope whose
size cannot be taken. -/
theorem nextOrderedLocked_built (copied : Bool) (kind : String) (message : Option ServerMessage) (diagnostic : Json)
    (rawBytes : Option Bytes) (requestMethod : Json) {client : Client} (built : client.Built maximumLineBytes) :
    Effect.Meets (nextOrderedLocked copied kind message diagnostic rawBytes requestMethod) client
      (fun _ after => after.Built maximumLineBytes ∧ after.lossGeneration = client.lossGeneration)
      (fun className after => after.Built maximumLineBytes ∧ ∃ source, client.orderedAcquisition = some source ∧
        (message.isSome ∧ copied = false ∨ source.queue.length < source.maxItems ∧ envelopeBytes
          ⟨.int client.acquisitionOrdinal, .str (text kind), message, diagnostic,
            rawBytes.filter fun raw => raw.length ≤ MAXIMUM_RETAINED_ADAPTER_EVENT_BYTES, requestMethod⟩ = .error className)) := by
  apply nextOrderedLocked_meets
  · exact fun _ => ⟨built, rfl⟩
  · intro source present
    have counted : Client.Built maximumLineBytes { client with acquisitionOrdinal := client.acquisitionOrdinal + 1 } :=
      built.changed rfl rfl rfl rfl rfl
    refine ⟨fun target put => ?_, ⟨counted, rfl⟩, fun className failed => ⟨counted, source, present, ?_⟩⟩
    · obtain ⟨-, size⟩ := ByteBoundedQueue.putNowait_grows put
      refine ⟨⟨built.line, built.notifications, built.serverRequests, built.diagnostics, ?_⟩, rfl⟩
      intro other same
      cases same
      exact size.trans (built.ordered source present)
    · rcases failed with uncopied | put
      · exact .inl uncopied
      · obtain ⟨room, unsized⟩ := putNowait_raised.mp put
        exact .inr ⟨room, built.ordered source present ▸ unsized⟩

private theorem utf8Length_scalar {value : Text} (scalar : value.Scalar) : ∃ size, utf8Length value = .ok size := by
  cases sized : utf8Length value with
  | ok size => exact ⟨size, rfl⟩
  | error className => exact absurd scalar (utf8Length_error.mp ⟨className, sized⟩)

theorem recordLossLocked_built {message : Text} (scalar : message.Scalar) (rawBytes : Option Bytes) {client : Client}
    (built : client.Built maximumLineBytes) :
    Effect.Meets (recordLossLocked message rawBytes) client
      (fun _ after => after.Built maximumLineBytes ∧ after.lossGeneration = client.lossGeneration + 1) (fun _ _ => False) := by
  have offered (middle : Client) (kept : middle.Built maximumLineBytes)
      (counted : middle.lossGeneration = client.lossGeneration + 1) : Effect.Meets
      (nextOrderedLocked true "LOSS" none (.str (message.take 4096)) rawBytes .null >>= fun _ => pure ()) middle
      (fun _ after => after.Built maximumLineBytes ∧ after.lossGeneration = client.lossGeneration + 1) (fun _ _ => False) := by
    apply Effect.Meets.bind
    apply (nextOrderedLocked_built _ _ _ _ _ _ kept).weaken
    · intro taken after still
      exact .pure ⟨still.1, still.2.trans counted⟩
    · rintro className after ⟨-, source, -, ⟨absent, -⟩ | ⟨-, failed⟩⟩
      · cases absent
      obtain ⟨size, sized⟩ := utf8Length_scalar (scalar.take 4096)
      simp [envelopeBytes, optionalLength, sized, bind, Except.bind, pure, Except.pure] at failed
  unfold recordLossLocked
  apply Effect.Meets.bind
  apply Effect.Meets.modify
  apply Effect.Meets.bind
  apply Effect.Meets.read
  cases put : client.acquisitionDiagnostics.putNowait message with
  | ok diagnostics =>
    obtain ⟨-, size⟩ := ByteBoundedQueue.putNowait_grows put
    dsimp only
    apply Effect.Meets.bind
    apply Effect.Meets.modify
    exact offered _ ⟨built.line, built.notifications, built.serverRequests, size.trans built.diagnostics, built.ordered⟩ rfl
  | error refusal =>
    cases refusal with
    | full =>
      dsimp only
      exact offered _ (built.changed rfl rfl rfl rfl rfl) rfl
    | raised className =>
      obtain ⟨-, failed⟩ := putNowait_raised.mp put
      rw [built.diagnostics] at failed
      exact absurd scalar (utf8Length_error.mp ⟨className, failed⟩)

/-- Every action leads on, except an offer that cannot be copied or measured. -/
theorem perform_leads {action : Action} (plain : action.Plain) {client : Client} (built : client.Built maximumLineBytes) :
    Effect.Meets (action.perform host) client
      (fun next after => after.Built maximumLineBytes ∧ (∀ later ∈ next, later.Plain) ∧
        ∃ counted, Leads action next counted ∧ after.lossGeneration = client.lossGeneration + counted)
      (fun _ after => after.Built maximumLineBytes ∧ Unorderable host client action) := by
  have refuses (message : String) (kept : Option Bytes) : (Action.refuse message kept).Plain := nofun
  have loses (message : String) (kept : Option Bytes) : (Action.lose (text message) kept).Plain := by
    intro reason other same
    cases same
    exact Text.scalar_text message
  cases action with
  | offer serverRequest message rawLine =>
    apply Effect.Meets.bind
    apply Effect.Meets.read
    cases put : (client.queueFor serverRequest).putNowait ⟨message, some rawLine⟩ with
    | ok target =>
      obtain ⟨-, size⟩ := ByteBoundedQueue.putNowait_grows put
      dsimp only
      apply Effect.Meets.bind
      apply Effect.Meets.modify
      cases serverRequest with
      | false =>
        refine .pure ⟨⟨built.line, size.trans built.notifications, built.serverRequests, built.diagnostics, built.ordered⟩, ?_,
          0, .offered nofun, rfl⟩
        simp [Action.Plain]
      | true =>
        refine .pure ⟨⟨built.line, built.notifications, size.trans built.serverRequests, built.diagnostics, built.ordered⟩, ?_,
          0, .offered nofun, rfl⟩
        simp [Action.Plain]
    | error refusal =>
      cases refusal with
      | full =>
        dsimp only
        apply Effect.Meets.bind
        apply Effect.Meets.modify
        refine .pure ⟨?_, ?_, 0, .overflowed, ?_⟩
        · cases serverRequest <;> exact built.changed rfl rfl rfl rfl rfl
        · intro later listed
          obtain rfl := List.mem_singleton.mp listed
          exact loses _ _
        · cases serverRequest <;> rfl
      | raised className =>
        obtain ⟨-, failed⟩ := putNowait_raised.mp put
        have sized : (client.queueFor serverRequest).size = messageBytes := by
          cases serverRequest with
          | false => exact built.notifications
          | true => exact built.serverRequests
        rw [sized] at failed
        cases failed
  | order kind message rawLine =>
    apply Effect.Meets.bind
    apply (nextOrderedLocked_built _ _ _ _ _ _ built).weaken
    · intro taken after still
      cases taken with
      | true => exact .pure ⟨still.1, nofun, 0, .ordered, still.2⟩
      | false =>
        refine .pure ⟨still.1, ?_, 0, .unordered, still.2⟩
        intro later listed
        obtain rfl := List.mem_singleton.mp listed
        exact loses _ _
    · rintro className after ⟨still, source, present, ⟨-, uncopied⟩ | ⟨room, failed⟩⟩
      · exact ⟨still, kind, message, rawLine, source, rfl, present, .inl uncopied⟩
      · cases kind with
        | clientResponse method =>
          refine ⟨still, _, message, rawLine, source, rfl, present, .inr ⟨⟨method, rfl, fun scalar => ?_⟩, room⟩⟩
          obtain ⟨size, sized⟩ := utf8Length_scalar scalar
          simp [FrameKind.requestMethod, envelopeBytes, optionalLength, sized, messageBytes, bind, Except.bind, pure,
            Except.pure] at failed
        | _ => cases failed
  | refuse message rawBytes =>
    apply Effect.Meets.bind
    apply Effect.Meets.modify
    refine .pure ⟨built.changed rfl rfl rfl rfl rfl, ?_, 0, .refused, rfl⟩
    intro later listed
    obtain rfl := List.mem_singleton.mp listed
    exact loses _ _
  | lose message rawBytes =>
    apply Effect.Meets.bind
    apply (recordLossLocked_built (plain _ _ rfl) rawBytes built).weaken
    · intro done after counted
      exact .pure ⟨counted.1, nofun, 1, .lost, counted.2⟩
    · intro className after impossible
      exact impossible.elim
  | hand requestId message rawLine =>
    apply Effect.Meets.bind
    apply Effect.Meets.read
    split
    · apply Effect.Meets.bind
      apply Effect.Meets.modify
      exact .pure ⟨built.changed rfl rfl rfl rfl rfl, nofun, 0, .handed, rfl⟩
    · refine .pure ⟨built, ?_, 0, .duplicate, rfl⟩
      intro later listed
      obtain rfl := List.mem_singleton.mp listed
      exact refuses _ _

/-- `json.loads` raises ValueError or one of its kinds; nesting depth and memory are set aside. -/
def DecodesWithinValueError (host : Host) : Prop :=
  ∀ line className, host.loadsUniqueText line = .error (.other className) → className.val = text "ValueError"

private theorem methodActions_assigned {message : Members} {rawLine : Bytes} {client : Client}
    (built : client.Built maximumLineBytes) (whole : WholeLine maximumLineBytes rawLine)
    (decoded : decodeLine host rawLine = .ok (.obj message)) (named : has message "method" = true) :
    Effect.Meets (methodActions message rawLine) client
      (fun actions after => after = client ∧ Assigned host maximumLineBytes rawLine actions ∧ ¬ Misread host client rawLine)
      (fun _ after => after = client ∧ Misread host client rawLine) := by
  have read (misread : Misread host client rawLine) : methodShape message = true ∧ Unreadable client message rawLine := by
    obtain ⟨-, other, given, -, shape, unreadable⟩ := misread
    cases decoded.symm.trans given
    exact ⟨shape, unreadable⟩
  unfold methodActions
  apply Effect.Meets.ite
  · intro shape
    apply Effect.Meets.bind
    apply Effect.Meets.read
    apply Effect.Meets.bind
    apply Effect.Meets.lift
    · intro selected tested
      have readable : ¬ Misread host client rawLine := by
        intro misread
        obtain ⟨className, raised⟩ := isSelectedEcho_raises.mpr (read misread).2
        cases tested.symm.trans raised
      apply Effect.Meets.ite
      · intro large
        exact .pure ⟨rfl, .refused, readable⟩
      · intro fits
        exact .pure ⟨rfl, .offered whole decoded, readable⟩
    · intro className raised
      exact ⟨rfl, built.line ▸ whole, message, decoded, named, shape, isSelectedEcho_raises.mp ⟨className, raised⟩⟩
  · intro shapeless
    exact .pure ⟨rfl, .refused, fun misread => shapeless (read misread).1⟩

private theorem responseActions_assigned {message : Members} {rawLine : Bytes} {client : Client}
    (built : client.Built maximumLineBytes) (whole : WholeLine maximumLineBytes rawLine)
    (decoded : decodeLine host rawLine = .ok (.obj message)) :
    Effect.Meets (responseActions message rawLine) client
      (fun actions after => after.Built maximumLineBytes ∧ after.lossGeneration = client.lossGeneration ∧
        Assigned host maximumLineBytes rawLine actions) (fun _ _ => False) := by
  have delivered (requestMethod : Text) (requestId : Int) : Assigned host maximumLineBytes rawLine
      [if MAXIMUM_RETAINED_ADAPTER_EVENT_BYTES < rawLine.length then
          .refuse "App Server response refused by retained-event byte bound" none
        else .order (.clientResponse requestMethod) message rawLine, .hand requestId message rawLine] := by
    by_cases large : MAXIMUM_RETAINED_ADAPTER_EVENT_BYTES < rawLine.length
    · rw [if_pos large]
      exact .handed whole
    · rw [if_neg large]
      exact .ordered whole decoded
  unfold responseActions
  split
  · apply Effect.Meets.bind
    apply Effect.Meets.read
    split
    · exact .pure ⟨built, rfl, .refused⟩
    · split
      · exact .pure ⟨built, rfl, .refused⟩
      · dsimp only
        split
        · apply Effect.Meets.bind
          apply Effect.Meets.modify
          exact .pure ⟨built.changed rfl rfl rfl rfl rfl, rfl, delivered _ _⟩
        · exact .pure ⟨built, rfl, delivered _ _⟩
  · exact .pure ⟨built, rfl, .refused⟩

/-- A line is classified, and fails to be only when its test against the selected turn raises. -/
theorem frameActions_assigned (within : DecodesWithinValueError host) (rawLine : Bytes) {client : Client}
    (built : client.Built maximumLineBytes) :
    Effect.Meets (frameActions host rawLine) client
      (fun actions after => after.Built maximumLineBytes ∧ after.lossGeneration = client.lossGeneration ∧
        Assigned host maximumLineBytes rawLine actions ∧ ¬ Misread host client rawLine)
      (fun _ after => after = client ∧ Misread host client rawLine) := by
  have refused {message : String} {kept : Option Bytes} (readable : ¬ Misread host client rawLine) :
      Effect.Meets (pure [.refuse message kept] : Reader (List Action)) client
        (fun actions after => after.Built maximumLineBytes ∧ after.lossGeneration = client.lossGeneration ∧
          Assigned host maximumLineBytes rawLine actions ∧ ¬ Misread host client rawLine)
        (fun _ after => after = client ∧ Misread host client rawLine) := .pure ⟨built, rfl, .refused, readable⟩
  have undecoded {outcome : Except (Option ClassName) Json} (result : decodeLine host rawLine = outcome)
      (other : ∀ message, outcome ≠ .ok (.obj message)) : ¬ Misread host client rawLine := by
    rintro ⟨-, message, decoded, -⟩
    exact other message (result.symm.trans decoded)
  unfold frameActions
  apply Effect.Meets.bind
  apply Effect.Meets.read
  apply Effect.Meets.ite
  · intro broken
    refine refused ?_
    rintro ⟨⟨short, terminated⟩, -⟩
    simp only [Bool.or_eq_true, decide_eq_true_eq, bne_iff_ne, ne_eq] at broken
    rcases broken with long | unterminated
    · omega
    · exact unterminated terminated
  · intro fits
    have whole : WholeLine maximumLineBytes rawLine := by
      simp only [Bool.or_eq_true, decide_eq_true_eq, bne_iff_ne, ne_eq, not_or, not_not, not_lt] at fits
      exact ⟨built.line ▸ fits.1, fits.2⟩
    cases decoded : decodeLine host rawLine with
    | error failure =>
      cases failure with
      | none => exact refused (undecoded decoded nofun)
      | some className =>
        -- The decoder's own exceptions are all of the class that the reader handles.
        exfalso
        unfold decodeLine at decoded
        split at decoded
        · cases decoded
        · split at decoded
          · cases decoded
          · cases decoded
          · cases decoded
          · next raised =>
            rw [if_pos (within _ _ raised)] at decoded
            cases decoded
    | ok value =>
      cases value with
      | obj message =>
        dsimp only
        apply Effect.Meets.ite
        · intro named
          apply (methodActions_assigned built whole decoded named).weaken
          · intro actions after assigned
            obtain ⟨rfl, assigned, readable⟩ := assigned
            exact ⟨built, rfl, assigned, readable⟩
          · intro className after misread
            exact misread
        · intro unnamed
          have readable : ¬ Misread host client rawLine := by
            rintro ⟨-, other, given, named, -⟩
            cases decoded.symm.trans given
            exact unnamed named
          apply Effect.Meets.ite
          · intro response
            apply (responseActions_assigned built whole decoded).weaken
            · intro actions after assigned
              exact ⟨assigned.1, assigned.2.1, assigned.2.2, readable⟩
            · intro className after impossible
              exact impossible.elim
          · intro unclassified
            exact refused readable
      | _ => exact refused (undecoded decoded nofun)

namespace Action

/-- What an action would offer to the ordered queue. -/
def carried? : Action → Option (Members × Bytes)
  | .offer _ message rawLine | .order _ message rawLine => some (message, rawLine)
  | _ => none

def offers (action : Action) : Nat := if action.carried?.isSome then 1 else 0

def owed (action : Action) : Nat := if action.owes then 1 else 0

/-- An upper bound on the operations an action leads to. -/
def work : Action → Nat
  | .lose _ _ => 1
  | .refuse _ _ | .order _ _ _ => 2
  | .offer _ _ _ | .hand _ _ _ => 3

end Action

/-- An action and what it leads to: offers do not multiply, nothing owed is dropped, and the work shrinks. -/
structure Conserves (action : Action) (next : List Action) (counted : Nat) : Prop where
  offers : (next.map Action.offers).sum + (action.accepted next).length ≤ action.offers
  owed : action.offers + action.owed ≤
    (next.map Action.offers).sum + (action.accepted next).length + (next.map Action.owed).sum + counted
  refusal : action.owes = true →
    (∀ later ∈ next, later.owes = true) ∧ action.accepted next = [] ∧ (next.map Action.owed).sum + counted = 1
  carried : ∀ later ∈ next, later.carried? = none ∨ later.carried? = action.carried?
  held : ∀ offered ∈ action.accepted next, action.carried? = some (offered.message, offered.rawLine)
  work : (next.map Action.work).sum < action.work

theorem Leads.conserves {action : Action} {next : List Action} {counted : Nat} (leads : Leads action next counted) :
    Conserves action next counted := by
  cases leads with
  | ordered =>
    refine ⟨Nat.le_refl 1, Nat.le_refl 1, nofun, nofun, ?_, Nat.zero_lt_two⟩
    intro offered listed
    obtain rfl := List.mem_singleton.mp listed
    rfl
  | _ =>
    constructor <;> simp [Action.offers, Action.owed, Action.carried?, Action.owes, Action.accepted, Action.work]

/-- The account of one line: what is left to do, what was accepted and what was counted. -/
structure Balanced (host : Host) (maximumLineBytes : Nat) (rawLine : Bytes) (actions : List Action)
    (accepted : List Offered) (losses : Nat) : Prop where
  plain : ∀ action ∈ actions, action.Plain
  carried : ∀ action ∈ actions, ∀ message line, action.carried? = some (message, line) →
    line = rawLine ∧ decodeLine host rawLine = .ok (.obj message)
  held : ∀ offered ∈ accepted, offered.rawLine = rawLine ∧ decodeLine host rawLine = .ok (.obj offered.message)
  most : (actions.map Action.offers).sum + accepted.length ≤ 1
  least : 1 ≤ (actions.map Action.offers).sum + accepted.length + (actions.map Action.owed).sum + losses
  broken : ¬ WholeLine maximumLineBytes rawLine →
    (∀ action ∈ actions, action.owes = true) ∧ accepted = [] ∧ (actions.map Action.owed).sum + losses = 1

theorem Assigned.balanced {rawLine : Bytes} {actions : List Action} (assigned : Assigned host maximumLineBytes rawLine actions) :
    Balanced host maximumLineBytes rawLine actions [] 0 ∧ (actions.map Action.work).sum ≤ 5 := by
  cases assigned with
  | refused =>
    refine ⟨⟨?_, ?_, nofun, ?_, ?_, ?_⟩, ?_⟩ <;>
      simp [Action.Plain, Action.offers, Action.owed, Action.carried?, Action.owes, Action.work]
  | offered whole decoded =>
    refine ⟨⟨?_, ?_, nofun, ?_, ?_, fun broken => absurd whole broken⟩, ?_⟩ <;>
      simp [Action.Plain, Action.offers, Action.owed, Action.carried?, Action.owes, Action.work, decoded]
  | ordered whole decoded =>
    refine ⟨⟨?_, ?_, nofun, ?_, ?_, fun broken => absurd whole broken⟩, ?_⟩ <;>
      simp [Action.Plain, Action.offers, Action.owed, Action.carried?, Action.owes, Action.work, decoded]
  | handed whole =>
    refine ⟨⟨?_, ?_, nofun, ?_, ?_, fun broken => absurd whole broken⟩, ?_⟩ <;>
      simp [Action.Plain, Action.offers, Action.owed, Action.carried?, Action.owes, Action.work]

theorem Balanced.perform {rawLine : Bytes} {action : Action} {rest next : List Action} {accepted : List Offered}
    {losses counted : Nat} (balanced : Balanced host maximumLineBytes rawLine (action :: rest) accepted losses)
    (leads : Leads action next counted) (plain : ∀ later ∈ next, later.Plain) :
    Balanced host maximumLineBytes rawLine (next ++ rest) (accepted ++ action.accepted next) (losses + counted) := by
  have conserves := leads.conserves
  have most := balanced.most
  have least := balanced.least
  have offers := conserves.offers
  have owed := conserves.owed
  simp only [List.map_cons, List.sum_cons] at most least
  refine ⟨?_, ?_, ?_, ?_, ?_, ?_⟩
  · intro later listed
    rcases List.mem_append.mp listed with listed | listed
    · exact plain later listed
    · exact balanced.plain later (List.mem_cons_of_mem _ listed)
  · intro later listed message line carried
    rcases List.mem_append.mp listed with listed | listed
    · rcases conserves.carried later listed with nothing | same
      · cases carried.symm.trans nothing
      · exact balanced.carried action List.mem_cons_self message line (same.symm.trans carried)
    · exact balanced.carried later (List.mem_cons_of_mem _ listed) message line carried
  · intro offered listed
    rcases List.mem_append.mp listed with listed | listed
    · exact balanced.held offered listed
    · exact balanced.carried action List.mem_cons_self _ _ (conserves.held offered listed)
  · simp only [List.map_append, List.sum_append, List.length_append]
    omega
  · simp only [List.map_append, List.sum_append, List.length_append]
    omega
  · intro broken
    obtain ⟨refusals, rfl, once⟩ := balanced.broken broken
    obtain ⟨later, none, exact⟩ := conserves.refusal (refusals action List.mem_cons_self)
    have alone : action.owed = 1 := if_pos (refusals action List.mem_cons_self)
    simp only [List.map_cons, List.sum_cons, alone] at once
    refine ⟨?_, none, ?_⟩
    · intro other listed
      rcases List.mem_append.mp listed with listed | listed
      · exact later other listed
      · exact refusals other (List.mem_cons_of_mem _ listed)
    · simp only [List.map_append, List.sum_append]
      omega

/-- A line that is done was accepted once or lost, and refused once if it was not a whole line. -/
def Settled (host : Host) (maximumLineBytes : Nat) (rawLine : Bytes) (accepted : List Offered) (losses : Nat) : Prop :=
  if WholeLine maximumLineBytes rawLine then
    (accepted = [] ∧ 1 ≤ losses) ∨ ∃ kind message, accepted = [⟨kind, message, rawLine⟩] ∧
      decodeLine host rawLine = .ok (.obj message)
  else accepted = [] ∧ losses = 1

theorem Balanced.settled {rawLine : Bytes} {accepted : List Offered} {losses : Nat}
    (balanced : Balanced host maximumLineBytes rawLine [] accepted losses) :
    Settled host maximumLineBytes rawLine accepted losses := by
  have most := balanced.most
  have least := balanced.least
  simp only [List.map_nil, List.sum_nil, Nat.zero_add, Nat.add_zero] at most least
  unfold Settled
  cases accepted with
  | nil =>
    simp only [List.length_nil, Nat.zero_add] at least
    split
    · exact .inl ⟨rfl, least⟩
    · next broken =>
      have once := (balanced.broken broken).2.2
      simp only [List.map_nil, List.sum_nil, Nat.zero_add] at once
      exact ⟨rfl, once⟩
  | cons offered rest =>
    simp only [List.length_cons] at most
    obtain rfl : rest = [] := List.length_eq_zero_iff.mp (by omega)
    split
    · obtain ⟨same, decoded⟩ := balanced.held offered List.mem_cons_self
      exact .inr ⟨offered.kind, offered.message, by rw [← same], decoded⟩
    · next broken => exact absurd (balanced.broken broken).2.1 nofun

namespace Reading

/-- The lines taken, in order, as far as they were read. -/
def takenLines (labels : List Label) : List Bytes :=
  labels.filterMap fun
    | .took rawLine _ => some rawLine
    | _ => none

/-- The lines done, in order. -/
def doneLines (labels : List Label) : List Bytes :=
  labels.filterMap fun
    | .done rawLine _ _ => some rawLine
    | _ => none

def Phase.current : Phase → List Bytes
  | .working rawLine _ _ _ => [rawLine]
  | _ => []

/-- An upper bound on the operations that the reader has still to do. -/
def work (reading : Reading) : Nat :=
  8 * reading.stream.length + match reading.phase with
    | .between => 1
    | .working _ actions _ _ => 2 + (actions.map Action.work).sum
    | .ended | .raised _ => 0

/-- What makes the reader raise. -/
def Label.Breaks (host : Host) : Label → Prop
  | .took rawLine client => Misread host client rawLine
  | .tried action _ client _ => Unorderable host client action
  | _ => False

/-- The stream is read line by line up to its end, and every line is settled. -/
structure Framed (host : Host) (maximumLineBytes : Nat) (stream : Bytes) (labels : List Label) (after : Reading) : Prop where
  unbroken : ∀ className, after.phase ≠ .raised className
  lines : takenLines labels ++ (splitLines 10 after.stream).map (List.take (maximumLineBytes + 1)) =
    (splitLines 10 stream).map (List.take (maximumLineBytes + 1))
  done : doneLines labels ++ after.phase.current = takenLines labels
  settled : ∀ rawLine accepted losses, .done rawLine accepted losses ∈ labels →
    Settled host maximumLineBytes rawLine accepted losses
  enveloped : ∀ kind message rawLine before client source, .tried (.order kind message rawLine) (.ok []) before client ∈ labels →
    before.orderedAcquisition = some source →
    client.envelopes = before.envelopes ++ [frameEnvelope kind message rawLine before.acquisitionOrdinal]
  ended : after.phase = .ended → after.stream = []
  continues : after.phase ≠ .ended → ∃ label next, Step host maximumLineBytes after label next ∧ next.work < after.work

/-- What every run keeps, broken off or not. -/
structure Kept (host : Host) (maximumLineBytes : Nat) (stream : Bytes) (labels : List Label) (after : Reading) : Prop where
  built : after.client.Built maximumLineBytes
  lines : takenLines labels ++ (splitLines 10 after.stream).map (List.take (maximumLineBytes + 1)) =
    (splitLines 10 stream).map (List.take (maximumLineBytes + 1))
  done : (∀ className, after.phase ≠ .raised className) → doneLines labels ++ after.phase.current = takenLines labels
  settled : ∀ rawLine accepted losses, .done rawLine accepted losses ∈ labels →
    Settled host maximumLineBytes rawLine accepted losses
  enveloped : ∀ kind message rawLine before client source, .tried (.order kind message rawLine) (.ok []) before client ∈ labels →
    before.orderedAcquisition = some source →
    client.envelopes = before.envelopes ++ [frameEnvelope kind message rawLine before.acquisitionOrdinal]
  ended : after.phase = .ended → after.stream = []
  balanced : ∀ rawLine actions accepted losses, after.phase = .working rawLine actions accepted losses →
    Balanced host maximumLineBytes rawLine actions accepted losses
  breaks : (∃ className, after.phase = .raised className) ↔ ∃ label ∈ labels, label.Breaks host

variable {stream : Bytes} {labels : List Label} {label : Label} {before after : Reading}

private theorem Kept.settles (kept : Kept host maximumLineBytes stream labels before)
    (here : ∀ rawLine accepted losses, label = .done rawLine accepted losses → Settled host maximumLineBytes rawLine accepted losses)
    (rawLine : Bytes) (accepted : List Offered) (losses : Nat) (listed : .done rawLine accepted losses ∈ labels ++ [label]) :
    Settled host maximumLineBytes rawLine accepted losses := by
  rcases List.mem_append.mp listed with earlier | last
  · exact kept.settled _ _ _ earlier
  · exact here _ _ _ (List.mem_singleton.mp last).symm

private theorem Kept.envelops (kept : Kept host maximumLineBytes stream labels before)
    (here : ∀ kind message rawLine first client source, label = .tried (.order kind message rawLine) (.ok []) first client →
      first.orderedAcquisition = some source →
      client.envelopes = first.envelopes ++ [frameEnvelope kind message rawLine first.acquisitionOrdinal])
    (kind : FrameKind) (message : Members) (rawLine : Bytes) (first client : Client) (source : ByteBoundedQueue AcquisitionEnvelope)
    (listed : .tried (.order kind message rawLine) (.ok []) first client ∈ labels ++ [label])
    (ordered : first.orderedAcquisition = some source) :
    client.envelopes = first.envelopes ++ [frameEnvelope kind message rawLine first.acquisitionOrdinal] := by
  rcases List.mem_append.mp listed with earlier | last
  · exact kept.enveloped _ _ _ _ _ _ earlier ordered
  · exact here _ _ _ _ _ _ (List.mem_singleton.mp last).symm ordered

/-- A reader that still runs has seen nothing that breaks it. -/
private theorem Kept.running (kept : Kept host maximumLineBytes stream labels before)
    (runs : ∀ className, before.phase ≠ .raised className) (fine : ¬ label.Breaks host)
    (running : ∀ className, after.phase ≠ .raised className) :
    (∃ className, after.phase = .raised className) ↔ ∃ seen ∈ labels ++ [label], seen.Breaks host := by
  refine ⟨fun raised => absurd raised.choose_spec (running _), ?_⟩
  rintro ⟨seen, listed, breaks⟩
  rcases List.mem_append.mp listed with earlier | last
  · obtain ⟨className, raised⟩ := kept.breaks.mpr ⟨seen, earlier, breaks⟩
    exact absurd raised (runs className)
  · obtain rfl := List.mem_singleton.mp last
    exact absurd breaks fine

/-- An order that succeeds has put its envelope into the queue. -/
private theorem perform_enveloped {client after : Client} (built : client.Built maximumLineBytes) {kind : FrameKind}
    {message : Members} {rawLine : Bytes} {source : ByteBoundedQueue AcquisitionEnvelope}
    (result : (Action.order kind message rawLine).perform host client = (.ok [], after))
    (ordered : client.orderedAcquisition = some source) :
    after.envelopes = client.envelopes ++ [frameEnvelope kind message rawLine client.acquisitionOrdinal] := by
  have queued : client.Queued := ⟨source, ordered, built.ordered source ordered⟩
  cases perform_performs queued result with
  | ordered progress => exact progress.envelopes

/-- The next line taken is the first of those that remain, up to the bound. -/
private theorem take_lines {rest : Bytes} (more : rest ≠ []) {rawLine : Bytes} {client : Client}
    (lines : takenLines labels ++ (splitLines 10 rest).map (List.take (maximumLineBytes + 1)) =
      (splitLines 10 stream).map (List.take (maximumLineBytes + 1)))
    (same : rawLine = (nextLine 10 maximumLineBytes rest).1) :
    takenLines (labels ++ [.took rawLine client]) ++
        (splitLines 10 (nextLine 10 maximumLineBytes rest).2).map (List.take (maximumLineBytes + 1)) =
      (splitLines 10 stream).map (List.take (maximumLineBytes + 1)) := by
  obtain ⟨byte, remaining, rfl⟩ := List.exists_cons_of_ne_nil more
  obtain ⟨line, later, cut⟩ := splitLines_cons 10 byte remaining
  obtain ⟨taken, left⟩ := nextLine_cut maximumLineBytes cut
  rw [cut, List.map_cons] at lines
  rw [← lines, left, same, taken, takenLines, List.filterMap_append, List.append_assoc]
  rfl

private theorem Kept.step (within : DecodesWithinValueError host) (kept : Kept host maximumLineBytes stream labels before)
    (step : Step host maximumLineBytes before label after) : Kept host maximumLineBytes stream (labels ++ [label]) after := by
  have unread (quiet : takenLines [label] = []) : takenLines (labels ++ [label]) = takenLines labels := by
    rw [takenLines, List.filterMap_append]
    exact (congrArg (takenLines labels ++ ·) quiet).trans (List.append_nil _)
  have undone (quiet : doneLines [label] = []) : doneLines (labels ++ [label]) = doneLines labels := by
    rw [doneLines, List.filterMap_append]
    exact (congrArg (doneLines labels ++ ·) quiet).trans (List.append_nil _)
  cases step with
  | @take rest client middle actions more result =>
    obtain ⟨built, -, assigned, readable⟩ := (frameActions_assigned within _ kept.built).returns result
    refine ⟨built, take_lines more kept.lines rfl, fun _ => ?_, kept.settles (fun _ _ _ same => by cases same),
      kept.envelops (fun _ _ _ _ _ _ same => by cases same), nofun, ?_,
      kept.running nofun readable nofun⟩
    · have before := kept.done nofun
      simp only [Phase.current, List.append_nil] at before
      rw [undone rfl, before, takenLines, takenLines, List.filterMap_append]
      rfl
    · intro rawLine given accepted losses same
      cases same
      exact assigned.balanced.1
  | @fail rest client middle className more result =>
    have misread := (frameActions_assigned within _ kept.built).raises result
    refine ⟨misread.1 ▸ kept.built, take_lines more kept.lines rfl, fun running => absurd rfl (running className),
      kept.settles (fun _ _ _ same => by cases same), kept.envelops (fun _ _ _ _ _ _ same => by cases same), nofun, nofun, ?_⟩
    exact ⟨fun _ => ⟨_, List.mem_append_right _ List.mem_cons_self, misread.2⟩, fun _ => ⟨className, rfl⟩⟩
  | @perform rest rawLine client middle action later next accepted losses result =>
    have balanced := kept.balanced _ _ _ _ rfl
    obtain ⟨built, plain, counted, leads, same⟩ :=
      (perform_leads (balanced.plain action List.mem_cons_self) kept.built).returns result
    refine ⟨built, (unread rfl).symm ▸ kept.lines, fun _ => (unread rfl).symm ▸ (undone rfl).symm ▸ kept.done nofun,
      kept.settles (fun _ _ _ same => by cases same), kept.envelops ?_, nofun, ?_,
      kept.running nofun (fun unorderable => unorderable.raises kept.built result) nofun⟩
    · intro kind message line first after source shown ordered
      cases shown
      exact perform_enveloped kept.built result ordered
    · intro given actions offered total shown
      cases shown
      have gained : middle.lossGeneration - client.lossGeneration = counted := by
        rw [same]
        exact Nat.add_sub_cancel_left _ _
      rw [gained]
      exact balanced.perform leads plain
  | @interrupt rest rawLine client middle action later accepted losses className result =>
    have balanced := kept.balanced _ _ _ _ rfl
    obtain ⟨built, unorderable⟩ := (perform_leads (balanced.plain action List.mem_cons_self) kept.built).raises result
    refine ⟨built, (unread rfl).symm ▸ kept.lines, fun running => absurd rfl (running className),
      kept.settles (fun _ _ _ same => by cases same), kept.envelops (fun _ _ _ _ _ _ same => by cases same), nofun, nofun, ?_⟩
    exact ⟨fun _ => ⟨_, List.mem_append_right _ List.mem_cons_self, unorderable⟩, fun _ => ⟨className, rfl⟩⟩
  | @orphan rest rawLine client requestId message line later accepted losses forgotten =>
    have balanced := kept.balanced _ _ _ _ rfl
    refine ⟨kept.built, (unread rfl).symm ▸ kept.lines, fun _ => (unread rfl).symm ▸ (undone rfl).symm ▸ kept.done nofun,
      kept.settles (fun _ _ _ same => by cases same), kept.envelops (fun _ _ _ _ _ _ same => by cases same), nofun, ?_,
      kept.running nofun id nofun⟩
    intro given actions offered total shown
    cases shown
    have handed := balanced.perform (.handed : Leads _ [] 0) nofun
    simpa only [List.nil_append, Action.accepted, List.append_nil, Nat.add_zero] using handed
  | @finish rest rawLine client accepted losses =>
    refine ⟨kept.built, (unread rfl).symm ▸ kept.lines, fun _ => ?_, kept.settles ?_,
      kept.envelops (fun _ _ _ _ _ _ same => by cases same), nofun, nofun, kept.running nofun id nofun⟩
    · have before := kept.done nofun
      rw [unread rfl, ← before, doneLines, doneLines, List.filterMap_append]
      exact List.append_nil _
    · intro line offered total shown
      cases shown
      exact (kept.balanced _ _ _ _ rfl).settled
  | @eof client =>
    exact ⟨kept.built, (unread rfl).symm ▸ kept.lines, fun _ => (unread rfl).symm ▸ (undone rfl).symm ▸ kept.done nofun,
      kept.settles (fun _ _ _ same => by cases same), kept.envelops (fun _ _ _ _ _ _ same => by cases same), fun _ => rfl, nofun,
      kept.running nofun id nofun⟩
  | @other rest client middle phase built =>
    refine ⟨built, (unread rfl).symm ▸ kept.lines, fun running => (unread rfl).symm ▸ (undone rfl).symm ▸ kept.done running,
      kept.settles (fun _ _ _ same => by cases same), kept.envelops (fun _ _ _ _ _ _ same => by cases same), kept.ended,
      kept.balanced, kept.breaks.trans ⟨?_, ?_⟩⟩
    · rintro ⟨seen, listed, breaks⟩
      exact ⟨seen, List.mem_append_left _ listed, breaks⟩
    · rintro ⟨seen, listed, breaks⟩
      rcases List.mem_append.mp listed with earlier | last
      · exact ⟨seen, earlier, breaks⟩
      · obtain rfl := List.mem_singleton.mp last
        exact breaks.elim

private theorem Kept.continues (within : DecodesWithinValueError host) (kept : Kept host maximumLineBytes stream labels after)
    (unbroken : ∀ className, after.phase ≠ .raised className) (unended : after.phase ≠ .ended) :
    ∃ label next, Step host maximumLineBytes after label next ∧ next.work < after.work := by
  obtain ⟨rest, client, phase⟩ := after
  cases phase with
  | between =>
    by_cases more : rest = []
    · subst more
      exact ⟨_, _, .eof, Nat.zero_lt_one⟩
    · have consumed := nextLine_consumes 10 maximumLineBytes more
      have assigned := frameActions_assigned within (nextLine 10 maximumLineBytes rest).1 kept.built
      cases result : frameActions host (nextLine 10 maximumLineBytes rest).1 client with
      | mk outcome middle =>
        cases outcome with
        | ok actions =>
          refine ⟨_, _, .take more result, ?_⟩
          have small := (assigned.returns result).2.2.1.balanced.2
          simp only [work]
          omega
        | error className =>
          refine ⟨_, _, .fail more result, ?_⟩
          simp only [work]
          omega
  | working rawLine actions accepted losses =>
    cases actions with
    | nil => exact ⟨_, _, .finish, by simp [work]⟩
    | cons action later =>
      have leads := @perform_leads host _ _ ((kept.balanced _ _ _ _ rfl).plain action List.mem_cons_self) _ kept.built
      cases result : action.perform host client with
      | mk outcome middle =>
        cases outcome with
        | ok next =>
          refine ⟨_, _, .perform result, ?_⟩
          obtain ⟨-, -, counted, conserves, -⟩ := leads.returns result
          have smaller := conserves.conserves.work
          simp only [work, List.map_append, List.sum_append, List.map_cons, List.sum_cons]
          omega
        | error className =>
          refine ⟨_, _, .interrupt result, ?_⟩
          simp only [work]
          omega
  | ended => exact absurd rfl unended
  | raised className => exact absurd rfl (unbroken className)

end Reading

/-- In every run of the reader, whatever other threads do to the client, the stream is framed and read to its
end exactly if no line is misread and no response stands for a request whose method cannot be encoded. -/
theorem stdout_framing (within : DecodesWithinValueError host) {client : Client} (built : client.Built maximumLineBytes)
    {stream : Bytes} {labels : List Reading.Label} {after : Reading}
    (run : Run (Reading.Step host maximumLineBytes) ⟨stream, client, .between⟩ labels after) :
    Reading.Framed host maximumLineBytes stream labels after ↔ ∀ label ∈ labels, ¬ label.Breaks host := by
  have kept : Reading.Kept host maximumLineBytes stream labels after := by
    refine run.invariant (Reading.Kept host maximumLineBytes stream) ?_ fun _ _ _ _ _ kept step => kept.step within step
    refine ⟨built, List.nil_append _, fun _ => rfl, ?_, ?_, nofun, nofun, nofun, ?_⟩
    · exact fun _ _ _ listed => absurd listed List.not_mem_nil
    · exact fun _ _ _ _ _ _ listed => absurd listed List.not_mem_nil
    · rintro ⟨label, listed, -⟩
      exact absurd listed List.not_mem_nil
  constructor
  · intro framed label listed breaks
    obtain ⟨className, raised⟩ := kept.breaks.mpr ⟨label, listed, breaks⟩
    exact framed.unbroken className raised
  · intro fine
    have unbroken (className : ClassName) : after.phase ≠ .raised className := by
      intro raised
      obtain ⟨label, listed, breaks⟩ := kept.breaks.mp ⟨className, raised⟩
      exact fine label listed breaks
    exact ⟨unbroken, kept.lines, kept.done unbroken, kept.settled, kept.enveloped, kept.ended,
      kept.continues within unbroken⟩

private theorem initial_built (limits : Limits) (contract : CaptureContract) (echo : Option (Text × Json)) (turn : Option Text) :
    Client.Built limits.lineBytes
      { Client.initial limits contract with boundedTurnEcho := echo, boundedTurnId := turn } := by
  refine ⟨rfl, rfl, rfl, rfl, ?_⟩
  intro source present
  cases present
  rfl

private theorem lineLoads_handled {size : Nat} {className : ClassName} : lineLoads size ≠ .error (.other className) := by
  unfold lineLoads
  split <;> nofun

theorem stdout_framing_sample : ∃ labels after, Run (Reading.Step lineHost 1024)
    ⟨sampleLine, sampleStream.client, .between⟩ labels after ∧ after.phase = .ended ∧
      Reading.Framed lineHost 1024 sampleLine labels after := by
  have within : DecodesWithinValueError lineHost := fun _ _ other => absurd other lineLoads_handled
  have built : Client.Built 1024 sampleStream.client := initial_built sampleLimits .legacy none none
  have first : Run (Reading.Step lineHost 1024) ⟨sampleLine, sampleStream.client, .between⟩ _ _ :=
    Run.nil.snoc (.take (by decide) rfl)
  have last := (((first.snoc (.perform rfl)).snoc (.perform rfl)).snoc .finish).snoc .eof
  refine ⟨_, _, last, rfl, (stdout_framing within built last).mpr ?_⟩
  intro label listed breaks
  simp only [List.nil_append, List.cons_append, List.mem_cons, List.not_mem_nil, or_false] at listed
  rcases listed with rfl | rfl | rfl | rfl | rfl
  · obtain ⟨-, message, -, -, -, threadId, input, selected, -⟩ := breaks
    cases selected
  · obtain ⟨kind, message, rawLine, source, same, -⟩ := breaks
    cases same
  · obtain ⟨kind, message, rawLine, source, same, -, uncopied | ⟨⟨method, response, -⟩, -⟩⟩ := breaks
    · cases uncopied
    · cases same
      cases response
  · exact breaks
  · exact breaks

/-- An agent delta with a lone surrogate, as the server writes it. -/
def surrogateLine : Bytes :=
  ascii "\x7b\"method\":\"item/agentMessage/delta\",\"params\":\x7b\"threadId\":\"t\",\"turnId\":\"u\"," ++
    ascii "\"itemId\":\"i\",\"delta\":\"\\ud800\"\x7d,\"emittedAtMs\":1\x7d\n"

def surrogateFrame : Members := object [("method", .str (text "item/agentMessage/delta")),
  ("params", .obj (object [("threadId", .str (text "t")), ("turnId", .str (text "u")), ("itemId", .str (text "i")),
    ("delta", .str [0xD800])])), ("emittedAtMs", .int 1)]

/-- A host whose decoder knows this frame. -/
def surrogateHost : Host := { lineHost with loadsUniqueText := fun _ => .ok (.obj surrogateFrame) }

/-- A client that has selected an echo and learnt its turn. -/
def surrogateClient : Client := { Client.initial sampleLimits .boundedTurnEcho with
  boundedTurnEcho := some (text "t", .arr [])
  boundedTurnId := some (text "u") }

/-- One delta with a lone surrogate ends the reader, and the line behind it is never read. -/
theorem stdout_framing_surrogate : ∃ labels after, Run (Reading.Step surrogateHost 1024)
    ⟨surrogateLine ++ sampleLine, surrogateClient, .between⟩ labels after ∧ after.stream = sampleLine ∧
      ¬ Reading.Framed surrogateHost 1024 (surrogateLine ++ sampleLine) labels after := by
  have read : nextLine 10 1024 (surrogateLine ++ sampleLine) = (surrogateLine, sampleLine) := by decide +kernel
  have fails : (frameActions surrogateHost surrogateLine surrogateClient).1.isOk = false := by decide +kernel
  have step := @Reading.Step.fail surrogateHost 1024 (surrogateLine ++ sampleLine) surrogateClient
  rw [read] at step
  cases result : frameActions surrogateHost surrogateLine surrogateClient with
  | mk outcome client =>
    cases outcome with
    | ok actions =>
      rw [result] at fails
      cases fails
    | error className =>
      refine ⟨_, _, Run.nil.snoc (step (by decide) result), rfl, ?_⟩
      intro framed
      exact framed.unbroken className rfl

end Switchyard.AppServer
