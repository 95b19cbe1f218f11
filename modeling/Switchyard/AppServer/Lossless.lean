import Switchyard.AppServer.Actions
import Switchyard.Library.Transition

/-! A consumer that drains only the ordered queue: the message queues beside it
fill up, and the first frame that they refuse is a loss. -/

namespace Switchyard.AppServer
open Library Json

variable {host : Host} {limits : Limits}

/-- A well-formed notification or server request within the retained-frame bound. -/
structure MethodFrame (host : Host) (limits : Limits) where
  line : Bytes
  message : Members
  terminated : line.getLast? = some 10
  short : line.length ≤ limits.lineBytes
  retained : line.length ≤ MAXIMUM_RETAINED_ADAPTER_EVENT_BYTES
  decoded : decodeLine host line = .ok (.obj message)
  named : has message "method" = true
  shape : methodShape message = true

namespace MethodFrame

def wrapped (frame : MethodFrame host limits) : ServerMessage := ⟨frame.message, some frame.line⟩

def serverRequest (frame : MethodFrame host limits) : Bool := has frame.message "id"

/-- The one envelope a frame is expected to yield. -/
def envelope (frame : MethodFrame host limits) (ordinal : Nat) : AcquisitionEnvelope where
  ordinal := .int ordinal
  kind := .str (text (if frame.serverRequest then "SERVER_REQUEST" else "NOTIFICATION"))
  message := some frame.wrapped
  diagnostic := .null
  rawBytes := none
  requestMethod := .null

end MethodFrame

inductive Event (host : Host) (limits : Limits)
  | frame (frame : MethodFrame host limits)
  | got (envelope : AcquisitionEnvelope)
  | empty

structure Stream where
  client : Client
  reading : Bool

/-- The reader takes one frame under its lock, or the consumer takes one envelope. -/
inductive Stream.Step : Stream → Event host limits → Stream → Prop
  | read {client after : Client} {frame : MethodFrame host limits} :
      readFrame host frame.line client = (.ok (), after) → Step ⟨client, true⟩ (.frame frame) ⟨after, true⟩
  | failed {client middle after : Client} {frame : MethodFrame host limits} {className : ClassName} {detail : Text}
      {outcome : Except ClassName Unit} :
      readFrame host frame.line client = (.error className, middle) →
      recordLossLocked (text "App Server stdout reader failed: " ++ detail) none middle = (outcome, after) →
      Step ⟨client, true⟩ (.frame frame) ⟨after, false⟩
  | unread {client : Client} {frame : MethodFrame host limits} : Step ⟨client, false⟩ (.frame frame) ⟨client, false⟩
  | got {client : Client} {reading : Bool} {source rest : ByteBoundedQueue AcquisitionEnvelope}
      {envelope : AcquisitionEnvelope} :
      client.orderedAcquisition = some source → source.getNowait = some (envelope, rest) →
      Step ⟨client, reading⟩ (.got envelope) ⟨{ client with orderedAcquisition := some rest }, reading⟩
  | empty {client : Client} {reading : Bool} {source : ByteBoundedQueue AcquisitionEnvelope} :
      client.orderedAcquisition = some source → source.getNowait = none →
      Step ⟨client, reading⟩ .empty ⟨client, reading⟩

/-- The ordered queue has room for the envelope of the next frame. -/
def Roomy (stream : Stream) : Event host limits → Prop
  | .frame frame => ∀ target, stream.client.orderedAcquisition = some target →
      target.queue.length < target.maxItems ∧ target.queuedBytes + (64 + frame.line.length) ≤ target.maxBytes
  | .got _ | .empty => True

def Stream.RoomyStep (before : Stream) (event : Event host limits) (after : Stream) : Prop :=
  Roomy before event ∧ Stream.Step before event after

/-- A fresh ordered client, with whatever turn its writer has selected. -/
def Stream.initial (limits : Limits) (contract : CaptureContract) (echo : Option (Text × Json)) (turn : Option Text) :
    Stream :=
  ⟨{ Client.initial limits contract with boundedTurnEcho := echo, boundedTurnId := turn }, true⟩

def frames (events : List (Event host limits)) : List (MethodFrame host limits) :=
  events.filterMap fun
    | .frame frame => some frame
    | .got _ | .empty => none

def drained (events : List (Event host limits)) : List AcquisitionEnvelope :=
  events.filterMap fun
    | .got envelope => some envelope
    | .frame _ | .empty => none

def Stream.queued (stream : Stream) : List AcquisitionEnvelope :=
  (stream.client.orderedAcquisition.map fun target => target.queue.map Prod.snd).getD []

/-- Every frame has one envelope, in stream order under consecutive ordinals, and nothing was lost. -/
def Lossless (events : List (Event host limits)) (stream : Stream) : Prop :=
  drained events ++ stream.queued = (frames events).mapIdx (fun ordinal frame => frame.envelope ordinal) ∧
    stream.client.lossGeneration = 0

def ofKind (serverRequest : Bool) (given : List (MethodFrame host limits)) : List (MethodFrame host limits) :=
  given.filter fun frame => frame.serverRequest == serverRequest

/-- The frames of either kind fit the queue that nobody drains. -/
def Fits (given : List (MethodFrame host limits)) : Prop :=
  ∀ serverRequest, (ofKind serverRequest given).length ≤ limits.messageItems ∧
    ((ofKind serverRequest given).map fun frame => frame.line.length).sum ≤ limits.messageBytes

/-- The test for the closed shapes of the selected turn does not raise on the frame. -/
def Selectable (contract : CaptureContract) (echo : Option (Text × Json)) (turn : Option Text)
    (frame : MethodFrame host limits) : Prop :=
  ∃ selected, isSelectedEcho (Stream.initial limits contract echo turn).client frame.wrapped frame.line = .ok selected

/-- The condition under which nothing is lost: the undrained queues have room, and no frame ends the
reader, neither by the test of its shape nor by the copy that its envelope holds. -/
structure Fine (contract : CaptureContract) (echo : Option (Text × Json)) (turn : Option Text)
    (given : List (MethodFrame host limits)) : Prop where
  fits : Fits given
  selectable : ∀ frame ∈ given, Selectable contract echo turn frame
  copied : ∀ frame ∈ given, host.copies frame.message = true

variable {contract : CaptureContract} {echo : Option (Text × Json)} {turn : Option Text}

private theorem frames_append (events : List (Event host limits)) (frame : MethodFrame host limits) :
    frames (events ++ [.frame frame]) = frames events ++ [frame] := by
  simp [frames]

private theorem ofKind_append (serverRequest : Bool) (given : List (MethodFrame host limits))
    (frame : MethodFrame host limits) :
    ofKind serverRequest (given ++ [frame]) =
      ofKind serverRequest given ++ if frame.serverRequest = serverRequest then [frame] else [] := by
  simp only [ofKind, List.filter_append]
  congr 1
  by_cases same : frame.serverRequest = serverRequest <;> simp [same]

private theorem Fits.before {given : List (MethodFrame host limits)} {frame : MethodFrame host limits}
    (fits : Fits (given ++ [frame])) : Fits given := by
  intro serverRequest
  obtain ⟨count, size⟩ := fits serverRequest
  simp only [ofKind_append, List.length_append, List.map_append, List.sum_append] at count size
  omega

private theorem Fine.before {given : List (MethodFrame host limits)} {frame : MethodFrame host limits}
    (fine : Fine contract echo turn (given ++ [frame])) : Fine contract echo turn given :=
  ⟨fine.fits.before, fun other listed => fine.selectable other (List.mem_append_left _ listed),
    fun other listed => fine.copied other (List.mem_append_left _ listed)⟩

private theorem Fine.here {given : List (MethodFrame host limits)} {frame : MethodFrame host limits}
    (fine : Fine contract echo turn (given ++ [frame])) : host.copies frame.message = true :=
  fine.copied frame (List.mem_append_right _ List.mem_cons_self)

private theorem Fine.push {given : List (MethodFrame host limits)} {frame : MethodFrame host limits}
    (fine : Fine contract echo turn given) (fits : Fits (given ++ [frame]))
    (selectable : Selectable contract echo turn frame) (copied : host.copies frame.message = true) :
    Fine contract echo turn (given ++ [frame]) := by
  refine ⟨fits, fun other listed => ?_, fun other listed => ?_⟩
  · rcases List.mem_append.mp listed with listed | listed
    · exact fine.selectable other listed
    · exact List.mem_singleton.mp listed ▸ selectable
  · rcases List.mem_append.mp listed with listed | listed
    · exact fine.copied other listed
    · exact List.mem_singleton.mp listed ▸ copied

/-- What the reader's tests depend on, and no offer changes. -/
def Client.selection (client : Client) : Nat × CaptureContract × Option (Text × Json) × Option Text :=
  (client.maximumLineBytes, client.captureContract, client.boundedTurnEcho, client.boundedTurnId)

/-- A client that has counted this many more losses, under the same selection. -/
def Client.Lost (before : Client) (count : Nat) (after : Client) : Prop :=
  after.selection = before.selection ∧ after.lossGeneration = before.lossGeneration + count

/-- However the program ends, this many losses are counted. -/
abbrev Loses {α : Type} (count : Nat) (program : Reader α) (before : Client) : Prop :=
  Effect.Meets program before (fun _ => before.Lost count) (fun _ => before.Lost count)

theorem nextOrderedLocked_loses (copied : Bool) (kind : String) (message : Option ServerMessage) (diagnostic : Json)
    (rawBytes : Option Bytes) (requestMethod : Json) (client : Client) :
    Loses 0 (nextOrderedLocked copied kind message diagnostic rawBytes requestMethod) client := by
  apply nextOrderedLocked_meets
  · exact fun _ => ⟨rfl, rfl⟩
  · exact fun _ _ => ⟨fun _ _ => ⟨rfl, rfl⟩, ⟨rfl, rfl⟩, fun _ _ => ⟨rfl, rfl⟩⟩

theorem recordLossLocked_loses (message : Text) (rawBytes : Option Bytes) (client : Client) :
    Loses 1 (recordLossLocked message rawBytes) client := by
  have offered (middle : Client) (lost : client.Lost 1 middle) : Effect.Meets
      (nextOrderedLocked true "LOSS" none (.str (message.take 4096)) rawBytes .null >>= fun _ => pure ()) middle
      (fun _ => client.Lost 1) (fun _ => client.Lost 1) := by
    apply Effect.Meets.bind
    apply (nextOrderedLocked_loses _ _ _ _ _ _ _).weaken
    · intro taken after kept
      exact ⟨kept.1.trans lost.1, kept.2.trans lost.2⟩
    · intro failure after kept
      exact ⟨kept.1.trans lost.1, kept.2.trans lost.2⟩
  unfold recordLossLocked
  apply Effect.Meets.bind
  apply Effect.Meets.modify
  apply Effect.Meets.bind
  apply Effect.Meets.read
  split
  · apply Effect.Meets.bind
    apply Effect.Meets.modify
    exact offered _ ⟨rfl, rfl⟩
  · exact offered _ ⟨rfl, rfl⟩
  · apply Effect.Meets.raise
    exact ⟨rfl, rfl⟩

theorem ByteBoundedQueue.putNowait_ok {α : Type} {target : ByteBoundedQueue α} {item : α} {itemBytes : Nat}
    (sized : target.size item = .ok itemBytes) (count : target.queue.length < target.maxItems)
    (room : target.queuedBytes + itemBytes ≤ target.maxBytes) :
    ∃ after, target.putNowait item = .ok after ∧ after.queue = target.queue ++ [(itemBytes, item)] ∧
      after.maxItems = target.maxItems ∧ after.maxBytes = target.maxBytes ∧ after.size = target.size := by
  unfold ByteBoundedQueue.putNowait
  rw [if_neg (by omega), sized]
  dsimp only
  rw [if_neg (by omega)]
  exact ⟨_, rfl, rfl, rfl, rfl, rfl⟩

theorem ByteBoundedQueue.putNowait_full {α : Type} {target : ByteBoundedQueue α} {item : α} {itemBytes : Nat}
    (sized : target.size item = .ok itemBytes)
    (refused : target.maxItems ≤ target.queue.length ∨ target.maxBytes < target.queuedBytes + itemBytes) :
    target.putNowait item = .error .full := by
  unfold ByteBoundedQueue.putNowait
  rw [sized]
  rcases refused with count | size
  · rw [if_pos count]
  · dsimp only
    rw [if_pos size, ite_self]

theorem ByteBoundedQueue.getNowait_some {α : Type} {source rest : ByteBoundedQueue α} {item : α}
    (got : source.getNowait = some (item, rest)) : ∃ itemBytes, source.queue = (itemBytes, item) :: rest.queue ∧
      rest.maxItems = source.maxItems ∧ rest.maxBytes = source.maxBytes ∧ rest.size = source.size := by
  unfold ByteBoundedQueue.getNowait at got
  split at got
  · cases got
  · next itemBytes other rest shape =>
    cases got
    exact ⟨itemBytes, shape, rfl, rfl, rfl⟩

/-- A message queue that holds every frame of its kind, because nobody drains it. -/
structure Filled (serverRequest : Bool) (given : List (MethodFrame host limits)) (target : ByteBoundedQueue ServerMessage) :
    Prop where
  items : target.maxItems = limits.messageItems
  bytes : target.maxBytes = limits.messageBytes
  size : target.size = messageBytes
  content : target.queue = (ofKind serverRequest given).map fun frame => (frame.line.length, frame.wrapped)

namespace Filled

variable {given : List (MethodFrame host limits)} {frame : MethodFrame host limits} {target : ByteBoundedQueue ServerMessage}
  {serverRequest : Bool}

private theorem queuedBytes (filled : Filled serverRequest given target) :
    target.queuedBytes = ((ofKind serverRequest given).map fun frame => frame.line.length).sum := by
  rw [target.counted, filled.content, List.map_map]
  rfl

/-- The next frame is taken exactly when it still fits. -/
theorem put (filled : Filled frame.serverRequest given target) :
    ((ofKind frame.serverRequest (given ++ [frame])).length ≤ limits.messageItems ∧
        ((ofKind frame.serverRequest (given ++ [frame])).map fun frame => frame.line.length).sum ≤ limits.messageBytes →
      ∃ after, target.putNowait frame.wrapped = .ok after ∧ Filled frame.serverRequest (given ++ [frame]) after) ∧
    (¬ ((ofKind frame.serverRequest (given ++ [frame])).length ≤ limits.messageItems ∧
        ((ofKind frame.serverRequest (given ++ [frame])).map fun frame => frame.line.length).sum ≤ limits.messageBytes) →
      target.putNowait frame.wrapped = .error .full) := by
  have sized : target.size frame.wrapped = .ok frame.line.length := by rw [filled.size]; rfl
  have grown := ofKind_append frame.serverRequest given frame
  rw [if_pos rfl] at grown
  have length : target.queue.length = (ofKind frame.serverRequest given).length := by rw [filled.content, List.length_map]
  have total := filled.queuedBytes
  simp only [grown, List.length_append, List.length_singleton, List.map_append, List.map_cons, List.map_nil,
    List.sum_append, List.sum_singleton]
  constructor
  · rintro ⟨count, room⟩
    obtain ⟨after, done, content, items, bytes, size⟩ := ByteBoundedQueue.putNowait_ok sized
      (by rw [length, filled.items]; omega) (by rw [total, filled.bytes]; exact room)
    refine ⟨after, done, items.trans filled.items, bytes.trans filled.bytes, size.trans filled.size, ?_⟩
    rw [content, filled.content, grown, List.map_append]
    rfl
  · intro refused
    apply ByteBoundedQueue.putNowait_full sized
    rw [length, filled.items, total, filled.bytes]
    omega

/-- A frame of the other kind changes nothing here. -/
theorem other (filled : Filled serverRequest given target) (differ : frame.serverRequest ≠ serverRequest) :
    Filled serverRequest (given ++ [frame]) target :=
  ⟨filled.items, filled.bytes, filled.size, by rw [filled.content, ofKind_append, if_neg differ, List.append_nil]⟩

end Filled

theorem fits_append {given : List (MethodFrame host limits)} {frame : MethodFrame host limits} :
    Fits (given ++ [frame]) ↔ Fits given ∧
      (ofKind frame.serverRequest (given ++ [frame])).length ≤ limits.messageItems ∧
      ((ofKind frame.serverRequest (given ++ [frame])).map fun frame => frame.line.length).sum ≤ limits.messageBytes := by
  refine ⟨fun fits => ⟨fits.before, fits frame.serverRequest⟩, fun ⟨fits, here⟩ serverRequest => ?_⟩
  by_cases same : frame.serverRequest = serverRequest
  · subst same
    exact here
  · rw [ofKind_append, if_neg same, List.append_nil]
    exact fits serverRequest

/-- A well-formed frame asks for its offer, once it has passed the selection test. -/
theorem frameActions_offer (frame : MethodFrame host limits) {client : Client} (line : client.maximumLineBytes = limits.lineBytes) :
    frameActions host frame.line client = match isSelectedEcho client frame.wrapped frame.line with
      | .ok _ => (.ok [.offer frame.serverRequest frame.message frame.line], client)
      | .error className => (.error className, client) := by
  have short : ¬ client.maximumLineBytes < frame.line.length := by
    rw [line]
    exact Nat.not_lt.mpr frame.short
  have retained : ¬ MAXIMUM_RETAINED_ADAPTER_EVENT_BYTES < frame.line.length := Nat.not_lt.mpr frame.retained
  simp only [frameActions, methodActions, Effect.bind_apply, Effect.read_apply, frame.terminated, frame.decoded, frame.named,
    frame.shape, short, retained, decide_false, Bool.false_or, bne_self_eq_false, Bool.false_and, if_true, if_false,
    Bool.false_eq_true]
  unfold MethodFrame.wrapped MethodFrame.serverRequest
  cases isSelectedEcho client ⟨frame.message, some frame.line⟩ frame.line <;> rfl

theorem readFrame_offers (frame : MethodFrame host limits) {client : Client} (line : client.maximumLineBytes = limits.lineBytes) :
    readFrame host frame.line client = match isSelectedEcho client frame.wrapped frame.line with
      | .ok _ => offerMessage host frame.serverRequest frame.wrapped client
      | .error className => (.error className, client) := by
  rw [readFrame_actions, Effect.bind_apply, frameActions_offer frame line]
  cases isSelectedEcho client frame.wrapped frame.line with
  | error className => rfl
  | ok selected => exact congrFun (performAll_single _) client

theorem isSelectedEcho_congr {first last : Client} (same : first.selection = last.selection) (message : ServerMessage)
    (rawLine : Bytes) : isSelectedEcho first message rawLine = isSelectedEcho last message rawLine := by
  simp only [Client.selection, Prod.mk.injEq] at same
  obtain ⟨-, contract, echo, turn⟩ := same
  unfold isSelectedEcho
  rw [contract, echo, turn]

private theorem offerMessage_loses {serverRequest : Bool} {message : Members} {rawLine : Bytes} {client : Client}
    (full : (client.queueFor serverRequest).putNowait ⟨message, some rawLine⟩ = .error .full) :
    Loses 1 (offerMessage host serverRequest ⟨message, some rawLine⟩) client := by
  have counted (middle : Client) (kept : client.Lost 0 middle) (reason : Text) :
      Effect.Meets (recordLossLocked reason (some rawLine)) middle (fun _ => client.Lost 1) (fun _ => client.Lost 1) := by
    apply (recordLossLocked_loses reason (some rawLine) middle).weaken
    · intro _ after lost
      exact ⟨lost.1.trans kept.1, by rw [lost.2, kept.2, Nat.add_zero]⟩
    · intro _ after lost
      exact ⟨lost.1.trans kept.1, by rw [lost.2, kept.2, Nat.add_zero]⟩
  have steps : offerMessage host serverRequest ⟨message, some rawLine⟩ =
      (Action.offer serverRequest message rawLine).perform host >>= performAll host := (Action.offer serverRequest message rawLine).whole_perform
  rw [steps]
  unfold Action.perform
  apply Effect.Meets.bind
  apply Effect.Meets.bind
  apply Effect.Meets.read
  simp only [full]
  apply Effect.Meets.bind
  apply Effect.Meets.modify
  apply Effect.Meets.pure
  rw [performAll_single]
  apply counted
  cases serverRequest <;> exact ⟨rfl, rfl⟩

/-- Losses never go away. -/
private theorem offerMessage_counts (serverRequest : Bool) (message : Members) (rawLine : Bytes) (client : Client) :
    Effect.Meets (offerMessage host serverRequest ⟨message, some rawLine⟩) client
      (fun _ after => after.selection = client.selection ∧ client.lossGeneration ≤ after.lossGeneration)
      (fun _ after => after.selection = client.selection ∧ client.lossGeneration ≤ after.lossGeneration) := by
  cases put : (client.queueFor serverRequest).putNowait ⟨message, some rawLine⟩ with
  | error refusal =>
    cases refusal with
    | full =>
      apply (offerMessage_loses put).weaken
      · exact fun _ after lost => ⟨lost.1, by rw [lost.2]; omega⟩
      · exact fun _ after lost => ⟨lost.1, by rw [lost.2]; omega⟩
    | raised className =>
      unfold offerMessage
      apply Effect.Meets.bind
      apply Effect.Meets.read
      simp only [put]
      exact Effect.Meets.raise ⟨rfl, le_refl _⟩
  | ok target =>
    unfold offerMessage
    apply Effect.Meets.bind
    apply Effect.Meets.read
    simp only [put]
    apply Effect.Meets.bind
    apply Effect.Meets.modify
    apply Effect.Meets.bind
    have kept : client.Lost 0 (client.withQueueFor serverRequest target) := by cases serverRequest <;> exact ⟨rfl, rfl⟩
    apply (nextOrderedLocked_loses _ _ _ _ _ _ _).weaken
    · intro taken middle same
      apply Effect.Meets.ite
      · intro _
        exact Effect.Meets.pure ⟨same.1.trans kept.1, by rw [same.2, kept.2]; omega⟩
      · intro _
        apply (recordLossLocked_loses _ _ _).weaken
        · exact fun _ after lost => ⟨lost.1.trans (same.1.trans kept.1), by rw [lost.2, same.2, kept.2]; omega⟩
        · exact fun _ after lost => ⟨lost.1.trans (same.1.trans kept.1), by rw [lost.2, same.2, kept.2]; omega⟩
    · exact fun _ after same => ⟨same.1.trans kept.1, by rw [same.2, kept.2]; omega⟩

theorem envelopeBytes_frame (frame : MethodFrame host limits) (ordinal : Nat) :
    envelopeBytes (frame.envelope ordinal) = .ok (64 + frame.line.length) := rfl

private theorem offerMessage_taken {frame : MethodFrame host limits} {client : Client} {target : ByteBoundedQueue ServerMessage}
    {source : ByteBoundedQueue AcquisitionEnvelope}
    (taken : (client.queueFor frame.serverRequest).putNowait frame.wrapped = .ok target)
    (copied : host.copies frame.message = true)
    (ordered : client.orderedAcquisition = some source) (sized : source.size = envelopeBytes)
    (count : source.queue.length < source.maxItems)
    (room : source.queuedBytes + (64 + frame.line.length) ≤ source.maxBytes) :
    ∃ grown, grown.queue = source.queue ++ [(64 + frame.line.length, frame.envelope client.acquisitionOrdinal)] ∧
      grown.size = envelopeBytes ∧ offerMessage host frame.serverRequest frame.wrapped client =
        (.ok (), { client.withQueueFor frame.serverRequest target with
          acquisitionOrdinal := client.acquisitionOrdinal + 1
          orderedAcquisition := some grown }) := by
  have size : source.size (frame.envelope client.acquisitionOrdinal) = .ok (64 + frame.line.length) := by
    rw [sized, envelopeBytes_frame]
  obtain ⟨grown, put, content, -, -, same⟩ := ByteBoundedQueue.putNowait_ok size count room
  refine ⟨grown, content, same.trans sized, ?_⟩
  have kept : (client.withQueueFor frame.serverRequest target).orderedAcquisition = some source ∧
      (client.withQueueFor frame.serverRequest target).acquisitionOrdinal = client.acquisitionOrdinal := by
    cases frame.serverRequest <;> exact ⟨ordered, rfl⟩
  simp only [MethodFrame.envelope] at put
  have copies : host.copies frame.wrapped.raw = true := copied
  simp only [offerMessage, nextOrderedLocked, Effect.bind_apply, Effect.read_apply, Effect.modify_apply, taken, kept.1, kept.2,
    copies, Bool.not_true, Bool.and_false, Bool.false_eq_true, if_false, Option.filter_none, put, if_true]
  rfl

/-- An offer that ends without an exception has copied its message. -/
private theorem offerMessage_copied {frame : MethodFrame host limits} {client after : Client}
    {target : ByteBoundedQueue ServerMessage} {source : ByteBoundedQueue AcquisitionEnvelope}
    (taken : (client.queueFor frame.serverRequest).putNowait frame.wrapped = .ok target)
    (ordered : client.orderedAcquisition = some source)
    (done : offerMessage host frame.serverRequest frame.wrapped client = (.ok (), after)) :
    host.copies frame.message = true := by
  have kept : (client.withQueueFor frame.serverRequest target).orderedAcquisition = some source := by
    cases frame.serverRequest <;> exact ordered
  cases copied : host.copies frame.message with
  | true => rfl
  | false =>
    have raises : host.copies frame.wrapped.raw = false := copied
    simp only [offerMessage, nextOrderedLocked, Effect.bind_apply, Effect.read_apply, Effect.modify_apply, taken, kept,
      raises, Option.isSome_some, Bool.not_false, Bool.and_true, if_true] at done
    cases done

/-- While nothing is lost, either queue holds its frames and the ordered one the envelopes not yet drained. -/
structure Intact (events : List (Event host limits)) (stream : Stream) : Prop where
  reading : stream.reading = true
  filled : ∀ serverRequest, Filled serverRequest (frames events) (stream.client.queueFor serverRequest)
  ordered : ∃ source, stream.client.orderedAcquisition = some source ∧ source.size = envelopeBytes
  enveloped : drained events ++ stream.queued = (frames events).mapIdx fun ordinal frame => frame.envelope ordinal
  ordinal : stream.client.acquisitionOrdinal = (frames events).length
  lossless : stream.client.lossGeneration = 0

/-- A stream is intact exactly while its frames are fine, and has lost one otherwise. -/
structure Tracked (contract : CaptureContract) (echo : Option (Text × Json)) (turn : Option Text)
    (events : List (Event host limits)) (stream : Stream) : Prop where
  selection : stream.client.selection = (limits.lineBytes, contract, echo, turn)
  intact : Fine contract echo turn (frames events) → Intact events stream
  lossy : ¬ Fine contract echo turn (frames events) → 0 < stream.client.lossGeneration

private theorem Intact.frame {events : List (Event host limits)} {client : Client} {frame : MethodFrame host limits}
    (intact : Intact events ⟨client, true⟩) (roomy : Roomy ⟨client, true⟩ (.frame frame))
    (fits : Fits (frames events ++ [frame])) (copied : host.copies frame.message = true) : ∃ after,
      offerMessage host frame.serverRequest frame.wrapped client = (.ok (), after) ∧
        Intact (events ++ [.frame frame]) ⟨after, true⟩ := by
  obtain ⟨source, ordered, sized⟩ := intact.ordered
  obtain ⟨count, room⟩ := roomy source ordered
  obtain ⟨target, taken, refilled⟩ := (intact.filled frame.serverRequest).put.1 (fits frame.serverRequest)
  obtain ⟨grown, content, size, done⟩ := offerMessage_taken taken copied ordered sized count room
  refine ⟨_, done, rfl, fun serverRequest => ?_, ⟨grown, rfl, size⟩, ?_, ?_, ?_⟩
  · rw [frames_append]
    have here := intact.filled serverRequest
    by_cases same : frame.serverRequest = serverRequest
    · subst same
      cases kind : frame.serverRequest <;> rw [kind] at refilled <;> exact refilled
    · have still := here.other same
      cases kind : frame.serverRequest <;> cases serverRequest <;> simp_all [Client.queueFor, Client.withQueueFor]
  · have before := intact.enveloped
    dsimp only at ordered
    simp only [Stream.queued, ordered, Option.map_some, Option.getD_some] at before
    have still : drained (events ++ [.frame frame]) = drained events := by simp [drained]
    simp only [Stream.queued, Option.map_some, Option.getD_some, content, List.map_append, List.map_cons, List.map_nil, still,
      frames_append, List.mapIdx_append, ← before, List.append_assoc, List.mapIdx_cons, List.mapIdx_nil, Nat.zero_add]
    rw [intact.ordinal]
  · rw [frames_append, List.length_append, List.length_singleton, ← intact.ordinal]
  · have before := intact.lossless
    cases frame.serverRequest <;> exact before

private theorem recordLoss_counts {message : Text} {rawBytes : Option Bytes} {before after : Client}
    {outcome : Except ClassName Unit} (recorded : recordLossLocked message rawBytes before = (outcome, after)) :
    before.Lost 1 after := by
  have loses := recordLossLocked_loses message rawBytes before
  cases outcome with
  | ok _ => exact loses.returns recorded
  | error _ => exact loses.raises recorded

private theorem tracked_frame {events : List (Event host limits)} {before after : Stream} {frame : MethodFrame host limits}
    (tracked : Tracked contract echo turn events before) (roomy : Roomy before (.frame frame))
    (step : Stream.Step before (.frame frame) after) : Tracked contract echo turn (events ++ [.frame frame]) after := by
  have read : readFrame host frame.line before.client =
      match isSelectedEcho (Stream.initial limits contract echo turn).client frame.wrapped frame.line with
      | .ok _ => offerMessage host frame.serverRequest frame.wrapped before.client
      | .error className => (.error className, before.client) := by
    have test : isSelectedEcho before.client frame.wrapped frame.line =
        isSelectedEcho (Stream.initial limits contract echo turn).client frame.wrapped frame.line :=
      isSelectedEcho_congr tracked.selection _ _
    rw [readFrame_offers frame (congrArg Prod.fst tracked.selection), test]
  cases step with
  | @read client after _ done =>
    rw [read] at done
    cases test : isSelectedEcho (Stream.initial limits contract echo turn).client frame.wrapped frame.line with
    | error className => rw [test] at done; cases done
    | ok value =>
      rw [test] at done
      obtain ⟨same, counted⟩ := (offerMessage_counts _ _ _ _).returns done
      refine ⟨same.trans tracked.selection, fun fine => ?_, fun lost => ?_⟩
      · rw [frames_append] at fine
        obtain ⟨other, offered, intact⟩ := (tracked.intact fine.before).frame roomy fine.fits fine.here
        cases done.symm.trans offered
        exact intact
      · rw [frames_append] at lost
        by_cases fine : Fine contract echo turn (frames events)
        · -- The frame has not ended the reader, so it is its queue that has no room left.
          have overfull : ¬ Fits (frames events ++ [frame]) := by
            intro fits
            have target := ((tracked.intact fine).filled frame.serverRequest).put.1 (fits frame.serverRequest)
            refine lost (fine.push fits ⟨value, test⟩ ?_)
            obtain ⟨after, taken, -⟩ := target
            obtain ⟨source, ordered, -⟩ := (tracked.intact fine).ordered
            exact offerMessage_copied taken ordered done
          have full := ((tracked.intact fine).filled frame.serverRequest).put.2 fun room =>
            overfull (fits_append.mpr ⟨fine.fits, room⟩)
          have counted := ((offerMessage_loses full).returns done).2
          dsimp only
          omega
        · exact Nat.lt_of_lt_of_le (tracked.lossy fine) counted
  | @failed client middle after _ className detail outcome raised recorded =>
    rw [read] at raised
    have lost := recordLoss_counts recorded
    have kept : middle.selection = client.selection := by
      cases test : isSelectedEcho (Stream.initial limits contract echo turn).client frame.wrapped frame.line with
      | error _ =>
        rw [test] at raised
        cases raised
        rfl
      | ok _ =>
        rw [test] at raised
        exact ((offerMessage_counts _ _ _ _).raises raised).1
    refine ⟨(lost.1.trans kept).trans tracked.selection, fun fine => ?_, fun _ => by have := lost.2; dsimp only; omega⟩
    rw [frames_append] at fine
    obtain ⟨value, test⟩ := fine.selectable frame (List.mem_append_right _ List.mem_cons_self)
    obtain ⟨other, offered, -⟩ := (tracked.intact fine.before).frame roomy fine.fits fine.here
    rw [test] at raised
    cases raised.symm.trans offered
  | unread =>
    have broken : ¬ Fine contract echo turn (frames events) := fun fine => nomatch (tracked.intact fine).reading
    refine ⟨tracked.selection, fun fine => ?_, fun _ => tracked.lossy broken⟩
    rw [frames_append] at fine
    exact absurd fine.before broken

private theorem tracked_step {events : List (Event host limits)} {event : Event host limits} {before after : Stream}
    (tracked : Tracked contract echo turn events before) (step : Stream.RoomyStep before event after) :
    Tracked contract echo turn (events ++ [event]) after := by
  obtain ⟨roomy, step⟩ := step
  cases event with
  | frame frame => exact tracked_frame tracked roomy step
  | empty =>
    have still : frames (events ++ [.empty]) = frames events ∧ drained (events ++ [.empty]) = drained events := by
      simp [frames, drained]
    cases step with
    | empty =>
      refine ⟨tracked.selection, fun fine => ?_, fun lost => tracked.lossy (still.1 ▸ lost)⟩
      have intact := tracked.intact (still.1 ▸ fine)
      exact ⟨intact.reading, still.1 ▸ intact.filled, intact.ordered, by rw [still.1, still.2]; exact intact.enveloped,
        still.1 ▸ intact.ordinal, intact.lossless⟩
  | got envelope =>
    have still : frames (events ++ [.got envelope]) = frames events ∧
        drained (events ++ [.got envelope]) = drained events ++ [envelope] := by simp [frames, drained]
    cases step with
    | @got client reading source rest _ ordered taken =>
      refine ⟨tracked.selection, fun fine => ?_, fun lost => tracked.lossy (still.1 ▸ lost)⟩
      have intact := tracked.intact (still.1 ▸ fine)
      obtain ⟨itemBytes, shape, -, -, size⟩ := ByteBoundedQueue.getNowait_some taken
      obtain ⟨other, same, sized⟩ := intact.ordered
      cases same.symm.trans ordered
      refine ⟨intact.reading, still.1 ▸ intact.filled, ⟨rest, rfl, size.trans sized⟩, ?_, still.1 ▸ intact.ordinal,
        intact.lossless⟩
      have before := intact.enveloped
      simp only [Stream.queued, ordered, shape, Option.map_some, Option.getD_some, List.map_cons] at before
      simp only [Stream.queued, still.1, still.2, Option.map_some, Option.getD_some, List.append_assoc, List.singleton_append]
      exact before

private theorem tracked_initial : Tracked contract echo turn ([] : List (Event host limits))
    (Stream.initial limits contract echo turn) where
  selection := rfl
  intact _ := ⟨rfl, fun serverRequest => by cases serverRequest <;> exact ⟨rfl, rfl, rfl, rfl⟩, ⟨_, rfl, rfl⟩, rfl, rfl, rfl⟩
  lossy broken := by
    exfalso
    exact broken ⟨fun serverRequest => ⟨Nat.zero_le _, Nat.zero_le _⟩, nofun, nofun⟩

/-- However reader and drains interleave, ordered-only consumption is lossless exactly while the frames
of either kind fit the queue that nobody drains, and none of them ends the reader: by breaking the test
for the selected turn's closed shapes, or by a nesting that cannot be copied. -/
theorem ordered_only_lossless {events : List (Event host limits)} {stream : Stream}
    (run : Run Stream.RoomyStep (Stream.initial limits contract echo turn) events stream) :
    Lossless events stream ↔ Fine contract echo turn (frames events) := by
  have tracked : Tracked contract echo turn events stream :=
    run.invariant (Tracked contract echo turn) tracked_initial fun _ _ _ _ _ tracked step => tracked_step tracked step
  refine ⟨fun lossless => ?_, fun fine => ⟨(tracked.intact fine).enveloped, (tracked.intact fine).lossless⟩⟩
  by_contra broken
  have lost := tracked.lossy broken
  rw [lossless.2] at lost
  exact absurd lost (Nat.lt_irrefl 0)

def sampleLine : Bytes := ascii "\x7b\"method\":\"a\"\x7d\n"

def requestLine : Bytes := ascii "\x7b\"method\":\"b\",\"id\":1\x7d\n"

/-- A decoder that knows a notification and a server request. -/
def lineLoads (size : Nat) : Except DecodeFailure Json :=
  match size with
  | 15 => .ok (.obj [(text "method", .str (text "a"))])
  | 22 => .ok (.obj [(text "method", .str (text "b")), (text "id", .int 1)])
  | _ => .error (.malformed (className "JSONDecodeError") (text "Expecting value: line 1 column 1 (char 0)"))

def lineHost : Host where
  sha256 _ := ⟨List.replicate 32 0, zeros_length⟩
  loads raw := lineLoads raw.length
  loadsUnique raw := lineLoads raw.length
  loadsUniqueText line := lineLoads line.length
  floatText _ := ascii "0.5"
  copies _ := true

/-- Message queues of one item beside an ordered queue of the usual size. -/
def sampleLimits : Limits :=
  ⟨1024, 1, 1024, 256, 65536, by decide, by decide, by decide⟩

def sampleFrame : MethodFrame lineHost sampleLimits where
  line := sampleLine
  message := [(text "method", .str (text "a"))]
  terminated := by decide
  short := by decide
  retained := by decide
  decoded := by decide
  named := by decide
  shape := by decide

def requestFrame : MethodFrame lineHost sampleLimits where
  line := requestLine
  message := [(text "method", .str (text "b")), (text "id", .int 1)]
  terminated := by decide
  short := by decide
  retained := by decide
  decoded := by decide
  named := by decide
  shape := by decide

def sampleStream : Stream := Stream.initial sampleLimits .legacy none none

def sampleRead (frame : MethodFrame lineHost sampleLimits) (stream : Stream) : Stream :=
  ⟨(readFrame lineHost frame.line stream.client).2, true⟩

private theorem sample_read (frame : MethodFrame lineHost sampleLimits) {stream : Stream} (reading : stream.reading = true)
    (done : (readFrame lineHost frame.line stream.client).1 = .ok ())
    (roomy : (stream.client.orderedAcquisition.all fun target => decide (target.queue.length < target.maxItems ∧
      target.queuedBytes + (64 + frame.line.length) ≤ target.maxBytes)) = true) :
    Stream.RoomyStep stream (.frame frame) (sampleRead frame stream) := by
  obtain ⟨client, reading⟩ := stream
  subst reading
  refine ⟨fun target ordered => ?_, .read (Prod.ext done rfl)⟩
  dsimp only at ordered roomy
  rw [ordered] at roomy
  exact of_decide_eq_true roomy

def Client.next (client : Client) : Option (AcquisitionEnvelope × ByteBoundedQueue AcquisitionEnvelope) :=
  client.orderedAcquisition.bind ByteBoundedQueue.getNowait

def sampleGot (stream : Stream) : Stream :=
  ⟨{ stream.client with orderedAcquisition := stream.client.next.map Prod.snd }, true⟩

private theorem sample_got {stream : Stream} {envelope : AcquisitionEnvelope} (reading : stream.reading = true)
    (first : stream.client.next.map Prod.fst = some envelope) :
    @Stream.RoomyStep lineHost sampleLimits stream (.got envelope) (sampleGot stream) := by
  obtain ⟨client, reading⟩ := stream
  subst reading
  obtain ⟨⟨head, rest⟩, taken, rfl⟩ := Option.map_eq_some_iff.mp first
  obtain ⟨source, ordered, got⟩ := Option.bind_eq_some_iff.mp taken
  have after : (sampleGot ⟨client, true⟩) = ⟨{ client with orderedAcquisition := some rest }, true⟩ := by
    dsimp only at taken
    simp [sampleGot, taken]
  rw [after]
  exact ⟨trivial, .got ordered got⟩

/-- A notification and a server request are read, then both are drained. -/
theorem ordered_only_lossless_sample : ∃ stream, Run Stream.RoomyStep sampleStream
    [.frame sampleFrame, .frame requestFrame, .got (sampleFrame.envelope 0), .got (requestFrame.envelope 1)] stream ∧
      Lossless [.frame sampleFrame, .frame requestFrame, .got (sampleFrame.envelope 0), .got (requestFrame.envelope 1)]
        stream := by
  have first : Run Stream.RoomyStep sampleStream [.frame sampleFrame] (sampleRead sampleFrame sampleStream) :=
    Run.single_iff.mpr (sample_read sampleFrame rfl (by decide) (by decide))
  have both := first.snoc (sample_read requestFrame rfl (by decide) (by decide))
  have notified := both.snoc (@sample_got _ (sampleFrame.envelope 0) rfl (by decide))
  have drained := notified.snoc (@sample_got _ (requestFrame.envelope 1) rfl (by decide))
  refine ⟨_, drained, (ordered_only_lossless drained).mpr ⟨fun serverRequest => ?_, fun frame listed => ?_, fun _ _ => rfl⟩⟩
  · cases serverRequest <;> decide
  · simp only [frames, List.nil_append, List.cons_append, List.filterMap_cons, List.filterMap_nil, List.mem_cons,
      List.not_mem_nil, or_false] at listed
    rcases listed with rfl | rfl <;> exact ⟨false, rfl⟩

/-- With one place in its queue, the second notification is lost although the ordered queue is nearly empty. -/
theorem ordered_only_lossy : ∃ (events : List (Event lineHost sampleLimits)) (stream : Stream),
    Run Stream.RoomyStep sampleStream events stream ∧ ¬ Lossless events stream := by
  have first : Run Stream.RoomyStep sampleStream [.frame sampleFrame] (sampleRead sampleFrame sampleStream) :=
    Run.single_iff.mpr (sample_read sampleFrame rfl (by decide) (by decide))
  refine ⟨_, _, first.snoc (sample_read sampleFrame rfl (by decide) (by decide)), fun lossless => ?_⟩
  have lost : (sampleRead sampleFrame (sampleRead sampleFrame sampleStream)).client.lossGeneration = 1 := by decide
  cases lost.symm.trans lossless.2

end Switchyard.AppServer
