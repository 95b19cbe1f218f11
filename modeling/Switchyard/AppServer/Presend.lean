import Switchyard.AppServer.Custody
import Switchyard.Library.Serial

/-! Custody before sending. Many threads call `_write`; each takes its request into
the ordered queue before its first byte, and a write may accept as little as one byte
or fail. The pipe has one writer at a time. -/

namespace Switchyard.AppServer
open Library Json

section
variable (floatRepr : ℚ → Text)

/-- Where one call of `_write` stands. -/
inductive Stand
  | absent
  | called (call : Call)
  | examined (call : Call) (wire : Bytes) (selection : Option (Text × Json))
  | passed (call : Call) (wire : Bytes)
  | locked (call : Call) (wire : Bytes)
  | refused (call : Call)
  | writing (call : Call) (wire rest : Bytes)
  | returned (call : Call)
  | raised (call : Call)

/-- The call that has the write lock. -/
def Stand.locks : Stand → Prop
  | .locked _ _ | .refused _ | .writing _ _ _ => True
  | _ => False

/-- What a call does: it begins, its envelope enters the queue (shown before and after) or is
refused, the pipe accepts some bytes, and it ends. -/
inductive Act
  | called (call : Call)
  | queued (before after : List AcquisitionEnvelope)
  | refused
  | wrote (chunk : Bytes)
  | returned
  | raised

structure Pipe where
  client : Client
  stdin : Bytes
  stand : Nat → Stand
  lock : Option Nat

namespace Pipe

def moved (pipe : Pipe) (writer : Nat) (stand : Stand) : Pipe :=
  { pipe with stand := Function.update pipe.stand writer stand }

def ended (pipe : Pipe) (writer : Nat) (stand : Stand) : Pipe := { pipe.moved writer stand with lock := none }

/-- What the other threads may do to the client: they keep its contract and draw ordinals. -/
structure Elsewhere (before after : Client) : Prop where
  queued : after.Queued
  contract : after.captureContract = before.captureContract
  ordinal : before.acquisitionOrdinal ≤ after.acquisitionOrdinal

/-- One step of one call, or of any other thread. -/
inductive Step : Pipe → Option (Nat × Act) → Pipe → Prop
  | call {pipe : Pipe} {writer : Nat} {call : Call} : pipe.stand writer = .absent →
      Step pipe (some (writer, .called call)) (pipe.moved writer (.called call))
  | missing {pipe : Pipe} {writer : Nat} {call : Call} : pipe.stand writer = .called call →
      Step pipe (some (writer, .raised)) (pipe.moved writer (.raised call))
  | check {pipe : Pipe} {writer : Nat} {call : Call} {wire : Bytes} {selection : Option (Text × Json)} :
      pipe.stand writer = .called call → examine floatRepr call pipe.client = .ok (wire, selection) →
      Step pipe none (pipe.moved writer (.examined call wire selection))
  | reject {pipe : Pipe} {writer : Nat} {call : Call} {className : ClassName} :
      pipe.stand writer = .called call → examine floatRepr call pipe.client = .error className →
      Step pipe (some (writer, .raised)) (pipe.moved writer (.raised call))
  | select {pipe : Pipe} {writer : Nat} {call : Call} {wire : Bytes} {selection : Option (Text × Json)} :
      pipe.stand writer = .examined call wire selection →
      Step pipe none { pipe.moved writer (.passed call wire) with client := select selection pipe.client }
  | lock {pipe : Pipe} {writer : Nat} {call : Call} {wire : Bytes} :
      pipe.stand writer = .passed call wire → pipe.lock = none →
      Step pipe none { pipe.moved writer (.locked call wire) with lock := some writer }
  | enqueue {pipe : Pipe} {writer : Nat} {call : Call} {wire : Bytes} {kind : String} {copied : Bool} {client : Client} :
      pipe.stand writer = .locked call wire → call.acquisitionKind = some kind →
      nextOrderedLocked copied kind (some ⟨call.message, some wire⟩) .null none call.method pipe.client = (.ok true, client) →
      Step pipe (some (writer, .queued pipe.client.envelopes client.envelopes))
        { pipe.moved writer (.writing call wire wire) with client := client }
  | refuse {pipe : Pipe} {writer : Nat} {call : Call} {wire : Bytes} {kind : String} {copied : Bool} {client : Client} :
      pipe.stand writer = .locked call wire → call.acquisitionKind = some kind →
      nextOrderedLocked copied kind (some ⟨call.message, some wire⟩) .null none call.method pipe.client = (.ok false, client) →
      Step pipe (some (writer, .refused)) { pipe.moved writer (.refused call) with client := client }
  /-- The first copy of the message raises; the second one is part of `_next_ordered_locked`. -/
  | uncopied {pipe : Pipe} {writer : Nat} {call : Call} {wire : Bytes} {kind : String} :
      pipe.stand writer = .locked call wire → call.acquisitionKind = some kind →
      Step pipe (some (writer, .raised)) (pipe.ended writer (.raised call))
  | interrupt {pipe : Pipe} {writer : Nat} {call : Call} {wire : Bytes} {kind : String} {copied : Bool} {client : Client}
      {className : ClassName} :
      pipe.stand writer = .locked call wire → call.acquisitionKind = some kind →
      nextOrderedLocked copied kind (some ⟨call.message, some wire⟩) .null none call.method pipe.client = (.error className, client) →
      Step pipe (some (writer, .raised)) { pipe.ended writer (.raised call) with client := client }
  | lose {pipe : Pipe} {writer : Nat} {call : Call} {outcome : Except ClassName Unit} {client : Client} :
      pipe.stand writer = .refused call →
      recordLossLocked (text "App Server ordered client request refused by bounded queue") none pipe.client = (outcome, client) →
      Step pipe (some (writer, .raised)) { pipe.ended writer (.raised call) with client := client }
  | skip {pipe : Pipe} {writer : Nat} {call : Call} {wire : Bytes} :
      pipe.stand writer = .locked call wire → call.acquisitionKind = none →
      Step pipe none (pipe.moved writer (.writing call wire wire))
  | write {pipe : Pipe} {writer : Nat} {call : Call} {wire chunk rest : Bytes} :
      pipe.stand writer = .writing call wire (chunk ++ rest) → chunk ≠ [] →
      Step pipe (some (writer, .wrote chunk)) { pipe.moved writer (.writing call wire rest) with stdin := pipe.stdin ++ chunk }
  | fail {pipe : Pipe} {writer : Nat} {call : Call} {wire rest : Bytes} :
      pipe.stand writer = .writing call wire rest →
      Step pipe (some (writer, .raised)) (pipe.ended writer (.raised call))
  | finish {pipe : Pipe} {writer : Nat} {call : Call} {wire : Bytes} :
      pipe.stand writer = .writing call wire [] →
      Step pipe (some (writer, .returned)) (pipe.ended writer (.returned call))
  | other {pipe : Pipe} {client : Client} : Elsewhere pipe.client client → Step pipe none { pipe with client := client }

/-- An ordered client before any of the calls. -/
structure Begun (pipe : Pipe) : Prop where
  queued : pipe.client.Queued
  absent : ∀ writer, pipe.stand writer = .absent
  free : pipe.lock = none

end Pipe

/-- What one call did. -/
def own (writer : Nat) (labels : List (Option (Nat × Act))) : List Act :=
  labels.filterMap fun label => label.bind fun entry => if entry.1 = writer then some entry.2 else none

/-- The bytes that the pipe accepted, and from which call. -/
def writes (labels : List (Option (Nat × Act))) : List (Nat × Bytes) :=
  labels.filterMap fun label => label.bind fun entry =>
    match entry.2 with
    | .wrote chunk => some (entry.1, chunk)
    | _ => none

/-- The ordinal of the envelope that a call put into the queue. -/
def Numbered (labels : List (Option (Nat × Act))) (writer ordinal : Nat) : Prop :=
  ∃ queue envelope, Act.queued queue (queue ++ [envelope]) ∈ own writer labels ∧ Ordinal envelope ordinal

/-- What every sent request has passed. -/
structure Checked (contract : CaptureContract) (call : Call) (wire : Bytes) : Prop where
  serialized : requestWire floatRepr call.message = .ok wire
  method : call.isRequest → get call.message "method" = call.method
  bounded : call.isRequest → wire.length ≤ call.byteBound contract
  shaped : call.isRequest → contract = .boundedTurnEcho → call.requestMethod = some (text "turn/start") → call.echo?.isSome

/-- What the events of a request may be, once it has been called: it raises without a byte, or
its exact bytes are in the queue first, and what is written then is a prefix of them. -/
inductive Course (contract : CaptureContract) (call : Call) : List Act → Prop
  | unsent {events : List Act} : events <+: [.raised] ∨ events <+: [.refused, .raised] → Course contract call events
  | sent {wire : Bytes} {queue : List AcquisitionEnvelope} {ordinal : Nat} {chunks : List Bytes} {ending : List Act} :
      Checked floatRepr contract call wire → chunks.flatten <+: wire →
      ending = [] ∨ ending = [.raised] ∨ ending = [.returned] ∧ chunks.flatten = wire →
      Course contract call (.queued queue (queue ++ [call.envelope "CLIENT_REQUEST" wire ordinal]) ::
        (chunks.map .wrote ++ ending))

end

variable {floatRepr : ℚ → Text}

theorem Ordinal.unique {envelope : AcquisitionEnvelope} {first last : Nat} (left : Ordinal envelope first)
    (right : Ordinal envelope last) : first = last := Int.ofNat.inj (Json.int.inj (left.symm.trans right))

theorem Call.envelope_ordinal (call : Call) (kind : String) (wire : Bytes) (ordinal : Nat) :
    Ordinal (call.envelope kind wire ordinal) ordinal := rfl

theorem examine_checked {call : Call} {client : Client} (queued : client.Queued) {wire : Bytes}
    {selection : Option (Text × Json)} (passed : examine floatRepr call client = .ok (wire, selection)) :
    Checked floatRepr client.captureContract call wire := by
  obtain ⟨source, present, -⟩ := queued
  obtain ⟨serialized, written, rest⟩ := bind_ok.mp passed
  split at rest
  · cases rest
  · next fits =>
    have ordered : client.orderedAcquisition.isSome := by rw [present]; rfl
    have fine (request : call.isRequest) :
        get call.message "method" = call.method ∧ serialized.length ≤ call.byteBound client.captureContract := by
      refine ⟨?_, ?_⟩
      · by_contra differs
        exact fits ⟨ordered, request, .inl differs⟩
      · by_contra large
        exact fits ⟨ordered, request, .inr (Nat.lt_of_not_le large)⟩
    split at rest
    · split at rest
      · next selected _ shape _ =>
        cases rest
        exact ⟨written, fun request => (fine request).1, fun request => (fine request).2, fun _ _ _ => by rw [shape]; rfl⟩
      · cases rest
    · next selects =>
      cases rest
      exact ⟨written, fun request => (fine request).1, fun request => (fine request).2,
        fun request contract method => absurd ⟨contract, request, method⟩ selects⟩

theorem nextOrderedLocked_contract (copied : Bool) (kind : String) (message : Option ServerMessage) (diagnostic : Json)
    (rawBytes : Option Bytes) (requestMethod : Json) (client : Client) :
    Effect.Meets (nextOrderedLocked copied kind message diagnostic rawBytes requestMethod) client
      (fun _ after => after.captureContract = client.captureContract)
      (fun _ after => after.captureContract = client.captureContract) := by
  apply nextOrderedLocked_meets
  · exact fun _ => rfl
  · exact fun _ _ => ⟨fun _ _ => rfl, rfl, fun _ _ => rfl⟩

theorem recordLossLocked_contract (message : Text) (rawBytes : Option Bytes) (client : Client) :
    Effect.Meets (recordLossLocked message rawBytes) client
      (fun _ after => after.captureContract = client.captureContract)
      (fun _ after => after.captureContract = client.captureContract) := by
  have offered (middle : Client) (same : middle.captureContract = client.captureContract) : Effect.Meets
      (nextOrderedLocked true "LOSS" none (.str (message.take 4096)) rawBytes .null >>= fun _ => pure ()) middle
      (fun _ after => after.captureContract = client.captureContract)
      (fun _ after => after.captureContract = client.captureContract) := by
    apply Effect.Meets.bind
    apply (nextOrderedLocked_contract _ _ _ _ _ _ middle).weaken
    · intro taken after kept
      exact .pure (kept.trans same)
    · intro className after kept
      exact kept.trans same
  unfold recordLossLocked
  apply Effect.Meets.bind
  apply Effect.Meets.modify
  apply Effect.Meets.bind
  apply Effect.Meets.read
  split
  · apply Effect.Meets.bind
    apply Effect.Meets.modify
    exact offered _ rfl
  · exact offered _ rfl
  · apply Effect.Meets.raise
    rfl

/-- What any step leaves of the client. -/
theorem Pipe.Step.elsewhere {before after : Pipe} {label : Option (Nat × Act)} (queued : before.client.Queued)
    (step : Step floatRepr before label after) : Elsewhere before.client after.client := by
  have same : Elsewhere before.client before.client := ⟨queued, rfl, Nat.le_refl _⟩
  have ordering {copied : Bool} {kind : String} {message : Option ServerMessage} {method : Json} {outcome : Except ClassName Bool} {client : Client}
      (result : nextOrderedLocked copied kind message .null none method before.client = (outcome, client)) :
      Elsewhere before.client client := by
    have progress := nextOrderedLocked_progress copied kind message .null none method queued
    have contract := nextOrderedLocked_contract copied kind message .null none method before.client
    cases outcome with
    | ok taken =>
      have grown := progress.returns result
      exact ⟨grown.queued, contract.returns result, grown.ordinal ▸ Nat.le_add_right _ _⟩
    | error className =>
      have grown := progress.raises result
      exact ⟨grown.queued, contract.raises result, grown.ordinal ▸ Nat.le_add_right _ _⟩
  cases step with
  | call | missing | check | reject | lock | uncopied | skip | write | fail | finish => exact same
  | @select writer call wire selection _ =>
    cases selection with
    | none => exact same
    | some selection => exact ⟨queued, rfl, Nat.le_refl _⟩
  | enqueue _ _ result | refuse _ _ result | interrupt _ _ result => exact ordering result
  | @lose writer call outcome client _ result =>
    have contract := recordLossLocked_contract (text "App Server ordered client request refused by bounded queue") none before.client
    have recorded := recordLossLocked_recorded (text "App Server ordered client request refused by bounded queue") none queued
    cases outcome with
    | ok _ =>
      obtain ⟨added, drawn, grown, -⟩ := recorded.returns result
      exact ⟨grown.queued, contract.returns result, grown.ordinal ▸ Nat.le_add_right _ _⟩
    | error className =>
      obtain ⟨added, drawn, grown, -⟩ := recorded.raises result
      exact ⟨grown.queued, contract.raises result, grown.ordinal ▸ Nat.le_add_right _ _⟩
  | other fine => exact fine

section
variable {labels : List (Option (Nat × Act))} {writer other : Nat} {act : Act}

@[simp] theorem own_none : own writer (labels ++ [none]) = own writer labels := by
  simp [own]

@[simp] theorem own_self : own writer (labels ++ [some (writer, act)]) = own writer labels ++ [act] := by
  simp [own]

theorem own_other (different : other ≠ writer) : own other (labels ++ [some (writer, act)]) = own other labels := by
  simp [own, Ne.symm different]

/-- The bytes that an act put into the pipe. -/
def Act.chunk? : Act → Option Bytes
  | .wrote chunk => some chunk
  | _ => none

theorem written_writes : written writer (writes labels) = (own writer labels).filterMap Act.chunk? := by
  induction labels using List.reverseRecOn with
  | nil => rfl
  | append_singleton labels label ih =>
    have split (label : Option (Nat × Act)) : writes (labels ++ [label]) = writes labels ++ writes [label] :=
      List.filterMap_append ..
    rw [split]
    cases label with
    | none => simpa [writes] using ih
    | some entry =>
      obtain ⟨caller, act⟩ := entry
      by_cases same : caller = writer
      · subst same
        rw [own_self, List.filterMap_append, ← ih]
        cases act <;> simp [writes, written, Act.chunk?]
      · rw [own_other (Ne.symm same), ← ih]
        cases act <;> simp [writes, written, same]

/-- How the envelope of a call shows among its acts, if it is to have one. -/
def Entered (call : Call) (wire : Bytes) (acts : List Act) : Prop :=
  call.acquisitionKind = none ∧ acts = [] ∨ ∃ kind queue ordinal, call.acquisitionKind = some kind ∧
    acts = [.queued queue (queue ++ [call.envelope kind wire ordinal])]

variable (floatRepr) in
/-- A call has passed its checks and is writing. -/
structure Sending (contract : CaptureContract) (call : Call) (wire rest : Bytes) (acts : List Act) : Prop where
  checked : Checked floatRepr contract call wire
  acts : ∃ (entered : List Act) (chunks : List Bytes), Entered call wire entered ∧ acts = .called call :: (entered ++ chunks.map .wrote) ∧
    chunks.flatten ++ rest = wire

variable (floatRepr) in
/-- What a call has done so far, by where it stands. -/
def Stand.Fits (contract : CaptureContract) (acts : List Act) : Stand → Prop
  | .absent => acts = []
  | .called call => acts = [.called call]
  | .examined call wire _ | .passed call wire | .locked call wire =>
    acts = [.called call] ∧ Checked floatRepr contract call wire
  | .refused call => acts = [.called call, .refused]
  | .writing call wire rest => Sending floatRepr contract call wire rest acts
  | .returned call => ∃ wire sent, Sending floatRepr contract call wire [] sent ∧ acts = sent ++ [.returned]
  | .raised call => acts = [.called call, .raised] ∨ acts = [.called call, .refused, .raised] ∨
    ∃ wire rest sent, Sending floatRepr contract call wire rest sent ∧ acts = sent ++ [.raised]

theorem Entered.chunks {call : Call} {wire : Bytes} {acts : List Act} (entered : Entered call wire acts) :
    acts.filterMap Act.chunk? = [] := by
  rcases entered with ⟨-, rfl⟩ | ⟨kind, queue, ordinal, -, rfl⟩ <;> rfl

end

namespace Pipe

variable {contract : CaptureContract} {labels : List (Option (Nat × Act))} {before after : Pipe}
  {label : Option (Nat × Act)}

/-- Every call fits where it stands. -/
def Fits (floatRepr : ℚ → Text) (contract : CaptureContract) (labels : List (Option (Nat × Act))) (pipe : Pipe) : Prop :=
  ∀ writer, (pipe.stand writer).Fits floatRepr contract (own writer labels)

theorem Fits.at {pipe : Pipe} (fits : pipe.Fits floatRepr contract labels) {writer : Nat} {stand : Stand}
    (stands : pipe.stand writer = stand) : stand.Fits floatRepr contract (own writer labels) := stands ▸ fits writer

/-- A call moves, and does this at most. -/
private theorem Fits.move (fits : before.Fits floatRepr contract labels) {writer : Nat} {stand : Stand} {label : Option (Nat × Act)}
    (mine : ∀ other ≠ writer, own other (labels ++ [label]) = own other labels)
    (moved : after.stand = Function.update before.stand writer stand)
    (fit : stand.Fits floatRepr contract (own writer (labels ++ [label]))) : after.Fits floatRepr contract (labels ++ [label]) := by
  intro other
  rw [moved]
  by_cases same : other = writer
  · subst same
    rw [Function.update_self]
    exact fit
  · rw [Function.update_of_ne same, mine other same]
    exact fits other

theorem Fits.step (fits : before.Fits floatRepr before.client.captureContract labels) (queued : before.client.Queued)
    (step : Step floatRepr before label after) : after.Fits floatRepr before.client.captureContract (labels ++ [label]) := by
  have quiet {writer : Nat} : ∀ other ≠ writer, own other (labels ++ [none]) = own other labels := fun _ _ => own_none
  have acts {writer : Nat} {act : Act} : ∀ other ≠ writer, own other (labels ++ [some (writer, act)]) = own other labels :=
    fun _ different => own_other different
  cases step with
  | @call writer call stands =>
    have fit := fits.at stands
    refine fits.move acts rfl ?_
    rw [own_self, show own writer labels = [] from fit]
    rfl
  | @missing writer call stands =>
    have fit := fits.at stands
    refine fits.move acts rfl (.inl ?_)
    rw [own_self, show own writer labels = [.called call] from fit]
    rfl
  | @check writer call wire selection stands passed =>
    have fit := fits.at stands
    refine fits.move quiet rfl ⟨?_, examine_checked queued passed⟩
    rw [own_none]
    exact fit
  | @reject writer call className stands _ =>
    have fit := fits.at stands
    refine fits.move acts rfl (.inl ?_)
    rw [own_self, show own writer labels = [.called call] from fit]
    rfl
  | @select writer call wire selection stands =>
    have fit := fits.at stands
    refine fits.move quiet rfl ?_
    rw [own_none]
    exact fit
  | @lock writer call wire stands _ =>
    have fit := fits.at stands
    refine fits.move quiet rfl ?_
    rw [own_none]
    exact fit
  | @enqueue writer call wire kind copied client stands named result =>
    have fit := fits.at stands
    obtain ⟨first, checked⟩ := fit
    have grown := (nextOrderedLocked_progress _ _ _ _ _ _ queued).returns result
    refine fits.move acts rfl ⟨checked, _, [], .inr ⟨kind, before.client.envelopes, before.client.acquisitionOrdinal, named, rfl⟩, ?_, rfl⟩
    rw [own_self, first, grown.envelopes]
    rfl
  | @refuse writer call wire kind copied client stands _ _ =>
    have fit := fits.at stands
    refine fits.move acts rfl ?_
    rw [own_self, fit.1]
    rfl
  | @uncopied writer call wire kind stands _ =>
    have fit := fits.at stands
    refine fits.move acts rfl (.inl ?_)
    rw [own_self, fit.1]
    rfl
  | @interrupt writer call wire kind copied client className stands _ _ =>
    have fit := fits.at stands
    refine fits.move acts rfl (.inl ?_)
    rw [own_self, fit.1]
    rfl
  | @lose writer call outcome client stands _ =>
    have fit := fits.at stands
    refine fits.move acts rfl (.inr (.inl ?_))
    rw [own_self, show own writer labels = [.called call, .refused] from fit]
    rfl
  | @skip writer call wire stands unnamed =>
    have fit := fits.at stands
    refine fits.move quiet rfl ⟨fit.2, [], [], .inl ⟨unnamed, rfl⟩, ?_, rfl⟩
    rw [own_none, fit.1]
    rfl
  | @write writer call wire chunk rest stands _ =>
    have fit := fits.at stands
    obtain ⟨checked, entered, chunks, custody, shown, whole⟩ := fit
    refine fits.move acts rfl ⟨checked, entered, chunks ++ [chunk], custody, ?_, ?_⟩
    · rw [own_self, shown]
      simp
    · rw [← whole]
      simp
  | @fail writer call wire rest stands =>
    have fit := fits.at stands
    refine fits.move acts rfl (.inr (.inr ⟨wire, rest, _, fit, ?_⟩))
    rw [own_self]
  | @finish writer call wire stands =>
    have fit := fits.at stands
    refine fits.move acts rfl ⟨wire, _, fit, ?_⟩
    rw [own_self]
  | other _ =>
    intro writer
    rw [own_none]
    exact fits writer

/-- A call between its `with` and its end has the lock, so only one is. -/
def Exclusive (pipe : Pipe) : Prop := ∀ writer, (pipe.stand writer).locks → pipe.lock = some writer

private theorem Exclusive.move (exclusive : before.Exclusive) {writer : Nat} {stand : Stand}
    (moved : after.stand = Function.update before.stand writer stand) (lock : after.lock = before.lock)
    (held : stand.locks → (before.stand writer).locks) : after.Exclusive := by
  intro other locks
  rw [lock]
  rw [moved] at locks
  by_cases same : other = writer
  · subst same
    rw [Function.update_self] at locks
    exact exclusive other (held locks)
  · rw [Function.update_of_ne same] at locks
    exact exclusive other locks

private theorem Exclusive.end (exclusive : before.Exclusive) {writer : Nat} {stand : Stand}
    (moved : after.stand = Function.update before.stand writer stand) (held : (before.stand writer).locks)
    (done : ¬ stand.locks) : after.Exclusive := by
  intro other locks
  rw [moved] at locks
  by_cases same : other = writer
  · subst same
    rw [Function.update_self] at locks
    exact absurd locks done
  · rw [Function.update_of_ne same] at locks
    have two : some other = some writer := (exclusive other locks).symm.trans (exclusive writer held)
    exact absurd (Option.some.inj two) same

theorem Exclusive.step (exclusive : before.Exclusive) (step : Step floatRepr before label after) : after.Exclusive := by
  cases step with
  | call _ | missing _ | check _ _ | reject _ _ | select _ => exact exclusive.move rfl rfl nofun
  | enqueue stands _ _ | refuse stands _ _ | skip stands _ | write stands _ =>
    exact exclusive.move rfl rfl fun _ => by rw [stands]; trivial
  | uncopied stands _ | interrupt stands _ _ | lose stands _ | fail stands | finish stands =>
    exact exclusive.end rfl (by rw [stands]; trivial) nofun
  | @lock writer call wire _ free =>
    intro other locks
    by_cases same : other = writer
    · rw [same]
    · have held : (Function.update before.stand writer (.locked call wire) other).locks := locks
      rw [Function.update_of_ne same] at held
      have taken := exclusive other held
      rw [free] at taken
      cases taken
  | other _ => exact exclusive

theorem Exclusive.alone {pipe : Pipe} (exclusive : pipe.Exclusive) {first last : Nat} (left : (pipe.stand first).locks)
    (right : (pipe.stand last).locks) : first = last :=
  Option.some.inj ((exclusive first left).symm.trans (exclusive last right))

/-- A step that puts an envelope into the queue. -/
theorem Step.queued {writer : Nat} {queue later : List AcquisitionEnvelope}
    (step : Step floatRepr before (some (writer, .queued queue later)) after) (queued : before.client.Queued) :
    ∃ call wire kind, before.stand writer = .locked call wire ∧
      later = queue ++ [call.envelope kind wire before.client.acquisitionOrdinal] ∧
      after.client.acquisitionOrdinal = before.client.acquisitionOrdinal + 1 := by
  generalize shown : some (writer, Act.queued queue later) = label at step
  cases step with
  | @enqueue caller call wire kind copied client stands named result =>
    cases shown
    have grown := (nextOrderedLocked_progress _ _ _ _ _ _ queued).returns result
    exact ⟨call, wire, kind, stands, grown.envelopes, grown.ordinal⟩
  | _ => cases shown

/-- A call that writes after a step wrote before, or has just been let in. -/
theorem Step.writing (step : Step floatRepr before label after) {writer : Nat} {call : Call} {wire rest : Bytes}
    (stands : after.stand writer = .writing call wire rest) :
    (∃ more, before.stand writer = .writing call wire more) ∨ before.stand writer = .locked call wire := by
  have moved {caller : Nat} {stand : Stand} (stands : Function.update before.stand caller stand writer = .writing call wire rest)
      (fine : stand = .writing call wire rest → (∃ more, before.stand caller = .writing call wire more) ∨
        before.stand caller = .locked call wire) :
      (∃ more, before.stand writer = .writing call wire more) ∨ before.stand writer = .locked call wire := by
    by_cases same : writer = caller
    · subst same
      rw [Function.update_self] at stands
      exact fine stands
    · rw [Function.update_of_ne same] at stands
      exact .inl ⟨rest, stands⟩
  cases step with
  | call _ | missing _ | check _ _ | reject _ _ | select _ | lock _ _ | refuse _ _ _ | uncopied _ _ | interrupt _ _ _ | lose _ _ | fail _
  | finish _ => exact moved stands nofun
  | enqueue held _ _ | skip held _ =>
    refine moved stands fun same => ?_
    cases same
    exact .inr held
  | write held _ =>
    refine moved stands fun same => ?_
    cases same
    exact .inl ⟨_, held⟩
  | other _ => exact .inl ⟨rest, stands⟩

end Pipe

section
variable {labels : List (Option (Nat × Act))} {label : Option (Nat × Act)} {writer ordinal : Nat}

theorem mem_own {act : Act} : act ∈ own writer labels ↔ some (writer, act) ∈ labels := by
  simp only [own, List.mem_filterMap, Option.bind_eq_some_iff]
  constructor
  · rintro ⟨label, listed, ⟨caller, did⟩, rfl, found⟩
    split at found
    · next same =>
      cases found
      cases same
      exact listed
    · cases found
  · intro listed
    exact ⟨_, listed, _, rfl, if_pos rfl⟩

theorem Numbered.push (numbered : Numbered labels writer ordinal) : Numbered (labels ++ [label]) writer ordinal := by
  obtain ⟨queue, envelope, listed, carried⟩ := numbered
  exact ⟨queue, envelope, mem_own.mpr (List.mem_append_left _ (mem_own.mp listed)), carried⟩

/-- An ordinal is old, or the last step drew it. -/
theorem Numbered.pushed (numbered : Numbered (labels ++ [label]) writer ordinal) :
    Numbered labels writer ordinal ∨
      ∃ queue envelope, label = some (writer, .queued queue (queue ++ [envelope])) ∧ Ordinal envelope ordinal := by
  obtain ⟨queue, envelope, listed, carried⟩ := numbered
  rcases List.mem_append.mp (mem_own.mp listed) with early | last
  · exact .inl ⟨queue, envelope, mem_own.mpr early, carried⟩
  · exact .inr ⟨queue, envelope, (List.mem_singleton.mp last).symm, carried⟩

end

namespace Pipe

variable {contract : CaptureContract} {labels : List (Option (Nat × Act))} {before after : Pipe}
  {label : Option (Nat × Act)}

/-- All ordinals were drawn from the counter, the one of the call that is writing last. -/
structure Drawn (labels : List (Option (Nat × Act))) (pipe : Pipe) : Prop where
  drawn : ∀ writer ordinal, Numbered labels writer ordinal → ordinal < pipe.client.acquisitionOrdinal
  latest : ∀ writer call wire rest, pipe.stand writer = .writing call wire rest → ∀ other mine ordinal, other ≠ writer →
    Numbered labels writer mine → Numbered labels other ordinal → ordinal < mine

/-- A call that has not been let in has no ordinal. -/
theorem Fits.unnumbered {pipe : Pipe} (fits : pipe.Fits floatRepr contract labels) {writer : Nat} {call : Call} {wire : Bytes}
    (stands : pipe.stand writer = .locked call wire) {ordinal : Nat} : ¬ Numbered labels writer ordinal := by
  rintro ⟨queue, envelope, listed, -⟩
  rw [(fits.at stands).1] at listed
  cases List.mem_singleton.mp listed

theorem Drawn.step (drawn : Drawn labels before) (fits : before.Fits floatRepr contract labels) (exclusive : before.Exclusive)
    (queued : before.client.Queued) (step : Step floatRepr before label after) : Drawn (labels ++ [label]) after := by
  have grown := (step.elsewhere queued).ordinal
  refine ⟨?_, ?_⟩
  · intro writer ordinal numbered
    rcases numbered.pushed with old | ⟨queue, envelope, rfl, carried⟩
    · exact Nat.lt_of_lt_of_le (drawn.drawn writer ordinal old) grown
    · obtain ⟨call, wire, kind, -, same, next⟩ := step.queued queued
      obtain rfl := List.singleton_inj.mp (List.append_cancel_left same)
      have equal := carried.unique (call.envelope_ordinal kind wire _)
      omega
  · intro writer call wire rest stands other mine ordinal different own others
    rcases own.pushed with old | ⟨queue, envelope, rfl, carried⟩
    · rcases step.writing stands with ⟨more, wrote⟩ | locked
      · rcases others.pushed with earlier | ⟨queue, envelope, rfl, -⟩
        · exact drawn.latest writer call wire more wrote other mine ordinal different old earlier
        · -- only the holder of the lock may enqueue
          obtain ⟨caller, sent, kind, locked, -⟩ := step.queued queued
          exact absurd (exclusive.alone (by rw [locked]; trivial) (by rw [wrote]; trivial)) different
      · exact absurd old (fits.unnumbered locked)
    · obtain ⟨caller, sent, kind, -, same, -⟩ := step.queued queued
      obtain rfl := List.singleton_inj.mp (List.append_cancel_left same)
      have equal := carried.unique (caller.envelope_ordinal kind sent _)
      rcases others.pushed with earlier | ⟨queue', envelope, shown, -⟩
      · rw [equal]
        exact drawn.drawn other ordinal earlier
      · exact absurd (Prod.mk.inj (Option.some.inj shown)).1.symm different

/-- The pipe holds one block for each call that has written, in the order of their ordinals; a
call that writes on has the last block. -/
structure Blocks (labels : List (Option (Nat × Act))) (stdin : Bytes) (pipe : Pipe) (order : List Nat) : Prop where
  serial : Serial (writes labels) order
  stdin : pipe.stdin = stdin ++ ((writes labels).map Prod.snd).flatten
  sorted : order.Pairwise fun first last => ∀ mine ordinal, Numbered labels first mine → Numbered labels last ordinal → mine < ordinal
  last : ∀ writer call wire rest, pipe.stand writer = .writing call wire rest → writer ∈ order →
    ∃ earlier, order = earlier ++ [writer]

/-- What a call that is still waiting or being let in has written. -/
theorem Fits.unwritten {pipe : Pipe} (fits : pipe.Fits floatRepr contract labels) {writer : Nat} {call : Call} {wire : Bytes}
    (stands : pipe.stand writer = .locked call wire) : written writer (writes labels) = [] := by
  rw [written_writes, (fits.at stands).1]
  rfl

/-- The bytes in the pipe after a step. -/
theorem Step.wrote (step : Step floatRepr before label after) :
    (writes [label] = [] ∧ after.stdin = before.stdin) ∨ ∃ writer call wire chunk rest,
      label = some (writer, .wrote chunk) ∧ before.stand writer = .writing call wire (chunk ++ rest) ∧
        after.stdin = before.stdin ++ chunk := by
  cases step with
  | write stands _ => exact .inr ⟨_, _, _, _, _, rfl, stands, rfl⟩
  | _ => exact .inl ⟨rfl, rfl⟩

theorem Blocks.step {stdin : Bytes} {order : List Nat} (blocks : Blocks labels stdin before order) (drawn : Drawn labels before)
    (fits : before.Fits floatRepr contract labels) (exclusive : before.Exclusive) (queued : before.client.Queued)
    (step : Step floatRepr before label after) : ∃ order, Blocks (labels ++ [label]) stdin after order := by
  have shown : writes (labels ++ [label]) = writes labels ++ writes [label] := List.filterMap_append ..
  rcases step.wrote with ⟨none, same⟩ | ⟨writer, call, wire, chunk, rest, rfl, stands, grown⟩
  · rw [none, List.append_nil] at shown
    refine ⟨order, ?_, ?_, ?_, ?_⟩
    · rw [shown]
      exact blocks.serial
    · rw [shown, same]
      exact blocks.stdin
    · refine blocks.sorted.imp_of_mem ?_
      intro first last firstListed lastListed sorted mine ordinal left right
      have old {writer ordinal : Nat} (listed : writer ∈ order) (numbered : Numbered (labels ++ [label]) writer ordinal) :
          Numbered labels writer ordinal := by
        rcases numbered.pushed with old | ⟨queue, envelope, rfl, -⟩
        · exact old
        · -- a call that enqueues has not written
          obtain ⟨call, wire, kind, locked, -⟩ := step.queued queued
          exact absurd (fits.unwritten locked) ((blocks.serial.listed writer).mp listed)
      exact sorted mine ordinal (old firstListed left) (old lastListed right)
    · intro writer call wire rest stands listed
      rcases step.writing stands with ⟨more, wrote⟩ | locked
      · exact blocks.last writer call wire more wrote listed
      · exact absurd (fits.unwritten locked) ((blocks.serial.listed writer).mp listed)
  · have one : writes (labels ++ [some (writer, .wrote chunk)]) = writes labels ++ [(writer, chunk)] := shown
    have bytes : after.stdin = stdin ++ ((writes labels ++ [(writer, chunk)]).map Prod.snd).flatten := by
      rw [grown, blocks.stdin]
      simp
    have old {caller ordinal : Nat} (numbered : Numbered (labels ++ [some (writer, .wrote chunk)]) caller ordinal) :
        Numbered labels caller ordinal := by
      rcases numbered.pushed with old | ⟨queue, envelope, shown, -⟩
      · exact old
      · cases shown
    have only (caller : Nat) (call : Call) (wire rest : Bytes) (writes : after.stand caller = .writing call wire rest) :
        caller = writer := by
      have locks : (before.stand caller).locks := by
        rcases step.writing writes with ⟨more, wrote⟩ | locked
        · rw [wrote]
          trivial
        · rw [locked]
          trivial
      exact exclusive.alone locks (by rw [stands]; trivial)
    by_cases begun : writer ∈ order
    · obtain ⟨earlier, rfl⟩ := blocks.last writer call wire _ stands begun
      refine ⟨earlier ++ [writer], ?_, ?_, ?_, ?_⟩
      · rw [one]
        exact blocks.serial.continue
      · rw [one]
        exact bytes
      · exact blocks.sorted.imp fun sorted mine ordinal left right => sorted mine ordinal (old left) (old right)
      · intro caller call wire rest writes listed
        exact ⟨earlier, by rw [only caller call wire rest writes]⟩
    · refine ⟨order ++ [writer], ?_, ?_, ?_, ?_⟩
      · rw [one]
        exact blocks.serial.begin begun
      · rw [one]
        exact bytes
      · refine List.pairwise_append.mpr ⟨?_, List.pairwise_singleton _ _, ?_⟩
        · exact blocks.sorted.imp fun sorted mine ordinal left right => sorted mine ordinal (old left) (old right)
        · intro first listed last single mine ordinal left right
          obtain rfl := List.mem_singleton.mp single
          have different : first ≠ last := fun same => begun (same ▸ listed)
          exact drawn.latest last call wire _ stands first ordinal mine different (old right) (old left)
      · intro caller call wire rest writes listed
        exact ⟨order, by rw [only caller call wire rest writes]⟩

/-- All of it, along a run from `start`. -/
structure Kept (floatRepr : ℚ → Text) (start : Pipe) (labels : List (Option (Nat × Act))) (pipe : Pipe) : Prop where
  queued : pipe.client.Queued
  contract : pipe.client.captureContract = start.client.captureContract
  fits : pipe.Fits floatRepr start.client.captureContract labels
  exclusive : pipe.Exclusive
  drawn : Drawn labels pipe
  blocks : ∃ order, Blocks labels start.stdin pipe order

theorem Begun.kept {start : Pipe} (begun : start.Begun) : Kept floatRepr start [] start := by
  have still (writer : Nat) {call : Call} {wire rest : Bytes} : start.stand writer ≠ .writing call wire rest := by
    rw [begun.absent writer]
    nofun
  refine ⟨begun.queued, rfl, ?_, ?_, ⟨?_, ?_⟩, [], .nil, (List.append_nil _).symm, .nil, ?_⟩
  · intro writer
    rw [begun.absent writer]
    rfl
  · intro writer locks
    rw [begun.absent writer] at locks
    cases locks
  · rintro writer ordinal ⟨queue, envelope, listed, -⟩
    cases listed
  · intro writer call wire rest stands
    exact absurd stands (still writer)
  · intro writer call wire rest stands
    exact absurd stands (still writer)

theorem Kept.step {start : Pipe} (kept : Kept floatRepr start labels before) (step : Step floatRepr before label after) :
    Kept floatRepr start (labels ++ [label]) after := by
  have client := step.elsewhere kept.queued
  obtain ⟨order, blocks⟩ := kept.blocks
  refine ⟨client.queued, client.contract.trans kept.contract, ?_, kept.exclusive.step step,
    kept.drawn.step kept.fits kept.exclusive kept.queued step,
    blocks.step kept.drawn kept.fits kept.exclusive kept.queued step⟩
  have fits := kept.fits
  rw [← kept.contract] at fits ⊢
  exact fits.step kept.queued step

/-- Where a request stands, its acts are as they should be. -/
theorem Fits.course {pipe : Pipe} (fits : pipe.Fits floatRepr contract labels) {writer : Nat} {call : Call}
    (began : some (writer, .called call) ∈ labels) (request : call.isRequest) :
    ∃ acts, own writer labels = .called call :: acts ∧ Course floatRepr contract call acts := by
  have mine : Act.called call ∈ own writer labels := mem_own.mpr began
  have entered {other : Call} {wire : Bytes} {acts : List Act} (entered : Entered other wire acts) : .called call ∉ acts := by
    rcases entered with ⟨-, rfl⟩ | ⟨kind, queue, ordinal, -, rfl⟩ <;> simp
  have sent {other : Call} {wire rest : Bytes} {acts ending : List Act} (sending : Sending floatRepr contract other wire rest acts)
      (shown : own writer labels = acts ++ ending) (last : ending = [] ∨ ending = [.raised] ∨ ending = [.returned] ∧ rest = []) :
      ∃ acts, own writer labels = .called call :: acts ∧ Course floatRepr contract call acts := by
    obtain ⟨checked, custody, chunks, custodied, rfl, whole⟩ := sending
    have same : other = call := by
      rw [shown] at mine
      rcases List.mem_append.mp mine with listed | listed
      · rcases List.mem_cons.mp listed with same | listed
        · cases same
          rfl
        · rcases List.mem_append.mp listed with listed | listed
          · exact absurd listed (entered custodied)
          · obtain ⟨chunk, -, differs⟩ := List.mem_map.mp listed
            cases differs
      · rcases last with rfl | rfl | ⟨rfl, -⟩ <;> simp at listed
    subst same
    rcases custodied with ⟨none, -⟩ | ⟨kind, queue, ordinal, some, rfl⟩
    · rw [show other.acquisitionKind = some "CLIENT_REQUEST" from request] at none
      cases none
    · rw [show other.acquisitionKind = .some "CLIENT_REQUEST" from request] at some
      cases some
      refine ⟨_, shown, ?_⟩
      have ends : ending = [] ∨ ending = [.raised] ∨ ending = [.returned] ∧ chunks.flatten = wire := by
        rcases last with none | raised | ⟨returned, rfl⟩
        · exact .inl none
        · exact .inr (.inl raised)
        · exact .inr (.inr ⟨returned, by rw [← whole, List.append_nil]⟩)
      exact Course.sent checked ⟨rest, whole⟩ ends
  have fit := fits writer
  cases stands : pipe.stand writer with
  | absent =>
    rw [stands] at fit
    rw [show own writer labels = [] from fit] at mine
    cases mine
  | called other =>
    rw [stands] at fit
    have shown : own writer labels = [.called other] := fit
    rw [shown] at mine
    cases List.mem_singleton.mp mine
    exact ⟨[], shown, .unsent (.inl List.nil_prefix)⟩
  | examined other wire _ | passed other wire | locked other wire =>
    rw [stands] at fit
    have shown := fit.1
    rw [shown] at mine
    cases List.mem_singleton.mp mine
    exact ⟨[], shown, .unsent (.inl List.nil_prefix)⟩
  | refused other =>
    rw [stands] at fit
    have shown : own writer labels = [.called other, .refused] := fit
    have same : call = other := by simpa [shown] using mine
    subst same
    exact ⟨_, shown, .unsent (.inr ⟨[.raised], rfl⟩)⟩
  | writing other wire rest =>
    rw [stands] at fit
    exact sent fit (List.append_nil _).symm (.inl rfl)
  | returned other =>
    rw [stands] at fit
    obtain ⟨wire, acts, sending, shown⟩ := fit
    exact sent sending shown (.inr (.inr ⟨rfl, rfl⟩))
  | raised other =>
    rw [stands] at fit
    rcases fit with shown | shown | ⟨wire, rest, acts, sending, shown⟩
    · have same : call = other := by simpa [shown] using mine
      subst same
      exact ⟨_, shown, .unsent (.inl (List.prefix_refl _))⟩
    · have same : call = other := by simpa [shown] using mine
      subst same
      exact ⟨_, shown, .unsent (.inr (List.prefix_refl _))⟩
    · exact sent sending shown (.inr (.inl rfl))

end Pipe

/-- Pre-send custody. Whatever the queue holds, however the writes go and whoever else calls: every request
takes its course, and the pipe is a row of blocks, one for each call, in the order of their ordinals. -/
theorem presend_custody {start finish : Pipe} (begun : start.Begun) {labels : List (Option (Nat × Act))}
    (run : Run (Pipe.Step floatRepr) start labels finish) :
    (∀ writer call, some (writer, .called call) ∈ labels → call.isRequest →
      ∃ acts, own writer labels = .called call :: acts ∧ Course floatRepr start.client.captureContract call acts) ∧
    ∃ order : List Nat, order.Nodup ∧
      finish.stdin = start.stdin ++ (order.flatMap fun writer => written writer (writes labels)).flatten ∧
      (∀ writer, writer ∈ order ↔ written writer (writes labels) ≠ []) ∧
      order.Pairwise fun first last => ∀ mine ordinal,
        Numbered labels first mine → Numbered labels last ordinal → mine < ordinal := by
  have kept : Pipe.Kept floatRepr start labels finish :=
    run.invariant (Pipe.Kept floatRepr start) begun.kept fun _ _ _ _ _ kept step => kept.step step
  obtain ⟨order, blocks⟩ := kept.blocks
  refine ⟨fun writer call => kept.fits.course, order, blocks.serial.distinct, ?_, blocks.serial.listed, blocks.sorted⟩
  rw [blocks.stdin, blocks.serial.blocks]

/-- A call of `request("m")`. -/
def sampleCall : Call := Request.call ⟨1, text "m", none⟩

def sampleWire : Bytes := ascii "\x7b\"id\":1,\"method\":\"m\"\x7d\n"

def samplePipe : Pipe := ⟨Client.initial sampleLimits .legacy, [], fun _ => .absent, none⟩

theorem presend_custody_sample : ∃ (labels : List (Option (Nat × Act))) (finish : Pipe),
    Run (Pipe.Step fun _ => []) samplePipe labels finish ∧ finish.stdin = sampleWire ∧
      ∃ acts, own 7 labels = .called sampleCall :: acts ∧ Course (fun _ => []) .legacy sampleCall acts := by
  have begun : samplePipe.Begun := ⟨⟨_, rfl, rfl⟩, fun _ => rfl, rfl⟩
  have examined : examine (fun _ => []) sampleCall samplePipe.client = .ok (sampleWire, none) := by rfl
  have entered : nextOrderedLocked true "CLIENT_REQUEST" (some ⟨sampleCall.message, some sampleWire⟩) .null none sampleCall.method
      samplePipe.client = (.ok true, (nextOrderedLocked true "CLIENT_REQUEST" (some ⟨sampleCall.message, some sampleWire⟩) .null none
        sampleCall.method samplePipe.client).2) := by rfl
  have called := Run.nil.snoc (@Pipe.Step.call (fun _ => []) samplePipe 7 sampleCall rfl)
  have checked := called.snoc (@Pipe.Step.check _ _ 7 sampleCall sampleWire none rfl examined)
  have passed := checked.snoc (@Pipe.Step.select _ _ 7 sampleCall sampleWire none rfl)
  have locked := passed.snoc (@Pipe.Step.lock _ _ 7 sampleCall sampleWire rfl rfl)
  have queued := locked.snoc (@Pipe.Step.enqueue _ _ 7 sampleCall sampleWire "CLIENT_REQUEST" true _ rfl rfl entered)
  have partly := queued.snoc (@Pipe.Step.write _ _ 7 sampleCall sampleWire (sampleWire.take 4) (sampleWire.drop 4)
    rfl (by decide))
  have wholly := partly.snoc (@Pipe.Step.write _ _ 7 sampleCall sampleWire (sampleWire.drop 4) []
    rfl (by decide))
  have finished := wholly.snoc (@Pipe.Step.finish _ _ 7 sampleCall sampleWire rfl)
  exact ⟨_, _, finished, rfl, (presend_custody begun finished).1 7 sampleCall (by simp) rfl⟩

end Switchyard.AppServer
