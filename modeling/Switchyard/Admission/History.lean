import Switchyard.Admission.Echo
import Switchyard.Admission.Capacity
import Switchyard.Admission.Integrity

/-! The bounded echo lifecycle over whole runs: the history of the envelopes that
were retained, and the order and size of the closed forms in it. -/

namespace Switchyard.Admission
open Library Json AppServer

variable {host : Host} {settings : Settings host}

/-! The history of a run: the envelopes whose calls returned. -/

def retainedBy (settings : Settings host) (mapper : Mapper) (call : Call) : List AcquisitionEnvelope :=
  match (perform settings call mapper).1 with
  | .ok _ => call.envelope?.toList
  | .error _ => []

/-- The envelopes that calls from here on retain. -/
def retained (settings : Settings host) : Mapper → List Call → List AcquisitionEnvelope
  | _, [] => []
  | mapper, call :: rest => retainedBy settings mapper call ++ retained settings (perform settings call mapper).2 rest

theorem retained_append (mapper : Mapper) (calls : List Call) (call : Call) : retained settings mapper (calls ++ [call]) =
    retained settings mapper calls ++ retainedBy settings (performAll settings mapper calls) call := by
  induction calls generalizing mapper with
  | nil => simp [retained, performAll]
  | cons first rest ih =>
    rw [List.cons_append, retained, retained, ih, List.append_assoc]
    rfl

theorem performAll_of_run {start mapper : Mapper} {calls : List Call} (run : Run (Performs settings) start calls mapper) :
    performAll settings start calls = mapper := by
  induction run with
  | nil => rfl
  | snoc _ step ih =>
    rw [performAll] at ih ⊢
    rw [List.foldl_append, ih]
    exact step

/-- The message of a notification. -/
def notified (envelope : AcquisitionEnvelope) : Option ServerMessage :=
  if AcquisitionKind.of envelope.kind = .notification then envelope.message else none

/-- The input that a `turn/start` request selects for its echo. -/
def selectedInput (envelope : AcquisitionEnvelope) : Option Json :=
  if AcquisitionKind.of envelope.kind = .clientRequest ∧ envelope.requestMethod = literal "turn/start" then
    envelope.message.bind fun message => normalizedBoundedTurnInput (get message.params "input")
  else none

def turnInput (history : List AcquisitionEnvelope) : Option Json := history.findSome? selectedInput

def formsAfter (settings : Settings host) : Option Json → List AcquisitionEnvelope → List Form
  | _, [] => []
  | input, envelope :: rest =>
    ((notified envelope).bind (closedForm settings input)).toList ++ formsAfter settings (input.or (selectedInput envelope)) rest

/-- The closed forms of a history. -/
def forms (settings : Settings host) (history : List AcquisitionEnvelope) : List Form := formsAfter settings none history

def notifications (history : List AcquisitionEnvelope) : List ServerMessage := history.filterMap notified

theorem turnInput_append (history : List AcquisitionEnvelope) (envelope : AcquisitionEnvelope) :
    turnInput (history ++ [envelope]) = (turnInput history).or (selectedInput envelope) := by
  unfold turnInput
  rw [List.findSome?_append]
  cases found : selectedInput envelope <;> simp [List.findSome?, found]

theorem forms_append (history : List AcquisitionEnvelope) (envelope : AcquisitionEnvelope) : forms settings (history ++ [envelope]) =
    forms settings history ++ ((notified envelope).bind (closedForm settings (turnInput history))).toList := by
  have after (input : Option Json) : formsAfter settings input (history ++ [envelope]) = formsAfter settings input history ++
      ((notified envelope).bind (closedForm settings (input.or (turnInput history)))).toList := by
    induction history generalizing input with
    | nil => simp [formsAfter, turnInput]
    | cons first rest ih =>
      rw [List.cons_append, formsAfter, formsAfter, ih, List.append_assoc]
      have next : (input.or (selectedInput first)).or (turnInput rest) = input.or (turnInput (first :: rest)) := by
        rw [Option.or_assoc]
        congr 1
        unfold turnInput
        cases found : selectedInput first <;> simp [List.findSome?, found]
      rw [next]
  have whole := after none
  rwa [Option.none_or] at whole

theorem notifications_append (history : List AcquisitionEnvelope) (envelope : AcquisitionEnvelope) :
    notifications (history ++ [envelope]) = notifications history ++ (notified envelope).toList := by
  unfold notifications
  rw [List.filterMap_append]
  cases found : notified envelope <;> simp [found]

/-- The bytes of the notifications that a log retains. -/
def notifiedBytes (records : List Record) : List (Option Bytes) :=
  (records.filter fun record => record.acquisitionKind == some .notification).map fun record => record.raw.map (·.bytes)

theorem notifiedBytes_append (records : List Record) (stored : Record) : notifiedBytes (records ++ [stored]) =
    notifiedBytes records ++ if stored.acquisitionKind = some .notification then [stored.raw.map (·.bytes)] else [] := by
  unfold notifiedBytes
  rw [List.filter_append, List.map_append, List.filter_cons]
  split
  next same => simp [beq_iff_eq.mp same]
  next differs => simp [show ¬ stored.acquisitionKind = some .notification by simpa using differs]

/-- Sizes of the texts of all completed agent messages of a history. -/
def Sizes (settings : Settings host) (history : List AcquisitionEnvelope) (sizes : List Nat) : Prop :=
  List.Forall₂ (fun content size => utf8Length content = .ok size) ((notifications history).filterMap (completedText settings)) sizes

/-- The bounded echo lifecycle of a log with this history. -/
structure EchoLifecycle (settings : Settings host) (records : List Record) (history : List AcquisitionEnvelope) : Prop where
  kept : notifiedBytes records = (notifications history).map (·.rawBytes)
  budget : ∃ sizes, Sizes settings history sizes ∧ sizes.sum ≤ MAXIMUM_BOUNDED_AGENT_OUTPUT_BYTES
  orderly : ∀ earlier form later, forms settings history = earlier ++ form :: later → form.Follows earlier
  large : ∀ earlier envelope later message bytes, history = earlier ++ envelope :: later → notified envelope = some message →
    message.rawBytes = some bytes → MAXIMUM_RAW_EVIDENCE_BYTES < bytes.length → (closedForm settings (turnInput earlier) message).isSome

/-- The mapper has come to where its history leads. -/
structure Echoed (settings : Settings host) (mapper : Mapper) (history : List AcquisitionEnvelope) : Prop where
  input : mapper.bounded.turnInput = turnInput history
  tracks : Tracks mapper.bounded (forms settings history)
  counted : ∃ sizes, Sizes settings history sizes ∧ sizes.sum = mapper.bounded.completedAgentBytes
  within : mapper.bounded.completedAgentBytes ≤ MAXIMUM_BOUNDED_AGENT_OUTPUT_BYTES
  lifecycle : EchoLifecycle settings mapper.records history

theorem split_last {α : Type} {list earlier later : List α} {last middle : α} (same : list ++ [last] = earlier ++ middle :: later) :
    (earlier = list ∧ middle = last) ∨ ∃ rest, list = earlier ++ middle :: rest := by
  rcases List.eq_nil_or_concat later with rfl | ⟨rest, final, rfl⟩
  · obtain ⟨rfl, other⟩ := List.append_inj' same rfl
    exact .inl ⟨rfl, (List.cons.inj other).1.symm⟩
  · right
    refine ⟨rest, ?_⟩
    have shape : earlier ++ middle :: (rest ++ [final]) = (earlier ++ middle :: rest) ++ [final] := by simp
    rw [List.concat_eq_append, shape] at same
    exact (List.append_inj' same rfl).1

/-- An envelope that is no notification moves only the selected input. -/
theorem Acquired.unnotified {before assigned : Mapper} {envelope : AcquisitionEnvelope} {ordinal : Nat} {label : Json}
    {raw : Option RawCustody} {normalized : Normalized} (contract : settings.captureContract = .boundedTurnEcho)
    (acquired : Acquired settings before envelope ordinal label raw normalized assigned) (settled : normalized.discrepant = false)
    (other : AcquisitionKind.of envelope.kind ≠ .notification) :
    assigned.bounded = { before.bounded with turnInput := before.bounded.turnInput.or (selectedInput envelope) } := by
  have undisputed : ¬ ∃ detail execution, normalized = .discrepancy detail execution := by
    rintro ⟨detail, execution, rfl⟩
    cases settled
  have unselected (kind : AcquisitionKind.of envelope.kind ≠ .clientRequest) : selectedInput envelope = none := by
    unfold selectedInput
    rw [if_neg]
    exact fun same => kind same.1
  have still (kind : AcquisitionKind.of envelope.kind ≠ .clientRequest) :
      before.bounded = { before.bounded with turnInput := before.bounded.turnInput.or (selectedInput envelope) } := by
    rw [unselected kind, Option.or_none]
  have notification {serverRequest : Bool} {message : ServerMessage} {method : Text} {raw : RawCustody}
      (observed : Observed settings (before.entered (.of envelope.kind) ordinal) message method serverRequest raw) :
      AcquisitionKind.of envelope.kind = if serverRequest then .serverRequest else .notification := observed.kind _ rfl
  have bare := acquired.bare
  have carried := acquired.carried.resolve_left undisputed
  cases acquired.change with
  | discrepancy => cases settled
  | @clientRequestIssued _ _ _ _ _ input kind _ _ _ =>
    have kind : AcquisitionKind.of envelope.kind = .clientRequest := by simpa [Mapper.entered] using kind
    obtain ⟨message, carries, _, requests⟩ := carried
    obtain ⟨requestMethod, named, selects⟩ := requests kind
    have selected : input = before.bounded.turnInput.or (selectedInput envelope) := by
      unfold Selects at selects
      by_cases start : requestMethod = text "turn/start"
      · rw [if_pos ⟨contract, start⟩] at selects
        obtain ⟨first, _, normalized⟩ := selects
        have first : before.bounded.turnInput = none := first
        have here : selectedInput envelope = normalizedBoundedTurnInput (get message.params "input") := by
          unfold selectedInput
          rw [if_pos ⟨kind, by rw [named, start]; rfl⟩, carries.message]
          rfl
        rw [first, here, normalized]
        rfl
      · rw [if_neg (fun both => start both.2)] at selects
        have nothing : selectedInput envelope = none := by
          unfold selectedInput
          rw [if_neg]
          rintro ⟨_, same⟩
          rw [named] at same
          cases same
          exact start rfl
        rw [nothing, Option.or_none]
        exact selects
    rw [selected]
    rfl
  | clientResponseRetained kind =>
    have kind : AcquisitionKind.of envelope.kind = .clientResponse := by simpa [Mapper.entered] using kind
    exact still (by simp [kind])
  | waitingApproval observed => exact still (by simp [notification observed])
  | requestStarted observed | executionStep observed | admissionRefused observed | responseCompleted observed =>
    exact absurd (notification observed) other
  | localFact observed | watermark observed => exact absurd (notification observed) other
  | legacyFact | cut => exact absurd (bare rfl) undisputed

/-- A notification extends the word of closed forms, in its own bytes. -/
theorem Acquired.notifies {before assigned : Mapper} {envelope : AcquisitionEnvelope} {ordinal : Nat} {label : Json}
    {raw : Option RawCustody} {normalized : Normalized} {word : List Form} (contract : settings.captureContract = .boundedTurnEcho)
    (acquired : Acquired settings before envelope ordinal label raw normalized assigned) (settled : normalized.discrepant = false)
    (kind : AcquisitionKind.of envelope.kind = .notification) (tracks : Tracks before.bounded word) :
    ∃ message custody, envelope.message = some message ∧ raw = some custody ∧ message.rawBytes = some custody.bytes ∧
      Extends settings before.bounded assigned.bounded word message ∧
      (MAXIMUM_RAW_EVIDENCE_BYTES < custody.bytes.length → (closedForm settings before.bounded.turnInput message).isSome) := by
  have undisputed : ¬ ∃ detail execution, normalized = .discrepancy detail execution := by
    rintro ⟨detail, execution, rfl⟩
    cases settled
  obtain ⟨message, carries, null, _⟩ := acquired.carried.resolve_left undisputed
  have received := acquired.received (acquired.sequenced.resolve_right undisputed) message carries (null (.inl kind)) (.inl kind)
  obtain ⟨method, verdict, named, accepted, tracked⟩ := received.moved.resolve_left undisputed
  have custody := received.custody
  unfold keptCustody at custody
  cases found : providerCustody settings (before.entered (.of envelope.kind) ordinal) message with
  | error failure =>
    rw [found] at custody
    exact absurd (received.bare custody) undisputed
  | ok result =>
    obtain ⟨selected, kept⟩ := result
    rw [found] at custody
    obtain ⟨selection, within⟩ := providerCustody_ok found
    obtain ⟨bytes, bound, _⟩ := rawCustody_ok within
    have extended : Extends settings (before.entered (.of envelope.kind) ordinal).bounded assigned.bounded word message :=
      tracked_extends contract tracks named accepted tracked
    refine ⟨message, kept, carries.message, custody, bytes, extended, ?_⟩
    intro exceeds
    cases selected with
    | true =>
      have form := closedForm_selected selection named
      exact Option.isSome_iff_exists.mpr ⟨_, form⟩
    | false =>
      simp only [Bool.false_eq_true, if_false] at bound
      omega

theorem sizes_append {history : List AcquisitionEnvelope} {envelope : AcquisitionEnvelope} {sizes : List Nat}
    (sized : Sizes settings history sizes) (message : ServerMessage) (here : notified envelope = some message) (added : List Nat)
    (fits : List.Forall₂ (fun content size => utf8Length content = .ok size) (completedText settings message).toList added) :
    Sizes settings (history ++ [envelope]) (sizes ++ added) := by
  unfold Sizes
  rw [notifications_append, here, List.filterMap_append]
  apply List.rel_append sized
  cases found : completedText settings message <;> simpa [found] using fits

theorem sizes_unnotified {history : List AcquisitionEnvelope} {envelope : AcquisitionEnvelope} {sizes : List Nat}
    (sized : Sizes settings history sizes) (other : notified envelope = none) : Sizes settings (history ++ [envelope]) sizes := by
  unfold Sizes
  rw [notifications_append, other, Option.toList_none, List.append_nil]
  exact sized

theorem echoed_acquires {before assigned : Mapper} {envelope : AcquisitionEnvelope} {ordinal : Nat} {label : Json}
    {raw : Option RawCustody} {normalized : Normalized} {stored : Record} {size : Nat} {history : List AcquisitionEnvelope}
    (contract : settings.captureContract = .boundedTurnEcho) (echoed : Echoed settings before history)
    (acquired : Acquired settings before envelope ordinal label raw normalized assigned)
    (recorded : Recorded assigned label raw normalized stored) (settled : normalized.discrepant = false) :
    Echoed settings (assigned.appended stored size).cleared (history ++ [envelope]) := by
  have kind : stored.acquisitionKind = some (.of envelope.kind) := by
    rw [recorded.kind, acquired.change.current.2]
    rfl
  have records : assigned.records = before.records := acquired.change.records
  obtain ⟨input, tracks, ⟨sizes, sized, total⟩, within, lifecycle⟩ := echoed
  by_cases notification : AcquisitionKind.of envelope.kind = .notification
  · obtain ⟨message, custody, carried, kept, bytes, extended, closed⟩ := acquired.notifies contract settled notification tracks
    have here : notified envelope = some message := by rw [notified, if_pos notification, carried]
    have unselected : selectedInput envelope = none := by simp [selectedInput, notification]
    have word : forms settings (history ++ [envelope]) =
        forms settings history ++ (closedForm settings before.bounded.turnInput message).toList := by
      rw [forms_append, here, Option.bind_some, input]
    have moved : ∃ added, List.Forall₂ (fun content size => utf8Length content = .ok size) (completedText settings message).toList added ∧
        assigned.bounded.completedAgentBytes = before.bounded.completedAgentBytes + added.sum ∧
        assigned.bounded.completedAgentBytes ≤ MAXIMUM_BOUNDED_AGENT_OUTPUT_BYTES := by
      cases found : completedText settings message with
      | none =>
        have still := extended.uncounted found
        exact ⟨[], .nil, by simpa using still, by rw [still]; exact within⟩
      | some content =>
        obtain ⟨size, encoded, grown, bound⟩ := extended.counted content found
        exact ⟨[size], .cons encoded .nil, by simpa using grown, bound⟩
    obtain ⟨added, fits, grown, bound⟩ := moved
    have sized := sizes_append sized message here added fits
    constructor
    · rw [turnInput_append, unselected, Option.or_none, ← input]
      exact extended.input
    · rw [word]
      exact extended.tracks
    · refine ⟨sizes ++ added, sized, ?_⟩
      rw [List.sum_append, total]
      exact grown.symm
    · exact bound
    · constructor
      · simp only [Mapper.cleared, Mapper.appended, records, notifiedBytes_append, kind, notification, if_true,
          notifications_append, here, Option.toList_some, List.map_append, lifecycle.kept, recorded.raw, kept]
        simp [bytes]
      · refine ⟨sizes ++ added, sized, ?_⟩
        rw [List.sum_append, total, ← grown]
        exact bound
      · intro earlier form later split_
        rw [word] at split_
        cases form_ : closedForm settings before.bounded.turnInput message with
        | none =>
          rw [form_, Option.toList_none, List.append_nil] at split_
          exact lifecycle.orderly earlier form later split_
        | some last =>
          rw [form_, Option.toList_some] at split_
          obtain ⟨rfl, rfl⟩ | ⟨rest, inside⟩ := split_last split_
          · exact extended.follows _ form_
          · exact lifecycle.orderly earlier form rest inside
      · intro earlier other later found raw split_ notified_ rawBytes exceeds
        obtain ⟨rfl, rfl⟩ | ⟨rest, inside⟩ := split_last split_
        · cases here.symm.trans notified_
          cases bytes.symm.trans rawBytes
          rw [← input]
          exact closed exceeds
        · exact lifecycle.large earlier other rest found raw inside notified_ rawBytes exceeds
  · have moved := acquired.unnotified contract settled notification
    have nothing : notified envelope = none := by rw [notified, if_neg notification]
    have word : forms settings (history ++ [envelope]) = forms settings history := by
      rw [forms_append, nothing]
      simp
    have bounded : (assigned.appended stored size).cleared.bounded =
        { before.bounded with turnInput := before.bounded.turnInput.or (selectedInput envelope) } := moved
    have sized := sizes_unnotified sized nothing
    constructor
    · rw [bounded, turnInput_append, ← input]
    · rw [word, bounded]
      exact ⟨tracks.inputItem, tracks.started, tracks.completed, tracks.agent, tracks.closed, tracks.last⟩
    · rw [bounded]
      exact ⟨sizes, sized, total⟩
    · rw [bounded]
      exact within
    · constructor
      · simp only [Mapper.cleared, Mapper.appended, records, notifiedBytes_append, kind, Option.some.injEq, notification, if_false,
          notifications_append, nothing, Option.toList_none, List.append_nil, lifecycle.kept]
      · exact ⟨sizes, sized, by rw [total]; exact within⟩
      · rw [word]
        exact lifecycle.orderly
      · intro earlier other later found raw split_ notified_ rawBytes exceeds
        obtain ⟨rfl, rfl⟩ | ⟨rest, inside⟩ := split_last split_
        · cases nothing.symm.trans notified_
        · exact lifecycle.large earlier other rest found raw inside notified_ rawBytes exceeds

theorem echoed_initial : Echoed settings Mapper.initial [] := by
  constructor
  · rfl
  · constructor <;> simp [Mapper.initial, BoundedTurn.initial, forms, formsAfter, openItem, lastCompleted]
  · exact ⟨[], .nil, rfl⟩
  · exact Nat.zero_le _
  · constructor
    · rfl
    · exact ⟨[], .nil, Nat.zero_le _⟩
    · simp [forms, formsAfter]
    · simp

/-- A record of the mapper's own is no notification. -/
theorem echoed_owns {before assigned : Mapper} {label : Json} {normalized : Normalized} {stored : Record} {size : Nat}
    {history : List AcquisitionEnvelope} (idle : Idle before) (echoed : Echoed settings before history)
    (change : Change settings before label none normalized assigned) (recorded : Recorded assigned label none normalized stored)
    (settled : normalized.discrepant = false) : Echoed settings (assigned.appended stored size) history := by
  have kind : stored.acquisitionKind = none := by rw [recorded.kind, change.current.2, idle.kind]
  have still : assigned.bounded = before.bounded := by
    cases change with
    | discrepancy => cases settled
    | legacyFact => rfl
    | cut =>
      split
      · rfl
      · exact interrupted_bounded _
  obtain ⟨input, tracks, counted, within, lifecycle⟩ := echoed
  have bounded : (assigned.appended stored size).bounded = before.bounded := still
  constructor
  · rw [bounded, input]
  · rw [bounded]
    exact tracks
  · rw [bounded]
    exact counted
  · rw [bounded]
    exact within
  · constructor
    · simp only [Mapper.appended, change.records, notifiedBytes_append, kind, reduceCtorEq, if_false, List.append_nil, lifecycle.kept]
    · exact lifecycle.budget
    · exact lifecycle.orderly
    · exact lifecycle.large

/-- While no call leaks, a log under the echo contract without discrepancies keeps the bounded echo lifecycle. -/
theorem bounded_echo_lifecycle {calls : List Call} {mapper : Mapper} (ordered : settings.allowUnorderedFixture = false)
    (contract : settings.captureContract = .boundedTurnEcho)
    (run : Run.Within (Performs settings) (fun _ before call => ¬ Leaks settings before call) Mapper.initial calls mapper)
    (undisputed : ∀ record ∈ mapper.records, record.normalized.discrepant = false) :
    EchoLifecycle settings mapper.records (retained settings Mapper.initial calls) := by
  have echoed : (∀ record ∈ mapper.records, record.normalized.discrepant = false) →
      Echoed settings mapper (retained settings Mapper.initial calls) := by
    apply run.invariant (fun calls mapper => (∀ record ∈ mapper.records, record.normalized.discrepant = false) →
      Echoed settings mapper (retained settings Mapper.initial calls))
    · intro _
      exact echoed_initial
    · intro labels before call after early held step harmless settled
      have idle := idle_run early.run
      have ends := perform_ends settings idle.kind call
      rw [retained_append, performAll_of_run early.run]
      cases result : perform settings call before with
      | mk outcome reached =>
        obtain rfl : reached = after := by rw [← step, result]
        unfold retainedBy
        rw [result]
        cases outcome with
        | error failure =>
          obtain rfl : reached = before := (ends.raises result).unchanged_iff.mpr harmless
          simpa using held settled
        | ok found =>
          obtain ⟨stored, _, _, records⟩ := ends.returns result
          cases records with
          | acquired _ acquired found =>
            have recorded := evidence_recorded found
            simp only [Mapper.cleared, Mapper.appended, acquired.change.records, List.mem_append, List.mem_singleton] at settled
            have here := settled stored (.inr rfl)
            rw [recorded.normalized] at here
            exact echoed_acquires contract (held fun record listed => settled record (.inl listed)) acquired recorded here
          | fixture fixture => cases fixture.symm.trans ordered
          | own bare change found =>
            have recorded := evidence_recorded found
            simp only [Mapper.appended, change.records, List.mem_append, List.mem_singleton] at settled
            have here := settled stored (.inr rfl)
            rw [recorded.normalized] at here
            simp only [bare, Option.toList_none, List.append_nil]
            exact echoed_owns idle (held fun record listed => settled record (.inl listed)) change recorded here
  exact (echoed undisputed).lifecycle

/-! A turn whose only sampling is over: its input is echoed, and two agent items are shown with a delta each. -/

def sampleSpoken (method : String) (params : List (String × Json)) : Members :=
  object [("method", literal method), ("params", .obj (object params)), ("emittedAtMs", .int 1)]

def sampleEcho (method timestamp : String) : Members := sampleSpoken method [("threadId", literal "th"), ("turnId", literal "tu"),
  ("item", .obj (object [("type", literal "userMessage"), ("id", literal "input"), ("clientId", .null), ("content", .arr [
    .obj (object [("type", literal "text"), ("text", literal "refresh the docs"), ("text_elements", .arr [])])])])),
  (timestamp, .int 1)]

def sampleAnswer (id content : String) : Json := .obj (object [("type", literal "agentMessage"), ("id", literal id),
  ("text", literal content), ("phase", .null), ("memoryCitation", .null), ("delivery", .null)])

def sampleShown (method timestamp id content : String) : Members := sampleSpoken method
  [("threadId", literal "th"), ("turnId", literal "tu"), ("item", sampleAnswer id content), (timestamp, .int 1)]

def sampleDelta (id : String) (delta : Text) : Members := sampleSpoken "item/agentMessage/delta"
  [("threadId", literal "th"), ("turnId", literal "tu"), ("itemId", literal id), ("delta", .str delta)]

def sampleSummary : Members := sampleSpoken "turn/completed" [("threadId", literal "th"), ("emittedAtMs", .int 1),
  ("turn", .obj (object [("id", literal "tu"), ("items", .arr [sampleAnswer "second" "done"]), ("itemsView", literal "summary"),
    ("status", literal "completed"), ("error", .null), ("startedAt", .null), ("completedAt", .null), ("durationMs", .null)]))]

def sampleLong : Text := List.replicate 16400 97

def sampleLongLine : Bytes :=
  ascii ("\x7b\"method\":\"item/agentMessage/delta\",\"params\":\x7b\"threadId\":\"th\",\"turnId\":\"tu\"," ++
    "\"itemId\":\"second\",\"delta\":\"") ++ List.replicate 16400 97 ++ ascii "\"\x7d,\"emittedAtMs\":1\x7d\n"

def sampleEchoHost : Host := { sampleHost with
  sha256 := digestTable [
    (20, 0xa8f498daaedb43edf16d2d1539d262e903176d96792a627a79530b76bf0d4e70),
    (39, 0x84dc777e862afe17a08c07816ceb71108dba5b1ca71e4383d3e3b18cd5120b74),
    (69, 0xc754eaa4799809204e5ca5de75878306ebf900c19a6776a8791c0e8f24f19f4c),
    (107, 0x9a56aa891c19b5af7d56658d25f705733906af5750ec1e0a3689b9c87ece638f),
    (110, 0x48ee9185c93e35ca490317bea33052c670ddcbb0919d85eb802cf8319edb4541),
    (129, 0x26df0fec59fa59b9e3fb0c9289cd085430966c2740ba0fed5d6f3e8deb217f9d),
    (191, 0x56ccbd53040b49d57a0f7819c0824e96c31470b31aa52580997b43f749d82455),
    (204, 0xa674c91703d6e13a0053625f1ab8ce529987195c4cf33de49c92b148ef1a24be),
    (205, 0x246daf92b798d3d649460ab8b16b27d09b583ad8967b0955f1f540fd40c41b6e),
    (206, 0xece30edd56f7d3d2b5906ffcf5c403fa4b26380dd4e386a67e8bc56b222b30d7),
    (213, 0xe54ae1303911dc05499357fccd9a461316a3cc82823e7328f44ae06a0a3eee32),
    (215, 0x0e6225bbfcbd6350a2e159bb76aa7e3bff949c98c80c460cb4321ccc5a27a545),
    (231, 0xbdefcdc7ff9c8226cf438ff1ec2234689f6e18fb4a271b263eca14da4118ffb4),
    (235, 0xd5d3dac28338faa88a2f9aaee67e362906ff9e252a7d48780845a28b34e0a359),
    (329, 0x8e90456118cef2bb80b02822cc66ea3ac53e098aad6e756f631b8b406299be37),
    (579, 0x86dc84fd2f78350647ee580438d5dbbaeb1c2520dd991b84ee0624d002147d74),
    (1008, 0x4f7288b463d42199b6b449c547245d2a5eeeebe9b5d2c413733bb5fe169b2ee6),
    (1034, 0xee83c899a2d39167aba406ec04f1bb7dbf728fa76d681331f1077ce8036e81c5),
    (1087, 0x03bc99d7e1a8505577f6b1c64bbccb62d7340373785c4e9998619f5d18fad8dd),
    (1135, 0xdac3b0f0be66241a4b18b59115b67bc558a15d7a604298e64d13e57dd284f52c),
    (1173, 0x983a892f697427b94efe6319867f0d35f6e8d391ce463e036310b78d520b71d6),
    (1177, 0xd37456a1e96555f169e8eeef089b9dd4d58a415d9fb06515cbcc696d6429356c),
    (1195, 0xa79d7ce34613b02b6c86cf47aa6128641a4135819d1d29033fc62ee8873ee412),
    (1197, 0xae1aadf57305e41fc7e2f824af5f41b5dc730cdf161717b767a6ddf48dc0fad8),
    (1227, 0xedb272b42d17186b2d2f44d72bd37eb7ac7c62007c6af640ec40b7ffbdf8b901),
    (1237, 0x4d75f04f6d95cb32ec2b28e54e6550a946763271e23df4c748eb0ef6b2e4ef88),
    (1252, 0x420a0455a1ce89efc33af175a6e1564b7e041029c266c4e3249d86e3e9cea7e0),
    (1421, 0xd454ead1c5172cd72908f05aa5b50e9f1e154084349a0778d851f30ffa17704f),
    (1543, 0x07234d0a087ba1209e60ebf953dbbf3e607e391bdf1f80ab916c9c6aede17cbf),
    (16523, 0x1c890f4da8e7a4eba97d44c95f3042b61f0aca6b2623be4a7821a27019d777cd),
    (33826, 0xe42ea4e8cc301f1f561a306a432523a8b652e304af42b53eaf7a35764c2d2331)]
  loadsUnique := fun raw => match raw.length with
    | 129 => .ok (.obj (sampleDelta "first" (text "reading")))
    | 204 => .ok (.obj (sampleShown "item/started" "startedAtMs" "first" ""))
    | 205 => .ok (.obj (sampleShown "item/started" "startedAtMs" "second" ""))
    | 213 => .ok (.obj (sampleShown "item/completed" "completedAtMs" "second" "done"))
    | 215 => .ok (.obj (sampleShown "item/completed" "completedAtMs" "first" "reading"))
    | 231 => .ok (.obj (sampleEcho "item/started" "startedAtMs"))
    | 235 => .ok (.obj (sampleEcho "item/completed" "completedAtMs"))
    | 329 => .ok (.obj sampleSummary)
    | 16523 => .ok (.obj (sampleDelta "second" sampleLong))
    | _ => sampleHost.loadsUnique raw }

def sampleEchoSettings : Settings sampleEchoHost where
  binding := ⟨sampleBinding.members, by decide +kernel⟩
  captureContract := .boundedTurnEcho
  allowUnorderedFixture := false
  supported := sampleSettings.supported

/-- The mapper is within its admitted turn, between two samplings, and has room for the frames that follow. -/
structure Between (mapper : Mapper) (bounded : BoundedTurn) (place : Nat) : Prop where
  uncut : mapper.acquisitionCut = none
  expected : mapper.expectedAcquisitionOrdinal = place
  length : mapper.records.length = place
  bytes : mapper.retainedRecordBytes ≤ 600000 * place
  lifecycle : mapper.bounded = bounded
  running : mapper.mechanismState = .running
  admitted : mapper.admissionDisposition = .executionAdmitted
  execution : mapper.providerExecutionIdentity.isSome = true
  answered : mapper.pending = none ∧ mapper.openResponseId = none
  settled : ∀ record ∈ mapper.records, record.normalized.discrepant = false

/-- A run without leaks in which every call has returned. -/
structure Told (calls : List Call) (mapper : Mapper) : Prop where
  run : Run.Within (Performs sampleEchoSettings) (fun _ before call => ¬ Leaks sampleEchoSettings before call)
    Mapper.initial calls mapper
  kept : retained sampleEchoSettings Mapper.initial calls = calls.filterMap Call.envelope?

def sampleTracked (bounded : BoundedTurn) : Mapper := { Mapper.initial with bounded := bounded }

/-- The frame has a closed shape and is a watermark that moves the lifecycle on. -/
structure Marks (bounded : BoundedTurn) (message : ServerMessage) (method : String) (after : BoundedTurn) : Prop where
  named : message.method = some (text method)
  listed : method ∈ ["item/started", "item/completed", "item/agentMessage/delta"]
  custody : ∃ raw, providerCustody sampleEchoSettings (sampleTracked bounded) message = .ok (true, raw)
  result : Admission.lifecycle (text method) message.params
    (isInputEcho sampleEchoSettings (sampleTracked bounded) message) bounded = (.ok .watermark, after)

/-- What a fact weighs without its raw bytes. -/
theorem sample_bare : ∀ method ∈ ["item/started", "item/completed", "item/agentMessage/delta", "turn/completed"],
    ∀ normalized ∈ [Normalized.watermark, .localTurnFact], ((noted (literal method) normalized).placed
      (text "sha256:" ++ List.replicate 64 48) 0).weight sampleEchoSettings.binding ≤ 1000 := by
  decide

section
variable {calls : List Call} {mapper start : Mapper} {bounded after : BoundedTurn} {place : Nat} {message : ServerMessage} {method : String}
  {raw : RawCustody} {normalized : Normalized}

/-- A notification that is not about an item leaves nothing behind where it raises. -/
theorem harmless_notice (named : message.method = some (text method)) (other : method ∉ ["item/started", "item/completed"]) :
    ¬ Leaks settings mapper (.consumeEnvelope (notice place message)) := by
  rintro ⟨_, _, carried, carries, ⟨_, _, leaks⟩ | ⟨request, _⟩⟩
  · cases carries.message
    simp only [List.mem_cons, List.not_mem_nil, or_false, not_or] at other
    rcases leaks.item named with same | same
    · exact other.1 (text_inj.mp same)
    · exact other.2 (text_inj.mp same)
  · have differs : AcquisitionKind.of (literal "NOTIFICATION") ≠ .clientRequest := by decide
    exact differs request

/-- In a log with room the fact about a notification is recorded, and the call returns. -/
theorem Told.recorded (told : Told calls mapper) (between : Between mapper bounded place) (few : place < 20)
    (listed : method ∈ ["item/started", "item/completed", "item/agentMessage/delta", "turn/completed"])
    (known : normalized ∈ [Normalized.watermark, .localTurnFact]) (short : raw.bytes.length ≤ MAXIMUM_USER_INPUT_ECHO_BYTES)
    (consumes : consumeImpl sampleEchoSettings message false (mapper.entered .notification place) =
      (some <$> record sampleEchoSettings (literal method) (some raw) normalized) start)
    (records : start.records = mapper.records) (bytes : start.retainedRecordBytes = mapper.retainedRecordBytes)
    (ordinal : start.currentAcquisitionOrdinal = some place) (kind : start.currentAcquisitionKind = some .notification)
    (harmless : ∀ stored size, evidence sampleEchoSettings start (literal method) (some raw) normalized = .ok (stored, size) →
      ¬ Leaks sampleEchoSettings mapper (.consumeEnvelope (notice place message))) :
    ∃ stored size, stored.normalized = normalized ∧ size ≤ 600000 ∧
      Told (calls ++ [.consumeEnvelope (notice place message)]) (start.appended stored size).cleared := by
  have small : MAXIMUM_RECORDS = 4096 := rfl
  have bound : MAXIMUM_SNAPSHOT_BYTES = 16777216 := by decide
  have most : SAFE_INTEGER_MAX = 9007199254740991 := by decide
  have longest : MAXIMUM_USER_INPUT_ECHO_BYTES = 262144 := rfl
  have here : start.records.length = place := by rw [records, between.length]
  have canonical : Rfc8785.Canonical normalized.toJson := by
    simp only [List.mem_cons, List.not_mem_nil, or_false] at known
    rcases known with rfl | rfl
    · exact canonical_object (by simp [Rfc8785.Canonical])
    · exact canonical_object (by simp [Rfc8785.Canonical])
  have retains := between.bytes
  obtain ⟨stored, size, same, weighs, recorded⟩ := @evidence_roomy _ sampleEchoSettings start place 1000 (literal method) raw normalized
    (by omega) here ordinal kind (Text.scalar_text _) canonical short (sample_bare _ listed _ known) (by omega)
  refine ⟨stored, size, same, by omega, ?_⟩
  have performed : perform sampleEchoSettings (.consumeEnvelope (notice place message)) mapper =
      (.ok (some stored), (start.appended stored size).cleared) := by
    have result := @perform_notice _ sampleEchoSettings mapper between.uncut (by rw [between.expected]; omega) message
    rw [between.expected] at result
    have appended : (some <$> record sampleEchoSettings (literal method) (some raw) normalized) start =
        (.ok (some stored), start.appended stored size) := by
      show (record sampleEchoSettings (literal method) (some raw) normalized >>= fun stored => Pure.pure (some stored)) start = _
      rw [Effect.bind_apply, record_apply, recorded]
      rfl
    rw [result, consumes, appended]
  refine ⟨told.run.snoc ?_ (harmless stored size recorded), ?_⟩
  · show (perform _ _ _).2 = _
    rw [performed]
  · rw [retained_append, told.kept, performAll_of_run told.run.run, retainedBy, performed, List.filterMap_append]
    rfl

/-- What the mapper makes of a frame depends on where the lifecycle is. -/
theorem Between.sees (between : Between mapper bounded place) :
    providerCustody sampleEchoSettings (mapper.entered .notification place) message =
      providerCustody sampleEchoSettings (sampleTracked bounded) message ∧
    isInputEcho sampleEchoSettings (mapper.entered .notification place) message =
      isInputEcho sampleEchoSettings (sampleTracked bounded) message := by
  have input : (mapper.entered .notification place).bounded.turnInput = (sampleTracked bounded).bounded.turnInput :=
    congrArg BoundedTurn.turnInput between.lifecycle
  refine ⟨providerCustody_input input, ?_⟩
  unfold isInputEcho
  rw [input]

/-- A frame that marks is retained, and the mapper stays between its samplings. -/
theorem Told.marks (told : Told calls mapper) (between : Between mapper bounded place) (few : place < 20)
    (marks : Marks bounded message method after) :
    ∃ next, Told (calls ++ [.consumeEnvelope (notice place message)]) next ∧ Between next after (place + 1) := by
  have input : (mapper.entered .notification place).bounded = bounded := between.lifecycle
  obtain ⟨raw, custody⟩ := marks.custody
  obtain ⟨sees, echo⟩ := @Between.sees mapper bounded place message between
  have kept := sees.trans custody
  have short := (rawCustody_ok (providerCustody_ok kept).2).2.1
  have moved : Admission.lifecycle (text method) message.params
      (isInputEcho sampleEchoSettings (mapper.entered .notification place) message) (mapper.entered .notification place).bounded =
      (.ok .watermark, after) := by
    rw [echo, input]
    exact marks.result
  have opened : gate (mapper.entered .notification place) (text method) false = none := by
    simp [gate, Mapper.entered, between.running, between.admitted]
  have item : text method = text "item/started" ∨ text method = text "item/completed" ∨ text method = text "item/agentMessage/delta" := by
    simpa [text_inj] using marks.listed
  have consumes := consumeImpl_selected kept marks.named item opened moved
  have harmless (stored : Record) (size : Nat) (recorded : evidence sampleEchoSettings (mapper.entered .notification place)
      (.str (text method)) (some raw) .watermark = .ok (stored, size)) :
      ¬ Leaks sampleEchoSettings mapper (.consumeEnvelope (notice place message)) := by
    rintro ⟨_, _, carried, carries, ⟨_, _, leaks⟩ | ⟨request, _⟩⟩
    · cases carries.message
      rw [between.expected] at leaks
      cases leaks with
      | selected other named _ _ _ refuses =>
        cases marks.named.symm.trans named
        cases kept.symm.trans other
        obtain ⟨failure, refused⟩ := refuses .watermark (congrArg Prod.fst moved)
        cases recorded.symm.trans refused
      | counted other => cases kept.symm.trans other
    · have differs : AcquisitionKind.of (literal "NOTIFICATION") ≠ .clientRequest := by decide
      exact differs request
  obtain ⟨stored, size, same, weighs, next⟩ := told.recorded between few (List.mem_append_left ["turn/completed"] marks.listed)
    List.mem_cons_self short consumes rfl rfl rfl rfl harmless
  refine ⟨_, next, ?_⟩
  have total := between.bytes
  constructor
  · exact between.uncut
  · simp [Mapper.cleared, Mapper.appended, Mapper.entered, between.expected]
  · simp [Mapper.cleared, Mapper.appended, Mapper.entered, between.length]
  · show mapper.retainedRecordBytes + size ≤ _
    omega
  · rfl
  · exact between.running
  · exact between.admitted
  · exact between.execution
  · exact between.answered
  · intro record listed
    rcases List.mem_append.mp listed with old | new
    · exact between.settled record old
    · rw [List.mem_singleton.mp new, same]
      rfl

/-- The closed summary of the turn is retained as well. -/
theorem Told.summary (told : Told calls mapper) (between : Between mapper bounded place) (few : place < 20)
    (named : message.method = some (text "turn/completed"))
    (custody : providerCustody sampleEchoSettings (sampleTracked bounded) message = .ok (true, raw))
    (result : Admission.lifecycle (text "turn/completed") message.params
      (isInputEcho sampleEchoSettings (sampleTracked bounded) message) bounded = (.ok .proceed, bounded))
    (addressed : names (get message.params "threadId") (sampleEchoSettings.binding.text "thread_id") = true ∧
      names (inner message.params "turn" "id") (sampleEchoSettings.binding.text "turn_id") = true) :
    ∃ next, Told (calls ++ [.consumeEnvelope (notice place message)]) next ∧
      ∀ record ∈ next.records, record.normalized.discrepant = false := by
  have input : (mapper.entered .notification place).bounded = bounded := between.lifecycle
  obtain ⟨sees, echo⟩ := @Between.sees mapper bounded place message between
  have kept := sees.trans custody
  have opened : gate (mapper.entered .notification place) (text "turn/completed") false = none := by
    simp [gate, Mapper.entered, between.running, between.admitted]
  have agrees : localFactRefusal sampleEchoSettings (mapper.entered .notification place) (text "turn/completed") message.params = none := by
    have other : text "turn/completed" ≠ text "thread/started" := by decide
    have execution : mapper.providerExecutionIdentity ≠ none := Option.isSome_iff_ne_none.mp between.execution
    obtain ⟨pending, answered⟩ := between.answered
    simp [localFactRefusal, other, addressed, execution, Mapper.entered, pending, answered, between.running]
  have consumes := consumeImpl_summary kept named opened (by rw [echo, input]; exact result) agrees between.execution
  obtain ⟨stored, size, same, -, next⟩ := told.recorded between few (by decide) (by decide) (rawCustody_ok (providerCustody_ok kept).2).2.1
    consumes rfl rfl rfl rfl fun _ _ _ => harmless_notice named (by decide)
  refine ⟨_, next, fun record listed => ?_⟩
  rcases List.mem_append.mp listed with old | new
  · exact between.settled record old
  · rw [List.mem_singleton.mp new, same]
    rfl

end

def sampleInputSelected : BoundedTurn := { BoundedTurn.initial with
  turnInput := some (.arr [.obj (object [("type", literal "text"), ("text", literal "refresh the docs"), ("text_elements", .arr [])])]) }

def sampleInputStarted : BoundedTurn := { sampleInputSelected with
  inputItemId := some (text "input")
  inputMethods := [text "item/started"] }

def sampleInputCompleted : BoundedTurn := { sampleInputStarted with
  inputMethods := [text "item/completed", text "item/started"] }

def sampleFirstStarted : BoundedTurn := { sampleInputCompleted with agentItemId := some (text "first"), agentText := some [] }

def sampleFirstCompleted : BoundedTurn := { sampleInputCompleted with
  completedAgentIds := [text "first"]
  completedAgentBytes := 7
  lastCompletedAgent := some (text "first", text "reading") }

def sampleSecondStarted : BoundedTurn := { sampleFirstCompleted with agentItemId := some (text "second"), agentText := some [] }

def sampleSecondCompleted : BoundedTurn := { sampleFirstCompleted with
  completedAgentIds := [text "second", text "first"]
  completedAgentBytes := 11
  lastCompletedAgent := some (text "second", text "done") }

def sampleWired (message : Members) : ServerMessage := ⟨message, some (sampleLine message)⟩

theorem marks_of {bounded after : BoundedTurn} {message : Members} {method : String}
    (named : ServerMessage.method (sampleWired message) = some (text method))
    (listed : method ∈ ["item/started", "item/completed", "item/agentMessage/delta"])
    (custody : (providerCustody sampleEchoSettings (sampleTracked bounded) (sampleWired message)).isOk = true)
    (selected : selectedEcho sampleEchoSettings (sampleTracked bounded) (sampleWired message) = .ok true)
    (result : Admission.lifecycle (text method) (ServerMessage.params (sampleWired message))
      (isInputEcho sampleEchoSettings (sampleTracked bounded) (sampleWired message)) bounded = (.ok .watermark, after)) :
    Marks bounded (sampleWired message) method after := by
  obtain ⟨⟨found, raw⟩, kept⟩ := exists_of_isOk custody
  cases selected.symm.trans (providerCustody_ok kept).1
  exact ⟨named, listed, ⟨raw, kept⟩, result⟩

theorem sample_marks :
    Marks sampleInputSelected (sampleWired (sampleEcho "item/started" "startedAtMs")) "item/started" sampleInputStarted ∧
    Marks sampleInputStarted (sampleWired (sampleEcho "item/completed" "completedAtMs")) "item/completed" sampleInputCompleted ∧
    Marks sampleInputCompleted (sampleWired (sampleShown "item/started" "startedAtMs" "first" "")) "item/started" sampleFirstStarted ∧
    Marks sampleFirstStarted (sampleWired (sampleDelta "first" (text "reading"))) "item/agentMessage/delta" sampleFirstStarted ∧
    Marks sampleFirstStarted (sampleWired (sampleShown "item/completed" "completedAtMs" "first" "reading")) "item/completed"
      sampleFirstCompleted ∧
    Marks sampleFirstCompleted (sampleWired (sampleShown "item/started" "startedAtMs" "second" "")) "item/started" sampleSecondStarted ∧
    Marks sampleSecondStarted (sampleWired (sampleShown "item/completed" "completedAtMs" "second" "done")) "item/completed"
      sampleSecondCompleted := by
  refine ⟨?_, ?_, ?_, ?_, ?_, ?_, ?_⟩ <;>
    exact marks_of (by decide) (by decide) (by decide +kernel) (by decide) (by decide)

/-- Bytes that are read back as their message are kept. -/
theorem rawCustody_of {message : ServerMessage} {maximum : Nat} {bytes : Bytes} (held : message.rawBytes = some bytes)
    (within : 1 ≤ bytes.length ∧ bytes.length ≤ maximum) (terminated : bytes.getLast? = some 10)
    (loaded : host.loadsUnique bytes = .ok (.obj message.raw)) :
    rawCustody host message maximum = .ok ⟨.exactWireBytes, bytes, terminated⟩ := by
  unfold rawCustody
  rw [held]
  dsimp only
  rw [if_pos within, if_pos terminated, loaded]
  dsimp only
  rw [if_pos (equal_refl _), rawBytesCustody, if_pos within, dif_pos terminated]

theorem selectedEcho_of {mapper : Mapper} {message : ServerMessage} (contract : settings.captureContract = .boundedTurnEcho)
    (foreign : isInputEcho settings mapper message = false) : selectedEcho settings mapper message = isAgentOutput settings message := by
  unfold selectedEcho
  rw [if_pos contract, foreign]
  rfl

/-- The long delta alone takes more than an ordinary frame may. -/
theorem sample_long : MAXIMUM_RAW_EVIDENCE_BYTES < sampleLongLine.length ∧
    Marks sampleSecondStarted ⟨sampleDelta "second" sampleLong, some sampleLongLine⟩ "item/agentMessage/delta" sampleSecondStarted := by
  have length : sampleLongLine.length = 16523 := by
    unfold sampleLongLine
    rw [List.length_append, List.length_append, List.length_replicate]
    decide +kernel
  have terminated : sampleLongLine.getLast? = some 10 := by
    unfold sampleLongLine
    rw [List.getLast?_append]
    rfl
  have encodes : Text.encode? sampleLong = some (List.replicate 16400 97) := by
    have scalar : Text.Scalar sampleLong := by
      intro point listed
      rw [List.eq_of_mem_replicate listed]
      decide
    unfold Text.encode?
    rw [if_pos scalar, sampleLong, List.flatMap_replicate]
    exact congrArg some List.flatten_replicate_singleton
  have sized : AppServer.utf8Length sampleLong = .ok 16400 := utf8Length_ok.mpr ⟨_, encodes, List.length_replicate⟩
  have output : isAgentOutput sampleEchoSettings ⟨sampleDelta "second" sampleLong, some sampleLongLine⟩ = .ok true := by
    have shape : isBoundedTurnAgentOutput ⟨sampleDelta "second" sampleLong, some sampleLongLine⟩
        (sampleEchoSettings.binding.text "thread_id") (some (sampleEchoSettings.binding.text "turn_id")) =
        (do
          let size ← AppServer.utf8Length sampleLong
          return size ≤ MAXIMUM_BOUNDED_AGENT_OUTPUT_BYTES) := rfl
    unfold isAgentOutput
    rw [shape, sized]
    rfl
  have selected : selectedEcho sampleEchoSettings (sampleTracked sampleSecondStarted)
      ⟨sampleDelta "second" sampleLong, some sampleLongLine⟩ = .ok true := by
    have foreign : isInputEcho sampleEchoSettings (sampleTracked sampleSecondStarted)
      ⟨sampleDelta "second" sampleLong, some sampleLongLine⟩ = false := by decide
    exact (selectedEcho_of rfl foreign).trans output
  have loaded : sampleEchoHost.loadsUnique sampleLongLine = .ok (.obj (sampleDelta "second" sampleLong)) := by
    simp only [sampleEchoHost, length]
  refine ⟨by rw [length]; decide, by decide, by decide, ⟨⟨.exactWireBytes, sampleLongLine, terminated⟩, ?_⟩, by decide⟩
  have within : 1 ≤ sampleLongLine.length ∧ sampleLongLine.length ≤ MAXIMUM_USER_INPUT_ECHO_BYTES := by
    rw [length]
    decide
  exact bind_ok.mpr ⟨true, selected, bind_ok.mpr ⟨_, rawCustody_of rfl within terminated loaded, rfl⟩⟩

def sampleEchoed : List ServerMessage := [sampleWired (sampleEcho "item/started" "startedAtMs"),
  sampleWired (sampleEcho "item/completed" "completedAtMs"), sampleWired (sampleShown "item/started" "startedAtMs" "first" ""),
  sampleWired (sampleDelta "first" (text "reading")), sampleWired (sampleShown "item/completed" "completedAtMs" "first" "reading"),
  sampleWired (sampleShown "item/started" "startedAtMs" "second" ""), ⟨sampleDelta "second" sampleLong, some sampleLongLine⟩,
  sampleWired (sampleShown "item/completed" "completedAtMs" "second" "done"), sampleWired sampleSummary]

/-- The notices of these messages from a place on. -/
def noticed (place : Nat) : List ServerMessage → List Call
  | [] => []
  | message :: rest => .consumeEnvelope (notice place message) :: noticed (place + 1) rest

/-- Each returning call adds one record, so a log with as many records as calls has retained them all. -/
theorem retained_of_records {calls : List Call} (all : (performAll settings Mapper.initial calls).records.length = calls.length) :
    retained settings Mapper.initial calls = calls.filterMap Call.envelope? := by
  have counted : (performAll settings Mapper.initial calls).records.length ≤ calls.length ∧
      ((performAll settings Mapper.initial calls).records.length = calls.length →
        retained settings Mapper.initial calls = calls.filterMap Call.envelope?) := by
    clear all
    induction calls using List.reverseRecOn with
    | nil => exact ⟨Nat.le_refl _, fun _ => rfl⟩
    | append_singleton calls call ih =>
      obtain ⟨within, kept⟩ := ih
      have idle := idle_run (performAll_run settings Mapper.initial calls)
      have ends := perform_ends settings idle.kind call
      rw [performAll_snoc, retained_append, retainedBy, List.length_append, List.length_singleton]
      cases result : perform settings call (performAll settings Mapper.initial calls) with
      | mk outcome after =>
        cases outcome with
        | error failure =>
          have same : after.records = (performAll settings Mapper.initial calls).records := by rw [(ends.raises result).saved]
          dsimp only
          rw [same]
          exact ⟨by omega, fun more => by omega⟩
        | ok found =>
          obtain ⟨stored, rfl, _, records⟩ := ends.returns result
          dsimp only
          rw [records.appends.records, List.length_append, List.length_singleton]
          refine ⟨by omega, fun more => ?_⟩
          rw [kept (by omega), List.filterMap_append]
          cases envelope : call.envelope? <;> simp [envelope]
  exact counted.2 all

/-- A run whose first call is harmless where it stands, and whose other calls are harmless anywhere. -/
theorem within_of_harmless {first : Call} {rest : List Call} (start : ¬ Leaks settings Mapper.initial first)
    (others : ∀ call ∈ rest, ∀ mapper, ¬ Leaks settings mapper call) :
    Run.Within (Performs settings) (fun _ before call => ¬ Leaks settings before call) Mapper.initial (first :: rest)
      (performAll settings Mapper.initial (first :: rest)) := by
  induction rest using List.reverseRecOn with
  | nil => exact Run.Within.snoc .nil rfl start
  | append_singleton rest call ih =>
    have early := ih fun other listed => others other (List.mem_append_left _ listed)
    rw [← List.cons_append]
    exact early.snoc (performAll_snoc _ _ _).symm (others call (by simp) _)

/-- The first request of the dispatch leaves nothing behind, since its record fits. -/
theorem sample_start : ¬ Leaks sampleEchoSettings Mapper.initial
    (sampleEnvelope 0 "CLIENT_REQUEST" sampleTurnStart (literal "turn/start")) := by
  rintro ⟨_, _, message, carries, ⟨notification, _⟩ | ⟨_, requestMethod, named, leaks⟩⟩
  · exact absurd notification (by decide)
  · cases named
    cases carries.message
    obtain ⟨raw, custody, refused⟩ := leaks.refused
    obtain rfl : raw = ⟨.exactWireBytes, sampleLine sampleTurnStart, by decide⟩ := by
      have kept : rawCustody sampleEchoHost (sampleWired sampleTurnStart)
          (clientRequestByteBound (text "turn/start") sampleEchoSettings.captureContract) =
          .ok ⟨.exactWireBytes, sampleLine sampleTurnStart, by decide⟩ := by decide
      cases custody.symm.trans kept
      rfl
    have issued := refused 1 (by decide)
    rw [if_neg (by decide)] at issued
    obtain ⟨failure, unrecordable⟩ := issued (plainBytes (get sampleTurnStart "params")) (by decide)
    have records : (evidence sampleEchoSettings
        (Mapper.initial.entered .clientRequest Mapper.initial.expectedAcquisitionOrdinal)
        (.str (text "client-request/" ++ text "turn/start")) (some ⟨.exactWireBytes, sampleLine sampleTurnStart, by decide⟩)
        (.clientRequestIssued 1 (text "turn/start") (sampleEchoHost.digest (plainBytes (get sampleTurnStart "params"))))).isOk = true := by
      decide +kernel
    rw [unrecordable] at records
    cases records

theorem sample_told : ∃ mapper, Told sampleAnswered mapper ∧ Between mapper sampleInputSelected 5 := by
  have reached : let mapper := performAll sampleEchoSettings Mapper.initial sampleAnswered
      mapper.acquisitionCut = none ∧ mapper.expectedAcquisitionOrdinal = 5 ∧ mapper.records.length = 5 ∧
        mapper.retainedRecordBytes ≤ 600000 * 5 ∧ mapper.bounded = sampleInputSelected ∧ mapper.mechanismState = .running ∧
        mapper.admissionDisposition = .executionAdmitted ∧ mapper.providerExecutionIdentity.isSome = true ∧
        (mapper.pending = none ∧ mapper.openResponseId = none) ∧
        ∀ record ∈ mapper.records, record.normalized.discrepant = false := by
    decide +kernel
  obtain ⟨uncut, expected, length, bytes, lifecycle, running, admitted, execution, answered, settled⟩ := reached
  have notified (place : Nat) (method : String) {message : Members} (named : ServerMessage.method (sampleWired message) = some (text method))
      (other : method ∉ ["item/started", "item/completed"]) (mapper : Mapper) :
      ¬ Leaks sampleEchoSettings mapper (sampleEnvelope place "NOTIFICATION" message .null) :=
    harmless_notice named other
  refine ⟨_, ⟨within_of_harmless sample_start ?_, retained_of_records length⟩,
    ⟨uncut, expected, length, bytes, lifecycle, running, admitted, execution, answered, settled⟩⟩
  simp only [List.forall_mem_cons, List.not_mem_nil, false_implies, implies_true, and_true]
  refine ⟨?_, notified 2 "providerRequest/started" (by decide) (by decide), notified 3 "rawResponse/started" (by decide) (by decide),
    notified 4 "rawResponse/completed" (by decide) (by decide)⟩
  rintro mapper ⟨_, _, message, carries, ⟨notification, _⟩ | ⟨request, _⟩⟩
  · exact absurd notification (by decide)
  · exact absurd request (by decide)

theorem bounded_echo_lifecycle_sample :
    retained sampleEchoSettings Mapper.initial (sampleAnswered ++ noticed 5 sampleEchoed) =
      (sampleAnswered ++ noticed 5 sampleEchoed).filterMap Call.envelope? ∧
    EchoLifecycle sampleEchoSettings (performAll sampleEchoSettings Mapper.initial (sampleAnswered ++ noticed 5 sampleEchoed)).records
      (retained sampleEchoSettings Mapper.initial (sampleAnswered ++ noticed 5 sampleEchoed)) := by
  obtain ⟨inputStarted, inputCompleted, firstStarted, firstDelta, firstCompleted, secondStarted, secondCompleted⟩ := sample_marks
  obtain ⟨_, told, between⟩ := sample_told
  obtain ⟨_, told, between⟩ := told.marks between (by decide) inputStarted
  obtain ⟨_, told, between⟩ := told.marks between (by decide) inputCompleted
  obtain ⟨_, told, between⟩ := told.marks between (by decide) firstStarted
  obtain ⟨_, told, between⟩ := told.marks between (by decide) firstDelta
  obtain ⟨_, told, between⟩ := told.marks between (by decide) firstCompleted
  obtain ⟨_, told, between⟩ := told.marks between (by decide) secondStarted
  obtain ⟨_, told, between⟩ := told.marks between (by decide) sample_long.2
  obtain ⟨_, told, between⟩ := told.marks between (by decide) secondCompleted
  have summary : (providerCustody sampleEchoSettings (sampleTracked sampleSecondCompleted) (sampleWired sampleSummary)).isOk = true := by
    decide +kernel
  obtain ⟨⟨selected, raw⟩, custody⟩ := exists_of_isOk summary
  have closed : selectedEcho sampleEchoSettings (sampleTracked sampleSecondCompleted) (sampleWired sampleSummary) = .ok true := by
    decide
  cases closed.symm.trans (providerCustody_ok custody).1
  obtain ⟨mapper, told, settled⟩ := told.summary between (by decide) (by decide) custody (by decide) (by decide)
  have whole : Told (sampleAnswered ++ noticed 5 sampleEchoed) mapper := by
    simpa only [sampleEchoed, noticed, List.append_assoc, List.cons_append, List.nil_append] using told
  refine ⟨whole.kept, ?_⟩
  rw [performAll_of_run whole.run.run]
  exact bounded_echo_lifecycle rfl rfl whole.run settled

/-! A log that is filled up to its byte bound: the start of an item no longer fits, its short completion does. -/

def sampleFiller : Members := object [("method", literal "m"), ("params", .obj (object [("pad", .str (List.replicate 1700 97))]))]

def sampleItem (content : Text) : Json := .obj (object [("type", literal "agentMessage"), ("id", literal "i"), ("text", .str content),
  ("phase", .null), ("memoryCitation", .null), ("delivery", .null)])

def sampleItemStarted : Members := object [("method", literal "item/started"), ("params", .obj (object [("threadId", literal "th"),
  ("turnId", literal "tu"), ("item", sampleItem (List.replicate 2300 97)), ("startedAtMs", .int 1)])), ("emittedAtMs", .int 1)]

def sampleItemCompleted : Members := object [("method", literal "item/completed"), ("params", .obj (object [("threadId", literal "th"),
  ("turnId", literal "tu"), ("item", sampleItem []), ("completedAtMs", .int 1)])), ("emittedAtMs", .int 1)]

def sampleFillerLine : Bytes := ascii "\x7b\"method\":\"m\",\"params\":\x7b\"pad\":\"" ++ List.replicate 1700 97 ++ ascii "\"\x7d\x7d\n"

def sampleItemStartedLine : Bytes :=
  ascii ("\x7b\"method\":\"item/started\",\"params\":\x7b\"threadId\":\"th\",\"turnId\":\"tu\",\"item\":\x7b" ++
    "\"type\":\"agentMessage\",\"id\":\"i\",\"text\":\"") ++ List.replicate 2300 97 ++
  ascii ("\",\"phase\":null,\"memoryCitation\":null,\"delivery\":null\x7d,\"startedAtMs\":1\x7d,\"emittedAtMs\":1\x7d\n")

def sampleItemCompletedLine : Bytes :=
  ascii ("\x7b\"method\":\"item/completed\",\"params\":\x7b\"threadId\":\"th\",\"turnId\":\"tu\",\"item\":\x7b" ++
    "\"type\":\"agentMessage\",\"id\":\"i\",\"text\":\"\",\"phase\":null,\"memoryCitation\":null,\"delivery\":null\x7d," ++
    "\"completedAtMs\":1\x7d,\"emittedAtMs\":1\x7d\n")

def sampleFullHost : Host := { sampleHost with
  loadsUnique := fun raw => if raw = sampleFillerLine then .ok (.obj sampleFiller)
    else if raw = sampleItemStartedLine then .ok (.obj sampleItemStarted)
    else if raw = sampleItemCompletedLine then .ok (.obj sampleItemCompleted)
    else sampleHost.loadsUnique raw }

def sampleFullSettings : Settings sampleFullHost where
  binding := ⟨sampleBinding.members, sampleBinding.valid⟩
  captureContract := .boundedTurnEcho
  allowUnorderedFixture := false
  supported := sampleSettings.supported

def sampleCustody (line : Bytes) (terminated : line.getLast? = some 10) : RawCustody := ⟨.exactWireBytes, line, terminated⟩

def sampleFillerCustody : RawCustody := sampleCustody sampleFillerLine (by decide +kernel)
def sampleItemStartedCustody : RawCustody := sampleCustody sampleItemStartedLine (by decide +kernel)
def sampleItemCompletedCustody : RawCustody := sampleCustody sampleItemCompletedLine (by decide)

/-- A mapper that has only watermarks. -/
def sampleFilled (records : List Record) (bytes : Nat) (bounded : BoundedTurn) : Mapper := { Mapper.initial with
  records := records
  retainedRecordBytes := bytes
  expectedAcquisitionOrdinal := records.length
  bounded := bounded }

/-- The record of a frame that is a watermark, without its digest and its place. -/
def sampleNoted (method : String) (custody : RawCustody) : Record :=
  ⟨[], 0, none, some .notification, literal method, .watermark, some custody⟩

/-- What this record weighs at a place. -/
def sampleWeight (record : Record) (place : Nat) : Nat :=
  (record.placed (text "sha256:" ++ List.replicate 64 48) 0).weight sampleFullSettings.binding +
    2 * (Rfc8785.decimal place).length - 2

theorem sample_weights :
    (sampleNoted "m" sampleFillerCustody |>.placed (text "sha256:" ++ List.replicate 64 48) 0).weight sampleFullSettings.binding = 4262 ∧
    (sampleNoted "item/started" sampleItemStartedCustody |>.placed (text "sha256:" ++ List.replicate 64 48) 0).weight
      sampleFullSettings.binding = 5803 ∧
    (sampleNoted "item/completed" sampleItemCompletedCustody |>.placed (text "sha256:" ++ List.replicate 64 48) 0).weight
      sampleFullSettings.binding = 1212 := by
  decide +kernel

section
variable {records : List Record} {bytes : Nat} {bounded : BoundedTurn} {method : String} {custody : RawCustody}

/-- A watermark is recorded at the next place exactly where its weight fits. -/
theorem sample_record (room : records.length < MAXIMUM_RECORDS) (scalar : custody.bytes.length ≤ MAXIMUM_USER_INPUT_ECHO_BYTES) :
    ∃ stored, stored.normalized = .watermark ∧
      record sampleFullSettings (literal method) (some custody) .watermark
          ((sampleFilled records bytes bounded).entered .notification records.length) =
        if MAXIMUM_SNAPSHOT_BYTES < bytes + sampleWeight (sampleNoted method custody) records.length then
          (.error (refused "provider-admission evidence exceeds cumulative byte bound"),
            (sampleFilled records bytes bounded).entered .notification records.length)
        else (.ok stored, ((sampleFilled records bytes bounded).entered .notification records.length).appended stored
          (sampleWeight (sampleNoted method custody) records.length)) := by
  obtain ⟨start, same⟩ : ∃ start, (sampleFilled records bytes bounded).entered .notification records.length = start := ⟨_, rfl⟩
  have shape (digest : Text) : draft start (literal method) (some custody) .watermark digest =
      (sampleNoted method custody).placed digest records.length := by
    rw [← same]
    rfl
  have small : MAXIMUM_RECORDS = 4096 := rfl
  have most : SAFE_INTEGER_MAX = 9007199254740991 := by decide
  have held : start.records = records := by rw [← same]; rfl
  obtain ⟨digest, spelled, result⟩ := @evidence_weighed sampleFullHost sampleFullSettings start (literal method) (some custody) .watermark
    (by rw [held]; exact room) (by
      intro digest scalar_
      rw [shape]
      apply canonical_record
      · exact scalar_
      · exact Nat.le_of_lt room
      · intro ordinal found
        cases found
        omega
      · exact Text.scalar_text _
      · exact canonical_object (by simp [Rfc8785.Canonical])
      · intro raw found
        cases found
        exact scalar)
  have zeros : Rfc8785.spelled (text "sha256:" ++ List.replicate 64 48) = 73 := by decide
  have weight := weight_placed sampleFullSettings.binding (sampleNoted method custody) (spelled.trans zeros.symm) records.length
  have digits := decimal_length (show records.length < 10000 by omega)
  have weighs : ((sampleNoted method custody).placed digest records.length).weight sampleFullSettings.binding =
      sampleWeight (sampleNoted method custody) records.length := by
    unfold sampleWeight
    omega
  have total : start.retainedRecordBytes = bytes := by rw [← same]; rfl
  refine ⟨(sampleNoted method custody).placed digest records.length, rfl, ?_⟩
  rw [same, record_apply, result, shape, total]
  simp only [weighs]
  by_cases full : MAXIMUM_SNAPSHOT_BYTES < bytes + sampleWeight (sampleNoted method custody) records.length
  · rw [if_pos full, if_pos full]
  · rw [if_neg full, if_neg full]

/-- A frame that is a watermark, as a whole call: where it does not fit, only the lifecycle fields stay moved. -/
theorem sample_perform {message : ServerMessage} {after : BoundedTurn} (room : records.length < MAXIMUM_RECORDS)
    (scalar : custody.bytes.length ≤ MAXIMUM_USER_INPUT_ECHO_BYTES)
    (watermark : consumeImpl sampleFullSettings message false ((sampleFilled records bytes bounded).entered .notification records.length) =
      (some <$> record sampleFullSettings (literal method) (some custody) .watermark)
        ((sampleFilled records bytes after).entered .notification records.length)) :
    ∃ stored, stored.normalized = .watermark ∧
      perform sampleFullSettings (.consumeEnvelope (notice records.length message)) (sampleFilled records bytes bounded) =
        if MAXIMUM_SNAPSHOT_BYTES < bytes + sampleWeight (sampleNoted method custody) records.length then
          (.error (refused "provider-admission evidence exceeds cumulative byte bound"), sampleFilled records bytes after)
        else (.ok (some stored), sampleFilled (records ++ [stored])
          (bytes + sampleWeight (sampleNoted method custody) records.length) after) := by
  obtain ⟨stored, marked, result⟩ := @sample_record records bytes after method custody room scalar
  have small : MAXIMUM_RECORDS = 4096 := rfl
  have most : SAFE_INTEGER_MAX = 9007199254740991 := by decide
  refine ⟨stored, marked, ?_⟩
  have performed := @perform_notice sampleFullHost sampleFullSettings (sampleFilled records bytes bounded) rfl
    (show (records.length : Int) ≤ SAFE_INTEGER_MAX by omega) message
  have place : (sampleFilled records bytes bounded).expectedAcquisitionOrdinal = records.length := rfl
  rw [place] at performed
  rw [performed, watermark]
  have mapped : (some <$> record sampleFullSettings (literal method) (some custody) .watermark)
      ((sampleFilled records bytes after).entered .notification records.length) =
      if MAXIMUM_SNAPSHOT_BYTES < bytes + sampleWeight (sampleNoted method custody) records.length then
          (.error (refused "provider-admission evidence exceeds cumulative byte bound"),
            (sampleFilled records bytes after).entered .notification records.length)
        else (.ok (some stored), ((sampleFilled records bytes after).entered .notification records.length).appended stored
          (sampleWeight (sampleNoted method custody) records.length)) := by
    show (record sampleFullSettings (literal method) (some custody) .watermark >>= fun stored => Pure.pure (some stored)) _ = _
    rw [Effect.bind_apply, result]
    by_cases full : MAXIMUM_SNAPSHOT_BYTES < bytes + sampleWeight (sampleNoted method custody) records.length
    · rw [if_pos full, if_pos full]
    · rw [if_neg full, if_neg full]
      rfl
  rw [mapped]
  by_cases full : MAXIMUM_SNAPSHOT_BYTES < bytes + sampleWeight (sampleNoted method custody) records.length
  · rw [if_pos full, if_pos full]
    simp [sampleFilled, Mapper.entered, Mapper.cleared, restored, Mapper.initial]
  · rw [if_neg full, if_neg full]
    simp [sampleFilled, Mapper.entered, Mapper.cleared, Mapper.appended, Mapper.initial]

end

def sampleOpened : BoundedTurn :=
  { BoundedTurn.initial with agentItemId := some (text "i"), agentText := some (List.replicate 2300 97) }

def sampleClosed : BoundedTurn := { BoundedTurn.initial with completedAgentIds := [text "i"], lastCompletedAgent := some (text "i", []) }

def sampleFillerCall (place : Nat) : Call := .consumeEnvelope (notice place ⟨sampleFiller, some sampleFillerLine⟩)
def sampleStartedCall (place : Nat) : Call := .consumeEnvelope (notice place ⟨sampleItemStarted, some sampleItemStartedLine⟩)
def sampleCompletedNotice (place : Nat) : AcquisitionEnvelope := notice place ⟨sampleItemCompleted, some sampleItemCompletedLine⟩

theorem sample_filler (records : List Record) (bytes : Nat) (room : records.length < MAXIMUM_RECORDS) :
    ∃ stored, stored.normalized = .watermark ∧ perform sampleFullSettings (sampleFillerCall records.length) (sampleFilled records bytes .initial) =
      if MAXIMUM_SNAPSHOT_BYTES < bytes + sampleWeight (sampleNoted "m" sampleFillerCustody) records.length then
        (.error (refused "provider-admission evidence exceeds cumulative byte bound"), sampleFilled records bytes .initial)
      else (.ok (some stored), sampleFilled (records ++ [stored])
        (bytes + sampleWeight (sampleNoted "m" sampleFillerCustody) records.length) .initial) := by
  have custody : providerCustody sampleFullSettings Mapper.initial ⟨sampleFiller, some sampleFillerLine⟩ =
      .ok (false, sampleFillerCustody) := by decide +kernel
  apply sample_perform room (by decide +kernel)
  apply consumeImpl_plain
  · rw [← custody]
    exact providerCustody_input rfl
  · decide
  · decide
  · rfl
  · decide
  · decide

theorem sample_started (records : List Record) (bytes : Nat) (room : records.length < MAXIMUM_RECORDS) :
    ∃ stored, stored.normalized = .watermark ∧ perform sampleFullSettings (sampleStartedCall records.length) (sampleFilled records bytes .initial) =
      if MAXIMUM_SNAPSHOT_BYTES < bytes + sampleWeight (sampleNoted "item/started" sampleItemStartedCustody) records.length then
        (.error (refused "provider-admission evidence exceeds cumulative byte bound"), sampleFilled records bytes sampleOpened)
      else (.ok (some stored), sampleFilled (records ++ [stored])
        (bytes + sampleWeight (sampleNoted "item/started" sampleItemStartedCustody) records.length) sampleOpened) := by
  have custody : providerCustody sampleFullSettings Mapper.initial ⟨sampleItemStarted, some sampleItemStartedLine⟩ =
      .ok (true, sampleItemStartedCustody) := by decide +kernel
  apply sample_perform room (by decide +kernel)
  apply consumeImpl_selected
  · rw [← custody]
    exact providerCustody_input rfl
  · decide
  · exact .inl rfl
  · rfl
  · have result : lifecycle (text "item/started") (ServerMessage.params ⟨sampleItemStarted, some sampleItemStartedLine⟩) false
        BoundedTurn.initial = (.ok .watermark, sampleOpened) := by decide +kernel
    exact result

theorem sample_completed (records : List Record) (bytes : Nat) (room : records.length < MAXIMUM_RECORDS) :
    ∃ stored, stored.normalized = .watermark ∧
      perform sampleFullSettings (.consumeEnvelope (sampleCompletedNotice records.length)) (sampleFilled records bytes sampleOpened) =
      if MAXIMUM_SNAPSHOT_BYTES < bytes + sampleWeight (sampleNoted "item/completed" sampleItemCompletedCustody) records.length then
        (.error (refused "provider-admission evidence exceeds cumulative byte bound"), sampleFilled records bytes sampleClosed)
      else (.ok (some stored), sampleFilled (records ++ [stored])
        (bytes + sampleWeight (sampleNoted "item/completed" sampleItemCompletedCustody) records.length) sampleClosed) := by
  have custody : providerCustody sampleFullSettings Mapper.initial ⟨sampleItemCompleted, some sampleItemCompletedLine⟩ =
      .ok (true, sampleItemCompletedCustody) := by decide +kernel
  apply sample_perform room (by decide +kernel)
  apply consumeImpl_selected
  · rw [← custody]
    exact providerCustody_input rfl
  · decide
  · exact .inr (.inl rfl)
  · rfl
  · have result : lifecycle (text "item/completed") (ServerMessage.params ⟨sampleItemCompleted, some sampleItemCompletedLine⟩) false
        sampleOpened = (.ok .watermark, sampleClosed) := by decide
    exact result

/-- The bytes that the first fillers take. -/
def sampleBytes : Nat → Nat
  | 0 => 0
  | count + 1 => sampleBytes count + sampleWeight (sampleNoted "m" sampleFillerCustody) count

def sampleFillers (count : Nat) : List Call := (List.range count).map sampleFillerCall

theorem sample_fill (count : Nat) (room : count ≤ MAXIMUM_RECORDS) (fits : sampleBytes count ≤ MAXIMUM_SNAPSHOT_BYTES) :
    ∃ records, records.length = count ∧ (∀ record ∈ records, record.normalized.discrepant = false) ∧
      performAll sampleFullSettings Mapper.initial (sampleFillers count) = sampleFilled records (sampleBytes count) .initial ∧
      retained sampleFullSettings Mapper.initial (sampleFillers count) =
        (List.range count).map fun place => notice place ⟨sampleFiller, some sampleFillerLine⟩ := by
  induction count with
  | zero => exact ⟨[], rfl, by simp, rfl, rfl⟩
  | succ count ih =>
    have within : sampleBytes count ≤ MAXIMUM_SNAPSHOT_BYTES := by
      unfold sampleBytes at fits
      omega
    obtain ⟨records, length, settled, reached, kept⟩ := ih (by omega) within
    obtain ⟨stored, marked, result⟩ := sample_filler records (sampleBytes count) (by omega)
    have next : sampleBytes count + sampleWeight (sampleNoted "m" sampleFillerCustody) count ≤ MAXIMUM_SNAPSHOT_BYTES := fits
    rw [length, if_neg (Nat.not_lt.mpr next)] at result
    have calls : sampleFillers (count + 1) = sampleFillers count ++ [sampleFillerCall count] := by
      simp [sampleFillers, List.range_succ]
    refine ⟨records ++ [stored], by simp [length], ?_, ?_, ?_⟩
    · intro record listed
      rcases List.mem_append.mp listed with old | new
      · exact settled record old
      · rw [List.mem_singleton.mp new, marked]
        rfl
    · rw [calls, performAll_snoc, reached, result]
      rfl
    · rw [calls, retained_append, reached, kept, retainedBy, result, List.range_succ, List.map_append]
      rfl

/-- The place at which the start of the item no longer fits. -/
theorem sample_place : ∃ count, count < MAXIMUM_RECORDS ∧
    MAXIMUM_SNAPSHOT_BYTES < sampleBytes count + sampleWeight (sampleNoted "item/started" sampleItemStartedCustody) count ∧
    sampleBytes count + sampleWeight (sampleNoted "item/completed" sampleItemCompletedCustody) count ≤ MAXIMUM_SNAPSHOT_BYTES := by
  obtain ⟨filler, started, completed⟩ := sample_weights
  have room : MAXIMUM_RECORDS = 4096 := rfl
  have bound : MAXIMUM_SNAPSHOT_BYTES = 16777216 := by decide
  have weigh_filler (place : Nat) : sampleWeight (sampleNoted "m" sampleFillerCustody) place =
      4262 + 2 * (Rfc8785.decimal place).length - 2 := by rw [sampleWeight, filler]
  have weigh_started (place : Nat) : sampleWeight (sampleNoted "item/started" sampleItemStartedCustody) place =
      5803 + 2 * (Rfc8785.decimal place).length - 2 := by rw [sampleWeight, started]
  have weigh_completed (place : Nat) : sampleWeight (sampleNoted "item/completed" sampleItemCompletedCustody) place =
      1212 + 2 * (Rfc8785.decimal place).length - 2 := by rw [sampleWeight, completed]
  have grows (count : Nat) : 4262 * count ≤ sampleBytes count := by
    induction count with
    | zero => exact Nat.le_refl _
    | succ count ih =>
      have digits := decimal_pos count
      unfold sampleBytes
      rw [weigh_filler]
      omega
  have exceeds : ∃ count, MAXIMUM_SNAPSHOT_BYTES <
      sampleBytes count + sampleWeight (sampleNoted "item/started" sampleItemStartedCustody) count := by
    refine ⟨4095, ?_⟩
    have least := grows 4095
    omega
  obtain ⟨least, minimal⟩ : ∃ count, (MAXIMUM_SNAPSHOT_BYTES <
      sampleBytes count + sampleWeight (sampleNoted "item/started" sampleItemStartedCustody) count) ∧
      ∀ earlier < count, sampleBytes earlier + sampleWeight (sampleNoted "item/started" sampleItemStartedCustody) earlier ≤
        MAXIMUM_SNAPSHOT_BYTES := by
    classical
    refine ⟨Nat.find exceeds, Nat.find_spec exceeds, ?_⟩
    intro earlier before
    exact Nat.not_lt.mp (Nat.find_min exceeds before)
  obtain ⟨beyond, minimal⟩ := minimal
  cases least with
  | zero =>
    have none : sampleBytes 0 = 0 := rfl
    have digits := decimal_length (show 0 < 10000 by omega)
    rw [none, weigh_started] at beyond
    omega
  | succ count =>
    have small : count < 4095 := by
      by_contra large
      have last := minimal 4095
      have least := grows 4095
      have before : 4095 < count + 1 := by omega
      have within := last before
      omega
    have before := minimal count (Nat.lt_succ_self count)
    have here := decimal_length (show count < 10000 by omega)
    have next := decimal_length (show count + 1 < 10000 by omega)
    refine ⟨count + 1, by omega, beyond, ?_⟩
    unfold sampleBytes
    rw [weigh_filler, weigh_completed]
    rw [weigh_started] at before
    omega

theorem sample_formless (count : Nat) :
    let history := (List.range count).map fun place => notice place ⟨sampleFiller, some sampleFillerLine⟩
    forms sampleFullSettings history = [] ∧ turnInput history = none := by
  have formless : closedForm sampleFullSettings none ⟨sampleFiller, some sampleFillerLine⟩ = none := by decide
  induction count with
  | zero => exact ⟨rfl, rfl⟩
  | succ count ih =>
    have here : notified (notice count ⟨sampleFiller, some sampleFillerLine⟩) = some ⟨sampleFiller, some sampleFillerLine⟩ := rfl
    have unselected : selectedInput (notice count ⟨sampleFiller, some sampleFillerLine⟩) = none := rfl
    rw [List.range_succ, List.map_append, List.map_singleton]
    constructor
    · rw [forms_append, ih.1, ih.2, here, Option.bind_some, formless]
      rfl
    · rw [turnInput_append, ih.2, unselected]
      rfl

/-- The start of an item that no longer fits raises but leaves the item open, and its completion is retained without a start. -/
theorem bounded_echo_lifecycle_overflow : ∃ calls,
    (∀ record ∈ (performAll sampleFullSettings Mapper.initial calls).records, record.normalized.discrepant = false) ∧
    ¬ EchoLifecycle sampleFullSettings (performAll sampleFullSettings Mapper.initial calls).records
      (retained sampleFullSettings Mapper.initial calls) := by
  obtain ⟨count, room, full, fits⟩ := sample_place
  obtain ⟨records, length, settled, reached, kept⟩ := sample_fill count (Nat.le_of_lt room) (by omega)
  subst length
  obtain ⟨_, _, started⟩ := sample_started records (sampleBytes records.length) room
  obtain ⟨stored, marked, completed⟩ := sample_completed records (sampleBytes records.length) room
  rw [if_pos full] at started
  rw [if_neg (Nat.not_lt.mpr fits)] at completed
  have opened : performAll sampleFullSettings Mapper.initial (sampleFillers records.length ++ [sampleStartedCall records.length]) =
      sampleFilled records (sampleBytes records.length) sampleOpened := by
    rw [performAll_snoc, reached, started]
  refine ⟨sampleFillers records.length ++ [sampleStartedCall records.length] ++ [.consumeEnvelope (sampleCompletedNotice records.length)], ?_, ?_⟩
  · rw [performAll_snoc, opened, completed]
    intro record listed
    rcases List.mem_append.mp listed with old | new
    · exact settled record old
    · rw [List.mem_singleton.mp new, marked]
      rfl
  · intro lifecycle
    have history : retained sampleFullSettings Mapper.initial (sampleFillers records.length ++ [sampleStartedCall records.length] ++
        [.consumeEnvelope (sampleCompletedNotice records.length)]) =
        (List.range records.length).map (fun place => notice place ⟨sampleFiller, some sampleFillerLine⟩) ++
          [sampleCompletedNotice records.length] := by
      rw [retained_append, opened, retained_append, reached, kept, retainedBy, retainedBy, started, completed]
      simp [Call.envelope?]
    have orderly := lifecycle.orderly
    rw [history] at orderly
    have word : forms sampleFullSettings ((List.range records.length).map (fun place => notice place ⟨sampleFiller, some sampleFillerLine⟩) ++
        [sampleCompletedNotice records.length]) = [.itemCompleted (text "i") []] := by
      obtain ⟨nothing, unselected⟩ := sample_formless records.length
      have last : closedForm sampleFullSettings none ⟨sampleItemCompleted, some sampleItemCompletedLine⟩ =
          some (.itemCompleted (text "i") []) := by decide
      have here : notified (sampleCompletedNotice records.length) = some ⟨sampleItemCompleted, some sampleItemCompletedLine⟩ := rfl
      rw [forms_append, nothing, unselected, here, Option.bind_some, last]
      rfl
    have follows := orderly [] _ [] word
    cases follows

end Switchyard.Admission
