import Switchyard.Runner.Execution
import Switchyard.Admission.Clean

/-! What a run projects out of its stream: usage, turn status and worker output, each as
a function of the messages consumed so far, until an exception or a loss ends that. -/

namespace Switchyard.Runner
open Library Json AppServer Admission Effect

/-- The mapper has left the states that a clean cut can close, for good. -/
def Lost (state : MechanismState) : Prop := state = .admissionIndeterminate ∨ state = .postAdmissionInterrupted

section
variable {host : Host} {settings : Settings host}

private theorem interrupted_lost (mapper : Mapper) : Lost mapper.interrupted.mechanismState := by
  unfold Mapper.interrupted
  split
  · exact .inl rfl
  · exact .inr rfl

theorem lost_step {mapper after : Mapper} {calls : List Admission.Call} {call : Admission.Call} (run : Run (Admission.Performs settings) Mapper.initial calls mapper)
    (step : Admission.Performs settings mapper call after) (lost : Lost mapper.mechanismState) : Lost after.mechanismState := by
  have advances := advances_step run step
  exact lost.imp advances.indeterminate advances.interrupted

private theorem record_meets (method : Json) (raw : Option RawCustody) (normalized : Normalized) (mapper : Mapper) :
    Meets (Admission.record settings method raw normalized) mapper
      (fun _ after => ∃ stored size, after = mapper.appended stored size) (fun _ _ => True) := by
  unfold Admission.record
  refine .bind (.read (.bind (.lift (fun drafted found => ?_) fun _ _ => trivial)))
  exact .bind (.modify (.pure ⟨drafted.1, drafted.2, rfl⟩))

private theorem requireAcquisitionOpen_meets (mapper : Mapper) :
    Meets requireAcquisitionOpen mapper (fun _ after => after = mapper) (fun _ _ => True) := by
  unfold requireAcquisitionOpen
  exact .bind (.read (.ite (fun _ => .raise trivial) fun _ => .pure rfl))

/-- A loss that could be recorded has ended the dispatch. -/
theorem markAcquisitionLoss_meets (detail : Json) (mapper : Mapper) :
    Meets (markAcquisitionLoss settings detail) mapper (fun _ after => Lost after.mechanismState) (fun _ _ => True) := by
  unfold markAcquisitionLoss Admission.atomic
  refine .recovering ?_
  refine .bind ((requireAcquisitionOpen_meets mapper).weaken ?_ fun _ _ _ => trivial)
  rintro _ _ rfl
  unfold markDiscrepancy
  refine .bind (.modify (.bind (.lift (fun detail sliced => ?_) fun _ _ => trivial)))
  refine .bind (.read ((record_meets _ _ _ _).weaken ?_ fun _ _ _ => trivial))
  rintro _ _ ⟨stored, size, rfl⟩
  exact interrupted_lost _

/-- What a consumed cut leaves behind. -/
structure Cuts (before after : Mapper) (cut : Cut) : Prop where
  taken : after.acquisitionCut = some cut
  clean : cut.clean = true → after.mechanismState = before.mechanismState ∧
    (before.mechanismState = .providerCompleted ∨ before.mechanismState = .parkedNotAdmitted)
  unclean : cut.clean = false → Lost after.mechanismState

theorem consumeCut_meets (cut : AcquisitionCut) (mapper : Mapper) :
    Meets (consumeCut settings cut) mapper (fun _ after => ∃ normalized, Cuts mapper after normalized) (fun _ _ => True) := by
  unfold consumeCut Admission.atomic
  refine .recovering (.bind ((requireAcquisitionOpen_meets mapper).weaken ?_ fun _ _ _ => trivial))
  rintro _ _ rfl
  refine .bind (.read (.bind (.lift (fun normalized checked => ?_) fun _ _ => trivial)))
  refine .bind (.modify (.ite (fun unclean => ?_) fun clean => ?_))
  · refine .bind (.modify ((record_meets _ _ _ _).weaken ?_ fun _ _ _ => trivial))
    rintro _ _ ⟨stored, size, rfl⟩
    refine ⟨normalized, ?_, fun clean => ?_, fun _ => interrupted_lost _⟩
    · unfold Mapper.interrupted
      split <;> rfl
    · simp [clean] at unclean
  · refine (record_meets _ _ _ _).weaken ?_ fun _ _ _ => trivial
    rintro _ _ ⟨stored, size, rfl⟩
    refine ⟨normalized, rfl, fun clean => ⟨rfl, (normalizedCut_clean checked clean).closed⟩, fun unclean => ?_⟩
    simp [unclean] at clean

end

/-- An identity of an accepted binding is a text. -/
theorem binding_identity {host : Host} (binding : Binding host) {field : String} (listed : field ∈ BINDING_IDENTITIES) :
    ∃ value, get binding.members field = .str value := by
  have valid := binding.valid
  obtain ⟨_, _, valid⟩ := bind_ok.mp valid
  obtain ⟨_, _, valid⟩ := bind_ok.mp valid
  obtain ⟨_, each, -⟩ := bind_ok.mp valid
  clear valid
  generalize BINDING_IDENTITIES = fields at each listed
  induction fields with
  | nil => cases listed
  | cons first rest ih =>
    unfold List.forM at each
    obtain ⟨_, given, each⟩ := bind_ok.mp each
    rcases List.mem_cons.mp listed with rfl | later
    · obtain ⟨value, checked, -⟩ := bind_ok.mp given
      unfold identity at checked
      split at checked
      · exact ⟨_, ‹_›⟩
      · cases checked
    · exact ih each later

/-! The pure projections of a message. -/

/-- The usage that a message reports for the thread. -/
def usage? (threadId : Json) (message : ServerMessage) : Option Json :=
  if hasMethod message "thread/tokenUsage/updated" && equal (get message.params "threadId") threadId then
    some (get message.params "tokenUsage") else none

/-- The status that a message reports for the turn. -/
def status? (threadId turnId : Json) (message : ServerMessage) : Option Json :=
  if hasMethod message "turn/completed" && equal (get message.params "threadId") threadId then
    match orEmpty message.params "turn" with
    | .obj turn => if equal (get turn "id") turnId then some (get turn "status") else none
    | _ => none
  else none

/-- The text of an agent message that a message reports complete for the thread. -/
def output? (threadId : Json) (message : ServerMessage) : Option Text :=
  if hasMethod message "item/completed" && equal (get message.params "threadId") threadId then
    match orEmpty message.params "item" with
    | .obj completed => agentText completed
    | _ => none
  else none

/-- Output or usage of the thread that names another turn. -/
def stray (threadId turnId : Json) (message : ServerMessage) : Bool :=
  (hasMethod message "thread/tokenUsage/updated" || hasMethod message "item/completed") &&
    equal (get message.params "threadId") threadId && !equal (get message.params "turnId") turnId

/-- The last value that the messages report, if any of them reports one. -/
def latest (report? : ServerMessage → Option Json) (heard : List ServerMessage) : Json :=
  ((heard.filterMap report?).getLast?).getD .null

theorem latest_snoc (report? : ServerMessage → Option Json) (heard : List ServerMessage) (message : ServerMessage) :
    latest report? (heard ++ [message]) = (report? message).getD (latest report? heard) := by
  unfold latest
  rw [List.filterMap_append]
  cases reported : report? message <;> simp [reported]

/-- The lengths in UTF-8 of texts, as far as they can be encoded. -/
def totalBytes (contents : List Text) : Nat := (contents.map fun content => (content.encode?.getD []).length).sum

/-- What a run has projected so far. -/
structure Projection where
  usage : Json
  usageTurn : Json
  status : Json
  output : Json
  outputBytes : Nat
  attributionFailed : Bool

def Projection.initial : Projection := ⟨.null, .null, .null, .null, 0, false⟩

def Running.projection {host : Host} (running : Running host) : Projection :=
  ⟨get running.record "usage", get running.record "usage_turn_id", get running.record "turn_status",
    get running.record "worker_output", running.outputBytes, running.attributionFailed⟩

/-- What holds of the projection after any messages, also where one of them raised. -/
structure Attributes (threadId turnId : Json) (heard : List ServerMessage) (projection : Projection) : Prop where
  failed : projection.attributionFailed = true ↔ ∃ message ∈ heard, stray threadId turnId message = true
  nulled : projection.attributionFailed = true →
    projection.usage = .null ∧ projection.usageTurn = .null ∧ projection.output = .null
  usage : projection.attributionFailed = false → projection.usage = latest (usage? threadId) heard
  turn : projection.attributionFailed = false → projection.usage ≠ .null → projection.usageTurn = turnId

/-- The projection says what the messages report, all of which were interpreted to their end. -/
structure Projected (threadId turnId limit : Json) (heard : List ServerMessage) (projection : Projection) : Prop where
  attributed : projection.attributionFailed = false
  status : projection.status = latest (status? threadId turnId) heard
  output : projection.output = latest (fun message => (output? threadId message).map Json.str) heard
  bytes : projection.outputBytes = totalBytes (heard.filterMap (output? threadId))
  encoded : ∀ content ∈ heard.filterMap (output? threadId), content.encode?.isSome
  bounded : heard.filterMap (output? threadId) ≠ [] → exceeds projection.outputBytes limit = .ok false

/-! What a message makes of the projection. -/

def Projection.used (projection : Projection) (threadId : Json) (message : ServerMessage) : Projection :=
  match usage? threadId message with
  | none => projection
  | some usage => { projection with
      usage := usage
      usageTurn := if usage = .null then .null else get message.params "turnId" }

def Projection.ended (projection : Projection) (threadId turnId : Json) (message : ServerMessage) : Projection :=
  { projection with status := (status? threadId turnId message).getD projection.status }

def Projection.spoken (projection : Projection) (threadId : Json) (message : ServerMessage) : Projection :=
  match output? threadId message with
  | none => projection
  | some content => { projection with
      output := .str content
      outputBytes := projection.outputBytes + (content.encode?.getD []).length }

/-- The text could be counted and keeps within the bound. -/
def Admits (limit : Json) (content : Option Text) (projection : Projection) : Prop :=
  ∀ text ∈ content, text.encode?.isSome ∧ exceeds projection.outputBytes limit = .ok false

section
variable {threadId turnId limit : Json} {heard : List ServerMessage} {message : ServerMessage} {projection : Projection}

theorem Attributes.initial (threadId turnId : Json) : Attributes threadId turnId [] .initial := by
  constructor <;> simp [Projection.initial, latest]

theorem Projected.initial (threadId turnId limit : Json) : Projected threadId turnId limit [] .initial := by
  constructor <;> simp [Projection.initial, latest, totalBytes]

/-- A message that is not stray is attributed. -/
theorem Attributes.used (attributes : Attributes threadId turnId heard projection) {value : Text} (named : turnId = .str value)
    (faithful : stray threadId turnId message = false) :
    Attributes threadId turnId (heard ++ [message])
      (if projection.attributionFailed then projection else projection.used threadId message) := by
  have still : (∃ other ∈ heard ++ [message], stray threadId turnId other = true) ↔
      ∃ other ∈ heard, stray threadId turnId other = true := by simp [faithful]
  cases failed : projection.attributionFailed with
  | true =>
    refine ⟨attributes.failed.trans still.symm, fun _ => attributes.nulled failed, ?_, ?_⟩
    · simp [failed]
    · simp [failed]
  | false =>
    have failedAfter : (projection.used threadId message).attributionFailed = false := by
      unfold Projection.used
      split <;> exact failed
    refine ⟨?_, ?_, fun _ => ?_, fun _ => ?_⟩
    · simp only [Bool.false_eq_true, if_false, failedAfter, still, ← attributes.failed, failed]
    · simp [failedAfter]
    · rw [latest_snoc, ← attributes.usage failed]
      simp only [Bool.false_eq_true, if_false, Projection.used]
      cases usage? threadId message <;> rfl
    · simp only [Bool.false_eq_true, if_false, Projection.used]
      cases reported : usage? threadId message with
      | none => exact attributes.turn failed
      | some usage =>
        intro (present : usage ≠ .null)
        show (if usage = .null then .null else get message.params "turnId") = turnId
        rw [if_neg present]
        unfold usage? at reported
        split at reported
        · next reports =>
          obtain ⟨method, thread⟩ := Bool.and_eq_true_iff.mp reports
          have own : equal (get message.params "turnId") turnId = true := by simpa [stray, method, thread] using faithful
          rw [named] at own ⊢
          exact equal_text.mp own
        · cases reported

/-- A stray message ends the attribution. -/
theorem Attributes.stray (projection : Projection) (astray : stray threadId turnId message = true) :
    Attributes threadId turnId (heard ++ [message])
      { projection with usage := .null, usageTurn := .null, output := .null, attributionFailed := true } := by
  refine ⟨?_, fun _ => ⟨rfl, rfl, rfl⟩, nofun, nofun⟩
  simp only [true_iff]
  exact ⟨message, by simp, astray⟩

/-- Nothing that the attribution speaks of has changed. -/
structure Spares (projection after : Projection) : Prop where
  usage : after.usage = projection.usage
  usageTurn : after.usageTurn = projection.usageTurn
  failed : after.attributionFailed = projection.attributionFailed
  output : projection.attributionFailed = true → after.output = projection.output

theorem Spares.refl (projection : Projection) : Spares projection projection := ⟨rfl, rfl, rfl, fun _ => rfl⟩

theorem Attributes.spared {after : Projection} (attributes : Attributes threadId turnId heard projection)
    (spares : Spares projection after) : Attributes threadId turnId heard after := by
  refine ⟨?_, ?_, ?_, ?_⟩ <;> rw [spares.failed]
  · exact attributes.failed
  · intro failed
    rw [spares.usage, spares.usageTurn, spares.output failed]
    exact attributes.nulled failed
  · rw [spares.usage]
    exact attributes.usage
  · rw [spares.usage, spares.usageTurn]
    exact attributes.turn

theorem Projected.snoc (projected : Projected threadId turnId limit heard projection)
    (admits : Admits limit (output? threadId message)
      (((projection.used threadId message).ended threadId turnId message).spoken threadId message)) :
    Projected threadId turnId limit (heard ++ [message])
      (((projection.used threadId message).ended threadId turnId message).spoken threadId message) := by
  have outputs : (heard ++ [message]).filterMap (output? threadId) =
      heard.filterMap (output? threadId) ++ (output? threadId message).toList := by
    rw [List.filterMap_append]
    cases said : output? threadId message <;> simp [said]
  have usedKeeps : (projection.used threadId message).attributionFailed = projection.attributionFailed ∧
      (projection.used threadId message).status = projection.status ∧
      (projection.used threadId message).output = projection.output ∧
      (projection.used threadId message).outputBytes = projection.outputBytes := by
    unfold Projection.used
    split <;> exact ⟨rfl, rfl, rfl, rfl⟩
  obtain ⟨attributed, status, output, bytes⟩ := usedKeeps
  refine ⟨?_, ?_, ?_, ?_, ?_, ?_⟩
  · unfold Projection.spoken
    split <;> exact attributed.trans projected.attributed
  · rw [latest_snoc, ← projected.status, ← status]
    unfold Projection.spoken
    split <;> rfl
  · rw [latest_snoc, ← projected.output, ← output]
    unfold Projection.spoken
    cases output? threadId message <;> rfl
  · rw [outputs]
    unfold Projection.spoken
    cases output? threadId message <;> simp [totalBytes, Projection.ended, bytes, projected.bytes]
  · rw [outputs]
    intro content member
    rcases List.mem_append.mp member with early | late
    · exact projected.encoded content early
    · exact (admits content (by simpa using late)).1
  · rw [outputs]
    intro some
    cases said : output? threadId message with
    | none =>
      rw [said] at some
      have kept : (((projection.used threadId message).ended threadId turnId message).spoken threadId message).outputBytes =
          projection.outputBytes := by simp [Projection.spoken, said, Projection.ended, bytes]
      rw [kept]
      exact projected.bounded (by simpa using some)
    | some content => exact (admits content said).2

end

end Switchyard.Runner
