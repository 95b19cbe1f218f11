import Switchyard.DirectApi.Contact

/-! The concurrency slot of a dispatch over every history of runs: what ends it,
and which steps leave it open for good. -/

namespace Switchyard.DirectApi
open Library Json

variable {host : Host}

/-- What a step tells beyond its label. A transport reports when it returns a response or raises
`ResponseOverBound` itself; what a poll raises inside it is told apart. -/
inductive Sign
  | reported (dispatch : Text)
  | polled (dispatch : Text) (raised : Raised)
  | declined (dispatch : Text)
  | raised (dispatch : Text) (raised : Raised)
  | inspected (dispatch : Text)
  | concluded (dispatch : Text)
  | cut (record : RunRecord)

def Sign.dispatch : Sign → Text
  | .reported dispatch | .polled dispatch _ | .declined dispatch | .raised dispatch _ | .inspected dispatch
  | .concluded dispatch => dispatch
  | .cut record => record.dispatch

abbrev SignedLabel := Label × Option Sign

def reports : Except Raised Response → Bool
  | .ok _ | .error .responseOverBound => true
  | .error _ => false

/-- A callback that raises before the contact. -/
def Surroundings.raises (surroundings : Surroundings) (raised : Raised) : Prop :=
  surroundings.cancelledBefore = .error raised ∨
    surroundings.cancelledBefore = .ok false ∧ surroundings.credential = .error raised

def Phase.flies : Phase host → Bool
  | .inFlight _ _ _ | .closing _ => true
  | _ => false

/-- The steps of a run with what they tell. A run that ends before it returns is
interrupted or crashes, and tells nothing unless its record was already final. -/
inductive Phase.Signed : Store → Phase host → SignedLabel → Store → Phase host → Prop
  | untold {store after : Store} {phase next : Phase host} {label : Label} :
      phase.flies = false → Phase.Step store phase label after next → Phase.Signed store phase (label, none) after next
  | inspected {store after : Store} {submission : Submission host} {now : Nanoseconds} {value : Json} :
      Store.claim host submission now store = (.ok (.retained value), after) →
      Phase.Signed store (.claiming submission) (.quiet, some (.inspected submission.dispatch)) after .finished
  | declined {store : Store} {submission : Submission host} {record : RunRecord} {surroundings : Surroundings}
      {assignments : List Assignment} :
      prepare host submission surroundings [] = (.ok none, assignments) →
      Phase.Signed store (.preparing submission record) (.quiet, some (.declined record.dispatch)) store
        (.finishing (record.assignAll assignments))
  | raised {store : Store} {submission : Submission host} {record : RunRecord} {surroundings : Surroundings}
      {raised : Raised} :
      surroundings.raises raised →
      Phase.Signed store (.preparing submission record) (.quiet, some (.raised record.dispatch raised)) store
        (.finishing (record.assign (excepted raised)))
  | answered {store : Store} {submission : Submission host} {credential : Text} {record : RunRecord}
      {surroundings : Surroundings} :
      polled surroundings.polls = .ok () → reports surroundings.reply = true →
      Phase.Signed store (.inFlight submission credential record) (.quiet, some (.reported record.dispatch)) store
        (.finishing (answered host submission.request credential surroundings record))
  | failed {store : Store} {submission : Submission host} {credential : Text} {record : RunRecord}
      {surroundings : Surroundings} :
      polled surroundings.polls = .ok () → reports surroundings.reply = false →
      Phase.Signed store (.inFlight submission credential record) (.quiet, none) store
        (.finishing (answered host submission.request credential surroundings record))
  | polled {store : Store} {submission : Submission host} {credential : Text} {record : RunRecord}
      {surroundings : Surroundings} {raised : Raised} :
      polled surroundings.polls = .error raised →
      Phase.Signed store (.inFlight submission credential record) (.quiet, some (.polled record.dispatch raised)) store
        (.finishing (answered host submission.request credential surroundings record))
  | answerInterrupted {store : Store} {submission : Submission host} {credential : Text} {record : RunRecord}
      {cancelled : Except Raised Bool} {response : Response} {count : Nat} {raised : Option Raised} :
      Phase.Signed store (.inFlight submission credential record) (.quiet, some (.reported record.dispatch)) store
        (.finishing ((record.assignAll
          ((respond host submission.request credential cancelled response []).2.take count)).interrupted raised))
  | unanswered {store : Store} {submission : Submission host} {credential : Text} {record : RunRecord} :
      Phase.Signed store (.inFlight submission credential record) (.quiet, none) store (.finishing record)
  | lost {store : Store} {submission : Submission host} {credential : Text} {record : RunRecord} :
      Phase.Signed store (.inFlight submission credential record) (.quiet, none) store .finished
  | released {store after : Store} {record : RunRecord} :
      closes record = true → Store.closeConcurrencySlot record store = (.ok (), after) →
      Phase.Signed store (.closing record) (.quiet, some (.concluded record.dispatch)) after .finished
  | releasedUnseen {store after : Store} {record : RunRecord} :
      closes record = true → Store.closeConcurrencySlot record store = (.ok (), after) →
      Phase.Signed store (.closing record) (.quiet, none) after .finished
  | pinned {store : Store} {record : RunRecord} :
      closes record = false →
      Phase.Signed store (.closing record) (.quiet, some (.concluded record.dispatch)) store .finished
  | cut {store : Store} {record : RunRecord} :
      Phase.Signed store (.closing record) (.quiet, some (.cut record)) store .finished

abbrev Runs.SignedStep : Runs host → SignedLabel → Runs host → Prop :=
  Pool.Step (fun phase => ∃ submission, phase = .claiming submission) (.quiet, none) Phase.Signed

theorem Phase.Signed.step {store after : Store} {phase next : Phase host} {signed : SignedLabel}
    (step : Phase.Signed store phase signed after next) : Phase.Step store phase signed.1 after next := by
  cases step with
  | untold _ step => exact step
  | inspected claimed => exact .found claimed
  | declined prepared => exact .declined prepared
  | @raised submission record surroundings raised raises =>
    have interrupted := @Phase.Step.prepareInterrupted host store submission record surroundings 0 (some raised)
    simpa [RunRecord.interrupted, RunRecord.assignAll] using interrupted
  | answered | failed | polled => exact .answered
  | answerInterrupted => exact .answerInterrupted
  | @unanswered submission credential record =>
    have interrupted := @Phase.Step.answerInterrupted host store submission credential record (.ok false) ⟨.null, none⟩ 0 none
    simpa [RunRecord.interrupted, RunRecord.assignAll] using interrupted
  | released closes closed | releasedUnseen closes closed => exact .closed closes closed
  | lost | pinned | cut => exact .crashed

/-- Every step of a run tells something. -/
theorem Phase.Step.signed {store after : Store} {phase next : Phase host} {label : Label}
    (step : Phase.Step store phase label after next) : ∃ full : SignedLabel, full.1 = label ∧
      Phase.Signed store phase full after next := by
  cases flies : phase.flies with
  | false => exact ⟨(label, none), rfl, .untold flies step⟩
  | true =>
    cases step with
    | @answered submission credential record surroundings =>
      cases asked : polled surroundings.polls with
      | error raised => exact ⟨_, rfl, .polled asked⟩
      | ok _ =>
        cases told : reports surroundings.reply with
        | true => exact ⟨_, rfl, .answered asked told⟩
        | false => exact ⟨_, rfl, .failed asked told⟩
    | answerInterrupted => exact ⟨_, rfl, .answerInterrupted⟩
    | closed closes closed => exact ⟨_, rfl, .released closes closed⟩
    | crashed =>
      cases phase with
      | inFlight => exact ⟨_, rfl, .lost⟩
      | closing => exact ⟨_, rfl, .cut⟩
      | claiming | preparing | starting | contacting | finishing | finished => cases flies
    | opened | found | refused | prepared | declined | prepareInterrupted | started | startInterrupted | contacted
    | contactInterrupted | finished => cases flies

def told (labels : List SignedLabel) : List Label := labels.map Prod.fst

def signs (labels : List SignedLabel) : List Sign := labels.filterMap Prod.snd

theorem told_append (labels : List SignedLabel) (full : SignedLabel) : told (labels ++ [full]) = told labels ++ [full.1] := by
  simp [told]

theorem mem_signs_append {labels : List SignedLabel} {full : SignedLabel} {sign : Sign} :
    sign ∈ signs (labels ++ [full]) ↔ sign ∈ signs labels ∨ full.2 = some sign := by
  simp [signs]

/-- Fuller labels change nothing: the histories are the same. -/
theorem signed_run {labels : List Label} {runs : Runs host} :
    Run Runs.Step Runs.initial labels runs ↔ ∃ signed, told signed = labels ∧ Run Runs.SignedStep Runs.initial signed runs := by
  refine ⟨fun run => ?_, ?_⟩
  · refine Run.lift (fun before label after step => ?_) run
    exact Pool.Step.lift rfl (fun _ _ _ _ _ acted => acted.signed) step
  · rintro ⟨signed, rfl, run⟩
    refine Run.map (fun before label after step => ?_) run
    exact Pool.Step.map rfl (fun _ _ _ _ _ acted => acted.step) step

def signedCustody : Pool.Discipline (fun phase : Phase host => ∃ submission, phase = .claiming submission) (.quiet, none)
    Phase.Signed Text :=
  Pool.Discipline.comap custody rfl fun _ _ _ _ _ step => step.step

/-- The owner's call ended its preparation without contact, in a way its record knows. -/
def Stopped (labels : List SignedLabel) (dispatch : Text) : Prop :=
  .declined dispatch ∈ signs labels ∨ .raised dispatch .responseOverBound ∈ signs labels

def Ended (record : RunRecord) : Prop := ∃ milliseconds, get record.members "ended_at_unix_ms" = .int milliseconds

/-- A record whose contact has begun and whose outcome is not known. -/
def Open (record : RunRecord) : Prop := get record.members "contact_state" = .str (text "CONTACT_STARTED_OUTCOME_UNKNOWN")

/-- The contact of a dispatch is over as far as its record tells: a poll that raises
`ResponseOverBound` leaves the record a transport's own would leave. -/
def Accounted (labels : List SignedLabel) (dispatch : Text) : Prop :=
  .reported dispatch ∈ signs labels ∨ .polled dispatch .responseOverBound ∈ signs labels

theorem Accounted.snoc {labels : List SignedLabel} {dispatch : Text} (accounted : Accounted labels dispatch)
    (full : SignedLabel) : Accounted (labels ++ [full]) dispatch :=
  accounted.imp (fun shown => mem_signs_append.mpr (Or.inl shown)) fun shown => mem_signs_append.mpr (Or.inl shown)

/-- The final record of a run that either made no contact or had an answer to it. -/
structure Classified (labels : List SignedLabel) (record : RunRecord) : Prop where
  last : lastCommitted (told labels) record.dispatch = some record
  ended : Ended record
  closes : closes record = true
  known : contacts (told labels) record.dispatch = 0 ∨ Accounted labels record.dispatch

structure Slots (labels : List SignedLabel) (store : Store) : Prop where
  taken : ∀ row ∈ store.reservations, (store.lookup row.dispatch).isSome = true
  named : ∀ sign ∈ signs labels, (store.lookup sign.dispatch).isSome = true
  settled : ∀ row ∈ store.reservations, row.active = false → ∃ record, record.dispatch = row.dispatch ∧ Classified labels record
  stopped : ∀ row ∈ store.reservations, Stopped labels row.dispatch → .concluded row.dispatch ∈ signs labels →
    row.active = false

/-- The record a run is about to retain. -/
structure Sound (labels : List SignedLabel) (record : RunRecord) : Prop where
  known : closes record = true → contacts (told labels) record.dispatch = 0 ∨ Accounted labels record.dispatch
  stopped : Stopped labels record.dispatch → closes record = true

def Stage (labels : List SignedLabel) : Phase host → Prop
  | .preparing _ record => ¬ Stopped labels record.dispatch
  | .starting _ _ record | .contacting _ _ record | .inFlight _ _ record => Open record ∧ ¬ Stopped labels record.dispatch
  | .finishing record => Sound labels record
  | .closing record => Sound labels record ∧ lastCommitted (told labels) record.dispatch = some record ∧ Ended record
  | .claiming _ | .finished => True

/-- What holds of a run that has neither crashed nor returned. -/
structure Standing (labels : List SignedLabel) (store : Store) (phase : Phase host) : Prop where
  active : ∀ row ∈ store.reservations, phase.owner = some row.dispatch → row.active = true
  unreturned : ∀ dispatch, phase.owner = some dispatch → .concluded dispatch ∉ signs labels
  stage : Stage labels phase

theorem Open.pinned {record : RunRecord} (opened : Open record) : closes record = false := by
  simp only [closes, Bool.and_eq_false_iff, Bool.not_eq_false']
  exact Or.inl (is_iff.mpr opened)

theorem closes_iff {record : RunRecord} : closes record = true ↔ ¬ Open record ∧
    (text "OUTCOME_UNKNOWN").isSuffixOf ((get record.members "state").text?.getD []) = false := by
  simp only [closes, Bool.and_eq_true, Bool.not_eq_true', Open, ← is_iff, Bool.not_eq_true]

/-- An assignment that leaves both states of the record alone. -/
theorem closes_ended (record : RunRecord) (now : Nanoseconds) : closes (record.assign (ended now)) = closes record := by
  simp [closes, RunRecord.assign, ended, update, get_set]

private theorem opened_excepted {record : RunRecord} (opened : Open record) {raised : Raised}
    (other : raised ≠ .responseOverBound) : Open (record.assign (excepted raised)) := by
  cases raised with
  | responseOverBound => exact absurd rfl other
  | localCancellation | timeout | other _ =>
    simp only [Open, RunRecord.assign, excepted, update, List.foldl_cons, List.foldl_nil, get_set]
    exact opened

private theorem closes_states {record : RunRecord} {contact state : String}
    (contacted : get record.members "contact_state" = .str (text contact)) (outcome : get record.members "state" = .str (text state))
    (other : contact ≠ "CONTACT_STARTED_OUTCOME_UNKNOWN") :
    closes record = !((text "OUTCOME_UNKNOWN").isSuffixOf (text state)) := by
  have differs : is (get record.members "contact_state") "CONTACT_STARTED_OUTCOME_UNKNOWN" = false := by
    rw [Bool.eq_false_iff, ne_eq, is_iff, contacted]
    simpa [text_inj] using other
  simp [closes, differs, outcome, text?]

private theorem closes_overBound (record : RunRecord) : closes (record.assign (excepted .responseOverBound)) = true := by
  rw [@closes_states _ "RESPONSE_OBSERVED" "RESPONSE_OVER_BOUND"]
  · decide
  · simp [RunRecord.assign, excepted, update, get_set]
  · simp [RunRecord.assign, excepted, update, get_set]
  · decide

private theorem closes_declined {submission : Submission host} {surroundings : Surroundings} {assignments : List Assignment}
    (prepared : prepare host submission surroundings [] = (.ok none, assignments)) (record : RunRecord) :
    closes (record.assignAll assignments) = true := by
  cases cancelled : surroundings.cancelledBefore with
  | error raised => simp [prepare, cancelled, Effect.bind_apply] at prepared
  | ok before =>
    cases before with
    | true =>
      simp only [prepare, cancelled, Attempt.assign, Effect.bind_apply, Effect.lift_ok, if_true, Effect.modify_apply,
        Effect.pure_apply, Prod.mk.injEq, true_and, List.nil_append] at prepared
      subst prepared
      rw [@closes_states _ "NOT_CONTACTED" "CANCELLED_BEFORE_CONTACT"]
      · decide
      · simp [RunRecord.assignAll, RunRecord.assign, update, get_set]
      · simp [RunRecord.assignAll, RunRecord.assign, update, get_set]
      · decide
    | false =>
      cases answer : surroundings.credential with
      | error raised => simp [prepare, cancelled, answer, Effect.bind_apply] at prepared
      | ok credential =>
        cases found : credential.filter usable with
        | none =>
          simp only [prepare, cancelled, answer, found, Attempt.assign, Effect.bind_apply, Effect.lift_ok, Bool.false_eq_true,
            if_false, Effect.modify_apply, Effect.pure_apply, Prod.mk.injEq, true_and, List.nil_append] at prepared
          subst prepared
          rw [@closes_states _ "NOT_CONTACTED" "AUTHENTICATION_UNAVAILABLE"]
          · decide
          · simp [RunRecord.assignAll, RunRecord.assign, update, get_set]
          · simp [RunRecord.assignAll, RunRecord.assign, update, get_set]
          · decide
        | some credential =>
          cases built : requestBody host submission with
          | error failure => simp [prepare, cancelled, answer, found, built, Attempt.lift, Except.mapError, Effect.bind_apply] at prepared
          | ok body => simp [prepare, cancelled, answer, found, built, Attempt.lift, Except.mapError, Effect.bind_apply] at prepared

/-- What a step does to the reservations: it adds its own, closes its own, or leaves them. -/
inductive SlotChange (host : Host) (store : Store) (phase : Phase host) (after : Store) (next : Phase host) : Prop
  | grown {new : List Reservation} : after.reservations = store.reservations ++ new →
      (∀ row ∈ new, row.active = true ∧ next.owner = some row.dispatch ∧ store.lookup row.dispatch = none) →
      SlotChange host store phase after next
  | closed {record : RunRecord} : phase = .closing record → closes record = true → next = .finished →
      after.reservations = store.reservations.map (Reservation.closed record.dispatch) → SlotChange host store phase after next

theorem slotChange {store after : Store} {phase next : Phase host} {label : Label}
    (step : Phase.Step store phase label after next) : SlotChange host store phase after next := by
  have kept {store after : Store} {phase next : Phase host} (same : after.reservations = store.reservations) :
      SlotChange host store phase after next := .grown (by simpa using same) fun _ listed => absurd listed List.not_mem_nil
  cases step with
  | opened claimed =>
    obtain ⟨row, opened⟩ := (Store.claim_meets _ _ _).returns claimed
    rcases opened.ledger with ⟨-, -, -, same⟩ | ⟨-, scope, config, -, -, grown⟩
    · exact kept same
    · refine .grown grown fun row listed => ?_
      obtain rfl := List.mem_singleton.mp listed
      exact ⟨rfl, congrArg some opened.named, opened.unknown⟩
  | found claimed =>
    obtain ⟨rfl, -⟩ := (Store.claim_meets _ _ _).returns claimed
    exact kept rfl
  | refused claimed =>
    obtain rfl := (Store.claim_meets _ _ _).raises claimed
    exact kept rfl
  | started updated | finished updated =>
    obtain ⟨raw, -, rfl⟩ := update_inv updated
    exact kept rfl
  | closed closes done =>
    cases done
    exact .closed rfl closes rfl rfl
  | prepared | declined | prepareInterrupted | startInterrupted | contacted | contactInterrupted | answered
  | answerInterrupted | crashed => exact kept rfl

/-- A sign of another dispatch is at most that its row was read. -/
theorem Phase.Signed.owned {store after : Store} {phase next : Phase host} {full : SignedLabel} {sign : Sign}
    (step : Phase.Signed store phase full after next) (shown : full.2 = some sign) :
    sign = .inspected sign.dispatch ∧ (store.lookup sign.dispatch).isSome = true ∨ phase.owner = some sign.dispatch := by
  cases step with
  | inspected claimed =>
    cases shown
    obtain ⟨-, row, found, -⟩ := (Store.claim_meets _ _ _).returns claimed
    exact Or.inl ⟨rfl, by simp [Sign.dispatch, found]⟩
  | untold | failed | unanswered | lost | releasedUnseen => cases shown
  | declined | raised | answered | polled | answerInterrupted | released | pinned | cut =>
    cases shown
    exact Or.inr rfl

/-- A step that is not about a dispatch. -/
structure Unmoved (labels : List SignedLabel) (full : SignedLabel) (dispatch : Text) : Prop where
  unused : contacts (told (labels ++ [full])) dispatch = contacts (told labels) dispatch
  last : lastCommitted (told (labels ++ [full])) dispatch = lastCommitted (told labels) dispatch
  read : ∀ sign, full.2 = some sign → sign.dispatch = dispatch → sign = .inspected dispatch

theorem unmoved {store after : Store} {phase next : Phase host} {full : SignedLabel} (labels : List SignedLabel)
    (step : Phase.Signed store phase full after next) {dispatch : Text} (before : phase.owner ≠ some dispatch)
    (later : next.owner ≠ some dispatch) : Unmoved labels full dispatch where
  unused := by
    rw [told_append]
    exact contacts_other fun shown => (label_owned step.step dispatch (Or.inl shown)).elim before later
  last := by
    rw [told_append]
    exact lastCommitted_other _ fun record shown same =>
      (label_owned step.step dispatch (Or.inr ⟨record, shown, same⟩)).elim before later
  read sign shown same := by
    rcases step.owned shown with ⟨read, -⟩ | owner
    · rwa [same] at read
    · exact absurd (same ▸ owner) before

/-- Nothing has happened to the dispatch of a process that waits. -/
theorem unmoved_idle (labels : List SignedLabel) (dispatch : Text) : Unmoved labels (.quiet, none) dispatch where
  unused := by rw [told_append, contacts_quiet]
  last := by rw [told_append]; exact lastCommitted_other _ nofun
  read := nofun

section Unmoved
variable {labels : List SignedLabel} {full : SignedLabel} {dispatch : Text}

theorem Unmoved.stopped (same : Unmoved labels full dispatch) :
    Stopped (labels ++ [full]) dispatch ↔ Stopped labels dispatch := by
  have none (sign : Sign) (named : sign.dispatch = dispatch) (other : sign ≠ .inspected dispatch) : full.2 ≠ some sign :=
    fun shown => other (same.read sign shown named)
  simp only [Stopped, mem_signs_append, none (.declined dispatch) rfl nofun,
    none (.raised dispatch .responseOverBound) rfl nofun, or_false]

theorem Unmoved.concluded (same : Unmoved labels full dispatch) :
    .concluded dispatch ∈ signs (labels ++ [full]) ↔ .concluded dispatch ∈ signs labels := by
  have none : full.2 ≠ some (.concluded dispatch) := fun shown => nomatch same.read _ shown rfl
  rw [mem_signs_append, or_iff_left none]

theorem Unmoved.known (same : Unmoved labels full dispatch)
    (known : contacts (told labels) dispatch = 0 ∨ Accounted labels dispatch) :
    contacts (told (labels ++ [full])) dispatch = 0 ∨ Accounted (labels ++ [full]) dispatch :=
  known.imp (fun none => same.unused.trans none) fun accounted => accounted.snoc full

theorem Unmoved.sound {record : RunRecord} (same : Unmoved labels full record.dispatch) (sound : Sound labels record) :
    Sound (labels ++ [full]) record where
  known closes := same.known (sound.known closes)
  stopped stopped := sound.stopped (same.stopped.mp stopped)

theorem Unmoved.classified {record : RunRecord} (same : Unmoved labels full record.dispatch)
    (classified : Classified labels record) : Classified (labels ++ [full]) record where
  last := same.last.trans classified.last
  ended := classified.ended
  closes := classified.closes
  known := same.known classified.known

theorem Unmoved.stage {phase : Phase host} (same : ∀ dispatch, phase.owner = some dispatch → Unmoved labels full dispatch)
    (stage : Stage labels phase) : Stage (labels ++ [full]) phase := by
  cases phase with
  | claiming | finished => trivial
  | preparing _ record => exact fun stopped => stage ((same _ rfl).stopped.mp stopped)
  | starting _ _ record | contacting _ _ record | inFlight _ _ record =>
    exact ⟨stage.1, fun stopped => stage.2 ((same _ rfl).stopped.mp stopped)⟩
  | finishing record => exact (same _ rfl).sound stage
  | closing record => exact ⟨(same _ rfl).sound stage.1, (same _ rfl).last.trans stage.2.1, stage.2.2⟩

end Unmoved

private theorem slots_step {labels : List SignedLabel} {store after : Store} {phase next : Phase host} {full : SignedLabel}
    (slots : Slots labels store) (standing : Standing labels store phase)
    (owned : ∀ dispatch, phase.owner = some dispatch → (store.lookup dispatch).isSome = true)
    (step : Phase.Signed store phase full after next) : Slots (labels ++ [full]) after := by
  have lasting : ∀ dispatch, (store.lookup dispatch).isSome = true → (after.lookup dispatch).isSome = true :=
    signedCustody.lasting _ _ _ _ _ step
  have acquires : ∀ dispatch, next.owner = some dispatch → phase.owner = some dispatch ∨
      ¬ (store.lookup dispatch).isSome = true ∧ (after.lookup dispatch).isSome = true := signedCustody.acquires _ _ _ _ _ step
  have others : ∀ dispatch, (store.lookup dispatch).isSome = true → phase.owner ≠ some dispatch →
      Unmoved labels full dispatch := fun dispatch taken differs =>
    unmoved labels step differs fun owner => (acquires dispatch owner).elim differs fun fresh => fresh.1 taken
  have settled : ∀ row ∈ store.reservations, row.active = false →
      ∃ record, record.dispatch = row.dispatch ∧ Classified (labels ++ [full]) record := by
    intro row listed inactive
    obtain ⟨record, same, classified⟩ := slots.settled row listed inactive
    have differs : phase.owner ≠ some row.dispatch := fun owner => by
      have active := standing.active row listed owner
      simp [inactive] at active
    exact ⟨record, same, (same ▸ others _ (slots.taken row listed) differs).classified classified⟩
  have returning : ∀ dispatch, full.2 = some (.concluded dispatch) → phase.owner = some dispatch := by
    intro dispatch shown
    rcases step.owned shown with ⟨read, -⟩ | owner
    · cases read
    · exact owner
  have stopped : ∀ row ∈ store.reservations, phase.owner ≠ some row.dispatch → Stopped (labels ++ [full]) row.dispatch →
      .concluded row.dispatch ∈ signs (labels ++ [full]) → row.active = false := by
    intro row listed differs stopped concluded
    have same := others _ (slots.taken row listed) differs
    exact slots.stopped row listed (same.stopped.mp stopped) (same.concluded.mp concluded)
  refine ⟨?_, ?_, ?_, ?_⟩
  · intro row listed
    cases slotChange step.step with
    | grown grown new =>
      rw [grown] at listed
      rcases List.mem_append.mp listed with listed | listed
      · exact lasting _ (slots.taken row listed)
      · obtain ⟨-, owner, unknown⟩ := new row listed
        rcases acquires _ owner with before | ⟨-, taken⟩
        · exact lasting _ (owned _ before)
        · exact taken
    | closed _ _ _ same =>
      rw [same] at listed
      obtain ⟨before, present, rfl⟩ := List.mem_map.mp listed
      rw [Reservation.closed_dispatch]
      exact lasting _ (slots.taken before present)
  · intro sign listed
    rcases mem_signs_append.mp listed with listed | shown
    · exact lasting _ (slots.named sign listed)
    · rcases step.owned shown with ⟨-, taken⟩ | owner
      · exact lasting _ taken
      · exact lasting _ (owned _ owner)
  · intro row listed inactive
    cases slotChange step.step with
    | grown grown new =>
      rw [grown] at listed
      rcases List.mem_append.mp listed with listed | listed
      · exact settled row listed inactive
      · have active := (new row listed).1
        simp [inactive] at active
    | @closed record stands closes unowned same =>
      rw [same] at listed
      obtain ⟨before, present, rfl⟩ := List.mem_map.mp listed
      rw [Reservation.closed_dispatch]
      by_cases mine : before.dispatch = record.dispatch
      · subst stands
        obtain ⟨sound, last, ended⟩ := standing.stage
        have idle : full.1 = .quiet := by
          cases step with
          | untold flies => cases flies
          | released | releasedUnseen | pinned | cut => rfl
        refine ⟨record, mine.symm, ?_, ended, closes, ?_⟩
        · rw [told_append, idle]
          exact (@lastCommitted_other _ .quiet _ nofun).trans last
        · rw [told_append, idle, contacts_quiet]
          exact (sound.known closes).imp_right fun accounted => accounted.snoc _
      · rw [Reservation.closed, if_neg mine] at inactive
        exact settled before present inactive
  · intro row listed halted concluded
    have mine : ∀ before ∈ store.reservations, before.dispatch = row.dispatch → phase.owner = some row.dispatch →
        row.active = false := by
      intro before _ _ owner
      rcases mem_signs_append.mp concluded with shown | shown
      · exact absurd shown (standing.unreturned _ owner)
      · have known : Stopped labels row.dispatch := by
          simpa only [Stopped, mem_signs_append, shown, Option.some.injEq, reduceCtorEq, or_false] using halted
        cases step with
        | @released _ record _ closed =>
          have same : record.dispatch = row.dispatch := Option.some.inj owner
          cases closed
          obtain ⟨before, -, rfl⟩ := List.mem_map.mp listed
          rw [Reservation.closed_dispatch] at same
          rw [Reservation.closed, if_pos same.symm]
        | @pinned record open_ =>
          have same : record.dispatch = row.dispatch := Option.some.inj owner
          have closes := standing.stage.1.stopped (same ▸ known)
          simp [open_] at closes
        | untold | declined | raised | answered | failed | polled | answerInterrupted | unanswered | lost
        | releasedUnseen | cut | inspected => cases shown
    cases slotChange step.step with
    | grown grown new =>
      rw [grown] at listed
      rcases List.mem_append.mp listed with listed | fresh
      · by_cases owner : phase.owner = some row.dispatch
        · exact mine row listed rfl owner
        · exact stopped row listed owner halted concluded
      · obtain ⟨-, -, unknown⟩ := new row fresh
        rcases mem_signs_append.mp concluded with shown | shown
        · have taken := slots.named _ shown
          simp [Sign.dispatch, unknown] at taken
        · have taken := owned _ (returning _ shown)
          simp [unknown] at taken
    | @closed record stands closes unowned same =>
      rw [same] at listed
      obtain ⟨before, present, rfl⟩ := List.mem_map.mp listed
      rw [Reservation.closed_dispatch] at halted concluded mine
      by_cases owner : phase.owner = some before.dispatch
      · exact mine before present rfl owner
      · have inactive := stopped before present owner halted concluded
        rw [Reservation.closed, if_neg fun same => owner (by rw [stands, Phase.owner, same])]
        exact inactive

private theorem stage_step {labels : List SignedLabel} {store after : Store} {phase next : Phase host} {full : SignedLabel}
    (slots : Slots labels store) (standing : Standing labels store phase)
    (unused : ∀ dispatch, phase.armed = some dispatch → contacts (told labels) dispatch = 0)
    (step : Phase.Signed store phase full after next) : Stage (labels ++ [full]) next := by
  have idle (dispatch : Text) : Unmoved labels (.quiet, none) dispatch := unmoved_idle labels dispatch
  have stays (record : RunRecord) : contacts (told (labels ++ [(.committed record, none)])) record.dispatch =
      contacts (told labels) record.dispatch := by
    rw [told_append, contacts_committed]
  have untold {label : Label} (dispatch : Text) : Stopped (labels ++ [(label, none)]) dispatch → Stopped labels dispatch := by
    simp [Stopped, mem_signs_append]
  have reported {label : Label} {dispatch : Text} :
      Stopped (labels ++ [(label, some (.reported dispatch))]) dispatch → Stopped labels dispatch := by
    simp [Stopped, mem_signs_append]
  have interposed {label : Label} {dispatch : Text} {raised : Raised} :
      Stopped (labels ++ [(label, some (.polled dispatch raised))]) dispatch → Stopped labels dispatch := by
    simp [Stopped, mem_signs_append]
  have stage := standing.stage
  cases step with
  | untold flies step =>
    cases step with
    | opened claimed =>
      obtain ⟨row, opened⟩ := (Store.claim_meets _ _ _).returns claimed
      rintro stopped
      have taken := (untold _ stopped).elim (slots.named _) (slots.named _)
      simp [Sign.dispatch, opened.named, opened.unknown] at taken
    | found | refused | crashed | closed => trivial
    | prepared =>
      exact ⟨by simp [Open, RunRecord.assign, contactStarted, update, get_set],
        fun stopped => stage (by simpa using untold _ stopped)⟩
    | declined | prepareInterrupted =>
      exact ⟨fun _ => Or.inl ((idle _).unused.trans (unused _ (by simp [Phase.armed]))),
        fun stopped => absurd (untold _ stopped) (by simpa [Stage] using stage)⟩
    | started => exact ⟨stage.1, fun stopped => stage.2 (untold _ stopped)⟩
    | startInterrupted | contactInterrupted =>
      exact ⟨fun _ => Or.inl ((idle _).unused.trans (unused _ (by simp [Phase.armed]))),
        fun stopped => absurd (untold _ stopped) (by simpa [Stage] using stage.2)⟩
    | contacted => exact ⟨stage.1, fun stopped => stage.2 (untold _ stopped)⟩
    | answered | answerInterrupted => cases flies
    | @finished _ record now _ =>
      refine ⟨⟨fun closes => ?_, fun stopped => ?_⟩, ?_, unixMs now, ?_⟩
      · rw [closes_ended] at closes
        rw [stays]
        exact (stage.known closes).imp_right fun accounted => accounted.snoc _
      · rw [closes_ended]
        exact stage.stopped (untold _ stopped)
      · rw [told_append, lastCommitted_committed, if_pos rfl]
      · simp [RunRecord.assign, ended, update, get_set]
  | inspected | lost | released | releasedUnseen | pinned | cut => trivial
  | declined prepared =>
    refine ⟨fun _ => Or.inl ?_, fun _ => closes_declined prepared _⟩
    rw [told_append, contacts_quiet]
    exact unused _ (by simp [Phase.armed])
  | @raised submission record surroundings raised raises =>
    refine ⟨fun _ => Or.inl ?_, fun stopped => ?_⟩
    · rw [told_append, contacts_quiet]
      exact unused _ (by simp [Phase.armed])
    · rcases stopped with shown | shown
      · rcases mem_signs_append.mp shown with shown | shown
        · exact absurd (Or.inl shown) stage
        · cases shown
      · rcases mem_signs_append.mp shown with shown | shown
        · exact absurd (Or.inr shown) stage
        · cases shown
          exact closes_overBound record
  | answered | answerInterrupted =>
    refine ⟨fun _ => Or.inr (Or.inl (mem_signs_append.mpr (Or.inr (by simp)))), fun stopped => ?_⟩
    exact absurd (reported (by simpa using stopped)) (by simpa [Stage] using stage.2)
  | @failed submission credential record surroundings asked told =>
    refine ⟨fun closes => ?_, fun stopped => absurd (untold _ stopped) (by simpa [Stage] using stage.2)⟩
    cases outcome : surroundings.reply with
    | ok response => simp [outcome, reports] at told
    | error raised =>
      have other : raised ≠ .responseOverBound := by
        rintro rfl
        simp [outcome, reports] at told
      have pinned := (opened_excepted stage.1 other).pinned
      simp [answered, Surroundings.transport_replied asked, outcome, pinned] at closes
  | @polled submission credential record surroundings raised asked =>
    refine ⟨fun closes => ?_, fun stopped => ?_⟩
    · by_cases bounded : raised = .responseOverBound
      · subst bounded
        exact Or.inr (Or.inr (mem_signs_append.mpr (Or.inr (by simp))))
      · have pinned := (opened_excepted stage.1 bounded).pinned
        simp [answered, Surroundings.transport_polled asked, pinned] at closes
    · exact absurd (interposed (by simpa using stopped)) (by simpa [Stage] using stage.2)
  | unanswered =>
    refine ⟨fun closes => ?_, fun stopped => absurd (untold _ stopped) stage.2⟩
    simp [stage.1.pinned] at closes

/-- Every step keeps the slots and what each standing run relies on. -/
theorem slots_kept : Pool.Discipline.Kept (@signedCustody host) Slots Standing where
  idles labels store slots := by
    have idle := unmoved_idle labels
    refine ⟨slots.taken, fun sign shown => ?_, fun row listed inactive => ?_, fun row listed halted concluded => ?_⟩
    · exact slots.named sign ((mem_signs_append.mp shown).resolve_right nofun)
    · obtain ⟨record, same, classified⟩ := slots.settled row listed inactive
      exact ⟨record, same, (idle _).classified classified⟩
    · exact slots.stopped row listed ((idle _).stopped.mp halted) ((idle _).concluded.mp concluded)
  waits labels store phase standing := {
    active := standing.active
    unreturned := fun dispatch owner concluded =>
      standing.unreturned dispatch owner ((unmoved_idle labels dispatch).concluded.mp concluded)
    stage := Unmoved.stage (fun dispatch _ => unmoved_idle labels dispatch) standing.stage }
  newborn labels store phase born := by
    obtain ⟨submission, rfl⟩ := born
    exact ⟨nofun, nofun, trivial⟩
  acts labels pool exclusive slots phase listed standing full after next step := by
    have owned : ∀ dispatch, phase.owner = some dispatch → (pool.store.lookup dispatch).isSome = true :=
      exclusive.owned phase listed
    have acquires : ∀ dispatch, next.owner = some dispatch → phase.owner = some dispatch ∨
        ¬ (pool.store.lookup dispatch).isSome = true ∧ (after.lookup dispatch).isSome = true :=
      signedCustody.acquires _ _ _ _ _ step
    refine ⟨slots_step slots standing owned step, fun row present owner => ?_, fun dispatch owner concluded => ?_, ?_⟩
    · cases slotChange step.step with
      | grown grown new =>
        rw [grown] at present
        rcases List.mem_append.mp present with present | fresh
        · rcases acquires _ owner with before | ⟨free, -⟩
          · exact standing.active row present before
          · exact absurd (slots.taken row present) free
        · exact (new row fresh).1
      | closed _ _ unowned _ =>
        rw [unowned] at owner
        cases owner
    · rcases mem_signs_append.mp concluded with shown | shown
      · rcases acquires _ owner with before | ⟨free, -⟩
        · exact standing.unreturned _ before shown
        · exact free (slots.named _ shown)
      · cases step with
        | released | pinned => cases owner
        | untold | declined | raised | answered | failed | polled | answerInterrupted | unanswered | lost
        | releasedUnseen | cut | inspected => cases shown
    · refine stage_step slots standing (fun dispatch armed => ?_) step
      rw [contacts, told, List.countP_map]
      exact exclusive.unused phase listed dispatch armed
  apart labels pool exclusive phase listed full after next step other present apart standing := by
    have same : ∀ dispatch, other.owner = some dispatch → Unmoved labels full dispatch := fun dispatch owner =>
      unmoved labels step (fun mine => apart dispatch (Or.inl mine) owner) fun mine => apart dispatch (Or.inr mine) owner
    refine ⟨fun row member owner => ?_, fun dispatch owner concluded => ?_, Unmoved.stage same standing.stage⟩
    · cases slotChange step.step with
      | grown grown new =>
        rw [grown] at member
        rcases List.mem_append.mp member with member | fresh
        · exact standing.active row member owner
        · exact (new row fresh).1
      | @closed record stands _ _ same =>
        rw [same] at member
        obtain ⟨before, listed, rfl⟩ := List.mem_map.mp member
        rw [Reservation.closed_dispatch] at owner
        have differs : before.dispatch ≠ record.dispatch := fun mine =>
          apart before.dispatch (Or.inl (by rw [stands, mine]; rfl)) owner
        rw [Reservation.closed, if_neg differs]
        exact standing.active before listed owner
    · exact standing.unreturned dispatch owner ((same dispatch owner).concluded.mp concluded)

theorem slots_run {labels : List SignedLabel} {runs : Runs host} (run : Run Runs.SignedStep Runs.initial labels runs) :
    Slots labels runs.store ∧ ∀ phase ∈ runs.processes, Standing labels runs.store phase := by
  refine Pool.Discipline.kept_run slots_kept ⟨?_, ?_, ?_, ?_⟩ run
  all_goals
    intro _ listed
    cases listed

/-- What a reservation may become. -/
structure Outlives (row later : Reservation) : Prop where
  dispatch : later.dispatch = row.dispatch
  budget : later.budget = row.budget
  reservedMicros : later.reservedMicros = row.reservedMicros
  closed : row.active = false → later.active = false

private theorem outlives_step {before after : Runs host} {full : SignedLabel} (step : Runs.SignedStep before full after)
    {index : Nat} {row : Reservation} (found : before.store.reservations[index]? = some row) :
    ∃ later, after.store.reservations[index]? = some later ∧ Outlives row later := by
  cases step with
  | birth => exact ⟨row, found, rfl, rfl, rfl, id⟩
  | act _ acted =>
    cases slotChange acted.step with
    | grown grown _ =>
      refine ⟨row, ?_, rfl, rfl, rfl, id⟩
      rw [grown, List.getElem?_append_left (List.getElem?_eq_some_iff.mp found).1]
      exact found
    | @closed record _ _ _ same =>
      refine ⟨row.closed record.dispatch, by rw [same, List.getElem?_map, found]; rfl, ?_, ?_, ?_, fun inactive => ?_⟩
      · exact row.closed_dispatch _
      · exact row.closed_budget _
      · exact row.closed_reservedMicros _
      · by_contra active
        simp [Reservation.active_of_closed (Bool.eq_true_of_not_eq_false active)] at inactive

theorem outlives_run {labels : List SignedLabel} {before after : Runs host}
    (run : Run Runs.SignedStep before labels after) {index : Nat} {row : Reservation}
    (found : before.store.reservations[index]? = some row) :
    ∃ later, after.store.reservations[index]? = some later ∧ Outlives row later := by
  refine run.keeps (fun runs => ∃ later, runs.store.reservations[index]? = some later ∧ Outlives row later)
    ⟨row, found, rfl, rfl, rfl, id⟩ fun before full after held step => ?_
  obtain ⟨middle, found, first⟩ := held
  obtain ⟨later, found, second⟩ := outlives_step step found
  exact ⟨later, found, second.dispatch.trans first.dispatch, second.budget.trans first.budget,
    second.reservedMicros.trans first.reservedMicros, fun inactive => second.closed (first.closed inactive)⟩

/-- The run of a dispatch is over, and what it retained says how its contact ended. -/
structure Settled (labels : List SignedLabel) (runs : Runs host) (dispatch : Text) : Prop where
  finished : ∀ phase ∈ runs.processes, phase.owner ≠ some dispatch
  retained : ∃ row record, runs.store.lookup dispatch = some row ∧ canonical host (.obj record.members) = .ok row.record ∧
    Ended record ∧ ¬ Open record ∧ (text "OUTCOME_UNKNOWN").isSuffixOf ((get record.members "state").text?.getD []) = false
  known : contacts (told labels) dispatch = 0 ∨ .reported dispatch ∈ signs labels

structure SlotSafe (labels : List SignedLabel) (runs : Runs host) : Prop where
  released : ∀ row ∈ runs.store.reservations, row.active = false → Settled labels runs row.dispatch
  lasting : ∀ later after, Run Runs.SignedStep runs later after → ∀ (index : Nat) row,
    runs.store.reservations[index]? = some row → ∃ outlived, after.store.reservations[index]? = some outlived ∧
      Outlives row outlived

def Store.Reserves (store : Store) (dispatch : Text) : Prop := ∃ row ∈ store.reservations, row.dispatch = dispatch

theorem reserves_before {before after : Runs host} {full : SignedLabel}
    (step : Runs.SignedStep before full after) {dispatch : Text} (taken : (before.store.lookup dispatch).isSome = true)
    (reserves : after.store.Reserves dispatch) : before.store.Reserves dispatch := by
  obtain ⟨row, listed, rfl⟩ := reserves
  cases step with
  | birth => exact ⟨row, listed, rfl⟩
  | act _ acted =>
    cases slotChange acted.step with
    | grown grown new =>
      rw [grown] at listed
      rcases List.mem_append.mp listed with listed | fresh
      · exact ⟨row, listed, rfl⟩
      · simp [(new row fresh).2.2] at taken
    | closed _ _ _ same =>
      rw [same] at listed
      obtain ⟨old, present, rfl⟩ := List.mem_map.mp listed
      exact ⟨old, present, (old.closed_dispatch _).symm⟩

/-- A sign is about a dispatch whose run row is in the store. -/
theorem sign_taken {labels : List SignedLabel} {before after : Runs host} {full : SignedLabel} {sign : Sign}
    (early : Run Runs.SignedStep Runs.initial labels before) (step : Runs.SignedStep before full after)
    (shown : full.2 = some sign) : (before.store.lookup sign.dispatch).isSome = true := by
  have exclusive : signedCustody.Exclusive labels before := Pool.Discipline.exclusive_run early
  cases step with
  | birth => cases shown
  | act found acted =>
    rcases acted.owned shown with ⟨-, taken⟩ | owner
    · exact taken
    · exact exclusive.owned _ (List.mem_of_getElem? found) _ owner

/-- The callback that the loop of the transport polls raises `ResponseOverBound`. The exception passes
through the transport as if the response had been too long, and nothing marks where it came from. -/
def Misreporting (runs : Runs host) : SignedLabel → Prop
  | (_, some (.polled dispatch .responseOverBound)) => runs.store.Reserves dispatch
  | _ => False

abbrev Runs.Candid (labels : List SignedLabel) (runs : Runs host) : Prop :=
  Run.Within Runs.SignedStep (fun _ before full => ¬ Misreporting before full) Runs.initial labels runs

/-- Without such a poll no dispatch that holds a slot has one. -/
theorem candid_run {labels : List SignedLabel} {runs : Runs host} (candid : runs.Candid labels) :
    ∀ dispatch, .polled dispatch .responseOverBound ∈ signs labels → ¬ runs.store.Reserves dispatch := by
  refine candid.invariant (fun labels runs => ∀ dispatch, .polled dispatch .responseOverBound ∈ signs labels →
    ¬ runs.store.Reserves dispatch) nofun fun labels before full after early absent step fine => ?_
  intro dispatch shown reserves
  obtain ⟨slots, -⟩ := slots_run early.run
  rcases mem_signs_append.mp shown with shown | shown
  · exact absent dispatch shown (reserves_before step (slots.named _ shown) reserves)
  · have taken := sign_taken early.run step shown
    obtain ⟨label, sign⟩ := full
    cases shown
    exact fine (reserves_before step taken reserves)

/-- In every history of runs without such a poll, wherever they crash or are interrupted, a slot is
released only when the outcome of its dispatch is known, and never taken again. -/
theorem slot_release_safety {labels : List SignedLabel} {runs : Runs host} (candid : runs.Candid labels) :
    SlotSafe labels runs := by
  have history := candid.run
  obtain ⟨slots, standing⟩ := slots_run history
  obtain ⟨retention, -⟩ := retention_run (signed_run.mpr ⟨labels, rfl, history⟩)
  refine ⟨fun row listed inactive => ?_, fun later after run index row found => outlives_run run found⟩
  obtain ⟨record, same, classified⟩ := slots.settled row listed inactive
  obtain ⟨retained, found⟩ := Option.isSome_iff_exists.mp (slots.taken row listed)
  obtain ⟨last, committed, encoded⟩ := retention.rows _ _ found
  have known := classified.known
  rw [same] at known
  have reported (accounted : Accounted labels row.dispatch) : .reported row.dispatch ∈ signs labels :=
    accounted.resolve_right fun shown => candid_run candid _ shown ⟨row, listed, rfl⟩
  refine ⟨fun phase present owner => ?_, ⟨retained, record, found, ?_, classified.ended, ?_, ?_⟩, known.imp_right reported⟩
  · have active := (standing phase present).active row listed owner
    simp [inactive] at active
  · have kept := classified.last
    rw [same] at kept
    cases kept.symm.trans committed
    exact encoded
  · exact (closes_iff.mp classified.closes).1
  · exact (closes_iff.mp classified.closes).2

theorem sample_opens : Phase.Signed Store.empty (.claiming sampleSubmission) (.committed sampleClaimed, none) sampleStore
    (.preparing sampleSubmission sampleClaimed) := .untold rfl (.opened sample_fresh)

/-- One more step of the only run there is. -/
theorem signed_alone {labels : List SignedLabel} {store after : Store} {phase next : Phase host} {full : SignedLabel}
    (early : Run Runs.SignedStep Runs.initial labels ⟨store, [phase]⟩) (step : Phase.Signed store phase full after next) :
    Run Runs.SignedStep Runs.initial (labels ++ [full]) ⟨after, [next]⟩ :=
  early.snoc (@Pool.Step.act _ _ _ _ _ _ _ _ _ 0 _ _ _ rfl step)

theorem signed_birth (submission : Submission host) :
    Run Runs.SignedStep Runs.initial [(.quiet, none)] ⟨Store.empty, [.claiming submission]⟩ :=
  Run.nil.snoc (.birth ⟨submission, rfl⟩)

/-- One more step of the only run there is, within what a history may do. -/
theorem within_alone {allowed : List SignedLabel → Runs host → SignedLabel → Prop} {labels : List SignedLabel}
    {store after : Store} {phase next : Phase host} {full : SignedLabel}
    (early : Run.Within Runs.SignedStep allowed Runs.initial labels ⟨store, [phase]⟩)
    (step : Phase.Signed store phase full after next) (fine : allowed labels ⟨store, [phase]⟩ full) :
    Run.Within Runs.SignedStep allowed Runs.initial (labels ++ [full]) ⟨after, [next]⟩ :=
  early.snoc (@Pool.Step.act _ _ _ _ _ _ _ _ _ 0 _ _ _ rfl step) fine

/-- The final record of a run whose provider has answered, and the store that retains it. -/
def sampleAnswered : RunRecord :=
  (answered sampleHost sampleSubmission.request (text "k") (sampleSurroundings sampleAnswer) sampleStarted).assign (ended 0)

def sampleCompleted : Store := (Store.update sampleHost sampleAnswered sampleUpdated).2

def sampleReleased : Store := (Store.closeConcurrencySlot sampleAnswered sampleCompleted).2

/-- A run up to the contact, as every history below begins. -/
def sampleFlight : List SignedLabel :=
  [(.quiet, none), (.committed sampleClaimed, none), (.quiet, none), (.committed sampleStarted, none),
    (.contacted sampleStarted.dispatch, none)]

theorem sample_flies : Runs.Candid sampleFlight
    (⟨sampleUpdated, [.inFlight sampleSubmission (text "k") sampleStarted]⟩ : Runs sampleHost) := by
  obtain ⟨body, prepared⟩ := sample_prepared
  have ready : Phase.Signed sampleStore (.preparing sampleSubmission sampleClaimed) (.quiet, none) sampleStore
      (.starting sampleSubmission (text "k") sampleStarted) := .untold rfl (.prepared prepared)
  have started : Phase.Signed sampleStore (.starting sampleSubmission (text "k") sampleStarted)
      (.committed sampleStarted, none) sampleUpdated (.contacting sampleSubmission (text "k") sampleStarted) :=
    .untold rfl (.started sample_started)
  have sent : Phase.Signed sampleUpdated (.contacting sampleSubmission (text "k") sampleStarted)
      (.contacted sampleStarted.dispatch, none) sampleUpdated (.inFlight sampleSubmission (text "k") sampleStarted) :=
    .untold rfl .contacted
  have claiming : Runs.Candid [(.quiet, none)] ⟨Store.empty, [.claiming sampleSubmission]⟩ :=
    Run.Within.nil.snoc (.birth ⟨sampleSubmission, rfl⟩) id
  exact within_alone (within_alone (within_alone (within_alone claiming sample_opens id) ready id) started id) sent id

theorem sample_completed : Store.update sampleHost sampleAnswered sampleUpdated = (.ok (), sampleCompleted) := by
  have stored : (Store.update sampleHost sampleAnswered sampleUpdated).1 = .ok () := by decide +kernel
  exact Prod.ext stored (by simp only [sampleCompleted])

theorem slot_release_safety_sample :
    SlotSafe (sampleFlight ++ [(.quiet, some (.reported sampleStarted.dispatch))] ++ [(.committed sampleAnswered, none)] ++
      [(.quiet, some (.concluded sampleAnswered.dispatch))]) (⟨sampleReleased, [.finished]⟩ : Runs sampleHost) ∧
    sampleReleased.reservations.map Reservation.active = [false] := by
  have finished : Phase.Signed sampleUpdated (.finishing _) (.committed sampleAnswered, none) sampleCompleted
      (@Phase.closing sampleHost sampleAnswered) := .untold rfl (.finished sample_completed)
  have released : Phase.Signed sampleCompleted (.closing sampleAnswered)
      (.quiet, some (.concluded sampleAnswered.dispatch)) sampleReleased (@Phase.finished sampleHost) :=
    .released (by decide +kernel) rfl
  have answered := within_alone sample_flies
    (@Phase.Signed.answered _ _ _ _ _ (sampleSurroundings sampleAnswer) rfl rfl) id
  exact ⟨slot_release_safety (within_alone (within_alone answered finished id) released id), by decide +kernel⟩

/-- The callback does not ask for cancellation at the first poll and raises at the second. -/
def samplePolled : Surroundings :=
  ⟨.ok false, .ok (some (text "k")), [.ok false, .error .responseOverBound], .error .timeout, .ok false⟩

def sampleMisread : RunRecord :=
  (answered sampleHost sampleSubmission.request (text "k") samplePolled sampleStarted).assign (ended 0)

def sampleMisled : Store := (Store.update sampleHost sampleMisread sampleUpdated).2

def sampleForfeited : Store := (Store.closeConcurrencySlot sampleMisread sampleMisled).2

/-- Nothing has come back from the provider, the record says that the response was too long, and the
slot is free for the next dispatch. -/
theorem slot_release_safety_polled : ∃ labels, Run Runs.SignedStep Runs.initial labels
      (⟨sampleForfeited, [.finished]⟩ : Runs sampleHost) ∧
    contacts (told labels) sampleSubmission.dispatch = 1 ∧ .reported sampleSubmission.dispatch ∉ signs labels ∧
    sampleForfeited.reservations.map (fun row => (row.dispatch, row.active)) = [(sampleSubmission.dispatch, false)] ∧
    ¬ SlotSafe labels (⟨sampleForfeited, [.finished]⟩ : Runs sampleHost) := by
  have updated : Store.update sampleHost sampleMisread sampleUpdated = (.ok (), sampleMisled) := by
    have stored : (Store.update sampleHost sampleMisread sampleUpdated).1 = .ok () := by decide +kernel
    exact Prod.ext stored (by simp only [sampleMisled])
  have finished : Phase.Signed sampleUpdated (.finishing _) (.committed sampleMisread, none) sampleMisled
      (@Phase.closing sampleHost sampleMisread) := .untold rfl (.finished updated)
  have released : Phase.Signed sampleMisled (.closing sampleMisread)
      (.quiet, some (.concluded sampleMisread.dispatch)) sampleForfeited (@Phase.finished sampleHost) :=
    .released (by decide) rfl
  have polled := signed_alone sample_flies.run (@Phase.Signed.polled _ _ _ _ _ samplePolled .responseOverBound rfl)
  have rows : sampleForfeited.reservations.map (fun row => (row.dispatch, row.active)) =
      [(sampleSubmission.dispatch, false)] := by decide +kernel
  have once : sampleStarted.dispatch = sampleSubmission.dispatch := by simp [sampleStarted, sampleClaimed]
  refine ⟨_, signed_alone (signed_alone polled finished) released, ?_, ?_, rows, fun safe => ?_⟩
  · simp [sampleFlight, told, contacts, Label.contact, once]
  · simp [sampleFlight, signs]
  · obtain ⟨row, listed, pair⟩ := List.mem_map.mp (rows ▸ List.mem_singleton_self _)
    have settled := safe.released row listed (congrArg Prod.snd pair)
    have same : row.dispatch = sampleSubmission.dispatch := congrArg Prod.fst pair
    rcases settled.known with none | shown
    · simp [same, sampleFlight, told, contacts, Label.contact, once] at none
    · simp [same, sampleFlight, signs] at shown

end Switchyard.DirectApi
