import Switchyard.DirectApi.Ledger
import Switchyard.DirectApi.Run
import Switchyard.Library.Pool

/-! Any number of runs over one store, each of which may crash or be interrupted
anywhere: the provider is contacted at most once per dispatch. -/

namespace Switchyard.DirectApi
open Library Json

variable {host : Host}

/-- Where a run stands. From `preparing` on it owns its dispatch. -/
inductive Phase (host : Host)
  | claiming (submission : Submission host)
  | preparing (submission : Submission host) (record : RunRecord)
  | starting (submission : Submission host) (credential : Text) (record : RunRecord)
  | contacting (submission : Submission host) (credential : Text) (record : RunRecord)
  | inFlight (submission : Submission host) (credential : Text) (record : RunRecord)
  | finishing (record : RunRecord)
  | closing (record : RunRecord)
  | finished

/-- What a step shows: a committed record, the invocation of the transport, or nothing. -/
inductive Label
  | committed (record : RunRecord)
  | contacted (dispatch : Text)
  | quiet

/-- An interruption of the `try` body, by an exception with a handler or without one. -/
def RunRecord.interrupted (record : RunRecord) : Option Raised → RunRecord
  | some raised => record.assign (excepted raised)
  | none => record

@[simp] theorem RunRecord.interrupted_dispatch (record : RunRecord) (raised : Option Raised) :
    (record.interrupted raised).dispatch = record.dispatch := by
  cases raised <;> rfl

/-- One step of one run. Whatever may raise may also be interrupted, before or
after any of its assignments, and any run may crash. -/
inductive Phase.Step : Store → Phase host → Label → Store → Phase host → Prop
  | opened {store after : Store} {submission : Submission host} {now : Nanoseconds} {record : RunRecord} :
      Store.claim host submission now store = (.ok (.fresh record), after) →
      Phase.Step store (.claiming submission) (.committed record) after (.preparing submission record)
  | found {store after : Store} {submission : Submission host} {now : Nanoseconds} {value : Json} :
      Store.claim host submission now store = (.ok (.retained value), after) →
      Phase.Step store (.claiming submission) .quiet after .finished
  | refused {store after : Store} {submission : Submission host} {now : Nanoseconds} {failure : Failure} :
      Store.claim host submission now store = (.error failure, after) →
      Phase.Step store (.claiming submission) .quiet after .finished
  | prepared {store : Store} {submission : Submission host} {record : RunRecord} {surroundings : Surroundings}
      {body : Bytes} {credential : Text} {assignments : List Assignment} :
      prepare host submission surroundings [] = (.ok (some (body, credential)), assignments) →
      Phase.Step store (.preparing submission record) .quiet store
        (.starting submission credential ((record.assignAll assignments).assign contactStarted))
  | declined {store : Store} {submission : Submission host} {record : RunRecord} {surroundings : Surroundings}
      {assignments : List Assignment} :
      prepare host submission surroundings [] = (.ok none, assignments) →
      Phase.Step store (.preparing submission record) .quiet store (.finishing (record.assignAll assignments))
  | prepareInterrupted {store : Store} {submission : Submission host} {record : RunRecord} {surroundings : Surroundings}
      {count : Nat} {raised : Option Raised} :
      Phase.Step store (.preparing submission record) .quiet store
        (.finishing ((record.assignAll ((prepare host submission surroundings []).2.take count)).interrupted raised))
  | started {store after : Store} {submission : Submission host} {credential : Text} {record : RunRecord} :
      Store.update host record store = (.ok (), after) →
      Phase.Step store (.starting submission credential record) (.committed record) after
        (.contacting submission credential record)
  | startInterrupted {store : Store} {submission : Submission host} {credential : Text} {record : RunRecord}
      {raised : Option Raised} :
      Phase.Step store (.starting submission credential record) .quiet store (.finishing (record.interrupted raised))
  | contacted {store : Store} {submission : Submission host} {credential : Text} {record : RunRecord} :
      Phase.Step store (.contacting submission credential record) (.contacted record.dispatch) store
        (.inFlight submission credential record)
  | contactInterrupted {store : Store} {submission : Submission host} {credential : Text} {record : RunRecord}
      {raised : Option Raised} :
      Phase.Step store (.contacting submission credential record) .quiet store (.finishing (record.interrupted raised))
  | answered {store : Store} {submission : Submission host} {credential : Text} {record : RunRecord}
      {surroundings : Surroundings} :
      Phase.Step store (.inFlight submission credential record) .quiet store
        (.finishing (answered host submission.request credential surroundings record))
  | answerInterrupted {store : Store} {submission : Submission host} {credential : Text} {record : RunRecord}
      {cancelled : Except Raised Bool} {response : Response} {count : Nat} {raised : Option Raised} :
      Phase.Step store (.inFlight submission credential record) .quiet store
        (.finishing ((record.assignAll
          ((respond host submission.request credential cancelled response []).2.take count)).interrupted raised))
  | finished {store after : Store} {record : RunRecord} {now : Nanoseconds} :
      Store.update host (record.assign (ended now)) store = (.ok (), after) →
      Phase.Step store (.finishing record) (.committed (record.assign (ended now))) after
        (.closing (record.assign (ended now)))
  | closed {store after : Store} {record : RunRecord} :
      closes record = true → Store.closeConcurrencySlot record store = (.ok (), after) →
      Phase.Step store (.closing record) .quiet after .finished
  | crashed {store : Store} {phase : Phase host} : Phase.Step store phase .quiet store .finished

/-- The dispatch whose run row the run has inserted. -/
def Phase.owner : Phase host → Option Text
  | .preparing _ record | .starting _ _ record | .contacting _ _ record | .inFlight _ _ record | .finishing record
  | .closing record => some record.dispatch
  | .claiming _ | .finished => none

/-- The dispatch the run may still contact its provider for. -/
def Phase.armed : Phase host → Option Text
  | .preparing _ record | .starting _ _ record | .contacting _ _ record => some record.dispatch
  | _ => none

def Label.contact : Label → Option Text
  | .contacted dispatch => some dispatch
  | _ => none

/-- The store while runs come and go. -/
abbrev Runs (host : Host) := Pool Store (Phase host)

/-- A run is born when `validate` has accepted its inputs: a refused one ends before the store. -/
abbrev Runs.Step : Runs host → Label → Runs host → Prop :=
  Pool.Step (fun phase => ∃ submission, phase = .claiming submission) .quiet Phase.Step

def Runs.initial : Runs host := ⟨Store.empty, []⟩

/-- A record that does not deny its contact. -/
def Contacted (record : RunRecord) : Prop := get record.members "contact_state" ≠ .str (text "NOT_CONTACTED")

/-- An assignment that does not take a contact back. -/
def Forward (assignment : Assignment) : Prop :=
  ∀ item ∈ assignment.items, item.1 = "contact_state" → item.2 ≠ .str (text "NOT_CONTACTED")

private theorem contacted_update {items : List (String × Json)}
    (forward : ∀ item ∈ items, item.1 = "contact_state" → item.2 ≠ .str (text "NOT_CONTACTED")) {members : Members}
    (contacted : get members "contact_state" ≠ .str (text "NOT_CONTACTED")) :
    get (update members items) "contact_state" ≠ .str (text "NOT_CONTACTED") := by
  induction items generalizing members with
  | nil => exact contacted
  | cons item rest ih =>
    refine ih (fun other listed => forward other (List.mem_cons_of_mem _ listed)) ?_
    rw [get_set]
    split
    · next same => exact forward item List.mem_cons_self same.symm
    · exact contacted

theorem Contacted.assign {record : RunRecord} (contacted : Contacted record) {assignment : Assignment}
    (forward : Forward assignment) : Contacted (record.assign assignment) := contacted_update forward contacted

theorem Contacted.assignAll {assignments : List Assignment} (forward : ∀ assignment ∈ assignments, Forward assignment)
    {record : RunRecord} (contacted : Contacted record) : Contacted (record.assignAll assignments) := by
  induction assignments generalizing record with
  | nil => exact contacted
  | cons assignment rest ih =>
    exact ih (fun other listed => forward other (List.mem_cons_of_mem _ listed))
      (contacted.assign (forward assignment List.mem_cons_self))

private theorem excepted_forward (raised : Raised) : Forward (excepted raised) := by
  cases raised <;> simp [Forward, excepted, text_inj]

theorem Contacted.interrupted {record : RunRecord} (contacted : Contacted record) (raised : Option Raised) :
    Contacted (record.interrupted raised) := by
  cases raised with
  | none => exact contacted
  | some raised => exact contacted.assign (excepted_forward raised)

private theorem contactStarted_contacted (record : RunRecord) : Contacted (record.assign contactStarted) := by
  simp [Contacted, RunRecord.assign, contactStarted, update, get_set, text_inj]

open Attempt in
private theorem respond_forward (request : Members) (credential : Text) (cancelled : Except Raised Bool)
    (response : Response) : Assigns Forward (respond host request credential cancelled response) := by
  have raises {α : Type} (raised : Raised) : Assigns Forward (Effect.raise raised : Attempt α) := .nothing fun _ => rfl
  have pures {α : Type} (value : α) : Assigns Forward (pure value : Attempt α) := .nothing fun _ => rfl
  have refused (state : String) : Assigns Forward (unacceptable state) := assigns_assign (by simp [Forward, text_inj])
  have broken : Assigns Forward malformed := assigns_assign (by simp [Forward, text_inj])
  have cost (usage : Members) : Assigns Forward (recordCost usage) := by
    unfold recordCost
    split
    · exact (assigns_assign (by simp [Forward])).bind fun _ => pures false
    · exact pures false
  have usage (value : Json) : Assigns Forward (recordUsage request value) := by
    unfold recordUsage
    split
    · split
      · refine (assigns_assign (by simp [Forward])).bind fun _ => ?_
        split
        · exact (refused _).bind fun _ => pures true
        · exact cost _
      · exact cost _
    · exact pures false
  have completes (response choice : Members) (output : Text) : Assigns Forward (complete request response choice output) := by
    refine (usage _).bind fun exceeded => ?_
    split
    · exact pures ()
    · exact (assigns_lift _).bind fun _ => assigns_assign (by simp [Forward, text_inj])
  have observes (response : Members) : Assigns Forward (observe request response) := by
    refine (assigns_assign (by simp [Forward])).bind fun _ => ?_
    split
    · exact refused _
    · split
      · exact broken
      · split
        · split
          · exact raises _
          · split
            · exact refused _
            · exact completes response _ _
        · exact refused _
  unfold respond
  split
  · split
    · exact refused _
    · refine (assigns_assign (by simp [Forward])).bind fun _ => (assigns_lift _).bind fun cancelled => ?_
      split
      · exact assigns_assign (by simp [Forward])
      · split
        · split
          · exact raises _
          · next metadata found =>
            refine assigns_assign fun item listed same => ?_
            rcases List.mem_append.mp listed with listed | listed
            · simp only [List.mem_cons, List.not_mem_nil, or_false] at listed
              rcases listed with rfl | rfl | rfl <;> simp_all [text_inj]
            · have target := (providerErrorMetadata_spec found listed).1
              simp [same] at target
        · split
          · exact observes _
          · exact broken
          · exact broken
          · exact raises _
          · exact raises _
  · exact raises _

private theorem respond_new (request : Members) (credential : Text) (cancelled : Except Raised Bool) (response : Response) :
    ∀ assignment ∈ (respond host request credential cancelled response []).2, Forward assignment := by
  obtain ⟨new, grown, each⟩ := @respond_forward host request credential cancelled response []
  rw [grown]
  exact each

private theorem answered_contacted (request : Members) (credential : Text) (surroundings : Surroundings)
    {record : RunRecord} (contacted : Contacted record) :
    Contacted (answered host request credential surroundings record) := by
  unfold answered
  cases surroundings.transport with
  | error raised => exact contacted.assign (excepted_forward raised)
  | ok response =>
    have forward := @respond_new host request credential surroundings.cancelledAfter response
    simp only
    generalize respond host request credential surroundings.cancelledAfter response [] = outcome at forward
    obtain ⟨outcome, assignments⟩ := outcome
    cases outcome with
    | ok _ => exact contacted.assignAll forward
    | error raised => exact (contacted.assignAll forward).assign (excepted_forward raised)

/-- What a step does to the run rows: it opens one, rewrites its own, or leaves them. -/
inductive RowChange (host : Host) (store : Store) (phase : Phase host) (label : Label) (after : Store) (next : Phase host) :
    Prop
  | opened {record : RunRecord} {row : RunRow} : label = .committed record → next.owner = some record.dispatch →
      store.lookup record.dispatch = none → row.dispatch = record.dispatch →
      canonical host (.obj record.members) = .ok row.record → after.runs = store.runs ++ [row] →
      RowChange host store phase label after next
  | rewritten {record : RunRecord} {raw : Bytes} : label = .committed record → phase.owner = some record.dispatch →
      next.owner = some record.dispatch → canonical host (.obj record.members) = .ok raw →
      after = store.written record.dispatch raw → RowChange host store phase label after next
  | kept : (∀ record, label ≠ .committed record) → after.runs = store.runs →
      (∀ dispatch, next.owner = some dispatch → phase.owner = some dispatch) → RowChange host store phase label after next

theorem update_inv {record : RunRecord} {store after : Store}
    (done : Store.update host record store = (.ok (), after)) :
    ∃ raw, canonical host (.obj record.members) = .ok raw ∧ after = store.written record.dispatch raw := by
  cases encoded : canonical host (.obj record.members) with
  | error failure => rw [Store.update_error encoded] at done; cases done
  | ok raw =>
    rw [Store.update_ok encoded] at done
    cases done
    exact ⟨raw, rfl, rfl⟩

theorem Store.update_reservations {record : RunRecord} {store after : Store}
    (done : Store.update host record store = (.ok (), after)) : after.reservations = store.reservations := by
  obtain ⟨raw, -, rfl⟩ := update_inv done
  rfl

theorem rowChange {store after : Store} {phase next : Phase host} {label : Label}
    (step : Phase.Step store phase label after next) : RowChange host store phase label after next := by
  cases step with
  | opened claimed =>
    obtain ⟨row, opened⟩ := (Store.claim_meets _ _ _).returns claimed
    exact .opened rfl rfl (opened.named ▸ opened.unknown) (opened.named ▸ opened.dispatch) opened.retained opened.runs
  | found claimed =>
    obtain ⟨rfl, -⟩ := (Store.claim_meets _ _ _).returns claimed
    exact .kept nofun rfl nofun
  | refused claimed =>
    obtain rfl := (Store.claim_meets _ _ _).raises claimed
    exact .kept nofun rfl nofun
  | started updated =>
    obtain ⟨raw, encoded, same⟩ := update_inv updated
    exact .rewritten rfl rfl rfl encoded same
  | finished updated =>
    obtain ⟨raw, encoded, same⟩ := update_inv updated
    exact .rewritten rfl rfl rfl encoded same
  | closed _ done =>
    cases done
    exact .kept nofun rfl nofun
  | prepared | declined | prepareInterrupted | startInterrupted | contacted | contactInterrupted | answered
  | answerInterrupted | crashed => exact .kept nofun rfl (by simp [Phase.owner])

/-- The record that was last committed for a dispatch. -/
def lastCommitted (labels : List Label) (dispatch : Text) : Option RunRecord :=
  labels.foldl (fun last label => match label with
    | .committed record => if record.dispatch = dispatch then some record else last
    | _ => last) none

theorem lastCommitted_committed (labels : List Label) (record : RunRecord) (dispatch : Text) :
    lastCommitted (labels ++ [.committed record]) dispatch =
      if record.dispatch = dispatch then some record else lastCommitted labels dispatch := by
  simp only [lastCommitted, List.foldl_append, List.foldl_cons, List.foldl_nil]

theorem lastCommitted_other (labels : List Label) {label : Label} {dispatch : Text}
    (other : ∀ record, label = .committed record → record.dispatch ≠ dispatch) :
    lastCommitted (labels ++ [label]) dispatch = lastCommitted labels dispatch := by
  cases label with
  | committed record => rw [lastCommitted_committed, if_neg (other record rfl)]
  | contacted | quiet => simp only [lastCommitted, List.foldl_append, List.foldl_cons, List.foldl_nil]

/-- The run rows of a store only grow. -/
theorem RowChange.lookup {store after : Store} {phase next : Phase host} {label : Label}
    (change : RowChange host store phase label after next) {dispatch : Text}
    (other : ∀ record, label = .committed record → record.dispatch ≠ dispatch) :
    after.lookup dispatch = store.lookup dispatch := by
  cases change with
  | opened shown _ _ named _ runs =>
    rw [Store.lookup_append runs, if_neg (named ▸ other _ shown), Option.or_none]
  | rewritten shown _ _ _ same =>
    rw [same, Store.lookup_written]
    cases found : store.lookup dispatch with
    | none => rfl
    | some row =>
      have differ : row.dispatch ≠ _ := Store.lookup_dispatch found ▸ Ne.symm (other _ shown)
      simp [RunRow.written, differ]
  | kept _ runs _ => simp only [Store.lookup, runs]

/-- A run may contact its provider from its claim to its contact. -/
def custody : Pool.Discipline (fun phase : Phase host => ∃ submission, phase = .claiming submission) Label.quiet
    Phase.Step Text where
  owner := Phase.owner
  armed := Phase.armed
  taken store dispatch := (store.lookup dispatch).isSome
  uses := Label.contact
  newborn := by rintro _ ⟨submission, rfl⟩; rfl
  silent := rfl
  armedOwns phase dispatch armed := by cases phase <;> simp_all [Phase.armed, Phase.owner]
  lasting store phase label after next step dispatch taken := by
    cases rowChange step with
    | opened _ _ _ _ _ runs => rw [Store.lookup_append runs]; simp [taken]
    | rewritten _ _ _ _ same => rw [same, Store.lookup_written]; simpa using taken
    | kept _ runs _ => simpa only [Store.lookup, runs] using taken
  acquires store phase label after next step dispatch owner := by
    cases rowChange step with
    | opened _ owns unknown named _ runs =>
      obtain rfl := Option.some.inj (owner.symm.trans owns)
      refine Or.inr ⟨by simp [unknown], ?_⟩
      rw [Store.lookup_append runs, if_pos named]
      simp
    | rewritten _ before owns _ _ => exact Or.inl (owner.symm.trans owns ▸ before)
    | kept _ _ owns => exact Or.inl (owns dispatch owner)
  arms store phase label after next step dispatch armed := by
    cases step with
    | opened claimed =>
      obtain ⟨row, opened⟩ := (Store.claim_meets _ _ _).returns claimed
      obtain rfl := Option.some.inj armed
      exact ⟨nofun, Or.inr (by simp [opened.named, opened.unknown])⟩
    | prepared => exact ⟨nofun, Or.inl (by simpa [Phase.armed] using armed)⟩
    | started => exact ⟨nofun, Or.inl armed⟩
    | found | refused | declined | prepareInterrupted | startInterrupted | contacted | contactInterrupted | answered
    | answerInterrupted | finished | closed | crashed => cases armed
  spends store phase label after next step dispatch uses := by
    cases step <;> simp_all [Label.contact, Phase.armed]

/-- How often the transport was invoked for a dispatch. -/
def contacts (labels : List Label) (dispatch : Text) : Nat := 
  labels.countP fun label => decide (label.contact = some dispatch)

/-- Every run row holds what was last committed, and none denies a contact that was made. -/
structure Retention (host : Host) (labels : List Label) (store : Store) : Prop where
  rows : ∀ dispatch row, store.lookup dispatch = some row →
    ∃ record, lastCommitted labels dispatch = some record ∧ canonical host (.obj record.members) = .ok row.record
  honest : ∀ dispatch, contacts labels dispatch ≠ 0 → ∀ record, lastCommitted labels dispatch = some record →
    Contacted record

/-- What a run's own record says of its contact. -/
def Aware (labels : List Label) (_ : Store) : Phase host → Prop
  | .starting _ _ record | .inFlight _ _ record => Contacted record
  | .contacting _ _ record => Contacted record ∧ lastCommitted labels record.dispatch = some record
  | .finishing record | .closing record => contacts labels record.dispatch ≠ 0 → Contacted record
  | .claiming _ | .preparing _ _ | .finished => True

private theorem contacts_append (labels : List Label) (label : Label) (dispatch : Text) :
    contacts (labels ++ [label]) dispatch =
      contacts labels dispatch + if label.contact = some dispatch then 1 else 0 := by
  simp only [contacts, List.countP_append, List.countP_singleton, decide_eq_true_eq]

theorem contacts_other {labels : List Label} {label : Label} {dispatch : Text}
    (other : label.contact ≠ some dispatch) : contacts (labels ++ [label]) dispatch = contacts labels dispatch := by
  rw [contacts_append, if_neg other, Nat.add_zero]

@[simp] theorem contacts_quiet (labels : List Label) (dispatch : Text) :
    contacts (labels ++ [.quiet]) dispatch = contacts labels dispatch := contacts_other (by simp [Label.contact])

@[simp] theorem contacts_committed (labels : List Label) (record : RunRecord) (dispatch : Text) :
    contacts (labels ++ [.committed record]) dispatch = contacts labels dispatch := contacts_other (by simp [Label.contact])

private theorem aware_frame {labels : List Label} {label : Label} {store after : Store} {phase : Phase host}
    (aware : Aware labels store phase)
    (other : ∀ dispatch, phase.owner = some dispatch → label.contact ≠ some dispatch ∧
      ∀ record, label = .committed record → record.dispatch ≠ dispatch) : Aware (labels ++ [label]) after phase := by
  cases phase with
  | contacting _ _ record =>
    obtain ⟨-, uncommitted⟩ := other _ rfl
    exact ⟨aware.1, (lastCommitted_other labels uncommitted).trans aware.2⟩
  | finishing record | closing record =>
    obtain ⟨unused, -⟩ := other _ rfl
    simp only [Aware, contacts_other unused]
    exact aware
  | starting | inFlight => exact aware
  | claiming | preparing | finished => trivial

/-- Every label is about a dispatch that the acting run owns. -/
theorem label_owned {store after : Store} {phase next : Phase host} {label : Label}
    (step : Phase.Step store phase label after next) (dispatch : Text)
    (shown : label.contact = some dispatch ∨ ∃ record, label = .committed record ∧ record.dispatch = dispatch) :
    phase.owner = some dispatch ∨ next.owner = some dispatch := by
  cases step <;> simp_all [Label.contact, Phase.owner]

private theorem retention_step {labels : List Label} {label : Label} {store after : Store} {phase next : Phase host}
    (retention : Retention host labels store) (change : RowChange host store phase label after next)
    (shows : ∀ record, label = .committed record → contacts (labels ++ [label]) record.dispatch ≠ 0 → Contacted record)
    (contacted : ∀ dispatch, label.contact = some dispatch → ∀ record, lastCommitted labels dispatch = some record →
      Contacted record) : Retention host (labels ++ [label]) after where
  rows dispatch row found := by
    by_cases mine : ∃ record, label = .committed record ∧ record.dispatch = dispatch
    · obtain ⟨record, rfl, rfl⟩ := mine
      refine ⟨record, by rw [lastCommitted_committed, if_pos rfl], ?_⟩
      cases change with
      | @opened shown _ same _ unknown named encoded runs =>
        cases same
        rw [Store.lookup_append runs, unknown, if_pos named] at found
        cases found
        exact encoded
      | @rewritten shown _ same _ _ encoded written =>
        cases same
        rw [written, Store.lookup_written] at found
        obtain ⟨before, earlier, rfl⟩ := Option.map_eq_some_iff.mp found
        rw [RunRow.written, if_pos (Store.lookup_dispatch earlier)]
        exact encoded
      | kept uncommitted => exact absurd rfl (uncommitted record)
    · have other : ∀ record, label = .committed record → record.dispatch ≠ dispatch := fun record shown same =>
        mine ⟨record, shown, same⟩
      rw [change.lookup other] at found
      rw [lastCommitted_other labels other]
      exact retention.rows dispatch row found
  honest dispatch used record last := by
    by_cases mine : ∃ shown, label = .committed shown ∧ shown.dispatch = dispatch
    · obtain ⟨shown, rfl, rfl⟩ := mine
      rw [lastCommitted_committed, if_pos rfl] at last
      cases last
      exact shows _ rfl used
    · rw [lastCommitted_other labels fun record shown same => mine ⟨record, shown, same⟩] at last
      by_cases contact : label.contact = some dispatch
      · exact contacted dispatch contact record last
      · rw [contacts_other contact] at used
        exact retention.honest dispatch used record last

/-- A run knows that it has made its contact before anything else can be committed. -/
theorem custody_kept : Pool.Discipline.Kept (@custody host) (Retention host) Aware where
  idles labels store retention := retention_step retention (.kept nofun rfl nofun : RowChange host store .finished .quiet store .finished)
    nofun nofun
  waits labels store phase aware := aware_frame aware fun dispatch _ => ⟨nofun, nofun⟩
  newborn labels store phase born := by obtain ⟨submission, rfl⟩ := born; trivial
  acts labels pool exclusive retention phase listed aware label after next step := by
    have change := rowChange step
    have unused : ∀ dispatch, phase.armed = some dispatch → contacts labels dispatch = 0 := exclusive.unused phase listed
    have vacuous : ∀ record : RunRecord, phase.armed = some record.dispatch →
        contacts (labels ++ [.quiet]) record.dispatch ≠ 0 → Contacted record := fun record armed used => by
      rw [contacts_quiet, unused _ armed] at used
      exact absurd rfl used
    cases step with
    | opened claimed =>
      obtain ⟨row, opened⟩ := (Store.claim_meets _ _ _).returns claimed
      refine ⟨retention_step retention change (fun record shown used => ?_) nofun, trivial⟩
      cases shown
      rw [contacts_committed] at used
      have taken := exclusive.used _ used
      simp [custody, opened.named, opened.unknown] at taken
    | found | refused | closed | crashed => exact ⟨retention_step retention change nofun nofun, trivial⟩
    | prepared => exact ⟨retention_step retention change nofun nofun, contactStarted_contacted _⟩
    | declined =>
      exact ⟨retention_step retention change nofun nofun, vacuous _ (by simp [Phase.armed])⟩
    | prepareInterrupted | startInterrupted | contactInterrupted =>
      exact ⟨retention_step retention change nofun nofun, vacuous _ (by simp [Phase.armed])⟩
    | started =>
      refine ⟨retention_step retention change (fun record shown _ => ?_) nofun, aware, ?_⟩
      · cases shown
        exact aware
      · rw [lastCommitted_committed, if_pos rfl]
    | contacted =>
      refine ⟨retention_step retention change nofun fun dispatch shown other last => ?_, aware.1⟩
      cases shown
      cases aware.2.symm.trans last
      exact aware.1
    | answered => exact ⟨retention_step retention change nofun nofun, fun _ => answered_contacted _ _ _ aware⟩
    | answerInterrupted =>
      refine ⟨retention_step retention change nofun nofun, fun _ => Contacted.interrupted ?_ _⟩
      exact aware.assignAll fun assignment member => respond_new _ _ _ _ assignment (List.mem_of_mem_take member)
    | finished =>
      have final (now : Nanoseconds) (used : contacts labels _ ≠ 0) : Contacted (RunRecord.assign _ (ended now)) :=
        (aware used).assign (by simp [Forward, ended])
      refine ⟨retention_step retention change (fun record shown used => ?_) nofun, fun used => ?_⟩
      · cases shown
        rw [contacts_committed] at used
        exact final _ used
      · rw [contacts_committed] at used
        exact final _ used
  apart labels pool exclusive phase listed label after next step other present apart aware := by
    refine aware_frame aware fun dispatch owner => ⟨fun shown => ?_, fun record shown same => ?_⟩
    · exact apart dispatch (label_owned step dispatch (Or.inl shown)) owner
    · exact apart dispatch (label_owned step dispatch (Or.inr ⟨record, shown, same⟩)) owner

theorem exclusive_contact {labels : List Label} {runs : Runs host} (run : Run Runs.Step Runs.initial labels runs) :
    custody.Exclusive labels runs := Pool.Discipline.exclusive_run run

theorem retention_run {labels : List Label} {runs : Runs host} (run : Run Runs.Step Runs.initial labels runs) :
    Retention host labels runs.store ∧ ∀ phase ∈ runs.processes, Aware labels runs.store phase := by
  refine Pool.Discipline.kept_run custody_kept ⟨fun dispatch row found => ?_, fun dispatch used => ?_⟩ run
  · cases found
  · exact absurd rfl used

/-- Once a dispatch is taken and no run owns it, nothing about it changes any more. -/
theorem contact_over {runs : Runs host} {dispatch : Text} (taken : (runs.store.lookup dispatch).isSome = true)
    (free : ∀ phase ∈ runs.processes, phase.owner ≠ some dispatch) {later : List Label} {after : Runs host}
    (run : Run Runs.Step runs later after) :
    contacts later dispatch = 0 ∧ after.store.lookup dispatch = runs.store.lookup dispatch := by
  have all := run.invariant (fun labels after => contacts labels dispatch = 0 ∧
      after.store.lookup dispatch = runs.store.lookup dispatch ∧ ∀ phase ∈ after.processes, phase.owner ≠ some dispatch)
    ⟨rfl, rfl, free⟩ fun labels before label after _ ⟨unused, same, free⟩ step => ?_
  · exact ⟨all.1, all.2.1⟩
  · cases step with
    | birth born =>
      refine ⟨by rw [contacts_quiet, unused], same, fun phase listed => ?_⟩
      rcases List.mem_append.mp listed with listed | listed
      · exact free phase listed
      · obtain ⟨submission, rfl⟩ := born
        obtain rfl := List.mem_singleton.mp listed
        nofun
    | @act store after processes index phase next _ found step =>
      have here := free phase (List.mem_of_getElem? found)
      have there : next.owner ≠ some dispatch := by
        intro owner
        rcases custody.acquires _ _ _ _ _ step dispatch owner with before | ⟨fresh, -⟩
        · exact here before
        · exact fresh (by rw [← same] at taken; exact taken)
      have silent : ¬ (label.contact = some dispatch ∨ ∃ record, label = .committed record ∧ record.dispatch = dispatch) :=
        fun shown => (label_owned step dispatch shown).elim here there
      rw [not_or] at silent
      refine ⟨by rw [contacts_other silent.1, unused], ?_, fun other listed => ?_⟩
      · rw [(rowChange step).lookup fun record shown named => silent.2 ⟨record, shown, named⟩]
        exact same
      · rcases List.mem_or_eq_of_mem_set listed with listed | rfl
        · exact free other listed
        · exact there

/-- A claim on a retained dispatch reads it or raises, and never opens it again. -/
theorem claim_known {submission : Submission host} {now : Nanoseconds} {store : Store} {row : RunRow}
    (found : store.lookup submission.dispatch = some row) :
    (∃ value, Store.claim host submission now store = (.ok (.retained value), store) ∧
      Identical host submission.request submission.admittedInput submission.ownerBinding row) ∨
    ∃ failure, Store.claim host submission now store = (.error failure, store) := by
  have meets := Store.claim_meets submission now store
  cases done : Store.claim host submission now store with
  | mk outcome after =>
    cases outcome with
    | error failure =>
      obtain rfl := meets.raises done
      exact Or.inr ⟨failure, rfl⟩
    | ok claim =>
      have claimed := meets.returns done
      cases claim with
      | fresh record =>
        obtain ⟨_, opened⟩ := claimed
        cases opened.unknown.symm.trans found
      | retained value =>
        obtain ⟨rfl, prior, same, identical, -⟩ := claimed
        cases same.symm.trans found
        exact Or.inl ⟨value, rfl, identical⟩

/-- What holds of one dispatch after any history of runs, crashes and interruptions. -/
structure AtMostOnce (labels : List Label) (runs : Runs host) (dispatch : Text) : Prop where
  once : contacts labels dispatch ≤ 1
  /-- The row that is committed before a contact does not deny it. -/
  preceded : ∀ before after, labels = before ++ .contacted dispatch :: after →
    ∃ (earlier : Runs host) (row : RunRow) (record : RunRecord), Run Runs.Step Runs.initial before earlier ∧
      earlier.store.lookup dispatch = some row ∧ canonical host (.obj record.members) = .ok row.record ∧ Contacted record
  retained : ∀ row, runs.store.lookup dispatch = some row →
    ∃ record, lastCommitted labels dispatch = some record ∧ canonical host (.obj record.members) = .ok row.record
  uncontacted : ∀ record, lastCommitted labels dispatch = some record →
    get record.members "contact_state" = .str (text "NOT_CONTACTED") → contacts labels dispatch = 0
  /-- A run that is over makes no contact later, and its row stays as it is. -/
  settled : (runs.store.lookup dispatch).isSome = true → (∀ phase ∈ runs.processes, phase.owner ≠ some dispatch) →
    ∀ later after, Run Runs.Step runs later after →
      contacts later dispatch = 0 ∧ after.store.lookup dispatch = runs.store.lookup dispatch
  /-- A later run on the dispatch ends at its claim. -/
  later : ∀ (submission : Submission host) row, submission.dispatch = dispatch → runs.store.lookup dispatch = some row →
    ∀ label after next, Phase.Step runs.store (.claiming submission) label after next →
      label = .quiet ∧ after = runs.store ∧ next = .finished
  identical : ∀ (submission : Submission host) row, submission.dispatch = dispatch →
    runs.store.lookup dispatch = some row →
    Identical host submission.request submission.admittedInput submission.ownerBinding row →
    ∀ surroundings startedAt endedAt,
      run host submission surroundings startedAt endedAt runs.store = (loads host row.record, runs.store)
  different : ∀ (request ownerBinding : Members) admittedInput requestKeys bindingKeys row,
    get request "dispatch_occurrence_id" = .str dispatch → runs.store.lookup dispatch = some row →
    ¬ Identical host request admittedInput ownerBinding row → ∀ surroundings startedAt endedAt, ∃ failure,
      runRequest host request admittedInput ownerBinding requestKeys bindingKeys surroundings startedAt endedAt runs.store =
        (.error failure, runs.store)

/-- In every history of runs over one store, wherever they crash or are interrupted,
the provider is contacted at most once per dispatch. -/
theorem at_most_once_contact {labels : List Label} {runs : Runs host} (history : Run Runs.Step Runs.initial labels runs)
    (dispatch : Text) : AtMostOnce labels runs dispatch := by
  obtain ⟨retention, -⟩ := retention_run history
  refine {
    once := (exclusive_contact history).once dispatch
    preceded := fun before after shape => ?_
    retained := retention.rows dispatch
    uncontacted := fun record last denied => ?_
    settled := fun taken free later after run => contact_over taken free run
    later := fun submission row named found label after next step => ?_
    identical := fun submission row named found same surroundings startedAt endedAt => ?_
    different := fun request ownerBinding admittedInput requestKeys bindingKeys row named found differ surroundings
      startedAt endedAt => ?_
  }
  · subst shape
    obtain ⟨earlier, early, rest⟩ := history.split
    obtain ⟨_, step, -⟩ := rest.first_step
    obtain ⟨kept, aware⟩ := retention_run early
    cases step with
    | @act store _ processes index phase next _ found step =>
      have listed := List.mem_of_getElem? found
      cases step with
      | contacted =>
        obtain ⟨contacted, last⟩ := aware _ listed
        obtain ⟨row, present⟩ := Option.isSome_iff_exists.mp ((exclusive_contact early).owned _ listed _ rfl)
        obtain ⟨record, same, encoded⟩ := kept.rows _ row present
        cases same.symm.trans last
        exact ⟨_, row, _, early, present, encoded, contacted⟩
  · by_contra used
    exact retention.honest dispatch used record last denied
  · subst named
    cases step with
    | opened claimed =>
      rcases claim_known found with ⟨value, done, -⟩ | ⟨failure, done⟩
      · cases done.symm.trans claimed
      · cases done.symm.trans claimed
    | found claimed =>
      obtain ⟨rfl, -⟩ := (Store.claim_meets _ _ _).returns claimed
      exact ⟨rfl, rfl, rfl⟩
    | refused claimed =>
      obtain rfl := (Store.claim_meets _ _ _).raises claimed
      exact ⟨rfl, rfl, rfl⟩
    | crashed => exact ⟨rfl, rfl, rfl⟩
  · subst named
    simp only [run, Effect.bind_apply, Store.claim_retained found same]
    cases loads host row.record <;> rfl
  · cases accepted : validate host request admittedInput ownerBinding with
    | error failure => exact ⟨failure, by rw [runRequest_refused accepted]; rfl⟩
    | ok _ =>
      rw [runRequest_accepted accepted]
      have mine : @Submission.dispatch host ⟨request, admittedInput, ownerBinding, requestKeys, bindingKeys, accepted⟩ =
          dispatch := by
        simp [Submission.dispatch, named, text?]
      subst mine
      rcases @claim_known _ _ startedAt _ _ found with ⟨value, -, same⟩ | ⟨failure, done⟩
      · exact absurd same differ
      · exact ⟨failure, by simp only [run, Effect.bind_apply, done]⟩

def sampleStarted : RunRecord := sampleClaimed.assign contactStarted

def sampleUpdated : Store := (Store.update sampleHost sampleStarted sampleStore).2

/-- One run whose request is in flight. -/
def sampleRuns : Runs sampleHost := ⟨sampleUpdated, [.inFlight sampleSubmission (text "k") sampleStarted]⟩

def sampleHistory : List Label :=
  [.quiet, .committed sampleClaimed, .quiet, .committed sampleStarted, .contacted sampleStarted.dispatch]

theorem sample_prepared : ∃ body, prepare sampleHost sampleSubmission (sampleSurroundings sampleAnswer) [] =
    (.ok (some (body, text "k")), []) := by
  cases built : requestBody sampleHost sampleSubmission with
  | ok body => exact ⟨body, by simp [prepare, sampleSurroundings, built]; rfl⟩
  | error failure =>
    have fine : (requestBody sampleHost sampleSubmission).isOk = true := by decide
    simp [built, Except.isOk, Except.toBool] at fine

theorem sample_started : Store.update sampleHost sampleStarted sampleStore = (.ok (), sampleUpdated) := by decide +kernel

private theorem sample_history : Run Runs.Step Runs.initial sampleHistory sampleRuns := by
  obtain ⟨body, prepared⟩ := sample_prepared
  have alone {labels : List Label} {store after : Store} {phase next : Phase sampleHost} {label : Label}
      (early : Run Runs.Step Runs.initial labels ⟨store, [phase]⟩) (step : Phase.Step store phase label after next) :
      Run Runs.Step Runs.initial (labels ++ [label]) ⟨after, [next]⟩ :=
    early.snoc (@Pool.Step.act _ _ _ _ _ _ _ _ _ 0 _ _ _ rfl step)
  have claiming : Run Runs.Step Runs.initial [.quiet] ⟨Store.empty, [.claiming sampleSubmission]⟩ :=
    Run.nil.snoc (.birth ⟨sampleSubmission, rfl⟩)
  have ready : Phase.Step sampleStore (.preparing sampleSubmission sampleClaimed) .quiet sampleStore
      (.starting sampleSubmission (text "k") sampleStarted) := .prepared prepared
  have sent : Phase.Step sampleUpdated (.contacting sampleSubmission (text "k") sampleStarted)
      (.contacted sampleStarted.dispatch) sampleUpdated (.inFlight sampleSubmission (text "k") sampleStarted) := .contacted
  exact alone (alone (alone (alone claiming (.opened sample_fresh)) ready) (.started sample_started)) sent

theorem at_most_once_contact_sample :
    contacts sampleHistory sampleStarted.dispatch = 1 ∧ AtMostOnce sampleHistory sampleRuns sampleStarted.dispatch :=
  ⟨by decide, at_most_once_contact sample_history _⟩

end Switchyard.DirectApi
