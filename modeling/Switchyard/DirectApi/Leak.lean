import Switchyard.DirectApi.Slot

/-! The steps after which a slot stays taken although the outcome is known. A run
commits its final record and releases its slot in two transactions, and nothing
repairs what happens between them. -/

namespace Switchyard.DirectApi
open Library Json

variable {host : Host}

/-- A call on the dispatch has returned, from its own run or with an earlier record. -/
def Returned (labels : List SignedLabel) (dispatch : Text) : Prop :=
  .inspected dispatch ∈ signs labels ∨ .concluded dispatch ∈ signs labels

/-- The slot of a dispatch is free whenever its outcome is known and a call on it
has returned, and whenever its own call returned before any contact. -/
structure NoLeak (labels : List SignedLabel) (runs : Runs host) (dispatch : Text) : Prop where
  retained : ∀ row, runs.store.lookup dispatch = some row →
    ∃ record, lastCommitted (told labels) dispatch = some record ∧ canonical host (.obj record.members) = .ok row.record
  terminal : ∀ record, lastCommitted (told labels) dispatch = some record → closes record = true →
    Returned labels dispatch → ∀ row ∈ runs.store.reservations, row.dispatch = dispatch → row.active = false
  uncontacted : (.declined dispatch ∈ signs labels ∨ ∃ raised, .raised dispatch raised ∈ signs labels) →
    .concluded dispatch ∈ signs labels → ∀ row ∈ runs.store.reservations, row.dispatch = dispatch → row.active = false

/-- A run is lost between its final record and its release; a callback raises before
the contact; or another call reads the final record before the release. -/
def Leaking (labels : List SignedLabel) (runs : Runs host) : SignedLabel → Prop
  | (_, some (.cut record)) => closes record = true ∧ runs.store.Reserves record.dispatch
  | (_, some (.raised dispatch raised)) => raised ≠ .responseOverBound ∧ runs.store.Reserves dispatch
  | (_, some (.inspected dispatch)) => runs.store.Reserves dispatch ∧
      ∃ record, Phase.closing record ∈ runs.processes ∧ record.dispatch = dispatch ∧ closes record = true
  | (.committed record, none) => closes record = true ∧ runs.store.Reserves record.dispatch ∧
      .inspected record.dispatch ∈ signs labels
  | _ => False

abbrev Runs.Careful (labels : List SignedLabel) (runs : Runs host) : Prop :=
  Run.Within Runs.SignedStep (fun labels before full => ¬ Leaking labels before full) Runs.initial labels runs

theorem lastCommitted_dispatch {labels : List Label} {dispatch : Text} {record : RunRecord}
    (last : lastCommitted labels dispatch = some record) : record.dispatch = dispatch := by
  induction labels using List.reverseRecOn with
  | nil => cases last
  | append_singleton labels label ih =>
    cases label with
    | committed shown =>
      rw [lastCommitted_committed] at last
      split at last
      · next same =>
        cases last
        exact same
      · exact ih last
    | contacted other =>
      rw [@lastCommitted_other labels (.contacted other) dispatch nofun] at last
      exact ih last
    | quiet =>
      rw [@lastCommitted_other labels .quiet dispatch nofun] at last
      exact ih last

private theorem closes_claimed (submission : Submission host) (now : Nanoseconds) (scope : Option Text) :
    closes (claimRecord host submission now scope) = false := by
  have state : get (claimRecord host submission now scope).members "state" = .str (text "OUTCOME_UNKNOWN") := by
    cases scope <;> simp [claimRecord, claimMembers, enrolledRecord, baseRecord, get_set, get_object_cons]
  simp only [closes, state, text?, Option.getD_some, Bool.and_eq_false_iff, Bool.not_eq_false']
  exact Or.inr (by decide)

/-- A known outcome whose slot is still taken is in the hands of its own run, and no call has returned. -/
structure Unleaked (labels : List SignedLabel) (runs : Runs host) : Prop where
  held : ∀ row ∈ runs.store.reservations, row.active = true → ∀ record,
    lastCommitted (told labels) row.dispatch = some record → closes record = true →
    Phase.closing record ∈ runs.processes ∧ ¬ Returned labels row.dispatch
  raised : ∀ dispatch raised, .raised dispatch raised ∈ signs labels → runs.store.Reserves dispatch →
    raised = .responseOverBound

/-- A call on a dispatch that this step is not about returns only by reading its row. -/
private theorem Unmoved.returned {labels : List SignedLabel} {full : SignedLabel} {dispatch : Text}
    (same : Unmoved labels full dispatch) (unread : full.2 ≠ some (.inspected dispatch)) :
    Returned (labels ++ [full]) dispatch ↔ Returned labels dispatch := by
  rw [Returned, Returned, same.concluded, mem_signs_append, or_iff_left unread]

section Step
variable {labels : List SignedLabel} {store after : Store} {processes : List (Phase host)} {index : Nat}
  {phase next : Phase host} {full : SignedLabel} {record : RunRecord}

/-- The slot of another dispatch stays in its own run's hands. -/
private theorem held_apart (unleaked : Unleaked labels ⟨store, processes⟩)
    (slots : Slots labels store) (found : processes[index]? = some phase) (step : Phase.Signed store phase full after next)
    (fine : ¬ Leaking labels ⟨store, processes⟩ full) {row : Reservation} (listed : row ∈ store.reservations)
    (active : row.active = true) (differs : phase.owner ≠ some row.dispatch)
    (last : lastCommitted (told (labels ++ [full])) row.dispatch = some record) (final : closes record = true) :
    Phase.closing record ∈ processes.set index next ∧ ¬ Returned (labels ++ [full]) row.dispatch := by
  have taken := slots.taken row listed
  have later : next.owner ≠ some row.dispatch := fun owner =>
    (signedCustody.acquires _ _ _ _ _ step row.dispatch owner).elim differs fun fresh => fresh.1 taken
  have same := unmoved labels step differs later
  rw [same.last] at last
  have named := lastCommitted_dispatch last
  obtain ⟨closing, unreturned⟩ := unleaked.held row listed active record last final
  refine ⟨?_, ?_⟩
  · obtain ⟨other, there⟩ := List.mem_iff_getElem?.mp closing
    have apart : index ≠ other := by
      rintro rfl
      cases found.symm.trans there
      exact differs (congrArg some named)
    exact List.mem_of_getElem? ((List.getElem?_set_ne apart).trans there)
  · rw [same.returned fun shown => ?_]
    · exact unreturned
    · obtain ⟨label, sign⟩ := full
      cases shown
      cases label <;> exact fine ⟨⟨row, listed, rfl⟩, record, closing, named, final⟩

/-- A release leaves no active slot of its dispatch. -/
private theorem closed_inactive (done : Store.closeConcurrencySlot record store = (.ok (), after)) {row : Reservation}
    (listed : row ∈ after.reservations) (mine : row.dispatch = record.dispatch) : row.active = false := by
  cases done
  obtain ⟨before, -, rfl⟩ := List.mem_map.mp listed
  rw [Reservation.closed_dispatch] at mine
  rw [Reservation.closed, if_pos mine]

/-- The slot of the acting run's own dispatch. -/
private theorem held_own (unleaked : Unleaked labels ⟨store, processes⟩)
    (exclusive : signedCustody.Exclusive labels ⟨store, processes⟩) (standing : Standing labels store phase)
    (found : processes[index]? = some phase) (step : Phase.Signed store phase full after next)
    (fine : ¬ Leaking labels ⟨store, processes⟩ full) {row : Reservation} (listed : row ∈ store.reservations)
    (present : row ∈ after.reservations) (active : row.active = true) (owner : phase.owner = some row.dispatch)
    (last : lastCommitted (told (labels ++ [full])) row.dispatch = some record) (final : closes record = true) :
    Phase.closing record ∈ processes.set index next ∧ ¬ Returned (labels ++ [full]) row.dispatch := by
  have inside : index < processes.length := (List.getElem?_eq_some_iff.mp found).1
  have named := lastCommitted_dispatch last
  have finishing (earlier : lastCommitted (told labels) row.dispatch = some record) : phase = .closing record := by
    obtain ⟨closing, -⟩ := unleaked.held row listed active record earlier final
    obtain ⟨other, there⟩ := List.mem_iff_getElem?.mp closing
    have same := exclusive.unique found there owner (congrArg some named)
    subst same
    exact Option.some.inj (found.symm.trans there)
  rw [told_append] at last
  cases step with
  | untold flies step =>
    cases step with
    | opened | found | refused => cases owner
    | started =>
      rw [lastCommitted_committed, if_pos (Option.some.inj owner)] at last
      cases last
      simp [standing.stage.1.pinned] at final
    | @finished _ ending now _ =>
      have mine : (ending.assign (ended now)).dispatch = row.dispatch := Option.some.inj owner
      rw [lastCommitted_committed, if_pos mine] at last
      cases last
      refine ⟨List.mem_of_getElem? (List.getElem?_set_self inside), ?_⟩
      rintro (shown | shown)
      · rcases mem_signs_append.mp shown with shown | shown
        · exact fine ⟨final, ⟨row, listed, named.symm⟩, named ▸ shown⟩
        · cases shown
      · rcases mem_signs_append.mp shown with shown | shown
        · exact standing.unreturned _ owner shown
        · cases shown
    | prepared | declined | prepareInterrupted | startInterrupted | contactInterrupted | crashed =>
      rw [@lastCommitted_other _ .quiet _ nofun] at last
      cases finishing last <;> cases flies
    | contacted =>
      rw [@lastCommitted_other _ (.contacted _) _ nofun] at last
      cases finishing last
    | answered | answerInterrupted | closed => cases flies
  | inspected => cases owner
  | released closes closed | releasedUnseen closes closed =>
    have inactive := closed_inactive closed present (Option.some.inj owner).symm
    simp [active] at inactive
  | pinned pinned =>
    rw [@lastCommitted_other _ .quiet _ nofun] at last
    cases finishing last
    simp [pinned] at final
  | cut =>
    rw [@lastCommitted_other _ .quiet _ nofun] at last
    cases finishing last
    exact absurd ⟨final, row, listed, named.symm⟩ fine
  | declined | raised | answered | failed | polled | answerInterrupted | unanswered | lost =>
    rw [@lastCommitted_other _ .quiet _ nofun] at last
    cases finishing last

/-- A slot that a step opens belongs to a run that has only just begun. -/
private theorem held_new (step : Phase.Signed store phase full after next) {row : Reservation}
    (owner : next.owner = some row.dispatch)
    (unowned : phase.owner ≠ some row.dispatch)
    (last : lastCommitted (told (labels ++ [full])) row.dispatch = some record) : closes record = false := by
  cases step with
  | untold flies step =>
    cases step with
    | opened claimed =>
      obtain ⟨scope, same, -⟩ := (Store.claim_meets _ _ _).returns claimed |>.choose_spec.recorded
      rw [told_append, lastCommitted_committed, if_pos (Option.some.inj owner)] at last
      cases last
      rw [same]
      exact closes_claimed _ _ _
    | found | refused | crashed => cases owner
    | prepared | declined | prepareInterrupted | started | startInterrupted | contacted | contactInterrupted | finished =>
      exact absurd (by simpa [Phase.owner] using owner) unowned
    | answered | answerInterrupted | closed => cases flies
  | inspected | lost | released | releasedUnseen | pinned | cut => cases owner
  | declined | raised | answered | failed | polled | answerInterrupted | unanswered =>
    exact absurd (by simpa [Phase.owner] using owner) unowned

end Step

private theorem held_step {labels : List SignedLabel} {before after : Runs host} {full : SignedLabel}
    (early : Run Runs.SignedStep Runs.initial labels before) (unleaked : Unleaked labels before)
    (step : Runs.SignedStep before full after) (fine : ¬ Leaking labels before full) {row : Reservation}
    (listed : row ∈ after.store.reservations) (active : row.active = true) {record : RunRecord}
    (last : lastCommitted (told (labels ++ [full])) row.dispatch = some record) (final : closes record = true) :
    Phase.closing record ∈ after.processes ∧ ¬ Returned (labels ++ [full]) row.dispatch := by
  obtain ⟨slots, standing⟩ := slots_run early
  have exclusive : signedCustody.Exclusive labels before := Pool.Discipline.exclusive_run early
  cases step with
  | birth =>
    have same := unmoved_idle labels row.dispatch
    rw [same.last] at last
    rw [same.returned nofun]
    obtain ⟨closing, unreturned⟩ := unleaked.held row listed active record last final
    exact ⟨List.mem_append_left _ closing, unreturned⟩
  | @act store after processes index phase next _ found acted =>
    have stands := standing phase (List.mem_of_getElem? found)
    cases slotChange acted.step with
    | grown grown new =>
      have present := listed
      rw [grown] at listed
      rcases List.mem_append.mp listed with listed | fresh
      · by_cases owner : phase.owner = some row.dispatch
        · exact held_own unleaked exclusive stands found acted fine listed present active owner last final
        · exact held_apart unleaked slots found acted fine listed active owner last final
      · obtain ⟨-, owner, unknown⟩ := new row fresh
        have unowned : phase.owner ≠ some row.dispatch := fun mine => by
          have taken := exclusive.owned phase (List.mem_of_getElem? found) _ mine
          simp [signedCustody, Pool.Discipline.comap, custody, unknown] at taken
        have open_ := held_new acted owner unowned last
        simp [final] at open_
    | @closed own closing closes _ same =>
      rw [same] at listed
      obtain ⟨old, present, rfl⟩ := List.mem_map.mp listed
      have differs : old.dispatch ≠ own.dispatch := fun mine => by
        simp [Reservation.closed, mine] at active
      have untouched : old.closed own.dispatch = old := by rw [Reservation.closed, if_neg differs]
      rw [untouched] at active last ⊢
      have apart : phase.owner ≠ some old.dispatch := fun mine => by
        rw [closing] at mine
        exact differs (Option.some.inj mine).symm
      exact held_apart unleaked slots found acted fine present active apart last final

private theorem raised_step {labels : List SignedLabel} {before after : Runs host} {full : SignedLabel}
    (early : Run Runs.SignedStep Runs.initial labels before) (unleaked : Unleaked labels before)
    (step : Runs.SignedStep before full after) (fine : ¬ Leaking labels before full) {dispatch : Text} {raised : Raised}
    (shown : .raised dispatch raised ∈ signs (labels ++ [full])) (reserves : after.store.Reserves dispatch) :
    raised = .responseOverBound := by
  obtain ⟨slots, -⟩ := slots_run early
  rcases mem_signs_append.mp shown with shown | shown
  · exact unleaked.raised dispatch raised shown (reserves_before step (slots.named _ shown) reserves)
  · by_contra other
    have taken := sign_taken early step shown
    obtain ⟨label, sign⟩ := full
    cases shown
    cases label <;> exact fine ⟨other, reserves_before step taken reserves⟩

theorem unleaked_run {labels : List SignedLabel} {runs : Runs host} (careful : runs.Careful labels) :
    Unleaked labels runs := by
  refine careful.invariant Unleaked ⟨nofun, nofun⟩ fun labels before full after early unleaked step fine => ⟨?_, ?_⟩
  · exact fun row listed active record last final => held_step early.run unleaked step fine listed active last final
  · exact fun dispatch raised shown reserves => raised_step early.run unleaked step fine shown reserves

/-- In every history without such a step no slot is left taken. -/
theorem no_leaked_slot {labels : List SignedLabel} {runs : Runs host} (careful : runs.Careful labels) (dispatch : Text) :
    NoLeak labels runs dispatch := by
  have unleaked := unleaked_run careful
  obtain ⟨slots, -⟩ := slots_run careful.run
  obtain ⟨retention, -⟩ := retention_run (signed_run.mpr ⟨labels, rfl, careful.run⟩)
  refine ⟨retention.rows dispatch, fun record last closes returned row listed same => ?_, ?_⟩
  · subst same
    by_contra active
    obtain ⟨-, unreturned⟩ := unleaked.held row listed (Bool.eq_true_of_not_eq_false active) record last closes
    exact unreturned returned
  · intro ended concluded row listed same
    subst same
    refine slots.stopped row listed ?_ concluded
    rcases ended with declined | ⟨raised, shown⟩
    · exact Or.inl declined
    · cases unleaked.raised _ raised shown ⟨row, listed, rfl⟩
      exact Or.inr shown

/-- The surroundings of a run that is cancelled before its contact. -/
def sampleCancelled : Surroundings := ⟨.ok true, .ok none, [], .error .timeout, .ok false⟩

def sampleDeclined : RunRecord :=
  sampleClaimed.assignAll (prepare sampleHost sampleSubmission sampleCancelled []).2

def sampleFinal : RunRecord := sampleDeclined.assign (ended 0)

def sampleFinished : Store := (Store.update sampleHost sampleFinal sampleStore).2

def sampleClosed : Store := (Store.closeConcurrencySlot sampleFinal sampleFinished).2

/-- A run that is cancelled before its contact and returns. -/
def sampleDecline : List SignedLabel :=
  [(.quiet, none), (.committed sampleClaimed, none), (.quiet, some (.declined sampleClaimed.dispatch)),
    (.committed sampleFinal, none), (.quiet, some (.concluded sampleFinal.dispatch))]

theorem sample_declines : Phase.Signed sampleStore (.preparing sampleSubmission sampleClaimed)
    (.quiet, some (.declined sampleClaimed.dispatch)) sampleStore (.finishing sampleDeclined) :=
  @Phase.Signed.declined _ _ _ _ sampleCancelled _ rfl

/-- The final record is stored, closes the slot, and leaves it free. -/
private theorem sample_closed : (Store.update sampleHost sampleFinal sampleStore).1 = .ok () ∧ closes sampleFinal = true ∧
    sampleClosed.reservations.map Reservation.active = [false] :=
  ⟨by decide +kernel, by decide, by decide +kernel⟩

theorem sample_finishes : Phase.Signed sampleStore (.finishing sampleDeclined) (.committed sampleFinal, none) sampleFinished
    (@Phase.closing sampleHost sampleFinal) := by
  have updated : Store.update sampleHost sampleFinal sampleStore = (.ok (), sampleFinished) := by
    exact Prod.ext sample_closed.1 (by simp only [sampleFinished])
  exact .untold rfl (.finished updated)

theorem sample_releases : Phase.Signed sampleFinished (.closing sampleFinal)
    (.quiet, some (.concluded sampleFinal.dispatch)) sampleClosed (@Phase.finished sampleHost) :=
  .released sample_closed.2.1 rfl

theorem no_leaked_slot_sample : NoLeak sampleDecline (⟨sampleClosed, [.finished]⟩ : Runs sampleHost) sampleClaimed.dispatch ∧
    sampleClosed.reservations.map Reservation.active = [false] := by
  have claiming : Runs.Careful [(.quiet, none)] ⟨Store.empty, [.claiming sampleSubmission]⟩ :=
    Run.Within.nil.snoc (.birth ⟨sampleSubmission, rfl⟩) id
  have opened := within_alone claiming sample_opens fun leaks => by
    have pinned : closes sampleClaimed = false := by decide
    exact absurd leaks.1 (by simp [pinned])
  have declined := within_alone opened sample_declines id
  have finished := within_alone declined sample_finishes fun leaks => by
    simpa [signs] using leaks.2.2
  exact ⟨no_leaked_slot (within_alone finished sample_releases id) _, sample_closed.2.2⟩

/-- A run that is lost between its two last commits, and a second one with the same inputs. -/
def sampleCut : List SignedLabel :=
  [(.quiet, none), (.committed sampleClaimed, none), (.quiet, none), (.committed sampleStarted, none),
    (.contacted sampleStarted.dispatch, none), (.quiet, some (.reported sampleStarted.dispatch)),
    (.committed sampleAnswered, none), (.quiet, some (.cut sampleAnswered)), (.quiet, none),
    (.quiet, some (.inspected sampleSubmission.dispatch))]

/-- The surroundings of a run whose credential source raises. -/
def sampleRaising : Surroundings := ⟨.ok false, .error .timeout, [], .error .timeout, .ok false⟩

def sampleFailed : RunRecord := (sampleClaimed.assign (excepted .timeout)).assign (ended 0)

def sampleUncontacted : Store := (Store.update sampleHost sampleFailed sampleStore).2

def sampleRaise : List SignedLabel :=
  [(.quiet, none), (.committed sampleClaimed, none), (.quiet, some (.raised sampleClaimed.dispatch .timeout)),
    (.committed sampleFailed, none), (.quiet, some (.concluded sampleFailed.dispatch))]

/-- A claim that hands back a retained record leaves the store as it is. -/
private theorem claim_reads {submission : Submission host} {now : Nanoseconds} {store : Store} {value : Json}
    (read : (Store.claim host submission now store).1 = .ok (.retained value)) :
    Store.claim host submission now store = (.ok (.retained value), store) := by
  have same := ((Store.claim_meets submission now store).returns (Prod.ext read rfl)).1
  exact Prod.ext read same

/-- The slot is taken, the failed record is stored, and a completed run is handed back to a second claim. -/
private theorem sample_kept_slots :
    sampleStore.reservations.map (fun row => (row.dispatch, row.active)) = [(sampleSubmission.dispatch, true)] ∧
      (Store.update sampleHost sampleFailed sampleStore).1 = .ok () ∧ closes sampleAnswered = true ∧
      (Store.claim sampleHost sampleSubmission 0 sampleCompleted).1 = .ok (.retained (.obj sampleRecord)) :=
  ⟨by decide +kernel, by decide +kernel, by decide +kernel, by decide +kernel⟩

private theorem sample_uncontacted : Store.update sampleHost sampleFailed sampleStore = (.ok (), sampleUncontacted) :=
  Prod.ext sample_kept_slots.2.1 (by simp only [sampleUncontacted])

private theorem sample_cut :
    Run Runs.SignedStep Runs.initial sampleCut (⟨sampleCompleted, [.finished, .finished]⟩ : Runs sampleHost) := by
  have finished : Phase.Signed sampleUpdated (.finishing _) (.committed sampleAnswered, none) sampleCompleted
      (@Phase.closing sampleHost sampleAnswered) := .untold rfl (.finished sample_completed)
  have cut := signed_alone (signed_alone (signed_alone sample_flies.run
    (@Phase.Signed.answered _ _ _ _ _ (sampleSurroundings sampleAnswer) rfl rfl)) finished) .cut
  have born := cut.snoc (.birth ⟨sampleSubmission, rfl⟩)
  exact born.snoc (@Pool.Step.act _ _ _ _ _ _ _ _ _ 1 _ _ _ rfl (.inspected (claim_reads sample_kept_slots.2.2.2)))

private theorem sample_raise :
    Run Runs.SignedStep Runs.initial sampleRaise (⟨sampleUncontacted, [.finished]⟩ : Runs sampleHost) := by
  have raised : Phase.Signed sampleStore (.preparing sampleSubmission sampleClaimed)
      (.quiet, some (.raised sampleClaimed.dispatch .timeout)) sampleStore
      (.finishing (sampleClaimed.assign (excepted .timeout))) :=
    @Phase.Signed.raised _ _ _ _ sampleRaising _ (Or.inr ⟨rfl, rfl⟩)
  have finished : Phase.Signed sampleStore (.finishing (sampleClaimed.assign (excepted .timeout)))
      (.committed sampleFailed, none) sampleUncontacted (@Phase.closing sampleHost sampleFailed) :=
    .untold rfl (.finished sample_uncontacted)
  have early := signed_alone (signed_alone (signed_alone (signed_birth _) sample_opens) raised) finished
  exact signed_alone early (.pinned (by decide))

/-- A completed run that is lost before its release keeps its slot, and so does a
run whose credential source raised. -/
theorem no_leaked_slot_cut :
    (∃ labels, ∃ runs : Runs sampleHost, Run Runs.SignedStep Runs.initial labels runs ∧
      lastCommitted (told labels) sampleSubmission.dispatch = some sampleAnswered ∧ closes sampleAnswered = true ∧
      Returned labels sampleSubmission.dispatch ∧ ¬ NoLeak labels runs sampleSubmission.dispatch) ∧
    ∃ labels, ∃ runs : Runs sampleHost, Run Runs.SignedStep Runs.initial labels runs ∧
      contacts (told labels) sampleSubmission.dispatch = 0 ∧ .concluded sampleSubmission.dispatch ∈ signs labels ∧
      ¬ NoLeak labels runs sampleSubmission.dispatch := by
  obtain ⟨reserved, -, final, -⟩ := sample_kept_slots
  have taken (store : Store) (same : store.reservations = sampleStore.reservations) :
      ∃ row ∈ store.reservations, row.dispatch = sampleSubmission.dispatch ∧ row.active = true := by
    obtain ⟨row, listed, pair⟩ := List.mem_map.mp (reserved ▸ List.mem_singleton_self _)
    rw [same]
    exact ⟨row, listed, congrArg Prod.fst pair, congrArg Prod.snd pair⟩
  have mine : sampleAnswered.dispatch = sampleSubmission.dispatch := by simp [sampleAnswered, sampleStarted, sampleClaimed]
  have last : lastCommitted (told sampleCut) sampleSubmission.dispatch = some sampleAnswered := by
    simp [sampleCut, told, lastCommitted, mine]
  have returned : Returned sampleCut sampleSubmission.dispatch := Or.inl (by simp [sampleCut, signs])
  have raised : .raised sampleSubmission.dispatch .timeout ∈ signs sampleRaise := by simp [sampleRaise, signs, sampleClaimed]
  have concluded : .concluded sampleSubmission.dispatch ∈ signs sampleRaise := by
    simp [sampleRaise, signs, sampleFailed, sampleClaimed]
  refine ⟨⟨sampleCut, _, sample_cut, last, final, returned, fun safe => ?_⟩,
    ⟨sampleRaise, _, sample_raise, by simp [sampleRaise, told, contacts, Label.contact], concluded, fun safe => ?_⟩⟩
  · obtain ⟨row, listed, same, active⟩ := taken sampleCompleted
      ((Store.update_reservations sample_completed).trans (Store.update_reservations sample_started))
    have inactive := safe.terminal sampleAnswered last final returned row listed same
    simp [active] at inactive
  · obtain ⟨row, listed, same, active⟩ := taken sampleUncontacted (Store.update_reservations sample_uncontacted)
    have inactive := safe.uncontacted (Or.inr ⟨.timeout, raised⟩) concluded row listed same
    simp [active] at inactive

end Switchyard.DirectApi
