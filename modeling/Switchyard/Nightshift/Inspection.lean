import Switchyard.Nightshift.Sealing

/-! Looking at a terminal attempt: `collect` and `finalize_occurrence` give its receipt
back, while `status` takes the thread in again and runs into the guard of the store. -/

namespace Switchyard.Nightshift
open Library Json Runner AppServer Program

/-- The App Server still reports the thread and the turn of the attempt. -/
structure Reports (row : AttemptRow) (answer : Members) : Prop where
  thread : ∃ thread threadId turns turn turnId, orEmpty (Json.get answer "thread") = .obj thread ∧
    row.threadId = some threadId ∧ Json.get thread "id" = .str threadId ∧ Json.get thread "turns" = .arr turns ∧
    .obj turn ∈ turns ∧ row.turnId = some turnId ∧ Json.get turn "id" = .str turnId

/-- What an inspection of a terminal attempt may be answered. -/
def InspectedReply (host : Host) (row : AttemptRow) : (question : Question) → question.Reply → Prop
  | .select id => fun answer => id = row.attemptId → answer = some row
  | .update id _ => fun answer => id = row.attemptId → answer = .error (some .terminal)
  | .events id => fun answer => id = row.attemptId → ∀ raw ∈ answer, ∃ value, loads host raw = .ok value
  | .request method _ => fun answer => method = "thread/read" → ∃ members, answer = .ok members ∧ Reports row members
  | .diagnostics => fun answer => answer = []
  | .next _ => fun answer => answer = none
  | .quiesce => fun answer => ∃ cut, answer = .cut cut ∧ cut.confirmed = true
  | _ => fun _ => True

/-- An inspection never waits, and writes to nothing but its attempt. -/
def inspection (host : Host) (row : AttemptRow) : Rules Question.Reply where
  allowed _
    | .stall | .insert _ | .append _ | .directory _ => False
    | .update id _ => id = row.attemptId
    | _ => True
  credible _ exchange := InspectedReply host row exchange.question exchange.answer

variable {setting : Setting} {history : History} {binding : Members} {row : AttemptRow} {attempt : Attempt} {receipt : Json}

/-- The terminal attempt that is looked at, with its receipt. -/
structure Inspected (host : Host) (binding : Members) (row : AttemptRow) (attempt : Attempt) (receipt : Json) : Prop where
  valid : validateBinding binding = .ok ()
  named : row.attemptId = attemptId binding
  retained : row.attempt host binding = .ok attempt
  terminal : row.status = .terminal
  sealed : attempt.terminalReceipt = some receipt
  turned : row.turnId ≠ some []

abbrev Looks (setting : Setting) (row : AttemptRow) {α : Type} (returned : α → Prop) (raised : Prop) (call : Call α) (history : History) : Prop :=
  Keeps (inspection setting.host row) (fun value _ => returned value) (fun _ _ => raised) call history

theorem load_looks {raised : Prop} (inspected : Inspected setting.host binding row attempt receipt) :
    Looks setting row (fun found => found = attempt) raised (load setting.host binding) history := by
  unfold load
  refine .bind (.lift (fun _ _ => ?_) fun failure failed => ?_)
  · refine .bind (.ask trivial fun answer same => .pure ?_)
    obtain rfl := same inspected.named.symm
    exact .lift (fun found read => Except.ok.inj (read.symm.trans inspected.retained)) fun failure failed =>
      nomatch failed.symm.trans inspected.retained
  · exact nomatch failed.symm.trans inspected.valid

theorem mapM_loads {host : Host} : ∀ {raws : List Bytes}, (∀ raw ∈ raws, ∃ value, loads host raw = .ok value) →
    ∃ values, raws.mapM (loads host) = .ok values
  | [], _ => ⟨[], rfl⟩
  | raw :: rest, each => by
    obtain ⟨value, first⟩ := each raw List.mem_cons_self
    obtain ⟨values, later⟩ := mapM_loads fun other listed => each other (List.mem_cons_of_mem _ listed)
    refine ⟨value :: values, ?_⟩
    rw [List.mapM_cons, first]
    change (rest.mapM (loads host) >>= fun values => pure (value :: values)) = _
    rw [later]
    rfl

theorem result_looks (inspected : Inspected setting.host binding row attempt receipt) :
    Looks setting row (fun value => Json.get value "terminal_receipt" = receipt) False (result setting.host binding) history := by
  unfold result
  refine .seq (load_looks inspected) fun found after same => ?_
  subst same
  refine .bind (.ask trivial fun raws legible => .pure ?_)
  obtain ⟨values, read⟩ := mapM_loads (legible inspected.named.symm)
  refine .bind (.lift (fun events _ => .pure ?_) fun failure failed => nomatch read.symm.trans failed)
  simp [get_object_cons, inspected.sealed]

theorem status_attempt (inspected : Inspected setting.host binding row attempt receipt) : attempt.status ≠ .indeterminate := by
  obtain ⟨_, _, _, _, _, _, _, _, _, rfl⟩ := AttemptRow.attempt_ok inspected.retained
  intro lost
  exact nomatch inspected.terminal.symm.trans lost

theorem drain_looks (inspected : Inspected setting.host binding row attempt receipt) {rounds : Nat} (enough : 0 < rounds) :
    Looks setting row (fun _ => True) False (drain setting.host setting.adapter binding rounds) history := by
  obtain ⟨more, rfl⟩ := Nat.exists_eq_add_of_lt enough
  unfold drain
  refine .bind (.ask trivial fun diagnostics clear => .pure ?_)
  obtain rfl : diagnostics = [] := clear
  refine .seq (load_looks inspected) fun found after same => ?_
  subst same
  refine .ite (fun _ => .pure trivial) fun _ => ?_
  have requests {history : History} : Looks setting row (fun goes => goes = true) False
      (drainRequests setting.host setting.adapter binding (0 + more + 1)) history := by
    refine .bind (.ask trivial fun taken empty => .pure ?_)
    obtain rfl : taken = none := empty
    exact .pure rfl
  refine .seq requests fun goes after going => ?_
  subst going
  refine .bind (.ask trivial fun taken empty => .pure ?_)
  obtain rfl : taken = none := empty
  exact .pure trivial

theorem finalizeAcquisition_looks (inspected : Inspected setting.host binding row attempt receipt) (enough : 0 < setting.rounds) :
    Looks setting row (fun _ => True) False (finalizeAcquisition setting binding) history := by
  unfold finalizeAcquisition
  refine .bind (.ask trivial fun quiesced clean => .pure ?_)
  obtain ⟨cut, rfl, confirmed⟩ := clean
  have drained {history : History} : Looks setting row (fun goes => goes = true) False (drainRetained setting binding) history :=
    .handling (.seq (drain_looks inspected enough) fun _ _ _ => .pure rfl) (fun _ _ _ never _ => never.elim) fun _ _ never _ => never
  refine .seq drained fun goes after going => ?_
  subst going
  change Looks setting row (fun _ => True) False (judgeCut setting binding cut) _
  unfold judgeCut
  refine .seq (load_looks inspected) fun found after same => ?_
  subst same
  exact .ite (fun unclean => nomatch confirmed.symm.trans unclean.1) fun _ => .pure trivial

theorem finalizeOccurrence_looks (inspected : Inspected setting.host binding row attempt receipt) (enough : 0 < setting.rounds) :
    Looks setting row (fun value => Json.get value "terminal_receipt" = receipt) False (finalizeOccurrence setting binding) history :=
  .seq (finalizeAcquisition_looks inspected enough) fun _ _ _ => result_looks inspected

theorem collect_looks (inspected : Inspected setting.host binding row attempt receipt) :
    Looks setting row (fun value => Json.get value "terminal_receipt" = receipt) False (collect setting binding) history := by
  unfold collect
  refine .seq (load_looks inspected) fun found after same => ?_
  subst same
  exact .ite (fun _ => result_looks inspected) fun unsealed => absurd (by rw [inspected.sealed]; rfl) unsealed

/-! What does not come back. -/

theorem update_looks {changes : Changes} (inspected : Inspected setting.host binding row attempt receipt) :
    Looks setting row (fun _ => False) True (update (attemptId binding) changes) history := by
  unfold update
  refine .bind (.ask inspected.named.symm fun answer refused => .pure ?_)
  obtain rfl := refused inspected.named.symm
  exact .raise trivial

theorem markIndeterminate_looks {message : Text} (inspected : Inspected setting.host binding row attempt receipt) :
    Looks setting row (fun _ => False) True (markIndeterminate setting.host setting.adapter binding message) history := by
  unfold markIndeterminate
  exact .seq (load_looks inspected) fun _ _ _ => .seq (update_looks inspected) fun _ _ never => never.elim

theorem selectTurn_found {turnId : Text} {turn : Members} : ∀ {turns : List Json}, .obj turn ∈ turns →
    Json.get turn "id" = .str turnId → selectTurn turnId turns ≠ .ok none
  | first :: rest, listed, named, missed => by
    unfold selectTurn at missed
    obtain ⟨members, shape, chosen⟩ := bind_ok.mp missed
    obtain rfl := dict_ok shape
    split at chosen
    next => cases chosen
    next other =>
      rcases List.mem_cons.mp listed with same | later
      · cases same
        exact other (equal_text.mpr named)
      · exact selectTurn_found later named chosen

theorem ingestThread_looks {thread : Members} {evidence : Bytes} (inspected : Inspected setting.host binding row attempt receipt)
    {turns : List Json} {turn : Members} {turnId : Text} (shape : Json.get thread "turns" = .arr turns) (listed : .obj turn ∈ turns)
    (bound : row.turnId = some turnId) (named : Json.get turn "id" = .str turnId) :
    Looks setting row (fun _ => False) True (ingestThread setting attempt thread evidence) history := by
  have kept : attempt.turnId = some turnId := by
    obtain ⟨_, _, _, _, _, _, _, _, _, rfl⟩ := AttemptRow.attempt_ok inspected.retained
    exact bound
  have same := (attempt_named inspected.valid inspected.retained).2
  unfold ingestThread
  refine .ite (fun lost => absurd lost (status_attempt inspected)) fun _ => ?_
  split
  next none => exact nomatch none.symm.trans kept
  next empty =>
    cases kept.symm.trans empty
    exact absurd bound inspected.turned
  next other _ found =>
    cases kept.symm.trans found
    rw [shape]
    refine .bind (.lift (fun chosen selected => ?_) fun _ _ => trivial)
    cases chosen with
    | none => exact absurd selected (selectTurn_found listed named)
    | some turn =>
      refine .bind (.lift (fun _ _ => ?_) fun _ _ => trivial)
      refine .bind (.lift (fun _ _ => ?_) fun _ _ => trivial)
      refine .bind (.lift (fun maximum _ => ?_) fun _ _ => trivial)
      refine .bind (.lift (fun bounded _ => ?_) fun _ _ => trivial)
      refine .bind (.lift (fun completed _ => ?_) fun _ _ => trivial)
      rw [same]
      exact .seq (update_looks inspected) fun _ _ never => never.elim

theorem status_looks (inspected : Inspected setting.host binding row attempt receipt) (bound : row.threadId.isSome = true) :
    Looks setting row (fun _ => False) True (status setting binding) history := by
  obtain ⟨threadId, bound⟩ := Option.isSome_iff_exists.mp bound
  have kept : attempt.threadId = some threadId := by
    obtain ⟨_, _, _, _, _, _, _, _, _, rfl⟩ := AttemptRow.attempt_ok inspected.retained
    exact bound
  have inspects {history : History} : Looks setting row (fun _ => False) True (inspectThread setting binding attempt threadId) history := by
    unfold inspectThread readThread Ask.request
    refine .bind (.bind (.bind (.ask trivial fun answer reported => .pure ?_)))
    obtain ⟨members, rfl, thread, otherId, turns, turn, turnId, shape, boundThread, _, listing, listed, boundTurn, named⟩ := reported rfl
    refine .pure (.bind (.lift (fun found same => ?_) fun _ _ => trivial))
    cases (dict_ok same).symm.trans shape
    refine .bind (.lift (fun _ _ => .pure ?_) fun _ _ => trivial)
    refine .bind (.lift (fun evidence _ => ?_) fun _ _ => trivial)
    exact .ite (fun _ => markIndeterminate_looks inspected) fun _ => ingestThread_looks inspected listing listed boundTurn named
  unfold status
  refine .seq (load_looks inspected) fun found after same => ?_
  subst same
  refine .ite (fun lost => absurd lost (status_attempt inspected)) fun _ => ?_
  rw [kept]
  exact .seq inspects fun _ _ (never : False) => never.elim

/-- The three calls that look at an attempt. -/
inductive Look
  | status
  | collect
  | finalizeOccurrence
deriving DecidableEq

def Look.operation (binding : Members) : Look → Operation
  | .status => .status binding
  | .collect => .collect binding
  | .finalizeOccurrence => .finalizeOccurrence binding

/-- An App Server that reports the retained thread and turn, has nothing pending and makes a clean cut. -/
def Reporting (host : Host) (row : AttemptRow) (environment : History → (question : Question) → Option question.Reply) : Prop :=
  ∀ history question, AdapterStore.empty.transact question = none → (inspection host row).allowed history question →
    ∃ answer, environment history question = some answer ∧ InspectedReply host row question answer

theorem canonical_nonempty {host : Host} {members : Members} : canonical host (.obj members) ≠ .ok [] := by
  intro written
  have dumped := canonical_ok.mp written
  unfold Rfc8785.dumps at dumped
  obtain ⟨_, -, dumped⟩ := bind_ok.mp dumped
  obtain ⟨_, -, dumped⟩ := bind_ok.mp dumped
  cases dumped

theorem loads_ok {host : Host} {raw : Bytes} {value : Json} : loads host raw = .ok value ↔ host.loads raw = .ok value := by
  unfold loads
  split <;> simp_all

/-- A terminal attempt whose documents are read is an attempt with a receipt. -/
theorem inspected_run {labels : Labels} {pool : AdapterPool} (run : Run (Steps setting.host setting.unicode) ⟨.empty, []⟩ labels pool)
    (found : pool.store.find (attemptId binding) = some row) (terminal : row.status = .terminal)
    (valid : validateBinding binding = .ok ())
    (bound : ∃ retained, setting.host.loads row.binding = .ok retained ∧ equal retained (.obj binding) = true)
    (decodes : ∀ raw ∈ pool.store.documents row, ∃ members, setting.host.loads raw = .ok (.obj members)) :
    ∃ raw attempt receipt, row.terminalReceipt = some raw ∧ setting.host.loads raw = .ok receipt ∧
      Inspected setting.host binding row attempt receipt := by
  have ruled := run_ruled run
  obtain ⟨listed, named⟩ := AdapterStore.find_some found
  have borne := ruled.holds.borne row listed
  obtain ⟨raw, sealed⟩ := Option.isSome_iff_exists.mp (borne.receipt.mpr terminal)
  obtain ⟨retained, read, same⟩ := bound
  obtain ⟨request, requested⟩ := decodes row.request (by simp [AdapterStore.documents])
  obtain ⟨backend, backed⟩ := decodes row.backend (by simp [AdapterStore.documents])
  obtain ⟨receipt, received⟩ := decodes raw (by simp [AdapterStore.documents, sealed])
  have present : raw ≠ [] := by
    rintro rfl
    obtain ⟨changes, ⟨history, made⟩, stored⟩ := borne.sealed [] sealed
    obtain ⟨lawful, -, -⟩ := ruled.lawful _ _ made
    cases (lawful : Lawful setting.host setting.unicode history row.attemptId changes) with
    | sealed _ _ _ written =>
      cases stored
      exact canonical_nonempty written
    | _ => cases stored
  have kept : row.receipt setting.host = .ok (some (.obj receipt)) := by
    unfold AttemptRow.receipt
    split
    next none => exact nomatch none.symm.trans sealed
    next empty => exact absurd (Option.some.inj (sealed.symm.trans empty)) present
    next other _ known =>
      cases sealed.symm.trans known
      rw [loads_ok.mpr received]
      rfl
  have loaded : row.attempt setting.host binding = .ok ⟨retained.members?.getD [], .obj request, row.briefRaw, .obj backend,
      row.accountClass, row.providerIdentity, row.modelIdentity, row.sessionIdentity, row.threadId, row.turnId, row.queueId,
      row.clientMessageId, row.status, row.startedAt, row.finalMessage, some (.obj receipt)⟩ := by
    unfold AttemptRow.attempt
    rw [loads_ok.mpr read, loads_ok.mpr requested, loads_ok.mpr backed, kept]
    change (demand (equal retained (.obj binding)) "attempt binding substitution" >>= fun _ => _) = _
    rw [same]
    rfl
  exact ⟨raw, _, .obj receipt, sealed, received, valid, named, loaded, terminal, rfl, borne.turned⟩

/-- The store and a reporting App Server answer an inspection, and the store stays as it is. -/
theorem inspection_answers {environment : History → (question : Question) → Option question.Reply} {before : AdapterStore}
    (found : before.find row.attemptId = some row) (terminal : row.status = .terminal)
    (legible : ∀ raw ∈ before.eventsOf row.attemptId, ∃ value, loads setting.host raw = .ok value)
    (reporting : Reporting setting.host row environment) (history : History) (question : Question)
    (allowed : (inspection setting.host row).allowed history question) :
    ∃ answer, AdapterStore.world environment before history question = some (answer, before) ∧
      InspectedReply setting.host row question answer := by
  have elsewhere (outside : before.transact question = none) (empty : AdapterStore.empty.transact question = none) :
      ∃ answer, AdapterStore.world environment before history question = some (answer, before) ∧
        InspectedReply setting.host row question answer := by
    obtain ⟨answer, answered, credible⟩ := reporting history question empty allowed
    exact ⟨answer, by rw [AdapterStore.world, outside]; simp [answered], credible⟩
  cases question with
  | insert => exact absurd allowed id
  | append => exact absurd allowed id
  | select id => exact ⟨before.find id, rfl, fun same => same ▸ found⟩
  | events id => exact ⟨before.eventsOf id, rfl, fun same => same ▸ legible⟩
  | update id changes =>
    obtain rfl : id = row.attemptId := allowed
    refine ⟨.error (some .terminal), ?_, fun _ => rfl⟩
    have refused : before.update row.attemptId changes = (.error (some .terminal), before) := by
      rw [AdapterStore.update, found]
      simp [terminal, Changes.admits_final]
    exact congrArg some refused
  | _ => exact elsewhere rfl rfl

/-- In every reachable store, a call that looks at a terminal attempt changes nothing; `collect` and `finalize_occurrence`
return the stored receipt, and `status` raises. -/
theorem inspection_harmless_iff {labels : Labels} {pool : AdapterPool} {look : Look}
    {environment : History → (question : Question) → Option question.Reply}
    (run : Run (Steps setting.host setting.unicode) ⟨.empty, []⟩ labels pool)
    (found : pool.store.find (attemptId binding) = some row) (terminal : row.status = .terminal)
    (threaded : row.threadId.isSome = true) (valid : validateBinding binding = .ok ())
    (bound : ∃ retained, setting.host.loads row.binding = .ok retained ∧ equal retained (.obj binding) = true)
    (decodes : ∀ raw ∈ pool.store.documents row, ∃ members, setting.host.loads raw = .ok (.obj members))
    (enough : 0 < setting.rounds) (reporting : Reporting setting.host row environment) :
    ∃ outcome final, ((look.operation binding).call setting).execute (AdapterStore.world environment) pool.store [] =
        some (outcome, pool.store, final) ∧
      ((∃ value raw, outcome = .ok value ∧ row.terminalReceipt = some raw ∧
        setting.host.loads raw = .ok (Json.get value "terminal_receipt")) ↔ look ≠ .status) := by
  obtain ⟨raw, attempt, receipt, sealed, received, inspected⟩ := inspected_run run found terminal valid bound decodes
  have known : pool.store.find row.attemptId = some row := inspected.named ▸ found
  have legible : ∀ raw ∈ pool.store.eventsOf row.attemptId, ∃ value, loads setting.host raw = .ok value := fun raw listed =>
    (decodes raw (List.mem_append_right _ listed)).imp' _ fun _ read => loads_ok.mpr read
  have answers (store : AdapterStore) (history : History) (question : Question) (held : store = pool.store)
      (allowed : (inspection setting.host row).allowed history question) : ∃ answer after,
      AdapterStore.world environment store history question = some (answer, after) ∧
        (inspection setting.host row).credible history ⟨question, answer⟩ ∧ after = pool.store := by
    subst held
    obtain ⟨answer, answered, credible⟩ := inspection_answers known terminal legible reporting history question allowed
    exact ⟨answer, _, answered, credible, rfl⟩
  have returns (looks : Looks setting row (fun value => Json.get value "terminal_receipt" = receipt) False
      ((look.operation binding).call setting) []) :
      ∃ value final, ((look.operation binding).call setting).execute (AdapterStore.world environment) pool.store [] =
        some (.ok value, pool.store, final) ∧ Json.get value "terminal_receipt" = receipt := by
    obtain ⟨outcome, after, final, executed, same, ok, error⟩ := looks.executes answers rfl
    subst same
    cases outcome with
    | ok value => exact ⟨value, final, executed, ok value rfl⟩
    | error failure => exact (error failure rfl).elim
  cases look with
  | status =>
    obtain ⟨outcome, after, final, executed, same, ok, -⟩ := (status_looks inspected threaded).executes answers rfl
    subst same
    exact ⟨outcome, final, executed, fun ⟨value, _, returned, _⟩ => (ok value returned).elim, fun other => absurd rfl other⟩
  | collect =>
    obtain ⟨value, final, executed, same⟩ := returns (collect_looks inspected)
    exact ⟨.ok value, final, executed, nofun, fun _ => ⟨value, raw, rfl, sealed, same ▸ received⟩⟩
  | finalizeOccurrence =>
    obtain ⟨value, final, executed, same⟩ := returns (finalizeOccurrence_looks inspected enough)
    exact ⟨.ok value, final, executed, nofun, fun _ => ⟨value, raw, rfl, sealed, same ▸ received⟩⟩

theorem sample_reporting {host : Host} (threaded : row.threadId = some (text "t")) (turned : row.turnId = some (text "u")) :
    Reporting host row (sampleEnvironment sampleWords) := by
  intro history question outside allowed
  cases question with
  | request method params =>
    refine ⟨_, rfl, fun read => ⟨_, rfl, ?_⟩⟩
    subst read
    exact ⟨_, text "t", [sampleTurn sampleWords], _, text "u", rfl, threaded, rfl, rfl, List.mem_singleton_self _, turned, rfl⟩
  | diagnostics | next => exact ⟨_, rfl, rfl⟩
  | quiesce => exact ⟨_, rfl, _, rfl, by decide⟩
  | uuid | now => exact ⟨_, rfl, trivial⟩
  | insert | update | append | select | events => cases outside
  | directory | stall => exact absurd allowed id

/-- `status` of a terminal attempt raises, though the App Server reports the thread and the turn as they are retained. -/
theorem inspection_harmless_status : ∃ labels pool row, Run (Steps adapterHost sampleUnicode) ⟨.empty, []⟩ labels pool ∧
    pool.store.find (text "a") = some row ∧ row.status = .terminal ∧ Reporting adapterHost row (sampleEnvironment sampleWords) ∧
    ∃ final, ((Operation.status sampleAttempt.binding).call (sampleSetting adapterHost)).execute
      (AdapterStore.world (sampleEnvironment sampleWords)) pool.store [] =
        some (.error (refused "terminal attempt transition is terminally prohibited"), pool.store, final) := by
  obtain ⟨labels, pool, row, run, found, sealed⟩ := sample_sealed
  refine ⟨labels, pool, row, run, found, sealed.terminal, sample_reporting sealed.threaded sealed.turned, ?_⟩
  obtain ⟨⟨outcome, after, final⟩, executed, same⟩ := Option.map_eq_some_iff.mp sealed.status
  obtain ⟨why, rfl⟩ := Prod.mk.inj same
  cases outcome with
  | ok => cases why
  | error failure => cases failure with
    | protocol message =>
      cases why
      exact ⟨final, executed⟩
    | other => cases why

theorem inspection_harmless_iff_sample : ∃ labels pool row, Run (Steps adapterHost sampleUnicode) ⟨.empty, []⟩ labels pool ∧
    pool.store.find (text "a") = some row ∧ row.status = .terminal ∧
    ∃ outcome final, ((Operation.collect sampleAttempt.binding).call (sampleSetting adapterHost)).execute
      (AdapterStore.world (sampleEnvironment sampleWords)) pool.store [] = some (outcome, pool.store, final) ∧
      ∃ value raw, outcome = .ok value ∧ row.terminalReceipt = some raw ∧
        adapterHost.loads raw = .ok (Json.get value "terminal_receipt") := by
  obtain ⟨labels, pool, row, run, found, sealed⟩ := sample_sealed
  have bound : adapterHost.loads row.binding = .ok (.obj sampleAttempt.binding) := by simp only [adapterHost, sealed.bound]
  have decodes (raw : Bytes) (listed : raw ∈ pool.store.documents row) : ∃ members, adapterHost.loads raw = .ok (.obj members) := by
    obtain ⟨document, first⟩ := Option.isSome_iff_exists.mp (sealed.read raw listed)
    exact ⟨document, by simp only [adapterHost, first]⟩
  obtain ⟨outcome, final, executed, harmless⟩ := @inspection_harmless_iff (sampleSetting adapterHost) sampleAttempt.binding row
    labels pool .collect _ run found sealed.terminal (sealed.threaded ▸ rfl) (by decide +kernel) ⟨_, bound, by decide +kernel⟩ decodes
    (by decide) (sample_reporting sealed.threaded sealed.turned)
  exact ⟨labels, pool, row, run, found, sealed.terminal, outcome, final, executed, harmless.mpr nofun⟩

end Switchyard.Nightshift
