import Mathlib.Algebra.Order.BigOperators.Group.List
import Mathlib.Tactic.Linarith
import Switchyard.DirectApi.Store
import Switchyard.Library.Transition

/-! The spend ledger over every order of claims, updates and slot closings: a
budget keeps its first configuration and is never reserved beyond it. -/

namespace Switchyard.DirectApi
open Library Json

variable {host : Host}

/-- One transaction of any connection, with its outcome. -/
inductive Event (host : Host)
  | claim (submission : Submission host) (now : Nanoseconds) (outcome : Except Failure Claim)
  | update (record : RunRecord) (outcome : Except Failure Unit)
  | closeConcurrencySlot (record : RunRecord) (outcome : Except Failure Unit)

def Store.Step (before : Store) (event : Event host) (after : Store) : Prop :=
  match event with
  | .claim submission now outcome => Store.claim host submission now before = (outcome, after)
  | .update record outcome => Store.update host record before = (outcome, after)
  | .closeConcurrencySlot record outcome => Store.closeConcurrencySlot record before = (outcome, after)

theorem claim_step (submission : Submission host) (now : Nanoseconds) (store : Store) :
    Store.Step store (.claim submission now (Store.claim host submission now store).1)
      (Store.claim host submission now store).2 := rfl

/-- The submission of a claim that opened a run. -/
def Event.granted : Event host → Option (Submission host)
  | .claim submission _ (.ok (.fresh _)) => some submission
  | _ => none

def Submission.drawsOn (submission : Submission host) (scope : Text) : Bool :=
  isEnrolled submission.request && match reservationScope host submission with
    | .ok name => name == scope
    | .error _ => false

/-- The accepted claims on one budget, in the order of their transactions. -/
def grants (events : List (Event host)) (scope : Text) : List (Submission host) :=
  (events.filterMap Event.granted).filter fun submission => submission.drawsOn scope

theorem grants_append (events : List (Event host)) (event : Event host) (scope : Text) :
    grants (events ++ [event]) scope = grants events scope ++
      (event.granted.toList.filter fun submission => submission.drawsOn scope) := by
  unfold grants
  rw [List.filterMap_append, List.filter_append]
  cases seen : event.granted <;> simp [seen]

def LedgerConfig.json (limits : LedgerConfig) : Json := .obj (object [
  ("maximum_concurrent_requests", .int limits.maximumConcurrentRequests),
  ("spend_budget_micros", .int limits.spendBudgetMicros),
  ("prompt_token_price_micros", .int limits.promptTokenPriceMicros),
  ("completion_token_price_micros", .int limits.completionTokenPriceMicros)])

/-- The canonicaliser writes the members in the order of their keys. -/
private theorem configText {limits : LedgerConfig} (canonical : Rfc8785.Canonical limits.json) :
    Rfc8785.dumps host limits.json = .ok (ascii "\x7b" ++
      ((ascii "\"completion_token_price_micros\"" ++ ascii ":" ++
        Rfc8785.decimal limits.completionTokenPriceMicros) ++ ascii "," ++
      ((ascii "\"maximum_concurrent_requests\"" ++ ascii ":" ++
        Rfc8785.decimal limits.maximumConcurrentRequests) ++ ascii "," ++
      ((ascii "\"prompt_token_price_micros\"" ++ ascii ":" ++
        Rfc8785.decimal limits.promptTokenPriceMicros) ++ ascii "," ++
      (ascii "\"spend_budget_micros\"" ++ ascii ":" ++
        Rfc8785.decimal limits.spendBudgetMicros)))) ++ ascii "\x7d") := by
  have each := Rfc8785.canonicalMembers_iff.mp canonical
  simp only [object, List.map_cons, List.map_nil, List.forall_mem_cons, Rfc8785.Canonical] at each
  obtain ⟨⟨-, concurrency⟩, ⟨-, budget⟩, ⟨-, prompt⟩, ⟨-, completion⟩, -⟩ := each
  simp only [LedgerConfig.json, object, List.map_cons, List.map_nil]
  rw [Rfc8785.dumps]
  simp only [Rfc8785.dumpMembers, Rfc8785.dumps_int concurrency, Rfc8785.dumps_int budget, Rfc8785.dumps_int prompt,
    Rfc8785.dumps_int completion]
  rfl

/-- Two configurations with the same bytes are the same configuration. -/
theorem config_inj {first last : LedgerConfig} {raw : Bytes} (left : Rfc8785.dumps host first.json = .ok raw)
    (right : Rfc8785.dumps host last.json = .ok raw) : first = last := by
  rw [configText ((Rfc8785.dumps_accepted host _).mp ⟨raw, left⟩)] at left
  rw [configText ((Rfc8785.dumps_accepted host _).mp ⟨raw, right⟩)] at right
  have same := Except.ok.inj (left.trans right.symm)
  simp only [List.append_assoc, List.append_cancel_left_eq] at same
  obtain ⟨completion, same⟩ := Rfc8785.decimal_delimited 44 rfl same
  obtain ⟨concurrency, same⟩ := Rfc8785.decimal_delimited 44 rfl (List.append_cancel_left (List.append_cancel_left same))
  obtain ⟨prompt, same⟩ := Rfc8785.decimal_delimited 44 rfl (List.append_cancel_left (List.append_cancel_left same))
  obtain ⟨budget, -⟩ := Rfc8785.decimal_delimited 125 rfl (List.append_cancel_left (List.append_cancel_left same))
  cases first
  cases last
  simp_all

theorem configBytes_iff {request : Members} (enrolled : Enrolled request) {config : Bytes} :
    configBytes host request = .ok config ↔ Rfc8785.dumps host (ledgerConfig request).json = .ok config := by
  unfold configBytes
  rw [canonical_ok, enrolled.concurrency, enrolled.budget, enrolled.promptPrice, enrolled.completionPrice]
  rfl

/-- The store pins these limits for the budget. -/
def Store.Pins (host : Host) (store : Store) (scope : Text) (limits : LedgerConfig) : Prop :=
  ∃ config, store.pinned scope = some config ∧ Rfc8785.dumps host limits.json = .ok config

/-- What the history of the store says about its ledger tables. -/
structure Ledger (events : List (Event host)) (store : Store) : Prop where
  rows : ∀ scope, (store.reservations.filter fun row => row.budget == scope).map
      (fun row => (row.dispatch, row.reservedMicros)) =
    (grants events scope).map fun submission => (submission.dispatch, int submission.request "reserved_spend_micros")
  pinned : ∀ scope, store.pinned scope =
    (grants events scope).head?.bind fun submission => (configBytes host submission.request).toOption
  agree : ∀ scope, ∀ submission ∈ grants events scope,
    ∃ config, store.pinned scope = some config ∧ configBytes host submission.request = .ok config
  budget : ∀ scope limits, store.Pins host scope limits → store.reserved scope ≤ limits.spendBudgetMicros
  concurrency : ∀ scope limits, store.Pins host scope limits →
    store.activeCount scope ≤ limits.maximumConcurrentRequests

private theorem pinned_append (store : Store) (scope other : Text) (config : Bytes) (after : Store)
    (configs : after.configs = store.configs ++ [⟨scope, config⟩]) (absent : store.pinned scope = none) :
    after.pinned other = if other = scope then some config else store.pinned other := by
  unfold Store.pinned at *
  rw [configs, List.find?_append]
  by_cases same : other = scope
  · subst same
    have missing := Option.map_eq_none_iff.mp absent
    simp [missing]
  · have differ : (scope == other) = false := by simpa using Ne.symm same
    simp only [List.find?_cons, differ, List.find?_nil, Option.or_none, same, if_false]

/-- A transaction that touches neither ledger table keeps every ledger fact. -/
private theorem Ledger.untouched {events : List (Event host)} {event : Event host} {before after : Store}
    (ledger : Ledger events before) (grantsSame : ∀ scope, grants (events ++ [event]) scope = grants events scope)
    (configs : after.configs = before.configs) (reservations : after.reservations = before.reservations) :
    Ledger (events ++ [event]) after := by
  have pinnedSame : ∀ scope, after.pinned scope = before.pinned scope := by
    intro scope
    simp only [Store.pinned, configs]
  exact {
    rows := fun scope => by rw [reservations, grantsSame]; exact ledger.rows scope
    pinned := fun scope => by rw [pinnedSame, grantsSame]; exact ledger.pinned scope
    agree := fun scope => by rw [pinnedSame, grantsSame]; exact ledger.agree scope
    budget := fun scope limits pins => by
      simp only [Store.reserved, reservations]
      exact ledger.budget scope limits (by simpa only [Store.Pins, pinnedSame] using pins)
    concurrency := fun scope limits pins => by
      simp only [Store.activeCount, reservations]
      exact ledger.concurrency scope limits (by simpa only [Store.Pins, pinnedSame] using pins)
  }

private theorem drawsOn_scope {submission : Submission host} {scope : Text} (enrolled : isEnrolled submission.request = true)
    (within : reservationScope host submission = .ok scope) (other : Text) :
    submission.drawsOn other = (scope == other) := by
  simp only [Submission.drawsOn, enrolled, within, Bool.true_and]

/-- An enrolled claim was checked against the very limits that are pinned. -/
private theorem Ledger.reserving {events : List (Event host)} {before after : Store} (ledger : Ledger events before)
    {submission : Submission host} {now : Nanoseconds} {record : RunRecord} {scope : Text} {config : Bytes}
    (enrolled : isEnrolled submission.request = true) (reserving : Reserving host submission scope config before after)
    (reservations : after.reservations = before.reservations ++
      [⟨submission.dispatch, scope, int submission.request "reserved_spend_micros", true⟩]) :
    Ledger (events ++ [.claim submission now (.ok (.fresh record))]) after := by
  have limits := submission.admitted.enrolled enrolled
  have granted : ∀ other, grants (events ++ [.claim submission now (.ok (.fresh record))]) other =
      grants events other ++ if scope = other then [submission] else [] := by
    intro other
    by_cases same : scope = other
    · simp [grants_append, Event.granted, drawsOn_scope enrolled reserving.within, same]
    · simp [grants_append, Event.granted, drawsOn_scope enrolled reserving.within, same]
  have kept : ∀ other, scope ≠ other → after.pinned other = before.pinned other := by
    intro other differ
    rcases reserving.pinned with ⟨-, configs⟩ | ⟨absent, configs⟩
    · simp only [Store.pinned, configs]
    · rw [pinned_append before scope other config after configs absent, if_neg (Ne.symm differ)]
  have here : after.pinned scope = some config := by
    rcases reserving.pinned with ⟨found, configs⟩ | ⟨absent, configs⟩
    · rw [← found]
      simp only [Store.pinned, configs]
    · rw [pinned_append before scope scope config after configs absent, if_pos rfl]
  have same : ∀ found, after.Pins host scope found → found = ledgerConfig submission.request := by
    rintro found ⟨raw, pinned, encoded⟩
    obtain rfl := Option.some.inj (here.symm.trans pinned)
    exact config_inj encoded ((configBytes_iff limits).mp reserving.configured)
  have row : ∀ other, after.reservations.filter (fun row => row.budget == other) =
      before.reservations.filter (fun row => row.budget == other) ++ if scope = other then
        [⟨submission.dispatch, scope, int submission.request "reserved_spend_micros", true⟩] else [] := by
    intro other
    rw [reservations, List.filter_append]
    by_cases same : scope = other <;> simp [same]
  refine ⟨fun other => ?_, fun other => ?_, fun other => ?_, fun other found pins => ?_, fun other found pins => ?_⟩
  · rw [row, granted, List.map_append, List.map_append, ledger.rows]
    split <;> rfl
  · rw [granted]
    by_cases differ : scope = other
    · subst differ
      rw [here, if_pos rfl]
      cases first : grants events scope with
      | nil => simp [reserving.configured, Except.toOption]
      | cons head rest =>
        obtain ⟨earlier, pinned, configured⟩ := ledger.agree scope head (by simp [first])
        rcases reserving.pinned with ⟨found, -⟩ | ⟨absent, -⟩
        · obtain rfl := Option.some.inj (found.symm.trans pinned)
          simp [configured, Except.toOption]
        · cases absent.symm.trans pinned
    · rw [kept other differ, if_neg differ, List.append_nil, ledger.pinned]
  · intro claimed listed
    rw [granted] at listed
    by_cases differ : scope = other
    · subst differ
      rw [if_pos rfl] at listed
      rcases List.mem_append.mp listed with listed | listed
      · obtain ⟨earlier, pinned, configured⟩ := ledger.agree scope claimed listed
        rcases reserving.pinned with ⟨found, -⟩ | ⟨absent, -⟩
        · obtain rfl := Option.some.inj (found.symm.trans pinned)
          exact ⟨config, here, configured⟩
        · cases absent.symm.trans pinned
      · obtain rfl := List.mem_singleton.mp listed
        exact ⟨config, here, reserving.configured⟩
    · rw [if_neg differ, List.append_nil] at listed
      rw [kept other differ]
      exact ledger.agree other claimed listed
  · by_cases differ : scope = other
    · subst differ
      have affordable := reserving.affordable
      rw [same found pins]
      simp only [Store.reserved, row, if_pos, List.map_append, List.map_cons, List.map_nil, List.sum_append,
        List.sum_cons, List.sum_nil, Int.add_zero] at affordable ⊢
      exact affordable
    · simp only [Store.reserved, row, if_neg differ, List.append_nil]
      exact ledger.budget other found (by simpa only [Store.Pins, kept other differ] using pins)
  · by_cases differ : scope = other
    · subst differ
      have concurrent := reserving.concurrent
      rw [same found pins]
      simp only [Store.activeCount, reservations, List.filter_append, List.length_append] at concurrent ⊢
      simp only [ledgerConfig, List.filter_cons, List.filter_nil, beq_self_eq_true, Bool.and_self, if_true,
        List.length_cons, List.length_nil]
      omega
    · simp only [Store.activeCount, reservations, List.filter_append]
      have differs : (scope == other) = false := by simpa using differ
      simp only [List.filter_cons, List.filter_nil, differs, Bool.false_and, Bool.false_eq_true, if_false, List.append_nil]
      exact ledger.concurrency other found (by simpa only [Store.Pins, kept other differ] using pins)

/-- Closing a slot ends its concurrency and leaves what it reserved. -/
private theorem Ledger.closing {events : List (Event host)} {before : Store} (ledger : Ledger events before)
    (record : RunRecord) (outcome : Except Failure Unit) :
    Ledger (events ++ [.closeConcurrencySlot record outcome]) { before with
      reservations := before.reservations.map (Reservation.closed record.dispatch) } := by
  have grantsSame : ∀ scope, grants (events ++ [.closeConcurrencySlot record outcome]) scope = grants events scope := by
    intro scope
    simp [grants_append, Event.granted]
  have amounts : ∀ scope, ((before.reservations.map (Reservation.closed record.dispatch)).filter
        fun row => row.budget == scope).map (fun row => (row.dispatch, row.reservedMicros)) =
      (before.reservations.filter fun row => row.budget == scope).map (fun row => (row.dispatch, row.reservedMicros)) := by
    intro scope
    simp only [List.filter_map, List.map_map, Function.comp_def, Reservation.closed_dispatch,
      Reservation.closed_budget, Reservation.closed_reservedMicros]
  have fewer : ∀ scope, ((before.reservations.map (Reservation.closed record.dispatch)).filter
        fun row => row.budget == scope && row.active).length ≤
      (before.reservations.filter fun row => row.budget == scope && row.active).length := by
    intro scope
    simp only [List.filter_map, List.length_map, Function.comp_def, Reservation.closed_budget]
    refine (List.monotone_filter_right _ fun row => ?_).length_le
    simp only [Bool.and_eq_true]
    exact fun ⟨drawn, active⟩ => ⟨drawn, Reservation.active_of_closed active⟩
  refine ⟨fun scope => ?_, fun scope => ?_, fun scope => ?_, fun scope limits pins => ?_, fun scope limits pins => ?_⟩
  · rw [grantsSame]
    exact (amounts scope).trans (ledger.rows scope)
  · rw [grantsSame]
    exact ledger.pinned scope
  · rw [grantsSame]
    exact ledger.agree scope
  · have same := congrArg (fun rows => (rows.map Prod.snd).sum) (amounts scope)
    simp only [List.map_map, Function.comp_def] at same
    exact (le_of_eq same).trans (ledger.budget scope limits pins)
  · exact (Int.ofNat_le.mpr (fewer scope)).trans (ledger.concurrency scope limits pins)

theorem ledger_step {events : List (Event host)} {event : Event host} {before after : Store}
    (ledger : Ledger events before) (step : Store.Step before event after) : Ledger (events ++ [event]) after := by
  cases event with
  | claim submission now outcome =>
    have meets := Store.claim_meets submission now before
    cases outcome with
    | error failure =>
      obtain rfl := meets.raises step
      exact ledger.untouched (fun scope => by simp [grants_append, Event.granted]) rfl rfl
    | ok claim =>
      have claimed := meets.returns step
      cases claim with
      | retained value =>
        obtain ⟨rfl, -⟩ := claimed
        exact ledger.untouched (fun scope => by simp [grants_append, Event.granted]) rfl rfl
      | fresh record =>
        obtain ⟨row, opened⟩ := claimed
        rcases opened.ledger with ⟨plain, -, configs, reservations⟩ | ⟨enrolled, scope, config, -, reserving, reservations⟩
        · refine ledger.untouched (fun scope => ?_) configs reservations
          simp [grants_append, Event.granted, Submission.drawsOn, plain]
        · exact ledger.reserving enrolled reserving reservations
  | update record outcome =>
    have tables : after.configs = before.configs ∧ after.reservations = before.reservations := by
      unfold Store.Step Store.update at step
      cases encoded : canonical host (.obj record.members) with
      | error failure =>
        simp only [encoded, Effect.bind_apply, Effect.lift_error, Prod.mk.injEq] at step
        obtain ⟨-, rfl⟩ := step
        exact ⟨rfl, rfl⟩
      | ok raw =>
        simp only [encoded, Effect.bind_apply, Effect.lift_ok, Effect.modify_apply, Prod.mk.injEq] at step
        obtain ⟨-, rfl⟩ := step
        exact ⟨rfl, rfl⟩
    exact ledger.untouched (fun scope => by simp [grants_append, Event.granted]) tables.1 tables.2
  | closeConcurrencySlot record outcome =>
    simp only [Store.Step, Store.closeConcurrencySlot, Effect.modify_apply, Prod.mk.injEq] at step
    obtain ⟨-, rfl⟩ := step
    exact ledger.closing record outcome

private theorem ledger_empty : Ledger ([] : List (Event host)) Store.empty := by
  have unpinned : ∀ scope limits, ¬ Store.empty.Pins host scope limits := by
    rintro scope limits ⟨config, pinned, -⟩
    cases pinned
  refine ⟨fun _ => rfl, fun _ => rfl, fun scope submission listed => ?_, fun scope limits pins => ?_, fun scope limits pins => ?_⟩
  · cases listed
  · exact absurd pins (unpinned scope limits)
  · exact absurd pins (unpinned scope limits)

theorem ledger_run {events : List (Event host)} {store : Store} (run : Run Store.Step Store.empty events store) :
    Ledger events store :=
  run.invariant Ledger ledger_empty fun _ _ _ _ _ ledger step => ledger_step ledger step

private theorem pins_of_pinned {events : List (Event host)} {store : Store} (ledger : Ledger events store)
    {scope : Text} {limits : LedgerConfig} (pins : store.Pins host scope limits) {submission : Submission host}
    (granted : submission ∈ grants events scope) : limits = ledgerConfig submission.request := by
  obtain ⟨raw, found, encoded⟩ := pins
  obtain ⟨config, pinned, configured⟩ := ledger.agree scope submission granted
  obtain rfl := Option.some.inj (found.symm.trans pinned)
  obtain ⟨-, drawn⟩ := List.mem_filter.mp granted
  simp only [Submission.drawsOn, Bool.and_eq_true] at drawn
  exact config_inj encoded ((configBytes_iff (submission.admitted.enrolled drawn.1)).mp configured)

private theorem pinned_forever {events later : List (Event host)} {store after : Store} (ledger : Ledger events store)
    (final : Ledger (events ++ later) after) {scope : Text} {config : Bytes}
    (pinned : store.pinned scope = some config) : after.pinned scope = some config := by
  rw [ledger.pinned] at pinned
  rw [final.pinned]
  have appended : grants (events ++ later) scope = grants events scope ++ grants later scope := by
    simp [grants]
  rw [appended]
  cases first : grants events scope with
  | nil => simp [first] at pinned
  | cons head rest => simpa [first] using pinned

/-- What the tokens of one dispatch cost at the pinned prices. -/
def tokenCost (limits : LedgerConfig) (prompt completion : Int) : Int :=
  prompt * limits.promptTokenPriceMicros + completion * limits.completionTokenPriceMicros

private theorem cost_le_reserved {submission : Submission host} (enrolled : Enrolled submission.request)
    {prompt completion : Int} (promptBound : prompt ≤ int submission.request "maximum_prompt_tokens")
    (completionBound : completion ≤ int submission.request "maximum_completion_tokens") :
    tokenCost (ledgerConfig submission.request) prompt completion ≤ int submission.request "reserved_spend_micros" := by
  rw [enrolled.envelope]
  have promptPrice := enrolled.promptPositive
  have completionPrice := enrolled.completionPositive
  exact add_le_add (mul_le_mul_of_nonneg_right promptBound (by omega))
    (mul_le_mul_of_nonneg_right completionBound (by omega))

/-- What the ledger promises about one budget in one state of the store. -/
structure SpendSafe (events : List (Event host)) (store : Store) (scope : Text) : Prop where
  /-- The first accepted claim pins its configuration. -/
  pinnedFirst : store.pinned scope =
    (grants events scope).head?.bind fun submission => (configBytes host submission.request).toOption
  pinnedForever : ∀ (later : List (Event host)) (after : Store), Run Store.Step store later after →
    ∀ config, store.pinned scope = some config → after.pinned scope = some config
  /-- Every reservation of the budget belongs to one of its accepted claims. -/
  reservations : (store.reservations.filter fun row => row.budget == scope).map Reservation.dispatch =
    (grants events scope).map Submission.dispatch
  unpinned : store.pinned scope = none → store.reserved scope = 0 ∧ store.activeCount scope = 0
  reserved : ∀ limits, store.Pins host scope limits → store.reserved scope ≤ limits.spendBudgetMicros
  concurrency : ∀ limits, store.Pins host scope limits → store.activeCount scope ≤ limits.maximumConcurrentRequests
  refused : ∀ (submission : Submission host) now failure after,
    Store.claim host submission now store = (.error failure, after) → after = store
  /-- Whatever tokens its dispatches use within their own maxima, the budget covers them. -/
  cost : ∀ limits, store.Pins host scope limits → ∀ prompt completion : Text → Int,
    (∀ submission ∈ grants events scope,
      prompt submission.dispatch ≤ int submission.request "maximum_prompt_tokens" ∧
        completion submission.dispatch ≤ int submission.request "maximum_completion_tokens") →
    ((grants events scope).map fun submission =>
      tokenCost limits (prompt submission.dispatch) (completion submission.dispatch)).sum ≤ limits.spendBudgetMicros

/-- In every order of transactions by any number of connections no budget is overspent. -/
theorem spend_ledger_safety {events : List (Event host)} {store : Store} (run : Run Store.Step Store.empty events store)
    (scope : Text) : SpendSafe events store scope := by
  have ledger := ledger_run run
  have rows := congrArg (List.map Prod.fst) (ledger.rows scope)
  have amounts := congrArg (List.map Prod.snd) (ledger.rows scope)
  simp only [List.map_map, Function.comp_def] at rows amounts
  refine {
    pinnedFirst := ledger.pinned scope
    pinnedForever := fun later after more config pinned =>
      pinned_forever ledger (ledger_run (run.append more)) pinned
    reservations := rows
    unpinned := fun unpinned => ?_
    reserved := ledger.budget scope
    concurrency := ledger.concurrency scope
    refused := fun submission now failure after done => (Store.claim_meets submission now store).raises done
    cost := fun limits pins prompt completion within => ?_
  }
  · have nothing : grants events scope = [] := by
      refine List.eq_nil_iff_forall_not_mem.mpr fun submission granted => ?_
      obtain ⟨config, pinned, -⟩ := ledger.agree scope submission granted
      cases unpinned.symm.trans pinned
    have empty : (store.reservations.filter fun row => row.budget == scope) = [] := by
      rw [nothing] at rows
      exact List.map_eq_nil_iff.mp rows
    refine ⟨by simp [Store.reserved, empty], ?_⟩
    have fewer : (store.reservations.filter fun row => row.budget == scope && row.active) = [] := by
      rw [List.filter_eq_nil_iff] at empty ⊢
      exact fun row listed drawn => empty row listed (Bool.and_eq_true_iff.mp drawn).1
    simp [Store.activeCount, fewer]
  · refine le_trans ?_ (ledger.budget scope limits pins)
    simp only [Store.reserved, amounts]
    refine List.sum_le_sum fun submission granted => ?_
    rw [pins_of_pinned ledger pins granted]
    obtain ⟨-, drawn⟩ := List.mem_filter.mp granted
    simp only [Submission.drawsOn, Bool.and_eq_true] at drawn
    exact cost_le_reserved (submission.admitted.enrolled drawn.1) (within submission granted).1 (within submission granted).2

/-- One claim on an empty store, as it went. -/
def sampleClaim : Event sampleHost := .claim sampleSubmission 0 (Store.claim sampleHost sampleSubmission 0 Store.empty).1

def sampleScope : Text := text "sha256:cf04130765f9440a970c066379e4d6c47ad54955b24e0be27e4942c88fabc07e"

def sampleStore : Store := (Store.claim sampleHost sampleSubmission 0 Store.empty).2

def sampleClaimed : RunRecord := claimRecord sampleHost sampleSubmission 0 (some sampleScope)

theorem sample_fresh :
    Store.claim sampleHost sampleSubmission 0 Store.empty = (.ok (.fresh sampleClaimed), sampleStore) := by
  decide +kernel

theorem spend_ledger_safety_sample :
    SpendSafe [sampleClaim] sampleStore sampleScope ∧ sampleStore.reserved sampleScope = 800 :=
  ⟨spend_ledger_safety (Run.single_iff.mpr (claim_step sampleSubmission 0 Store.empty)) sampleScope, by decide +kernel⟩

end Switchyard.DirectApi
