import Switchyard.DirectApi.Request
import Switchyard.Library.Effect

/-! The durable tables of direct API runs and the transactions of `RunStore`.
A claim either opens a run, hands back a retained one or changes nothing. -/

namespace Switchyard.DirectApi
open Library Json

structure RunRow where
  dispatch : Text
  request : Bytes
  admittedInput : Bytes
  ownerBinding : Bytes
  record : Bytes
deriving DecidableEq

structure Reservation where
  dispatch : Text
  budget : Text
  reservedMicros : Int
  active : Bool
deriving DecidableEq

/-- The row after `SET active=0 WHERE dispatch=?`. -/
def Reservation.closed (dispatch : Text) (row : Reservation) : Reservation :=
  if row.dispatch = dispatch then { row with active := false } else row

@[simp] theorem Reservation.closed_dispatch (dispatch : Text) (row : Reservation) :
    (row.closed dispatch).dispatch = row.dispatch := by unfold closed; split <;> rfl

@[simp] theorem Reservation.closed_budget (dispatch : Text) (row : Reservation) :
    (row.closed dispatch).budget = row.budget := by unfold closed; split <;> rfl

@[simp] theorem Reservation.closed_reservedMicros (dispatch : Text) (row : Reservation) :
    (row.closed dispatch).reservedMicros = row.reservedMicros := by unfold closed; split <;> rfl

theorem Reservation.active_of_closed {dispatch : Text} {row : Reservation} (active : (row.closed dispatch).active = true) :
    row.active = true := by
  unfold closed at active
  split at active
  · cases active
  · exact active

structure BudgetConfig where
  budget : Text
  config : Bytes
deriving DecidableEq

structure Store where
  runs : List RunRow
  reservations : List Reservation
  configs : List BudgetConfig
deriving DecidableEq

/-- The row after `SET record=? WHERE dispatch=?`. -/
def RunRow.written (dispatch : Text) (record : Bytes) (row : RunRow) : RunRow :=
  if row.dispatch = dispatch then { row with record } else row

@[simp] theorem RunRow.written_dispatch (dispatch : Text) (record : Bytes) (row : RunRow) :
    (row.written dispatch record).dispatch = row.dispatch := by unfold written; split <;> rfl

/-- A run record is a dict that names its dispatch. -/
structure RunRecord where
  members : Members
  dispatch : Text
  named : get members "dispatch_occurrence_id" = .str dispatch
deriving DecidableEq

/-- What `claim` returns: a new record, or whatever an earlier claim retained. -/
inductive Claim
  | fresh (record : RunRecord)
  | retained (value : Json)
deriving DecidableEq

namespace Store

def empty : Store := ⟨[], [], []⟩

def lookup (store : Store) (dispatch : Text) : Option RunRow := store.runs.find? fun row => row.dispatch == dispatch

def pinned (store : Store) (budget : Text) : Option Bytes :=
  (store.configs.find? fun row => row.budget == budget).map BudgetConfig.config

/-- `SELECT count(*) ... WHERE budget=? AND active=1`. -/
def activeCount (store : Store) (budget : Text) : Int :=
  (store.reservations.filter fun row => row.budget == budget && row.active).length

/-- `SELECT coalesce(sum(reserved_micros),0) ... WHERE budget=?`. -/
def reserved (store : Store) (budget : Text) : Int :=
  ((store.reservations.filter fun row => row.budget == budget).map Reservation.reservedMicros).sum

end Store

variable {host : Host}

def loads (host : Host) (raw : Bytes) : Except Failure Json :=
  match host.loads raw with
  | .ok value => .ok value
  | .error (.malformed className _) | .error (.other className) => .error (.other className)
  | .error (.duplicateKey _) => .error (.other (className "ValueError"))

/-- The record of a run that has not contacted the provider. -/
def baseRecord (host : Host) (submission : Submission host) (now : Nanoseconds) : Members :=
  let request := submission.request
  object [
    ("schema", .str (text "switchyard.direct-api-run/v1")),
    ("request_id", get request "request_id"),
    ("work_attempt_id", get request "work_attempt_id"),
    ("dispatch_occurrence_id", get request "dispatch_occurrence_id"),
    ("request_digest", get request "request_digest"),
    ("admitted_input_sha256", get request "admitted_input_sha256"),
    ("owner_binding_digest", get submission.ownerBinding "binding_digest"),
    ("requested_execution", .obj (object [
      ("provider_id", .str (text "openrouter")), ("model_id", get request "model_id"),
      ("endpoint", get request "endpoint"), ("account_id", get request "account_id")])),
    ("reported_execution", .obj (object [
      ("state", .str (text "NOT_OBSERVABLE")), ("provider_id", .null), ("model_id", .null),
      ("upstream_provider_id", .null), ("account_id", .null)])),
    ("enrolled_endpoint", get request "endpoint"),
    ("enrolled_account_id", get request "account_id"),
    ("credential_source", get request "credential_source"),
    ("state", .str (text "OUTCOME_UNKNOWN")), ("contact_state", .str (text "NOT_CONTACTED")),
    ("completion_state", .str (text "NOT_OBSERVABLE")),
    ("acceptance_state", .str (text "NOT_EVALUATED_BY_SWITCHYARD")),
    ("usage", .null), ("usage_state", .str (text "NOT_OBSERVABLE")),
    ("cost", .null), ("cost_state", .str (text "NOT_OBSERVABLE")),
    ("worker_output", .null), ("finish_reason", .null),
    ("internal_provider_retry_count", .int 0), ("semantic_retry", .bool false),
    ("provider_or_model_substitution_allowed", .bool false),
    ("authority_effect", .str (text "LOCAL_AGENT_COMPUTE_SCHEDULING_ONLY")),
    ("started_at_unix_ms", .int (unixMs now)),
    ("operator_note", .str (text
      "claim precedes contact; duplicate dispatches inspect retained state and never regenerate"))]

/-- What an enrolled claim adds to its record. -/
def enrolledRecord (host : Host) (submission : Submission host) (scope : Text) (record : Members) : Members :=
  let request := submission.request
  let owner := submission.ownerBinding
  let limited := set record "token_limits" (.obj (object [
    ("maximum_prompt_tokens", get request "maximum_prompt_tokens"),
    ("maximum_completion_tokens", get request "maximum_completion_tokens"),
    ("maximum_total_tokens", get request "maximum_total_tokens")]))
  let owned := set limited "enrolled_owner" (.obj (object [
    ("owner_id", get owner "owner_id"), ("owner_profile_id", get owner "owner_profile_id"),
    ("proposal_request_id", get owner "proposal_request_id"),
    ("proposal_request_digest", get owner "proposal_request_digest")]))
  set owned "spend_reservation" (.obj (object [
    ("budget_id", get request "spend_budget_id"), ("reservation_scope", .str scope),
    ("budget_micros", get request "spend_budget_micros"),
    ("reserved_micros", get request "reserved_spend_micros"), ("state", .str (text "RESERVED"))]))

def claimMembers (host : Host) (submission : Submission host) (now : Nanoseconds) : Option Text → Members
  | some scope => enrolledRecord host submission scope (baseRecord host submission now)
  | none => baseRecord host submission now

def claimRecord (host : Host) (submission : Submission host) (now : Nanoseconds) (scope : Option Text) : RunRecord where
  members := claimMembers host submission now scope
  dispatch := submission.dispatch
  named := by
    have base : get (baseRecord host submission now) "dispatch_occurrence_id" = .str submission.dispatch := by
      simp only [baseRecord, get_object_cons]
      exact submission.get_dispatch
    cases scope with
    | none => exact base
    | some scope =>
      simp only [claimMembers, enrolledRecord, get_set]
      exact base

@[simp] theorem claimRecord_dispatch (submission : Submission host) (now : Nanoseconds) (scope : Option Text) :
    (claimRecord host submission now scope).dispatch = submission.dispatch := rfl

/-- The budget an enrolled claim draws on: its account, budget and owner. -/
def reservationScope (host : Host) (submission : Submission host) : Except Failure Text := do
  let raw ← canonical host (.obj (object [
    ("account_id", get submission.request "account_id"),
    ("budget_id", get submission.request "spend_budget_id"),
    ("owner_id", get submission.ownerBinding "owner_id")]))
  return host.digest raw

def configBytes (host : Host) (request : Members) : Except Failure Bytes :=
  canonical host (.obj (object [
    ("maximum_concurrent_requests", get request "maximum_concurrent_requests"),
    ("spend_budget_micros", get request "spend_budget_micros"),
    ("prompt_token_price_micros", get request "prompt_token_price_micros"),
    ("completion_token_price_micros", get request "completion_token_price_micros")]))

namespace Store

def requires (holds : Bool) (message : String) : Effect Store Failure Unit := Effect.lift (require holds message)

/-- `BEGIN IMMEDIATE ... except BaseException: rollback; raise`. -/
def transaction {α : Type} (body : Effect Store Failure α) : Effect Store Failure α :=
  body.recovering fun before _ => before

/-- Pin the budget's configuration, then check what is left of it. -/
def enrol (host : Host) (submission : Submission host) : Effect Store Failure (Option Text) := do
  let scope ← Effect.lift (reservationScope host submission)
  let config ← Effect.lift (configBytes host submission.request)
  let store ← Effect.read
  match store.pinned scope with
  | some prior => requires (prior == config) "enrolled ledger configuration differs from the pinned budget"
  | none => Effect.modify fun store => { store with configs := store.configs ++ [⟨scope, config⟩] }
  requires (store.activeCount scope < int submission.request "maximum_concurrent_requests")
    "enrolled concurrent request limit is exhausted"
  requires (store.reserved scope + int submission.request "reserved_spend_micros" ≤
    int submission.request "spend_budget_micros") "enrolled spend reservation budget is exhausted"
  return some scope

/-- `INSERT INTO direct_api_reservations`, whose primary key is the dispatch. -/
def insertReservation (row : Reservation) : Effect Store Failure Unit := do
  let store ← Effect.read
  if store.reservations.any fun other => other.dispatch == row.dispatch then
    Effect.raise (.other (className "IntegrityError"))
  else Effect.modify fun store => { store with reservations := store.reservations ++ [row] }

/-- The transaction of `claim`, once both dicts have their canonical bytes. -/
def openRun (host : Host) (submission : Submission host) (now : Nanoseconds) (request ownerBinding : Bytes) :
    Effect Store Failure Claim := do
  let scope ← if isEnrolled submission.request then enrol host submission else pure none
  let record := claimRecord host submission now scope
  let raw ← Effect.lift (canonical host (.obj record.members))
  Effect.modify fun store => { store with
    runs := store.runs ++ [⟨submission.dispatch, request, submission.admittedInput, ownerBinding, raw⟩] }
  match scope with
  | some scope =>
    insertReservation ⟨submission.dispatch, scope, int submission.request "reserved_spend_micros", true⟩
  | none => pure ()
  return .fresh record

def claim (host : Host) (submission : Submission host) (now : Nanoseconds) : Effect Store Failure Claim := do
  let request ← Effect.lift (canonical host (.obj submission.request))
  let ownerBinding ← Effect.lift (canonical host (.obj submission.ownerBinding))
  transaction do
    let store ← Effect.read
    match store.lookup submission.dispatch with
    | some prior =>
      if (prior.request, prior.admittedInput, prior.ownerBinding) = (request, submission.admittedInput, ownerBinding) then
        let value ← Effect.lift (loads host prior.record)
        return .retained value
      else Effect.raise (.protocol (text "dispatch reuse with different owner-bound input"))
    | none => openRun host submission now request ownerBinding

/-- `UPDATE direct_api_runs SET record=? WHERE dispatch=?`. -/
def update (host : Host) (record : RunRecord) : Effect Store Failure Unit := do
  let raw ← Effect.lift (canonical host (.obj record.members))
  Effect.modify fun store => { store with
    runs := store.runs.map (RunRow.written record.dispatch raw) }

/-- `UPDATE direct_api_reservations SET active=0 WHERE dispatch=?`. -/
def closeConcurrencySlot (record : RunRecord) : Effect Store Failure Unit :=
  Effect.modify fun store => { store with
    reservations := store.reservations.map (Reservation.closed record.dispatch) }

/-- `inspect`, which only reads. -/
def inspect (host : Host) (store : Store) (dispatch : Text) : Except Failure Json :=
  match store.lookup dispatch with
  | some row => loads host row.record
  | none => .error (.protocol (text "unknown direct API dispatch"))

end Store

/-- An enrolled claim found room in its budget and reserved its full envelope. -/
structure Reserving (host : Host) (submission : Submission host) (scope : Text) (config : Bytes)
    (before after : Store) : Prop where
  within : reservationScope host submission = .ok scope
  configured : configBytes host submission.request = .ok config
  pinned : before.pinned scope = some config ∧ after.configs = before.configs ∨
    before.pinned scope = none ∧ after.configs = before.configs ++ [⟨scope, config⟩]
  concurrent : before.activeCount scope < int submission.request "maximum_concurrent_requests"
  affordable : before.reserved scope + int submission.request "reserved_spend_micros" ≤
    int submission.request "spend_budget_micros"

/-- A fresh claim: the dispatch was unknown, and its run and reservation were added. -/
structure Opened (host : Host) (submission : Submission host) (now : Nanoseconds) (record : RunRecord)
    (row : RunRow) (before after : Store) : Prop where
  unknown : before.lookup submission.dispatch = none
  dispatch : row.dispatch = submission.dispatch
  request : canonical host (.obj submission.request) = .ok row.request
  admittedInput : row.admittedInput = submission.admittedInput
  ownerBinding : canonical host (.obj submission.ownerBinding) = .ok row.ownerBinding
  retained : canonical host (.obj record.members) = .ok row.record
  runs : after.runs = before.runs ++ [row]
  ledger : isEnrolled submission.request = false ∧ record = claimRecord host submission now none ∧
      after.configs = before.configs ∧ after.reservations = before.reservations ∨
    isEnrolled submission.request = true ∧ ∃ scope config, record = claimRecord host submission now (some scope) ∧
      Reserving host submission scope config before after ∧
      after.reservations = before.reservations ++
        [⟨submission.dispatch, scope, int submission.request "reserved_spend_micros", true⟩]

theorem Opened.recorded {submission : Submission host} {now : Nanoseconds} {record : RunRecord} {row : RunRow}
    {before after : Store} (opened : Opened host submission now record row before after) :
    ∃ scope, record = claimRecord host submission now scope ∧ (scope = none ∨
      isEnrolled submission.request = true ∧ ∃ name, scope = some name ∧ reservationScope host submission = .ok name) := by
  rcases opened.ledger with ⟨-, same, -⟩ | ⟨enrolled, scope, config, same, reserving, -⟩
  · exact ⟨none, same, Or.inl rfl⟩
  · exact ⟨some scope, same, Or.inr ⟨enrolled, scope, rfl, reserving.within⟩⟩

theorem Opened.named {submission : Submission host} {now : Nanoseconds} {record : RunRecord} {row : RunRow}
    {before after : Store} (opened : Opened host submission now record row before after) :
    record.dispatch = submission.dispatch := by
  obtain ⟨scope, rfl, -⟩ := opened.recorded
  rfl

/-- The exact inputs a retained run was claimed with. -/
structure Identical (host : Host) (request : Members) (admittedInput : Bytes) (ownerBinding : Members) (row : RunRow) :
    Prop where
  request : canonical host (.obj request) = .ok row.request
  admittedInput : row.admittedInput = admittedInput
  ownerBinding : canonical host (.obj ownerBinding) = .ok row.ownerBinding

/-- What a claim that returns has done to the store. -/
def Claimed (host : Host) (submission : Submission host) (now : Nanoseconds) (before : Store) (claim : Claim)
    (after : Store) : Prop :=
  match claim with
  | .fresh record => ∃ row, Opened host submission now record row before after
  | .retained value => after = before ∧ ∃ row, before.lookup submission.dispatch = some row ∧
      Identical host submission.request submission.admittedInput submission.ownerBinding row ∧ loads host row.record = .ok value

namespace Store

theorem transaction_meets {α : Type} {body : Effect Store Failure α} {store : Store} {returned : α → Store → Prop}
    (meets : Effect.Meets body store returned (fun _ _ => True)) :
    Effect.Meets (transaction body) store returned (fun _ after => after = store) :=
  .recovering (meets.weaken (fun _ _ done => done) fun _ _ _ => rfl)

theorem requires_meets {holds : Bool} {message : String} {store : Store} {returned : Unit → Store → Prop}
    (done : holds = true → returned () store) :
    Effect.Meets (requires holds message) store returned (fun _ _ => True) :=
  .lift (fun _ found => done (require_ok.mp found)) fun _ _ => trivial

theorem enrol_meets (submission : Submission host) (store : Store) :
    Effect.Meets (enrol host submission) store
      (fun scope after => ∃ name config, scope = some name ∧ Reserving host submission name config store after ∧
        after.runs = store.runs ∧ after.reservations = store.reservations) (fun _ _ => True) := by
  refine .bind (.lift (fun scope within => ?_) fun _ _ => trivial)
  refine .bind (.lift (fun config configured => ?_) fun _ _ => trivial)
  refine .bind (.read ?_)
  have checks : ∀ after : Store, after.runs = store.runs → after.reservations = store.reservations →
      (store.pinned scope = some config ∧ after.configs = store.configs ∨
        store.pinned scope = none ∧ after.configs = store.configs ++ [⟨scope, config⟩]) →
      Effect.Meets (do
        requires (store.activeCount scope < int submission.request "maximum_concurrent_requests")
          "enrolled concurrent request limit is exhausted"
        requires (store.reserved scope + int submission.request "reserved_spend_micros" ≤
          int submission.request "spend_budget_micros") "enrolled spend reservation budget is exhausted"
        return some scope) after
        (fun scope after => ∃ name config, scope = some name ∧ Reserving host submission name config store after ∧
          after.runs = store.runs ∧ after.reservations = store.reservations) (fun _ _ => True) := by
    intro after runs reservations pinned
    refine .bind (requires_meets fun concurrent => .bind (requires_meets fun affordable => .pure ?_))
    exact ⟨scope, config, rfl, ⟨within, configured, pinned, of_decide_eq_true concurrent, of_decide_eq_true affordable⟩,
      runs, reservations⟩
  split
  next prior found =>
    refine .bind (requires_meets fun same => ?_)
    obtain rfl := beq_iff_eq.mp same
    exact checks store rfl rfl (Or.inl ⟨found, rfl⟩)
  next absent => exact .bind (.modify (checks _ rfl rfl (Or.inr ⟨absent, rfl⟩)))

theorem insertReservation_meets (row : Reservation) (store : Store) :
    Effect.Meets (insertReservation row) store
      (fun _ after => after = { store with reservations := store.reservations ++ [row] }) (fun _ _ => True) :=
  .bind (.read (.ite (fun _ => .raise trivial) fun _ => .modify rfl))

theorem openRun_meets (submission : Submission host) (now : Nanoseconds) (store : Store) {request ownerBinding : Bytes}
    (unknown : store.lookup submission.dispatch = none)
    (exactRequest : canonical host (.obj submission.request) = .ok request)
    (exactBinding : canonical host (.obj submission.ownerBinding) = .ok ownerBinding) :
    Effect.Meets (openRun host submission now request ownerBinding) store
      (Claimed host submission now store) (fun _ _ => True) := by
  unfold openRun
  generalize recorded : claimRecord host submission now = records
  split
  next enrolled =>
    refine .bind ((enrol_meets submission store).weaken (fun scope middle found => ?_) fun _ _ _ => trivial)
    obtain ⟨name, config, rfl, reserving, runs, reservations⟩ := found
    refine .bind (.lift (fun raw canonical => ?_) fun _ _ => trivial)
    refine .bind (.modify (.bind ((insertReservation_meets _ _).weaken (fun _ after inserted => ?_) fun _ _ _ => trivial)))
    subst inserted
    refine ⟨⟨submission.dispatch, request, submission.admittedInput, ownerBinding, raw⟩, ?_⟩
    exact {
      unknown, dispatch := rfl, request := exactRequest, admittedInput := rfl, ownerBinding := exactBinding
      retained := canonical
      runs := by simp only [runs]
      ledger := Or.inr ⟨enrolled, name, config, by rw [recorded], { reserving with }, by simp only [reservations]⟩
    }
  next enrolled =>
    refine .bind (.pure (.bind (.lift (fun raw canonical => ?_) fun _ _ => trivial)))
    refine .bind (.modify ?_)
    refine ⟨⟨submission.dispatch, request, submission.admittedInput, ownerBinding, raw⟩, ?_⟩
    exact {
      unknown, dispatch := rfl, request := exactRequest, admittedInput := rfl, ownerBinding := exactBinding
      retained := canonical
      runs := rfl
      ledger := Or.inl ⟨Bool.eq_false_iff.mpr enrolled, by rw [recorded], rfl, rfl⟩
    }

/-- Every claim opens a run, hands back a retained one, or raises and changes nothing. -/
theorem claim_meets (submission : Submission host) (now : Nanoseconds) (store : Store) :
    Effect.Meets (claim host submission now) store (Claimed host submission now store) (fun _ after => after = store) := by
  refine .bind (.lift (fun request exactRequest => ?_) fun _ _ => rfl)
  refine .bind (.lift (fun ownerBinding exactBinding => ?_) fun _ _ => rfl)
  refine transaction_meets (.bind (.read ?_))
  split
  next prior found =>
    refine .ite (fun same => ?_) fun _ => .raise trivial
    simp only [Prod.mk.injEq] at same
    obtain ⟨rfl, sameInput, rfl⟩ := same
    refine .bind (.lift (fun value decoded => .pure ?_) fun _ _ => trivial)
    exact ⟨rfl, prior, found, ⟨exactRequest, sameInput, exactBinding⟩, decoded⟩
  next unknown => exact openRun_meets submission now store unknown exactRequest exactBinding

/-- The store after `UPDATE direct_api_runs SET record=? WHERE dispatch=?`. -/
def written (store : Store) (dispatch : Text) (record : Bytes) : Store :=
  { store with runs := store.runs.map (RunRow.written dispatch record) }

theorem update_ok {record : RunRecord} {raw : Bytes} (encoded : canonical host (.obj record.members) = .ok raw)
    (store : Store) : update host record store = (.ok (), store.written record.dispatch raw) := by
  simp [update, Effect.bind_apply, encoded, written]

theorem update_error {record : RunRecord} {failure : Failure} (refused : canonical host (.obj record.members) = .error failure)
    (store : Store) : update host record store = (.error failure, store) := by
  simp [update, Effect.bind_apply, refused]

theorem lookup_written (store : Store) (dispatch other : Text) (record : Bytes) :
    (store.written dispatch record).lookup other = (store.lookup other).map (RunRow.written dispatch record) := by
  simp only [lookup, written, List.find?_map, Function.comp_def, RunRow.written_dispatch]

theorem lookup_dispatch {store : Store} {dispatch : Text} {row : RunRow} (found : store.lookup dispatch = some row) :
    row.dispatch = dispatch := by
  simpa using List.find?_some found

theorem lookup_append {store after : Store} {row : RunRow} (runs : after.runs = store.runs ++ [row]) (dispatch : Text) :
    after.lookup dispatch = (store.lookup dispatch).or (if row.dispatch = dispatch then some row else none) := by
  simp only [lookup, runs, List.find?_append, List.find?_cons, List.find?_nil]
  by_cases same : row.dispatch = dispatch
  · simp [same]
  · have differ : (row.dispatch == dispatch) = false := by simpa using same
    simp [same, differ]

/-- A claim that repeats the exact inputs of a retained run reads its record. -/
theorem claim_retained {submission : Submission host} {store : Store} {row : RunRow}
    (found : store.lookup submission.dispatch = some row) (identical : Identical host submission.request submission.admittedInput submission.ownerBinding row) (now : Nanoseconds) :
    claim host submission now store = ((loads host row.record).map Claim.retained, store) := by
  simp only [claim, Effect.bind_apply, identical.request, identical.ownerBinding, Effect.lift_ok, transaction,
    Effect.recovering, Effect.read_apply, found, identical.admittedInput, if_true]
  cases loads host row.record <;> simp [Except.map]

end Store
end Switchyard.DirectApi
