import Switchyard.Runner.Closure
import Switchyard.Library.Effect

/-! Additive adapter custody: one row for each dispatch, which either a run claims
or a prelaunch closure fills. Both are inserted by one transaction and never removed. -/

namespace Switchyard.Runner
open Library Json AppServer

structure Row where
  dispatch : Text
  request : Bytes
  brief : Bytes
  backend : Bytes
  record : Bytes
deriving DecidableEq

/-- The table `provider_runs`. -/
structure RunStore where
  rows : List Row
deriving DecidableEq

/-- The row after `SET record=? WHERE dispatch=?`. -/
def Row.written (dispatch : Text) (record : Bytes) (row : Row) : Row :=
  if row.dispatch = dispatch then { row with record := record } else row

/-- What a process may learn of the operating system. -/
structure Occurrence where
  pid : Int32
  now : Nanoseconds

variable (host : Host)

def loads (raw : Bytes) : Except ClassName Json :=
  match host.loads raw with
  | .ok value => .ok value
  | .error (.malformed className _) | .error (.other className) => .error className
  | .error (.duplicateKey _) => .error (className "ValueError")

namespace RunStore

def find (store : RunStore) (dispatch : Text) : Option Row := store.rows.find? fun row => row.dispatch == dispatch

/-- `BEGIN IMMEDIATE ... except BaseException: rollback; raise`. -/
def transaction {α : Type} (body : Effect RunStore ClassName α) : Effect RunStore ClassName α :=
  body.recovering fun before _ => before

end RunStore

/-- What is retained for a dispatch, if it was retained for these exact inputs. -/
def Row.retained (inputs : Inputs) (row : Row) (request backend : Bytes) : Except ClassName Members :=
  if (row.request, row.brief, row.backend) = (request, inputs.brief, backend) then do
    let value ← loads host row.record
    match value with
    | .obj members =>
      if equal (get members "dispatch_record") (.obj inputs.dispatchRecord) then .ok members else .error adapterProtocolError
    | _ => .error (className "AttributeError")
  else .error adapterProtocolError

/-- The record of a run that has not contacted its provider. -/
def claimRecord (inputs : Inputs) (occurrence : Occurrence) : Members :=
  let request := inputs.request
  object [
    ("schema", .str (text "switchyard.provider-run/v1")),
    ("dispatch_occurrence_id", .str inputs.dispatch),
    ("work_attempt_id", get request "work_attempt_id"),
    ("request_digest", get request "request_digest"),
    ("backend", .obj inputs.backend), ("state", .str (text "OUTCOME_UNKNOWN")), ("thread_id", .null), ("turn_id", .null),
    ("requested_execution", .obj (object [
      ("provider_id", get request "provider_id"), ("model_id", get request "model_id"),
      ("request_digest", get request "request_digest"), ("work_attempt_id", get request "work_attempt_id"),
      ("dispatch_occurrence_id", .str inputs.dispatch)])),
    ("observed_execution", .obj (object [
      ("state", .str (text "NOT_OBSERVABLE")), ("provider_id", .null), ("model_id", .null), ("source", .null)])),
    ("provider_admission", .null), ("turn_status", .null), ("usage", .null),
    ("usage_state", .str (text "NOT_OBSERVABLE")), ("usage_scope", .str (text "NOT_OBSERVABLE")), ("usage_turn_id", .null),
    ("cost", .null), ("cost_state", .str (text "NOT_OBSERVABLE")), ("cost_scope", .str (text "NOT_OBSERVABLE")),
    ("worker_output", .null),
    ("acceptance_state", .str (text "NOT_EVALUATED_BY_SWITCHYARD")),
    ("authority_effect", .str (text "LOCAL_AGENT_COMPUTE_SCHEDULING_ONLY")),
    ("approval_response_sent", .bool false), ("semantic_retry", .bool false),
    ("operator_note", .str (text "durable claim precedes contact; absent terminal record never redispatches")),
    ("dispatch_record", .obj inputs.dispatchRecord),
    ("process_occurrence", get inputs.dispatchRecord "adapter_process_occurrence_id"),
    ("adapter_pid", .int occurrence.pid.toInt), ("started_at_unix_ms", .int (unixMs occurrence.now))]

/-- The existing exact-dispatch slot also fences older runners: their lookup or claim
returns a retained record and never starts a backend. -/
def closureRecord (inputs : Inputs) (closure : Members) : Members :=
  let request := inputs.request
  object [
    ("schema", .str (text "switchyard.provider-run/v1")), ("state", .str (text "PRELAUNCH_CLOSED")),
    ("dispatch_occurrence_id", .str inputs.dispatch),
    ("work_attempt_id", get request "work_attempt_id"), ("request_digest", get request "request_digest"),
    ("dispatch_record", .obj inputs.dispatchRecord), ("backend", .obj inputs.backend), ("provider_admission", .null),
    ("thread_id", .null), ("turn_id", .null), ("provider_execution", .null),
    ("worker_output", .null), ("usage", .null), ("cost", .null),
    ("acceptance_state", .str (text "LOCAL_PRELAUNCH_CLOSURE_ONLY")), ("prelaunch_closure", .obj closure),
    ("approval_response_sent", .bool false), ("semantic_retry", .bool false),
    ("authority_effect", .str (text "LOCAL_PRELAUNCH_CLOSURE_ONLY"))]

/-- A retained record is this very closure. -/
def isClosure (prior closure : Members) : Bool :=
  is (get prior "state") "PRELAUNCH_CLOSED" && equal (get prior "prelaunch_closure") (.obj closure)

namespace RunStore

/-- `INSERT INTO provider_runs`. -/
def insert (inputs : Inputs) (request backend record : Bytes) : Effect RunStore ClassName Unit :=
  Effect.modify fun store => { store with rows := store.rows ++ [⟨inputs.dispatch, request, inputs.brief, backend, record⟩] }

/-- The record of the dispatch, and whether this claim opened it. -/
def claim (inputs : Inputs) (occurrence : Occurrence) : Effect RunStore ClassName (Members × Bool) := do
  let request ← Effect.lift (canonical host (.obj inputs.request))
  let backend ← Effect.lift (canonical host (.obj inputs.backend))
  transaction do
    let store ← Effect.read
    match store.find inputs.dispatch with
    | some row =>
      let members ← Effect.lift (row.retained host inputs request backend)
      return (members, false)
    | none =>
      let record := claimRecord inputs occurrence
      let raw ← Effect.lift (canonical host (.obj record))
      insert inputs request backend raw
      return (record, true)

def lookup (inputs : Inputs) (store : RunStore) : Except ClassName (Option Members) :=
  match store.find inputs.dispatch with
  | none => .ok none
  | some row => do
    let request ← canonical host (.obj inputs.request)
    let backend ← canonical host (.obj inputs.backend)
    let members ← row.retained host inputs request backend
    return some members

def closePrelaunch (calendar : Calendar) (inputs : Inputs) (closure : Members) : Effect RunStore ClassName Unit := do
  Effect.lift (validatePrelaunchClosure host calendar closure)
  let binding ← Effect.lift (prelaunchBinding host inputs.request inputs.brief inputs.backend inputs.dispatchRecord)
  Effect.lift (demand (equal (get closure "binding") (.obj binding)))
  transaction do
    let store ← Effect.read
    match ← Effect.lift (store.lookup host inputs) with
    | some prior =>
      Effect.lift (demand (isClosure prior closure))
    | none =>
      let request ← Effect.lift (canonical host (.obj inputs.request))
      let backend ← Effect.lift (canonical host (.obj inputs.backend))
      let raw ← Effect.lift (canonical host (.obj (closureRecord inputs closure)))
      insert inputs request backend raw

/-- `UPDATE provider_runs SET record=? WHERE dispatch=?`. -/
def update (dispatch : Text) (record : Members) : Effect RunStore ClassName Unit := do
  let raw ← Effect.lift (canonical host (.obj record))
  Effect.modify fun store => { store with rows := store.rows.map (Row.written dispatch raw) }

/-- `inspect`, where `replayed` validates what a snapshot was retained for and replays it. -/
def inspect (replayed : Row → Members → Except ClassName Unit) (store : RunStore) (dispatch : Text) : Except ClassName Members :=
  match store.find dispatch with
  | none => .error adapterProtocolError
  | some row => do
    match ← loads host row.record with
    | .obj members =>
      let admission ← item members "provider_admission"
      if admission = .null then pure () else replayed row members
      return members
    | _ => .error (className "TypeError")

/-- `inspect_prelaunch`, which reads the store twice. -/
def inspectPrelaunch (calendar : Calendar) (replayed : Row → Members → Except ClassName Unit) (first second : RunStore)
    (dispatch : Text) : Except ClassName Members := do
  let record ← inspect host replayed first dispatch
  demand (is (get record "state") "PRELAUNCH_CLOSED")
  match get record "prelaunch_closure", second.find dispatch with
  | .obj closure, some row =>
    validatePrelaunchClosure host calendar closure
    match ← loads host row.request, ← loads host row.backend, ← item record "dispatch_record" with
    | .obj request, .obj backend, .obj dispatchRecord =>
      let binding ← prelaunchBinding host request row.brief backend dispatchRecord
      demand (equal (get closure "binding") (.obj binding))
      return closure
    | _, _, _ => .error (className "TypeError")
  | _, _ => .error adapterProtocolError

end RunStore

variable {host}

/-- The row retains exactly these inputs. -/
structure Exactly (host : Host) (inputs : Inputs) (row : Row) : Prop where
  dispatch : row.dispatch = inputs.dispatch
  request : canonical host (.obj inputs.request) = .ok row.request
  brief : row.brief = inputs.brief
  backend : canonical host (.obj inputs.backend) = .ok row.backend

/-- A closure that is valid and binds these inputs. -/
structure Closes (host : Host) (calendar : Calendar) (inputs : Inputs) (closure : Members) : Prop where
  valid : validatePrelaunchClosure host calendar closure = .ok ()
  binding : ∃ binding, prelaunchBinding host inputs.request inputs.brief inputs.backend inputs.dispatchRecord = .ok binding ∧
    equal (get closure "binding") (.obj binding) = true

theorem Row.retained_ok {row : Row} {inputs : Inputs} {members : Members} {request backend : Bytes}
    (kept : row.retained host inputs request backend = .ok members) :
    row.request = request ∧ row.brief = inputs.brief ∧ row.backend = backend ∧ loads host row.record = .ok (.obj members) ∧
      equal (get members "dispatch_record") (.obj inputs.dispatchRecord) = true := by
  unfold Row.retained at kept
  split at kept
  · next same =>
    simp only [Prod.mk.injEq] at same
    obtain ⟨value, decoded, rest⟩ := bind_ok.mp kept
    split at rest
    · split at rest
      · next equal =>
        cases rest
        exact ⟨same.1, same.2.1, same.2.2, decoded, equal⟩
      · cases rest
    · cases rest
  · cases kept

namespace RunStore

theorem find_dispatch {store : RunStore} {dispatch : Text} {row : Row} (found : store.find dispatch = some row) :
    row.dispatch = dispatch := by
  simpa using List.find?_some found

theorem find_append {store after : RunStore} {row : Row} (rows : after.rows = store.rows ++ [row]) (dispatch : Text) :
    after.find dispatch = (store.find dispatch).or (if row.dispatch = dispatch then some row else none) := by
  simp only [find, rows, List.find?_append, List.find?_cons, List.find?_nil]
  by_cases same : row.dispatch = dispatch
  · simp [same]
  · have differ : (row.dispatch == dispatch) = false := by simpa using same
    simp [same, differ]

theorem transaction_meets {α : Type} {body : Effect RunStore ClassName α} {store : RunStore} {returned : α → RunStore → Prop}
    (meets : Effect.Meets body store returned (fun _ _ => True)) :
    Effect.Meets (transaction body) store returned (fun _ after => after = store) :=
  .recovering (meets.weaken (fun _ _ done => done) fun _ _ _ => rfl)

/-- A row that was inserted for a dispatch nobody had taken. -/
structure Inserted (host : Host) (inputs : Inputs) (record : Members) (store after : RunStore) : Prop where
  free : store.find inputs.dispatch = none
  row : ∃ row, Exactly host inputs row ∧ canonical host (.obj record) = .ok row.record ∧ after.rows = store.rows ++ [row]

private theorem insert_meets {inputs : Inputs} {request backend record : Bytes} {members : Members} {store : RunStore}
    (free : store.find inputs.dispatch = none) (exactRequest : canonical host (.obj inputs.request) = .ok request)
    (exactBackend : canonical host (.obj inputs.backend) = .ok backend) (encoded : canonical host (.obj members) = .ok record) :
    Effect.Meets (insert inputs request backend record) store (fun _ after => Inserted host inputs members store after)
      (fun _ _ => False) := by
  apply Effect.Meets.modify
  exact ⟨free, _, ⟨rfl, exactRequest, rfl, exactBackend⟩, encoded, rfl⟩

/-- A claim opens the dispatch, hands back what is retained, or raises and changes nothing. -/
theorem claim_meets (inputs : Inputs) (occurrence : Occurrence) (store : RunStore) :
    Effect.Meets (claim host inputs occurrence) store
      (fun claimed after => (claimed = (claimRecord inputs occurrence, true) ∧
          Inserted host inputs (claimRecord inputs occurrence) store after) ∨
        (claimed.2 = false ∧ after = store ∧ ∃ row, store.find inputs.dispatch = some row ∧ Exactly host inputs row ∧
          loads host row.record = .ok (.obj claimed.1) ∧
          equal (get claimed.1 "dispatch_record") (.obj inputs.dispatchRecord) = true))
      (fun _ after => after = store) := by
  unfold claim
  generalize claimRecord inputs occurrence = record
  apply Effect.Meets.bind
  refine .lift (fun request exactRequest => ?_) fun _ _ => rfl
  apply Effect.Meets.bind
  refine .lift (fun backend exactBackend => ?_) fun _ _ => rfl
  refine transaction_meets (.bind (.read ?_))
  split
  next row found =>
    refine .bind (.lift (fun members kept => .pure ?_) fun _ _ => trivial)
    obtain ⟨sameRequest, sameBrief, sameBackend, decoded, same⟩ := Row.retained_ok kept
    refine .inr ⟨rfl, rfl, row, found, ⟨find_dispatch found, ?_, sameBrief, ?_⟩, decoded, same⟩
    · rw [sameRequest]
      exact exactRequest
    · rw [sameBackend]
      exact exactBackend
  next free =>
    refine .bind (.lift (fun raw encoded => ?_) fun _ _ => trivial)
    refine .bind ((insert_meets free exactRequest exactBackend encoded).weaken (fun _ after inserted => ?_) fun _ _ _ => trivial)
    exact .pure (.inl ⟨rfl, inserted⟩)

/-- What an exact duplicate reads. -/
theorem lookup_ok {inputs : Inputs} {store : RunStore} {members : Members}
    (found : store.lookup host inputs = .ok (some members)) : ∃ row, store.find inputs.dispatch = some row ∧
      Exactly host inputs row ∧ loads host row.record = .ok (.obj members) ∧
      equal (get members "dispatch_record") (.obj inputs.dispatchRecord) = true := by
  unfold lookup at found
  split at found
  · cases found
  · next row present =>
    obtain ⟨request, exactRequest, found⟩ := bind_ok.mp found
    obtain ⟨backend, exactBackend, found⟩ := bind_ok.mp found
    obtain ⟨kept, retained, same⟩ := bind_ok.mp found
    obtain rfl := Option.some.inj (Except.ok.inj same)
    obtain ⟨rfl, sameBrief, rfl, decoded, same⟩ := Row.retained_ok retained
    exact ⟨row, present, ⟨find_dispatch present, exactRequest, sameBrief, exactBackend⟩, decoded, same⟩

theorem lookup_none {inputs : Inputs} {store : RunStore} :
    store.lookup host inputs = .ok none ↔ store.find inputs.dispatch = none := by
  unfold lookup
  split
  next free => simp [free]
  next row present =>
    refine ⟨fun absent => ?_, fun free => by rw [free] at present; cases present⟩
    obtain ⟨_, -, absent⟩ := bind_ok.mp absent
    obtain ⟨_, -, absent⟩ := bind_ok.mp absent
    obtain ⟨_, -, absent⟩ := bind_ok.mp absent
    cases absent

/-- A closure fills the slot, is found there already, or raises and changes nothing. -/
theorem closePrelaunch_meets (calendar : Calendar) (inputs : Inputs) (closure : Members) (store : RunStore) :
    Effect.Meets (closePrelaunch host calendar inputs closure) store
      (fun _ after => Closes host calendar inputs closure ∧ (Inserted host inputs (closureRecord inputs closure) store after ∨
        after = store ∧ ∃ prior, store.lookup host inputs = .ok (some prior) ∧ isClosure prior closure = true))
      (fun _ after => after = store) := by
  unfold closePrelaunch
  generalize closureRecord inputs closure = record
  apply Effect.Meets.bind
  refine .lift (fun _ valid => ?_) fun _ _ => rfl
  apply Effect.Meets.bind
  refine .lift (fun binding bound => ?_) fun _ _ => rfl
  apply Effect.Meets.bind
  refine .lift (fun _ same => ?_) fun _ _ => rfl
  have closes : Closes host calendar inputs closure := ⟨valid, binding, bound, demand_ok.mp same⟩
  refine transaction_meets (.bind (.read (.bind (.lift (fun prior looked => ?_) fun _ _ => trivial))))
  cases prior with
  | some prior =>
    exact .lift (fun _ kept => ⟨closes, .inr ⟨rfl, prior, looked, demand_ok.mp kept⟩⟩) fun _ _ => trivial
  | none =>
    refine .bind (.lift (fun request exactRequest => ?_) fun _ _ => trivial)
    refine .bind (.lift (fun backend exactBackend => ?_) fun _ _ => trivial)
    refine .bind (.lift (fun raw encoded => ?_) fun _ _ => trivial)
    refine (insert_meets (lookup_none.mp looked) exactRequest exactBackend encoded).weaken (fun _ after inserted => ?_)
      fun _ _ _ => trivial
    exact ⟨closes, .inl inserted⟩

/-- Where something is retained, a closure either is that very closure or is refused. -/
theorem closePrelaunch_prior {calendar : Calendar} {inputs : Inputs} {closure prior : Members} {store : RunStore}
    (closes : Closes host calendar inputs closure) (looked : store.lookup host inputs = .ok (some prior)) :
    closePrelaunch host calendar inputs closure store = (demand (isClosure prior closure), store) := by
  obtain ⟨valid, binding, bound, same⟩ := closes
  simp only [closePrelaunch, Effect.bind_apply, valid, bound, same, Effect.lift_ok, demand, if_true, transaction,
    Effect.recovering, Effect.read_apply, looked]
  cases isClosure prior closure <;> rfl

/-- An empty slot takes a closure whose record can be written. -/
theorem closePrelaunch_free {calendar : Calendar} {inputs : Inputs} {closure : Members} {store : RunStore}
    {request backend raw : Bytes} (closes : Closes host calendar inputs closure) (free : store.find inputs.dispatch = none)
    (exactRequest : canonical host (.obj inputs.request) = .ok request)
    (exactBackend : canonical host (.obj inputs.backend) = .ok backend)
    (encoded : canonical host (.obj (closureRecord inputs closure)) = .ok raw) :
    closePrelaunch host calendar inputs closure store =
      (.ok (), { store with rows := store.rows ++ [⟨inputs.dispatch, request, inputs.brief, backend, raw⟩] }) := by
  obtain ⟨valid, binding, bound, same⟩ := closes
  simp only [closePrelaunch, Effect.bind_apply, valid, bound, same, Effect.lift_ok, demand, if_true, transaction,
    Effect.recovering, Effect.read_apply, lookup_none.mpr free, exactRequest, exactBackend, encoded, insert, Effect.modify_apply]

theorem claim_free {inputs : Inputs} {occurrence : Occurrence} {store : RunStore} {request backend raw : Bytes}
    (free : store.find inputs.dispatch = none) (exactRequest : canonical host (.obj inputs.request) = .ok request)
    (exactBackend : canonical host (.obj inputs.backend) = .ok backend)
    (encoded : canonical host (.obj (claimRecord inputs occurrence)) = .ok raw) :
    claim host inputs occurrence store = (.ok (claimRecord inputs occurrence, true),
      { store with rows := store.rows ++ [⟨inputs.dispatch, request, inputs.brief, backend, raw⟩] }) := by
  simp only [claim, Effect.bind_apply, exactRequest, exactBackend, Effect.lift_ok, transaction, Effect.recovering,
    Effect.read_apply, free, encoded, insert, Effect.modify_apply, Effect.pure_apply]

/-- A claim of a taken dispatch reads what a lookup reads. -/
theorem claim_prior {inputs : Inputs} {occurrence : Occurrence} {store : RunStore} {prior : Members}
    (looked : store.lookup host inputs = .ok (some prior)) :
    claim host inputs occurrence store = (.ok (prior, false), store) := by
  have taken := looked
  unfold lookup at taken
  split at taken
  · cases taken
  · next row present =>
    obtain ⟨request, exactRequest, taken⟩ := bind_ok.mp taken
    obtain ⟨backend, exactBackend, taken⟩ := bind_ok.mp taken
    obtain ⟨kept, retained, same⟩ := bind_ok.mp taken
    obtain rfl := Option.some.inj (Except.ok.inj same)
    simp only [claim, Effect.bind_apply, exactRequest, exactBackend, Effect.lift_ok, transaction, Effect.recovering,
      Effect.read_apply, present, retained, Effect.pure_apply]

@[simp] theorem written_dispatch (dispatch : Text) (record : Bytes) (row : Row) :
    (row.written dispatch record).dispatch = row.dispatch := by
  unfold Row.written
  split <;> rfl

/-- The store after `UPDATE provider_runs SET record=? WHERE dispatch=?`. -/
def written (store : RunStore) (dispatch : Text) (record : Bytes) : RunStore :=
  { store with rows := store.rows.map (Row.written dispatch record) }

/-- An update rewrites one row, or raises and changes nothing. -/
theorem update_meets (dispatch : Text) (record : Members) (store : RunStore) :
    Effect.Meets (update host dispatch record) store
      (fun _ after => ∃ raw, canonical host (.obj record) = .ok raw ∧ after = store.written dispatch raw)
      (fun _ after => after = store) := by
  apply Effect.Meets.bind
  refine .lift (fun raw encoded => ?_) fun _ _ => rfl
  exact .modify ⟨raw, encoded, rfl⟩

theorem find_written (store : RunStore) (dispatch other : Text) (record : Bytes) :
    (store.written dispatch record).find other = (store.find other).map (Row.written dispatch record) := by
  simp only [find, written, List.find?_map, Function.comp_def, written_dispatch]

end RunStore

end Switchyard.Runner
