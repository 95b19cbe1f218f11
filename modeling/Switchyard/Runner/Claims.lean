import Switchyard.Runner.Backend
import Switchyard.Runner.RunStore
import Switchyard.Library.Pool

/-! Any number of runs and prelaunch closures over one store, in any order, each of
which may stop anywhere. What a call does to the store is one transaction. -/

namespace Switchyard.Runner
open Library Json AppServer

/-- What a run may retain as its state. -/
def RUN_STATES : List String :=
  ["OUTCOME_UNKNOWN", "PROVIDER_COMPLETED", "PROVIDER_FAILED", "PROVIDER_INTERRUPTED", "NOT_ADMITTED_MODEL_AT_CAPACITY"]

/-- The record of a run that has been claimed: whatever else is assigned, these stay. -/
structure Follows (inputs : Inputs) (record : Members) : Prop where
  dispatch : get record "dispatch_occurrence_id" = .str inputs.dispatch
  dispatchRecord : get record "dispatch_record" = .obj inputs.dispatchRecord
  state : ∃ state ∈ RUN_STATES, get record "state" = .str (text state)

/-- Where a call stands. A run that observes a failed capture closes its dispatch itself;
a call of `close_prelaunch` from outside begins with its closure. -/
inductive Phase
  | looking (inputs : Inputs)
  | capturing (inputs : Inputs)
  | building (inputs : Inputs)
  | claiming (inputs : Inputs)
  | closing (inputs : Inputs) (closure : Members) (observed : Bool)
  | rereading (inputs : Inputs)
  | owning (inputs : Inputs) (record : Members) (ready : Bool)
  | done

/-- A call that has not returned and does not own its dispatch. -/
def Phase.waits : Phase → Bool
  | .owning _ _ _ | .done => false
  | _ => true

/-- What a step shows: the store that a call saw and how it ended, what it found on its machine, the
clock that a closure was made by, a record that was retained, the start of a backend, and an
exception of the database or of the interpreter, which may strike a call anywhere. -/
inductive Label
  | quiet
  | looked (inputs : Inputs) (store : RunStore) (outcome : Except ClassName (Option Members))
  | surveyed (inputs : Inputs) (machine : Machine) (outcome : Except ClassName Bool)
  | claimed (inputs : Inputs) (store : RunStore) (outcome : Except ClassName (Members × Bool))
  | built (inputs : Inputs) (now : Nanoseconds) (outcome : Except ClassName Members)
  | closed (inputs : Inputs) (closure : Members) (store : RunStore) (outcome : Except ClassName Unit)
  | reread (inputs : Inputs) (store : RunStore) (outcome : Except ClassName (Option Members))
  | updated (record : Members)
  | started (dispatch : Text)
  | faulted (className : ClassName)

section
variable (host : Host) (calendar : Calendar) (runner : Bytes)

/-- The closure of a run that reads this clock. -/
def observedClosure (inputs : Inputs) (now : Nanoseconds) : Except ClassName Members :=
  newPrelaunchClosure host calendar runner inputs (get inputs.request "switchyard_owner_head") none (utcNow calendar now)
    (text "EXECUTABLE_CAPTURE_FAILED")

inductive Phase.Step : RunStore → Phase → Label → RunStore → Phase → Prop
  | look {store : RunStore} {inputs : Inputs} :
      Step store (.looking inputs) (.looked inputs store (store.lookup host inputs)) store
        (match store.lookup host inputs with
          | .ok none => .capturing inputs
          | _ => .done)
  | survey {store : RunStore} {inputs : Inputs} {machine : Machine} :
      Step store (.capturing inputs) (.surveyed inputs machine (surveyMachine host machine inputs)) store
        (match surveyMachine host machine inputs with
          | .ok true => .claiming inputs
          | .ok false => .building inputs
          | .error _ => .done)
  | build {store : RunStore} {inputs : Inputs} {now : Nanoseconds} :
      Step store (.building inputs) (.built inputs now (observedClosure host calendar runner inputs now)) store
        (match observedClosure host calendar runner inputs now with
          | .ok closure => .closing inputs closure true
          | .error _ => .done)
  | claim {store after : RunStore} {inputs : Inputs} {occurrence : Occurrence} {outcome : Except ClassName (Members × Bool)} :
      RunStore.claim host inputs occurrence store = (outcome, after) →
      Step store (.claiming inputs) (.claimed inputs store outcome) after
        (match outcome with
          | .ok (record, true) => .owning inputs record true
          | _ => .done)
  | close {store after : RunStore} {inputs : Inputs} {closure : Members} {observed : Bool} {outcome : Except ClassName Unit} :
      RunStore.closePrelaunch host calendar inputs closure store = (outcome, after) →
      Step store (.closing inputs closure observed) (.closed inputs closure store outcome) after
        (if outcome.isOk && observed then .rereading inputs else .done)
  | reread {store : RunStore} {inputs : Inputs} :
      Step store (.rereading inputs) (.reread inputs store (store.lookup host inputs)) store .done
  | start {store : RunStore} {inputs : Inputs} {record : Members} :
      Step store (.owning inputs record true) (.started inputs.dispatch) store (.owning inputs record false)
  | update {store after : RunStore} {inputs : Inputs} {record next : Members} {ready : Bool} {outcome : Except ClassName Unit} :
      Follows inputs next → RunStore.update host inputs.dispatch next store = (outcome, after) →
      Step store (.owning inputs record ready) (if outcome.isOk then .updated next else .quiet) after (.owning inputs next ready)
  | fault {store : RunStore} {phase : Phase} {className : ClassName} : phase.waits = true →
      Step store phase (.faulted className) store .done
  | stop {store : RunStore} {phase : Phase} : Step store phase .quiet store .done

/-- The store while calls come and go. -/
abbrev Calls.Step (born : Phase → Prop) : Pool RunStore Phase → Label → Pool RunStore Phase → Prop :=
  Pool.Step born .quiet (Phase.Step host calendar runner)

end

/-- The record that a step retains. -/
def Label.retains : Label → Option Members
  | .claimed _ _ (.ok (record, true)) => some record
  | .closed inputs closure store (.ok ()) => if (store.find inputs.dispatch).isNone then some (closureRecord inputs closure) else none
  | .updated record => some record
  | _ => none

variable {host : Host} {calendar : Calendar} {runner : Bytes}

theorem claimRecord_follows (inputs : Inputs) (occurrence : Occurrence) : Follows inputs (claimRecord inputs occurrence) := by
  refine ⟨?_, ?_, "OUTCOME_UNKNOWN", List.mem_cons_self, ?_⟩ <;> simp [claimRecord, get_object_cons]

theorem closureRecord_dispatchRecord (inputs : Inputs) (closure : Members) :
    get (closureRecord inputs closure) "dispatch_record" = .obj inputs.dispatchRecord := by
  simp [closureRecord, get_object_cons]

/-- What a row retains: the record of a run, or a closure. -/
inductive Retains (host : Host) (calendar : Calendar) (inputs : Inputs) : Members → Prop
  | claim {record : Members} : Follows inputs record → Retains host calendar inputs record
  | closure {closure : Members} : Closes host calendar inputs closure → Retains host calendar inputs (closureRecord inputs closure)

theorem Retains.dispatchRecord {inputs : Inputs} {record : Members} (retains : Retains host calendar inputs record) :
    get record "dispatch_record" = .obj inputs.dispatchRecord := by
  cases retains with
  | claim follows => exact follows.dispatchRecord
  | closure _ => exact closureRecord_dispatchRecord _ _

/-- A row of the table, with the record that its bytes spell. -/
structure Entry (host : Host) (calendar : Calendar) (row : Row) (inputs : Inputs) (record : Members) : Prop where
  exactly : Exactly host inputs row
  retains : Retains host calendar inputs record
  spelled : canonical host (.obj record) = .ok row.record
  rereads : Rereads host (.obj record)

/-- The table: one row for each dispatch, all of them entries. -/
structure Sound (host : Host) (calendar : Calendar) (store : RunStore) : Prop where
  distinct : (store.rows.map Row.dispatch).Nodup
  each : ∀ row ∈ store.rows, ∃ inputs record, Entry host calendar row inputs record

/-- What the validators promise of the inputs that this store needs: they can be written, and
the dispatch is read back as it was written. -/
structure Inputs.Valid (host : Host) (inputs : Inputs) : Prop where
  request : ∃ raw, canonical host (.obj inputs.request) = .ok raw
  backend : ∃ raw, canonical host (.obj inputs.backend) = .ok raw
  dispatchRecord : ∃ raw, canonical host (.obj inputs.dispatchRecord) = .ok raw
  exact : Exact host (.obj inputs.dispatchRecord)

theorem canonical_accepted {value : Json} : (∃ raw, canonical host value = .ok raw) ↔ Rfc8785.Canonical value := by
  simp only [canonical_ok]
  exact Rfc8785.dumps_accepted host value

/-- A dict display is canonical if its values are. -/
theorem canonical_object {items : List (String × Json)} (each : ∀ item ∈ items, Rfc8785.Canonical item.2) :
    Rfc8785.Canonical (.obj (object items)) := by
  refine Rfc8785.canonicalMembers_iff.mpr fun member listed => ?_
  obtain ⟨item, inside, rfl⟩ := List.mem_map.mp listed
  exact ⟨Text.scalar_text item.1, each item inside⟩

theorem canonical_literal (literal : String) : Rfc8785.Canonical (.str (text literal)) := Text.scalar_text literal

theorem claimRecord_canonical {inputs : Inputs} (valid : inputs.Valid host) (occurrence : Occurrence) :
    ∃ raw, canonical host (.obj (claimRecord inputs occurrence)) = .ok raw := by
  have request (key : String) : Rfc8785.Canonical (get inputs.request key) :=
    Rfc8785.canonical_get (canonical_accepted.mp valid.request) key
  have dispatch : Rfc8785.Canonical (.str inputs.dispatch) := inputs.named ▸ request "dispatch_occurrence_id"
  have dispatchRecord := canonical_accepted.mp valid.dispatchRecord
  have process := Rfc8785.canonical_get dispatchRecord "adapter_process_occurrence_id"
  have backend := canonical_accepted.mp valid.backend
  have pid : Rfc8785.Canonical (.int occurrence.pid.toInt) := by
    have low := occurrence.pid.le_toInt
    have high := occurrence.pid.toInt_lt
    refine ⟨?_, ?_⟩
    · unfold Rfc8785.intMin
      omega
    · unfold Rfc8785.intMax
      omega
  have clock : Rfc8785.Canonical (.int (unixMs occurrence.now)) := by
    have safe := unixMs_safe occurrence.now
    refine ⟨?_, ?_⟩
    · unfold Rfc8785.intMin
      omega
    · unfold Rfc8785.intMax
      omega
  have null : Rfc8785.Canonical .null := trivial
  have denied : Rfc8785.Canonical (.bool false) := trivial
  refine canonical_accepted.mpr (canonical_object ?_)
  have requested := @canonical_object [("provider_id", get inputs.request "provider_id"), ("model_id", get inputs.request "model_id"),
    ("request_digest", get inputs.request "request_digest"), ("work_attempt_id", get inputs.request "work_attempt_id"),
    ("dispatch_occurrence_id", .str inputs.dispatch)]
  have observed := @canonical_object [("state", .str (text "NOT_OBSERVABLE")), ("provider_id", .null), ("model_id", .null), ("source", .null)]
  simp only [List.forall_mem_cons, List.not_mem_nil, false_implies, implies_true, and_true, request, dispatch, null,
    canonical_literal, forall_const] at requested observed
  simp only [List.forall_mem_cons, List.not_mem_nil, false_implies, implies_true, and_true, request, dispatch, null,
    canonical_literal, backend, requested, observed, denied, dispatchRecord, process, pid, clock]

theorem closureRecord_canonical {inputs : Inputs} (valid : inputs.Valid host) {closure : Members}
    (closes : Closes host calendar inputs closure) : ∃ raw, canonical host (.obj (closureRecord inputs closure)) = .ok raw := by
  have request (key : String) : Rfc8785.Canonical (get inputs.request key) :=
    Rfc8785.canonical_get (canonical_accepted.mp valid.request) key
  have dispatch : Rfc8785.Canonical (.str inputs.dispatch) := inputs.named ▸ request "dispatch_occurrence_id"
  have dispatchRecord := canonical_accepted.mp valid.dispatchRecord
  have backend := canonical_accepted.mp valid.backend
  have receipt := canonical_accepted.mp (validatePrelaunchClosure_canonical closes.valid)
  have null : Rfc8785.Canonical .null := trivial
  have denied : Rfc8785.Canonical (.bool false) := trivial
  refine canonical_accepted.mpr (canonical_object ?_)
  simp only [List.forall_mem_cons, List.not_mem_nil, false_implies, implies_true, and_true, request, dispatch, null,
    canonical_literal, dispatchRecord, backend, receipt, denied]

/-- An exact duplicate reads what its dispatch retains. -/
theorem Entry.lookup {row : Row} {inputs : Inputs} {record : Members} (entry : Entry host calendar row inputs record)
    (exact : Exact host (.obj inputs.dispatchRecord)) {store : RunStore} (found : store.find inputs.dispatch = some row) :
    ∃ members, store.lookup host inputs = .ok (some members) ∧ loads host row.record = .ok (.obj members) ∧
      Reads host (.obj members) (.obj record) := by
  obtain ⟨decoded, loaded, reads⟩ := entry.rereads _ (canonical_ok.mp entry.spelled)
  cases shape : decoded with
  | obj members =>
    rw [shape] at loaded reads
    have read : loads host row.record = .ok (.obj members) := by simp only [loads, loaded]
    have inner := reads.get "dispatch_record"
    rw [entry.retains.dispatchRecord] at inner
    have same := inner.equal exact
    refine ⟨members, ?_, read, reads⟩
    simp only [RunStore.lookup, found, entry.exactly.request, entry.exactly.backend, Row.retained, entry.exactly.brief, read, same,
      if_true, bind, Except.bind]
    rfl
  | _ =>
    rw [shape] at reads
    cases reads

end Switchyard.Runner
