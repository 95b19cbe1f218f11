import Switchyard.Admission.Atomicity

/-! The admission disposition as a state machine: what the two state variables and the
execution identity have to do with each other and with the log, and how they move. -/

namespace Switchyard.Admission
open Library Json AppServer

variable {host : Host} {settings : Settings host}

/-- What the gate lets through. -/
theorem gate_none {mapper : Mapper} {method : Text} {serverRequest : Bool} (opened : gate mapper method serverRequest = none) :
    mapper.admissionDisposition ≠ .admissionIndeterminate ∧ mapper.mechanismState ≠ .providerCompleted ∧
      mapper.mechanismState ≠ .postAdmissionInterrupted ∧
      (mapper.mechanismState = .waitingApproval → serverRequest = false ∧ providerBoundary method = false) := by
  unfold gate at opened
  grind

@[simp] theorem require_ok {holds : Bool} {message : String} : require holds message = .ok () ↔ holds = true := by
  cases holds <;> simp [require]

/-- What a request that may start has to be. -/
structure Startable (mapper : Mapper) (request : Request) (startedAtMs : Int) : Prop where
  later : ∀ last, mapper.lastBoundaryMs = some last → last ≤ startedAtMs
  undecided : mapper.admissionDisposition ≠ .notAdmittedModelAtCapacity ∧
    mapper.admissionDisposition ≠ .admissionIndeterminate
  alone : mapper.pending = none ∧ mapper.openResponseId = none
  ordinal : request.ordinal = mapper.completedRequests.length ∧ request.order = mapper.completedRequests.length
  fresh : request.occurrenceId ∉ mapper.completedRequests
  admitted : 0 < request.ordinal → mapper.providerExecutionIdentity.isSome

theorem providerRequestChecks_ok {mapper : Mapper} {params : Members} {request : Request} {startedAtMs : Int}
    (checked : providerRequestChecks settings mapper params = .ok (request, startedAtMs)) :
    Startable mapper request startedAtMs := by
  obtain ⟨found, _, checked⟩ := bind_ok.mp checked
  obtain ⟨started, _, checked⟩ := bind_ok.mp checked
  obtain ⟨_, later, checked⟩ := bind_ok.mp checked
  obtain ⟨_, undecided, checked⟩ := bind_ok.mp checked
  obtain ⟨_, unpended, checked⟩ := bind_ok.mp checked
  obtain ⟨_, unopened, checked⟩ := bind_ok.mp checked
  obtain ⟨_, ordinal, checked⟩ := bind_ok.mp checked
  obtain ⟨_, fresh, checked⟩ := bind_ok.mp checked
  obtain ⟨_, admitted, checked⟩ := bind_ok.mp checked
  cases checked
  rw [require_ok] at later undecided unpended unopened ordinal fresh admitted
  constructor
  · intro last found
    simpa [found] using later
  · simpa using undecided
  · simpa using And.intro unpended unopened
  · simpa using ordinal
  · simpa using fresh
  · intro positive
    simpa [positive, Option.ne_none_iff_isSome] using admitted

/-- What a response that may start, or a refusal, answers. -/
structure Answerable (mapper : Mapper) (request : Request) (observedAtMs : Int) : Prop where
  pending : mapper.pending = some request
  later : ∃ startedAtMs, mapper.pendingStartedAtMs = some startedAtMs ∧ startedAtMs ≤ observedAtMs

theorem responseStartedChecks_ok {mapper : Mapper} {params : Members} {request : Request} {responseId : Text} {observedAtMs : Int}
    (checked : responseStartedChecks settings mapper params = .ok (request, responseId, observedAtMs)) :
    Answerable mapper request observedAtMs ∧
      ∀ record ∈ mapper.records, record.normalized.answers (.str responseId) = false := by
  obtain ⟨found, _, checked⟩ := bind_ok.mp checked
  obtain ⟨_, pending, checked⟩ := bind_ok.mp checked
  obtain ⟨response, _, checked⟩ := bind_ok.mp checked
  obtain ⟨observed, _, checked⟩ := bind_ok.mp checked
  obtain ⟨_, later, checked⟩ := bind_ok.mp checked
  obtain ⟨_, fresh, checked⟩ := bind_ok.mp checked
  cases checked
  rw [matchPending, require_ok] at pending
  rw [require_ok] at later fresh
  refine ⟨⟨by simpa using pending, ?_⟩, by simpa using fresh⟩
  simpa [Option.any_eq_true] using later

theorem providerRefusedChecks_ok {mapper : Mapper} {params : Members} {request : Request} {retryAfter : Option Int}
    {diagnostic : Text} {observedAtMs : Int}
    (checked : providerRefusedChecks settings mapper params = .ok (request, retryAfter, diagnostic, observedAtMs)) :
    Answerable mapper request observedAtMs ∧ mapper.providerExecutionIdentity = none := by
  obtain ⟨found, _, checked⟩ := bind_ok.mp checked
  obtain ⟨_, pending, checked⟩ := bind_ok.mp checked
  obtain ⟨_, unadmitted, checked⟩ := bind_ok.mp checked
  obtain ⟨_, _, checked⟩ := bind_ok.mp checked
  obtain ⟨_, _, checked⟩ := bind_ok.mp checked
  obtain ⟨_, _, checked⟩ := bind_ok.mp checked
  obtain ⟨_, _, checked⟩ := bind_ok.mp checked
  obtain ⟨_, _, checked⟩ := bind_ok.mp checked
  obtain ⟨observed, _, checked⟩ := bind_ok.mp checked
  obtain ⟨_, later, checked⟩ := bind_ok.mp checked
  cases checked
  rw [matchPending, require_ok] at pending
  rw [require_ok] at later unadmitted
  refine ⟨⟨by simpa using pending, ?_⟩, by simpa using unadmitted⟩
  simpa [Option.any_eq_true] using later

theorem responseCompleted_ok {mapper : Mapper} {params : Members} (checked : responseCompletedRefusal settings mapper params = none) :
    mapper.providerExecutionIdentity.isSome ∧
      ∃ responseId, mapper.openResponseId = some responseId ∧ get params "responseId" = .str responseId := by
  unfold responseCompletedRefusal at checked
  simp only at checked
  split at checked
  · cases checked
  split at checked
  · cases checked
  next admitted =>
    split at checked
    · cases checked
    split at checked
    · cases checked
    next exact_ =>
      simp only [Bool.or_eq_true, Bool.not_eq_true', not_or, Bool.not_eq_false, List.any_eq_true] at exact_
      obtain ⟨same, record, _, answers⟩ := exact_
      refine ⟨by simpa [Option.isSome_iff_ne_none] using admitted, ?_⟩
      cases open_ : mapper.openResponseId with
      | some responseId =>
        refine ⟨responseId, rfl, ?_⟩
        rw [open_] at same
        exact equal_text.mp same
      | none =>
        rw [open_] at same
        unfold Normalized.answers at answers
        split at answers
        · rw [names_iff] at answers
          rw [answers] at same
          cases same
        · cases answers

theorem approval_ok {mapper : Mapper} {method : Text} {params : Members} (checked : approvalRefusal settings mapper method params = none) :
    mapper.providerExecutionIdentity.isSome ∧ mapper.openResponseId = none := by
  unfold approvalRefusal at checked
  split at checked
  · cases checked
  split at checked
  · cases checked
  split at checked
  · cases checked
  next admitted =>
    split at checked
    · cases checked
    next closed => exact ⟨by simpa [Option.isSome_iff_ne_none] using admitted, by simpa using closed⟩

/-- A turn may complete after its last response, or after its refusal. -/
theorem turnCompleted_ok {mapper : Mapper} {params : Members}
    (checked : localFactRefusal settings mapper (text "turn/completed") params = none) :
    mapper.pending = none ∧ mapper.openResponseId = none ∧
      (mapper.providerExecutionIdentity.isSome → mapper.mechanismState ≠ .waitingApproval) ∧
      names (get params "threadId") (settings.binding.text "thread_id") = true ∧
      names (inner params "turn" "id") (settings.binding.text "turn_id") = true := by
  have other : text "turn/completed" ≠ text "thread/started" := by decide
  unfold localFactRefusal at checked
  simp only [if_neg other] at checked
  split at checked
  · cases checked
  next thread =>
    split at checked
    · cases checked
    next turn =>
      have named : names (get params "threadId") (settings.binding.text "thread_id") = true ∧
          names (inner params "turn" "id") (settings.binding.text "turn_id") = true := by
        simpa [other] using And.intro thread turn
      simp only [if_true] at checked
      split at checked
      next unadmitted =>
        split at checked
        next parked =>
          simp only [Option.isNone_iff_eq_none] at unadmitted parked
          exact ⟨parked.2.2.1, parked.2.2.2, by simp [unadmitted], named⟩
        · cases checked
      next =>
        split at checked
        · cases checked
        next closed =>
          simp only [not_or, Bool.not_eq_true, Option.isSome_eq_false_iff, Option.isNone_iff_eq_none] at closed
          exact ⟨closed.1, closed.2.1, fun _ => closed.2.2, named⟩

/-! The invariant. -/

/-- The record is the boundary at which the execution was first admitted. -/
def Normalized.firstBoundary : Normalized → Bool
  | .executionStep _ _ first _ => first
  | _ => false

structure Disposed (mapper : Mapper) : Prop where
  admitted : mapper.providerExecutionIdentity.isSome ↔ mapper.admissionDisposition = .executionAdmitted
  first : mapper.providerExecutionIdentity.isSome → mapper.records.countP (·.normalized.firstBoundary) = 1
  unadmitted : mapper.providerExecutionIdentity = none → mapper.records.countP (·.normalized.firstBoundary) = 0
  parked : mapper.mechanismState = .parkedNotAdmitted ↔ mapper.admissionDisposition = .notAdmittedModelAtCapacity
  indeterminate : mapper.mechanismState = .admissionIndeterminate ↔ mapper.admissionDisposition = .admissionIndeterminate
  pending : mapper.admissionDisposition = .notAdmittedModelAtCapacity → mapper.pending = none
  waiting : mapper.mechanismState = .waitingApproval → mapper.providerExecutionIdentity.isSome
  interrupted : mapper.mechanismState = .postAdmissionInterrupted → mapper.providerExecutionIdentity.isSome

theorem disposed_indifferent : Indifferent Disposed where
  entered _ _ _ held := ⟨held.admitted, held.first, held.unadmitted, held.parked, held.indeterminate, held.pending, held.waiting,
    held.interrupted⟩
  cleared _ held := ⟨held.admitted, held.first, held.unadmitted, held.parked, held.indeterminate, held.pending, held.waiting,
    held.interrupted⟩
  bounded _ _ held := ⟨held.admitted, held.first, held.unadmitted, held.parked, held.indeterminate, held.pending, held.waiting,
    held.interrupted⟩

/-- A change that assigns neither state variable, and records no boundary. -/
theorem Disposed.unmoved {before assigned : Mapper} {stored : Record} {size : Nat} (held : Disposed before)
    (state : assigned.mechanismState = before.mechanismState ∧ assigned.admissionDisposition = before.admissionDisposition ∧
      assigned.providerExecutionIdentity = before.providerExecutionIdentity)
    (rest : assigned.pending = before.pending ∧ assigned.records = before.records)
    (quiet : stored.normalized.firstBoundary = false) : Disposed (assigned.appended stored size) := by
  obtain ⟨mechanism, disposition, identity⟩ := state
  obtain ⟨pending, records⟩ := rest
  constructor
  · simpa [Mapper.appended, disposition, identity] using held.admitted
  · simpa [Mapper.appended, records, identity, quiet] using held.first
  · simpa [Mapper.appended, records, identity, quiet] using held.unadmitted
  · simpa [Mapper.appended, mechanism, disposition] using held.parked
  · simpa [Mapper.appended, mechanism, disposition] using held.indeterminate
  · simpa [Mapper.appended, disposition, pending] using held.pending
  · simpa [Mapper.appended, mechanism, identity] using held.waiting
  · simpa [Mapper.appended, mechanism, identity] using held.interrupted

theorem Disposed.after_interruption {before assigned : Mapper} {stored : Record} {size : Nat} (held : Disposed before)
    (same : assigned.providerExecutionIdentity = before.providerExecutionIdentity ∧
      assigned.admissionDisposition = before.admissionDisposition ∧ assigned.records = before.records)
    (quiet : stored.normalized.firstBoundary = false) : Disposed (assigned.interrupted.appended stored size) := by
  obtain ⟨identity, disposition, records⟩ := same
  have first := held.first
  have unadmitted := held.unadmitted
  have admitted := held.admitted
  cases found : before.providerExecutionIdentity with
  | none =>
    rw [found] at identity
    constructor <;> simp_all [Mapper.interrupted, Mapper.appended]
  | some execution =>
    rw [found] at identity
    constructor <;> simp_all [Mapper.interrupted, Mapper.appended]

theorem disposed_change {before assigned : Mapper} {label : Json} {raw : Option RawCustody} {normalized : Normalized}
    {stored : Record} {size : Nat} (held : Disposed before) (change : Change settings before label raw normalized assigned)
    (recorded : Recorded assigned label raw normalized stored) : Disposed (assigned.appended stored size) := by
  have same := recorded.normalized
  cases change with
  | discrepancy =>
    apply held.after_interruption
    · exact ⟨rfl, rfl, rfl⟩
    · rw [same]
      rfl
  | clientRequestIssued =>
    apply held.unmoved
    · exact ⟨rfl, rfl, rfl⟩
    · exact ⟨rfl, rfl⟩
    · rw [same]
      rfl
  | clientResponseRetained =>
    apply held.unmoved
    · exact ⟨rfl, rfl, rfl⟩
    · exact ⟨rfl, rfl⟩
    · rw [same]
      rfl
  | requestStarted observed checked =>
    have startable := providerRequestChecks_ok checked
    have quiet : stored.normalized.firstBoundary = false := by
      rw [same]
      rfl
    constructor
    · exact held.admitted
    · simpa [Mapper.appended, quiet] using held.first
    · simpa [Mapper.appended, quiet] using held.unadmitted
    · exact held.parked
    · exact held.indeterminate
    · intro refused
      exact absurd refused startable.undecided.1
    · exact held.waiting
    · exact held.interrupted
  | @executionStep message custody request responseId observedAtMs execution step observed checked =>
    obtain ⟨answerable, _⟩ := responseStartedChecks_ok checked
    obtain ⟨determinate, _, _, _⟩ := gate_none observed.opened
    have unrefused : before.admissionDisposition ≠ .notAdmittedModelAtCapacity := by
      intro refused
      have pending := held.pending refused
      rw [answerable.pending] at pending
      cases pending
    have first := held.first
    have unadmitted := held.unadmitted
    have admitted := held.admitted
    cases found : before.providerExecutionIdentity with
    | none =>
      constructor <;> simp_all [Mapper.appended, Normalized.firstBoundary]
    | some other =>
      constructor <;> simp_all [Mapper.appended, Normalized.firstBoundary]
  | admissionRefused observed checked =>
    obtain ⟨_, unexecuted⟩ := providerRefusedChecks_ok checked
    have unadmitted := held.unadmitted
    constructor <;> simp_all [Mapper.appended, Normalized.firstBoundary]
  | responseCompleted observed checked =>
    obtain ⟨admitted, _⟩ := responseCompleted_ok checked
    obtain ⟨determinate, _, _, _⟩ := gate_none observed.opened
    have executing := held.admitted.mp admitted
    have first := held.first admitted
    obtain ⟨execution, found⟩ := Option.isSome_iff_exists.mp admitted
    constructor <;> simp_all [Mapper.appended, Normalized.firstBoundary]
  | @localFact message method custody bounded observed fact checked tracked =>
    by_cases completes : method = text "turn/completed" ∧ before.providerExecutionIdentity.isSome
    · rw [if_pos completes]
      have executing := held.admitted.mp completes.2
      have first := held.first completes.2
      obtain ⟨execution, found⟩ := Option.isSome_iff_exists.mp completes.2
      constructor <;> simp_all [Mapper.appended, Normalized.firstBoundary]
    · rw [if_neg completes]
      apply held.unmoved
      · exact ⟨rfl, rfl, rfl⟩
      · exact ⟨rfl, rfl⟩
      · rw [same]
        rfl
  | watermark =>
    apply held.unmoved
    · exact ⟨rfl, rfl, rfl⟩
    · exact ⟨rfl, rfl⟩
    · rw [same]
      rfl
  | waitingApproval observed checked =>
    obtain ⟨admitted, _⟩ := approval_ok checked
    have executing := held.admitted.mp admitted
    have first := held.first admitted
    obtain ⟨execution, found⟩ := Option.isSome_iff_exists.mp admitted
    constructor <;> simp_all [Mapper.appended, Normalized.firstBoundary]
  | legacyFact =>
    apply held.unmoved
    · exact ⟨rfl, rfl, rfl⟩
    · exact ⟨rfl, rfl⟩
    · rw [same]
      rfl
  | cut checked =>
    split
    · apply held.unmoved
      · exact ⟨rfl, rfl, rfl⟩
      · exact ⟨rfl, rfl⟩
      · rw [same]
        rfl
    · apply held.after_interruption
      · exact ⟨rfl, rfl, rfl⟩
      · rw [same]
        rfl

theorem disposed_run {calls : List Call} {mapper : Mapper} (run : Run (Performs settings) Mapper.initial calls mapper) :
    Disposed mapper := by
  apply mapper_invariant run disposed_indifferent
  · constructor <;> simp [Mapper.initial]
  · intro before label raw normalized assigned stored size held _ change recorded
    exact disposed_change held change recorded

/-! How the state moves. -/

/-- The moves that one call may make. -/
structure Advances (before after : Mapper) : Prop where
  identity : ∀ execution, before.providerExecutionIdentity = some execution → after.providerExecutionIdentity = some execution
  disposition : after.admissionDisposition = before.admissionDisposition ∨ before.admissionDisposition = .unresolved ∨
    before.admissionDisposition = .notAdmittedModelAtCapacity ∧ after.admissionDisposition = .admissionIndeterminate
  indeterminate : before.mechanismState = .admissionIndeterminate → after.mechanismState = .admissionIndeterminate
  interrupted : before.mechanismState = .postAdmissionInterrupted → after.mechanismState = .postAdmissionInterrupted
  waiting : before.mechanismState = .waitingApproval →
    after.mechanismState = .waitingApproval ∨ after.mechanismState = .postAdmissionInterrupted

theorem Advances.unmoved {before after : Mapper} (mechanism : after.mechanismState = before.mechanismState)
    (disposition : after.admissionDisposition = before.admissionDisposition)
    (identity : after.providerExecutionIdentity = before.providerExecutionIdentity) : Advances before after := by
  constructor
  · simp [identity]
  · exact .inl disposition
  · simp [mechanism]
  · simp [mechanism]
  · simp only [mechanism]
    exact .inl

/-- A move from a state that is none of the ends. -/
theorem Advances.moving {before after : Mapper} (held : Disposed before)
    (determinate : before.admissionDisposition ≠ .admissionIndeterminate)
    (uninterrupted : before.mechanismState ≠ .postAdmissionInterrupted) (answered : before.mechanismState ≠ .waitingApproval)
    (identity : ∀ execution, before.providerExecutionIdentity = some execution → after.providerExecutionIdentity = some execution)
    (disposition : after.admissionDisposition = before.admissionDisposition ∨ before.admissionDisposition = .unresolved) :
    Advances before after := by
  constructor
  · exact identity
  · rcases disposition with same | undecided
    · exact .inl same
    · exact .inr (.inl undecided)
  · intro found
    exact absurd (held.indeterminate.mp found) determinate
  · intro found
    exact absurd found uninterrupted
  · intro found
    exact absurd found answered

theorem Disposed.advances_interrupted {before assigned : Mapper} (held : Disposed before)
    (same : assigned.providerExecutionIdentity = before.providerExecutionIdentity ∧
      assigned.admissionDisposition = before.admissionDisposition ∧ assigned.mechanismState = before.mechanismState) :
    Advances before assigned.interrupted := by
  obtain ⟨identity, disposition, mechanism⟩ := same
  have admitted := held.admitted
  have waiting := held.waiting
  have interruption := held.interrupted
  have indeterminate := held.indeterminate
  cases found : before.providerExecutionIdentity with
  | none =>
    constructor <;> simp_all [Mapper.interrupted]
    cases state : before.admissionDisposition <;> simp_all
  | some execution =>
    constructor <;> simp_all [Mapper.interrupted]

theorem advances_change {before assigned : Mapper} {label : Json} {raw : Option RawCustody} {normalized : Normalized}
    (held : Disposed before) (change : Change settings before label raw normalized assigned) : Advances before assigned := by
  cases change with
  | discrepancy =>
    apply held.advances_interrupted
    exact ⟨rfl, rfl, rfl⟩
  | clientRequestIssued => exact Advances.unmoved rfl rfl rfl
  | clientResponseRetained => exact Advances.unmoved rfl rfl rfl
  | requestStarted => exact Advances.unmoved rfl rfl rfl
  | executionStep observed checked same =>
    obtain ⟨answerable, _⟩ := responseStartedChecks_ok checked
    obtain ⟨determinate, _, uninterrupted, waiting⟩ := gate_none observed.opened
    apply Advances.moving held determinate uninterrupted
    · exact fun found => absurd (waiting found).2 (by decide)
    · intro execution found
      simp [same, found]
    · cases admitted : before.providerExecutionIdentity with
      | some execution => exact .inl (by simp)
      | none =>
        right
        have unadmitted : before.admissionDisposition ≠ .executionAdmitted := by
          intro executing
          simpa [admitted] using held.admitted.mpr executing
        have unrefused : before.admissionDisposition ≠ .notAdmittedModelAtCapacity := by
          intro refused
          simpa [answerable.pending] using held.pending refused
        cases disposition : before.admissionDisposition with
        | unresolved => rfl
        | executionAdmitted => exact absurd disposition unadmitted
        | notAdmittedModelAtCapacity => exact absurd disposition unrefused
        | admissionIndeterminate => exact absurd disposition determinate
  | admissionRefused observed checked =>
    obtain ⟨answerable, unexecuted⟩ := providerRefusedChecks_ok checked
    obtain ⟨determinate, _, uninterrupted, waiting⟩ := gate_none observed.opened
    apply Advances.moving held determinate uninterrupted
    · exact fun found => absurd (waiting found).2 (by decide)
    · exact fun _ found => found
    · cases disposition : before.admissionDisposition with
      | unresolved => exact .inr rfl
      | executionAdmitted => simpa [unexecuted] using held.admitted.mpr disposition
      | notAdmittedModelAtCapacity => exact .inl rfl
      | admissionIndeterminate => exact absurd disposition determinate
  | responseCompleted observed checked =>
    obtain ⟨determinate, _, uninterrupted, waiting⟩ := gate_none observed.opened
    apply Advances.moving held determinate uninterrupted
    · exact fun found => absurd (waiting found).2 (by decide)
    · exact fun _ found => found
    · exact .inl rfl
  | @localFact message method custody bounded observed fact checked tracked =>
    by_cases completes : method = text "turn/completed" ∧ before.providerExecutionIdentity.isSome
    · rw [if_pos completes]
      obtain ⟨rfl, admitted⟩ := completes
      obtain ⟨_, _, answered, _⟩ := turnCompleted_ok checked
      obtain ⟨determinate, _, uninterrupted, _⟩ := gate_none observed.opened
      apply Advances.moving held determinate uninterrupted (answered admitted)
      · exact fun _ found => found
      · exact .inl rfl
    · rw [if_neg completes]
      exact Advances.unmoved rfl rfl rfl
  | watermark => exact Advances.unmoved rfl rfl rfl
  | waitingApproval observed checked =>
    obtain ⟨determinate, _, uninterrupted, waiting⟩ := gate_none observed.opened
    apply Advances.moving held determinate uninterrupted
    · exact fun found => absurd (waiting found).1 (by decide)
    · exact fun _ found => found
    · exact .inl rfl
  | legacyFact => exact Advances.unmoved rfl rfl rfl
  | cut checked =>
    split
    · exact Advances.unmoved rfl rfl rfl
    · apply held.advances_interrupted
      exact ⟨rfl, rfl, rfl⟩

theorem Advances.trans {first middle last : Mapper} (early : Advances first middle) (late : Advances middle last) :
    Advances first last := by
  constructor
  · exact fun execution found => late.identity execution (early.identity execution found)
  · rcases early.disposition with same | undecided | ⟨refused, ended⟩
    · rw [← same]
      exact late.disposition
    · exact .inr (.inl undecided)
    · rcases late.disposition with same | undecided | ⟨other, _⟩
      · exact .inr (.inr ⟨refused, same.trans ended⟩)
      · cases ended.symm.trans undecided
      · cases ended.symm.trans other
  · exact fun found => late.indeterminate (early.indeterminate found)
  · exact fun found => late.interrupted (early.interrupted found)
  · intro found
    rcases early.waiting found with waits | ended
    · exact late.waiting waits
    · exact .inr (late.interrupted ended)

theorem advances_step {calls : List Call} {before after : Mapper} {call : Call}
    (run : Run (Performs settings) Mapper.initial calls before) (step : Performs settings before call after) :
    Advances before after := by
  have held := disposed_run run
  apply mapper_step run step
  · exact fun _ => Advances.unmoved rfl rfl rfl
  · rintro entered label raw normalized assigned stored size entry change _
    have moved : Advances before assigned := by
      rcases entry with rfl | ⟨kind, ordinal, rfl⟩
      · exact advances_change held change
      · have moved := advances_change (disposed_indifferent.entered _ _ _ held) change
        exact ⟨moved.identity, moved.disposition, moved.indeterminate, moved.interrupted, moved.waiting⟩
    exact ⟨⟨moved.identity, moved.disposition, moved.indeterminate, moved.interrupted, moved.waiting⟩,
      ⟨moved.identity, moved.disposition, moved.indeterminate, moved.interrupted, moved.waiting⟩⟩

theorem advances_run {calls later : List Call} {mapper after : Mapper} (run : Run (Performs settings) Mapper.initial calls mapper)
    (more : Run (Performs settings) mapper later after) : Advances mapper after := by
  induction more with
  | nil => exact Advances.unmoved rfl rfl rfl
  | snoc early step ih => exact ih.trans (advances_step (run.append early) step)

/-- After the terminal cut every call raises and changes nothing. -/
theorem closed_call {mapper : Mapper} (idle : Idle mapper) (cut : mapper.acquisitionCut ≠ none) (call : Call) :
    ∃ failure, perform settings call mapper = (.error failure, mapper) := by
  have ends := perform_ends settings idle.kind call
  cases result : perform settings call mapper with
  | mk outcome after =>
    cases outcome with
    | ok found =>
      obtain ⟨_, _, open_, _⟩ := ends.returns result
      exact absurd open_ cut
    | error failure =>
      have harmless : ¬ Leaks settings mapper call := fun leaks => cut leaks.1
      rw [(ends.raises result).unchanged_iff.mpr harmless]
      exact ⟨failure, rfl⟩

structure DispositionMachine (settings : Settings host) (mapper : Mapper) : Prop where
  admitted : mapper.providerExecutionIdentity ≠ none ↔ mapper.admissionDisposition = .executionAdmitted
  boundary : mapper.admissionDisposition = .executionAdmitted ↔ mapper.records.countP (·.normalized.firstBoundary) = 1
  parked : mapper.mechanismState = .parkedNotAdmitted ↔ mapper.admissionDisposition = .notAdmittedModelAtCapacity
  indeterminate : mapper.mechanismState = .admissionIndeterminate ↔ mapper.admissionDisposition = .admissionIndeterminate
  moves : ∀ later after, Run (Performs settings) mapper later after → Advances mapper after
  closed : mapper.acquisitionCut ≠ none → ∀ call, ∃ failure, perform settings call mapper = (.error failure, mapper)

/-- The two state variables, the execution identity and the log agree in every state that calls
can reach, from there move only as `Advances` says, and stand still once a cut is recorded. -/
theorem disposition_machine {calls : List Call} {mapper : Mapper} (run : Run (Performs settings) Mapper.initial calls mapper) :
    DispositionMachine settings mapper := by
  have held := disposed_run run
  constructor
  · rw [Option.ne_none_iff_isSome]
    exact held.admitted
  · rw [← held.admitted]
    constructor
    · exact held.first
    · intro one
      rw [← Option.ne_none_iff_isSome]
      intro none
      cases one.symm.trans (held.unadmitted none)
  · exact held.parked
  · exact held.indeterminate
  · exact fun _ _ more => advances_run run more
  · exact fun cut call => closed_call (idle_run run) cut call

theorem disposition_machine_sample :
    DispositionMachine sampleSettings (performAll sampleSettings Mapper.initial sampleAnswered) :=
  disposition_machine (performAll_run sampleSettings Mapper.initial sampleAnswered)

end Switchyard.Admission
