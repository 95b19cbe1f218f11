import Switchyard.Admission.Disposition
import Mathlib.Data.List.Chain

/-! The grammar of provider boundaries: requests, steps, refusals and completions as
the log tells them, and the mapper fields from which each next one is checked. -/

namespace Switchyard.Admission
open Library Json AppServer

variable {host : Host} {settings : Settings host}

inductive Boundary
  | started (request : Request) (startedAtMs : Int)
  | stepped (request : Request) (responseId : Text) (observedAtMs : Int)
  | refused (request : Request) (observedAtMs : Int)
  | completed (responseId : Json)

def Normalized.boundary? : Normalized → Option Boundary
  | .requestStarted request startedAtMs => some (.started request startedAtMs)
  | .executionStep _ step _ observedAtMs => some (.stepped step.request step.responseId observedAtMs)
  | .admissionRefused request _ _ observedAtMs => some (.refused request observedAtMs)
  | .responseCompleted responseId => some (.completed responseId)
  | _ => none

/-- No provider boundary may follow the record. -/
def Normalized.halts : Normalized → Bool
  | .discrepancy _ _ | .waitingApproval _ => true
  | _ => false

def Boundary.atMs? : Boundary → Option Int
  | .started _ atMs | .stepped _ _ atMs | .refused _ atMs => some atMs
  | .completed _ => none

def boundaries (records : List Record) : List Boundary := records.filterMap (·.normalized.boundary?)

/-- A request with the response that answered it. -/
structure Exchange where
  request : Request
  startedAtMs : Int
  responseId : Text
  observedAtMs : Int

def Exchange.opening (exchange : Exchange) : List Boundary :=
  [.started exchange.request exchange.startedAtMs, .stepped exchange.request exchange.responseId exchange.observedAtMs]

def Exchange.whole (exchange : Exchange) : List Boundary := exchange.opening ++ [.completed (.str exchange.responseId)]

/-- What follows the completed exchanges. -/
inductive Tail
  | nothing
  | started (request : Request) (startedAtMs : Int)
  | stepped (exchange : Exchange)
  | refused (request : Request) (startedAtMs observedAtMs : Int)

namespace Tail

def boundaries : Tail → List Boundary
  | .nothing => []
  | .started request startedAtMs => [.started request startedAtMs]
  | .stepped exchange => exchange.opening
  | .refused request startedAtMs observedAtMs => [.started request startedAtMs, .refused request observedAtMs]

def request? : Tail → Option Request
  | .nothing => none
  | .started request _ | .refused request _ _ => some request
  | .stepped exchange => some exchange.request

def responseId? : Tail → Option Text
  | .stepped exchange => some exchange.responseId
  | _ => none

/-- The request that waits for its answer, with its time. -/
def pending? : Tail → Option (Request × Int)
  | .started request startedAtMs => some (request, startedAtMs)
  | _ => none

/-- The request that has its answer. -/
def answered? : Tail → Option Request
  | .stepped exchange => some exchange.request
  | .refused request _ _ => some request
  | _ => none

end Tail

/-- The requests of a word, in their order. -/
def requests (exchanges : List Exchange) (tail : Tail) : List Request := exchanges.map (·.request) ++ tail.request?.toList

/-- The word is a prefix of completed exchanges, or one request that was refused. -/
structure Grammatical (word : List Boundary) (exchanges : List Exchange) (tail : Tail) : Prop where
  shape : word = exchanges.flatMap Exchange.whole ++ tail.boundaries
  alone : ∀ request startedAtMs observedAtMs, tail = .refused request startedAtMs observedAtMs → exchanges = []
  ordinals : ∀ (index : Nat) (request : Request), (requests exchanges tail)[index]? = some request → request.ordinal = index ∧ request.order = index
  occurrences : ((requests exchanges tail).map (·.occurrenceId)).Nodup
  responses : (exchanges.map (·.responseId) ++ tail.responseId?.toList).Nodup
  times : (word.filterMap Boundary.atMs?).IsChain (· ≤ ·)

/-- The mechanism states that no boundary leaves. -/
def Halted (state : MechanismState) : Prop :=
  state = .admissionIndeterminate ∨ state = .postAdmissionInterrupted ∨ state = .waitingApproval

/-- The mapper fields say where in the word its log has come to. -/
structure Coupled (mapper : Mapper) (exchanges : List Exchange) (tail : Tail) : Prop where
  grammar : Grammatical (boundaries mapper.records) exchanges tail
  completed : mapper.completedRequests.reverse = (exchanges.map (·.request) ++ tail.answered?.toList).map (·.occurrenceId)
  pending : mapper.pending = tail.pending?.map (·.1) ∧ mapper.pendingStartedAtMs = tail.pending?.map (·.2)
  opened : mapper.openResponseId = tail.responseId?
  last : ((boundaries mapper.records).filterMap Boundary.atMs?).getLast? = (tail.pending?.map (·.2)).or mapper.lastBoundaryMs
  refusal : ∀ request startedAtMs observedAtMs, tail = .refused request startedAtMs observedAtMs →
    mapper.admissionDisposition = .notAdmittedModelAtCapacity ∨ mapper.admissionDisposition = .admissionIndeterminate
  admitted : mapper.providerExecutionIdentity.isSome ↔ exchanges ≠ [] ∨ tail.responseId?.isSome

/-- The halting records of a log come after its boundaries. -/
structure Quiet (mapper : Mapper) : Prop where
  halted : ∀ record ∈ mapper.records, record.normalized.halts = true → Halted mapper.mechanismState
  ordered : mapper.records.Pairwise fun earlier later =>
    earlier.normalized.halts = true → later.normalized.boundary? = none

theorem Advances.halted {before after : Mapper} (advances : Advances before after) (halted : Halted before.mechanismState) :
    Halted after.mechanismState := by
  rcases halted with found | found | found
  · exact .inl (advances.indeterminate found)
  · exact .inr (.inl (advances.interrupted found))
  · rcases advances.waiting found with waits | ended
    · exact .inr (.inr waits)
    · exact .inr (.inl ended)

/-- No boundary passes the gate of a halted mapper. -/
theorem Observed.unhalted {before : Mapper} {message : ServerMessage} {method : Text} {raw : RawCustody} (held : Disposed before)
    (observed : Observed settings before message method false raw) (boundary : providerBoundary method = true) :
    ¬ Halted before.mechanismState := by
  obtain ⟨determinate, _, uninterrupted, waiting⟩ := gate_none observed.opened
  rintro (found | found | found)
  · exact determinate (held.indeterminate.mp found)
  · exact uninterrupted found
  · cases boundary.symm.trans (waiting found).2

theorem interrupted_halted (mapper : Mapper) : Halted mapper.interrupted.mechanismState := by
  unfold Mapper.interrupted
  split
  · exact .inl rfl
  · exact .inr (.inl rfl)

theorem Quiet.append {before assigned : Mapper} {stored : Record} {size : Nat} (quiet : Quiet before)
    (advances : Advances before assigned) (records : assigned.records = before.records)
    (boundary : stored.normalized.boundary? ≠ none → ¬ Halted before.mechanismState)
    (halting : stored.normalized.halts = true → Halted assigned.mechanismState) : Quiet (assigned.appended stored size) := by
  constructor
  · intro record listed halts
    simp only [Mapper.appended, records, List.mem_append, List.mem_singleton] at listed
    rcases listed with listed | rfl
    · exact advances.halted (quiet.halted record listed halts)
    · exact halting halts
  · simp only [Mapper.appended, records, List.pairwise_append, List.pairwise_singleton, List.mem_singleton, forall_eq, true_and]
    refine ⟨quiet.ordered, ?_⟩
    intro earlier listed halts
    by_contra bounded
    exact boundary bounded (quiet.halted earlier listed halts)

theorem quiet_change {before assigned : Mapper} {label : Json} {raw : Option RawCustody} {normalized : Normalized}
    {stored : Record} {size : Nat} (held : Disposed before) (quiet : Quiet before)
    (change : Change settings before label raw normalized assigned) (recorded : Recorded assigned label raw normalized stored) :
    Quiet (assigned.appended stored size) := by
  have same := recorded.normalized
  have advances := advances_change held change
  cases change with
  | discrepancy =>
    apply quiet.append advances
    · exact interrupted_records _
    · simp [same, Normalized.boundary?]
    · exact fun _ => interrupted_halted _
  | requestStarted observed =>
    apply quiet.append advances
    · rfl
    · exact fun _ => observed.unhalted held (by decide)
    · simp [same, Normalized.halts]
  | executionStep observed =>
    apply quiet.append advances
    · rfl
    · exact fun _ => observed.unhalted held (by decide)
    · simp [same, Normalized.halts]
  | admissionRefused observed =>
    apply quiet.append advances
    · rfl
    · exact fun _ => observed.unhalted held (by decide)
    · simp [same, Normalized.halts]
  | responseCompleted observed =>
    apply quiet.append advances
    · rfl
    · exact fun _ => observed.unhalted held (by decide)
    · simp [same, Normalized.halts]
  | waitingApproval =>
    apply quiet.append advances
    · rfl
    · simp [same, Normalized.boundary?]
    · exact fun _ => .inr (.inr rfl)
  | cut =>
    apply quiet.append advances
    · split
      · rfl
      · exact interrupted_records _
    · simp [same, Normalized.boundary?]
    · simp [same, Normalized.halts]
  | _ =>
    apply quiet.append advances
    · rfl
    · simp [same, Normalized.boundary?]
    · simp [same, Normalized.halts]

/-! How each change moves the word. -/

variable {before assigned : Mapper} {exchanges : List Exchange} {tail : Tail} {stored : Record} {size : Nat}

theorem boundaries_append (records : List Record) (stored : Record) :
    boundaries (records ++ [stored]) = boundaries records ++ stored.normalized.boundary?.toList := by
  unfold boundaries
  rw [List.filterMap_append]
  cases found : stored.normalized.boundary? <;> simp [found]

/-- The fields that boundaries are checked against. -/
def Mapper.boundaryFields (mapper : Mapper) :
    List Record × Option Request × Option Int × Option Text × List Text × Option Int × Option ExecutionIdentity :=
  (mapper.records, mapper.pending, mapper.pendingStartedAtMs, mapper.openResponseId, mapper.completedRequests,
    mapper.lastBoundaryMs, mapper.providerExecutionIdentity)

theorem interrupted_boundaryFields (mapper : Mapper) : mapper.interrupted.boundaryFields = mapper.boundaryFields := by
  unfold Mapper.interrupted
  split <;> rfl

theorem Coupled.plain (coupled : Coupled before exchanges tail) (advances : Advances before assigned)
    (same : assigned.boundaryFields = before.boundaryFields) (plain : stored.normalized.boundary? = none) :
    Coupled (assigned.appended stored size) exchanges tail := by
  simp only [Mapper.boundaryFields, Prod.mk.injEq] at same
  obtain ⟨records, pending, started, opened, completed, last, identity⟩ := same
  have word : boundaries (assigned.appended stored size).records = boundaries before.records := by
    simp [Mapper.appended, records, boundaries_append, plain]
  constructor
  · rw [word]
    exact coupled.grammar
  · simpa [Mapper.appended, completed] using coupled.completed
  · simpa [Mapper.appended, pending, started] using coupled.pending
  · simpa [Mapper.appended, opened] using coupled.opened
  · rw [word]
    simpa [Mapper.appended, last] using coupled.last
  · intro request startedAtMs observedAtMs refused
    rcases coupled.refusal request startedAtMs observedAtMs refused with found | found
    · rcases advances.disposition with same | undecided | ⟨_, ended⟩
      · exact .inl (same.trans found)
      · cases found.symm.trans undecided
      · exact .inr ended
    · rcases advances.disposition with same | undecided | ⟨other, _⟩
      · exact .inr (same.trans found)
      · cases found.symm.trans undecided
      · cases found.symm.trans other
  · simpa [Mapper.appended, identity] using coupled.admitted

/-- The chain of times goes on with a later one. -/
theorem times_append {word : List Boundary} {boundary : Boundary} {atMs : Int}
    (chain : (word.filterMap Boundary.atMs?).IsChain (· ≤ ·)) (found : boundary.atMs? = some atMs)
    (later : ∀ last, (word.filterMap Boundary.atMs?).getLast? = some last → last ≤ atMs) :
    ((word ++ [boundary]).filterMap Boundary.atMs?).IsChain (· ≤ ·) := by
  rw [List.filterMap_append, List.isChain_append]
  refine ⟨chain, by simp [found], ?_⟩
  intro last listed next head
  simp only [List.filterMap_cons, found, List.filterMap_nil, List.head?_cons, Option.mem_some_iff] at head
  rw [← head]
  exact later last listed

theorem coupled_started {request : Request} {startedAtMs : Int} (coupled : Coupled before exchanges tail)
    (startable : Startable before request startedAtMs) (same : stored.normalized = .requestStarted request startedAtMs) :
    ∃ exchanges tail, Coupled ({ before with pending := some request, pendingStartedAtMs := some startedAtMs }.appended stored size)
      exchanges tail := by
  obtain ⟨unpended, unopened⟩ := startable.alone
  have nothing : tail = .nothing := by
    cases tail with
    | nothing => rfl
    | started other otherMs => simpa [unpended, Tail.pending?] using coupled.pending.1
    | stepped exchange => simpa [unopened, Tail.responseId?] using coupled.opened
    | refused other otherMs observedAtMs =>
      rcases coupled.refusal other otherMs observedAtMs rfl with found | found
      · exact absurd found startable.undecided.1
      · exact absurd found startable.undecided.2
  subst nothing
  have word : boundaries (before.records ++ [stored]) = boundaries before.records ++ [.started request startedAtMs] := by
    rw [boundaries_append, same]
    rfl
  have answered : before.completedRequests.reverse = exchanges.map (·.request.occurrenceId) := by
    simpa [Tail.answered?, Function.comp_def] using coupled.completed
  have count : before.completedRequests.length = exchanges.length := by
    simpa using congrArg List.length answered
  have fresh : request.occurrenceId ∉ exchanges.map (·.request.occurrenceId) := by
    rw [← answered, List.mem_reverse]
    exact startable.fresh
  have last : ((boundaries before.records).filterMap Boundary.atMs?).getLast? = before.lastBoundaryMs := by
    simpa [Tail.pending?] using coupled.last
  have grammar := coupled.grammar
  refine ⟨exchanges, .started request startedAtMs, ?_⟩
  constructor
  · constructor
    · simpa [Mapper.appended, word, Tail.boundaries] using grammar.shape
    · simp
    · intro index found listed
      unfold requests at listed
      rw [List.getElem?_append] at listed
      split at listed
      next inside =>
        apply grammar.ordinals index found
        simpa [requests, Tail.request?] using listed
      next outside =>
        simp only [List.length_map, Nat.not_lt] at outside
        simp only [Tail.request?, Option.toList_some, List.length_map] at listed
        obtain ⟨at_, same⟩ := List.getElem?_eq_some_iff.mp listed
        simp only [List.length_singleton] at at_
        have place : index = exchanges.length := by omega
        simp only [List.getElem_singleton] at same
        rw [← same, place, ← count]
        exact startable.ordinal
    · have kept : (exchanges.map (·.request.occurrenceId)).Nodup := by
        simpa [requests, Tail.request?, Function.comp_def] using grammar.occurrences
      simp only [requests, Tail.request?, Option.toList_some, List.map_append, List.map_map, List.map_singleton]
      apply List.Nodup.append kept (List.nodup_singleton _)
      intro occurrence listed other
      rw [List.mem_singleton.mp other] at listed
      exact fresh listed
    · simpa [Tail.responseId?] using grammar.responses
    · simp only [Mapper.appended, word]
      apply times_append grammar.times rfl
      intro latest found
      exact startable.later latest (last.symm.trans found)
  · simpa [Mapper.appended, Tail.answered?] using coupled.completed
  · exact ⟨rfl, rfl⟩
  · exact unopened
  · simp [Mapper.appended, word, Tail.pending?, Boundary.atMs?]
  · simp
  · simpa [Mapper.appended, Tail.responseId?] using coupled.admitted

/-- The pending request of the word. -/
theorem Answerable.started {request : Request} {observedAtMs : Int} (answerable : Answerable before request observedAtMs)
    (coupled : Coupled before exchanges tail) :
    ∃ startedAtMs, tail = .started request startedAtMs ∧ startedAtMs ≤ observedAtMs := by
  obtain ⟨startedAtMs, started, later⟩ := answerable.later
  have pending := answerable.pending.symm.trans coupled.pending.1
  have times := started.symm.trans coupled.pending.2
  cases tail with
  | started other otherMs =>
    simp only [Tail.pending?, Option.map_some, Option.some.injEq] at pending times
    exact ⟨startedAtMs, by rw [pending, times], later⟩
  | _ => simp [Tail.pending?] at pending

/-- The requests up to the pending one are those completed, and it. -/
theorem Coupled.unanswered {request : Request} {startedAtMs : Int} (coupled : Coupled before exchanges (.started request startedAtMs)) :
    before.completedRequests.reverse = exchanges.map (·.request.occurrenceId) ∧ request.occurrenceId ∉ before.completedRequests := by
  have answered : before.completedRequests.reverse = exchanges.map (·.request.occurrenceId) := by
    simpa [Tail.answered?, Function.comp_def] using coupled.completed
  refine ⟨answered, ?_⟩
  intro listed
  rw [← List.mem_reverse, answered] at listed
  have distinct := coupled.grammar.occurrences
  simp only [requests, Tail.request?, Option.toList_some, List.map_append, List.map_map, List.map_singleton] at distinct
  exact List.disjoint_of_nodup_append distinct listed (List.mem_singleton_self _)

theorem stepped_answers {records : List Record} {request : Request} {responseId : Text} {observedAtMs : Int}
    (listed : .stepped request responseId observedAtMs ∈ boundaries records) :
    ∃ record ∈ records, record.normalized.answers (.str responseId) = true := by
  obtain ⟨record, member, found⟩ := List.mem_filterMap.mp listed
  refine ⟨record, member, ?_⟩
  cases shape : record.normalized with
  | executionStep execution step first atMs =>
    rw [shape] at found
    simp only [Normalized.boundary?, Option.some.injEq, Boundary.stepped.injEq] at found
    simp [Normalized.answers, names_iff, found.2.1]
  | _ =>
    rw [shape] at found
    simp [Normalized.boundary?] at found

theorem Grammatical.stepped_mem {word : List Boundary} {exchange : Exchange} (grammar : Grammatical word exchanges tail)
    (member : exchange ∈ exchanges) : .stepped exchange.request exchange.responseId exchange.observedAtMs ∈ word := by
  rw [grammar.shape]
  apply List.mem_append_left
  apply List.mem_flatMap.mpr
  exact ⟨exchange, member, by simp [Exchange.whole, Exchange.opening]⟩

theorem coupled_stepped {request : Request} {responseId : Text} {observedAtMs : Int} {execution : ExecutionIdentity}
    {step : StepIdentity} {first : Bool} (coupled : Coupled before exchanges tail)
    (answerable : Answerable before request observedAtMs)
    (fresh : ∀ record ∈ before.records, record.normalized.answers (.str responseId) = false)
    (stepped : step.request = request ∧ step.responseId = responseId)
    (same : stored.normalized = .executionStep execution step first observedAtMs)
    (fields : assigned.boundaryFields = (before.records, none, none, some responseId,
      before.completedRequests.insert request.occurrenceId, some observedAtMs, some execution)) :
    ∃ exchanges tail, Coupled (assigned.appended stored size) exchanges tail := by
  obtain ⟨startedAtMs, rfl, later⟩ := answerable.started coupled
  obtain ⟨answered, unanswered⟩ := coupled.unanswered
  simp only [Mapper.boundaryFields, Prod.mk.injEq] at fields
  obtain ⟨records, pending, started, opened, completed, last, identity⟩ := fields
  have word : boundaries (assigned.appended stored size).records =
      boundaries before.records ++ [.stepped request responseId observedAtMs] := by
    simp only [Mapper.appended, records, boundaries_append, same, Normalized.boundary?, stepped]
    rfl
  have grammar := coupled.grammar
  refine ⟨exchanges, .stepped ⟨request, startedAtMs, responseId, observedAtMs⟩, ?_⟩
  constructor
  · rw [word]
    constructor
    · simp [grammar.shape, Tail.boundaries, Exchange.opening]
    · simp
    · exact grammar.ordinals
    · exact grammar.occurrences
    · have kept : (exchanges.map (·.responseId)).Nodup := by simpa [Tail.responseId?] using grammar.responses
      apply List.Nodup.append kept (List.nodup_singleton _)
      intro other listed same
      rw [List.mem_singleton.mp same] at listed
      obtain ⟨exchange, member, rfl⟩ := List.mem_map.mp listed
      obtain ⟨record, recorded, answers⟩ := stepped_answers (grammar.stepped_mem member)
      cases (fresh record recorded).symm.trans answers
    · apply times_append grammar.times rfl
      intro latest found
      have time := coupled.last.symm.trans found
      simp only [Tail.pending?, Option.map_some, Option.some_or, Option.some.injEq] at time
      omega
  · simp [Mapper.appended, completed, List.insert_of_not_mem unanswered, answered, Tail.answered?, Function.comp_def]
  · simp [Mapper.appended, pending, started, Tail.pending?]
  · simp [Mapper.appended, opened, Tail.responseId?]
  · rw [word]
    simp [Mapper.appended, last, Tail.pending?, Boundary.atMs?]
  · simp
  · simp [Mapper.appended, identity, Tail.responseId?]

theorem coupled_refused {request : Request} {retryAfter : Option Int} {diagnostic : Text} {observedAtMs : Int}
    (coupled : Coupled before exchanges tail) (answerable : Answerable before request observedAtMs)
    (unadmitted : before.providerExecutionIdentity = none)
    (same : stored.normalized = .admissionRefused request retryAfter diagnostic observedAtMs)
    (fields : assigned.boundaryFields = (before.records, none, none, before.openResponseId,
      before.completedRequests.insert request.occurrenceId, some observedAtMs, before.providerExecutionIdentity))
    (disposition : assigned.admissionDisposition = .notAdmittedModelAtCapacity) :
    ∃ exchanges tail, Coupled (assigned.appended stored size) exchanges tail := by
  obtain ⟨startedAtMs, rfl, later⟩ := answerable.started coupled
  obtain ⟨answered, unanswered⟩ := coupled.unanswered
  simp only [Mapper.boundaryFields, Prod.mk.injEq] at fields
  obtain ⟨records, pending, started, opened, completed, last, identity⟩ := fields
  have word : boundaries (assigned.appended stored size).records = boundaries before.records ++ [.refused request observedAtMs] := by
    simp only [Mapper.appended, records, boundaries_append, same, Normalized.boundary?]
    rfl
  have grammar := coupled.grammar
  have none : exchanges = [] := by simpa [unadmitted, Tail.responseId?] using coupled.admitted
  refine ⟨exchanges, .refused request startedAtMs observedAtMs, ?_⟩
  constructor
  · rw [word]
    constructor
    · simp [grammar.shape, Tail.boundaries]
    · exact fun _ _ _ _ => none
    · exact grammar.ordinals
    · exact grammar.occurrences
    · exact grammar.responses
    · apply times_append grammar.times rfl
      intro latest found
      have time := coupled.last.symm.trans found
      simp only [Tail.pending?, Option.map_some, Option.some_or, Option.some.injEq] at time
      omega
  · simp [Mapper.appended, completed, List.insert_of_not_mem unanswered, answered, Tail.answered?, Function.comp_def]
  · simp [Mapper.appended, pending, started, Tail.pending?]
  · simpa [Mapper.appended, opened, Tail.responseId?] using coupled.opened
  · rw [word]
    simp [Mapper.appended, last, Tail.pending?, Boundary.atMs?]
  · exact fun _ _ _ _ => .inl disposition
  · simpa [Mapper.appended, identity, Tail.responseId?] using coupled.admitted

theorem coupled_completed {responseId : Text} (coupled : Coupled before exchanges tail)
    (opened : before.openResponseId = some responseId) (admitted : before.providerExecutionIdentity.isSome)
    (same : stored.normalized = .responseCompleted (.str responseId))
    (fields : assigned.boundaryFields = (before.records, before.pending, before.pendingStartedAtMs, none,
      before.completedRequests, before.lastBoundaryMs, before.providerExecutionIdentity)) :
    ∃ exchanges tail, Coupled (assigned.appended stored size) exchanges tail := by
  simp only [Mapper.boundaryFields, Prod.mk.injEq] at fields
  obtain ⟨records, pending, started, closed, completed, last, identity⟩ := fields
  have open_ := opened.symm.trans coupled.opened
  cases tail with
  | stepped exchange =>
    simp only [Tail.responseId?, Option.some.injEq] at open_
    subst open_
    have word : boundaries (assigned.appended stored size).records =
        boundaries before.records ++ [.completed (.str exchange.responseId)] := by
      simp only [Mapper.appended, records, boundaries_append, same, Normalized.boundary?]
      rfl
    have grammar := coupled.grammar
    refine ⟨exchanges ++ [exchange], .nothing, ?_⟩
    constructor
    · rw [word]
      constructor
      · simp [grammar.shape, Tail.boundaries, Exchange.whole]
      · simp
      · simpa [requests, Tail.request?] using grammar.ordinals
      · simpa [requests, Tail.request?] using grammar.occurrences
      · simpa [Tail.responseId?] using grammar.responses
      · have untimed : [Boundary.completed (.str exchange.responseId)].filterMap Boundary.atMs? = [] := rfl
        rw [List.filterMap_append, untimed, List.append_nil]
        exact grammar.times
    · simpa [Mapper.appended, completed, Tail.answered?] using coupled.completed
    · simpa [Mapper.appended, pending, started, Tail.pending?] using coupled.pending
    · simp [Mapper.appended, closed, Tail.responseId?]
    · rw [word]
      simpa [Mapper.appended, last, Tail.pending?, Boundary.atMs?] using coupled.last
    · simp
    · simpa [Mapper.appended, identity] using admitted
  | _ => simp [Tail.responseId?] at open_

theorem coupled_change {label : Json} {raw : Option RawCustody} {normalized : Normalized} (held : Disposed before)
    (coupled : Coupled before exchanges tail) (change : Change settings before label raw normalized assigned)
    (recorded : Recorded assigned label raw normalized stored) :
    ∃ exchanges tail, Coupled (assigned.appended stored size) exchanges tail := by
  have same := recorded.normalized
  have advances := advances_change held change
  cases change with
  | discrepancy =>
    refine ⟨exchanges, tail, coupled.plain advances ?_ ?_⟩
    · exact interrupted_boundaryFields _
    · rw [same]
      rfl
  | requestStarted observed checked => exact coupled_started coupled (providerRequestChecks_ok checked) same
  | executionStep observed checked identity shape =>
    obtain ⟨answerable, fresh⟩ := responseStartedChecks_ok checked
    apply coupled_stepped coupled answerable fresh _ same rfl
    rw [shape]
    exact ⟨rfl, rfl⟩
  | admissionRefused observed checked =>
    obtain ⟨answerable, unadmitted⟩ := providerRefusedChecks_ok checked
    exact coupled_refused coupled answerable unadmitted same rfl rfl
  | responseCompleted observed checked =>
    obtain ⟨admitted, responseId, opened, named⟩ := responseCompleted_ok checked
    rw [named] at same
    exact coupled_completed coupled opened admitted same rfl
  | cut =>
    refine ⟨exchanges, tail, coupled.plain advances ?_ ?_⟩
    · split
      · rfl
      · exact interrupted_boundaryFields _
    · rw [same]
      rfl
  | _ =>
    refine ⟨exchanges, tail, coupled.plain advances rfl ?_⟩
    rw [same]
    rfl

/-- What the grammar says of a mapper. -/
structure Worded (mapper : Mapper) : Prop where
  disposed : Disposed mapper
  quiet : Quiet mapper
  coupled : ∃ exchanges tail, Coupled mapper exchanges tail

theorem worded_indifferent : Indifferent Worded where
  entered _ _ _ held := ⟨disposed_indifferent.entered _ _ _ held.disposed, ⟨held.quiet.halted, held.quiet.ordered⟩,
    held.coupled.imp fun _ => Exists.imp fun _ coupled => ⟨coupled.grammar, coupled.completed, coupled.pending, coupled.opened,
      coupled.last, coupled.refusal, coupled.admitted⟩⟩
  cleared _ held := ⟨disposed_indifferent.cleared _ held.disposed, ⟨held.quiet.halted, held.quiet.ordered⟩,
    held.coupled.imp fun _ => Exists.imp fun _ coupled => ⟨coupled.grammar, coupled.completed, coupled.pending, coupled.opened,
      coupled.last, coupled.refusal, coupled.admitted⟩⟩
  bounded _ _ held := ⟨disposed_indifferent.bounded _ _ held.disposed, ⟨held.quiet.halted, held.quiet.ordered⟩,
    held.coupled.imp fun _ => Exists.imp fun _ coupled => ⟨coupled.grammar, coupled.completed, coupled.pending, coupled.opened,
      coupled.last, coupled.refusal, coupled.admitted⟩⟩

theorem worded_run {calls : List Call} {mapper : Mapper} (run : Run (Performs settings) Mapper.initial calls mapper) :
    Worded mapper := by
  apply mapper_invariant run worded_indifferent
  · have disposed : Disposed Mapper.initial := by constructor <;> simp [Mapper.initial]
    refine ⟨disposed, ⟨by simp [Mapper.initial], by simp [Mapper.initial]⟩, [], .nothing, ?_⟩
    constructor <;> simp [Mapper.initial, boundaries, Tail.answered?, Tail.pending?, Tail.responseId?]
    constructor <;> simp [Tail.boundaries, requests, Tail.request?, Tail.responseId?]
  · intro before label raw normalized assigned stored size held _ change recorded
    obtain ⟨exchanges, tail, coupled⟩ := held.coupled
    exact ⟨disposed_change held.disposed change recorded, quiet_change held.disposed held.quiet change recorded,
      coupled_change held.disposed coupled change recorded⟩

/-- After any calls the provider boundaries of the log are a prefix of exchanges one after another,
or a single request that was refused, and none of them follows a discrepancy or an approval wait. -/
theorem boundary_grammar {calls : List Call} {mapper : Mapper} (run : Run (Performs settings) Mapper.initial calls mapper) :
    (∃ exchanges tail, Grammatical (boundaries mapper.records) exchanges tail) ∧
      mapper.records.Pairwise fun earlier later => earlier.normalized.halts = true → later.normalized.boundary? = none := by
  have held := worded_run run
  obtain ⟨exchanges, tail, coupled⟩ := held.coupled
  exact ⟨⟨exchanges, tail, coupled.grammar⟩, held.quiet.ordered⟩

theorem boundary_grammar_sample :
    (∃ exchanges tail,
      Grammatical (boundaries (performAll sampleSettings Mapper.initial sampleAnswered).records) exchanges tail) ∧
    (performAll sampleSettings Mapper.initial sampleAnswered).records.Pairwise fun earlier later =>
      earlier.normalized.halts = true → later.normalized.boundary? = none :=
  boundary_grammar (performAll_run sampleSettings Mapper.initial sampleAnswered)

end Switchyard.Admission
