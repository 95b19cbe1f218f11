import Switchyard.Admission.Grammar

/-! What a clean cut certifies about the whole log: its ordinals, its client
requests and the boundaries of its one turn. -/

namespace Switchyard.Admission
open Library Json AppServer

variable {host : Host} {settings : Settings host}

/-! The ordinals of a log without discrepancies. -/

def Normalized.discrepant : Normalized → Bool
  | .discrepancy _ _ => true
  | _ => false

def ordinals (records : List Record) : List Nat := records.filterMap (·.acquisitionOrdinal)

/-- A log without discrepancies carries every ordinal up to the expected one, in order. -/
def Sequenced (mapper : Mapper) : Prop :=
  (∀ record ∈ mapper.records, record.normalized.discrepant = false) →
    ordinals mapper.records = List.range mapper.expectedAcquisitionOrdinal

theorem interrupted_expected (mapper : Mapper) :
    mapper.interrupted.expectedAcquisitionOrdinal = mapper.expectedAcquisitionOrdinal := by
  unfold Mapper.interrupted
  split <;> rfl

theorem Change.expected {before assigned : Mapper} {label : Json} {raw : Option RawCustody} {normalized : Normalized}
    (change : Change settings before label raw normalized assigned) :
    assigned.expectedAcquisitionOrdinal = before.expectedAcquisitionOrdinal := by
  cases change with
  | discrepancy => exact interrupted_expected _
  | cut =>
    split
    · rfl
    · exact interrupted_expected _
  | _ => rfl

theorem Change.records {before assigned : Mapper} {label : Json} {raw : Option RawCustody} {normalized : Normalized}
    (change : Change settings before label raw normalized assigned) : assigned.records = before.records := by
  cases change with
  | discrepancy => exact interrupted_records _
  | cut =>
    split
    · rfl
    · exact interrupted_records _
  | _ => rfl

theorem sequenced_run {calls : List Call} {mapper : Mapper} (ordered : settings.allowUnorderedFixture = false)
    (run : Run (Performs settings) Mapper.initial calls mapper) : Sequenced mapper := by
  apply ordered_invariant ordered run
  · intro _
    rfl
  · intro mapper bounded held
    exact held
  · intro before envelope ordinal label raw normalized assigned stored size _ held _ acquired recorded undisputed
    have records : assigned.records = before.records := acquired.change.records
    have expected := acquired.change.expected
    have current : stored.acquisitionOrdinal = some ordinal := by rw [recorded.ordinal, acquired.change.current.1]; rfl
    simp only [Mapper.cleared, Mapper.appended, records, List.mem_append, List.mem_singleton] at undisputed ⊢
    have settled := undisputed stored (.inr rfl)
    rw [recorded.normalized] at settled
    have place : ordinal = before.expectedAcquisitionOrdinal := by
      rcases acquired.sequenced with place | ⟨detail, execution, rfl⟩
      · exact place
      · cases settled
    have next : assigned.expectedAcquisitionOrdinal = before.expectedAcquisitionOrdinal + 1 := by
      rw [expected, Mapper.entered, if_pos place]
    have earlier := held fun record listed => undisputed record (.inl listed)
    simp only [ordinals, List.filterMap_append, List.filterMap_cons, current, List.filterMap_nil] at earlier ⊢
    rw [earlier, next, place, List.range_succ]
  · intro before label normalized assigned stored size idle held _ change recorded undisputed
    have current : stored.acquisitionOrdinal = none := by rw [recorded.ordinal, change.current.1, idle.ordinal]
    simp only [Mapper.appended, change.records, List.mem_append, List.mem_singleton] at undisputed ⊢
    have earlier := held fun record listed => undisputed record (.inl listed)
    simp only [ordinals, List.filterMap_append, List.filterMap_cons, current, List.filterMap_nil, List.append_nil] at earlier ⊢
    rw [earlier, change.expected]

/-! Client requests and the responses that answer them. -/

def Normalized.issued? : Normalized → Option ClientRequest
  | .clientRequestIssued requestId method paramsDigest => some ⟨requestId, method, paramsDigest⟩
  | _ => none

def Normalized.retained? : Normalized → Option ClientRequest
  | .clientResponseRetained requestId method paramsDigest _ => some ⟨requestId, method, paramsDigest⟩
  | _ => none

def issuedAt (records : List Record) (position : Nat) : Option ClientRequest :=
  records[position]?.bind (·.normalized.issued?)

/-- The request that the response at a position names. -/
def retainedAt (records : List Record) (position : Nat) : Option ClientRequest :=
  records[position]?.bind (·.normalized.retained?)

/-- Where each issued request is answered so far; the others are outstanding. -/
structure Matching (records : List Record) (outstanding : List (Int × ClientRequest)) (answer : Nat → Option Nat) : Prop where
  waiting : ∀ position request, issuedAt records position = some request → answer position = none →
    outstanding.lookup request.requestId = some request
  answered : ∀ position later request, issuedAt records position = some request → answer position = some later →
    position < later ∧ retainedAt records later = some request
  distinct : ∀ first last later, (issuedAt records first).isSome → (issuedAt records last).isSome →
    answer first = some later → answer last = some later → first = last
  onto : ∀ later, (retainedAt records later).isSome → ∃ position, (issuedAt records position).isSome ∧ answer position = some later
  sole : ∀ first last left right, issuedAt records first = some left → issuedAt records last = some right →
    answer first = none → answer last = none → left.requestId = right.requestId → first = last
  held : ∀ requestId request, outstanding.lookup requestId = some request →
    ∃ position, issuedAt records position = some request ∧ answer position = none ∧ request.requestId = requestId

section Matching
variable {records : List Record} {outstanding : List (Int × ClientRequest)} {answer : Nat → Option Nat} {stored : Record}

private theorem at_append {α : Type} (view : Record → Option α) (position : Nat) :
    (records ++ [stored])[position]?.bind view =
      if position = records.length then view stored else records[position]?.bind view := by
  rw [List.getElem?_append]
  split
  next inside =>
    rw [if_neg (by omega)]
  next outside =>
    by_cases last : position = records.length
    · simp [last]
    · rw [if_neg last, List.getElem?_eq_none (by simp; omega), List.getElem?_eq_none (by omega)]

theorem issuedAt_append (position : Nat) : issuedAt (records ++ [stored]) position =
    if position = records.length then stored.normalized.issued? else issuedAt records position :=
  at_append (fun record => record.normalized.issued?) position

theorem retainedAt_append (position : Nat) : retainedAt (records ++ [stored]) position =
    if position = records.length then stored.normalized.retained? else retainedAt records position :=
  at_append (fun record => record.normalized.retained?) position

theorem issuedAt_inside {position : Nat} (found : (issuedAt records position).isSome) : position < records.length := by
  by_contra outside
  simp [issuedAt, List.getElem?_eq_none (Nat.le_of_not_lt outside)] at found

theorem retainedAt_inside {position : Nat} (found : (retainedAt records position).isSome) : position < records.length := by
  by_contra outside
  simp [retainedAt, List.getElem?_eq_none (Nat.le_of_not_lt outside)] at found

theorem Matching.plain (matching : Matching records outstanding answer) (unissued : stored.normalized.issued? = none)
    (unretained : stored.normalized.retained? = none) : Matching (records ++ [stored]) outstanding answer := by
  have issued (position : Nat) : issuedAt (records ++ [stored]) position = issuedAt records position := by
    rw [issuedAt_append]
    split
    next last => simp [last, issuedAt, unissued]
    next => rfl
  have retained (position : Nat) : retainedAt (records ++ [stored]) position = retainedAt records position := by
    rw [retainedAt_append]
    split
    next last => simp [last, retainedAt, unretained]
    next => rfl
  constructor
  · simpa only [issued] using matching.waiting
  · simpa only [issued, retained] using matching.answered
  · simpa only [issued] using matching.distinct
  · simpa only [issued, retained] using matching.onto
  · simpa only [issued] using matching.sole
  · simpa only [issued] using matching.held

/-- A fresh request is outstanding. -/
theorem Matching.issue {request : ClientRequest} (matching : Matching records outstanding answer)
    (fresh : outstanding.lookup request.requestId = none) (same : stored.normalized.issued? = some request)
    (unretained : stored.normalized.retained? = none) :
    Matching (records ++ [stored]) (outstanding ++ [(request.requestId, request)])
      (Function.update answer records.length none) := by
  have here : issuedAt (records ++ [stored]) records.length = some request := by rw [issuedAt_append, if_pos rfl, same]
  have issued {position : Nat} (other : position ≠ records.length) :
      issuedAt (records ++ [stored]) position = issuedAt records position := by rw [issuedAt_append, if_neg other]
  have older {position : Nat} {found : ClientRequest} (listed : issuedAt records position = some found) :
      position ≠ records.length := Nat.ne_of_lt (issuedAt_inside (by simp [listed]))
  have retained (position : Nat) : retainedAt (records ++ [stored]) position = retainedAt records position := by
    rw [retainedAt_append]
    split
    next last => simp [last, retainedAt, unretained]
    next => rfl
  have fewer (requestId : Int) (other : requestId ≠ request.requestId) :
      (outstanding ++ [(request.requestId, request)]).lookup requestId = outstanding.lookup requestId := by
    have differs : (requestId == request.requestId) = false := by simpa using other
    rw [List.lookup_append, List.lookup_cons, differs]
    simp
  have newest : (outstanding ++ [(request.requestId, request)]).lookup request.requestId = some request := by
    rw [List.lookup_append, fresh]
    simp
  have unanswered {position : Nat} (other : position ≠ records.length) :
      Function.update answer records.length none position = answer position := Function.update_of_ne other _ _
  constructor
  · intro position found listed open_
    by_cases last : position = records.length
    · subst last
      cases here.symm.trans listed
      exact newest
    · rw [issued last] at listed
      rw [unanswered last] at open_
      have waits := matching.waiting position found listed open_
      rw [fewer]
      · exact waits
      · intro clash
        rw [clash, fresh] at waits
        cases waits
  · intro position later found listed closed
    by_cases last : position = records.length
    · simp [last] at closed
    · rw [issued last] at listed
      rw [unanswered last] at closed
      rw [retained]
      exact matching.answered position later found listed closed
  · intro first last later left right one two
    by_cases newer : first = records.length
    · simp [newer] at one
    · by_cases other : last = records.length
      · simp [other] at two
      · rw [issued newer] at left
        rw [issued other] at right
        rw [unanswered newer] at one
        rw [unanswered other] at two
        exact matching.distinct first last later left right one two
  · intro later listed
    rw [retained] at listed
    obtain ⟨position, present, closed⟩ := matching.onto later listed
    have other := Nat.ne_of_lt (issuedAt_inside present)
    exact ⟨position, by rwa [issued other], by rwa [unanswered other]⟩
  · intro first last left right one two open_ waits same
    by_cases newer : first = records.length
    · by_cases other : last = records.length
      · rw [newer, other]
      · subst newer
        cases here.symm.trans one
        rw [issued other] at two
        rw [unanswered other] at waits
        have clash := matching.waiting last right two waits
        rw [← same, fresh] at clash
        cases clash
    · rw [issued newer] at one
      rw [unanswered newer] at open_
      by_cases other : last = records.length
      · subst other
        cases here.symm.trans two
        have clash := matching.waiting first left one open_
        rw [same, fresh] at clash
        cases clash
      · rw [issued other] at two
        rw [unanswered other] at waits
        exact matching.sole first last left right one two open_ waits same
  · intro requestId found listed
    by_cases same : requestId = request.requestId
    · subst same
      cases newest.symm.trans listed
      exact ⟨records.length, here, by simp, rfl⟩
    · rw [fewer requestId same] at listed
      obtain ⟨position, present, open_, named⟩ := matching.held requestId found listed
      have other := older present
      exact ⟨position, by rwa [issued other], by rwa [unanswered other], named⟩

private theorem lookup_filter (entries : List (Int × ClientRequest)) (removed other : Int) :
    (entries.filter fun entry => entry.1 != removed).lookup other = if other = removed then none else entries.lookup other := by
  induction entries with
  | nil => simp
  | cons entry rest ih =>
    by_cases drops : entry.1 = removed
    · rw [List.filter_cons_of_neg (by simpa using drops), ih, List.lookup_cons]
      split
      next => rfl
      next differs =>
        have apart : (other == entry.1) = false := by simpa [drops] using differs
        rw [apart]
    · rw [List.filter_cons_of_pos (by simpa using drops), List.lookup_cons, List.lookup_cons, ih]
      split
      next same =>
        rw [beq_iff_eq] at same
        rw [if_neg (same ▸ drops)]
      next => rfl

/-- A response answers the outstanding request of its identity. -/
theorem Matching.retain {request : ClientRequest} {requestId : Int} (matching : Matching records outstanding answer)
    (found : outstanding.lookup requestId = some request) (same : stored.normalized.retained? = some request)
    (unissued : stored.normalized.issued? = none) :
    ∃ answer, Matching (records ++ [stored]) (outstanding.filter fun entry => entry.1 != requestId) answer := by
  obtain ⟨place, present, open_, named⟩ := matching.held requestId request found
  have here : retainedAt (records ++ [stored]) records.length = some request := by rw [retainedAt_append, if_pos rfl, same]
  have issued (position : Nat) : issuedAt (records ++ [stored]) position = issuedAt records position := by
    rw [issuedAt_append]
    split
    next last => simp [last, issuedAt, unissued]
    next => rfl
  have retained {position : Nat} (listed : (retainedAt records position).isSome) :
      retainedAt (records ++ [stored]) position = retainedAt records position := by
    rw [retainedAt_append, if_neg (Nat.ne_of_lt (retainedAt_inside listed))]
  have older {position later : Nat} (listed : (issuedAt records position).isSome) (closed : answer position = some later) :
      later < records.length := by
    obtain ⟨other, known⟩ := Option.isSome_iff_exists.mp listed
    exact retainedAt_inside (by simp [(matching.answered position later other known closed).2])
  have elsewhere {position : Nat} (other : position ≠ place) :
      Function.update answer place (some records.length) position = answer position := Function.update_of_ne other _ _
  refine ⟨Function.update answer place (some records.length), ?_⟩
  constructor
  · intro position other listed waits
    rw [issued] at listed
    by_cases mine : position = place
    · simp [mine] at waits
    · rw [elsewhere mine] at waits
      have differs : other.requestId ≠ requestId := by
        intro clash
        exact mine (matching.sole position place other request listed present waits open_ (clash.trans named.symm))
      rw [lookup_filter, if_neg differs]
      exact matching.waiting position other listed waits
  · intro position later other listed closed
    rw [issued] at listed
    by_cases mine : position = place
    · subst mine
      cases present.symm.trans listed
      rw [Function.update_self] at closed
      cases closed
      exact ⟨issuedAt_inside (by simp [present]), here⟩
    · rw [elsewhere mine] at closed
      obtain ⟨before, known⟩ := matching.answered position later other listed closed
      exact ⟨before, by rw [retained (by simp [known]), known]⟩
  · intro first last later left right one two
    rw [issued] at left right
    by_cases mine : first = place
    · by_cases other : last = place
      · rw [mine, other]
      · rw [mine, Function.update_self] at one
        rw [elsewhere other] at two
        cases one
        exact absurd (older right two) (Nat.lt_irrefl _)
    · rw [elsewhere mine] at one
      by_cases other : last = place
      · rw [other, Function.update_self] at two
        cases two
        exact absurd (older left one) (Nat.lt_irrefl _)
      · rw [elsewhere other] at two
        exact matching.distinct first last later left right one two
  · intro later listed
    by_cases newest : later = records.length
    · exact ⟨place, by simp [issued, present], by rw [Function.update_self, newest]⟩
    · rw [retainedAt_append, if_neg newest] at listed
      obtain ⟨position, known, closed⟩ := matching.onto later listed
      have other : position ≠ place := by
        rintro rfl
        cases open_.symm.trans closed
      exact ⟨position, by rwa [issued], by rwa [elsewhere other]⟩
  · intro first last left right one two unanswered waits equal
    rw [issued] at one two
    by_cases mine : first = place
    · simp [mine] at unanswered
    · by_cases other : last = place
      · simp [other] at waits
      · rw [elsewhere mine] at unanswered
        rw [elsewhere other] at waits
        exact matching.sole first last left right one two unanswered waits equal
  · intro other entry listed
    rw [lookup_filter] at listed
    split at listed
    next => cases listed
    next differs =>
      obtain ⟨position, known, waits, equal⟩ := matching.held other entry listed
      have apart : position ≠ place := by
        rintro rfl
        cases present.symm.trans known
        exact differs (equal.symm.trans named)
      exact ⟨position, by rwa [issued], by rwa [elsewhere apart], equal⟩

end Matching

theorem matching_change {before assigned : Mapper} {label : Json} {raw : Option RawCustody} {normalized : Normalized}
    {stored : Record} {size : Nat} {answer : Nat → Option Nat} (matching : Matching before.records before.clientRequests answer)
    (change : Change settings before label raw normalized assigned) (recorded : Recorded assigned label raw normalized stored) :
    ∃ answer, Matching (assigned.appended stored size).records (assigned.appended stored size).clientRequests answer := by
  have same := recorded.normalized
  have outstanding (mapper : Mapper) : mapper.interrupted.clientRequests = mapper.clientRequests := by
    unfold Mapper.interrupted
    split <;> rfl
  have plain (unmoved : assigned.clientRequests = before.clientRequests) (unissued : normalized.issued? = none)
      (unretained : normalized.retained? = none) :
      ∃ answer, Matching (assigned.appended stored size).records (assigned.appended stored size).clientRequests answer := by
    refine ⟨answer, ?_⟩
    simp only [Mapper.appended, change.records, unmoved]
    exact matching.plain (by rw [same, unissued]) (by rw [same, unretained])
  cases change with
  | @clientRequestIssued _ requestId requestMethod paramsDigest _ _ _ fresh =>
    have issues : stored.normalized.issued? = some ⟨requestId, requestMethod, paramsDigest⟩ := by rw [same]; rfl
    exact ⟨_, matching.issue fresh issues (by rw [same]; rfl)⟩
  | clientResponseRetained _ found =>
    obtain ⟨_, _, _, named⟩ := matching.held _ _ found
    apply matching.retain found
    · rw [same, Normalized.retained?, ← named]
    · rw [same]
      rfl
  | discrepancy => exact plain (outstanding _) rfl rfl
  | cut =>
    apply plain _ rfl rfl
    split
    · rfl
    · exact outstanding _
  | _ => exact plain rfl rfl rfl

theorem matching_run {calls : List Call} {mapper : Mapper} (run : Run (Performs settings) Mapper.initial calls mapper) :
    ∃ answer, Matching mapper.records mapper.clientRequests answer := by
  apply @mapper_invariant _ _ _ _ (fun mapper => ∃ answer, Matching mapper.records mapper.clientRequests answer) run
  · exact ⟨fun _ _ _ held => held, fun _ held => held, fun _ _ held => held⟩
  · refine ⟨fun _ => none, ?_⟩
    constructor <;> simp [Mapper.initial, issuedAt, retainedAt]
  · rintro before label raw normalized assigned stored size ⟨answer, matching⟩ _ change recorded
    exact matching_change matching change recorded

/-! The end of the turn. -/

/-- The last notification a log records. -/
def lastNotification (records : List Record) : Option Record :=
  (records.filter fun record => record.acquisitionKind == some .notification).getLast?

/-- The record holds the bytes of a `turn/completed` for the bound thread and turn. -/
structure CompletesTurn (settings : Settings host) (record : Record) : Prop where
  method : record.method = literal "turn/completed"
  frame : ∃ raw members, record.raw = some raw ∧ host.loadsUnique raw.bytes = .ok (.obj members) ∧
    get members "method" = literal "turn/completed" ∧
    get ((get members "params").members?.getD []) "threadId" = .str (settings.binding.text "thread_id") ∧
    inner ((get members "params").members?.getD []) "turn" "id" = .str (settings.binding.text "turn_id")

/-- The fields of a completed turn, and its last notification. -/
structure TurnEnded (settings : Settings host) (mapper : Mapper) : Prop where
  pending : mapper.pending = none
  opened : mapper.openResponseId = none
  admitted : mapper.providerExecutionIdentity.isSome
  last : ∃ record, lastNotification mapper.records = some record ∧ CompletesTurn settings record

/-- Only a dict equals a dict. -/
theorem equal_dict {value : Json} {members : Members} (same : equal value (.obj members) = true) : ∃ found, value = .obj found := by
  cases value with
  | obj found => exact ⟨found, rfl⟩
  | _ => simp [equal, number?] at same

/-- Text that a dict holds is in every dict that equals it. -/
theorem equal_text_get {first last : Members} (same : equal (.obj first) (.obj last) = true) {key : String} {value : Text}
    (found : get last key = .str value) : get first key = .str value := by
  have equal := equal_get same key
  rw [found] at equal
  exact equal_text.mp equal

/-- So is text in a dict that it holds. -/
theorem equal_text_inner {first last : Members} (same : equal (.obj first) (.obj last) = true) {outer key : String} {value : Text}
    (found : get ((get last outer).members?.getD []) key = .str value) :
    get ((get first outer).members?.getD []) key = .str value := by
  have equal := equal_get same outer
  cases held : get last outer with
  | obj last =>
    rw [held] at equal found
    obtain ⟨first, other⟩ := equal_dict equal
    rw [other] at equal ⊢
    exact equal_text_get equal found
  | _ =>
    rw [held] at found
    cases found

theorem rawCustody_ok {message : ServerMessage} {maximum : Nat} {raw : RawCustody}
    (kept : rawCustody host message maximum = .ok raw) :
    message.rawBytes = some raw.bytes ∧ raw.bytes.length ≤ maximum ∧
      ∃ members, host.loadsUnique raw.bytes = .ok (.obj members) ∧ equal (.obj members) (.obj message.raw) = true := by
  unfold rawCustody at kept
  cases held : message.rawBytes with
  | none => simp [held] at kept
  | some bytes =>
    simp only [held] at kept
    split at kept
    next within =>
      split at kept
      next ends =>
        cases parsed : host.loadsUnique bytes with
        | error failure => cases failure <;> simp [parsed] at kept
        | ok value =>
          simp only [parsed] at kept
          split at kept
          next same =>
            obtain ⟨members, rfl⟩ := equal_dict same
            unfold rawBytesCustody at kept
            rw [if_pos within, dif_pos ends] at kept
            cases kept
            exact ⟨rfl, within.2, members, parsed, same⟩
          next => cases kept
      next => cases kept
    next => cases kept

theorem lastNotification_append (records : List Record) (stored : Record) : lastNotification (records ++ [stored]) =
    if stored.acquisitionKind = some .notification then some stored else lastNotification records := by
  unfold lastNotification
  rw [List.filter_append, List.filter_cons]
  split
  next same => simp [beq_iff_eq.mp same]
  next differs =>
    rw [if_neg (by simpa using differs)]
    simp

theorem interrupted_uncompleted (mapper : Mapper) : mapper.interrupted.mechanismState ≠ .providerCompleted := by
  unfold Mapper.interrupted
  split <;> simp

/-- The record of an accepted `turn/completed`. -/
theorem completes_turn {before assigned : Mapper} {message : ServerMessage} {raw : RawCustody} {stored : Record}
    (observed : Observed settings before message (text "turn/completed") false raw)
    (accepted : localFactRefusal settings before (text "turn/completed") message.params = none)
    (recorded : Recorded assigned (.str (text "turn/completed")) (some raw) .localTurnFact stored) : CompletesTurn settings stored := by
  obtain ⟨selected, custody⟩ := observed.custody
  have kept : ∃ maximum, rawCustody host message maximum = .ok raw := by
    obtain ⟨_, _, custody⟩ := bind_ok.mp custody
    obtain ⟨_, kept, same⟩ := bind_ok.mp custody
    cases same
    exact ⟨_, kept⟩
  obtain ⟨maximum, kept⟩ := kept
  obtain ⟨_, _, members, parsed, same⟩ := rawCustody_ok kept
  have named : get message.raw "method" = .str (text "turn/completed") := by
    have method := observed.named
    unfold ServerMessage.method at method
    cases shape : get message.raw "method" with
    | str value =>
      rw [shape] at method
      cases method
      rfl
    | _ => simp [shape, text?] at method
  obtain ⟨_, _, _, bound⟩ := turnCompleted_ok accepted
  refine ⟨recorded.method, raw, members, recorded.raw, parsed, equal_text_get same named, ?_, ?_⟩
  · exact equal_text_inner same (names_iff.mp bound.1)
  · have params := equal_get same "params"
    have turn := names_iff.mp bound.2
    unfold ServerMessage.params at turn
    cases held : get message.raw "params" with
    | obj last =>
      rw [held] at params turn
      obtain ⟨first, other⟩ := equal_dict params
      rw [other] at params ⊢
      exact equal_text_inner params turn
    | _ =>
      rw [held] at turn
      cases turn

theorem ended_acquires {before assigned : Mapper} {envelope : AcquisitionEnvelope} {ordinal : Nat} {label : Json}
    {raw : Option RawCustody} {normalized : Normalized} {stored : Record} {size : Nat}
    (held : before.mechanismState = .providerCompleted → TurnEnded settings before)
    (acquired : Acquired settings before envelope ordinal label raw normalized assigned)
    (recorded : Recorded assigned label raw normalized stored)
    (completed : assigned.mechanismState = .providerCompleted) : TurnEnded settings (assigned.appended stored size).cleared := by
  have kind : stored.acquisitionKind = some (.of envelope.kind) := by
    rw [recorded.kind, acquired.change.current.2]
    rfl
  have passed {method : Text} {serverRequest : Bool} (opened : gate (before.entered (.of envelope.kind) ordinal) method serverRequest = none)
      (same : before.mechanismState = .providerCompleted) : False := (gate_none opened).2.1 same
  have kept (ended : TurnEnded settings before) (fields : assigned.pending = before.pending ∧
      assigned.openResponseId = before.openResponseId ∧ assigned.providerExecutionIdentity = before.providerExecutionIdentity)
      (records : assigned.records = before.records) (other : AcquisitionKind.of envelope.kind ≠ .notification) :
      TurnEnded settings (assigned.appended stored size).cleared := by
    obtain ⟨record, last, completes⟩ := ended.last
    refine ⟨fields.1.trans ended.pending, fields.2.1.trans ended.opened, ?_, record, ?_, completes⟩
    · simpa [Mapper.cleared, Mapper.appended, fields.2.2] using ended.admitted
    · simp only [Mapper.cleared, Mapper.appended, records, lastNotification_append, kind, Option.some.injEq, other, if_false]
      exact last
  have bare := acquired.bare
  cases acquired.change with
  | discrepancy => exact absurd completed (interrupted_uncompleted _)
  | clientRequestIssued current =>
    have other : AcquisitionKind.of envelope.kind ≠ .notification := by
      intro same
      simp [Mapper.entered, same] at current
    exact kept (held completed) ⟨rfl, rfl, rfl⟩ rfl other
  | clientResponseRetained current =>
    have other : AcquisitionKind.of envelope.kind ≠ .notification := by
      intro same
      simp [Mapper.entered, same] at current
    exact kept (held completed) ⟨rfl, rfl, rfl⟩ rfl other
  | requestStarted observed => exact absurd completed fun same => passed observed.opened same
  | executionStep => simp only at completed; split at completed <;> cases completed
  | admissionRefused => cases completed
  | responseCompleted => cases completed
  | @localFact message method raw bounded observed listed accepted tracked =>
    simp only at completed
    split at completed
    next ends =>
      obtain ⟨rfl, admitted⟩ := ends
      obtain ⟨pending, opened, _⟩ := turnCompleted_ok accepted
      refine ⟨pending, opened, admitted, stored, ?_, completes_turn observed accepted recorded⟩
      have notified : AcquisitionKind.of envelope.kind = .notification := observed.kind _ rfl
      simp [Mapper.cleared, Mapper.appended, lastNotification_append, kind, notified]
    next => exact absurd completed fun same => passed observed.opened same
  | watermark observed => exact absurd completed fun same => passed observed.opened same
  | waitingApproval => cases completed
  | legacyFact | cut =>
    obtain ⟨detail, execution, same⟩ := bare rfl
    cases same

theorem ended_owns {before assigned : Mapper} {label : Json} {normalized : Normalized} {stored : Record} {size : Nat}
    (idle : Idle before) (held : before.mechanismState = .providerCompleted → TurnEnded settings before)
    (change : Change settings before label none normalized assigned) (recorded : Recorded assigned label none normalized stored)
    (completed : assigned.mechanismState = .providerCompleted) : TurnEnded settings (assigned.appended stored size) := by
  have kind : stored.acquisitionKind = none := by rw [recorded.kind, change.current.2, idle.kind]
  have kept (ended : TurnEnded settings before) (fields : assigned.pending = before.pending ∧
      assigned.openResponseId = before.openResponseId ∧ assigned.providerExecutionIdentity = before.providerExecutionIdentity) :
      TurnEnded settings (assigned.appended stored size) := by
    obtain ⟨record, last, completes⟩ := ended.last
    refine ⟨fields.1.trans ended.pending, fields.2.1.trans ended.opened, ?_, record, ?_, completes⟩
    · simpa [Mapper.appended, fields.2.2] using ended.admitted
    · simp only [Mapper.appended, change.records, lastNotification_append, kind, reduceCtorEq, if_false]
      exact last
  cases change with
  | discrepancy => exact absurd completed (interrupted_uncompleted _)
  | legacyFact => exact kept (held completed) ⟨rfl, rfl, rfl⟩
  | @cut cut normalized checked =>
    cases clean : normalized.clean with
    | true =>
      rw [clean] at kept completed
      exact kept (held completed) ⟨rfl, rfl, rfl⟩
    | false =>
      rw [clean] at completed
      exact absurd completed (interrupted_uncompleted _)

theorem ended_run {calls : List Call} {mapper : Mapper} (ordered : settings.allowUnorderedFixture = false)
    (run : Run (Performs settings) Mapper.initial calls mapper) :
    mapper.mechanismState = .providerCompleted → TurnEnded settings mapper := by
  apply ordered_invariant ordered run
  · intro completed
    cases completed
  · intro mapper bounded held completed
    obtain ⟨pending, opened, admitted, last⟩ := held completed
    exact ⟨pending, opened, admitted, last⟩
  · intro before envelope ordinal label raw normalized assigned stored size _ held _ acquired recorded completed
    exact ended_acquires held acquired recorded completed
  · intro before label normalized assigned stored size idle held _ change recorded completed
    exact ended_owns idle held change recorded completed

/-! What a clean cut has checked. -/

/-- The fields that make a cut clean. -/
structure CutClean (mapper : Mapper) (cut : Cut) : Prop where
  highWater : cut.orderedHighWater = mapper.expectedAcquisitionOrdinal
  outstanding : mapper.clientRequests = []
  closed : mapper.mechanismState = .providerCompleted ∨ mapper.mechanismState = .parkedNotAdmitted

theorem normalizedCut_clean {mapper : Mapper} {cut : AcquisitionCut} {normalized : Cut}
    (checked : normalizedCut settings mapper cut = .ok normalized) (clean : normalized.clean = true) : CutClean mapper normalized := by
  unfold normalizedCut at checked
  obtain ⟨_, _, checked⟩ := bind_ok.mp checked
  cases shape : cut.streamQuiesced with
  | bool quiesced =>
    rw [shape] at checked
    obtain ⟨_, _, checked⟩ := bind_ok.mp checked
    obtain ⟨_, _, checked⟩ := bind_ok.mp checked
    obtain ⟨_, _, checked⟩ := bind_ok.mp checked
    obtain ⟨_, _, checked⟩ := bind_ok.mp checked
    obtain ⟨_, _, checked⟩ := bind_ok.mp checked
    cases checked
    simp only [Bool.and_eq_true, Bool.or_eq_true, beq_iff_eq, List.isEmpty_iff] at clean
    exact ⟨clean.1.1.2, clean.1.2, clean.2⟩
  | _ =>
    rw [shape] at checked
    cases checked

theorem cut_run {calls : List Call} {mapper : Mapper} (ordered : settings.allowUnorderedFixture = false)
    (run : Run (Performs settings) Mapper.initial calls mapper) :
    ∀ cut, mapper.acquisitionCut = some cut → cut.clean = true → CutClean mapper cut := by
  have uncut {before assigned : Mapper} {label : Json} {raw : Option RawCustody} {normalized : Normalized}
      (open_ : before.acquisitionCut = none) (change : Change settings before label raw normalized assigned)
      (other : ∀ cut, normalized ≠ .acquisitionCut cut) : assigned.acquisitionCut = none := by
    cases change with
    | discrepancy =>
      unfold Mapper.interrupted
      split <;> exact open_
    | cut => exact absurd rfl (other _)
    | _ => exact open_
  apply ordered_invariant ordered run
  · intro cut taken
    cases taken
  · intro mapper bounded held cut taken clean
    obtain ⟨highWater, outstanding, closed⟩ := held cut taken clean
    exact ⟨highWater, outstanding, closed⟩
  · intro before envelope ordinal label raw normalized assigned stored size _ _ open_ acquired _ cut taken
    have open_ : assigned.acquisitionCut = none := by
      apply uncut (show (before.entered (.of envelope.kind) ordinal).acquisitionCut = none from open_) acquired.change
      rintro other rfl
      have bare := acquired.bare
      cases acquired.change with
      | cut =>
        obtain ⟨detail, execution, same⟩ := bare rfl
        cases same
    cases open_.symm.trans taken
  · intro before label normalized assigned stored size _ _ open_ change _ cut taken clean
    cases change with
    | @cut raw normalized checked =>
      cases settled : normalized.clean with
      | true =>
        rw [settled] at taken
        cases taken
        obtain ⟨highWater, outstanding, closed⟩ := normalizedCut_clean checked clean
        simp only [if_true]
        exact ⟨highWater, outstanding, closed⟩
      | false =>
        have same : normalized = cut := by
          rw [settled] at taken
          simp only [Mapper.appended, Mapper.interrupted, Bool.false_eq_true, if_false] at taken
          split at taken <;> exact Option.some.inj taken
        rw [same, clean] at settled
        cases settled
    | discrepancy =>
      unfold Mapper.interrupted at taken
      split at taken <;> cases open_.symm.trans taken
    | legacyFact => cases open_.symm.trans taken

/-- A dispatch that is parked was refused. -/
theorem parked_run {calls : List Call} {mapper : Mapper} (run : Run (Performs settings) Mapper.initial calls mapper) :
    mapper.mechanismState = .parkedNotAdmitted → ∃ request observedAtMs, .refused request observedAtMs ∈ boundaries mapper.records := by
  apply @mapper_invariant _ _ _ _
    (fun mapper => mapper.mechanismState = .parkedNotAdmitted →
      ∃ request observedAtMs, .refused request observedAtMs ∈ boundaries mapper.records) run
  · exact ⟨fun _ _ _ held => held, fun _ held => held, fun _ _ held => held⟩
  · intro parked
    cases parked
  · intro before label raw normalized assigned stored size held _ change recorded parked
    have kept (same : before.mechanismState = .parkedNotAdmitted) :
        ∃ request observedAtMs, .refused request observedAtMs ∈ boundaries (assigned.appended stored size).records := by
      obtain ⟨request, observedAtMs, listed⟩ := held same
      simp only [Mapper.appended, change.records, boundaries_append]
      exact ⟨request, observedAtMs, List.mem_append_left _ listed⟩
    have interrupted (mapper : Mapper) : mapper.interrupted.mechanismState ≠ .parkedNotAdmitted := by
      unfold Mapper.interrupted
      split <;> simp
    have records := change.records
    cases change with
    | @admissionRefused _ _ request _ _ observedAtMs =>
      refine ⟨request, observedAtMs, ?_⟩
      simp [Mapper.appended, boundaries_append, recorded.normalized, Normalized.boundary?]
    | discrepancy => exact absurd parked (interrupted _)
    | cut =>
      split at parked
      next clean => exact kept parked
      next => exact absurd parked (interrupted _)
    | executionStep =>
      simp only [Mapper.appended] at parked
      split at parked <;> cases parked
    | responseCompleted | waitingApproval => cases parked
    | localFact =>
      simp only [Mapper.appended] at parked
      split at parked
      next => cases parked
      next => exact kept parked
    | _ => exact kept parked

/-- Each issued request with the response that answers it. -/
structure Answered (records : List Record) (answer : Nat → Nat) : Prop where
  later : ∀ position request, issuedAt records position = some request →
    position < answer position ∧ retainedAt records (answer position) = some request
  distinct : ∀ first last, (issuedAt records first).isSome → (issuedAt records last).isSome →
    answer first = answer last → first = last
  onto : ∀ later, (retainedAt records later).isSome → ∃ position, (issuedAt records position).isSome ∧ answer position = later

/-- With nothing outstanding every issued request is answered. -/
theorem Matching.answered_all {records : List Record} {answer : Nat → Option Nat} (matching : Matching records [] answer) :
    Answered records fun position => (answer position).getD 0 := by
  have closed {position : Nat} {request : ClientRequest} (listed : issuedAt records position = some request) :
      answer position = some ((answer position).getD 0) := by
    cases found : answer position with
    | none => simpa using matching.waiting position request listed found
    | some later => rfl
  constructor
  · intro position request listed
    exact matching.answered position _ request listed (closed listed)
  · intro first last one two same
    obtain ⟨left, one⟩ := Option.isSome_iff_exists.mp one
    obtain ⟨right, two⟩ := Option.isSome_iff_exists.mp two
    apply matching.distinct first last _ (by simp [one]) (by simp [two]) (closed one)
    rw [closed two, same]
  · intro later listed
    obtain ⟨position, present, found⟩ := matching.onto later listed
    exact ⟨position, present, by simp [found]⟩

/-- What a mapper with a clean cut has recorded. -/
structure CleanHistory (settings : Settings host) (mapper : Mapper) (cut : Cut) : Prop where
  natural : 0 ≤ cut.orderedHighWater
  ordinals : ordinals mapper.records = List.range cut.orderedHighWater.toNat
  quiet : ∀ record ∈ mapper.records, record.normalized.halts = false
  answered : ∃ answer, Answered mapper.records answer
  ending :
    (mapper.mechanismState = .providerCompleted ∧
      (∃ exchanges : List Exchange, exchanges ≠ [] ∧ boundaries mapper.records = exchanges.flatMap Exchange.whole) ∧
      ∃ record, lastNotification mapper.records = some record ∧ CompletesTurn settings record) ∨
    (mapper.mechanismState = .parkedNotAdmitted ∧
      ∃ request startedAtMs observedAtMs, boundaries mapper.records = [.started request startedAtMs, .refused request observedAtMs])

theorem completed_word {mapper : Mapper} (worded : Worded mapper) (ended : TurnEnded settings mapper) :
    ∃ exchanges : List Exchange, exchanges ≠ [] ∧ boundaries mapper.records = exchanges.flatMap Exchange.whole := by
  obtain ⟨exchanges, tail, coupled⟩ := worded.coupled
  cases tail with
  | nothing =>
    refine ⟨exchanges, ?_, by simpa [Tail.boundaries] using coupled.grammar.shape⟩
    simpa [Tail.responseId?] using coupled.admitted.mp ended.admitted
  | started =>
    have pending := coupled.pending.1
    rw [ended.pending] at pending
    cases pending
  | stepped =>
    have opened := coupled.opened
    rw [ended.opened] at opened
    cases opened
  | refused =>
    have alone := coupled.grammar.alone _ _ _ rfl
    simpa [alone, Tail.responseId?] using coupled.admitted.mp ended.admitted

theorem parked_word {mapper : Mapper} (worded : Worded mapper)
    (refused : ∃ request observedAtMs, .refused request observedAtMs ∈ boundaries mapper.records) :
    ∃ request startedAtMs observedAtMs, boundaries mapper.records = [.started request startedAtMs, .refused request observedAtMs] := by
  obtain ⟨request, observedAtMs, listed⟩ := refused
  obtain ⟨exchanges, tail, coupled⟩ := worded.coupled
  have shape := coupled.grammar.shape
  rw [shape] at listed
  cases tail with
  | refused request startedAtMs observedAtMs =>
    rw [coupled.grammar.alone _ _ _ rfl] at shape
    exact ⟨request, startedAtMs, observedAtMs, shape⟩
  | _ => simp [Exchange.whole, Exchange.opening, Tail.boundaries] at listed

/-- Whatever calls an ordered mapper has taken, a clean cut certifies its whole log. -/
theorem clean_cut_soundness {calls : List Call} {mapper : Mapper} {cut : Cut} (ordered : settings.allowUnorderedFixture = false)
    (run : Run (Performs settings) Mapper.initial calls mapper) (taken : mapper.acquisitionCut = some cut)
    (clean : cut.clean = true) : CleanHistory settings mapper cut := by
  obtain ⟨highWater, outstanding, closed⟩ := cut_run ordered run cut taken clean
  have worded := worded_run run
  have unhalted : ¬ Halted mapper.mechanismState := by
    rcases closed with completed | parked
    · simp [Halted, completed]
    · simp [Halted, parked]
  have quiet : ∀ record ∈ mapper.records, record.normalized.halts = false := by
    intro record listed
    cases halts : record.normalized.halts with
    | true => exact absurd (worded.quiet.halted record listed halts) unhalted
    | false => rfl
  obtain ⟨answer, matching⟩ := matching_run run
  rw [outstanding] at matching
  constructor
  · rw [highWater]
    exact Int.natCast_nonneg _
  · have undisputed : ∀ record ∈ mapper.records, record.normalized.discrepant = false := by
      intro record listed
      have unhalting := quiet record listed
      cases shape : record.normalized with
      | discrepancy => simp [shape, Normalized.halts] at unhalting
      | _ => rfl
    rw [highWater, Int.toNat_natCast, sequenced_run ordered run undisputed]
  · exact quiet
  · exact ⟨_, matching.answered_all⟩
  · rcases closed with completed | parked
    · have ended := ended_run ordered run completed
      exact .inl ⟨completed, completed_word worded ended, ended.last⟩
    · exact .inr ⟨parked, parked_word worded (parked_run run parked)⟩

/-- The cut of a process that has ended, after this many envelopes. -/
def sampleCutTaken (disposition : String) (count : Nat) : Cut where
  adapterProcessOccurrenceId := text "p"
  appServerSessionIdentity := text "s"
  streamQuiesced := true
  lossGeneration := 0
  processDisposition := text disposition
  orderedHighWater := count
  consumedOrdinalCount := count
  outstandingClientRequestCount := 0
  clean := true

def sampleCompleted : List Call := sampleAnswered ++ [sampleEnvelope 5 "NOTIFICATION" sampleTurnEnd .null,
  .consumeCut ⟨.bool true, .int 0, literal "EXITED_AFTER_TERMINATE", .int 6, literal "p", literal "s"⟩]

/-- A dispatch that was refused, and one that was completed with its only request answered. -/
theorem clean_cut_soundness_sample :
    CleanHistory sampleSettings (performAll sampleSettings Mapper.initial sampleCalls) (sampleCutTaken "EXITED" 2) ∧
    CleanHistory sampleSettings (performAll sampleSettings Mapper.initial sampleCompleted) (sampleCutTaken "EXITED_AFTER_TERMINATE" 6) :=
  ⟨clean_cut_soundness rfl (performAll_run sampleSettings Mapper.initial sampleCalls) (by decide +kernel) rfl,
    clean_cut_soundness rfl (performAll_run sampleSettings Mapper.initial sampleCompleted) (by decide +kernel) rfl⟩

end Switchyard.Admission
