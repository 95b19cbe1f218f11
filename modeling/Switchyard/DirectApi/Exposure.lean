import Switchyard.DirectApi.Overage

/-! What a run keeps of its provider's own words. The error identifiers of a refusal
are held against the credential; the words of an answer are kept as they are. -/

namespace Switchyard.DirectApi
open Library Json

variable {host : Host}

/-- A string that contains the credential. -/
def reveals (credential : Text) : Json → Bool
  | .str token => contains token credential
  | _ => false

/-- The record members that are in the provider's words, `reported_execution` apart. -/
def REPORTED_FIELDS : List String :=
  ["provider_error_code", "provider_error_type", "upstream_provider_error_code", "finish_reason"]

/-- The model, where it is not the requested one, and the upstream provider. -/
def executionMetadata (request : Members) : Json → List Json
  | .obj execution =>
    if equal (get execution "model_id") (get request "model_id") then [get execution "upstream_provider_id"]
    else [get execution "model_id", get execution "upstream_provider_id"]
  | _ => []

def reportedMetadata (request members : Members) : List Json :=
  REPORTED_FIELDS.map (get members) ++ executionMetadata request (get members "reported_execution")

/-- No provider-reported value of the record contains the credential. -/
def Concealed (credential : Text) (request members : Members) : Prop :=
  ∀ value ∈ reportedMetadata request members, reveals credential value = false

/-- The record that the store retains for a dispatch. -/
def Retains (host : Host) (store : Store) (dispatch : Text) (members : Members) : Prop :=
  ∃ row, store.lookup dispatch = some row ∧ canonical host (.obj members) = .ok row.record

/-- The counts of the response end it before it completes the run. -/
def exceeded (request : Members) : Json → Bool
  | .obj usage => match tokenCounts usage with
    | some counts => overBound request counts
    | none => false
  | _ => false

/-- The words of an answer that the run keeps do not contain the credential. -/
structure Discreet (request response : Members) (credential : Text) : Prop where
  provider : reveals credential (get response "provider") = false
  model : equal (get response "model") (get request "model_id") = false → reveals credential (get response "model") = false
  reason : acceptable request response = true → exceeded request (get response "usage") = false →
    ∀ choice, soleChoice (get response "choices") = some choice → ∀ reason raw, get choice "finish_reason" = .str reason →
      reason.encode? = some raw → raw.length ≤ 256 → contains reason credential = false

/-- The run makes its contact and reads this answer. -/
structure Answered (host : Host) (submission : Submission host) (surroundings : Surroundings) (raw : Bytes)
    (response : Members) : Prop where
  uncancelled : surroundings.cancelledBefore = .ok false
  prepared : (requestBody host submission).isOk = true
  answer : surroundings.transport = .ok ⟨.int 200, some raw⟩
  bounded : ¬ raw.length > int submission.request "maximum_response_bytes"
  awaited : surroundings.cancelledAfter = .ok false
  decoded : host.loads raw = .ok (.obj response)

section Harmless
variable {credential : Text} {request : Members}

/-- An assignment that keeps what is concealed so. -/
def Harmless (credential : Text) (request : Members) (items : List (String × Json)) : Prop :=
  ∀ item ∈ items, (item.1 ∈ REPORTED_FIELDS → reveals credential item.2 = false) ∧
    (item.1 = "reported_execution" → ∀ value ∈ executionMetadata request item.2, reveals credential value = false)

theorem concealed_iff {members : Members} : Concealed credential request members ↔
    (∀ field ∈ REPORTED_FIELDS, reveals credential (get members field) = false) ∧
      ∀ value ∈ executionMetadata request (get members "reported_execution"), reveals credential value = false := by
  simp only [Concealed, reportedMetadata, List.mem_append, List.mem_map]
  constructor
  · intro concealed
    exact ⟨fun field listed => concealed _ (Or.inl ⟨field, listed, rfl⟩), fun value listed => concealed _ (Or.inr listed)⟩
  · rintro ⟨fields, execution⟩ value (⟨field, listed, rfl⟩ | listed)
    · exact fields field listed
    · exact execution value listed

theorem concealed_update {items : List (String × Json)} (harmless : Harmless credential request items) {members : Members}
    (base : Concealed credential request members) : Concealed credential request (update members items) := by
  induction items generalizing members with
  | nil => exact base
  | cons item rest ih =>
    apply ih fun other listed => harmless other (List.mem_cons_of_mem _ listed)
    obtain ⟨words, execution⟩ := harmless item List.mem_cons_self
    obtain ⟨fields, before⟩ := concealed_iff.mp base
    refine concealed_iff.mpr ⟨fun field listed => ?_, ?_⟩
    · rw [get_set]
      split
      · next same => exact words (same ▸ listed)
      · exact fields field listed
    · rw [get_set]
      split
      · next same => exact execution same.symm
      · exact before

theorem concealed_assign {record : RunRecord} {assignment : Assignment}
    (harmless : Harmless credential request assignment.items) (base : Concealed credential request record.members) :
    Concealed credential request (record.assign assignment).members :=
  concealed_update harmless base

theorem concealed_assignAll {assignments : List Assignment}
    (harmless : ∀ assignment ∈ assignments, Harmless credential request assignment.items) {record : RunRecord}
    (base : Concealed credential request record.members) : Concealed credential request (record.assignAll assignments).members := by
  induction assignments generalizing record with
  | nil => exact base
  | cons assignment rest ih =>
    apply ih fun other listed => harmless other (List.mem_cons_of_mem _ listed)
    exact concealed_assign (harmless assignment List.mem_cons_self) base

/-- Nothing of the provider is in these items. -/
theorem harmless_plain {items : List (String × Json)}
    (plain : ∀ item ∈ items, item.1 ∉ REPORTED_FIELDS ∧ item.1 ≠ "reported_execution") : Harmless credential request items :=
  fun item listed => ⟨fun field => absurd field (plain item listed).1, fun field => absurd field (plain item listed).2⟩

theorem harmless_excepted (raised : Raised) : Harmless credential request (excepted raised).items := by
  apply harmless_plain
  cases raised <;> simp [excepted, REPORTED_FIELDS]

theorem harmless_ended (endedAt : Nanoseconds) : Harmless credential request (ended endedAt).items := by
  apply harmless_plain
  simp [ended, REPORTED_FIELDS]

theorem harmless_started : Harmless credential request contactStarted.items := by
  apply harmless_plain
  simp [contactStarted, REPORTED_FIELDS]

/-- Only assignments that conceal. -/
abbrev Conceals {α : Type} (credential : Text) (request : Members) (program : Attempt α) : Prop :=
  program.Assigns fun assignment => Harmless credential request assignment.items

theorem claimRecord_concealed (submission : Submission host) (now : Nanoseconds) (scope : Option Text) :
    Concealed credential request (claimRecord host submission now scope).members := by
  have base : Concealed credential request (baseRecord host submission now) := by
    refine concealed_iff.mpr ⟨?_, ?_⟩
    · simp [REPORTED_FIELDS, baseRecord, get_object_cons, reveals]
    · simp only [baseRecord, get_object_cons]
      simp only [if_false, String.reduceEq, if_true, executionMetadata, get_object_cons]
      split <;> simp [reveals]
  cases scope with
  | none => exact base
  | some scope =>
    obtain ⟨fields, execution⟩ := concealed_iff.mp base
    refine concealed_iff.mpr ⟨fun field listed => ?_, ?_⟩
    · have kept : get (claimRecord host submission now (some scope)).members field = get (baseRecord host submission now) field := by
        simp only [REPORTED_FIELDS, List.mem_cons, List.not_mem_nil, or_false] at listed
        rcases listed with rfl | rfl | rfl | rfl <;> simp [claimRecord, claimMembers, enrolledRecord, get_set]
      rw [kept]
      exact fields field listed
    · simp only [claimRecord, claimMembers, enrolledRecord, get_set]
      exact execution

private theorem diagnostic_unrevealing {value : Json} {target : String} {item : String × Json}
    (retained : item ∈ diagnostic credential value target) : reveals credential item.2 = false := by
  unfold diagnostic at retained
  cases value with
  | str token =>
    simp only at retained
    split at retained
    next accepted =>
      obtain rfl := List.mem_singleton.mp retained
      simp only [Bool.and_eq_true, Bool.not_eq_true'] at accepted
      exact accepted.1.2
    next => cases retained
  | int value =>
    simp only at retained
    split at retained
    next accepted =>
      obtain rfl := List.mem_singleton.mp retained
      simp only [Bool.and_eq_true, Bool.not_eq_true'] at accepted
      exact accepted.1.2
    next => cases retained
  | null | bool _ | float _ | arr _ | obj _ => cases retained

/-- What a refusal keeps does not contain the credential. -/
theorem metadata_unrevealing {raw : Bytes} {items : List (String × Json)}
    (found : providerErrorMetadata host raw credential = .ok items) {item : String × Json} (listed : item ∈ items) :
    reveals credential item.2 = false := by
  unfold providerErrorMetadata at found
  split at found
  · cases found; cases listed
  · cases found
  · cases found
  · split at found
    · cases found
      simp only [List.mem_append] at listed
      rcases listed with (listed | listed) | listed <;> exact diagnostic_unrevealing listed
    · cases found; cases listed
  · cases found; cases listed

private theorem malformed_conceals : Conceals credential request malformed :=
  Attempt.assigns_assign (harmless_plain (by simp [REPORTED_FIELDS]))

private theorem unacceptable_conceals (state : String) : Conceals credential request (unacceptable state) :=
  Attempt.assigns_assign (harmless_plain (by simp [REPORTED_FIELDS]))

private theorem recordCost_conceals (usage : Members) : Conceals credential request (recordCost usage) := by
  unfold recordCost
  split
  · apply Attempt.Assigns.bind
    · exact Attempt.assigns_assign (harmless_plain (by simp [REPORTED_FIELDS]))
    · intro _
      exact .nothing fun _ => rfl
  · exact .nothing fun _ => rfl

private theorem recordUsage_conceals (usage : Json) : Conceals credential request (recordUsage request usage) := by
  unfold recordUsage
  split
  · split
    · apply Attempt.Assigns.bind
      · exact Attempt.assigns_assign (harmless_plain (by simp [REPORTED_FIELDS]))
      · intro _
        split
        · exact Attempt.Assigns.bind (unacceptable_conceals _) fun _ => .nothing fun _ => rfl
        · exact recordCost_conceals _
    · exact recordCost_conceals _
  · exact .nothing fun _ => rfl

/-- Whether the counts end the response is decided by the response alone. -/
private theorem recordUsage_exceeded (usage : Json) (start : List Assignment) :
    (recordUsage request usage start).1 = .ok (exceeded request usage) := by
  have costs (reported : Members) (from_ : List Assignment) : (recordCost reported from_).1 = .ok false := by
    unfold recordCost
    cases number (get reported "cost") <;> rfl
  unfold recordUsage exceeded
  cases usage with
  | obj usage =>
    dsimp only
    cases tokenCounts usage with
    | none => exact costs usage start
    | some counts =>
      dsimp only
      cases beyond : overBound request counts with
      | true => rfl
      | false =>
        simp only [Effect.bind_apply, Attempt.assign, Effect.modify_apply, Bool.false_eq_true, if_false]
        exact costs usage _
  | _ => rfl

/-- An answer that says nothing of the credential leaves the record so. -/
private theorem complete_conceals {response choice : Members} {output : Text} (discreet : Discreet request response credential)
    (accepted : acceptable request response = true) (chosen : soleChoice (get response "choices") = some choice) :
    Conceals credential request (complete request response choice output) := by
  intro start
  obtain ⟨new, grown, each⟩ := @recordUsage_conceals credential request (get response "usage") start
  have decided := @recordUsage_exceeded request (get response "usage") start
  unfold complete
  rw [Effect.bind_apply]
  cases went : recordUsage request (get response "usage") start with
  | mk outcome after =>
    rw [went] at grown decided
    subst grown decided
    dsimp only
    cases beyond : exceeded request (get response "usage") with
    | true => exact ⟨new, rfl, each⟩
    | false =>
      rw [if_neg Bool.false_ne_true, Effect.bind_apply]
      cases reasoned : finishReason (get choice "finish_reason") with
      | error raised => exact ⟨new, rfl, each⟩
      | ok reason =>
        refine ⟨new ++ [_], List.append_assoc .. , fun assignment listed => ?_⟩
        rcases List.mem_append.mp listed with listed | listed
        · exact each assignment listed
        · obtain rfl := List.mem_singleton.mp listed
          have kept : reveals credential reason = false := by
            unfold finishReason at reasoned
            split at reasoned
            next words shape =>
              split at reasoned
              next raw encoded =>
                split at reasoned
                · cases reasoned
                  rfl
                · next short =>
                  cases reasoned
                  exact discreet.reason accepted beyond choice chosen words raw shape encoded (by omega)
              next => cases reasoned
            next => cases reasoned; rfl
          intro item member
          simp only [List.mem_cons, List.not_mem_nil, or_false] at member
          rcases member with rfl | rfl | rfl | rfl | rfl <;> simp [REPORTED_FIELDS, kept]

/-- A reported value as the record has it: only strings are kept. -/
private def shown (value : Json) : Json := if value.text?.isSome then value else .null

private theorem reveals_shown (value : Json) : reveals credential (shown value) = reveals credential value := by
  cases value <;> rfl

private theorem executionMetadata_reported (response : Members) : executionMetadata request (reportedExecution response) =
    if equal (shown (get response "model")) (get request "model_id") then [shown (get response "provider")]
    else [shown (get response "model"), shown (get response "provider")] := by
  simp only [reportedExecution, executionMetadata, get_object_cons, String.reduceEq, if_false, if_true]
  rfl

private theorem execution_harmless {response : Members} (discreet : Discreet request response credential) :
    ∀ value ∈ executionMetadata request (reportedExecution response), reveals credential value = false := by
  have model : equal (shown (get response "model")) (get request "model_id") = false →
      reveals credential (shown (get response "model")) = false := by
    intro differs
    rw [reveals_shown]
    cases reported : get response "model" with
    | str content =>
      rw [reported] at differs
      exact reported ▸ discreet.model (reported ▸ differs)
    | _ => rfl
  rw [executionMetadata_reported]
  intro value listed
  split at listed
  next =>
    obtain rfl := List.mem_singleton.mp listed
    rw [reveals_shown]
    exact discreet.provider
  next differs =>
    simp only [List.mem_cons, List.not_mem_nil, or_false] at listed
    rcases listed with rfl | rfl
    · exact model (Bool.eq_false_iff.mpr differs)
    · rw [reveals_shown]
      exact discreet.provider

private theorem observe_conceals {response : Members} (discreet : Discreet request response credential) :
    Conceals credential request (observe request response) := by
  unfold observe
  apply Attempt.Assigns.bind
  · apply Attempt.assigns_assign
    intro item listed
    obtain rfl := List.mem_singleton.mp listed
    exact ⟨by simp [REPORTED_FIELDS], fun _ => execution_harmless discreet⟩
  · intro _
    by_cases model : equal (get response "model") (get request "model_id") = true
    · rw [if_neg (by simp [model])]
      cases choices : soleChoice (get response "choices") with
      | none => exact malformed_conceals
      | some choice =>
        dsimp only
        cases content : choiceContent choice with
        | str output =>
          dsimp only
          cases encoded : output.encode? with
          | none => exact .nothing fun _ => rfl
          | some bytes =>
            dsimp only
            split
            · exact unacceptable_conceals _
            · next fits =>
              have accepted : acceptable request response = true := by
                simp [acceptable, model, choices, content, encoded, fits]
              exact complete_conceals discreet accepted choices
        | _ => exact unacceptable_conceals _
    · rw [if_pos (by simp [model])]
      exact unacceptable_conceals _

private theorem conceals_known {α β : Type} {value : α} {next : α → Attempt β} (rest : Conceals credential request (next value)) :
    Conceals credential request (Effect.lift (.ok value) >>= next) := rest

/-- A response conceals the credential when each answer that can be read from it does. -/
private theorem respond_conceals {cancelledAfter : Except Raised Bool} {response : Response}
    (discreet : ∀ raw answer, response = ⟨.int 200, some raw⟩ → ¬ raw.length > int request "maximum_response_bytes" →
      cancelledAfter = .ok false → host.loads raw = .ok (.obj answer) → Discreet request answer credential) :
    Conceals credential request (respond host request credential cancelledAfter response) := by
  unfold respond
  split
  next status raw =>
    by_cases large : raw.length > int request "maximum_response_bytes"
    · rw [if_pos large]
      exact unacceptable_conceals _
    · rw [if_neg large]
      apply Attempt.Assigns.bind
      · exact Attempt.assigns_assign (harmless_plain (by simp [REPORTED_FIELDS]))
      · intro _
        cases cancelledAfter with
        | error raised => exact .nothing fun _ => rfl
        | ok cancelled =>
          apply conceals_known
          cases cancelled with
          | true => exact Attempt.assigns_assign (harmless_plain (by simp [REPORTED_FIELDS]))
          | false =>
            rw [if_neg Bool.false_ne_true]
            split
            · split
              · exact .nothing fun _ => rfl
              · next metadata found =>
                apply Attempt.assigns_assign
                intro item listed
                rcases List.mem_append.mp listed with listed | listed
                · simp only [List.mem_cons, List.not_mem_nil, or_false] at listed
                  rcases listed with rfl | rfl | rfl <;> simp [REPORTED_FIELDS]
                · refine ⟨fun _ => metadata_unrevealing found listed, fun execution => ?_⟩
                  have target := (providerErrorMetadata_spec found listed).1
                  simp [execution] at target
            · next ok =>
              obtain rfl : status = 200 := by simpa using ok
              split
              · next members decoded => exact observe_conceals (discreet raw members rfl large rfl decoded)
              · exact malformed_conceals
              · exact malformed_conceals
              · exact .nothing fun _ => rfl
              · exact .nothing fun _ => rfl
  next => exact .nothing fun _ => rfl

theorem answered_conceals {surroundings : Surroundings} {record : RunRecord} (base : Concealed credential request record.members)
    (discreet : ∀ raw answer, surroundings.transport = .ok ⟨.int 200, some raw⟩ →
      ¬ raw.length > int request "maximum_response_bytes" → surroundings.cancelledAfter = .ok false →
      host.loads raw = .ok (.obj answer) → Discreet request answer credential) :
    Concealed credential request (answered host request credential surroundings record).members := by
  unfold answered
  cases answer : surroundings.transport with
  | error raised => exact concealed_assign (harmless_excepted raised) base
  | ok response =>
    obtain ⟨new, grown, each⟩ := @respond_conceals host credential request surroundings.cancelledAfter response
      (fun raw found same bounded awaited decoded => discreet raw found (answer.trans (congrArg _ same)) bounded awaited decoded) []
    dsimp only
    cases done : respond host request credential surroundings.cancelledAfter response [] with
    | mk outcome assignments =>
      rw [done] at grown
      obtain rfl : assignments = new := by simpa using grown
      cases outcome with
      | ok _ => exact concealed_assignAll each base
      | error raised => exact concealed_assign (harmless_excepted raised) (concealed_assignAll each base)

/-- What the answer says of its own execution is in the final record. -/
private theorem execution_shown {submission : Submission host} {surroundings : Surroundings} {raw : Bytes} {response : Members}
    (read : Answered host submission surroundings raw response) (record : RunRecord) (endedAt : Nanoseconds) :
    get (finalRecord host submission credential surroundings record endedAt).members "reported_execution" =
      reportedExecution response := by
  have listed : ("reported_execution", reportedExecution response) ∈ kept host submission.request surroundings := by
    simp [kept, read.answer, read.bounded, read.awaited, keptBody, read.decoded, keptResponse]
  exact final_get submission credential surroundings record endedAt listed

/-- The finish reason of an answer that completes its run is in the final record. -/
private theorem reason_shown {submission : Submission host} {surroundings : Surroundings} {raw : Bytes} {response choice : Members}
    {words : Text} {bytes : Bytes} (read : Answered host submission surroundings raw response)
    (accepted : acceptable submission.request response = true)
    (within : exceeded submission.request (get response "usage") = false)
    (chosen : soleChoice (get response "choices") = some choice) (said : get choice "finish_reason" = .str words)
    (encoded : words.encode? = some bytes) (short : bytes.length ≤ 256) (record : RunRecord) (endedAt : Nanoseconds) :
    get (finalRecord host submission credential surroundings record endedAt).members "finish_reason" = .str words := by
  have reasoned : finishReason (get choice "finish_reason") = .ok (.str words) := by
    simp [finishReason, said, encoded, short]
  have completes (output : Text) (start : List Assignment) : ∃ earlier completion,
      complete submission.request response choice output start = (.ok (), earlier ++ [completion]) ∧
        ("finish_reason", Json.str words) ∈ completion.items ∧
        ∀ item ∈ completion.items, item.1 = "finish_reason" → item.2 = .str words := by
    have decided := @recordUsage_exceeded submission.request (get response "usage") start
    unfold complete
    rw [Effect.bind_apply]
    cases went : recordUsage submission.request (get response "usage") start with
    | mk outcome after =>
      rw [went] at decided
      subst decided
      simp only [within, Bool.false_eq_true, if_false, Effect.bind_apply, reasoned, Effect.lift_ok]
      exact ⟨after, _, rfl, by simp, by simp⟩
  obtain ⟨earlier, completion, done, listed, only⟩ : ∃ earlier completion,
      respond host submission.request credential surroundings.cancelledAfter ⟨.int 200, some raw⟩ [] =
        (.ok (), earlier ++ [completion]) ∧ ("finish_reason", Json.str words) ∈ completion.items ∧
        ∀ item ∈ completion.items, item.1 = "finish_reason" → item.2 = .str words := by
    unfold acceptable at accepted
    obtain ⟨model, accepted⟩ := Bool.and_eq_true_iff.mp accepted
    rw [chosen] at accepted
    dsimp only at accepted
    split at accepted
    next output content =>
      split at accepted
      next => cases accepted
      next raw encoded =>
        have fits : ¬ raw.length > int submission.request "maximum_output_bytes" := by simpa using accepted
        obtain ⟨earlier, completion, completed, listed, only⟩ := completes output
          ([⟨[("http_status", .int 200)], by simp⟩] ++ [⟨[("reported_execution", reportedExecution response)], by simp⟩])
        refine ⟨earlier, completion, ?_, listed, only⟩
        rw [← completed]
        simp only [respond, read.bounded, if_false, Effect.bind_apply, Attempt.assign, Effect.modify_apply, read.awaited,
          Effect.lift_ok, Bool.false_eq_true, ne_eq, not_true_eq_false, read.decoded, observe, model, Bool.not_true, chosen,
          content, encoded, fits]
        rfl
    next => cases accepted
  simp only [finalRecord, answered, read.answer, done, RunRecord.concluded, RunRecord.assignAll, List.foldl_append,
    List.foldl_cons, List.foldl_nil]
  rw [RunRecord.assign, get_update (by simp [ended])]
  exact get_update_of_mem listed only _

/-- A run that reads an answer conceals the credential only when the answer is discreet. -/
theorem final_concealed {submission : Submission host} {surroundings : Surroundings} {record : RunRecord} {raw : Bytes}
    {response : Members} (read : Answered host submission surroundings raw response) {endedAt : Nanoseconds}
    (concealed : Concealed credential submission.request
      (finalRecord host submission credential surroundings record endedAt).members) :
    Discreet submission.request response credential := by
  obtain ⟨fields, execution⟩ := concealed_iff.mp concealed
  rw [execution_shown read, executionMetadata_reported] at execution
  refine ⟨?_, fun differs => ?_, fun accepted within choice chosen words bytes said encoded short => ?_⟩
  · rw [← reveals_shown]
    split at execution
    next => exact execution _ (List.mem_singleton_self _)
    next => exact execution _ (by simp)
  · rw [← reveals_shown]
    split at execution
    next same =>
      cases reported : get response "model" with
      | str content =>
        rw [reported] at differs same
        exact absurd (show equal (.str content) (get submission.request "model_id") = true from same) (by simp [differs])
      | _ => rfl
    next => exact execution _ (by simp)
  · have kept := fields "finish_reason" (by simp [REPORTED_FIELDS])
    rw [reason_shown read accepted within chosen said encoded short] at kept
    exact kept

end Harmless

/-- The record a run retains conceals the credential exactly when the answer it reads,
if it reads one, is discreet; the record of a run that raises always does. -/
structure KeepsWords (host : Host) (submission : Submission host) (surroundings : Surroundings) (credential : Text)
    (outcome : Except Failure Json) (after : Store) : Prop where
  returned : ∀ value, outcome = .ok value → ∃ members, value = .obj members ∧
    Retains host after submission.dispatch members ∧ (Concealed credential submission.request members ↔
      ∀ raw response, Answered host submission surroundings raw response → Discreet submission.request response credential)
  raised : ∀ failure, outcome = .error failure →
    ∃ members, Retains host after submission.dispatch members ∧ Concealed credential submission.request members

section Run
variable {submission : Submission host} {surroundings : Surroundings} {credential : Text} {startedAt endedAt : Nanoseconds}
  {store claimed : Store} {scope : Option Text}

theorem Retains.written {dispatch : Text} {members written : Members} {raw : Bytes} (retains : Retains host store dispatch members)
    (encoded : canonical host (.obj written) = .ok raw) : Retains host (store.written dispatch raw) dispatch written := by
  obtain ⟨row, found, -⟩ := retains
  refine ⟨{ row with record := raw }, ?_, encoded⟩
  rw [Store.lookup_written, found, ← Store.lookup_dispatch found]
  simp [RunRow.written]

/-- What an attempt ends with, and what the store retains of it meanwhile. -/
private structure Attempted (host : Host) (submission : Submission host) (surroundings : Surroundings) (credential : Text)
    (endedAt : Nanoseconds) (final : RunRecord) (middle : Store) : Prop where
  named : final.dispatch = submission.dispatch
  retained : ∃ members, Retains host middle submission.dispatch members ∧ Concealed credential submission.request members
  concealed : Concealed credential submission.request (final.assign (ended endedAt)).members ↔
    ∀ raw response, Answered host submission surroundings raw response → Discreet submission.request response credential

/-- An attempt that ends before its contact reads no answer. -/
private theorem attempted_early {final : RunRecord} (named : final.dispatch = submission.dispatch)
    (retains : Retains host claimed submission.dispatch (claimRecord host submission startedAt scope).members)
    (concealed : Concealed credential submission.request final.members)
    (unread : ∀ raw response, ¬ Answered host submission surroundings raw response) :
    Attempted host submission surroundings credential endedAt final claimed where
  named := named
  retained := ⟨_, retains, claimRecord_concealed submission startedAt scope⟩
  concealed := ⟨fun _ raw response read => absurd read (unread raw response),
    fun _ => concealed_assign (harmless_ended endedAt) concealed⟩

private theorem attempt_ends (offered : surroundings.credential = .ok (some credential)) (accepted : usable credential = true)
    (retains : Retains host claimed submission.dispatch (claimRecord host submission startedAt scope).members)
    (storable : Storable host (.obj (claimRecord host submission startedAt scope).members)) (endedAt : Nanoseconds) :
    ∃ final middle, attempt host submission surroundings (claimRecord host submission startedAt scope) claimed =
      (.ok final, middle) ∧ Attempted host submission surroundings credential endedAt final middle := by
  have base : Concealed credential submission.request (claimRecord host submission startedAt scope).members :=
    claimRecord_concealed submission startedAt scope
  cases before : surroundings.cancelledBefore with
  | error raised =>
    refine ⟨_, _, by simp [attempt, prepare, before, Effect.bind_apply]; rfl, attempted_early rfl retains ?_ fun _ _ read => ?_⟩
    · exact concealed_assign (harmless_excepted raised) base
    · cases before.symm.trans read.uncancelled
  | ok cancelled =>
    cases cancelled with
    | true =>
      refine ⟨_, _, by simp [attempt, prepare, before, Effect.bind_apply, Attempt.assign]; rfl,
        attempted_early rfl retains ?_ fun _ _ read => ?_⟩
      · exact concealed_assign (harmless_plain (by simp [REPORTED_FIELDS])) base
      · cases before.symm.trans read.uncancelled
    | false =>
      cases encoded : requestBody host submission with
      | error failure =>
        refine ⟨_, _, by simp [attempt, prepare, before, offered, accepted, encoded, Effect.bind_apply, Attempt.lift,
          Except.mapError, Option.filter]; rfl, attempted_early rfl retains ?_ fun _ _ read => ?_⟩
        · exact concealed_assign (harmless_excepted _) base
        · have prepared := read.prepared
          simp [encoded, Except.isOk, Except.toBool] at prepared
      | ok body =>
        have started : Storable host (.obj ((claimRecord host submission startedAt scope).assign contactStarted).members) :=
          Storable.update (by simp [contactStarted]) storable
        obtain ⟨contacted, canonical⟩ := canonical_accepted.mpr started.1
        have opened := concealed_assign (@harmless_started credential submission.request) base
        refine ⟨_, _, by simp [attempt, prepare, before, offered, accepted, encoded, Effect.bind_apply, Attempt.lift,
          Except.mapError, Option.filter, RunRecord.assignAll, Store.update_ok canonical]; rfl,
          answered_dispatch .., ⟨_, retains.written canonical, opened⟩, fun concealed raw response read => ?_, fun discreet => ?_⟩
        · exact final_concealed read concealed
        · refine concealed_assign (harmless_ended endedAt) (answered_conceals opened fun raw answer answered bounded awaited decoded => ?_)
          exact discreet raw answer ⟨before, by rw [encoded]; rfl, answered, bounded, awaited, decoded⟩

/-- So it is for every fresh run and every usable credential. -/
theorem metadata_concealed {record : RunRecord}
    (fresh : Store.claim host submission startedAt store = (.ok (.fresh record), claimed))
    (offered : surroundings.credential = .ok (some credential)) (accepted : usable credential = true) :
    KeepsWords host submission surroundings credential (run host submission surroundings startedAt endedAt store).1
      (run host submission surroundings startedAt endedAt store).2 := by
  obtain ⟨row, opened⟩ := (Store.claim_meets submission startedAt store).returns fresh
  obtain ⟨scope, rfl, ledger⟩ := opened.recorded
  have retains : Retains host claimed submission.dispatch (claimRecord host submission startedAt scope).members := by
    refine ⟨row, ?_, opened.retained⟩
    rw [Store.lookup_append opened.runs, opened.unknown, if_pos opened.dispatch]
    rfl
  obtain ⟨final, middle, done, attempted⟩ := attempt_ends offered accepted retains (claimRecord_storable submission startedAt ledger) endedAt
  have went : run host submission surroundings startedAt endedAt store =
      (do
        let final ← finish host endedAt final
        return Json.obj final.members) middle := by
    unfold run
    rw [Effect.bind_apply, fresh]
    simp only [Effect.bind_apply, done]
  obtain ⟨members, kept, concealed⟩ := attempted.retained
  rw [went, Effect.bind_apply]
  cases encoded : canonical host (.obj (final.assign (ended endedAt)).members) with
  | error failure =>
    rw [finish_error middle encoded]
    exact ⟨nofun, fun _ _ => ⟨members, kept, concealed⟩⟩
  | ok raw =>
    obtain ⟨after, finished, runs⟩ := finish_ok middle encoded
    rw [finished]
    refine ⟨fun value same => ⟨_, (Except.ok.inj same).symm, ?_, attempted.concealed⟩, nofun⟩
    obtain ⟨row, found, same⟩ := kept.written encoded
    refine ⟨row, ?_, same⟩
    show after.lookup submission.dispatch = some row
    rw [← found, ← attempted.named]
    simp only [Store.lookup, runs]

end Run

theorem metadata_concealed_sample : ∃ members after,
    run sampleHost sampleSubmission (sampleSurroundings sampleAnswer) 0 0 Store.empty = (.ok (.obj members), after) ∧
      Concealed (text "k") sampleSubmission.request members := by
  have succeeds : (run sampleHost sampleSubmission (sampleSurroundings sampleAnswer) 0 0 Store.empty).1.isOk = true := by
    decide +kernel
  have opened : Store.claim sampleHost sampleSubmission 0 Store.empty = (.ok (.fresh sampleClaimed), sampleStore) := by
    decide +kernel
  have offered : (sampleSurroundings sampleAnswer).credential = .ok (some (text "k")) := rfl
  have accepted : usable (text "k") = true := by decide
  have went := (@metadata_concealed sampleHost _ _ _ 0 0 _ _ _ opened offered accepted).returned
  cases result : run sampleHost sampleSubmission (sampleSurroundings sampleAnswer) 0 0 Store.empty with
  | mk outcome after =>
    rw [result] at succeeds went
    cases outcome with
    | error failure => cases succeeds
    | ok value =>
      obtain ⟨members, rfl, -, concealed⟩ := went value rfl
      refine ⟨members, after, rfl, concealed.mpr fun raw response read => ?_⟩
      have same := (Surroundings.transport_replied rfl).symm.trans read.answer
      obtain rfl : sampleAnswer = raw := by simpa [sampleSurroundings] using same
      have decoded : (sampleHost.loads sampleAnswer).toOption = some (.obj sampleResponse) := by decide +kernel
      obtain rfl : response = sampleResponse := by simpa [read.decoded, Except.toOption] using decoded
      refine ⟨by decide, fun differs => absurd differs (by decide), fun _ _ choice chosen words bytes said => ?_⟩
      have silent : (soleChoice (get sampleResponse "choices")).map (fun choice => get choice "finish_reason") = some .null := by
        decide
      simp [chosen, said] at silent

/-- A provider that repeats the credential it was sent. -/
def echoResponse : Members := object [
  ("model", .str (text "m1")), ("provider", .str (text "sk-live-1")),
  ("choices", .arr [.obj (object [("message", .obj (object [("content", .str (text "ok"))])),
    ("finish_reason", .str (text "sk-live-1"))])])]

def echoAnswer : Bytes := ascii ("\x7b\"model\":\"m1\",\"provider\":\"sk-live-1\"," ++
  "\"choices\":[\x7b\"message\":\x7b\"content\":\"ok\"\x7d,\"finish_reason\":\"sk-live-1\"\x7d]\x7d")

/-- The sample host, which now also decodes this answer. -/
def exposureHost : Host := { sampleHost with
  loads := fun raw => if raw = echoAnswer then .ok (.obj echoResponse) else sampleHost.loads raw }

def exposureSubmission : Submission exposureHost where
  request := sampleRequest
  admittedInput := ascii "hi"
  ownerBinding := sampleBinding
  requestKeys := sampleSubmission.requestKeys
  bindingKeys := sampleSubmission.bindingKeys
  accepted := sampleSubmission.accepted

def exposureSurroundings : Surroundings :=
  ⟨.ok false, .ok (some (text "sk-live-1")), [], .ok ⟨.int 200, some echoAnswer⟩, .ok false⟩

/-- The repeated credential is retained as the upstream provider and as the finish reason. -/
theorem metadata_concealed_echo : ∃ members after, usable (text "sk-live-1") = true ∧
    run exposureHost exposureSubmission exposureSurroundings 0 0 Store.empty = (.ok (.obj members), after) ∧
      Retains exposureHost after exposureSubmission.dispatch members ∧
      get members "finish_reason" = .str (text "sk-live-1") ∧
      ¬ Concealed (text "sk-live-1") exposureSubmission.request members := by
  have reason : ((run exposureHost exposureSubmission exposureSurroundings 0 0 Store.empty).1.toOption.bind Json.members?).map
      (fun members => get members "finish_reason") = some (.str (text "sk-live-1")) := by decide +kernel
  have retained : (((run exposureHost exposureSubmission exposureSurroundings 0 0 Store.empty).2.lookup
      exposureSubmission.dispatch).map RunRow.record).isSome = true ∧
      ((run exposureHost exposureSubmission exposureSurroundings 0 0 Store.empty).1.toOption.bind fun value =>
        (canonical exposureHost value).toOption) =
        ((run exposureHost exposureSubmission exposureSurroundings 0 0 Store.empty).2.lookup
          exposureSubmission.dispatch).map RunRow.record := by decide +kernel
  cases result : run exposureHost exposureSubmission exposureSurroundings 0 0 Store.empty with
  | mk outcome after =>
    rw [result] at reason retained
    cases outcome with
    | error failure => cases reason
    | ok value =>
      cases value with
      | obj members =>
        have said : get members "finish_reason" = .str (text "sk-live-1") := by
          simpa [Except.toOption, Json.members?] using reason
        refine ⟨members, after, by decide, rfl, ?_, said, fun concealed => ?_⟩
        · obtain ⟨row, found⟩ : ∃ row, after.lookup exposureSubmission.dispatch = some row := by
            simpa [Option.isSome_iff_exists] using retained.1
          refine ⟨row, found, ?_⟩
          have same := retained.2
          simp only [Except.toOption, Option.bind_some, found, Option.map_some] at same
          cases encoded : canonical exposureHost (.obj members) with
          | error failure => simp [encoded] at same
          | ok raw => simpa [encoded] using same
        · have kept := (concealed_iff.mp concealed).1 "finish_reason" (by simp [REPORTED_FIELDS])
          rw [said] at kept
          exact absurd kept (by decide)
      | _ => cases reason

end Switchyard.DirectApi
