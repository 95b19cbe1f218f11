import Switchyard.DirectApi.Durability

/-! Reported token overage. The check of the counts stands behind all three of
them, so a response that leaves one out completes whatever the others say. -/

namespace Switchyard.DirectApi
open Library Json

variable {host : Host}

/-- Each count of a usage object beside the limit of the request it is held to. -/
def TOKEN_LIMITS : List (String × String) := [("prompt_tokens", "maximum_prompt_tokens"),
  ("completion_tokens", "maximum_completion_tokens"), ("total_tokens", "maximum_total_tokens")]

/-- Some reported count is a nonnegative number greater than its limit. -/
def Overage (request usage : Members) : Prop :=
  ∃ limit ∈ TOKEN_LIMITS, ∃ count, number (get usage limit.1) = some count ∧ exceeds (int request limit.2) count = true

/-- Nothing but its usage keeps this response from completing the run. -/
structure Completable (request : Members) (cancelledAfter : Except Raised Bool) (raw : Bytes) (response : Members) : Prop where
  bounded : ¬ raw.length > int request "maximum_response_bytes"
  uncancelled : cancelledAfter = .ok false
  acceptable : acceptable request response = true
  finished : ∀ choice, soleChoice (get response "choices") = some choice →
    ∃ reason, finishReason (get choice "finish_reason") = .ok reason

/-- The record is no completion and carries no output. -/
def Unfinished (members : Members) : Prop :=
  get members "state" ≠ .str (text "PROVIDER_COMPLETED") ∧ get members "worker_output" = .null

/-- So is the record that a run has returned. -/
def NotCompleted (value : Json) : Prop := ∃ members, value = .obj members ∧ Unfinished members

/-- The assignment neither completes the run nor retains an output. -/
def Withholds (items : List (String × Json)) : Prop :=
  ∀ item ∈ items, item.1 ≠ "worker_output" ∧ (item.1 = "state" → item.2 ≠ .str (text "PROVIDER_COMPLETED"))

theorem Overage.bound {request usage : Members} {counts : Json × Json × Json} (overage : Overage request usage)
    (enrolled : isEnrolled request = true) (counted : tokenCounts usage = some counts) : overBound request counts = true := by
  obtain ⟨limit, listed, count, found, beyond⟩ := overage
  simp only [tokenCounts, Option.bind_eq_bind, Option.bind_eq_some_iff, Option.pure_def, Option.some.injEq] at counted
  obtain ⟨prompt, promptFound, completion, completionFound, total, totalFound, rfl⟩ := counted
  unfold overBound
  simp only [TOKEN_LIMITS, List.mem_cons, List.not_mem_nil, or_false] at listed
  rcases listed with rfl | rfl | rfl
  · cases found.symm.trans promptFound
    simp [enrolled, beyond]
  · cases found.symm.trans completionFound
    simp [enrolled, beyond]
  · cases found.symm.trans totalFound
    simp [enrolled, beyond]

theorem withheld_update {items : List (String × Json)} (withholds : Withholds items) {members : Members}
    (base : Unfinished members) : Unfinished (update members items) := by
  induction items generalizing members with
  | nil => exact base
  | cons item rest ih =>
    have first := withholds item List.mem_cons_self
    apply ih fun other listed => withholds other (List.mem_cons_of_mem _ listed)
    refine ⟨?_, ?_⟩
    · rw [get_set]
      split
      · next same => exact first.2 same.symm
      · exact base.1
    · rw [get_set, if_neg fun same => first.1 same.symm]
      exact base.2

theorem withheld_assign {record : RunRecord} {assignment : Assignment} (withholds : Withholds assignment.items)
    (base : Unfinished record.members) : Unfinished (record.assign assignment).members :=
  withheld_update withholds base

theorem withheld_assignAll {assignments : List Assignment} (withholds : ∀ assignment ∈ assignments, Withholds assignment.items)
    {record : RunRecord} (base : Unfinished record.members) : Unfinished (record.assignAll assignments).members := by
  induction assignments generalizing record with
  | nil => exact base
  | cons assignment rest ih =>
    apply ih fun other listed => withholds other (List.mem_cons_of_mem _ listed)
    exact withheld_assign (withholds assignment List.mem_cons_self) base

theorem withholds_excepted (raised : Raised) : Withholds (excepted raised).items := by
  cases raised <;> simp [Withholds, excepted, text_inj]

theorem claimRecord_unfinished (submission : Submission host) (now : Nanoseconds) (scope : Option Text) :
    Unfinished (claimRecord host submission now scope).members := by
  have base : Unfinished (baseRecord host submission now) := by
    refine ⟨?_, ?_⟩
    · simp [baseRecord, get_object_cons, text_inj]
    · simp [baseRecord, get_object_cons]
  cases scope with
  | none => exact base
  | some scope =>
    refine ⟨?_, ?_⟩
    · simp only [claimRecord, claimMembers, enrolledRecord, get_set]
      exact base.1
    · simp only [claimRecord, claimMembers, enrolledRecord, get_set]
      exact base.2

/-- Only assignments that withhold the completion. -/
abbrev Declines {α : Type} (program : Attempt α) : Prop := program.Assigns fun assignment => Withholds assignment.items

private theorem unacceptable_declines {state : String} (other : state ≠ "PROVIDER_COMPLETED") : Declines (unacceptable state) := by
  apply Attempt.assigns_assign
  simp [Withholds, text_inj, other]

private theorem malformed_declines : Declines malformed := by
  apply Attempt.assigns_assign
  simp [Withholds, text_inj]

private theorem recordCost_declines (usage : Members) : Declines (recordCost usage) := by
  unfold recordCost
  split
  · apply Attempt.Assigns.bind
    · apply Attempt.assigns_assign
      simp [Withholds]
    · intro _
      exact .nothing fun _ => rfl
  · exact .nothing fun _ => rfl

/-- Counts beyond their limits end the response before it completes. -/
private theorem complete_over {request response choice usage : Members} {output : Text} {counts : Json × Json × Json}
    (reported : get response "usage" = .obj usage) (counted : tokenCounts usage = some counts)
    (beyond : overBound request counts = true) : Declines (complete request response choice output) := by
  have recorded (start : List Assignment) : ∃ new, recordUsage request (.obj usage) start = (.ok true, start ++ new) ∧
      ∀ assignment ∈ new, Withholds assignment.items := by
    simp only [recordUsage, counted, beyond, if_true, Effect.bind_apply, Attempt.assign, unacceptable, Effect.modify_apply,
      Effect.pure_apply, List.append_assoc]
    refine ⟨_, rfl, ?_⟩
    intro assignment listed
    simp only [List.cons_append, List.nil_append, List.mem_cons, List.not_mem_nil, or_false] at listed
    rcases listed with rfl | rfl <;> simp [Withholds, text_inj]
  intro start
  obtain ⟨new, done, each⟩ := recorded start
  refine ⟨new, ?_, each⟩
  simp only [complete, reported, Effect.bind_apply, done, if_true, Effect.pure_apply]

private theorem complete_unreasoned {request response choice usage : Members} {output : Text}
    (reported : get response "usage" = .obj usage) (uncounted : tokenCounts usage = none) {raised : Raised}
    (unreasoned : finishReason (get choice "finish_reason") = .error raised) :
    Declines (complete request response choice output) := by
  unfold complete
  rw [reported]
  simp only [recordUsage, uncounted]
  apply Attempt.Assigns.bind (recordCost_declines usage)
  intro exceeded
  split
  · exact .nothing fun _ => rfl
  · rw [unreasoned]
    exact .nothing fun _ => rfl

/-- The response completes the run unless its counts are all reported. -/
private theorem observe_declines {request response usage : Members} {cancelledAfter : Except Raised Bool} {raw : Bytes}
    (reported : get response "usage" = .obj usage) (beyond : ∀ counts, tokenCounts usage = some counts → overBound request counts = true)
    (bounded : ¬ raw.length > int request "maximum_response_bytes") (uncancelled : cancelledAfter = .ok false)
    (stopped : (tokenCounts usage).isSome ∨ ¬ Completable request cancelledAfter raw response) :
    Declines (observe request response) := by
  unfold observe
  apply Attempt.Assigns.bind
  · apply Attempt.assigns_assign
    simp [Withholds]
  · intro _
    by_cases model : equal (get response "model") (get request "model_id") = true
    · rw [if_neg (by simp [model])]
      cases choices : soleChoice (get response "choices") with
      | none => exact malformed_declines
      | some choice =>
        dsimp only
        cases content : choiceContent choice with
        | str output =>
          dsimp only
          cases encoded : output.encode? with
          | none => exact .nothing fun _ => rfl
          | some bytes =>
            dsimp only
            split
            · exact unacceptable_declines (by decide)
            · next fits =>
              cases counted : tokenCounts usage with
              | some counts => exact complete_over reported counted (beyond counts counted)
              | none =>
                rw [counted] at stopped
                have blocked := stopped.resolve_left (by simp)
                cases reason : finishReason (get choice "finish_reason") with
                | error raised => exact complete_unreasoned reported counted reason
                | ok reason =>
                  exfalso
                  refine blocked ⟨bounded, uncancelled, ?_, fun other same => ?_⟩
                  · simp [acceptable, model, choices, content, encoded, fits]
                  · cases choices.symm.trans same
                    exact ⟨_, reason⟩
        | _ => exact unacceptable_declines (by decide)
    · rw [if_pos (by simp [model])]
      exact unacceptable_declines (by decide)

private theorem declines_known {α β : Type} {value : α} {next : α → Attempt β} (rest : Declines (next value)) :
    Declines (Effect.lift (.ok value) >>= next) := rest

private theorem respond_declines {request response usage : Members} {credential : Text} {cancelledAfter : Except Raised Bool}
    {raw : Bytes} (decoded : host.loads raw = .ok (.obj response)) (reported : get response "usage" = .obj usage)
    (beyond : ∀ counts, tokenCounts usage = some counts → overBound request counts = true)
    (stopped : (tokenCounts usage).isSome ∨ ¬ Completable request cancelledAfter raw response) :
    Declines (respond host request credential cancelledAfter ⟨.int 200, some raw⟩) := by
  unfold respond
  dsimp only
  by_cases large : raw.length > int request "maximum_response_bytes"
  · rw [if_pos large]
    exact unacceptable_declines (by decide)
  · rw [if_neg large]
    apply Attempt.Assigns.bind
    · apply Attempt.assigns_assign
      simp [Withholds]
    · intro _
      cases cancelledAfter with
      | error raised => exact .nothing fun _ => rfl
      | ok cancelled =>
        apply declines_known
        cases cancelled with
        | true =>
          apply Attempt.assigns_assign
          simp [Withholds, text_inj]
        | false =>
          simp only [Bool.false_eq_true, if_false, ne_eq, not_true_eq_false]
          rw [decoded]
          exact observe_declines reported beyond large rfl stopped

private theorem recordCost_continues (usage : Members) (start : List Assignment) :
    ∃ new, recordCost usage start = (.ok false, start ++ new) := by
  unfold recordCost
  cases number (get usage "cost") with
  | none => exact ⟨[], by rw [List.append_nil]; rfl⟩
  | some cost => exact ⟨_, rfl⟩

/-- The assignments of a completion, in its last step. -/
private theorem complete_completes {request response choice usage : Members} {output : Text} {reason : Json}
    (reported : get response "usage" = .obj usage) (uncounted : tokenCounts usage = none)
    (reasoned : finishReason (get choice "finish_reason") = .ok reason) (start : List Assignment) :
    ∃ earlier completion, complete request response choice output start = (.ok (), earlier ++ [completion]) ∧
      ("state", Json.str (text "PROVIDER_COMPLETED")) ∈ completion.items ∧ ∀ item ∈ completion.items, item.1 = "state" → item.2 = .str (text "PROVIDER_COMPLETED") := by
  obtain ⟨new, continued⟩ := recordCost_continues usage start
  refine ⟨start ++ new, ⟨[("state", .str (text "PROVIDER_COMPLETED")), ("contact_state", .str (text "RESPONSE_OBSERVED")),
      ("completion_state", .str (text "COMPLETED")), ("worker_output", .str output), ("finish_reason", reason)], by simp⟩, ?_,
    List.mem_cons_self, by simp⟩
  simp only [complete, reported, recordUsage, uncounted, Effect.bind_apply, continued, Bool.false_eq_true, if_false, reasoned,
    Effect.lift_ok]
  rfl

/-- The run of this response ends in the assignments of a completion. -/
def Completes (host : Host) (request : Members) (credential : Text) (cancelledAfter : Except Raised Bool) (raw : Bytes) : Prop :=
  ∃ earlier completion, respond host request credential cancelledAfter ⟨.int 200, some raw⟩ [] =
      (.ok (), earlier ++ [completion]) ∧ ("state", Json.str (text "PROVIDER_COMPLETED")) ∈ completion.items ∧
      ∀ item ∈ completion.items, item.1 = "state" → item.2 = .str (text "PROVIDER_COMPLETED")

/-- A response that can complete the run, and does not report all its counts, does complete it. -/
private theorem respond_completes {request response usage : Members} {credential : Text} {cancelledAfter : Except Raised Bool}
    {raw : Bytes} (decoded : host.loads raw = .ok (.obj response)) (reported : get response "usage" = .obj usage)
    (uncounted : tokenCounts usage = none) (completable : Completable request cancelledAfter raw response) :
    Completes host request credential cancelledAfter raw := by
  obtain ⟨bounded, rfl, accepted, finished⟩ := completable
  unfold acceptable at accepted
  obtain ⟨model, accepted⟩ := Bool.and_eq_true_iff.mp accepted
  cases choices : soleChoice (get response "choices") with
  | none =>
    rw [choices] at accepted
    cases accepted
  | some choice =>
    obtain ⟨reason, reasoned⟩ := finished choice choices
    rw [choices] at accepted
    dsimp only at accepted
    cases content : choiceContent choice with
    | str output =>
      rw [content] at accepted
      dsimp only at accepted
      cases encoded : output.encode? with
      | none =>
        rw [encoded] at accepted
        cases accepted
      | some bytes =>
        rw [encoded] at accepted
        have fits : ¬ bytes.length > int request "maximum_output_bytes" := by simpa using accepted
        have completes (start : List Assignment) : ∃ earlier completion,
            complete request response choice output start = (.ok (), earlier ++ [completion]) ∧
              ("state", Json.str (text "PROVIDER_COMPLETED")) ∈ completion.items ∧ ∀ item ∈ completion.items, item.1 = "state" → item.2 = .str (text "PROVIDER_COMPLETED") :=
          complete_completes reported uncounted reasoned start
        obtain ⟨earlier, completion, completed, listed, only⟩ := completes
          ([⟨[("http_status", .int 200)], by simp⟩] ++ [⟨[("reported_execution", reportedExecution response)], by simp⟩])
        refine ⟨earlier, completion, ?_, listed, only⟩
        rw [← completed]
        simp only [respond, bounded, if_false, Effect.bind_apply, Attempt.assign, Effect.modify_apply, Effect.lift_ok,
          Bool.false_eq_true, ne_eq, not_true_eq_false, decoded, observe, model, Bool.not_true, choices, content, encoded, fits]
        rfl
    | null | bool _ | int _ | float _ | arr _ | obj _ =>
      rw [content] at accepted
      cases accepted

/-- A reported overage is kept from completing a run exactly when all three counts
are reported as numbers, or something else keeps the response from completing it. -/
theorem token_overage {submission : Submission host} {surroundings : Surroundings} {startedAt endedAt : Nanoseconds}
    {store claimed after : Store} {record : RunRecord} {credential : Text} {raw : Bytes} {response usage : Members} {value : Json}
    (enrolled : isEnrolled submission.request = true)
    (fresh : Store.claim host submission startedAt store = (.ok (.fresh record), claimed))
    (uncancelled : surroundings.cancelledBefore = .ok false) (offered : surroundings.credential = .ok (some credential))
    (accepted : usable credential = true) (prepared : (requestBody host submission).isOk = true)
    (answer : surroundings.transport = .ok ⟨.int 200, some raw⟩) (decoded : host.loads raw = .ok (.obj response))
    (reported : get response "usage" = .obj usage) (overage : Overage submission.request usage)
    (returned : run host submission surroundings startedAt endedAt store = (.ok value, after)) :
    NotCompleted value ↔
      (tokenCounts usage).isSome ∨ ¬ Completable submission.request surroundings.cancelledAfter raw response := by
  obtain ⟨row, opened⟩ := (Store.claim_meets submission startedAt store).returns fresh
  obtain ⟨scope, rfl, ledger⟩ := opened.recorded
  obtain ⟨body, encoded⟩ : ∃ body, requestBody host submission = .ok body := by
    cases made : requestBody host submission with
    | ok body => exact ⟨body, rfl⟩
    | error failure => simp [made, Except.isOk, Except.toBool] at prepared
  obtain ⟨contacted, went⟩ := run_contacting submission surroundings startedAt endedAt fresh uncancelled offered accepted
    encoded (claimRecord_storable submission startedAt ledger)
  have started : Unfinished ((claimRecord host submission startedAt scope).assign contactStarted).members :=
    withheld_assign (by simp [Withholds, contactStarted]) (claimRecord_unfinished submission startedAt scope)
  have final : value = .obj (finalRecord host submission credential surroundings
      (claimRecord host submission startedAt scope) endedAt).members := by
    rw [went, Effect.bind_apply] at returned
    unfold finalRecord
    generalize (answered host submission.request credential surroundings
      ((claimRecord host submission startedAt scope).assign contactStarted)) = answeredRecord at returned ⊢
    cases kept : canonical host (.obj (answeredRecord.assign (ended endedAt)).members) with
    | error failure =>
      rw [finish_error _ kept] at returned
      cases returned
    | ok bytes =>
      obtain ⟨last, finished, -⟩ := finish_ok (claimed.written (claimRecord host submission startedAt scope).dispatch contacted) kept
      rw [finished] at returned
      cases returned
      rfl
  have closing : Withholds (ended endedAt).items := by simp [Withholds, ended]
  have beyond (counts : Json × Json × Json) (counted : tokenCounts usage = some counts) :
      overBound submission.request counts = true := overage.bound enrolled counted
  rw [final]
  constructor
  · rintro ⟨members, same, unfinished⟩
    obtain rfl := Json.obj.inj same
    by_contra stands
    obtain ⟨uncounted, completable⟩ := not_or.mp stands
    have completes : Completes host submission.request credential surroundings.cancelledAfter raw :=
      respond_completes decoded reported (Option.not_isSome_iff_eq_none.mp uncounted) (not_not.mp completable)
    obtain ⟨earlier, completion, done, listed, only⟩ := completes
    apply unfinished.1
    simp only [finalRecord, answered, answer, done, RunRecord.concluded, RunRecord.assignAll, List.foldl_append, List.foldl_cons,
      List.foldl_nil]
    rw [RunRecord.assign, get_update (by simp [ended])]
    exact get_update_of_mem listed only _
  · intro stopped
    refine ⟨_, rfl, ?_⟩
    have declines : Declines (respond host submission.request credential surroundings.cancelledAfter ⟨.int 200, some raw⟩) :=
      respond_declines decoded reported beyond stopped
    obtain ⟨new, grown, each⟩ := declines []
    unfold finalRecord
    apply withheld_assign closing
    simp only [answered, answer]
    cases done : respond host submission.request credential surroundings.cancelledAfter ⟨.int 200, some raw⟩ [] with
    | mk outcome assignments =>
      rw [done] at grown
      obtain rfl : assignments = new := by simpa using grown
      cases outcome with
      | ok _ => exact withheld_assignAll each started
      | error raised => exact withheld_assign (withholds_excepted raised) (withheld_assignAll each started)

/-- Only the completion tokens are reported, one above their limit. -/
def partialResponse : Members := object [
  ("model", .str (text "m1")), ("choices", .arr [.obj (object [("message", .obj (object [("content", .str (text "ok"))]))])]),
  ("usage", .obj (object [("completion_tokens", .int 101)]))]

def partialAnswer : Bytes := ascii ("\x7b\"model\":\"m1\",\"choices\":[\x7b\"message\":\x7b\"content\":\"ok\"\x7d\x7d]," ++
  "\"usage\":\x7b\"completion_tokens\":101\x7d\x7d")

/-- All counts are reported, and the completion tokens are one above their limit. -/
def overResponse : Members := object [
  ("model", .str (text "m1")), ("choices", .arr [.obj (object [("message", .obj (object [("content", .str (text "ok"))]))])]),
  ("usage", .obj (object [("prompt_tokens", .int 3), ("completion_tokens", .int 101), ("total_tokens", .int 104)]))]

def overAnswer : Bytes := ascii ("\x7b\"model\":\"m1\",\"choices\":[\x7b\"message\":\x7b\"content\":\"ok\"\x7d\x7d]," ++
  "\"usage\":\x7b\"prompt_tokens\":3,\"completion_tokens\":101,\"total_tokens\":104\x7d\x7d")

/-- The sample host, which now also decodes these two answers. -/
def overageHost : Host := { sampleHost with
  loads := fun raw =>
    if raw = partialAnswer then .ok (.obj partialResponse)
    else if raw = overAnswer then .ok (.obj overResponse)
    else sampleHost.loads raw }

def overageSubmission : Submission overageHost where
  request := sampleRequest
  admittedInput := ascii "hi"
  ownerBinding := sampleBinding
  requestKeys := sampleSubmission.requestKeys
  bindingKeys := sampleSubmission.bindingKeys
  accepted := sampleSubmission.accepted

def overageRun (raw : Bytes) : Except Failure Json × Store :=
  run overageHost overageSubmission (sampleSurroundings raw) 0 0 Store.empty

private theorem overage_fresh : Store.claim overageHost overageSubmission 0 Store.empty =
    (.ok (.fresh (claimRecord overageHost overageSubmission 0 (some sampleScope))), sampleStore) := by
  decide +kernel

theorem token_overage_sample : ∃ value after, overageRun overAnswer = (.ok value, after) ∧ NotCompleted value := by
  have succeeds : (overageRun overAnswer).1.isOk = true := by decide +kernel
  cases result : overageRun overAnswer with
  | mk outcome after =>
    cases outcome with
    | error failure =>
      rw [result] at succeeds
      cases succeeds
    | ok value =>
      refine ⟨value, after, rfl, ?_⟩
      have overage : Overage overageSubmission.request
          (object [("prompt_tokens", .int 3), ("completion_tokens", .int 101), ("total_tokens", .int 104)]) :=
        ⟨("completion_tokens", "maximum_completion_tokens"), by simp [TOKEN_LIMITS], .int 101, by decide, by decide⟩
      have distinct : overAnswer ≠ partialAnswer := by decide
      have decoded : overageHost.loads overAnswer = .ok (.obj overResponse) := by simp [overageHost, distinct]
      have prepared : (requestBody overageHost overageSubmission).isOk = true := by decide +kernel
      have reported : get overResponse "usage" =
          .obj (object [("prompt_tokens", .int 3), ("completion_tokens", .int 101), ("total_tokens", .int 104)]) := by decide
      exact (token_overage (by decide) overage_fresh rfl rfl (by decide) prepared rfl decoded reported
        overage result).mpr (.inl (by decide))

/-- An overage of one reported count completes the run when another count is missing. -/
theorem token_overage_partial : ∃ members after, overageRun partialAnswer = (.ok (.obj members), after) ∧
    Overage overageSubmission.request (object [("completion_tokens", .int 101)]) ∧
    get partialResponse "usage" = .obj (object [("completion_tokens", .int 101)]) ∧
    get members "state" = .str (text "PROVIDER_COMPLETED") ∧ get members "worker_output" = .str (text "ok") := by
  have completes : ((overageRun partialAnswer).1.toOption.bind Json.members?).map
      (fun members => (get members "state", get members "worker_output")) =
        some (.str (text "PROVIDER_COMPLETED"), .str (text "ok")) := by decide +kernel
  cases result : overageRun partialAnswer with
  | mk outcome after =>
    rw [result] at completes
    cases outcome with
    | error failure => cases completes
    | ok value =>
      cases value with
      | obj members =>
        refine ⟨members, after, rfl, ?_, by decide, ?_⟩
        · exact ⟨("completion_tokens", "maximum_completion_tokens"), by simp [TOKEN_LIMITS], .int 101, by decide,
            by decide⟩
        · simpa [Except.toOption, Json.members?] using completes
      | _ => cases completes

end Switchyard.DirectApi
