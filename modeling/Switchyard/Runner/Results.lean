import Switchyard.Runner.Settlement

/-! What the record of a returned run says: whose usage and output it carries, and what
it carries of a dispatch that was refused or completed. -/

namespace Switchyard.Runner
open Library Json AppServer Admission Effect

section
variable {host : Host} {launch : Launch} {client : Client} {occurrence : Occurrence} {store claimed : RunStore} {record : Members}
  {final : Members} {after : Running host}

theorem claimed_early (inputs : Inputs) : Early (Running.claimed host claimed (claimRecord inputs occurrence)) := by
  refine ⟨rfl, rfl, rfl, rfl, ⟨?_, ?_⟩, ?_⟩
  · simp [Running.claimed, claimRecord, get_object_cons, literal]
  · simp [Running.claimed, claimRecord, get_object_cons, literal, Admission.inner, Json.members?, text_inj]
  · simp [Running.claimed, Running.projection, claimRecord, get_object_cons, Projection.initial]

/-- A run that was freshly claimed and has returned. -/
structure Returned (launch : Launch) (client : Client) (occurrence : Occurrence) (store : RunStore) (final : Members)
    (after : Running host) : Prop where
  fresh : ∃ record claimed, RunStore.claim host launch.inputs occurrence store = (.ok (record, true), claimed) ∧
    run launch client (Running.claimed host claimed record) = (.ok final, after)

theorem Returned.ended (returned : Returned launch client occurrence store final after) :
    final = after.record ∧ Ended launch after := by
  obtain ⟨record, claimed, fresh, ran⟩ := returned.fresh
  have claims := @RunStore.claim_meets host launch.inputs occurrence store
  rcases claims.returns fresh with ⟨same, -⟩ | ⟨taken, -⟩
  · obtain rfl : record = claimRecord launch.inputs occurrence := congrArg Prod.fst same
    exact (run_meets (claimed_early launch.inputs)).returns ran
  · cases taken

/-- Usage and output of another turn void the run; otherwise its usage is the last that was reported, of its own turn. -/
theorem turn_attribution (returned : Returned launch client occurrence store final after) :
    ((∃ message ∈ after.heard, stray (get final "thread_id") (get final "turn_id") message = true) →
      get final "usage" = .null ∧ get final "usage_turn_id" = .null ∧ get final "worker_output" = .null ∧
        get final "state" = literal "OUTCOME_UNKNOWN") ∧
    ((∀ message ∈ after.heard, stray (get final "thread_id") (get final "turn_id") message = false) → get final "usage" ≠ .null →
      (after.heard.filterMap (usage? (get final "thread_id"))).getLast? = some (get final "usage") ∧
        get final "usage_turn_id" = get final "turn_id") := by
  obtain ⟨rfl, ended⟩ := returned.ended
  cases ended with
  | unbound unbound heard projection unobserved =>
    have usage : get after.record "usage" = .null := congrArg Projection.usage projection
    exact ⟨by simp [heard], fun _ present => absurd usage present⟩
  | @bound settings base mapper cut settled =>
    obtain ⟨threadId, turnId⟩ := settled.named
    rw [threadId, turnId]
    have attributes := settled.attributes
    refine ⟨fun astray => ?_, fun faithful present => ?_⟩
    · have failed := attributes.failed.mpr astray
      obtain ⟨usage, usageTurn, output⟩ := attributes.nulled failed
      have unclean : cut.clean = false := by
        cases clean : cut.clean with
        | false => rfl
        | true =>
          have attributed := (settled.projected clean).attributed
          rw [failed] at attributed
          cases attributed
      exact ⟨usage, usageTurn, output, settled.classified.unclean unclean⟩
    · have attributed : after.projection.attributionFailed = false := by
        cases failed : after.projection.attributionFailed with
        | false => rfl
        | true =>
          obtain ⟨message, listed, astray⟩ := attributes.failed.mp failed
          rw [faithful message listed] at astray
          cases astray
      refine ⟨?_, attributes.turn attributed present⟩
      have usage : get after.record "usage" = latest (usage? (get base "thread_id")) after.heard := attributes.usage attributed
      rw [usage] at present ⊢
      unfold latest at present ⊢
      cases reported : (after.heard.filterMap (usage? (get base "thread_id"))).getLast? with
      | none => simp [reported] at present
      | some usage => rfl

/-! A dispatch that was not admitted. -/

/-- The records that a snapshot holds. -/
def retainedRecords (snapshot : Members) : List Json :=
  match get snapshot "records" with
  | .arr records => records
  | _ => []

/-- The record carries nothing of a provider. -/
structure Unprovided (final : Members) : Prop where
  snapshot : ∃ snapshot, get final "provider_admission" = .obj snapshot ∧ get snapshot "provider_execution_identity" = .null ∧
    ∀ record ∈ retainedRecords snapshot, get (record.members?.getD []) "kind" ≠ literal "PROVIDER_EXECUTION_STEP"
  unobserved : Admission.inner final "observed_execution" "state" ≠ literal "OBSERVED_PROVIDER_BOUNDARY"
  output : get final "worker_output" = .null
  usage : get final "usage" = .null

/-- Nothing that was handed over reports a text of the thread, nor, last of all, a usage. -/
structure Silent (threadId : Json) (handed : List AcquisitionEnvelope) : Prop where
  output : ∀ message ∈ handed.filterMap (·.message), output? threadId message = none
  usage : latest (usage? threadId) (handed.filterMap (·.message)) = .null

theorem latest_output {threadId : Json} {heard : List ServerMessage} :
    latest (fun message => (output? threadId message).map Json.str) heard = .null ↔ ∀ message ∈ heard, output? threadId message = none := by
  unfold latest
  constructor
  · intro silent message listed
    cases found : (heard.filterMap fun message => (output? threadId message).map Json.str).getLast? with
    | none =>
      have none := List.filterMap_eq_nil_iff.mp (List.getLast?_eq_none_iff.mp found) message listed
      simpa using none
    | some value =>
      rw [found] at silent
      obtain ⟨message, -, reported⟩ := List.mem_filterMap.mp (List.mem_of_getLast? found)
      obtain ⟨content, -, rfl⟩ := Option.map_eq_some_iff.mp reported
      cases silent
  · intro silent
    have empty : heard.filterMap (fun message => (output? threadId message).map Json.str) = [] :=
      List.filterMap_eq_nil_iff.mpr fun message listed => by simp [silent message listed]
    simp [empty]

/-- The mapper of a refused dispatch has no execution, and has recorded no step of one. -/
theorem parked_unexecuted {settings : Settings host} {mapper : Mapper} {calls : List Admission.Call}
    (reached : Run (Admission.Performs settings) Mapper.initial calls mapper) (parked : mapper.mechanismState = .parkedNotAdmitted) :
    mapper.providerExecutionIdentity = none ∧ ∀ record ∈ mapper.records, record.normalized.kind ≠ "PROVIDER_EXECUTION_STEP" := by
  have disposed := disposed_run reached
  constructor
  · cases identity : mapper.providerExecutionIdentity with
    | none => rfl
    | some execution =>
      have admitted := disposed.admitted.mp (by simp [identity])
      rw [disposed.parked.mp parked] at admitted
      cases admitted
  · intro record listed step
    obtain ⟨request, startedAtMs, observedAtMs, word⟩ := parked_word (worded_run reached) (parked_run reached parked)
    cases shape : record.normalized with
    | executionStep execution identity first observed =>
      have boundary : .stepped identity.request identity.responseId observed ∈ boundaries mapper.records :=
        List.mem_filterMap.mpr ⟨record, listed, by rw [shape]; rfl⟩
      rw [word] at boundary
      simp at boundary
    | _ => simp [shape, Normalized.kind] at step

theorem snapshot_ok {settings : Settings host} {mapper : Mapper} {retained : Members}
    (taken : snapshot settings mapper = .ok retained) : ∃ digest, retained = snapshotMembers settings mapper digest := by
  unfold snapshot at taken
  obtain ⟨digest, -, same⟩ := bind_ok.mp taken
  exact ⟨digest, (Except.ok.inj same).symm⟩

theorem retainedRecords_snapshot (settings : Settings host) (mapper : Mapper) (digest : Text) :
    retainedRecords (snapshotMembers settings mapper digest) =
      mapper.records.map fun record => .obj (record.toMembers settings.binding) := by
  simp [retainedRecords, snapshotMembers, get_object_cons]

theorem get_kind (binding : Binding host) (record : Record) :
    get (record.toMembers binding) "kind" = literal record.normalized.kind := by
  simp [Record.toMembers, baseFields, get_object_cons]

private theorem terminal_ok {status : Json} {state : String} (terminated : terminal status = .ok state) :
    state ≠ "NOT_ADMITTED_MODEL_AT_CAPACITY" ∧ (state = "PROVIDER_COMPLETED" → status = literal "completed") := by
  unfold terminal at terminated
  split at terminated
  · split at terminated
    · next completed =>
      cases terminated
      exact ⟨by decide, fun _ => is_iff.mp completed⟩
    · split at terminated
      · cases terminated
        exact ⟨by decide, by simp⟩
      · split at terminated
        · cases terminated
          exact ⟨by decide, by simp⟩
        · cases terminated
          exact ⟨by decide, by simp⟩
  · cases terminated

/-- Only a clean cut leaves a run with a state that says how it ended. -/
theorem Settled.clean {settings : Settings host} {base : Members} {mapper : Mapper} {cut : Cut}
    (settled : Settled launch settings base mapper cut after) (known : get after.record "state" ≠ literal "OUTCOME_UNKNOWN") :
    cut.clean = true := by
  cases clean : cut.clean with
  | true => rfl
  | false => exact absurd (settled.classified.unclean clean) known

/-- A run that returns as refused has a clean cut of a parked mapper. -/
theorem Settled.refused {settings : Settings host} {base : Members} {mapper : Mapper} {cut : Cut}
    (settled : Settled launch settings base mapper cut after)
    (refused : get after.record "state" = literal "NOT_ADMITTED_MODEL_AT_CAPACITY") :
    cut.clean = true ∧ mapper.mechanismState = .parkedNotAdmitted := by
  have clean : cut.clean = true := settled.clean (by simp [refused, literal, text_inj])
  refine ⟨clean, (settled.closed clean).resolve_left fun completed => ?_⟩
  obtain ⟨state, terminated, stated⟩ := settled.classified.completed clean completed
  rw [refused] at stated
  simp only [literal, Json.str.injEq, text_inj] at stated
  exact (terminal_ok terminated).1 stated.symm

/-- A run that returns as completed has a clean cut of a completed mapper, and a completed turn. -/
theorem Settled.completed {settings : Settings host} {base : Members} {mapper : Mapper} {cut : Cut}
    (settled : Settled launch settings base mapper cut after)
    (completed : get after.record "state" = literal "PROVIDER_COMPLETED") :
    cut.clean = true ∧ mapper.mechanismState = .providerCompleted ∧ get after.record "turn_status" = literal "completed" := by
  have clean : cut.clean = true := settled.clean (by simp [completed, literal, text_inj])
  rcases settled.closed clean with finished | parked
  · obtain ⟨state, terminated, stated⟩ := settled.classified.completed clean finished
    rw [completed] at stated
    simp only [literal, Json.str.injEq, text_inj] at stated
    exact ⟨clean, finished, (terminal_ok terminated).2 stated.symm⟩
  · have stated := settled.classified.parked clean parked
    rw [completed] at stated
    simp [literal, text_inj] at stated

/-- What a run that returns as refused carries of a provider is exactly what its stream still reported. -/
theorem refused_results (returned : Returned launch client occurrence store final after)
    (refused : get final "state" = literal "NOT_ADMITTED_MODEL_AT_CAPACITY") :
    Unprovided final ↔ Silent (get final "thread_id") after.delivered := by
  obtain ⟨rfl, ended⟩ := returned.ended
  cases ended with
  | unbound _ _ _ unobserved =>
    rw [unobserved.state] at refused
    simp [literal, text_inj] at refused
  | @bound settings base mapper cut settled =>
    obtain ⟨clean, parked⟩ := settled.refused refused
    obtain ⟨calls, reached⟩ := settled.reached
    obtain ⟨unexecuted, unstepped⟩ := parked_unexecuted reached parked
    have projected := settled.projected clean
    have attributes := settled.attributes
    have usage : get after.record "usage" = latest (usage? (get base "thread_id")) (after.delivered.filterMap (·.message)) := by
      rw [← settled.heard clean]
      exact attributes.usage projected.attributed
    have output : get after.record "worker_output" =
        latest (fun message => (output? (get base "thread_id") message).map Json.str) (after.delivered.filterMap (·.message)) := by
      rw [← settled.heard clean]
      exact projected.output
    rw [settled.named.1]
    constructor
    · intro unprovided
      exact ⟨latest_output.mp (output ▸ unprovided.output), usage ▸ unprovided.usage⟩
    · intro silent
      obtain ⟨retained, taken, stored⟩ := settled.retained
      obtain ⟨digest, rfl⟩ := snapshot_ok taken
      refine ⟨⟨_, stored, ?_, ?_⟩, ?_, output.trans (latest_output.mpr silent.output), usage.trans silent.usage⟩
      · simp [snapshotMembers, get_object_cons, unexecuted, optionalIdentity]
      · intro record listed
        rw [retainedRecords_snapshot] at listed
        obtain ⟨held, inside, rfl⟩ := List.mem_map.mp listed
        show get (held.toMembers settings.binding) "kind" ≠ _
        rw [get_kind]
        intro same
        exact unstepped held inside (by simpa [literal, text_inj] using same)
      · have observed := settled.classified.unobserved (by simp [parked]) (by simp [parked])
        unfold Admission.inner
        rw [observed]
        exact settled.opened.unobserved.observed

/-! A dispatch that has completed. -/

/-- The retained snapshot is that of a mapper which found the turn completed and was cut cleanly. -/
structure CompletedSnapshot (settings : Settings host) (mapper : Mapper) (cut : Cut) (final : Members) : Prop where
  reached : ∃ calls, Run (Admission.Performs settings) Mapper.initial calls mapper
  retained : ∃ digest, get final "provider_admission" = .obj (snapshotMembers settings mapper digest)
  taken : mapper.acquisitionCut = some cut
  clean : cut.clean = true
  completed : mapper.mechanismState = .providerCompleted
  quiet : ∀ record ∈ mapper.records, record.normalized.halts = false
  last : ∃ record, lastNotification mapper.records = some record ∧ CompletesTurn settings record

/-- The mapper was bound to the request, the backend and what the record names. -/
structure OwnBinding (launch : Launch) (settings : Settings host) (final : Members) : Prop where
  workAttempt : get launch.inputs.request "work_attempt_id" = .str (settings.binding.text "work_attempt_id")
  dispatch : get launch.inputs.request "dispatch_occurrence_id" = .str (settings.binding.text "dispatch_occurrence_id")
  provider : get launch.inputs.backend "provider" = .str (settings.binding.text "provider")
  model : get launch.inputs.backend "model" = .str (settings.binding.text "model")
  thread : get final "thread_id" = .str (settings.binding.text "thread_id")
  turn : get final "turn_id" = .str (settings.binding.text "turn_id")

/-- What the record says of the worker is what the messages of the stream say, all of them of its own turn. -/
structure StreamReported (threadId turnId limit : Json) (final : Members) (heard : List ServerMessage) : Prop where
  status : latest (status? threadId turnId) heard = literal "completed"
  attributed : ∀ message ∈ heard, stray threadId turnId message = false
  output : get final "worker_output" = latest (fun message => (output? threadId message).map Json.str) heard
  bounded : heard.filterMap (output? threadId) ≠ [] → exceeds (totalBytes (heard.filterMap (output? threadId))) limit = .ok false

/-- Whatever its client does, a run that returns as completed has a clean cut of a mapper bound to its own dispatch,
and carries the output that all of its stream reports, within the bound of the request. -/
theorem completed_results (returned : Returned launch client occurrence store final after)
    (completed : get final "state" = literal "PROVIDER_COMPLETED") :
    (∃ (settings : Settings host) (mapper : Mapper) (cut : Cut), OwnBinding launch settings final ∧
        CompletedSnapshot settings mapper cut final) ∧
      StreamReported (get final "thread_id") (get final "turn_id") (get launch.inputs.request "maximum_output_bytes") final
        (after.delivered.filterMap (·.message)) := by
  obtain ⟨rfl, ended⟩ := returned.ended
  cases ended with
  | unbound _ _ _ unobserved =>
    rw [unobserved.state] at completed
    simp [literal, text_inj] at completed
  | @bound settings base mapper cut settled =>
    obtain ⟨clean, finished, status⟩ := settled.completed completed
    obtain ⟨calls, reached⟩ := settled.reached
    obtain ⟨retained, taken, stored⟩ := settled.retained
    obtain ⟨digest, rfl⟩ := snapshot_ok taken
    obtain ⟨threadId, turnId⟩ := settled.named
    have projected := settled.projected clean
    have bound {field : String} {value : Json} := @Opened.bound host launch settings base settled.opened field value
    have quiet : ∀ record ∈ mapper.records, record.normalized.halts = false := by
      intro record listed
      cases halts : record.normalized.halts with
      | true =>
        have halted := (worded_run reached).quiet.halted record listed halts
        simp [Halted, finished] at halted
      | false => rfl
    refine ⟨⟨settings, mapper, cut, ?_, ⟨⟨calls, reached⟩, ⟨digest, stored⟩, settled.taken, clean, finished, quiet,
      (ended_run settled.opened.ordered reached finished).last⟩⟩, ?_⟩
    · exact {
        workAttempt := bound (by simp [bindingMembers, get_object_cons]) (by decide)
        dispatch := bound (by simp [bindingMembers, get_object_cons]) (by decide)
        provider := bound (by simp [bindingMembers, get_object_cons]) (by decide)
        model := bound (by simp [bindingMembers, get_object_cons]) (by decide)
        thread := threadId.trans (bound (by simp [bindingMembers, get_object_cons]) (by decide))
        turn := turnId.trans settled.turn }
    · rw [threadId, turnId, ← settled.heard clean]
      refine ⟨projected.status.symm.trans status, fun message listed => ?_, projected.output, fun spoken => ?_⟩
      · cases astray : stray (get base "thread_id") (get base "turn_id") message with
        | false => rfl
        | true =>
          have failed := settled.attributes.failed.mpr ⟨message, listed, astray⟩
          rw [projected.attributed] at failed
          cases failed
      · exact projected.bytes ▸ projected.bounded spoken

end

/-- The record and the end of a run that claims its dispatch freshly and returns. -/
def returns (host : Host) (launch : Launch) (client : Client) (occurrence : Occurrence) (store : RunStore) :
    Option (Members × Running host) :=
  match RunStore.claim host launch.inputs occurrence store with
  | (.ok (record, true), claimed) =>
    match run launch client (Running.claimed host claimed record) with
    | (.ok final, after) => some (final, after)
    | _ => none
  | _ => none

theorem returns_returned {host : Host} {launch : Launch} {client : Client} {occurrence : Occurrence} {store : RunStore}
    {final : Members} {after : Running host} (found : returns host launch client occurrence store = some (final, after)) :
    Returned launch client occurrence store final after := by
  unfold returns at found
  split at found
  next record claimed fresh =>
    split at found
    next final after ran =>
      cases found
      exact ⟨_, _, fresh, ran⟩
    next => cases found
  next => cases found

/-! One dispatch that is refused while its turn still speaks, and one that completes. -/

/-- The parameters of a provider boundary. -/
def sampleParams (rest : List (String × Json)) : Json := .obj (object ([("threadId", literal "th"), ("turnId", literal "tu"),
  ("requestOccurrenceId", literal "r0"), ("samplingOrdinal", .int 0), ("requestOrder", .int 0), ("provider", literal "pr"),
  ("model", literal "m")] ++ rest))

/-- The line of a notification whose parameters have this spelling. -/
def sampleLine (method params : String) : Bytes :=
  ascii ("\x7b\"method\":\"" ++ method ++ "\",\"params\":\x7b\"threadId\":\"th\"," ++ params ++ "\x7d\x7d\n")

def sampleBoundary (rest : String) : String := "\"turnId\":\"tu\",\"requestOccurrenceId\":\"r0\",\"samplingOrdinal\":0," ++
  "\"requestOrder\":0,\"provider\":\"pr\",\"model\":\"m\"," ++ rest

def sampleStart : ServerMessage where
  raw := object [("method", literal "providerRequest/started"), ("params", sampleParams [("startedAtMs", .int 1)])]
  rawBytes := sampleLine "providerRequest/started" (sampleBoundary "\"startedAtMs\":1")

def sampleRefusal : ServerMessage where
  raw := object [("method", literal "providerAdmission/refused"), ("params", sampleParams [
    ("responseCreated", .bool false), ("willRetry", .bool false), ("refusalKind", literal "modelAtCapacity"),
    ("codexErrorInfo", literal "serverOverloaded"), ("retryAfterMs", .null), ("diagnostic", literal ""), ("observedAtMs", .int 2)])]
  rawBytes := sampleLine "providerAdmission/refused" (sampleBoundary ("\"responseCreated\":false,\"willRetry\":false," ++
    "\"refusalKind\":\"modelAtCapacity\",\"codexErrorInfo\":\"serverOverloaded\",\"retryAfterMs\":null,\"diagnostic\":\"\"," ++
    "\"observedAtMs\":2"))

def sampleSpoken : ServerMessage where
  raw := object [("method", literal "item/completed"), ("params", .obj (object [("threadId", literal "th"),
    ("turnId", literal "tu"), ("item", .obj (object [("type", literal "agentMessage"), ("text", literal "a")]))]))]
  rawBytes := sampleLine "item/completed" "\"turnId\":\"tu\",\"item\":\x7b\"type\":\"agentMessage\",\"text\":\"a\"\x7d"

def sampleResponse : ServerMessage where
  raw := object [("method", literal "rawResponse/started"), ("params", sampleParams [
    ("responseId", literal "p0"), ("observedAtMs", .int 2)])]
  rawBytes := sampleLine "rawResponse/started" (sampleBoundary "\"responseId\":\"p0\",\"observedAtMs\":2")

def sampleResponseEnd : ServerMessage where
  raw := object [("method", literal "rawResponse/completed"), ("params", .obj (object [("threadId", literal "th"),
    ("turnId", literal "tu"), ("responseId", literal "p0"), ("usage", .null)]))]
  rawBytes := sampleLine "rawResponse/completed" "\"turnId\":\"tu\",\"responseId\":\"p0\",\"usage\":null"

def sampleUsed : Json := .obj (object [("total", .obj (object [("inputTokens", .int 10), ("outputTokens", .int 3)]))])

def sampleUsage : ServerMessage where
  raw := object [("method", literal "thread/tokenUsage/updated"), ("params", .obj (object [("threadId", literal "th"),
    ("turnId", literal "tu"), ("tokenUsage", sampleUsed)]))]
  rawBytes := sampleLine "thread/tokenUsage/updated"
    "\"turnId\":\"tu\",\"tokenUsage\":\x7b\"total\":\x7b\"inputTokens\":10,\"outputTokens\":3\x7d\x7d"

/-- An agent message of another turn of the thread. -/
def sampleAstray : ServerMessage where
  raw := object [("method", literal "item/completed"), ("params", .obj (object [("threadId", literal "th"),
    ("turnId", literal "other"), ("item", .obj (object [("type", literal "agentMessage"), ("text", literal "a")]))]))]
  rawBytes := sampleLine "item/completed"
    "\"turnId\":\"other\",\"item\":\x7b\"type\":\"agentMessage\",\"text\":\"a\"\x7d"

def sampleTurnEnd : ServerMessage where
  raw := object [("method", literal "turn/completed"), ("params", .obj (object [("threadId", literal "th"),
    ("turn", .obj (object [("id", literal "tu"), ("status", literal "completed")]))]))]
  rawBytes := sampleLine "turn/completed" "\"turn\":\x7b\"id\":\"tu\",\"status\":\"completed\"\x7d"

/-- The digests, by the length of what is digested, of the frames, the brief and the snapshots on which runs agree. -/
def frameDigests : List (Nat × Nat) := [
  (95, 0x68001ac749a1c904c4bebd2c2cf864dcb45a3859f9d9708e8d6500285b9b91a6),
  (107, 0x5921fb2f29a186545e8bc27edefd6d11f2e80367b8468e48f553c695eb715fed),
  (111, 0x0f260bdfbd8b6470d1166125c9a3a0b82dd01c3c4ae9cec1fb49fa437aa3fad3),
  (114, 0xeaabf847b265b2359f92a18d4419d795af9c8fe479e7626d79b980cb9906366b),
  (139, 0xd4ded48906e0793d878b93e68b7fefbcd0c904abbf7a37d0262e69d1e68cabcd),
  (186, 0x3bead050bd28f40ec46921c5992547fa747106b17f6402470fb236cb1dbe8f86),
  (201, 0x2d4307128bc3c32704c38cf140c659eead02f1a5070c25ceec7cd30afda7d790),
  (335, 0xf9ce158f5c5d267764f4db84d2553ed744ec4850c587818e7980d87593b72432),
  (578, 0x243430c3582d6d8fcc9ec0630bb49c83a5755ecf4a4f201bf8948b23b7db8d7c),
  (1008, 0x599c5d74cde46e667b5241a037e0a997ead3fc28bf3be1c17251ba2e49f67b90),
  (1237, 0x50d2b5b82b50687837c734525e3c3398ab3778102c48c1a84e761abf9b3e9809),
  (1528, 0x698a98594bf802f136dcc45af8e50977ccb31fc80c80610293c0dda5d949b3a7)]

/-- A host that knows the frames of these dispatches, their digests and those of one run. -/
def frameHost (digests : List (Nat × Nat)) : Host where
  sha256 := digestTable (frameDigests ++ digests)
  loads _ := .error (.malformed (className "JSONDecodeError") (text "Expecting value: line 1 column 1 (char 0)"))
  loadsUnique raw := match raw.length with
    | 186 => .ok (.obj sampleStart.raw)
    | 335 => .ok (.obj sampleRefusal.raw)
    | 111 => .ok (.obj sampleSpoken.raw)
    | 201 => .ok (.obj sampleResponse.raw)
    | 107 => .ok (.obj sampleResponseEnd.raw)
    | 139 => .ok (.obj sampleUsage.raw)
    | 114 => .ok (.obj sampleAstray.raw)
    | 95 => .ok (.obj sampleTurnEnd.raw)
    | _ => .error (.malformed (className "JSONDecodeError") (text "Expecting value: line 1 column 1 (char 0)"))
  loadsUniqueText _ := .error (.malformed (className "JSONDecodeError") (text "Expecting value: line 1 column 1 (char 0)"))
  floatText _ := ascii "0.5"
  copies _ := true

def sampleEnvelope (ordinal : Int) (message : ServerMessage) : AcquisitionEnvelope :=
  ⟨.int ordinal, literal "NOTIFICATION", some message, .null, none, .null⟩

def sampleCut (highWater : Int) : AcquisitionCut := ⟨.bool true, .int 0, literal "EXITED", .int highWater, literal "p", literal "s"⟩

def sampleLaunch : Launch where
  inputs := {
    request := object [("dispatch_occurrence_id", literal "d"), ("work_attempt_id", literal "w"), ("maximum_output_bytes", .int 16)]
    brief := ascii "b"
    backend := object [("model", literal "m"), ("provider", literal "pr"), ("codex_source_head", literal FINAL_CODEX_SOURCE_HEAD),
      ("executable", literal "x"),
      ("executable_sha256", literal "sha256:0000000000000000000000000000000000000000000000000000000000000000")]
    dispatchRecord := object [("adapter_process_occurrence_id", literal "p"), ("app_server_session_identity", literal "s")]
    dispatch := text "d"
    named := by simp [get_object_cons, literal] }
  workspace := text "/w"
  captureContract := .legacy

/-- A client whose turn starts, whose first drain hands over these frames, and whose cut is clean. -/
def sampleClient (frames tail : List AcquisitionEnvelope) (highWater : Int) : Client where
  start := .ok ()
  threadStart := .ok (object [("model", literal "m"), ("modelProvider", literal "pr"), ("cwd", literal "/w"),
    ("runtimeWorkspaceRoots", .arr []), ("instructionSources", .arr []),
    ("activePermissionProfile", .obj (object [("id", literal "provider-bounded-read"), ("extends", .null)])),
    ("thread", .obj (object [("id", literal "th")]))])
  turnStart := .ok (object [("turn", .obj (object [("id", literal "tu")]))])
  polls := [frames]
  tail := tail
  cut := sampleCut highWater
  ended := 0

/-- Refused at capacity, with an agent message left for the last drain. -/
def refusedClient : Client := sampleClient [sampleEnvelope 0 sampleStart, sampleEnvelope 1 sampleRefusal] [sampleEnvelope 2 sampleSpoken] 3

def refusedDigests : List (Nat × Nat) := [
  (781, 0xdf35fdad86e17608fab924025dbcdad542984f787509655f83bfee1b0f7c43e8),
  (989, 0x0643896fb5cf418d758bfbaab167a67ff314831e32c5dd1914f8ca9038f37026),
  (1696, 0xefded15c3eadf03b897da2ce5c87f93c15e52f23d1775766fbd93a6e639dbac7),
  (3917, 0x4df5f17a68d27f3e9478be3cc14ebfab332390fc3f02b00e2fef392bc9454779),
  (4944, 0x26292d225bf0df8e68961382c8e2c488fa49c9de7b1a8c758b86dd136a51137a),
  (6004, 0x49797b269a44988aebca620fccd56af8d5d1c6688ea7afea1949765054d02391)]

/-- The refused dispatch returns with the text of the agent message. -/
private theorem refused_returns : ∃ final after, @Returned (frameHost refusedDigests) sampleLaunch refusedClient ⟨1, 0⟩ ⟨[]⟩
    final after ∧ get final "state" = literal "NOT_ADMITTED_MODEL_AT_CAPACITY" ∧ get final "worker_output" = literal "a" := by
  have fine : (returns (frameHost refusedDigests) sampleLaunch refusedClient ⟨1, 0⟩ ⟨[]⟩).any (fun ended =>
      decide (get ended.1 "state" = literal "NOT_ADMITTED_MODEL_AT_CAPACITY") &&
        decide (get ended.1 "worker_output" = literal "a")) = true := by decide +kernel
  obtain ⟨⟨final, after⟩, found, holds⟩ := Option.any_eq_true _ _ |>.mp fine
  simp only [Bool.and_eq_true, decide_eq_true_eq] at holds
  exact ⟨final, after, returns_returned found, holds⟩

theorem refused_results_sample : ∃ final after, @Returned (frameHost refusedDigests) sampleLaunch refusedClient ⟨1, 0⟩ ⟨[]⟩
    final after ∧ (Unprovided final ↔ Silent (get final "thread_id") after.delivered) := by
  obtain ⟨final, after, returned, refused, -⟩ := refused_returns
  exact ⟨final, after, returned, refused_results returned refused⟩

/-- A dispatch that was not admitted is reported with the output of a worker. -/
theorem refused_results_spoken : ∃ final after, @Returned (frameHost refusedDigests) sampleLaunch refusedClient ⟨1, 0⟩ ⟨[]⟩
    final after ∧ get final "state" = literal "NOT_ADMITTED_MODEL_AT_CAPACITY" ∧ ¬ Unprovided final := by
  obtain ⟨final, after, returned, refused, spoken⟩ := refused_returns
  refine ⟨final, after, returned, refused, fun unprovided => ?_⟩
  rw [unprovided.output] at spoken
  cases spoken

/-- Completed, with the usage of its turn and one agent message. -/
def completedClient : Client := sampleClient [sampleEnvelope 0 sampleStart, sampleEnvelope 1 sampleResponse,
  sampleEnvelope 2 sampleResponseEnd, sampleEnvelope 3 sampleUsage, sampleEnvelope 4 sampleSpoken,
  sampleEnvelope 5 sampleTurnEnd] [] 6

def completedDigests : List (Nat × Nat) := [
  (781, 0x478cb84b585942b97a6d80ec72d76bb02813ea478a935e89733ef1d9256947b9),
  (950, 0x6dca0faca158ed012fcabcc1af649e6bd432bc4fd73e4a41e507db80d748953e),
  (989, 0x833c558a64506f086e46d5b788a1692137cdcc744e8a21e0902b8190fcd4bb17),
  (1056, 0x6a2c8d53e71206162c1342346189e034f1bf3bef67cea998facf392d148b8de4),
  (8007, 0xdc093381bf68bef2c53dbb4988ae4d54febadabdb7408dc44d4e47e6bcb4a814),
  (9067, 0x933ce0d2ebaa8a0ff8f72dab5e1f3aa16ec2abc7c22e0ef620572c06c5ed4e8b)]

/-- The completed dispatch returns with the usage it heard, and heard nothing of another turn. -/
private theorem completed_returns : ∃ final after, @Returned (frameHost completedDigests) sampleLaunch completedClient ⟨1, 0⟩ ⟨[]⟩
    final after ∧ get final "state" = literal "PROVIDER_COMPLETED" ∧ get final "usage" = sampleUsed ∧
      ∀ message ∈ after.heard, stray (get final "thread_id") (get final "turn_id") message = false := by
  have fine : (returns (frameHost completedDigests) sampleLaunch completedClient ⟨1, 0⟩ ⟨[]⟩).any (fun ended =>
      decide (get ended.1 "state" = literal "PROVIDER_COMPLETED") && (decide (get ended.1 "usage" = sampleUsed) &&
        ended.2.heard.all fun message => !stray (get ended.1 "thread_id") (get ended.1 "turn_id") message)) = true := by
    decide +kernel
  obtain ⟨⟨final, after⟩, found, holds⟩ := Option.any_eq_true _ _ |>.mp fine
  simp only [Bool.and_eq_true, decide_eq_true_eq, List.all_eq_true, Bool.not_eq_true'] at holds
  exact ⟨final, after, returns_returned found, holds⟩

/-- A turn of which an item of another turn completes after its usage was reported. -/
def astrayClient : Client := sampleClient [sampleEnvelope 0 sampleUsage, sampleEnvelope 1 sampleAstray] [] 2

def astrayDigests : List (Nat × Nat) := [
  (657, 0xabc3e4b775c42b54b8bf974ab897ba548d902b9012e1ebb3fc768efb440554db),
  (782, 0x1ff65c28d203d64dde952005e9ae64f3b441f3683f736720e4b0b40319c3c0e9),
  (995, 0xecede98fcb5ceabd3775f86fc7f06eed0f74e6eb19ac6d0fa6a567378315b26c),
  (1056, 0x60ea8079f88a4f8f36df4abeaf67413e34eb478911054a40b1de2a58ea0afd9e),
  (3727, 0x140f30e393f1a39935530187de0a08c5db70d475584263fd3a1ab94bffe8f8e2),
  (4789, 0x933a9dae4581c21f0da66bf5250d9ded5bc58a81f1295ab23dad4ac8bc8c160c)]

/-- This dispatch returns as well, and heard both the usage and the item of the other turn. -/
private theorem astray_returns : ∃ final after, @Returned (frameHost astrayDigests) sampleLaunch astrayClient ⟨1, 0⟩ ⟨[]⟩
    final after ∧ (∃ message ∈ after.heard, usage? (get final "thread_id") message = some sampleUsed) ∧
      ∃ message ∈ after.heard, stray (get final "thread_id") (get final "turn_id") message = true := by
  have fine : (returns (frameHost astrayDigests) sampleLaunch astrayClient ⟨1, 0⟩ ⟨[]⟩).any (fun ended =>
      (ended.2.heard.any fun message => decide (usage? (get ended.1 "thread_id") message = some sampleUsed)) &&
        ended.2.heard.any (stray (get ended.1 "thread_id") (get ended.1 "turn_id"))) = true := by decide +kernel
  obtain ⟨⟨final, after⟩, found, holds⟩ := Option.any_eq_true _ _ |>.mp fine
  simp only [Bool.and_eq_true, List.any_eq_true, decide_eq_true_eq] at holds
  exact ⟨final, after, returns_returned found, holds⟩

/-- The usage of the turn is kept in the first run and gone from the second, whose turn an item of another one follows. -/
theorem turn_attribution_sample :
    (∃ final after, @Returned (frameHost completedDigests) sampleLaunch completedClient ⟨1, 0⟩ ⟨[]⟩ final after ∧
      get final "usage" = sampleUsed ∧ get final "usage_turn_id" = get final "turn_id" ∧
      (after.heard.filterMap (usage? (get final "thread_id"))).getLast? = some sampleUsed) ∧
    ∃ final after, @Returned (frameHost astrayDigests) sampleLaunch astrayClient ⟨1, 0⟩ ⟨[]⟩ final after ∧
      (∃ message ∈ after.heard, usage? (get final "thread_id") message = some sampleUsed) ∧
      (∃ message ∈ after.heard, stray (get final "thread_id") (get final "turn_id") message = true) ∧
      get final "usage" = .null ∧ get final "usage_turn_id" = .null ∧ get final "worker_output" = .null ∧
        get final "state" = literal "OUTCOME_UNKNOWN" := by
  refine ⟨?_, ?_⟩
  · obtain ⟨final, after, returned, -, used, faithful⟩ := completed_returns
    have present : get final "usage" ≠ .null := by
      rw [used]
      exact Json.noConfusion
    obtain ⟨last, turn⟩ := (turn_attribution returned).2 faithful present
    exact ⟨final, after, returned, used, turn, used ▸ last⟩
  · obtain ⟨final, after, returned, reported, astray⟩ := astray_returns
    exact ⟨final, after, returned, reported, astray, (turn_attribution returned).1 astray⟩

theorem completed_results_sample : ∃ final after, @Returned (frameHost completedDigests) sampleLaunch completedClient ⟨1, 0⟩ ⟨[]⟩
    final after ∧ StreamReported (get final "thread_id") (get final "turn_id") (.int 16) final (after.delivered.filterMap (·.message)) := by
  obtain ⟨final, after, returned, completed, -⟩ := completed_returns
  exact ⟨final, after, returned, (completed_results returned completed).2⟩

end Switchyard.Runner
