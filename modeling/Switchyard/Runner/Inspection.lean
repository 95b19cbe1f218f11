import Switchyard.Runner.Claims
import Switchyard.Restored

/-! A closure that is read back from its row: the validation and the binding come out
as they did when the row was written, so `inspect_prelaunch` returns the closure. -/

namespace Switchyard.Runner
open Library Json AppServer

variable {host : Host} {calendar : Calendar}

/-- The values whose canonical form a step writes into a row. -/
def Label.writes : Label → List Json
  | .claimed inputs _ (.ok (record, true)) => [.obj inputs.request, .obj inputs.backend, .obj record]
  | .closed inputs closure store (.ok ()) =>
    if (store.find inputs.dispatch).isNone then [.obj inputs.request, .obj inputs.backend, .obj (closureRecord inputs closure)]
    else []
  | .updated record => [.obj record]
  | _ => []

private theorem plain_str {value : Json} (shown : ∃ content, value = .str content) : plain value = true := by
  obtain ⟨content, rfl⟩ := shown
  rfl

private theorem hexadecimal_str {value : Json} {length : Nat} (spelled : hexadecimal value length = true) :
    ∃ content, value = .str content := by
  cases value <;> simp_all [hexadecimal]

private theorem sha256Identity_str {value : Json} (spelled : sha256Identity value = true) : ∃ content, value = .str content := by
  cases value <;> simp_all [sha256Identity]

private theorem boundedIdentifier_str {value : Json} (bounded : boundedIdentifier value = .ok true) :
    ∃ content, value = .str content := by
  cases value <;> simp_all [boundedIdentifier]

private theorem is_plain {value : Json} {literal : String} (same : is value literal = true) : plain value = true := by
  rw [is_iff.mp same]
  rfl

private theorem timestamp_plain {value : Json} {nanos : Int} (read : timestamp calendar value = .ok nanos) : plain value = true := by
  cases value <;> simp_all [timestamp, plain]

private theorem among_plain {value : Json} {literals : List String} (found : among value literals = .ok true) :
    plain value = true := by
  unfold among at found
  split at found
  · obtain ⟨literal, -, same⟩ := List.any_eq_true.mp (Except.ok.inj found)
    exact is_plain same
  · cases found

private theorem demandIdentifiers_str {members : Members} {keys : List String}
    (bounded : demandIdentifiers members keys = .ok ()) : ∀ key ∈ keys, ∃ content, get members key = .str content := by
  induction keys with
  | nil => nofun
  | cons key rest ih =>
    unfold demandIdentifiers at bounded
    obtain ⟨holds, first, bounded⟩ := bind_ok.mp bounded
    obtain ⟨_, held, bounded⟩ := bind_ok.mp bounded
    obtain rfl := demand_ok.mp held
    intro other listed
    rcases List.mem_cons.mp listed with rfl | listed
    · exact boundedIdentifier_str first
    · exact ih bounded other listed

private theorem demandIdentifiers_congr {decoded members : Members} {keys : List String}
    (same : ∀ key ∈ keys, get decoded key = get members key) : demandIdentifiers decoded keys = demandIdentifiers members keys := by
  induction keys with
  | nil => rfl
  | cons key rest ih =>
    simp only [demandIdentifiers, same key List.mem_cons_self, ih fun other listed => same other (List.mem_cons_of_mem _ listed)]

private theorem all_congr {decoded members : Members} {keys : List String} {check : Json → Bool}
    (same : ∀ key ∈ keys, get decoded key = get members key) :
    (keys.all fun key => check (get decoded key)) = keys.all fun key => check (get members key) := by
  induction keys with
  | nil => rfl
  | cons key rest ih =>
    simp only [List.all_cons, same key List.mem_cons_self, ih fun other listed => same other (List.mem_cons_of_mem _ listed)]

/-- All that a binding holds are strings. -/
theorem validateBinding_ok {binding : Members} (valid : validateBinding (.obj binding) = .ok ()) :
    closed binding (BINDING_IDS ++ BINDING_HASHES ++ BINDING_HEADS) = true ∧
      ∀ key ∈ BINDING_IDS ++ BINDING_HASHES ++ BINDING_HEADS, ∃ content, get binding key = .str content := by
  unfold validateBinding at valid
  obtain ⟨_, shape, valid⟩ := bind_ok.mp valid
  obtain ⟨_, ids, valid⟩ := bind_ok.mp valid
  obtain ⟨_, hashes, heads⟩ := bind_ok.mp valid
  have hashes := List.all_eq_true.mp (demand_ok.mp hashes)
  have heads := List.all_eq_true.mp (demand_ok.mp heads)
  refine ⟨demand_ok.mp shape, fun key listed => ?_⟩
  rcases List.mem_append.mp listed with listed | listed
  · rcases List.mem_append.mp listed with listed | listed
    · exact demandIdentifiers_str ids key listed
    · exact sha256Identity_str (hashes key listed)
  · exact hexadecimal_str (heads key listed)

private theorem validateBinding_restored {decoded binding : Json} (valid : validateBinding binding = .ok ())
    (restored : Restored host decoded binding) : validateBinding decoded = .ok () := by
  cases binding with
  | obj binding =>
    obtain ⟨others, rfl⟩ := restored.members
    obtain ⟨shape, fields⟩ := validateBinding_ok valid
    have same : ∀ key ∈ BINDING_IDS ++ BINDING_HASHES ++ BINDING_HEADS, get others key = get binding key :=
      fun key listed => (restored.get key).plain (plain_str (fields key listed))
    simp only [List.mem_append] at same
    have hashes := @all_congr others binding BINDING_HASHES sha256Identity fun key listed => same key (.inl (.inr listed))
    have heads := @all_congr others binding BINDING_HEADS (hexadecimal · 40) fun key listed => same key (.inr listed)
    simp only [validateBinding] at valid ⊢
    rw [demandIdentifiers_congr fun key listed => same key (.inl (.inl listed)), hashes, heads, restored.closed shape]
    rwa [shape] at valid
  | _ => cases valid

private def PROOF_PLAIN : List String := ["schema", "supervisor_identity", "host", "unit", "invocation_id", "active_state", "result",
  "exit_code", "observed_at", "original_runner_sha256", "unit_evidence_sha256", "failure_evidence_sha256", "boundary",
  "original_producer_terminated", "alternate_writers_excluded", "trust_basis"]

private theorem validateProof_plain {proof : Members} {binding : Json} {closedAt : Int}
    (valid : validateProof calendar proof binding closedAt = .ok ()) : ∀ key ∈ PROOF_PLAIN, plain (get proof key) = true := by
  unfold validateProof at valid
  obtain ⟨_, -, valid⟩ := bind_ok.mp valid
  obtain ⟨_, schema, valid⟩ := bind_ok.mp valid
  obtain ⟨_, -, valid⟩ := bind_ok.mp valid
  obtain ⟨active, state, valid⟩ := bind_ok.mp valid
  obtain ⟨_, held, valid⟩ := bind_ok.mp valid
  obtain ⟨_, result, valid⟩ := bind_ok.mp valid
  obtain ⟨_, code, valid⟩ := bind_ok.mp valid
  obtain ⟨_, boundary, valid⟩ := bind_ok.mp valid
  obtain ⟨_, flags, valid⟩ := bind_ok.mp valid
  obtain ⟨_, basis, valid⟩ := bind_ok.mp valid
  obtain ⟨_, invocation, valid⟩ := bind_ok.mp valid
  obtain ⟨_, ids, valid⟩ := bind_ok.mp valid
  obtain ⟨_, hashes, valid⟩ := bind_ok.mp valid
  obtain ⟨observedAt, observed, -⟩ := bind_ok.mp valid
  obtain rfl := demand_ok.mp held
  have ids := demandIdentifiers_str ids
  have hashes := List.all_eq_true.mp (demand_ok.mp hashes)
  have flags := Bool.and_eq_true_iff.mp (demand_ok.mp flags)
  have terminated : plain (get proof "original_producer_terminated") = true := by rw [of_decide_eq_true flags.1]; rfl
  have excluded : plain (get proof "alternate_writers_excluded") = true := by rw [of_decide_eq_true flags.2]; rfl
  have exit : plain (get proof "exit_code") = true := by
    have shape := demand_ok.mp code
    cases shown : get proof "exit_code" <;> rw [shown] at shape <;> first | rfl | cases shape
  simp only [List.forall_mem_cons, List.not_mem_nil, false_implies, implies_true, and_true] at ids hashes
  simp only [PROOF_PLAIN, List.forall_mem_cons, List.not_mem_nil, false_implies, implies_true, and_true]
  exact ⟨is_plain (demand_ok.mp schema), plain_str ids.1, plain_str ids.2.1, plain_str ids.2.2,
    plain_str (hexadecimal_str (demand_ok.mp invocation)), among_plain state, is_plain (demand_ok.mp result), exit,
    timestamp_plain observed, plain_str (sha256Identity_str hashes.1), plain_str (sha256Identity_str hashes.2.1),
    plain_str (sha256Identity_str hashes.2.2), is_plain (demand_ok.mp boundary), terminated, excluded, is_plain (demand_ok.mp basis)⟩

private theorem validateProof_restored {decoded proof : Members} {binding other : Json} {closedAt : Int}
    (valid : validateProof calendar proof binding closedAt = .ok ()) (restored : Restored host (.obj decoded) (.obj proof))
    (rebound : Restored host other binding) : validateProof calendar decoded other closedAt = .ok () := by
  have same : ∀ key ∈ PROOF_PLAIN, get decoded key = get proof key :=
    fun key listed => (restored.get key).plain (validateProof_plain valid key listed)
  have hashes := @all_congr decoded proof ["original_runner_sha256", "unit_evidence_sha256", "failure_evidence_sha256"]
    sha256Identity fun key listed => same key (by revert key; decide)
  have ids := @demandIdentifiers_congr decoded proof ["supervisor_identity", "host", "unit"] fun key listed =>
    same key (by revert key; decide)
  have bound {first last : Json} (equal : Json.equal first binding = true) (again : Restored host last first) :
      Json.equal last other = true :=
    equal_trans _ _ _ again.equal (equal_trans _ _ _ equal (equal_symm _ _ rebound.equal))
  simp only [PROOF_PLAIN, List.forall_mem_cons, List.not_mem_nil, false_implies, implies_true, and_true] at same
  obtain ⟨_, shape, rest⟩ := bind_ok.mp valid
  obtain ⟨_, schema, rest⟩ := bind_ok.mp rest
  obtain ⟨_, equal, rest⟩ := bind_ok.mp rest
  have closed := restored.closed (demand_ok.mp shape)
  have binds := bound (demand_ok.mp equal) (restored.get "binding")
  simp only [validateProof, closed, binds, same, hashes, ids]
  simp only [validateProof, demand_ok.mp shape, demand_ok.mp equal] at valid
  exact valid

private def CLOSURE_PLAIN : List String := ["schema", "closure_digest", "closed_at", "evidence_mode", "failure_code",
  "observer_source_head", "observer_runner_sha256", "state", "provider_claim_absent", "backend_started", "authority_effect"]

private theorem validatePrelaunchClosure_plain {closure : Members}
    (valid : validatePrelaunchClosure host calendar closure = .ok ()) : (∀ key ∈ CLOSURE_PLAIN, plain (get closure key) = true) ∧
      (get closure "supervisor_attestation" = .null ∨ ∃ proof, get closure "supervisor_attestation" = .obj proof) := by
  unfold validatePrelaunchClosure at valid
  obtain ⟨_, -, valid⟩ := bind_ok.mp valid
  obtain ⟨raw, -, valid⟩ := bind_ok.mp valid
  obtain ⟨_, -, valid⟩ := bind_ok.mp valid
  obtain ⟨_, -, valid⟩ := bind_ok.mp valid
  obtain ⟨_, schema, valid⟩ := bind_ok.mp valid
  obtain ⟨coded, code, valid⟩ := bind_ok.mp valid
  obtain ⟨_, held, valid⟩ := bind_ok.mp valid
  obtain ⟨_, flags, valid⟩ := bind_ok.mp valid
  obtain ⟨_, effect, valid⟩ := bind_ok.mp valid
  obtain ⟨_, observer, valid⟩ := bind_ok.mp valid
  obtain ⟨closedAt, closed, valid⟩ := bind_ok.mp valid
  have mode : plain (get closure "evidence_mode") = true ∧ (∃ sealed, get closure "closure_digest" = .str sealed) ∧
      (get closure "supervisor_attestation" = .null ∨ ∃ proof, get closure "supervisor_attestation" = .obj proof) := by
    have sealed (valid : (do
        let sealed ← closureDigest host closure
        demand (get closure "closure_digest" = Json.str sealed)) = .ok ()) : ∃ sealed, get closure "closure_digest" = .str sealed := by
      obtain ⟨sealed, -, same⟩ := bind_ok.mp valid
      exact ⟨sealed, of_decide_eq_true (demand_ok.mp same)⟩
    split at valid
    · next observed =>
      simp only [Bool.and_eq_true] at observed
      exact ⟨is_plain observed.1.2, sealed valid, .inl (of_decide_eq_true observed.2)⟩
    · obtain ⟨_, mode, valid⟩ := bind_ok.mp valid
      refine ⟨is_plain (demand_ok.mp mode), ?_⟩
      split at valid
      · next proof shown =>
        obtain ⟨_, -, valid⟩ := bind_ok.mp valid
        exact ⟨sealed valid, .inr ⟨proof, shown⟩⟩
      · cases valid
  have schema := Bool.and_eq_true_iff.mp (demand_ok.mp schema)
  have flags := Bool.and_eq_true_iff.mp (demand_ok.mp flags)
  have observer := Bool.and_eq_true_iff.mp (demand_ok.mp observer)
  obtain ⟨mode, ⟨sealed, same⟩, attested⟩ := mode
  obtain rfl := demand_ok.mp held
  simp only [CLOSURE_PLAIN, List.forall_mem_cons, List.not_mem_nil, false_implies, implies_true, and_true]
  refine ⟨⟨?_, ?_, timestamp_plain closed, mode, among_plain code, plain_str (hexadecimal_str observer.1),
    plain_str (sha256Identity_str observer.2), is_plain schema.2, ?_, ?_, is_plain (demand_ok.mp effect)⟩, attested⟩
  · rw [of_decide_eq_true schema.1]
    rfl
  · rw [same]
    rfl
  · rw [of_decide_eq_true flags.1]
    rfl
  · rw [of_decide_eq_true flags.2]
    rfl

private theorem bind_imp {α β : Type} {first : Except ClassName α} {next other : α → Except ClassName β} {result : β}
    (each : ∀ value, next value = .ok result → other value = .ok result) (done : first.bind next = .ok result) :
    first.bind other = .ok result := by
  obtain ⟨value, left, done⟩ := bind_ok.mp done
  exact bind_ok.mpr ⟨value, left, each value done⟩

/-- What is restored of a valid closure is a valid closure. -/
theorem validatePrelaunchClosure_restored {decoded closure : Members}
    (valid : validatePrelaunchClosure host calendar closure = .ok ()) (restored : Restored host (.obj decoded) (.obj closure))
    (stable : Stable host (.obj closure)) : validatePrelaunchClosure host calendar decoded = .ok () := by
  obtain ⟨fields, attested⟩ := validatePrelaunchClosure_plain valid
  have same : ∀ key ∈ CLOSURE_PLAIN, get decoded key = get closure key :=
    fun key listed => (restored.get key).plain (fields key listed)
  have written : canonical host (.obj decoded) = canonical host (.obj closure) := by
    simp only [canonical, restored.dumps stable]
  have sealed : closureDigest host decoded = closureDigest host closure := by
    have stable : Stable host (.obj (closure.filter fun member => member.1 != text "closure_digest")) :=
      stableMembers_iff.mpr fun member listed => stableMembers_iff.mp stable member (List.mem_filter.mp listed).1
    simp only [closureDigest, canonical, (restored.without _).dumps stable]
  simp only [CLOSURE_PLAIN, List.forall_mem_cons, List.not_mem_nil, false_implies, implies_true, and_true] at same
  obtain ⟨_, shape, rest⟩ := bind_ok.mp valid
  obtain ⟨raw, _, rest⟩ := bind_ok.mp rest
  obtain ⟨_, _, rest⟩ := bind_ok.mp rest
  obtain ⟨_, binding, _⟩ := bind_ok.mp rest
  have closed := restored.closed (demand_ok.mp shape)
  have bound := validateBinding_restored binding (restored.get "binding")
  simp only [validatePrelaunchClosure, demand_ok.mp shape, binding] at valid
  simp only [validatePrelaunchClosure, closed, written, bound, same, sealed]
  rcases attested with shown | ⟨proof, shown⟩
  · have absent : get decoded "supervisor_attestation" = .null := by
      refine ((restored.get _).plain ?_).trans shown
      rw [shown]
      rfl
    rw [shown] at valid
    rw [absent]
    exact valid
  · have other := restored.get "supervisor_attestation"
    rw [shown] at valid other
    obtain ⟨others, given⟩ := other.members
    rw [given] at other ⊢
    simp only [reduceCtorEq, decide_false, Bool.and_false, Bool.false_eq_true, if_false] at valid ⊢
    refine bind_imp (fun _ => bind_imp fun _ => bind_imp fun _ => bind_imp fun _ => bind_imp fun _ => bind_imp fun _ =>
      bind_imp fun _ => bind_imp fun _ => bind_imp fun _ => bind_imp fun _ => bind_imp fun closedAt => bind_imp fun _ valid => ?_) valid
    obtain ⟨_, proved, valid⟩ := bind_ok.mp valid
    exact bind_ok.mpr ⟨(), validateProof_restored proved other (restored.get "binding"), valid⟩

private theorem has_object_cons (first : String) (value : Json) (rest : List (String × Json)) (key : String) :
    has (object ((first, value) :: rest)) key = (key == first || has (object rest) key) := by
  simp only [has, object, List.map_cons, List.lookup_cons]
  by_cases same : key = first
  · simp [same]
  · have differ : (text key == text first) = false := by simpa [text_inj] using same
    simp [same, differ]

private theorem item_of_has {members : Members} {key : String} (present : has members key = true) :
    item members key = .ok (get members key) := by
  obtain ⟨value, found⟩ := Option.isSome_iff_exists.mp present
  rw [item_ok.mpr found, Json.get, found]
  rfl

private theorem item_restored {decoded members : Members} (restored : Restored host (.obj decoded) (.obj members)) {key : String}
    {value : Json} (given : item members key = .ok value) (plain : plain value = true) : item decoded key = .ok value := by
  have found := item_ok.mp given
  cases restored with
  | obj _ _ present values =>
    have same := present (text key)
    rw [found] at same
    obtain ⟨other, visible⟩ := Option.isSome_iff_exists.mp same
    obtain rfl := (values _ _ _ visible found).plain plain
    exact item_ok.mpr visible

private theorem items_restored {decoded members : Members} (restored : Restored host (.obj decoded) (.obj members)) :
    ∀ {keys : List String} {copied : List (String × Json)}, (keys.mapM fun key => do return (key, ← item members key)) = .ok copied →
      copied.map Prod.fst = keys ∧ ((∀ pair ∈ copied, plain pair.2 = true) →
        (keys.mapM fun key => do return (key, ← item decoded key)) = .ok copied)
  | [], copied, read => by
    cases read
    exact ⟨rfl, fun _ => rfl⟩
  | key :: rest, copied, read => by
    rw [List.mapM_cons] at read
    obtain ⟨pair, first, read⟩ := bind_ok.mp read
    obtain ⟨others, later, same⟩ := bind_ok.mp read
    obtain ⟨value, given, shape⟩ := bind_ok.mp first
    cases same
    cases shape
    obtain ⟨names, again⟩ := items_restored restored later
    refine ⟨congrArg (key :: ·) names, fun plain => ?_⟩
    rw [List.mapM_cons]
    have here := item_restored restored given (plain _ List.mem_cons_self)
    have there := again fun pair listed => plain pair (List.mem_cons_of_mem _ listed)
    exact bind_ok.mpr ⟨(key, value), bind_ok.mpr ⟨value, here, rfl⟩, bind_ok.mpr ⟨others, there, rfl⟩⟩

private def BOUND : List String := ["packet_digest", "run_id", "work_item_id", "work_attempt_id", "dispatch_occurrence_id",
  "request_digest", "worker_brief_digest", "switchyard_owner_head", "codex_owner_head"] ++ ["adapter_process_occurrence_id",
  "request_sha256", "brief_sha256", "backend_sha256", "dispatch_digest", "dispatch_sha256"]

/-- What is restored of the inputs binds the same. -/
theorem prelaunchBinding_restored {request backend dispatchRecord binding : Members} {brief : Bytes}
    (bound : prelaunchBinding host request brief backend dispatchRecord = .ok binding)
    (strings : ∀ key ∈ BINDING_IDS ++ BINDING_HASHES ++ BINDING_HEADS, ∃ content, get binding key = .str content)
    {read readBackend readRecord : Members} (restored : Restored host (.obj read) (.obj request))
    (restoredBackend : Restored host (.obj readBackend) (.obj backend))
    (restoredRecord : Restored host (.obj readRecord) (.obj dispatchRecord)) (stable : Stable host (.obj request))
    (stableBackend : Stable host (.obj backend)) (stableRecord : Stable host (.obj dispatchRecord)) :
    prelaunchBinding host read brief readBackend readRecord = .ok binding := by
  unfold prelaunchBinding at bound ⊢
  obtain ⟨copied, copies, bound⟩ := bind_ok.mp bound
  obtain ⟨occurrence, process, bound⟩ := bind_ok.mp bound
  obtain ⟨requestBytes, writes, bound⟩ := bind_ok.mp bound
  obtain ⟨backendBytes, writesBackend, bound⟩ := bind_ok.mp bound
  obtain ⟨dispatchDigest, sealed, bound⟩ := bind_ok.mp bound
  obtain ⟨dispatchBytes, writesRecord, same⟩ := bind_ok.mp bound
  cases same
  obtain ⟨names, copiesRestored⟩ := items_restored restored copies
  have shown {pair : String × Json} (listed : pair ∈ copied ++ [("adapter_process_occurrence_id", occurrence),
      ("request_sha256", .str (host.digest requestBytes)), ("brief_sha256", .str (host.digest brief)),
      ("backend_sha256", .str (host.digest backendBytes)), ("dispatch_digest", dispatchDigest),
      ("dispatch_sha256", .str (host.digest dispatchBytes))]) : plain pair.2 = true := by
    have named := List.mem_map_of_mem (f := Prod.fst) listed
    rw [List.map_append, names, List.map_cons, List.map_cons, List.map_cons, List.map_cons, List.map_cons, List.map_cons,
      List.map_nil] at named
    have bounded : ∀ key ∈ BOUND, key ∈ BINDING_IDS ++ BINDING_HASHES ++ BINDING_HEADS := by decide
    have string := strings pair.1 (bounded _ named)
    rw [get_object_of_mem ?_ listed] at string
    · exact plain_str string
    · rw [List.map_append, names]
      simp only [List.map_cons, List.map_nil]
      decide
  have written : canonical host (.obj read) = .ok requestBytes := by rw [← writes, canonical, canonical, restored.dumps stable]
  have writtenBackend : canonical host (.obj readBackend) = .ok backendBytes := by
    rw [← writesBackend, canonical, canonical, restoredBackend.dumps stableBackend]
  have writtenRecord : canonical host (.obj readRecord) = .ok dispatchBytes := by
    rw [← writesRecord, canonical, canonical, restoredRecord.dumps stableRecord]
  have again := copiesRestored fun pair listed => shown (List.mem_append_left _ listed)
  have processed := item_restored restoredRecord process (@shown ("adapter_process_occurrence_id", occurrence) (by simp))
  have digested := item_restored restoredRecord sealed (@shown ("dispatch_digest", dispatchDigest) (by simp))
  exact bind_ok.mpr ⟨_, again, bind_ok.mpr ⟨_, processed, bind_ok.mpr ⟨_, written, bind_ok.mpr ⟨_, writtenBackend,
    bind_ok.mpr ⟨_, digested, bind_ok.mpr ⟨_, writtenRecord, rfl⟩⟩⟩⟩⟩⟩

/-- What a valid closure binds are strings. -/
theorem Closes.strings {inputs : Inputs} {closure binding : Members} (closes : Closes host calendar inputs closure)
    (equal : equal (get closure "binding") (.obj binding) = true) :
    ∀ key ∈ BINDING_IDS ++ BINDING_HASHES ++ BINDING_HEADS, ∃ content, get binding key = .str content := by
  have valid := closes.valid
  unfold validatePrelaunchClosure at valid
  obtain ⟨_, -, valid⟩ := bind_ok.mp valid
  obtain ⟨raw, -, valid⟩ := bind_ok.mp valid
  obtain ⟨_, -, valid⟩ := bind_ok.mp valid
  obtain ⟨_, bound, -⟩ := bind_ok.mp valid
  intro key listed
  cases shown : get closure "binding" with
  | obj members =>
    rw [shown] at equal bound
    obtain ⟨content, string⟩ := (validateBinding_ok bound).2 key listed
    have same := equal_get equal key
    rw [string] at same
    exact ⟨content, equal_text.mp (equal_symm _ _ same)⟩
  | _ =>
    rw [shown] at bound
    cases bound

/-- A row that retains a closure, with the values that its bytes spell. -/
structure Prelaunch (host : Host) (calendar : Calendar) (inputs : Inputs) (closure : Members) (row : Row) : Prop where
  exactly : Exactly host inputs row
  closes : Closes host calendar inputs closure
  spelled : canonical host (.obj (closureRecord inputs closure)) = .ok row.record

theorem loads_restored {members : Members} {raw : Bytes} (restores : Restores host (.obj members))
    (spelled : canonical host (.obj members) = .ok raw) :
    ∃ others, loads host raw = .ok (.obj others) ∧ Restored host (.obj others) (.obj members) := by
  obtain ⟨decoded, loaded, restored⟩ := restores raw (canonical_ok.mp spelled)
  obtain ⟨others, rfl⟩ := restored.members
  exact ⟨others, by simp only [loads, loaded], restored⟩

theorem Prelaunch.reads {inputs : Inputs} {closure : Members} {row : Row} (prelaunch : Prelaunch host calendar inputs closure row)
    (restores : Restores host (.obj (closureRecord inputs closure))) : ∃ members, loads host row.record = .ok (.obj members) ∧
      Restored host (.obj members) (.obj (closureRecord inputs closure)) :=
  loads_restored restores prelaunch.spelled

/-- A retained closure is returned as it was. -/
theorem inspectPrelaunch_ok {inputs : Inputs} {closure : Members} {row : Row} (prelaunch : Prelaunch host calendar inputs closure row)
    (restores : ∀ value ∈ [.obj inputs.request, .obj inputs.backend, .obj (closureRecord inputs closure)], Restores host value)
    (stable : ∀ value ∈ [.obj inputs.request, .obj inputs.backend, .obj (closureRecord inputs closure)], Stable host value)
    (replayed : Row → Members → Except ClassName Unit) {first second : RunStore} {dispatch : Text}
    (found : first.find dispatch = some row) (again : second.find dispatch = some row) :
    ∃ kept, RunStore.inspectPrelaunch host calendar replayed first second dispatch = .ok kept ∧
      Restored host (.obj kept) (.obj closure) := by
  simp only [List.forall_mem_cons, List.not_mem_nil, false_implies, implies_true, and_true] at restores stable
  obtain ⟨restoresRequest, restoresBackend, restoresRecord⟩ := restores
  obtain ⟨stableRequest, stableBackend, stableRecord⟩ := stable
  obtain ⟨members, loaded, restored⟩ := prelaunch.reads restoresRecord
  obtain ⟨request, readRequest, restoredRequest⟩ := loads_restored restoresRequest prelaunch.exactly.request
  obtain ⟨backend, readBackend, restoredBackend⟩ := loads_restored restoresBackend prelaunch.exactly.backend
  obtain ⟨binding, bound, equal⟩ := prelaunch.closes.binding
  have inner {key : String} {value : Json} (listed : (text key, value) ∈ closureRecord inputs closure) : Stable host value :=
    stableMembers_iff.mp stableRecord _ listed
  have stableClosure : Stable host (.obj closure) := @inner "prelaunch_closure" _ (by simp [closureRecord, object])
  have stableDispatch : Stable host (.obj inputs.dispatchRecord) := @inner "dispatch_record" _ (by simp [closureRecord, object])
  have closed := restored.get "prelaunch_closure"
  have record := restored.get "dispatch_record"
  rw [closureRecord_dispatchRecord] at record
  have shownClosure : get (closureRecord inputs closure) "prelaunch_closure" = .obj closure := by
    simp [closureRecord, get_object_cons]
  rw [shownClosure] at closed
  obtain ⟨kept, shown⟩ := closed.members
  obtain ⟨readRecord, shownRecord⟩ := record.members
  rw [shown] at closed
  rw [shownRecord] at record
  have state : get members "state" = .str (text "PRELAUNCH_CLOSED") := by
    refine (restored.get "state").plain ?_ |>.trans ?_ <;> simp [closureRecord, get_object_cons, plain]
  have admission : get members "provider_admission" = .null := by
    refine (restored.get "provider_admission").plain ?_ |>.trans ?_ <;> simp [closureRecord, get_object_cons, plain]
  have given {key : String} (listed : key ∈ ["provider_admission", "dispatch_record"]) : item members key = .ok (get members key) := by
    refine item_of_has ?_
    rw [restored.has, closureRecord]
    simp only [has_object_cons]
    revert key
    simp
  have rebound := prelaunchBinding_restored bound (prelaunch.closes.strings equal) restoredRequest restoredBackend record stableRequest
    stableBackend stableDispatch
  have valid := validatePrelaunchClosure_restored prelaunch.closes.valid closed stableClosure
  have binds : Json.equal (get kept "binding") (.obj binding) = true := equal_trans _ _ _ (closed.get "binding").equal equal
  refine ⟨kept, ?_, closed⟩
  have inspected : RunStore.inspect host replayed first dispatch = .ok members := by
    unfold RunStore.inspect
    rw [found]
    refine bind_ok.mpr ⟨_, loaded, bind_ok.mpr ⟨_, given (by simp), ?_⟩⟩
    rw [admission]
    rfl
  unfold RunStore.inspectPrelaunch
  refine bind_ok.mpr ⟨_, inspected, bind_ok.mpr ⟨(), demand_ok.mpr (is_iff.mpr state), ?_⟩⟩
  rw [shown, again]
  refine bind_ok.mpr ⟨(), valid, bind_ok.mpr ⟨_, readRequest, bind_ok.mpr ⟨_, readBackend, bind_ok.mpr ⟨_, given (by simp), ?_⟩⟩⟩⟩
  rw [shownRecord]
  rw [prelaunch.exactly.brief]
  exact bind_ok.mpr ⟨_, rebound, bind_ok.mpr ⟨(), demand_ok.mpr binds, rfl⟩⟩

end Switchyard.Runner
