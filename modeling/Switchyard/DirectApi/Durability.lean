import Switchyard.DirectApi.Ledger
import Switchyard.DirectApi.Run
import Switchyard.Reread

/-! When the outcome of a run is retained: exactly when every value it keeps of
the provider's response survives canonicalisation. -/

namespace Switchyard.DirectApi
open Library Json

variable {host : Host}

/-- The canonicaliser accepts the value and the decoder gives an equal one back. -/
def Storable (host : Host) (value : Json) : Prop := Rfc8785.Canonical value ∧ Exact host value

theorem Storable.get {members : Members} (storable : Storable host (.obj members)) (key : String) :
    Storable host (Json.get members key) :=
  ⟨Rfc8785.canonical_get storable.1 key, exact_get storable.2 key⟩

theorem Storable.set {members : Members} (storable : Storable host (.obj members)) {key : String} {value : Json}
    (inside : Storable host value) : Storable host (.obj (Json.set members key value)) :=
  ⟨Rfc8785.canonical_set storable.1 inside.1, exact_set storable.2 inside.2⟩

theorem Storable.update {items : List (String × Json)} (inside : ∀ item ∈ items, Storable host item.2)
    {members : Members} (storable : Storable host (.obj members)) : Storable host (.obj (Json.update members items)) := by
  induction items generalizing members with
  | nil => exact storable
  | cons item rest ih =>
    exact ih (fun other listed => inside other (List.mem_cons_of_mem _ listed))
      (storable.set (inside item List.mem_cons_self))

theorem storable_object {items : List (String × Json)} :
    Storable host (.obj (object items)) ↔ ∀ item ∈ items, Storable host item.2 := by
  simp only [Storable, Rfc8785.Canonical, Exact, Rfc8785.canonicalMembers_iff, exactMembers_iff, object, List.mem_map,
    forall_exists_index, and_imp, forall_apply_eq_imp_iff₂]
  exact ⟨fun both item listed => ⟨(both.1 item listed).2, both.2 item listed⟩,
    fun each => ⟨fun item listed => ⟨Text.scalar_text _, (each item listed).1⟩, fun item listed => (each item listed).2⟩⟩

@[simp] theorem storable_null : Storable host .null := ⟨trivial, trivial⟩

@[simp] theorem storable_bool (value : Bool) : Storable host (.bool value) := ⟨trivial, trivial⟩

@[simp] theorem storable_literal (literal : String) : Storable host (.str (text literal)) :=
  ⟨Text.scalar_text literal, trivial⟩

theorem storable_text {value : Text} (scalar : value.Scalar) : Storable host (.str value) := ⟨scalar, trivial⟩

theorem storable_int {value : Int} (inside : Rfc8785.intMin ≤ value ∧ value ≤ Rfc8785.intMax) :
    Storable host (.int value) := ⟨inside, trivial⟩

theorem storable_unixMs (now : Nanoseconds) : Storable host (.int (unixMs now)) := by
  have safe := unixMs_safe now
  exact storable_int (by unfold Rfc8785.intMin Rfc8785.intMax; omega)

/-- The value of a key that is assigned only once. -/
theorem get_update_of_mem {items : List (String × Json)} {key : String} {value : Json} (listed : (key, value) ∈ items)
    (only : ∀ item ∈ items, item.1 = key → item.2 = value) (members : Members) :
    get (update members items) key = value := by
  induction items generalizing members with
  | nil => cases listed
  | cons item rest ih =>
    by_cases later : ∃ other, (key, other) ∈ rest
    · obtain ⟨other, present⟩ := later
      obtain rfl : other = value := only _ (List.mem_cons_of_mem _ present) rfl
      exact ih present (fun item listed => only item (List.mem_cons_of_mem _ listed)) (Json.set members item.1 item.2)
    · have absent : ∀ other ∈ rest, other.1 ≠ key := by
        rintro ⟨name, other⟩ present rfl
        exact later ⟨other, present⟩
      have unchanged := get_update absent (Json.set members item.1 item.2)
      simp only [Json.update, List.foldl_cons] at unchanged ⊢
      rcases List.mem_cons.mp listed with rfl | present
      · rw [unchanged, get_set, if_pos rfl]
      · exact absurd ⟨value, present⟩ later

/-- The record members that can hold a value of the provider. -/
def providerKeys : List String := ["http_status", "reported_execution", "usage", "cost"]

/-- Among the items a run assigns, `kept` are the provider's and the others are safe. -/
structure Splits (host : Host) (kept items : List (String × Json)) : Prop where
  listed : ∀ item ∈ kept, item ∈ items
  plain : ∀ item ∈ items, item ∈ kept ∨ Storable host item.2 ∧ item.1 ∉ providerKeys

theorem Splits.append {first last before after : List (String × Json)} (left : Splits host first before)
    (right : Splits host last after) : Splits host (first ++ last) (before ++ after) := by
  refine ⟨fun item listed => ?_, fun item listed => ?_⟩
  · rcases List.mem_append.mp listed with listed | listed
    · exact List.mem_append_left _ (left.listed item listed)
    · exact List.mem_append_right _ (right.listed item listed)
  · rcases List.mem_append.mp listed with listed | listed
    · exact (left.plain item listed).imp_left (List.mem_append_left _)
    · exact (right.plain item listed).imp_left (List.mem_append_right _)

theorem Splits.nil : Splits host [] [] := ⟨fun _ listed => listed, fun _ listed => absurd listed List.not_mem_nil⟩

theorem Splits.safe {items : List (String × Json)} (plain : ∀ item ∈ items, Storable host item.2 ∧ item.1 ∉ providerKeys) :
    Splits host [] items := ⟨fun _ listed => absurd listed List.not_mem_nil, fun item listed => Or.inr (plain item listed)⟩

theorem Splits.first {item : String × Json} {plain : List (String × Json)}
    (safe : ∀ other ∈ plain, Storable host other.2 ∧ other.1 ∉ providerKeys) : Splits host [item] (item :: plain) :=
  ⟨fun _ listed => List.mem_cons.mpr (Or.inl (List.mem_singleton.mp listed)), fun other listed =>
    (List.mem_cons.mp listed).imp (fun same => List.mem_singleton.mpr same) (safe other)⟩

/-- What is kept of the provider is what the record finally holds. -/
theorem Splits.get_kept {kept items : List (String × Json)} (splits : Splits host kept items)
    (keys : ∀ item ∈ kept, item.1 ∈ providerKeys) (distinct : (kept.map Prod.fst).Nodup) {item : String × Json}
    (listed : item ∈ kept) (members : Members) : get (update members items) item.1 = item.2 := by
  refine get_update_of_mem (splits.listed item listed) (fun other present same => ?_) members
  rcases splits.plain other present with inside | ⟨-, foreign⟩
  · rw [List.inj_on_of_nodup_map distinct inside listed same]
  · exact absurd (same ▸ keys item listed) foreign

theorem Splits.storable {kept items : List (String × Json)} (splits : Splits host kept items)
    (each : ∀ item ∈ kept, Storable host item.2) {members : Members} (base : Storable host (.obj members)) :
    Storable host (.obj (Json.update members items)) := by
  refine Storable.update (fun item listed => ?_) base
  rcases splits.plain item listed with inside | ⟨plain, -⟩
  · exact each item inside
  · exact plain

/-- Whatever happens, the program assigns these provider items and otherwise safe ones. -/
def Attempt.Writes {α : Type} (host : Host) (program : Attempt α) (kept : List (String × Json)) : Prop :=
  ∀ start, ∃ outcome new, program start = (outcome, start ++ new) ∧ Splits host kept (new.flatMap Assignment.items)

/-- The same for a program that does not raise. -/
def Attempt.Quiet {α : Type} (host : Host) (program : Attempt α) (kept : List (String × Json)) : Prop :=
  ∀ start, ∃ value new, program start = (.ok value, start ++ new) ∧ Splits host kept (new.flatMap Assignment.items)

namespace Attempt

variable {α β : Type} {program : Attempt α} {next : α → Attempt β} {kept rest : List (String × Json)}

theorem Quiet.writes (quiet : Quiet host program kept) : Writes host program kept := fun start =>
  let ⟨value, new, done, splits⟩ := quiet start
  ⟨.ok value, new, done, splits⟩

theorem quiet_assign {items : List (String × Json)} {named : ∀ item ∈ items, item.1 ≠ "dispatch_occurrence_id"}
    (splits : Splits host kept items) : Quiet host (Attempt.assign items named) kept := fun start =>
  ⟨(), [⟨items, named⟩], rfl, by simpa using splits⟩

theorem quiet_pure (value : α) : Quiet host (pure value) [] := fun start =>
  ⟨value, [], by simp, Splits.nil⟩

theorem writes_raise (raised : Raised) : Writes host (Effect.raise raised : Attempt α) [] := fun start =>
  ⟨.error raised, [], by simp, Splits.nil⟩

theorem writes_checked {outcome : Except Raised α} (continued : ∀ value, outcome = .ok value → Writes host (next value) rest)
    (nothing : ∀ raised, outcome = .error raised → rest = []) : Writes host (Effect.lift outcome >>= next) rest := by
  cases outcome with
  | ok value => exact fun start => continued value rfl start
  | error raised =>
    rw [nothing raised rfl]
    exact fun start => ⟨.error raised, [], by simp [Effect.bind_apply], Splits.nil⟩

theorem Quiet.bind (quiet : Quiet host program kept) (continued : ∀ value, Writes host (next value) rest) :
    Writes host (program >>= next) (kept ++ rest) := fun start => by
  obtain ⟨value, new, done, splits⟩ := quiet start
  obtain ⟨outcome, more, finished, later⟩ := continued value (start ++ new)
  refine ⟨outcome, new ++ more, ?_, ?_⟩
  · rw [Effect.bind_apply, done]
    simpa using finished
  · rw [List.flatMap_append]
    exact splits.append later

theorem Quiet.followed (quiet : Quiet host program kept) (continued : ∀ value, Quiet host (next value) rest) :
    Quiet host (program >>= next) (kept ++ rest) := fun start => by
  obtain ⟨value, new, done, splits⟩ := quiet start
  obtain ⟨last, more, finished, later⟩ := continued value (start ++ new)
  refine ⟨last, new ++ more, ?_, ?_⟩
  · rw [Effect.bind_apply, done]
    simpa using finished
  · rw [List.flatMap_append]
    exact splits.append later

theorem first_followed {item : String × Json} {plain : List (String × Json)}
    {named : ∀ other ∈ item :: plain, other.1 ≠ "dispatch_occurrence_id"} {next : Unit → Attempt β}
    (safe : ∀ other ∈ plain, Storable host other.2 ∧ other.1 ∉ providerKeys)
    (continued : ∀ value, Quiet host (next value) rest) :
    Quiet host (Attempt.assign (item :: plain) named >>= next) (item :: rest) :=
  (quiet_assign (.first safe)).followed continued

theorem first_writes {item : String × Json} {plain : List (String × Json)}
    {named : ∀ other ∈ item :: plain, other.1 ≠ "dispatch_occurrence_id"} {next : Unit → Attempt β}
    (safe : ∀ other ∈ plain, Storable host other.2 ∧ other.1 ∉ providerKeys)
    (continued : ∀ value, Writes host (next value) rest) :
    Writes host (Attempt.assign (item :: plain) named >>= next) (item :: rest) :=
  (quiet_assign (.first safe)).bind continued

/-- A continuation that keeps nothing of the provider need not run. -/
theorem Writes.bind (writes : Writes host program kept) (continued : ∀ value, Writes host (next value) []) :
    Writes host (program >>= next) kept := fun start => by
  obtain ⟨outcome, new, done, splits⟩ := writes start
  cases outcome with
  | error raised => exact ⟨.error raised, new, by rw [Effect.bind_apply, done], splits⟩
  | ok value =>
    obtain ⟨outcome, more, finished, later⟩ := continued value (start ++ new)
    refine ⟨outcome, new ++ more, ?_, ?_⟩
    · rw [Effect.bind_apply, done]
      simpa using finished
    · rw [List.flatMap_append]
      simpa using splits.append later

theorem quiet_safe {items : List (String × Json)} {named : ∀ item ∈ items, item.1 ≠ "dispatch_occurrence_id"}
    (plain : ∀ item ∈ items, Storable host item.2 ∧ item.1 ∉ providerKeys) :
    Quiet host (Attempt.assign items named) [] := quiet_assign (.safe plain)

end Attempt

open Attempt

/-- The cost a usage object reports, as the record keeps it. -/
def keptCost (usage : Members) : List (String × Json) :=
  match number (get usage "cost") with
  | some cost => [("cost", .obj (object [("amount", cost), ("currency", .str (text "NOT_OBSERVABLE")),
      ("source", .str (text "response.usage.cost"))]))]
  | none => []

/-- The token counts a response reports, and its cost unless they exceed the enrolled limits. -/
def keptUsage (request : Members) : Json → List (String × Json)
  | .obj usage => match tokenCounts usage with
    | some counts => ("usage", usageOf counts) :: if overBound request counts then [] else keptCost usage
    | none => keptCost usage
  | _ => []

/-- A response whose model, choice and output are acceptable has its usage kept. -/
def acceptable (request response : Members) : Bool :=
  equal (get response "model") (get request "model_id") && match soleChoice (get response "choices") with
    | none => false
    | some choice => match choiceContent choice with
      | .str output => match output.encode? with
        | none => false
        | some raw => !(raw.length > int request "maximum_output_bytes")
      | _ => false

def keptResponse (request response : Members) : List (String × Json) :=
  ("reported_execution", reportedExecution response) ::
    if acceptable request response then keptUsage request (get response "usage") else []

def keptBody (host : Host) (request : Members) (raw : Bytes) : List (String × Json) :=
  match host.loads raw with
  | .ok (.obj response) => keptResponse request response
  | _ => []

/-- The provider values a run keeps of what its transport answered. -/
def kept (host : Host) (request : Members) (surroundings : Surroundings) : List (String × Json) :=
  match surroundings.transport with
  | .ok ⟨.int status, some raw⟩ =>
    if raw.length > int request "maximum_response_bytes" then []
    else ("http_status", .int status) :: match surroundings.cancelledAfter with
      | .ok false => if status = 200 then keptBody host request raw else []
      | _ => []
  | _ => []

private theorem unacceptable_quiet (state : String) : Quiet host (unacceptable state) [] :=
  quiet_safe (by simp [providerKeys])

private theorem malformed_quiet : Quiet host malformed [] := quiet_safe (by simp [providerKeys])

private theorem recordCost_quiet (usage : Members) : Quiet host (recordCost usage) (keptCost usage) := by
  unfold recordCost keptCost
  cases number (get usage "cost") with
  | none => exact quiet_pure false
  | some cost => exact first_followed (by simp [providerKeys]) fun _ => quiet_pure false

private theorem recordUsage_quiet (request : Members) (usage : Json) :
    Quiet host (recordUsage request usage) (keptUsage request usage) := by
  cases usage with
  | obj usage =>
    simp only [recordUsage, keptUsage]
    cases tokenCounts usage with
    | none => exact recordCost_quiet usage
    | some counts =>
      simp only
      refine first_followed (by simp [providerKeys]) fun _ => ?_
      split
      · exact (unacceptable_quiet _).followed fun _ => quiet_pure true
      · exact recordCost_quiet usage
  | null | bool _ | int _ | float _ | str _ | arr _ => exact quiet_pure false

private theorem finishReason_storable {value reason : Json} (found : finishReason value = .ok reason) :
    Storable host reason := by
  unfold finishReason at found
  split at found
  · split at found
    · next raw encoded =>
      cases found
      split
      · exact storable_null
      · exact storable_text (Text.encode?_isSome.mp (by simp [encoded]))
    · cases found
  · cases found
    exact storable_null

private theorem complete_writes (request response choice : Members) {output : Text} (scalar : output.Scalar) :
    Writes host (complete request response choice output) (keptUsage request (get response "usage")) := by
  refine Writes.bind (recordUsage_quiet request _).writes fun exceeded => ?_
  split
  · exact (quiet_pure ()).writes
  · refine writes_checked (fun reason found => ?_) fun _ _ => rfl
    have safe : Storable host reason := finishReason_storable found
    exact (quiet_safe (by simp [providerKeys, storable_text scalar, safe])).writes

private theorem observe_writes (request response : Members) :
    Writes host (observe request response) (keptResponse request response) := by
  unfold observe keptResponse acceptable
  refine first_writes (by simp) fun _ => ?_
  cases model : equal (get response "model") (get request "model_id") with
  | false => exact (unacceptable_quiet _).writes
  | true =>
    cases choices : soleChoice (get response "choices") with
    | none => exact malformed_quiet.writes
    | some choice =>
      cases content : choiceContent choice with
      | str output =>
        cases encoded : output.encode? with
        | none =>
          simp only [content, encoded]
          exact writes_raise _
        | some raw =>
          simp only [content, encoded]
          by_cases exceeded : (raw.length : Int) > int request "maximum_output_bytes"
          · simp only [exceeded, decide_true, Bool.not_true, Bool.and_false, Bool.false_eq_true, if_true, if_false]
            exact (unacceptable_quiet _).writes
          · simp only [exceeded, decide_false, Bool.not_false, Bool.and_self, if_true, if_false]
            exact complete_writes request response choice (Text.encode?_isSome.mp (by simp [encoded]))
      | null | bool _ | int _ | float _ | arr _ | obj _ =>
        simp only [content]
        exact (unacceptable_quiet _).writes

theorem diagnosticToken_scalar {token : Text} (accepted : diagnosticToken token = true) : token.Scalar := by
  have ascii : ∀ point : CodePoint, identifierPoint point = true → Text.surrogate point = false := by
    intro point plain
    simp only [identifierPoint, Bool.or_eq_true, Bool.and_eq_true, decide_eq_true_eq, List.contains_eq_mem,
      List.mem_cons, List.not_mem_nil, or_false] at plain
    simp only [Text.surrogate, Bool.and_eq_false_iff, decide_eq_false_iff_not]
    omega
  cases token with
  | nil => exact fun point listed => absurd listed List.not_mem_nil
  | cons first rest =>
    simp only [diagnosticToken, Bool.and_eq_true, List.all_eq_true] at accepted
    intro point listed
    rcases List.mem_cons.mp listed with rfl | listed
    · exact ascii _ accepted.1.1.1
    · exact ascii _ (accepted.2 point listed)

private theorem refusal_safe {raw : Bytes} {credential : Text} {state : String} {metadata : List (String × Json)}
    (found : providerErrorMetadata host raw credential = .ok metadata) :
    ∀ item ∈ [("state", .str (text state)), ("contact_state", .str (text "RESPONSE_OBSERVED")),
      ("completion_state", .str (text "NOT_COMPLETED"))] ++ metadata,
      Storable host item.2 ∧ item.1 ∉ providerKeys := by
  intro item listed
  rcases List.mem_append.mp listed with listed | listed
  · simp only [List.mem_cons, List.not_mem_nil, or_false] at listed
    rcases listed with rfl | rfl | rfl <;> simp [providerKeys]
  · obtain ⟨target, token, value, accepted⟩ := providerErrorMetadata_spec found listed
    refine ⟨value ▸ storable_text (diagnosticToken_scalar accepted), ?_⟩
    simp only [List.mem_cons, List.not_mem_nil, or_false] at target
    rcases target with target | target | target <;> simp [target, providerKeys]

private theorem respond_writes (host : Host) (request : Members) (credential : Text) (surroundings : Surroundings) {response : Response}
    (answer : surroundings.transport = .ok response) :
    Writes host (respond host request credential surroundings.cancelledAfter response) (kept host request surroundings) := by
  unfold respond kept
  simp only [answer]
  obtain ⟨status, raw⟩ := response
  cases raw with
  | none => cases status <;> exact writes_raise _
  | some raw =>
    cases status with
    | int status =>
      simp only
      split
      · exact (unacceptable_quiet _).writes
      · refine first_writes (by simp) fun _ => ?_
        refine writes_checked (fun cancelled asked => ?_) (fun raised asked => by simp [asked])
        simp only [asked]
        cases cancelled with
        | true => exact (quiet_safe (by simp [providerKeys])).writes
        | false =>
          simp only [Bool.false_eq_true, if_false]
          split
          next =>
            split
            next raised _ => exact writes_raise raised
            next metadata found => exact (quiet_safe (refusal_safe found)).writes
          next success =>
            rw [if_pos (Classical.not_not.mp success)]
            unfold keptBody
            cases host.loads raw with
            | error failure => cases failure <;> first | exact malformed_quiet.writes | exact writes_raise _
            | ok value =>
              cases value with
              | obj members => exact observe_writes request members
              | null | bool _ | int _ | float _ | str _ | arr _ => exact malformed_quiet.writes
    | null | bool _ | float _ | str _ | arr _ | obj _ => exact writes_raise _

/-- Every provider value has a member of its own. -/
theorem kept_keys (host : Host) (request : Members) (surroundings : Surroundings) :
    ((kept host request surroundings).map Prod.fst).Sublist providerKeys := by
  have cost : ∀ usage, ((keptCost usage).map Prod.fst).Sublist ["cost"] := by
    intro usage
    unfold keptCost
    split <;> simp
  have usage : ∀ value, ((keptUsage request value).map Prod.fst).Sublist ["usage", "cost"] := by
    intro value
    unfold keptUsage
    split
    · split
      · rw [List.map_cons]
        refine List.Sublist.cons_cons _ ?_
        split
        · simp
        · exact cost _
      · exact (cost _).cons _
    · simp
  have body : ∀ raw, ((keptBody host request raw).map Prod.fst).Sublist ["reported_execution", "usage", "cost"] := by
    intro raw
    unfold keptBody keptResponse
    split
    · rw [List.map_cons]
      refine List.Sublist.cons_cons _ ?_
      split
      · exact usage _
      · simp
    · simp
  unfold kept
  split
  · split
    · simp
    · rw [List.map_cons]
      refine List.Sublist.cons_cons _ ?_
      split
      · split
        · exact body _
        · simp
      · simp
  · simp

/-- The base record holds nothing but the validated request, digests and literals. -/
theorem claimRecord_storable (submission : Submission host) (now : Nanoseconds) {scope : Option Text}
    (ledger : scope = none ∨ isEnrolled submission.request = true ∧ ∃ name, scope = some name ∧
      reservationScope host submission = .ok name) :
    Storable host (.obj (claimRecord host submission now scope).members) := by
  have admitted := submission.admitted
  have plain : ∀ {members : Members} {key : String}, HasText members key → Rfc8785.Canonical (.obj members) →
      Storable host (get members key) := by
    rintro members key ⟨content, found⟩ canonical
    have inside := Rfc8785.canonical_get canonical key
    rw [found] at inside ⊢
    exact storable_text inside
  have request : ∀ key ∈ ["request_id", "work_attempt_id", "dispatch_occurrence_id", "request_digest",
      "admitted_input_sha256", "model_id", "endpoint", "account_id", "credential_source"],
      Storable host (get submission.request key) := fun key listed =>
    plain (admitted.texts key listed) admitted.requestCanonical
  have base : Storable host (.obj (baseRecord host submission now)) := by
    refine storable_object.mpr ?_
    simp only [List.forall_mem_cons, List.not_mem_nil, false_implies, implies_true, and_true] at request ⊢
    simp only [request, storable_literal, storable_null, storable_bool, storable_unixMs, storable_object,
      List.forall_mem_cons, List.not_mem_nil, false_implies, implies_true, and_true, true_and,
      plain admitted.bindingDigest admitted.bindingCanonical]
    exact storable_int (by decide)
  rcases ledger with rfl | ⟨enrolled, name, rfl, within⟩
  · exact base
  · have limits := admitted.enrolled enrolled
    have number : ∀ {key : String} {value : Int}, get submission.request key = .int value →
        Storable host (get submission.request key) := by
      intro key value found
      have inside := Rfc8785.canonical_get admitted.requestCanonical key
      rw [found] at inside ⊢
      exact storable_int inside
    have tokens : ∀ key ∈ ["maximum_prompt_tokens", "maximum_completion_tokens", "maximum_total_tokens"],
        Storable host (get submission.request key) := fun key listed => number (limits.tokens key listed)
    have scalar : name.Scalar := by
      obtain ⟨raw, -, same⟩ := bind_ok.mp within
      cases same
      exact host.scalar_digest raw
    have owner : ∀ key ∈ ["owner_id", "owner_profile_id", "proposal_request_id", "proposal_request_digest"],
        Storable host (get submission.ownerBinding key) := fun key listed =>
      plain (admitted.owner enrolled key listed) admitted.bindingCanonical
    simp only [List.forall_mem_cons, List.not_mem_nil, false_implies, implies_true, and_true] at tokens owner
    simp only [claimRecord, claimMembers, enrolledRecord]
    refine Storable.set (Storable.set (Storable.set base ?_) ?_) ?_
    · simp [storable_object, tokens]
    · simp [storable_object, owner]
    · simp [storable_object, plain limits.budgetId admitted.requestCanonical, number limits.budget,
        number limits.reserved, storable_text scalar]

/-- A number, a text or a dict of such values. -/
def Shallow (value : Json) : Prop :=
  value.hashable = true ∨ ∃ items, value = .obj (object items) ∧ (items.map Prod.fst).Nodup ∧
    ∀ item ∈ items, item.2.hashable = true

private theorem number_leaf {value counted : Json} (found : number value = some counted) : counted.hashable = true := by
  unfold number at found
  split at found
  · split at found <;> cases found; rfl
  · split at found <;> cases found; rfl
  · cases found
  · cases found; rfl
  · cases found

private theorem text_leaf (value : Json) : (if value.text?.isSome then value else Json.null).hashable = true := by
  cases value <;> rfl

theorem kept_shallow (request : Members) (surroundings : Surroundings) :
    ∀ item ∈ kept host request surroundings, Shallow item.2 := by
  have cost : ∀ usage, ∀ item ∈ keptCost usage, Shallow item.2 := by
    intro usage item listed
    unfold keptCost at listed
    split at listed
    · next amount found =>
      obtain rfl := List.mem_singleton.mp listed
      exact Or.inr ⟨_, rfl, by simp, by simp [number_leaf found]⟩
    · cases listed
  have counts : ∀ usage counts, tokenCounts usage = some counts → Shallow (usageOf counts) := by
    intro usage counts found
    simp only [tokenCounts, Option.bind_eq_bind, Option.bind_eq_some_iff, Option.pure_def, Option.some.injEq] at found
    obtain ⟨prompt, first, completion, second, total, third, rfl⟩ := found
    exact Or.inr ⟨_, rfl, by simp, by simp [number_leaf first, number_leaf second, number_leaf third]⟩
  have usage : ∀ value, ∀ item ∈ keptUsage request value, Shallow item.2 := by
    intro value item listed
    unfold keptUsage at listed
    split at listed
    · split at listed
      · next found =>
        rcases List.mem_cons.mp listed with rfl | listed
        · exact counts _ _ found
        · split at listed
          · cases listed
          · exact cost _ item listed
      · exact cost _ item listed
    · cases listed
  intro item listed
  unfold kept at listed
  split at listed
  · split at listed
    · cases listed
    · rcases List.mem_cons.mp listed with rfl | listed
      · exact Or.inl rfl
      · split at listed
        · split at listed
          · unfold keptBody keptResponse at listed
            split at listed
            · rcases List.mem_cons.mp listed with rfl | listed
              · exact Or.inr ⟨_, rfl, by simp, by simp [text_leaf]⟩
              · split at listed
                · exact usage _ item listed
                · cases listed
            · cases listed
          · cases listed
        · cases listed
  · cases listed

/-- The record a run returns once its contact has been made. -/
def finalRecord (host : Host) (submission : Submission host) (credential : Text) (surroundings : Surroundings)
    (record : RunRecord) (endedAt : Nanoseconds) : RunRecord :=
  (answered host submission.request credential surroundings (record.assign contactStarted)).assign (ended endedAt)

private theorem excepted_safe (raised : Raised) :
    ∀ item ∈ (excepted raised).items, Storable host item.2 ∧ item.1 ∉ providerKeys := by
  cases raised with
  | other name => simp [excepted, providerKeys, storable_text name.property]
  | responseOverBound | localCancellation | timeout => simp [excepted, providerKeys]

private theorem final_splits (submission : Submission host) (credential : Text) (surroundings : Surroundings)
    (record : RunRecord) (endedAt : Nanoseconds) :
    ∃ items, (finalRecord host submission credential surroundings record endedAt).members =
        update record.members items ∧ Splits host (kept host submission.request surroundings) items := by
  have start : Splits host [] contactStarted.items := .safe (by simp [contactStarted, providerKeys])
  have stop : Splits host [] (ended endedAt).items := .safe (by simp [ended, providerKeys, storable_unixMs])
  have handled (raised : Raised) : Splits host [] (excepted raised).items := .safe (excepted_safe raised)
  unfold finalRecord answered
  cases answer : surroundings.transport with
  | error raised =>
    refine ⟨(contactStarted.items ++ (excepted raised).items) ++ (ended endedAt).items, ?_, ?_⟩
    · simp only [RunRecord.assign, update_append]
    · have nothing : kept host submission.request surroundings = [] := by simp [kept, answer]
      rw [nothing]
      exact (start.append (handled raised)).append stop
  | ok response =>
    obtain ⟨outcome, new, done, splits⟩ := respond_writes host submission.request credential surroundings answer []
    simp only [done, List.nil_append]
    cases outcome with
    | ok value =>
      refine ⟨(contactStarted.items ++ new.flatMap Assignment.items) ++ (ended endedAt).items, ?_, ?_⟩
      · simp only [RunRecord.concluded, RunRecord.assign, RunRecord.assignAll_members, update_append]
      · simpa using (start.append splits).append stop
    | error raised =>
      refine ⟨((contactStarted.items ++ new.flatMap Assignment.items) ++ (excepted raised).items) ++ (ended endedAt).items,
        ?_, ?_⟩
      · simp only [RunRecord.concluded, RunRecord.assign, RunRecord.assignAll_members, update_append]
      · simpa using ((start.append splits).append (handled raised)).append stop

theorem final_get (submission : Submission host) (credential : Text) (surroundings : Surroundings)
    (record : RunRecord) (endedAt : Nanoseconds) {item : String × Json}
    (listed : item ∈ kept host submission.request surroundings) :
    get (finalRecord host submission credential surroundings record endedAt).members item.1 = item.2 := by
  obtain ⟨items, members, splits⟩ := final_splits submission credential surroundings record endedAt
  have keys := kept_keys host submission.request surroundings
  rw [members]
  exact splits.get_kept (fun item listed => keys.subset (List.mem_map_of_mem listed)) (keys.nodup (by simp [providerKeys]))
    listed record.members

private theorem final_storable (submission : Submission host) (credential : Text) (surroundings : Surroundings)
    {record : RunRecord} (endedAt : Nanoseconds) (base : Storable host (.obj record.members))
    (each : ∀ item ∈ kept host submission.request surroundings, Storable host item.2) :
    Storable host (.obj (finalRecord host submission credential surroundings record endedAt).members) := by
  obtain ⟨items, members, splits⟩ := final_splits submission credential surroundings record endedAt
  rw [members]
  exact splits.storable each base

/-- A run returns a record and the store retains an equal one, which every
duplicate run and every inspection return. -/
def Durable (host : Host) (submission : Submission host) (surroundings : Surroundings) (startedAt endedAt : Nanoseconds)
    (store : Store) : Prop :=
  ∃ members after, run host submission surroundings startedAt endedAt store = (.ok (.obj members), after) ∧
    ∃ retained, equal retained (.obj members) = true ∧ after.inspect host submission.dispatch = .ok retained ∧
      ∀ again restartedAt reendedAt, run host submission again restartedAt reendedAt after = (.ok retained, after)

/-- A fresh run that makes its contact: where its record goes, and where it fails. -/
theorem run_contacting (submission : Submission host) (surroundings : Surroundings)
    (startedAt endedAt : Nanoseconds) {store claimed : Store} {record : RunRecord} {credential : Text} {body : Bytes}
    (fresh : Store.claim host submission startedAt store = (.ok (.fresh record), claimed))
    (uncancelled : surroundings.cancelledBefore = .ok false) (offered : surroundings.credential = .ok (some credential))
    (accepted : usable credential = true) (encoded : requestBody host submission = .ok body)
    (base : Storable host (.obj record.members)) :
    ∃ contacted : Bytes, run host submission surroundings startedAt endedAt store =
      (do
        let final ← finish host endedAt (answered host submission.request credential surroundings (record.assign contactStarted))
        return Json.obj final.members) (claimed.written record.dispatch contacted) := by
  have started : Storable host (.obj (record.assign contactStarted).members) :=
    Storable.update (by simp [contactStarted]) base
  obtain ⟨contacted, canonical⟩ : ∃ raw, canonical host (.obj (record.assign contactStarted).members) = .ok raw :=
    canonical_accepted.mpr started.1
  have before : prepare host submission surroundings [] = (.ok (some (body, credential)), []) := by
    simp [prepare, uncancelled, offered, accepted, encoded, Effect.bind_apply, Attempt.lift,
      Except.mapError, Option.filter]
  refine ⟨contacted, ?_⟩
  unfold run
  rw [Effect.bind_apply, fresh]
  simp only [attempt, before, Effect.bind_apply, RunRecord.assignAll, List.foldl_nil, Store.update_ok canonical]
  rfl

theorem finish_ok {record : RunRecord} {endedAt : Nanoseconds} {raw : Bytes} (store : Store)
    (encoded : canonical host (.obj (record.assign (ended endedAt)).members) = .ok raw) :
    ∃ after, finish host endedAt record store = (.ok (record.assign (ended endedAt)), after) ∧
      after.runs = (store.written record.dispatch raw).runs := by
  unfold finish
  simp only [Effect.bind_apply, Store.update_ok encoded]
  split
  · exact ⟨_, rfl, rfl⟩
  · exact ⟨_, rfl, rfl⟩

theorem finish_error {record : RunRecord} {endedAt : Nanoseconds} {failure : Failure} (store : Store)
    (refused : canonical host (.obj (record.assign (ended endedAt)).members) = .error failure) :
    finish host endedAt record store = (.error failure, store) := by
  simp only [finish, Effect.bind_apply, Store.update_error refused]

/-- The outcome of a contact is durable exactly when every provider value the run
keeps is inside the canonicaliser's domain and comes back equal. -/
theorem outcome_durability {submission : Submission host} {surroundings : Surroundings}
    {startedAt endedAt : Nanoseconds} {store claimed : Store} {record : RunRecord} {credential : Text}
    (fresh : Store.claim host submission startedAt store = (.ok (.fresh record), claimed))
    (uncancelled : surroundings.cancelledBefore = .ok false) (offered : surroundings.credential = .ok (some credential))
    (accepted : usable credential = true) (prepared : (requestBody host submission).isOk = true)
    (decoder : Rereads host (.obj (finalRecord host submission credential surroundings record endedAt).members)) :
    Durable host submission surroundings startedAt endedAt store ↔
      ∀ item ∈ kept host submission.request surroundings, Storable host item.2 := by
  obtain ⟨row, opened⟩ := (Store.claim_meets submission startedAt store).returns fresh
  obtain ⟨scope, rfl, ledger⟩ := opened.recorded
  have base := claimRecord_storable submission startedAt ledger
  have found : claimed.lookup submission.dispatch = some row := by
    rw [Store.lookup_append opened.runs, opened.unknown, if_pos opened.dispatch]
    rfl
  obtain ⟨body, encoded⟩ : ∃ body, requestBody host submission = .ok body := by
    cases made : requestBody host submission with
    | ok body => exact ⟨body, rfl⟩
    | error failure => simp [made, Except.isOk, Except.toBool] at prepared
  obtain ⟨contacted, went⟩ := run_contacting submission surroundings startedAt endedAt fresh uncancelled offered accepted
    encoded base
  rw [claimRecord_dispatch] at went
  generalize answer : answered host submission.request credential surroundings
    ((claimRecord host submission startedAt scope).assign contactStarted) = answeredRecord at went
  have final : finalRecord host submission credential surroundings (claimRecord host submission startedAt scope) endedAt =
      answeredRecord.assign (ended endedAt) := by
    rw [finalRecord, answer]
  have named : answeredRecord.dispatch = submission.dispatch := by
    rw [← answer, answered_dispatch]
    rfl
  rw [final] at decoder
  have settled : ∀ raw, canonical host (.obj (answeredRecord.assign (ended endedAt)).members) = .ok raw → ∃ after,
      run host submission surroundings startedAt endedAt store =
        (.ok (.obj (answeredRecord.assign (ended endedAt)).members), after) ∧
        after.lookup submission.dispatch = some { row with record := raw } := by
    intro raw canonical
    obtain ⟨after, finished, runs⟩ := finish_ok (claimed.written submission.dispatch contacted) canonical
    refine ⟨after, by rw [went, Effect.bind_apply, finished]; rfl, ?_⟩
    have same : after.lookup submission.dispatch =
        ((claimed.written submission.dispatch contacted).written submission.dispatch raw).lookup submission.dispatch := by
      simp only [Store.lookup, runs, named]
    rw [same, Store.lookup_written, Store.lookup_written, found, ← opened.dispatch]
    simp [RunRow.written]
  constructor
  · rintro ⟨members, after, returned, retained, same, inspected, -⟩ item listed
    have kept := final_get submission credential surroundings (claimRecord host submission startedAt scope) endedAt listed
    rw [final] at kept
    cases canonical : canonical host (.obj (answeredRecord.assign (ended endedAt)).members) with
    | error failure =>
      rw [went, Effect.bind_apply, finish_error _ canonical] at returned
      cases returned
    | ok raw =>
      obtain ⟨last, again, lookup⟩ := settled raw canonical
      obtain ⟨rfl, rfl⟩ : members = (answeredRecord.assign (ended endedAt)).members ∧ after = last := by
        have both := returned.symm.trans again
        simp only [Prod.mk.injEq, Except.ok.injEq, Json.obj.injEq] at both
        exact both
      obtain ⟨decoded, read, reads⟩ := decoder raw (canonical_ok.mp canonical)
      obtain rfl : decoded = retained := by
        simp only [Store.inspect, lookup, loads, read, Except.ok.injEq] at inspected
        exact inspected
      refine ⟨kept ▸ Rfc8785.canonical_get (canonical_accepted.mp ⟨raw, canonical⟩) item.1, ?_⟩
      cases reads with
      | @obj found _ present values =>
        have inner := (Reads.obj present values).get item.1
        have equal := equal_get same item.1
        rw [kept] at inner equal
        rcases kept_shallow submission.request surroundings item listed with leaf | ⟨items, shape, distinct, leaves⟩
        · exact inner.exact_leaf equal leaf
        · rw [shape] at inner equal ⊢
          exact inner.exact_object distinct leaves equal
  · intro each
    have storable := final_storable submission credential surroundings endedAt base each
    rw [final] at storable
    obtain ⟨raw, canonical⟩ : ∃ raw, canonical host (.obj (answeredRecord.assign (ended endedAt)).members) = .ok raw :=
      canonical_accepted.mpr storable.1
    obtain ⟨after, returned, lookup⟩ := settled raw canonical
    obtain ⟨decoded, read, reads⟩ := decoder raw (canonical_ok.mp canonical)
    have loaded : loads host raw = .ok decoded := by simp only [loads, read]
    have identical : Identical host submission.request submission.admittedInput submission.ownerBinding { row with record := raw } :=
      ⟨opened.request, opened.admittedInput, opened.ownerBinding⟩
    refine ⟨_, after, returned, decoded, reads.equal storable.2, ?_, fun again restartedAt reendedAt => ?_⟩
    · simp only [Store.inspect, lookup, loaded]
    · simp only [run, Effect.bind_apply, Store.claim_retained lookup identical, loaded, Except.map]
      rfl

def sampleNanAnswer : Bytes := ascii ("\x7b\"model\":\"m1\",\"choices\":[\x7b\"message\":\x7b\"content\":\"ok\"\x7d\x7d]," ++
  "\"usage\":\x7b\"cost\":NaN\x7d\x7d")

private theorem sample_final : (finalRecord sampleHost sampleSubmission (text "k") (sampleSurroundings sampleAnswer)
    sampleClaimed 0).members = sampleRecord := by decide +kernel

private theorem sample_rereads : Rereads sampleHost (.obj sampleRecord) := by
  intro raw encoded
  have size : (Rfc8785.dumps sampleHost (.obj sampleRecord)).toOption.map List.length = some 1995 := by decide +kernel
  have length : raw.length = 1995 := by simpa [encoded, Except.toOption] using size
  refine ⟨.obj sampleRecord, ?_, Reads.self _ (by decide)⟩
  simp only [sampleHost, length]

private theorem sample_kept : kept sampleHost sampleSubmission.request (sampleSurroundings sampleAnswer) =
    [("http_status", .int 200), ("reported_execution", reportedExecution sampleResponse),
      ("usage", usageOf (.int 3, .int 1, .int 4))] := by decide +kernel

theorem outcome_durability_sample :
    Durable sampleHost sampleSubmission (sampleSurroundings sampleAnswer) 0 0 Store.empty := by
  refine (outcome_durability sample_fresh rfl rfl (by decide) (by decide) ?_).mpr ?_
  · rw [sample_final]
    exact sample_rereads
  · have execution : reportedExecution sampleResponse = .obj (object [
        ("state", .str (text "OBSERVED_RESPONSE_IDENTITY")), ("provider_id", .str (text "openrouter")),
        ("model_id", .str (text "m1")), ("upstream_provider_id", .null), ("account_id", .null)]) := by decide
    have counted : ∀ value : Int, 0 ≤ value → value ≤ 4 → Storable sampleHost (.int value) := fun value low high =>
      storable_int (by unfold Rfc8785.intMin Rfc8785.intMax; omega)
    rw [sample_kept, execution]
    simp only [List.forall_mem_cons, List.not_mem_nil, false_implies, implies_true, and_true, usageOf, storable_object,
      storable_literal, storable_null, true_and]
    exact ⟨storable_int (by decide), counted 3 (by decide) (by decide), counted 1 (by decide) (by decide),
      counted 4 (by decide) (by decide)⟩

/-- The cost a provider reports is stored unchecked: a NaN reaches the final update. -/
theorem outcome_durability_nan :
    (∃ record claimed, Store.claim sampleHost sampleSubmission 0 Store.empty = (.ok (.fresh record), claimed)) ∧
      ¬ Durable sampleHost sampleSubmission (sampleSurroundings sampleNanAnswer) 0 0 Store.empty := by
  refine ⟨⟨_, _, sample_fresh⟩, ?_⟩
  rintro ⟨members, after, returned, -⟩
  have raised : (run sampleHost sampleSubmission (sampleSurroundings sampleNanAnswer) 0 0 Store.empty).1 =
      .error (.protocol (text "value is outside RFC8785-JCS: nan is not representable in JCS")) := by decide +kernel
  rw [returned] at raised
  cases raised

end Switchyard.DirectApi
