import Switchyard.Nightshift.Finality

/-! Receipts over every run: what stands in the store behind a receipt, and what the
call that stored it had seen. -/

namespace Switchyard.Nightshift
open Library Json Runner AppServer

variable {host : Host} {unicode : Unicode} {labels : Labels} {pool : AdapterPool} {attempt : Attempt} {outcome receipt : Members}

private theorem lookup_kept (keep : Text → Bool) (members : Members) (key : Text) :
    (members.filter fun member => keep member.1).lookup key = if keep key = true then members.lookup key else none := by
  induction members with
  | nil => simp
  | cons member rest ih =>
    obtain ⟨name, value⟩ := member
    by_cases same : key = name
    · subst same
      by_cases kept : keep key = true
      · simp [kept]
      · rw [List.filter_cons_of_neg (by simpa using kept), ih, if_neg kept, if_neg kept]
    · have differ : (key == name) = false := by simpa using same
      by_cases kept : keep name = true
      · rw [List.filter_cons_of_pos (by simpa using kept), List.lookup_cons, List.lookup_cons, differ, ih]
      · rw [List.filter_cons_of_neg (by simpa using kept), List.lookup_cons, differ, ih]

theorem get_merged (first last : Members) (key : String) :
    Json.get (merged first last) key = if has last key = true then Json.get last key else Json.get first key := by
  unfold Json.get has merged
  rw [List.lookup_append, lookup_kept fun name => (last.lookup name).isNone]
  cases last.lookup (text key) <;> simp

/-- A text that is not cut is the whole text. -/
theorem boundedUtf8_whole {value bounded : Option Text} {maximum : Json} (whole : boundedUtf8 value maximum = .ok (bounded, false)) :
    bounded = value := by
  unfold boundedUtf8 at whole
  split at whole
  next =>
    cases whole
    rfl
  next value =>
    obtain ⟨raw, -, whole⟩ := bind_ok.mp whole
    split at whole
    next =>
      split at whole <;> cases whole
      rfl
    next =>
      split at whole
      next =>
        split at whole <;> cases whole
        rfl
      next => cases whole

/-- The members that every receipt of an attempt starts with. -/
def IDENTITY_FIELDS : List String :=
  ["packet_digest", "run_id", "work_item_id", "attempt_id", "adapter_id", "adapter_version", "provider_identity",
    "model_identity", "session_identity", "thread_identity", "turn_identity", "queue_identity"]

theorem retainedIdentities_fields {identities : List (String × Json)} (retained : retainedIdentities attempt = .ok identities) :
    identities.map Prod.fst = IDENTITY_FIELDS := by
  unfold retainedIdentities at retained
  obtain ⟨_, -, retained⟩ := bind_ok.mp retained
  obtain ⟨_, -, retained⟩ := bind_ok.mp retained
  obtain ⟨_, -, retained⟩ := bind_ok.mp retained
  obtain ⟨_, -, retained⟩ := bind_ok.mp retained
  cases retained
  rfl

theorem has_without (members : Members) (field key : String) (other : key ≠ field) :
    has (without members field) key = has members key := by
  unfold has without
  rw [lookup_without, if_neg fun same => other (text_inj.mp same)]

theorem get_without (members : Members) (field key : String) (other : key ≠ field) :
    Json.get (without members field) key = Json.get members key := by
  unfold Json.get without
  rw [lookup_without, if_neg fun same => other (text_inj.mp same)]

theorem closed_has {members : Members} {fields : List String} (closes : closed members fields = true) {key : String} :
    has members key = true ↔ key ∈ fields := by
  unfold closed at closes
  rw [Bool.and_eq_true, List.all_eq_true, List.all_eq_true] at closes
  refine ⟨fun present => ?_, closes.2 key⟩
  obtain ⟨value, found⟩ := Option.isSome_iff_exists.mp present
  obtain ⟨field, listed, same⟩ := List.any_eq_true.mp (closes.1 _ (mem_of_lookup found))
  exact text_inj.mp (beq_iff_eq.mp same) ▸ listed

/-- A receipt has the members of its outcome, and the identities of its attempt. -/
theorem Receipted.members (receipted : Receipted host unicode attempt outcome receipt) :
    (∀ field ∈ OUTCOME_FIELDS, field ≠ "schema" → Json.get receipt field = Json.get outcome field) ∧
      ∃ identities, retainedIdentities attempt = .ok identities ∧ ∀ member ∈ identities, Json.get receipt member.1 = member.2 := by
  obtain ⟨identities, endedAt, digest, retained, rfl, -⟩ := receipted.taken
  have fields := retainedIdentities_fields retained
  have present {key : String} (other : key ≠ "schema") : has (without outcome "schema") key = true ↔ key ∈ OUTCOME_FIELDS := by
    rw [has_without _ _ _ other, closed_has receipted.closed]
  refine ⟨fun field listed other => ?_, identities, retained, fun member listed => ?_⟩
  · have undigested : field ≠ "receipt_digest" := by
      rintro rfl
      revert listed
      decide
    rw [get_set, if_neg undigested, unsealedReceipt, get_merged, if_pos ((present other).mpr listed), get_without _ _ _ other]
  · have named : member.1 ∈ IDENTITY_FIELDS := fields ▸ List.mem_map_of_mem listed
    have apart : ∀ field ∈ IDENTITY_FIELDS, field ≠ "receipt_digest" ∧ field ≠ "schema" ∧ field ∉ OUTCOME_FIELDS := by decide
    obtain ⟨undigested, other, absent⟩ := apart _ named
    rw [get_set, if_neg undigested, unsealedReceipt, get_merged, if_neg fun here => absent ((present other).mp here)]
    refine get_object_of_mem ?_ (by simp [listed])
    rw [List.map_append, List.map_append, fields]
    change (["schema", "receipt_digest"] ++ IDENTITY_FIELDS ++ ["started_at", "ended_at"]).Nodup
    decide

/-- What the call that sealed an attempt had seen: a confirmed cut, a drain that went through, and then the attempt
completed, with a final message that is all that its turn says and is exactly a harmless outcome. -/
structure Cleared (host : Host) (unicode : Unicode) (labels : Labels) (id : Text) (raw : Bytes) (row : AttemptRow) (attempt : Attempt)
    (outcome receipt : Members) : Prop where
  cut : ∃ history changes, some (history, ⟨.update id changes, .ok ()⟩) ∈ labels ∧ changes.terminalReceipt = some raw ∧
    Cut host history id row
  retained : ∃ binding, row.attempt host binding = .ok attempt
  whole : ∃ earlier shown turn, Caller.Recorded labels earlier ∧ Shown earlier shown turn ∧ shown.attemptId = id ∧
    finalAgentMessage turn = row.finalMessage
  receipted : Receipted host unicode attempt outcome receipt
  harmless : Json.get outcome "live_or_production_mutations" = .arr []
  members : (∀ field ∈ OUTCOME_FIELDS, field ≠ "schema" → Json.get receipt field = Json.get outcome field) ∧
    ∃ identities, retainedIdentities attempt = .ok identities ∧ ∀ member ∈ identities, Json.get receipt member.1 = member.2
  written : canonical host (.obj receipt) = .ok raw

theorem checkOutcome_harmless (checked : checkOutcome unicode outcome = .ok ()) :
    Json.get outcome "live_or_production_mutations" = .arr [] := by
  unfold checkOutcome at checked
  obtain ⟨_, -, checked⟩ := bind_ok.mp checked
  obtain ⟨_, -, checked⟩ := bind_ok.mp checked
  obtain ⟨_, -, checked⟩ := bind_ok.mp checked
  obtain ⟨_, -, checked⟩ := bind_ok.mp checked
  obtain ⟨_, -, checked⟩ := bind_ok.mp checked
  obtain ⟨_, harmless, -⟩ := bind_ok.mp checked
  exact beq_iff_eq.mp (demand_ok.mp harmless)

/-- A row that is PROVIDER_COMPLETED carries all that some turn of it says, not a cut part. -/
theorem completed_whole {row : AttemptRow} (ruled : Caller.Ruled (rules host unicode) Holding labels pool) (borne : Borne labels row)
    (completed : row.status = .providerCompleted) : ∃ earlier shown turn, Caller.Recorded labels earlier ∧
      Shown earlier shown turn ∧ shown.attemptId = row.attemptId ∧ finalAgentMessage turn = row.finalMessage := by
  obtain ⟨changes, ⟨earlier, listed⟩, status, said⟩ := borne.completed completed
  obtain ⟨lawful, -, recorded⟩ := ruled.lawful _ _ listed
  cases (lawful : Lawful host unicode earlier row.attemptId changes) with
  | @reported completed shown turn maximum bounded truncated reported =>
    cases truncated with
    | true => cases status
    | false =>
      cases said
      obtain ⟨_, listed⟩ := recorded _ reported.selected
      obtain ⟨-, now, found, kin, -⟩ := ruled.holds.found _ _ _ listed
      have named : shown.attemptId = row.attemptId := by
        have same := (AdapterStore.find_some found).2
        rw [kin] at same
        exact same
      exact ⟨earlier, shown, turn, recorded, reported.shown, named, (boundedUtf8_whole reported.bounded).symm⟩
  | _ => cases status

/-- In every run, each receipt in the store was put there by a call that had made a clean final cut. -/
theorem receipt_needs_clean_cut (run : Run (Steps host unicode) ⟨.empty, []⟩ labels pool) {row : AttemptRow} {raw : Bytes}
    (listed : row ∈ pool.store.rows) (sealed : row.terminalReceipt = some raw) :
    ∃ was attempt outcome receipt, Cleared host unicode labels row.attemptId raw was attempt outcome receipt := by
  have ruled := run_ruled run
  obtain ⟨changes, ⟨history, made⟩, same⟩ := (ruled.holds.borne row listed).sealed raw sealed
  obtain ⟨lawful, -, recorded⟩ := ruled.lawful _ _ made
  cases (lawful : Lawful host unicode history row.attemptId changes) with
  | @sealed binding outcome receipt was attempt written cut read receipted canonically =>
    cases same
    obtain ⟨before, terminal, tail, endedAt, confirmed, drained, shape⟩ := cut.clean
    have selected : Answered history (.select row.attemptId) (some was) := by
      rw [shape]
      simp [Answered]
    obtain ⟨_, found⟩ := recorded _ selected
    obtain ⟨borne, now, known, kin, -⟩ := ruled.holds.found _ _ _ found
    have named : was.attemptId = row.attemptId := by
      have same := (AdapterStore.find_some known).2
      rw [kin] at same
      exact same
    exact ⟨was, attempt, outcome, receipt, ⟨history, _, made, rfl, cut⟩, ⟨binding, read⟩,
      named ▸ completed_whole ruled borne cut.completed, receipted, checkOutcome_harmless receipted.checked, receipted.members, canonically⟩
  | _ => cases same

theorem receipt_needs_clean_cut_sample : ∃ labels pool row raw, Run (Steps adapterHost sampleUnicode) ⟨.empty, []⟩ labels pool ∧
    row ∈ pool.store.rows ∧ row.terminalReceipt = some raw ∧
    ∃ was attempt outcome receipt, Cleared adapterHost sampleUnicode labels row.attemptId raw was attempt outcome receipt := by
  obtain ⟨labels, pool, row, run, found, sealed⟩ := sample_sealed
  have listed := (AdapterStore.find_some found).1
  obtain ⟨raw, receipt⟩ := Option.isSome_iff_exists.mp (((run_ruled run).holds.borne row listed).receipt.mpr sealed.terminal)
  exact ⟨labels, pool, row, raw, run, listed, receipt, receipt_needs_clean_cut run listed receipt⟩

end Switchyard.Nightshift
