import Mathlib.Data.List.Forall2
import Switchyard.Admission.Clean

/-! The evidence log. Every call that returns appends one record; each record is
sealed where it stands, and the byte counter is the sum of their canonical lengths. -/

namespace Switchyard.Admission
open Library Json AppServer

variable {host : Host} {settings : Settings host}

def RECORD_IDENTITIES : List String :=
  ["binding_digest", "work_attempt_id", "dispatch_occurrence_id", "adapter_process_occurrence_id",
    "app_server_session_identity", "thread_id", "turn_id", "provider", "model"]

/-- A record under its own digest and the identities of the binding, with its canonical length. -/
structure Sealed (settings : Settings host) (record : Record) (size : Nat) : Prop where
  digest : digestOf host EVIDENCE_DOMAIN (record.toMembers settings.binding) "evidence_digest" = .ok record.evidenceDigest
  identities : ∀ field ∈ RECORD_IDENTITIES,
    get (record.toMembers settings.binding) field = get settings.binding.members field
  canonical : ∃ encoded, canonical host (.obj (record.toMembers settings.binding)) = .ok encoded ∧ size = encoded.length

theorem toMembers_identity (binding : Binding host) (record : Record) {field : String} (listed : field ∈ RECORD_IDENTITIES) :
    get (record.toMembers binding) field = get binding.members field := by
  unfold Record.toMembers
  refine get_object_of_mem ?_ (List.mem_append_left _ (List.mem_append_right _ (List.mem_map.mpr ⟨field, listed, rfl⟩)))
  simp only [RECORD_IDENTITIES, List.map_append, List.map_cons, List.map_nil]
  decide

/-- The digest is over everything but itself. -/
theorem digestOf_toMembers (binding : Binding host) (record : Record) (digest : Text) :
    digestOf host EVIDENCE_DOMAIN ({ record with evidenceDigest := digest }.toMembers binding) "evidence_digest" =
      digestOf host EVIDENCE_DOMAIN (record.toMembers binding) "evidence_digest" := by
  have unsealed (schema value : Json) (members : Members) :
      ((text "schema", schema) :: (text "evidence_digest", value) :: members).filter (fun member => member.1 != text "evidence_digest") =
        (text "schema", schema) :: members.filter fun member => member.1 != text "evidence_digest" := by
    simp [text_inj]
  unfold digestOf Record.toMembers object
  simp only [List.cons_append, List.map_cons, unsealed]

/-- What the recorder accepts: there is room for it, by count and by bytes. -/
structure Fits (settings : Settings host) (mapper : Mapper) (stored : Record) (size : Nat) : Prop where
  sequence : stored.sequence = mapper.records.length
  isSealed : Sealed settings stored size
  room : mapper.records.length < MAXIMUM_RECORDS
  bytes : mapper.retainedRecordBytes + size ≤ MAXIMUM_SNAPSHOT_BYTES

theorem evidence_fits {mapper : Mapper} {label : Json} {raw : Option RawCustody} {normalized : Normalized} {stored : Record}
    {size : Nat} (found : evidence settings mapper label raw normalized = .ok (stored, size)) : Fits settings mapper stored size := by
  unfold evidence at found
  split at found
  · cases found
  next room =>
    obtain ⟨digest, digested, found⟩ := bind_ok.mp found
    obtain ⟨encoded, canonized, found⟩ := bind_ok.mp found
    split at found
    · cases found
    next within =>
      cases found
      refine ⟨rfl, ⟨?_, fun field listed => toMembers_identity _ _ listed, encoded, canonized, rfl⟩, by omega, by omega⟩
      rw [digestOf_toMembers]
      exact digested

theorem interrupted_bytes (mapper : Mapper) : mapper.interrupted.retainedRecordBytes = mapper.retainedRecordBytes := by
  unfold Mapper.interrupted
  split <;> rfl

theorem Change.bytes {before assigned : Mapper} {label : Json} {raw : Option RawCustody} {normalized : Normalized}
    (change : Change settings before label raw normalized assigned) : assigned.retainedRecordBytes = before.retainedRecordBytes := by
  cases change with
  | discrepancy => exact interrupted_bytes _
  | cut =>
    split
    · rfl
    · exact interrupted_bytes _
  | _ => rfl

/-- A returning call appends one record for which there is room. -/
structure Appends (settings : Settings host) (before : Mapper) (stored : Record) (after : Mapper) : Prop where
  records : after.records = before.records ++ [stored]
  fits : ∃ size, Fits settings before stored size ∧ after.retainedRecordBytes = before.retainedRecordBytes + size

theorem Change.appends {before assigned : Mapper} {label : Json} {raw : Option RawCustody} {normalized : Normalized} {stored : Record}
    {size : Nat} (change : Change settings before label raw normalized assigned)
    (found : evidence settings assigned label raw normalized = .ok (stored, size)) :
    Appends settings before stored (assigned.appended stored size) := by
  have fits := evidence_fits found
  have records := change.records
  have bytes := change.bytes
  refine ⟨by simp [Mapper.appended, records], size, ⟨?_, fits.isSealed, ?_, ?_⟩, by simp [Mapper.appended, bytes]⟩
  · rw [← records, fits.sequence]
  · rw [← records]
    exact fits.room
  · rw [← bytes]
    exact fits.bytes

theorem Records.appends {mapper after : Mapper} {call : Call} {stored : Record} (records : Records settings mapper call stored after) :
    Appends settings mapper stored after := by
  cases records with
  | acquired _ acquired found =>
    have appends := acquired.change.appends found
    obtain ⟨size, ⟨sequence, isSealed, room, within⟩, bytes⟩ := appends.fits
    exact ⟨appends.records, size, ⟨sequence, isSealed, room, within⟩, bytes⟩
  | fixture _ received found => exact received.change.appends found
  | own _ change found => exact change.appends found

/-- The log and its byte counter, with the canonical length of each record. -/
structure Logged (settings : Settings host) (mapper : Mapper) (sizes : List Nat) : Prop where
  sequence : ∀ position (record : Record), mapper.records[position]? = some record → record.sequence = position
  isSealed : List.Forall₂ (Sealed settings) mapper.records sizes
  count : mapper.records.length ≤ MAXIMUM_RECORDS
  bytes : mapper.retainedRecordBytes = sizes.sum
  bounded : mapper.retainedRecordBytes ≤ MAXIMUM_SNAPSHOT_BYTES

theorem logged_initial : Logged settings Mapper.initial [] where
  sequence := by simp [Mapper.initial]
  isSealed := .nil
  count := by simp [Mapper.initial]
  bytes := rfl
  bounded := by simp [Mapper.initial]

theorem Logged.appends {before after : Mapper} {sizes : List Nat} {stored : Record} (logged : Logged settings before sizes)
    (appends : Appends settings before stored after) : ∃ size, Logged settings after (sizes ++ [size]) := by
  obtain ⟨size, fits, bytes⟩ := appends.fits
  refine ⟨size, ?_, ?_, ?_, ?_, ?_⟩
  · intro position record listed
    rw [appends.records, List.getElem?_append] at listed
    split at listed
    · exact logged.sequence position record listed
    next later =>
      rw [List.getElem?_singleton] at listed
      split at listed
      · cases listed
        rw [fits.sequence]
        omega
      · cases listed
  · rw [appends.records]
    exact List.rel_append logged.isSealed (.cons fits.isSealed .nil)
  · rw [appends.records, List.length_append]
    exact fits.room
  · rw [bytes, logged.bytes, List.sum_append, List.sum_singleton]
  · rw [bytes]
    exact fits.bytes

theorem logged_run {calls : List Call} {mapper : Mapper} (run : Run (Performs settings) Mapper.initial calls mapper) :
    ∃ sizes, Logged settings mapper sizes := by
  apply run.invariant (fun _ mapper => ∃ sizes, Logged settings mapper sizes) ⟨[], logged_initial⟩
  rintro labels before call after early ⟨sizes, logged⟩ step
  obtain ⟨stored, _, records⟩ | ⟨bounded, rfl⟩ := performs_cases (idle_run early) step
  · obtain ⟨size, grown⟩ := logged.appends records.appends
    exact ⟨_, grown⟩
  · exact ⟨sizes, ⟨logged.sequence, logged.isSealed, logged.count, logged.bytes, logged.bounded⟩⟩

/-- The log of a reachable mapper, and what every further call does to it. -/
structure LogIntegrity (settings : Settings host) (mapper : Mapper) : Prop where
  logged : ∃ sizes, Logged settings mapper sizes
  returns : ∀ call found after, perform settings call mapper = (.ok found, after) →
    ∃ stored, found = some stored ∧ after.records = mapper.records ++ [stored]
  raises : ∀ call failure after, perform settings call mapper = (.error failure, after) →
    after.records = mapper.records ∧ after.retainedRecordBytes = mapper.retainedRecordBytes

theorem evidence_log_integrity {calls : List Call} {mapper : Mapper} (run : Run (Performs settings) Mapper.initial calls mapper) :
    LogIntegrity settings mapper where
  logged := logged_run run
  returns call found after result := by
    obtain ⟨stored, rfl, _, records⟩ := (perform_ends settings (idle_run run).kind call).returns result
    exact ⟨stored, rfl, records.appends.records⟩
  raises call failure after result := by
    have back := (perform_ends settings (idle_run run).kind call).raises result
    rw [back.saved]
    exact ⟨rfl, rfl⟩

theorem evidence_log_integrity_sample : LogIntegrity sampleSettings (performAll sampleSettings Mapper.initial sampleAnswered) :=
  evidence_log_integrity (performAll_run sampleSettings Mapper.initial sampleAnswered)

end Switchyard.Admission
