import Switchyard.Admission.Calls

/-! The room that a record takes in the log: its canonical size, and what a call
does when the log has no room left. -/

namespace Switchyard.Admission
open Library Json AppServer

variable {host : Host} {settings : Settings host}

def Record.weight (binding : Binding host) (record : Record) : Nat := Rfc8785.extent host (.obj (record.toMembers binding))

/-- The length of one member. -/
def memberExtent (host : Host) (field : String × Json) : Nat := Rfc8785.spelled (text field.1) + 1 + Rfc8785.extent host field.2

theorem memberExtents_object (fields : List (String × Json)) :
    Rfc8785.memberExtents host (object fields) = fields.map (memberExtent host) := by
  unfold object
  induction fields with
  | nil => rfl
  | cons field rest ih => rw [List.map_cons, Rfc8785.memberExtents, ih, List.map_cons, memberExtent]

/-- The record with this digest, at this place of an ordered log. -/
def Record.placed (record : Record) (digest : Text) (place : Nat) : Record :=
  { record with evidenceDigest := digest, sequence := place, acquisitionOrdinal := some place }

/-- The place of a record weighs only by its digits. -/
theorem weight_placed (binding : Binding host) (record : Record) {first last : Text} (same : Rfc8785.spelled first = Rfc8785.spelled last)
    (place : Nat) : (record.placed first place).weight binding + 2 =
      (record.placed last 0).weight binding + 2 * (Rfc8785.decimal place).length := by
  have zero : (Rfc8785.decimal (0 : Nat)).length = 1 := by decide
  unfold Record.weight Record.toMembers Record.placed
  rw [Rfc8785.extent, Rfc8785.extent, memberExtents_object, memberExtents_object]
  unfold Rfc8785.stretched
  simp only [List.map_append, List.sum_append, List.map_cons, List.map_nil, List.sum_cons, List.sum_nil, memberExtent,
    Rfc8785.extent, List.length_append, List.length_map, List.length_cons, List.length_nil, Option.bind_eq_bind,
    Option.bind_some, Option.pure_def, Option.map_some, Option.getD_some,
    zero, same]
  omega

theorem decimal_pos (place : Nat) : 1 ≤ (Rfc8785.decimal place).length := by
  have natural : ¬ (place : Int) < 0 := by omega
  unfold Rfc8785.decimal
  rw [if_neg natural, List.nil_append, List.length_map, Int.natAbs_natCast]
  exact Nat.length_toDigits_pos

theorem decimal_length {place : Nat} (small : place < 10000) : 1 ≤ (Rfc8785.decimal place).length ∧ (Rfc8785.decimal place).length ≤ 4 := by
  have natural : ¬ (place : Int) < 0 := by omega
  unfold Rfc8785.decimal
  rw [if_neg natural, List.nil_append, List.length_map, Int.natAbs_natCast]
  refine ⟨Nat.length_toDigits_pos, ?_⟩
  rw [Nat.length_toDigits_le_iff (by decide) (by decide)]
  exact small

/-! What a record holds is canonical, and so has its weight. -/

open Rfc8785 (Canonical)

theorem canonical_object {fields : List (String × Json)} (each : ∀ field ∈ fields, Canonical field.2) : Canonical (.obj (object fields)) := by
  refine Rfc8785.canonicalMembers_iff.mpr fun member listed => ?_
  obtain ⟨field, inside, rfl⟩ := List.mem_map.mp listed
  exact ⟨Text.scalar_text field.1, each field inside⟩

theorem canonical_of_ok {value : Json} {raw : Bytes} (done : canonical host value = .ok raw) : Canonical value := by
  unfold canonical at done
  cases found : Rfc8785.dumps host value with
  | ok other => exact (Rfc8785.dumps_accepted host value).mp ⟨other, found⟩
  | error failure => cases failure <;> simp [found] at done

theorem canonical_ok {value : Json} (inside : Canonical value) :
    ∃ raw, canonical host value = .ok raw ∧ raw.length = Rfc8785.extent host value := by
  obtain ⟨raw, found⟩ := (Rfc8785.dumps_accepted host value).mpr inside
  exact ⟨raw, by rw [canonical, found], Rfc8785.dumps_spans host value raw found⟩

/-- The fields of an accepted binding are canonical. -/
theorem binding_canonical (binding : Binding host) (field : String) : Canonical (get binding.members field) := by
  have valid := binding.valid
  unfold validateBinding at valid
  obtain ⟨_, _, valid⟩ := bind_ok.mp valid
  obtain ⟨_, _, valid⟩ := bind_ok.mp valid
  obtain ⟨_, _, valid⟩ := bind_ok.mp valid
  obtain ⟨_, _, valid⟩ := bind_ok.mp valid
  obtain ⟨_, _, valid⟩ := bind_ok.mp valid
  obtain ⟨_, _, valid⟩ := bind_ok.mp valid
  obtain ⟨_, _, valid⟩ := bind_ok.mp valid
  obtain ⟨_, _, valid⟩ := bind_ok.mp valid
  obtain ⟨_, _, valid⟩ := bind_ok.mp valid
  obtain ⟨expected, digested, valid⟩ := bind_ok.mp valid
  unfold digestOf at digested
  obtain ⟨raw, encoded, digested⟩ := bind_ok.mp digested
  cases digested
  have inside := Rfc8785.canonicalMembers_iff.mp (canonical_of_ok encoded)
  by_cases digest : field = "binding_digest"
  · subst digest
    unfold require at valid
    split at valid
    next same =>
      rw [names_iff.mp same]
      exact Host.scalar_digest host _
    next => cases valid
  · unfold Json.get
    cases found : binding.members.lookup (text field) with
    | none => trivial
    | some value =>
      have listed := mem_of_lookup found
      refine (inside (text field, value) ?_).2
      rw [List.mem_filter]
      refine ⟨listed, ?_⟩
      simpa [text_inj] using digest

theorem canonical_custody (raw : RawCustody) (bounded : raw.bytes.length ≤ MAXIMUM_USER_INPUT_ECHO_BYTES) :
    Canonical (raw.toJson host) := by
  apply canonical_object
  simp only [List.forall_mem_cons, List.not_mem_nil, false_implies, implies_true, and_true]
  refine ⟨Text.scalar_text _, ?_, Host.scalar_digest host _, Text.scalar_text _, Text.scalar_hex _⟩
  have small : MAXIMUM_USER_INPUT_ECHO_BYTES = 262144 := rfl
  constructor
  · have least : Rfc8785.intMin = -9007199254740991 := by decide
    omega
  · have greatest : Rfc8785.intMax = 9007199254740991 := by decide
    omega

theorem canonical_record (binding : Binding host) {record : Record} (digest : Text.Scalar record.evidenceDigest)
    (sequence : record.sequence ≤ MAXIMUM_RECORDS) (ordinal : ∀ ordinal, record.acquisitionOrdinal = some ordinal → (ordinal : Int) ≤ SAFE_INTEGER_MAX)
    (method : Canonical record.method) (normalized : Canonical record.normalized.toJson)
    (raw : ∀ raw, record.raw = some raw → raw.bytes.length ≤ MAXIMUM_USER_INPUT_ECHO_BYTES) :
    Canonical (.obj (record.toMembers binding)) := by
  have least : Rfc8785.intMin = -9007199254740991 := by decide
  have greatest : Rfc8785.intMax = 9007199254740991 := by decide
  have most : SAFE_INTEGER_MAX = 9007199254740991 := by decide
  have records : MAXIMUM_RECORDS = 4096 := rfl
  unfold Record.toMembers
  apply canonical_object
  simp only [List.forall_mem_append, List.forall_mem_cons, List.not_mem_nil, false_implies, implies_true, and_true]
  refine ⟨⟨⟨Text.scalar_text _, digest, ⟨by omega, by omega⟩, ?_, ?_⟩, ?_⟩, Text.scalar_text _, method, normalized, ?_⟩
  · cases found : record.acquisitionOrdinal with
    | none => trivial
    | some place =>
      have bounded := ordinal place found
      exact ⟨by omega, by omega⟩
  · cases record.acquisitionKind with
    | none => trivial
    | some kind => exact Text.scalar_text _
  · intro field listed
    obtain ⟨name, _, rfl⟩ := List.mem_map.mp listed
    exact binding_canonical binding name
  · cases found : record.raw with
    | none => trivial
    | some custody => exact canonical_custody custody (raw custody found)

/-- Printable ASCII without quotes and backslashes is written as it is. -/
theorem spelled_plain {value : Text} (plain : ∀ point ∈ value, 0x20 ≤ point.val ∧ point.val < 0x80 ∧ point.val ≠ 0x22 ∧ point.val ≠ 0x5C) :
    Rfc8785.spelled value = value.length + 2 := by
  have same : value.flatMap Rfc8785.escape = value := by
    induction value with
    | nil => rfl
    | cons point rest ih =>
      obtain ⟨low, high, quote, slash⟩ := plain point List.mem_cons_self
      have here : Rfc8785.escape point = [point] := by
        unfold Rfc8785.escape
        repeat rw [if_neg (by omega)]
      rw [List.flatMap_cons, here, ih fun other listed => plain other (List.mem_cons_of_mem _ listed)]
      rfl
  have scalar : Text.Scalar value := by
    intro point listed
    have bounds := plain point listed
    simp [Text.surrogate]
    omega
  have single : ∀ point ∈ value, (Text.encodePoint point).length = 1 := by
    intro point listed
    have bounds := plain point listed
    unfold Text.encodePoint
    rw [if_pos bounds.2.1]
    rfl
  unfold Rfc8785.spelled
  rw [same, Text.encode?, if_pos scalar, Option.getD_some, List.length_flatMap]
  congr 1
  clear same scalar plain
  induction value with
  | nil => rfl
  | cons point rest ih =>
    rw [List.map_cons, List.sum_cons, single point List.mem_cons_self, ih fun other listed => single other (List.mem_cons_of_mem _ listed),
      List.length_cons]
    omega

theorem hex_length (bytes : Bytes) : (Text.hex bytes).length = 2 * bytes.length := by
  induction bytes with
  | nil => rfl
  | cons byte rest ih =>
    unfold Text.hex at ih ⊢
    rw [List.flatMap_cons, List.length_append, ih, List.length_cons]
    simp
    omega

/-- Hexadecimal digits are written as they are. -/
theorem hex_plain {bytes : Bytes} {point : CodePoint} (listed : point ∈ Text.hex bytes) :
    0x20 ≤ point.val ∧ point.val < 0x80 ∧ point.val ≠ 0x22 ∧ point.val ≠ 0x5C := by
  have digits : ∀ value < 16, 0x20 ≤ (Text.hexDigit value).val ∧ (Text.hexDigit value).val < 0x80 ∧
      (Text.hexDigit value).val ≠ 0x22 ∧ (Text.hexDigit value).val ≠ 0x5C := by decide
  obtain ⟨byte, _, inside⟩ := List.mem_flatMap.mp listed
  have small := byte.toNat_lt
  simp only [List.mem_cons, List.not_mem_nil, or_false] at inside
  rcases inside with rfl | rfl
  · exact digits _ (by omega)
  · exact digits _ (by omega)

theorem spelled_digest (host : Host) (raw : Bytes) : Rfc8785.spelled (host.digest raw) = 73 := by
  have scheme_plain : (text "sha256:").all (fun point => 0x20 ≤ point.val && point.val < 0x80 && point.val != 0x22 && point.val != 0x5C) = true := by
    decide
  unfold Host.digest
  rw [spelled_plain]
  · have prefix_ : (text "sha256:").length = 7 := by decide
    rw [List.length_append, hex_length, (host.sha256 raw).property, prefix_]
  · intro point listed
    rcases List.mem_append.mp listed with scheme | digit
    · simpa [and_assoc] using List.all_eq_true.mp scheme_plain point scheme
    · exact hex_plain digit

/-- Raw bytes take two digits each, and little besides. -/
theorem extent_custody (raw : RawCustody) (short : raw.bytes.length ≤ MAXIMUM_USER_INPUT_ECHO_BYTES) :
    Rfc8785.extent host (raw.toJson host) ≤ 2 * raw.bytes.length + 300 := by
  have digits : (Rfc8785.decimal (raw.bytes.length : Int)).length ≤ 6 := by
    have small : MAXIMUM_USER_INPUT_ECHO_BYTES = 262144 := rfl
    have natural : ¬ (raw.bytes.length : Int) < 0 := by omega
    unfold Rfc8785.decimal
    rw [if_neg natural, List.nil_append, List.length_map, Int.natAbs_natCast, Nat.length_toDigits_le_iff (by decide) (by decide)]
    omega
  have named : Rfc8785.spelled (text raw.representation.name) ≤ 60 := by
    cases raw.representation <;> decide
  have encoding : Rfc8785.spelled (text "hex") = 5 := by decide
  have keys : Rfc8785.spelled (text "representation") = 16 ∧ Rfc8785.spelled (text "byte_length") = 13 ∧
      Rfc8785.spelled (text "sha256") = 8 ∧ Rfc8785.spelled (text "encoding") = 10 ∧ Rfc8785.spelled (text "bytes_hex") = 11 := by
    decide
  obtain ⟨representation, length, digest, encoded, hex⟩ := keys
  unfold RawCustody.toJson
  rw [Rfc8785.extent, memberExtents_object]
  simp only [Rfc8785.stretched, List.map_cons, List.map_nil, List.sum_cons, List.sum_nil, List.length_cons, List.length_nil,
    memberExtent, literal, Rfc8785.extent, spelled_digest, spelled_plain fun _ => hex_plain, hex_length, encoding,
    representation, length, digest, encoded, hex]
  omega

def Record.carrying (record : Record) (raw : RawCustody) : Record := { record with raw := some raw }

/-- Custody of raw bytes stands in a record where it would have had null. -/
theorem weight_carrying (binding : Binding host) {record : Record} (bare : record.raw = none) (raw : RawCustody) :
    (record.carrying raw).weight binding + 4 = record.weight binding + Rfc8785.extent host (raw.toJson host) := by
  unfold Record.weight Record.toMembers Record.carrying
  rw [Rfc8785.extent, Rfc8785.extent, memberExtents_object, memberExtents_object]
  simp only [Rfc8785.stretched, List.map_append, List.sum_append, List.map_cons, List.map_nil, List.sum_cons, List.sum_nil, memberExtent,
    List.length_append, List.length_map, List.length_cons, List.length_nil, Option.map_some, Option.map_none, Option.getD_some,
    Option.getD_none, Rfc8785.extent, bare]
  omega

/-- The record that `_record` would append, without its digest. -/
def draft (mapper : Mapper) (label : Json) (raw : Option RawCustody) (normalized : Normalized) (digest : Text) : Record :=
  ⟨digest, mapper.records.length, mapper.currentAcquisitionOrdinal, mapper.currentAcquisitionKind, label, normalized, raw⟩

/-- A canonical record is appended exactly where its weight fits. -/
theorem evidence_weighed {mapper : Mapper} {label : Json} {raw : Option RawCustody} {normalized : Normalized}
    (room : mapper.records.length < MAXIMUM_RECORDS)
    (inside : ∀ digest, Text.Scalar digest → Canonical (.obj ((draft mapper label raw normalized digest).toMembers settings.binding))) :
    ∃ digest, Rfc8785.spelled digest = 73 ∧ evidence settings mapper label raw normalized =
      let stored := draft mapper label raw normalized digest
      if MAXIMUM_SNAPSHOT_BYTES < mapper.retainedRecordBytes + stored.weight settings.binding then
        .error (refused "provider-admission evidence exceeds cumulative byte bound")
      else .ok (stored, stored.weight settings.binding) := by
  have zeros : Text.Scalar (text "sha256:" ++ List.replicate 64 48) := by decide
  have bare : Canonical (.obj (((draft mapper label raw normalized (text "sha256:" ++ List.replicate 64 48)).toMembers settings.binding).filter
      fun member => member.1 != text "evidence_digest")) := by
    refine Rfc8785.canonicalMembers_iff.mpr fun member listed => ?_
    exact Rfc8785.canonicalMembers_iff.mp (inside _ zeros) member (List.mem_of_mem_filter listed)
  obtain ⟨plain, encoded, _⟩ := @canonical_ok host _ bare
  refine ⟨host.digest (EVIDENCE_DOMAIN ++ plain), spelled_digest host _, ?_⟩
  obtain ⟨whole, canonical_, weight⟩ := @canonical_ok host _ (inside _ (Host.scalar_digest host (EVIDENCE_DOMAIN ++ plain)))
  have digested : digestOf host EVIDENCE_DOMAIN ((draft mapper label raw normalized (text "sha256:" ++ List.replicate 64 48)).toMembers
      settings.binding) "evidence_digest" = .ok (host.digest (EVIDENCE_DOMAIN ++ plain)) := by
    rw [digestOf, encoded]
    rfl
  unfold evidence
  rw [if_neg (Nat.not_le.mpr room)]
  unfold draft at digested canonical_ weight ⊢
  simp only [digested, bind, Except.bind, canonical_, weight, Record.weight]
  rfl

/-- What a frame in its place is noted as, before it is digested. -/
def noted (label : Json) (normalized : Normalized) : Record := ⟨[], 0, none, some .notification, label, normalized, none⟩

/-- In a log with room for its raw bytes, a fact about a notification is recorded. -/
theorem evidence_roomy {mapper : Mapper} {place bare : Nat} {label : Json} {raw : RawCustody} {normalized : Normalized}
    (room : mapper.records.length < MAXIMUM_RECORDS) (here : mapper.records.length = place)
    (ordinal : mapper.currentAcquisitionOrdinal = some place) (kind : mapper.currentAcquisitionKind = some .notification)
    (labelled : Canonical label) (known : Canonical normalized.toJson) (short : raw.bytes.length ≤ MAXIMUM_USER_INPUT_ECHO_BYTES)
    (weighs : ((noted label normalized).placed (text "sha256:" ++ List.replicate 64 48) 0).weight settings.binding ≤ bare)
    (fits : mapper.retainedRecordBytes + (bare + 2 * raw.bytes.length + 302) ≤ MAXIMUM_SNAPSHOT_BYTES) :
    ∃ stored size, stored.normalized = normalized ∧ size ≤ bare + 2 * raw.bytes.length + 302 ∧
      evidence settings mapper label raw normalized = .ok (stored, size) := by
  have small : MAXIMUM_RECORDS = 4096 := rfl
  have most : SAFE_INTEGER_MAX = 9007199254740991 := by decide
  have shape (digest : Text) : draft mapper label raw normalized digest =
      ((noted label normalized).placed digest place).carrying raw := by
    unfold draft
    rw [here, ordinal, kind]
    rfl
  obtain ⟨digest, spelled, result⟩ := @evidence_weighed host settings mapper label raw normalized room (by
    intro digest scalar
    rw [shape]
    apply canonical_record
    · exact scalar
    · show place ≤ MAXIMUM_RECORDS
      omega
    · intro other found
      cases found
      omega
    · exact labelled
    · exact known
    · intro other found
      cases found
      exact short)
  have zeros : Rfc8785.spelled (text "sha256:" ++ List.replicate 64 48) = 73 := by decide
  have placed := weight_placed settings.binding (noted label normalized) (spelled.trans zeros.symm) place
  have digits := decimal_length (show place < 10000 by omega)
  have custody := weight_carrying settings.binding (show ((noted label normalized).placed digest place).raw = none from rfl) raw
  have extent := @extent_custody host raw short
  have weighed : (draft mapper label raw normalized digest).weight settings.binding ≤ bare + 2 * raw.bytes.length + 302 := by
    rw [shape]
    omega
  refine ⟨draft mapper label raw normalized digest, _, rfl, weighed, ?_⟩
  rw [result]
  exact if_neg (by omega)

/-! What a notification in its place does. -/

def notice (ordinal : Nat) (message : ServerMessage) : AcquisitionEnvelope :=
  ⟨.int ordinal, literal "NOTIFICATION", some message, .null, none, .null⟩

theorem perform_notice {mapper : Mapper} (open_ : mapper.acquisitionCut = none)
    (small : (mapper.expectedAcquisitionOrdinal : Int) ≤ SAFE_INTEGER_MAX) (message : ServerMessage) :
    perform settings (.consumeEnvelope (notice mapper.expectedAcquisitionOrdinal message)) mapper =
      match consumeImpl settings message false (mapper.entered .notification mapper.expectedAcquisitionOrdinal) with
      | (.ok found, after) => (.ok found, after.cleared)
      | (.error failure, after) => (.error failure, restored mapper after.cleared) := by
  have kind : AcquisitionKind.of (literal "NOTIFICATION") = .notification := by decide
  have bounded : boundedInt "acquisition ordinal" (.int mapper.expectedAcquisitionOrdinal) 0 SAFE_INTEGER_MAX =
      .ok mapper.expectedAcquisitionOrdinal := by
    rw [boundedInt, if_pos ⟨Int.natCast_nonneg _, small⟩]
  have hashable : requireHashable (literal "NOTIFICATION") = .ok () := by decide
  have acquires (start : Mapper) (same : start.expectedAcquisitionOrdinal = mapper.expectedAcquisitionOrdinal) :
      acquire settings (notice mapper.expectedAcquisitionOrdinal message) mapper.expectedAcquisitionOrdinal start =
        consumeImpl settings message false { start with expectedAcquisitionOrdinal := start.expectedAcquisitionOrdinal + 1 } := by
    simp only [acquire, notice, Effect.bind_apply, Effect.read_apply, same, ne_eq, not_true_eq_false, if_false, Effect.modify_apply, kind,
      Option.isSome_none, Bool.or_false, Bool.not_true, Bool.false_eq_true]
    rfl
  have entered : mapper.entered .notification mapper.expectedAcquisitionOrdinal = { mapper with
      currentAcquisitionOrdinal := some mapper.expectedAcquisitionOrdinal
      currentAcquisitionKind := some .notification
      expectedAcquisitionOrdinal := mapper.expectedAcquisitionOrdinal + 1 } := by
    rw [Mapper.entered, if_pos rfl]
  have inside := acquires { mapper with
    currentAcquisitionOrdinal := some mapper.expectedAcquisitionOrdinal
    currentAcquisitionKind := some .notification } rfl
  have body : (do
      requireAcquisitionOpen
      let ordinal ← Effect.lift (boundedInt "acquisition ordinal" (.int mapper.expectedAcquisitionOrdinal) 0 SAFE_INTEGER_MAX)
      Effect.modify fun mapper => { mapper with currentAcquisitionOrdinal := some ordinal.toNat }
      Effect.lift (requireHashable (literal "NOTIFICATION"))
      Effect.modify fun mapper => { mapper with currentAcquisitionKind := some (.of (literal "NOTIFICATION")) }
      (acquire settings (notice mapper.expectedAcquisitionOrdinal message) ordinal.toNat).ensuring Mapper.cleared : Operation (Option Record)) mapper =
      ((consumeImpl settings message false (mapper.entered .notification mapper.expectedAcquisitionOrdinal)).1,
        (consumeImpl settings message false (mapper.entered .notification mapper.expectedAcquisitionOrdinal)).2.cleared) := by
    rw [entered, ← inside]
    simp only [bounded, hashable, kind, requireAcquisitionOpen, Effect.bind_apply, Effect.read_apply]
    rw [if_neg (by simp [open_])]
    rfl
  refine (Effect.recovering_of body).trans ?_
  cases consumeImpl settings message false (mapper.entered .notification mapper.expectedAcquisitionOrdinal) with
  | mk outcome after => cases outcome <;> rfl

theorem record_apply (mapper : Mapper) (label : Json) (raw : Option RawCustody) (normalized : Normalized) :
    record settings label raw normalized mapper = match evidence settings mapper label raw normalized with
      | .ok (stored, size) => (.ok stored, mapper.appended stored size)
      | .error failure => (.error failure, mapper) := by
  unfold record
  simp only [Effect.bind_apply, Effect.read_apply]
  cases evidence settings mapper label raw normalized with
  | ok found => rfl
  | error failure => rfl

theorem providerCustody_input {first last : Mapper} {message : ServerMessage}
    (same : first.bounded.turnInput = last.bounded.turnInput) :
    providerCustody settings first message = providerCustody settings last message := by
  unfold providerCustody selectedEcho isInputEcho
  rw [same]

/-- A frame of an unknown method is a watermark. -/
theorem consumeImpl_plain {mapper : Mapper} {message : ServerMessage} {method : Text} {raw : RawCustody}
    (custody : providerCustody settings mapper message = .ok (false, raw)) (named : message.method = some method)
    (sized : 1 ≤ method.length ∧ method.length ≤ MAXIMUM_ID_CODEPOINTS) (opened : gate mapper method false = none)
    (other : among ["providerRequest/started", "rawResponse/started", "providerAdmission/refused", "rawResponse/completed", "error",
      "thread/started", "turn/started", "turn/completed", "item/started", "item/completed", "item/agentMessage/delta"] method = false)
    (foreign : providerBoundary method = false) :
    consumeImpl settings message false mapper = (some <$> record settings (.str method) (some raw) .watermark) mapper := by
  simp only [among, List.any_cons, List.any_nil, Bool.or_false, Bool.or_eq_false_iff, beq_eq_false_iff_ne] at other
  obtain ⟨request, started, refused, completed, failure, thread, turn, ended, itemStarted, itemCompleted, delta⟩ := other
  have fact : among ["thread/started", "turn/started", "turn/completed"] method = false := by simp [among, thread, turn, ended]
  have item : among ["item/started", "item/completed", "item/agentMessage/delta"] method = false := by
    simp [among, itemStarted, itemCompleted, delta]
  simp only [consumeImpl, Effect.bind_apply, Effect.read_apply, custody, named, sized, and_self, if_true, opened, Bool.false_eq_true,
    if_false, notification, request, started, refused, completed, failure, fact, item, false_and, foreign, watermark, itemCompleted]
  rfl

/-- An item frame of a closed shape is a watermark where the lifecycle says so. -/
theorem consumeImpl_selected {mapper : Mapper} {message : ServerMessage} {method : Text} {raw : RawCustody} {after : BoundedTurn}
    (custody : providerCustody settings mapper message = .ok (true, raw)) (named : message.method = some method)
    (item : method = text "item/started" ∨ method = text "item/completed" ∨ method = text "item/agentMessage/delta")
    (opened : gate mapper method false = none)
    (result : lifecycle method message.params (isInputEcho settings mapper message) mapper.bounded = (.ok .watermark, after)) :
    consumeImpl settings message false mapper =
      (some <$> record settings (.str method) (some raw) .watermark) { mapper with bounded := after } := by
  obtain ⟨selection, _⟩ := providerCustody_ok custody
  obtain ⟨contract, output⟩ := selectedEcho_true selection
  have sized : 1 ≤ method.length ∧ method.length ≤ MAXIMUM_ID_CODEPOINTS := by
    rcases item with rfl | rfl | rfl <;> decide
  have listed : among ["item/started", "item/completed", "item/agentMessage/delta"] method = true := by
    rcases item with rfl | rfl | rfl <;> decide
  have fact : among ["thread/started", "turn/started", "turn/completed"] method = false := by
    rcases item with rfl | rfl | rfl <;> decide
  have others : method ≠ text "providerRequest/started" ∧ method ≠ text "rawResponse/started" ∧ method ≠ text "providerAdmission/refused" ∧
      method ≠ text "rawResponse/completed" ∧ method ≠ text "error" := by
    rcases item with rfl | rfl | rfl <;> decide
  obtain ⟨request, started, refused, completed, failure⟩ := others
  have shaped : (!isInputEcho settings mapper message && !!isInputEcho settings mapper message) = false := by
    cases isInputEcho settings mapper message <;> rfl
  simp only [consumeImpl, Effect.bind_apply, Effect.read_apply, custody, named, sized, and_self, if_true, opened, Bool.false_eq_true,
    if_false, notification, request, started, refused, completed, failure, fact, listed, contract, boundedTurnAgentOutput, output,
    Effect.lift_ok, shaped, onBounded, result]
  rfl

/-- The closed summary of an admitted turn is a local fact that completes it. -/
theorem consumeImpl_summary {mapper : Mapper} {message : ServerMessage} {raw : RawCustody}
    (custody : providerCustody settings mapper message = .ok (true, raw)) (named : message.method = some (text "turn/completed"))
    (opened : gate mapper (text "turn/completed") false = none)
    (result : lifecycle (text "turn/completed") message.params (isInputEcho settings mapper message) mapper.bounded =
      (.ok .proceed, mapper.bounded))
    (agrees : localFactRefusal settings mapper (text "turn/completed") message.params = none)
    (admitted : mapper.providerExecutionIdentity.isSome = true) :
    consumeImpl settings message false mapper = (some <$> record settings (literal "turn/completed") (some raw) .localTurnFact)
      { mapper with mechanismState := .providerCompleted } := by
  obtain ⟨selection, _⟩ := providerCustody_ok custody
  obtain ⟨contract, output⟩ := selectedEcho_true selection
  have sized : 1 ≤ (text "turn/completed").length ∧ (text "turn/completed").length ≤ MAXIMUM_ID_CODEPOINTS := by decide
  have fact : among ["thread/started", "turn/started", "turn/completed"] (text "turn/completed") = true := by decide
  have others : text "turn/completed" ≠ text "providerRequest/started" ∧ text "turn/completed" ≠ text "rawResponse/started" ∧
      text "turn/completed" ≠ text "providerAdmission/refused" ∧ text "turn/completed" ≠ text "rawResponse/completed" ∧
      text "turn/completed" ≠ text "error" := by decide
  obtain ⟨request, started, refused, completed, failure⟩ := others
  have shaped : (!isInputEcho settings mapper message && !!isInputEcho settings mapper message) = false := by
    cases isInputEcho settings mapper message <;> rfl
  simp only [consumeImpl, Effect.bind_apply, Effect.read_apply, custody, named, sized, and_self, if_true, opened, Bool.false_eq_true,
    if_false, notification, request, started, refused, completed, failure, fact, contract, boundedTurnAgentOutput, output,
    Effect.lift_ok, shaped, onBounded, result]
  show (some <$> localFact settings (text "turn/completed") message.params raw) mapper = _
  have local_ : localFact settings (text "turn/completed") message.params raw mapper =
      record settings (literal "turn/completed") (some raw) .localTurnFact { mapper with mechanismState := .providerCompleted } := by
    simp only [localFact, Effect.bind_apply, Effect.read_apply, agrees, admitted, and_self, if_true, Effect.modify_apply]
    rfl
  show (localFact settings (text "turn/completed") message.params raw >>= fun stored => Pure.pure (some stored)) mapper = _
  rw [Effect.bind_apply, local_]
  rfl

end Switchyard.Admission
