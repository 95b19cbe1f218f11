import Switchyard.Admission.Received
import Switchyard.Library.Transition

/-! The mutating calls of a mapper. A call that returns has recorded one change; one
that raises leaves everything as it was, except a bounded turn that leaks. -/

namespace Switchyard.Admission
open Library Json AppServer

variable {host : Host} {settings : Settings host} {mapper : Mapper}

inductive Call
  | consumeEnvelope (envelope : AcquisitionEnvelope)
  | consumeCut (cut : AcquisitionCut)
  | markAcquisitionLoss (detail : Json)
  | recordLegacyLocalFact (kind : Json)
  | consume (message : ServerMessage) (serverRequest : Bool)

def Call.envelope? : Call → Option AcquisitionEnvelope
  | .consumeEnvelope envelope => some envelope
  | _ => none

def perform (settings : Settings host) : Call → Operation (Option Record)
  | .consumeEnvelope envelope => consumeEnvelope settings envelope
  | .consumeCut cut => some <$> consumeCut settings cut
  | .markAcquisitionLoss detail => some <$> markAcquisitionLoss settings detail
  | .recordLegacyLocalFact kind => some <$> recordLegacyLocalFact settings kind
  | .consume message serverRequest => consume settings message serverRequest

/-- The state in which an envelope of this kind and ordinal is consumed. -/
def Mapper.entered (mapper : Mapper) (kind : AcquisitionKind) (ordinal : Nat) : Mapper := { mapper with
  currentAcquisitionOrdinal := some ordinal
  currentAcquisitionKind := some kind
  expectedAcquisitionOrdinal :=
    if ordinal = mapper.expectedAcquisitionOrdinal then mapper.expectedAcquisitionOrdinal + 1
    else max mapper.expectedAcquisitionOrdinal (ordinal + 1) }

def Mapper.cleared (mapper : Mapper) : Mapper :=
  { mapper with currentAcquisitionOrdinal := none, currentAcquisitionKind := none }

/-- A provider message that is alone in its envelope. -/
structure Carries (envelope : AcquisitionEnvelope) (message : ServerMessage) : Prop where
  message : envelope.message = some message
  diagnostic : envelope.diagnostic = .null
  rawBytes : envelope.rawBytes = none

/-- What an envelope records: the change, and for a provider message in its place what is received of it. -/
structure Acquired (settings : Settings host) (mapper : Mapper) (envelope : AcquisitionEnvelope) (ordinal : Nat) (label : Json)
    (raw : Option RawCustody) (normalized : Normalized) (assigned : Mapper) : Prop where
  change : Change settings (mapper.entered (.of envelope.kind) ordinal) label raw normalized assigned
  sequenced : ordinal = mapper.expectedAcquisitionOrdinal ∨ ∃ detail execution, normalized = .discrepancy detail execution
  received : ordinal = mapper.expectedAcquisitionOrdinal → ∀ message, Carries envelope message → envelope.requestMethod = .null →
    AcquisitionKind.of envelope.kind = .notification ∨ AcquisitionKind.of envelope.kind = .serverRequest →
    Received settings (mapper.entered (.of envelope.kind) ordinal) message label raw normalized assigned
  bare : raw = none → ∃ detail execution, normalized = .discrepancy detail execution
  carried : (∃ detail execution, normalized = .discrepancy detail execution) ∨ ∃ message, Carries envelope message ∧
    (AcquisitionKind.of envelope.kind = .notification ∨ AcquisitionKind.of envelope.kind = .serverRequest →
      envelope.requestMethod = .null) ∧
    (AcquisitionKind.of envelope.kind = .clientRequest → ∃ requestMethod, envelope.requestMethod = .str requestMethod ∧
      Selects settings (mapper.entered (.of envelope.kind) ordinal) requestMethod message assigned.bounded.turnInput)

/-- What one returning call does to a mapper. -/
inductive Records (settings : Settings host) (mapper : Mapper) : Call → Record → Mapper → Prop
  | acquired {envelope : AcquisitionEnvelope} {ordinal : Int} {label : Json} {raw : Option RawCustody} {normalized : Normalized}
      {assigned : Mapper} {stored : Record} {size : Nat} :
      boundedInt "acquisition ordinal" envelope.ordinal 0 SAFE_INTEGER_MAX = .ok ordinal →
      Acquired settings mapper envelope ordinal.toNat label raw normalized assigned →
      evidence settings assigned label raw normalized = .ok (stored, size) →
      Records settings mapper (.consumeEnvelope envelope) stored (assigned.appended stored size).cleared
  | fixture {message : ServerMessage} {serverRequest : Bool} {label : Json} {raw : Option RawCustody} {normalized : Normalized}
      {assigned : Mapper} {stored : Record} {size : Nat} :
      settings.allowUnorderedFixture = true → Received settings mapper message label raw normalized assigned →
      evidence settings assigned label raw normalized = .ok (stored, size) →
      Records settings mapper (.consume message serverRequest) stored (assigned.appended stored size)
  | own {call : Call} {label : Json} {normalized : Normalized} {assigned : Mapper} {stored : Record} {size : Nat} :
      call.envelope? = none → Change settings mapper label none normalized assigned →
      evidence settings assigned label none normalized = .ok (stored, size) →
      Records settings mapper call stored (assigned.appended stored size)

/-- The envelope would be consumed in its place, and leaves the bounded turn moved although its record is refused. -/
structure LeaksEnvelope (settings : Settings host) (mapper : Mapper) (envelope : AcquisitionEnvelope) : Prop where
  sequenced : ∃ ordinal, boundedInt "acquisition ordinal" envelope.ordinal 0 SAFE_INTEGER_MAX = .ok ordinal ∧
    ordinal.toNat = mapper.expectedAcquisitionOrdinal
  carries : ∃ message, Carries envelope message ∧
    (AcquisitionKind.of envelope.kind = .notification ∧ envelope.requestMethod = .null ∧
        LeaksMessage settings (mapper.entered .notification mapper.expectedAcquisitionOrdinal) message ∨
      AcquisitionKind.of envelope.kind = .clientRequest ∧ ∃ requestMethod, envelope.requestMethod = .str requestMethod ∧
        LeaksRequest settings (mapper.entered .clientRequest mapper.expectedAcquisitionOrdinal) requestMethod message)

def Leaks (settings : Settings host) (mapper : Mapper) (call : Call) : Prop :=
  mapper.acquisitionCut = none ∧ match call with
    | .consumeEnvelope envelope => LeaksEnvelope settings mapper envelope
    | .consume message serverRequest =>
      settings.allowUnorderedFixture = true ∧ serverRequest = false ∧ LeaksMessage settings mapper message
    | .consumeCut _ | .markAcquisitionLoss _ | .recordLegacyLocalFact _ => False

theorem requireHashable_of {kind : Json} (known : AcquisitionKind.of kind ≠ .unknown) : requireHashable kind = .ok () := by
  unfold AcquisitionKind.of at known
  cases kind with
  | str value => rfl
  | _ => simp [is, equal, number?] at known

/-- A discrepancy of the envelope itself. -/
private theorem adapter_ends {envelope : AcquisitionEnvelope} {ordinal : Nat} {raw : Option RawCustody} (detail : Text)
    (intact : ¬ LeaksEnvelope settings mapper envelope)
    (sequenced : ordinal = mapper.expectedAcquisitionOrdinal → ∀ message, Carries envelope message → envelope.requestMethod = .null →
      ¬ (AcquisitionKind.of envelope.kind = .notification ∨ AcquisitionKind.of envelope.kind = .serverRequest)) :
    EndsSome settings mapper (Acquired settings mapper envelope ordinal) (LeaksEnvelope settings mapper envelope)
      (some <$> markDiscrepancy settings (.str detail) (literal "adapter/acquisition") raw)
      (mapper.entered (.of envelope.kind) ordinal) := by
  apply Ends.some
  apply Ends.harmless _ intact
  apply markDiscrepancy_ends
  · exact ⟨.discrepancy _, .inr ⟨_, _, rfl⟩, fun place message carries null kind => absurd kind (sequenced place message carries null),
      fun _ => ⟨_, _, rfl⟩, .inl ⟨_, _, rfl⟩⟩
  · rfl
  · intro _
    simp [Mapper.entered]

/-- The shape that all four message kinds share. -/
private theorem shaped_ends {envelope : AcquisitionEnvelope} {ordinal : Nat} {body : ServerMessage → Operation (Option Record)}
    (ends : ∀ message, Carries envelope message →
      EndsSome settings mapper (Acquired settings mapper envelope ordinal) (LeaksEnvelope settings mapper envelope) (body message)
        (mapper.entered (.of envelope.kind) ordinal)) :
    EndsSome settings mapper (Acquired settings mapper envelope ordinal) (LeaksEnvelope settings mapper envelope)
      (match envelope.message with
        | none => some <$> markDiscrepancy settings (literal "ordered message envelope shape mismatch")
            (literal "adapter/acquisition") none
        | some message =>
          if !(envelope.diagnostic matches .null) || envelope.rawBytes.isSome then
            some <$> markDiscrepancy settings (literal "ordered message envelope shape mismatch")
              (literal "adapter/acquisition") none
          else body message)
      (mapper.entered (.of envelope.kind) ordinal) := by
  cases found : envelope.message with
  | none =>
    apply adapter_ends
    · rintro ⟨_, message, carries, _⟩
      cases found.symm.trans carries.message
    · intro _ message carries
      cases found.symm.trans carries.message
  | some message =>
    apply Effect.Meets.ite
    · intro mismatch
      have bare (message : ServerMessage) (carries : Carries envelope message) : False := by
        rw [carries.diagnostic, carries.rawBytes] at mismatch
        cases mismatch
      apply adapter_ends
      · rintro ⟨_, message, carries, _⟩
        exact bare message carries
      · intro _ message carries
        cases bare message carries
    · intro matched
      apply ends
      simp only [Bool.or_eq_true, not_or, Bool.not_eq_true, Option.isSome_eq_false_iff, Option.isNone_iff_eq_none] at matched
      refine ⟨found, ?_, matched.2⟩
      cases shape : envelope.diagnostic with
      | null => rfl
      | _ =>
        rw [shape] at matched
        cases matched.1

/-- An envelope that records as `Acquired` says, or fails with the bounded turn leaked as `LeaksEnvelope` says. -/
theorem acquire_ends (mapper : Mapper) {envelope : AcquisitionEnvelope} {ordinal : Int}
    (sequenced : boundedInt "acquisition ordinal" envelope.ordinal 0 SAFE_INTEGER_MAX = .ok ordinal) :
    EndsSome settings mapper (Acquired settings mapper envelope ordinal.toNat) (LeaksEnvelope settings mapper envelope)
      (acquire settings envelope ordinal.toNat) { mapper with
        currentAcquisitionOrdinal := some ordinal.toNat
        currentAcquisitionKind := some (.of envelope.kind) } := by
  unfold acquire
  apply Effect.Meets.bind
  apply Effect.Meets.read
  apply Effect.Meets.ite
  · intro gap
    apply Effect.Meets.bind
    apply Effect.Meets.modify
    have entered : mapper.entered (.of envelope.kind) ordinal.toNat = { mapper with
        currentAcquisitionOrdinal := some ordinal.toNat
        currentAcquisitionKind := some (.of envelope.kind)
        expectedAcquisitionOrdinal := max mapper.expectedAcquisitionOrdinal (ordinal.toNat + 1) } := by
      rw [Mapper.entered, if_neg gap]
    rw [← entered]
    apply adapter_ends
    · rintro ⟨⟨other, valid, place⟩, _⟩
      cases sequenced.symm.trans valid
      exact gap place
    · intro place
      exact absurd place gap
  · intro place
    have place : ordinal.toNat = mapper.expectedAcquisitionOrdinal := by simpa using place
    apply Effect.Meets.bind
    apply Effect.Meets.modify
    have entered : mapper.entered (.of envelope.kind) ordinal.toNat = { mapper with
        currentAcquisitionOrdinal := some ordinal.toNat
        currentAcquisitionKind := some (.of envelope.kind)
        expectedAcquisitionOrdinal := mapper.expectedAcquisitionOrdinal + 1 } := by
      rw [Mapper.entered, if_pos place]
    rw [← entered]
    have fails (intact : ¬ LeaksEnvelope settings mapper envelope) :
        Fails mapper (LeaksEnvelope settings mapper envelope) (mapper.entered (.of envelope.kind) ordinal.toNat) :=
      ⟨rfl, by simp [Mapper.entered, intact]⟩
    obtain ⟨start, same⟩ : ∃ start, mapper.entered (.of envelope.kind) ordinal.toNat = start := ⟨_, rfl⟩
    have provider {message : ServerMessage} {serverRequest : Bool} (carries : Carries envelope message)
        (null : envelope.requestMethod = .null)
        (kind : AcquisitionKind.of envelope.kind = if serverRequest then .serverRequest else .notification) :
        EndsSome settings mapper (Acquired settings mapper envelope ordinal.toNat) (LeaksEnvelope settings mapper envelope)
          (consumeImpl settings message serverRequest) start := by
      rw [← same]
      apply Effect.Meets.weaken (consumeImpl_ends ?_)
      · rintro found after ⟨stored, rfl, label, raw, normalized, assigned, size, received, rest⟩
        refine ⟨stored, rfl, label, raw, normalized, assigned, size, ⟨received.change, .inl place, ?_, received.bare, ?_⟩, rest⟩
        · intro _ other again _ _
          cases carries.message.symm.trans again.message
          exact received
        · refine .inr ⟨message, carries, fun _ => null, ?_⟩
          intro request
          cases serverRequest <;> cases kind.symm.trans request
      · intro failure after failed
        refine ⟨failed.records, failed.bounded.trans (not_congr ?_)⟩
        rw [place]
        constructor
        · rintro ⟨rfl, leaks⟩
          have notification : AcquisitionKind.of envelope.kind = .notification := by simpa using kind
          rw [notification] at leaks
          exact ⟨⟨ordinal, sequenced, place⟩, message, carries, .inl ⟨notification, null, leaks⟩⟩
        · rintro ⟨_, other, again, ⟨notification, _, leaks⟩ | ⟨request, _⟩⟩
          · cases carries.message.symm.trans again.message
            rw [notification]
            refine ⟨?_, leaks⟩
            cases serverRequest with
            | false => rfl
            | true => cases kind.symm.trans notification
          · cases serverRequest <;> cases kind.symm.trans request
      · intro other entry
        have found : AcquisitionKind.of envelope.kind = other := by simpa [Mapper.entered] using entry
        rw [← found, kind]
    have foreign (other : AcquisitionKind.of envelope.kind ≠ .notification ∧ AcquisitionKind.of envelope.kind ≠ .clientRequest) :
        ¬ LeaksEnvelope settings mapper envelope := by
      rintro ⟨_, message, carries, ⟨notification, _⟩ | ⟨request, _⟩⟩
      · exact other.1 notification
      · exact other.2 request
    have marks (raw : Option RawCustody) (detail : Text) (intact : ¬ LeaksEnvelope settings mapper envelope)
        (unsequenced : ∀ message, Carries envelope message → envelope.requestMethod = .null →
          ¬ (AcquisitionKind.of envelope.kind = .notification ∨ AcquisitionKind.of envelope.kind = .serverRequest)) :
        EndsSome settings mapper (Acquired settings mapper envelope ordinal.toNat) (LeaksEnvelope settings mapper envelope)
          (some <$> markDiscrepancy settings (.str detail) (literal "adapter/acquisition") raw) start := by
      rw [← same]
      exact adapter_ends detail intact fun _ => unsequenced
    rw [same] at fails ⊢
    cases kind : AcquisitionKind.of envelope.kind with
    | loss =>
      have intact : ¬ LeaksEnvelope settings mapper envelope := foreign (by simp [kind])
      have loss (raw : Option RawCustody) (detail : Text) := marks raw detail intact (by simp [kind])
      apply Effect.Meets.ite
      · intro _
        exact loss none _
      · intro _
        cases envelope.diagnostic with
        | str diagnostic =>
          apply Effect.Meets.ite
          · intro _
            cases envelope.rawBytes with
            | none => exact loss none diagnostic
            | some bytes =>
              apply Effect.Meets.bind
              apply Effect.Meets.lift
              · intro raw _
                exact loss raw diagnostic
              · intro failure _
                exact fails intact
          · intro _
            exact fails intact
        | _ => exact fails intact
    | unknown => exact marks none _ (foreign (by simp [kind])) (by simp [kind])
    | notification =>
      rw [← same]
      apply shaped_ends
      intro message carries
      rw [same]
      cases null : envelope.requestMethod with
      | null => exact provider carries null kind
      | _ =>
        apply marks
        · rintro ⟨_, other, _, ⟨_, bare, _⟩ | ⟨request, _⟩⟩
          · cases null.symm.trans bare
          · cases kind.symm.trans request
        · intro _ _ bare
          cases null.symm.trans bare
    | serverRequest =>
      rw [← same]
      apply shaped_ends
      intro message carries
      rw [same]
      cases null : envelope.requestMethod with
      | null => exact provider carries null kind
      | _ =>
        apply marks
        · exact foreign (by simp [kind])
        · intro _ _ bare
          cases null.symm.trans bare
    | clientRequest =>
      rw [← same]
      apply shaped_ends
      intro message carries
      rw [same]
      have lacks (unnamed : ∀ requestMethod, envelope.requestMethod = .str requestMethod →
          ¬ (1 ≤ requestMethod.length ∧ requestMethod.length ≤ MAXIMUM_ID_CODEPOINTS)) := by
        apply marks none (text "client request lacks exact bounded request method")
        · rintro ⟨_, _, _, ⟨notification, _⟩ | ⟨_, requestMethod, named, leaks⟩⟩
          · cases kind.symm.trans notification
          · apply unnamed requestMethod named
            rw [leaks.method]
            decide
        · simp [kind]
      cases named : envelope.requestMethod with
      | str requestMethod =>
        apply Effect.Meets.ite
        · intro _
          apply Ends.some
          have entry : start.currentAcquisitionKind = some .clientRequest := by
            rw [← same]
            simp [Mapper.entered, kind]
          apply Effect.Meets.weaken (clientRequest_ends entry)
          · rintro stored after ⟨label, raw, normalized, assigned, size, ⟨carried, selects⟩, rest⟩
            obtain ⟨_, ⟨bytes, found, _⟩, change⟩ := carried
            refine ⟨label, raw, normalized, assigned, size, ⟨?_, .inl place, ?_, ?_, ?_⟩, rest⟩
            · rw [same]
              exact change
            · simp [kind]
            · simp [found]
            · rw [same]
              refine selects.imp id fun selects => ⟨message, carries, by simp [kind], fun _ => ⟨requestMethod, named, selects⟩⟩
          · intro failure after failed
            rw [← same, kind, place] at failed
            refine ⟨failed.records, failed.bounded.trans (not_congr ?_)⟩
            constructor
            · intro leaks
              exact ⟨⟨ordinal, sequenced, place⟩, message, carries, .inr ⟨kind, requestMethod, named, leaks⟩⟩
            · rintro ⟨_, other, again, ⟨notification, _⟩ | ⟨_, otherMethod, found, leaks⟩⟩
              · cases kind.symm.trans notification
              · cases carries.message.symm.trans again.message
                cases named.symm.trans found
                exact leaks
        · intro exceeds
          apply lacks
          intro other found
          cases named.symm.trans found
          exact exceeds
      | _ =>
        apply lacks
        intro other found
        cases named.symm.trans found
    | clientResponse =>
      rw [← same]
      apply shaped_ends
      intro message carries
      rw [same]
      have intact : ¬ LeaksEnvelope settings mapper envelope := foreign (by simp [kind])
      cases envelope.requestMethod with
      | str requestMethod =>
        apply Effect.Meets.ite
        · intro _
          apply Ends.some
          have entry : start.currentAcquisitionKind = some .clientResponse := by
            rw [← same]
            simp [Mapper.entered, kind]
          apply Effect.Meets.weaken (clientResponse_ends entry)
          · rintro stored after ⟨label, raw, normalized, assigned, size, carried, rest⟩
            obtain ⟨_, ⟨bytes, found, _⟩, change⟩ := carried
            refine ⟨label, raw, normalized, assigned, size, ⟨?_, .inl place, ?_, ?_, ?_⟩, rest⟩
            · rw [same]
              exact change
            · simp [kind]
            · simp [found]
            · exact .inr ⟨message, carries, by simp [kind], by simp [kind]⟩
          · intro failure after failed
            rw [← same] at failed
            exact Fails.harmless ⟨failed.records, failed.bounded⟩ intact
        · intro _
          exact marks none _ intact (by simp [kind])
      | _ => exact marks none _ intact (by simp [kind])

/-! Each call as a transaction. -/

theorem restored_kept {after : Mapper} (kept : after.records = mapper.records) :
    restored mapper after = { mapper with bounded := after.bounded } := by
  simp [restored, kept]

/-- After a call that raises, the mapper is as it was except perhaps for its bounded turn. -/
structure RolledBack (mapper : Mapper) (spoiled : Prop) (after : Mapper) : Prop where
  saved : after = { mapper with bounded := after.bounded }
  bounded : after.bounded = mapper.bounded ↔ ¬ spoiled

theorem RolledBack.unchanged_iff {spoiled : Prop} {after : Mapper} (back : RolledBack mapper spoiled after) :
    after = mapper ↔ ¬ spoiled := by
  rw [← back.bounded]
  constructor
  · intro same
    rw [same]
  · intro same
    rw [back.saved, same]

/-- `_atomic` around an operation that first asks for an open acquisition. -/
theorem transaction_ends {α : Type} {next : Operation α} {returned : α → Mapper → Prop} {spoiled : Prop}
    (ends : mapper.acquisitionCut = none → Effect.Meets next mapper returned fun _ => Fails mapper spoiled)
    (closed : mapper.acquisitionCut ≠ none → ¬ spoiled) :
    Effect.Meets (atomic (requireAcquisitionOpen >>= fun _ => next)) mapper returned
      fun _ => RolledBack mapper spoiled := by
  unfold atomic
  apply Effect.Meets.recovering
  have back {after : Mapper} (fails : Fails mapper spoiled after) : RolledBack mapper spoiled (restored mapper after) := by
    rw [restored_kept fails.records]
    exact ⟨rfl, fails.bounded⟩
  apply Effect.Meets.bind
  unfold requireAcquisitionOpen
  apply Effect.Meets.bind
  apply Effect.Meets.read
  apply Effect.Meets.ite
  · intro taken
    apply Effect.Meets.raise
    apply back
    apply (Fails.kept mapper).harmless
    apply closed
    intro none
    simp [none] at taken
  · intro open_
    apply Effect.Meets.pure
    apply Effect.Meets.weaken (ends (by simpa using open_))
    · intro value after held
      exact held
    · intro failure after fails
      exact back fails

/-- A change of the mapper's own, without any bytes. -/
def Own (settings : Settings host) (mapper : Mapper) (label : Json) (raw : Option RawCustody) (normalized : Normalized)
    (assigned : Mapper) : Prop :=
  raw = none ∧ Change settings mapper label raw normalized assigned

theorem markDiscrepancy_own (detail label : Json) :
    Ends settings mapper (Own settings mapper) False (markDiscrepancy settings detail label none) mapper := by
  unfold markDiscrepancy
  apply Effect.Meets.bind
  apply Effect.Meets.modify
  apply Effect.Meets.bind
  apply Effect.Meets.lift
  · intro value _
    apply Effect.Meets.bind
    apply Effect.Meets.read
    rw [interrupted_identity]
    apply assigns_ends
    · exact ⟨rfl, .discrepancy mapper.bounded⟩
    · rw [interrupted_records]
    · rw [interrupted_bounded]
  · intro failure _
    exact ⟨interrupted_records mapper, by simp⟩

theorem recordLegacyLocalFact_own (kind : Json) :
    Effect.Meets (do
      Effect.lift (requireHashable kind)
      if LEGACY_FACTS.any (is kind) then record settings kind none .localTurnFact
      else markDiscrepancy settings (literal "unknown legacy local-turn fact") kind none) mapper
      (Stores settings (Own settings mapper)) fun _ => Fails mapper False := by
  apply Effect.Meets.bind
  apply Effect.Meets.lift
  · intro _ _
    apply Effect.Meets.ite
    · intro known
      apply assigns_ends
      · exact ⟨rfl, .legacyFact known⟩
      · rfl
      · rfl
    · intro _
      exact markDiscrepancy_own _ _
  · intro failure _
    exact Fails.kept mapper

theorem consumeCut_own (cut : AcquisitionCut) :
    Effect.Meets (do
      let mapper ← Effect.read
      let normalized ← Effect.lift (normalizedCut settings mapper cut)
      Effect.modify fun mapper => { mapper with acquisitionCut := some normalized }
      if !normalized.clean then Effect.modify Mapper.interrupted
      record settings (literal "adapter/acquisition-cut") none (.acquisitionCut normalized)) mapper
      (Stores settings (Own settings mapper)) fun _ => Fails mapper False := by
  apply Effect.Meets.bind
  apply Effect.Meets.read
  apply Effect.Meets.bind
  apply Effect.Meets.lift
  · intro normalized checked
    have change : Own settings mapper _ _ _ _ := ⟨rfl, .cut checked⟩
    apply Effect.Meets.bind
    apply Effect.Meets.modify
    apply Effect.Meets.ite
    · intro unclean
      have unclean : normalized.clean = false := by simpa using unclean
      rw [unclean] at change
      apply Effect.Meets.bind
      apply Effect.Meets.modify
      apply assigns_ends change
      · exact interrupted_records _
      · exact interrupted_bounded _
    · intro clean
      have clean : normalized.clean = true := by simpa using clean
      rw [clean] at change
      exact assigns_ends change rfl rfl
  · intro failure _
    exact Fails.kept mapper

/-- A call that returns has recorded one change; one that raises has changed nothing, unless it leaks. -/
theorem perform_ends (settings : Settings host) (idle : mapper.currentAcquisitionKind = none) (call : Call) : Effect.Meets (perform settings call) mapper
    (fun found after => ∃ stored, found = some stored ∧ mapper.acquisitionCut = none ∧ Records settings mapper call stored after)
    fun _ => RolledBack mapper (Leaks settings mapper call) := by
  have own {program : Operation Record} {call : Call} (bare : call.envelope? = none) (harmless : ¬ Leaks settings mapper call)
      (ends : Effect.Meets program mapper (Stores settings (Own settings mapper)) fun _ => Fails mapper False) :
      Effect.Meets (some <$> atomic (requireAcquisitionOpen >>= fun _ => program)) mapper
        (fun found after => ∃ stored, found = some stored ∧ mapper.acquisitionCut = none ∧ Records settings mapper call stored after)
        fun _ => RolledBack mapper (Leaks settings mapper call) := by
    apply Effect.Meets.bind
    apply transaction_ends
    · intro open_
      apply Effect.Meets.weaken ends
      · rintro stored after ⟨label, raw, normalized, assigned, size, ⟨rfl, change⟩, found, rfl⟩
        exact ⟨stored, rfl, open_, .own bare change found⟩
      · intro failure after fails
        exact fails.harmless harmless
    · intro _
      exact harmless
  cases call with
  | consumeEnvelope envelope =>
    apply transaction_ends
    · intro open_
      have intact (harmless : ¬ LeaksEnvelope settings mapper envelope) : ¬ Leaks settings mapper (.consumeEnvelope envelope) :=
        fun leaks => harmless leaks.2
      apply Effect.Meets.bind
      apply Effect.Meets.lift
      · intro ordinal valid
        apply Effect.Meets.bind
        apply Effect.Meets.modify
        apply Effect.Meets.bind
        apply Effect.Meets.lift
        · intro _ _
          apply Effect.Meets.bind
          apply Effect.Meets.modify
          apply Effect.Meets.ensuring
          apply Effect.Meets.weaken (acquire_ends mapper valid)
          · rintro found after ⟨stored, rfl, label, raw, normalized, assigned, size, acquired, found, rfl⟩
            exact ⟨stored, rfl, open_, .acquired valid acquired found⟩
          · intro failure after fails
            refine ⟨fails.records, fails.bounded.trans (not_congr ?_)⟩
            exact ⟨fun leaks => ⟨open_, leaks⟩, fun leaks => leaks.2⟩
        · intro failure unhashable
          refine Fails.harmless ⟨rfl, by simp⟩ (intact ?_)
          rintro ⟨_, message, _, ⟨kind, _⟩ | ⟨kind, _⟩⟩
          · cases unhashable.symm.trans (requireHashable_of (by simp [kind]))
          · cases unhashable.symm.trans (requireHashable_of (by simp [kind]))
      · intro failure invalid
        refine (Fails.kept mapper).harmless (intact ?_)
        rintro ⟨⟨ordinal, valid, _⟩, _⟩
        cases invalid.symm.trans valid
    · intro closed leaks
      exact closed leaks.1
  | consumeCut cut => exact own rfl (by simp [Leaks]) (consumeCut_own cut)
  | markAcquisitionLoss detail => exact own rfl (by simp [Leaks]) (markDiscrepancy_own detail _)
  | recordLegacyLocalFact kind => exact own rfl (by simp [Leaks]) (recordLegacyLocalFact_own kind)
  | consume message serverRequest =>
    apply Effect.Meets.ite
    · intro fixture
      apply transaction_ends
      · intro open_
        apply Effect.Meets.weaken (consumeImpl_ends ?_)
        · rintro found after ⟨stored, rfl, label, raw, normalized, assigned, size, received, found, rfl⟩
          exact ⟨stored, rfl, open_, .fixture fixture received found⟩
        · intro failure after fails
          refine ⟨fails.records, fails.bounded.trans (not_congr ?_)⟩
          exact ⟨fun leaks => ⟨open_, fixture, leaks⟩, fun leaks => leaks.2.2⟩
        · simp [idle]
      · intro closed leaks
        exact closed leaks.1
    · intro ordered
      refine ⟨rfl, ?_⟩
      have harmless : ¬ Leaks settings mapper (.consume message serverRequest) := fun leaks => ordered leaks.2.1
      simp [harmless]

/-! Runs of calls, whether they return or raise. -/

/-- A call as a step, whether it returns or raises. -/
def Performs (settings : Settings host) (before : Mapper) (call : Call) (after : Mapper) : Prop :=
  (perform settings call before).2 = after

/-- What holds of the fields outside the log in every state between two calls. -/
structure Idle (mapper : Mapper) : Prop where
  ordinal : mapper.currentAcquisitionOrdinal = none
  kind : mapper.currentAcquisitionKind = none

theorem Change.current {before assigned : Mapper} {label : Json} {raw : Option RawCustody} {normalized : Normalized}
    (change : Change settings before label raw normalized assigned) :
    assigned.currentAcquisitionOrdinal = before.currentAcquisitionOrdinal ∧
      assigned.currentAcquisitionKind = before.currentAcquisitionKind := by
  have interrupted (mapper : Mapper) : mapper.interrupted.currentAcquisitionOrdinal = mapper.currentAcquisitionOrdinal ∧
      mapper.interrupted.currentAcquisitionKind = mapper.currentAcquisitionKind := by
    unfold Mapper.interrupted
    split <;> exact ⟨rfl, rfl⟩
  cases change with
  | discrepancy => exact interrupted _
  | cut =>
    split
    · exact ⟨rfl, rfl⟩
    · exact interrupted _
  | _ => exact ⟨rfl, rfl⟩

theorem Records.idle {mapper after : Mapper} {call : Call} {stored : Record} (records : Records settings mapper call stored after)
    (idle : Idle mapper) : Idle after := by
  cases records with
  | acquired => exact ⟨rfl, rfl⟩
  | fixture _ received =>
    obtain ⟨ordinal, kind⟩ := received.change.current
    exact ⟨ordinal.trans idle.ordinal, kind.trans idle.kind⟩
  | own _ change =>
    obtain ⟨ordinal, kind⟩ := change.current
    exact ⟨ordinal.trans idle.ordinal, kind.trans idle.kind⟩

theorem idle_step {before after : Mapper} {call : Call} (idle : Idle before) (step : Performs settings before call after) :
    Idle after := by
  have ends := perform_ends settings idle.kind call
  cases result : perform settings call before with
  | mk outcome reached =>
    obtain rfl : reached = after := by rw [← step, result]
    cases outcome with
    | ok found =>
      obtain ⟨stored, _, _, records⟩ := ends.returns result
      exact records.idle idle
    | error failure =>
      have back := ends.raises result
      rw [back.saved]
      exact ⟨idle.ordinal, idle.kind⟩

theorem idle_run {calls : List Call} {mapper : Mapper} (run : Run (Performs settings) Mapper.initial calls mapper) : Idle mapper :=
  run.keeps Idle ⟨rfl, rfl⟩ fun _ _ _ idle step => idle_step idle step

/-- The first record of a call that returns, or the bounded turn of one that raises. -/
theorem performs_cases {before after : Mapper} {call : Call} (idle : Idle before) (step : Performs settings before call after) :
    (∃ stored, before.acquisitionCut = none ∧ Records settings before call stored after) ∨
      ∃ bounded, after = { before with bounded := bounded } := by
  have ends := perform_ends settings idle.kind call
  cases result : perform settings call before with
  | mk outcome reached =>
    obtain rfl : reached = after := by rw [← step, result]
    cases outcome with
    | ok found =>
      obtain ⟨stored, _, open_, records⟩ := ends.returns result
      exact .inl ⟨stored, open_, records⟩
    | error failure => exact .inr ⟨_, (ends.raises result).saved⟩

/-- What `_record` makes of its arguments. -/
structure Recorded (mapper : Mapper) (label : Json) (raw : Option RawCustody) (normalized : Normalized) (stored : Record) : Prop where
  sequence : stored.sequence = mapper.records.length
  ordinal : stored.acquisitionOrdinal = mapper.currentAcquisitionOrdinal
  kind : stored.acquisitionKind = mapper.currentAcquisitionKind
  method : stored.method = label
  normalized : stored.normalized = normalized
  raw : stored.raw = raw

theorem evidence_recorded {mapper : Mapper} {label : Json} {raw : Option RawCustody} {normalized : Normalized} {stored : Record}
    {size : Nat} (found : evidence settings mapper label raw normalized = .ok (stored, size)) :
    Recorded mapper label raw normalized stored := by
  unfold evidence at found
  split at found
  · cases found
  · obtain ⟨digest, _, found⟩ := bind_ok.mp found
    obtain ⟨encoded, _, found⟩ := bind_ok.mp found
    split at found
    · cases found
    · cases found
      exact ⟨rfl, rfl, rfl, rfl, rfl, rfl⟩

/-- What holds of a mapper whatever the current envelope is, and whatever its bounded turn. -/
structure Indifferent (holds : Mapper → Prop) : Prop where
  entered : ∀ mapper kind ordinal, holds mapper → holds (mapper.entered kind ordinal)
  cleared : ∀ mapper, holds mapper → holds mapper.cleared
  bounded : ∀ mapper bounded, holds mapper → holds { mapper with bounded := bounded }

/-- A fact that every recorded change keeps holds in every state that calls can reach. -/
theorem mapper_invariant {calls : List Call} {mapper : Mapper} {holds : Mapper → Prop}
    (run : Run (Performs settings) Mapper.initial calls mapper) (indifferent : Indifferent holds) (initial : holds Mapper.initial)
    (changes : ∀ before label raw normalized assigned stored size, holds before → before.acquisitionCut = none →
      Change settings before label raw normalized assigned → Recorded assigned label raw normalized stored →
      holds (assigned.appended stored size)) : holds mapper := by
  apply run.invariant (fun _ mapper => holds mapper) initial
  intro labels before call after early held step
  obtain ⟨stored, open_, records⟩ | ⟨bounded, rfl⟩ := performs_cases (idle_run early) step
  · cases records with
    | acquired _ acquired found =>
      apply indifferent.cleared
      exact changes _ _ _ _ _ _ _ (indifferent.entered _ _ _ held) open_ acquired.change (evidence_recorded found)
    | fixture _ received found => exact changes _ _ _ _ _ _ _ held open_ received.change (evidence_recorded found)
    | own _ change found => exact changes _ _ _ _ _ _ _ held open_ change (evidence_recorded found)
  · exact indifferent.bounded _ _ held

/-- A relation that every recorded change keeps, from the mapper before a call to the one after it. -/
theorem mapper_step {calls : List Call} {before after : Mapper} {call : Call} {relates : Mapper → Mapper → Prop}
    (run : Run (Performs settings) Mapper.initial calls before) (step : Performs settings before call after)
    (bounded : ∀ bounded, relates before { before with bounded := bounded })
    (changes : ∀ entered label raw normalized assigned stored size,
      (entered = before ∨ ∃ kind ordinal, entered = before.entered kind ordinal) →
      Change settings entered label raw normalized assigned → Recorded assigned label raw normalized stored →
      relates before (assigned.appended stored size) ∧ relates before (assigned.appended stored size).cleared) :
    relates before after := by
  obtain ⟨stored, open_, records⟩ | ⟨turn, rfl⟩ := performs_cases (idle_run run) step
  · cases records with
    | acquired _ acquired found =>
      exact (changes _ _ _ _ _ _ _ (.inr ⟨_, _, rfl⟩) acquired.change (evidence_recorded found)).2
    | fixture _ received found => exact (changes _ _ _ _ _ _ _ (.inl rfl) received.change (evidence_recorded found)).1
    | own _ change found => exact (changes _ _ _ _ _ _ _ (.inl rfl) change (evidence_recorded found)).1
  · exact bounded turn

/-- What an ordered mapper records: what an envelope acquires, or a record of its own. -/
theorem ordered_invariant {calls : List Call} {mapper : Mapper} {holds : Mapper → Prop}
    (ordered : settings.allowUnorderedFixture = false) (run : Run (Performs settings) Mapper.initial calls mapper)
    (initial : holds Mapper.initial) (bounded : ∀ mapper bounded, holds mapper → holds { mapper with bounded := bounded })
    (acquires : ∀ before envelope ordinal label raw normalized assigned stored size, Idle before → holds before →
      before.acquisitionCut = none → Acquired settings before envelope ordinal label raw normalized assigned →
      Recorded assigned label raw normalized stored → holds (assigned.appended stored size).cleared)
    (owns : ∀ before label normalized assigned stored size, Idle before → holds before → before.acquisitionCut = none →
      Change settings before label none normalized assigned → Recorded assigned label none normalized stored →
      holds (assigned.appended stored size)) : holds mapper := by
  apply run.invariant (fun _ mapper => holds mapper) initial
  intro labels before call after early held step
  have idle := idle_run early
  obtain ⟨stored, open_, records⟩ | ⟨turn, rfl⟩ := performs_cases idle step
  · cases records with
    | acquired _ acquired found => exact acquires _ _ _ _ _ _ _ _ _ idle held open_ acquired (evidence_recorded found)
    | fixture fixture => cases fixture.symm.trans ordered
    | own _ change found => exact owns _ _ _ _ _ _ idle held open_ change (evidence_recorded found)
  · exact bounded _ _ held

end Switchyard.Admission
