import Switchyard.Runner.Drains

/-! A fresh run from its claim to its record. Until its mapper is bound nothing is projected;
from then on every drain, loss and cut is a call of that mapper, and the cut decides the state. -/

namespace Switchyard.Runner
open Library Json AppServer Admission Effect

section
variable {host : Host} {launch : Launch} {client : Client} {settings : Settings host} {base : Members} {limit : Json}
  {running : Running host}

/-- A record of which no provider boundary has been observed. -/
structure Unobserved (record : Members) : Prop where
  state : get record "state" = literal "OUTCOME_UNKNOWN"
  observed : Admission.inner record "observed_execution" "state" ≠ literal "OBSERVED_PROVIDER_BOUNDARY"

/-- A run whose mapper is not bound yet. -/
structure Early (running : Running host) : Prop where
  unbound : running.mapper = none
  pending : running.pending = []
  delivered : running.delivered = []
  heard : running.heard = []
  unobserved : Unobserved running.record
  fresh : running.projection = .initial

/-- What the constructor of a mapper was given. -/
structure Opened (launch : Launch) (settings : Settings host) (base : Members) : Prop where
  sealed : sealBinding host (bindingMembers launch base) = .ok settings.binding.members
  contract : settings.captureContract = launch.captureContract
  ordered : settings.allowUnorderedFixture = false
  unobserved : Unobserved base

theorem Early.assign (early : Early running) {key : String} (other : key ∉ PROJECTED) (stateless : key ≠ "state") {value : Json}
    (unbounded : key = "observed_execution" → get (value.members?.getD []) "state" ≠ literal "OBSERVED_PROVIDER_BOUNDARY") :
    Early { running with record := set running.record key value } := by
  refine ⟨early.unbound, early.pending, early.delivered, early.heard, ⟨?_, ?_⟩, (projection_assign other value).trans early.fresh⟩
  · rw [get_set, if_neg stateless.symm]
    exact early.unobserved.state
  · unfold Admission.inner
    rw [get_set]
    split
    · next same => exact unbounded same.symm
    · exact early.unobserved.observed

theorem Early.persisted {after : Running host} (early : Early running) (persisted : Persisted host running after) : Early after := by
  obtain ⟨dispatch, raw, -, -, rfl⟩ := persisted.written
  exact ⟨early.unbound, early.pending, early.delivered, early.heard, early.unobserved, early.fresh⟩

theorem Settings.of_ok {binding : Members} {contract : CaptureContract} {unordered : Bool}
    (accepted : Settings.of host (.obj binding) contract unordered = .ok settings) :
    settings.binding.members = binding ∧ settings.captureContract = contract ∧ settings.allowUnorderedFixture = unordered := by
  unfold Settings.of at accepted
  simp only [] at accepted
  split at accepted
  · cases accepted
  · split at accepted
    · cases accepted
      exact ⟨rfl, rfl, rfl⟩
    · cases accepted

theorem mapError_ok {ε ε' α : Type} {outcome : Except ε α} {name : ε → ε'} {value : α} :
    outcome.mapError name = .ok value ↔ outcome = .ok value := by
  cases outcome <;> simp [Except.mapError]

/-- Sealing sets the schema and the digest, and keeps everything else. -/
theorem sealBinding_get {value sealed : Members} (done : sealBinding host value = .ok sealed) {field : String}
    (schema : field ≠ "schema") (digest : field ≠ "binding_digest") : get sealed field = get value field := by
  unfold sealBinding at done
  obtain ⟨expected, -, done⟩ := bind_ok.mp done
  obtain ⟨_, -, done⟩ := bind_ok.mp done
  cases done
  rw [get_set, if_neg digest]
  have inner (members : Members) (filled : Json) : get (if has members "binding_digest" then members
      else set members "binding_digest" filled) field = get members field := by
    split
    · rfl
    · rw [get_set, if_neg digest]
  rw [inner]
  split
  · rfl
  · rw [get_set, if_neg schema]

/-- The binding carries what the run gave it. -/
theorem Opened.bound (opened : Opened launch settings base) {field : String} {value : Json}
    (given : get (bindingMembers launch base) field = value) (listed : field ∈ BINDING_IDENTITIES) :
    value = .str (settings.binding.text field) := by
  have apart : field ≠ "schema" ∧ field ≠ "binding_digest" := by
    constructor <;> (rintro rfl; revert listed; decide)
  have same := sealBinding_get opened.sealed apart.1 apart.2
  obtain ⟨content, identity⟩ := binding_identity settings.binding listed
  rw [← given, ← same, Binding.text, identity]
  rfl

theorem bindMapper_meets (early : Early running) (limit : Json) :
    Meets (bindMapper launch) running
      (fun _ after => ∃ settings, Opened launch settings running.record ∧ Going settings running.record limit [] after)
      (fun _ after => after = running) := by
  unfold bindMapper
  -- the elaborator would otherwise evaluate the digest of the binding
  generalize seals : sealBinding host = sealing
  refine .bind (.read (.bind (.lift (fun sealed bound => ?_) fun _ _ => rfl)))
  refine .bind (.lift (fun settings accepted => .modify ?_) fun _ _ => rfl)
  obtain ⟨members, contract, ordered⟩ := Settings.of_ok (mapError_ok.mp accepted)
  have opened : Opened launch settings running.record :=
    ⟨by rw [seals, mapError_ok.mp bound, members], contract, ordered, early.unobserved⟩
  have given : get (bindingMembers launch running.record) "turn_id" = get running.record "turn_id" := by
    simp [bindingMembers, get_object_cons]
  have turn := opened.bound given (by decide)
  have attributes := Attributes.initial (get running.record "thread_id") (get running.record "turn_id")
  have projected := Projected.initial (get running.record "thread_id") (get running.record "turn_id") limit
  rw [← early.heard, ← early.fresh] at attributes projected
  exact ⟨settings, opened, ⟨⟨.initial, [], rfl, .nil⟩, turn, fun _ _ => rfl, early.pending, attributes⟩,
    .inr ⟨⟨[], early.delivered.symm, early.heard⟩, projected⟩⟩

theorem attempt_meets (early : Early running) :
    Meets (attempt launch client) running
      (fun _ after => ∃ settings base, Opened launch settings base ∧
        Going settings base (get launch.inputs.request "maximum_output_bytes") [] after)
      (fun _ after => Early after ∨ ∃ settings base, Opened launch settings base ∧ Loose settings base after) := by
  have binds {middle : Running host} (early : Early middle) := @bindMapper_meets host launch middle early
  unfold attempt
  generalize bindMapper launch = binding at binds ⊢
  refine .bind (.lift (fun _ _ => ?_) fun _ _ => .inl early)
  refine .bind (.lift (fun thread _ => ?_) fun _ _ => .inl early)
  refine .bind (.lift (fun _ _ => ?_) fun _ _ => .inl early)
  refine .bind (.lift (fun provider _ => ?_) fun _ _ => .inl early)
  refine .bind (.lift (fun model _ => ?_) fun _ _ => .inl early)
  refine .bind (.modify ?_)
  have early := @Early.assign _ _ early "observed_execution" (by decide) (by decide)
    (.obj (object [("state", literal "OBSERVED_THREAD_CONTEXT"), ("provider_id", provider), ("model_id", model),
      ("source", literal "CODEX_APP_SERVER_THREAD_START")])) (fun _ => by simp [get_object_cons, literal, Json.members?, text_inj])
  refine .bind (.lift (fun started _ => ?_) fun _ _ => .inl early)
  refine .bind (.lift (fun threadId _ => ?_) fun _ _ => .inl early)
  refine .bind (.modify ?_)
  have early := @Early.assign _ _ early "thread_id" (by decide) (by decide) threadId (fun same => absurd same (by decide))
  refine .bind ((persist_meets _).weaken ?_ ?_)
  rotate_left
  · rintro _ _ rfl
    exact .inl early
  intro _ middle persisted
  have early := early.persisted persisted
  refine .bind (.lift (fun _ _ => ?_) fun _ _ => .inl early)
  refine .bind (.lift (fun turn _ => ?_) fun _ _ => .inl early)
  refine .bind (.lift (fun opened _ => ?_) fun _ _ => .inl early)
  refine .bind (.lift (fun turnId _ => ?_) fun _ _ => .inl early)
  refine .bind (.modify ?_)
  have early := @Early.assign _ _ early "turn_id" (by decide) (by decide) turnId (fun same => absurd same (by decide))
  refine .bind ((persist_meets _).weaken ?_ ?_)
  rotate_left
  · rintro _ _ rfl
    exact .inl early
  intro _ middle persisted
  have early := early.persisted persisted
  refine .bind ((binds early (get launch.inputs.request "maximum_output_bytes")).weaken ?_ ?_)
  · rintro _ bound ⟨settings, opened, going⟩
    refine (poll_meets client.polls bound going).weaken ?_ ?_
    · exact fun _ _ going => ⟨settings, _, opened, going⟩
    · exact fun _ _ loose => .inr ⟨settings, _, opened, loose⟩
  · rintro _ _ rfl
    exact .inl early

theorem recover_early (early : Early running) (error : ClassName) :
    Meets (recover error) running (fun _ after => Early after) (fun _ _ => False) := by
  unfold recover
  refine .bind (.modify (.bind (.read ?_)))
  have kept := @Early.assign _ _ early "local_error_class" (by decide) (by decide) (.str error.val) nofun
  have unbound := kept.unbound
  split
  · exact .pure kept
  · next found =>
    rw [unbound] at found
    cases found

theorem recover_loose (loose : Loose settings base running) (error : ClassName) :
    Meets (recover error) running (fun _ after => Going settings base limit [] after) (fun _ after => Loose settings base after) := by
  unfold recover
  have kept := loose.unprojected (@Frames.assign _ _ "local_error_class" (by decide) (.str error.val))
    (projection_assign (by decide) _)
  refine .bind (.modify (.bind (.read ?_)))
  obtain ⟨mapper, calls, held, -⟩ := kept.bound
  split
  · next absent =>
    rw [held] at absent
    cases absent
  · exact (markLoss_meets kept _).weaken (fun _ _ marked => ⟨marked.1, .inl marked.2⟩) fun _ _ loose => loose

/-- Where a run stands when its `finally` begins, unless an exception is on its way out. -/
def Standing (launch : Launch) (running : Running host) : Prop :=
  Early running ∨ ∃ settings base, Opened launch settings base ∧
    Going settings base (get launch.inputs.request "maximum_output_bytes") [] running

theorem handled_meets (early : Early running) :
    Meets ((attempt launch client).handling recover) running (fun _ after => Standing launch after) (fun _ _ => True) := by
  refine .handling (attempt_meets early |>.weaken (fun _ _ bound => .inr bound) ?_)
  rintro error after (early | ⟨settings, base, opened, loose⟩)
  · exact (recover_early early error).weaken (fun _ _ kept => .inl kept) fun _ _ _ => trivial
  · exact (recover_loose loose error).weaken (fun _ _ going => .inr ⟨settings, base, opened, going⟩) fun _ _ _ => trivial

/-- How the cut has classified a run. -/
structure Classified (base : Members) (mapper : Mapper) (cut : Cut) (record : Members) : Prop where
  completed : cut.clean = true → mapper.mechanismState = .providerCompleted →
    ∃ state, terminal (get record "turn_status") = .ok state ∧ get record "state" = literal state
  parked : cut.clean = true → mapper.mechanismState = .parkedNotAdmitted →
    get record "state" = literal "NOT_ADMITTED_MODEL_AT_CAPACITY"
  unclean : cut.clean = false → get record "state" = literal "OUTCOME_UNKNOWN"
  unobserved : mapper.mechanismState ≠ .providerCompleted → mapper.mechanismState ≠ .postAdmissionInterrupted →
    get record "observed_execution" = get base "observed_execution"

/-- A run whose mapper has consumed its cut: the record retains the snapshot, and unless the
mapper is broken the projection of all that was handed over. -/
structure Settled (launch : Launch) (settings : Settings host) (base : Members) (mapper : Mapper) (cut : Cut)
    (running : Running host) : Prop where
  opened : Opened launch settings base
  reached : ∃ calls, Run (Admission.Performs settings) Mapper.initial calls mapper
  turn : get base "turn_id" = .str (settings.binding.text "turn_id")
  taken : mapper.acquisitionCut = some cut
  closed : cut.clean = true → mapper.mechanismState = .providerCompleted ∨ mapper.mechanismState = .parkedNotAdmitted
  lost : cut.clean = false → Lost mapper.mechanismState
  retained : ∃ retained, snapshot settings mapper = .ok retained ∧ get running.record "provider_admission" = .obj retained
  classified : Classified base mapper cut running.record
  named : get running.record "thread_id" = get base "thread_id" ∧ get running.record "turn_id" = get base "turn_id"
  attributes : Attributes (get base "thread_id") (get base "turn_id") running.heard running.projection
  heard : cut.clean = true → running.heard = running.delivered.filterMap (·.message)
  projected : cut.clean = true → Projected (get base "thread_id") (get base "turn_id")
    (get launch.inputs.request "maximum_output_bytes") running.heard running.projection

/-- Only these keys of the record may have changed. -/
def Spared (keys : List String) (record after : Members) : Prop := ∀ key ∉ keys, get after key = get record key

/-- The state that the cut leaves a record with. -/
structure Stated (mapper : Mapper) (cut : Cut) (record : Members) : Prop where
  completed : cut.clean = true → mapper.mechanismState = .providerCompleted →
    ∃ state, terminal (get record "turn_status") = .ok state ∧ get record "state" = literal state
  parked : cut.clean = true → mapper.mechanismState = .parkedNotAdmitted →
    get record "state" = literal "NOT_ADMITTED_MODEL_AT_CAPACITY"
  unclean : cut.clean = false → get record "state" = literal "OUTCOME_UNKNOWN"

theorem classify_meets {mapper : Mapper} {cut : Cut} (taken : mapper.acquisitionCut = some cut)
    (unobserved : get running.record "observed_execution" = get base "observed_execution") :
    Meets (classify launch mapper) running
      (fun _ after => ∃ record, after = { running with record := record } ∧ Classified base mapper cut record ∧
        Spared ["state", "observed_execution"] running.record record)
      (fun _ _ => True) := by
  have state (middle : Running host) : Meets (do
      let running ← Effect.read
      if cut.clean ∧ mapper.mechanismState = .providerCompleted then do
        let state ← Effect.lift (terminal (get running.record "turn_status"))
        assign "state" (literal state)
      else if cut.clean ∧ mapper.mechanismState = .parkedNotAdmitted then assign "state" (literal "NOT_ADMITTED_MODEL_AT_CAPACITY")
      else assign "state" (literal "OUTCOME_UNKNOWN") : Activity host Unit) middle
      (fun _ after => ∃ record, after = { middle with record := record } ∧ Stated mapper cut record ∧
        Spared ["state"] middle.record record) (fun _ _ => True) := by
    have spared (value : Json) : Spared ["state"] middle.record (set middle.record "state" value) := by
      intro key other
      rw [get_set, if_neg (by simpa using other)]
    refine .bind (.read (.ite (fun completed => .bind (.lift (fun name classified => .modify ?_) fun _ _ => trivial)) fun uncompleted =>
      .ite (fun parked => .modify ?_) fun unclosed => .modify ?_))
    · refine ⟨_, rfl, ⟨fun _ _ => ⟨name, ?_, ?_⟩, ?_, ?_⟩, spared _⟩
      · rw [spared _ _ (by decide)]
        exact classified
      · simp [get_set]
      · simp [completed.2]
      · simp [completed.1]
    · refine ⟨_, rfl, ⟨?_, ?_, ?_⟩, spared _⟩
      · simp [parked.2]
      · simp [get_set]
      · simp [parked.1]
    · refine ⟨_, rfl, ⟨fun clean completed => absurd ⟨clean, completed⟩ uncompleted,
        fun clean parked => absurd ⟨clean, parked⟩ unclosed, fun _ => by simp [get_set]⟩, spared _⟩
  unfold classify
  simp only [taken, Option.any_some]
  refine .ite (fun boundary => .bind (.modify ?_)) fun other => ?_
  · refine (state _).weaken ?_ fun _ _ _ => trivial
    rintro _ _ ⟨record, rfl, stated, spared⟩
    refine ⟨record, rfl, ⟨stated.completed, stated.parked, stated.unclean, fun completed interrupted => ?_⟩, fun key other => ?_⟩
    · exact absurd boundary (by simp [completed, interrupted])
    · obtain ⟨stateless, unobserving⟩ : key ≠ "state" ∧ key ≠ "observed_execution" := by simpa using other
      rw [spared key (by simpa using stateless), get_set, if_neg unobserving]
  · refine (state _).weaken ?_ fun _ _ _ => trivial
    rintro _ _ ⟨record, rfl, stated, spared⟩
    refine ⟨record, rfl, ⟨stated.completed, stated.parked, stated.unclean, fun _ _ => ?_⟩, fun key other => spared key ?_⟩
    · rw [spared _ (by decide), unobserved]
    · simp only [List.mem_cons, not_or] at other
      simp [other.1]

/-- What a settled run reads of its record. -/
def SETTLED : List String :=
  ["usage", "usage_turn_id", "turn_status", "worker_output", "thread_id", "turn_id", "provider_admission", "state", "observed_execution"]

/-- A change of other keys keeps a run settled. -/
theorem Settled.spared {mapper : Mapper} {cut : Cut} {after : Running host} (settled : Settled launch settings base mapper cut running)
    (same : ∀ key ∈ SETTLED, get after.record key = get running.record key) (heard : after.heard = running.heard)
    (delivered : after.delivered = running.delivered) (bytes : after.outputBytes = running.outputBytes)
    (failed : after.attributionFailed = running.attributionFailed) : Settled launch settings base mapper cut after := by
  have projection : after.projection = running.projection := by
    unfold Running.projection
    rw [same "usage" (by decide), same "usage_turn_id" (by decide), same "turn_status" (by decide), same "worker_output" (by decide),
      bytes, failed]
  obtain ⟨retained, taken, stored⟩ := settled.retained
  have classified := settled.classified
  have status := same "turn_status" (by decide)
  have state := same "state" (by decide)
  have observed := same "observed_execution" (by decide)
  exact {
    opened := settled.opened
    reached := settled.reached
    turn := settled.turn
    taken := settled.taken
    closed := settled.closed
    lost := settled.lost
    retained := ⟨retained, taken, (same _ (by decide)).trans stored⟩
    classified := ⟨by rw [status, state]; exact classified.completed, by rw [state]; exact classified.parked,
      by rw [state]; exact classified.unclean, by rw [observed]; exact classified.unobserved⟩
    named := ⟨(same _ (by decide)).trans settled.named.1, (same _ (by decide)).trans settled.named.2⟩
    attributes := by rw [heard, projection]; exact settled.attributes
    heard := by rw [heard, delivered]; exact settled.heard
    projected := by rw [heard, projection]; exact settled.projected }

theorem lost_open {state : MechanismState} (lost : Lost state) : state ≠ .providerCompleted ∧ state ≠ .parkedNotAdmitted := by
  rcases lost with rfl | rfl <;> exact ⟨nofun, nofun⟩

theorem settle_meets (opened : Opened launch settings base)
    (going : Going settings base (get launch.inputs.request "maximum_output_bytes") [] running) :
    Meets (settle launch client) running (fun _ after => ∃ mapper cut, Settled launch settings base mapper cut after)
      (fun _ _ => True) := by
  unfold settle
  refine .bind ((drain_meets client.tail going).weaken ?_ fun _ _ _ => trivial)
  rintro _ drained ⟨going, -⟩
  obtain ⟨mapper, calls, held, reached⟩ := going.loose.bound
  refine .bind (onMapper_meets held (.intro (fun stored after result => ?_) fun _ _ _ => trivial))
  obtain ⟨cut, cuts⟩ := (consumeCut_meets client.cut mapper).returns result
  have performs : Admission.Performs settings mapper (.consumeCut client.cut) after := by
    unfold Admission.Performs Admission.perform
    rw [map_state, result]
  have called := going.loose.called held performs
  generalize taken : ({ drained with mapper := some (settings, after) } : Running host) = cutting at called ⊢
  refine .bind ((retainSnapshot_meets cutting).weaken ?_ fun _ _ _ => trivial)
  rintro _ kept ⟨frames, same, snapshots⟩
  subst taken
  have loose := called.unprojected frames same
  have heldAfter : kept.mapper = some (settings, after) := frames.mapper
  have unbroken (clean : cut.clean = true) :
      Whole base (get launch.inputs.request "maximum_output_bytes") [] drained := by
    refine going.whole.resolve_left ?_
    rintro ⟨other, found, again, lost⟩
    obtain ⟨rfl, rfl⟩ : settings = other ∧ mapper = found := by simpa [held] using again
    have shut := (cuts.clean clean).2
    rcases shut with completed | parked
    · exact (lost_open lost).1 completed
    · exact (lost_open lost).2 parked
  refine .bind (.read ?_)
  rw [heldAfter]
  refine (classify_meets cuts.taken (loose.fixed "observed_execution" (by decide))).weaken ?_ fun _ _ _ => trivial
  rintro _ _ ⟨record, rfl, classified, spared⟩
  obtain ⟨_, found, retained, again, taken, stored⟩ := snapshots
  obtain ⟨rfl, rfl⟩ : settings = _ ∧ after = found := by simpa [heldAfter] using again
  have projection : ({ kept with record := record } : Running host).projection = kept.projection := by
    unfold Running.projection
    simp only [spared "usage" (by decide), spared "usage_turn_id" (by decide), spared "turn_status" (by decide),
      spared "worker_output" (by decide)]
  refine ⟨after, cut, {
    opened := opened
    reached := ⟨_, reached.snoc performs⟩
    turn := loose.turn
    taken := cuts.taken
    closed := fun clean => by rw [(cuts.clean clean).1]; exact (cuts.clean clean).2
    lost := cuts.unclean
    retained := ⟨retained, taken, (spared _ (by decide)).trans stored⟩
    classified := classified
    named := ⟨(spared _ (by decide)).trans (loose.fixed _ (by decide)), (spared _ (by decide)).trans (loose.fixed _ (by decide))⟩
    attributes := by rw [projection]; exact loose.attributes
    heard := fun clean => ?_
    projected := fun clean => ?_ }⟩
  · obtain ⟨seen, all, heard⟩ := (unbroken clean).heard
    simp only [List.append_nil] at all
    show kept.heard = kept.delivered.filterMap (·.message)
    rw [frames.heard, frames.delivered]
    rw [← all]
    exact heard
  · rw [projection, same]
    show Projected _ _ _ kept.heard _
    rw [frames.heard]
    exact (unbroken clean).projected

/-- How a run that returns has ended. -/
inductive Ended (launch : Launch) (running : Running host) : Prop
  | unbound : running.mapper = none → running.heard = [] → running.projection = .initial → Unobserved running.record →
      Ended launch running
  | bound {settings : Settings host} {base : Members} {mapper : Mapper} {cut : Cut} :
      Settled launch settings base mapper cut running → Ended launch running

private theorem Early.ended (early : Early running) {record : Members} (spared : Spared ["ended_at_unix_ms"] running.record record)
    (store : RunStore) : Ended launch { running with record := record, store := store } := by
  refine .unbound early.unbound early.heard (.trans ?_ early.fresh) ⟨(spared _ (by decide)).trans early.unobserved.state, ?_⟩
  · unfold Running.projection
    simp only [spared "usage" (by decide), spared "usage_turn_id" (by decide), spared "turn_status" (by decide),
      spared "worker_output" (by decide)]
  · unfold Admission.inner
    rw [spared _ (by decide)]
    exact early.unobserved.observed

private theorem finalise_meets (standing : Standing launch running) :
    Meets (finalise launch client) running (fun _ after => Ended launch after) (fun _ _ => True) := by
  have ends (middle : Running host) (ended : ∀ record, Spared ["ended_at_unix_ms"] middle.record record → ∀ store,
      Ended launch { middle with record := record, store := store }) : Meets (do
        assign "ended_at_unix_ms" (.int (unixMs client.ended))
        persist : Activity host Unit) middle (fun _ after => Ended launch after) (fun _ _ => True) := by
    refine .bind (.modify ((persist_meets _).weaken ?_ fun _ _ _ => trivial))
    intro _ after persisted
    obtain ⟨dispatch, raw, -, -, rfl⟩ := persisted.written
    refine ended _ (fun key other => ?_) _
    rw [get_set, if_neg (by simpa using other)]
  unfold finalise
  refine .bind (.read (.bind (.modify ?_)))
  rcases standing with early | ⟨settings, base, opened, going⟩
  · have kept := @Early.assign _ _ early "pre_cleanup_mechanism_state" (by decide) (by decide)
      (literal ((running.mapper.map fun held => held.2.mechanismState.name).getD "NOT_OBSERVABLE")) nofun
    rw [early.unbound] at kept ⊢
    exact ends _ fun record spared store => kept.ended spared store
  · have kept := going.unprojected (@Frames.assign _ _ "pre_cleanup_mechanism_state" (by decide)
      (literal ((running.mapper.map fun held => held.2.mechanismState.name).getD "NOT_OBSERVABLE"))) (projection_assign (by decide) _)
    obtain ⟨mapper, calls, held, -⟩ := going.loose.bound
    rw [held] at kept ⊢
    refine .bind ((settle_meets opened kept).weaken ?_ fun _ _ _ => trivial)
    rintro _ settledRun ⟨mapper, cut, settled⟩
    refine ends _ fun record spared store => .bound (settled.spared (fun key listed => spared key ?_) rfl rfl rfl rfl)
    have apart : ∀ name ∈ SETTLED, name ∉ ["ended_at_unix_ms"] := by decide
    exact apart key listed

theorem run_meets (early : Early running) :
    Meets (run launch client) running (fun record after => record = after.record ∧ Ended launch after) (fun _ _ => True) := by
  unfold run
  refine .bind (.finishing ((handled_meets early).weaken (fun _ middle standing => ?_) fun _ middle _ => ?_))
  · exact (finalise_meets standing).weaken (fun _ _ ended => .bind (.read (.pure ⟨rfl, ended⟩))) fun _ _ _ => trivial
  · exact .intro (fun _ _ _ => trivial) fun _ _ _ => trivial

end

end Switchyard.Runner
