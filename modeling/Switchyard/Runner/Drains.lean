import Switchyard.Runner.Projection

/-! A run between the binding of its mapper and its cut: what each drain consumes is a call
of the mapper, and each message it goes on to interpret moves the projection. -/

namespace Switchyard.Runner
open Library Json AppServer Admission Effect

/-- What a run does not assign between its two requests and the classification. -/
def FIXED : List String := ["thread_id", "turn_id", "state", "observed_execution", "dispatch_occurrence_id", "dispatch_record",
  "process_occurrence"]

/-- What the projection of a run reads of its record. -/
def PROJECTED : List String := ["usage", "usage_turn_id", "turn_status", "worker_output"]

section
variable {host : Host}

/-- A run whose mapper is bound, whatever else has happened. -/
structure Loose (settings : Settings host) (base : Members) (running : Running host) : Prop where
  bound : ∃ mapper calls, running.mapper = some (settings, mapper) ∧ Run (Admission.Performs settings) Mapper.initial calls mapper
  turn : get base "turn_id" = .str (settings.binding.text "turn_id")
  fixed : ∀ key ∈ FIXED, get running.record key = get base key
  pending : running.pending = []
  attributes : Attributes (get base "thread_id") (get base "turn_id") running.heard running.projection

/-- The mapper of the run has left the states that a clean cut can close. -/
def Broken (running : Running host) : Prop :=
  ∃ settings mapper, running.mapper = some (settings, mapper) ∧ Lost mapper.mechanismState

/-- All that was handed over before `rest` has been interpreted to its end. -/
structure Whole (base : Members) (limit : Json) (rest : List AcquisitionEnvelope) (running : Running host) : Prop where
  heard : ∃ seen, seen ++ rest = running.delivered ∧ running.heard = seen.filterMap (·.message)
  projected : Projected (get base "thread_id") (get base "turn_id") limit running.heard running.projection

/-- A run in which nothing has been missed so far, unless its mapper is broken. -/
structure Going (settings : Settings host) (base : Members) (limit : Json) (rest : List AcquisitionEnvelope)
    (running : Running host) : Prop where
  loose : Loose settings base running
  whole : Broken running ∨ Whole base limit rest running

/-- A step that leaves the mapper, the stream and the fixed part of the record alone. -/
structure Frames (running after : Running host) : Prop where
  mapper : after.mapper = running.mapper
  pending : after.pending = running.pending
  delivered : after.delivered = running.delivered
  heard : after.heard = running.heard
  fixed : ∀ key ∈ FIXED, get after.record key = get running.record key

variable {settings : Settings host} {base : Members} {limit : Json} {rest : List AcquisitionEnvelope} {running : Running host}

theorem Frames.refl (running : Running host) : Frames running running := ⟨rfl, rfl, rfl, rfl, fun _ _ => rfl⟩

theorem Frames.trans {middle after : Running host} (early : Frames running middle) (late : Frames middle after) :
    Frames running after :=
  ⟨late.mapper.trans early.mapper, late.pending.trans early.pending, late.delivered.trans early.delivered,
    late.heard.trans early.heard, fun key listed => (late.fixed key listed).trans (early.fixed key listed)⟩

theorem Frames.assign {key : String} (other : key ∉ FIXED) (value : Json) :
    Frames running { running with record := set running.record key value } := by
  refine ⟨rfl, rfl, rfl, rfl, fun name listed => ?_⟩
  have differ : name ≠ key := by
    rintro rfl
    exact other listed
  rw [get_set, if_neg differ]

theorem projection_assign {key : String} (other : key ∉ PROJECTED) (value : Json) :
    ({ running with record := set running.record key value } : Running host).projection = running.projection := by
  have apart (name : String) (listed : name ∈ PROJECTED) : get (set running.record key value) name = get running.record name := by
    rw [get_set, if_neg]
    rintro rfl
    exact other listed
  simp only [Running.projection, apart "usage" (by decide), apart "usage_turn_id" (by decide), apart "turn_status" (by decide),
    apart "worker_output" (by decide)]

theorem Broken.kept {after : Running host} (broken : Broken running) (same : after.mapper = running.mapper) : Broken after := by
  obtain ⟨settings, mapper, held, lost⟩ := broken
  exact ⟨settings, mapper, same.trans held, lost⟩

/-- A framed step keeps a run loose if the attribution still holds. -/
theorem Loose.frames {after : Running host} (loose : Loose settings base running) (frames : Frames running after)
    (attributes : Attributes (get base "thread_id") (get base "turn_id") running.heard after.projection) :
    Loose settings base after :=
  ⟨frames.mapper ▸ loose.bound, loose.turn, fun key listed => (frames.fixed key listed).trans (loose.fixed key listed),
    frames.pending.trans loose.pending, frames.heard ▸ attributes⟩

theorem Loose.unprojected {after : Running host} (loose : Loose settings base running) (frames : Frames running after)
    (same : after.projection = running.projection) : Loose settings base after :=
  loose.frames frames (same ▸ loose.attributes)

theorem Going.unprojected {after : Running host} (going : Going settings base limit rest running) (frames : Frames running after)
    (same : after.projection = running.projection) : Going settings base limit rest after := by
  refine ⟨going.loose.unprojected frames same, going.whole.imp (·.kept frames.mapper) fun whole => ⟨?_, ?_⟩⟩
  · rw [frames.delivered, frames.heard]
    exact whole.heard
  · rw [frames.heard, same]
    exact whole.projected

/-- What `onMapper` does with an operation of the bound mapper. -/
theorem onMapper_meets {α : Type} {settings : Settings host} {mapper : Mapper} {operation : Settings host → Operation α}
    {returned : α → Running host → Prop} {raised : ClassName → Running host → Prop} (held : running.mapper = some (settings, mapper))
    (meets : Meets (operation settings) mapper (fun value after => returned value { running with mapper := some (settings, after) })
      (fun failure after => raised (failureName failure) { running with mapper := some (settings, after) })) :
    Meets (onMapper operation) running returned raised := by
  rcases result : operation settings mapper with ⟨outcome, after⟩
  simp only [Meets, result] at meets
  simp only [Meets, onMapper, held, result]
  cases outcome <;> exact meets

/-- A call of the bound mapper leaves a run loose, whether it returns or raises. -/
theorem Loose.called {mapper after : Mapper} {call : Admission.Call} (loose : Loose settings base running)
    (held : running.mapper = some (settings, mapper)) (step : Admission.Performs settings mapper call after) :
    Loose settings base { running with mapper := some (settings, after) } := by
  obtain ⟨found, calls, again, reached⟩ := loose.bound
  obtain rfl : mapper = found := by simpa [held] using again
  exact ⟨⟨after, _, rfl, reached.snoc step⟩, loose.turn, loose.fixed, loose.pending, loose.attributes⟩

/-- The value of a call does not matter to the mapper it leaves. -/
theorem map_state {α β : Type} (operation : Operation α) (make : α → β) (mapper : Mapper) :
    ((make <$> operation) mapper).2 = (operation mapper).2 := by
  show (Effect.bind operation (fun value => Effect.pure (make value)) mapper).2 = _
  unfold Effect.bind
  split <;> simp_all [Effect.pure]

theorem markLoss_meets (loose : Loose settings base running) (detail : String) :
    Meets (markLoss detail) running (fun _ after => Loose settings base after ∧ Broken after)
      (fun _ after => Loose settings base after) := by
  obtain ⟨mapper, calls, held, -⟩ := loose.bound
  unfold markLoss
  refine .bind (onMapper_meets held ?_)
  have marks := @markAcquisitionLoss_meets _ settings (literal detail) mapper
  have performs (outcome : Except Failure Record) (after : Mapper)
      (result : markAcquisitionLoss settings (literal detail) mapper = (outcome, after)) :
      Admission.Performs settings mapper (.markAcquisitionLoss (literal detail)) after := by
    unfold Admission.Performs Admission.perform
    rw [map_state, result]
  refine .intro (fun value after result => ?_) fun failure after result => loose.called held (performs _ _ result)
  exact ⟨loose.called held (performs _ _ result), settings, after, rfl, marks.returns result⟩

private theorem assign_meets {key : String} {value : Json} {returned : Unit → Running host → Prop}
    {raised : ClassName → Running host → Prop} (done : returned () { running with record := set running.record key value }) :
    Meets (assign key value) running returned raised := .modify done

theorem projectUsage_meets {message : ServerMessage} {turnId : Text} (turn : get running.record "turn_id" = .str turnId)
    (faithful : stray (get running.record "thread_id") (get running.record "turn_id") message = false) :
    Meets (projectUsage message) running
      (fun _ after => Frames running after ∧ after.projection = if running.projection.attributionFailed then running.projection
        else running.projection.used (get running.record "thread_id") message)
      (fun _ _ => False) := by
  unfold projectUsage
  refine .bind (.read (.ite (fun reports => ?_) fun silent => ?_))
  · obtain ⟨reports, attributed⟩ : (hasMethod message "thread/tokenUsage/updated" &&
        equal (get message.params "threadId") (get running.record "thread_id")) = true ∧ (!running.attributionFailed) = true :=
      Bool.and_eq_true_iff.mp reports
    have used : usage? (get running.record "thread_id") message = some (get message.params "tokenUsage") := if_pos reports
    have settled (state scope turnId : Json) (named : turnId = if get message.params "tokenUsage" = .null then .null
          else get message.params "turnId") : Frames running { running with
          record := set (set (set (set running.record "usage" (get message.params "tokenUsage")) "usage_state" state)
            "usage_scope" scope) "usage_turn_id" turnId } ∧
        ({ running with
          record := set (set (set (set running.record "usage" (get message.params "tokenUsage")) "usage_state" state)
            "usage_scope" scope) "usage_turn_id" turnId } : Running host).projection =
          if running.projection.attributionFailed then running.projection
          else running.projection.used (get running.record "thread_id") message := by
      have attributed : running.attributionFailed = false := by simpa using attributed
      refine ⟨(((Frames.assign (by decide) _).trans (Frames.assign (by decide) _)).trans (Frames.assign (by decide) _)).trans
        (Frames.assign (by decide) _), ?_⟩
      simp [attributed, Projection.used, used, Running.projection, get_set, named]
    refine .bind (assign_meets (.bind (assign_meets (.bind (assign_meets ?_)))))
    refine .ite (fun null => .bind (.pure ?_)) fun present => .bind (.lift (fun turnId found => ?_) fun failure missing => ?_)
    · exact assign_meets (settled _ _ _ (by rw [if_pos null]))
    · exact assign_meets (settled _ _ _ (by rw [if_neg present, Json.get, item_ok.mp found]; rfl))
    · obtain ⟨method, thread⟩ := Bool.and_eq_true_iff.mp reports
      have own : equal (get message.params "turnId") (get running.record "turn_id") = true := by
        simpa [stray, method, thread] using faithful
      rw [turn] at own
      have named := equal_text.mp own
      unfold Json.get at named
      unfold item at missing
      cases found : message.params.lookup (text "turnId") with
      | none => simp [found] at named
      | some value => simp [found] at missing
  · refine .pure ⟨.refl _, ?_⟩
    cases failed : running.attributionFailed with
    | true => simp [Running.projection, failed]
    | false =>
      have unreported : usage? (get running.record "thread_id") message = none := by
        unfold usage?
        rw [if_neg]
        simpa [ofThread, failed] using silent
      have attributed : running.projection.attributionFailed = false := failed
      simp [attributed, Projection.used, unreported]

theorem projectTurn_meets (message : ServerMessage) (running : Running host) :
    Meets (projectTurn message) running
      (fun _ after => Frames running after ∧
        after.projection = running.projection.ended (get running.record "thread_id") (get running.record "turn_id") message)
      (fun _ after => after = running) := by
  have silent (none : status? (get running.record "thread_id") (get running.record "turn_id") message = none) :
      Frames running running ∧
        running.projection = running.projection.ended (get running.record "thread_id") (get running.record "turn_id") message :=
    ⟨.refl _, by simp [Projection.ended, none]⟩
  unfold projectTurn
  refine .bind (.read (.ite (fun reports => ?_) fun quiet => .pure (silent (if_neg quiet))))
  have reports : (hasMethod message "turn/completed" &&
      equal (get message.params "threadId") (get running.record "thread_id")) = true := reports
  cases found : orEmpty message.params "turn" with
  | obj turn =>
    refine .ite (fun named => assign_meets ⟨Frames.assign (by decide) _, ?_⟩) fun other => .pure (silent ?_)
    · simp [Running.projection, get_set, Projection.ended, status?, reports, found, named]
    · simp [status?, found, other]
  | _ => exact .raise rfl

theorem projectOutput_meets {request : Members} (loose : Loose settings base running) (message : ServerMessage) :
    Meets (projectOutput request message) running
      (fun _ after => Loose settings base after ∧ (Broken after ∨ Frames running after ∧ (running.attributionFailed = false →
        after.projection = running.projection.spoken (get running.record "thread_id") message ∧
          Admits (get request "maximum_output_bytes") (output? (get running.record "thread_id") message) after.projection)))
      (fun _ after => Loose settings base after) := by
  have silent (none : running.attributionFailed = false → output? (get running.record "thread_id") message = none) :
      Frames running running ∧ (running.attributionFailed = false →
        running.projection = running.projection.spoken (get running.record "thread_id") message ∧
          Admits (get request "maximum_output_bytes") (output? (get running.record "thread_id") message) running.projection) :=
    ⟨.refl _, fun attributed => by
      rw [Projection.spoken, none attributed]
      exact ⟨rfl, fun _ spoken => by cases spoken⟩⟩
  unfold projectOutput
  refine .bind (.read (.ite (fun reports => ?_) fun quiet => .pure ⟨loose, .inr (silent fun attributed => ?_)⟩))
  · obtain ⟨reports, attributed⟩ : (hasMethod message "item/completed" &&
        equal (get message.params "threadId") (get running.record "thread_id")) = true ∧ (!running.attributionFailed) = true :=
      Bool.and_eq_true_iff.mp reports
    have reported : output? (get running.record "thread_id") message = _ := if_pos reports
    cases found : orEmpty message.params "item" with
    | obj completed =>
      rw [found] at reported
      cases spoken : agentText completed with
      | none =>
        simp only [spoken]
        exact .pure ⟨loose, .inr (silent fun _ => reported.trans spoken)⟩
      | some content =>
        have reported : output? (get running.record "thread_id") message = some content := reported.trans spoken
        simp only [spoken]
        refine .bind (.lift (fun size sized => ?_) fun _ _ => loose)
        obtain ⟨encoded, whole, rfl⟩ := utf8Length_ok.mp sized
        have counted : Loose settings base { running with outputBytes := running.outputBytes + encoded.length } :=
          ⟨loose.bound, loose.turn, loose.fixed, loose.pending, loose.attributes.spared ⟨rfl, rfl, rfl, fun _ => rfl⟩⟩
        refine .bind (.modify (.bind (.lift (fun limit listed => .bind (.lift (fun exceeded compared => ?_) fun _ _ => counted))
          fun _ _ => counted)))
        obtain rfl : get request "maximum_output_bytes" = limit := by simp [Json.get, item_ok.mp listed]
        have framed : Frames running { running with
            outputBytes := running.outputBytes + encoded.length, record := set running.record "worker_output" (.str content) } :=
          ⟨rfl, rfl, rfl, rfl, (Frames.assign (by decide) _).fixed⟩
        have attributed : running.attributionFailed = false := by simpa using attributed
        refine .ite (fun _ => ?_) fun within => assign_meets ⟨loose.frames framed ?_, .inr ⟨framed, fun _ => ⟨?_, ?_⟩⟩⟩
        · exact (markLoss_meets counted _).weaken (fun _ _ marked => ⟨marked.1, .inl marked.2⟩) fun _ _ kept => kept
        · refine loose.attributes.spared ⟨?_, ?_, rfl, fun failed => ?_⟩
          · simp [Running.projection, get_set]
          · simp [Running.projection, get_set]
          · rw [show running.projection.attributionFailed = running.attributionFailed from rfl, attributed] at failed
            cases failed
        · simp [Running.projection, get_set, Projection.spoken, reported, whole]
        · rw [reported]
          intro _ same
          obtain rfl := Option.mem_some_iff.mp same
          obtain rfl : exceeded = false := by simpa using within
          exact ⟨by simp [whole], compared⟩
    | _ => exact .raise loose
  · unfold output?
    rw [if_neg]
    simpa [ofThread, attributed] using quiet

/-- What projecting a message makes of a run that has just heard it. -/
theorem project_meets {request : Members} (loose : Loose settings base running) (message : ServerMessage) :
    Meets (project request message) { running with heard := running.heard ++ [message] }
      (fun _ after => Loose settings base after ∧ (Broken after ∨
        Frames { running with heard := running.heard ++ [message] } after ∧ (running.attributionFailed = false →
          after.projection = ((running.projection.used (get base "thread_id") message).ended (get base "thread_id")
            (get base "turn_id") message).spoken (get base "thread_id") message ∧
          Admits (get request "maximum_output_bytes") (output? (get base "thread_id") message) after.projection)))
      (fun _ after => Loose settings base after) := by
  have threadId := loose.fixed "thread_id" (by decide)
  have turnId := loose.fixed "turn_id" (by decide)
  unfold project
  refine .bind (.read (.ite (fun astray => .bind (.modify ?_)) fun attributed => ?_))
  · have astray : stray (get base "thread_id") (get base "turn_id") message = true := by
      rw [← threadId, ← turnId]
      exact astray
    have cleared : Loose settings base { running with
        heard := running.heard ++ [message]
        attributionFailed := true
        record := update running.record [("usage", .null), ("usage_state", literal "NOT_OBSERVABLE"),
          ("usage_scope", literal "NOT_OBSERVABLE"), ("usage_turn_id", .null), ("worker_output", .null)] } := by
      refine ⟨loose.bound, loose.turn, fun key listed => ?_, loose.pending, ?_⟩
      · have apart : ∀ name ∈ ["usage", "usage_state", "usage_scope", "usage_turn_id", "worker_output"], name ∉ FIXED := by decide
        refine (get_update (fun item member => ?_) _).trans (loose.fixed key listed)
        rintro rfl
        exact apart _ (List.mem_map_of_mem (f := Prod.fst) member) listed
      · have nulled : Attributes (get base "thread_id") (get base "turn_id") (running.heard ++ [message]) _ :=
          Attributes.stray running.projection astray
        have same : ({ running with
            attributionFailed := true
            record := update running.record [("usage", .null), ("usage_state", literal "NOT_OBSERVABLE"),
              ("usage_scope", literal "NOT_OBSERVABLE"), ("usage_turn_id", .null), ("worker_output", .null)] } :
              Running host).projection = { running.projection with
            usage := .null, usageTurn := .null, output := .null, attributionFailed := true } := by
          simp [Running.projection, update, get_set]
        exact same ▸ nulled
    exact (markLoss_meets cleared _).weaken (fun _ _ marked => ⟨marked.1, .inl marked.2⟩) fun _ _ kept => kept
  · have faithful : stray (get running.record "thread_id") (get running.record "turn_id") message = false :=
      Bool.eq_false_of_not_eq_true attributed
    have turn : get running.record "turn_id" = .str (settings.binding.text "turn_id") := turnId.trans loose.turn
    have uses := @projectUsage_meets _ { running with heard := running.heard ++ [message] } _ _ turn faithful
    refine .bind (uses.weaken ?_
      fun _ _ => False.elim)
    rintro _ first ⟨early, used⟩
    have firstLoose : Loose settings base first := by
      refine ⟨early.mapper ▸ loose.bound, loose.turn, fun key listed => (early.fixed key listed).trans (loose.fixed key listed),
        early.pending.trans loose.pending, ?_⟩
      rw [early.heard, used]
      have own : stray (get base "thread_id") (get base "turn_id") message = false := by
        rw [← threadId, ← turnId]
        exact faithful
      have attributes := loose.attributes.used loose.turn own
      rw [← threadId, ← turnId] at attributes ⊢
      exact attributes
    refine .bind ((projectTurn_meets message first).weaken ?_ ?_)
    · rintro _ second ⟨late, ended⟩
      have secondLoose : Loose settings base second := by
        refine firstLoose.frames late ?_
        rw [ended]
        exact firstLoose.attributes.spared ⟨rfl, rfl, rfl, fun _ => rfl⟩
      refine (projectOutput_meets secondLoose message).weaken ?_ fun _ _ kept => kept
      rintro _ after ⟨kept, broken | ⟨last, spoken⟩⟩
      · exact ⟨kept, .inl broken⟩
      · refine ⟨kept, .inr ⟨(early.trans late).trans last, fun intact => ?_⟩⟩
        have intact : running.projection.attributionFailed = false := intact
        have usedHere : first.projection = running.projection.used (get base "thread_id") message := by
          have unflagged : ({ running with heard := running.heard ++ [message] } : Running host).projection.attributionFailed =
            false := intact
          rw [used, if_neg (by simp [unflagged]), ← threadId]
          rfl
        have endedHere : second.projection =
            first.projection.ended (get base "thread_id") (get base "turn_id") message := by
          rw [ended, firstLoose.fixed "thread_id" (by decide), firstLoose.fixed "turn_id" (by decide)]
        have unflagged : second.attributionFailed = false := by
          have kept : second.projection.attributionFailed = running.projection.attributionFailed := by
            rw [endedHere, usedHere]
            simp only [Projection.ended, Projection.used]
            split <;> rfl
          exact kept.trans intact
        have heard := spoken unflagged
        rw [secondLoose.fixed "thread_id" (by decide), endedHere, usedHere] at heard
        exact heard
    · rintro _ _ rfl
      exact firstLoose

theorem consume_meets {request : Members} {envelope : AcquisitionEnvelope}
    (going : Going settings base (get request "maximum_output_bytes") (envelope :: rest) running) :
    Meets (consume request envelope) running
      (fun _ after => Going settings base (get request "maximum_output_bytes") rest after)
      (fun _ after => Loose settings base after) := by
  obtain ⟨mapper, calls, held, reached⟩ := going.loose.bound
  have performs (outcome : Except Failure (Option Record)) (after : Mapper)
      (result : consumeEnvelope settings envelope mapper = (outcome, after)) :
      Admission.Performs settings mapper (.consumeEnvelope envelope) after := by
    unfold Admission.Performs Admission.perform
    exact congrArg Prod.snd result
  unfold consume
  refine .bind (onMapper_meets held (.intro (fun value after result => ?_) fun failure after result => ?_))
  · have called := going.loose.called held (performs _ _ result)
    have kept (broken : Broken running) : Broken { running with mapper := some (settings, after) } := by
      obtain ⟨other, found, again, lost⟩ := broken
      obtain ⟨rfl, rfl⟩ : settings = other ∧ mapper = found := by simpa [held] using again
      exact ⟨settings, after, rfl, lost_step reached (performs _ _ result) lost⟩
    cases spoken : envelope.message with
    | none =>
      refine .pure ⟨called, going.whole.imp kept fun whole => ⟨?_, whole.projected⟩⟩
      obtain ⟨seen, all, heard⟩ := whole.heard
      exact ⟨seen ++ [envelope], by simpa using all, by simp [spoken, heard]⟩
    | some message =>
      refine .bind (.modify ((project_meets called message).weaken ?_ fun _ _ kept => kept))
      rintro _ last ⟨loose, broken | ⟨frames, hears⟩⟩
      · exact ⟨loose, .inl broken⟩
      · refine ⟨loose, going.whole.imp (fun broken => (kept broken).kept frames.mapper) fun whole => ?_⟩
        obtain ⟨seen, all, heard⟩ := whole.heard
        obtain ⟨projected, admitted⟩ := hears whole.projected.attributed
        rw [projected] at admitted
        refine ⟨⟨seen ++ [envelope], ?_, ?_⟩, ?_⟩
        · rw [frames.delivered]
          simpa using all
        · rw [frames.heard]
          simp [spoken, heard]
        · rw [frames.heard, projected]
          exact whole.projected.snoc admitted
  · exact going.loose.called held (performs _ _ result)

/-- The mapper's snapshot is what the record retains. -/
def Snapshots (running : Running host) : Prop :=
  ∃ settings mapper retained, running.mapper = some (settings, mapper) ∧ snapshot settings mapper = .ok retained ∧
    get running.record "provider_admission" = .obj retained

theorem retainSnapshot_meets (running : Running host) :
    Meets retainSnapshot running
      (fun _ after => Frames running after ∧ after.projection = running.projection ∧ Snapshots after)
      (fun _ after => after = running) := by
  unfold retainSnapshot
  refine .bind (.read ?_)
  cases held : running.mapper with
  | none => exact .raise rfl
  | some bound =>
    refine .bind (.lift (fun retained taken => ?_) fun _ _ => rfl)
    refine .modify ⟨Frames.assign (by decide) _, projection_assign (by decide) _, ?_⟩
    refine ⟨bound.1, bound.2, retained, held, ?_, by simp [get_set]⟩
    cases snapped : snapshot bound.1 bound.2 <;> simp_all [Except.mapError]

/-- The record of the run has been written to its row. -/
structure Persisted (host : Host) (running after : Running host) : Prop where
  written : ∃ dispatch raw, get running.record "dispatch_occurrence_id" = .str dispatch ∧
    canonical host (.obj running.record) = .ok raw ∧ after = { running with store := running.store.written dispatch raw }

theorem persist_meets (running : Running host) :
    Meets persist running (fun _ after => Persisted host running after) (fun _ after => after = running) := by
  unfold Meets persist
  cases named : running.record.lookup (text "dispatch_occurrence_id") with
  | none => rfl
  | some value =>
    cases value with
    | str dispatch =>
      have updates := @RunStore.update_meets host dispatch running.record running.store
      rcases result : RunStore.update host dispatch running.record running.store with ⟨outcome, store⟩
      simp only [Meets, result] at updates
      simp only [result]
      cases outcome with
      | ok _ =>
        obtain ⟨raw, encoded, rfl⟩ := updates
        exact ⟨dispatch, raw, by simp [Json.get, named], encoded, rfl⟩
      | error _ =>
        subst updates
        rfl
    | _ => rfl

theorem Persisted.frames {after : Running host} (persisted : Persisted host running after) :
    Frames running after ∧ after.projection = running.projection ∧ after.record = running.record := by
  obtain ⟨dispatch, raw, -, -, rfl⟩ := persisted.written
  exact ⟨⟨rfl, rfl, rfl, rfl, fun _ _ => rfl⟩, rfl, rfl⟩

private theorem forM_consume {request : Members} (handed : List AcquisitionEnvelope) (running : Running host)
    (going : Going settings base (get request "maximum_output_bytes") handed running) :
    Meets (handed.forM (consume request)) running
      (fun _ after => Going settings base (get request "maximum_output_bytes") [] after)
      (fun _ after => Loose settings base after) := by
  induction handed generalizing running with
  | nil => exact .pure going
  | cons envelope rest ih => exact .bind ((consume_meets going).weaken (fun _ after kept => ih after kept) fun _ _ loose => loose)

theorem drain_meets {request : Members} (handed : List AcquisitionEnvelope)
    (going : Going settings base (get request "maximum_output_bytes") [] running) :
    Meets (drain request handed) running
      (fun _ after => Going settings base (get request "maximum_output_bytes") [] after ∧ Snapshots after)
      (fun _ after => Loose settings base after) := by
  obtain ⟨mapper, calls, held, reached⟩ := going.loose.bound
  have begun : Going settings base (get request "maximum_output_bytes") handed
      { running with delivered := running.delivered ++ handed, pending := [] } := by
    refine ⟨⟨⟨mapper, calls, held, reached⟩, going.loose.turn, going.loose.fixed, rfl, going.loose.attributes⟩,
      going.whole.imp (·.kept rfl) fun whole => ⟨?_, whole.projected⟩⟩
    obtain ⟨seen, all, heard⟩ := whole.heard
    refine ⟨seen, ?_, heard⟩
    simp only [List.append_nil] at all
    rw [all]
  unfold drain
  refine .bind (.read (.bind (.modify ?_)))
  split
  next absent =>
    rw [held] at absent
    cases absent
  rw [going.loose.pending, List.nil_append]
  refine .bind (.modify (.bind ((forM_consume handed _ begun).weaken ?_ fun _ _ loose => loose)))
  intro _ consumed going
  refine .bind ((retainSnapshot_meets consumed).weaken ?_ ?_)
  · rintro _ retained ⟨frames, same, snapshots⟩
    have going := going.unprojected frames same
    refine (persist_meets retained).weaken ?_ ?_
    · intro _ after persisted
      obtain ⟨frames, same, kept⟩ := persisted.frames
      obtain ⟨settings, mapper, members, held, taken, stored⟩ := snapshots
      exact ⟨going.unprojected frames same, settings, mapper, members, frames.mapper.trans held, taken, kept ▸ stored⟩
    · rintro _ _ rfl
      exact going.loose
  · rintro _ _ rfl
    exact going.loose

theorem poll_meets {request : Members} (polls : List (List AcquisitionEnvelope)) (running : Running host)
    (going : Going settings base (get request "maximum_output_bytes") [] running) :
    Meets (poll request polls) running
      (fun _ after => Going settings base (get request "maximum_output_bytes") [] after)
      (fun _ after => Loose settings base after) := by
  induction polls generalizing running with
  | nil => exact (markLoss_meets going.loose _).weaken (fun _ _ marked => ⟨marked.1, .inl marked.2⟩) fun _ _ loose => loose
  | cons handed rest ih =>
    unfold poll
    refine .bind ((drain_meets handed going).weaken ?_ fun _ _ loose => loose)
    rintro _ drained ⟨going, -⟩
    exact .bind (.read (.ite (fun _ => .pure going) fun _ => ih drained going))

end

end Switchyard.Runner
