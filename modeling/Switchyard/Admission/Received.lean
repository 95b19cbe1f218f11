import Switchyard.Admission.Change
import Switchyard.Admission.Lifecycle

/-! Provider messages: what each handler records of a frame, and the two ways a
frame can move the bounded turn although its record is refused. -/

namespace Switchyard.Admission
open Library Json AppServer

variable {host : Host} {settings : Settings host}

/-- The bytes that `_consume_impl` keeps of a provider message. -/
def keptCustody (settings : Settings host) (mapper : Mapper) (message : ServerMessage) : Option RawCustody :=
  match providerCustody settings mapper message with
  | .ok (_, raw) => some raw
  | .error _ => none

/-- The frame has moved the bounded turn as it was tracked. -/
def Moved (settings : Settings host) (before : Mapper) (message : ServerMessage) (bounded : BoundedTurn) : Prop :=
  ∃ method verdict, message.method = some method ∧ (verdict = .watermark ∨ verdict = .proceed) ∧
    Tracked settings before message method verdict bounded

/-- A change recorded of a provider message. -/
structure Received (settings : Settings host) (before : Mapper) (message : ServerMessage) (label : Json)
    (raw : Option RawCustody) (normalized : Normalized) (assigned : Mapper) : Prop where
  change : Change settings before label raw normalized assigned
  custody : raw = keptCustody settings before message
  labelled : label = literal "unknown" ∨ ∃ method, message.method = some method ∧ label = .str method
  bare : raw = none → ∃ detail execution, normalized = .discrepancy detail execution
  moved : (∃ detail execution, normalized = .discrepancy detail execution) ∨ Moved settings before message assigned.bounded

/-- The record that a verdict asks for cannot be appended. -/
def VerdictRefused (settings : Settings host) (mapper : Mapper) (method : Text) (raw : RawCustody) : Verdict → Prop
  | .discrepancy detail => Unrecordable settings mapper.interrupted (.str method) (some raw) (discrepancyOf mapper (text detail))
  | .watermark => Unrecordable settings mapper (.str method) (some raw) .watermark
  | .proceed => False

/-- The verdict on an agent message that no selection covered. -/
def countedVerdict (bounded : BoundedTurn) (size : Nat) : Verdict :=
  if bounded.completedAgentBytes + size ≤ MAXIMUM_BOUNDED_AGENT_OUTPUT_BYTES then .watermark
  else .discrepancy "bounded completed agent output exceeds decoded byte bound"

/-- The frame leaves the bounded turn moved although its record is refused. -/
inductive LeaksMessage (settings : Settings host) (mapper : Mapper) (message : ServerMessage) : Prop
  | selected {method : Text} {raw : RawCustody} : providerCustody settings mapper message = .ok (true, raw) →
      message.method = some method → (method = text "item/started" ∨ method = text "item/completed") →
      gate mapper method false = none →
      Moves mapper.bounded method (textOf (inner message.params "item" "id")) (textOf (inner message.params "item" "text"))
        (isInputEcho settings mapper message) →
      (∀ verdict, (lifecycle method message.params (isInputEcho settings mapper message) mapper.bounded).1 = .ok verdict →
        VerdictRefused settings mapper method raw verdict) →
      LeaksMessage settings mapper message
  | counted {method : Text} {raw : RawCustody} {size : Nat} : providerCustody settings mapper message = .ok (false, raw) →
      message.method = some method → Counted settings method message.params → gate mapper method false = none →
      utf8Length (textOf (inner message.params "item" "text")) = .ok size → 0 < size →
      VerdictRefused settings mapper method raw (countedVerdict mapper.bounded size) →
      LeaksMessage settings mapper message

theorem LeaksMessage.item {mapper : Mapper} {message : ServerMessage} {method : Text} (leaks : LeaksMessage settings mapper message)
    (named : message.method = some method) : method = text "item/started" ∨ method = text "item/completed" := by
  cases leaks with
  | selected _ found item =>
    cases named.symm.trans found
    exact item
  | counted _ found counts =>
    cases named.symm.trans found
    exact .inr counts.1

theorem LeaksMessage.custody {mapper : Mapper} {message : ServerMessage} (leaks : LeaksMessage settings mapper message) :
    ∃ selected raw, providerCustody settings mapper message = .ok (selected, raw) := by
  cases leaks with
  | selected custody => exact ⟨true, _, custody⟩
  | counted custody => exact ⟨false, _, custody⟩

theorem LeaksMessage.opened {mapper : Mapper} {message : ServerMessage} {method : Text}
    (leaks : LeaksMessage settings mapper message) (named : message.method = some method) : gate mapper method false = none := by
  cases leaks with
  | selected _ found _ opened =>
    cases named.symm.trans found
    exact opened
  | counted _ found _ opened =>
    cases named.symm.trans found
    exact opened

variable {before : Mapper} {message : ServerMessage} {method : Text} {raw : RawCustody} {spoiled : Prop}

theorem Observed.received {serverRequest : Bool} {normalized : Normalized} {assigned : Mapper}
    (observed : Observed settings before message method serverRequest raw)
    (change : Change settings before (.str method) (some raw) normalized assigned)
    (moved : (∃ detail execution, normalized = .discrepancy detail execution) ∨ Moved settings before message assigned.bounded) :
    Received settings before message (.str method) (some raw) normalized assigned := by
  obtain ⟨selected, custody⟩ := observed.custody
  exact ⟨change, by rw [keptCustody, custody], .inr ⟨method, observed.named, rfl⟩, nofun, moved⟩

/-- A method outside the closed shapes moves nothing. -/
theorem Observed.unmoved {serverRequest : Bool} (observed : Observed settings before message method serverRequest raw)
    (other : among ["item/started", "item/completed", "item/agentMessage/delta", "turn/completed"] method = false) :
    Moved settings before message before.bounded := by
  obtain ⟨selected, custody⟩ := observed.custody
  obtain ⟨selection, _⟩ := providerCustody_ok custody
  refine ⟨method, .watermark, observed.named, .inl rfl, ?_⟩
  cases selected with
  | true => rcases selected_methods selection observed.named with rfl | rfl | rfl | rfl <;> cases other
  | false =>
    apply Tracked.untouched selection
    rintro ⟨rfl, _⟩
    cases other

theorem Observed.marks {serverRequest : Bool} (observed : Observed settings before message method serverRequest raw) (detail : Text) :
    Ends settings before (Received settings before message) False
      (markDiscrepancy settings (.str detail) (.str method) (some raw)) before := by
  apply marks_ends
  exact observed.received (.discrepancy before.bounded) (.inl ⟨_, _, rfl⟩)

/-! The handlers of provider boundaries and local facts. -/

theorem checkedAs_ends {α : Type} {name : String} {checks : Except Failure α} {next : α → Operation Record}
    (observed : Observed settings before message (text name) false raw)
    (passes : ∀ value, checks = .ok value → Ends settings before (Received settings before message) False (next value) before) :
    Ends settings before (Received settings before message) False (checkedAs settings name raw checks next) before := by
  unfold checkedAs
  cases result : checks with
  | ok value => exact passes value result
  | error failure =>
    cases failure with
    | admission reason => exact observed.marks reason
    | other className => exact Fails.kept before

theorem providerRequest_ends (observed : Observed settings before message (text "providerRequest/started") false raw) :
    Ends settings before (Received settings before message) False (providerRequest settings message.params raw) before := by
  unfold providerRequest
  apply Effect.Meets.bind
  apply Effect.Meets.read
  apply checkedAs_ends observed
  rintro ⟨request, startedAtMs⟩ checked
  apply Effect.Meets.bind
  apply Effect.Meets.modify
  apply assigns_ends
  · exact observed.received (.requestStarted observed checked) (.inr (observed.unmoved (by decide)))
  · rfl
  · rfl

theorem responseStarted_ends (observed : Observed settings before message (text "rawResponse/started") false raw) :
    Ends settings before (Received settings before message) False (responseStarted settings message.params raw) before := by
  unfold responseStarted
  apply Effect.Meets.bind
  apply Effect.Meets.read
  apply checkedAs_ends observed
  rintro ⟨request, responseId, observedAtMs⟩ checked
  apply Effect.Meets.bind
  apply Effect.Meets.modify
  apply assigns_ends
  · exact observed.received (.executionStep observed checked rfl rfl) (.inr (observed.unmoved (by decide)))
  · rfl
  · rfl

theorem providerRefused_ends (observed : Observed settings before message (text "providerAdmission/refused") false raw) :
    Ends settings before (Received settings before message) False (providerRefused settings message.params raw) before := by
  unfold providerRefused
  apply Effect.Meets.bind
  apply Effect.Meets.read
  apply checkedAs_ends observed
  rintro ⟨request, retryAfter, diagnostic, observedAtMs⟩ checked
  apply Effect.Meets.bind
  apply Effect.Meets.modify
  apply assigns_ends
  · exact observed.received (.admissionRefused observed checked) (.inr (observed.unmoved (by decide)))
  · rfl
  · rfl

theorem responseCompleted_ends (observed : Observed settings before message (text "rawResponse/completed") false raw) :
    Ends settings before (Received settings before message) False (responseCompleted settings message.params raw) before := by
  unfold responseCompleted
  apply Effect.Meets.bind
  apply Effect.Meets.read
  cases checked : responseCompletedRefusal settings before message.params with
  | some detail =>
    exact observed.marks (text detail)
  | none =>
    apply Effect.Meets.bind
    apply Effect.Meets.modify
    apply assigns_ends
    · exact observed.received (.responseCompleted observed checked) (.inr (observed.unmoved (by decide)))
    · rfl
    · rfl

theorem approved_other {params : Members} (checked : approvalRefusal settings before method params = none) :
    among ["item/started", "item/completed", "item/agentMessage/delta", "turn/completed"] method = false := by
  have known : among ["item/commandExecution/requestApproval", "item/fileChange/requestApproval"] method = true := by
    unfold approvalRefusal at checked
    grind
  have listed : method = text "item/commandExecution/requestApproval" ∨ method = text "item/fileChange/requestApproval" := by
    simpa [among] using known
  rcases listed with rfl | rfl
  · decide
  · decide

theorem approvalOrDiscrepancy_ends (observed : Observed settings before message method true raw) :
    Ends settings before (Received settings before message) False
      (approvalOrDiscrepancy settings method message.params raw) before := by
  unfold approvalOrDiscrepancy
  apply Effect.Meets.bind
  apply Effect.Meets.read
  cases checked : approvalRefusal settings before method message.params with
  | some detail =>
    exact observed.marks (text detail)
  | none =>
    apply Effect.Meets.bind
    apply Effect.Meets.modify
    apply assigns_ends
    · apply observed.received (.waitingApproval observed checked)
      apply Or.inr
      apply observed.unmoved
      exact approved_other checked
    · rfl
    · rfl

theorem localFact_ends (observed : Observed settings before message method false raw)
    (fact : among ["thread/started", "turn/started", "turn/completed"] method = true)
    (tracked : Tracked settings before message method .proceed before.bounded) :
    Ends settings before (Received settings before message) False (localFact settings method message.params raw) before := by
  unfold localFact
  apply Effect.Meets.bind
  apply Effect.Meets.read
  cases checked : localFactRefusal settings before method message.params with
  | some detail =>
    exact observed.marks (text detail)
  | none =>
    have received := observed.received (.localFact observed fact checked tracked)
      (.inr ⟨method, .proceed, observed.named, .inr rfl, tracked⟩)
    by_cases completes : method = text "turn/completed" ∧ before.providerExecutionIdentity.isSome
    · rw [if_pos completes]
      rw [if_pos completes] at received
      apply Effect.Meets.bind
      apply Effect.Meets.modify
      exact assigns_ends received rfl rfl
    · rw [if_neg completes]
      rw [if_neg completes] at received
      exact assigns_ends received rfl rfl

/-! The lifecycle of the selected turn. -/

theorem onBounded_meets {α : Type} {program : Lifecycle α} {mapper : Mapper} {returned : α → Mapper → Prop}
    {raised : Failure → Mapper → Prop} {outcome : Except Failure α} {after : BoundedTurn}
    (result : program mapper.bounded = (outcome, after))
    (ok : ∀ value, outcome = .ok value → returned value { mapper with bounded := after })
    (error : ∀ failure, outcome = .error failure → raised failure { mapper with bounded := after }) :
    Effect.Meets (onBounded program) mapper returned raised := by
  unfold Effect.Meets onBounded
  rw [result]
  cases outcome with
  | ok value => exact ok value rfl
  | error failure => exact error failure rfl

/-- What the verdict on a frame leads to, once the bounded turn is `after`. -/
theorem verdict_ends {verdict : Verdict} {after : BoundedTurn} (observed : Observed settings before message method false raw)
    (tracked : verdict = .watermark → among ["thread/started", "turn/started", "turn/completed"] method = false ∧
      Tracked settings before message method .watermark after)
    (refuses : VerdictRefused settings before method raw verdict → (after = before.bounded ↔ ¬ spoiled)) :
    match verdict with
    | .proceed => True
    | .discrepancy detail => Ends settings before (Received settings before message) spoiled
        (markDiscrepancy settings (literal detail) (.str method) (some raw)) { before with bounded := after }
    | .watermark => Ends settings before (Received settings before message) spoiled
        (record settings (.str method) (some raw) .watermark) { before with bounded := after } := by
  cases verdict with
  | proceed => trivial
  | discrepancy detail =>
    apply markDiscrepancy_ends
    · exact observed.received (.discrepancy after) (.inl ⟨_, _, rfl⟩)
    · rfl
    · intro refused
      apply refuses
      rw [interrupted_with_bounded] at refused
      exact refused
  | watermark =>
    obtain ⟨other, tracked⟩ := tracked rfl
    apply record_ends
    · exact observed.received (.watermark observed other tracked) (.inr ⟨method, .watermark, observed.named, .inl rfl, tracked⟩)
    · rfl
    · exact refuses

theorem boundedTurnAgentOutput_ends (observed : Observed settings before message method false raw)
    (custody : providerCustody settings before message = .ok (true, raw)) :
    Effect.Meets (boundedTurnAgentOutput settings method message raw) before
      (fun found after => match found with
        | some stored => Stores settings (Received settings before message) stored after
        | none => after = before ∧ Tracked settings before message method .proceed before.bounded ∧
            among ["item/started", "item/completed", "item/agentMessage/delta"] method = false)
      fun _ => Fails before (LeaksMessage settings before message) := by
  obtain ⟨selected, _⟩ := providerCustody_ok custody
  obtain ⟨_, output⟩ := selectedEcho_true selected
  have input (echo : isInputEcho settings before message = true) : method = text "item/started" ∨ method = text "item/completed" :=
    inputEcho_method echo observed.named
  have sized (echo : isInputEcho settings before message = false) (item : method = text "item/started" ∨ method = text "item/completed") :
      ∃ size, utf8Length (textOf (inner message.params "item" "text")) = .ok size := by
    rw [echo] at output
    exact agentOutput_sized output observed.named item
  obtain ⟨verdict, after, result, moved⟩ := @lifecycle_moves method before.bounded _ _ input sized
  obtain ⟨proceeds, watermarks⟩ := lifecycle_verdict result input sized
  have item (moves : Moves before.bounded method (textOf (inner message.params "item" "id"))
      (textOf (inner message.params "item" "text")) (isInputEcho settings before message)) :
      method = text "item/started" ∨ method = text "item/completed" := by
    cases echo : isInputEcho settings before message with
    | true => exact inputEcho_method echo observed.named
    | false =>
      rw [echo] at moves
      unfold Moves at moves
      grind
  have refuses (refused : VerdictRefused settings before method raw verdict) :
      after = before.bounded ↔ ¬ LeaksMessage settings before message := by
    rw [moved, not_iff_not]
    constructor
    · intro moves
      apply LeaksMessage.selected custody observed.named (item moves) observed.opened moves
      intro other again
      rw [result] at again
      cases again
      exact refused
    · intro leaks
      cases leaks with
      | selected _ found _ _ moves =>
        cases observed.named.symm.trans found
        exact moves
      | counted other => cases custody.symm.trans other
  have tracked : Tracked settings before message method verdict after := .selected selected result
  unfold boundedTurnAgentOutput
  apply Effect.Meets.bind
  apply Effect.Meets.read
  apply Effect.Meets.bind
  apply Effect.Meets.lift
  · intro isOutput found
    cases output.symm.trans found
    have closed : (!isInputEcho settings before message && !!isInputEcho settings before message) = false := by simp
    simp only [closed, Bool.false_eq_true, if_false]
    apply Effect.Meets.bind
    apply onBounded_meets result
    · intro value same
      cases same
      cases verdict with
      | proceed =>
        obtain ⟨rfl, summary⟩ := proceeds rfl
        exact ⟨rfl, tracked, summary⟩
      | discrepancy detail =>
        apply Effect.Meets.bind
        exact verdict_ends observed (by simp) refuses
      | watermark =>
        apply Effect.Meets.bind
        have other : among ["thread/started", "turn/started", "turn/completed"] method = false := by
          rcases selected_methods selected observed.named with rfl | rfl | rfl | rfl
          · decide
          · decide
          · decide
          · cases watermarks rfl rfl
        exact verdict_ends observed (fun _ => ⟨other, tracked⟩) refuses
    · intro failure same
      cases same
  · intro failure found
    cases output.symm.trans found

theorem watermark_ends (observed : Observed settings before message method false raw)
    (custody : providerCustody settings before message = .ok (false, raw))
    (other : among ["thread/started", "turn/started", "turn/completed"] method = false) :
    Ends settings before (Received settings before message) (LeaksMessage settings before message)
      (watermark settings method message.params raw) before := by
  obtain ⟨selected, _⟩ := providerCustody_ok custody
  unfold watermark
  apply Effect.Meets.ite
  · intro counts
    apply Effect.Meets.bind
    have counted : Counted settings method message.params := counts
    cases sized : utf8Length (textOf (inner message.params "item" "text")) with
    | error className =>
      have raised : countBoundedCompletedAgent (textOf (inner message.params "item" "text")) before.bounded =
          (.error (.other className), before.bounded) := by
        unfold countBoundedCompletedAgent
        rw [sized]
        rfl
      apply onBounded_meets raised
      · intro value impossible
        cases impossible
      · intro failure _
        apply (Fails.kept before).harmless
        intro leaks
        cases leaks with
        | selected found => cases custody.symm.trans found
        | counted _ _ _ _ found => cases sized.symm.trans found
    | ok size =>
      have refuses (refused : VerdictRefused settings before method raw (countedVerdict before.bounded size)) :
          { before.bounded with completedAgentBytes := before.bounded.completedAgentBytes + size } = before.bounded ↔
            ¬ LeaksMessage settings before message := by
        have moved : { before.bounded with completedAgentBytes := before.bounded.completedAgentBytes + size } = before.bounded ↔
            ¬ 0 < size := by
          cases before.bounded
          simp
        rw [moved, not_iff_not]
        constructor
        · intro grows
          exact .counted custody observed.named counted observed.opened sized grows refused
        · intro leaks
          cases leaks with
          | selected found => cases custody.symm.trans found
          | counted _ _ _ _ found grows =>
            cases sized.symm.trans found
            exact grows
      apply onBounded_meets (countBoundedCompletedAgent_apply sized before.bounded)
      · intro fits same
        cases same
        apply Effect.Meets.ite
        · intro within
          have verdict : countedVerdict before.bounded size = .watermark := if_pos (of_decide_eq_true within)
          have result := countBoundedCompletedAgent_apply sized before.bounded
          rw [within] at result
          rw [verdict] at refuses
          exact verdict_ends observed (fun _ => ⟨other, .counted selected counted result⟩) refuses
        · intro exceeds
          have verdict : countedVerdict before.bounded size =
              .discrepancy "bounded completed agent output exceeds decoded byte bound" := if_neg (by simpa using exceeds)
          rw [verdict] at refuses
          exact verdict_ends observed (by simp) refuses
      · intro failure impossible
        cases impossible
  · intro uncounted
    apply Effect.Meets.bind
    apply Effect.Meets.pure
    apply Ends.harmless
    · apply assigns_ends
      · apply observed.received (.watermark observed other (.untouched selected uncounted))
        exact .inr ⟨method, .watermark, observed.named, .inl rfl, .untouched selected uncounted⟩
      · rfl
      · rfl
    · intro leaks
      cases leaks with
      | selected found => cases custody.symm.trans found
      | counted _ found counts =>
        cases observed.named.symm.trans found
        exact uncounted counts

/-! The dispatch on the method of a provider message. -/

theorem notification_ends {selected : Bool} (observed : Observed settings before message method false raw)
    (custody : providerCustody settings before message = .ok (selected, raw)) :
    EndsSome settings before (Received settings before message) (LeaksMessage settings before message)
      (notification settings method message raw selected) before := by
  obtain ⟨selection, _⟩ := providerCustody_ok custody
  have intact (other : ¬ (method = text "item/started" ∨ method = text "item/completed")) : ¬ LeaksMessage settings before message :=
    fun leaks => other (leaks.item observed.named)
  unfold notification
  apply Effect.Meets.ite
  · rintro rfl
    exact (Ends.harmless (providerRequest_ends observed) (intact (by decide))).some
  intro _
  apply Effect.Meets.ite
  · rintro rfl
    exact (Ends.harmless (responseStarted_ends observed) (intact (by decide))).some
  intro _
  apply Effect.Meets.ite
  · rintro rfl
    exact (Ends.harmless (providerRefused_ends observed) (intact (by decide))).some
  intro _
  apply Effect.Meets.ite
  · rintro rfl
    exact (Ends.harmless (responseCompleted_ends observed) (intact (by decide))).some
  intro _
  apply Effect.Meets.ite
  · rintro rfl
    exact (Ends.harmless (observed.marks _) (intact (by decide))).some
  intro _
  apply Effect.Meets.ite
  · intro fact
    have noItem : ¬ (method = text "item/started" ∨ method = text "item/completed") := by
      rintro (rfl | rfl)
      · exact absurd fact (by decide)
      · exact absurd fact (by decide)
    apply Effect.Meets.ite
    · rintro ⟨_, _, rfl⟩
      apply Effect.Meets.bind
      apply Effect.Meets.weaken (boundedTurnAgentOutput_ends observed custody)
      · intro found after kept
        cases found with
        | some stored => exact ⟨stored, rfl, kept⟩
        | none =>
          obtain ⟨rfl, tracked, _⟩ := kept
          exact (Ends.harmless (localFact_ends observed fact tracked) (intact noItem)).some
      · intro failure after fails
        exact fails
    · intro unselected
      apply Effect.Meets.bind
      apply Effect.Meets.pure
      have outside : selected = false := by
        cases selected with
        | false => rfl
        | true =>
          obtain ⟨contract, _⟩ := selectedEcho_true selection
          rcases selected_methods selection observed.named with rfl | rfl | rfl | rfl
          · exact absurd (.inl rfl) noItem
          · exact absurd (.inr rfl) noItem
          · exact absurd fact (by decide)
          · exact absurd ⟨rfl, contract, rfl⟩ unselected
      subst outside
      have tracked : Tracked settings before message method .proceed before.bounded :=
        .untouched selection fun counted => noItem (.inr counted.1)
      exact (Ends.harmless (localFact_ends observed fact tracked) (intact noItem)).some
  intro noFact
  have other : among ["thread/started", "turn/started", "turn/completed"] method = false := by simpa using noFact
  apply Effect.Meets.ite
  · rintro ⟨item, _, rfl⟩
    apply Effect.Meets.weaken (boundedTurnAgentOutput_ends observed custody)
    · intro found after kept
      cases found with
      | some stored => exact ⟨stored, rfl, kept⟩
      | none =>
        rw [item] at kept
        cases kept.2.2
    · intro failure after fails
      exact fails
  intro unselected
  have outside : selected = false := by
    cases selected with
    | false => rfl
    | true =>
      obtain ⟨contract, _⟩ := selectedEcho_true selection
      rcases selected_methods selection observed.named with rfl | rfl | rfl | rfl
      · exact absurd ⟨by decide, contract, rfl⟩ unselected
      · exact absurd ⟨by decide, contract, rfl⟩ unselected
      · exact absurd ⟨by decide, contract, rfl⟩ unselected
      · exact absurd other (by decide)
  subst outside
  apply Effect.Meets.ite
  · intro boundary
    apply Ends.some
    apply Ends.harmless (observed.marks _)
    apply intact
    rintro (rfl | rfl)
    · exact absurd boundary (by decide)
    · exact absurd boundary (by decide)
  intro _
  exact (watermark_ends observed custody other).some

/-- Every provider message is recorded as it was received, or leaves the log as it was. -/
theorem consumeImpl_ends {serverRequest : Bool}
    (kind : ∀ kind, before.currentAcquisitionKind = some kind → kind = if serverRequest then .serverRequest else .notification) :
    EndsSome settings before (Received settings before message) (serverRequest = false ∧ LeaksMessage settings before message)
      (consumeImpl settings message serverRequest) before := by
  have unnamed {label : Json} (detail : Text) (labelled : label = literal "unknown" ∨ ∃ method, message.method = some method ∧ label = .str method) :
      Ends settings before (Received settings before message) False
        (markDiscrepancy settings (.str detail) label (keptCustody settings before message)) before := by
    apply marks_ends
    exact ⟨.discrepancy before.bounded, rfl, labelled, fun _ => ⟨_, _, rfl⟩, .inl ⟨_, _, rfl⟩⟩
  unfold consumeImpl
  apply Effect.Meets.bind
  apply Effect.Meets.read
  cases custody : providerCustody settings before message with
  | error failure =>
    have intact : ¬ (serverRequest = false ∧ LeaksMessage settings before message) := by
      rintro ⟨_, leaks⟩
      obtain ⟨selected, raw, found⟩ := leaks.custody
      cases custody.symm.trans found
    have nothing : keptCustody settings before message = none := by rw [keptCustody, custody]
    rw [nothing] at unnamed
    cases failure with
    | admission reason =>
      apply Ends.some
      apply Ends.harmless _ intact
      apply unnamed
      cases named : message.method with
      | none => exact .inl rfl
      | some method =>
        cases method with
        | nil => exact .inl rfl
        | cons point rest => exact .inr ⟨_, rfl, rfl⟩
    | other className => exact (Fails.kept before).harmless intact
  | ok found =>
    obtain ⟨selected, raw⟩ := found
    have kept : keptCustody settings before message = some raw := by rw [keptCustody, custody]
    rw [kept] at unnamed
    cases named : message.method with
    | none =>
      apply Ends.some
      apply Ends.harmless (unnamed _ (.inl rfl))
      rintro ⟨_, leaks⟩
      cases leaks with
      | selected _ found => cases named.symm.trans found
      | counted _ found => cases named.symm.trans found
    | some method =>
      apply Effect.Meets.ite
      · intro within
        cases opened : gate before method serverRequest with
        | some detail =>
          apply Ends.some
          apply Ends.harmless (unnamed _ (.inr ⟨method, named, rfl⟩))
          rintro ⟨rfl, leaks⟩
          cases opened.symm.trans (leaks.opened named)
        | none =>
          have observed : Observed settings before message method serverRequest raw := ⟨⟨selected, custody⟩, named, opened, kind⟩
          cases serverRequest with
          | true =>
            apply Ends.some
            apply Ends.harmless (approvalOrDiscrepancy_ends observed)
            rintro ⟨impossible, _⟩
            cases impossible
          | false =>
            apply Effect.Meets.weaken (notification_ends observed custody)
            · intro found after stores
              exact stores
            · intro failure after fails
              exact ⟨fails.records, by simpa using fails.bounded⟩
      · intro exceeds
        apply Ends.some
        apply Ends.harmless (unnamed _ (.inl rfl))
        rintro ⟨_, leaks⟩
        apply exceeds
        rcases leaks.item named with rfl | rfl
        · decide
        · decide

end Switchyard.Admission
