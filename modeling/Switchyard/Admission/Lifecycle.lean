import Switchyard.Admission.Consume

/-! The closed item lifecycle of the selected turn: which frames the echo contract
selects, and what a step does to the bounded turn. -/

namespace Switchyard.Admission
open Library Json AppServer

variable {host : Host} {settings : Settings host} {before : Mapper} {message : ServerMessage} {method : Text} {raw : RawCustody}

theorem sized_content {content : Text} {size : Nat} (sized : utf8Length content = .ok size) : size = 0 ↔ content = [] := by
  obtain ⟨encoded, found, rfl⟩ := utf8Length_ok.mp sized
  unfold Text.encode? at found
  split at found
  · cases found
    cases content with
    | nil => simp
    | cons point rest => simp [Text.encodePoint_ne_nil]
  · cases found

theorem inputEcho_method (echo : isInputEcho settings before message = true) (named : message.method = some method) :
    method = text "item/started" ∨ method = text "item/completed" := by
  unfold isInputEcho isBoundedTurnUserInputEcho at echo
  rw [named] at echo
  split at echo
  next found =>
    cases found
    simp only [Bool.and_eq_true, Bool.or_eq_true, beq_iff_eq] at echo
    exact echo.1.1.1.1.2
  next => cases echo

/-- The echo of the turn's input is no agent output. -/
theorem inputEcho_noOutput (echo : isInputEcho settings before message = true) : isAgentOutput settings message = .ok false := by
  unfold isInputEcho isBoundedTurnUserInputEcho at echo
  split at echo
  next expected named found name =>
    simp only [Bool.and_eq_true, Bool.or_eq_true, beq_iff_eq] at echo
    obtain ⟨⟨⟨⟨⟨_, item⟩, _⟩, _⟩, _⟩, shape⟩ := echo
    have foreign : boundedAgentItem (get message.params "item") = .ok false := by
      split at shape
      next members item =>
        simp only [Bool.and_eq_true, is_iff] at shape
        have other : is (get members "type") "agentMessage" = false := by
          rw [shape.1.1.1.2]
          decide
        simp [item, boundedAgentItem, other, pure, Except.pure]
      next => cases shape
    unfold isAgentOutput isBoundedTurnAgentOutput
    simp only [name, if_pos item, foreign]
    grind
  next => cases echo

theorem agentOutput_method (output : isAgentOutput settings message = .ok true) (named : message.method = some method) :
    method = text "item/started" ∨ method = text "item/completed" ∨ method = text "item/agentMessage/delta" ∨
      method = text "turn/completed" := by
  unfold isAgentOutput isBoundedTurnAgentOutput at output
  rw [named] at output
  grind

theorem boundedAgentItem_sized {item : Json} (bounded : boundedAgentItem item = .ok true) :
    ∃ members content size, item = .obj members ∧ get members "text" = .str content ∧ utf8Length content = .ok size := by
  unfold boundedAgentItem at bounded
  split at bounded
  next members =>
    split at bounded
    · split at bounded
      next content found =>
        cases sized : utf8Length content with
        | error className =>
          rw [sized] at bounded
          cases bounded
        | ok size => exact ⟨members, content, size, rfl, found, sized⟩
      next => cases bounded
    · cases bounded
  next => cases bounded

theorem agentOutput_sized (output : isAgentOutput settings message = .ok true) (named : message.method = some method)
    (item : method = text "item/started" ∨ method = text "item/completed") :
    ∃ size, utf8Length (textOf (inner message.params "item" "text")) = .ok size := by
  have bounded : boundedAgentItem (get message.params "item") = .ok true := by
    unfold isAgentOutput isBoundedTurnAgentOutput at output
    simp only [named, if_pos item] at output
    grind
  obtain ⟨members, content, size, found, content_found, sized⟩ := boundedAgentItem_sized bounded
  refine ⟨size, ?_⟩
  simp only [inner, found, Json.members?, Option.getD_some, content_found, textOf, Json.text?, sized]

/-- A frame was selected by the echo contract, as input or as output but not both. -/
theorem selectedEcho_true (selected : selectedEcho settings before message = .ok true) :
    settings.captureContract = .boundedTurnEcho ∧
      isAgentOutput settings message = .ok (!isInputEcho settings before message) := by
  unfold selectedEcho at selected
  split at selected
  next contract =>
    split at selected
    next echo => exact ⟨contract, by rw [inputEcho_noOutput echo, echo]; rfl⟩
    next other => exact ⟨contract, by simpa [other] using selected⟩
  next => cases selected

theorem providerCustody_ok {selected : Bool} (custody : providerCustody settings before message = .ok (selected, raw)) :
    selectedEcho settings before message = .ok selected ∧
      rawCustody host message (if selected then MAXIMUM_USER_INPUT_ECHO_BYTES else MAXIMUM_RAW_EVIDENCE_BYTES) = .ok raw := by
  unfold providerCustody at custody
  cases found : selectedEcho settings before message with
  | error failure =>
    rw [found] at custody
    cases custody
  | ok value =>
    rw [found] at custody
    cases kept : rawCustody host message (if value then MAXIMUM_USER_INPUT_ECHO_BYTES else MAXIMUM_RAW_EVIDENCE_BYTES) with
    | error failure => simp [bind, Except.bind, kept] at custody
    | ok value => simp [bind, Except.bind, kept, pure, Except.pure] at custody; grind

theorem selected_methods (selected : selectedEcho settings before message = .ok true) (named : message.method = some method) :
    method = text "item/started" ∨ method = text "item/completed" ∨ method = text "item/agentMessage/delta" ∨
      method = text "turn/completed" := by
  have output := (selectedEcho_true selected).2
  cases echo : isInputEcho settings before message with
  | true =>
    rcases inputEcho_method echo named with item | item
    · exact .inl item
    · exact .inr (.inl item)
  | false =>
    rw [echo] at output
    exact agentOutput_method output named

theorem countBoundedCompletedAgent_apply {content : Text} {size : Nat} (sized : utf8Length content = .ok size)
    (bounded : BoundedTurn) : countBoundedCompletedAgent content bounded =
      (.ok (decide (bounded.completedAgentBytes + size ≤ MAXIMUM_BOUNDED_AGENT_OUTPUT_BYTES)),
        { bounded with completedAgentBytes := bounded.completedAgentBytes + size }) := by
  unfold countBoundedCompletedAgent
  rw [sized]
  rfl

theorem inputLifecycle_apply (method itemId : Text) (bounded : BoundedTurn) : inputLifecycle method itemId bounded =
    if method = text "item/started" then
      if bounded.inputItemId.isSome then (.ok (.discrepancy "duplicate bounded user input start"), bounded)
      else if method ∈ bounded.inputMethods then
        (.ok (.discrepancy "duplicate bounded user input lifecycle event"), { bounded with inputItemId := some itemId })
      else (.ok .watermark, { bounded with inputItemId := some itemId, inputMethods := bounded.inputMethods.insert method })
    else if bounded.inputItemId ≠ some itemId ∨ text "item/started" ∉ bounded.inputMethods then
      (.ok (.discrepancy "bounded user input completion lacks exact start"), bounded)
    else if method ∈ bounded.inputMethods then
      (.ok (.discrepancy "duplicate bounded user input lifecycle event"), bounded)
    else (.ok .watermark, { bounded with inputMethods := bounded.inputMethods.insert method }) := by
  unfold inputLifecycle
  by_cases started : method = text "item/started"
  · cases taken : bounded.inputItemId with
    | some other => simp [started, taken, Effect.bind_apply]
    | none =>
      by_cases seen : text "item/started" ∈ bounded.inputMethods
      · simp [started, taken, seen, Effect.bind_apply]
      · simp [started, taken, seen, Effect.bind_apply]
  · by_cases lacks : bounded.inputItemId ≠ some itemId ∨ text "item/started" ∉ bounded.inputMethods
    · simp [started, lacks, Effect.bind_apply]
    · by_cases seen : method ∈ bounded.inputMethods
      · simp [started, lacks, seen, Effect.bind_apply]
      · simp [started, lacks, seen, Effect.bind_apply]

theorem agentLifecycle_apply {method itemId content : Text} {size : Nat} (sized : utf8Length content = .ok size)
    (bounded : BoundedTurn) : agentLifecycle method itemId content bounded =
    if method = text "item/started" then
      if bounded.agentItemId.isSome ∨ itemId ∈ bounded.completedAgentIds then
        (.ok (.discrepancy "duplicate bounded agent output start"), bounded)
      else (.ok .watermark, { bounded with agentItemId := some itemId, agentText := some content })
    else if bounded.agentItemId ≠ some itemId ∨ itemId ∈ bounded.completedAgentIds then
      (.ok (.discrepancy "bounded agent output completion lacks exact start"), bounded)
    else if bounded.completedAgentBytes + size ≤ MAXIMUM_BOUNDED_AGENT_OUTPUT_BYTES then
      (.ok .watermark, { bounded with
        completedAgentBytes := bounded.completedAgentBytes + size
        completedAgentIds := bounded.completedAgentIds.insert itemId
        lastCompletedAgent := some (itemId, content)
        agentItemId := none
        agentText := none })
    else (.ok (.discrepancy "bounded completed agent output exceeds decoded byte bound"),
      { bounded with agentText := some content, completedAgentBytes := bounded.completedAgentBytes + size }) := by
  unfold agentLifecycle countBoundedCompletedAgent
  rw [sized]
  by_cases started : method = text "item/started"
  · by_cases open_ : bounded.agentItemId.isSome ∨ itemId ∈ bounded.completedAgentIds
    · simp [started, open_, Effect.bind_apply]
    · simp [started, open_, Effect.bind_apply]
  · by_cases lacks : bounded.agentItemId ≠ some itemId ∨ itemId ∈ bounded.completedAgentIds
    · simp [started, lacks, Effect.bind_apply]
    · by_cases fits : bounded.completedAgentBytes + size ≤ MAXIMUM_BOUNDED_AGENT_OUTPUT_BYTES
      · simp [started, lacks, fits, Effect.bind_apply]
      · simp [started, lacks, fits, Effect.bind_apply]

/-- The frame assigns one of the bounded-turn fields. -/
def Moves (bounded : BoundedTurn) (method itemId content : Text) (isInput : Bool) : Prop :=
  if isInput then
    if method = text "item/started" then bounded.inputItemId = none
    else bounded.inputItemId = some itemId ∧ text "item/started" ∈ bounded.inputMethods ∧ method ∉ bounded.inputMethods
  else if method = text "item/started" then bounded.agentItemId = none ∧ itemId ∉ bounded.completedAgentIds
  else method = text "item/completed" ∧ bounded.agentItemId = some itemId ∧ itemId ∉ bounded.completedAgentIds ∧
    (bounded.agentText ≠ some content ∨ content ≠ [] ∨ bounded.completedAgentBytes ≤ MAXIMUM_BOUNDED_AGENT_OUTPUT_BYTES)

theorem inputLifecycle_moves {bounded : BoundedTurn} {itemId : Text} (content : Text)
    (item : method = text "item/started" ∨ method = text "item/completed") :
    ∃ verdict after, inputLifecycle method itemId bounded = (.ok verdict, after) ∧
      (after = bounded ↔ ¬ Moves bounded method itemId content true) := by
  rw [inputLifecycle_apply]
  unfold Moves
  rcases item with rfl | rfl
  · cases taken : bounded.inputItemId with
    | some other => simp
    | none =>
      have moved (methods : List Text) : { bounded with inputItemId := some itemId, inputMethods := methods } ≠ bounded := by
        intro same
        simpa [taken] using congrArg BoundedTurn.inputItemId same
      by_cases seen : text "item/started" ∈ bounded.inputMethods
      · simp [seen, moved]
      · simp [seen, moved]
  · have other : text "item/completed" ≠ text "item/started" := by decide
    by_cases lacks : bounded.inputItemId ≠ some itemId ∨ text "item/started" ∉ bounded.inputMethods
    · rw [if_neg other, if_pos lacks, if_pos rfl, if_neg other]
      exact ⟨_, _, rfl, by simp; grind⟩
    · by_cases seen : text "item/completed" ∈ bounded.inputMethods
      · rw [if_neg other, if_neg lacks, if_pos seen, if_pos rfl, if_neg other]
        exact ⟨_, _, rfl, by simp [seen]⟩
      · rw [if_neg other, if_neg lacks, if_neg seen, if_pos rfl, if_neg other]
        refine ⟨_, _, rfl, ?_⟩
        have moved : { bounded with inputMethods := bounded.inputMethods.insert (text "item/completed") } ≠ bounded := by
          intro same
          have longer := congrArg (fun turn : BoundedTurn => turn.inputMethods.length) same
          simp [List.insert_of_not_mem seen] at longer
        simp only [moved, false_iff, not_not]
        grind

theorem agentLifecycle_moves {bounded : BoundedTurn} {itemId content : Text} {size : Nat} (sized : utf8Length content = .ok size)
    (item : method = text "item/started" ∨ method = text "item/completed") :
    ∃ verdict after, agentLifecycle method itemId content bounded = (.ok verdict, after) ∧
      (after = bounded ↔ ¬ Moves bounded method itemId content false) := by
  rw [agentLifecycle_apply sized]
  unfold Moves
  have other : text "item/completed" ≠ text "item/started" := by decide
  rcases item with rfl | rfl
  · by_cases taken : bounded.agentItemId.isSome ∨ itemId ∈ bounded.completedAgentIds
    · rw [if_pos rfl, if_pos taken]
      exact ⟨_, _, rfl, by cases open_ : bounded.agentItemId <;> simp_all⟩
    · rw [if_pos rfl, if_neg taken]
      refine ⟨_, _, rfl, ?_⟩
      have closed : bounded.agentItemId = none ∧ itemId ∉ bounded.completedAgentIds := by simpa using taken
      have moved : { bounded with agentItemId := some itemId, agentText := some content } ≠ bounded := by
        intro same
        have open_ := congrArg BoundedTurn.agentItemId same
        simp [closed.1] at open_
      simp [moved, closed]
  · by_cases lacks : bounded.agentItemId ≠ some itemId ∨ itemId ∈ bounded.completedAgentIds
    · rw [if_neg other, if_pos lacks]
      refine ⟨_, _, rfl, ?_⟩
      grind
    · have matched : bounded.agentItemId = some itemId ∧ itemId ∉ bounded.completedAgentIds := by simpa using lacks
      have empty := sized_content sized
      by_cases fits : bounded.completedAgentBytes + size ≤ MAXIMUM_BOUNDED_AGENT_OUTPUT_BYTES
      · rw [if_neg other, if_neg lacks, if_pos fits]
        refine ⟨_, _, rfl, ?_⟩
        have within : bounded.completedAgentBytes ≤ MAXIMUM_BOUNDED_AGENT_OUTPUT_BYTES := by omega
        simp only [matched, within, not_false_eq_true, or_true, and_true, not_true_eq_false, iff_false,
          Bool.false_eq_true, if_false, if_neg other]
        intro same
        have closed := congrArg BoundedTurn.agentItemId same
        simp [matched.1] at closed
      · rw [if_neg other, if_neg lacks, if_neg fits]
        refine ⟨_, _, rfl, ?_⟩
        have same : { bounded with agentText := some content, completedAgentBytes := bounded.completedAgentBytes + size } = bounded ↔
            bounded.agentText = some content ∧ size = 0 := by
          cases bounded
          simp [eq_comm]
        rw [same]
        simp only [matched, not_false_eq_true, true_and, Bool.false_eq_true, if_false, if_neg other]
        constructor
        · rintro ⟨unchanged, none⟩
          simp [unchanged, empty.mp none]
          omega
        · intro still
          have unchanged : bounded.agentText = some content := by
            by_contra differs
            exact still (.inl differs)
          have nothing : content = [] := by
            by_contra something
            exact still (.inr (.inl something))
          exact ⟨unchanged, empty.mpr nothing⟩

/-- A step of the lifecycle on a closed shape returns, and moves the bounded turn as its conditions say. -/
theorem lifecycle_moves {bounded : BoundedTurn} {params : Members} {isInput : Bool}
    (input : isInput = true → method = text "item/started" ∨ method = text "item/completed")
    (sized : isInput = false → method = text "item/started" ∨ method = text "item/completed" →
      ∃ size, utf8Length (textOf (inner params "item" "text")) = .ok size) :
    ∃ verdict after, lifecycle method params isInput bounded = (.ok verdict, after) ∧
      (after = bounded ↔ ¬ Moves bounded method (textOf (inner params "item" "id")) (textOf (inner params "item" "text")) isInput) := by
  unfold lifecycle
  cases isInput with
  | true => exact inputLifecycle_moves _ (input rfl)
  | false =>
    by_cases item : method = text "item/started" ∨ method = text "item/completed"
    · obtain ⟨size, sized⟩ := sized rfl item
      have selected : among ["item/started", "item/completed"] method = true := by simpa [among] using item
      simp only [selected, Bool.false_eq_true, if_false, if_true]
      exact agentLifecycle_moves sized item
    · have selected : among ["item/started", "item/completed"] method = false := by simpa [among] using item
      have still : ¬ Moves bounded method (textOf (inner params "item" "id")) (textOf (inner params "item" "text")) false := by
        unfold Moves
        grind
      simp only [selected, Bool.false_eq_true, if_false, still, not_false_eq_true, iff_true, Effect.bind_apply, Effect.read_apply]
      split
      · split
        · exact ⟨_, _, rfl, rfl⟩
        · exact ⟨_, _, rfl, rfl⟩
      · split
        · exact ⟨_, _, rfl, rfl⟩
        · exact ⟨_, _, rfl, rfl⟩

/-- Only a turn summary proceeds to the local fact; only item frames are watermarks of the lifecycle. -/
theorem lifecycle_verdict {bounded after : BoundedTurn} {params : Members} {isInput : Bool} {verdict : Verdict}
    (result : lifecycle method params isInput bounded = (.ok verdict, after))
    (input : isInput = true → method = text "item/started" ∨ method = text "item/completed")
    (sized : isInput = false → method = text "item/started" ∨ method = text "item/completed" →
      ∃ size, utf8Length (textOf (inner params "item" "text")) = .ok size) :
    (verdict = .proceed → after = bounded ∧ among ["item/started", "item/completed", "item/agentMessage/delta"] method = false) ∧
      (verdict = .watermark → method ≠ text "turn/completed") := by
  unfold lifecycle at result
  cases isInput with
  | true =>
    simp only [if_true, inputLifecycle_apply] at result
    have other : method ≠ text "turn/completed" := by
      rcases input rfl with rfl | rfl <;> decide
    refine ⟨?_, fun _ => other⟩
    rintro rfl
    grind
  | false =>
    by_cases item : method = text "item/started" ∨ method = text "item/completed"
    · obtain ⟨size, sized⟩ := sized rfl item
      have selected : among ["item/started", "item/completed"] method = true := by simpa [among] using item
      simp only [selected, Bool.false_eq_true, if_false, if_true, agentLifecycle_apply sized] at result
      have other : method ≠ text "turn/completed" := by
        rcases item with rfl | rfl <;> decide
      refine ⟨?_, fun _ => other⟩
      rintro rfl
      grind
    · have selected : among ["item/started", "item/completed"] method = false := by simpa [among] using item
      simp only [selected, Bool.false_eq_true, if_false, Effect.bind_apply, Effect.read_apply] at result
      split at result
      next delta =>
        have other : method ≠ text "turn/completed" := by
          rw [delta]
          decide
        refine ⟨?_, fun _ => other⟩
        rintro rfl
        split at result <;> cases result
      next other =>
        split at result
        · cases result
          simp
        · cases result
          simp [among, other, not_or.mp item]

end Switchyard.Admission
