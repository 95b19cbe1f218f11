import Switchyard.Admission.Clean

/-! The closed forms of the bounded echo contract, the order in which they may
follow, and how the lifecycle fields of a mapper track them. -/

namespace Switchyard.Admission
open Library Json AppServer

variable {host : Host} {settings : Settings host}

inductive Form
  | inputStarted (itemId : Text)
  | inputCompleted (itemId : Text)
  | itemStarted (itemId : Text)
  | itemCompleted (itemId content : Text)
  | delta (itemId : Text)
  | summary (itemId content : Text)
deriving DecidableEq

/-- The agent item that is open after these forms. -/
def openItem (word : List Form) : Option Text :=
  word.foldl (fun open_ form => match form with
    | .itemStarted itemId => some itemId
    | .itemCompleted _ _ => none
    | _ => open_) none

def lastCompleted (word : List Form) : Option (Text × Text) :=
  word.foldl (fun last form => match form with
    | .itemCompleted itemId content => some (itemId, content)
    | _ => last) none

/-- The form may follow the earlier ones. -/
def Form.Follows (earlier : List Form) : Form → Prop
  | .inputStarted _ => ∀ itemId, .inputStarted itemId ∉ earlier
  | .inputCompleted itemId => .inputStarted itemId ∈ earlier ∧ ∀ other, .inputCompleted other ∉ earlier
  | .itemStarted itemId => openItem earlier = none ∧ ∀ content, .itemCompleted itemId content ∉ earlier
  | .itemCompleted itemId _ | .delta itemId => openItem earlier = some itemId
  | .summary itemId content => openItem earlier = none ∧ lastCompleted earlier = some (itemId, content)

theorem openItem_append (word : List Form) (form : Form) : openItem (word ++ [form]) =
    match form with
    | .itemStarted itemId => some itemId
    | .itemCompleted _ _ => none
    | _ => openItem word := by
  unfold openItem
  rw [List.foldl_append]
  rfl

theorem lastCompleted_append (word : List Form) (form : Form) : lastCompleted (word ++ [form]) =
    match form with
    | .itemCompleted itemId content => some (itemId, content)
    | _ => lastCompleted word := by
  unfold lastCompleted
  rw [List.foldl_append]
  rfl

def inputForm (method : Text) (params : Members) : Form :=
  let itemId := textOf (inner params "item" "id")
  if method = text "item/started" then .inputStarted itemId else .inputCompleted itemId

def outputForm (method : Text) (params : Members) : Form :=
  let itemId := textOf (inner params "item" "id")
  if method = text "item/started" then .itemStarted itemId
  else if method = text "item/completed" then .itemCompleted itemId (textOf (inner params "item" "text"))
  else if method = text "item/agentMessage/delta" then .delta (textOf (get params "itemId"))
  else .summary (textOf (get (summaryItem params) "id")) (textOf (get (summaryItem params) "text"))

/-- The closed form of a message for the bound thread and turn, given the input that was selected before it. -/
def closedForm (settings : Settings host) (input : Option Json) (message : ServerMessage) : Option Form :=
  message.method.bind fun method =>
    if isBoundedTurnUserInputEcho message input (settings.binding.text "thread_id") (some (settings.binding.text "turn_id")) then
      some (inputForm method message.params)
    else if isAgentOutput settings message matches .ok true then some (outputForm method message.params)
    else none

/-- The lifecycle fields say where the word has come to. -/
structure Tracks (bounded : BoundedTurn) (word : List Form) : Prop where
  inputItem : ∀ itemId, bounded.inputItemId = some itemId ↔ .inputStarted itemId ∈ word
  started : text "item/started" ∈ bounded.inputMethods ↔ ∃ itemId, .inputStarted itemId ∈ word
  completed : text "item/completed" ∈ bounded.inputMethods ↔ ∃ itemId, .inputCompleted itemId ∈ word
  agent : bounded.agentItemId = openItem word
  closed : ∀ itemId, itemId ∈ bounded.completedAgentIds ↔ ∃ content, .itemCompleted itemId content ∈ word
  last : bounded.lastCompletedAgent = lastCompleted word

section
variable {bounded after : BoundedTurn} {word : List Form} {method : Text} {verdict : Verdict}

theorem inputLifecycle_tracks {itemId : Text} (tracks : Tracks bounded word)
    (item : method = text "item/started" ∨ method = text "item/completed")
    (result : inputLifecycle method itemId bounded = (.ok .watermark, after)) :
    let form : Form := if method = text "item/started" then .inputStarted itemId else .inputCompleted itemId
    form.Follows word ∧ Tracks after (word ++ [form]) ∧ after.turnInput = bounded.turnInput ∧
      after.completedAgentBytes = bounded.completedAgentBytes := by
  have other : text "item/completed" ≠ text "item/started" := by decide
  rw [inputLifecycle_apply] at result
  rcases item with rfl | rfl
  · rw [if_pos rfl] at result
    rw [if_pos rfl]
    split at result
    · cases result
    next free =>
      have fresh : bounded.inputItemId = none := by simpa using free
      have absent (other : Text) : .inputStarted other ∉ word := by
        rw [← tracks.inputItem, fresh]
        simp
      split at result
      · cases result
      next =>
        cases result
        refine ⟨absent, ?_, rfl, rfl⟩
        constructor
        · intro other
          simp [absent]
          exact eq_comm
        · simp
        · simp only [List.mem_insert_iff, other, false_or, List.mem_append, List.mem_singleton, reduceCtorEq, or_false]
          exact tracks.completed
        · rw [openItem_append]
          exact tracks.agent
        · simpa using tracks.closed
        · rw [lastCompleted_append]
          exact tracks.last
  · rw [if_neg other] at result
    rw [if_neg other]
    split at result
    · cases result
    next matched =>
      obtain ⟨named, _⟩ : bounded.inputItemId = some itemId ∧ text "item/started" ∈ bounded.inputMethods := by
        simpa [not_or] using matched
      split at result
      · cases result
      next unseen =>
        cases result
        refine ⟨⟨(tracks.inputItem itemId).mp named, ?_⟩, ?_, rfl, rfl⟩
        · intro other present
          exact unseen (tracks.completed.mpr ⟨other, present⟩)
        · constructor
          · simpa using tracks.inputItem
          · simp only [List.mem_insert_iff, other.symm, false_or, List.mem_append, List.mem_singleton, reduceCtorEq, or_false]
            exact tracks.started
          · simp
          · rw [openItem_append]
            exact tracks.agent
          · simpa using tracks.closed
          · rw [lastCompleted_append]
            exact tracks.last

theorem agentLifecycle_tracks {itemId content : Text} {size : Nat} (tracks : Tracks bounded word)
    (item : method = text "item/started" ∨ method = text "item/completed") (sized : utf8Length content = .ok size)
    (result : agentLifecycle method itemId content bounded = (.ok .watermark, after)) :
    let form : Form := if method = text "item/started" then .itemStarted itemId else .itemCompleted itemId content
    form.Follows word ∧ Tracks after (word ++ [form]) ∧ after.turnInput = bounded.turnInput ∧
      after.completedAgentBytes = bounded.completedAgentBytes + (if method = text "item/completed" then size else 0) ∧
      (method = text "item/completed" → after.completedAgentBytes ≤ MAXIMUM_BOUNDED_AGENT_OUTPUT_BYTES) := by
  have other : text "item/completed" ≠ text "item/started" := by decide
  rw [agentLifecycle_apply sized] at result
  rcases item with rfl | rfl
  · rw [if_pos rfl] at result
    rw [if_pos rfl, if_neg other.symm]
    split at result
    · cases result
    next free =>
      obtain ⟨idle, fresh⟩ : bounded.agentItemId = none ∧ itemId ∉ bounded.completedAgentIds := by simpa using free
      cases result
      refine ⟨⟨tracks.agent.symm.trans idle, ?_⟩, ?_, rfl, rfl, fun same => absurd same.symm other⟩
      · intro content present
        exact fresh ((tracks.closed itemId).mpr ⟨content, present⟩)
      · constructor
        · simpa using tracks.inputItem
        · simpa using tracks.started
        · simpa using tracks.completed
        · rw [openItem_append]
        · simpa using tracks.closed
        · rw [lastCompleted_append]
          exact tracks.last
  · rw [if_neg other] at result
    rw [if_neg other, if_pos rfl]
    split at result
    · cases result
    next matched =>
      obtain ⟨named, _⟩ : bounded.agentItemId = some itemId ∧ itemId ∉ bounded.completedAgentIds := by simpa using matched
      split at result
      next fits =>
        cases result
        refine ⟨tracks.agent.symm.trans named, ?_, rfl, rfl, fun _ => fits⟩
        constructor
        · simpa using tracks.inputItem
        · simpa using tracks.started
        · simpa using tracks.completed
        · rw [openItem_append]
        · intro other
          simp only [List.mem_insert_iff, tracks.closed other, List.mem_append, List.mem_singleton, Form.itemCompleted.injEq]
          constructor
          · rintro (rfl | ⟨found, present⟩)
            · exact ⟨content, .inr ⟨rfl, rfl⟩⟩
            · exact ⟨found, .inl present⟩
          · rintro ⟨found, present | ⟨rfl, _⟩⟩
            · exact .inr ⟨found, present⟩
            · exact .inl rfl
        · rw [lastCompleted_append]
      next => cases result

end

/-! What the mapper asks of one frame, in the words of the closed forms. -/

section
variable {before : Mapper} {message : ServerMessage} {method : Text} {word : List Form} {verdict : Verdict} {after : BoundedTurn}

theorem closedForm_selected (selected : selectedEcho settings before message = .ok true) (named : message.method = some method) :
    closedForm settings before.bounded.turnInput message = some (if isInputEcho settings before message then
      inputForm method message.params else outputForm method message.params) := by
  have output := (selectedEcho_true selected).2
  have echo : isBoundedTurnUserInputEcho message before.bounded.turnInput (settings.binding.text "thread_id")
      (some (settings.binding.text "turn_id")) = isInputEcho settings before message := rfl
  unfold closedForm
  rw [named, Option.bind_some, echo]
  cases input : isInputEcho settings before message with
  | true => rfl
  | false =>
    rw [input] at output
    rw [output]
    rfl

theorem closedForm_unselected (contract : settings.captureContract = .boundedTurnEcho)
    (unselected : selectedEcho settings before message = .ok false) : closedForm settings before.bounded.turnInput message = none := by
  have echo : isBoundedTurnUserInputEcho message before.bounded.turnInput (settings.binding.text "thread_id")
      (some (settings.binding.text "turn_id")) = isInputEcho settings before message := rfl
  unfold selectedEcho at unselected
  rw [if_pos contract] at unselected
  cases named : message.method with
  | none => simp [closedForm, named]
  | some method =>
    unfold closedForm
    rw [named, Option.bind_some, echo]
    cases input : isInputEcho settings before message with
    | true =>
      rw [input] at unselected
      cases unselected
    | false =>
      rw [input] at unselected
      simp only [Bool.false_eq_true, if_false] at unselected
      rw [unselected]
      rfl

/-- The text of a completed agent message of the bound thread and turn, whatever its shape. -/
def completedText (settings : Settings host) (message : ServerMessage) : Option Text :=
  if message.method = some (text "item/completed") ∧ countsUnselected settings message.params then
    some (textOf (inner message.params "item" "text"))
  else none

theorem inputEcho_uncounted (echo : isInputEcho settings before message = true) : completedText settings message = none := by
  unfold isInputEcho isBoundedTurnUserInputEcho at echo
  split at echo
  next expected named found name =>
    simp only [Bool.and_eq_true] at echo
    have shape := echo.2
    split at shape
    next members item =>
      simp only [Bool.and_eq_true, is_iff] at shape
      have other : is (inner message.params "item" "type") "agentMessage" = false := by
        rw [inner, item, Json.members?, Option.getD_some, shape.1.1.1.2]
        decide
      unfold completedText countsUnselected
      simp [other]
    next => cases shape
  next => cases echo

theorem agentOutput_counted (output : isAgentOutput settings message = .ok true) (named : message.method = some method)
    (item : method = text "item/started" ∨ method = text "item/completed") : countsUnselected settings message.params = true := by
  unfold isAgentOutput isBoundedTurnAgentOutput at output
  simp only [named, if_pos item] at output
  have parts : addressed message.params (settings.binding.text "thread_id") (some (settings.binding.text "turn_id")) = true ∧
      boundedAgentItem (get message.params "item") = .ok true := by grind
  obtain ⟨addressed_, bounded⟩ := parts
  simp only [addressed, Bool.and_eq_true, Option.all_some] at addressed_
  obtain ⟨members, content, size, found, content_found, sized⟩ := boundedAgentItem_sized bounded
  have agent : is (get members "type") "agentMessage" = true := by
    rw [found] at bounded
    cases agent : is (get members "type") "agentMessage" with
    | true => rfl
    | false =>
      simp only [boundedAgentItem, agent, Bool.and_false, Bool.false_and, Bool.false_eq_true, if_false] at bounded
      cases bounded
  unfold countsUnselected inner
  simp [addressed_, found, Json.members?, agent, content_found, Json.text?]

theorem completedText_other (named : message.method = some method) (other : method ≠ text "item/completed") :
    completedText settings message = none := by
  unfold completedText
  rw [named, if_neg]
  rintro ⟨same, _⟩
  exact other (Option.some.inj same)

/-- What an accepted frame does to a word that the lifecycle fields track. -/
structure Extends (settings : Settings host) (before after : BoundedTurn) (word : List Form) (message : ServerMessage) : Prop where
  follows : ∀ form, closedForm settings before.turnInput message = some form → form.Follows word
  tracks : Tracks after (word ++ (closedForm settings before.turnInput message).toList)
  input : after.turnInput = before.turnInput
  uncounted : completedText settings message = none → after.completedAgentBytes = before.completedAgentBytes
  counted : ∀ content, completedText settings message = some content → ∃ size, utf8Length content = .ok size ∧
    after.completedAgentBytes = before.completedAgentBytes + size ∧ after.completedAgentBytes ≤ MAXIMUM_BOUNDED_AGENT_OUTPUT_BYTES

theorem Extends.formless (tracks : Tracks before.bounded word)
    (formless : closedForm settings before.bounded.turnInput message = none)
    (counts : completedText settings message = none) : Extends settings before.bounded before.bounded word message := by
  constructor
  · intro form found
    cases formless.symm.trans found
  · rw [formless]
    simpa using tracks
  · rfl
  · intro _
    rfl
  · intro content found
    cases counts.symm.trans found

theorem selected_extends (tracks : Tracks before.bounded word) (named : message.method = some method)
    (selected : selectedEcho settings before message = .ok true) (accepted : verdict = .watermark ∨ verdict = .proceed)
    (result : lifecycle method message.params (isInputEcho settings before message) before.bounded = (.ok verdict, after)) :
    Extends settings before.bounded after word message := by
  have form := closedForm_selected selected named
  have output := (selectedEcho_true selected).2
  cases echo : isInputEcho settings before message with
  | true =>
    have item := inputEcho_method echo named
    rw [echo] at form result
    unfold lifecycle at result
    simp only [if_true] at result form
    obtain rfl : verdict = .watermark := by
      rcases accepted with watermark | rfl
      · exact watermark
      · rw [inputLifecycle_apply] at result
        grind
    obtain ⟨follows, tracks, input, bytes⟩ := inputLifecycle_tracks tracks item result
    constructor
    · intro other found
      cases form.symm.trans found
      exact follows
    · rw [form]
      exact tracks
    · exact input
    · intro _
      exact bytes
    · intro content found
      cases (inputEcho_uncounted echo).symm.trans found
  | false =>
    rw [echo] at form result output
    unfold lifecycle at result
    simp only [Bool.false_eq_true, if_false] at result form
    by_cases item : method = text "item/started" ∨ method = text "item/completed"
    · obtain ⟨size, sized⟩ := agentOutput_sized output named item
      have among_item : among ["item/started", "item/completed"] method = true := by simpa [among] using item
      rw [if_pos among_item] at result
      obtain rfl : verdict = .watermark := by
        rcases accepted with watermark | rfl
        · exact watermark
        · rw [agentLifecycle_apply sized] at result
          grind
      obtain ⟨follows, tracks, input, bytes, within⟩ := agentLifecycle_tracks tracks item sized result
      have same : outputForm method message.params = if method = text "item/started" then
          .itemStarted (textOf (inner message.params "item" "id"))
          else .itemCompleted (textOf (inner message.params "item" "id")) (textOf (inner message.params "item" "text")) := by
        unfold outputForm
        rcases item with rfl | rfl
        · rfl
        · rfl
      rw [← same] at follows tracks
      constructor
      · intro other found
        cases form.symm.trans found
        exact follows
      · rw [form]
        exact tracks
      · exact input
      · intro uncounted
        rw [bytes, if_neg, Nat.add_zero]
        rintro rfl
        simp [completedText, named, agentOutput_counted output named item] at uncounted
      · intro content found
        have completes : method = text "item/completed" := by
          by_contra other
          cases (completedText_other named other).symm.trans found
        have same : textOf (inner message.params "item" "text") = content := by
          simpa [completedText, named, completes, agentOutput_counted output named item] using found
        rw [if_pos completes] at bytes
        exact ⟨size, by rw [← same, sized], bytes, within completes⟩
    · have among_item : among ["item/started", "item/completed"] method = false := by simpa [among] using item
      obtain ⟨unstarted, uncompleted⟩ := not_or.mp item
      have uncounted : completedText settings message = none := completedText_other named uncompleted
      simp only [among_item, Bool.false_eq_true, if_false, Effect.bind_apply, Effect.read_apply] at result
      have moves (form : Form) (plain : openItem (word ++ [form]) = openItem word ∧ lastCompleted (word ++ [form]) = lastCompleted word)
          (other : (∀ itemId, form ≠ .inputStarted itemId) ∧ (∀ itemId, form ≠ .inputCompleted itemId) ∧
            ∀ itemId content, form ≠ .itemCompleted itemId content) : Tracks before.bounded (word ++ [form]) := by
        obtain ⟨inputStarted, inputCompleted, itemCompleted⟩ := other
        constructor
        · simpa [fun itemId => (inputStarted itemId).symm] using tracks.inputItem
        · simpa [fun itemId => (inputStarted itemId).symm] using tracks.started
        · simpa [fun itemId => (inputCompleted itemId).symm] using tracks.completed
        · rw [plain.1]
          exact tracks.agent
        · simpa [fun itemId content => (itemCompleted itemId content).symm] using tracks.closed
        · rw [plain.2]
          exact tracks.last
      have still : after = before.bounded ∧ (outputForm method message.params).Follows word ∧
          Tracks before.bounded (word ++ [outputForm method message.params]) := by
        unfold outputForm
        rw [if_neg unstarted, if_neg uncompleted]
        split at result
        next delta =>
          rw [if_pos delta]
          split at result
          next opened =>
            cases result
            cases agent : before.bounded.agentItemId with
            | none => simp [agent] at opened
            | some itemId =>
              have same : get message.params "itemId" = .str itemId := by simpa [agent, names_iff] using opened
              refine ⟨rfl, ?_, moves _ ⟨by rw [openItem_append], by rw [lastCompleted_append]⟩ (by simp)⟩
              rw [same]
              exact tracks.agent.symm.trans agent
          next =>
            cases result
            simp at accepted
        next other =>
          rw [if_neg other]
          split at result
          next =>
            cases result
            simp at accepted
          next repeats =>
            cases result
            simp only [Bool.or_eq_true, not_or, Bool.not_eq_true, Option.isSome_eq_false_iff, Option.isNone_iff_eq_none,
              bne_eq_false_iff_eq] at repeats
            refine ⟨rfl, ⟨tracks.agent.symm.trans repeats.1, tracks.last.symm.trans repeats.2⟩, ?_⟩
            exact moves _ ⟨by rw [openItem_append], by rw [lastCompleted_append]⟩ (by simp)
      obtain ⟨rfl, follows, tracks⟩ := still
      constructor
      · intro other found
        cases form.symm.trans found
        exact follows
      · rw [form]
        exact tracks
      · rfl
      · intro _
        rfl
      · intro content found
        cases uncounted.symm.trans found

theorem tracked_extends (contract : settings.captureContract = .boundedTurnEcho) (tracks : Tracks before.bounded word)
    (named : message.method = some method) (accepted : verdict = .watermark ∨ verdict = .proceed)
    (tracked : Tracked settings before message method verdict after) : Extends settings before.bounded after word message := by
  cases tracked with
  | selected selected result => exact selected_extends tracks named selected accepted result
  | counted unselected counts result =>
    obtain ⟨completes, _, counted⟩ := counts
    have formless := closedForm_unselected contract unselected
    have found : completedText settings message = some (textOf (inner message.params "item" "text")) := by
      simp [completedText, named, completes, counted]
    cases sized : utf8Length (textOf (inner message.params "item" "text")) with
    | error failure =>
      unfold countBoundedCompletedAgent at result
      rw [sized] at result
      cases result
    | ok size =>
      rw [countBoundedCompletedAgent_apply sized] at result
      have within : before.bounded.completedAgentBytes + size ≤ MAXIMUM_BOUNDED_AGENT_OUTPUT_BYTES := by
        simpa using congrArg Prod.fst result
      have moved := congrArg Prod.snd result
      subst moved
      constructor
      · intro form other
        cases formless.symm.trans other
      · rw [formless]
        simp only [Option.toList_none, List.append_nil]
        exact ⟨tracks.inputItem, tracks.started, tracks.completed, tracks.agent, tracks.closed, tracks.last⟩
      · rfl
      · intro uncounted
        cases found.symm.trans uncounted
      · intro content again
        cases found.symm.trans again
        exact ⟨size, sized, rfl, within⟩
  | untouched unselected uncounted =>
    apply Extends.formless tracks (closedForm_unselected contract unselected)
    unfold completedText
    rw [named, if_neg]
    rintro ⟨same, counts⟩
    exact uncounted ⟨Option.some.inj same, contract, counts⟩

end

end Switchyard.Admission
