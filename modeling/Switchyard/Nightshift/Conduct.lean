import Switchyard.Nightshift.Lawful
import Switchyard.Nightshift.Recognition

/-! Every operation of the adapter keeps the rules, from any history on. -/

namespace Switchyard.Nightshift
open Library Json Runner AppServer Program

variable {setting : Setting} {history : History} {binding : Members} {fact : History → Prop} {α : Type}
  {returned : α → History → Prop}

theorem AttemptRow.attempt_ok {host : Host} {row : AttemptRow} {attempt : Attempt}
    (read : row.attempt host binding = .ok attempt) :
    ∃ retained request backend, loads host row.binding = .ok retained ∧ equal retained (.obj binding) = true ∧
      loads host row.request = .ok request ∧ loads host row.backend = .ok backend ∧ ∃ receipt, row.receipt host = .ok receipt ∧
      attempt = ⟨retained.members?.getD [], request, row.briefRaw, backend, row.accountClass, row.providerIdentity,
        row.modelIdentity, row.sessionIdentity, row.threadId, row.turnId, row.queueId, row.clientMessageId, row.status,
        row.startedAt, row.finalMessage, receipt⟩ := by
  unfold AttemptRow.attempt at read
  obtain ⟨retained, first, read⟩ := bind_ok.mp read
  obtain ⟨_, same, read⟩ := bind_ok.mp read
  obtain ⟨receipt, second, read⟩ := bind_ok.mp read
  obtain ⟨request, third, read⟩ := bind_ok.mp read
  obtain ⟨backend, fourth, read⟩ := bind_ok.mp read
  cases read
  exact ⟨retained, request, backend, first, demand_ok.mp same, third, fourth, receipt, second, rfl⟩

private theorem filter_replaced (value : Members) (key : Text) (filled : Json) :
    (value.map fun member => if member.1 == key then (member.1, filled) else member).filter (fun member => member.1 != key) =
      value.filter fun member => member.1 != key := by
  induction value with
  | nil => rfl
  | cons member rest ih =>
    rw [List.map_cons]
    by_cases same : member.1 = key
    · rw [if_pos (by simpa using same), List.filter_cons_of_neg (by simpa using same), List.filter_cons_of_neg (by simpa using same), ih]
    · rw [if_neg (by simpa using same), List.filter_cons_of_pos (by simpa using same), List.filter_cons_of_pos (by simpa using same), ih]

theorem without_set (value : Members) (field : String) (filled : Json) :
    without (Json.set value field filled) field = without value field := by
  unfold without Json.set
  split
  next => exact filter_replaced _ _ _
  next => simp [List.filter_append]

theorem validateBinding_named (valid : validateBinding binding = .ok ()) : ∃ id, Json.get binding "attempt_id" = .str id := by
  unfold validateBinding at valid
  obtain ⟨_, _, valid⟩ := bind_ok.mp valid
  obtain ⟨_, _, valid⟩ := bind_ok.mp valid
  obtain ⟨_, _, valid⟩ := bind_ok.mp valid
  obtain ⟨_, named, _⟩ := bind_ok.mp valid
  obtain ⟨found, present, named⟩ := bind_ok.mp (forM_ok named "attempt_id" (by simp))
  obtain ⟨id, named, -⟩ := bind_ok.mp named
  obtain rfl := requireId_ok named
  exact ⟨id, item_ok present⟩

/-- The binding that a row retains is of the same attempt. -/
theorem attempt_named {host : Host} {row : AttemptRow} {attempt : Attempt} (valid : validateBinding binding = .ok ())
    (read : row.attempt host binding = .ok attempt) :
    Json.get attempt.binding "attempt_id" = .str (attemptId binding) ∧ attemptId attempt.binding = attemptId binding := by
  obtain ⟨retained, request, backend, _, same, _, _, receipt, _, rfl⟩ := AttemptRow.attempt_ok read
  obtain ⟨id, named⟩ := validateBinding_named valid
  have asked : attemptId binding = id := by rw [attemptId, named]; rfl
  cases retained with
  | obj members =>
    have found := equal_text.mp (named ▸ equal_get same "attempt_id")
    have kept : Json.get ((Json.obj members).members?.getD []) "attempt_id" = .str id := found
    exact ⟨asked ▸ kept, by rw [asked, attemptId, kept]; rfl⟩
  | _ => cases same

theorem load_leads {returned : Attempt → History → Prop} (next : ∀ row attempt, row.attempt setting.host binding = .ok attempt →
      validateBinding binding = .ok () → row.attemptId = attemptId binding →
      (Lost history (attemptId binding) → row.status = .indeterminate) →
      returned attempt (history ++ [⟨.select (attemptId binding), some row⟩])) :
    Leads setting returned (load setting.host binding) history := by
  unfold load
  refine .bind (.lift (fun _ valid => ?_) fun _ _ => trivial)
  refine .bind (.ask trivial fun answer credible => .pure ?_)
  cases answer with
  | none => exact .raise trivial
  | some row =>
    refine .lift (fun attempt read => ?_) fun _ _ => trivial
    refine next row attempt read valid (credible.2 row rfl) fun lost => ?_
    obtain ⟨found, same, indeterminate⟩ := credible.1 lost
    cases same
    exact indeterminate

theorem update_leads {id : Text} {changes : Changes} {returned : Unit → History → Prop} (lawful : Lawful setting.host setting.unicode history id changes)
    (next : returned () (history ++ [⟨.update id changes, .ok ()⟩])) : Leads setting returned (update id changes) history := by
  unfold update
  refine .bind (.ask lawful fun answer _ => .pure ?_)
  cases answer with
  | ok done => exact .pure next
  | error status => cases status <;> exact .raise trivial

theorem unsealedEvent_attempt {attempt : Attempt} {kind : String} {message : Option Text} {extensions : Members}
    {attemptId packetDigest runId workItemId : Json} {identity occurredAt : Text} : Json.get (unsealedEvent attempt kind message
      extensions attemptId packetDigest runId workItemId identity occurredAt) "attempt_id" = attemptId := by
  simp [unsealedEvent, get_object_cons]

theorem event_leads {attempt : Attempt} {kind : String} {message : Option Text} {extensions : Members}
    (lasting : Lasting setting.host fact) (held : fact history) :
    Leads setting (fun value after => fact after ∧ Json.get value "attempt_id" = Json.get attempt.binding "attempt_id" ∧
      ∃ digest, Json.get value "event_digest" = .str digest ∧
        digestOf setting.host EVENT_DOMAIN (.obj (without value "event_digest")) = .ok digest)
      (event setting.host attempt kind message extensions) history := by
  unfold event
  refine .bind (.lift (fun attemptId named => ?_) fun _ _ => trivial)
  refine .bind (.ask trivial fun identity _ => .pure ?_)
  refine .bind (.lift (fun packetDigest _ => ?_) fun _ _ => trivial)
  refine .bind (.lift (fun runId _ => ?_) fun _ _ => trivial)
  refine .bind (.lift (fun workItemId _ => ?_) fun _ _ => trivial)
  refine .bind (.ask trivial fun occurredAt _ => .pure ?_)
  refine .bind (.lift (fun digest digested => .pure ?_) fun _ _ => trivial)
  refine ⟨lasting _ _ trivial (lasting _ _ trivial held), ?_, digest, ?_, ?_⟩
  · rw [get_set, if_neg (by decide), unsealedEvent_attempt, item_ok named]
  · rw [get_set, if_pos rfl]
  · rw [without_set]
    exact digested

theorem record_leads {attempt : Attempt} {id : Text} {kind : String} {evidence : Option Evidence} {message : Option Text}
    {fields : List (String × Json)} (named : Json.get attempt.binding "attempt_id" = .str id) (lasting : Lasting setting.host fact)
    (held : fact history) :
    Leads setting (fun _ after => fact after) (record setting.host setting.adapter attempt kind evidence message fields) history := by
  unfold record
  refine .bind (.lift (fun custody _ => ?_) fun _ _ => trivial)
  refine .bind (.lift (fun added _ => ?_) fun _ _ => trivial)
  refine .seq (event_leads lasting held) fun value after ⟨kept, same, digest, digested, sound⟩ => ?_
  refine .bind (.lift (fun attemptId found => ?_) fun _ _ => trivial)
  refine .bind (.lift (fun raw written => ?_) fun _ _ => trivial)
  have asked : attemptId = .str id := (item_ok found).symm.trans named
  refine .ask ⟨value, written, ?_, ?_, ?_⟩ fun _ _ => .pure (lasting _ _ trivial kept)
  · rw [same, named, asked]
    rfl
  · rw [digested]
    rfl
  · rw [digested]
    exact sound

theorem markIndeterminate_leads {message : Text} :
    Leads setting (fun _ after => Lost after (attemptId binding))
      (markIndeterminate setting.host setting.adapter binding message) history := by
  unfold markIndeterminate
  refine .bind (load_leads fun row attempt read valid _ _ => ?_)
  refine .bind (update_leads .lost ?_)
  exact record_leads (attempt_named valid read).1 (lasting_lost _ _) (.inl ⟨_, rfl, answered_last _ _ _⟩)

theorem result_leads : Leads setting (fun _ _ => True) (result setting.host binding) history := by
  unfold result
  refine .bind (load_leads fun row attempt _ _ _ _ => ?_)
  refine .bind (.ask trivial fun raws _ => .pure ?_)
  exact .bind (.lift (fun _ _ => .pure trivial) fun _ _ => trivial)

theorem discardQueue_leads {attemptId : Text} (queue : Waiting) :
    ∀ (rounds : Nat) {history : History}, Lost history attemptId →
      Leads setting (fun _ after => Lost after attemptId) (discardQueue queue rounds) history
  | 0, _, _ => .ask trivial fun answer _ => answer.elim
  | rounds + 1, _, lost => .bind (.ask trivial fun taken _ => .pure (match taken with
    | none => .pure (lost.later _)
    | some _ => discardQueue_leads queue rounds (lost.later _)))

theorem recordCompletion_leads {truncated : Bool} {evidence : Option Evidence} (lasting : Lasting setting.host fact)
    (held : fact history) : Leads setting (fun _ after => fact after)
      (recordCompletion setting.host setting.adapter binding truncated evidence) history := by
  unfold recordCompletion
  refine .bind (load_leads fun row attempt read valid _ _ => ?_)
  have named := (attempt_named valid read).1
  refine .ite (fun _ => ?_) fun _ => ?_
  · exact record_leads named lasting (lasting _ _ trivial held)
  · exact record_leads named lasting (lasting _ _ trivial held)

/-! Messages and drains. -/

theorem acknowledge_leads {attempt : Attempt} {message : ServerMessage} {turnId : Option Text}
    (lasting : Lasting setting.host fact) (held : fact history) :
    Leads setting (fun _ after => fact after) (acknowledge attempt binding message turnId) history := by
  unfold acknowledge
  exact .ite (fun _ => update_leads .acknowledged (lasting _ _ trivial held)) fun _ => .pure held

theorem dict_ok {value : Json} {members : Members} (found : dict value = .ok members) : value = .obj members := by
  unfold dict at found
  split at found
  · cases found
    rfl
  · cases found

theorem turnCompleted_leads {row : AttemptRow} {attempt : Attempt} {message : ServerMessage} (read : row.attempt setting.host binding = .ok attempt)
    (selected : Answered history (.select (attemptId binding)) (some row))
    (taken : Answered history (.next .notifications) (some message)) (lasting : Lasting setting.host fact) (held : fact history) :
    Leads setting (fun _ after => fact after) (turnCompleted setting.host setting.adapter attempt binding message
      (messageIds message).1 (messageIds message).2) history := by
  unfold turnCompleted
  refine .ite (fun completed => ?_) fun _ => .pure held
  obtain ⟨retained, request, backend, _, _, requested, _, receipt, _, rfl⟩ := AttemptRow.attempt_ok read
  refine .bind (.lift (fun raw _ => ?_) fun _ _ => trivial)
  refine .bind (.lift (fun turn found => ?_) fun _ _ => trivial)
  refine .bind (.lift (fun maximum asked => ?_) fun _ _ => trivial)
  refine .bind (.lift (fun bounded cut => ?_) fun _ _ => trivial)
  have shown : Shown history row turn :=
    .notified taken completed.1 (Prod.ext completed.2.1 completed.2.2) (dict_ok found)
  refine .bind (update_leads (.reported true ⟨selected, shown, ⟨request, requested, asked⟩, cut⟩) ?_)
  exact recordCompletion_leads lasting (lasting _ _ trivial held)

theorem notification_leads {message : ServerMessage} (taken : Answered history (.next .notifications) (some message))
    (lasting : Lasting setting.host fact) (held : (∃ raw, messageRaw setting.host message = .ok raw) → fact history) :
    Leads setting (fun _ after => fact after) (notification setting.host setting.adapter binding message) history := by
  unfold notification
  refine .bind (.lift (fun raw sound => ?_) fun _ _ => trivial)
  refine .bind (load_leads fun row attempt read _ _ _ => ?_)
  have kept := lasting history ⟨.select (attemptId binding), some row⟩ trivial (held ⟨raw, sound⟩)
  refine .ite (fun _ => .pure kept) fun _ => ?_
  have known : Lasting setting.host fun after => fact after ∧ Answered after (.select (attemptId binding)) (some row) ∧
      Answered after (.next .notifications) (some message) :=
    fun earlier exchange calm known => ⟨lasting _ _ calm known.1, known.2.1.later _, known.2.2.later _⟩
  refine .seq (acknowledge_leads known ⟨kept, answered_last _ _ _, taken.later _⟩) fun _ after facts => ?_
  exact turnCompleted_leads read facts.2.1 facts.2.2 lasting facts.1

theorem surface_leads {message : ServerMessage} (lasting : Lasting setting.host fact)
    (held : (∃ raw, messageRaw setting.host message = .ok raw) → fact history) :
    Leads setting (fun goes after => if goes = true then fact after else Lost after (attemptId binding))
      (surface setting.host setting.adapter binding message) history := by
  unfold surface
  refine .bind (load_leads fun row attempt read valid _ _ => ?_)
  have named := (attempt_named valid read).1
  refine .bind (.lift (fun _ _ => ?_) fun _ _ => trivial)
  cases sound : messageRaw setting.host message with
  | error failure =>
    cases failure with
    | protocol why => exact .seq markIndeterminate_leads fun _ _ lost => .pure lost
    | other name why => exact .raise trivial
  | ok raw =>
    have kept := lasting history ⟨.select (attemptId binding), some row⟩ trivial (held ⟨raw, sound⟩)
    refine .bind (.lift (fun _ _ => ?_) fun _ _ => trivial)
    refine .bind (update_leads .waiting ?_)
    exact .seq (record_leads named lasting (lasting _ _ trivial kept)) fun _ _ later => .pure later

/-- The drain of a queue has come to its end, with this fact before the last look. -/
def Emptied (queue : Waiting) (fact : History → Prop) (history : History) : Prop :=
  ∃ before, fact before ∧ history = before ++ [⟨.next queue, none⟩]

theorem drainRequests_leads (lasting : Lasting setting.host fact) : ∀ (rounds : Nat) {history : History}, fact history →
    Leads setting (fun goes after => if goes = true then Emptied .serverRequests fact after else Lost after (attemptId binding))
      (drainRequests setting.host setting.adapter binding rounds) history
  | 0, _, _ => .ask trivial fun answer _ => answer.elim
  | rounds + 1, history, held => by
    refine .bind (.ask trivial fun taken _ => .pure ?_)
    cases taken with
    | none => exact .pure ⟨history, held, rfl⟩
    | some message =>
      refine .seq (surface_leads lasting fun sound => lasting _ _ (fun other same => Option.some.inj same ▸ sound) held)
        fun goes after outcome => ?_
      cases goes with
      | true => exact drainRequests_leads lasting rounds outcome
      | false => exact .pure outcome

theorem observeNotification_leads {message : ServerMessage} (taken : Answered history (.next .notifications) (some message))
    (lasting : Lasting setting.host fact) (held : (∃ raw, messageRaw setting.host message = .ok raw) → fact history) :
    Leads setting (fun goes after => if goes = true then fact after else Lost after (attemptId binding))
      (observeNotification setting.host setting.adapter binding message) history := by
  unfold observeNotification
  refine .handling (.seq (notification_leads taken lasting held) fun _ _ later => .pure later) (fun failure recovery after _ handled => ?_)
    fun _ _ _ _ => trivial
  cases failure with
  | protocol why =>
    cases handled
    exact .seq markIndeterminate_leads fun _ _ lost => .pure lost
  | other name why => cases handled

theorem drainNotifications_leads (lasting : Lasting setting.host fact) : ∀ (rounds : Nat) {history : History}, fact history →
    Leads setting (fun _ after => Lost after (attemptId binding) ∨ Emptied .notifications fact after)
      (drainNotifications setting.host setting.adapter binding rounds) history
  | 0, _, _ => .ask trivial fun answer _ => answer.elim
  | rounds + 1, history, held => by
    refine .bind (.ask trivial fun taken _ => .pure ?_)
    cases taken with
    | none => exact .pure (.inr ⟨history, held, rfl⟩)
    | some message =>
      refine .seq (observeNotification_leads (answered_last _ _ _) lasting fun sound =>
        lasting _ _ (fun other same => Option.some.inj same ▸ sound) held) fun goes after outcome => ?_
      cases goes with
      | true => exact drainNotifications_leads lasting rounds outcome
      | false => exact .pure (.inl outcome)

theorem records_leads {attempt : Attempt} {id kind : _} {messages : Text → Option Text}
    (named : Json.get attempt.binding "attempt_id" = .str id) (lasting : Lasting setting.host fact) :
    ∀ (values : List Text) {history : History}, fact history → Leads setting (fun _ after => fact after)
      (values.forM fun value => record setting.host setting.adapter attempt kind none (messages value) []) history
  | [], _, held => .pure held
  | _ :: rest, _, held => .seq (record_leads named lasting held) fun _ _ later => records_leads named lasting rest later

theorem drainLoss_leads {diagnostics : List Text} {rounds : Nat} :
    Leads setting (fun _ after => Lost after (attemptId binding))
      (drainLoss setting.host setting.adapter binding diagnostics rounds) history := by
  unfold drainLoss
  refine .bind (load_leads fun row attempt read valid _ _ => ?_)
  refine .bind (update_leads .lost ?_)
  refine .seq (records_leads (attempt_named valid read).1 (lasting_lost setting.host (attemptId binding)) diagnostics
    (.inl ⟨_, rfl, answered_last _ _ _⟩)) fun _ _ lost => ?_
  refine .seq (discardQueue_leads _ _ lost) fun _ _ lost => ?_
  exact discardQueue_leads _ _ lost

/-- A drain ends the attempt, or it goes through. -/
theorem drain_leads {rounds : Nat} : Leads setting (fun _ after => Lost after (attemptId binding) ∨
    ∃ tail, after = history ++ tail ∧ Drained setting.host tail) (drain setting.host setting.adapter binding rounds) history := by
  unfold drain
  refine .bind (.ask trivial fun diagnostics _ => .pure ?_)
  refine .ite (fun clear => ?_) fun _ => drainLoss_leads.weaken (fun _ _ lost => .inl lost) fun _ _ _ => trivial
  obtain rfl := List.isEmpty_iff.mp clear
  refine .bind (load_leads fun row attempt read _ _ _ => ?_)
  refine .ite (fun lost => .pure (.inl (.inr ⟨row, ?_, answered_last _ _ _⟩))) fun _ => ?_
  · obtain ⟨_, _, _, _, _, _, _, _, _, rfl⟩ := AttemptRow.attempt_ok read
    exact lost
  have held : Since setting.host history [⟨.diagnostics, []⟩]
      (history ++ [⟨.diagnostics, []⟩] ++ [⟨.select (attemptId binding), some row⟩]) :=
    lasting_since _ _ _ _ _ trivial ((since_refl _ _).sees _ rfl)
  refine .seq (drainRequests_leads (lasting_since _ _ _) rounds held) fun goes after outcome => ?_
  cases goes with
  | false => exact .pure (.inl outcome)
  | true =>
    obtain ⟨before, since, rfl⟩ := outcome
    have emptied := since.sees ⟨.next .serverRequests, none⟩ fun _ same => by cases same
    refine (drainNotifications_leads (lasting_since _ _ _) rounds emptied).weaken (fun _ after outcome => ?_) fun _ _ _ => trivial
    refine outcome.imp id fun ⟨before, since, same⟩ => ?_
    obtain ⟨tail, shape, calm, among⟩ := since.sees ⟨.next .notifications, none⟩ fun _ same => by cases same
    exact ⟨tail, same.trans shape, calm, among _ (by simp), among _ (by simp), among _ (by simp)⟩

/-! The final cut. -/

theorem lasting_drained (start : History) :
    Lasting setting.host fun after => ∃ tail, after = start ++ tail ∧ Drained setting.host tail := by
  rintro history exchange calm ⟨tail, rfl, drained⟩
  refine ⟨tail ++ [exchange], by simp, fun other listed => ?_, drained.reported.later _, drained.requests.later _,
    drained.notifications.later _⟩
  rcases List.mem_append.mp listed with listed | listed
  · exact drained.calm other listed
  · exact List.mem_singleton.mp listed ▸ calm

theorem drainRetained_leads : Leads setting (fun goes after => goes = true → Lost after (attemptId binding) ∨
    ∃ tail, after = history ++ tail ∧ Drained setting.host tail) (drainRetained setting binding) history := by
  unfold drainRetained
  refine .handling (.seq drain_leads fun _ _ outcome => .pure fun _ => outcome) (fun failure recovery after _ handled => ?_)
    fun _ _ _ _ => trivial
  cases failure with
  | protocol why =>
    cases handled
    exact .seq markIndeterminate_leads fun _ _ _ => .pure nofun
  | other name why => cases handled

theorem judgeCut_leads {cut : TerminalCut} (lasting : Lasting setting.host fact)
    (outcome : Lost history (attemptId binding) ∨ fact history) :
    Leads setting (fun goes after => goes = true → cut.confirmed = true ∧ fact after) (judgeCut setting binding cut) history := by
  unfold judgeCut
  refine .bind (load_leads fun row attempt read _ _ known => ?_)
  obtain ⟨_, _, _, _, _, _, _, _, _, rfl⟩ := AttemptRow.attempt_ok read
  refine .ite (fun _ => ?_) fun clean => .pure fun goes => ?_
  · refine .seq markIndeterminate_leads fun _ marked lost => ?_
    refine .bind (load_leads fun row attempt read _ _ known => .pure fun goes => ?_)
    obtain ⟨_, _, _, _, _, _, _, _, _, rfl⟩ := AttemptRow.attempt_ok read
    exact absurd (known lost) (of_decide_eq_true goes)
  · have kept := of_decide_eq_true goes
    refine ⟨?_, ?_⟩
    · by_contra unclean
      exact clean ⟨by simpa using unclean, kept⟩
    · rcases outcome with lost | held
      · exact absurd (known lost) kept
      · exact lasting _ _ trivial held

/-- A finalisation that goes on has made a confirmed cut, and drained what was left. -/
theorem finalizeAcquisition_leads : Leads setting (fun goes after => goes = true → ∃ cut tail, cut.confirmed = true ∧
    Drained setting.host tail ∧ after = history ++ ⟨.quiesce, .cut cut⟩ :: tail) (finalizeAcquisition setting binding) history := by
  unfold finalizeAcquisition
  refine .bind (.ask trivial fun quiesced _ => .pure ?_)
  cases quiesced with
  | absent => exact .seq markIndeterminate_leads fun _ _ _ => .pure nofun
  | failed failure => exact .seq markIndeterminate_leads fun _ _ _ => .pure nofun
  | foreign => exact .seq markIndeterminate_leads fun _ _ _ => .pure nofun
  | cut cut =>
    refine .seq drainRetained_leads fun goes after outcome => ?_
    cases goes with
    | false => exact .pure nofun
    | true =>
      refine (judgeCut_leads (lasting_drained _) (outcome rfl)).weaken (fun goes after judged went => ?_) fun _ _ _ => trivial
      obtain ⟨confirmed, tail, rfl, drained⟩ := judged went
      exact ⟨cut, tail, confirmed, drained, by simp⟩

theorem finalizeOccurrence_leads : Leads setting (fun _ _ => True) (finalizeOccurrence setting binding) history :=
  .seq finalizeAcquisition_leads fun _ _ _ => result_leads

/-! The operations. -/

theorem selectTurn_ok {turnId : Text} {turn : Members} : ∀ {turns : List Json}, selectTurn turnId turns = .ok (some turn) →
    .obj turn ∈ turns ∧ Json.get turn "id" = .str turnId
  | [], found => by cases found
  | first :: rest, found => by
    unfold selectTurn at found
    obtain ⟨members, shape, chosen⟩ := bind_ok.mp found
    obtain rfl := dict_ok shape
    split at chosen
    next same =>
      cases chosen
      exact ⟨List.mem_cons_self, equal_text.mp same⟩
    next => exact (selectTurn_ok chosen).imp (List.mem_cons_of_mem _) id

/-- A response that shows a thread by the identity that the attempt retains. -/
structure Read (history : History) (row : AttemptRow) (thread : Members) : Prop where
  shown : ∃ params answer threadId, Answered history (.request "thread/read" params) (.ok answer) ∧
    orEmpty (Json.get answer "thread") = .obj thread ∧ row.threadId = some threadId ∧ Json.get thread "id" = .str threadId

theorem ingestTurn_leads {row : AttemptRow} {attempt : Attempt} {turnId : Text} {turn : Members} {evidence : Bytes}
    (valid : validateBinding binding = .ok ()) (read : row.attempt setting.host binding = .ok attempt)
    (selected : Answered history (.select (attemptId binding)) (some row)) (shown : Shown history row turn) :
    Leads setting (fun _ _ => True) (ingestTurn setting attempt turnId turn evidence) history := by
  have named := (attempt_named valid read).2
  obtain ⟨retained, request, backend, _, _, requested, _, receipt, _, rfl⟩ := AttemptRow.attempt_ok read
  unfold ingestTurn
  refine .bind (.lift (fun found _ => ?_) fun _ _ => trivial)
  refine .bind (.lift (fun _ _ => ?_) fun _ _ => trivial)
  refine .bind (.lift (fun maximum asked => ?_) fun _ _ => trivial)
  refine .bind (.lift (fun bounded cut => ?_) fun _ _ => trivial)
  refine .bind (.lift (fun completed _ => ?_) fun _ _ => trivial)
  refine .bind (update_leads (.reported completed ⟨named ▸ selected, shown, ⟨request, requested, asked⟩, cut⟩) ?_)
  refine .ite (fun _ => ?_) fun _ => .pure trivial
  exact recordCompletion_leads (lasting_true _) trivial

theorem ingestThread_leads {row : AttemptRow} {attempt : Attempt} {thread : Members} {evidence : Bytes}
    (valid : validateBinding binding = .ok ()) (read : row.attempt setting.host binding = .ok attempt)
    (selected : Answered history (.select (attemptId binding)) (some row)) (answered : Read history row thread) :
    Leads setting (fun _ _ => True) (ingestThread setting attempt thread evidence) history := by
  have kept : attempt.turnId = row.turnId := by
    obtain ⟨_, _, _, _, _, _, _, _, _, rfl⟩ := AttemptRow.attempt_ok read
    rfl
  unfold ingestThread
  refine .ite (fun _ => .pure trivial) fun _ => ?_
  split
  next => exact .pure trivial
  next => exact .pure trivial
  next turnId _ same =>
    refine .bind (.lift (fun found chosen => ?_) fun _ _ => trivial)
    cases found with
    | none => exact .pure trivial
    | some turn =>
      obtain ⟨listed, identified⟩ := selectTurn_ok chosen
      obtain ⟨params, answer, threadId, answered, thread, bound, named⟩ := answered.shown
      split at listed
      next turns shape =>
        exact ingestTurn_leads valid read selected (.read answered thread bound named shape listed (kept.symm.trans same) identified)
      next => cases listed

theorem request_leads {method : String} {params : Members} {returned : Members → History → Prop}
    (next : ∀ answer, returned answer (history ++ [⟨.request method params, .ok answer⟩])) :
    Leads setting returned (Ask.request method params) history := by
  unfold Ask.request
  refine .bind (.ask trivial fun answer _ => .pure ?_)
  cases answer with
  | ok answer => exact .pure (next answer)
  | error failure => exact .raise trivial

theorem readThread_leads {row : AttemptRow} {threadId : Text} (bound : row.threadId = some threadId)
    (selected : Answered history (.select (attemptId binding)) (some row)) :
    Leads setting (fun found after => Answered after (.select (attemptId binding)) (some row) ∧ Read after row found.2)
      (readThread threadId) history := by
  unfold readThread
  refine .bind (request_leads fun answer => ?_)
  refine .bind (.lift (fun thread found => ?_) fun _ _ => trivial)
  refine .bind (.lift (fun _ same => ?_) fun _ _ => trivial)
  exact .pure ⟨selected.later _, _, answer, threadId, answered_last _ _ _, dict_ok found, bound, equal_text.mp (demand_ok.mp same)⟩

theorem inspectThread_leads {row : AttemptRow} {attempt : Attempt} {threadId : Text} (valid : validateBinding binding = .ok ())
    (read : row.attempt setting.host binding = .ok attempt) (bound : attempt.threadId = some threadId)
    (selected : Answered history (.select (attemptId binding)) (some row)) :
    Leads setting (fun _ _ => True) (inspectThread setting binding attempt threadId) history := by
  have kept : attempt.threadId = row.threadId := by
    obtain ⟨_, _, _, _, _, _, _, _, _, rfl⟩ := AttemptRow.attempt_ok read
    rfl
  unfold inspectThread
  refine .seq (readThread_leads (kept.symm.trans bound) selected) fun found after ⟨selected, answered⟩ => ?_
  refine .bind (.lift (fun evidence _ => ?_) fun _ _ => trivial)
  refine .ite (fun _ => ?_) fun _ => ingestThread_leads valid read selected answered
  exact markIndeterminate_leads.weaken (fun _ _ _ => trivial) fun _ _ _ => trivial

theorem status_leads : Leads setting (fun _ _ => True) (status setting binding) history := by
  unfold status
  refine .bind (load_leads fun row attempt read valid _ _ => ?_)
  refine .ite (fun _ => result_leads) fun _ => ?_
  have rest {history : History} : Leads setting (fun _ _ => True) (do
      drain setting.host setting.adapter binding setting.rounds
      result setting.host binding) history := .seq drain_leads fun _ _ _ => result_leads
  cases bound : attempt.threadId with
  | none => exact rest
  | some threadId => exact .seq (inspectThread_leads valid read bound (answered_last _ _ _)) fun _ _ _ => rest

theorem supported_leads {threadId : Text} {thread : Members} (lasting : Lasting setting.host fact) (held : fact history) :
    Leads setting (fun _ after => fact after) (supported threadId thread) history := by
  unfold supported
  refine .bind (.lift (fun status _ => ?_) fun _ _ => trivial)
  refine .ite (fun _ => ?_) fun _ => .lift (fun _ _ => held) fun _ _ => trivial
  exact .bind (request_leads fun answer => .pure (lasting _ _ trivial held))

theorem checkpoint_leads {row : AttemptRow} {attempt : Attempt} {thread : Members} {evidence : Bytes}
    (valid : validateBinding binding = .ok ()) (read : row.attempt setting.host binding = .ok attempt)
    (selected : Answered history (.select (attemptId binding)) (some row)) (answered : Read history row thread) :
    Leads setting (fun _ _ => True) (checkpoint setting binding attempt thread evidence) history := by
  unfold checkpoint
  refine .ite (fun _ => markIndeterminate_leads.weaken (fun _ _ _ => trivial) fun _ _ _ => trivial) fun _ => ?_
  refine .seq (ingestThread_leads valid read selected answered) fun _ _ _ => ?_
  refine .bind (load_leads fun row attempt read valid _ _ => ?_)
  exact record_leads (attempt_named valid read).1 (lasting_true _) trivial

theorem resumeThread_leads {row : AttemptRow} {attempt : Attempt} {threadId : Text} (valid : validateBinding binding = .ok ())
    (read : row.attempt setting.host binding = .ok attempt) (bound : attempt.threadId = some threadId)
    (selected : Answered history (.select (attemptId binding)) (some row)) :
    Leads setting (fun _ _ => True) (resumeThread setting binding attempt threadId) history := by
  have kept : attempt.threadId = row.threadId := by
    obtain ⟨_, _, _, _, _, _, _, _, _, rfl⟩ := AttemptRow.attempt_ok read
    rfl
  unfold resumeThread
  refine .seq (readThread_leads (kept.symm.trans bound) selected) fun found after facts => ?_
  have lasting : Lasting setting.host fun after =>
      Answered after (.select (attemptId binding)) (some row) ∧ Read after row found.2 := by
    rintro earlier exchange _ ⟨selected, params, answer, threadId, answered, rest⟩
    exact ⟨selected.later _, params, answer, threadId, answered.later _, rest⟩
  refine .seq (supported_leads lasting facts) fun goes after ⟨selected, answered⟩ => ?_
  refine .ite (fun _ => ?_) fun _ => markIndeterminate_leads.weaken (fun _ _ _ => trivial) fun _ _ _ => trivial
  refine .bind (.lift (fun evidence _ => ?_) fun _ _ => trivial)
  refine .seq (checkpoint_leads valid read selected answered) fun _ _ _ => ?_
  exact drain_leads.weaken (fun _ _ _ => trivial) fun _ _ _ => trivial

theorem resume_leads : Leads setting (fun _ _ => True) (resume setting binding) history := by
  unfold resume
  refine .bind (load_leads fun row attempt read valid _ _ => ?_)
  refine .ite (fun _ => result_leads) fun _ => ?_
  refine .bind (.lift (fun _ _ => ?_) fun _ _ => trivial)
  cases bound : attempt.threadId with
  | none => exact .seq markIndeterminate_leads fun _ _ _ => result_leads
  | some threadId => exact .seq (resumeThread_leads valid read bound (answered_last _ _ _)) fun _ _ _ => result_leads

theorem exactOutcome_ok {host : Host} {final : Option Text} {outcome : Members} (exactly : exactOutcome host final = .ok outcome) :
    closed outcome OUTCOME_FIELDS = true ∧ ∃ message, final = some message ∧ host.loadsUniqueText message = .ok (.obj outcome) ∧
      ∃ raw, canonical host (.obj outcome) = .ok raw ∧ Text.encode? message = some raw := by
  cases final with
  | none => cases exactly
  | some message =>
    unfold exactOutcome at exactly
    obtain ⟨value, loaded, exactly⟩ := bind_ok.mp exactly
    cases value with
    | obj members =>
      obtain ⟨_, closes, exactly⟩ := bind_ok.mp exactly
      obtain ⟨raw, canonically, exactly⟩ := bind_ok.mp exactly
      obtain ⟨written, encodes, exactly⟩ := bind_ok.mp exactly
      obtain ⟨_, same, exactly⟩ := bind_ok.mp exactly
      cases exactly
      refine ⟨demand_ok.mp closes, message, rfl, ?_, raw, canonically, ?_⟩
      · unfold loadsUniqueText at loaded
        split at loaded <;> cases loaded
        assumption
      · obtain rfl := beq_iff_eq.mp (demand_ok.mp same)
        unfold encoded at encodes
        split at encodes <;> cases encodes
        assumption
    | _ => cases exactly

theorem receiptFromOutcome_leads {outcome : Members} {attempt : Attempt} : Leads setting (fun receipt after =>
      (∃ endedAt, after = history ++ [⟨.now, endedAt⟩]) ∧ checkOutcome setting.unicode outcome = .ok () ∧
      (∃ identities endedAt digest, retainedIdentities attempt = .ok identities ∧
        receipt = Json.set (unsealedReceipt identities attempt.startedAt endedAt outcome) "receipt_digest" (.str digest) ∧
        digestOf setting.host RECEIPT_DOMAIN (.obj (without receipt "receipt_digest")) = .ok digest) ∧
      validateReceipt setting.host setting.unicode receipt attempt = .ok ())
    (receiptFromOutcome setting outcome attempt) history := by
  unfold receiptFromOutcome
  refine .bind (.lift (fun _ checked => ?_) fun _ _ => trivial)
  refine .bind (.lift (fun identities retained => ?_) fun _ _ => trivial)
  refine .bind (.ask trivial fun endedAt _ => .pure ?_)
  refine .bind (.lift (fun digest digested => ?_) fun _ _ => trivial)
  refine .bind (.lift (fun _ valid => ?_) fun _ _ => trivial)
  exact .pure ⟨⟨endedAt, rfl⟩, checked, ⟨identities, endedAt, digest, retained, rfl, by rw [without_set]; exact digested⟩, valid⟩

theorem sealAttempt_leads {row : AttemptRow} {attempt : Attempt} {before tail : History} {cut : TerminalCut}
    (read : row.attempt setting.host binding = .ok attempt) (completed : attempt.status = .providerCompleted)
    (confirmed : cut.confirmed = true) (drained : Drained setting.host tail)
    (shape : history = before ++ (⟨.quiesce, .cut cut⟩ :: tail) ++ [⟨.select (attemptId binding), some row⟩]) :
    Leads setting (fun _ _ => True) (sealAttempt setting binding attempt) history := by
  unfold sealAttempt
  have made : Leads setting (fun (found : Option Members) after => ∀ receipt, found = some receipt →
      ∃ outcome, Receipted setting.host setting.unicode attempt outcome receipt ∧ ∃ endedAt, after = history ++ [⟨.now, endedAt⟩]) (do
        let outcome ← lift (exactOutcome setting.host attempt.finalMessage)
        let receipt ← receiptFromOutcome setting outcome attempt
        return some receipt) history := by
    refine .bind (.lift (fun outcome exactly => ?_) fun _ _ => trivial)
    refine .seq receiptFromOutcome_leads fun receipt after ⟨ended, checked, taken, valid⟩ => ?_
    obtain ⟨closes, read⟩ := exactOutcome_ok exactly
    refine .pure fun other same => ?_
    cases same
    exact ⟨outcome, ⟨read, closes, checked, taken, valid⟩, ended⟩
  refine .seq (.handling made (fun failure recovery after _ handled => ?_) fun _ _ _ _ => trivial) fun found after known => ?_
  · obtain ⟨why, _, rfl⟩ := Option.map_eq_some_iff.mp handled
    exact .seq markIndeterminate_leads fun _ _ _ => .pure nofun
  cases found with
  | none => exact .pure trivial
  | some receipt =>
    obtain ⟨outcome, receipted, endedAt, rfl⟩ := known receipt rfl
    refine .bind (.lift (fun raw written => ?_) fun _ _ => trivial)
    refine update_leads (.sealed ⟨⟨before, cut, tail, endedAt, confirmed, drained, ?_⟩, ?_⟩ read receipted written) trivial
    · rw [shape]
      simp
    · obtain ⟨_, _, _, _, _, _, _, _, _, rfl⟩ := AttemptRow.attempt_ok read
      exact completed

theorem collectFinal_leads : Leads setting (fun _ _ => True) (collectFinal setting binding) history := by
  unfold collectFinal
  refine .seq finalizeAcquisition_leads fun goes after finalized => ?_
  refine .ite (fun went => ?_) fun _ => .pure trivial
  obtain ⟨cut, tail, confirmed, drained, rfl⟩ := finalized went
  refine .bind (load_leads fun row attempt read _ _ _ => ?_)
  exact .ite (fun completed => sealAttempt_leads read completed confirmed drained rfl) fun _ => .pure trivial

theorem collect_leads : Leads setting (fun _ _ => True) (collect setting binding) history := by
  unfold collect
  refine .bind (load_leads fun row attempt _ _ _ _ => ?_)
  refine .ite (fun _ => result_leads) fun _ => ?_
  refine .seq status_leads fun _ _ _ => ?_
  refine .bind (load_leads fun row attempt _ _ _ _ => ?_)
  split
  next => exact result_leads
  next => exact .seq collectFinal_leads fun _ _ _ => result_leads

theorem observe_leads : ∀ (polls : Nat) {history : History}, Leads setting (fun _ _ => True) (observe setting binding polls) history
  | 0, _ => result_leads
  | polls + 1, _ => .seq drain_leads fun _ _ _ => observe_leads polls

theorem identityOf_ok {field key : String} {answer : Members} {found : Text} (identified : identityOf field key answer = .ok found) :
    requireId (text field) (.str found) = .ok found := by
  obtain ⟨value, _, identified⟩ := bind_ok.mp identified
  exact requireId_ok identified ▸ identified

theorem launch_leads {workspace : Text} : Leads setting (fun _ _ => True) (launch setting binding workspace) history := by
  unfold launch
  refine .bind (request_leads fun threadResult => ?_)
  refine .bind (.lift (fun threadId identified => ?_) fun _ _ => trivial)
  refine .bind (update_leads (.starting (identityOf_ok identified)) ?_)
  refine .bind (load_leads fun row attempt _ _ _ _ => ?_)
  refine .bind (.lift (fun prompted _ => ?_) fun _ _ => trivial)
  refine .bind (request_leads fun turnResult => ?_)
  refine .bind (.lift (fun turnId identified => ?_) fun _ _ => trivial)
  refine .bind (update_leads (.running (identityOf_ok identified)) ?_)
  refine .bind (load_leads fun row attempt read valid _ _ => ?_)
  have named := (attempt_named valid read).1
  refine .bind (.lift (fun threadRaw _ => ?_) fun _ _ => trivial)
  refine .seq (record_leads named (lasting_true _) trivial) fun _ _ _ => ?_
  refine .bind (.lift (fun turnRaw _ => ?_) fun _ _ => trivial)
  exact record_leads named (lasting_true _) trivial

theorem bindingFromStart_attempt (request : Members) :
    Json.get (bindingFromStart request) "attempt_id" = Json.get request "attempt_id" := by
  simp [bindingFromStart, get_object_cons]

/-- A request that `validate_start` accepts names its attempt, and bounds what it may say. -/
theorem validateStart_bounds {host : Host} {unicode : Unicode} {request : Members} {briefRaw : Bytes}
    (valid : validateStart host unicode request briefRaw = .ok ()) : (∃ id, Json.get request "attempt_id" = .str id) ∧
      ∃ maximum, integer? (Json.get request "maximum_output_bytes") = some maximum ∧ 1024 ≤ maximum := by
  unfold validateStart at valid
  obtain ⟨_, -, valid⟩ := bind_ok.mp valid
  obtain ⟨_, -, valid⟩ := bind_ok.mp valid
  obtain ⟨_, -, valid⟩ := bind_ok.mp valid
  obtain ⟨_, -, valid⟩ := bind_ok.mp valid
  obtain ⟨_, -, valid⟩ := bind_ok.mp valid
  obtain ⟨_, ids, valid⟩ := bind_ok.mp valid
  obtain ⟨_, -, valid⟩ := bind_ok.mp valid
  obtain ⟨_, -, valid⟩ := bind_ok.mp valid
  obtain ⟨_, -, valid⟩ := bind_ok.mp valid
  obtain ⟨_, -, valid⟩ := bind_ok.mp valid
  obtain ⟨_, -, valid⟩ := bind_ok.mp valid
  obtain ⟨_, -, valid⟩ := bind_ok.mp valid
  obtain ⟨_, -, valid⟩ := bind_ok.mp valid
  obtain ⟨_, -, valid⟩ := bind_ok.mp valid
  obtain ⟨id, named, -⟩ := bind_ok.mp (forM_ok ids "attempt_id" (by simp))
  refine ⟨⟨id, requireId_ok named⟩, ?_⟩
  have bounded := demand_ok.mp valid
  simp only [Bool.and_eq_true] at bounded
  have within := bounded.1.1.1
  split at within
  next timeout maximum _ found => exact ⟨maximum, found, (of_decide_eq_true within).2.2.1⟩
  next => cases within

theorem start_leads {request : Members} {briefRaw : Bytes} :
    Leads setting (fun _ _ => True) (start setting request briefRaw) history := by
  unfold start Ask.directory
  refine .bind (.lift (fun _ valid => ?_) fun _ _ => trivial)
  refine .bind (.bind (.ask trivial fun workspace _ => .pure (.lift (fun workspace _ => ?_) fun _ _ => trivial)))
  refine .bind (.lift (fun session _ => ?_) fun _ _ => trivial)
  refine .bind (.ask trivial fun clientMessageId _ => .pure ?_)
  refine .bind (.ask trivial fun startedAt _ => .pure ?_)
  obtain ⟨⟨id, named⟩, -⟩ := validateStart_bounds valid
  have bound := (bindingFromStart_attempt request).trans named
  unfold insertAttempt
  refine .bind (.bind (.lift (fun binding first => ?_) fun _ _ => trivial))
  refine .bind (.lift (fun retained second => ?_) fun _ _ => trivial)
  refine .bind (.lift (fun backend third => ?_) fun _ _ => trivial)
  refine .bind (.ask ⟨rfl, rfl, rfl, rfl, rfl, ⟨request, valid, second, first, rfl⟩, ⟨_, third⟩⟩ fun inserted _ => .pure ?_)
  refine .ite (fun _ => .pure ?_) fun _ => .raise trivial
  refine .seq (record_leads bound (lasting_true _) trivial) fun _ _ _ => ?_
  refine .seq (.handling launch_leads (fun failure recovery after _ handled => ?_) fun _ _ _ _ => trivial) fun _ _ _ => result_leads
  cases handled
  exact markIndeterminate_leads.weaken (fun _ _ _ => trivial) fun _ _ _ => trivial

/-- Every call keeps the rules. -/
theorem call_leads (setting : Setting) (operation : Operation) : Leads setting (fun _ _ => True) (operation.call setting) history := by
  cases operation with
  | start request briefRaw => exact start_leads
  | resume binding => exact resume_leads
  | status binding => exact status_leads
  | collect binding => exact collect_leads
  | observe binding polls => exact observe_leads polls
  | finalizeOccurrence binding => exact finalizeOccurrence_leads

end Switchyard.Nightshift
