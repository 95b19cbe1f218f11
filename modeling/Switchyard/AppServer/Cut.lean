import Switchyard.AppServer.Complete

/-! The terminal cut. A cut that quiesced the stream without loss is made over a stream read
to its end, so what had been drawn an ordinal by then is the whole of the conversation. -/

namespace Switchyard.AppServer
open Library Json

/-- The wire that has been ordered and is being sent. -/
def System.sending (system : System) : List Bytes :=
  match system.writer with
  | some (.sending transmission) => [transmission.wire]
  | _ => []

/-- Requests are ordered before they are sent, and what is ordered is named by scalar text. -/
structure Requested (labels : List Label) (system : System) : Prop where
  waiting : ∀ transmission ∈ system.waiting, transmission.request.method.Scalar
  ordering : ∀ transmission, system.writer = some (.ordering transmission) → transmission.request.method.Scalar
  sent : List.Sublist (sentWires labels ++ system.sending) ((gotten labels ++ system.client.envelopes).filterMap requestedWire)

variable {host : Host} {floatRepr : ℚ → Text} {replaced : Bytes → { line : Text // line.Scalar }} {stream : List Bytes}
  {labels : List Label} {label : Label} {before after : System}

/-- A request that reached the wire is ordered or refused, unless its copy raises before it draws an ordinal. -/
theorem orderRequest_orders {transmission : Transmission} (scalar : transmission.request.method.Scalar) {client : Client}
    (queued : client.Queued) : Effect.Meets (orderRequest host transmission) client
      (fun taken after => Progress client (if taken then [requestEnvelope transmission client.acquisitionOrdinal] else []) 1 0 after)
      (fun _ after => after = client) := by
  have progress := nextOrderedLocked_progress true "CLIENT_REQUEST" (some ⟨transmission.request.message, some transmission.wire⟩)
    .null none (.str transmission.request.method) queued
  refine .ite (fun _ => .intro (fun taken after ordered => progress.returns ordered) fun className after raised => ?_)
    fun _ => .raise rfl
  unfold nextOrderedLocked at raised
  obtain ⟨source, present, sized⟩ := queued
  rw [present] at raised
  simp only [Bool.not_true, Bool.and_false, Bool.false_eq_true, if_false] at raised
  split at raised
  · cases raised
  · cases raised
  · next failed =>
    obtain ⟨raw, encoded⟩ := Option.isSome_iff_exists.mp (Text.encode?_isSome.mpr scalar)
    have written : utf8Length transmission.request.method = .ok raw.length := utf8Length_ok.mpr ⟨raw, encoded, rfl⟩
    unfold ByteBoundedQueue.putNowait at failed
    simp [sized, envelopeBytes, messageBytes, optionalLength, written, bind, Except.bind, pure, Except.pure] at failed
    split at failed
    · cases failed
    · split at failed <;> cases failed

theorem stderrActions_loses (rawLine : Bytes) (stderr : Stderr) : OnlyLoses (stderrActions replaced rawLine stderr).1 := by
  unfold stderrActions
  split
  · exact fun action listed => ⟨_, _, List.mem_singleton.mp listed⟩
  · split
    · exact fun _ listed => absurd listed List.not_mem_nil
    · exact fun action listed => ⟨_, _, List.mem_singleton.mp listed⟩

theorem resume_ledger (requestId : Nat) (method : Text) (response : Members) (client : Client) :
    (resume requestId method response client).ledger = client.ledger := by
  unfold resume
  dsimp only
  split <;> rfl

/-- The stdout reader fails, or reports that it did. -/
theorem Kept.fails (kept : Kept stream labels before) {thread : Thread} {holder : Option (Party × List Action)}
    (lines : thread.lines = before.stdout.lines) (failing : thread.phase.failing ∨ thread.disposition = .failure)
    (foreign : ∀ party actions, holder = some (party, actions) → party ≠ .reader .stdout → OnlyLoses actions)
    (inside : ∀ actions, holder = some (.reader .stdout, actions) → thread.disposition = .failure)
    (marked : ∀ detail, thread.phase = .marked detail → thread.disposition = .failure)
    (disposed : thread.disposition = .failure → (∃ detail, thread.phase = .marked detail) ∨ thread.phase = .ended) :
    Kept stream (labels ++ [.quiet]) { before with stdout := thread, holder := holder } :=
  kept.turned rfl foreign kept.stderr (fun actions held => .inr (inside actions held)) marked disposed lines
    fun free => absurd (.inr failing) free

/-- A stdout reader that is looping has not failed. -/
theorem Kept.looping (kept : Kept stream labels before) (looping : before.stdout.phase = .looping) :
    before.stdout.disposition ≠ .failure :=
  kept.running (fun _ marked => by cases looping.symm.trans marked) fun ended => by cases looping.symm.trans ended

theorem kept_step (kept : Kept stream labels before) (requested : Requested labels before)
    (step : Step host floatRepr replaced before label after) : Kept stream (labels ++ [label]) after := by
  cases step with
  | perform held done => exact kept.performed held (perform_performs kept.queued done)
  | interrupted held done => exact kept.interrupted held (perform_performs kept.queued done)
  | @orphaned party requestId message rawLine rest held waits =>
    have was : before.outstanding = .hand requestId message rawLine :: (rest ++ before.stdout.phase.actions) := by
      simp [System.outstanding, System.actions, held]
    refine kept.turned rfl (fun other actions holder apart each listed => ?_) kept.stderr (fun actions holder => ?_) kept.marked
      kept.disposed rfl fun free => ⟨?_, ?_⟩
    · cases holder
      exact kept.foreign _ _ held apart each (List.mem_cons_of_mem _ listed)
    · cases holder
      exact kept.inside _ held
    · rintro (⟨each, listed, owes⟩ | failing)
      · rw [was] at listed
        rcases List.mem_cons.mp listed with rfl | listed
        · cases owes
        · exact free (.inl ⟨each, listed, owes⟩)
      · exact free (.inr failing)
    · rw [was]
      rfl
  | @leave party held =>
    have was : before.outstanding = before.stdout.phase.actions := by simp [System.outstanding, System.actions, held]
    refine kept.turned rfl (fun _ _ held => by cases held) kept.stderr (fun _ held => by cases held) kept.marked kept.disposed rfl fun free => ⟨?_, congrArg _ was.symm⟩
    rintro (⟨each, listed, owes⟩ | failing)
    · exact free (.inl ⟨each, List.mem_append_right _ (was ▸ listed), owes⟩)
    · exact free (.inr failing)
  | read looping apart lines done =>
    obtain ⟨ledger, asks⟩ := (frameActions_asks host _ before.client).returns done
    exact kept.took looping lines apart ledger (.inr ⟨_, rfl, asks⟩)
  | misread looping apart lines done =>
    exact kept.took looping lines apart ((frameActions_asks host _ before.client).raises done) (.inl ⟨_, rfl⟩)
  | readStderr => exact kept.still rfl rfl rfl rfl rfl (stderrActions_loses _ _)
  | @broken side detail looping apart =>
    cases side with
    | stdout =>
      have running := kept.looping looping
      exact kept.fails rfl (.inl trivial) kept.foreign (fun _ held => absurd ⟨_, held⟩ apart) (fun _ marked => by cases marked) fun failure => absurd failure running
    | stderr => exact kept.still rfl rfl rfl rfl rfl fun _ listed => absurd listed List.not_mem_nil
  | @enter side actions decided free =>
    cases side with
    | stdout =>
      have running := kept.running (fun _ marked => by cases decided.symm.trans marked) fun ended => by cases decided.symm.trans ended
      have was : before.outstanding = actions := by
        rw [System.outstanding, System.actions, free, show before.stdout.phase = .decided actions from decided]
        rfl
      refine kept.turned rfl (fun other listed holder apart => ?_) kept.stderr (fun _ _ => .inl rfl) (fun _ marked => by cases marked)
        (fun failure => absurd failure running) rfl fun fine => ⟨?_, ?_⟩
      · cases holder
        exact absurd rfl apart
      · rintro (⟨each, listed, owes⟩ | failing | failure)
        · exact fine (.inl ⟨each, List.mem_append_left _ (was ▸ listed), owes⟩)
        · rw [show before.stdout.phase = .decided actions from decided] at failing
          exact failing
        · exact running failure
      · rw [was]
        simp [System.outstanding, System.actions, System.withThread, Phase.actions]
    | stderr =>
      have loses := kept.stderr
      rw [show before.stderr.phase = .decided actions from decided] at loses
      exact kept.held rfl free rfl (fun own => by cases own) loses (fun _ listed => absurd listed List.not_mem_nil) rfl
  | @mark side detail failed free =>
    cases side with
    | stdout => exact kept.fails rfl (.inr rfl) kept.foreign (fun _ _ => rfl) (fun _ _ => rfl) fun _ => .inl ⟨_, rfl⟩
    | stderr => exact kept.still rfl rfl rfl rfl rfl fun _ listed => absurd listed List.not_mem_nil
  | @report side detail marked free =>
    cases side with
    | stdout =>
      have failure := kept.marked detail marked
      refine kept.fails rfl (.inr failure) (fun party actions held own => ?_) (fun _ _ => failure) (fun _ ended => by cases ended) fun _ => .inr rfl
      cases held
      exact absurd rfl own
    | stderr =>
      exact kept.held rfl free rfl (fun own => by cases own) (fun _ listed => ⟨_, _, List.mem_singleton.mp listed⟩)
        (fun _ listed => absurd listed List.not_mem_nil) rfl
  | @eof side looping free lines =>
    cases side with
    | stdout =>
      have running := kept.looping looping
      have was : before.outstanding = [] := by
        rw [System.outstanding, System.actions, free, show before.stdout.phase = .looping from looping]
        rfl
      refine kept.turned rfl kept.foreign kept.stderr (fun _ held => by cases free.symm.trans held) (fun _ ended => by cases ended)
        (fun failure => by cases failure) rfl fun fine => ⟨?_, ?_⟩
      · rintro (⟨each, listed, owes⟩ | failing | failure)
        · exact absurd (was ▸ listed) List.not_mem_nil
        · rw [show before.stdout.phase = .looping from looping] at failing
          exact failing
        · exact running failure
      · rw [was]
        simp [System.outstanding, System.actions, System.withThread, Phase.actions, free]
    | stderr => exact kept.still rfl rfl rfl rfl rfl fun _ listed => absurd listed List.not_mem_nil
  | issue | acquire | refused | send | unsent | abandoned | begin | lock | close | release | proceed | joined | checked | conclude =>
    exact kept.still rfl rfl rfl rfl rfl kept.stderr
  | pass found done => exact kept.still rfl rfl ((checkRequest_ledger _ kept.queued).returns done).1 rfl rfl kept.stderr
  | fail found done => exact kept.still rfl rfl ((checkRequest_ledger _ kept.queued).raises done) rfl rfl kept.stderr
  | answered found waits => exact kept.still rfl rfl (resume_ledger _ _ _ _) rfl rfl kept.stderr
  | @order transmission client writing free done =>
    have progress : Progress before.client [requestEnvelope transmission before.client.acquisitionOrdinal] 1 0 client :=
      (orderRequest_orders (requested.ordering _ writing) kept.queued).returns done
    refine kept.advanced progress (.inr ⟨rfl, _, rfl, rfl⟩) kept.foreign rfl rfl kept.stderr kept.inside rfl rfl
      fun lossless fine => (kept.whole (progress.losses.symm.trans lossless) fine).advanced progress (.inr ⟨rfl, _, rfl, rfl⟩) rfl rfl rfl ?_
    simp [carriedLine_request]
    rfl
  | @orderRefused transmission client writing free done =>
    have progress : Progress before.client [] 1 0 client :=
      (orderRequest_orders (requested.ordering _ writing) kept.queued).returns done
    refine kept.advanced progress (.inl rfl) (fun party actions held _ => ?_) rfl rfl kept.stderr (fun _ held => by cases held) rfl rfl
      fun _ fine => absurd ?_ fine
    · cases held
      exact fun _ listed => ⟨_, _, List.mem_singleton.mp listed⟩
    · exact .inl ⟨_, List.mem_append_left _ (List.mem_singleton_self _), rfl⟩
  | orderRaised writing free done =>
    obtain rfl := (orderRequest_orders (requested.ordering _ writing) kept.queued).raises done
    exact kept.still rfl rfl rfl rfl rfl kept.stderr
  | @got source rest envelope present taken =>
    obtain ⟨itemBytes, shape, -, -, size⟩ := ByteBoundedQueue.getNowait_some taken
    have held : before.client.envelopes = envelope :: rest.queue.map Prod.snd := by simp [Client.envelopes, present, shape]
    have moved : gotten (labels ++ [.got envelope]) ++ rest.queue.map Prod.snd = gotten labels ++ before.client.envelopes := by
      simp [gotten, held]
    have took : tookLines (labels ++ [.got envelope]) = tookLines labels := tookLines_quiet labels rfl
    refine ⟨⟨rest, rfl, ?_⟩, ?_, kept.foreign, kept.stderr, kept.inside, kept.marked, kept.disposed, ?_, fun lossless fine => ?_⟩
    · obtain ⟨other, same, sized⟩ := kept.queued
      cases present.symm.trans same
      exact size.trans sized
    · exact moved.symm ▸ kept.increasing
    · exact took.symm ▸ kept.read
    · have whole := kept.whole lossless fine
      refine ⟨moved.symm ▸ whole.complete, ?_, took.symm ▸ whole.terminated⟩
      rw [took]
      exact moved.symm ▸ whole.carried
  | proceedLossy present free goes =>
    exact kept.held rfl free rfl (fun own => by cases own) (fun _ listed => ⟨_, _, List.mem_singleton.mp listed⟩) kept.stderr rfl
  | unclean present free stage other =>
    exact kept.held rfl free rfl (fun own => by cases own) (fun _ listed => ⟨_, _, List.mem_singleton.mp listed⟩) kept.stderr rfl

/-- What a step puts into the queue goes behind what was drained or was there. -/
def Grows (labels : List Label) (label : Label) (before after : System) : Prop :=
  ∃ added, gotten (labels ++ [label]) ++ after.client.envelopes = gotten labels ++ before.client.envelopes ++ added

theorem Performs.progress {client next : Client} {action : Action} {outcome : Except ClassName (List Action)}
    (performs : Performs client action outcome next) : ∃ added drawn losses, Progress client added drawn losses next := by
  cases performs with
  | lost recorded | lossRaised recorded =>
    obtain ⟨added, drawn, progress, -⟩ := recorded
    exact ⟨_, _, _, progress⟩
  | _ => exact ⟨_, _, _, by assumption⟩

/-- What was ordered covers what was sent, when no more is sent than was being sent. -/
theorem Requested.grown (requested : Requested labels before) (grows : Grows labels label before after)
    (sent : List.Sublist (sentWires [label] ++ after.sending) before.sending) :
    List.Sublist (sentWires (labels ++ [label]) ++ after.sending)
      ((gotten (labels ++ [label]) ++ after.client.envelopes).filterMap requestedWire) := by
  obtain ⟨added, grown⟩ := grows
  rw [grown, List.filterMap_append, sentWires, List.filterMap_append, List.append_assoc]
  exact ((List.Sublist.refl _).append sent).trans (requested.sent.trans (List.sublist_append_left _ _))

/-- The writer's business after its lock has been taken from it, or has been left alone. -/
theorem Requested.released (requested : Requested labels before) (grows : Grows labels label before after)
    (waiting : after.waiting = before.waiting) (sent : sentWires [label] = [])
    (writer : after.writer = before.writer ∨ after.writer = none) : Requested (labels ++ [label]) after := by
  refine ⟨waiting ▸ requested.waiting, fun transmission writing => ?_, requested.grown grows ?_⟩
  · rcases writer with same | none
    · exact requested.ordering _ (same.symm.trans writing)
    · exact nomatch none.symm.trans writing
  · rw [sent, List.nil_append]
    rcases writer with same | none
    · unfold System.sending
      rw [same]
    · unfold System.sending
      rw [none]
      exact List.nil_sublist _

/-- The input has been closed, if nothing was lost on the way. -/
def Stage.closed : Stage → Bool
  | .lock | .close | .raised => false
  | _ => true

/-- The stdout reader has been found at its end, if nothing was lost on the way. -/
def Stage.read : Stage → Bool
  | .join .stderr | .check .stderr | .conclude | .returned _ => true
  | _ => false

structure Latched (system : System) : Prop where
  eof : system.stdout.disposition = .cleanEof → system.stdout.phase = .ended ∧ system.stdout.lines = []
  closed : ∀ quiesce, system.quiesce = some quiesce → quiesce.streamQuiesced = true → quiesce.stage.closed = true →
    system.stdinClosed = true
  read : ∀ quiesce, system.quiesce = some quiesce → quiesce.streamQuiesced = true → quiesce.stage.read = true →
    system.stdout.disposition = .cleanEof

/-- The stdout reader and the cut stay where they are. -/
theorem Latched.still (latched : Latched before) (stdout : after.stdout = before.stdout) (quiesce : after.quiesce = before.quiesce)
    (stdinClosed : after.stdinClosed = before.stdinClosed) : Latched after where
  eof := stdout ▸ latched.eof
  closed := quiesce ▸ stdinClosed ▸ latched.closed
  read := quiesce ▸ stdout ▸ latched.read

/-- The stdout reader goes on, which it has not done after a clean end. -/
theorem Latched.reading (latched : Latched before) (going : before.stdout.phase ≠ .ended)
    (eof : after.stdout.disposition = .cleanEof → after.stdout.phase = .ended ∧ after.stdout.lines = [])
    (quiesce : after.quiesce = before.quiesce) (stdinClosed : after.stdinClosed = before.stdinClosed) : Latched after where
  eof := eof
  closed := quiesce ▸ stdinClosed ▸ latched.closed
  read found present whole passed := absurd (latched.eof (latched.read found (quiesce ▸ present) whole passed)).1 going

theorem Latched.running (latched : Latched before) (going : before.stdout.phase ≠ .ended) : before.stdout.disposition ≠ .cleanEof :=
  fun clean => going (latched.eof clean).1

/-- The cut goes on. -/
theorem Latched.cutting (latched : Latched before) {next : Quiesce} (stdout : after.stdout = before.stdout)
    (goes : after.quiesce = some next)
    (closed : next.stage.closed = true → next.streamQuiesced = true → after.stdinClosed = true)
    (read : next.stage.read = true → next.streamQuiesced = true → before.stdout.disposition = .cleanEof) : Latched after where
  eof := stdout ▸ latched.eof
  closed found shown whole passed := by
    cases goes.symm.trans shown
    exact closed passed whole
  read found shown whole passed := by
    cases goes.symm.trans shown
    exact stdout ▸ read passed whole

theorem Latched.interrupt (latched : Latched before) {client : Client} {detail : Text} {party : Party} :
    Latched ({ before with client := client }.interrupt detail party) := by
  unfold System.interrupt
  cases party with
  | reader side =>
    dsimp only
    split
    next looping =>
      cases side with
      | stdout =>
        have going : before.stdout.phase ≠ .ended := fun ended => nomatch ended.symm.trans looping
        exact latched.reading going (fun clean => absurd clean (latched.running going)) rfl rfl
      | stderr => exact latched.still rfl rfl rfl
    next => exact latched.still rfl rfl rfl
  | writer =>
    dsimp only
    split <;> exact latched.still rfl rfl rfl
  | quiescer =>
    cases present : before.quiesce with
    | none => exact latched.still rfl (by simp [present]) rfl
    | some quiesce =>
      have goes : (some quiesce).map (fun quiesce : Quiesce => { quiesce with stage := .raised }) =
          some { quiesce with stage := .raised } := rfl
      exact latched.cutting rfl goes nofun nofun

/-- All that holds of a run from its start. -/
structure Sound (stream : List Bytes) (labels : List Label) (system : System) : Prop where
  kept : Kept stream labels system
  requested : Requested labels system
  latched : Latched system

/-- After a closed input nothing is sent, and what was drained or queued stays in front. -/
structure Ended (early : List Label) (queued : List AcquisitionEnvelope) (labels : List Label) (system : System) : Prop where
  closed : system.stdinClosed = true
  unsent : sentWires labels = sentWires early
  behind : ∃ added, gotten labels ++ system.client.envelopes = gotten early ++ queued ++ added

end Switchyard.AppServer
