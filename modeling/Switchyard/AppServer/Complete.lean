import Switchyard.AppServer.Custody

/-! What holds across any interleaving: ordinals increase, and while no loss has
been counted or is still owed the queue and what was drained are complete. -/

namespace Switchyard.AppServer
open Library Json

/-- The envelopes drained, in order. -/
def gotten (labels : List Label) : List AcquisitionEnvelope :=
  labels.filterMap fun
    | .got envelope => some envelope
    | _ => none

/-- The stdout lines read, in order. -/
def tookLines (labels : List Label) : List Bytes :=
  labels.filterMap fun
    | .took rawLine _ _ => some rawLine
    | _ => none

/-- The requests sent, in order. -/
def sentWires (labels : List Label) : List Bytes :=
  labels.filterMap fun
    | .sent wire => some wire
    | _ => none

def Phase.actions : Phase → List Action
  | .decided actions => actions
  | _ => []

def Phase.failing : Phase → Prop
  | .failed _ | .marked _ => True
  | _ => False

namespace System

def actions (system : System) : List Action := (system.holder.map Prod.snd).getD []

/-- What the holder of the lock and the stdout reader have still to do. -/
def outstanding (system : System) : List Action := system.actions ++ system.stdout.phase.actions

/-- A loss is still to be counted, or the stdout reader has failed. -/
def Owing (system : System) : Prop :=
  (∃ action ∈ system.outstanding, action.owes) ∨ system.stdout.phase.failing ∨ system.stdout.disposition = .failure

end System

/-- Whoever holds the lock beside the stdout reader only records losses. -/
def OnlyLoses (actions : List Action) : Prop := ∀ action ∈ actions, ∃ reason kept, action = .lose reason kept

/-- Everything that has drawn an ordinal is there, and so is every line read. -/
structure Whole (labels : List Label) (system : System) : Prop where
  complete : Complete Ordinal (gotten labels ++ system.client.envelopes) system.client.acquisitionOrdinal
  carried : (gotten labels ++ system.client.envelopes).filterMap carriedLine ++ system.outstanding.filterMap Action.line? =
    tookLines labels
  terminated : ∀ rawLine ∈ tookLines labels, rawLine.getLast? = some 10

structure Kept (stream : List Bytes) (labels : List Label) (system : System) : Prop where
  queued : system.client.Queued
  increasing : Increasing Ordinal (gotten labels ++ system.client.envelopes) system.client.acquisitionOrdinal
  foreign : ∀ party actions, system.holder = some (party, actions) → party ≠ .reader .stdout → OnlyLoses actions
  stderr : OnlyLoses system.stderr.phase.actions
  inside : ∀ actions, system.holder = some (.reader .stdout, actions) →
    system.stdout.phase = .looping ∨ system.stdout.disposition = .failure
  marked : ∀ detail, system.stdout.phase = .marked detail → system.stdout.disposition = .failure
  disposed : system.stdout.disposition = .failure → (∃ detail, system.stdout.phase = .marked detail) ∨ system.stdout.phase = .ended
  read : tookLines labels ++ system.stdout.lines = stream
  whole : system.client.lossGeneration = 0 → ¬ system.Owing → Whole labels system

variable {stream : List Bytes} {labels : List Label} {label : Label} {before after : System}

theorem OnlyLoses.unlined {actions : List Action} (loses : OnlyLoses actions) : actions.filterMap Action.line? = [] := by
  refine List.filterMap_eq_nil_iff.mpr fun action listed => ?_
  obtain ⟨reason, kept, rfl⟩ := loses action listed
  rfl

/-- The queue after progress under the labels so far. -/
theorem Kept.increased (kept : Kept stream labels before) {client : Client} {added : List AcquisitionEnvelope}
    {drawn losses : Nat} (progress : Progress before.client added drawn losses client)
    (numbered : added = [] ∨ drawn = 1 ∧ ∃ envelope, added = [envelope] ∧ Ordinal envelope before.client.acquisitionOrdinal) :
    Increasing Ordinal (gotten labels ++ client.envelopes) client.acquisitionOrdinal := by
  rw [progress.envelopes, progress.ordinal, ← List.append_assoc]
  rcases numbered with rfl | ⟨rfl, envelope, rfl, numbered⟩
  · rw [List.append_nil]
    exact kept.increasing.widen (Nat.le_add_right _ _)
  · exact kept.increasing.push numbered

theorem gotten_quiet (labels : List Label) (drained : gotten [label] = []) : gotten (labels ++ [label]) = gotten labels := by
  rw [gotten, List.filterMap_append]
  exact (congrArg _ drained).trans (List.append_nil _)

theorem tookLines_quiet (labels : List Label) (unread : tookLines [label] = []) : tookLines (labels ++ [label]) = tookLines labels := by
  rw [tookLines, List.filterMap_append]
  exact (congrArg _ unread).trans (List.append_nil _)

/-- A step that touches neither the queue nor the lock nor the stdout reader. -/
theorem Kept.still (kept : Kept stream labels before) (drained : gotten [label] = []) (unread : tookLines [label] = [])
    (ledger : after.client.ledger = before.client.ledger) (holder : after.holder = before.holder)
    (stdout : after.stdout = before.stdout) (stderr : OnlyLoses after.stderr.phase.actions) :
    Kept stream (labels ++ [label]) after := by
  obtain ⟨queue, ordinal, losses⟩ : after.client.orderedAcquisition = before.client.orderedAcquisition ∧
      after.client.acquisitionOrdinal = before.client.acquisitionOrdinal ∧
      after.client.lossGeneration = before.client.lossGeneration := by simpa [Client.ledger] using ledger
  have got := gotten_quiet labels drained
  have took := tookLines_quiet labels unread
  have envelopes : after.client.envelopes = before.client.envelopes := by unfold Client.envelopes; rw [queue]
  have outstanding : after.outstanding = before.outstanding := by
    unfold System.outstanding System.actions
    rw [holder, stdout]
  refine ⟨?_, ?_, ?_, stderr, ?_, stdout ▸ kept.marked, stdout ▸ kept.disposed, ?_, ?_⟩
  · unfold Client.Queued
    rw [queue]
    exact kept.queued
  · rw [got, envelopes, ordinal]
    exact kept.increasing
  · rw [holder]
    exact kept.foreign
  · rw [holder, stdout]
    exact kept.inside
  · rw [took, stdout]
    exact kept.read
  · intro lossless free
    have whole := kept.whole (losses.symm.trans lossless) (by
      unfold System.Owing at free ⊢
      rwa [← outstanding, ← stdout])
    refine ⟨?_, ?_, ?_⟩
    · rw [got, envelopes, ordinal]
      exact whole.complete
    · rw [got, envelopes, outstanding, took]
      exact whole.carried
    · rw [took]
      exact whole.terminated

/-- The envelopes after progress, where one of them at most is new. -/
theorem Kept.advanced (kept : Kept stream labels before) {client : Client} {added : List AcquisitionEnvelope} {drawn losses : Nat}
    (progress : Progress before.client added drawn losses client)
    (numbered : added = [] ∨ drawn = 1 ∧ ∃ envelope, added = [envelope] ∧ Ordinal envelope before.client.acquisitionOrdinal)
    (holder : ∀ party actions, after.holder = some (party, actions) → party ≠ .reader .stdout → OnlyLoses actions)
    (client' : after.client = client) (stdout : after.stdout = before.stdout) (stderr : OnlyLoses after.stderr.phase.actions)
    (inside : ∀ actions, after.holder = some (.reader .stdout, actions) →
      before.stdout.phase = .looping ∨ before.stdout.disposition = .failure)
    (drained : gotten [label] = []) (unread : tookLines [label] = [])
    (whole : client.lossGeneration = 0 → ¬ after.Owing → Whole (labels ++ [label]) after) :
    Kept stream (labels ++ [label]) after := by
  have got := gotten_quiet labels drained
  have took := tookLines_quiet labels unread
  refine ⟨?_, ?_, holder, stderr, ?_, stdout ▸ kept.marked, stdout ▸ kept.disposed, ?_, ?_⟩
  · rw [client']
    exact progress.queued
  · rw [got, client']
    exact kept.increased progress numbered
  · rw [stdout]
    exact inside
  · rw [took, stdout]
    exact kept.read
  · rw [client']
    exact whole

/-- The queue is still complete when all that was drawn an ordinal was put there, and the lines are where they were. -/
theorem Whole.advanced (whole : Whole labels before) {client : Client} {added : List AcquisitionEnvelope} {drawn losses : Nat}
    (progress : Progress before.client added drawn losses client)
    (numbered : added = [] ∧ drawn = 0 ∨ drawn = 1 ∧ ∃ envelope, added = [envelope] ∧ Ordinal envelope before.client.acquisitionOrdinal)
    (client' : after.client = client)
    (drained : gotten [label] = []) (unread : tookLines [label] = [])
    (carried : added.filterMap carriedLine ++ after.outstanding.filterMap Action.line? = before.outstanding.filterMap Action.line?) :
    Whole (labels ++ [label]) after := by
  have got := gotten_quiet labels drained
  have took := tookLines_quiet labels unread
  refine ⟨?_, ?_, ?_⟩
  · rw [got, client', progress.envelopes, progress.ordinal, ← List.append_assoc]
    rcases numbered with ⟨rfl, rfl⟩ | ⟨rfl, envelope, rfl, numbered⟩
    · rw [List.append_nil]
      exact whole.complete
    · exact whole.complete.push numbered
  · rw [got, took, client', progress.envelopes, ← List.append_assoc, List.filterMap_append, List.append_assoc, carried]
    exact whole.carried
  · rw [took]
    exact whole.terminated

/-- An action is performed under the lock. -/
theorem Kept.performed (kept : Kept stream labels before) {party : Party} {action : Action} {rest next : List Action} {client : Client}
    (held : before.holder = some (party, action :: rest)) (performs : Performs before.client action (.ok next) client) :
    Kept stream (labels ++ [.quiet]) { before with client := client, holder := some (party, next ++ rest) } := by
  by_cases own : party = .reader .stdout
  · subst own
    have foreign {other : Party} {actions : List Action} (holder : some (Party.reader .stdout, next ++ rest) = some (other, actions))
        (apart : other ≠ .reader .stdout) : OnlyLoses actions := by
      cases holder
      exact absurd rfl apart
    have was : before.outstanding = action :: (rest ++ before.stdout.phase.actions) := by
      simp [System.outstanding, System.actions, held]
    have owing (owes : ∃ each ∈ next, each.owes = true) :
        System.Owing { before with client := client, holder := some (.reader .stdout, next ++ rest) } := by
      obtain ⟨each, listed, owes⟩ := owes
      exact .inl ⟨each, by simp [System.outstanding, System.actions, listed], owes⟩
    have settled (lossless : client.lossGeneration = 0) {added : List AcquisitionEnvelope} {drawn : Nat}
        (progress : Progress before.client added drawn 0 client)
        (numbered : added = [] ∧ drawn = 0 ∨ drawn = 1 ∧ ∃ envelope, added = [envelope] ∧ Ordinal envelope before.client.acquisitionOrdinal)
        (unowed : action.owes = false) (carried : added.filterMap carriedLine ++ next.filterMap Action.line? = [action].filterMap Action.line?)
        (free : ¬ System.Owing { before with client := client, holder := some (.reader .stdout, next ++ rest) }) :
        Whole (labels ++ [.quiet]) { before with client := client, holder := some (.reader .stdout, next ++ rest) } := by
      have fresh : ¬ before.Owing := by
        rintro (⟨each, listed, owes⟩ | failing)
        · rw [was] at listed
          rcases List.mem_cons.mp listed with rfl | listed
          · exact nomatch owes.symm.trans unowed
          · exact free (.inl ⟨each, by simpa [System.outstanding, System.actions] using .inr (List.mem_append.mp listed), owes⟩)
        · exact free (.inr failing)
      refine (kept.whole (by simpa [progress.losses] using lossless) fresh).advanced progress numbered rfl rfl rfl ?_
      rw [was, ← List.singleton_append, List.filterMap_append, ← carried]
      simp [System.outstanding, System.actions]
    have inside := kept.inside _ held
    cases performs with
    | offered progress =>
      exact kept.advanced progress (.inl rfl) (fun _ _ => foreign) rfl rfl kept.stderr (fun _ _ => inside) rfl rfl
        fun lossless free => settled lossless progress (.inl ⟨rfl, rfl⟩) rfl rfl free
    | overflowed progress =>
      exact kept.advanced progress (.inl rfl) (fun _ _ => foreign) rfl rfl kept.stderr (fun _ _ => inside) rfl rfl
        fun _ free => absurd (owing ⟨_, List.mem_singleton_self _, rfl⟩) free
    | ordered progress =>
      exact kept.advanced progress (.inr ⟨rfl, _, rfl, rfl⟩) (fun _ _ => foreign) rfl rfl kept.stderr (fun _ _ => inside) rfl rfl
        fun lossless free => settled lossless progress (.inr ⟨rfl, _, rfl, rfl⟩) rfl (by simp [carriedLine_frame, Action.line?]) free
    | unordered progress =>
      exact kept.advanced progress (.inl rfl) (fun _ _ => foreign) rfl rfl kept.stderr (fun _ _ => inside) rfl rfl
        fun _ free => absurd (owing ⟨_, List.mem_singleton_self _, rfl⟩) free
    | refused progress =>
      exact kept.advanced progress (.inl rfl) (fun _ _ => foreign) rfl rfl kept.stderr (fun _ _ => inside) rfl rfl
        fun _ free => absurd (owing ⟨_, List.mem_singleton_self _, rfl⟩) free
    | lost recorded =>
      obtain ⟨added, drawn, progress, numbered⟩ := recorded
      exact kept.advanced progress numbered (fun _ _ => foreign) rfl rfl kept.stderr (fun _ _ => inside) rfl rfl
        fun lossless _ => absurd (progress.losses.symm.trans lossless) (Nat.succ_ne_zero _)
    | handed progress =>
      exact kept.advanced progress (.inl rfl) (fun _ _ => foreign) rfl rfl kept.stderr (fun _ _ => inside) rfl rfl
        fun lossless free => settled lossless progress (.inl ⟨rfl, rfl⟩) rfl rfl free
    | duplicate progress =>
      exact kept.advanced progress (.inl rfl) (fun _ _ => foreign) rfl rfl kept.stderr (fun _ _ => inside) rfl rfl
        fun _ free => absurd (owing ⟨_, List.mem_singleton_self _, rfl⟩) free
  · have loses := kept.foreign party _ held own
    obtain ⟨reason, keeps, rfl⟩ := loses action List.mem_cons_self
    cases performs with
    | lost recorded =>
      obtain ⟨added, drawn, progress, numbered⟩ := recorded
      refine kept.advanced progress numbered ?_ rfl rfl kept.stderr ?_ rfl rfl
        fun lossless _ => absurd (progress.losses.symm.trans lossless) (Nat.succ_ne_zero _)
      · intro other actions holder apart each listed
        cases holder
        exact loses each (List.mem_cons_of_mem _ listed)
      · intro actions holder
        cases holder
        exact absurd rfl own

namespace System

variable {system : System} {detail : Text} {party : Party}

theorem interrupt_holder : (system.interrupt detail party).holder = none := by
  unfold interrupt
  cases party <;> dsimp only <;> split <;> rfl

theorem interrupt_client : (system.interrupt detail party).client = system.client := by
  unfold interrupt
  cases party with
  | reader side => cases side <;> dsimp only <;> split <;> rfl
  | writer => dsimp only; split <;> rfl
  | quiescer => rfl

theorem interrupt_stdout (own : party ≠ .reader .stdout) : (system.interrupt detail party).stdout = system.stdout := by
  unfold interrupt
  cases party with
  | reader side => cases side with
    | stdout => exact absurd rfl own
    | stderr => dsimp only; split <;> rfl
  | writer => dsimp only; split <;> rfl
  | quiescer => rfl

theorem interrupt_looping (looping : system.stdout.phase = .looping) :
    (system.interrupt detail (.reader .stdout)).stdout = { system.stdout with phase := .failed detail } := by
  unfold interrupt
  simp only [thread, looping]
  rfl

theorem interrupt_idle (idle : system.stdout.phase ≠ .looping) :
    (system.interrupt detail (.reader .stdout)).stdout = system.stdout := by
  unfold interrupt
  dsimp only [thread]
  split
  next looping => exact absurd looping idle
  next => rfl

theorem interrupt_stderr (loses : OnlyLoses system.stderr.phase.actions) :
    OnlyLoses (system.interrupt detail party).stderr.phase.actions := by
  unfold interrupt
  cases party with
  | reader side => cases side with
    | stdout => dsimp only; split <;> exact loses
    | stderr =>
      dsimp only
      split
      · exact fun _ listed => absurd listed List.not_mem_nil
      · exact loses
  | writer => dsimp only; split <;> exact loses
  | quiescer => exact loses

end System

/-- The actions are dropped by an exception, and a loss has been counted or the stdout reader has failed. -/
theorem Kept.dropped (kept : Kept stream labels before) {added : List AcquisitionEnvelope} {drawn losses : Nat}
    (progress : Progress before.client added drawn losses after.client)
    (numbered : added = [] ∨ drawn = 1 ∧ ∃ envelope, added = [envelope] ∧ Ordinal envelope before.client.acquisitionOrdinal)
    (holder : after.holder = none) (stderr : OnlyLoses after.stderr.phase.actions) (lines : after.stdout.lines = before.stdout.lines)
    (marked : ∀ detail, after.stdout.phase = .marked detail → after.stdout.disposition = .failure)
    (disposed : after.stdout.disposition = .failure → (∃ detail, after.stdout.phase = .marked detail) ∨ after.stdout.phase = .ended)
    (owing : 0 < losses ∨ after.stdout.phase.failing ∨ after.stdout.disposition = .failure) :
    Kept stream (labels ++ [.quiet]) after := by
  have got : gotten (labels ++ [.quiet]) = gotten labels := by simp [gotten]
  have took : tookLines (labels ++ [.quiet]) = tookLines labels := by simp [tookLines]
  refine ⟨progress.queued, ?_, fun _ _ held => (nomatch holder.symm.trans held), stderr,
    fun _ held => (nomatch holder.symm.trans held), marked, disposed, ?_, fun lossless free => ?_⟩
  · rw [got]
    exact kept.increased progress numbered
  · rw [took, lines]
    exact kept.read
  · rcases owing with lost | failing
    · rw [progress.losses] at lossless
      omega
    · exact absurd (.inr failing) free

/-- An exception comes out of an action: the stdout reader fails, and any other party has lost something. -/
theorem Kept.interrupted (kept : Kept stream labels before) {party : Party} {action : Action} {rest : List Action}
    {className : ClassName} {client : Client} {detail : Text} (held : before.holder = some (party, action :: rest))
    (performs : Performs before.client action (.error className) client) :
    Kept stream (labels ++ [.quiet]) ({ before with client := client }.interrupt detail party) := by
  obtain ⟨added, drawn, losses, progress, numbered, lost⟩ : ∃ added drawn losses, Progress before.client added drawn losses client ∧
      (added = [] ∨ drawn = 1 ∧ ∃ envelope, added = [envelope] ∧ Ordinal envelope before.client.acquisitionOrdinal) ∧
      (OnlyLoses [action] → 0 < losses) := by
    cases performs with
    | raised progress other =>
      refine ⟨_, _, _, progress, .inl rfl, fun loses => ?_⟩
      obtain ⟨reason, keeps, same⟩ := loses action (List.mem_singleton_self _)
      exact absurd same (other reason keeps)
    | lossRaised recorded =>
      obtain ⟨added, drawn, progress, numbered⟩ := recorded
      exact ⟨_, _, _, progress, numbered, fun _ => Nat.one_pos⟩
  have progress : Progress before.client added drawn losses ({ before with client := client }.interrupt detail party).client := by
    rw [System.interrupt_client]
    exact progress
  have stderr : OnlyLoses ({ before with client := client }.interrupt detail party).stderr.phase.actions :=
    System.interrupt_stderr kept.stderr
  by_cases own : party = .reader .stdout
  · subst own
    rcases kept.inside _ held with looping | failure
    · have thread := @System.interrupt_looping { before with client := client } detail looping
      refine kept.dropped progress numbered System.interrupt_holder stderr (by rw [thread]) (by rw [thread]; exact nofun) ?_
        (.inr (.inl (by rw [thread]; trivial)))
      rw [thread]
      intro failure
      rcases kept.disposed failure with ⟨_, phase⟩ | phase <;> exact nomatch looping.symm.trans phase
    · have idle : before.stdout.phase ≠ .looping := by
        rcases kept.disposed failure with ⟨_, phase⟩ | phase <;> exact fun looping => nomatch looping.symm.trans phase
      have thread := @System.interrupt_idle { before with client := client } detail idle
      refine kept.dropped progress numbered System.interrupt_holder stderr (by rw [thread]) ?_ ?_ (.inr (.inr ?_))
      all_goals rw [thread]
      exacts [kept.marked, kept.disposed, failure]
  · have thread := @System.interrupt_stdout { before with client := client } detail party own
    have loses : OnlyLoses [action] := fun each listed =>
      kept.foreign party _ held own each (List.mem_singleton.mp listed ▸ List.mem_cons_self)
    refine kept.dropped progress numbered System.interrupt_holder stderr (by rw [thread]) ?_ ?_ (.inl (lost loses))
    all_goals rw [thread]
    exacts [kept.marked, kept.disposed]

/-- The lock or the stdout reader moves on, and the queue stays as it is. -/
theorem Kept.turned (kept : Kept stream labels before) (client : after.client = before.client)
    (foreign : ∀ party actions, after.holder = some (party, actions) → party ≠ .reader .stdout → OnlyLoses actions)
    (stderr : OnlyLoses after.stderr.phase.actions)
    (inside : ∀ actions, after.holder = some (.reader .stdout, actions) →
      after.stdout.phase = .looping ∨ after.stdout.disposition = .failure)
    (marked : ∀ detail, after.stdout.phase = .marked detail → after.stdout.disposition = .failure)
    (disposed : after.stdout.disposition = .failure → (∃ detail, after.stdout.phase = .marked detail) ∨ after.stdout.phase = .ended)
    (lines : after.stdout.lines = before.stdout.lines)
    (whole : ¬ after.Owing →
      ¬ before.Owing ∧ after.outstanding.filterMap Action.line? = before.outstanding.filterMap Action.line?) :
    Kept stream (labels ++ [.quiet]) after := by
  have got : gotten (labels ++ [.quiet]) = gotten labels := by simp [gotten]
  have took : tookLines (labels ++ [.quiet]) = tookLines labels := by simp [tookLines]
  refine ⟨client ▸ kept.queued, ?_, foreign, stderr, inside, marked, disposed, ?_, fun lossless free => ?_⟩
  · rw [got, client]
    exact kept.increasing
  · rw [took, lines]
    exact kept.read
  · obtain ⟨fresh, carried⟩ := whole free
    rw [client] at lossless
    have whole := kept.whole lossless fresh
    refine ⟨?_, ?_, took.symm ▸ whole.terminated⟩
    · rw [got, client]
      exact whole.complete
    · rw [got, took, client, carried]
      exact whole.carried

/-- Another party takes the lock, to record losses. -/
theorem Kept.held (kept : Kept stream labels before) {party : Party} {actions : List Action} (client : after.client = before.client)
    (free : before.holder = none) (holder : after.holder = some (party, actions)) (own : party ≠ .reader .stdout)
    (loses : OnlyLoses actions) (stderr : OnlyLoses after.stderr.phase.actions) (stdout : after.stdout = before.stdout) :
    Kept stream (labels ++ [.quiet]) after := by
  have was : before.outstanding = before.stdout.phase.actions := by simp [System.outstanding, System.actions, free]
  have now : after.outstanding = actions ++ before.stdout.phase.actions := by
    simp [System.outstanding, System.actions, holder, stdout]
  refine kept.turned client (fun other actions held _ => ?_) stderr (fun actions held => ?_) (stdout ▸ kept.marked)
    (stdout ▸ kept.disposed) (congrArg Thread.lines stdout) fun fine => ⟨?_, ?_⟩
  · cases holder.symm.trans held
    exact loses
  · cases holder.symm.trans held
    exact absurd rfl own
  · rintro (⟨each, listed, owes⟩ | failing)
    · exact fine (.inl ⟨each, now ▸ List.mem_append_right _ (was ▸ listed), owes⟩)
    · exact fine (.inr (stdout ▸ failing))
  · rw [now, was, List.filterMap_append, loses.unlined, List.nil_append]

theorem Kept.running (kept : Kept stream labels before) (unmarked : ∀ detail, before.stdout.phase ≠ .marked detail)
    (going : before.stdout.phase ≠ .ended) : before.stdout.disposition ≠ .failure := fun failure => by
  rcases kept.disposed failure with ⟨detail, marked⟩ | ended
  · exact unmarked detail marked
  · exact going ended

/-- A line is read, and classified or found to raise. -/
theorem Kept.took (kept : Kept stream labels before) {rawLine : Bytes} {rest : List Bytes} {phase : Phase} {client : Client}
    {echo : Option (Text × Json)} {turnId : Option Text} (looping : before.stdout.phase = .looping)
    (lines : before.stdout.lines = rawLine :: rest) (apart : ¬ before.holds (.reader .stdout)) (ledger : client.ledger = before.client.ledger)
    (asks : (∃ detail, phase = .failed detail) ∨ ∃ actions, phase = .decided actions ∧ Asks rawLine actions) :
    Kept stream (labels ++ [.took rawLine echo turnId])
      { before with client := client, stdout := { before.stdout with lines := rest, phase := phase } } := by
  obtain ⟨queue, ordinal, losses⟩ : client.orderedAcquisition = before.client.orderedAcquisition ∧
      client.acquisitionOrdinal = before.client.acquisitionOrdinal ∧ client.lossGeneration = before.client.lossGeneration := by
    simpa [Client.ledger] using ledger
  have got : gotten (labels ++ [.took rawLine echo turnId]) = gotten labels := by simp [gotten]
  have took : tookLines (labels ++ [.took rawLine echo turnId]) = tookLines labels ++ [rawLine] := by simp [tookLines]
  have envelopes : client.envelopes = before.client.envelopes := by unfold Client.envelopes; rw [queue]
  have running := kept.running (fun _ marked => nomatch looping.symm.trans marked) fun ended => nomatch looping.symm.trans ended
  have unmarked : ∀ detail, phase = .marked detail → before.stdout.disposition = .failure := fun detail marked => by
    rcases asks with ⟨_, failed⟩ | ⟨_, decided, _⟩
    · exact nomatch marked.symm.trans failed
    · exact nomatch marked.symm.trans decided
  refine ⟨?_, ?_, kept.foreign, kept.stderr, fun actions held => absurd ⟨actions, held⟩ apart, unmarked,
    fun failure => absurd failure running, ?_, fun lossless free => ?_⟩
  · unfold Client.Queued
    rw [queue]
    exact kept.queued
  · rw [got, envelopes, ordinal]
    exact kept.increasing
  · have read := kept.read
    rw [lines] at read
    rw [took, List.append_assoc]
    exact read
  · rcases asks with ⟨detail, rfl⟩ | ⟨actions, rfl, asks⟩
    · exact absurd (.inr (.inl trivial)) free
    · have was : before.outstanding = before.actions := by simp [System.outstanding, looping, Phase.actions]
      have fresh : ¬ before.Owing := by
        rintro (⟨each, listed, owes⟩ | failing | failure)
        · exact free (.inl ⟨each, List.mem_append_left _ (was ▸ listed), owes⟩)
        · rw [looping] at failing
          exact failing
        · exact running failure
      have whole := kept.whole (losses.symm.trans lossless) fresh
      rcases asks with ⟨each, listed, owes⟩ | ⟨terminated, carried⟩
      · exact absurd (.inl ⟨each, List.mem_append_right _ listed, owes⟩) free
      · refine ⟨?_, ?_, fun other listed => ?_⟩
        · rw [got, envelopes, ordinal]
          exact whole.complete
        · rw [got, took, envelopes, ← whole.carried, was]
          simp only [System.outstanding, System.actions, Phase.actions, List.filterMap_append, carried, List.append_assoc]
        · rw [took] at listed
          rcases List.mem_append.mp listed with listed | last
          · exact whole.terminated other listed
          · exact List.mem_singleton.mp last ▸ terminated

end Switchyard.AppServer
