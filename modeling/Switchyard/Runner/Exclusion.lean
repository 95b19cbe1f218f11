import Switchyard.Runner.Inspection
import Switchyard.Runner.Duplicates

/-! A provider claim and a prelaunch closure exclude each other: whichever fills the
slot of a dispatch first keeps it, and a backend is started only by the claim. -/

namespace Switchyard.Runner
open Library Json AppServer

variable {host : Host} {calendar : Calendar} {runner : Bytes}

/-- A run, or a call of `close_prelaunch` from outside, that is about to begin. -/
def Called (phase : Phase) : Prop := (∃ inputs, phase = .looking inputs) ∨ ∃ inputs closure, phase = .closing inputs closure false

/-- The dispatch that a run has claimed. -/
def Phase.owner : Phase → Option Text
  | .owning inputs _ _ => some inputs.dispatch
  | _ => none

/-- The dispatch whose backend a run has yet to start. -/
def Phase.armed : Phase → Option Text
  | .owning inputs _ true => some inputs.dispatch
  | _ => none

def Label.starts : Label → Option Text
  | .started dispatch => some dispatch
  | _ => none

/-- What a step does to the row of one dispatch. -/
inductive Touches (host : Host) (calendar : Calendar) (dispatch : Text) (store : RunStore) (phase : Phase) :
    Label → RunStore → Phase → Prop
  | kept {label : Label} {after : RunStore} {next : Phase} : after.find dispatch = store.find dispatch →
      (next.owner = some dispatch → phase.owner = some dispatch) → Touches host calendar dispatch store phase label after next
  | claimed {inputs : Inputs} {record : Members} {after : RunStore} {row : Row} : store.find dispatch = none →
      after.find dispatch = some row → Follows inputs record → canonical host (.obj record) = .ok row.record →
      Touches host calendar dispatch store phase (.claimed inputs store (.ok (record, true))) after (.owning inputs record true)
  | closed {inputs : Inputs} {closure : Members} {after : RunStore} {row : Row} {next : Phase} : inputs.dispatch = dispatch →
      store.find dispatch = none → after.find dispatch = some row → Prelaunch host calendar inputs closure row → next.owner = none →
      Touches host calendar dispatch store phase (.closed inputs closure store (.ok ())) after next
  | updated {inputs : Inputs} {record : Members} {raw : Bytes} {after : RunStore} {next : Phase} : phase.owner = some dispatch →
      Follows inputs record → canonical host (.obj record) = .ok raw →
      after.find dispatch = (store.find dispatch).map (Row.written dispatch raw) →
      Touches host calendar dispatch store phase (.updated record) after next

private theorem Inserted.other {inputs : Inputs} {record : Members} {store after : RunStore} {dispatch : Text}
    (inserted : RunStore.Inserted host inputs record store after) (differ : inputs.dispatch ≠ dispatch) :
    after.find dispatch = store.find dispatch := by
  obtain ⟨row, exactly, -, rows⟩ := inserted.row
  rw [RunStore.find_append rows, if_neg (exactly.dispatch ▸ differ), Option.or_none]

theorem Phase.Step.touches {store after : RunStore} {phase next : Phase} {label : Label}
    (step : Phase.Step host calendar runner store phase label after next) (dispatch : Text) :
    Touches host calendar dispatch store phase label after next := by
  cases step with
  | @look inputs =>
    refine .kept rfl fun owner => ?_
    split at owner <;> cases owner
  | @survey inputs machine =>
    refine .kept rfl fun owner => ?_
    split at owner <;> cases owner
  | @build inputs now =>
    refine .kept rfl fun owner => ?_
    split at owner <;> cases owner
  | @claim _ inputs occurrence outcome result =>
    have meets := @RunStore.claim_meets host inputs occurrence store
    cases outcome with
    | error className => exact .kept (by rw [meets.raises result]) nofun
    | ok claimed =>
      rcases meets.returns result with ⟨rfl, inserted⟩ | ⟨old, rfl, -⟩
      · by_cases same : inputs.dispatch = dispatch
        · obtain ⟨row, found, -, spelled⟩ := inserted.find
          subst same
          exact .claimed inserted.free found (claimRecord_follows inputs occurrence) spelled
        · exact .kept (Inserted.other inserted same) fun owner => absurd (Option.some.inj owner) same
      · obtain ⟨record, fresh⟩ := claimed
        cases old
        exact .kept rfl nofun
  | @close _ inputs closure observed outcome result =>
    have unowned : (if outcome.isOk && observed then Phase.rereading inputs else .done).owner = none := by
      split <;> rfl
    have meets := @RunStore.closePrelaunch_meets host calendar inputs closure store
    cases outcome with
    | error className =>
      refine .kept (by rw [meets.raises result]) fun owner => ?_
      rw [unowned] at owner
      cases owner
    | ok _ =>
      obtain ⟨closes, inserted | ⟨rfl, -⟩⟩ := meets.returns result
      · by_cases same : inputs.dispatch = dispatch
        · obtain ⟨row, found, exactly, spelled⟩ := inserted.find
          subst same
          exact .closed rfl inserted.free found ⟨exactly, closes, spelled⟩ unowned
        · refine .kept (Inserted.other inserted same) fun owner => ?_
          rw [unowned] at owner
          cases owner
      · refine .kept rfl fun owner => ?_
        rw [unowned] at owner
        cases owner
  | reread => exact .kept rfl nofun
  | start => exact .kept rfl id
  | @update _ inputs record next ready outcome follows result =>
    have meets := @RunStore.update_meets host inputs.dispatch next store
    cases outcome with
    | error className => exact .kept (by rw [meets.raises result]) id
    | ok _ =>
      obtain ⟨raw, spelled, rfl⟩ := meets.returns result
      have found := RunStore.find_written store inputs.dispatch dispatch raw
      by_cases same : inputs.dispatch = dispatch
      · subst same
        exact .updated rfl follows spelled found
      · refine .kept ?_ id
        rw [found]
        cases present : store.find dispatch with
        | none => rfl
        | some row =>
          have named := RunStore.find_dispatch present
          have apart : ¬ row.dispatch = inputs.dispatch := fun equal => same (equal.symm.trans named)
          rw [Option.map_some, Row.written, if_neg apart]
  | fault | stop => exact .kept rfl nofun

private theorem Phase.Step.arms {store after : RunStore} {phase next : Phase} {label : Label}
    (step : Phase.Step host calendar runner store phase label after next) {dispatch : Text} (armed : next.armed = some dispatch) :
    label.starts ≠ some dispatch ∧ (phase.armed = some dispatch ∨ store.find dispatch = none) := by
  cases step with
  | look => split at armed <;> cases armed
  | survey => split at armed <;> cases armed
  | build => split at armed <;> cases armed
  | close => split at armed <;> cases armed
  | reread | fault | stop | start => cases armed
  | @claim _ inputs occurrence outcome result =>
    refine ⟨nofun, .inr ?_⟩
    split at armed
    · next record =>
      obtain rfl := Option.some.inj armed
      have meets := @RunStore.claim_meets host inputs occurrence store
      rcases meets.returns result with ⟨-, inserted⟩ | ⟨old, -⟩
      · exact inserted.free
      · cases old
    · cases armed
  | @update _ inputs record next ready outcome follows result =>
    refine ⟨?_, .inl ?_⟩
    · split <;> nofun
    · cases ready with
      | true => exact armed
      | false => cases armed

private theorem Phase.Step.spends {store after : RunStore} {phase next : Phase} {label : Label}
    (step : Phase.Step host calendar runner store phase label after next) {dispatch : Text} (starts : label.starts = some dispatch) :
    phase.armed = some dispatch := by
  cases step with
  | start => exact starts
  | update => split at starts <;> cases starts
  | _ => cases starts

private theorem Phase.armed_owner {phase : Phase} {dispatch : Text} (armed : phase.armed = some dispatch) :
    phase.owner = some dispatch := by
  unfold Phase.armed at armed
  split at armed
  · exact armed
  · cases armed

private theorem Called.owner {phase : Phase} (called : Called phase) : phase.owner = none := by
  rcases called with ⟨inputs, rfl⟩ | ⟨inputs, closure, rfl⟩ <;> rfl

/-- How runs hold dispatches: a claim takes the slot for good, and its run starts one backend. -/
def custody (host : Host) (calendar : Calendar) (runner : Bytes) :
    Pool.Discipline Called .quiet (Phase.Step host calendar runner) Text where
  owner := Phase.owner
  armed := Phase.armed
  taken store dispatch := (store.find dispatch).isSome
  uses := Label.starts
  newborn _ called := called.owner
  silent := rfl
  armedOwns _ _ := Phase.armed_owner
  lasting store phase label after next step dispatch taken := by
    cases step.touches dispatch with
    | kept same _ => rwa [same]
    | claimed _ found | closed _ _ found => rw [found]; rfl
    | updated _ _ _ found => rwa [found, Option.isSome_map]
  acquires store phase label after next step dispatch owner := by
    cases step.touches dispatch with
    | kept _ owned => exact .inl (owned owner)
    | claimed free found => exact .inr ⟨by simp [free], by simp [found]⟩
    | closed _ _ _ _ unowned => cases unowned.symm.trans owner
    | updated owned => exact .inl owned
  arms store phase label after next step dispatch armed := by
    obtain ⟨kept, source⟩ := step.arms armed
    refine ⟨kept, source.imp_right fun free => ?_⟩
    simp [free]
  spends store phase label after next step dispatch starts := step.spends starts

/-- The dispatch retains the record of a run. -/
def Claimed (host : Host) (labels : List Label) (dispatch : Text) (store : RunStore) : Prop :=
  ∃ row record, store.find dispatch = some row ∧ (∃ label ∈ labels, .obj record ∈ label.writes) ∧
    (∃ state ∈ RUN_STATES, get record "state" = .str (text state)) ∧ canonical host (.obj record) = .ok row.record

/-- The dispatch was closed while it was free, by these inputs and this closure. -/
structure Closing (host : Host) (calendar : Calendar) (labels : List Label) (dispatch : Text) (inputs : Inputs) (closure : Members)
    (row : Row) : Prop where
  dispatch : inputs.dispatch = dispatch
  label : ∃ seen, Label.closed inputs closure seen (.ok ()) ∈ labels ∧ seen.find inputs.dispatch = none
  prelaunch : Prelaunch host calendar inputs closure row

/-- No run owns the dispatch or has started its backend. -/
structure Unclaimed (dispatch : Text) (labels : List Label) (pool : Pool RunStore Phase) : Prop where
  owner : ∀ process ∈ pool.processes, process.owner ≠ some dispatch
  starts : ∀ label ∈ labels, label.starts ≠ some dispatch

/-- What occupies the slots: runs, or closures of dispatches that no run has claimed. -/
def Occupied (host : Host) (calendar : Calendar) (labels : List Label) (pool : Pool RunStore Phase) : Prop :=
  ∀ dispatch row, pool.store.find dispatch = some row → Claimed host labels dispatch pool.store ∨
    (∃ inputs closure, Closing host calendar labels dispatch inputs closure row) ∧ Unclaimed dispatch labels pool

section
variable {labels : List Label} {label : Label} {before after : Pool RunStore Phase} {dispatch : Text}

theorem Claimed.written {store : RunStore} {row : Row} {record : Members} (found : store.find dispatch = some row)
    (writes : .obj record ∈ label.writes) (state : ∃ state ∈ RUN_STATES, get record "state" = .str (text state))
    (spelled : canonical host (.obj record) = .ok row.record) : Claimed host (labels ++ [label]) dispatch store :=
  ⟨row, record, found, ⟨label, by simp, writes⟩, state, spelled⟩

/-- A step on a claimed dispatch leaves it claimed. -/
theorem Claimed.step (claimed : Claimed host labels dispatch before.store)
    (step : Calls.Step host calendar runner Called before label after) : Claimed host (labels ++ [label]) dispatch after.store := by
  obtain ⟨row, record, found, ⟨other, listed, writes⟩, state, spelled⟩ := claimed
  have kept {store : RunStore} (found : store.find dispatch = some row) : Claimed host (labels ++ [label]) dispatch store :=
    ⟨row, record, found, ⟨other, List.mem_append_left _ listed, writes⟩, state, spelled⟩
  cases step with
  | birth _ => exact kept found
  | @act store after processes index phase next label present acted =>
    cases acted.touches dispatch with
    | kept same _ => exact kept (same.trans found)
    | claimed free | closed _ free =>
      dsimp only at found
      rw [free] at found
      cases found
    | @updated inputs record raw _ _ _ follows spelled written =>
      have named := RunStore.find_dispatch found
      have now : after.find dispatch = some { row with record := raw } := by
        rw [written, found, Option.map_some, Row.written, if_pos named]
      exact .written now (by simp [Label.writes]) follows.state spelled

/-- A step next to an unclaimed dispatch leaves it unclaimed, unless it claims it. -/
private theorem Unclaimed.step {store after : RunStore} {processes : List Phase} {index : Nat} {phase next : Phase}
    (unclaimed : Unclaimed dispatch labels ⟨store, processes⟩) (present : processes[index]? = some phase)
    (acted : Phase.Step host calendar runner store phase label after next)
    (owns : next.owner = some dispatch → phase.owner = some dispatch) :
    Unclaimed dispatch (labels ++ [label]) ⟨after, processes.set index next⟩ := by
  have unowned := unclaimed.owner phase (List.mem_of_getElem? present)
  refine ⟨fun process listed owner => ?_, fun other listed starts => ?_⟩
  · rcases List.mem_or_eq_of_mem_set listed with early | rfl
    · exact unclaimed.owner process early owner
    · exact unowned (owns owner)
  · rcases List.mem_append.mp listed with early | last
    · exact unclaimed.starts other early starts
    · rw [List.mem_singleton.mp last] at starts
      exact unowned (Phase.armed_owner (acted.spends starts))

private theorem Unclaimed.birth {store : RunStore} {processes : List Phase} {phase : Phase}
    (unclaimed : Unclaimed dispatch labels ⟨store, processes⟩) (called : Called phase) :
    Unclaimed dispatch (labels ++ [.quiet]) ⟨store, processes ++ [phase]⟩ := by
  refine ⟨fun process listed owner => ?_, fun other listed starts => ?_⟩
  · rcases List.mem_append.mp listed with early | last
    · exact unclaimed.owner process early owner
    · rw [List.mem_singleton.mp last, called.owner] at owner
      cases owner
  · rcases List.mem_append.mp listed with early | last
    · exact unclaimed.starts other early starts
    · rw [List.mem_singleton.mp last] at starts
      cases starts

/-- A free slot is unclaimed. -/
private theorem Unclaimed.free {pool : Pool RunStore Phase} (exclusive : (custody host calendar runner).Exclusive labels pool)
    (free : pool.store.find dispatch = none) : Unclaimed dispatch labels pool := by
  have untaken : ¬ (custody host calendar runner).taken pool.store dispatch := by
    show ¬ (pool.store.find dispatch).isSome = true
    rw [free]
    nofun
  refine ⟨fun process listed owner => untaken (exclusive.owned process listed dispatch owner), fun label listed starts => ?_⟩
  refine untaken (exclusive.used dispatch fun none => ?_)
  have counted := List.countP_eq_zero.mp none label listed
  exact counted (decide_eq_true starts)

private theorem Closing.mono {inputs : Inputs} {closure : Members} {row : Row}
    (closing : Closing host calendar labels dispatch inputs closure row) :
    Closing host calendar (labels ++ [label]) dispatch inputs closure row := by
  obtain ⟨seen, listed, free⟩ := closing.label
  exact ⟨closing.dispatch, ⟨seen, List.mem_append_left _ listed, free⟩, closing.prelaunch⟩

theorem Occupied.step (exclusive : (custody host calendar runner).Exclusive labels before)
    (occupied : Occupied host calendar labels before) (step : Calls.Step host calendar runner Called before label after) :
    Occupied host calendar (labels ++ [label]) after := by
  intro dispatch row found
  have whole := step
  cases step with
  | @birth store processes phase called =>
    rcases occupied dispatch row found with claimed | ⟨⟨inputs, closure, closing⟩, unclaimed⟩
    · exact .inl (claimed.step whole)
    · exact .inr ⟨⟨inputs, closure, closing.mono⟩, unclaimed.birth called⟩
  | @act store after processes index phase next label present acted =>
    have listed : phase ∈ processes := List.mem_of_getElem? present
    cases acted.touches dispatch with
    | kept same owns =>
      rcases occupied dispatch row (same.symm.trans found) with claimed | ⟨⟨inputs, closure, closing⟩, unclaimed⟩
      · exact .inl (claimed.step whole)
      · exact .inr ⟨⟨inputs, closure, closing.mono⟩, unclaimed.step present acted owns⟩
    | @claimed inputs record _ other free opened follows spelled =>
      exact .inl (.written opened (by simp [Label.writes]) follows.state spelled)
    | @closed inputs closure _ other _ same free opened prelaunch unowned =>
      obtain rfl := Option.some.inj (opened.symm.trans found)
      refine .inr ⟨⟨inputs, closure, same, ⟨store, by simp, by rw [same]; exact free⟩, prelaunch⟩, ?_⟩
      refine (Unclaimed.free exclusive free).step present acted fun owner => ?_
      cases unowned.symm.trans owner
    | @updated inputs record raw _ _ owned follows spelled written =>
      dsimp only at found
      rw [written] at found
      obtain ⟨old, early, rfl⟩ := Option.map_eq_some_iff.mp found
      rcases occupied dispatch old early with claimed | ⟨-, unclaimed⟩
      · exact .inl (claimed.step whole)
      · exact absurd owned (unclaimed.owner phase listed)

end

/-- The row says that its dispatch was closed. -/
def Row.Closed (host : Host) (row : Row) : Prop :=
  ∃ members, loads host row.record = .ok (.obj members) ∧ is (get members "state") "PRELAUNCH_CLOSED" = true

/-- A later run with the same inputs returns this record. -/
def Label.Returns (inputs : Inputs) (members : Members) : Label → Prop
  | .looked other _ outcome => other = inputs → outcome = .ok (some members)
  | _ => True

section
variable {inputs : Inputs} {closure : Members} {row : Row} {store : RunStore}

/-- The exact inputs read the closure back. -/
theorem Prelaunch.lookup (prelaunch : Prelaunch host calendar inputs closure row) {members : Members}
    (loaded : loads host row.record = .ok (.obj members)) (restored : Restored host (.obj members) (.obj (closureRecord inputs closure)))
    (found : store.find inputs.dispatch = some row) : store.lookup host inputs = .ok (some members) := by
  have same := (restored.get "dispatch_record").equal
  rw [closureRecord_dispatchRecord] at same
  simp only [RunStore.lookup, found, prelaunch.exactly.request, prelaunch.exactly.backend, Row.retained, prelaunch.exactly.brief,
    loaded, same, if_true, bind, Except.bind]
  rfl

private theorem closureRecord_closure (inputs : Inputs) (closure : Members) :
    get (closureRecord inputs closure) "prelaunch_closure" = .obj closure ∧
      get (closureRecord inputs closure) "state" = .str (text "PRELAUNCH_CLOSED") := by
  simp [closureRecord, get_object_cons]

private theorem restored_closure {members : Members} (restored : Restored host (.obj members) (.obj (closureRecord inputs closure))) :
    equal (get members "prelaunch_closure") (.obj closure) = true ∧ is (get members "state") "PRELAUNCH_CLOSED" = true := by
  obtain ⟨shown, state⟩ := closureRecord_closure inputs closure
  have closed := (restored.get "prelaunch_closure").equal
  have same := (restored.get "state").equal
  rw [shown] at closed
  rw [state] at same
  exact ⟨closed, same⟩

/-- A closure that succeeds on a free slot fills it. -/
private theorem closePrelaunch_filled {after : RunStore} (free : store.find inputs.dispatch = none)
    (result : RunStore.closePrelaunch host calendar inputs closure store = (.ok (), after)) :
    ∃ row, after.find inputs.dispatch = some row ∧ Prelaunch host calendar inputs closure row := by
  have meets := @RunStore.closePrelaunch_meets host calendar inputs closure store
  obtain ⟨closes, inserted | ⟨-, prior, looked, -⟩⟩ := meets.returns result
  · obtain ⟨row, found, exactly, spelled⟩ := inserted.find
    exact ⟨row, found, exactly, closes, spelled⟩
  · rw [RunStore.lookup_none.mpr free] at looked
    cases looked

/-- A call that cannot succeed raises and leaves the store as it was. -/
private theorem closePrelaunch_refused (taken : store.find inputs.dispatch ≠ none)
    (refused : ∀ prior, store.lookup host inputs = .ok (some prior) → isClosure prior closure = false) :
    ∃ className, RunStore.closePrelaunch host calendar inputs closure store = (.error className, store) := by
  have meets := @RunStore.closePrelaunch_meets host calendar inputs closure store
  rcases result : RunStore.closePrelaunch host calendar inputs closure store with ⟨outcome, after⟩
  cases outcome with
  | error className => exact ⟨className, by rw [meets.raises result]⟩
  | ok _ =>
    obtain ⟨-, inserted | ⟨-, prior, looked, same⟩⟩ := meets.returns result
    · exact absurd inserted.free taken
    · rw [refused prior looked] at same
      cases same

end

/-- What a closed dispatch keeps: its row, what its exact inputs read, and what further closures
and inspections of it do. -/
structure Fenced (host : Host) (calendar : Calendar) (inputs : Inputs) (closure : Members) (row : Row) (first last : RunStore)
    (later : List Label) : Prop where
  row : last.find inputs.dispatch = some row
  looks : ∃ members, (∀ label ∈ later, label.Returns inputs members) ∧ last.lookup host inputs = .ok (some members) ∧
    Restored host (.obj members) (.obj (closureRecord inputs closure))
  repeats : RunStore.closePrelaunch host calendar inputs closure last = (.ok (), last)
  conflicts : ∀ (others : Inputs) (other : Members), others.dispatch = inputs.dispatch → equal (.obj other) (.obj closure) = false →
    ∃ className, RunStore.closePrelaunch host calendar others other last = (.error className, last)
  inspects : ∀ replayed, ∃ kept, RunStore.inspectPrelaunch host calendar replayed first last inputs.dispatch = .ok kept ∧
    equal (.obj kept) (.obj closure) = true ∧ canonical host (.obj kept) = canonical host (.obj closure)

section
variable {labels later : List Label} {pool last : Pool RunStore Phase} {dispatch : Text} {inputs : Inputs} {closure members : Members}
  {row : Row}

/-- Where a closure occupies the slot it stays, and a run that comes later reads it. -/
private theorem Closing.stays (closing : Closing host calendar labels dispatch inputs closure row)
    (found : pool.store.find dispatch = some row) (unclaimed : Unclaimed dispatch labels pool)
    (loaded : loads host row.record = .ok (.obj members)) (restored : Restored host (.obj members) (.obj (closureRecord inputs closure)))
    (rest : Run (Calls.Step host calendar runner Called) pool later last) :
    last.store.find dispatch = some row ∧ Unclaimed dispatch (labels ++ later) last ∧
      ∀ label ∈ later, label.Returns inputs members := by
  refine rest.invariant (fun later pool => pool.store.find dispatch = some row ∧ Unclaimed dispatch (labels ++ later) pool ∧
    ∀ label ∈ later, label.Returns inputs members) ⟨found, by rwa [List.append_nil], nofun⟩ ?_
  rintro later before label after - ⟨found, unclaimed, returns⟩ step
  rw [← List.append_assoc]
  have extend {label : Label} (here : label.Returns inputs members) : ∀ other ∈ later ++ [label], other.Returns inputs members := by
    intro other listed
    rcases List.mem_append.mp listed with early | last
    · exact returns other early
    · exact List.mem_singleton.mp last ▸ here
  cases step with
  | birth called => exact ⟨found, unclaimed.birth called, extend trivial⟩
  | @act store after processes index phase next label present acted =>
    have here : label.Returns inputs members := by
      cases acted with
      | @look other =>
        rintro rfl
        exact closing.prelaunch.lookup loaded restored (closing.dispatch ▸ found)
      | update => split <;> trivial
      | _ => trivial
    cases acted.touches dispatch with
    | kept same owns => exact ⟨same.trans found, unclaimed.step present acted owns, extend here⟩
    | claimed free | closed _ free =>
      dsimp only at found
      rw [free] at found
      cases found
    | updated owned => exact absurd owned (unclaimed.owner phase (List.mem_of_getElem? present))

/-- A claimed row does not say that its dispatch was closed. -/
private theorem Claimed.reads {store : RunStore} (claimed : Claimed host labels dispatch store)
    (decoded : ∀ label ∈ labels, ∀ value ∈ label.writes, Restores host value) : ∃ row members, store.find dispatch = some row ∧
      loads host row.record = .ok (.obj members) ∧ is (get members "state") "PRELAUNCH_CLOSED" = false := by
  obtain ⟨row, record, found, ⟨label, listed, writes⟩, ⟨state, known, shown⟩, spelled⟩ := claimed
  obtain ⟨members, loaded, restored⟩ := loads_restored (decoded label listed _ writes) spelled
  refine ⟨row, members, found, loaded, ?_⟩
  have kept : get members "state" = .str (text state) := by
    refine ((restored.get "state").plain ?_).trans shown
    rw [shown]
    rfl
  rw [kept]
  revert known
  simp only [RUN_STATES, List.mem_cons, List.not_mem_nil, or_false]
  rintro (rfl | rfl | rfl | rfl | rfl) <;> decide

/-- A claimed dispatch refuses every closure. -/
private theorem Claimed.refuses {store : RunStore} (claimed : Claimed host labels dispatch store)
    (decoded : ∀ label ∈ labels, ∀ value ∈ label.writes, Restores host value) (named : inputs.dispatch = dispatch) :
    ∃ className, RunStore.closePrelaunch host calendar inputs closure store = (.error className, store) := by
  obtain ⟨row, members, found, loaded, state⟩ := claimed.reads decoded
  subst named
  refine closePrelaunch_refused (by rw [found]; nofun) fun prior looked => ?_
  obtain ⟨other, present, -, again, -⟩ := RunStore.lookup_ok looked
  obtain rfl := Option.some.inj (found.symm.trans present)
  obtain rfl : members = prior := by simpa using loaded.symm.trans again
  rw [isClosure, state, Bool.false_and]

/-- Every step of a run keeps what occupies the slots. -/
private theorem occupied_run (run : Run (Calls.Step host calendar runner Called) ⟨⟨[]⟩, []⟩ labels pool) :
    Occupied host calendar labels pool := by
  refine run.invariant (Occupied host calendar) (fun dispatch row found => by cases found) ?_
  intro labels before label after early occupied step
  exact occupied.step ((custody host calendar runner).exclusive_run early) step

/-- What a closed dispatch keeps for good. -/
private theorem Closing.fenced (closing : Closing host calendar labels dispatch inputs closure row)
    (found : pool.store.find dispatch = some row) (unclaimed : Unclaimed dispatch labels pool)
    (rest : Run (Calls.Step host calendar runner Called) pool later last)
    (decoded : ∀ value ∈ [.obj inputs.request, .obj inputs.backend, .obj (closureRecord inputs closure)], Restores host value)
    (stable : ∀ value ∈ [.obj inputs.request, .obj inputs.backend, .obj (closureRecord inputs closure)], Stable host value) :
    Unclaimed dispatch (labels ++ later) last ∧ Fenced host calendar inputs closure row pool.store last.store later := by
  obtain ⟨members, loaded, restored⟩ := closing.prelaunch.reads (decoded _ (by simp))
  obtain ⟨kept, free, returns⟩ := closing.stays found unclaimed loaded restored rest
  obtain ⟨same, state⟩ := restored_closure restored
  have named := closing.dispatch
  subst named
  have looked := closing.prelaunch.lookup loaded restored kept
  refine ⟨free, kept, ⟨members, returns, looked, restored⟩, ?_, ?_, ?_⟩
  · rw [RunStore.closePrelaunch_prior closing.prelaunch.closes looked, isClosure, state, same]
    rfl
  · intro others other named differs
    refine closePrelaunch_refused (by rw [named, kept]; exact Option.some_ne_none _) fun prior again => ?_
    obtain ⟨held, present, -, read, -⟩ := RunStore.lookup_ok again
    rw [named] at present
    obtain rfl := Option.some.inj (kept.symm.trans present)
    obtain rfl : members = prior := by simpa using loaded.symm.trans read
    rw [isClosure, state, Bool.true_and]
    by_contra equal
    rw [Bool.not_eq_false] at equal
    have both := equal_trans _ _ _ (equal_symm _ _ equal) same
    rw [both] at differs
    cases differs
  · intro replayed
    obtain ⟨kept, inspected, again⟩ := inspectPrelaunch_ok closing.prelaunch decoded stable replayed found kept
    refine ⟨kept, inspected, again.equal, ?_⟩
    have inner : Stable host (.obj closure) :=
      stableMembers_iff.mp (stable (.obj (closureRecord inputs closure)) (by simp)) (text "prelaunch_closure", .obj closure)
        (by simp [closureRecord, object])
    simp only [canonical, again.dumps inner]

end

/-- A claim and a closure exclude each other over the whole history, and each dispatch starts one backend,
as long as all that is written has one canonical form. -/
theorem prelaunch_exclusion {labels later : List Label} {pool last : Pool RunStore Phase}
    (run : Run (Calls.Step host calendar runner Called) ⟨⟨[]⟩, []⟩ labels pool)
    (rest : Run (Calls.Step host calendar runner Called) pool later last)
    (decoded : ∀ label ∈ labels ++ later, ∀ value ∈ label.writes, Restores host value)
    (stable : ∀ label ∈ labels ++ later, ∀ value ∈ label.writes, Stable host value) :
    (∀ dispatch, (labels ++ later).countP (fun label => label.starts = some dispatch) ≤ 1) ∧
      ∀ dispatch row, pool.store.find dispatch = some row →
        (row.Closed host → (∀ label ∈ labels ++ later, label.starts ≠ some dispatch) ∧ ∃ inputs closure,
          inputs.dispatch = dispatch ∧ (∃ seen, .closed inputs closure seen (.ok ()) ∈ labels ∧ seen.find dispatch = none) ∧
          Fenced host calendar inputs closure row pool.store last.store later) ∧
        (¬ row.Closed host → ∀ inputs closure, inputs.dispatch = dispatch →
          ∃ className, RunStore.closePrelaunch host calendar inputs closure last.store = (.error className, last.store)) := by
  have early : ∀ label ∈ labels, ∀ value ∈ label.writes, Restores host value :=
    fun label listed => decoded label (List.mem_append_left _ listed)
  refine ⟨((custody host calendar runner).exclusive_run (run.append rest)).once, fun dispatch row found => ?_⟩
  rcases occupied_run run dispatch row found with claimed | ⟨⟨inputs, closure, closing⟩, unclaimed⟩
  · refine ⟨?_, fun _ inputs closure named => ?_⟩
    · rintro ⟨members, loaded, state⟩
      obtain ⟨other, others, present, again, open'⟩ := claimed.reads early
      obtain rfl := Option.some.inj (found.symm.trans present)
      obtain rfl : members = others := by simpa using loaded.symm.trans again
      rw [open'] at state
      cases state
    · have still : Claimed host (labels ++ later) dispatch last.store := by
        refine rest.invariant (fun later pool => Claimed host (labels ++ later) dispatch pool.store) (by rwa [List.append_nil]) ?_
        intro later before label after _ claimed step
        rw [← List.append_assoc]
        exact claimed.step step
      exact still.refuses decoded named
  · obtain ⟨seen, listed, free⟩ := closing.label
    have writes : Label.writes (.closed inputs closure seen (.ok ())) =
        [.obj inputs.request, .obj inputs.backend, .obj (closureRecord inputs closure)] := by
      simp [Label.writes, free]
    have restores := early _ listed
    have stables := stable _ (List.mem_append_left _ listed)
    rw [writes] at restores stables
    obtain ⟨free', fenced⟩ := closing.fenced found unclaimed rest restores stables
    refine ⟨fun _ => ⟨free'.starts, inputs, closure, closing.dispatch, ⟨seen, listed, closing.dispatch ▸ free⟩, fenced⟩, ?_⟩
    intro open'
    obtain ⟨members, loaded, restored⟩ := closing.prelaunch.reads (restores _ (by simp))
    exact absurd ⟨members, loaded, (restored_closure restored).2⟩ open'

/-- A host that knows these digests, and whose decoder knows one request, one backend and one record by how they begin. -/
def closureHost (digests : List (Nat × Nat)) (request backend record : Members) : Host := { plainHost with
  sha256 := digestTable digests
  loads := fun raw => .ok (.obj (if raw.take 4 = ascii "\x7b\"ad" then request
    else if raw.take 4 = ascii "\x7b\"ac" then record else backend)) }

def sampleHost : Host :=
  closureHost inputDigests sampleInputs.request sampleInputs.backend (closureRecord sampleInputs sampleClosure)

private theorem sample_closes {after : RunStore} {outcome : Except ClassName Unit}
    (result : RunStore.closePrelaunch sampleHost sampleCalendar sampleInputs sampleClosure ⟨[]⟩ = (outcome, after)) : outcome = .ok () := by
  have closed : (RunStore.closePrelaunch sampleHost sampleCalendar sampleInputs sampleClosure ⟨[]⟩).1.isOk = true := by decide +kernel
  rw [result] at closed
  cases outcome with
  | ok _ => rfl
  | error className => cases closed

private theorem sample_exactly : ∀ value ∈ [.obj sampleInputs.request, .obj sampleInputs.backend,
    .obj (closureRecord sampleInputs sampleClosure)], exactly value = true := by
  decide

private theorem sample_restores : ∀ value ∈ [.obj sampleInputs.request, .obj sampleInputs.backend,
    .obj (closureRecord sampleInputs sampleClosure)], Restores sampleHost value := by
  exact restores_checked sample_exactly (by decide +kernel)

/-- A closure of a dispatch that nobody has claimed is retained, a run that comes later reads it, and no backend starts. -/
theorem prelaunch_exclusion_sample : ∃ labels later pool last row inputs closure members,
    Run (Calls.Step sampleHost sampleCalendar [] Called) ⟨⟨[]⟩, []⟩ labels pool ∧
      Run (Calls.Step sampleHost sampleCalendar [] Called) pool later last ∧
      .looked sampleInputs pool.store (.ok (some members)) ∈ later ∧ inputs.dispatch = sampleInputs.dispatch ∧
      Fenced sampleHost sampleCalendar inputs closure row pool.store last.store later := by
  rcases result : RunStore.closePrelaunch sampleHost sampleCalendar sampleInputs sampleClosure ⟨[]⟩ with ⟨outcome, after⟩
  obtain rfl := sample_closes result
  have birth : Calls.Step sampleHost sampleCalendar [] Called ⟨⟨[]⟩, []⟩ .quiet ⟨⟨[]⟩, [.closing sampleInputs sampleClosure false]⟩ :=
    .birth (.inr ⟨_, _, rfl⟩)
  have present : [Phase.closing sampleInputs sampleClosure false][0]? = some (.closing sampleInputs sampleClosure false) := rfl
  have run := (Run.nil.snoc birth).snoc (.act present (.close result))
  obtain ⟨row, found, prelaunch⟩ := closePrelaunch_filled rfl result
  obtain ⟨members, loaded, restored⟩ := prelaunch.reads (sample_restores _ (by simp))
  have looked := prelaunch.lookup loaded restored found
  have look : Phase.Step sampleHost sampleCalendar [] after (.looking sampleInputs)
      (.looked sampleInputs after (.ok (some members))) after .done := by
    have step := @Phase.Step.look sampleHost sampleCalendar [] after sampleInputs
    rw [looked] at step
    exact step
  have born : Calls.Step sampleHost sampleCalendar [] Called ⟨after, [.done]⟩ .quiet ⟨after, [.done, .looking sampleInputs]⟩ :=
    .birth (.inl ⟨_, rfl⟩)
  have second : [Phase.done, .looking sampleInputs][1]? = some (.looking sampleInputs) := rfl
  have rest := (Run.nil.snoc born).snoc (.act second look)
  have written : ∀ label ∈ [Label.quiet, .closed sampleInputs sampleClosure ⟨[]⟩ (.ok ()), .quiet,
      .looked sampleInputs after (.ok (some members))], ∀ value ∈ label.writes,
      value ∈ [.obj sampleInputs.request, .obj sampleInputs.backend, .obj (closureRecord sampleInputs sampleClosure)] := by
    intro label listed value writes
    simp only [List.mem_cons, List.not_mem_nil, or_false] at listed
    rcases listed with rfl | rfl | rfl | rfl
    · cases writes
    · exact writes
    · cases writes
    · cases writes
  obtain ⟨-, settled⟩ := prelaunch_exclusion run rest
    (fun label listed value writes => sample_restores value (written label (by simpa using listed) value writes))
    (fun label listed value writes => exactly_stable value (sample_exactly value (written label (by simpa using listed) value writes)))
  obtain ⟨-, inputs, closure, named, -, fenced⟩ := (settled _ row found).1 ⟨members, loaded, (restored_closure restored).2⟩
  exact ⟨_, _, _, _, row, inputs, closure, members, run, rest, by simp, named, fenced⟩

/-- A backend whose digest is a float beyond the integers that canonical JSON admits. -/
def floatInputs : Inputs :=
  { sampleInputs with backend := set sampleBackend "executable_sha256" (.float (.finite (10 ^ 20))) }

/-- What the decoder makes of it. -/
def readBackend : Members := set sampleBackend "executable_sha256" (.int (10 ^ 20))

/-- The digests of these inputs and of their closure. -/
def floatDigests : List (Nat × Nat) :=
  [(259, 0x695f3d2714805db9374489dceaa37aaa9651f14c1100aea56b7b2929f935fa08),
    (1539, 0x968db4172eabdb18a69c1f74050dd24804f44239f39e1dd90e7a292033f2e40c)] ++ inputDigests

def floatClosure : Members := epochClosure 0x695f3d2714805db9374489dceaa37aaa9651f14c1100aea56b7b2929f935fa08
  0x968db4172eabdb18a69c1f74050dd24804f44239f39e1dd90e7a292033f2e40c

def floatHost : Host :=
  closureHost floatDigests floatInputs.request readBackend (closureRecord { floatInputs with backend := readBackend } floatClosure)

/-- The closure is retained, but its inspection cannot write the backend again. -/
theorem prelaunch_exclusion_uninspectable : ∃ labels pool,
    Run (Calls.Step floatHost sampleCalendar [] Called) ⟨⟨[]⟩, []⟩ labels pool ∧
      .closed floatInputs floatClosure ⟨[]⟩ (.ok ()) ∈ labels ∧ (∃ row, pool.store.find floatInputs.dispatch = some row) ∧
      (RunStore.inspectPrelaunch floatHost sampleCalendar (fun _ _ => .ok ()) pool.store pool.store floatInputs.dispatch).isOk = false := by
  have fine : (match RunStore.closePrelaunch floatHost sampleCalendar floatInputs floatClosure ⟨[]⟩ with
      | (.ok _, after) => (after.find floatInputs.dispatch).isSome &&
        !(RunStore.inspectPrelaunch floatHost sampleCalendar (fun _ _ => .ok ()) after after floatInputs.dispatch).isOk
      | (.error _, _) => false) = true := by decide +kernel
  have birth : Calls.Step floatHost sampleCalendar [] Called ⟨⟨[]⟩, []⟩ .quiet ⟨⟨[]⟩, [.closing floatInputs floatClosure false]⟩ :=
    .birth (.inr ⟨_, _, rfl⟩)
  have present : [Phase.closing floatInputs floatClosure false][0]? = some (.closing floatInputs floatClosure false) := rfl
  rcases result : RunStore.closePrelaunch floatHost sampleCalendar floatInputs floatClosure ⟨[]⟩ with ⟨outcome, after⟩
  rw [result] at fine
  cases outcome with
  | error className => cases fine
  | ok _ =>
    simp only [Bool.and_eq_true, Bool.not_eq_true'] at fine
    exact ⟨_, _, (Run.nil.snoc birth).snoc (.act present (.close result)), by simp, Option.isSome_iff_exists.mp fine.1, fine.2⟩

end Switchyard.Runner
