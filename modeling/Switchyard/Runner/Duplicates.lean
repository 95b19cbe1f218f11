import Switchyard.Runner.Claims

/-! Exact duplicates that race for one dispatch. Each looks it up, captures the
executable on its own, and then claims the dispatch or closes it by its own clock. -/

namespace Switchyard.Runner
open Library Json AppServer

variable {host : Host} {calendar : Calendar} {runner : Bytes}

/-- The call ends without a record. -/
def Label.fails : Label → Prop
  | .looked _ _ (.error _) | .claimed _ _ (.error _) | .built _ _ (.error _) | .closed _ _ _ (.error _)
  | .reread _ _ (.error _) | .reread _ _ (.ok none) | .surveyed _ _ (.error _) | .faulted _ => True
  | _ => False

/-- A record that a run returns without owning it, and the store it was read in. -/
def Label.returns : Label → Option (RunStore × Members)
  | .looked _ store (.ok (some members)) | .claimed _ store (.ok (members, false)) | .reread _ store (.ok (some members)) =>
    some (store, members)
  | _ => none

/-- A call becomes the owner of the dispatch, by a claim or by a closure. -/
def Label.opens : Label → Bool
  | .claimed _ _ (.ok (_, true)) => true
  | .closed inputs _ store (.ok ()) => (store.find inputs.dispatch).isNone
  | _ => false

/-- The call inspects an occurrence: it reads what is retained for these exact inputs. -/
def Label.Inspects (host : Host) (inputs : Inputs) (label : Label) : Prop :=
  ∀ store members, label.returns = some (store, members) → ∃ row, store.find inputs.dispatch = some row ∧
    Exactly host inputs row ∧ loads host row.record = .ok (.obj members)

/-- Racing exact duplicates inspect the same occurrence. -/
structure Inspects (host : Host) (inputs : Inputs) (labels : List Label) : Prop where
  returns : ∀ label ∈ labels, ¬ label.fails
  retained : ∀ label ∈ labels, label.Inspects host inputs
  single : labels.countP Label.opens ≤ 1

/-- A call that its machine does not suit, or that a fault strikes, and a failed capture that meets
its own clock or another owner: its receipt is no valid closure, or the slot already holds a claim
or another closure. -/
def Label.Conflicts (host : Host) (calendar : Calendar) (runner : Bytes) : Label → Prop
  | .surveyed inputs machine _ => ¬ machine.Suits host inputs
  | .faulted _ => True
  | .built inputs now _ => ¬ ∃ closure, Receivable host calendar runner inputs (get inputs.request "switchyard_owner_head") none
      (utcNow calendar now) (text "EXECUTABLE_CAPTURE_FAILED") closure
  | .closed inputs closure store _ => ∃ prior, store.lookup host inputs = .ok (some prior) ∧ isClosure prior closure = false
  | _ => False

/-- A duplicate of these inputs, where it stands. -/
def Phase.Duplicate (host : Host) (calendar : Calendar) (inputs : Inputs) (store : RunStore) : Phase → Prop
  | .looking other | .capturing other | .building other | .claiming other => other = inputs
  | .closing other closure observed => other = inputs ∧ observed = true ∧ Closes host calendar inputs closure
  | .rereading other => other = inputs ∧ (store.find inputs.dispatch).isSome
  | .owning other _ _ => other = inputs
  | .done => True

/-- The slot of the dispatch holds an entry for these inputs, if anything. -/
def Slot (host : Host) (calendar : Calendar) (inputs : Inputs) (store : RunStore) : Prop :=
  ∀ row, store.find inputs.dispatch = some row → ∃ record, Entry host calendar row inputs record

/-- What one step of one duplicate leaves behind. -/
structure Serves (host : Host) (calendar : Calendar) (runner : Bytes) (inputs : Inputs) (store : RunStore) (label : Label)
    (after : RunStore) (next : Phase) : Prop where
  slot : Slot host calendar inputs after
  next : next.Duplicate host calendar inputs after
  lasting : (store.find inputs.dispatch).isSome → (after.find inputs.dispatch).isSome
  opens : label.opens = true → store.find inputs.dispatch = none ∧ (after.find inputs.dispatch).isSome
  fails : label.fails ↔ label.Conflicts host calendar runner
  inspects : label.Inspects host inputs

section
variable {inputs : Inputs} {store after : RunStore} {label : Label} {next : Phase}

/-- A lookup by a duplicate finds nothing, or what is retained. -/
theorem Slot.lookup (slot : Slot host calendar inputs store) (valid : inputs.Valid host) :
    (store.find inputs.dispatch = none ∧ store.lookup host inputs = .ok none) ∨ ∃ row members,
      store.find inputs.dispatch = some row ∧ Exactly host inputs row ∧ store.lookup host inputs = .ok (some members) ∧
      loads host row.record = .ok (.obj members) := by
  cases found : store.find inputs.dispatch with
  | none => exact .inl ⟨rfl, RunStore.lookup_none.mpr found⟩
  | some row =>
    obtain ⟨record, entry⟩ := slot row found
    obtain ⟨members, looked, read, -⟩ := entry.lookup valid.exact found
    exact .inr ⟨row, members, rfl, entry.exactly, looked, read⟩

/-- A step that leaves the store alone. -/
private theorem Serves.still (slot : Slot host calendar inputs store) (next' : next.Duplicate host calendar inputs store)
    (opens : label.opens = false) (fails : label.fails ↔ label.Conflicts host calendar runner)
    (inspects : label.Inspects host inputs) : Serves host calendar runner inputs store label store next :=
  ⟨slot, next', fun found => found, fun opened => absurd opened (by simp [opens]), fails, inspects⟩

theorem RunStore.Inserted.find {record : Members} (inserted : RunStore.Inserted host inputs record store after) :
    ∃ row, after.find inputs.dispatch = some row ∧ Exactly host inputs row ∧ canonical host (.obj record) = .ok row.record := by
  obtain ⟨row, exactly, spelled, rows⟩ := inserted.row
  refine ⟨row, ?_, exactly, spelled⟩
  rw [RunStore.find_append rows, inserted.free, if_pos exactly.dispatch]
  rfl

/-- A step that fills the slot. -/
private theorem Serves.fill {record : Members} (inserted : RunStore.Inserted host inputs record store after)
    (retains : Retains host calendar inputs record) (rereads : Rereads host (.obj record))
    (next' : next.Duplicate host calendar inputs after) (fails : label.fails ↔ label.Conflicts host calendar runner)
    (inspects : label.Inspects host inputs) : Serves host calendar runner inputs store label after next := by
  obtain ⟨row, found, exactly, spelled⟩ := inserted.find
  have taken : (after.find inputs.dispatch).isSome := by rw [found]; rfl
  refine ⟨?_, next', fun _ => taken, fun _ => ⟨inserted.free, taken⟩, fails, inspects⟩
  intro other present
  obtain rfl := Option.some.inj (found.symm.trans present)
  exact ⟨record, exactly, retains, spelled, rereads⟩

theorem observedClosure_closes {now : Nanoseconds} {closure : Members}
    (made : observedClosure host calendar runner inputs now = .ok closure) : Closes host calendar inputs closure := by
  have receivable := newPrelaunchClosure_ok.mp made
  obtain ⟨binding, bound, given⟩ := prelaunchReceipt_binding receivable.made
  exact ⟨receivable.valid, binding, bound, by rw [given]; exact equal_refl _⟩

theorem Phase.Step.serves {phase : Phase} (step : Phase.Step host calendar runner store phase label after next)
    (valid : inputs.Valid host) (slot : Slot host calendar inputs store) (duplicate : phase.Duplicate host calendar inputs store)
    (decoded : ∀ record, label.retains = some record → Rereads host (.obj record)) :
    Serves host calendar runner inputs store label after next := by
  cases step with
  | @look inputs =>
    obtain rfl := duplicate
    rcases slot.lookup valid with ⟨free, looked⟩ | ⟨row, members, found, exactly, looked, read⟩
    · rw [looked]
      exact .still slot rfl rfl ⟨False.elim, False.elim⟩ nofun
    · rw [looked]
      refine .still slot trivial rfl ⟨False.elim, False.elim⟩ ?_
      intro seen kept same
      cases same
      exact ⟨row, found, exactly, read⟩
  | @survey inputs machine =>
    have suits := @surveyMachine_ok host machine inputs
    cases found : surveyMachine host machine inputs with
    | ok captured =>
      have fails : Label.fails (.surveyed inputs machine (.ok captured)) ↔
          Label.Conflicts host calendar runner (.surveyed inputs machine (.ok captured)) :=
        ⟨False.elim, fun conflicts => conflicts (suits.mp ⟨captured, found⟩)⟩
      cases captured <;> exact .still slot duplicate rfl fails nofun
    | error className =>
      refine .still slot trivial rfl ⟨fun _ suited => ?_, fun _ => trivial⟩ nofun
      obtain ⟨captured, other⟩ := suits.mpr suited
      rw [found] at other
      cases other
  | @build inputs now =>
    obtain rfl := duplicate
    cases made : observedClosure host calendar runner inputs now with
    | ok closure =>
      refine .still slot ⟨rfl, rfl, observedClosure_closes made⟩ rfl ?_ nofun
      exact ⟨False.elim, fun conflicts => conflicts ⟨closure, newPrelaunchClosure_ok.mp made⟩⟩
    | error className =>
      refine .still slot trivial rfl ⟨fun _ => ?_, fun _ => trivial⟩ nofun
      rintro ⟨closure, receivable⟩
      have other := newPrelaunchClosure_ok.mpr receivable
      unfold observedClosure at made
      rw [made] at other
      cases other
  | @claim _ inputs occurrence outcome result =>
    obtain rfl := duplicate
    rcases slot.lookup valid with ⟨free, -⟩ | ⟨row, members, found, exactly, looked, read⟩
    · obtain ⟨request, exactRequest⟩ := valid.request
      obtain ⟨backend, exactBackend⟩ := valid.backend
      obtain ⟨raw, encoded⟩ := claimRecord_canonical valid occurrence
      have done := (RunStore.claim_free free exactRequest exactBackend encoded).symm.trans result
      cases done
      refine .fill ⟨free, _, ⟨rfl, exactRequest, rfl, exactBackend⟩, encoded, rfl⟩
        (.claim (claimRecord_follows inputs occurrence)) (decoded _ rfl) rfl ⟨False.elim, False.elim⟩ nofun
    · have done := (RunStore.claim_prior looked).symm.trans result
      cases done
      refine .still slot trivial rfl ⟨False.elim, False.elim⟩ ?_
      intro seen kept same
      cases same
      exact ⟨row, found, exactly, read⟩
  | @close _ inputs closure observed outcome result =>
    obtain ⟨rfl, rfl, closes⟩ := duplicate
    rcases slot.lookup valid with ⟨free, looked⟩ | ⟨row, members, found, exactly, looked, read⟩
    · obtain ⟨request, exactRequest⟩ := valid.request
      obtain ⟨backend, exactBackend⟩ := valid.backend
      obtain ⟨raw, encoded⟩ := closureRecord_canonical valid closes
      have done := (RunStore.closePrelaunch_free closes free exactRequest exactBackend encoded).symm.trans result
      cases done
      have inserted : RunStore.Inserted host inputs (closureRecord inputs closure) store _ :=
        ⟨free, ⟨inputs.dispatch, request, inputs.brief, backend, raw⟩, ⟨rfl, exactRequest, rfl, exactBackend⟩, encoded, rfl⟩
      refine .fill inserted (.closure closes) (decoded _ ?_) ⟨rfl, ?_⟩ ⟨False.elim, ?_⟩ nofun
      · simp [Label.retains, free]
      · obtain ⟨row, found, -⟩ := inserted.find
        rw [found]
        rfl
      · rintro ⟨prior, present, -⟩
        rw [looked] at present
        cases present
    · have done := (RunStore.closePrelaunch_prior closes looked).symm.trans result
      cases same : isClosure members closure with
      | true =>
        rw [same] at done
        cases done
        refine .still slot ⟨rfl, by rw [found]; rfl⟩ ?_ ⟨False.elim, ?_⟩ nofun
        · show (store.find inputs.dispatch).isNone = false
          rw [found]
          rfl
        · rintro ⟨prior, present, differs⟩
          rw [looked] at present
          cases present
          rw [same] at differs
          cases differs
      | false =>
        rw [same] at done
        cases done
        exact .still slot trivial rfl ⟨fun _ => ⟨members, looked, same⟩, fun _ => trivial⟩ nofun
  | @reread inputs =>
    obtain ⟨rfl, taken⟩ := duplicate
    rcases slot.lookup valid with ⟨free, -⟩ | ⟨row, members, found, exactly, looked, read⟩
    · rw [free] at taken
      cases taken
    · rw [looked]
      refine .still slot trivial rfl ⟨False.elim, False.elim⟩ ?_
      intro seen kept same
      cases same
      exact ⟨row, found, exactly, read⟩
  | @start inputs record => exact .still slot duplicate rfl ⟨False.elim, False.elim⟩ nofun
  | @update _ inputs record next ready outcome follows result =>
    obtain rfl := duplicate
    have wrote := @RunStore.update_meets host inputs.dispatch next store
    cases outcome with
    | error className =>
      obtain rfl := wrote.raises result
      exact .still slot rfl rfl ⟨False.elim, False.elim⟩ nofun
    | ok _ =>
      obtain ⟨raw, spelled, rfl⟩ := wrote.returns result
      have found := RunStore.find_written store inputs.dispatch inputs.dispatch raw
      refine ⟨?_, rfl, ?_, nofun, ⟨False.elim, False.elim⟩, nofun⟩
      · intro row present
        rw [found] at present
        obtain ⟨before, old, rfl⟩ := Option.map_eq_some_iff.mp present
        obtain ⟨kept, entry⟩ := slot before old
        have same : before.written inputs.dispatch raw = { before with record := raw } := if_pos entry.exactly.dispatch
        rw [same]
        exact ⟨next, ⟨entry.exactly.dispatch, entry.exactly.request, entry.exactly.brief, entry.exactly.backend⟩,
          .claim follows, spelled, decoded _ rfl⟩
      · intro taken
        rw [found, Option.isSome_map]
        exact taken
  | fault => exact .still slot trivial rfl ⟨fun _ => trivial, fun _ => trivial⟩ nofun
  | stop => exact .still slot trivial rfl ⟨False.elim, False.elim⟩ nofun

end

/-- The duplicates so far. -/
structure Racing (host : Host) (calendar : Calendar) (runner : Bytes) (inputs : Inputs) (labels : List Label)
    (pool : Pool RunStore Phase) : Prop where
  slot : Slot host calendar inputs pool.store
  each : ∀ phase ∈ pool.processes, phase.Duplicate host calendar inputs pool.store
  single : labels.countP Label.opens ≤ if (pool.store.find inputs.dispatch).isSome then 1 else 0
  fails : ∀ label ∈ labels, label.fails ↔ label.Conflicts host calendar runner
  inspects : ∀ label ∈ labels, label.Inspects host inputs

theorem Phase.Duplicate.grow {inputs : Inputs} {store after : RunStore} {phase : Phase}
    (duplicate : phase.Duplicate host calendar inputs store)
    (lasting : (store.find inputs.dispatch).isSome → (after.find inputs.dispatch).isSome) :
    phase.Duplicate host calendar inputs after := by
  cases phase with
  | rereading other => exact ⟨duplicate.1, lasting duplicate.2⟩
  | _ => exact duplicate

theorem Racing.step {inputs : Inputs} (valid : inputs.Valid host) {labels : List Label} {before after : Pool RunStore Phase}
    {label : Label} (racing : Racing host calendar runner inputs labels before)
    (decoded : ∀ record, label.retains = some record → Rereads host (.obj record))
    (step : Calls.Step host calendar runner (fun phase => phase = .looking inputs) before label after) :
    Racing host calendar runner inputs (labels ++ [label]) after := by
  have extend {label : Label} (fails : label.fails ↔ label.Conflicts host calendar runner) (inspects : label.Inspects host inputs) :
      (∀ other ∈ labels ++ [label], other.fails ↔ other.Conflicts host calendar runner) ∧
        ∀ other ∈ labels ++ [label], other.Inspects host inputs := by
    refine ⟨fun other listed => ?_, fun other listed => ?_⟩
    · rcases List.mem_append.mp listed with early | last
      · exact racing.fails other early
      · exact List.mem_singleton.mp last ▸ fails
    · rcases List.mem_append.mp listed with early | last
      · exact racing.inspects other early
      · exact List.mem_singleton.mp last ▸ inspects
  cases step with
  | @birth store processes process newborn =>
    obtain ⟨fails, inspects⟩ := @extend .quiet ⟨False.elim, False.elim⟩ nofun
    refine ⟨racing.slot, ?_, ?_, fails, inspects⟩
    · intro phase listed
      rcases List.mem_append.mp listed with early | last
      · exact racing.each phase early
      · rw [List.mem_singleton.mp last, newborn]
        rfl
    · rw [List.countP_append]
      exact racing.single
  | @act store after processes index process next _ found acted =>
    have serves := acted.serves valid racing.slot (racing.each process (List.mem_of_getElem? found)) decoded
    obtain ⟨fails, inspects⟩ := extend serves.fails serves.inspects
    refine ⟨serves.slot, ?_, ?_, fails, inspects⟩
    · intro phase listed
      rcases List.mem_or_eq_of_mem_set listed with early | rfl
      · exact (racing.each phase early).grow serves.lasting
      · exact serves.next
    · have single := racing.single
      rw [List.countP_append, List.countP_singleton]
      cases opens : label.opens with
      | true =>
        obtain ⟨free, taken⟩ := serves.opens opens
        dsimp only at single
        rw [free] at single
        simp only [taken, if_true, Option.isSome_none, Bool.false_eq_true, if_false] at single ⊢
        omega
      | false =>
        have lasting := serves.lasting
        dsimp only at single ⊢
        cases taken : (store.find inputs.dispatch).isSome with
        | true =>
          rw [taken] at single
          rw [lasting taken]
          simpa using single
        | false =>
          rw [taken] at single
          simp only [Bool.false_eq_true, if_false] at single ⊢
          omega

/-- Racing exact duplicates inspect one occurrence exactly if the machine suits every call, no fault
strikes one, and no failed capture conflicts with its clock or with what the slot holds. -/
theorem racing_duplicates {inputs : Inputs} (valid : inputs.Valid host) {store : RunStore}
    (unknown : store.find inputs.dispatch = none) {labels : List Label} {pool : Pool RunStore Phase}
    (run : Run (Calls.Step host calendar runner (fun phase => phase = .looking inputs)) ⟨store, []⟩ labels pool)
    (decoded : ∀ label ∈ labels, ∀ record, label.retains = some record → Rereads host (.obj record)) :
    Inspects host inputs labels ↔ ∀ label ∈ labels, ¬ label.Conflicts host calendar runner := by
  have racing : (∀ label ∈ labels, ∀ record, label.retains = some record → Rereads host (.obj record)) →
      Racing host calendar runner inputs labels pool := by
    refine run.invariant (fun labels pool => (∀ label ∈ labels, ∀ record, label.retains = some record → Rereads host (.obj record)) →
      Racing host calendar runner inputs labels pool) ?_ ?_
    · intro _
      refine ⟨?_, nofun, Nat.zero_le _, nofun, nofun⟩
      intro row found
      rw [unknown] at found
      cases found
    · intro labels before label after _ racing step decoded
      refine (racing fun other listed => decoded other (List.mem_append_left _ listed)).step valid ?_ step
      exact decoded label (List.mem_append_right _ List.mem_cons_self)
  have kept := racing decoded
  constructor
  · intro inspects label listed conflicts
    exact inspects.returns label listed ((kept.fails label listed).mpr conflicts)
  · intro fine
    refine ⟨fun label listed fails => fine label listed ((kept.fails label listed).mp fails), kept.inspects, ?_⟩
    have single := kept.single
    split at single <;> omega

def sampleOccurrence : Occurrence := ⟨1, 0⟩

/-- A calendar of the first minute of 1970. -/
def sampleCalendar : Calendar where
  decimal point := if 48 ≤ point.val ∧ point.val ≤ 57 then some (point.val - 48) else none
  seconds value := if value.take 17 = text "1970-01-01T00:00:" then
    some ((value.drop 17).foldl (fun total point => 10 * total + (point.val - 48 : Int)) 0) else none
  spelled seconds := text "1970-01-01T00:00:" ++ digits 2 seconds.toNat

/-- A host that knows the digests of the inputs, and whose decoder knows the record of one claim. -/
def claimHost : Host := { plainHost with
  sha256 := digestTable inputDigests
  loads := fun _ => .ok (.obj (claimRecord sampleInputs sampleOccurrence)) }

private theorem sample_valid : sampleInputs.Valid claimHost where
  request := exists_of_isOk (by decide +kernel)
  backend := exists_of_isOk (by decide)
  dispatchRecord := exists_of_isOk (by decide)
  exact := exactMembers_iff.mpr (by simp [sampleInputs, sampleDispatch, object, Admission.literal, sha256Text, Exact, ExactMembers])

private theorem sample_floatFree : floatFree (.obj (claimRecord sampleInputs sampleOccurrence)) = true := by decide

private theorem sample_rereads : Rereads claimHost (.obj (claimRecord sampleInputs sampleOccurrence)) :=
  fun _ _ => ⟨_, rfl, Reads.self _ sample_floatFree⟩

/-- The machine suits every call, whether or not it captures the executable. -/
private theorem sample_suits (captured : Bool) : (sampleMachine captured).Suits claimHost sampleInputs :=
  surveyMachine_ok.mp ⟨captured, sample_surveyed captured⟩

private theorem sample_captures (store : RunStore) : Phase.Step claimHost sampleCalendar [] store (.capturing sampleInputs)
    (.surveyed sampleInputs (sampleMachine true) (.ok true)) store (.claiming sampleInputs) := by
  have step := @Phase.Step.survey claimHost sampleCalendar [] store sampleInputs (sampleMachine true)
  rw [show surveyMachine claimHost (sampleMachine true) sampleInputs = .ok true from sample_surveyed true] at step
  exact step

private theorem sample_misses (store : RunStore) : Phase.Step claimHost sampleCalendar [] store (.capturing sampleInputs)
    (.surveyed sampleInputs (sampleMachine false) (.ok false)) store (.building sampleInputs) := by
  have step := @Phase.Step.survey claimHost sampleCalendar [] store sampleInputs (sampleMachine false)
  rw [show surveyMachine claimHost (sampleMachine false) sampleInputs = .ok false from sample_surveyed false] at step
  exact step

/-- Two duplicates that have both looked an empty store up; the first has then claimed it. -/
private theorem sample_claimed : ∃ labels row, Run (Calls.Step claimHost sampleCalendar [] fun phase => phase = .looking sampleInputs)
    ⟨⟨[]⟩, []⟩ labels ⟨⟨[row]⟩, [.owning sampleInputs (claimRecord sampleInputs sampleOccurrence) true, .capturing sampleInputs]⟩ ∧
      row.dispatch = sampleInputs.dispatch ∧ Entry claimHost sampleCalendar row sampleInputs (claimRecord sampleInputs sampleOccurrence) ∧
      (∀ label ∈ labels, ¬ label.Conflicts claimHost sampleCalendar []) ∧
      ∀ label ∈ labels, ∀ record, label.retains = some record → record = claimRecord sampleInputs sampleOccurrence := by
  obtain ⟨request, exactRequest⟩ := sample_valid.request
  obtain ⟨backend, exactBackend⟩ := sample_valid.backend
  obtain ⟨raw, encoded⟩ := claimRecord_canonical sample_valid sampleOccurrence
  have looked : RunStore.lookup claimHost sampleInputs ⟨[]⟩ = .ok none := RunStore.lookup_none.mpr rfl
  have look : Phase.Step claimHost sampleCalendar [] ⟨[]⟩ (.looking sampleInputs) (.looked sampleInputs ⟨[]⟩ (.ok none)) ⟨[]⟩
      (.capturing sampleInputs) := by
    have step := @Phase.Step.look claimHost sampleCalendar [] ⟨[]⟩ sampleInputs
    rw [looked] at step
    exact step
  have free : RunStore.find ⟨[]⟩ sampleInputs.dispatch = none := rfl
  have claims := @RunStore.claim_free claimHost sampleInputs sampleOccurrence ⟨[]⟩ _ _ _ free exactRequest exactBackend encoded
  have born (processes : List Phase) : Calls.Step claimHost sampleCalendar [] (fun phase => phase = .looking sampleInputs)
      ⟨⟨[]⟩, processes⟩ .quiet ⟨⟨[]⟩, processes ++ [.looking sampleInputs]⟩ := .birth rfl
  have first (phase other : Phase) : [phase, other][0]? = some phase := rfl
  have second (phase other : Phase) : [phase, other][1]? = some other := rfl
  have looking := (Run.nil.snoc (born [])).snoc (born [.looking sampleInputs])
  have both := (looking.snoc (.act (first _ _) look)).snoc (.act (second _ _) look)
  have captured := both.snoc (.act (first _ _) (sample_captures _))
  have claimed := captured.snoc (.act (first _ _) (.claim claims))
  refine ⟨_, _, claimed, rfl, ⟨⟨rfl, exactRequest, rfl, exactBackend⟩, .claim (claimRecord_follows _ _), encoded, sample_rereads⟩, ?_, ?_⟩
  · intro label listed
    simp only [List.nil_append, List.cons_append, List.mem_cons, List.not_mem_nil, or_false] at listed
    rcases listed with rfl | rfl | rfl | rfl | rfl | rfl
    · exact id
    · exact id
    · exact id
    · exact id
    · exact fun conflicts => conflicts (sample_suits true)
    · exact id
  · intro label listed record retains
    simp only [List.nil_append, List.cons_append, List.mem_cons, List.not_mem_nil, or_false] at listed
    rcases listed with rfl | rfl | rfl | rfl | rfl | rfl
    · cases retains
    · cases retains
    · cases retains
    · cases retains
    · cases retains
    · exact (Option.some.inj retains).symm

/-- The second duplicate captures the executable as well, and reads the claim of the first. -/
theorem racing_duplicates_sample : ∃ labels pool members,
    Run (Calls.Step claimHost sampleCalendar [] fun phase => phase = .looking sampleInputs) ⟨⟨[]⟩, []⟩ labels pool ∧
      .claimed sampleInputs pool.store (.ok (members, false)) ∈ labels ∧ Inspects claimHost sampleInputs labels := by
  obtain ⟨labels, row, run, named, entry, fine, retained⟩ := sample_claimed
  have found : RunStore.find ⟨[row]⟩ sampleInputs.dispatch = some row := by simp [RunStore.find, named]
  obtain ⟨members, looked, -⟩ := entry.lookup sample_valid.exact found
  have second (phase other : Phase) : [phase, other][1]? = some other := rfl
  have claims := @RunStore.claim_prior claimHost sampleInputs sampleOccurrence _ _ looked
  have last := (run.snoc (.act (second _ _) (sample_captures _))).snoc (.act (second _ _) (.claim claims))
  refine ⟨_, _, members, last, by simp, (racing_duplicates sample_valid rfl last ?_).mpr ?_⟩
  · intro label listed record retains
    rcases List.mem_append.mp listed with listed | listed
    · rcases List.mem_append.mp listed with listed | listed
      · rw [retained label listed record retains]
        exact sample_rereads
      · rw [List.mem_singleton.mp listed] at retains
        cases retains
    · rw [List.mem_singleton.mp listed] at retains
      cases retains
  · intro label listed
    rcases List.mem_append.mp listed with listed | listed
    · rcases List.mem_append.mp listed with listed | listed
      · exact fine label listed
      · rw [List.mem_singleton.mp listed]
        exact fun conflicts => conflicts (sample_suits true)
    · rw [List.mem_singleton.mp listed]
      exact id

/-- What the sample inputs bind, with this digest of the backend. -/
def sampleBinding (backend : Nat) : Members := object [("packet_digest", sha256Text admittedDigests.packet),
  ("run_id", .str (text "r")), ("work_item_id", .str (text "w")), ("work_attempt_id", .str (text "a")),
  ("dispatch_occurrence_id", .str (text "d")), ("request_digest", sha256Text admittedDigests.request),
  ("worker_brief_digest", sha256Text admittedDigests.brief),
  ("switchyard_owner_head", .str (text "2ba25db66d8b29dd215bd87e05f4ea794024b3b7")),
  ("codex_owner_head", .str (text Admission.FINAL_CODEX_SOURCE_HEAD)), ("adapter_process_occurrence_id", .str (text "p")),
  ("request_sha256", sha256Text 0xbc0464fa8f729d62d588f5fa454d2c41aac90683eec0b655a20e091395eeae92),
  ("brief_sha256", sha256Text 0x03aafd322017fb612e1abf55161dae04b121f36eb787cd44a38e9da3c5113038),
  ("backend_sha256", sha256Text backend),
  ("dispatch_digest", sha256Text 0x41b9f3c3a5f95d16c5fb0185cf4d0154e6087c88d4ba685ff773a1043687d6b2),
  ("dispatch_sha256", sha256Text 0xc1d05a4b581df570b7b75a2a7a13513cdf6a0fb251bcb5b79dfaff24c5e927b3)]

/-- The closure of a capture that fails at the epoch, with the digests of its backend and of itself. -/
def epochClosure (backend closure : Nat) : Members := object [
  ("schema", .str PRELAUNCH_SCHEMA), ("binding", .obj (sampleBinding backend)), ("closed_at", .str (text "1970-01-01T00:00:00Z")),
  ("evidence_mode", .str (text "OBSERVED_CAPTURE_FAILURE")), ("failure_code", .str (text "EXECUTABLE_CAPTURE_FAILED")),
  ("supervisor_attestation", .null), ("observer_source_head", .str (text "2ba25db66d8b29dd215bd87e05f4ea794024b3b7")),
  ("observer_runner_sha256", sha256Text 0xe3b0c44298fc1c149afbf4c8996fb92427ae41e4649b934ca495991b7852b855),
  ("state", .str (text "PRELAUNCH_CLOSED")), ("provider_claim_absent", .bool true), ("backend_started", .bool false),
  ("authority_effect", .str (text "LOCAL_PRELAUNCH_CLOSURE_ONLY")), ("closure_digest", sha256Text closure)]

def sampleClosure : Members := epochClosure 0x15bb20b3920711f36e181e1c4d817cc6b23ce531aed905ed7a60ab9f992fa09e
  0x02bf7a59f1e52e5c46dc23d146cf5a82ea8395294ecd9462d9d57c8a76058b21

private theorem sample_closure : observedClosure claimHost sampleCalendar [] sampleInputs 0 = .ok sampleClosure := by
  decide +kernel

/-- The capture of the second duplicate fails, and its closure meets the claim of the first. -/
theorem racing_duplicates_collide : ∃ labels pool,
    Run (Calls.Step claimHost sampleCalendar [] fun phase => phase = .looking sampleInputs) ⟨⟨[]⟩, []⟩ labels pool ∧
      ¬ Inspects claimHost sampleInputs labels := by
  obtain ⟨labels, row, run, named, entry, -⟩ := sample_claimed
  have found : RunStore.find ⟨[row]⟩ sampleInputs.dispatch = some row := by simp [RunStore.find, named]
  obtain ⟨members, looked, read, -⟩ := entry.lookup sample_valid.exact found
  have second (phase other : Phase) : [phase, other][1]? = some other := rfl
  have build : Phase.Step claimHost sampleCalendar [] ⟨[row]⟩ (.building sampleInputs) (.built sampleInputs 0 (.ok sampleClosure)) ⟨[row]⟩
      (.closing sampleInputs sampleClosure true) := by
    have step := @Phase.Step.build claimHost sampleCalendar [] ⟨[row]⟩ sampleInputs 0
    rw [sample_closure] at step
    exact step
  have claim : isClosure members sampleClosure = false := by
    cases read
    simp [isClosure, claimRecord, get_object_cons, Json.is, equal_text, text_inj]
  have closes := RunStore.closePrelaunch_prior (observedClosure_closes sample_closure) looked
  rw [claim] at closes
  have missed := run.snoc (.act (second _ _) (sample_misses _))
  have last := (missed.snoc (.act (second _ _) build)).snoc (.act (second _ _) (.close closes))
  refine ⟨_, _, last, fun inspects => ?_⟩
  exact inspects.returns _ (List.mem_append_right _ List.mem_cons_self) trivial

end Switchyard.Runner
