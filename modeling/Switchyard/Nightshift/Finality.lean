import Switchyard.Nightshift.Conduct

/-! The store over every run: any number of calls, of any adapters, one transaction of
one of them at a time. Final attempts stay as they are, and nothing logged is lost. -/

namespace Switchyard.Nightshift
open Library Json Runner AppServer

namespace AdapterStore

variable {store : AdapterStore} {id other : Text} {changes : Changes} {row : AttemptRow}

@[simp] theorem apply_attemptId : (changes.apply row).attemptId = row.attemptId := rfl

theorem find_some (found : store.find id = some row) : row ∈ store.rows ∧ row.attemptId = id :=
  ⟨List.mem_of_find?_eq_some found, by simpa using List.find?_some found⟩

theorem find_of_mem (unique : (store.rows.map AttemptRow.attemptId).Nodup) (listed : row ∈ store.rows) (named : row.attemptId = id) :
    store.find id = some row := by
  unfold find
  generalize store.rows = rows at unique listed
  induction rows with
  | nil => cases listed
  | cons first rest ih =>
    rw [List.map_cons, List.nodup_cons] at unique
    rcases List.mem_cons.mp listed with rfl | later
    · exact List.find?_cons_of_pos (by simpa using named)
    · have other : first.attemptId ≠ id := fun same =>
        unique.1 (List.mem_map.mpr ⟨row, later, named.trans same.symm⟩)
      rw [List.find?_cons_of_neg (by simpa using other)]
      exact ih unique.2 later

theorem find_changed : (store.changed id changes).find other =
    (store.find other).map fun row => if row.attemptId = id then changes.apply row else row := by
  unfold find changed
  rw [List.find?_map]
  congr 2
  funext row
  simp only [Function.comp_apply]
  split <;> rfl

theorem find_changed_some (found : store.find other = some row) :
    (store.changed id changes).find other = some (if row.attemptId = id then changes.apply row else row) := by
  rw [find_changed, found]
  rfl

theorem find_insert : (store.insert row).2.find other =
    if (store.find row.attemptId).isSome then store.find other else (store.find other).or (if row.attemptId = other then some row else none) := by
  unfold insert
  split
  next => rfl
  next =>
    simp only [find, List.find?_append]
    congr 1
    simp [List.find?_singleton]

end AdapterStore

abbrev Labels := List (Caller.Label Question.Reply)

/-- The columns that no update touches are the same. -/
def Kin (first last : AttemptRow) : Prop :=
  last = { first with
    threadId := last.threadId, turnId := last.turnId, status := last.status, finalMessage := last.finalMessage
    terminalReceipt := last.terminalReceipt }

theorem Kin.refl (row : AttemptRow) : Kin row row := rfl

theorem Kin.apply {first row : AttemptRow} (kin : Kin first row) (changes : Changes) : Kin first (changes.apply row) := by
  unfold Kin at kin ⊢
  rw [kin]
  rfl

/-- This update has been made. -/
def Updated (labels : Labels) (id : Text) (changes : Changes) : Prop :=
  ∃ history, some (history, ⟨.update id changes, .ok ()⟩) ∈ labels

theorem Updated.later {labels : Labels} {id : Text} {changes : Changes} (updated : Updated labels id changes) (more : Labels) :
    Updated (labels ++ more) id changes := updated.imp fun _ listed => List.mem_append_left _ listed

/-- A row is what has been done to it. -/
structure Borne (labels : Labels) (row : AttemptRow) : Prop where
  turned : row.turnId ≠ some []
  inserted : ∃ history fresh, some (history, ⟨.insert fresh, true⟩) ∈ labels ∧ Kin fresh row
  receipt : row.terminalReceipt.isSome = true ↔ row.status = .terminal
  spoken : ∀ message, row.finalMessage = some message →
    ∃ changes, Updated labels row.attemptId changes ∧ changes.finalMessage = some (some message)
  completed : row.status = .providerCompleted → ∃ changes, Updated labels row.attemptId changes ∧
    changes.status = some .providerCompleted ∧ changes.finalMessage = some row.finalMessage
  sealed : ∀ raw, row.terminalReceipt = some raw →
    ∃ changes, Updated labels row.attemptId changes ∧ changes.terminalReceipt = some raw

theorem Borne.later {labels : Labels} {row : AttemptRow} (borne : Borne labels row) (more : Labels) : Borne (labels ++ more) row where
  turned := borne.turned
  inserted := borne.inserted.imp fun _ found => found.imp fun _ found => ⟨List.mem_append_left _ found.1, found.2⟩
  receipt := borne.receipt
  spoken message same := (borne.spoken message same).imp fun _ found => ⟨found.1.later more, found.2⟩
  completed status := (borne.completed status).imp fun _ found => ⟨found.1.later more, found.2⟩
  sealed raw same := (borne.sealed raw same).imp fun _ found => ⟨found.1.later more, found.2⟩

/-- What every run of calls that keep the rules has come to. -/
structure Holding (labels : Labels) (store : AdapterStore) : Prop where
  unique : (store.rows.map AttemptRow.attemptId).Nodup
  borne : ∀ row ∈ store.rows, Borne labels row
  lost : ∀ id changes, Updated labels id changes → changes.status = some .indeterminate →
    ∃ row, store.find id = some row ∧ row.status = .indeterminate
  found : ∀ history id row, some (history, ⟨.select id, some row⟩) ∈ labels → Borne labels row ∧
    ∃ now, store.find id = some now ∧ Kin row now ∧ (row.status = .indeterminate → now.status = .indeterminate)
  logged : ∀ event ∈ store.events, ∃ history, some (history, ⟨.append event, ()⟩) ∈ labels
  distinct : (store.events.map EventRow.digest).Nodup

variable {host : Host} {unicode : Unicode} {history : History} {id : Text} {changes : Changes} {row : AttemptRow} {labels : Labels}
  {store after : AdapterStore}

/-- What a lawful update says of the columns that the guard looks at. -/
theorem Lawful.columns (lawful : Lawful host unicode history id changes) :
    (changes.terminalReceipt.isSome = true ↔ changes.status = some .terminal) ∧ changes.status.isSome = true ∧
      (changes.status = some .providerCompleted → changes.finalMessage.isSome = true) ∧ changes.turnId ≠ some [] := by
  cases lawful with
  | reported completed => cases completed <;> simp [reportedStatus] <;> split <;> simp
  | running named =>
    refine ⟨by simp, by simp, by simp, fun same => ?_⟩
    cases same
    cases named
  | _ => simp

theorem Changes.admits_final : changes.admits .terminal = false := by
  unfold Changes.admits
  split <;> rfl

theorem Changes.admits_indeterminate (admitted : changes.admits .indeterminate = true) :
    changes.status.getD .indeterminate = .indeterminate ∧ changes.terminalReceipt = none := by
  unfold Changes.admits at admitted
  split at admitted
  next => cases admitted
  next fine => simpa [Changes.prohibitedFromIndeterminate] using fine

theorem Borne.updated (borne : Borne labels row) (lawful : Lawful host unicode history id changes)
    (same : row.attemptId = id) (admitted : changes.admits row.status = true) :
    Borne (labels ++ [some (history, ⟨.update id changes, .ok ()⟩)]) (changes.apply row) := by
  obtain ⟨receipt, named, completed, turned⟩ := lawful.columns
  obtain ⟨status, chosen⟩ := Option.isSome_iff_exists.mp named
  have unsealed : row.terminalReceipt = none := by
    by_contra sealed
    have final := borne.receipt.mp (Option.isSome_iff_ne_none.mpr sealed)
    rw [final, Changes.admits_final] at admitted
    cases admitted
  have made : Updated (labels ++ [some (history, ⟨.update id changes, .ok ()⟩)]) (changes.apply row).attemptId changes :=
    ⟨history, by simp [same]⟩
  refine ⟨?_, ?_, ?_, fun message spoken => ?_, fun finished => ?_, fun raw sealed => ?_⟩
  · change changes.turnId.or row.turnId ≠ some []
    cases turn : changes.turnId with
    | none => exact borne.turned
    | some turnId => exact fun same => turned (turn.trans same)
  · obtain ⟨earlier, fresh, listed, kin⟩ := borne.inserted
    exact ⟨earlier, fresh, List.mem_append_left _ listed, kin.apply changes⟩
  · simp only [Changes.apply, unsealed, Option.or_none, chosen, Option.getD_some]
    rw [receipt, chosen, Option.some_inj]
  · cases spoke : changes.finalMessage with
    | none =>
      rw [Changes.apply, spoke] at spoken
      exact (borne.later _).spoken message spoken
    | some said =>
      rw [Changes.apply, spoke] at spoken
      exact ⟨changes, made, spoken ▸ spoke⟩
  · simp only [Changes.apply, chosen, Option.getD_some] at finished
    obtain ⟨said, spoke⟩ := Option.isSome_iff_exists.mp (completed (finished ▸ chosen))
    exact ⟨changes, made, finished ▸ chosen, by rw [Changes.apply, spoke]; rfl⟩
  · simp only [Changes.apply, unsealed, Option.or_none] at sealed
    exact ⟨changes, made, sealed⟩

theorem updated_snoc {exchange : Exchange Question.Reply} :
    Updated (labels ++ [some (history, exchange)]) id changes ↔
      Updated labels id changes ∨ exchange = ⟨.update id changes, .ok ()⟩ := by
  constructor
  · rintro ⟨earlier, listed⟩
    rcases List.mem_append.mp listed with listed | listed
    · exact .inl ⟨earlier, listed⟩
    · cases List.mem_singleton.mp listed
      exact .inr rfl
  · rintro (updated | rfl)
    · exact updated.later _
    · exact ⟨history, by simp⟩

theorem updated_idle : Updated (labels ++ [none]) id changes ↔ Updated labels id changes := by
  simp [Updated]

/-- A label that neither finds a row nor loses one adds nothing to what is known. -/
theorem Holding.passed (holding : Holding labels store) {label : Caller.Label Question.Reply}
    (lost : ∀ id changes, Updated (labels ++ [label]) id changes → changes.status = some .indeterminate → Updated labels id changes)
    (found : ∀ history id row, label ≠ some (history, ⟨.select id, some row⟩)) : Holding (labels ++ [label]) store where
  unique := holding.unique
  borne row listed := (holding.borne row listed).later _
  lost id changes updated same := holding.lost id changes (lost id changes updated same) same
  found earlier id row listed := by
    rcases List.mem_append.mp listed with listed | listed
    · exact (holding.found earlier id row listed).imp_left (·.later _)
    · exact absurd (List.mem_singleton.mp listed).symm (found _ _ _)
  logged event listed := (holding.logged event listed).imp fun _ known => List.mem_append_left _ known
  distinct := holding.distinct

theorem Holding.quiet (holding : Holding labels store) {question : Question} {answer : question.Reply}
    (update : ∀ id changes, question ≠ .update id changes) (select : ∀ id, question ≠ .select id) :
    Holding (labels ++ [some (history, ⟨question, answer⟩)]) store := by
  refine holding.passed (fun id changes updated _ => ?_) fun earlier id row same => ?_
  · rcases updated_snoc.mp updated with updated | same
    · exact updated
    · exact absurd (congrArg Exchange.question same) (update id changes)
  · simp only [Option.some.injEq, Prod.mk.injEq] at same
    exact select id (congrArg Exchange.question same.2)

theorem Holding.selected (holding : Holding labels store) :
    Holding (labels ++ [some (history, ⟨.select id, store.find id⟩)]) store where
  unique := holding.unique
  borne row listed := (holding.borne row listed).later _
  lost other changes updated same := by
    rcases updated_snoc.mp updated with updated | shape
    · exact holding.lost other changes updated same
    · cases congrArg Exchange.question shape
  found earlier other row listed := by
    rcases List.mem_append.mp listed with listed | listed
    · exact (holding.found earlier other row listed).imp_left (·.later _)
    · have shape := List.mem_singleton.mp listed
      simp only [Option.some.injEq, Prod.mk.injEq, Exchange.mk.injEq, Question.select.injEq] at shape
      obtain ⟨-, rfl, same⟩ := shape
      have same := (eq_of_heq same).symm
      exact ⟨(holding.borne row (AdapterStore.find_some same).1).later _, row, same, .refl row, id⟩
  logged event listed := (holding.logged event listed).imp fun _ known => List.mem_append_left _ known
  distinct := holding.distinct

theorem Holding.inserted (holding : Holding labels store) (fresh : Fresh host unicode row) :
    Holding (labels ++ [some (history, ⟨.insert row, (store.insert row).1⟩)]) (store.insert row).2 := by
  have passed : Holding (labels ++ [some (history, ⟨.insert row, (store.insert row).1⟩)]) store :=
    holding.quiet nofun nofun
  cases taken : (store.find row.attemptId).isSome with
  | true =>
    have same : (store.insert row).2 = store := by rw [AdapterStore.insert, if_pos taken]
    rw [same]
    exact passed
  | false =>
    have shape : store.insert row = (true, { store with rows := store.rows ++ [row] }) := by
      rw [AdapterStore.insert, if_neg (by simp [taken])]
    have kept (other : Text) (now : AttemptRow) (known : store.find other = some now) : (store.insert row).2.find other = some now := by
      rw [AdapterStore.find_insert, taken, if_neg Bool.false_ne_true, known]
      rfl
    have events : (store.insert row).2.events = store.events := by rw [shape]
    refine ⟨?_, fun other listed => ?_, fun other changes updated same => ?_, fun earlier other was listed => ?_,
      events.symm ▸ passed.logged, events.symm ▸ passed.distinct⟩
    · rw [shape, List.map_append, List.nodup_append]
      refine ⟨passed.unique, List.nodup_singleton _, fun id listed other same => ?_⟩
      obtain ⟨known, inside, rfl⟩ := List.mem_map.mp listed
      obtain rfl := List.mem_singleton.mp same
      intro same
      rw [AdapterStore.find_of_mem passed.unique inside same] at taken
      cases taken
    · rw [shape] at listed
      rcases List.mem_append.mp listed with listed | listed
      · exact passed.borne other listed
      · obtain rfl := List.mem_singleton.mp listed
        refine ⟨by simp [fresh.turnless], ⟨history, other, by simp [shape], .refl other⟩, ?_, ?_, ?_, ?_⟩
        · simp [fresh.unsealed, fresh.admitted]
        · simp [fresh.silent]
        · simp [fresh.admitted]
        · simp [fresh.unsealed]
    · exact (passed.lost other changes updated same).imp fun now known => ⟨kept other now known.1, known.2⟩
    · exact (passed.found earlier other was listed).imp id fun ⟨now, known, rest⟩ => ⟨now, kept other now known, rest⟩

theorem Holding.appended (holding : Holding labels store) {event : EventRow} :
    Holding (labels ++ [some (history, ⟨.append event, ()⟩)]) (store.append event) := by
  have passed : Holding (labels ++ [some (history, ⟨.append event, ()⟩)]) store := holding.quiet nofun nofun
  unfold AdapterStore.append
  split
  next => exact passed
  next unknown =>
    refine ⟨passed.unique, passed.borne, passed.lost, passed.found, fun other listed => ?_, ?_⟩
    · rcases List.mem_append.mp listed with listed | listed
      · exact passed.logged other listed
      · obtain rfl := List.mem_singleton.mp listed
        exact ⟨history, by simp⟩
    · rw [List.map_append, List.nodup_append]
      refine ⟨passed.distinct, List.nodup_singleton _, fun digest listed other same => ?_⟩
      obtain ⟨known, inside, rfl⟩ := List.mem_map.mp listed
      obtain rfl := List.mem_singleton.mp same
      exact fun same => unknown (List.any_eq_true.mpr ⟨known, inside, beq_iff_eq.mpr same⟩)

theorem Holding.updated (holding : Holding labels store) (lawful : Lawful host unicode history id changes)
    (known : store.find id = some row) (admitted : changes.admits row.status = true) :
    Holding (labels ++ [some (history, ⟨.update id changes, .ok ()⟩)]) (store.changed id changes) := by
  have named : (store.changed id changes).rows.map AttemptRow.attemptId = store.rows.map AttemptRow.attemptId := by
    simp only [AdapterStore.changed, List.map_map]
    congr 1
    funext other
    simp only [Function.comp_apply]
    split <;> rfl
  -- What was INDETERMINATE is so still: the guard lets nothing else through.
  have stays (other : Text) (was : AttemptRow) (found : store.find other = some was) (lost : was.status = .indeterminate) :
      ∃ now, (store.changed id changes).find other = some now ∧ now.status = .indeterminate := by
    refine ⟨_, AdapterStore.find_changed_some found, ?_⟩
    split
    next same =>
      obtain rfl : other = id := (AdapterStore.find_some found).2.symm.trans same
      obtain rfl := Option.some.inj (known.symm.trans found)
      rw [lost] at admitted
      simpa [Changes.apply, lost] using (Changes.admits_indeterminate admitted).1
    next => exact lost
  refine ⟨named ▸ holding.unique, fun other listed => ?_, fun other new updated same => ?_, fun earlier other was listed => ?_,
    fun event listed => (holding.logged event listed).imp fun _ known => List.mem_append_left _ known, holding.distinct⟩
  · obtain ⟨was, inside, rfl⟩ := List.mem_map.mp listed
    split
    next same =>
      obtain rfl := Option.some.inj ((AdapterStore.find_of_mem holding.unique inside same).symm.trans known)
      exact (holding.borne was inside).updated lawful same admitted
    next => exact (holding.borne was inside).later _
  · rcases updated_snoc.mp updated with updated | shape
    · obtain ⟨was, found, lost⟩ := holding.lost other new updated same
      exact stays other was found lost
    · simp only [Exchange.mk.injEq, Question.update.injEq] at shape
      obtain ⟨⟨rfl, rfl⟩, -⟩ := shape
      exact ⟨_, AdapterStore.find_changed_some known, by rw [if_pos (AdapterStore.find_some known).2, Changes.apply, same]; rfl⟩
  · rcases List.mem_append.mp listed with listed | listed
    · obtain ⟨borne, now, found, kin, lost⟩ := holding.found earlier other was listed
      refine ⟨borne.later _, _, AdapterStore.find_changed_some found, ?_, fun gone => ?_⟩
      · split
        next => exact kin.apply changes
        next => exact kin
      · obtain ⟨later, same, status⟩ := stays other now found (lost gone)
        rw [AdapterStore.find_changed_some found] at same
        cases same
        exact status
    · cases List.mem_singleton.mp listed

theorem holding_idle (holding : Holding labels store) : Holding (labels ++ [none]) store :=
  holding.passed (fun _ _ updated _ => updated_idle.mp updated) nofun

theorem Holding.refused (holding : Holding labels store) {status : Option Status} :
    Holding (labels ++ [some (history, ⟨.update id changes, .error status⟩)]) store := by
  refine holding.passed (fun other new updated _ => ?_) nofun
  rcases updated_snoc.mp updated with updated | same
  · exact updated
  · simp only [Exchange.mk.injEq, Question.update.injEq] at same
    obtain ⟨⟨rfl, rfl⟩, same⟩ := same
    cases eq_of_heq same

theorem lost_known (holding : Holding labels store) (recorded : Caller.Recorded labels history) (lost : Lost history id) :
    ∃ row, store.find id = some row ∧ row.status = .indeterminate := by
  rcases lost with ⟨changes, same, answered⟩ | ⟨row, status, answered⟩
  · obtain ⟨earlier, listed⟩ := recorded _ answered
    exact holding.lost id changes ⟨earlier, listed⟩ same
  · obtain ⟨earlier, listed⟩ := recorded _ answered
    obtain ⟨-, now, found, -, stays⟩ := holding.found earlier id row listed
    exact ⟨now, found, stays status⟩

/-- Whatever is allowed keeps what holds of the store, whoever asks it. -/
theorem holding_upheld (host : Host) (unicode : Unicode) : Caller.Upheld (rules host unicode) AdapterStore.Answers Holding where
  idle _ _ := holding_idle
  asked labels store history question answer after holding recorded allowed answered := by
    cases question with
    | insert row =>
      have same : store.insert row = (answer, after) := answered
      obtain ⟨rfl, rfl⟩ := Prod.ext_iff.mp same.symm
      exact ⟨trivial, holding.inserted allowed⟩
    | update id changes =>
      have same : store.update id changes = (answer, after) := answered
      unfold AdapterStore.update at same
      split at same
      next row known =>
        split at same
        next admitted =>
          cases same
          exact ⟨trivial, holding.updated allowed known admitted⟩
        next =>
          cases same
          exact ⟨trivial, holding.refused⟩
      next =>
        cases same
        exact ⟨trivial, holding.refused⟩
    | append event =>
      cases answered
      exact ⟨trivial, holding.appended⟩
    | select id =>
      cases answered
      refine ⟨⟨fun lost => lost_known holding recorded lost, fun row found => (AdapterStore.find_some found).2⟩, holding.selected⟩
    | events id =>
      cases answered
      exact ⟨trivial, holding.quiet nofun nofun⟩
    | _ =>
      cases answered
      exact ⟨trivial, holding.quiet nofun nofun⟩

/-- The calls of any adapters, which share a host and nothing else. -/
def Calls (host : Host) (unicode : Unicode) (program : Call Members) : Prop :=
  ∃ spelled adapter rounds, ∃ operation : Operation, program = operation.call ⟨host, unicode, spelled, adapter, rounds⟩

abbrev Steps (host : Host) (unicode : Unicode) := Caller.Step (Calls host unicode) AdapterStore.Answers

abbrev AdapterPool := Pool AdapterStore (Caller Question.Reply Failure Members)

theorem calls_keep {program : Call Members} (calls : Calls host unicode program) :
    Program.Keeps (rules host unicode) (fun _ _ => True) (fun _ _ => True) program [] := by
  obtain ⟨spelled, adapter, rounds, operation, rfl⟩ := calls
  exact call_leads ⟨host, unicode, spelled, adapter, rounds⟩ operation

theorem holding_empty : Holding [] .empty where
  unique := List.nodup_nil
  borne _ listed := absurd listed List.not_mem_nil
  lost _ _ updated := absurd updated.choose_spec List.not_mem_nil
  found _ _ _ listed := absurd listed List.not_mem_nil
  logged _ listed := absurd listed List.not_mem_nil
  distinct := List.nodup_nil

theorem run_ruled {pool : AdapterPool} (run : Run (Steps host unicode) ⟨.empty, []⟩ labels pool) :
    Caller.Ruled (rules host unicode) Holding labels pool :=
  Caller.ruled_run (fun _ => calls_keep) (holding_upheld host unicode) holding_empty run

/-! Final attempts. -/

/-- Nothing final has changed from one store to the other. -/
structure Final (first last : AdapterStore) : Prop where
  indeterminate : ∀ id row, first.find id = some row → row.status = .indeterminate →
    ∃ now, last.find id = some now ∧ now.status = .indeterminate
  terminal : ∀ id row, first.find id = some row → row.status = .terminal → last.find id = some row
  events : first.events <+: last.events

theorem Final.refl (store : AdapterStore) : Final store store :=
  ⟨fun _ row found lost => ⟨row, found, lost⟩, fun _ _ found _ => found, List.prefix_refl _⟩

theorem Final.trans {middle last : AdapterStore} (early : Final store middle) (late : Final middle last) : Final store last where
  indeterminate id row found lost := by
    obtain ⟨now, found, lost⟩ := early.indeterminate id row found lost
    exact late.indeterminate id now found lost
  terminal id row found sealed := late.terminal id row (early.terminal id row found sealed) sealed
  events := early.events.trans late.events

theorem final_insert : Final store (store.insert row).2 := by
  have kept (other : Text) (was : AttemptRow) (found : store.find other = some was) : (store.insert row).2.find other = some was := by
    rw [AdapterStore.find_insert, found]
    split <;> rfl
  refine ⟨fun id was found lost => ⟨was, kept id was found, lost⟩, fun id was found _ => kept id was found, ?_⟩
  unfold AdapterStore.insert
  split <;> exact List.prefix_refl _

theorem final_append {event : EventRow} : Final store (store.append event) := by
  unfold AdapterStore.append
  split
  next => exact .refl store
  next => exact ⟨fun id was found lost => ⟨was, found, lost⟩, fun id was found _ => found, List.prefix_append _ _⟩

theorem final_update : Final store (store.update id changes).2 := by
  unfold AdapterStore.update
  split
  next row known =>
    split
    next admitted =>
      have only (other : Text) (was : AttemptRow) (found : store.find other = some was) (same : was.attemptId = id) : was = row := by
        obtain rfl : other = id := (AdapterStore.find_some found).2.symm.trans same
        exact Option.some.inj (found.symm.trans known)
      refine ⟨fun other was found lost => ⟨_, AdapterStore.find_changed_some found, ?_⟩, fun other was found sealed => ?_,
        List.prefix_refl _⟩
      · split
        next same =>
          obtain rfl := only other was found same
          rw [lost] at admitted
          simpa [Changes.apply, lost] using (Changes.admits_indeterminate admitted).1
        next => exact lost
      · rw [AdapterStore.find_changed_some found, if_neg]
        intro same
        obtain rfl := only other was found same
        rw [sealed, Changes.admits_final] at admitted
        cases admitted
    next => exact .refl store
  next => exact .refl store

theorem final_answers {question : Question} {answer : question.Reply} (answered : store.Answers question answer after) :
    Final store after := by
  cases question with
  | insert row =>
    have same : store.insert row = (answer, after) := answered
    obtain ⟨-, rfl⟩ := Prod.ext_iff.mp same.symm
    exact final_insert
  | update id changes =>
    have same : store.update id changes = (answer, after) := answered
    obtain ⟨-, rfl⟩ := Prod.ext_iff.mp same.symm
    exact final_update
  | append event =>
    cases answered
    exact final_append
  | _ =>
    cases answered
    exact .refl store

theorem run_final {pool later : AdapterPool} (run : Run (Steps host unicode) pool labels later) : Final pool.store later.store :=
  run.keeps (fun after => Final pool.store after.store) (.refl _) fun before label after final step => by
    cases step with
    | birth => exact final
    | act _ acted => cases acted with
      | asked answered => exact final.trans (final_answers answered)

/-- In every interleaving of calls, an attempt that is INDETERMINATE stays so and gets no receipt, one that is TERMINAL
stays as it is, a receipt and the status TERMINAL come together, and the log of events only grows at its end. -/
theorem attempts_stay_final {more : Labels} {pool later : AdapterPool} (run : Run (Steps host unicode) ⟨.empty, []⟩ labels pool)
    (rest : Run (Steps host unicode) pool more later) :
    (∀ id row, pool.store.find id = some row → row.status = .indeterminate →
      ∃ now, later.store.find id = some now ∧ now.status = .indeterminate ∧ now.terminalReceipt = none) ∧
    (∀ id row, pool.store.find id = some row → row.status = .terminal → later.store.find id = some row) ∧
    (∀ row ∈ later.store.rows, row.terminalReceipt.isSome = true ↔ row.status = .terminal) ∧
    pool.store.events <+: later.store.events := by
  have final := run_final rest
  have holding := (run_ruled (run.append rest)).holds
  refine ⟨fun id row found lost => ?_, final.terminal, fun row listed => (holding.borne row listed).receipt, final.events⟩
  obtain ⟨now, found, status⟩ := final.indeterminate id row found lost
  refine ⟨now, found, status, ?_⟩
  have receipt := (holding.borne now (AdapterStore.find_some found).1).receipt
  rw [status] at receipt
  exact Option.not_isSome_iff_eq_none.mp fun sealed => nomatch receipt.mp sealed

/-- In every interleaving of calls, each event of the log was appended by one of them: it is the canonical JSON of an event
of its attempt, under the digest of what it says. No digest stands twice. -/
theorem event_log_sound {pool : AdapterPool} (run : Run (Steps host unicode) ⟨.empty, []⟩ labels pool) :
    (∀ event ∈ pool.store.events, Logged host event ∧ ∃ history, some (history, ⟨.append event, ()⟩) ∈ labels) ∧
    (pool.store.events.map EventRow.digest).Nodup := by
  have ruled := run_ruled run
  refine ⟨fun event listed => ?_, ruled.holds.distinct⟩
  obtain ⟨history, appended⟩ := ruled.holds.logged event listed
  exact ⟨(ruled.lawful _ _ appended).1, history, appended⟩

/-- The JSON documents that the store holds of an attempt. -/
def AdapterStore.documents (store : AdapterStore) (row : AttemptRow) : List Bytes :=
  [row.binding, row.request, row.backend] ++ row.terminalReceipt.toList ++ store.eventsOf row.attemptId

/-- A call on its own, beside calls that stand still. -/
theorem call_runs {setting : Setting} {environment : History → (question : Question) → Option question.Reply} {operation : Operation}
    {outcome : Except Failure Members} {final : History} {processes : List (Caller Question.Reply Failure Members)}
    (executed : (operation.call setting).execute (AdapterStore.world environment) store [] = some (outcome, after, final)) :
    ∃ labels later, Run (Steps setting.host setting.unicode) ⟨store, processes⟩ labels ⟨after, later⟩ := by
  have born : Steps setting.host setting.unicode ⟨store, processes⟩ none ⟨store, processes ++ [⟨[], operation.call setting⟩]⟩ :=
    .birth ⟨rfl, setting.spelled, setting.adapter, setting.rounds, operation, rfl⟩
  obtain ⟨labels, run⟩ := Caller.execute_run AdapterStore.world_answers executed
    (List.getElem?_concat_length : (processes ++ [⟨[], operation.call setting⟩])[processes.length]? = _)
  exact ⟨_, _, Run.append (.snoc .nil born) run⟩

def sampleOutcome : Members := object [
  ("evidence", .arr []), ("extensions", .obj []), ("human_questions", .arr []), ("live_or_production_mutations", .arr []),
  ("next_lawful_action", .str (text "x")), ("remaining_trigger", .str (text "x")), ("repositories", .arr []),
  ("result_classification", .str (text "x")), ("schema", .str (text OUTCOME_SCHEMA)), ("state", .str (text "x")),
  ("teardown", .obj (object [("live_runtime", .str (text "x")), ("secrets", .str (text "x")), ("teardown", .str (text "x"))])),
  ("tests", .arr [])]

def sampleNow : Text := text "2026-01-01T00:00:00Z"

def sampleIdentity : BackendIdentity := ⟨text "/c", text "1", text "s", text "/h"⟩

def sampleAdapter : Adapter := ⟨sampleIdentity, text "q", text "p"⟩

def sampleSession : Text := text "codex-home:141582aa3785bb7d6cfe7b16"

def sampleSetting (host : Host) : Setting := ⟨host, sampleUnicode, fun _ => [], sampleAdapter, 1⟩

def sampleAttempt : Attempt := newAttempt (sampleSetting plainHost) sampleStart sampleBriefRaw sampleSession (text "c") sampleNow

def sampleStarted : Attempt := { sampleAttempt with threadId := some (text "t"), turnId := some (text "u") }

def sampleTurn (words : Text) : Json := .obj (object [("id", .str (text "u")), ("status", .str (text "completed")),
  ("items", .arr [.obj (object [("type", .str (text "agentMessage")), ("text", .str words)])])])

def sampleAnswer (words : Text) (method : String) : Members :=
  if method = "turn/start" then object [("turn", .obj (object [("id", .str (text "u"))]))]
  else if method = "thread/start" then object [("thread", .obj (object [("id", .str (text "t"))]))]
  else object [("thread", .obj (object [("id", .str (text "t")), ("turns", .arr [sampleTurn words])]))]

def sampleWords : Text := canonicalText (.obj sampleOutcome)

/-- The digests that are taken of the attempt, of its responses, events and receipt, by the length of what is digested. -/
def adapterDigests : List (Nat × Nat) := [
  (2, 0x141582aa3785bb7d6cfe7b16dc441f4a7a9db343fdea989a0475ec30a5b243c7),
  (60, 0x25e3e08fcc7da6682d4ab0739989f931da80fe5d7235db28eeadc3260411fa9a),
  (62, 0x8854997827f45725a2e138e4bb8856fd013352f3d5714f453053075ed89bc919),
  (505, 0x8ca66740e77b2aae1c99313c3ceea5038d63afd0b98dc97029c8b8797070a007),
  (827, 0xaf0c8eb4c257eb8b9311ea408d863f42b4b9f6d3caf8e9625d19838ffd522deb),
  (851, 0x9b27eeba97e24f728b1e364c55407fa1b3199da0db229c97d1846433d15ce687),
  (1149, 0x419a0c7608ec07194b68adaa4c35e9294a33cb47fa37cc5ef253c638bdb06aa1),
  (1158, 0xd50526faffe318f4cef7c58716dfb5189b6e3e54d944d25598d86edd221e8a7e),
  (1173, 0xcb3841bc93929999906368f02592983ffc97579e7a5e20c8e8f23c67f1ffc3f1),
  (2057, 0xffbabe1234eb33acdb795e23cc00d5bc606e852c2099772e4c5d2665f1b7324b),
  (3425, 0x8aba63c4d52251b8b2dd784fd98e125879f43984df37f0b82d0692b4205bbca6)]

/-- A host that takes the digests of the sample calls. -/
def recordingHost : Host := { sampleHost with sha256 := digestTable (startDigests ++ adapterDigests) }

/-- An event of the sample attempt, with the response it is evidence of. -/
def sampleEvent (attempt : Attempt) (kind : String) (evidence : Option (Members × String)) : Members :=
  let added := evidence.map fun response => Evidence.parsed (plainBytes (.obj response.1)) response.2
  let extensions := Json.update ((custodyExtensions attempt).toOption.getD [])
    (("appserver_process_occurrence_identity", .str (text "p")) :: (evidenceExtensions recordingHost added).toOption.getD [])
  let event := unsealedEvent attempt kind none extensions (.str (text "a")) (.str samplePacketDigest) (.str (text "r"))
    (.str (text "w")) (text "i") sampleNow
  Json.set event "event_digest" (.str ((digestOf recordingHost EVENT_DOMAIN (.obj (without event "event_digest"))).toOption.getD []))

def sampleReceipt : Members :=
  let receipt := unsealedReceipt ((retainedIdentities sampleStarted).toOption.getD []) sampleNow sampleNow sampleOutcome
  Json.set receipt "receipt_digest"
    (.str ((digestOf recordingHost RECEIPT_DOMAIN (.obj (without receipt "receipt_digest"))).toOption.getD []))

/-- The documents of the attempt, each under its length. -/
def sampleDocuments : List (Nat × Members) := [
  (373, sampleAttempt.binding), (773, sampleStart), (58, sampleIdentity.asDict), (2661, sampleBrief), (897, sampleReceipt),
  (874, sampleEvent sampleAttempt "adapter_accepted" none),
  (1205, sampleEvent sampleStarted "provider_identity" (some (sampleAnswer [] "thread/start", "thread_start_response"))),
  (1196, sampleEvent sampleStarted "worker_started" (some (sampleAnswer [] "turn/start", "turn_start_response"))),
  (2104, sampleEvent sampleStarted "provider_completion_observation" (some (sampleAnswer sampleWords "thread/read", "thread_read_response")))]

/-- The same host, which also reads these documents and one outcome. -/
def adapterHost : Host := { recordingHost with
  loads := fun raw => match sampleDocuments.lookup raw.length with
    | some document => .ok (.obj document)
    | none => .error (.malformed (className "JSONDecodeError") (text "Expecting value: line 1 column 1 (char 0)"))
  loadsUniqueText := fun value => match value.length with
    | 311 => .ok (.obj sampleOutcome)
    | _ => .error (.malformed (className "JSONDecodeError") (text "Expecting value: line 1 column 1 (char 0)")) }

/-- An App Server that starts a thread and a turn, and has completed the turn with these words whenever it is asked. -/
def sampleEnvironment (words : Text) (_ : History) : (question : Question) → Option question.Reply
  | .request method _ => some (.ok (sampleAnswer words method))
  | .diagnostics => some []
  | .next _ => some none
  | .quiesce => some (.cut ⟨true, 0, text "EXITED"⟩)
  | .directory _ => some (.ok (text "/w"))
  | .uuid => some (text "i")
  | .now => some sampleNow
  | _ => none

/-- The calls that start and seal the attempt. -/
def sampleCalls : List Operation := [.start sampleStart sampleBriefRaw, .collect sampleAttempt.binding]

def sampleStores (words : Text) : AdapterStore → List Operation → Option AdapterStore
  | store, [] => some store
  | store, operation :: rest =>
    match (operation.call (sampleSetting adapterHost)).execute (AdapterStore.world (sampleEnvironment words)) store [] with
    | some (_, after, _) => sampleStores words after rest
    | none => none

theorem sampleStores_run {words : Text} {operations : List Operation} : ∀ {store after : AdapterStore} (processes),
    sampleStores words store operations = some after →
      ∃ labels later, Run (Steps adapterHost sampleUnicode) ⟨store, processes⟩ labels ⟨after, later⟩ := by
  induction operations with
  | nil =>
    intro store after processes same
    cases same
    exact ⟨_, _, .nil⟩
  | cons operation rest ih =>
    intro store after processes done
    unfold sampleStores at done
    split at done
    next executed =>
      obtain ⟨labels, later, run⟩ := @call_runs store _ (sampleSetting adapterHost) _ operation _ _ processes executed
      obtain ⟨more, last, next⟩ := ih later done
      exact ⟨_, _, run.append next⟩
    next => cases done

/-- How a call on the sample adapter ends: with a message if it is refused, and with this store. -/
def sampleEnd (operation : Operation) (store : AdapterStore) : Option (Option Text × AdapterStore) :=
  ((operation.call (sampleSetting adapterHost)).execute (AdapterStore.world (sampleEnvironment sampleWords)) store []).map
    fun ended => (match ended.1 with
      | .error (.protocol why) => some why
      | _ => none, ended.2.1)

/-- The sealed attempt, all of whose documents are read, and what its status comes to. -/
structure SampleSealed (store : AdapterStore) (row : AttemptRow) : Prop where
  terminal : row.status = .terminal
  threaded : row.threadId = some (text "t")
  turned : row.turnId = some (text "u")
  spoken : row.finalMessage = some sampleWords
  bound : sampleDocuments.lookup row.binding.length = some sampleAttempt.binding
  read : ∀ raw ∈ store.documents row, (sampleDocuments.lookup raw.length).isSome = true
  logged : store.events.length = 4
  status : sampleEnd (.status sampleAttempt.binding) store =
    some (some (text "terminal attempt transition is terminally prohibited"), store)

theorem sampleStores_sealed : ((sampleStores sampleWords .empty sampleCalls).bind fun store => (store.find (text "a")).map fun row =>
    decide (row.status = .terminal ∧ row.threadId = some (text "t") ∧ row.turnId = some (text "u") ∧ row.finalMessage = some sampleWords ∧
      sampleDocuments.lookup row.binding.length = some sampleAttempt.binding ∧
      (∀ raw ∈ store.documents row, (sampleDocuments.lookup raw.length).isSome = true) ∧ store.events.length = 4 ∧
      sampleEnd (.status sampleAttempt.binding) store =
        some (some (text "terminal attempt transition is terminally prohibited"), store))) = some true := by
  decide +kernel

/-- A run that seals the attempt. -/
theorem sample_sealed : ∃ labels pool row, Run (Steps adapterHost sampleUnicode) ⟨.empty, []⟩ labels pool ∧
    pool.store.find (text "a") = some row ∧ SampleSealed pool.store row := by
  obtain ⟨store, done, found⟩ := Option.bind_eq_some_iff.mp sampleStores_sealed
  obtain ⟨row, found, known⟩ := Option.map_eq_some_iff.mp found
  obtain ⟨terminal, threaded, turned, spoken, bound, read, logged, status⟩ := of_decide_eq_true known
  obtain ⟨labels, processes, run⟩ := sampleStores_run [] done
  exact ⟨labels, _, row, run, found, terminal, threaded, turned, spoken, bound, read, logged, status⟩

theorem SampleSealed.run {pool : AdapterPool} {row : AttemptRow} (sealed : SampleSealed pool.store row) :
    ∃ labels later, Run (Steps adapterHost sampleUnicode) pool labels ⟨pool.store, later⟩ := by
  obtain ⟨⟨outcome, after, final⟩, executed, same⟩ := Option.map_eq_some_iff.mp sealed.status
  obtain ⟨-, rfl⟩ := Prod.mk.inj same
  exact @call_runs pool.store _ (sampleSetting adapterHost) _ (.status sampleAttempt.binding) _ _ pool.processes executed

theorem attempts_stay_final_sample : ∃ labels pool more later row, Run (Steps adapterHost sampleUnicode) ⟨.empty, []⟩ labels pool ∧
    Run (Steps adapterHost sampleUnicode) pool more later ∧ row.status = .terminal ∧ later.store.find (text "a") = some row := by
  obtain ⟨labels, pool, row, run, found, sealed⟩ := sample_sealed
  obtain ⟨more, later, rest⟩ := sealed.run
  exact ⟨labels, pool, more, _, row, run, rest, sealed.terminal, (attempts_stay_final run rest).2.1 _ row found sealed.terminal⟩

theorem event_log_sound_sample : ∃ labels pool, Run (Steps adapterHost sampleUnicode) ⟨.empty, []⟩ labels pool ∧
    pool.store.events.length = 4 ∧ (∀ event ∈ pool.store.events, Logged adapterHost event) ∧
    (pool.store.events.map EventRow.digest).Nodup := by
  obtain ⟨labels, pool, row, run, found, sealed⟩ := sample_sealed
  obtain ⟨logged, distinct⟩ := event_log_sound run
  exact ⟨labels, pool, run, sealed.logged, fun event listed => (logged event listed).1, distinct⟩

end Switchyard.Nightshift
