import Switchyard.Nightshift.Finality

/-! What is kept of a final message: the longest start of it, in whole characters, that
the request has room for. -/

namespace Switchyard.Nightshift
open Library Json Runner AppServer

variable {host : Host} {unicode : Unicode} {labels : Labels} {pool : AdapterPool} {value bounded : Text}

theorem encoded_ok {raw : Bytes} : encoded value = .ok raw ↔ Text.encode? value = some raw := by
  unfold encoded
  split <;> simp_all

theorem encoded_length {raw : Bytes} (utf8 : encoded value = .ok raw) : value.Scalar ∧ raw.length = Text.utf8Length value :=
  have found := encoded_ok.mp utf8
  ⟨Text.encode?_isSome.mp (by rw [found]; rfl), Text.encode?_length found⟩

/-- The longest start of a text that fits. -/
structure Fits (bound : Int) (value kept : Text) : Prop where
  start : kept <+: value
  within : (Text.utf8Length kept : Int) ≤ bound
  longest : ∀ shorter, shorter <+: value → (Text.utf8Length shorter : Int) ≤ bound → shorter.length ≤ kept.length

theorem fits_fitting {bound : Int} (positive : 0 ≤ bound) : Fits bound value (Text.fitting bound.toNat value) where
  start := Text.fitting_prefix _ _
  within := by
    have within := Text.fitting_within bound.toNat value
    omega
  longest shorter start within := (Text.fitting_longest start (by omega)).length_le

theorem fits_whole {bound : Int} (within : (Text.utf8Length value : Int) ≤ bound) : Fits bound value value where
  start := List.prefix_refl _
  within := within
  longest _ start _ := start.length_le

/-- What `_bounded_utf8` returns, for a bound that is a positive integer. -/
theorem boundedUtf8_scalar {maximum : Json} {bound : Int} (number : integer? maximum = some bound) (positive : 1 ≤ bound)
    (scalar : value.Scalar) : boundedUtf8 (some value) maximum =
      if (Text.utf8Length value : Int) ≤ bound then .ok (some value, false)
      else .ok (some (Text.fitting bound.toNat value), true) := by
  have utf8 : encoded value = .ok (value.flatMap Text.encodePoint) := encoded_ok.mpr (if_pos scalar)
  have size : (value.flatMap Text.encodePoint).length = Text.utf8Length value := rfl
  have kept := Text.decodeIgnoring_take scalar bound.toNat
  have step (next : Bytes → Except Failure (Option Text × Bool)) :
      (encoded value >>= next) = next (value.flatMap Text.encodePoint) := by rw [utf8]; rfl
  unfold boundedUtf8
  dsimp only
  rw [step]
  cases maximum with
  | int found =>
    cases number
    simp only [integer?, size, if_pos (show 0 ≤ bound by omega), kept]
    rfl
  | bool flag =>
    simp only [number, size, if_pos (show 0 ≤ bound by omega), kept]
    rfl
  | _ => cases number

theorem boundedUtf8_unscalar {maximum : Json} {result : Option Text × Bool} (done : boundedUtf8 (some value) maximum = .ok result) :
    value.Scalar := by
  unfold boundedUtf8 at done
  obtain ⟨raw, utf8, -⟩ := bind_ok.mp done
  exact (encoded_length utf8).1

/-- The whole text, if it fits, and otherwise its longest start that does. -/
theorem boundedUtf8_fits {maximum : Json} {bound : Int} (number : integer? maximum = some bound) (positive : 1 ≤ bound) {kept : Text}
    {truncated : Bool} (done : boundedUtf8 (some value) maximum = .ok (some kept, truncated)) : Fits bound value kept := by
  rw [boundedUtf8_scalar number positive (boundedUtf8_unscalar done)] at done
  split at done
  next within =>
    cases done
    exact fits_whole within
  next =>
    cases done
    exact fits_fitting (by omega)

/-- What stands in the store as a final message, and what the App Server had shown. -/
structure Spoken (host : Host) (labels : Labels) (row : AttemptRow) (message reported : Text) (maximum : Json) : Prop where
  shown : ∃ earlier shown turn, Caller.Recorded labels earlier ∧ Shown earlier shown turn ∧ shown.attemptId = row.attemptId ∧
    finalAgentMessage turn = some reported
  requested : ∃ request, loads host row.request = .ok request ∧ subscript request "maximum_output_bytes" = .ok maximum
  bounded : ∃ truncated, boundedUtf8 (some reported) maximum = .ok (some message, truncated)
  started : ∃ request bound, canonical host (.obj request) = .ok row.request ∧
    integer? (Json.get request "maximum_output_bytes") = some bound ∧ 1024 ≤ bound

/-- The request that a row retains was accepted with a bound. -/
theorem started_run (run : Run (Steps host unicode) ⟨.empty, []⟩ labels pool) {row : AttemptRow} (listed : row ∈ pool.store.rows) :
    ∃ request bound, canonical host (.obj request) = .ok row.request ∧
      integer? (Json.get request "maximum_output_bytes") = some bound ∧ 1024 ≤ bound := by
  have ruled := run_ruled run
  obtain ⟨history, fresh, made, kin⟩ := (ruled.holds.borne row listed).inserted
  obtain ⟨allowed, -, -⟩ := ruled.lawful _ _ made
  obtain ⟨request, valid, canonically, -⟩ := (allowed : Fresh host unicode fresh).started
  obtain ⟨-, bound, number, least⟩ := validateStart_bounds valid
  have same : row.request = fresh.request := by rw [kin]
  exact ⟨request, bound, same ▸ canonically, number, least⟩

theorem spoken_run (run : Run (Steps host unicode) ⟨.empty, []⟩ labels pool) {row : AttemptRow} {message : Text}
    (listed : row ∈ pool.store.rows) (said : row.finalMessage = some message) :
    ∃ reported maximum, Spoken host labels row message reported maximum := by
  have ruled := run_ruled run
  obtain ⟨changes, ⟨history, made⟩, same⟩ := (ruled.holds.borne row listed).spoken message said
  obtain ⟨lawful, -, recorded⟩ := ruled.lawful _ _ made
  cases (lawful : Lawful host unicode history row.attemptId changes) with
  | @reported completed shown turn maximum bounded truncated reported =>
    cases same
    obtain ⟨_, found⟩ := recorded _ reported.selected
    obtain ⟨-, now, known, kin, -⟩ := ruled.holds.found _ _ _ found
    have named := (AdapterStore.find_some known).2
    obtain rfl := Option.some.inj ((AdapterStore.find_of_mem ruled.holds.unique listed rfl).symm.trans known)
    have request : row.request = shown.request := by rw [kin]
    have called : shown.attemptId = row.attemptId := by rw [kin]
    cases words : finalAgentMessage turn with
    | none =>
      have cut := reported.bounded
      rw [words] at cut
      cases cut
    | some text =>
      refine ⟨text, maximum, ⟨history, shown, turn, recorded, reported.shown, called, words⟩, request ▸ reported.requested, ⟨truncated, ?_⟩,
        started_run run listed⟩
      rw [← words]
      exact reported.bounded
  | _ => cases same

/-- `_bounded_utf8` keeps a text that fits and cuts any other to its longest start that does; and in every run what is
stored as a final message is such a part of what the App Server reported, with no character that was not reported. -/
theorem output_truncation (run : Run (Steps host unicode) ⟨.empty, []⟩ labels pool) :
    (∀ (value : Text) (bound : Int), value.Scalar → 1 ≤ bound →
      (boundedUtf8 (some value) (.int bound) = .ok (some value, false) ↔ (Text.utf8Length value : Int) ≤ bound) ∧
      (¬ (Text.utf8Length value : Int) ≤ bound →
        ∃ kept, boundedUtf8 (some value) (.int bound) = .ok (some kept, true) ∧ Fits bound value kept)) ∧
    ∀ row ∈ pool.store.rows, ∀ message, row.finalMessage = some message → ∃ reported maximum,
      Spoken host labels row message reported maximum ∧ reported.Scalar ∧ ∀ bound, integer? maximum = some bound → 1 ≤ bound →
        (Text.utf8Length message : Int) ≤ bound ∧ Fits bound reported message := by
  refine ⟨fun value bound scalar positive => ?_, fun row listed message said => ?_⟩
  · rw [boundedUtf8_scalar rfl positive scalar]
    refine ⟨⟨fun same => ?_, fun within => if_pos within⟩, fun beyond => ⟨_, if_neg beyond, fits_fitting (by omega)⟩⟩
    by_contra beyond
    rw [if_neg beyond] at same
    cases (Prod.mk.inj (Except.ok.inj same)).2
  · obtain ⟨reported, maximum, spoken⟩ := spoken_run run listed said
    obtain ⟨truncated, cut⟩ := spoken.bounded
    refine ⟨reported, maximum, spoken, boundedUtf8_unscalar cut, fun bound number positive => ?_⟩
    have fits := boundedUtf8_fits number positive cut
    exact ⟨fits.within, fits⟩

/-- A message of 1025 bytes that ends in a replacement character and a character of two bytes, into which the bound falls. -/
def sampleLong : Text := List.replicate 1020 97 ++ [0xFFFD, 233]

def sampleKept : Text := List.replicate 1020 97 ++ [0xFFFD]

/-- The long message is reported of a completed turn, and its start is stored. -/
private theorem sample_cut : ∃ store row, sampleStores sampleLong .empty [.start sampleStart sampleBriefRaw, .status sampleAttempt.binding] =
    some store ∧ store.find (text "a") = some row ∧ row.finalMessage = some sampleKept ∧
      sampleDocuments.lookup row.request.length = some sampleStart := by
  have said : ((sampleStores sampleLong .empty [.start sampleStart sampleBriefRaw, .status sampleAttempt.binding]).bind fun store =>
      (store.find (text "a")).map fun row => decide (row.finalMessage = some sampleKept ∧
        sampleDocuments.lookup row.request.length = some sampleStart)) = some true := by decide +kernel
  obtain ⟨store, done, found⟩ := Option.bind_eq_some_iff.mp said
  obtain ⟨row, found, known⟩ := Option.map_eq_some_iff.mp found
  exact ⟨store, row, done, found, of_decide_eq_true known⟩

theorem output_truncation_sample : ∃ labels pool row reported, Run (Steps adapterHost sampleUnicode) ⟨.empty, []⟩ labels pool ∧
    row ∈ pool.store.rows ∧ row.finalMessage = some sampleKept ∧ Spoken adapterHost labels row sampleKept reported (.int 1024) ∧
    Fits 1024 reported sampleKept ∧ boundedUtf8 (some sampleLong) (.int 1024) = .ok (some sampleKept, true) ∧
    Fits 1024 sampleLong sampleKept := by
  obtain ⟨store, row, done, found, said, request⟩ := sample_cut
  obtain ⟨labels, later, run⟩ := sampleStores_run [] done
  have listed := (AdapterStore.find_some found).1
  have cuts : boundedUtf8 (some sampleLong) (.int 1024) = .ok (some sampleKept, true) := by decide +kernel
  obtain ⟨cut, kept⟩ := output_truncation run
  obtain ⟨other, same, fits⟩ := (cut sampleLong 1024 (by decide +kernel) (by decide)).2 (by decide +kernel)
  obtain ⟨reported, maximum, spoken, -, bounded⟩ := kept row listed sampleKept said
  obtain rfl : other = sampleKept := Option.some.inj (congrArg Prod.fst (Except.ok.inj (same.symm.trans cuts)))
  obtain ⟨read, loaded, named⟩ := spoken.requested
  have start : adapterHost.loads row.request = .ok (.obj sampleStart) := by simp only [adapterHost, request]
  simp only [loads, start] at loaded
  cases loaded
  have bound : subscript (.obj sampleStart) "maximum_output_bytes" = .ok (.int 1024) := by decide
  cases bound.symm.trans named
  exact ⟨labels, _, row, reported, run, listed, said, spoken, (bounded 1024 rfl (by decide)).2, cuts, fits⟩

/-- A replacement character is stored where it is what the App Server reports. -/
theorem output_truncation_replacement : ∃ labels pool row message, Run (Steps adapterHost sampleUnicode) ⟨.empty, []⟩ labels pool ∧
    row ∈ pool.store.rows ∧ row.finalMessage = some message ∧ (0xFFFD : CodePoint) ∈ message := by
  obtain ⟨store, row, done, found, said, -⟩ := sample_cut
  obtain ⟨labels, later, run⟩ := sampleStores_run [] done
  exact ⟨labels, _, row, _, run, (AdapterStore.find_some found).1, said, List.mem_append_right _ (List.mem_singleton_self _)⟩

end Switchyard.Nightshift
