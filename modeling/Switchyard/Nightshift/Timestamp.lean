import Switchyard.Nightshift.Control

/-! The timestamps of receipts. The adapter and the runner read them with different
patterns, to a moment with its nanoseconds and to a count of nanoseconds. -/

namespace Switchyard.Nightshift
open Library Json Runner

/-- The groups of a canonical timestamp: a fraction does not end in three zeros. -/
def rfc3339Groups (decimals : Decimals) (value : Text) : Option (Text × Text) :=
  match timestampGroups decimals.calendar value with
  | some (basis, fraction) =>
    if fraction = [] ∨ fraction.drop (fraction.length - 3) ≠ text "000" then some (basis, fraction) else none
  | none => none

/-- `_require_rfc3339`. -/
def requireRfc3339 (decimals : Decimals) (field : Text) : Json → Except Failure (DateTime × Nat)
  | .str value =>
    match rfc3339Groups decimals value with
    | none => .error (.protocol (text "invalid " ++ field))
    | some (basis, fraction) =>
      match strptime decimals basis with
      | none => .error (.protocol (text "invalid " ++ field))
      | some moment =>
        .ok (moment, if fraction = [] then 0 else decimals.number (fraction ++ List.replicate (9 - fraction.length) 48))
  | _ => .error (.protocol (text "invalid " ++ field))

/-- `first > last` of two of these tuples. -/
def later (first last : DateTime × Nat) : Bool := decide (last.1.fields ++ [last.2] < first.1.fields ++ [first.2])

variable {decimals : Decimals} {value field : Text}

theorem requireRfc3339_iff {found : DateTime × Nat} : requireRfc3339 decimals field (.str value) = .ok found ↔
    ∃ basis fraction, Grouped decimals basis fraction value ∧
      (fraction = [] ∨ fraction.drop (fraction.length - 3) ≠ text "000") ∧
      strptime decimals basis = some found.1 ∧ found.2 = nanosOf decimals fraction := by
  have nanos (fraction : Text) : (if fraction = [] then 0 else decimals.number (fraction ++ List.replicate (9 - fraction.length) 48)) =
      nanosOf decimals fraction := by
    split
    next none =>
      subst none
      rw [nanosOf_eq]
      simp [Decimals.number]
    next => rfl
  unfold requireRfc3339 rfc3339Groups
  dsimp only
  constructor
  · intro read
    split at read
    · cases read
    next basis fraction found =>
      split at found
      next grouped =>
        split at found
        next fine =>
          cases found
          split at read
          · cases read
          next moment parsed =>
            cases read
            exact ⟨_, _, timestampGroups_iff.mp grouped, fine, parsed, nanos _⟩
        next => cases found
      next => cases found
  · rintro ⟨basis, fraction, grouped, fine, parsed, same⟩
    rw [timestampGroups_iff.mpr grouped]
    dsimp only
    rw [if_pos fine]
    dsimp only
    rw [parsed]
    dsimp only
    rw [nanos, ← same]

/-! The two readings of one string, and the order they induce. -/

/-- What is asked of one string: it is the one spelling of its instant, and both readers accept it or neither. -/
structure Spelled (decimals : Decimals) (field value : Text) : Prop where
  spelled : ∀ nanos, timestamp decimals.calendar (.str value) = .ok nanos → value = spelling nanos
  accepted : (∃ nanos, timestamp decimals.calendar (.str value) = .ok nanos) ↔
    ∃ found, requireRfc3339 decimals field (.str value) = .ok found

theorem refused_iff {fraction : Text} (numeral : Numeral fraction)
    (length : fraction = [] ∨ fraction.length = 3 ∨ fraction.length = 6 ∨ fraction.length = 9) :
    refusedFraction decimals fraction ↔ ¬ (fraction = [] ∨ fraction.drop (fraction.length - 3) ≠ text "000") := by
  rcases length with rfl | length
  · simp [refusedFraction]
  · have some : fraction ≠ [] := by
      rintro rfl
      simp at length
    have bound := number_lt decimals fraction
    unfold refusedFraction
    simp only [some, ne_eq, not_false_eq_true, true_and, false_or, not_not,
      last_three decimals numeral (show 3 ≤ fraction.length by omega)]
    rcases length with three | six | nine
    · rw [three] at bound ⊢
      omega
    · omega
    · omega

theorem spelled_iff (accepted : (∃ nanos, timestamp decimals.calendar (.str value) = .ok nanos) ∨
    ∃ found, requireRfc3339 decimals field (.str value) = .ok found) : Spelled decimals field value ↔ Ascii value := by
  constructor
  · intro spelled
    obtain ⟨nanos, read⟩ : ∃ nanos, timestamp decimals.calendar (.str value) = .ok nanos :=
      accepted.elim id spelled.accepted.mpr
    rw [spelled.spelled nanos read]
    exact spelling_ascii nanos
  · intro plain
    have numeral {basis fraction : Text} (grouped : Grouped decimals basis fraction value) : Numeral fraction := by
      intro point listed
      have some : fraction ≠ [] := List.ne_nil_of_mem listed
      have inside : point ∈ value := by
        rw [grouped.whole, fractionText, if_neg some]
        simp [listed]
      have decimal := grouped.decimal point listed
      rw [decimals.ascii point (plain point inside)] at decimal
      by_contra other
      rw [if_neg other] at decimal
      cases decimal
    refine ⟨fun nanos read => spelling_timestamp plain read, ?_, ?_⟩
    · rintro ⟨nanos, read⟩
      obtain ⟨basis, fraction, moment, grouped, fine, parsed, -⟩ := timestamp_iff.mp read
      rw [refused_iff (numeral grouped) grouped.length, not_not] at fine
      exact ⟨(moment, nanosOf decimals fraction), requireRfc3339_iff.mpr ⟨basis, fraction, grouped, fine, parsed, rfl⟩⟩
    · rintro ⟨found, read⟩
      obtain ⟨basis, fraction, grouped, fine, parsed, -⟩ := requireRfc3339_iff.mp read
      rw [← not_not (a := _ ∨ _), ← refused_iff (numeral grouped) grouped.length] at fine
      exact ⟨_, timestamp_iff.mpr ⟨basis, fraction, found.1, grouped, fine, parsed, rfl⟩⟩

private theorem fields_lt {first last : DateTime} {one two : Nat} : first.fields ++ [one] < last.fields ++ [two] ↔
    (first.date.year < last.date.year ∨ first.date.year = last.date.year ∧
      (first.date.month < last.date.month ∨ first.date.month = last.date.month ∧ first.date.day < last.date.day)) ∨
    first.date = last.date ∧ (first.hour < last.hour ∨ first.hour = last.hour ∧ (first.minute < last.minute ∨
      first.minute = last.minute ∧ (first.second < last.second ∨ first.second = last.second ∧ one < two))) := by
  obtain ⟨⟨year, month, day⟩, hour, minute, second⟩ := first
  obtain ⟨⟨year', month', day'⟩, hour', minute', second'⟩ := last
  simp only [DateTime.fields, List.cons_append, List.nil_append, List.cons_lt_cons_iff, List.lt_irrefl, and_false, or_false,
    Gregorian.Date.mk.injEq]
  omega

/-- An earlier moment has fewer nanoseconds. -/
private theorem instant_lt {first last : DateTime} {one two : Nat} (left : first.Valid) (right : last.Valid)
    (small : one < 1000000000) (fields : first.fields ++ [one] < last.fields ++ [two]) :
    timegm first * 1000000000 + one < timegm last * 1000000000 + two := by
  have hour := left.hour
  have minute := left.minute
  have second := left.second
  unfold timegm
  rcases fields_lt.mp fields with earlier | ⟨same, clock⟩
  · have days := Gregorian.toOrdinal_lt left.date right.date earlier
    omega
  · rw [same]
    omega

/-- The nanoseconds of two moments compare as their fields do. -/
theorem instant_order {first last : DateTime} {one two : Nat} (left : first.Valid) (right : last.Valid) (small : one < 1000000000)
    (little : two < 1000000000) : timegm first * 1000000000 + one < timegm last * 1000000000 + two ↔
      first.fields ++ [one] < last.fields ++ [two] := by
  refine ⟨fun less => ?_, instant_lt left right small⟩
  have back : ¬ last.fields ++ [two] < first.fields ++ [one] := fun before =>
    Int.lt_asymm less (instant_lt right left little before)
  rw [fields_lt] at back ⊢
  rcases Nat.lt_trichotomy first.date.year last.date.year with before | year | after
  · exact .inl (.inl before)
  · rcases Nat.lt_trichotomy first.date.month last.date.month with before | month | after
    · exact .inl (.inr ⟨year, .inl before⟩)
    · rcases Nat.lt_trichotomy first.date.day last.date.day with before | day | after
      · exact .inl (.inr ⟨year, .inr ⟨month, before⟩⟩)
      · have date : first.date = last.date := by
          obtain ⟨⟨y, m, d⟩, _, _, _⟩ := first
          obtain ⟨⟨y', m', d'⟩, _, _, _⟩ := last
          dsimp only at year month day
          rw [year, month, day]
        refine .inr ⟨date, ?_⟩
        have clock : ¬ (last.hour < first.hour ∨ last.hour = first.hour ∧ (last.minute < first.minute ∨
            last.minute = first.minute ∧ (last.second < first.second ∨ last.second = first.second ∧ two < one))) :=
          fun before => back (.inr ⟨date.symm, before⟩)
        unfold timegm at less
        rw [date] at less
        omega
      · exact absurd (.inl (.inr ⟨year.symm, .inr ⟨month.symm, after⟩⟩)) back
    · exact absurd (.inl (.inr ⟨year.symm, .inl after⟩)) back
  · exact absurd (.inl (.inl after)) back

theorem nanosOf_lt (decimals : Decimals) {fraction : Text}
    (length : fraction = [] ∨ fraction.length = 3 ∨ fraction.length = 6 ∨ fraction.length = 9) :
    nanosOf decimals fraction < 1000000000 := by
  have short : fraction.length ≤ 9 := by
    rcases length with rfl | length
    · exact Nat.zero_le 9
    · omega
  have bound := number_lt decimals (fraction ++ List.replicate (9 - fraction.length) 48)
  rw [List.length_append, List.length_replicate, Nat.add_sub_cancel' short] at bound
  exact bound

/-- Canonical timestamps: the spelling that a clock reading gets is read back; a string that either reader accepts
is the one spelling of its instant, and is accepted by both; and both compare instants. -/
structure CanonicalTimestamps (decimals : Decimals) : Prop where
  written : ∀ nanos, 0 ≤ nanos → Dated nanos → timestamp decimals.calendar (.str (spelling nanos)) = .ok nanos
  now : ∀ now : Nanoseconds, utcNow decimals.calendar now = spelling now.toInt
  spelled : ∀ field value, (∃ nanos, timestamp decimals.calendar (.str value) = .ok nanos) ∨
    (∃ found, requireRfc3339 decimals field (.str value) = .ok found) → (Spelled decimals field value ↔ Ascii value)
  ordered : ∀ field first last one two left right, timestamp decimals.calendar (.str first) = .ok one →
    timestamp decimals.calendar (.str last) = .ok two → requireRfc3339 decimals field (.str first) = .ok left →
    requireRfc3339 decimals field (.str last) = .ok right → (one < two ↔ later right left = true)

theorem canonical_timestamps (decimals : Decimals) : CanonicalTimestamps decimals where
  written nanos _ dated := timestamp_spelling decimals dated
  now := utcNow_spelling decimals
  spelled _ _ := spelled_iff
  ordered field first last one two left right readFirst readLast foundFirst foundLast := by
    have same {value : Text} {nanos : Int} {found : DateTime × Nat} (read : timestamp decimals.calendar (.str value) = .ok nanos)
        (required : requireRfc3339 decimals field (.str value) = .ok found) :
        found.1.Valid ∧ found.2 < 1000000000 ∧ nanos = timegm found.1 * 1000000000 + found.2 := by
      obtain ⟨basis, fraction, moment, grouped, -, parsed, rfl⟩ := timestamp_iff.mp read
      obtain ⟨basis', fraction', grouped', -, parsed', part⟩ := requireRfc3339_iff.mp required
      have groups := (timestampGroups_iff.mpr grouped).symm.trans (timestampGroups_iff.mpr grouped')
      cases groups
      obtain rfl := Option.some.inj (parsed.symm.trans parsed')
      rw [part]
      exact ⟨strptime_valid parsed, nanosOf_lt decimals grouped.length, rfl⟩
    obtain ⟨validFirst, smallFirst, rfl⟩ := same readFirst foundFirst
    obtain ⟨validLast, smallLast, rfl⟩ := same readLast foundLast
    rw [instant_order validFirst validLast smallFirst smallLast, later, decide_eq_true_eq]

/-- The decimal digits of ASCII and the Arabic-Indic ones. -/
def sampleDecimals : Decimals where
  value point :=
    if 48 ≤ point.val ∧ point.val ≤ 57 then some (point.val - 48)
    else if 0x660 ≤ point.val ∧ point.val ≤ 0x669 then some (point.val - 0x660) else none
  ascii point plain := by
    split
    · rfl
    · exact if_neg (by omega)
  small point digit found := by
    split at found
    · have := Option.some.inj found
      omega
    · split at found
      · have := Option.some.inj found
        omega
      · cases found

def sampleArabic : Text := ([0x662, 0x660, 0x662, 0x666] : List CodePoint) ++ text "-01-01T00:00:00Z"

def samplePlain : Text := text "2026-01-01T00:00:00Z"

/-- An instant whose year is written in Arabic-Indic digits is accepted under a second spelling. -/
theorem canonical_timestamps_arabic : timestamp sampleDecimals.calendar (.str sampleArabic) = .ok 1767225600000000000 ∧
    timestamp sampleDecimals.calendar (.str samplePlain) = .ok 1767225600000000000 ∧ sampleArabic ≠ samplePlain := by
  decide +kernel

end Switchyard.Nightshift
