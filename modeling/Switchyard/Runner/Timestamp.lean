import Switchyard.Runner.Closure
import Mathlib.Tactic.Ring
import Switchyard.Library.Gregorian

/-! The calendar behind the prelaunch timestamps. Python takes any Unicode decimal
digit for a digit, so an instant has one spelling in ASCII and others beyond it. -/

namespace Switchyard.Runner
open Library Gregorian

/-- The decimal digits of Unicode: those of ASCII, and others beyond it. -/
structure Decimals where
  value : CodePoint → Option Nat
  ascii : ∀ point : CodePoint, point.val < 128 →
    value point = if 48 ≤ point.val ∧ point.val ≤ 57 then some (point.val - 48) else none
  small : ∀ point digit, value point = some digit → digit < 10

/-- `int(value)`. -/
def Decimals.number (decimals : Decimals) (value : Text) : Nat :=
  value.foldl (fun total point => 10 * total + (decimals.value point).getD 0) 0

structure DateTime where
  date : Date
  hour : Nat
  minute : Nat
  second : Nat
deriving DecidableEq

structure DateTime.Valid (moment : DateTime) : Prop where
  date : moment.date.Valid
  year : moment.date.year ≤ 9999
  hour : moment.hour < 24
  minute : moment.minute < 60
  second : moment.second < 60

/-- In the order in which aware datetimes of one zone compare. -/
def DateTime.fields (moment : DateTime) : List Nat :=
  [moment.date.year, moment.date.month, moment.date.day, moment.hour, moment.minute, moment.second]

/-- `[low-high]`, of ASCII digits. -/
def within (low high : Nat) (point : CodePoint) : Bool := 48 + low ≤ point.val && point.val ≤ 48 + high

/-- `datetime.strptime(basis, "%Y-%m-%dT%H:%M:%S")`, where the separators have been matched. What
follows the first digit of a day, an hour, a minute or a second may be any decimal digit. -/
def strptime (decimals : Decimals) : Text → Option DateTime
  | [y, e, a, r, _, m, o, _, d, u, _, h, i, _, n, j, _, s, k] =>
    let month := within 1 1 m && within 0 2 o || within 0 0 m && within 1 9 o
    let day := within 3 3 d && within 0 1 u || within 1 2 d || within 0 0 d && within 1 9 u
    let hour := within 2 2 h && within 0 3 i || within 0 1 h
    let minute := within 0 5 n
    let second := within 6 6 s && within 0 1 k || within 0 5 s
    let date : Date := ⟨decimals.number [y, e, a, r], decimals.number [m, o], decimals.number [d, u]⟩
    if month && day && hour && minute && second && decide date.Valid && decide (decimals.number [s, k] < 60) then
      some ⟨date, decimals.number [h, i], decimals.number [n, j], decimals.number [s, k]⟩
    else none
  | _ => none

/-- `calendar.timegm`. -/
def timegm (moment : DateTime) : Int :=
  (((moment.date.toOrdinal - 719163 : Int) * 24 + moment.hour) * 60 + moment.minute) * 60 + moment.second

/-- `datetime.fromtimestamp(seconds, timezone.utc)`. -/
def fromTimestamp (seconds : Int) : DateTime where
  date := .ofOrdinal (seconds.fdiv 86400 + 719163).toNat
  hour := (seconds.fmod 86400).toNat / 3600
  minute := (seconds.fmod 86400).toNat / 60 % 60
  second := (seconds.fmod 86400).toNat % 60

/-- `strftime("%Y-%m-%dT%H:%M:%S")`. -/
def strftime (moment : DateTime) : Text :=
  digits 4 moment.date.year ++ text "-" ++ digits 2 moment.date.month ++ text "-" ++ digits 2 moment.date.day ++ text "T" ++
    digits 2 moment.hour ++ text ":" ++ digits 2 moment.minute ++ text ":" ++ digits 2 moment.second

/-- The calendar of Python. -/
def Decimals.calendar (decimals : Decimals) : Calendar where
  decimal := decimals.value
  seconds basis := (strptime decimals basis).map timegm
  spelled seconds := strftime (fromTimestamp seconds)

/-- The digits of a fraction of a second, in the fewest groups of three. -/
def fractionDigits (nanos : Nat) : Text :=
  if nanos = 0 then []
  else if nanos % 1000000 = 0 then digits 3 (nanos / 1000000)
  else if nanos % 1000 = 0 then digits 6 (nanos / 1000)
  else digits 9 nanos

def fractionText (fraction : Text) : Text := if fraction = [] then [] else text "." ++ fraction

/-- What `_utc_now` writes when the clock counts these nanoseconds. -/
def spelling (nanos : Int) : Text :=
  strftime (fromTimestamp (nanos.fdiv 1000000000)) ++ fractionText (fractionDigits (nanos.fmod 1000000000).toNat) ++ text "Z"

/-- ASCII digits only. -/
def Numeral (value : Text) : Prop := ∀ point ∈ value, 48 ≤ point.val ∧ point.val ≤ 57

def Ascii (value : Text) : Prop := ∀ point ∈ value, point.val < 128

instance (value : Text) : Decidable (Ascii value) :=
  decidable_of_iff (value.all fun point => point.val < 128) (by simp [Ascii])

section
variable {decimals : Decimals} {value first last : Text}

theorem Numeral.append (left : Numeral first) (right : Numeral last) : Numeral (first ++ last) := by
  intro point listed
  rcases List.mem_append.mp listed with listed | listed
  · exact left point listed
  · exact right point listed

theorem Numeral.ascii (numeral : Numeral value) : Ascii value := fun point listed => by
  have := numeral point listed
  omega

theorem digits_length (width count : Nat) : (digits width count).length = width := by
  induction width generalizing count with
  | zero => rfl
  | succ width ih => simp [digits, ih]

private theorem digit_value {digit : Nat} (small : digit < 10) : (Fin.ofNat 0x110000 (48 + digit)).val = 48 + digit :=
  Nat.mod_eq_of_lt (by omega)

theorem digits_numeral (width count : Nat) : Numeral (digits width count) := by
  induction width generalizing count with
  | zero => nofun
  | succ width ih =>
    refine (ih _).append fun point listed => ?_
    obtain rfl := List.mem_singleton.mp listed
    rw [digit_value (Nat.mod_lt _ (by decide))]
    omega

theorem decimals_value (decimals : Decimals) {digit : Nat} (small : digit < 10) :
    decimals.value (Fin.ofNat 0x110000 (48 + digit)) = some digit := by
  rw [decimals.ascii _ (by rw [digit_value small]; omega), digit_value small, if_pos (by omega)]
  congr 1
  omega

theorem number_snoc (value : Text) (point : CodePoint) :
    decimals.number (value ++ [point]) = 10 * decimals.number value + (decimals.value point).getD 0 := by
  simp [Decimals.number]

theorem number_digits (decimals : Decimals) (width count : Nat) : decimals.number (digits width count) = count % 10 ^ width := by
  induction width generalizing count with
  | zero => simp [digits, Decimals.number, Nat.mod_one]
  | succ width ih =>
    rw [digits, number_snoc, ih, decimals_value _ (Nat.mod_lt _ (by decide)), Option.getD_some, Nat.pow_succ,
      Nat.mul_comm (10 ^ width) 10, Nat.mod_mul]
    omega

theorem number_append (decimals : Decimals) (first last : Text) :
    decimals.number (first ++ last) = decimals.number first * 10 ^ last.length + decimals.number last := by
  induction last using List.reverseRecOn with
  | nil => simp [Decimals.number]
  | append_singleton rest point ih =>
    rw [← List.append_assoc, number_snoc, number_snoc, ih, List.length_append, List.length_singleton, Nat.pow_succ]
    ring

theorem numeral_value {point : CodePoint} (digit : 48 ≤ point.val ∧ point.val ≤ 57) :
    decimals.value point = some (point.val - 48) := by
  rw [decimals.ascii point (by omega), if_pos digit]

/-- ASCII digits are the digits of their number. -/
theorem digits_number (decimals : Decimals) (numeral : Numeral value) : digits value.length (decimals.number value) = value := by
  induction value using List.reverseRecOn with
  | nil => rfl
  | append_singleton rest point ih =>
    have digit := numeral point (by simp)
    rw [List.length_append, List.length_singleton, digits, number_snoc, numeral_value digit, Option.getD_some]
    have whole : (10 * decimals.number rest + (point.val - 48)) / 10 = decimals.number rest := by omega
    have unit : (10 * decimals.number rest + (point.val - 48)) % 10 = point.val - 48 := by omega
    rw [whole, unit, ih fun other listed => numeral other (List.mem_append_left _ listed)]
    congr 2
    apply Fin.ext
    rw [digit_value (by omega)]
    omega

theorem number_lt (decimals : Decimals) (value : Text) : decimals.number value < 10 ^ value.length := by
  induction value using List.reverseRecOn with
  | nil => simp [Decimals.number]
  | append_singleton rest point ih =>
    rw [number_snoc, List.length_append, List.length_singleton, Nat.pow_succ]
    have digit : (decimals.value point).getD 0 < 10 := by
      cases found : decimals.value point with
      | none => decide
      | some digit => exact decimals.small point digit found
    omega

/-- The basis that the pattern matches. -/
structure Shaped (decimals : Decimals) (basis : Text) : Prop where
  length : basis.length = 19
  shaped : ((basis.zip (text "dddd-dd-ddTdd:dd:dd")).all fun pair =>
    if pair.2.val == 100 then (decimals.value pair.1).isSome else pair.1 == pair.2) = true

/-- A basis and a fraction as the pattern groups them. -/
structure Grouped (decimals : Decimals) (basis fraction value : Text) : Prop where
  shaped : Shaped decimals basis
  length : fraction = [] ∨ fraction.length = 3 ∨ fraction.length = 6 ∨ fraction.length = 9
  decimal : ∀ point ∈ fraction, (decimals.value point).isSome = true
  whole : value = basis ++ fractionText fraction ++ text "Z"

theorem timestampGroups_iff {basis fraction : Text} :
    timestampGroups decimals.calendar value = some (basis, fraction) ↔ Grouped decimals basis fraction value := by
  constructor
  · intro found
    unfold timestampGroups at found
    simp only at found
    split at found
    next shaped =>
      obtain ⟨length, shaped⟩ := Bool.and_eq_true_iff.mp shaped
      have whole := List.take_append_drop 19 value
      split at found
      next plain =>
        cases found
        refine ⟨⟨beq_iff_eq.mp length, shaped⟩, .inl rfl, fun _ listed => absurd listed List.not_mem_nil, ?_⟩
        rw [fractionText, if_pos rfl, List.append_nil, ← plain]
        exact whole.symm
      next =>
        split at found
        next fractional =>
          cases found
          simp only [Bool.and_eq_true, decide_eq_true_eq, List.contains_eq_mem, List.mem_cons, List.not_mem_nil, or_false,
            List.all_eq_true] at fractional
          obtain ⟨⟨⟨dot, zulu⟩, three⟩, decimal⟩ := fractional
          have some : (value.drop 20).dropLast ≠ [] := by
            intro none
            rw [none] at three
            simp at three
          refine ⟨⟨beq_iff_eq.mp length, shaped⟩, .inr (by omega), decimal, ?_⟩
          have cut : value.drop 19 = text "." ++ value.drop 20 := by
            cases later : value.drop 19 with
            | nil =>
              rw [later] at dot
              cases dot
            | cons point rest =>
              rw [later] at dot
              have tail : value.drop 20 = rest := by rw [show 20 = 19 + 1 from rfl, ← List.drop_drop, later]; rfl
              cases dot
              rw [tail]
              rfl
          have closing : value.drop 20 = (value.drop 20).dropLast ++ text "Z" := by
            have nonempty : value.drop 20 ≠ [] := fun none => some (by rw [none]; rfl)
            have parts := List.dropLast_append_getLast nonempty
            rw [List.getLast?_eq_some_getLast nonempty] at zulu
            rw [show text "Z" = [(value.drop 20).getLast nonempty] by rw [Option.some.inj zulu]; rfl]
            exact parts.symm
          rw [fractionText, if_neg some, List.append_assoc, List.append_assoc, ← closing, ← cut]
          exact whole.symm
        next => cases found
    next => cases found
  · rintro ⟨⟨length, shaped⟩, size, decimal, rfl⟩
    unfold timestampGroups
    have front : (basis ++ fractionText fraction ++ text "Z").take 19 = basis := by
      rw [List.append_assoc, List.take_append, length, List.take_of_length_le (by omega)]
      simp
    have back : (basis ++ fractionText fraction ++ text "Z").drop 19 = fractionText fraction ++ text "Z" := by
      rw [List.append_assoc, List.drop_append, length, List.drop_of_length_le (by omega)]
      simp
    have later : (basis ++ fractionText fraction ++ text "Z").drop 20 = (fractionText fraction ++ text "Z").drop 1 := by
      rw [show 20 = 19 + 1 from rfl, ← List.drop_drop, back]
    simp only [front, back, later]
    have calendar : decimals.calendar.decimal = decimals.value := rfl
    rw [calendar, shaped, length]
    simp only [BEq.rfl, Bool.and_self, if_true]
    by_cases none : fraction = []
    · subst none
      rfl
    · have longer : fractionText fraction ++ text "Z" = text "." ++ (fraction ++ text "Z") := by
        rw [fractionText, if_neg none, List.append_assoc]
      have rest : (text "." ++ (fraction ++ text "Z")).drop 1 = fraction ++ text "Z" := rfl
      have last : (fraction ++ text "Z").getLast? = (text "Z").head? := List.getLast?_concat
      have first : (fraction ++ text "Z").dropLast = fraction := List.dropLast_concat
      have other : text "." ++ (fraction ++ text "Z") ≠ text "Z" := by
        intro same
        have heads : some (46 : CodePoint) = some 90 := congrArg List.head? same
        exact absurd heads (by decide)
      rw [longer, if_neg other, rest, last, first, if_pos]
      have sizes : fraction.length = 3 ∨ fraction.length = 6 ∨ fraction.length = 9 := size.resolve_left none
      simp only [Bool.and_eq_true, List.contains_eq_mem, List.mem_cons, List.not_mem_nil, or_false, decide_eq_true_eq,
        List.all_eq_true]
      exact ⟨⟨⟨rfl, trivial⟩, sizes⟩, decimal⟩

/-- When a fraction is refused. -/
def refusedFraction (decimals : Decimals) (fraction : Text) : Prop :=
  fraction ≠ [] ∧ (decimals.number fraction = 0 ∨ 3 < fraction.length ∧ fraction.drop (fraction.length - 3) = text "000")

/-- The nanoseconds of a fraction. -/
def nanosOf (decimals : Decimals) (fraction : Text) : Nat :=
  decimals.number (fraction ++ List.replicate (9 - fraction.length) 48)

theorem timestamp_iff {nanos : Int} : timestamp decimals.calendar (.str value) = .ok nanos ↔
    ∃ basis fraction moment, Grouped decimals basis fraction value ∧ ¬ refusedFraction decimals fraction ∧
      strptime decimals basis = some moment ∧ nanos = timegm moment * 1000000000 + nanosOf decimals fraction := by
  unfold timestamp
  dsimp only
  constructor
  · intro read
    split at read
    · cases read
    next basis fraction grouped =>
      split at read
      · cases read
      next fine =>
        split at read
        · cases read
        next seconds dated =>
          cases read
          obtain ⟨moment, parsed, rfl⟩ := Option.map_eq_some_iff.mp dated
          exact ⟨basis, fraction, moment, timestampGroups_iff.mp grouped, fine, parsed, rfl⟩
  · rintro ⟨basis, fraction, moment, grouped, fine, parsed, rfl⟩
    have dated : decimals.calendar.seconds basis = some (timegm moment) := by
      show (strptime decimals basis).map timegm = _
      rw [parsed, Option.map_some]
    simp only [timestampGroups_iff.mpr grouped, dated]
    exact if_neg fine

theorem nanosOf_eq (decimals : Decimals) (fraction : Text) :
    nanosOf decimals fraction = decimals.number fraction * 10 ^ (9 - fraction.length) := by
  have zeros (count : Nat) : decimals.number (List.replicate count 48) = 0 := by
    induction count with
    | zero => rfl
    | succ count ih =>
      have zero : decimals.value 48 = some 0 := decimals_value decimals (show 0 < 10 by decide)
      rw [List.replicate_succ', number_snoc, ih, zero]
      rfl
  rw [nanosOf, number_append, zeros, List.length_replicate, Nat.add_zero]

/-- The last three ASCII digits are zeros exactly where the number is a multiple of a thousand. -/
theorem last_three (decimals : Decimals) (numeral : Numeral value) (three : 3 ≤ value.length) :
    value.drop (value.length - 3) = text "000" ↔ decimals.number value % 1000 = 0 := by
  have whole := List.take_append_drop (value.length - 3) value
  have length : (value.drop (value.length - 3)).length = 3 := by
    rw [List.length_drop]
    omega
  have tail : Numeral (value.drop (value.length - 3)) := fun point listed => numeral point (List.mem_of_mem_drop listed)
  have split : decimals.number value % 1000 = decimals.number (value.drop (value.length - 3)) := by
    have bound := number_lt decimals (value.drop (value.length - 3))
    have sum := number_append decimals (value.take (value.length - 3)) (value.drop (value.length - 3))
    rw [whole, length] at sum
    rw [length] at bound
    omega
  have zeros : decimals.number (text "000") = 0 := number_digits decimals 3 0
  rw [split]
  constructor
  · intro same
    rw [same, zeros]
  · intro zero
    have spelled := digits_number decimals tail
    rw [zero, length] at spelled
    exact spelled.symm

theorem fractionDigits_numeral (nanos : Nat) : Numeral (fractionDigits nanos) := by
  unfold fractionDigits
  split
  · exact fun _ listed => absurd listed List.not_mem_nil
  · split
    · exact digits_numeral _ _
    · split
      · exact digits_numeral _ _
      · exact digits_numeral _ _

/-- Fractions as they are written: the digits and the precision give the nanoseconds back, and are not refused. -/
theorem fractionDigits_read {nanos : Nat} (small : nanos < 1000000000) :
    (fractionDigits nanos = [] ∨ (fractionDigits nanos).length = 3 ∨ (fractionDigits nanos).length = 6 ∨
        (fractionDigits nanos).length = 9) ∧
      nanosOf decimals (fractionDigits nanos) = nanos ∧ ¬ refusedFraction decimals (fractionDigits nanos) := by
  have refuses {width count : Nat} (three : 3 ≤ width) (fine : count % 10 ^ width ≠ 0)
      (precise : 3 < width → count % 10 ^ width % 1000 ≠ 0) : ¬ refusedFraction decimals (digits width count) := by
    rintro ⟨_, zero | ⟨longer, zeros⟩⟩
    · exact fine (number_digits decimals width count ▸ zero)
    · rw [last_three decimals (digits_numeral _ _) (by rw [digits_length]; exact three), number_digits] at zeros
      rw [digits_length] at longer
      exact precise longer zeros
  unfold fractionDigits
  split
  next zero =>
    subst zero
    exact ⟨.inl rfl, by rw [nanosOf_eq]; simp [Decimals.number], fun refused => refused.1 rfl⟩
  next some =>
    split
    next milli =>
      refine ⟨.inr (.inl (digits_length _ _)), ?_, refuses (Nat.le_refl 3) (by omega) (by omega)⟩
      rw [nanosOf_eq, number_digits, digits_length]
      omega
    next =>
      split
      next micro =>
        refine ⟨.inr (.inr (.inl (digits_length _ _))), ?_, refuses (by decide) (by omega) (by omega)⟩
        rw [nanosOf_eq, number_digits, digits_length]
        omega
      next =>
        refine ⟨.inr (.inr (.inr (digits_length _ _))), ?_, refuses (by decide) (by omega) (by omega)⟩
        rw [nanosOf_eq, number_digits, digits_length]
        omega

/-- An ASCII fraction that is not refused is the one that is written for its nanoseconds. -/
theorem fraction_unique (numeral : Numeral value)
    (length : value = [] ∨ value.length = 3 ∨ value.length = 6 ∨ value.length = 9) (fine : ¬ refusedFraction decimals value) :
    value = fractionDigits (nanosOf decimals value) ∧ nanosOf decimals value < 1000000000 := by
  have spelled := digits_number decimals numeral
  have bound := number_lt decimals value
  rw [nanosOf_eq]
  rcases length with rfl | three | six | nine
  · simp [Decimals.number, fractionDigits]
  · have nonzero : decimals.number value ≠ 0 := fun zero => fine ⟨by rintro rfl; simp at three, .inl zero⟩
    rw [three] at spelled bound ⊢
    refine ⟨?_, by omega⟩
    rw [fractionDigits, if_neg (by omega), if_pos (by omega)]
    have milli : decimals.number value * 10 ^ (9 - 3) / 1000000 = decimals.number value := by omega
    rw [milli]
    exact spelled.symm
  · have precise : decimals.number value % 1000 ≠ 0 := fun zeros =>
      fine ⟨by rintro rfl; simp at six, .inr ⟨by omega, (last_three decimals numeral (by omega)).mpr zeros⟩⟩
    rw [six] at spelled bound ⊢
    refine ⟨?_, by omega⟩
    rw [fractionDigits, if_neg (by omega), if_neg (by omega), if_pos (by omega)]
    have micro : decimals.number value * 10 ^ (9 - 6) / 1000 = decimals.number value := by omega
    rw [micro]
    exact spelled.symm
  · have precise : decimals.number value % 1000 ≠ 0 := fun zeros =>
      fine ⟨by rintro rfl; simp at nine, .inr ⟨by omega, (last_three decimals numeral (by omega)).mpr zeros⟩⟩
    rw [nine] at spelled bound ⊢
    refine ⟨?_, by omega⟩
    rw [Nat.sub_self, Nat.pow_zero, Nat.mul_one, fractionDigits, if_neg (by omega), if_neg (by omega), if_neg (by omega)]
    exact spelled.symm

/-- The last digit of a number. -/
def digit (count : Nat) : CodePoint := Fin.ofNat 0x110000 (48 + count % 10)

theorem strftime_eq (moment : DateTime) : strftime moment =
    [digit (moment.date.year / 10 / 10 / 10), digit (moment.date.year / 10 / 10), digit (moment.date.year / 10), digit moment.date.year, 45,
      digit (moment.date.month / 10), digit moment.date.month, 45, digit (moment.date.day / 10), digit moment.date.day, 84,
      digit (moment.hour / 10), digit moment.hour, 58, digit (moment.minute / 10), digit moment.minute, 58,
      digit (moment.second / 10), digit moment.second] := rfl

private theorem month_fields : ∀ month < 13, 1 ≤ month → (within 1 1 (digit (month / 10)) && within 0 2 (digit month) ||
    within 0 0 (digit (month / 10)) && within 1 9 (digit month)) = true := by decide

private theorem day_fields : ∀ day < 32, 1 ≤ day → (within 3 3 (digit (day / 10)) && within 0 1 (digit day) ||
    within 1 2 (digit (day / 10)) || within 0 0 (digit (day / 10)) && within 1 9 (digit day)) = true := by decide

private theorem hour_fields : ∀ hour < 24, (within 2 2 (digit (hour / 10)) && within 0 3 (digit hour) ||
    within 0 1 (digit (hour / 10))) = true := by decide

private theorem minute_fields : ∀ minute < 60, within 0 5 (digit (minute / 10)) = true := by decide

private theorem daysInMonth_le (leap : Bool) (month : Nat) : daysInMonth leap month ≤ 31 := by
  unfold daysInMonth
  split
  · split <;> decide
  all_goals decide

/-- A valid moment is read back from its spelling. -/
theorem strptime_strftime (decimals : Decimals) {moment : DateTime} (valid : moment.Valid) :
    strptime decimals (strftime moment) = some moment := by
  have two (count : Nat) (small : count < 100) : decimals.number [digit (count / 10), digit count] = count := by
    have read := number_digits decimals 2 count
    rw [Nat.mod_eq_of_lt (show count < 10 ^ 2 from small)] at read
    exact read
  have year : decimals.number [digit (moment.date.year / 10 / 10 / 10), digit (moment.date.year / 10 / 10),
      digit (moment.date.year / 10), digit moment.date.year] = moment.date.year := by
    have read := number_digits decimals 4 moment.date.year
    rw [Nat.mod_eq_of_lt (show moment.date.year < 10 ^ 4 from Nat.lt_succ_of_le valid.year)] at read
    exact read
  have month := valid.date.month
  have day := valid.date.day
  have most := daysInMonth_le (leap moment.date.year) moment.date.month
  have hour := valid.hour
  have minute := valid.minute
  have second := valid.second
  rw [strftime_eq, strptime, two _ (by omega), two _ (by omega), two _ (by omega), two _ (by omega), two _ (by omega), year,
    month_fields _ (by omega) month.1, day_fields _ (by omega) day.1, hour_fields _ hour, minute_fields _ minute,
    minute_fields _ second]
  simp [valid.date, second]

private theorem number_pair (first last : CodePoint) : decimals.number [first, last] =
    10 * (decimals.value first).getD 0 + (decimals.value last).getD 0 := by
  simp [Decimals.number]

private theorem within_value (decimals : Decimals) {low high : Nat} {point : CodePoint} (inside : within low high point = true) (digit : high ≤ 9) :
    low ≤ (decimals.value point).getD 0 ∧ (decimals.value point).getD 0 ≤ high := by
  simp only [within, Bool.and_eq_true, decide_eq_true_eq] at inside
  rw [numeral_value (by omega), Option.getD_some]
  omega

private theorem value_lt (decimals : Decimals) (point : CodePoint) : (decimals.value point).getD 0 < 10 := by
  cases found : decimals.value point with
  | none => decide
  | some digit => exact decimals.small point digit found

/-- What is read is valid, also where its digits are not ASCII. -/
theorem strptime_valid {basis : Text} {moment : DateTime} (parsed : strptime decimals basis = some moment) : moment.Valid := by
  unfold strptime at parsed
  split at parsed
  next y e a r _ m o _ d u _ h i _ n j _ s k =>
    dsimp only at parsed
    split at parsed
    next fine =>
      cases parsed
      simp only [Bool.and_eq_true, Bool.or_eq_true, decide_eq_true_eq] at fine
      obtain ⟨⟨⟨⟨⟨⟨-, -⟩, hour⟩, minute⟩, -⟩, date⟩, second⟩ := fine
      have small := value_lt decimals
      refine ⟨date, ?_, ?_, ?_, second⟩
      · have bound := number_lt decimals [y, e, a, r]
        simp only [List.length_cons, List.length_nil] at bound
        dsimp only
        omega
      · dsimp only
        rw [number_pair]
        have unit := small i
        rcases hour with ⟨twenty, three⟩ | ten
        · have high := within_value decimals twenty (by decide)
          have low := within_value decimals three (by decide)
          omega
        · have high := within_value decimals ten (by decide)
          omega
      · dsimp only
        rw [number_pair]
        have unit := small j
        have high := within_value decimals minute (by decide)
        omega
    next => cases parsed
  next => cases parsed

/-- An ASCII basis is the spelling of what is read from it. -/
theorem strptime_unique {basis : Text} {moment : DateTime} (shaped : Shaped decimals basis) (plain : Ascii basis)
    (parsed : strptime decimals basis = some moment) : basis = strftime moment := by
  unfold strptime at parsed
  split at parsed
  next y e a r b m o c d u t h i f n j g s k =>
    dsimp only at parsed
    split at parsed
    next fine =>
      cases parsed
      have pattern : text "dddd-dd-ddTdd:dd:dd" =
        [100, 100, 100, 100, 45, 100, 100, 45, 100, 100, 84, 100, 100, 58, 100, 100, 58, 100, 100] := rfl
      have places := shaped.shaped
      have mark : (100 : CodePoint).val = 100 := rfl
      have dash : ¬ (45 : CodePoint).val = 100 := by decide
      have upper : ¬ (84 : CodePoint).val = 100 := by decide
      have colon : ¬ (58 : CodePoint).val = 100 := by decide
      simp only [pattern, List.zip_cons_cons, List.zip_nil_right, List.all_cons, List.all_nil, Bool.and_eq_true, beq_iff_eq,
        if_pos mark, if_neg dash, if_neg upper, if_neg colon] at places
      obtain ⟨y', e', a', r', rfl, m', o', rfl, d', u', rfl, h', i', rfl, n', j', rfl, s', k', -⟩ := places
      have numeral (point : CodePoint) (listed : point ∈ [y, e, a, r, 45, m, o, 45, d, u, 84, h, i, 58, n, j, 58, s, k])
          (decimal : (decimals.value point).isSome = true) : 48 ≤ point.val ∧ point.val ≤ 57 := by
        rw [decimals.ascii point (plain point listed)] at decimal
        by_contra other
        rw [if_neg other] at decimal
        cases decimal
      have pair {left right : CodePoint} (one : 48 ≤ left.val ∧ left.val ≤ 57) (two : 48 ≤ right.val ∧ right.val ≤ 57) :
          [digit (decimals.number [left, right] / 10), digit (decimals.number [left, right])] = [left, right] := by
        refine @digits_number [left, right] decimals fun point listed => ?_
        simp only [List.mem_cons, List.not_mem_nil, or_false] at listed
        rcases listed with rfl | rfl
        · exact one
        · exact two
      have year : digits 4 (decimals.number [y, e, a, r]) = [y, e, a, r] := by
        refine @digits_number [y, e, a, r] decimals fun point listed => ?_
        simp only [List.mem_cons, List.not_mem_nil, or_false] at listed
        rcases listed with rfl | rfl | rfl | rfl
        · exact numeral _ (by simp) y'
        · exact numeral _ (by simp) e'
        · exact numeral _ (by simp) a'
        · exact numeral _ (by simp) r'
      have month := pair (numeral _ (by simp) m') (numeral _ (by simp) o')
      have day := pair (numeral _ (by simp) d') (numeral _ (by simp) u')
      have hour := pair (numeral _ (by simp) h') (numeral _ (by simp) i')
      have minute := pair (numeral _ (by simp) n') (numeral _ (by simp) j')
      have second := pair (numeral _ (by simp) s') (numeral _ (by simp) k')
      calc [y, e, a, r, 45, m, o, 45, d, u, 84, h, i, 58, n, j, 58, s, k]
        _ = [y, e, a, r] ++ [45] ++ [m, o] ++ [45] ++ [d, u] ++ [84] ++ [h, i] ++ [58] ++ [n, j] ++ [58] ++ [s, k] := rfl
        _ = _ := by
          conv_lhs => rw [← year, ← month, ← day, ← hour, ← minute, ← second]
          rfl
    next => cases parsed
  next => cases parsed

theorem timegm_fromTimestamp {seconds : Int} (begins : 1 ≤ seconds.fdiv 86400 + 719163) :
    timegm (fromTimestamp seconds) = seconds := by
  have days : seconds.fdiv 86400 = seconds / 86400 := Int.fdiv_eq_ediv_of_nonneg _ (by decide)
  have rest : seconds.fmod 86400 = seconds % 86400 := Int.fmod_eq_emod_of_nonneg _ (by decide)
  unfold timegm fromTimestamp
  simp only
  rw [toOrdinal_ofOrdinal (by omega), days, rest]
  omega

/-- The seconds of a valid moment split as it does. -/
theorem timegm_split {moment : DateTime} (valid : moment.Valid) :
    (timegm moment).fdiv 86400 = moment.date.toOrdinal - 719163 ∧
      (timegm moment).fmod 86400 = (moment.hour * 60 + moment.minute) * 60 + moment.second := by
  have days : (timegm moment).fdiv 86400 = timegm moment / 86400 := Int.fdiv_eq_ediv_of_nonneg _ (by decide)
  have rest : (timegm moment).fmod 86400 = timegm moment % 86400 := Int.fmod_eq_emod_of_nonneg _ (by decide)
  have hour := valid.hour
  have minute := valid.minute
  have second := valid.second
  rw [days, rest]
  unfold timegm
  omega

theorem fromTimestamp_timegm {moment : DateTime} (valid : moment.Valid) : fromTimestamp (timegm moment) = moment := by
  obtain ⟨days, rest⟩ := timegm_split valid
  have hour := valid.hour
  have minute := valid.minute
  have second := valid.second
  obtain ⟨date, h, m, s⟩ := moment
  simp only at hour minute second days rest
  rw [fromTimestamp, days, rest]
  have ordinal : ((date.toOrdinal - 719163 : Int) + 719163).toNat = date.toOrdinal := by omega
  rw [ordinal, ofOrdinal_toOrdinal valid.date]
  have clock : ((h * 60 + m : Int) * 60 + s).toNat = (h * 60 + m) * 60 + s := by omega
  rw [clock]
  congr 1 <;> omega

/-- The instants of the years 1 to 9999, in nanoseconds. -/
def Dated (nanos : Int) : Prop := -62135596800000000000 ≤ nanos ∧ nanos < 253402300800000000000

theorem fromTimestamp_valid {seconds : Int} (low : -62135596800 ≤ seconds) (high : seconds < 253402300800) :
    (fromTimestamp seconds).Valid := by
  have days : seconds.fdiv 86400 = seconds / 86400 := Int.fdiv_eq_ediv_of_nonneg _ (by decide)
  have rest : seconds.fmod 86400 = seconds % 86400 := Int.fmod_eq_emod_of_nonneg _ (by decide)
  have first : 1 ≤ (seconds.fdiv 86400 + 719163).toNat := by omega
  have valid := ofOrdinal_valid first
  refine ⟨valid, ?_, ?_, ?_, ?_⟩
  · by_contra later
    have least := valid.within.1
    have start : daysBeforeYear 10000 = 3652059 := by decide
    have mono := daysBeforeYear_mono (show 1 ≤ 10000 by decide) (Nat.lt_of_not_le later)
    have place := toOrdinal_ofOrdinal first
    unfold Date.toOrdinal at place
    change daysBeforeYear 10000 ≤ daysBeforeYear (Date.ofOrdinal (seconds.fdiv 86400 + 719163).toNat).year at mono
    omega
  · unfold fromTimestamp
    dsimp only
    omega
  · unfold fromTimestamp
    dsimp only
    omega
  · unfold fromTimestamp
    dsimp only
    omega

theorem strftime_shaped (decimals : Decimals) (moment : DateTime) : Shaped decimals (strftime moment) := by
  refine ⟨rfl, ?_⟩
  have pattern : text "dddd-dd-ddTdd:dd:dd" =
    [100, 100, 100, 100, 45, 100, 100, 45, 100, 100, 84, 100, 100, 58, 100, 100, 58, 100, 100] := rfl
  have mark : (100 : CodePoint).val = 100 := rfl
  have dash : ¬ (45 : CodePoint).val = 100 := by decide
  have upper : ¬ (84 : CodePoint).val = 100 := by decide
  have colon : ¬ (58 : CodePoint).val = 100 := by decide
  have decimal (count : Nat) : decimals.value (digit count) = some (count % 10) := decimals_value decimals (Nat.mod_lt _ (by decide))
  rw [strftime_eq, pattern]
  simp only [List.zip_cons_cons, List.zip_nil_right, List.all_cons, List.all_nil, beq_iff_eq, if_pos mark, if_neg dash,
    if_neg upper, if_neg colon, decimal, Option.isSome_some, BEq.rfl, Bool.and_self]

theorem strftime_ascii (moment : DateTime) : Ascii (strftime moment) := by
  have plain (width count : Nat) : Ascii (digits width count) := (digits_numeral width count).ascii
  have both {first last : Text} (left : Ascii first) (right : Ascii last) : Ascii (first ++ last) := by
    intro point listed
    rcases List.mem_append.mp listed with listed | listed
    · exact left point listed
    · exact right point listed
  have dash : Ascii (text "-") := by decide
  have upper : Ascii (text "T") := by decide
  have colon : Ascii (text ":") := by decide
  unfold strftime
  exact both (both (both (both (both (both (both (both (both (both (plain _ _) dash) (plain _ _)) dash) (plain _ _)) upper)
    (plain _ _)) colon) (plain _ _)) colon) (plain _ _)

theorem spelling_ascii (nanos : Int) : Ascii (spelling nanos) := by
  unfold spelling fractionText
  intro point listed
  rw [List.append_assoc, List.mem_append, List.mem_append] at listed
  rcases listed with basis | fraction | zulu
  · exact strftime_ascii _ point basis
  · split at fraction
    · cases fraction
    · rcases List.mem_append.mp fraction with dot | digit
      · rw [show text "." = [46] from rfl, List.mem_singleton] at dot
        subst dot
        decide
      · exact (fractionDigits_numeral _).ascii point digit
  · rw [show text "Z" = [90] from rfl, List.mem_singleton] at zulu
    subst zulu
    decide

private theorem nanos_split (nanos : Int) : nanos.fdiv 1000000000 = nanos / 1000000000 ∧ nanos.fmod 1000000000 = nanos % 1000000000 :=
  ⟨Int.fdiv_eq_ediv_of_nonneg _ (by decide), Int.fmod_eq_emod_of_nonneg _ (by decide)⟩

/-- Every instant is read back from its spelling. -/
theorem timestamp_spelling (decimals : Decimals) {nanos : Int} (dated : Dated nanos) :
    timestamp decimals.calendar (.str (spelling nanos)) = .ok nanos := by
  obtain ⟨low, high⟩ := dated
  obtain ⟨seconds, part⟩ := nanos_split nanos
  have valid := fromTimestamp_valid (show -62135596800 ≤ nanos.fdiv 1000000000 by omega) (by omega)
  obtain ⟨length, value, fine⟩ := @fractionDigits_read decimals _ (show (nanos.fmod 1000000000).toNat < 1000000000 by omega)
  refine timestamp_iff.mpr ⟨strftime (fromTimestamp (nanos.fdiv 1000000000)), fractionDigits (nanos.fmod 1000000000).toNat, _,
    ⟨strftime_shaped _ _, length, ?_, rfl⟩, fine, strptime_strftime decimals valid, ?_⟩
  · intro point listed
    rw [numeral_value (fractionDigits_numeral _ point listed)]
    rfl
  · rw [value, timegm_fromTimestamp (by rw [Int.fdiv_eq_ediv_of_nonneg _ (by decide)]; omega)]
    omega

/-- An ASCII string that is read is the spelling of its instant. -/
theorem spelling_timestamp {nanos : Int} (plain : Ascii value) (read : timestamp decimals.calendar (.str value) = .ok nanos) :
    value = spelling nanos := by
  obtain ⟨basis, fraction, moment, grouped, fine, parsed, rfl⟩ := timestamp_iff.mp read
  have whole := grouped.whole
  have inside (point : CodePoint) (listed : point ∈ fraction) : point ∈ value := by
    have some : fraction ≠ [] := List.ne_nil_of_mem listed
    rw [whole, fractionText, if_neg some]
    simp [listed]
  have numeral : Numeral fraction := by
    intro point listed
    have decimal := grouped.decimal point listed
    rw [decimals.ascii point (plain point (inside point listed))] at decimal
    by_contra other
    rw [if_neg other] at decimal
    cases decimal
  have front : Ascii basis := fun point listed => plain point (by rw [whole]; simp [listed])
  obtain ⟨spelled, small⟩ := fraction_unique numeral grouped.length fine
  have valid := strptime_valid parsed
  obtain ⟨seconds, part⟩ := nanos_split (timegm moment * 1000000000 + nanosOf decimals fraction)
  have split : (timegm moment * 1000000000 + nanosOf decimals fraction) / 1000000000 = timegm moment ∧
      ((timegm moment * 1000000000 + nanosOf decimals fraction) % 1000000000).toNat = nanosOf decimals fraction := by omega
  rw [spelling, seconds, part, split.1, split.2, fromTimestamp_timegm valid, ← spelled,
    ← strptime_unique grouped.shaped front parsed]
  exact whole

/-- `_utc_now` writes the spelling of the clock's reading. -/
theorem utcNow_spelling (decimals : Decimals) (now : Nanoseconds) : utcNow decimals.calendar now = spelling now.toInt := by
  have some (width count : Nat) : fractionText (digits (width + 1) count) = text "." ++ digits (width + 1) count := by
    refine if_neg fun none => ?_
    have length := digits_length (width + 1) count
    rw [none] at length
    cases length
  unfold utcNow spelling fractionDigits
  dsimp only
  congr 2
  split
  · rfl
  · split
    · exact (some _ _).symm
    · split
      · exact (some _ _).symm
      · exact (some _ _).symm

end

end Switchyard.Runner
