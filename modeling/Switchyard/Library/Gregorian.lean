import Mathlib.Tactic.Basic
import Mathlib.Data.Nat.Notation

/-! The proleptic Gregorian calendar by day numbers, day 1 being the first of
January of year 1. A day number has one date, and a date one day number. -/

namespace Switchyard.Library.Gregorian

def leap (year : ℕ) : Bool := year % 4 == 0 && (year % 100 != 0 || year % 400 == 0)

def daysInMonth (leap : Bool) : ℕ → ℕ
  | 2 => if leap then 29 else 28
  | 4 | 6 | 9 | 11 => 30
  | _ => 31

/-- The days of the year before the first of this month. -/
def daysBeforeMonth (leap : Bool) : ℕ → ℕ
  | 0 | 1 => 0
  | month + 1 => daysBeforeMonth leap month + daysInMonth leap month

def daysBeforeYear (year : ℕ) : ℕ := 365 * (year - 1) + (year - 1) / 4 - (year - 1) / 100 + (year - 1) / 400

structure Date where
  year : ℕ
  month : ℕ
  day : ℕ
deriving DecidableEq

structure Date.Valid (date : Date) : Prop where
  year : 1 ≤ date.year
  month : 1 ≤ date.month ∧ date.month ≤ 12
  day : 1 ≤ date.day ∧ date.day ≤ daysInMonth (leap date.year) date.month

instance (date : Date) : Decidable date.Valid :=
  decidable_of_iff (1 ≤ date.year ∧ (1 ≤ date.month ∧ date.month ≤ 12) ∧
      1 ≤ date.day ∧ date.day ≤ daysInMonth (leap date.year) date.month)
    ⟨fun ⟨year, month, day⟩ => ⟨year, month, day⟩, fun valid => ⟨valid.year, valid.month, valid.day⟩⟩

def Date.toOrdinal (date : Date) : ℕ :=
  daysBeforeYear date.year + daysBeforeMonth (leap date.year) date.month + date.day

/-- The month and the day of the month, counted from one, of a day of the year, counted from zero. -/
def monthDay (leap : Bool) (rest : ℕ) : ℕ × ℕ :=
  let month := (rest + 50) / 32
  if rest < daysBeforeMonth leap month then (month - 1, rest - daysBeforeMonth leap (month - 1) + 1)
  else (month, rest - daysBeforeMonth leap month + 1)

/-- The date of a day number, from its place in the cycles of 400, 100 and 4 years. -/
def Date.ofOrdinal (ordinal : ℕ) : Date :=
  let n := ordinal - 1
  let n400 := n / 146097
  let n100 := n % 146097 / 36524
  let n4 := n % 146097 % 36524 / 1461
  let n1 := n % 146097 % 36524 % 1461 / 365
  let year := 400 * n400 + 100 * n100 + 4 * n4 + n1 + 1
  if n1 = 4 ∨ n100 = 4 then ⟨year - 1, 12, 31⟩
  else
    let found := monthDay (leap year) (n % 146097 % 36524 % 1461 % 365)
    ⟨year, found.1, found.2⟩

private theorem monthDay_spec (leap : Bool) : ∀ rest < 366, rest < 365 + leap.toNat →
    (1 ≤ (monthDay leap rest).1 ∧ (monthDay leap rest).1 ≤ 12) ∧
      (1 ≤ (monthDay leap rest).2 ∧ (monthDay leap rest).2 ≤ daysInMonth leap (monthDay leap rest).1) ∧
      daysBeforeMonth leap (monthDay leap rest).1 + (monthDay leap rest).2 = rest + 1 := by
  cases leap <;> decide +kernel

private theorem daysBeforeMonth_within (leap : Bool) : ∀ month < 13, 1 ≤ month →
    daysBeforeMonth leap month + daysInMonth leap month ≤ 365 + leap.toNat ∧
      (month < 12 → daysBeforeMonth leap (month + 1) = daysBeforeMonth leap month + daysInMonth leap month) := by
  cases leap <;> decide

theorem leap_iff {year : ℕ} : leap year = true ↔ year % 4 = 0 ∧ (year % 100 ≠ 0 ∨ year % 400 = 0) := by
  simp [leap]

private theorem succ_div (count size : ℕ) :
    (count + 1) / size = count / size + if (count + 1) % size = 0 then 1 else 0 := by
  rw [Nat.succ_div]
  simp only [Nat.dvd_iff_mod_eq_zero]

/-- A year has 365 days, or one more. -/
theorem daysBeforeYear_succ {year : ℕ} (first : 1 ≤ year) :
    daysBeforeYear (year + 1) = daysBeforeYear year + 365 + (leap year).toNat := by
  obtain ⟨count, rfl⟩ := Nat.exists_eq_add_of_le' first
  have fewer : count / 100 ≤ count / 4 := Nat.div_le_div_left (by decide) (by decide)
  have four := succ_div count 4
  have hundred := succ_div count 100
  have whole := succ_div count 400
  have nested : (count + 1) % 400 = 0 → (count + 1) % 100 = 0 := by omega
  have inside : (count + 1) % 100 = 0 → (count + 1) % 4 = 0 := by omega
  simp only [daysBeforeYear, Nat.add_sub_cancel, four, hundred, whole]
  by_cases quarter : (count + 1) % 4 = 0
  · by_cases century : (count + 1) % 100 = 0
    · by_cases cycle : (count + 1) % 400 = 0
      · rw [show leap (count + 1) = true from leap_iff.mpr ⟨quarter, .inr cycle⟩, if_pos quarter, if_pos century, if_pos cycle]
        simp only [Bool.toNat_true]
        omega
      · have short : leap (count + 1) = false := by simp [leap, century, cycle]
        rw [short, if_pos quarter, if_pos century, if_neg cycle]
        simp only [Bool.toNat_false]
        omega
    · rw [show leap (count + 1) = true from leap_iff.mpr ⟨quarter, .inl century⟩, if_pos quarter, if_neg century,
        if_neg fun cycle => century (nested cycle)]
      simp only [Bool.toNat_true]
      omega
  · have short : leap (count + 1) = false := by simp [leap, quarter]
    have century : ¬ (count + 1) % 100 = 0 := fun century => quarter (inside century)
    rw [short, if_neg quarter, if_neg century, if_neg fun cycle => century (nested cycle)]
    simp only [Bool.toNat_false]
    omega

theorem daysBeforeYear_mono {first last : ℕ} (early : 1 ≤ first) (order : first ≤ last) : daysBeforeYear first ≤ daysBeforeYear last := by
  induction order with
  | refl => exact Nat.le_refl _
  | step later ih => exact Nat.le_trans ih (by rw [Nat.succ_eq_add_one, daysBeforeYear_succ (Nat.le_trans early later)]; omega)

/-- The day of the year of a valid date lies within its year. -/
theorem Date.Valid.within {date : Date} (valid : date.Valid) : 1 ≤ daysBeforeMonth (leap date.year) date.month + date.day ∧
    daysBeforeMonth (leap date.year) date.month + date.day ≤ 365 + (leap date.year).toNat := by
  have bound := (daysBeforeMonth_within (leap date.year) date.month (by have := valid.month; omega) valid.month.1).1
  have day := valid.day
  omega

private theorem daysBeforeYear_cycles {a b c d : ℕ} (centuries : b ≤ 3) (fours : c ≤ 24) (ones : d ≤ 3) :
    daysBeforeYear (400 * a + 100 * b + 4 * c + d + 1) = 146097 * a + 36524 * b + 1461 * c + 365 * d := by
  have quarter : (400 * a + 100 * b + 4 * c + d) / 4 = 100 * a + 25 * b + c := by omega
  have century : (400 * a + 100 * b + 4 * c + d) / 100 = 4 * a + b := by omega
  have whole : (400 * a + 100 * b + 4 * c + d) / 400 = a := by omega
  rw [daysBeforeYear, Nat.add_sub_cancel, quarter, century, whole]
  omega

/-- The last day of a leap year. -/
private theorem december {a b c : ℕ} (centuries : b ≤ 3) (fours : c ≤ 24) (long : c ≠ 24 ∨ b = 3) :
    (Date.mk (400 * a + 100 * b + 4 * c + 4) 12 31).Valid ∧
      (Date.mk (400 * a + 100 * b + 4 * c + 4) 12 31).toOrdinal = 146097 * a + 36524 * b + 1461 * c + 1461 := by
  have leaps : leap (400 * a + 100 * b + 4 * c + 4) = true := leap_iff.mpr (by omega)
  have start : daysBeforeYear (400 * a + 100 * b + 4 * c + 4) = _ := daysBeforeYear_cycles centuries fours (Nat.le_refl 3)
  refine ⟨⟨Nat.le_add_left 1 _, ⟨by simp, Nat.le_refl 12⟩, ⟨by simp, Nat.le_refl 31⟩⟩, ?_⟩
  rw [Date.toOrdinal, start, leaps]
  show _ + 335 + 31 = _
  omega

/-- The cycles of a day number are those of its year and of its day of the year. -/
private theorem ofOrdinal_spec (ordinal : ℕ) (first : 1 ≤ ordinal) :
    (Date.ofOrdinal ordinal).Valid ∧ (Date.ofOrdinal ordinal).toOrdinal = ordinal := by
  obtain ⟨n, rfl⟩ := Nat.exists_eq_add_of_le' first
  unfold Date.ofOrdinal
  simp only [Nat.add_sub_cancel]
  generalize whole : n / 146097 = a
  generalize century : n % 146097 / 36524 = b
  generalize quarter : n % 146097 % 36524 / 1461 = c
  generalize single : n % 146097 % 36524 % 1461 / 365 = d
  generalize rest : n % 146097 % 36524 % 1461 % 365 = r
  have shape : n = 146097 * a + 36524 * b + 1461 * c + 365 * d + r := by omega
  have small : r < 365 := by omega
  split
  next last =>
    by_cases turn : b = 4
    · obtain ⟨rfl, rfl, rfl⟩ : c = 0 ∧ d = 0 ∧ r = 0 := by omega
      subst turn
      have ended := @december a 3 24 (by decide) (by decide) (.inr rfl)
      have year : 400 * a + 100 * 4 + 4 * 0 + 0 = 400 * a + 100 * 3 + 4 * 24 + 4 := by omega
      rw [year]
      exact ⟨ended.1, ended.2.trans (by omega)⟩
    · obtain rfl : d = 4 := by omega
      obtain rfl : r = 0 := by omega
      have ended := @december a b c (by omega) (by omega) (by omega)
      exact ⟨ended.1, ended.2.trans (by omega)⟩
  next inside =>
    have start := @daysBeforeYear_cycles a b c d (by omega) (by omega) (by omega)
    generalize found : 400 * a + 100 * b + 4 * c + d + 1 = year at start ⊢
    obtain ⟨month, day, place⟩ := monthDay_spec (leap year) r (by omega) (by omega)
    refine ⟨⟨?_, month, day⟩, ?_⟩
    · dsimp only
      omega
    · rw [Date.toOrdinal, start]
      dsimp only
      omega

theorem ofOrdinal_valid {ordinal : ℕ} (first : 1 ≤ ordinal) : (Date.ofOrdinal ordinal).Valid := (ofOrdinal_spec ordinal first).1

theorem toOrdinal_ofOrdinal {ordinal : ℕ} (first : 1 ≤ ordinal) : (Date.ofOrdinal ordinal).toOrdinal = ordinal :=
  (ofOrdinal_spec ordinal first).2

private theorem daysBeforeMonth_inj (leap : Bool) : ∀ first < 13, ∀ last < 13, 1 ≤ first → first < last →
    daysBeforeMonth leap first + daysInMonth leap first ≤ daysBeforeMonth leap last := by
  cases leap <;> decide

/-- Dates in their order have day numbers in that order. -/
theorem toOrdinal_lt {first last : Date} (left : first.Valid) (right : last.Valid)
    (order : first.year < last.year ∨ first.year = last.year ∧
      (first.month < last.month ∨ first.month = last.month ∧ first.day < last.day)) : first.toOrdinal < last.toOrdinal := by
  unfold Date.toOrdinal
  rcases order with earlier | ⟨same, earlier | ⟨month, earlier⟩⟩
  · have within := left.within
    have begins := right.within
    have next := daysBeforeYear_succ left.year
    have mono := daysBeforeYear_mono (Nat.le_add_left 1 first.year) (show first.year + 1 ≤ last.year from earlier)
    omega
  · have low := left.month
    have high := right.month
    have before := daysBeforeMonth_inj (leap first.year) first.month (by omega) last.month (by omega) low.1 earlier
    have day := left.day
    have begins := right.day
    rw [← same]
    omega
  · rw [← same, ← month]
    omega

theorem toOrdinal_inj {first last : Date} (left : first.Valid) (right : last.Valid) (same : first.toOrdinal = last.toOrdinal) :
    first = last := by
  have forward := toOrdinal_lt left right
  have backward := toOrdinal_lt right left
  obtain ⟨year, month, day⟩ := first
  obtain ⟨year', month', day'⟩ := last
  dsimp only at forward backward
  obtain ⟨rfl, rfl, rfl⟩ : year = year' ∧ month = month' ∧ day = day' := by omega
  rfl

theorem ofOrdinal_toOrdinal {date : Date} (valid : date.Valid) : Date.ofOrdinal date.toOrdinal = date := by
  have first : 1 ≤ date.toOrdinal := by
    have := valid.day.1
    unfold Date.toOrdinal
    omega
  exact toOrdinal_inj (ofOrdinal_valid first) valid (toOrdinal_ofOrdinal first)

end Switchyard.Library.Gregorian
