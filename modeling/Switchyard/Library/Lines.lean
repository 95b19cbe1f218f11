import Mathlib.Tactic.Basic

/-! A stream cut behind every terminator, and the bounded reads that recover its
lines one at a time: a read stops at the terminator, at its limit or at the end. -/

namespace Switchyard.Library

variable {α : Type} [DecidableEq α] (stop : α)

/-- A stream cut behind every terminator; its last line may lack one. -/
def splitLines : List α → List (List α)
  | [] => []
  | item :: rest =>
    if item = stop then [item] :: splitLines rest
    else match splitLines rest with
      | [] => [[item]]
      | line :: later => (item :: line) :: later

/-- `readline(limit)`: what was read and what is left. -/
def readline : Nat → List α → List α × List α
  | 0, stream => ([], stream)
  | _ + 1, [] => ([], [])
  | limit + 1, item :: rest =>
    if item = stop then ([item], rest)
    else (item :: (readline limit rest).1, (readline limit rest).2)

theorem readline_left (limit : Nat) (stream : List α) : (readline stop limit stream).2.length ≤ stream.length := by
  induction stream generalizing limit with
  | nil => cases limit <;> exact Nat.le_refl 0
  | cons item rest ih =>
    cases limit with
    | zero => exact Nat.le_refl _
    | succ limit =>
      unfold readline
      split
      · exact Nat.le_succ _
      · exact Nat.le_succ_of_le (ih limit)

theorem readline_consumes (limit : Nat) (item : α) (rest : List α) :
    (readline stop (limit + 1) (item :: rest)).2.length < (item :: rest).length := by
  unfold readline
  split
  · exact Nat.lt_succ_self _
  · exact Nat.lt_succ_of_le (readline_left stop limit rest)

/-- Reads on until a read ends a line or the stream, and says what is left. -/
def skipLine (limit : Nat) (read : List α) : List α → List α
  | [] => []
  | item :: rest =>
    if read = [] ∨ read.getLast? = some stop then item :: rest
    else skipLine limit (readline stop (limit + 1) (item :: rest)).1 (readline stop (limit + 1) (item :: rest)).2
termination_by stream => stream.length
decreasing_by exact readline_consumes stop limit item rest

/-- One line within a limit, or the start of a longer or unterminated one whose remainder is skipped. -/
def nextLine (limit : Nat) (stream : List α) : List α × List α :=
  let read := readline stop (limit + 1) stream
  if limit < read.1.length ∨ read.1.getLast? ≠ some stop then (read.1, skipLine stop limit read.1 read.2) else read

theorem skipLine_left (limit : Nat) (read stream : List α) : (skipLine stop limit read stream).length ≤ stream.length := by
  induction size : stream.length using Nat.strongRecOn generalizing stream read with
  | ind size ih =>
    subst size
    cases stream with
    | nil =>
      unfold skipLine
      exact Nat.le_refl 0
    | cons item rest =>
      have consumed := readline_consumes stop limit item rest
      unfold skipLine
      split
      · exact Nat.le_refl _
      · exact Nat.le_trans (ih _ consumed _ _ rfl) (Nat.le_of_lt consumed)

theorem nextLine_consumes (limit : Nat) {stream : List α} (more : stream ≠ []) :
    (nextLine stop limit stream).2.length < stream.length := by
  obtain ⟨item, rest, rfl⟩ := List.exists_cons_of_ne_nil more
  have consumed := readline_consumes stop limit item rest
  unfold nextLine
  dsimp only
  split
  · exact Nat.lt_of_le_of_lt (skipLine_left stop limit _ _) consumed
  · exact consumed

variable {stop} {stream line read : List α} {later : List (List α)} {limit : Nat}

theorem splitLines_cons (stop item : α) (rest : List α) : ∃ line later, splitLines stop (item :: rest) = (item :: line) :: later := by
  unfold splitLines
  split
  · exact ⟨[], _, rfl⟩
  · split
    · exact ⟨[], [], rfl⟩
    · exact ⟨_, _, rfl⟩

theorem splitLines_nil_iff : splitLines stop stream = [] ↔ stream = [] := by
  cases stream with
  | nil => exact ⟨fun _ => rfl, fun _ => rfl⟩
  | cons item rest =>
    obtain ⟨line, later, cut⟩ := splitLines_cons stop item rest
    rw [cut]
    exact ⟨nofun, nofun⟩

/-- A terminator stands only at the end of a line, and only the last line lacks one. -/
theorem splitLines_shape (cut : splitLines stop stream = line :: later) :
    line ≠ [] ∧ stop ∉ line.dropLast ∧ (line.getLast? ≠ some stop → later = []) := by
  induction stream generalizing line later with
  | nil => cases cut
  | cons item rest ih =>
    unfold splitLines at cut
    split at cut
    next ends =>
      cases cut
      exact ⟨nofun, by simp, fun other => absurd (congrArg some ends) other⟩
    next inner =>
      cases tail : splitLines stop rest with
      | nil =>
        rw [tail] at cut
        cases cut
        exact ⟨nofun, by simp, fun _ => rfl⟩
      | cons head others =>
        rw [tail] at cut
        cases cut
        obtain ⟨filled, clean, last⟩ := ih tail
        obtain ⟨first, more, rfl⟩ := List.exists_cons_of_ne_nil filled
        refine ⟨nofun, ?_, ?_⟩
        · rw [List.dropLast_cons_of_ne_nil (by simp), List.mem_cons, not_or]
          exact ⟨fun same => inner same.symm, clean⟩
        · rw [List.getLast?_cons_cons]
          exact last

/-- A read takes a prefix of the line in front and leaves what remains of it. -/
theorem readline_cut (limit : Nat) (cut : splitLines stop stream = line :: later) :
    (readline stop limit stream).1 = line.take limit ∧
      splitLines stop (readline stop limit stream).2 = if line.length ≤ limit then later else line.drop limit :: later := by
  induction stream generalizing line later limit with
  | nil => cases cut
  | cons item rest ih =>
    cases limit with
    | zero =>
      obtain ⟨filled, -, -⟩ := splitLines_shape cut
      refine ⟨rfl, ?_⟩
      rw [if_neg (by have := List.length_pos_iff.mpr filled; omega)]
      exact cut
    | succ limit =>
      unfold splitLines at cut
      unfold readline
      split at cut
      next ends =>
        cases cut
        rw [if_pos ends]
        exact ⟨by simp, by simp⟩
      next inner =>
        rw [if_neg inner]
        cases tail : splitLines stop rest with
        | nil =>
          rw [tail] at cut
          cases cut
          obtain rfl := splitLines_nil_iff.mp tail
          cases limit <;> exact ⟨by simp [readline], by simp [readline, splitLines]⟩
        | cons head others =>
          rw [tail] at cut
          cases cut
          obtain ⟨taken, left⟩ := ih limit tail
          refine ⟨congrArg (item :: ·) taken, ?_⟩
          rw [left]
          simp only [List.length_cons, Nat.succ_le_succ_iff, List.drop_succ_cons]

/-- A proper prefix of a line does not end it. -/
theorem take_unended (cut : splitLines stop stream = line :: later) (short : limit < line.length) :
    (line.take limit).getLast? ≠ some stop := by
  intro ends
  obtain ⟨-, clean, -⟩ := splitLines_shape cut
  apply clean
  rw [List.dropLast_eq_take]
  exact List.mem_of_mem_take (i := limit) (by
    rw [List.take_take, Nat.min_eq_left (by omega)]
    exact List.mem_of_getLast? ends)

theorem skipLine_ended (ended : read = [] ∨ read.getLast? = some stop) : skipLine stop limit read stream = stream := by
  unfold skipLine
  split
  · rfl
  · exact if_pos ended

/-- Skipping drops the line in front, if a line has been begun. -/
theorem skipLine_cut (begun : read ≠ [] ∧ read.getLast? ≠ some stop) :
    splitLines stop (skipLine stop limit read stream) = (splitLines stop stream).tail := by
  induction size : stream.length using Nat.strongRecOn generalizing stream read with
  | ind size ih =>
    cases stream with
    | nil =>
      unfold skipLine
      rfl
    | cons item rest =>
      unfold skipLine
      rw [if_neg (not_or.mpr begun)]
      obtain ⟨line, later, cut⟩ := splitLines_cons stop item rest
      obtain ⟨taken, left⟩ := readline_cut (limit + 1) cut
      have consumed := readline_consumes stop limit item rest
      by_cases fits : (item :: line).length ≤ limit + 1
      · rw [if_pos fits] at left
        rw [List.take_of_length_le fits] at taken
        by_cases ended : (item :: line).getLast? = some stop
        · rw [skipLine_ended (.inr (taken ▸ ended)), left, cut]
          rfl
        · obtain rfl : later = [] := (splitLines_shape cut).2.2 ended
          rw [ih _ (size ▸ consumed) ⟨by simp [taken], by rw [taken]; exact ended⟩ rfl, left, cut]
          rfl
      · rw [if_neg fits] at left
        rw [ih _ (size ▸ consumed) ⟨by simp [taken], ?_⟩ rfl, left, cut]
        · rfl
        · rw [taken]
          exact take_unended cut (by omega)

/-- Bounded reading yields the line in front, cut off behind the limit, and leaves the later lines. -/
theorem nextLine_cut (limit : Nat) (cut : splitLines stop stream = line :: later) :
    (nextLine stop limit stream).1 = line.take (limit + 1) ∧ splitLines stop (nextLine stop limit stream).2 = later := by
  obtain ⟨taken, left⟩ := readline_cut (limit + 1) cut
  obtain ⟨filled, -, last⟩ := splitLines_shape cut
  have first : (nextLine stop limit stream).1 = (readline stop (limit + 1) stream).1 := by
    unfold nextLine
    dsimp only
    split <;> rfl
  refine ⟨first.trans taken, ?_⟩
  have begun : line.take (limit + 1) ≠ [] := by
    obtain ⟨item, rest, rfl⟩ := List.exists_cons_of_ne_nil filled
    simp
  unfold nextLine
  dsimp only
  by_cases whole : line.length ≤ limit + 1
  · rw [if_pos whole] at left
    by_cases ended : line.getLast? = some stop
    · have same : (readline stop (limit + 1) stream).1.getLast? = some stop := by
        rw [taken, List.take_of_length_le whole, ended]
      split
      · rw [skipLine_ended (.inr same)]
        exact left
      · exact left
    · have unended : (readline stop (limit + 1) stream).1.getLast? ≠ some stop := by
        rwa [taken, List.take_of_length_le whole]
      rw [if_pos (.inr unended), skipLine_cut ⟨taken ▸ begun, unended⟩, left, last ended]
      rfl
  · rw [if_neg whole] at left
    have unended : (readline stop (limit + 1) stream).1.getLast? ≠ some stop := by
      rw [taken]
      exact take_unended cut (by omega)
    rw [if_pos (.inr unended), skipLine_cut ⟨taken ▸ begun, unended⟩, left]
    rfl

end Switchyard.Library
