import Mathlib.Data.List.Forall2
import Mathlib.Data.List.Range

/-! A log whose entries carry numbers drawn from one counter. An entry may be
dropped after its number has been drawn; the log is complete while none was. -/

namespace Switchyard.Library

variable {α : Type} (number : α → Nat → Prop)

/-- The numbers of the entries increase and have all been drawn. -/
def Increasing (log : List α) (drawn : Nat) : Prop :=
  ∃ numbers, List.Forall₂ number log numbers ∧ numbers.Pairwise (· < ·) ∧ ∀ given ∈ numbers, given < drawn

/-- The entries carry exactly the numbers drawn, in order. -/
def Complete (log : List α) (drawn : Nat) : Prop := List.Forall₂ number log (List.range drawn)

variable {number} {log later : List α} {entry : α} {drawn : Nat}

theorem Increasing.nil : Increasing number ([] : List α) drawn := ⟨[], .nil, .nil, fun _ listed => by cases listed⟩

theorem Increasing.widen (increasing : Increasing number log drawn) {more : Nat} (grown : drawn ≤ more) :
    Increasing number log more := by
  obtain ⟨numbers, same, sorted, bounded⟩ := increasing
  exact ⟨numbers, same, sorted, fun given listed => Nat.lt_of_lt_of_le (bounded given listed) grown⟩

theorem Increasing.push (increasing : Increasing number log drawn) (numbered : number entry drawn) :
    Increasing number (log ++ [entry]) (drawn + 1) := by
  obtain ⟨numbers, same, sorted, bounded⟩ := increasing
  refine ⟨numbers ++ [drawn], List.rel_append same (.cons numbered .nil), ?_, ?_⟩
  · refine List.pairwise_append.mpr ⟨sorted, List.pairwise_singleton _ _, fun given listed last single => ?_⟩
    obtain rfl := List.mem_singleton.mp single
    exact bounded given listed
  · intro given listed
    rcases List.mem_append.mp listed with listed | single
    · exact Nat.lt_succ_of_lt (bounded given listed)
    · obtain rfl := List.mem_singleton.mp single
      exact Nat.lt_succ_self given

/-- What was logged first increases as well. -/
theorem Increasing.before (increasing : Increasing number (log ++ later) drawn) : Increasing number log drawn := by
  obtain ⟨numbers, same, sorted, bounded⟩ := increasing
  have head : List.Forall₂ number log (numbers.take log.length) := by
    simpa only [List.take_left] using List.forall₂_take log.length same
  exact ⟨numbers.take log.length, head, sorted.sublist (List.take_sublist _ _),
    fun given listed => bounded given (List.mem_of_mem_take listed)⟩

theorem Complete.nil : Complete number ([] : List α) 0 := List.Forall₂.nil

theorem Complete.push (complete : Complete number log drawn) (numbered : number entry drawn) :
    Complete number (log ++ [entry]) (drawn + 1) := by
  unfold Complete
  rw [List.range_succ]
  exact List.rel_append complete (.cons numbered .nil)

end Switchyard.Library
