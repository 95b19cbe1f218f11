import Mathlib.Data.List.Induction

/-! Labelled runs of a step relation, grown at their end, and the invariants
that may speak about the labels seen so far. -/

namespace Switchyard.Library

variable {σ ℓ : Type}

inductive Run (step : σ → ℓ → σ → Prop) (start : σ) : List ℓ → σ → Prop
  | nil : Run step start [] start
  | snoc {labels : List ℓ} {label : ℓ} {before after : σ} :
      Run step start labels before → step before label after → Run step start (labels ++ [label]) after

namespace Run

variable {step : σ → ℓ → σ → Prop} {start middle finish : σ} {first last : List ℓ} {label : ℓ}

theorem append (early : Run step start first middle) (late : Run step middle last finish) :
    Run step start (first ++ last) finish := by
  induction late with
  | nil => simpa using early
  | snoc _ next ih => rw [← List.append_assoc]; exact .snoc ih next

theorem last_step (run : Run step start (first ++ [label]) finish) :
    ∃ before, Run step start first before ∧ step before label finish := by
  generalize shape : first ++ [label] = labels at run
  cases run with
  | nil => simp at shape
  | snoc early next =>
    obtain ⟨same, sameLabel⟩ := List.append_inj' shape rfl
    cases same
    cases sameLabel
    exact ⟨_, early, next⟩

theorem nil_iff : Run step start [] finish ↔ finish = start := by
  refine ⟨fun run => ?_, fun same => same ▸ .nil⟩
  generalize shape : ([] : List ℓ) = labels at run
  cases run with
  | nil => rfl
  | snoc => simp at shape

theorem single_iff : Run step start [label] finish ↔ step start label finish := by
  refine ⟨fun run => ?_, fun next => .snoc .nil next⟩
  have whole : Run step start ([] ++ [label]) finish := run
  obtain ⟨before, early, next⟩ := last_step whole
  obtain rfl := nil_iff.mp early
  exact next

/-- A run over appended labels passes through the state between them. -/
theorem split (whole : Run step start (first ++ last) finish) :
    ∃ middle, Run step start first middle ∧ Run step middle last finish := by
  induction last using List.reverseRecOn generalizing finish with
  | nil => exact ⟨finish, by simpa using whole, .nil⟩
  | append_singleton labels label ih =>
    rw [← List.append_assoc] at whole
    obtain ⟨before, early, next⟩ := last_step whole
    obtain ⟨middle, head, tail⟩ := ih early
    exact ⟨middle, head, .snoc tail next⟩

theorem first_step (whole : Run step start (label :: last) finish) :
    ∃ middle, step start label middle ∧ Run step middle last finish := by
  have appended : Run step start ([label] ++ last) finish := whole
  obtain ⟨middle, head, tail⟩ := split appended
  exact ⟨middle, single_iff.mp head, tail⟩

/-- A fact about the labels so far and the state holds throughout, if every step keeps it. -/
theorem invariant (holds : List ℓ → σ → Prop) (run : Run step start first finish) (initial : holds [] start)
    (kept : ∀ labels before label after, Run step start labels before → holds labels before →
      step before label after → holds (labels ++ [label]) after) : holds first finish := by
  induction run with
  | nil => exact initial
  | snoc early next ih => exact kept _ _ _ _ early ih next

/-- A fact about the state alone. -/
theorem keeps (holds : σ → Prop) (run : Run step start first finish) (initial : holds start)
    (kept : ∀ before label after, holds before → step before label after → holds after) : holds finish :=
  run.invariant (fun _ state => holds state) initial fun _ before label after _ held next =>
    kept before label after held next

/-- A run whose every step is as allowed, given the labels before it. -/
inductive Within (step : σ → ℓ → σ → Prop) (allowed : List ℓ → σ → ℓ → Prop) (start : σ) : List ℓ → σ → Prop
  | nil : Within step allowed start [] start
  | snoc {labels : List ℓ} {label : ℓ} {before after : σ} : Within step allowed start labels before →
      step before label after → allowed labels before label → Within step allowed start (labels ++ [label]) after

theorem Within.run {allowed : List ℓ → σ → ℓ → Prop} (within : Within step allowed start first finish) :
    Run step start first finish := by
  induction within with
  | nil => exact .nil
  | snoc _ next _ ih => exact .snoc ih next

theorem Within.invariant {allowed : List ℓ → σ → ℓ → Prop} (holds : List ℓ → σ → Prop)
    (within : Within step allowed start first finish) (initial : holds [] start)
    (kept : ∀ labels before label after, Within step allowed start labels before → holds labels before →
      step before label after → allowed labels before label → holds (labels ++ [label]) after) : holds first finish := by
  induction within with
  | nil => exact initial
  | snoc early next fine ih => exact kept _ _ _ _ early ih next fine

/-- Steps that forget part of their labels are steps, and so are their runs. -/
theorem map {κ : Type} {other : σ → κ → σ → Prop} {forget : κ → ℓ}
    (steps : ∀ before label after, other before label after → step before (forget label) after) {labels : List κ}
    (run : Run other start labels finish) : Run step start (labels.map forget) finish := by
  induction run with
  | nil => exact .nil
  | snoc _ next ih =>
    rw [List.map_append]
    exact ih.snoc (steps _ _ _ next)

/-- Every run is what is left of a run with fuller labels, if every step is. -/
theorem lift {κ : Type} {other : σ → κ → σ → Prop} {forget : κ → ℓ}
    (steps : ∀ before label after, step before label after → ∃ full, forget full = label ∧ other before full after)
    (run : Run step start first finish) : ∃ labels, labels.map forget = first ∧ Run other start labels finish := by
  induction run with
  | nil => exact ⟨[], rfl, .nil⟩
  | snoc _ next ih =>
    obtain ⟨labels, rfl, early⟩ := ih
    obtain ⟨full, rfl, last⟩ := steps _ _ _ next
    exact ⟨labels ++ [full], by simp, early.snoc last⟩

end Run
end Switchyard.Library
