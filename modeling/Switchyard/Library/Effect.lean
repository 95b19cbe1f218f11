import Mathlib.Tactic.Basic

/-! Stateful computations with exceptions, as in Python: an exception does not
undo what was assigned before it. The rules below reason about both exits. -/

namespace Switchyard.Library

theorem bind_ok {ε α β : Type} {first : Except ε α} {next : α → Except ε β} {value : β} :
    (first >>= next) = .ok value ↔ ∃ middle, first = .ok middle ∧ next middle = .ok value := by
  cases first <;> simp [bind, Except.bind]

theorem exists_of_isOk {ε α : Type} {outcome : Except ε α} (fine : outcome.isOk = true) : ∃ value, outcome = .ok value := by
  cases outcome with
  | ok value => exact ⟨value, rfl⟩
  | error failure => cases fine

def Effect (σ ε α : Type) := σ → Except ε α × σ

namespace Effect

variable {σ ε α β : Type}

def pure (value : α) : Effect σ ε α := fun state => (.ok value, state)

def bind (first : Effect σ ε α) (next : α → Effect σ ε β) : Effect σ ε β := fun state =>
  match first state with
  | (.ok value, after) => next value after
  | (.error failure, after) => (.error failure, after)

instance : Monad (Effect σ ε) where
  pure := Effect.pure
  bind := Effect.bind

def raise (failure : ε) : Effect σ ε α := fun state => (.error failure, state)

def read : Effect σ ε σ := fun state => (.ok state, state)

def modify (change : σ → σ) : Effect σ ε Unit := fun state => (.ok (), change state)

def lift : Except ε α → Effect σ ε α
  | .ok value => Effect.pure value
  | .error failure => raise failure

/-- `try: first finally: state = cleanup(state)`. -/
def ensuring (first : Effect σ ε α) (cleanup : σ → σ) : Effect σ ε α := fun state =>
  ((first state).1, cleanup (first state).2)

/-- `try: first except: state = recover(before, state); raise`. -/
def recovering (first : Effect σ ε α) (recover : σ → σ → σ) : Effect σ ε α := fun state =>
  match first state with
  | (.ok value, after) => (.ok value, after)
  | (.error failure, after) => (.error failure, recover state after)

/-- `try: first except Exception as error: handler(error)`. -/
def handling (first : Effect σ ε α) (handler : ε → Effect σ ε α) : Effect σ ε α := fun state =>
  match first state with
  | (.ok value, after) => (.ok value, after)
  | (.error failure, after) => handler failure after

/-- `try: first finally: last`, where an exception of `last` replaces the outcome of `first`. -/
def finishing (first : Effect σ ε α) (last : Effect σ ε Unit) : Effect σ ε α := fun state =>
  match last (first state).2 with
  | (.ok _, after) => ((first state).1, after)
  | (.error failure, after) => (.error failure, after)

theorem recovering_of {first : Effect σ ε α} {recover : σ → σ → σ} {state after : σ} {outcome : Except ε α} :
    first state = (outcome, after) → first.recovering recover state = match outcome with
      | .ok value => (.ok value, after)
      | .error failure => (.error failure, recover state after) := by
  intro result
  unfold recovering
  rw [result]
  cases outcome <;> rfl

@[simp] theorem pure_apply (value : α) (state : σ) : (Pure.pure value : Effect σ ε α) state = (.ok value, state) := rfl

theorem bind_apply (first : Effect σ ε α) (next : α → Effect σ ε β) (state : σ) :
    (first >>= next) state = match first state with
      | (.ok value, after) => next value after
      | (.error failure, after) => (.error failure, after) := rfl

@[simp] theorem raise_apply (failure : ε) (state : σ) : (raise failure : Effect σ ε α) state = (.error failure, state) := rfl

@[simp] theorem read_apply (state : σ) : (read : Effect σ ε σ) state = (.ok state, state) := rfl

@[simp] theorem modify_apply (change : σ → σ) (state : σ) :
    (modify change : Effect σ ε Unit) state = (.ok (), change state) := rfl

@[simp] theorem lift_ok (value : α) (state : σ) : (lift (.ok value) : Effect σ ε α) state = (.ok value, state) := rfl

@[simp] theorem lift_error (failure : ε) (state : σ) :
    (lift (.error failure) : Effect σ ε α) state = (.error failure, state) := rfl

/-- Started in this state the computation returns only as `returned` allows and
raises only as `raised` allows. -/
def Meets (program : Effect σ ε α) (state : σ) (returned : α → σ → Prop) (raised : ε → σ → Prop) : Prop :=
  match program state with
  | (.ok value, after) => returned value after
  | (.error failure, after) => raised failure after

variable {program : Effect σ ε α} {state : σ} {returned : α → σ → Prop} {raised : ε → σ → Prop}

theorem Meets.returns {value : α} {after : σ} (meets : Meets program state returned raised)
    (result : program state = (.ok value, after)) : returned value after := by
  simpa only [Meets, result] using meets

theorem Meets.raises {failure : ε} {after : σ} (meets : Meets program state returned raised)
    (result : program state = (.error failure, after)) : raised failure after := by
  simpa only [Meets, result] using meets

theorem Meets.intro (ok : ∀ value after, program state = (.ok value, after) → returned value after)
    (error : ∀ failure after, program state = (.error failure, after) → raised failure after) :
    Meets program state returned raised := by
  unfold Meets
  split
  next value after result => exact ok value after result
  next failure after result => exact error failure after result

theorem Meets.weaken {other : α → σ → Prop} {otherRaised : ε → σ → Prop} (meets : Meets program state returned raised)
    (ok : ∀ value after, returned value after → other value after)
    (error : ∀ failure after, raised failure after → otherRaised failure after) :
    Meets program state other otherRaised :=
  .intro (fun value after result => ok value after (meets.returns result))
    (fun failure after result => error failure after (meets.raises result))

theorem Meets.pure {value : α} (done : returned value state) :
    Meets (Pure.pure value : Effect σ ε α) state returned raised := done

theorem Meets.raise {failure : ε} (done : raised failure state) :
    Meets (Effect.raise failure : Effect σ ε α) state returned raised := done

theorem Meets.modify {change : σ → σ} {returned : Unit → σ → Prop} (done : returned () (change state)) :
    Meets (Effect.modify change : Effect σ ε Unit) state returned raised := done

theorem Meets.read {returned : σ → σ → Prop} (done : returned state state) :
    Meets (Effect.read : Effect σ ε σ) state returned raised := done

theorem Meets.lift {outcome : Except ε α} (ok : ∀ value, outcome = .ok value → returned value state)
    (error : ∀ failure, outcome = .error failure → raised failure state) :
    Meets (Effect.lift outcome) state returned raised := by
  cases outcome with
  | ok value => exact ok value rfl
  | error failure => exact error failure rfl

theorem Meets.bind {next : α → Effect σ ε β} {returned : β → σ → Prop}
    (meets : Meets program state (fun value after => Meets (next value) after returned raised) raised) :
    Meets (program >>= next) state returned raised := by
  unfold Meets at meets ⊢
  rw [bind_apply]
  split at meets <;> simp_all only

theorem Meets.ite {condition : Prop} [Decidable condition] {first last : Effect σ ε α}
    (yes : condition → Meets first state returned raised) (no : ¬ condition → Meets last state returned raised) :
    Meets (if condition then first else last) state returned raised := by
  split
  next holds => exact yes holds
  next fails => exact no fails

theorem Meets.ensuring {cleanup : σ → σ}
    (meets : Meets program state (fun value after => returned value (cleanup after))
      (fun failure after => raised failure (cleanup after))) :
    Meets (program.ensuring cleanup) state returned raised := by
  unfold Meets Effect.ensuring at *
  split at meets <;> simp_all

theorem Meets.handling {handler : ε → Effect σ ε α}
    (meets : Meets program state returned fun failure after => Meets (handler failure) after returned raised) :
    Meets (program.handling handler) state returned raised := by
  unfold Meets Effect.handling at *
  split at meets <;> simp_all

theorem Meets.finishing {last : Effect σ ε Unit}
    (meets : Meets program state (fun value middle => Meets last middle (fun _ after => returned value after) raised)
      (fun failure middle => Meets last middle (fun _ after => raised failure after) raised)) :
    Meets (program.finishing last) state returned raised := by
  unfold Meets Effect.finishing at *
  rcases result : program state with ⟨outcome, middle⟩
  rw [result] at meets
  cases outcome <;> dsimp only at meets ⊢ <;> split at meets <;> simp_all

theorem Meets.recovering {recover : σ → σ → σ}
    (meets : Meets program state returned (fun failure after => raised failure (recover state after))) :
    Meets (program.recovering recover) state returned raised := by
  unfold Meets Effect.recovering at *
  split at meets <;> simp_all

end Effect
end Switchyard.Library
