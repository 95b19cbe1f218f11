import Switchyard.Library.Pool

/-! Programs that ask questions of a world they do not control. What holds of a
program is said of its own history, the questions it has asked and their answers;
a run of many programs over one store takes it from there. -/

namespace Switchyard.Library

inductive Program {ρ : Type} (reply : ρ → Type) (ε α : Type) : Type
  | done (outcome : Except ε α)
  | ask (question : ρ) (resume : reply question → Program reply ε α)

/-- A question with its answer. -/
structure Exchange {ρ : Type} (reply : ρ → Type) where
  question : ρ
  answer : reply question

namespace Program

variable {ρ : Type} {reply : ρ → Type} {ε α β : Type}

def bind : Program reply ε α → (α → Program reply ε β) → Program reply ε β
  | done (.ok value), next => next value
  | done (.error failure), _ => done (.error failure)
  | ask question resume, next => ask question fun answer => (resume answer).bind next

instance : Monad (Program reply ε) where
  pure value := done (.ok value)
  bind := bind

def raise (failure : ε) : Program reply ε α := done (.error failure)

def lift (outcome : Except ε α) : Program reply ε α := done outcome

/-- The answer to a question. -/
def answerTo (question : ρ) : Program reply ε (reply question) := ask question fun answer => done (.ok answer)

/-- `try: program except error if caught(error): handler(error)`. -/
def handling : Program reply ε α → (ε → Option (Program reply ε α)) → Program reply ε α
  | done (.ok value), _ => done (.ok value)
  | done (.error failure), handler => (handler failure).getD (done (.error failure))
  | ask question resume, handler => ask question fun answer => (resume answer).handling handler

/-- What programs may ask, and which answers they need to reckon with, given their history. -/
structure Rules (reply : ρ → Type) where
  allowed : List (Exchange reply) → ρ → Prop
  credible : List (Exchange reply) → Exchange reply → Prop

/-- From this history on, the program asks only what is allowed, returns only as
`returned` says and raises only as `raised` says. -/
inductive Keeps (rules : Rules reply) (returned : α → List (Exchange reply) → Prop) (raised : ε → List (Exchange reply) → Prop) :
    Program reply ε α → List (Exchange reply) → Prop
  | pure {value : α} {history : List (Exchange reply)} : returned value history →
      Keeps rules returned raised (done (.ok value)) history
  | raise {failure : ε} {history : List (Exchange reply)} : raised failure history →
      Keeps rules returned raised (done (.error failure)) history
  | ask {question : ρ} {resume : reply question → Program reply ε α} {history : List (Exchange reply)} :
      rules.allowed history question → (∀ answer, rules.credible history ⟨question, answer⟩ →
        Keeps rules returned raised (resume answer) (history ++ [⟨question, answer⟩])) →
      Keeps rules returned raised (ask question resume) history

variable {rules : Rules reply} {returned : α → List (Exchange reply) → Prop} {raised : ε → List (Exchange reply) → Prop}
  {history : List (Exchange reply)} {program : Program reply ε α}

theorem Keeps.asks {question : ρ} {resume : reply question → Program reply ε α}
    (keeps : Keeps rules returned raised (.ask question resume) history) : rules.allowed history question ∧
      ∀ answer, rules.credible history ⟨question, answer⟩ →
        Keeps rules returned raised (resume answer) (history ++ [⟨question, answer⟩]) := by
  cases keeps with
  | ask allowed rest => exact ⟨allowed, rest⟩

theorem Keeps.lift {outcome : Except ε α} (ok : ∀ value, outcome = .ok value → returned value history)
    (error : ∀ failure, outcome = .error failure → raised failure history) :
    Keeps rules returned raised (Program.lift outcome) history := by
  cases outcome with
  | ok value => exact .pure (ok value rfl)
  | error failure => exact .raise (error failure rfl)

theorem Keeps.weaken (keeps : Keeps rules returned raised program history) {other : α → List (Exchange reply) → Prop}
    {otherRaised : ε → List (Exchange reply) → Prop} (ok : ∀ value after, returned value after → other value after)
    (error : ∀ failure after, raised failure after → otherRaised failure after) :
    Keeps rules other otherRaised program history := by
  induction keeps with
  | pure good => exact .pure (ok _ _ good)
  | raise good => exact .raise (error _ _ good)
  | ask allowed _ ih => exact .ask allowed ih

theorem Keeps.bind {next : α → Program reply ε β} {returned : β → List (Exchange reply) → Prop}
    (keeps : Keeps rules (fun value after => Keeps rules returned raised (next value) after) raised program history) :
    Keeps rules returned raised (program >>= next) history := by
  induction program generalizing history with
  | done outcome =>
    cases keeps with
    | pure good => exact good
    | raise good => exact .raise good
  | ask question resume ih =>
    obtain ⟨allowed, rest⟩ := keeps.asks
    exact .ask allowed fun answer credible => ih answer (rest answer credible)

/-- One program after another. -/
theorem Keeps.seq {next : α → Program reply ε β} {returned : β → List (Exchange reply) → Prop}
    {first : α → List (Exchange reply) → Prop} (keeps : Keeps rules first raised program history)
    (rest : ∀ value after, first value after → Keeps rules returned raised (next value) after) :
    Keeps rules returned raised (program >>= next) history := .bind (keeps.weaken rest fun _ _ held => held)

theorem Keeps.handling {handler : ε → Option (Program reply ε α)} {first : ε → List (Exchange reply) → Prop}
    (keeps : Keeps rules returned first program history)
    (recovers : ∀ failure recovery after, first failure after → handler failure = some recovery →
      Keeps rules returned raised recovery after)
    (passes : ∀ failure after, first failure after → handler failure = none → raised failure after) :
    Keeps rules returned raised (program.handling handler) history := by
  induction keeps with
  | pure good => exact .pure good
  | @raise failure _ good =>
    unfold Program.handling
    cases handled : handler failure with
    | some recovery => exact recovers _ _ _ good handled
    | none => exact .raise (passes _ _ good handled)
  | ask allowed _ ih => exact .ask allowed ih

theorem Keeps.ite {condition : Prop} [Decidable condition] {first last : Program reply ε α}
    (yes : condition → Keeps rules returned raised first history) (no : ¬ condition → Keeps rules returned raised last history) :
    Keeps rules returned raised (if condition then first else last) history := by
  split
  next holds => exact yes holds
  next fails => exact no fails

/-- A program on its own, with a world that answers it or leaves it waiting. -/
def execute {σ : Type} (world : σ → List (Exchange reply) → (question : ρ) → Option (reply question × σ)) :
    Program reply ε α → σ → List (Exchange reply) → Option (Except ε α × σ × List (Exchange reply))
  | done outcome, store, history => some (outcome, store, history)
  | ask question resume, store, history =>
    match world store history question with
    | some (answer, after) => (resume answer).execute world after (history ++ [⟨question, answer⟩])
    | none => none

/-- In a world that answers what is allowed, and credibly, a program comes to an end that keeps the rules. -/
theorem Keeps.executes {σ : Type} {world : σ → List (Exchange reply) → (question : ρ) → Option (reply question × σ)} {fact : σ → Prop}
    (answers : ∀ store history question, fact store → rules.allowed history question → ∃ answer after,
      world store history question = some (answer, after) ∧ rules.credible history ⟨question, answer⟩ ∧ fact after)
    (keeps : Keeps rules returned raised program history) {store : σ} (held : fact store) :
    ∃ outcome after final, program.execute world store history = some (outcome, after, final) ∧ fact after ∧
      (∀ value, outcome = .ok value → returned value final) ∧ ∀ failure, outcome = .error failure → raised failure final := by
  induction keeps generalizing store with
  | @pure value history good =>
    exact ⟨.ok value, store, history, rfl, held, fun _ same => Except.ok.inj same ▸ good, nofun⟩
  | @raise failure history good =>
    exact ⟨.error failure, store, history, rfl, held, nofun, fun _ same => Except.error.inj same ▸ good⟩
  | @ask question resume history allowed _ ih =>
    obtain ⟨answer, after, answered, credible, kept⟩ := answers store history question held allowed
    obtain ⟨outcome, last, final, executed, rest⟩ := ih answer credible kept
    exact ⟨outcome, last, final, by rw [execute, answered]; exact executed, rest⟩

end Program

/-! Many calls over one store. -/

/-- A call under way: what it has asked so far, and what it goes on with. -/
structure Caller {ρ : Type} (reply : ρ → Type) (ε α : Type) where
  history : List (Exchange reply)
  program : Program reply ε α

namespace Caller
open Program

variable {σ ρ : Type} {reply : ρ → Type} {ε α : Type}

/-- A caller's history and the exchange it has just had. -/
abbrev Label (reply : ρ → Type) : Type := Option (List (Exchange reply) × Exchange reply)

inductive Asks (answers : σ → (question : ρ) → reply question → σ → Prop) :
    σ → Caller reply ε α → Label reply → σ → Caller reply ε α → Prop
  | asked {store after : σ} {history : List (Exchange reply)} {question : ρ} {resume : reply question → Program reply ε α}
      {answer : reply question} : answers store question answer after →
      Asks answers store ⟨history, .ask question resume⟩ (some (history, ⟨question, answer⟩)) after
        ⟨history ++ [⟨question, answer⟩], resume answer⟩

/-- Calls begin, and one at a time has its next question answered. -/
abbrev Step (calls : Program reply ε α → Prop) (answers : σ → (question : ρ) → reply question → σ → Prop) :
    Pool σ (Caller reply ε α) → Label reply → Pool σ (Caller reply ε α) → Prop :=
  Pool.Step (fun caller => caller.history = [] ∧ calls caller.program) none (Asks answers)

/-- Every exchange of this history is one of the labels. -/
def Recorded (labels : List (Label reply)) (history : List (Exchange reply)) : Prop :=
  ∀ exchange ∈ history, ∃ earlier, some (earlier, exchange) ∈ labels

/-- A fact about the labels and the store that allowed questions keep, and that bears out the answers. -/
structure Upheld (rules : Rules reply) (answers : σ → (question : ρ) → reply question → σ → Prop)
    (fact : List (Label reply) → σ → Prop) : Prop where
  idle : ∀ labels store, fact labels store → fact (labels ++ [none]) store
  asked : ∀ labels store history question answer after, fact labels store → Recorded labels history →
    rules.allowed history question → answers store question answer after → rules.credible history ⟨question, answer⟩ ∧
      fact (labels ++ [some (history, ⟨question, answer⟩)]) after

/-- What a run of calls that keep the rules has come to. -/
structure Ruled (rules : Rules reply) (fact : List (Label reply) → σ → Prop) (labels : List (Label reply))
    (pool : Pool σ (Caller reply ε α)) : Prop where
  holds : fact labels pool.store
  kept : ∀ caller ∈ pool.processes, Keeps rules (fun _ _ => True) (fun _ _ => True) caller.program caller.history
  recorded : ∀ caller ∈ pool.processes, Recorded labels caller.history
  lawful : ∀ history exchange, some (history, exchange) ∈ labels →
    rules.allowed history exchange.question ∧ rules.credible history exchange ∧ Recorded labels history

variable {rules : Rules reply} {answers : σ → (question : ρ) → reply question → σ → Prop}
  {fact : List (Label reply) → σ → Prop} {calls : Program reply ε α → Prop}

theorem Recorded.mono {labels more : List (Label reply)} {history : List (Exchange reply)} (recorded : Recorded labels history) :
    Recorded (labels ++ more) history := fun exchange listed =>
  (recorded exchange listed).imp fun _ found => List.mem_append_left _ found

theorem ruled_step {labels : List (Label reply)} {label : Label reply} {before after : Pool σ (Caller reply ε α)}
    (keeps : ∀ program, calls program → Keeps rules (fun _ _ => True) (fun _ _ => True) program [])
    (upheld : Upheld rules answers fact) (ruled : Ruled rules fact labels before) (step : Step calls answers before label after) :
    Ruled rules fact (labels ++ [label]) after := by
  cases step with
  | birth newborn =>
    refine ⟨upheld.idle _ _ ruled.holds, fun caller listed => ?_, fun caller listed => ?_, fun history exchange listed => ?_⟩
    · rcases List.mem_append.mp listed with listed | listed
      · exact ruled.kept caller listed
      · obtain rfl := List.mem_singleton.mp listed
        exact newborn.1 ▸ keeps _ newborn.2
    · rcases List.mem_append.mp listed with listed | listed
      · exact (ruled.recorded caller listed).mono
      · obtain rfl := List.mem_singleton.mp listed
        exact newborn.1 ▸ nofun
    · obtain ⟨allowed, credible, recorded⟩ := ruled.lawful history exchange (by simpa using listed)
      exact ⟨allowed, credible, recorded.mono⟩
  | @act store after processes index process next label found acted =>
    have listed := List.mem_of_getElem? found
    cases acted with
    | @asked _ history question resume answer answered =>
      have kept := (ruled.kept _ listed).asks
      have recorded := ruled.recorded _ listed
      obtain ⟨credible, holds⟩ := upheld.asked labels store history question answer after ruled.holds recorded kept.1 answered
      refine ⟨holds, fun caller member => ?_, fun caller member => ?_, fun other exchange member => ?_⟩
      · rcases List.mem_or_eq_of_mem_set member with member | rfl
        · exact ruled.kept caller member
        · exact kept.2 answer credible
      · rcases List.mem_or_eq_of_mem_set member with member | rfl
        · exact (ruled.recorded caller member).mono
        · intro exchange inside
          rcases List.mem_append.mp inside with inside | inside
          · exact recorded.mono exchange inside
          · obtain rfl := List.mem_singleton.mp inside
            exact ⟨history, by simp⟩
      · rcases List.mem_append.mp member with member | member
        · obtain ⟨allowed, credible, before⟩ := ruled.lawful other exchange member
          exact ⟨allowed, credible, before.mono⟩
        · have same := List.mem_singleton.mp member
          simp only [Option.some.injEq, Prod.mk.injEq] at same
          obtain ⟨rfl, rfl⟩ := same
          exact ⟨kept.1, credible, recorded.mono⟩

/-- In every run of calls that keep the rules, every question was allowed and the fact holds throughout. -/
theorem ruled_run (keeps : ∀ program, calls program → Keeps rules (fun _ _ => True) (fun _ _ => True) program [])
    (upheld : Upheld rules answers fact) {store : σ} (initial : fact [] store) {labels : List (Label reply)}
    {pool : Pool σ (Caller reply ε α)} (run : Run (Step calls answers) ⟨store, []⟩ labels pool) :
    Ruled rules fact labels pool :=
  run.invariant (Ruled rules fact) ⟨initial, fun _ listed => absurd listed List.not_mem_nil,
      fun _ listed => absurd listed List.not_mem_nil, fun _ _ listed => absurd listed List.not_mem_nil⟩
    fun _ _ _ _ _ ruled step => ruled_step keeps upheld ruled step

/-- What a program does on its own is a run of it among others that stand still. -/
theorem execute_run {world : σ → List (Exchange reply) → (question : ρ) → Option (reply question × σ)}
    (sound : ∀ store history question answer after, world store history question = some (answer, after) →
      answers store question answer after)
    {processes : List (Caller reply ε α)} {index : Nat} {outcome : Except ε α} {program : Program reply ε α} {store after : σ}
    {history final : List (Exchange reply)} (executed : program.execute world store history = some (outcome, after, final))
    (found : processes[index]? = some ⟨history, program⟩) :
    ∃ labels, Run (Step calls answers) ⟨store, processes⟩ labels ⟨after, processes.set index ⟨final, .done outcome⟩⟩ := by
  induction program generalizing store history processes with
  | done ended =>
    cases executed
    obtain ⟨inside, same⟩ := List.getElem?_eq_some_iff.mp found
    refine ⟨[], ?_⟩
    rw [← same, List.set_getElem_self]
    exact .nil
  | ask question resume ih =>
    unfold Program.execute at executed
    split at executed
    next answer middle answered =>
      have inside : index < processes.length := (List.getElem?_eq_some_iff.mp found).1
      have next : Step calls answers ⟨store, processes⟩ (some (history, ⟨question, answer⟩))
          ⟨middle, processes.set index ⟨history ++ [⟨question, answer⟩], resume answer⟩⟩ :=
        .act found (.asked (sound _ _ _ _ _ answered))
      have moved : (processes.set index ⟨history ++ [⟨question, answer⟩], resume answer⟩)[index]? =
          some ⟨history ++ [⟨question, answer⟩], resume answer⟩ := by rw [List.getElem?_set_self inside]
      obtain ⟨labels, run⟩ := ih answer executed moved
      rw [List.set_set] at run
      exact ⟨_, Run.append (.snoc .nil next) run⟩
    next => cases executed

end Caller
end Switchyard.Library
