import Mathlib.Data.List.Basic
import Switchyard.Library.Transition

/-! Any number of processes over one shared store. Each step moves one process;
a process may acquire a key nobody has taken, and use it up at most once. -/

namespace Switchyard.Library

structure Pool (σ π : Type) where
  store : σ
  processes : List π

namespace Pool

variable {σ π ℓ κ : Type}

/-- Processes are born, under an idle label, and act one at a time. -/
inductive Step (born : π → Prop) (idle : ℓ) (act : σ → π → ℓ → σ → π → Prop) : Pool σ π → ℓ → Pool σ π → Prop
  | birth {store : σ} {processes : List π} {process : π} :
      born process → Step born idle act ⟨store, processes⟩ idle ⟨store, processes ++ [process]⟩
  | act {store after : σ} {processes : List π} {index : Nat} {process next : π} {label : ℓ} :
      processes[index]? = some process → act store process label after next →
      Step born idle act ⟨store, processes⟩ label ⟨after, processes.set index next⟩

theorem Step.map {κ : Type} {born : π → Prop} {idle : ℓ} {silent : κ} {act : σ → π → ℓ → σ → π → Prop}
    {other : σ → π → κ → σ → π → Prop} {forget : κ → ℓ} (quiet : forget silent = idle)
    (acts : ∀ store process label after next, other store process label after next →
      act store process (forget label) after next) {before after : Pool σ π} {label : κ}
    (step : Step born silent other before label after) : Step born idle act before (forget label) after := by
  cases step with
  | birth newborn => exact quiet ▸ .birth newborn
  | act found acted => exact .act found (acts _ _ _ _ _ acted)

theorem Step.lift {κ : Type} {born : π → Prop} {idle : ℓ} {silent : κ} {act : σ → π → ℓ → σ → π → Prop}
    {other : σ → π → κ → σ → π → Prop} {forget : κ → ℓ} (quiet : forget silent = idle)
    (acts : ∀ store process label after next, act store process label after next →
      ∃ full, forget full = label ∧ other store process full after next) {before after : Pool σ π} {label : ℓ}
    (step : Step born idle act before label after) : ∃ full, forget full = label ∧ Step born silent other before full after := by
  cases step with
  | birth newborn => exact ⟨silent, quiet, .birth newborn⟩
  | act found acted =>
    obtain ⟨full, same, done⟩ := acts _ _ _ _ _ acted
    exact ⟨full, same, .act found done⟩

/-- How processes hold keys: `owner` is the key a process works on, `armed` the
key it may still use, `taken` what the store records, `uses` what a label uses. -/
structure Discipline (born : π → Prop) (idle : ℓ) (act : σ → π → ℓ → σ → π → Prop) (κ : Type) where
  owner : π → Option κ
  armed : π → Option κ
  taken : σ → κ → Prop
  uses : ℓ → Option κ
  newborn : ∀ process, born process → owner process = none
  silent : uses idle = none
  armedOwns : ∀ process key, armed process = some key → owner process = some key
  lasting : ∀ store process label after next, act store process label after next →
    ∀ key, taken store key → taken after key
  acquires : ∀ store process label after next, act store process label after next →
    ∀ key, owner next = some key → owner process = some key ∨ ¬ taken store key ∧ taken after key
  arms : ∀ store process label after next, act store process label after next →
    ∀ key, armed next = some key → uses label ≠ some key ∧ (armed process = some key ∨ ¬ taken store key)
  spends : ∀ store process label after next, act store process label after next →
    ∀ key, uses label = some key → armed process = some key

namespace Discipline

variable {born : π → Prop} {idle : ℓ} {act : σ → π → ℓ → σ → π → Prop} [DecidableEq κ]

/-- How often a history uses a key. -/
def count (discipline : Discipline born idle act κ) (key : κ) (labels : List ℓ) : Nat :=
  labels.countP fun label => decide (discipline.uses label = some key)

/-- Every key has at most one owner, and is used at most once. -/
structure Exclusive (discipline : Discipline born idle act κ) (labels : List ℓ) (pool : Pool σ π) : Prop where
  unique : ∀ {first last : Nat} {left right : π} {key : κ}, pool.processes[first]? = some left →
    pool.processes[last]? = some right → discipline.owner left = some key → discipline.owner right = some key → first = last
  owned : ∀ process ∈ pool.processes, ∀ key, discipline.owner process = some key → discipline.taken pool.store key
  once : ∀ key, discipline.count key labels ≤ 1
  unused : ∀ process ∈ pool.processes, ∀ key, discipline.armed process = some key → discipline.count key labels = 0
  used : ∀ key, discipline.count key labels ≠ 0 → discipline.taken pool.store key

/-- Processes that show more keep the discipline of what they also show. -/
def comap {ℓ' : Type} {silent : ℓ'} {other : σ → π → ℓ' → σ → π → Prop} {forget : ℓ' → ℓ}
    (discipline : Discipline born idle act κ) (quiet : forget silent = idle)
    (acts : ∀ store process label after next, other store process label after next →
      act store process (forget label) after next) : Discipline born silent other κ where
  owner := discipline.owner
  armed := discipline.armed
  taken := discipline.taken
  uses label := discipline.uses (forget label)
  newborn := discipline.newborn
  silent := by rw [quiet, discipline.silent]
  armedOwns := discipline.armedOwns
  lasting _ _ _ _ _ step := discipline.lasting _ _ _ _ _ (acts _ _ _ _ _ step)
  acquires _ _ _ _ _ step := discipline.acquires _ _ _ _ _ (acts _ _ _ _ _ step)
  arms _ _ _ _ _ step := discipline.arms _ _ _ _ _ (acts _ _ _ _ _ step)
  spends _ _ _ _ _ step := discipline.spends _ _ _ _ _ (acts _ _ _ _ _ step)

variable {discipline : Discipline born idle act κ} {labels : List ℓ} {label : ℓ} {before after : Pool σ π} {key : κ}

theorem count_append : discipline.count key (labels ++ [label]) =
    discipline.count key labels + if discipline.uses label = some key then 1 else 0 := by
  simp only [count, List.countP_append, List.countP_singleton, decide_eq_true_eq]

theorem count_other (other : discipline.uses label ≠ some key) :
    discipline.count key (labels ++ [label]) = discipline.count key labels := by
  rw [count_append, if_neg other, Nat.add_zero]

theorem exclusive_empty (store : σ) : discipline.Exclusive [] ⟨store, []⟩ where
  unique found := by simp at found
  owned process listed := by cases listed
  once _ := Nat.zero_le _
  unused process listed := by cases listed
  used key used := absurd rfl used

private theorem mem_append_of_birth {processes : List π} {process other : π} (listed : other ∈ processes ++ [process]) :
    other ∈ processes ∨ other = process := by
  simpa using listed

theorem exclusive_step (exclusive : discipline.Exclusive labels before) (step : Step born idle act before label after) :
    discipline.Exclusive (labels ++ [label]) after := by
  cases step with
  | @birth store processes process newborn =>
    have owns : discipline.owner process = none := discipline.newborn process newborn
    have same (key : κ) : discipline.count key (labels ++ [idle]) = discipline.count key labels :=
      count_other (by rw [discipline.silent]; nofun)
    have older {index : Nat} {other : π} (found : (processes ++ [process])[index]? = some other) {key : κ}
        (owner : discipline.owner other = some key) : processes[index]? = some other := by
      rcases Nat.lt_or_ge index processes.length with inside | outside
      · rwa [List.getElem?_append_left inside] at found
      · rw [List.getElem?_append_right outside] at found
        have listed := List.mem_of_getElem? found
        obtain rfl := List.mem_singleton.mp listed
        cases owns.symm.trans owner
    refine ⟨fun first last left right => exclusive.unique (older first left) (older last right) left right, ?_, ?_, ?_, ?_⟩
    · intro other listed key owner
      rcases mem_append_of_birth listed with listed | rfl
      · exact exclusive.owned other listed key owner
      · cases owns.symm.trans owner
    · exact fun key => same key ▸ exclusive.once key
    · intro other listed key armed
      rw [same]
      rcases mem_append_of_birth listed with listed | rfl
      · exact exclusive.unused other listed key armed
      · cases owns.symm.trans (discipline.armedOwns _ key armed)
    · exact fun key used => exclusive.used key (same key ▸ used)
  | @act store after processes index process next _ found acted =>
    have inside : index < processes.length := (List.getElem?_eq_some_iff.mp found).1
    have listed : process ∈ processes := List.mem_of_getElem? found
    have fresh : ∀ key, discipline.owner next = some key → ∀ (last : Nat) (right : π), last ≠ index →
        processes[last]? = some right → discipline.owner right ≠ some key := by
      intro key owner last right differ other owns
      rcases discipline.acquires _ _ _ _ _ acted key owner with before | ⟨free, -⟩
      · exact differ (exclusive.unique other found owns before)
      · exact free (exclusive.owned right (List.mem_of_getElem? other) key owns)
    refine ⟨?_, ?_, ?_, ?_, ?_⟩
    · intro first last left right key one two owner other
      simp only [List.getElem?_set] at one two
      by_cases here : index = first <;> by_cases there : index = last
      · omega
      · rw [if_pos here, if_pos inside] at one
        rw [if_neg there] at two
        obtain rfl := Option.some.inj one
        exact absurd other (fresh key owner last right (Ne.symm there) two)
      · rw [if_neg here] at one
        rw [if_pos there, if_pos inside] at two
        obtain rfl := Option.some.inj two
        exact absurd owner (fresh key other first left (Ne.symm here) one)
      · rw [if_neg here] at one
        rw [if_neg there] at two
        exact exclusive.unique one two owner other
    · intro other member key owner
      rcases List.mem_or_eq_of_mem_set member with member | rfl
      · exact discipline.lasting _ _ _ _ _ acted key (exclusive.owned other member key owner)
      · rcases discipline.acquires _ _ _ _ _ acted key owner with before | ⟨-, taken⟩
        · exact discipline.lasting _ _ _ _ _ acted key (exclusive.owned process listed key before)
        · exact taken
    · intro key
      rw [count_append]
      split
      next uses =>
        have unused := exclusive.unused process listed key (discipline.spends _ _ _ _ _ acted key uses)
        omega
      next => exact exclusive.once key
    · intro other member key armed
      rcases List.mem_iff_getElem?.mp member with ⟨last, there⟩
      simp only [List.getElem?_set] at there
      by_cases here : index = last
      · rw [if_pos here, if_pos inside] at there
        obtain rfl := Option.some.inj there
        obtain ⟨kept, source⟩ := discipline.arms _ _ _ _ _ acted key armed
        rw [count_other kept]
        rcases source with source | free
        · exact exclusive.unused process listed key source
        · by_contra used
          exact free (exclusive.used key used)
      · rw [if_neg here] at there
        have other : discipline.uses label ≠ some key := by
          intro uses
          have owner := discipline.armedOwns _ key (discipline.spends _ _ _ _ _ acted key uses)
          exact here (exclusive.unique found there owner (discipline.armedOwns _ key armed))
        rw [count_other other]
        exact exclusive.unused _ (List.mem_of_getElem? there) key armed
    · intro key used
      by_cases uses : discipline.uses label = some key
      · have owner := discipline.armedOwns _ key (discipline.spends _ _ _ _ _ acted key uses)
        exact discipline.lasting _ _ _ _ _ acted key (exclusive.owned process listed key owner)
      · rw [count_other uses] at used
        exact discipline.lasting _ _ _ _ _ acted key (exclusive.used key used)

/-- In every run every key has at most one owner and is used at most once. -/
theorem exclusive_run {store : σ} {pool : Pool σ π} (run : Run (Step born idle act) ⟨store, []⟩ labels pool) :
    discipline.Exclusive labels pool :=
  run.invariant discipline.Exclusive (exclusive_empty store) fun _ _ _ _ _ exclusive step => exclusive_step exclusive step

/-- Facts about the store and about each process that a step of one process
keeps, given that no other process owns a key of its. -/
structure Kept (discipline : Discipline born idle act κ) (global : List ℓ → σ → Prop) (fact : List ℓ → σ → π → Prop) :
    Prop where
  idles : ∀ labels store, global labels store → global (labels ++ [idle]) store
  waits : ∀ labels store process, fact labels store process → fact (labels ++ [idle]) store process
  newborn : ∀ labels store process, born process → fact labels store process
  acts : ∀ labels pool, discipline.Exclusive labels pool → global labels pool.store → ∀ process ∈ pool.processes,
    fact labels pool.store process → ∀ label after next, act pool.store process label after next →
    global (labels ++ [label]) after ∧ fact (labels ++ [label]) after next
  apart : ∀ labels pool, discipline.Exclusive labels pool → ∀ process ∈ pool.processes, ∀ label after next,
    act pool.store process label after next → ∀ other ∈ pool.processes,
    (∀ key, discipline.owner process = some key ∨ discipline.owner next = some key → discipline.owner other ≠ some key) →
    fact labels pool.store other → fact (labels ++ [label]) after other

variable {global : List ℓ → σ → Prop} {fact : List ℓ → σ → π → Prop}

theorem kept_step (kept : discipline.Kept global fact) (exclusive : discipline.Exclusive labels before)
    (facts : global labels before.store ∧ ∀ process ∈ before.processes, fact labels before.store process)
    (step : Step born idle act before label after) :
    global (labels ++ [label]) after.store ∧ ∀ process ∈ after.processes, fact (labels ++ [label]) after.store process := by
  obtain ⟨holds, each⟩ := facts
  cases step with
  | birth newborn =>
    refine ⟨kept.idles _ _ holds, fun process listed => ?_⟩
    rcases mem_append_of_birth listed with listed | rfl
    · exact kept.waits _ _ _ (each process listed)
    · exact kept.newborn _ _ _ newborn
  | @act store after processes index process next _ found acted =>
    have inside : index < processes.length := (List.getElem?_eq_some_iff.mp found).1
    have listed : process ∈ processes := List.mem_of_getElem? found
    obtain ⟨still, here⟩ := kept.acts labels _ exclusive holds process listed (each process listed) _ _ _ acted
    refine ⟨still, fun other member => ?_⟩
    rcases List.mem_iff_getElem?.mp member with ⟨last, there⟩
    simp only [List.getElem?_set] at there
    by_cases same : index = last
    · rw [if_pos same, if_pos inside] at there
      exact Option.some.inj there ▸ here
    · rw [if_neg same] at there
      have present := List.mem_of_getElem? there
      refine kept.apart labels _ exclusive process listed _ _ _ acted other present ?_ (each other present)
      rintro key (owner | owner) owns
      · exact same (exclusive.unique found there owner owns)
      · rcases discipline.acquires _ _ _ _ _ acted key owner with owner | ⟨free, -⟩
        · exact same (exclusive.unique found there owner owns)
        · exact free (exclusive.owned other present key owns)

theorem kept_run (kept : discipline.Kept global fact) {store : σ} {pool : Pool σ π} (initial : global [] store)
    (run : Run (Step born idle act) ⟨store, []⟩ labels pool) :
    global labels pool.store ∧ ∀ process ∈ pool.processes, fact labels pool.store process :=
  run.invariant (fun labels pool => global labels pool.store ∧ ∀ process ∈ pool.processes, fact labels pool.store process)
    ⟨initial, fun _ listed => absurd listed List.not_mem_nil⟩
    fun _ _ _ _ early facts step => kept_step kept (exclusive_run early) facts step

end Discipline
end Pool
end Switchyard.Library
