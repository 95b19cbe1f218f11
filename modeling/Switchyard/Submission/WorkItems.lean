import Switchyard.Library.Graph
import Switchyard.Nightshift.Control

/-! The work items of an orientation packet, as its schema shapes them: their
identities, their exact-work references and the graph of their dependencies. -/

namespace Switchyard.Submission
open Library Json

/-- SubmissionProtocolError with its text, or another exception with its class name. -/
inductive Failure
  | protocol (message : Text)
  | other (className : ClassName)
deriving DecidableEq

def refused (message : String) : Failure := .protocol (text message)

def demand (holds : Bool) (message : String) : Except Failure Unit := if holds then .ok () else .error (refused message)

theorem demand_ok {holds : Bool} {message : String} : demand holds message = .ok () ↔ holds = true := by
  cases holds <;> simp [demand]

def EXACT_WORK_PROPOSAL_SCHEMA : Text := text "ag.governed-loop.exact-work-proposal/v1"

inductive ContractKind
  | exactWorkProposalV1
  | repositoryActualEquivalent
deriving DecidableEq

def ContractKind.name : ContractKind → String
  | .exactWorkProposalV1 => "exact_work_proposal_v1"
  | .repositoryActualEquivalent => "repository_actual_equivalent"

structure WorkRef where
  contractKind : ContractKind
  contractSchema : Text

structure Campaign where
  codename : Text
  canonicalSlug : Text
deriving DecidableEq

structure WorkItem where
  id : Text
  campaign : Campaign
  dependencies : List Text
  exactWorkRefs : List WorkRef

def checkReference (unicode : Nightshift.Unicode) (reference : WorkRef) : Except Failure Unit :=
  match reference.contractKind with
  | .exactWorkProposalV1 =>
    demand (reference.contractSchema == EXACT_WORK_PROPOSAL_SCHEMA) "exact-work proposal schema is invalid"
  | .repositoryActualEquivalent =>
    demand (!unicode.blank reference.contractSchema) "repository actual contract schema is empty"

/-- What the loop over the items has gathered. -/
structure Gathered where
  itemIds : List Text
  campaignIds : List Campaign
  graph : List (Text × List Text)

def gather (unicode : Nightshift.Unicode) (gathered : Gathered) (item : WorkItem) : Except Failure Gathered := do
  if item.id ∈ gathered.itemIds then .error (.protocol (text "duplicate work item id: " ++ item.id))
  else if item.campaign ∈ gathered.campaignIds then .error (refused "duplicate work item campaign identity")
  else do
    item.exactWorkRefs.forM (checkReference unicode)
    return ⟨gathered.itemIds ++ [item.id], gathered.campaignIds ++ [item.campaign],
      gathered.graph ++ [(item.id, item.dependencies)]⟩

def checkDependency (itemIds : List Text) (dependency : Text) : Except Failure Unit :=
  if dependency ∈ itemIds then .ok () else .error (.protocol (text "unknown work item dependency: " ++ dependency))

/-- The part of `_validate_nightshift_semantics` that is about the work items. -/
def validateWorkItems (unicode : Nightshift.Unicode) (items : List WorkItem) : Except Failure Unit := do
  let gathered ← items.foldlM (gather unicode) ⟨[], [], []⟩
  gathered.graph.forM fun entry => entry.2.forM (checkDependency gathered.itemIds)
  match Graph.visitAll gathered.graph [] [] (gathered.graph.map Prod.fst) with
  | .ok _ => return ()
  | .error (.cycle _) => .error (refused "work item dependency graph contains a cycle")
  | .error (.missing _) => .error (.other (className "KeyError"))

/-- The rule of a reference's contract schema. -/
def WorkRef.Lawful (unicode : Nightshift.Unicode) (reference : WorkRef) : Prop :=
  match reference.contractKind with
  | .exactWorkProposalV1 => reference.contractSchema = EXACT_WORK_PROPOSAL_SCHEMA
  | .repositoryActualEquivalent => ∃ point ∈ reference.contractSchema, unicode.space point = false

def Depends (items : List WorkItem) (dependent dependency : Text) : Prop :=
  ∃ item ∈ items, item.id = dependent ∧ dependency ∈ item.dependencies

/-- A set of work items that can be scheduled. -/
structure Schedulable (unicode : Nightshift.Unicode) (items : List WorkItem) : Prop where
  ids : (items.map (·.id)).Nodup
  campaigns : (items.map (·.campaign)).Nodup
  references : ∀ item ∈ items, ∀ reference ∈ item.exactWorkRefs, reference.Lawful unicode
  known : ∀ item ∈ items, ∀ dependency ∈ item.dependencies, ∃ other ∈ items, other.id = dependency
  acyclic : ∀ id, ¬ Relation.TransGen (Depends items) id id

variable {unicode : Nightshift.Unicode} {items : List WorkItem}

theorem checkReference_ok {reference : WorkRef} : checkReference unicode reference = .ok () ↔ reference.Lawful unicode := by
  unfold checkReference WorkRef.Lawful
  cases reference.contractKind with
  | exactWorkProposalV1 => rw [demand_ok, beq_iff_eq]
  | repositoryActualEquivalent => simp [demand_ok, Nightshift.Unicode.blank]

theorem forM_ok {α : Type} {check : α → Except Failure Unit} {values : List α} :
    values.forM check = .ok () ↔ ∀ value ∈ values, check value = .ok () := by
  induction values with
  | nil => simp [pure, Except.pure]
  | cons value rest ih =>
    have unfolded : (value :: rest).forM check = (check value >>= fun _ => rest.forM check) := rfl
    rw [unfolded, bind_ok, List.forall_mem_cons, ← ih]
    exact ⟨fun ⟨_, first, later⟩ => ⟨first, later⟩, fun ⟨first, later⟩ => ⟨(), first, later⟩⟩

/-- What was gathered of some items. -/
def gatheredOf (items : List WorkItem) : Gathered :=
  ⟨items.map (·.id), items.map (·.campaign), items.map fun item => (item.id, item.dependencies)⟩

theorem gather_one {before : List WorkItem} {item : WorkItem} {after : Gathered} :
    gather unicode (gatheredOf before) item = .ok after ↔ item.id ∉ before.map (·.id) ∧ item.campaign ∉ before.map (·.campaign) ∧
      (∀ reference ∈ item.exactWorkRefs, reference.Lawful unicode) ∧ after = gatheredOf (before ++ [item]) := by
  have grown : gatheredOf (before ++ [item]) = ⟨before.map (·.id) ++ [item.id], before.map (·.campaign) ++ [item.campaign],
      (before.map fun item => (item.id, item.dependencies)) ++ [(item.id, item.dependencies)]⟩ := by
    simp [gatheredOf]
  have lawful : (∀ reference ∈ item.exactWorkRefs, reference.Lawful unicode) ↔
      item.exactWorkRefs.forM (checkReference unicode) = .ok () := by
    simp only [forM_ok, checkReference_ok]
  unfold gather
  by_cases listed : item.id ∈ before.map (·.id)
  · rw [if_pos (show item.id ∈ (gatheredOf before).itemIds from listed)]
    simp [listed]
  · rw [if_neg (show item.id ∉ (gatheredOf before).itemIds from listed)]
    by_cases taken : item.campaign ∈ before.map (·.campaign)
    · rw [if_pos (show item.campaign ∈ (gatheredOf before).campaignIds from taken)]
      simp [taken]
    · rw [if_neg (show item.campaign ∉ (gatheredOf before).campaignIds from taken), bind_ok, grown, lawful]
      constructor
      · rintro ⟨_, checked, found⟩
        cases found
        exact ⟨listed, taken, checked, rfl⟩
      · rintro ⟨_, _, checked, rfl⟩
        exact ⟨(), checked, rfl⟩

private theorem nodup_snoc {α : Type} {entries : List α} {entry : α} : (entries ++ [entry]).Nodup ↔ entries.Nodup ∧ entry ∉ entries := by
  rw [List.nodup_append_comm, List.singleton_append, List.nodup_cons]
  exact and_comm

/-- The loop succeeds on items that are apart from each other and from those before them. -/
theorem gather_ok {before : List WorkItem} {after : Gathered}
    (ids : (before.map (·.id)).Nodup) (campaigns : (before.map (·.campaign)).Nodup) :
    items.foldlM (gather unicode) (gatheredOf before) = .ok after ↔ after = gatheredOf (before ++ items) ∧
      ((before ++ items).map (·.id)).Nodup ∧ ((before ++ items).map (·.campaign)).Nodup ∧
      ∀ item ∈ items, ∀ reference ∈ item.exactWorkRefs, reference.Lawful unicode := by
  induction items generalizing before with
  | nil =>
    rw [List.foldlM_nil, List.append_nil]
    refine ⟨fun done => ?_, fun ⟨done, _⟩ => ?_⟩
    · cases done
      exact ⟨rfl, ids, campaigns, nofun⟩
    · rw [done]
      rfl
  | cons item rest ih =>
    have parts : before ++ item :: rest = (before ++ [item]) ++ rest := by simp
    rw [List.foldlM_cons, bind_ok]
    constructor
    · rintro ⟨middle, one, others⟩
      obtain ⟨fresh, apart, lawful, rfl⟩ := gather_one.mp one
      obtain ⟨rfl, distinct, separate, each⟩ := (ih (by rw [List.map_append]; exact nodup_snoc.mpr ⟨ids, fresh⟩)
        (by rw [List.map_append]; exact nodup_snoc.mpr ⟨campaigns, apart⟩)).mp others
      rw [parts]
      exact ⟨rfl, distinct, separate, List.forall_mem_cons.mpr ⟨lawful, each⟩⟩
    · rintro ⟨rfl, distinct, separate, each⟩
      rw [parts] at distinct separate
      obtain ⟨lawful, each⟩ := List.forall_mem_cons.mp each
      have front := (List.nodup_append.mp (by rwa [List.map_append] at distinct)).1
      have frontCampaigns := (List.nodup_append.mp (by rwa [List.map_append] at separate)).1
      refine ⟨gatheredOf (before ++ [item]), gather_one.mpr ⟨?_, ?_, lawful, rfl⟩,
        (ih front frontCampaigns).mpr ⟨by rw [parts], distinct, separate, each⟩⟩
      · rw [List.map_append] at front
        exact (nodup_snoc.mp front).2
      · rw [List.map_append] at frontCampaigns
        exact (nodup_snoc.mp frontCampaigns).2

theorem graph_ids : (gatheredOf items).graph.map Prod.fst = items.map (·.id) := by simp [gatheredOf]

theorem edge_iff (ids : (items.map (·.id)).Nodup) {dependent dependency : Text} :
    Graph.Edge (gatheredOf items).graph dependent dependency ↔ Depends items dependent dependency := by
  rw [Graph.edge_listed (by rwa [graph_ids])]
  constructor
  · rintro ⟨others, inside, listed⟩
    obtain ⟨item, member, same⟩ := List.mem_map.mp inside
    cases same
    exact ⟨item, member, rfl, listed⟩
  · rintro ⟨item, member, rfl, listed⟩
    exact ⟨item.dependencies, List.mem_map.mpr ⟨item, member, rfl⟩, listed⟩

theorem checkDependency_ok {itemIds : List Text} {dependency : Text} :
    checkDependency itemIds dependency = .ok () ↔ dependency ∈ itemIds := by
  unfold checkDependency
  split <;> simp_all

theorem dependencies_ok : ((gatheredOf items).graph.forM fun entry => entry.2.forM (checkDependency (gatheredOf items).itemIds)) = .ok () ↔
    ∀ item ∈ items, ∀ dependency ∈ item.dependencies, ∃ other ∈ items, other.id = dependency := by
  simp only [forM_ok, checkDependency_ok, gatheredOf, List.mem_map, forall_exists_index, and_imp, forall_apply_eq_imp_iff₂]

/-- The search finds no cycle exactly where no work item depends on itself through others. -/
theorem search_ok (ids : (items.map (·.id)).Nodup)
    (known : ∀ item ∈ items, ∀ dependency ∈ item.dependencies, ∃ other ∈ items, other.id = dependency) :
    (∃ visited, Graph.visitAll (gatheredOf items).graph [] [] ((gatheredOf items).graph.map Prod.fst) = .ok visited) ↔
      ∀ id, ¬ Relation.TransGen (Depends items) id id := by
  have closed : Graph.Closed (gatheredOf items).graph := by
    refine Graph.closed_of_listed ?_
    rw [graph_ids]
    simpa only [gatheredOf, List.mem_map, forall_exists_index, and_imp, forall_apply_eq_imp_iff₂] using known
  have same : Graph.Edge (gatheredOf items).graph = Depends items := by
    funext dependent dependency
    exact propext (edge_iff ids)
  rw [Graph.visitAll_iff closed, same]

/-- The validation of the work items decides whether they can be scheduled. -/
theorem work_items_schedulable : validateWorkItems unicode items = .ok () ↔ Schedulable unicode items := by
  have start : (⟨[], [], []⟩ : Gathered) = gatheredOf [] := rfl
  unfold validateWorkItems
  rw [bind_ok]
  constructor
  · rintro ⟨gathered, loop, rest⟩
    rw [start, @gather_ok unicode items [] _ List.nodup_nil List.nodup_nil, List.nil_append] at loop
    obtain ⟨rfl, ids, campaigns, references⟩ := loop
    obtain ⟨_, listed, searched⟩ := bind_ok.mp rest
    have known := dependencies_ok.mp listed
    refine ⟨ids, campaigns, references, known, (search_ok ids known).mp ?_⟩
    split at searched
    next visited found => exact ⟨visited, found⟩
    all_goals cases searched
  · rintro ⟨ids, campaigns, references, known, acyclic⟩
    obtain ⟨visited, found⟩ := (search_ok ids known).mpr acyclic
    refine ⟨gatheredOf items, ?_, bind_ok.mpr ⟨(), dependencies_ok.mpr known, ?_⟩⟩
    · rw [start, @gather_ok unicode items [] _ List.nodup_nil List.nodup_nil, List.nil_append]
      exact ⟨rfl, ids, campaigns, references⟩
    · rw [found]
      rfl

end Switchyard.Submission
