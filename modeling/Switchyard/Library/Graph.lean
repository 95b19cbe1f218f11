import Mathlib.Logic.Relation
import Mathlib.Data.List.Lemmas

/-! Depth-first search for a cycle in a finite graph, with the nodes being visited and
those visited. It ends with every node in a topological order, or on a cycle. -/

namespace Switchyard.Library.Graph

variable {α : Type} [DecidableEq α]

/-- Why a search stops: at a node being visited, or at one that the graph does not list. -/
inductive Stop (α : Type)
  | cycle (node : α)
  | missing (node : α)

def Edge (graph : List (α × List α)) (node other : α) : Prop := ∃ others, graph.lookup node = some others ∧ other ∈ others

def unvisited (graph : List (α × List α)) (visiting : List α) : Nat := (graph.filter fun entry => entry.1 ∉ visiting).length

theorem unvisited_lt {graph : List (α × List α)} {visiting others : List α} {node : α} (fresh : node ∉ visiting)
    (found : graph.lookup node = some others) : unvisited graph (node :: visiting) < unvisited graph visiting := by
  have fewer (entries : List (α × List α)) : (entries.filter fun entry => entry.1 ∉ node :: visiting).length ≤
      (entries.filter fun entry => entry.1 ∉ visiting).length := by
    apply List.Sublist.length_le
    apply List.monotone_filter_right
    intro entry left
    simp only [List.mem_cons, not_or, decide_eq_true_eq] at left ⊢
    exact left.2
  obtain ⟨before, rest, rfl, -⟩ := List.lookup_eq_some_iff.mp found
  have early := fewer before
  have late := fewer rest
  unfold unvisited
  simp only [List.filter_append, List.filter_cons, List.mem_cons, true_or, not_true_eq_false, decide_false, Bool.false_eq_true,
    if_false, fresh, not_false_eq_true, decide_true, if_true, List.length_append, List.length_cons] at early late ⊢
  omega

mutual
def visit (graph : List (α × List α)) (visiting visited : List α) (node : α) : Except (Stop α) (List α) :=
  if node ∈ visited then .ok visited
  else if _ : node ∈ visiting then .error (.cycle node)
  else match _ : graph.lookup node with
    | none => .error (.missing node)
    | some others =>
      match visitAll graph (node :: visiting) visited others with
      | .ok visited => .ok (node :: visited)
      | .error stop => .error stop
termination_by (unvisited graph visiting, 0)
decreasing_by
  exact Prod.Lex.left _ _ (unvisited_lt ‹_› ‹_›)

def visitAll (graph : List (α × List α)) (visiting visited : List α) : List α → Except (Stop α) (List α)
  | [] => .ok visited
  | node :: rest =>
    match visit graph visiting visited node with
    | .ok visited => visitAll graph visiting visited rest
    | .error stop => .error stop
termination_by nodes => (unvisited graph visiting, nodes.length + 1)
end

variable {graph : List (α × List α)} {visiting visited nodes : List α} {node : α}

/-- Each node stands before all that it has an edge to. -/
inductive Topological (graph : List (α × List α)) : List α → Prop
  | nil : Topological graph []
  | cons {node : α} {rest : List α} : node ∉ rest → (∀ other, Edge graph node other → other ∈ rest) → Topological graph rest →
      Topological graph (node :: rest)

/-- A node in a topological order lies on no cycle. -/
theorem Topological.acyclic (order : Topological graph nodes) (listed : node ∈ nodes) : ¬ Relation.TransGen (Edge graph) node node := by
  induction order with
  | nil => cases listed
  | @cons first rest fresh edges order ih =>
    have inside {node other : α} (start : node ∈ rest) (edge : Edge graph node other) : other ∈ rest := by
      clear ih edges fresh listed
      induction order with
      | nil => cases start
      | cons _ edges _ ih =>
        rcases List.mem_cons.mp start with rfl | later
        · exact List.mem_cons_of_mem _ (edges _ edge)
        · exact List.mem_cons_of_mem _ (ih later)
    have reached {other : α} (path : Relation.TransGen (Edge graph) first other) : other ∈ rest := by
      induction path with
      | single edge => exact edges _ edge
      | tail _ edge ih => exact inside ih edge
    rcases List.mem_cons.mp listed with rfl | later
    · exact fun cycle => fresh (reached cycle)
    · exact ih later

/-- What a search has visited when it returns. -/
structure Explored (graph : List (α × List α)) (visiting before after : List α) : Prop where
  order : Topological graph after
  kept : before ⊆ after
  apart : ∀ node ∈ visiting, node ∉ after

/-- How a search ends that was started with a path to each of these nodes. -/
def Ends (graph : List (α × List α)) (visiting visited nodes : List α) : Except (Stop α) (List α) → Prop
  | .ok after => Explored graph visiting visited after ∧ nodes ⊆ after
  | .error (.cycle other) => (∀ first ∈ visiting, ∀ last ∈ nodes, Relation.TransGen (Edge graph) first last) →
      Relation.TransGen (Edge graph) other other
  | .error (.missing _) => ∃ node ∈ nodes, graph.lookup node = none

/-- Every edge leads to a listed node. -/
def Closed (graph : List (α × List α)) : Prop := ∀ node other, Edge graph node other → graph.lookup other ≠ none

theorem visit_ends (closed : Closed graph) :
    (∀ visiting visited node, Topological graph visited → (∀ first ∈ visiting, first ∉ visited) →
      Ends graph visiting visited [node] (visit graph visiting visited node)) ∧
    ∀ visiting visited nodes, Topological graph visited → (∀ first ∈ visiting, first ∉ visited) →
      Ends graph visiting visited nodes (visitAll graph visiting visited nodes) := by
  apply visit.mutual_induct graph
  case case1 =>
    intro visiting visited node known order apart
    rw [visit, if_pos known]
    exact ⟨⟨order, fun _ listed => listed, apart⟩, by simpa using known⟩
  case case2 =>
    intro visiting visited node unknown open_ order apart
    rw [visit, if_neg unknown, dif_pos open_]
    exact fun paths => paths node open_ node (by simp)
  case case3 =>
    intro visiting visited node unknown fresh absent order apart
    rw [visit, if_neg unknown, dif_neg fresh]
    split
    next => exact ⟨node, by simp, absent⟩
    next others found => cases absent.symm.trans found
  case case4 =>
    intro visiting visited node unknown fresh others found after result ih order apart
    have open_ : ∀ first ∈ node :: visiting, first ∉ visited := by
      intro first listed
      rcases List.mem_cons.mp listed with rfl | listed
      · exact unknown
      · exact apart first listed
    have ends := ih order open_
    rw [result] at ends
    obtain ⟨explored, whole⟩ := ends
    rw [visit, if_neg unknown, dif_neg fresh]
    split
    next absent => cases absent.symm.trans found
    next same =>
      cases same.symm.trans found
      rw [result]
      refine ⟨⟨.cons (explored.apart node List.mem_cons_self) ?_ explored.order, fun other listed => ?_, ?_⟩, by simp⟩
      · rintro other ⟨others', found', listed⟩
        cases found'.symm.trans found
        exact whole listed
      · exact List.mem_cons_of_mem _ (explored.kept listed)
      · intro first listed inside
        rcases List.mem_cons.mp inside with rfl | inside
        · exact fresh listed
        · exact explored.apart first (List.mem_cons_of_mem _ listed) inside
  case case5 =>
    intro visiting visited node unknown fresh others found stop result ih order apart
    have open_ : ∀ first ∈ node :: visiting, first ∉ visited := by
      intro first listed
      rcases List.mem_cons.mp listed with rfl | listed
      · exact unknown
      · exact apart first listed
    have ends := ih order open_
    rw [result] at ends
    rw [visit, if_neg unknown, dif_neg fresh]
    split
    next absent => cases absent.symm.trans found
    next same =>
      cases same.symm.trans found
      rw [result]
      cases stop with
      | cycle other =>
        intro paths
        apply ends
        intro first listed last edge
        have step : Edge graph node last := ⟨others, found, edge⟩
        rcases List.mem_cons.mp listed with rfl | listed
        · exact .single step
        · exact (paths first listed node (by simp)).tail step
      | missing other =>
        obtain ⟨other, edge, absent⟩ := ends
        exact absurd absent (closed node other ⟨others, found, edge⟩)
  case case6 =>
    intro visiting visited order apart
    rw [visitAll]
    exact ⟨⟨order, fun _ listed => listed, apart⟩, by simp⟩
  case case7 =>
    intro visiting visited node rest after result first later order apart
    have ends := first order apart
    rw [result] at ends
    obtain ⟨explored, head⟩ := ends
    have ends := later explored.order explored.apart
    rw [visitAll, result]
    dsimp only
    cases outcome : visitAll graph visiting after rest with
    | ok last =>
      rw [outcome] at ends
      obtain ⟨further, tail⟩ := ends
      refine ⟨⟨further.order, fun _ listed => further.kept (explored.kept listed), further.apart⟩, ?_⟩
      exact List.cons_subset.mpr ⟨further.kept (head (by simp)), tail⟩
    | error stop =>
      rw [outcome] at ends
      cases stop with
      | cycle other => exact fun paths => ends fun start listed finish inside => paths start listed finish (List.mem_cons_of_mem _ inside)
      | missing other =>
        obtain ⟨other, inside, absent⟩ := ends
        exact ⟨other, List.mem_cons_of_mem _ inside, absent⟩
  case case8 =>
    intro visiting visited node rest stop result first order apart
    have ends := first order apart
    rw [result] at ends
    rw [visitAll, result]
    cases stop with
    | cycle other =>
      intro paths
      refine ends fun start listed finish inside => paths start listed finish ?_
      rw [List.mem_singleton.mp inside]
      exact List.mem_cons_self
    | missing other =>
      obtain ⟨other, inside, absent⟩ := ends
      exact ⟨other, by rw [List.mem_singleton.mp inside]; exact List.mem_cons_self, absent⟩

theorem lookup_listed {others : List α} (distinct : (graph.map Prod.fst).Nodup) :
    graph.lookup node = some others ↔ (node, others) ∈ graph := by
  constructor
  · intro found
    obtain ⟨before, rest, rfl, -⟩ := List.lookup_eq_some_iff.mp found
    simp
  · intro listed
    obtain ⟨before, rest, rfl⟩ := List.append_of_mem listed
    rw [List.map_append, List.map_cons, List.nodup_append] at distinct
    refine List.lookup_eq_some_iff.mpr ⟨before, rest, rfl, fun entry earlier => ?_⟩
    have apart := distinct.2.2 entry.1 (List.mem_map_of_mem earlier) node List.mem_cons_self
    simpa using fun same => apart same.symm

theorem edge_listed {other : α} (distinct : (graph.map Prod.fst).Nodup) :
    Edge graph node other ↔ ∃ others, (node, others) ∈ graph ∧ other ∈ others := by
  simp only [Edge, lookup_listed distinct]

/-- A graph whose edges lead to its own nodes is closed. -/
theorem closed_of_listed (known : ∀ entry ∈ graph, ∀ other ∈ entry.2, other ∈ graph.map Prod.fst) : Closed graph := by
  rintro node other ⟨others, found, edge⟩ absent
  obtain ⟨before, rest, shape, -⟩ := List.lookup_eq_some_iff.mp found
  obtain ⟨entry, member, rfl⟩ := List.mem_map.mp (known (node, others) (by simp [shape]) other edge)
  simpa using List.lookup_eq_none_iff.mp absent entry member

/-- The search of a closed graph from all its nodes succeeds exactly where no node lies on a cycle. -/
theorem visitAll_iff (closed : Closed graph) : (∃ after, visitAll graph [] [] (graph.map Prod.fst) = .ok after) ↔
    ∀ node, ¬ Relation.TransGen (Edge graph) node node := by
  have ends := (visit_ends closed).2 [] [] (graph.map Prod.fst) .nil nofun
  have listed {node : α} (found : graph.lookup node ≠ none) : node ∈ graph.map Prod.fst := by
    obtain ⟨others, found⟩ := Option.ne_none_iff_exists'.mp found
    obtain ⟨before, rest, rfl, -⟩ := List.lookup_eq_some_iff.mp found
    simp
  constructor
  · rintro ⟨after, result⟩ node cycle
    rw [result] at ends
    obtain ⟨explored, whole⟩ := ends
    obtain ⟨_, -, edge⟩ := Relation.TransGen.tail'_iff.mp cycle
    exact explored.order.acyclic (whole (listed (closed _ node edge))) cycle
  · intro acyclic
    cases result : visitAll graph [] [] (graph.map Prod.fst) with
    | ok after => exact ⟨after, rfl⟩
    | error stop =>
      rw [result] at ends
      cases stop with
      | cycle other => exact absurd (ends nofun) (acyclic other)
      | missing other =>
        obtain ⟨node, inside, absent⟩ := ends
        obtain ⟨entry, member, rfl⟩ := List.mem_map.mp inside
        have unlisted := List.lookup_eq_none_iff.mp absent entry member
        simp at unlisted

end Switchyard.Library.Graph
