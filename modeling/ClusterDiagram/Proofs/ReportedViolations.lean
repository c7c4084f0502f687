import ClusterDiagram.Proofs.NoViolations
import Mathlib.Data.List.Chain
import Mathlib.Data.List.Duplicate

/-!
# Reported violations

What is reported of a diagram is wrong with it, and all that is wrong is reported, also where
several rules are broken at once. The cycles found among the links of clusters are the elementary
ones, each listed from its least id on. Nothing is reported exactly of valid diagrams.
-/

namespace ClusterDiagram

variable {α : Type}

namespace ClusterTree

/-! ## Cycles of links -/

/-- A cycle that passes no id twice, listed from its least id on: each id is linked to the next one,
and the last one to the first. -/
structure IsCycle (links : List (String × String)) (start : String) (rest : List String) :
    Prop where
  /-- No id is passed twice. -/
  distinct : rest.Nodup
  /-- All other ids are greater than the first one. -/
  least : ∀ id ∈ rest, start < id
  /-- The links lead from id to id and back to the first one. -/
  linked : List.Forall₂ (fun parent child => (parent, child) ∈ links) (start :: rest)
    (rest ++ [start])

section Search

variable {links : List (String × String)} {start head : String} {below cycle : List String}
  {fuel : Nat}

/-- A path is closed by a link from the start, or else longer by one id. -/
private theorem mem_closePath_succ_iff : cycle ∈ closePath links start (fuel + 1) (head :: below) ↔
    (start, head) ∈ links ∧ cycle = start :: (head :: below).dropLast ∨
      ∃ parent, (parent, head) ∈ links ∧ start < parent ∧ parent ∉ head :: below ∧
        cycle ∈ closePath links start fuel (parent :: head :: below) := by
  have step : cycle ∈ closePath links start (fuel + 1) (head :: below) ↔
      ∃ parent, (parent, head) ∈ links ∧
        cycle ∈ if parent = start then [start :: (head :: below).dropLast]
          else if start < parent && !(head :: below).contains parent then
            closePath links start fuel (parent :: head :: below)
          else [] := by
    simp only [closePath, List.mem_flatMap, List.mem_map, List.mem_filter, beq_iff_eq]
    constructor
    · rintro ⟨_, ⟨⟨parent, _⟩, ⟨link, rfl⟩, rfl⟩, found⟩
      exact ⟨parent, link, found⟩
    · rintro ⟨parent, link, found⟩
      exact ⟨parent, ⟨(parent, head), ⟨link, rfl⟩, rfl⟩, found⟩
  rw [step]
  constructor
  · rintro ⟨parent, link, found⟩
    split at found
    · rename_i closing
      exact Or.inl ⟨closing ▸ link, List.mem_singleton.mp found⟩
    · split at found
      · rename_i longer
        simp only [Bool.and_eq_true, decide_eq_true_eq, Bool.not_eq_true', List.contains_eq_mem,
          decide_eq_false_iff_not] at longer
        exact Or.inr ⟨parent, link, longer.1, longer.2, found⟩
      · cases found
  · rintro (⟨link, rfl⟩ | ⟨parent, link, above, new, found⟩)
    · exact ⟨start, link, by simp⟩
    · refine ⟨parent, link, ?_⟩
      rw [if_neg above.ne', if_pos (by simp [above, List.contains_eq_mem, new])]
      exact found

/-- The search finds the cycles through a path: those that lead from the start to the head of the
path over new ids that are greater than the start. -/
theorem mem_closePath_iff : cycle ∈ closePath links start fuel (head :: below) ↔
    ∃ added : List String, cycle = start :: (added ++ (head :: below).dropLast) ∧
      added.length < fuel ∧ added.Nodup ∧ (∀ id ∈ added, start < id ∧ id ∉ head :: below) ∧
      (start :: (added ++ [head])).IsChain fun parent child => (parent, child) ∈ links := by
  induction fuel generalizing head below with
  | zero => simp [closePath]
  | succ fuel induction =>
      rw [mem_closePath_succ_iff]
      constructor
      · rintro (⟨link, rfl⟩ | ⟨parent, link, above, new, found⟩)
        · exact ⟨[], rfl, Nat.succ_pos _, List.nodup_nil, by simp, by simpa using link⟩
        · obtain ⟨added, rfl, short, distinct, others, linked⟩ := induction.mp found
          have apart : parent ∉ added := fun again =>
            (others parent again).2 List.mem_cons_self
          have longer : (added ++ [parent]).Nodup := by
            simpa [List.nodup_append] using
              ⟨distinct, fun id id_mem same => apart (same ▸ id_mem)⟩
          refine ⟨added ++ [parent], by simp, by simpa using short, longer, ?_, ?_⟩
          · rw [List.forall_mem_append, List.forall_mem_singleton]
            exact ⟨fun id id_mem => ⟨(others id id_mem).1, fun passed =>
              (others id id_mem).2 (List.mem_cons_of_mem _ passed)⟩, above, new⟩
          · have whole : start :: (added ++ [parent] ++ [head]) =
                (start :: added) ++ parent :: [head] := by simp
            rw [whole, List.isChain_split]
            exact ⟨linked, by simpa using link⟩
      · rintro ⟨added, rfl, short, distinct, others, linked⟩
        rcases List.eq_nil_or_concat' added with rfl | ⟨added, parent, rfl⟩
        · exact Or.inl ⟨by simpa using linked, rfl⟩
        · have whole : start :: (added ++ [parent] ++ [head]) =
              (start :: added) ++ parent :: [head] := by simp
          rw [whole, List.isChain_split] at linked
          rw [List.forall_mem_append, List.forall_mem_singleton] at others
          obtain ⟨distinct, -, apart⟩ := List.nodup_append.mp distinct
          refine Or.inr ⟨parent, by simpa using linked.2, others.2.1, others.2.2, ?_⟩
          refine induction.mpr ⟨added, by simp, by simpa using short, distinct, ?_, linked.1⟩
          intro id id_mem
          refine ⟨(others.1 id id_mem).1, fun passed => ?_⟩
          rcases List.mem_cons.mp passed with same | passed
          · exact apart id id_mem parent (List.mem_singleton_self _) same
          · exact (others.1 id id_mem).2 passed

end Search

/-- The links are those from a listed parent to another cluster. -/
theorem mem_links_iff {clusters : List (Cluster α)} {parent child : String} :
    (parent, child) ∈ links clusters ↔ parent ∈ clusters.map (·.id) ∧ parent ≠ child ∧
      ∃ cluster ∈ clusters, cluster.id = child ∧ cluster.parent = some parent := by
  rw [links, List.mem_eraseDups, List.mem_filterMap]
  constructor
  · rintro ⟨cluster, cluster_mem, found⟩
    split at found
    · rename_i above parent_eq
      split at found
      · rename_i linked
        cases found
        rw [Bool.and_eq_true, Cluster.isListed_iff, bne_iff_ne] at linked
        exact ⟨linked.1, linked.2, cluster, cluster_mem, rfl, parent_eq⟩
      · cases found
    · cases found
  · rintro ⟨listed, apart, cluster, cluster_mem, rfl, parent_eq⟩
    refine ⟨cluster, cluster_mem, ?_⟩
    simp [parent_eq, Cluster.isListed_iff.mpr listed, apart]

/-- The cycles listed are all cycles of links. -/
theorem mem_cycles_iff {clusters : List (Cluster α)} {cycle : List String} :
    cycle ∈ cycles clusters ↔
      ∃ start rest, cycle = start :: rest ∧ IsCycle (links clusters) start rest := by
  have closed_iff (start : String) :
      cycle ∈ closePath (links clusters) start (clusters.length + 1) [start] ↔
        ∃ rest, cycle = start :: rest ∧ rest.length < clusters.length + 1 ∧
          IsCycle (links clusters) start rest := by
    rw [mem_closePath_iff]
    refine exists_congr fun rest => ?_
    rw [List.dropLast_singleton, List.append_nil, ← List.cons_append,
      List.isChain_cons_append_singleton_iff_forall₂]
    constructor
    · rintro ⟨cycle_eq, short, distinct, others, linked⟩
      exact ⟨cycle_eq, short, distinct, fun id id_mem => (others id id_mem).1, linked⟩
    · rintro ⟨cycle_eq, short, distinct, least, linked⟩
      refine ⟨cycle_eq, short, distinct, fun id id_mem => ⟨least id id_mem, ?_⟩, linked⟩
      rw [List.mem_singleton]
      exact (least id id_mem).ne'
  simp only [cycles, List.mem_flatMap, List.mem_eraseDups, closed_iff]
  constructor
  · rintro ⟨start, -, rest, cycle_eq, -, cycle⟩
    exact ⟨start, rest, cycle_eq, cycle⟩
  · rintro ⟨start, rest, cycle_eq, cycle⟩
    -- Every id of a cycle is a child and so one of a cluster; the first one stands at the end.
    have listed {id : String} (id_mem : id ∈ rest ++ [start]) : id ∈ clusters.map (·.id) := by
      obtain ⟨index, within, rfl⟩ := List.mem_iff_getElem.mp id_mem
      obtain ⟨same_length, linked⟩ := List.forall₂_iff_get.mp cycle.linked
      obtain ⟨-, -, child, child_mem, id_eq, -⟩ :=
        mem_links_iff.mp (linked index (same_length ▸ within) within)
      exact List.mem_map.mpr ⟨child, child_mem, id_eq⟩
    have short : rest.length ≤ (clusters.map (·.id)).length :=
      (cycle.distinct.subperm fun id id_mem => listed (List.mem_append_left _ id_mem)).length_le
    rw [List.length_map] at short
    exact ⟨start, listed (by simp), rest, cycle_eq, Nat.lt_succ_of_le short, cycle⟩

end ClusterTree

/-! ## Violations -/

open ClusterTree

/-- Whether a diagram has a violation. -/
def Violation.Occurs (graph : Graph α) : Violation → Prop
  | .repeatedCluster id => List.Duplicate id (graph.clusters.map (·.id))
  | .repeatedNode id => List.Duplicate id (graph.nodes.map (·.id))
  | .unknownParent id parent => parent ∉ graph.clusters.map (·.id) ∧
      ∃ cluster ∈ graph.clusters, cluster.id = id ∧ cluster.parent = some parent
  | .ownParent id => ∃ cluster ∈ graph.clusters, cluster.id = id ∧ cluster.parent = some id
  | .parentCycle cycle => ∃ start rest, cycle = start :: rest ∧
      IsCycle (links graph.clusters) start rest
  | .unknownCluster id cluster => cluster ∉ graph.clusters.map (·.id) ∧
      ∃ node ∈ graph.nodes, node.id = id ∧ node.cluster = some cluster
  | .unknownNode id node => node ∉ graph.nodes.map (·.id) ∧
      ∃ edge ∈ graph.edges, edge.id = id ∧ (edge.source = node ∨ edge.target = node)

namespace Graph

variable {graph : Graph α} {violation : Violation}

theorem mem_map_repeated_iff {breach : String → Violation} {ids : List String} :
    violation ∈ (repeated ids).map breach ↔
      ∃ id, List.Duplicate id ids ∧ breach id = violation := by
  rw [List.mem_map]
  refine exists_congr fun id => and_congr_left fun _ => ?_
  rw [repeated, List.mem_filter, List.mem_eraseDups, List.duplicate_iff_two_le_count,
    decide_eq_true_iff]
  exact and_iff_right_of_imp fun twice => List.count_pos_iff.mp (by omega)

theorem mem_parentViolations_iff {clusters : List (Cluster α)} {cluster : Cluster α} :
    violation ∈ parentViolations clusters cluster ↔ ∃ parent, cluster.parent = some parent ∧
      (parent = cluster.id ∧ violation = .ownParent cluster.id ∨
        parent ≠ cluster.id ∧ parent ∉ clusters.map (·.id) ∧
          violation = .unknownParent cluster.id parent) := by
  cases parent_eq : cluster.parent with
  | none => simp [parentViolations, parent_eq]
  | some parent =>
      simp only [parentViolations, parent_eq, Cluster.isListed_iff, Option.some_inj,
        exists_eq_left']
      by_cases own : parent = cluster.id
      · simp [own]
      · by_cases listed : parent ∈ clusters.map (·.id) <;> simp [own, listed]

theorem mem_clusterViolations_iff {clusters : List (Cluster α)} {node : Node α} :
    violation ∈ clusterViolations clusters node ↔ ∃ cluster, node.cluster = some cluster ∧
      cluster ∉ clusters.map (·.id) ∧ violation = .unknownCluster node.id cluster := by
  cases cluster_eq : node.cluster with
  | none => simp [clusterViolations, cluster_eq]
  | some cluster =>
      simp only [clusterViolations, cluster_eq, Cluster.isListed_iff, Option.some_inj,
        exists_eq_left']
      by_cases listed : cluster ∈ clusters.map (·.id) <;> simp [listed]

theorem mem_endViolations_iff {nodes : List (Node α)} {edge : Edge} :
    violation ∈ endViolations nodes edge ↔ ∃ id, (edge.source = id ∨ edge.target = id) ∧
      id ∉ nodes.map (·.id) ∧ violation = .unknownNode edge.id id := by
  have unlisted_iff (id : String) :
      (!nodes.any fun node => node.id == id) = true ↔ id ∉ nodes.map (·.id) := by
    simp
  simp only [endViolations, List.mem_map, List.mem_filter, unlisted_iff, List.mem_cons,
    List.not_mem_nil, or_false, and_assoc, eq_comm]

theorem mem_cycleViolations_iff {clusters : List (Cluster α)} :
    violation ∈ cycleViolations clusters ↔
      ∃ start rest, IsCycle (links clusters) start rest ∧
        violation = .parentCycle (start :: rest) := by
  rw [cycleViolations, List.mem_mergeSort, List.mem_map]
  constructor
  · rintro ⟨_, listed, rfl⟩
    obtain ⟨start, rest, rfl, cycle⟩ := mem_cycles_iff.mp listed
    exact ⟨start, rest, cycle, rfl⟩
  · rintro ⟨start, rest, cycle, rfl⟩
    exact ⟨_, mem_cycles_iff.mpr ⟨start, rest, rfl, cycle⟩, rfl⟩

/-- What is reported of a diagram is what is wrong with it. -/
theorem mem_violations_iff : violation ∈ graph.violations ↔ violation.Occurs graph := by
  simp only [violations, List.mem_append, List.mem_flatMap, mem_map_repeated_iff,
    mem_parentViolations_iff, mem_cycleViolations_iff, mem_clusterViolations_iff,
    mem_endViolations_iff]
  cases violation with
  | repeatedCluster id => simp [Violation.Occurs]
  | repeatedNode id => simp [Violation.Occurs]
  | unknownParent id parent =>
      simp only [Violation.Occurs, reduceCtorEq, and_false, exists_false, false_or, or_false]
      constructor
      · rintro ⟨cluster, cluster_mem, _, parent_eq, ⟨-, unlisted, rfl, rfl⟩⟩
        exact ⟨unlisted, cluster, cluster_mem, rfl, parent_eq⟩
      · rintro ⟨unlisted, cluster, cluster_mem, rfl, parent_eq⟩
        have other : parent ≠ cluster.id := fun own =>
          unlisted (own ▸ List.mem_map_of_mem cluster_mem)
        exact ⟨cluster, cluster_mem, parent, parent_eq, other, unlisted, rfl⟩
  | ownParent id =>
      simp only [Violation.Occurs, reduceCtorEq, and_false, exists_false, false_or, or_false,
        Violation.ownParent.injEq]
      constructor
      · rintro ⟨cluster, cluster_mem, _, parent_eq, rfl, rfl⟩
        exact ⟨cluster, cluster_mem, rfl, parent_eq⟩
      · rintro ⟨cluster, cluster_mem, rfl, parent_eq⟩
        exact ⟨cluster, cluster_mem, cluster.id, parent_eq, rfl, rfl⟩
  | parentCycle cycle => simp [Violation.Occurs, and_comm]
  | unknownCluster id cluster =>
      simp only [Violation.Occurs, reduceCtorEq, and_false, exists_false, false_or, or_false,
        or_self]
      constructor
      · rintro ⟨node, node_mem, _, cluster_eq, unlisted, rfl, rfl⟩
        exact ⟨unlisted, node, node_mem, rfl, cluster_eq⟩
      · rintro ⟨unlisted, node, node_mem, rfl, cluster_eq⟩
        exact ⟨node, node_mem, cluster, cluster_eq, unlisted, rfl⟩
  | unknownNode id node =>
      simp only [Violation.Occurs, reduceCtorEq, and_false, exists_false, false_or, or_self]
      constructor
      · rintro ⟨edge, edge_mem, _, joined, unlisted, rfl, rfl⟩
        exact ⟨unlisted, edge, edge_mem, rfl, joined⟩
      · rintro ⟨unlisted, edge, edge_mem, rfl, joined⟩
        exact ⟨edge, edge_mem, node, joined, unlisted, rfl⟩

/-- The report on a diagram is exact: each violation is reported if and only if it occurs, so that
nothing is reported exactly of diagrams with distinct ids of clusters and of nodes, whose references
lead to entities of the diagram and whose parents end. -/
theorem violations_exact (graph : Graph α) :
    (graph.violations = [] ↔ graph.Valid) ∧ (graph.isValid = true ↔ graph.Valid) ∧
      ∀ violation, violation ∈ graph.violations ↔ violation.Occurs graph := by
  have empty_iff : graph.violations = [] ↔ graph.Valid := ⟨valid_of_violations, violations_eq_nil⟩
  refine ⟨empty_iff, ?_, fun _ => mem_violations_iff⟩
  rw [isValid, List.isEmpty_iff, empty_iff]

end Graph
end ClusterDiagram
