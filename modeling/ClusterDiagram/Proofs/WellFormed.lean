import ClusterDiagram.Graph.Violation
import ClusterDiagram.Proofs.AssocLookup
import ClusterDiagram.Proofs.ParentChains
import Mathlib.Data.Finset.Max
import Mathlib.Data.String.Basic

/-!
# Well-formed diagrams

A diagram is valid when ids are unique, every reference leads to an entity of the diagram and the
parents of every cluster end. A diagram without violations is valid: a chain of parents that does
not end holds a cycle, and the search for cycles meets it at its least id.
-/

namespace ClusterDiagram

variable {α : Type}

theorem Cluster.isListed_iff {clusters : List (Cluster α)} {id : String} :
    Cluster.isListed clusters id = true ↔ id ∈ clusters.map (·.id) := by
  simp [Cluster.isListed]

theorem Cluster.lastWith?_eq_some {clusters : List (Cluster α)}
    (ids : (clusters.map (·.id)).Nodup) {cluster : Cluster α} (cluster_mem : cluster ∈ clusters) :
    Cluster.lastWith? cluster.id clusters = some cluster :=
  find?_reverse_key_eq_some ids cluster_mem

theorem Node.lastWith?_eq_some {nodes : List (Node α)} (ids : (nodes.map (·.id)).Nodup)
    {node : Node α} (node_mem : node ∈ nodes) : Node.lastWith? node.id nodes = some node :=
  find?_reverse_key_eq_some ids node_mem

theorem Cluster.of_lastWith? {clusters : List (Cluster α)} {id : String} {cluster : Cluster α}
    (found : Cluster.lastWith? id clusters = some cluster) : cluster ∈ clusters ∧ cluster.id = id :=
  of_find?_reverse_key found

theorem Node.of_lastWith? {nodes : List (Node α)} {id : String} {node : Node α}
    (found : Node.lastWith? id nodes = some node) : node ∈ nodes ∧ node.id = id :=
  of_find?_reverse_key found

namespace ClusterTree

/-- The parent of the first cluster with an id. -/
def parentOf (clusters : List (Cluster α)) (id : String) : Option String :=
  (clusters.find? fun cluster => cluster.id == id).bind (·.parent)

theorem parentOf_eq_some {clusters : List (Cluster α)} {id parent : String}
    (link : parentOf clusters id = some parent) :
    ∃ cluster ∈ clusters, cluster.id = id ∧ cluster.parent = some parent := by
  obtain ⟨cluster, found, parent_eq⟩ := Option.bind_eq_some_iff.mp link
  have id_eq := List.find?_some found
  exact ⟨cluster, List.mem_of_find?_eq_some found, by simpa using id_eq, parent_eq⟩

theorem mem_ids_of_parentOf {clusters : List (Cluster α)} {id : String}
    (linked : (parentOf clusters id).isSome) : id ∈ clusters.map (·.id) := by
  obtain ⟨parent, link⟩ := Option.isSome_iff_exists.mp linked
  obtain ⟨cluster, cluster_mem, id_eq, -⟩ := parentOf_eq_some link
  exact id_eq ▸ List.mem_map_of_mem cluster_mem

theorem parentOf_of_mem {clusters : List (Cluster α)} (ids : (clusters.map (·.id)).Nodup)
    {cluster : Cluster α} (cluster_mem : cluster ∈ clusters) :
    parentOf clusters cluster.id = cluster.parent := by
  rw [parentOf, find?_key_eq_some ids cluster_mem, Option.bind_some]

theorem parentOf_of_not_mem {clusters : List (Cluster α)} {id : String}
    (other : id ∉ clusters.map (·.id)) : parentOf clusters id = none := by
  by_contra linked
  exact other (mem_ids_of_parentOf (Option.ne_none_iff_isSome.mp linked))

/-- The order of clusters with distinct ids does not matter. -/
theorem parentOf_of_perm {first second : List (Cluster α)} (same : first.Perm second)
    (ids : (second.map (·.id)).Nodup) : parentOf first = parentOf second := by
  funext id
  have first_ids := (same.map (·.id)).nodup_iff.mpr ids
  by_cases id_mem : id ∈ second.map (·.id)
  · obtain ⟨cluster, cluster_mem, rfl⟩ := List.mem_map.mp id_mem
    rw [parentOf_of_mem ids cluster_mem, parentOf_of_mem first_ids (same.mem_iff.mpr cluster_mem)]
  · rw [parentOf_of_not_mem id_mem, parentOf_of_not_mem fun old =>
      id_mem ((same.map _).mem_iff.mp old)]

end ClusterTree

namespace Graph

/-- What makes a diagram drawable: unique ids of clusters and of nodes, references that lead to
entities of the diagram, and parents that end. -/
structure Valid (graph : Graph α) : Prop where
  /-- No two clusters share an id. -/
  clusterIds : (graph.clusters.map (·.id)).Nodup
  /-- No two nodes share an id. -/
  nodeIds : (graph.nodes.map (·.id)).Nodup
  /-- A parent is another cluster of the diagram. -/
  parents : ∀ cluster ∈ graph.clusters, ∀ parent, cluster.parent = some parent →
    parent ∈ graph.clusters.map (·.id) ∧ parent ≠ cluster.id
  /-- The parents of a cluster come to an end. -/
  ends : ∀ cluster ∈ graph.clusters,
    ClusterTree.Ends (ClusterTree.parentOf graph.clusters) cluster.id
  /-- A node lies in a cluster of the diagram or in none. -/
  memberships : ∀ node ∈ graph.nodes, ∀ cluster, node.cluster = some cluster →
    cluster ∈ graph.clusters.map (·.id)
  /-- Both ends of an edge are nodes of the diagram. -/
  endpoints : ∀ edge ∈ graph.edges,
    edge.source ∈ graph.nodes.map (·.id) ∧ edge.target ∈ graph.nodes.map (·.id)

/-- The order of clusters and nodes does not count for validity. -/
theorem Valid.of_perm {graph other : Graph α} (valid : graph.Valid)
    (clusters : other.clusters.Perm graph.clusters) (nodes : other.nodes.Perm graph.nodes)
    (edges : other.edges = graph.edges) : other.Valid where
  clusterIds := (clusters.map (·.id)).nodup_iff.mpr valid.clusterIds
  nodeIds := (nodes.map (·.id)).nodup_iff.mpr valid.nodeIds
  parents := by
    intro cluster cluster_mem parent parent_eq
    obtain ⟨listed, apart⟩ :=
      valid.parents cluster (clusters.mem_iff.mp cluster_mem) parent parent_eq
    exact ⟨(clusters.map (·.id)).mem_iff.mpr listed, apart⟩
  ends := by
    intro cluster cluster_mem
    rw [ClusterTree.parentOf_of_perm clusters valid.clusterIds]
    exact valid.ends cluster (clusters.mem_iff.mp cluster_mem)
  memberships := by
    intro node node_mem cluster cluster_eq
    exact (clusters.map (·.id)).mem_iff.mpr
      (valid.memberships node (nodes.mem_iff.mp node_mem) cluster cluster_eq)
  endpoints := by
    rw [edges]
    intro edge edge_mem
    obtain ⟨source_mem, target_mem⟩ := valid.endpoints edge edge_mem
    exact ⟨(nodes.map (·.id)).mem_iff.mpr source_mem, (nodes.map (·.id)).mem_iff.mpr target_mem⟩

/-- A valid diagram whose edges have unique ids as well. -/
structure WellFormed (graph : Graph α) : Prop extends Valid graph where
  /-- No two edges share an id. -/
  edgeIds : (graph.edges.map (·.id)).Nodup

end Graph

namespace ClusterTree

variable {up : String → Option String}

/-- Among the ids on the way back from an id, the least one leads back to itself as well. -/
theorem Returns.exists_least {keys : List String} (linked : ∀ id, (up id).isSome → id ∈ keys)
    {id : String} (returns : Returns up id) :
    ∃ least, Returns up least ∧
      ∀ steps next, ascend up steps least = some next → (up next).isSome → least ≤ next := by
  classical
  let reached := keys.toFinset.filter fun next => ∃ steps, ascend up steps id = some next
  have mem_reached (steps : Nat) (next : String) (walked : ascend up steps id = some next)
      (onward : (up next).isSome) : next ∈ reached :=
    Finset.mem_filter.mpr ⟨List.mem_toFinset.mpr (linked next onward), steps, walked⟩
  have id_onward : (up id).isSome := by
    rw [Option.isSome_iff_ne_none]
    exact fun root => not_returns_of_none root returns
  obtain ⟨least, least_mem, least_le⟩ :=
    Finset.exists_min_image reached (fun next => next) ⟨id, mem_reached 0 id rfl id_onward⟩
  obtain ⟨-, steps, walked⟩ := Finset.mem_filter.mp least_mem
  refine ⟨least, (returns.of_ascend walked).1, ?_⟩
  intro more next walked_on onward
  apply least_le
  refine mem_reached (steps + more) next ?_ onward
  rw [ascend_add, walked, Option.bind_some, walked_on]

section Search

variable {links : List (String × String)} {start head : String} {fuel : Nat} {below : List String}

private theorem closePath_of_closing (link : (start, head) ∈ links) :
    closePath links start (fuel + 1) (head :: below) ≠ [] := by
  intro none
  simp only [closePath, List.flatMap_eq_nil_iff, List.mem_map, List.mem_filter] at none
  simpa using none start ⟨(start, head), ⟨link, by simp⟩, rfl⟩

private theorem closePath_of_longer {next : String} (link : (next, head) ∈ links)
    (above : start < next) (new : next ∉ head :: below)
    (longer : closePath links start fuel (next :: head :: below) ≠ []) :
    closePath links start (fuel + 1) (head :: below) ≠ [] := by
  intro none
  simp only [closePath, List.flatMap_eq_nil_iff, List.mem_map, List.mem_filter] at none
  have branch := none next ⟨(next, head), ⟨link, by simp⟩, rfl⟩
  rw [if_neg above.ne', if_pos (by simp [above, List.contains_eq_mem, new])] at branch
  exact longer branch

end Search

/-- The search from the least id of a cycle closes it. `passed` links have been followed. -/
private theorem closePath_ne_nil {links : List (String × String)} {start : String} {period : Nat}
    (listed : ∀ id parent, up id = some parent → (parent, id) ∈ links)
    (back : ascend up (period + 1) start = some start)
    (shortest : ∀ steps, steps < period → ascend up (steps + 1) start ≠ some start)
    (least : ∀ steps next, ascend up steps start = some next → (up next).isSome → start ≤ next)
    (remaining : Nat) {fuel passed : Nat} {head : String} {below : List String}
    (enough : remaining < fuel) (split : passed + remaining = period)
    (reached : ascend up passed start = some head)
    (path : ∀ id ∈ head :: below, ∃ steps ≤ passed, ascend up steps start = some id) :
    closePath links start fuel (head :: below) ≠ [] := by
  induction remaining generalizing fuel passed head below with
  | zero =>
      obtain rfl : passed = period := split
      rw [ascend_succ, reached, Option.bind_some] at back
      obtain ⟨fuel, rfl⟩ := Nat.exists_eq_add_of_lt enough
      exact closePath_of_closing (listed head start back)
  | succ remaining induction =>
      obtain ⟨fuel, rfl⟩ := Nat.exists_eq_add_of_lt enough
      obtain ⟨rest, remaining_eq⟩ : ∃ rest, period + 1 = passed + 1 + (rest + 1) :=
        ⟨remaining, by omega⟩
      rw [remaining_eq, ascend_add, Option.bind_eq_some_iff] at back
      obtain ⟨next, next_reached, onward⟩ := back
      have step : up head = some next := by
        rwa [ascend_succ, reached, Option.bind_some] at next_reached
      have next_ne : next ≠ start := by
        rintro rfl
        exact shortest passed (by omega) next_reached
      have next_up : (up next).isSome := by
        rw [Option.isSome_iff_ne_none]
        intro root
        simp [ascend, root] at onward
      have above : start < next :=
        lt_of_le_of_ne (least (passed + 1) next next_reached next_up) next_ne.symm
      have back' : ascend up (period + 1) start = some start := by
        rw [remaining_eq, ascend_add, next_reached, Option.bind_some, onward]
      have new : next ∉ head :: below := by
        intro next_mem
        obtain ⟨steps, steps_le, again⟩ := path next next_mem
        have early : steps < passed + 1 := by omega
        exact ascend_ne_of_period back' shortest early (by omega) (again.trans next_reached.symm)
      have longer : closePath links start (remaining + 1 + fuel) (next :: head :: below) ≠ [] := by
        apply induction (by omega) (by omega) next_reached
        intro id id_mem
        rcases List.mem_cons.mp id_mem with rfl | id_mem
        · exact ⟨passed + 1, le_rfl, next_reached⟩
        · obtain ⟨steps, steps_le, walked⟩ := path id id_mem
          exact ⟨steps, by omega, walked⟩
      exact closePath_of_longer (listed head next step) above new longer

/-- Without cycles in the list of cycles, the parents of every id end. -/
private theorem ends_of_cycles_eq_nil {clusters : List (Cluster α)}
    (parents : ∀ cluster ∈ clusters, ∀ parent, cluster.parent = some parent →
      parent ∈ clusters.map (·.id) ∧ parent ≠ cluster.id)
    (none : cycles clusters = []) (id : String) : Ends (parentOf clusters) id := by
  have linked (id : String) (link : (parentOf clusters id).isSome) : id ∈ clusters.map (·.id) :=
    mem_ids_of_parentOf link
  apply ends_of_not_returns linked
  intro id _ returns
  obtain ⟨least, least_returns, least_le⟩ := returns.exists_least linked
  obtain ⟨period, back, shortest⟩ := least_returns.exists_period
  have short := period_lt_length linked back shortest
  have listed (id parent : String) (link : parentOf clusters id = some parent) :
      (parent, id) ∈ links clusters := by
    obtain ⟨cluster, cluster_mem, rfl, parent_eq⟩ := parentOf_eq_some link
    obtain ⟨parent_mem, parent_ne⟩ := parents cluster cluster_mem parent parent_eq
    rw [links, List.mem_eraseDups, List.mem_filterMap]
    refine ⟨cluster, cluster_mem, ?_⟩
    simp [parent_eq, Cluster.isListed_iff.mpr parent_mem, parent_ne]
  have least_mem : least ∈ clusters.map (·.id) := by
    apply linked
    rw [Option.isSome_iff_ne_none]
    exact fun root => not_returns_of_none root least_returns
  have found : closePath (links clusters) least (clusters.length + 1) [least] ≠ [] := by
    apply closePath_ne_nil listed back shortest least_le period _ (Nat.zero_add period) rfl
    · intro id id_mem
      exact ⟨0, le_rfl, by simpa [ascend, eq_comm] using id_mem⟩
    · rw [List.length_map] at short
      omega
  rw [cycles, List.flatMap_eq_nil_iff] at none
  exact found (none least (List.mem_eraseDups.mpr least_mem))

end ClusterTree

namespace Graph

private theorem nodup_of_repeated_eq_nil {ids : List String} (none : repeated ids = []) :
    ids.Nodup := by
  rw [List.nodup_iff_count_le_one]
  intro id
  by_contra many
  rw [repeated, List.filter_eq_nil_iff] at none
  have id_mem : id ∈ ids := List.count_pos_iff.mp (by omega)
  exact none id (List.mem_eraseDups.mpr id_mem) (by simpa using many)

private theorem parents_of_violations {clusters : List (Cluster α)} {cluster : Cluster α}
    (none : parentViolations clusters cluster = []) {parent : String}
    (parent_eq : cluster.parent = some parent) :
    parent ∈ clusters.map (·.id) ∧ parent ≠ cluster.id := by
  simp only [parentViolations, parent_eq] at none
  split at none
  · cases none
  · rename_i other
    split at none
    · rename_i known
      exact ⟨Cluster.isListed_iff.mp known, other⟩
    · cases none

private theorem membership_of_violations {clusters : List (Cluster α)} {node : Node α}
    (none : clusterViolations clusters node = []) {cluster : String}
    (cluster_eq : node.cluster = some cluster) : cluster ∈ clusters.map (·.id) := by
  simp only [clusterViolations, cluster_eq] at none
  split at none
  · rename_i known
    exact Cluster.isListed_iff.mp known
  · cases none

private theorem endpoints_of_violations {nodes : List (Node α)} {edge : Edge}
    (none : endViolations nodes edge = []) :
    edge.source ∈ nodes.map (·.id) ∧ edge.target ∈ nodes.map (·.id) := by
  rw [endViolations, List.map_eq_nil_iff, List.filter_eq_nil_iff] at none
  have source := none edge.source (by simp)
  have target := none edge.target (by simp)
  simp only [Bool.not_eq_true', Bool.not_eq_false, List.any_eq_true, beq_iff_eq] at source target
  exact ⟨List.mem_map.mpr source, List.mem_map.mpr target⟩

/-- A diagram without violations is valid. -/
theorem valid_of_violations {graph : Graph α} (none : graph.violations = []) : graph.Valid := by
  simp only [violations, List.append_eq_nil_iff, List.map_eq_nil_iff,
    List.flatMap_eq_nil_iff] at none
  obtain ⟨⟨⟨⟨⟨clusterIds, nodeIds⟩, parents⟩, cycles⟩, memberships⟩, endpoints⟩ := none
  have parents_listed (cluster : Cluster α) (cluster_mem : cluster ∈ graph.clusters)
      (parent : String) (parent_eq : cluster.parent = some parent) :=
    parents_of_violations (parents cluster cluster_mem) parent_eq
  have acyclic : ClusterTree.cycles graph.clusters = [] := by
    rw [cycleViolations] at cycles
    have unsorted := List.mergeSort_perm ((ClusterTree.cycles graph.clusters).map
      Violation.parentCycle) fun first second => !decide (second.message < first.message)
    rw [cycles] at unsorted
    exact List.map_eq_nil_iff.mp unsorted.symm.eq_nil
  exact {
    clusterIds := nodup_of_repeated_eq_nil clusterIds
    nodeIds := nodup_of_repeated_eq_nil nodeIds
    parents := parents_listed
    ends := fun cluster _ => ClusterTree.ends_of_cycles_eq_nil parents_listed acyclic cluster.id
    memberships := fun node node_mem _ cluster_eq =>
      membership_of_violations (memberships node node_mem) cluster_eq
    endpoints := fun edge edge_mem => endpoints_of_violations (endpoints edge edge_mem) }

end Graph
end ClusterDiagram
