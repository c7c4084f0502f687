import ClusterDiagram.Proofs.WellFormed

/-!
# Diagrams without violations

Nothing is reported of a valid diagram. A cycle that the search closes leads some cluster back to
itself, which parents that end do not do.
-/

namespace ClusterDiagram

variable {α : Type}

namespace ClusterTree

/-- A link between clusters with distinct ids is a parent. -/
theorem parentOf_of_mem_links {clusters : List (Cluster α)} (ids : (clusters.map (·.id)).Nodup)
    {parent id : String} (link : (parent, id) ∈ links clusters) :
    parentOf clusters id = some parent := by
  rw [links, List.mem_eraseDups, List.mem_filterMap] at link
  obtain ⟨cluster, cluster_mem, found⟩ := link
  split at found
  · rename_i above parent_eq
    split at found
    · cases found
      rw [parentOf_of_mem ids cluster_mem, parent_eq]
    · cases found
  · cases found

/-- A path that can be closed leads its start back to itself. -/
theorem returns_of_closePath {up : String → Option String} {links : List (String × String)}
    (followed : ∀ parent id, (parent, id) ∈ links → up id = some parent) {start : String}
    {fuel passed : Nat} {head : String} {below : List String}
    (reached : ascend up passed start = some head)
    (closed : closePath links start fuel (head :: below) ≠ []) : Returns up start := by
  induction fuel generalizing passed head below with
  | zero => exact absurd rfl closed
  | succ fuel induction =>
      rw [closePath, ne_eq, List.flatMap_eq_nil_iff] at closed
      push Not at closed
      obtain ⟨parent, parent_mem, closed⟩ := closed
      obtain ⟨⟨_, _⟩, link_mem, rfl⟩ := List.mem_map.mp parent_mem
      obtain ⟨listed, head_eq⟩ := List.mem_filter.mp link_mem
      obtain rfl := beq_iff_eq.mp head_eq
      have onward : ascend up (passed + 1) start = (ascend up passed start).bind up :=
        ascend_succ passed start
      rw [reached, Option.bind_some, followed _ _ listed] at onward
      split at closed
      · rename_i back
        exact ⟨passed, back ▸ onward⟩
      · split at closed
        · exact induction onward closed
        · exact absurd rfl closed

/-- Clusters whose parents end have no cycles. -/
theorem cycles_eq_nil {clusters : List (Cluster α)} (ids : (clusters.map (·.id)).Nodup)
    (ends : ∀ cluster ∈ clusters, Ends (parentOf clusters) cluster.id) : cycles clusters = [] := by
  rw [cycles, List.flatMap_eq_nil_iff]
  intro start start_mem
  rw [List.mem_eraseDups, List.mem_map] at start_mem
  obtain ⟨cluster, cluster_mem, rfl⟩ := start_mem
  by_contra closed
  have begun : ascend (parentOf clusters) 0 cluster.id = some cluster.id := rfl
  have returns := returns_of_closePath (fun _ _ link => parentOf_of_mem_links ids link) begun closed
  exact (ends cluster cluster_mem).not_returns returns

end ClusterTree

namespace Graph

theorem repeated_eq_nil {ids : List String} (distinct : ids.Nodup) : repeated ids = [] := by
  rw [repeated, List.filter_eq_nil_iff]
  intro id _
  have once := List.nodup_iff_count_le_one.mp distinct id
  simpa using once

/-- Nothing is wrong with a valid diagram. -/
theorem violations_eq_nil {graph : Graph α} (valid : graph.Valid) : graph.violations = [] := by
  have listed {id : String} (id_mem : id ∈ graph.clusters.map (·.id)) :
      Cluster.isListed graph.clusters id = true :=
    Cluster.isListed_iff.mpr id_mem
  have parents : graph.clusters.flatMap (parentViolations graph.clusters) = [] := by
    rw [List.flatMap_eq_nil_iff]
    intro cluster cluster_mem
    cases parent_eq : cluster.parent with
    | none => simp [parentViolations, parent_eq]
    | some parent =>
        obtain ⟨parent_mem, apart⟩ := valid.parents cluster cluster_mem parent parent_eq
        simp [parentViolations, parent_eq, apart, listed parent_mem]
  have memberships : graph.nodes.flatMap (clusterViolations graph.clusters) = [] := by
    rw [List.flatMap_eq_nil_iff]
    intro node node_mem
    cases cluster_eq : node.cluster with
    | none => simp [clusterViolations, cluster_eq]
    | some id => simp [clusterViolations, cluster_eq,
        listed (valid.memberships node node_mem id cluster_eq)]
  have endpoints : graph.edges.flatMap (endViolations graph.nodes) = [] := by
    rw [List.flatMap_eq_nil_iff]
    intro edge edge_mem
    rw [endViolations, List.map_eq_nil_iff, List.filter_eq_nil_iff]
    obtain ⟨source_mem, target_mem⟩ := valid.endpoints edge edge_mem
    simpa using ⟨List.mem_map.mp source_mem, List.mem_map.mp target_mem⟩
  rw [violations, repeated_eq_nil valid.clusterIds, repeated_eq_nil valid.nodeIds, parents,
    cycleViolations, ClusterTree.cycles_eq_nil valid.clusterIds valid.ends, memberships, endpoints]
  simp

end Graph
end ClusterDiagram
