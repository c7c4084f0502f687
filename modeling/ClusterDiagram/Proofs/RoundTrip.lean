import ClusterDiagram.Proofs.FiniteCanvas
import ClusterDiagram.Proofs.Reading
import ClusterDiagram.Proofs.ReadingOrder
import ClusterDiagram.Proofs.Rewriting

/-!
# Reading undoes writing

The prompt of a writable diagram, read against nothing, gives the diagram back under new ids, and
the prompt of what was read is the same text.
-/

namespace ClusterDiagram
namespace Prompt

variable {α : Type}

/-- A copy with distinct ids, its clusters and nodes in writing order, holds the same. -/
theorem isomorphicBy_of_copiedBy {graph copy : Graph α} (valid : graph.Valid) {rename : Renaming}
    (copied : (inWritingOrder graph).CopiedBy rename copy)
    (clusterIds : (copy.clusters.map (·.id)).Nodup) (nodeIds : (copy.nodes.map (·.id)).Nodup) :
    graph.IsomorphicBy rename copy := by
  obtain ⟨-, clusters_perm⟩ := depthFirst_clusterOrder valid
  have nodes_perm := perm_nodes_inWritingOrder valid
  rw [copied.map_id_clusters] at clusterIds
  rw [copied.map_id_nodes] at nodeIds
  exact {
    clusters_injective := fun cluster cluster_mem other other_mem same =>
      List.inj_on_of_nodup_map clusterIds (clusters_perm.mem_iff.mpr cluster_mem)
        (clusters_perm.mem_iff.mpr other_mem) same
    nodes_injective := fun node node_mem other other_mem same =>
      List.inj_on_of_nodup_map nodeIds (nodes_perm.mem_iff.mpr node_mem)
        (nodes_perm.mem_iff.mpr other_mem) same
    clusters := copied.clusters ▸ clusters_perm.map _
    nodes := copied.nodes ▸ nodes_perm.map _
    edges := copied.edges }

variable [Scalar α]

/-- The prompt of a writable diagram is read, on every canvas of finite width, as a diagram that
holds the same and that is written as the same prompt. -/
theorem read_write {graph : Graph α} (writable : graph.Writable) {canvasWidth : α}
    (finite : Placement.FiniteWidth canvasWidth) (token : Nat → String) (drawn : Nat) :
    ∃ copy next, read { canvasWidth, token } (write graph) drawn = .ok (copy, next) ∧
      (∃ rename, graph.IsomorphicBy rename copy) ∧ write copy = write graph := by
  obtain ⟨⟨copy, next⟩, done⟩ :
      ∃ out, read (⟨[], [], canvasWidth, token⟩ : Context α) (write graph) drawn = .ok out :=
    read_total finite (write graph) drawn
  obtain ⟨rename, copied⟩ := copied_of_read writable (List.nil_subset graph.nodes) done
  obtain ⟨draft, identified, rfl⟩ := identified_of_read done
  refine ⟨draft.graph, next, done, ⟨rename, ?_⟩, ?_⟩
  · exact isomorphicBy_of_copiedBy writable.valid copied identified.clusters.1 identified.nodes.1
  · exact write_copy writable.valid copied identified.clusters.1 identified.nodes.1

private def nestedQuotes : Graph Float :=
  { clusters := [⟨"inner", "Data", some "outer", none, none⟩,
      ⟨"outer", "Back: end", none, none, none⟩, ⟨"other", "Data", none, none, none⟩]
    nodes := [⟨"db", "Store]", some "db \"1\" x", 0, 0, some "inner"⟩,
      ⟨"ui", "Web, UI", none, 0, 0, none⟩, ⟨"api", "API", some "gate", 0, 0, some "outer"⟩]
    edges := [⟨"e", "ui", "api", some "GET [\"a\", 'b\\']", .dashed⟩,
      ⟨"e", "api", "db", none, .doubleDotted⟩, ⟨"f", "db", "db", some "->", .double⟩] }

theorem read_write_nestedQuotes :
    ∃ copy next, read { canvasWidth := (1600 : Float), token := toString } (write nestedQuotes) 0 =
      .ok (copy, next) ∧
      (∃ rename, nestedQuotes.IsomorphicBy rename copy) ∧ write copy = write nestedQuotes := by
  have writable : nestedQuotes.Writable := by decide +kernel
  have finite : Placement.FiniteWidth (1600 : Float) :=
    (Placement.finiteWidth_double_iff 1600).mpr ⟨_, _, _, rfl⟩
  exact read_write writable finite toString 0

end Prompt
end ClusterDiagram
