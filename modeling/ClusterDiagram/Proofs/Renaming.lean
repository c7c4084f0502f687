import ClusterDiagram.Proofs.Unplaced
import Mathlib.Logic.Function.Basic

/-!
# Diagrams with other ids

Two diagrams hold the same when one is the other with its ids renamed, places and ids of edges left
aside. A copy keeps the order of clusters and nodes as well.
-/

namespace ClusterDiagram

variable {α : Type}

/-- New ids for the clusters and the nodes of a diagram. -/
structure Renaming where
  /-- The new id of a cluster. -/
  cluster : String → String
  /-- The new id of a node. -/
  node : String → String

/-- An edge without its id. -/
def Edge.unnamed (edge : Edge) : Edge :=
  { edge with id := "" }

namespace Renaming

/-- The renaming that keeps every id. -/
def identity : Renaming where
  cluster := id
  node := id

/-- A cluster under its new id, without its anchor. -/
def ofCluster (rename : Renaming) (cluster : Cluster α) : Cluster Unit where
  id := rename.cluster cluster.id
  label := cluster.label
  parent := cluster.parent.map rename.cluster

/-- A node under its new id, without its position. -/
def ofNode (rename : Renaming) (node : Node α) : Node Unit where
  id := rename.node node.id
  label := node.label
  name := node.name
  x := ()
  y := ()
  cluster := node.cluster.map rename.cluster

/-- An edge between the new ids of its ends, without its own id. -/
def ofEdge (rename : Renaming) (edge : Edge) : Edge where
  id := ""
  source := rename.node edge.source
  target := rename.node edge.target
  label := edge.label
  style := edge.style

theorem ofCluster_identity :
    identity.ofCluster = (Cluster.unplaced : Cluster α → Cluster Unit) := by
  funext cluster
  simp [ofCluster, identity, Cluster.unplaced]

theorem ofNode_identity : identity.ofNode = (Node.unplaced : Node α → Node Unit) := by
  funext node
  simp [ofNode, identity, Node.unplaced]

theorem ofEdge_identity : identity.ofEdge = Edge.unnamed :=
  rfl

end Renaming

namespace Graph

/-- A diagram that is another one with its ids renamed, everything in the same order. -/
structure CopiedBy (rename : Renaming) (graph copy : Graph α) : Prop where
  /-- The clusters keep labels and parents. -/
  clusters : copy.clusters.map Cluster.unplaced = graph.clusters.map rename.ofCluster
  /-- The nodes keep labels, aliases and clusters. -/
  nodes : copy.nodes.map Node.unplaced = graph.nodes.map rename.ofNode
  /-- The edges keep ends, labels and styles. -/
  edges : copy.edges.map Edge.unnamed = graph.edges.map rename.ofEdge

/-- A diagram that holds the same as another one under a renaming: clusters and nodes correspond
one to one, and the edges correspond in order. -/
structure IsomorphicBy (rename : Renaming) (graph image : Graph α) : Prop where
  /-- Different clusters keep different ids. -/
  clusters_injective : ∀ cluster ∈ graph.clusters, ∀ other ∈ graph.clusters,
    rename.cluster cluster.id = rename.cluster other.id → cluster = other
  /-- Different nodes keep different ids. -/
  nodes_injective : ∀ node ∈ graph.nodes, ∀ other ∈ graph.nodes,
    rename.node node.id = rename.node other.id → node = other
  /-- The clusters keep labels and parents, and there are no others. -/
  clusters : (image.clusters.map Cluster.unplaced).Perm (graph.clusters.map rename.ofCluster)
  /-- The nodes keep labels, aliases and clusters, and there are no others. -/
  nodes : (image.nodes.map Node.unplaced).Perm (graph.nodes.map rename.ofNode)
  /-- The edges keep ends, labels, styles and their order. -/
  edges : image.edges.map Edge.unnamed = graph.edges.map rename.ofEdge

end Graph

/-! ## Lists that agree element by element -/

theorem exists_mem_of_map_eq {β γ δ : Type} {first : List β} {second : List γ} {f : β → δ}
    {g : γ → δ} (same : first.map f = second.map g) {element : β} (element_mem : element ∈ first) :
    ∃ other ∈ second, g other = f element := by
  apply List.mem_map.mp
  rw [← same]
  exact List.mem_map_of_mem element_mem

/-- A list that agrees with one of distinct elements is an image of it. -/
theorem exists_map_of_map_eq {β γ δ : Type} [Nonempty β] {first : List β} {second : List γ}
    {f : β → δ} {g : γ → δ} (distinct : second.Nodup) (same : first.map f = second.map g) :
    ∃ h : γ → β, first = second.map h ∧ ∀ element ∈ second, f (h element) = g element := by
  classical
  induction second generalizing first with
  | nil =>
      rw [List.map_nil, List.map_eq_nil_iff] at same
      exact ⟨fun _ => Classical.ofNonempty, same, by simp⟩
  | cons element second induction =>
      cases first with
      | nil => cases same
      | cons other first =>
          rw [List.nodup_cons] at distinct
          rw [List.map_cons, List.map_cons, List.cons.injEq] at same
          obtain ⟨h, first_eq, agree⟩ := induction distinct.2 same.2
          have unchanged :
              ∀ another ∈ second, Function.update h element other another = h another := by
            intro another another_mem
            apply Function.update_of_ne
            rintro rfl
            exact distinct.1 another_mem
          refine ⟨Function.update h element other, ?_, ?_⟩
          · rw [List.map_cons, Function.update_self, List.map_congr_left unchanged, first_eq]
          · rw [List.forall_mem_cons, Function.update_self]
            refine ⟨same.1, fun another another_mem => ?_⟩
            rw [unchanged another another_mem]
            exact agree another another_mem

theorem exists_map_eq {β γ : Type} [Nonempty γ] {keys : List β} (distinct : keys.Nodup)
    {values : List γ} (length_eq : keys.length = values.length) :
    ∃ f : β → γ, keys.map f = values := by
  have same : (values.map fun _ => ()) = keys.map fun _ => () := by
    rw [List.map_const', List.map_const', length_eq]
  obtain ⟨f, values_eq, -⟩ := exists_map_of_map_eq distinct same
  exact ⟨f, values_eq.symm⟩

/-- Filters that agree on elements that agree. -/
theorem filter_of_map_eq {β γ δ : Type} {first : List β} {second : List γ} {f : β → δ} {g : γ → δ}
    (same : first.map f = second.map g) {p : β → Bool} {q : γ → Bool}
    (agree : ∀ element ∈ first, ∀ other ∈ second, f element = g other → p element = q other) :
    (first.filter p).map f = (second.filter q).map g := by
  induction first generalizing second with
  | nil =>
      rw [List.map_nil, List.nil_eq, List.map_eq_nil_iff] at same
      rw [same]
      rfl
  | cons element first induction =>
      cases second with
      | nil => cases same
      | cons other second =>
          rw [List.map_cons, List.map_cons, List.cons.injEq] at same
          have head := agree element List.mem_cons_self other List.mem_cons_self same.1
          have tail := induction same.2 fun element element_mem other other_mem =>
            agree element (List.mem_cons_of_mem _ element_mem) other
              (List.mem_cons_of_mem _ other_mem)
          rw [List.filter_cons, List.filter_cons, head]
          split
          · rw [List.map_cons, List.map_cons, same.1, tail]
          · exact tail

namespace Graph.CopiedBy

variable {rename : Renaming} {graph copy : Graph α}

theorem map_id_clusters (copied : CopiedBy rename graph copy) :
    copy.clusters.map (·.id) = graph.clusters.map fun cluster => rename.cluster cluster.id := by
  have ids := congrArg (List.map (·.id)) copied.clusters
  rwa [Cluster.map_id_unplaced, List.map_map] at ids

theorem map_id_nodes (copied : CopiedBy rename graph copy) :
    copy.nodes.map (·.id) = graph.nodes.map fun node => rename.node node.id := by
  have ids := congrArg (List.map (·.id)) copied.nodes
  rwa [Node.map_id_unplaced, List.map_map] at ids

/-- The clusters of a copy are images of the clusters that they are copied from. -/
theorem exists_clusters_eq_map (copied : CopiedBy rename graph copy)
    (distinct : graph.clusters.Nodup) : ∃ f : Cluster α → Cluster α,
      copy.clusters = graph.clusters.map f ∧
        ∀ cluster ∈ graph.clusters, (f cluster).unplaced = rename.ofCluster cluster := by
  have : Nonempty (Cluster α) := ⟨{ id := "", label := "" }⟩
  exact exists_map_of_map_eq distinct copied.clusters

end Graph.CopiedBy

end ClusterDiagram
