import ClusterDiagram.Proofs.AttributeText
import ClusterDiagram.Proofs.Renaming
import ClusterDiagram.Remote.Payload

/-!
# Diagrams sent back as payloads

A diagram that is written as a document and read as a payload comes back with its captions,
references, ends and styles, when its texts are such as a payload may hold: no text that counts as
absent is there, and the labels of edges are trimmed.
-/

namespace ClusterDiagram

variable {α : Type}

/-- A diagram whose texts a payload gives back. -/
structure Graph.Portable (graph : Graph α) : Prop where
  /-- No parent is the empty id. -/
  parents : ∀ cluster ∈ graph.clusters, Text.nonempty cluster.parent = cluster.parent
  /-- No node has an empty alias. -/
  names : ∀ node ∈ graph.nodes, Text.nonempty node.name = node.name
  /-- No node lies in the empty id. -/
  memberships : ∀ node ∈ graph.nodes, Text.nonempty node.cluster = node.cluster
  /-- The labels of edges are neither empty nor blank at an end. -/
  labels : ∀ edge ∈ graph.edges, Text.nonempty (edge.label.map Text.trim) = edge.label

/-- Coordinates do not count for what a payload gives back. -/
theorem Graph.Portable.of_unplaced_eq {graph moved : Graph α} (portable : graph.Portable)
    (same : moved.unplaced = graph.unplaced) : moved.Portable := by
  rw [unplaced, unplaced, Graph.mk.injEq] at same
  obtain ⟨clusters_eq, nodes_eq, edges_eq⟩ := same
  have node_of {node : Node α} (node_mem : node ∈ moved.nodes) :
      ∃ other ∈ graph.nodes, other.name = node.name ∧ other.cluster = node.cluster := by
    obtain ⟨other, other_mem, same⟩ := exists_mem_of_map_eq nodes_eq node_mem
    exact ⟨other, other_mem, congrArg (fun node : Node Unit => node.name) same,
      congrArg (fun node : Node Unit => node.cluster) same⟩
  exact {
    parents := by
      intro cluster cluster_mem
      obtain ⟨other, other_mem, same⟩ := exists_mem_of_map_eq clusters_eq cluster_mem
      have parent_eq : other.parent = cluster.parent :=
        congrArg (fun cluster : Cluster Unit => cluster.parent) same
      exact parent_eq ▸ portable.parents other other_mem
    names := by
      intro node node_mem
      obtain ⟨other, other_mem, name_eq, -⟩ := node_of node_mem
      exact name_eq ▸ portable.names other other_mem
    memberships := by
      intro node node_mem
      obtain ⟨other, other_mem, -, cluster_eq⟩ := node_of node_mem
      exact cluster_eq ▸ portable.memberships other other_mem
    labels := edges_eq ▸ portable.labels }

namespace Payload

variable {β γ : Type}

theorem all_map_ok {read : β → Checked γ} {value : β → γ} {items : List β}
    (reads : ∀ item ∈ items, read item = .ok (value item)) :
    all (items.map read) = .ok (items.map value) := by
  induction items with
  | nil => rfl
  | cons item items induction =>
      rw [List.forall_mem_cons] at reads
      rw [List.map_cons, all, reads.1, induction reads.2]
      rfl

/-- A list of documents that are objects is read object by object. -/
theorem requiredList_ok {name : String} {read : List (String × Json α) → Checked γ}
    {fields : List (String × Json α)} {entities : List β} {write : β → Json α} {value : β → γ}
    (listed : Json.find? name fields = some (.list (entities.map write)))
    (reads : ∀ entity ∈ entities, ∃ inner, write entity = .object inner ∧
      read inner = .ok (value entity)) :
    requiredList name read fields = .ok (entities.map value) := by
  simp only [requiredList, listed, List.map_map]
  apply all_map_ok
  intro entity entity_mem
  obtain ⟨inner, written, read_eq⟩ := reads entity entity_mem
  simp only [Function.comp_apply, written, read_eq]

end Payload

/-! ## Entities -/

section Entities

variable [Scalar α]

/-- A cluster as a payload gives it back: half an anchor is none. -/
def Cluster.sentBack (cluster : Cluster α) : Cluster α :=
  match cluster.x, cluster.y with
  | some _, some _ => cluster
  | _, _ => { cluster with x := none, y := none }

/-- A node as a payload gives it back. -/
def Node.sentBack (node : Node α) : Node α :=
  { node with x := Payload.coordinate (some node.x), y := Payload.coordinate (some node.y) }

/-- An edge as a payload gives it back, an empty id being replaced. -/
def Edge.sentBack (edge : Edge) : Payload.EdgeDraft := fun index =>
  { edge with
    id := (Text.nonempty (some edge.id)).getD
      ("e-" ++ edge.source ++ "-" ++ edge.target ++ "-" ++ toString index) }

theorem Payload.cluster_toJson {cluster : Cluster α}
    (parent : Text.nonempty cluster.parent = cluster.parent) :
    ∃ fields, cluster.toJson = .object fields ∧
      Payload.cluster fields = .ok cluster.sentBack := by
  obtain ⟨id, label, parentId, x, y⟩ := cluster
  refine ⟨_, rfl, ?_⟩
  dsimp only at parent
  cases parentId <;> cases x <;> cases y <;>
    simp [Payload.cluster, both, requiredText, optionalText, optionalNumber, field?, Json.find?,
      Json.ofText?, List.lookup_cons, List.lookup_nil, Cluster.sentBack, parent, bind,
      Except.bind, pure, Except.pure]

theorem Payload.node_toJson {node : Node α} (name : Text.nonempty node.name = node.name)
    (membership : Text.nonempty node.cluster = node.cluster) :
    ∃ fields, node.toJson = .object fields ∧ Payload.node fields = .ok node.sentBack := by
  obtain ⟨id, label, shown, x, y, cluster⟩ := node
  refine ⟨_, rfl, ?_⟩
  dsimp only at name membership
  cases shown <;> cases cluster <;>
    simp [Payload.node, both, requiredText, optionalText, optionalNumber, field?, Json.find?,
      Json.ofText?, List.lookup_cons, List.lookup_nil, Node.sentBack, name, membership, bind,
      Except.bind, pure, Except.pure]

omit [Scalar α] in
theorem Payload.edge_toJson {edge : Edge}
    (tidy : Text.nonempty (edge.label.map Text.trim) = edge.label) :
    ∃ fields, (edge.toJson : Json α) = .object fields ∧
      Payload.edge fields = .ok edge.sentBack := by
  obtain ⟨id, source, target, label, style⟩ := edge
  refine ⟨_, rfl, ?_⟩
  have label_eq : edgeLabel label none = label := by
    dsimp only at tidy
    rw [edgeLabel, List.findSome?_cons, tidy]
    cases label <;> rfl
  have style_eq : EdgeStyle.ofText? (some style.name) = style := Attributes.ofText_name style
  have read : Payload.edge [("id", (.text id : Json α)), ("from", .text source),
      ("to", .text target), ("label", Json.ofText? label), ("type", .text style.name)] =
      .ok fun index =>
        { id := (Text.nonempty (some id)).getD
            ("e-" ++ source ++ "-" ++ target ++ "-" ++ toString index)
          source, target
          label := edgeLabel label none
          style := EdgeStyle.ofText? (some style.name) } := by
    cases label <;>
      simp [Payload.edge, both, requiredText, optionalText, field?, Json.find?, Json.ofText?,
        List.lookup_cons, List.lookup_nil, bind, Except.bind, pure, Except.pure]
  rw [read, label_eq, style_eq]
  rfl

end Entities

/-! ## Diagrams -/

/-- A diagram as a payload gives it back. -/
def Graph.sentBack [Scalar α] (graph : Graph α) : Graph α where
  clusters := graph.clusters.map Cluster.sentBack
  nodes := graph.nodes.map Node.sentBack
  edges := (graph.edges.map Edge.sentBack).mapIdx fun index edge => edge index

theorem Graph.ofPayload_toJson [Scalar α] {graph : Graph α} (portable : graph.Portable) :
    Graph.ofPayload graph.toJson = .ok graph.sentBack := by
  have clusters : Payload.requiredList "clusters" Payload.cluster graph.toFields =
      .ok (graph.clusters.map Cluster.sentBack) := by
    refine Payload.requiredList_ok rfl fun cluster cluster_mem => ?_
    exact Payload.cluster_toJson (portable.parents cluster cluster_mem)
  have nodes : Payload.requiredList "nodes" Payload.node graph.toFields =
      .ok (graph.nodes.map Node.sentBack) := by
    refine Payload.requiredList_ok rfl fun node node_mem => ?_
    exact Payload.node_toJson (portable.names node node_mem) (portable.memberships node node_mem)
  have edges : Payload.requiredList "edges" Payload.edge graph.toFields =
      .ok (graph.edges.map Edge.sentBack) := by
    refine Payload.requiredList_ok rfl fun edge edge_mem => ?_
    exact Payload.edge_toJson (portable.labels edge edge_mem)
  have message : Payload.optionalText ["message"] (graph.toFields : List (String × Json α)) =
      .ok none := rfl
  simp only [Graph.toJson, Graph.ofPayload, clusters, nodes, edges, message, Payload.both]
  rfl

namespace Graph

theorem unplaced_sentBack [Scalar α] (graph : Graph α) :
    graph.sentBack.clusters.map Cluster.unplaced = graph.clusters.map Cluster.unplaced ∧
      graph.sentBack.nodes.map Node.unplaced = graph.nodes.map Node.unplaced ∧
      graph.sentBack.edges.map Edge.unnamed = graph.edges.map Edge.unnamed := by
  refine ⟨?_, ?_, ?_⟩
  · rw [sentBack, List.map_map]
    apply List.map_congr_left
    intro cluster _
    rw [Function.comp_apply, Cluster.sentBack]
    split <;> rfl
  · rw [sentBack, List.map_map]
    rfl
  · apply List.ext_getElem?
    intro index
    simp only [sentBack, List.getElem?_map, List.getElem?_mapIdx, Option.map_map]
    rfl

end Graph

end ClusterDiagram
