import ClusterDiagram.Proofs.FiniteCanvas
import ClusterDiagram.Proofs.FreshIds
import ClusterDiagram.Proofs.Growth

/-!
# Reading any text

On a canvas of finite width every text is read. The ids of the clusters that are read are distinct,
and so are those of the nodes and those of the edges.
-/

namespace ClusterDiagram
namespace Prompt

variable {α : Type}

/-! ## Ids that were given -/

/-- Whether some ids are distinct and count as given. -/
def Given (ids own : List String) : Prop :=
  own.Nodup ∧ own ⊆ ids

theorem Given.weaken {ids own : List String} (given : Given ids own) (id : String) :
    Given (id :: ids) own :=
  ⟨given.1, fun _ own_mem => List.mem_cons_of_mem id (given.2 own_mem)⟩

theorem Given.append_fresh {ids own : List String} (given : Given ids own) (base : String) :
    Given (FreshId.fresh base ids :: ids) (own ++ [FreshId.fresh base ids]) := by
  have new := FreshId.fresh_not_mem base ids
  constructor
  · rw [← List.concat_eq_append, List.nodup_concat]
    exact ⟨fun old => new (given.2 old), given.1⟩
  · intro id id_mem
    rcases List.mem_append.mp id_mem with old | last
    · exact List.mem_cons_of_mem _ (given.2 old)
    · exact List.mem_cons.mpr (Or.inl (List.mem_singleton.mp last))

namespace Draft

/-- A draft whose clusters, nodes and edges have ids that were given to them. -/
structure Identified (draft : Draft α) : Prop where
  /-- The ids of the clusters. -/
  clusters : Given draft.ids (draft.graph.clusters.map (·.id))
  /-- The ids of the nodes. -/
  nodes : Given draft.ids (draft.graph.nodes.map (·.id))
  /-- The ids of the edges. -/
  edges : Given draft.ids (draft.graph.edges.map (·.id))
  /-- The id of a cluster is made from its label. -/
  slugs : ∀ cluster ∈ draft.graph.clusters, ∃ used,
    cluster.id = FreshId.fresh (Text.slug cluster.label) used

theorem identified_start (drawn : Nat) : Identified ({ drawn } : Draft α) := by
  have given : Given [] [] := ⟨List.nodup_nil, List.Subset.refl _⟩
  exact ⟨given, given, given, fun _ cluster_mem => absurd cluster_mem List.not_mem_nil⟩

variable {draft after : Draft α}

theorem Identified.addCluster (identified : draft.Identified) (indent : Nat) (label : String) :
    (draft.addCluster indent label).Identified where
  clusters := by
    simp only [Draft.addCluster, giveId, List.map_append]
    exact identified.clusters.append_fresh _
  nodes := identified.nodes.weaken _
  edges := identified.edges.weaken _
  slugs := by
    intro cluster cluster_mem
    rcases List.mem_append.mp cluster_mem with old | new
    · exact identified.slugs cluster old
    · rw [List.mem_singleton] at new
      exact ⟨draft.ids, new ▸ rfl⟩

theorem Identified.addEdge {edge : Edge} {base : String} (identified : draft.Identified)
    (id_eq : edge.id = FreshId.fresh base draft.ids) (drawn : Nat) :
    Identified { draft with
      graph := { draft.graph with edges := draft.graph.edges ++ [edge] }
      ids := edge.id :: draft.ids
      drawn } where
  clusters := identified.clusters.weaken _
  nodes := identified.nodes.weaken _
  edges := by
    rw [List.map_append, List.map_singleton, id_eq]
    exact identified.edges.append_fresh base
  slugs := identified.slugs

variable [Scalar α] {context : Context α}

theorem Identified.addNode {label : String} {name cluster : Option String}
    {position : Option (Point α)} {node : Node α} (identified : draft.Identified)
    (done : Draft.addNode context draft label name cluster position = .ok (node, after)) :
    after.Identified := by
  obtain ⟨-, -, -, base, drawn, id_eq, rfl⟩ := addNode_ok done
  exact {
    clusters := identified.clusters.weaken _
    nodes := by
      rw [List.map_append, List.map_singleton, id_eq]
      exact identified.nodes.append_fresh base
    edges := identified.edges.weaken _
    slugs := identified.slugs }

theorem Identified.step (identified : draft.Identified) (step : Step context draft after) :
    after.Identified := by
  cases step with
  | cluster indent => exact identified.addCluster indent _
  | node _ _ added => exact identified.addNode added
  | edge edge base drawn id_eq => exact identified.addEdge id_eq drawn

theorem Identified.grows (identified : draft.Identified) (grows : Grows context draft after) :
    after.Identified :=
  grows.keeps (fun step before => before.step step) identified

end Draft

section Read

variable [Scalar α] {context : Context α}

/-- The ids of what is read are distinct, and those of clusters come from their labels. -/
theorem identified_of_read {text : String} {drawn next : Nat} {graph : Graph α}
    (done : read context text drawn = .ok (graph, next)) :
    ∃ draft : Draft α, draft.Identified ∧ draft.graph = graph := by
  obtain ⟨draft, grows, graph_eq⟩ := grows_of_read done
  exact ⟨draft, (Draft.identified_start drawn).grows grows, graph_eq⟩

/-! ## Canvases of finite width -/

theorem Draft.addNode_total (finite : Placement.FiniteWidth context.canvasWidth) (draft : Draft α)
    (label : String) (name cluster : Option String) (position : Option (Point α)) :
    ∃ out, draft.addNode context label name cluster position = .ok out := by
  cases position with
  | some point => exact ⟨_, rfl⟩
  | none =>
      obtain ⟨point, place⟩ := finite.nodeSlot (context.nodes ++ draft.graph.nodes) context.clusters
      simp only [addNode, giveTokenId, giveId, place]
      exact ⟨_, rfl⟩

theorem Draft.declare_total (finite : Placement.FiniteWidth context.canvasWidth) (draft : Draft α)
    (statement : Statement) : ∃ next, draft.declare context statement = .ok next := by
  cases statement with
  | cluster indent label => exact ⟨_, rfl⟩
  | node label name =>
      obtain ⟨out, added⟩ := draft.addNode_total finite label name draft.innermost none
      rw [declare, added]
      exact ⟨_, rfl⟩
  | edge source target attributes => exact ⟨draft, rfl⟩

theorem Draft.resolve_total (finite : Placement.FiniteWidth context.canvasWidth) (draft : Draft α)
    (reference : String) : ∃ out, draft.resolve context reference = .ok out := by
  rw [resolve]
  split
  · exact ⟨_, rfl⟩
  · split
    · exact ⟨_, rfl⟩
    · split
      · exact ⟨_, rfl⟩
      · exact draft.addNode_total finite _ _ _ _
  · exact draft.addNode_total finite _ _ _ _

theorem Draft.connect_total (finite : Placement.FiniteWidth context.canvasWidth) (draft : Draft α)
    (statement : Statement) : ∃ next, draft.connect context statement = .ok next := by
  cases statement with
  | cluster indent label => exact ⟨draft, rfl⟩
  | node label name => exact ⟨draft, rfl⟩
  | edge source target attributes =>
      obtain ⟨⟨source, draft₁⟩, source_eq⟩ := draft.resolve_total finite source
      obtain ⟨⟨target, draft₂⟩, target_eq⟩ := draft₁.resolve_total finite target
      simp only [connect, source_eq, target_eq, bind, Except.bind, pure, Except.pure]
      exact ⟨_, rfl⟩

/-- On a canvas of finite width every text is read. -/
theorem read_total (finite : Placement.FiniteWidth context.canvasWidth) (text : String)
    (drawn : Nat) : ∃ out, read context text drawn = .ok out := by
  obtain ⟨declared, declare_eq⟩ :=
    exists_foldlM_ok (Draft.declare_total finite) (Statement.ofText text) { drawn }
  obtain ⟨draft, connect_eq⟩ :=
    exists_foldlM_ok (Draft.connect_total finite) (Statement.ofText text) declared
  simp only [read, build, declare_eq, connect_eq, bind, Except.bind, pure, Except.pure]
  exact ⟨_, rfl⟩

end Read

end Prompt
end ClusterDiagram
