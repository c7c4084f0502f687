import ClusterDiagram.Proofs.GraphEdits
import ClusterDiagram.Proofs.Reading

/-!
# What is read is well-formed

A cluster nests in an open cluster, a node lies in the innermost one and an edge joins two nodes of
the draft, so that whatever the text says, every reference of the diagram leads to an entity of its
own.
-/

namespace ClusterDiagram

namespace Prompt

variable {α : Type}

namespace Draft

/-- A draft whose diagram is well-formed, whose open clusters are clusters of the diagram and whose
cluster ids are not empty. -/
structure Sound (draft : Draft α) : Prop extends Identified draft where
  /-- The diagram so far. -/
  wellFormed : draft.graph.WellFormed
  /-- The open clusters are listed. -/
  openListed : ∀ entry ∈ draft.enclosing, entry.1 ∈ draft.graph.clusters.map (·.id)
  /-- No cluster has an empty id. -/
  named : ∀ cluster ∈ draft.graph.clusters, cluster.id ≠ ""

theorem sound_start (drawn : Nat) : Sound ({ drawn } : Draft α) where
  toIdentified := identified_start drawn
  wellFormed := Graph.wellFormed_empty
  openListed := fun _ entry_mem => absurd entry_mem List.not_mem_nil
  named := fun _ cluster_mem => absurd cluster_mem List.not_mem_nil

variable {draft after : Draft α}

/-- The innermost open cluster is listed. -/
theorem Sound.innermost_listed (sound : draft.Sound) {id : String}
    (innermost_eq : draft.innermost = some id) : id ∈ draft.graph.clusters.map (·.id) := by
  obtain ⟨entry, head_eq, rfl⟩ := Option.map_eq_some_iff.mp innermost_eq
  exact sound.openListed entry (List.mem_of_mem_head? head_eq)

theorem Sound.addCluster (sound : draft.Sound) (indent : Nat) {label : String}
    (filled : Text.slug label ≠ "") : (draft.addCluster indent label).Sound where
  toIdentified := sound.toIdentified.addCluster indent label
  wellFormed := by
    have new := FreshId.fresh_not_mem (Text.slug label) draft.ids
    apply sound.wellFormed.addCluster fun old => new (sound.clusters.2 old)
    intro parent parent_eq
    obtain ⟨entry, head_eq, rfl⟩ := Option.map_eq_some_iff.mp parent_eq
    have entry_mem := (List.dropWhile_sublist _).subset (List.mem_of_mem_head? head_eq)
    exact sound.openListed entry entry_mem
  openListed := by
    intro entry entry_mem
    simp only [Draft.addCluster, giveId, List.map_append] at entry_mem ⊢
    rcases List.mem_cons.mp entry_mem with rfl | still_open
    · exact List.mem_append_right _ List.mem_cons_self
    · have entry_mem := (List.dropWhile_sublist _).subset still_open
      exact List.mem_append_left _ (sound.openListed entry entry_mem)
  named := by
    intro cluster cluster_mem
    rcases List.mem_append.mp cluster_mem with old | added
    · exact sound.named cluster old
    · obtain rfl := List.mem_singleton.mp added
      exact FreshId.fresh_ne_empty filled draft.ids

variable [Scalar α] {context : Context α}

theorem Sound.addNode {label : String} {name cluster : Option String}
    {position : Option (Point α)} {node : Node α} (sound : draft.Sound)
    (listed : ∀ id, cluster = some id → id ∈ draft.graph.clusters.map (·.id))
    (done : Draft.addNode context draft label name cluster position = .ok (node, after)) :
    after.Sound := by
  have identified := sound.toIdentified.addNode done
  obtain ⟨-, -, rfl, base, drawn, id_eq, rfl⟩ := addNode_ok done
  have new := FreshId.fresh_not_mem base draft.ids
  exact {
    toIdentified := identified
    wellFormed := sound.wellFormed.addNode (fun old => new (id_eq ▸ sound.nodes.2 old)) listed
    openListed := sound.openListed
    named := sound.named }

theorem Sound.step (sound : draft.Sound) (step : Step context draft after) : after.Sound := by
  have identified := sound.toIdentified.step step
  cases step with
  | cluster indent filled => exact sound.addCluster indent filled
  | node inside _ added =>
      apply sound.addNode _ added
      rintro id rfl
      rcases inside with innermost | outside
      · exact sound.innermost_listed innermost.symm
      · cases outside
  | edge edge base drawn id_eq source_mem target_mem =>
      have new := FreshId.fresh_not_mem base draft.ids
      exact {
        toIdentified := identified
        wellFormed := sound.wellFormed.addEdge (fun old => new (id_eq ▸ sound.edges.2 old))
          ⟨source_mem, target_mem⟩
        openListed := sound.openListed
        named := sound.named }

theorem Sound.grows (sound : draft.Sound) (grows : Grows context draft after) : after.Sound :=
  grows.keeps (fun step before => before.step step) sound

end Draft

/-- What is read is the diagram of a sound draft. -/
theorem sound_of_read [Scalar α] {context : Context α} {text : String} {drawn next : Nat}
    {graph : Graph α} (done : read context text drawn = .ok (graph, next)) :
    ∃ draft : Draft α, draft.Sound ∧ draft.graph = graph := by
  obtain ⟨draft, grows, graph_eq⟩ := grows_of_read done
  exact ⟨draft, (Draft.sound_start drawn).grows grows, graph_eq⟩

end Prompt
end ClusterDiagram
