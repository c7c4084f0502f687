import ClusterDiagram.Proofs.FiniteCanvas
import ClusterDiagram.Proofs.LinedTexts
import ClusterDiagram.Proofs.PayloadRoundTrip
import ClusterDiagram.Proofs.ReadValidity

/-!
# What is read can be sent back

The values of attributes are trimmed and an empty one counts as absent, so that the texts of a diagram
that is read against nothing are such as a payload gives back. Reading a node at all shows that the
canvas has a finite width.
-/

namespace ClusterDiagram

theorem Text.nonempty_nonempty (text : Option String) :
    nonempty (nonempty text) = nonempty text := by
  simp [nonempty]

/-- Texts that fit on lines are such as a payload gives back. -/
theorem Graph.Lined.nonempty_texts {α : Type} {graph : Graph α} (lined : graph.Lined) :
    (∀ node ∈ graph.nodes, Text.nonempty node.name = node.name) ∧
      ∀ edge ∈ graph.edges, Text.nonempty (edge.label.map Text.trim) = edge.label := by
  constructor
  · intro node node_mem
    cases name_eq : node.name with
    | none => rfl
    | some name => exact Text.nonempty_of_tidy (lined.names node node_mem name name_eq)
  · intro edge edge_mem
    cases label_eq : edge.label with
    | none => rfl
    | some label =>
        have tidy := lined.edgeLabels edge edge_mem label label_eq
        rw [Option.map_some, tidy.trimmed, Text.nonempty_of_tidy tidy]

namespace Prompt

variable {α : Type} [Scalar α] {context : Context α}

/-- Only a canvas of finite width has a place for a new node. -/
theorem Draft.Step.finiteWidth {draft after : Draft α} (unknown : context.nodes = [])
    (step : Draft.Step context draft after)
    (before : draft.graph.nodes = [] ∨ Placement.FiniteWidth context.canvasWidth) :
    after.graph.nodes = [] ∨ Placement.FiniteWidth context.canvasWidth := by
  cases step with
  | cluster => exact before
  | node inside origin added =>
      rcases origin with rfl | ⟨known, known_mem, -⟩
      · simp only [Draft.addNode] at added
        split at added
        · cases added
        · rename_i point placed
          exact Or.inr (Placement.finiteWidth_of_nodeSlot placed)
      · rw [unknown] at known_mem
        cases known_mem
  | edge => exact before

section Read

variable {text : String} {drawn next : Nat} {graph : Graph α}
  (unknown : context.nodes = []) (done : read context text drawn = .ok (graph, next))

include unknown done

/-- What is read against nothing comes back from a payload. -/
theorem portable_of_read : graph.Portable := by
  obtain ⟨names, labels⟩ := (lined_of_read unknown done).nonempty_texts
  obtain ⟨draft, sound, rfl⟩ := sound_of_read done
  have filled {reference : Option String}
      (listed : ∀ id, reference = some id → id ∈ draft.graph.clusters.map (·.id)) :
      Text.nonempty reference = reference := by
    cases reference with
    | none => rfl
    | some id =>
        obtain ⟨cluster, cluster_mem, rfl⟩ := List.mem_map.mp (listed id rfl)
        simp [Text.nonempty, sound.named cluster cluster_mem]
  exact {
    parents := fun cluster cluster_mem =>
      filled fun id parent_eq => (sound.wellFormed.parents cluster cluster_mem id parent_eq).1
    names
    memberships := fun node node_mem =>
      filled fun id cluster_eq => sound.wellFormed.memberships node node_mem id cluster_eq
    labels }

theorem finiteWidth_of_read : graph.nodes = [] ∨ Placement.FiniteWidth context.canvasWidth := by
  obtain ⟨draft, grows, rfl⟩ := grows_of_read done
  exact grows.keeps (fun step before => step.finiteWidth unknown before) (Or.inl rfl)

end Read

end Prompt

end ClusterDiagram
