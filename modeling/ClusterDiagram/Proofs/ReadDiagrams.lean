import ClusterDiagram.Proofs.FiniteLayout
import ClusterDiagram.Proofs.NoViolations
import ClusterDiagram.Proofs.ReadValidity

/-!
# Diagrams that are read

Whatever a text says and whatever is known before it is read, it is read as a diagram with nothing
wrong. All ids come from one supply, so that an id of one kind of entity is never given to another
kind either, and a cluster is added when its parent is there already.
-/

namespace ClusterDiagram

variable {α : Type}

namespace Graph

/-- The ids of all entities. -/
def ids (graph : Graph α) : List String :=
  graph.clusters.map (·.id) ++ (graph.nodes.map (·.id) ++ graph.edges.map (·.id))

/-- Whether the parent of every cluster is listed before the cluster. -/
def ParentsFirst (graph : Graph α) : Prop :=
  ∀ before cluster after, graph.clusters = before ++ cluster :: after →
    ∀ parent, cluster.parent = some parent → parent ∈ before.map (·.id)

/-- A cluster may be added behind its parent. -/
theorem ParentsFirst.append {graph : Graph α} (first : graph.ParentsFirst) {added : Cluster α}
    (listed : ∀ parent, added.parent = some parent → parent ∈ graph.clusters.map (·.id)) :
    ParentsFirst { graph with clusters := graph.clusters ++ [added] } := by
  intro before cluster after split
  dsimp only at split
  rcases List.eq_nil_or_concat after with rfl | ⟨after, last, rfl⟩
  · obtain ⟨rfl, same⟩ := List.append_inj' split rfl
    cases same
    exact listed
  · rw [List.concat_eq_append, ← List.cons_append, ← List.append_assoc] at split
    obtain ⟨split, -⟩ := List.append_inj' split rfl
    exact first before cluster after split

end Graph

namespace Prompt

/-- A fresh id may be put anywhere among those that were given. -/
theorem Given.insert_fresh {ids front back : List String} (given : Given ids (front ++ back))
    (base : String) :
    Given (FreshId.fresh base ids :: ids) (front ++ FreshId.fresh base ids :: back) := by
  have new := FreshId.fresh_not_mem base ids
  constructor
  · rw [List.nodup_middle, List.nodup_cons]
    exact ⟨fun old => new (given.2 old), given.1⟩
  · intro id id_mem
    rcases List.mem_cons.mp (List.perm_middle.mem_iff.mp id_mem) with rfl | old
    · exact List.mem_cons_self
    · exact List.mem_cons_of_mem _ (given.2 old)

namespace Draft

/-- A sound draft whose entities have distinct ids across their kinds and whose clusters stand
behind their parents. -/
structure Orderly (draft : Draft α) : Prop extends Sound draft where
  /-- All ids were given, each once. -/
  allIds : Given draft.ids draft.graph.ids
  /-- Parents come first. -/
  parentsFirst : draft.graph.ParentsFirst

theorem orderly_start (drawn : Nat) : Orderly ({ drawn } : Draft α) where
  toSound := sound_start drawn
  allIds := ⟨List.nodup_nil, List.Subset.refl _⟩
  parentsFirst := by
    intro before cluster after split
    cases before <;> cases split

variable {draft after : Draft α}

theorem Orderly.addCluster (orderly : draft.Orderly) (indent : Nat) {label : String}
    (filled : Text.slug label ≠ "") : (draft.addCluster indent label).Orderly where
  toSound := orderly.toSound.addCluster indent filled
  allIds := by
    simp only [Draft.addCluster, giveId, Graph.ids, List.map_append, List.map_cons, List.map_nil,
      List.append_assoc, List.singleton_append]
    exact orderly.allIds.insert_fresh _
  parentsFirst := by
    apply orderly.parentsFirst.append
    intro parent parent_eq
    obtain ⟨entry, head_eq, rfl⟩ := Option.map_eq_some_iff.mp parent_eq
    have entry_mem := (List.dropWhile_sublist _).subset (List.mem_of_mem_head? head_eq)
    exact orderly.openListed entry entry_mem

variable [Scalar α] {context : Context α}

theorem Orderly.step (orderly : draft.Orderly) (step : Step context draft after) :
    after.Orderly := by
  have sound := orderly.toSound.step step
  have given := orderly.allIds
  rw [Graph.ids] at given
  cases step with
  | cluster indent filled => exact orderly.addCluster indent filled
  | node _ _ added =>
      obtain ⟨-, -, -, base, drawn, id_eq, rfl⟩ := addNode_ok added
      refine { toSound := sound, allIds := ?_, parentsFirst := orderly.parentsFirst }
      rw [← List.append_assoc] at given
      simp only [Graph.ids, List.map_append, List.map_cons, List.map_nil, List.append_assoc,
        List.singleton_append]
      rw [← List.append_assoc, id_eq]
      exact given.insert_fresh base
  | edge edge base drawn id_eq =>
      refine { toSound := sound, allIds := ?_, parentsFirst := orderly.parentsFirst }
      rw [← List.append_assoc, ← List.append_nil (_ ++ _)] at given
      simp only [Graph.ids, List.map_append, List.map_cons, List.map_nil]
      rw [← List.append_assoc, ← List.append_assoc, id_eq]
      exact given.insert_fresh base

theorem Orderly.grows (orderly : draft.Orderly) (grows : Grows context draft after) :
    after.Orderly :=
  grows.keeps (fun step before => before.step step) orderly

end Draft

/-- On a canvas of finite width every text is read, whatever nodes and clusters are known and
whatever the tokens are, and nothing is wrong with the diagram: no id occurs twice among all
entities, a parent is listed before the cluster it encloses, and memberships and endpoints lead to
entities of the diagram. -/
theorem exists_read_orderly {context : Context Float}
    (finite : context.canvasWidth.isFinite = true) (text : String) (drawn : Nat) :
    ∃ graph next, read context text drawn = .ok (graph, next) ∧
      graph.ids.Nodup ∧ graph.ParentsFirst ∧
      (∀ node ∈ graph.nodes, ∀ cluster, node.cluster = some cluster →
        cluster ∈ graph.clusters.map (·.id)) ∧
      (∀ edge ∈ graph.edges,
        edge.source ∈ graph.nodes.map (·.id) ∧ edge.target ∈ graph.nodes.map (·.id)) ∧
      graph.violations = [] := by
  obtain ⟨⟨graph, next⟩, done⟩ :=
    read_total (Placement.finiteWidth_of_isFinite finite) text drawn
  obtain ⟨draft, grows, rfl⟩ := grows_of_read done
  have orderly := (Draft.orderly_start drawn).grows grows
  have valid := orderly.wellFormed.toValid
  exact ⟨draft.graph, next, done, orderly.allIds.1, orderly.parentsFirst, valid.memberships,
    valid.endpoints, Graph.violations_eq_nil valid⟩

/-- A cluster and nodes whose ids imitate each other, one token and entities that are gone. -/
def imitating : Context Float where
  nodes := [{ id := "a-t", label := "A", x := 0, y := 0, cluster := some "gone" }]
  clusters := [{ id := "c", label := "C" }]
  canvasWidth := 1200
  token := fun _ => "t"

theorem exists_read_orderly_imitating :
    imitating.canvasWidth.isFinite = true ∧
      ∃ graph next, read imitating
        "Cluster: a-t\n  Node: a\n  Cluster: c\n    Node: a[a]\na -> ? -> zzz [label: x" 0 =
          .ok (graph, next) ∧
        graph.ids.Nodup ∧ graph.ParentsFirst ∧
        (∀ node ∈ graph.nodes, ∀ cluster, node.cluster = some cluster →
          cluster ∈ graph.clusters.map (·.id)) ∧
        (∀ edge ∈ graph.edges,
          edge.source ∈ graph.nodes.map (·.id) ∧ edge.target ∈ graph.nodes.map (·.id)) ∧
        graph.violations = [] :=
  have finite : imitating.canvasWidth.isFinite = true := by decide
  ⟨finite, exists_read_orderly finite _ _⟩

end Prompt
end ClusterDiagram
