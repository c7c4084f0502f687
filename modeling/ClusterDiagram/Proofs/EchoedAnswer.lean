import ClusterDiagram.Proofs.LateAnswers
import ClusterDiagram.Proofs.ReadTexts
import ClusterDiagram.Proofs.SelfMerge
import ClusterDiagram.Proofs.ServiceAgreement

/-!
# Answers that echo the local result

When the answer to the first update of a session is the local result itself, clusters and nodes stay
as they are up to their places. Edges that join the same nodes in the same direction are told apart
by nothing: each takes over the style of the first of them, and its label where it has none itself.
-/

namespace ClusterDiagram
namespace Session

/-! ## Parallel edges -/

/-- The first of some edges that joins the same nodes as an edge, in the same direction. -/
def firstBeside (edges : List Edge) (edge : Edge) : Option Edge :=
  edges.find? fun other => other.source == edge.source && other.target == edge.target

theorem exists_firstBeside {edges : List Edge} {edge : Edge} (edge_mem : edge ∈ edges) :
    ∃ first, firstBeside edges edge = some first := by
  rw [← Option.isSome_iff_exists, firstBeside, List.find?_isSome]
  exact ⟨edge, edge_mem, by simp⟩

theorem unnamed_keepLocalStyle (edges : List Edge) {edge other : Edge}
    (same : edge.unnamed = other.unnamed) :
    (keepLocalStyle edges edge).unnamed = (keepLocalStyle edges other).unnamed := by
  obtain ⟨id, source, target, label, style⟩ := edge
  simp only [Edge.unnamed, Edge.mk.injEq, true_and] at same
  obtain ⟨rfl, rfl, rfl, rfl⟩ := same
  simp only [keepLocalStyle]
  split <;> rfl

/-- An edge keeps its label and its style exactly when it has the style of the first edge beside it,
and a label of its own unless that has none. -/
theorem unnamed_keepLocalStyle_eq_iff {edges : List Edge} {edge first : Edge}
    (filled : Text.nonempty edge.label = edge.label)
    (beside : firstBeside edges edge = some first) :
    (keepLocalStyle edges edge).unnamed = edge.unnamed ↔
      edge.style = first.style ∧ (edge.label = none → first.label = none) := by
  rw [firstBeside] at beside
  rw [Text.nonempty] at filled
  simp only [keepLocalStyle, beside, filled, Edge.unnamed, Edge.mk.injEq, true_and]
  cases edge.label with
  | none =>
      simp only [Option.none_or, true_implies]
      rw [and_comm, eq_comm]
  | some label =>
      simp only [Option.some_or, reduceCtorEq, false_implies, and_true, true_and]
      exact eq_comm

/-- When edges keep labels and styles as a whole. -/
theorem map_keepLocalStyle_eq_iff {edges : List Edge}
    (filled : ∀ edge ∈ edges, Text.nonempty edge.label = edge.label) :
    (edges.map (keepLocalStyle edges)).map Edge.unnamed = edges.map Edge.unnamed ↔
      ∀ edge ∈ edges, ∀ first, firstBeside edges edge = some first →
        edge.style = first.style ∧ (edge.label = none → first.label = none) := by
  rw [List.map_map, List.map_inj_left]
  apply forall₂_congr
  intro edge edge_mem
  obtain ⟨first, beside⟩ := exists_firstBeside edge_mem
  rw [Function.comp_apply, unnamed_keepLocalStyle_eq_iff (filled edge edge_mem) beside]
  simp [beside]

/-! ## The echo -/

section Echo

variable {α : Type} [Scalar α] {context : Context α} {session : Session α}

theorem valid_sentBack {graph : Graph α} (valid : graph.Valid) : graph.sentBack.Valid := by
  obtain ⟨clusters_eq, nodes_eq, edges_eq⟩ := graph.unplaced_sentBack
  have plain := (Graph.valid_unplaced_iff graph).mpr valid
  have nodeIds : graph.sentBack.nodes.map (·.id) = graph.nodes.map (·.id) := by
    rw [← Node.map_id_unplaced, nodes_eq, Node.map_id_unplaced]
  rw [← Graph.valid_unplaced_iff, Graph.unplaced, clusters_eq, nodes_eq]
  refine { plain with endpoints := ?_ }
  intro edge edge_mem
  obtain ⟨other, other_mem, same⟩ := exists_mem_of_map_eq edges_eq edge_mem
  simp only [Edge.unnamed, Edge.mk.injEq, true_and] at same
  rw [← same.1, ← same.2.1]
  exact plain.endpoints other other_mem

/-- What makes a diagram come back from a parse service as it was sent. -/
structure Returnable (context : Context α) (graph : Graph α) : Prop where
  /-- Its texts stay as they are. -/
  portable : graph.Portable
  /-- It is valid. -/
  valid : graph.Valid
  /-- Its clusters have ids. -/
  named : ∀ cluster ∈ graph.clusters, cluster.id ≠ ""
  /-- There is room for its nodes. -/
  room : graph.nodes = [] ∨ Placement.FiniteWidth context.settings.canvas.width
  /-- It can be laid out. -/
  laid : ∃ placed, Layout.layout graph.clusters graph.nodes none context.settings.canvas = .ok placed

/-- The live diagram of a session, sent back as it is, can be merged and laid out as it was. -/
theorem exists_integrate_sentBack (returnable : Returnable context session.graph) :
    ∃ graph, integrate context session session.graph.sentBack = .ok graph ∧
      graph.clusters.map Cluster.unplaced = session.graph.clusters.map Cluster.unplaced ∧
      graph.nodes.map Node.unplaced = session.graph.nodes.map Node.unplaced ∧
      graph.edges.map Edge.unnamed = session.graph.edges.map Edge.unnamed := by
  obtain ⟨clusters_eq, nodes_eq, edges_eq⟩ := session.graph.unplaced_sentBack
  have named_back : ∀ cluster ∈ session.graph.sentBack.clusters, cluster.id ≠ "" := by
    intro cluster cluster_mem
    obtain ⟨other, other_mem, same⟩ := exists_mem_of_map_eq clusters_eq cluster_mem
    have id_eq : other.id = cluster.id := congrArg (fun cluster : Cluster Unit => cluster.id) same
    exact id_eq ▸ returnable.named other other_mem
  obtain ⟨merged, merging⟩ : ∃ merged, Merge.merge session.graph.sentBack session.graph.nodes
      session.graph.clusters context.settings.canvas.width = .ok merged := by
    rcases returnable.room with none_eq | finite
    · have none_back : session.graph.sentBack.nodes = [] := by
        rw [Graph.sentBack, none_eq, List.map_nil]
      exact Merge.exists_merge_ok_of_no_nodes none_back _ _
    · exact Merge.exists_merge_ok _ _ _ finite
  have copied := Merge.copiedBy_identity_of_merge (valid_sentBack returnable.valid) named_back
    clusters_eq nodes_eq merging
  have merged_clusters : merged.clusters.map Cluster.unplaced =
      session.graph.clusters.map Cluster.unplaced := by
    rw [copied.clusters, Renaming.ofCluster_identity, clusters_eq]
  have merged_nodes : merged.nodes.map Node.unplaced =
      session.graph.nodes.map Node.unplaced := by
    rw [copied.nodes, Renaming.ofNode_identity, nodes_eq]
  have merged_edges : merged.edges.map Edge.unnamed = session.graph.edges.map Edge.unnamed := by
    rw [copied.edges, Renaming.ofEdge_identity, edges_eq]
  obtain ⟨placed, laid⟩ := returnable.laid
  obtain ⟨again, laid_again⟩ :=
    Layout.exists_layout_ok_of_unplaced_eq merged_clusters merged_nodes laid
  have arranging : arrange context merged none =
      .ok { merged with clusters := again.1, nodes := again.2 } := by
    simp only [arrange, laid_again, bind, Except.bind, pure, Except.pure, ofArithmetic]
  have unplaced_eq := unplaced_arrange arranging
  rw [Graph.unplaced, Graph.unplaced, Graph.mk.injEq] at unplaced_eq
  refine ⟨_, ?_, unplaced_eq.1.trans merged_clusters, unplaced_eq.2.1.trans merged_nodes,
    merged_edges⟩
  simp only [integrate, merging, ofArithmetic, bind, Except.bind, arranging]

end Echo

variable {context : Context Float} {text : String} {drawn generation : Nat}
  {after : Session Float}

/-- The result of the first update of a session is returnable. -/
theorem returnable_of_localUpdate
    (updates : localUpdate context { drawn } text = (after, .ok generation)) :
    Returnable context after.graph := by
  obtain ⟨parsed, next, graph, done, arranging, rfl⟩ := read_of_localUpdate_fresh updates
  obtain ⟨draft, sound, rfl⟩ := Prompt.sound_of_read done
  have unplaced_eq := unplaced_arrange arranging
  have portable := (Prompt.portable_of_read rfl done).of_unplaced_eq unplaced_eq
  have valid : graph.Valid := (sound.wellFormed.of_unplaced_eq unplaced_eq).toValid
  rw [Graph.unplaced, Graph.unplaced, Graph.mk.injEq] at unplaced_eq
  obtain ⟨clusters_eq, nodes_eq, -⟩ := unplaced_eq
  refine ⟨portable, valid, ?_, ?_, ?_⟩
  · intro cluster cluster_mem
    obtain ⟨other, other_mem, same⟩ := exists_mem_of_map_eq clusters_eq cluster_mem
    have id_eq : other.id = cluster.id := congrArg (fun cluster : Cluster Unit => cluster.id) same
    exact id_eq ▸ sound.named other other_mem
  · refine (Prompt.finiteWidth_of_read rfl done).imp_left fun none_eq => ?_
    rwa [none_eq, List.map_nil, List.map_eq_nil_iff] at nodes_eq
  · obtain ⟨placed, laid, -⟩ := ok_of_bind (ok_of_ofArithmetic arranging)
    exact Layout.exists_layout_ok_of_unplaced_eq clusters_eq nodes_eq laid

/-- After the first update of a session, an answer that is the local result itself is applied and
changes nothing but places, except that an edge takes over the style of the first edge beside it,
and its label where it has none. So nothing at all is lost exactly when each edge has the style of
the first one beside it, and a label of its own unless that has none. -/
theorem applyPayload_echo (updates : localUpdate context { drawn } text = (after, .ok generation)) :
    ∃ graph, applyPayload context after after.generation after.graph.toJson =
        ({ after with graph }, .ok ⟨after.generation, .applied, none⟩) ∧
      graph.clusters.map Cluster.unplaced = after.graph.clusters.map Cluster.unplaced ∧
      graph.nodes.map Node.unplaced = after.graph.nodes.map Node.unplaced ∧
      graph.edges.map Edge.unnamed =
        (after.graph.edges.map (keepLocalStyle after.graph.edges)).map Edge.unnamed ∧
      (graph.edges.map Edge.unnamed = after.graph.edges.map Edge.unnamed ↔
        ∀ edge ∈ after.graph.edges, ∀ first, firstBeside after.graph.edges edge = some first →
          edge.style = first.style ∧ (edge.label = none → first.label = none)) := by
  have returnable := returnable_of_localUpdate updates
  obtain ⟨echoed, integrated, same_clusters, same_nodes, same_edges⟩ :=
    exists_integrate_sentBack returnable
  -- The echo may bring new ids of edges, which the transfer of styles never looks at.
  have styled : (echoed.edges.map (keepLocalStyle after.graph.edges)).map Edge.unnamed =
      (after.graph.edges.map (keepLocalStyle after.graph.edges)).map Edge.unnamed := by
    rw [List.map_map, List.map_map]
    exact map_eq_map_of_indices same_edges fun _ _ _ _ _ =>
      unnamed_keepLocalStyle after.graph.edges
  have filled : ∀ edge ∈ after.graph.edges, Text.nonempty edge.label = edge.label := by
    intro edge edge_mem
    rw [← returnable.portable.labels edge edge_mem, Text.nonempty_nonempty]
  refine ⟨{ echoed with edges := echoed.edges.map (keepLocalStyle after.graph.edges) }, ?_,
    same_clusters, same_nodes, styled, ?_⟩
  · simp only [applyPayload, Graph.ofPayload_toJson returnable.portable, Except.mapError,
      applyAnswer, applyDiagram, if_true]
    rw [integrated]
  · rw [styled]
    exact map_keepLocalStyle_eq_iff filled

/-- A text with two edges from one node to another, of different styles. -/
private def parallelText : String :=
  "A -> B\nA -> B [arrow=double]"

/-- A session that is updated with parallel edges. -/
private def parallel : Session Float :=
  (localUpdate standardContext {} parallelText).1

/-- Of two parallel edges the second takes over the style of the first. -/
theorem applyPayload_echo_parallel :
    parallel.generation = 1 ∧ parallel.graph.edges.map (·.style) = [.solid, .double] ∧
      ∃ graph, applyPayload standardContext parallel parallel.generation parallel.graph.toJson =
          ({ parallel with graph }, .ok ⟨parallel.generation, .applied, none⟩) ∧
        graph.nodes.map Node.unplaced = parallel.graph.nodes.map Node.unplaced ∧
        graph.edges.map Edge.unnamed ≠ parallel.graph.edges.map Edge.unnamed := by
  have succeeds : (localUpdate standardContext {} parallelText).2 = .ok 1 := by decide +kernel
  have updates : localUpdate standardContext {} parallelText = (parallel, .ok 1) := by
    rw [parallel, ← succeeds]
  have styles : parallel.graph.edges.map (·.style) = [.solid, .double] := by decide +kernel
  obtain ⟨graph, applied, -, nodes_eq, -, unchanged⟩ := applyPayload_echo updates
  refine ⟨by decide +kernel, styles, graph, applied, nodes_eq, ?_⟩
  rw [Ne, unchanged]
  decide +kernel

end Session
end ClusterDiagram
