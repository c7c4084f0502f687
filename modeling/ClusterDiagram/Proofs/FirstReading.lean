import ClusterDiagram.Proofs.FiniteLayout
import ClusterDiagram.Proofs.Reading
import ClusterDiagram.Proofs.TextLines

/-!
# Reading against nothing

A text that is read against nothing gives every node a place away from the origin, which is what
merging takes for no place at all. Whatever it is read against, a text gives no more clusters and
nodes than three for every character.
-/

namespace ClusterDiagram

namespace Placement

/-- The slot that is found lies in one of the rows that are looked through. -/
theorem row_lt_of_scanGrid {accept : Nat → Nat → Bool} {columns count first row column : Nat}
    (found : scanGrid accept columns count first = some (row, column)) : row < first + count := by
  induction count generalizing first with
  | zero => cases found
  | succ count induction =>
      rw [scanGrid] at found
      split at found
      · cases found
        omega
      · have := induction found
        omega

/-- Without clusters only two rows of slots are looked through. -/
theorem rows_of_no_clusters (columns : Nat) : Nat.max 2 ((0 + columns) / columns) = 2 := by
  rw [Nat.zero_add]
  have one_row : columns / columns ≤ 1 := Nat.div_le_of_le_mul (Nat.mul_one columns).ge
  exact Nat.max_eq_left (one_row.trans (Nat.le_succ 1))

/-- Without clusters every place that is found lies below the upper edge of the canvas. -/
theorem isZero_y_of_nodeSlot {nodes : List (Node Float)} {canvasWidth : Float} {point : Point Float}
    (done : nodeSlot nodes [] canvasWidth = .ok point) : Scalar.isZero point.y = false := by
  obtain ⟨whole, -, done⟩ := ok_of_bind done
  dsimp only at done
  split at done
  · rename_i row column found
    cases done
    rw [List.length_nil, rows_of_no_clusters] at found
    have row_lt : row < 2 := by simpa using row_lt_of_scanGrid found
    have rows : ∀ row : Nat, row < 2 → Scalar.isZero (((60 : Nat) : Float) +
        (row : Float) * (cellSize (emptyWidth : Float) (emptyHeight : Float)).2) = false := by
      decide +kernel
    exact rows row row_lt
  · cases done
    exact Double.isZero_natCast (by omega)

end Placement

namespace Prompt
namespace Draft

/-! ## Places -/

/-- A draft all of whose nodes have positions. -/
def Placed (draft : Draft Float) : Prop :=
  ∀ node ∈ draft.graph.nodes, node.isPlaced = true

section Places

variable {context : Context Float} (nodes_unknown : context.nodes = [])
  (clusters_unknown : context.clusters = []) {draft after : Draft Float}

include clusters_unknown

theorem Placed.addNode {label : String} {name cluster : Option String} {node : Node Float}
    (placed : draft.Placed)
    (done : Draft.addNode context draft label name cluster none = .ok (node, after)) :
    after.Placed := by
  simp only [Draft.addNode, giveTokenId, giveId, clusters_unknown] at done
  split at done
  · cases done
  · rename_i point found
    cases done
    intro node node_mem
    rcases List.mem_append.mp node_mem with old | new
    · exact placed node old
    · obtain rfl := List.mem_singleton.mp new
      rw [Node.isPlaced, Placement.isZero_y_of_nodeSlot found]
      exact Bool.or_true _

include nodes_unknown

theorem Placed.step (placed : draft.Placed) (step : Step context draft after) : after.Placed := by
  cases step with
  | cluster => exact placed
  | node _ origin added =>
      rcases origin with rfl | ⟨known, known_mem, -⟩
      · exact placed.addNode clusters_unknown added
      · rw [nodes_unknown] at known_mem
        exact absurd known_mem List.not_mem_nil
  | edge => exact placed

end Places

/-! ## Sizes -/

/-- The number of clusters and nodes. -/
def size {α : Type} (draft : Draft α) : Nat :=
  draft.graph.clusters.length + draft.graph.nodes.length

section Sizes

variable {α : Type} [Scalar α] {context : Context α} {draft after : Draft α}

theorem size_of_addNode {label : String} {name cluster : Option String}
    {position : Option (Point α)} {node : Node α}
    (done : addNode context draft label name cluster position = .ok (node, after)) :
    after.size = draft.size + 1 := by
  obtain ⟨-, -, -, base, drawn, -, rfl⟩ := addNode_ok done
  rw [size, size, List.length_append, List.length_singleton, Nat.add_assoc]

theorem size_of_declare {statement : Statement}
    (done : declare context draft statement = .ok after) : after.size ≤ draft.size + 1 := by
  cases statement with
  | cluster indent label =>
      cases done
      simp only [size, addCluster, giveId, List.length_append, List.length_singleton]
      omega
  | node label name =>
      obtain ⟨⟨node, _⟩, added, rfl⟩ := ok_of_map done
      exact (size_of_addNode added).le
  | edge source target attributes =>
      cases done
      exact Nat.le_succ _

theorem size_of_resolve {reference : String} {node : Node α}
    (done : resolve context draft reference = .ok (node, after)) :
    after.size ≤ draft.size + 1 := by
  rcases resolve_ok done with ⟨rfl, -⟩ | ⟨label, name, position, -, added⟩
  · exact Nat.le_succ _
  · exact (size_of_addNode added).le

theorem size_of_connect {statement : Statement}
    (done : connect context draft statement = .ok after) : after.size ≤ draft.size + 2 := by
  cases statement with
  | cluster indent label =>
      cases done
      exact Nat.le_add_right _ _
  | node label name =>
      cases done
      exact Nat.le_add_right _ _
  | edge source target attributes =>
      obtain ⟨first, middle, last, before, source_done, target_done, edge, base, drawn, -, -, -, -,
        -, rfl⟩ := connect_edge_ok done
      exact (size_of_resolve target_done).trans (Nat.succ_le_succ (size_of_resolve source_done))

end Sizes

end Draft

/-! ## Texts -/

/-- Every node of a text that is read against nothing has a position. -/
theorem isPlaced_of_read {context : Context Float} (nodes_unknown : context.nodes = [])
    (clusters_unknown : context.clusters = []) {text : String} {drawn next : Nat}
    {graph : Graph Float} (done : read context text drawn = .ok (graph, next)) :
    ∀ node ∈ graph.nodes, node.isPlaced = true := by
  obtain ⟨draft, grows, rfl⟩ := grows_of_read done
  have start : Draft.Placed { drawn } := fun _ node_mem => absurd node_mem List.not_mem_nil
  exact grows.keeps (fun step before => before.step nodes_unknown clusters_unknown step) start

/-- A text gives at most three clusters and nodes for every character. -/
theorem length_of_read {α : Type} [Scalar α] {context : Context α} {text : String}
    {drawn next : Nat} {graph : Graph α} (done : read context text drawn = .ok (graph, next)) :
    graph.clusters.length + graph.nodes.length ≤ 3 * text.length := by
  obtain ⟨declared, draft, declare_done, connect_done, rfl⟩ := rounds_of_read done
  have statements : (Statement.ofText text).length ≤ text.length :=
    (List.length_filterMap_le _ _).trans (Text.length_splitLines_le text)
  have declared_size := le_of_foldlM (fun _ _ _ => Draft.size_of_declare) declare_done
  have draft_size := le_of_foldlM (fun _ _ _ => Draft.size_of_connect) connect_done
  have start_size : Draft.size ({ drawn } : Draft α) = 0 := rfl
  rw [start_size] at declared_size
  change draft.size ≤ _
  omega

/-- A text of moderate length gives few enough clusters and nodes to be laid out. -/
theorem measurable_of_read {α : Type} [Scalar α] {context : Context α} {text : String}
    (short : text.length ≤ 2 ^ 398) {drawn next : Nat} {graph : Graph α}
    (done : read context text drawn = .ok (graph, next)) :
    graph.clusters.length ≤ 2 ^ 400 ∧ graph.nodes.length ≤ 2 ^ 400 := by
  have size := length_of_read done
  rw [show 400 = 2 + 398 from rfl, Nat.pow_add]
  constructor <;> omega

end Prompt
end ClusterDiagram
