import ClusterDiagram.Proofs.LinedTexts
import ClusterDiagram.Proofs.RowDiagrams
import ClusterDiagram.Proofs.TableCells

/-!
# Tables become the trees that they describe

The prompt of a table of nodes is read as a diagram with one cluster for each label in the column of
clusters and one node for each row that has one, in the cluster of its row. The clusters hang below
their first parents; where these lead in a circle the clusters and nodes are there all the same.
-/

namespace ClusterDiagram

/-! ## The rows of a table -/

namespace Table

variable {table : Table}

/-- What is read of a row of cells. -/
def nodeRow (table : Table) (row : List (Option String)) : NodeRow where
  node := table.cell "Node" row
  name := table.cell "Name" row
  cluster := table.cell "Cluster" row
  parentCluster := table.cell "Parent cluster" row

/-- What is read of the rows of a table. -/
def nodeRows (table : Table) : List NodeRow :=
  table.rows.map table.nodeRow

/-- A table that has a column of nodes, and each column that is read only once. -/
structure Columned (table : Table) : Prop where
  /-- There is a column of nodes. -/
  nodes : (table.column? "Node").isSome
  /-- No column that is read is there twice. -/
  once : ∀ name ∈ NodeRow.columns, ∀ column, table.column? name = some column →
    table.columns.count column = 1

instance (table : Table) : Decidable table.Columned :=
  decidable_of_iff
    ((table.column? "Node").isSome ∧
      ∀ name ∈ NodeRow.columns, ∀ column ∈ table.column? name, table.columns.count column = 1)
    ⟨fun ⟨nodes, once⟩ => ⟨nodes, once⟩, fun columned => ⟨columned.nodes, columned.once⟩⟩

theorem Columned.ofTable_eq (columned : table.Columned) :
    NodeRow.ofTable table = .ok table.nodeRows := by
  have cells {name : String} (known : name ∈ NodeRow.columns) :=
    cells_eq fun column => columned.once name known column
  have found : (table.column? "Node").isNone = false := by
    rw [Option.isNone_eq_false_iff]
    exact columned.nodes
  rw [NodeRow.ofTable, require, List.filter_cons_of_neg (by simp [found]), cells (by decide),
    cells (by decide), cells (by decide), cells (by decide)]
  simp only [List.filter_nil, bind, Except.bind, pure, Except.pure, List.zip_map', List.map_map]
  rfl

/-- A column that is read is there once. -/
theorem once_of_cells {name : String} {cells : List String} (done : table.cells name = .ok cells) :
    ∀ column, table.column? name = some column → table.columns.count column = 1 := by
  intro column found
  have listed : column ∈ table.columns := List.mem_reverse.mp (List.mem_of_find?_eq_some found)
  have present := List.count_pos_iff.mpr listed
  rw [Table.cells, found] at done
  dsimp only at done
  split at done
  · cases done
  · omega

/-- The rows of a table are read exactly when it has the columns for it. -/
theorem ofTable_eq_ok_iff {rows : List NodeRow} :
    NodeRow.ofTable table = .ok rows ↔ table.Columned ∧ rows = table.nodeRows := by
  constructor
  · intro done
    have columned : table.Columned := by
      obtain ⟨_, required, rest⟩ := ok_of_bind done
      obtain ⟨_, nodes, rest⟩ := ok_of_bind rest
      obtain ⟨_, names, rest⟩ := ok_of_bind rest
      obtain ⟨_, clusters, rest⟩ := ok_of_bind rest
      obtain ⟨_, parents, -⟩ := ok_of_bind rest
      constructor
      · by_contra missing
        rw [Option.not_isSome_iff_eq_none] at missing
        simp [require, missing] at required
      · simp only [NodeRow.columns, List.forall_mem_cons, List.not_mem_nil, false_implies,
          implies_true, and_true]
        exact ⟨once_of_cells nodes, once_of_cells names, once_of_cells clusters,
          once_of_cells parents⟩
    exact ⟨columned, Except.ok.inj (done.symm.trans columned.ofTable_eq)⟩
  · rintro ⟨columned, rfl⟩
    exact columned.ofTable_eq

/-- What is read of a cell is trimmed. -/
theorem trim_nodeRows : ∀ row ∈ table.nodeRows, ∀ text ∈ row.cells, Text.trim text = text := by
  intro row row_mem text text_mem
  obtain ⟨cells, -, rfl⟩ := List.mem_map.mp row_mem
  have trim_cell : ∀ name, Text.trim (table.cell name cells) = table.cell name cells :=
    fun _ => Text.trim_trimChars _
  simp only [NodeRow.cells, nodeRow, List.mem_cons, List.not_mem_nil, or_false] at text_mem
  rcases text_mem with rfl | rfl | rfl | rfl <;> exact trim_cell _

end Table

/-! ## The tree of the rows -/

namespace NodeRow

variable {α : Type}

/-- A diagram that holds what some rows name: the label of every cluster once, and the node of every
row that has one, in the cluster with the label of the row. -/
structure Represents (rows : List NodeRow) (graph : Graph α) : Prop where
  /-- No two clusters share an id. -/
  clusterIds : (graph.clusters.map (·.id)).Nodup
  /-- No two nodes share an id. -/
  nodeIds : (graph.nodes.map (·.id)).Nodup
  /-- No two clusters share a label. -/
  distinct : (graph.clusters.map (·.label)).Nodup
  /-- The labels of clusters are those in the column of clusters. -/
  clusters : ∀ label, label ∈ graph.clusters.map (·.label) ↔
    label ≠ "" ∧ ∃ row ∈ rows, row.cluster = label
  /-- The nodes are those of the rows. -/
  nodes : (graph.nodes.map graph.nodeEntry).Perm ((filled rows).map entry)
  /-- There are no edges. -/
  edges : graph.edges = []

/-- A diagram whose clusters hang below the first parents that some rows give them, those that are no
clusters left aside. -/
def Nested (rows : List NodeRow) (graph : Graph α) : Prop :=
  ∀ cluster ∈ graph.clusters,
    (∃ above ∈ graph.clusters, cluster.parent = some above.id ∧
      FirstParent rows cluster.label above.label) ∨
    (cluster.parent = none ∧
      ∀ above ∈ graph.clusters, ¬ FirstParent rows cluster.label above.label)

/-- Copies of the clusters of the rows are nested as the rows say. -/
theorem nested_of_copies [Scalar α] {rows : List NodeRow} {graph : Graph α} {rename : Renaming}
    (copies : graph.clusters.map Cluster.unplaced =
      (Prompt.inWritingOrder (diagram rows : Graph α)).clusters.map rename.ofCluster) :
    Nested rows graph := by
  have order : (Prompt.inWritingOrder (diagram rows : Graph α)).clusters.Perm
      ((clusters rows).map (clusterOf rows)) := Prompt.clusterOrder_perm clusterIds_diagram
  intro cluster cluster_mem
  obtain ⟨original, original_mem, copy_eq⟩ := exists_mem_of_map_eq copies cluster_mem
  obtain ⟨label, -, rfl⟩ := List.mem_map.mp (order.mem_iff.mp original_mem)
  have label_eq : label = cluster.label := congrArg (·.label) copy_eq
  have parent_eq : (clusterOf (α := α) rows label).parent.map rename.cluster = cluster.parent :=
    congrArg (·.parent) copy_eq
  rw [label_eq] at parent_eq
  cases above_eq : (clusterOf (α := α) rows cluster.label).parent with
  | none =>
      rw [above_eq] at parent_eq
      refine Or.inr ⟨parent_eq.symm, fun above above_mem first => ?_⟩
      obtain ⟨source, source_mem, source_eq⟩ := exists_mem_of_map_eq copies above_mem
      obtain ⟨listed, listed_mem, rfl⟩ := List.mem_map.mp (order.mem_iff.mp source_mem)
      have listed_eq : listed = above.label := congrArg (·.label) source_eq
      rw [parent_clusterOf.mpr ⟨first, listed_eq ▸ listed_mem⟩] at above_eq
      cases above_eq
  | some parent =>
      rw [above_eq] at parent_eq
      obtain ⟨first, listed⟩ := parent_clusterOf.mp above_eq
      obtain ⟨above, above_mem, source_eq⟩ := exists_mem_of_map_eq copies.symm
        (order.mem_iff.mpr (List.mem_map_of_mem (f := clusterOf rows) listed))
      have above_id : above.id = rename.cluster parent := congrArg (·.id) source_eq
      have above_label : above.label = parent := congrArg (·.label) source_eq
      refine Or.inl ⟨above, above_mem, ?_, above_label ▸ first⟩
      rw [← parent_eq, above_id]
      rfl

end NodeRow

namespace Prompt

open NodeRow

variable {α : Type} [Scalar α]

/-- The prompt of a table of nodes is read, on a canvas of finite width and against nothing known, as
a diagram with the clusters and the nodes of its rows. Its clusters hang below their first parents
unless these lead in a circle. -/
theorem read_prompt_tree {table : Table} (columned : table.Columned)
    (legible : ∀ row ∈ table.nodeRows, row.Legible) {canvasWidth : α}
    (finite : Placement.FiniteWidth canvasWidth) (token : ℕ → String) (drawn : ℕ) :
    ∃ prompt graph next, Table.prompt table none = .ok prompt ∧
      read { canvasWidth, token } prompt drawn = .ok (graph, next) ∧
      Represents table.nodeRows graph ∧
      ((∀ label, ¬ Relation.TransGen (FirstParent table.nodeRows) label label) →
        Nested table.nodeRows graph) := by
  have prompt_eq : Table.prompt table none = .ok (Table.promptOfRows table.nodeRows []) := by
    rw [Table.prompt, Table.ofTable_eq_ok_iff.mpr ⟨columned, rfl⟩]
    rfl
  have room : Placement.FiniteWidth ({ canvasWidth, token } : Context α).canvasWidth := finite
  obtain ⟨graph, next, done, ⟨clusterIds, nodeIds, no_edges⟩, labels, nodes, copies⟩ :=
    read_declarations clusterIds_diagram memberships_diagram nodeIds_diagram room
      (ofText_promptOfRows legible Table.trim_nodeRows) drawn
  rw [labels_diagram] at labels
  rw [entries_diagram] at nodes
  refine ⟨_, graph, next, prompt_eq, done, ?_, fun acyclic => ?_⟩
  · exact {
      clusterIds, nodeIds, nodes
      distinct := labels.nodup_iff.mpr (nodup_clusters _)
      clusters := fun label => labels.mem_iff.trans mem_clusters
      edges := no_edges }
  · obtain ⟨rename, copied⟩ := copies (valid_diagram acyclic)
    exact nested_of_copies copied

/-- A table with loosely spelled columns, whose rows contradict each other: the parent of a cluster is
given as itself at first, as two others later, and as one that is no cluster. -/
def contradictory : Table where
  columns := ["node", "NAME", "Cluster", "Parent-cluster"]
  rows := [
    [some " API ", some "api", some "Backend", none],
    [some "DB -> x", none, some "Data", some " Data "],
    [none, some "unused", some "Data", some "Backend"],
    [some "Cache", some "c'1]", some "Data", some "Edge"],
    [some "Loose", none, some " ", some "Data"],
    [some "Proxy", some "px", some "Edge", some "Nowhere"],
    [some "API", none, some "Edge", some "Data"]]

theorem read_prompt_tree_contradictory :
    contradictory.Columned ∧ (∀ row ∈ contradictory.nodeRows, row.Legible) ∧
      ∃ prompt graph next, Table.prompt contradictory none = .ok prompt ∧
        read { canvasWidth := (1200 : Float), token := toString } prompt 0 = .ok (graph, next) ∧
        Represents contradictory.nodeRows graph ∧ Nested contradictory.nodeRows graph := by
  have columned : contradictory.Columned := by decide +kernel
  have legible : ∀ row ∈ contradictory.nodeRows, row.Legible := by decide +kernel
  have finite : Placement.FiniteWidth (1200 : Float) :=
    (Placement.finiteWidth_double_iff 1200).mpr ⟨_, _, _, rfl⟩
  have acyclic : ∀ label, ¬ Relation.TransGen (FirstParent contradictory.nodeRows) label label := by
    apply not_transGen_of_rank fun label =>
      if label = "" then 2 else if label = "Data" ∨ label = "Edge" then 1 else 0
    decide +kernel
  obtain ⟨prompt, graph, next, prompt_eq, done, represents, nested⟩ :=
    read_prompt_tree columned legible finite toString 0
  exact ⟨columned, legible, prompt, graph, next, prompt_eq, done, represents, nested acyclic⟩

end Prompt
end ClusterDiagram
