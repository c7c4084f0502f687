import ClusterDiagram.Proofs.WritingOrder
import ClusterDiagram.Tables.Prompt

/-!
# Rows of a diagram

The rows of a diagram name its clusters by their labels. Where labels tell the clusters apart, the
rows name every cluster, the first parent that they give for a cluster is its own one, and the rows
that name a cluster and have a node are those of its members.
-/

namespace ClusterDiagram

variable {α : Type}

/-- No element is left twice when repetitions are dropped. -/
theorem nodup_eraseDups {β : Type} [BEq β] [LawfulBEq β] (elements : List β) :
    elements.eraseDups.Nodup := by
  induction length_eq : elements.length using Nat.strong_induction_on generalizing elements with
  | _ length induction =>
      cases elements with
      | nil => simp
      | cons element elements =>
          have shorter := List.length_filter_le (fun other => !other == element) elements
          rw [List.length_cons] at length_eq
          rw [List.eraseDups_cons, List.nodup_cons, List.mem_eraseDups, List.mem_filter]
          exact ⟨by simp, induction _ (by omega) _ rfl⟩

/-- A list that is an image up to order is the image of a reordered list. -/
theorem exists_perm_map_eq {β γ : Type} {f : β → γ} {elements : List β} {images : List γ}
    (same : images.Perm (elements.map f)) :
    ∃ order : List β, order.map f = images ∧ order.Perm elements := by
  obtain ⟨order, images_eq, order_perm⟩ :=
    (congrFun₂ (List.eq_map_comp_perm f) images elements).mpr same
  exact ⟨order, images_eq.symm, order_perm⟩

namespace NodeRow

theorem nodup_clusters (rows : List NodeRow) : (clusters rows).Nodup :=
  nodup_eraseDups _

/-- The clusters of rows are the labels in the column of clusters. -/
theorem mem_clusters {rows : List NodeRow} {label : String} :
    label ∈ clusters rows ↔ label ≠ "" ∧ ∃ row ∈ rows, row.cluster = label := by
  simp [clusters, and_comm]

end NodeRow

namespace Graph

/-- The row of a node. -/
def memberRow (graph : Graph α) (node : Node α) : NodeRow where
  node := node.label
  name := node.name.getD ""
  cluster := graph.clusterLabel node.cluster
  parentCluster := graph.clusterLabel
    ((node.cluster.bind fun id => Cluster.lastWith? id graph.clusters).bind (·.parent))

/-- The row of a cluster that no node refers to. -/
def vacantRow (graph : Graph α) (cluster : Cluster α) : NodeRow :=
  ⟨"", "", cluster.label, graph.clusterLabel cluster.parent⟩

/-- The clusters that no node refers to. -/
def vacant (graph : Graph α) : List (Cluster α) :=
  graph.clusters.filter fun cluster => !graph.nodes.any fun node => node.cluster == some cluster.id

theorem nodeRows_eq (graph : Graph α) :
    graph.nodeRows = graph.nodes.map graph.memberRow ++ graph.vacant.map graph.vacantRow :=
  rfl

theorem clusterLabel_of_mem {graph : Graph α} (clusterIds : (graph.clusters.map (·.id)).Nodup)
    {cluster : Cluster α} (cluster_mem : cluster ∈ graph.clusters) :
    graph.clusterLabel (some cluster.id) = cluster.label := by
  rw [clusterLabel, Option.bind_some, Cluster.lastWith?_eq_some clusterIds cluster_mem]

/-! ## The texts in the cells -/

section Cells

variable {graph : Graph α} {p : String → Prop} (empty : p "")
  (clusters : ∀ cluster ∈ graph.clusters, p cluster.label)
  (labels : ∀ node ∈ graph.nodes, p node.label)
  (names : ∀ node ∈ graph.nodes, ∀ name, node.name = some name → p name)

include empty clusters in
theorem holds_clusterLabel (reference : Option String) : p (graph.clusterLabel reference) := by
  rw [clusterLabel]
  split
  · rename_i cluster found
    obtain ⟨id, -, found⟩ := Option.bind_eq_some_iff.mp found
    exact clusters cluster (Cluster.of_lastWith? found).1
  · exact empty

include empty clusters labels names in
/-- What holds of the empty text and of all labels and aliases holds of every cell of a row of the
nodes. -/
theorem holds_cells_nodeRows {row : NodeRow} (row_mem : row ∈ graph.nodeRows) :
    ∀ text ∈ row.cells, p text := by
  have label_holds := @holds_clusterLabel _ graph p empty clusters
  rw [nodeRows_eq, List.mem_append, List.mem_map, List.mem_map] at row_mem
  rcases row_mem with ⟨node, node_mem, rfl⟩ | ⟨cluster, cluster_mem, rfl⟩
  · have name_holds : p (node.name.getD "") := by
      cases name_eq : node.name with
      | none => exact empty
      | some name => exact names node node_mem name name_eq
    simpa [memberRow, NodeRow.cells] using
      ⟨labels node node_mem, name_holds, label_holds _, label_holds _⟩
  · simpa [vacantRow, NodeRow.cells] using
      ⟨empty, clusters cluster (List.mem_of_mem_filter cluster_mem), label_holds _⟩

include empty labels names in
/-- What holds of the empty text, of the names of styles and of all labels and aliases holds of every
cell of a row of the edges. -/
theorem holds_cells_edgeRows (styles : ∀ style : EdgeStyle, p style.name)
    (captions : ∀ edge ∈ graph.edges, ∀ label, edge.label = some label → p label)
    {row : EdgeRow} (row_mem : row ∈ graph.edgeRows) : ∀ text ∈ row.cells, p text := by
  have reference_holds {id : String} {node : Node α}
      (found : Node.lastWith? id graph.nodes = some node) : p node.reference := by
    obtain ⟨node_mem, -⟩ := Node.of_lastWith? found
    rw [Node.reference]
    cases name_eq : Text.nonempty node.name with
    | none => exact labels node node_mem
    | some name => exact names node node_mem name (Option.eq_some_of_filter_eq_some name_eq)
  obtain ⟨edge, edge_mem, found⟩ := List.mem_filterMap.mp row_mem
  split at found
  · rename_i source target source_eq target_eq
    cases found
    have caption_holds : p (edge.label.getD "") := by
      cases label_eq : edge.label with
      | none => exact empty
      | some label => exact captions edge edge_mem label label_eq
    simpa [EdgeRow.cells] using ⟨reference_holds source_eq, reference_holds target_eq,
      styles edge.style, caption_holds⟩
  · cases found

end Cells

/-- A valid diagram whose clusters are told apart by their labels. -/
structure Labelled (graph : Graph α) : Prop where
  /-- The diagram is valid. -/
  valid : graph.Valid
  /-- No two clusters share a label. -/
  distinct : (graph.clusters.map (·.label)).Nodup
  /-- Every cluster has a label. -/
  named : ∀ cluster ∈ graph.clusters, cluster.label ≠ ""

namespace Labelled

variable {graph : Graph α} (labelled : graph.Labelled)

include labelled

/-! ## Labels for ids -/

theorem eq_of_label_eq {cluster other : Cluster α} (cluster_mem : cluster ∈ graph.clusters)
    (other_mem : other ∈ graph.clusters) (same : cluster.label = other.label) : cluster = other :=
  List.inj_on_of_nodup_map labelled.distinct cluster_mem other_mem same

/-- A reference to a cluster has the label of that cluster and of no other. -/
theorem clusterLabel_eq_iff {reference : Option String}
    (listed : ∀ id, reference = some id → id ∈ graph.clusters.map (·.id)) {cluster : Cluster α}
    (cluster_mem : cluster ∈ graph.clusters) :
    graph.clusterLabel reference = cluster.label ↔ reference = some cluster.id := by
  constructor
  · intro same
    cases reference with
    | none => exact absurd same.symm (labelled.named cluster cluster_mem)
    | some id =>
        obtain ⟨other, other_mem, rfl⟩ := List.mem_map.mp (listed id rfl)
        rw [clusterLabel_of_mem labelled.valid.clusterIds other_mem] at same
        rw [labelled.eq_of_label_eq other_mem cluster_mem same]
  · rintro rfl
    exact clusterLabel_of_mem labelled.valid.clusterIds cluster_mem

theorem clusterLabel_eq_empty_iff {reference : Option String}
    (listed : ∀ id, reference = some id → id ∈ graph.clusters.map (·.id)) :
    graph.clusterLabel reference = "" ↔ reference = none := by
  constructor
  · intro empty
    cases reference with
    | none => rfl
    | some id =>
        obtain ⟨cluster, cluster_mem, rfl⟩ := List.mem_map.mp (listed id rfl)
        rw [clusterLabel_of_mem labelled.valid.clusterIds cluster_mem] at empty
        exact absurd empty (labelled.named cluster cluster_mem)
  · rintro rfl
    rfl

/-! ## What the rows say of the clusters -/

/-- A row names no cluster, or a cluster and its parent. -/
theorem row_names {row : NodeRow} (row_mem : row ∈ graph.nodeRows) :
    row.cluster = "" ∨ ∃ cluster ∈ graph.clusters, row.cluster = cluster.label ∧
      row.parentCluster = graph.clusterLabel cluster.parent := by
  rw [nodeRows_eq, List.mem_append, List.mem_map, List.mem_map] at row_mem
  rcases row_mem with ⟨node, node_mem, rfl⟩ | ⟨cluster, cluster_mem, rfl⟩
  · cases cluster_eq : node.cluster with
    | none =>
        left
        rw [memberRow, cluster_eq]
        rfl
    | some id =>
        obtain ⟨cluster, cluster_mem, rfl⟩ :=
          List.mem_map.mp (labelled.valid.memberships node node_mem id cluster_eq)
        right
        refine ⟨cluster, cluster_mem, ?_, ?_⟩
        · rw [memberRow, cluster_eq, clusterLabel_of_mem labelled.valid.clusterIds cluster_mem]
        · rw [memberRow, cluster_eq, Option.bind_some,
            Cluster.lastWith?_eq_some labelled.valid.clusterIds cluster_mem, Option.bind_some]
  · exact Or.inr ⟨cluster, List.mem_of_mem_filter cluster_mem, rfl, rfl⟩

/-- The parent in a row of a cluster is that of the cluster. -/
theorem parent_of_row {row : NodeRow} (row_mem : row ∈ graph.nodeRows) {cluster : Cluster α}
    (cluster_mem : cluster ∈ graph.clusters) (names : row.cluster = cluster.label) :
    row.parentCluster = graph.clusterLabel cluster.parent := by
  rcases labelled.row_names row_mem with outside | ⟨other, other_mem, label_eq, parent_eq⟩
  · exact absurd (names.symm.trans outside) (labelled.named cluster cluster_mem)
  · rw [parent_eq, labelled.eq_of_label_eq other_mem cluster_mem (label_eq.symm.trans names)]

/-- Every cluster is named by a row: one of a member, or its own one. -/
theorem exists_row {cluster : Cluster α} (cluster_mem : cluster ∈ graph.clusters) :
    ∃ row ∈ graph.nodeRows, row.cluster = cluster.label := by
  rw [nodeRows_eq]
  by_cases inhabited : ∃ node ∈ graph.nodes, node.cluster = some cluster.id
  · obtain ⟨node, node_mem, cluster_eq⟩ := inhabited
    refine ⟨_, List.mem_append_left _ (List.mem_map_of_mem node_mem), ?_⟩
    rw [memberRow, cluster_eq, clusterLabel_of_mem labelled.valid.clusterIds cluster_mem]
  · have is_vacant : cluster ∈ graph.vacant := by
      rw [vacant, List.mem_filter]
      exact ⟨cluster_mem, by simpa using inhabited⟩
    exact ⟨_, List.mem_append_right _ (List.mem_map_of_mem is_vacant), rfl⟩

/-- The clusters that the rows name are the clusters of the diagram. -/
theorem perm_clusters : (NodeRow.clusters graph.nodeRows).Perm (graph.clusters.map (·.label)) := by
  rw [List.perm_ext_iff_of_nodup (NodeRow.nodup_clusters _) labelled.distinct]
  intro label
  rw [NodeRow.mem_clusters, List.mem_map]
  constructor
  · rintro ⟨filled, row, row_mem, rfl⟩
    obtain ⟨cluster, cluster_mem, label_eq, -⟩ := (labelled.row_names row_mem).resolve_left filled
    exact ⟨cluster, cluster_mem, label_eq.symm⟩
  · rintro ⟨cluster, cluster_mem, rfl⟩
    exact ⟨labelled.named cluster cluster_mem, labelled.exists_row cluster_mem⟩

/-- The rows give a cluster its own parent. -/
theorem givenParent?_eq {cluster : Cluster α} (cluster_mem : cluster ∈ graph.clusters) :
    NodeRow.givenParent? graph.nodeRows cluster.label =
      cluster.parent.map fun parent => graph.clusterLabel (some parent) := by
  have parent_of {row : NodeRow} (row_mem : row ∈ graph.nodeRows)
      (names : row.cluster = cluster.label) :=
    labelled.parent_of_row row_mem cluster_mem names
  rw [NodeRow.givenParent?]
  cases parent_eq : cluster.parent with
  | none =>
      rw [Option.map_none, Option.map_eq_none_iff, List.find?_eq_none]
      intro row row_mem
      by_cases names : row.cluster = cluster.label
      · have blank : row.parentCluster = "" := by rw [parent_of row_mem names, parent_eq]; rfl
        simp [blank]
      · simp [names]
  | some parent =>
      obtain ⟨parent_mem, apart⟩ :=
        labelled.valid.parents cluster cluster_mem parent parent_eq
      obtain ⟨above, above_mem, rfl⟩ := List.mem_map.mp parent_mem
      have label_eq := clusterLabel_of_mem labelled.valid.clusterIds above_mem
      have other : above.label ≠ cluster.label := fun same =>
        apart (congrArg Cluster.id (labelled.eq_of_label_eq above_mem cluster_mem same))
      rw [Option.map_some, label_eq]
      cases found : graph.nodeRows.find? fun row => row.cluster == cluster.label &&
          !row.parentCluster.isEmpty && row.parentCluster != cluster.label with
      | none =>
          obtain ⟨row, row_mem, names⟩ := labelled.exists_row cluster_mem
          have passed := List.find?_eq_none.mp found row row_mem
          rw [parent_of row_mem names, parent_eq, label_eq, names] at passed
          simp [labelled.named above above_mem, other] at passed
      | some row =>
          have row_mem := List.mem_of_find?_eq_some found
          have names : row.cluster = cluster.label := by
            have holds := List.find?_some found
            simp only [Bool.and_eq_true, beq_iff_eq] at holds
            exact holds.1.1
          rw [Option.map_some, parent_of row_mem names, parent_eq, label_eq]

/-- The parent that the rows give a cluster is another one exactly when that is its parent. -/
theorem givenParent?_eq_some_iff {cluster above : Cluster α}
    (cluster_mem : cluster ∈ graph.clusters) (above_mem : above ∈ graph.clusters) :
    NodeRow.givenParent? graph.nodeRows cluster.label = some above.label ↔
      cluster.parent = some above.id := by
  rw [labelled.givenParent?_eq cluster_mem]
  cases parent_eq : cluster.parent with
  | none => simp
  | some parent =>
      obtain ⟨parent_mem, -⟩ := labelled.valid.parents cluster cluster_mem parent parent_eq
      have listed : ∀ id, some parent = some id → id ∈ graph.clusters.map (·.id) := by
        rintro id ⟨⟩
        exact parent_mem
      rw [Option.map_some, Option.some_inj, labelled.clusterLabel_eq_iff listed above_mem]

/-! ## What the rows say of the nodes -/

omit labelled in
/-- Where a label stands for one place, the rows with that label and a node are those of the nodes
in that place. -/
theorem lines_eq (filled : ∀ node ∈ graph.nodes, node.label ≠ "") {label : String}
    {home : Option String}
    (agree : ∀ node ∈ graph.nodes, graph.clusterLabel node.cluster = label ↔ node.cluster = home)
    (depth : Nat) :
    NodeRow.lines graph.nodeRows label depth =
      (graph.nodes.filter fun node => node.cluster == home).map fun node =>
        Prompt.nodeText node.label node.name depth := by
  have no_vacant : (graph.vacant.map graph.vacantRow).filter
      (fun row => row.cluster == label && !row.node.isEmpty) = [] := by
    rw [List.filter_eq_nil_iff]
    intro row row_mem
    obtain ⟨cluster, -, rfl⟩ := List.mem_map.mp row_mem
    simp [vacantRow]
  have members : graph.nodes.filter
      ((fun row : NodeRow => row.cluster == label && !row.node.isEmpty) ∘ graph.memberRow) =
      graph.nodes.filter fun node => node.cluster == home := by
    apply List.filter_congr
    intro node node_mem
    rw [Bool.eq_iff_iff]
    simp [memberRow, filled node node_mem, agree node node_mem]
  rw [NodeRow.lines, nodeRows_eq, List.filter_append, no_vacant, List.append_nil, List.filter_map,
    members, List.map_map]
  apply List.map_congr_left
  intro node _
  cases name_eq : node.name <;> simp [memberRow, Prompt.nodeText, name_eq]

/-- The rows that name a cluster and have a node are those of its members. -/
theorem lines_members (filled : ∀ node ∈ graph.nodes, node.label ≠ "") {cluster : Cluster α}
    (cluster_mem : cluster ∈ graph.clusters) (depth : Nat) :
    NodeRow.lines graph.nodeRows cluster.label depth =
      (graph.members cluster.id).map fun node => Prompt.nodeText node.label node.name depth :=
  lines_eq filled (fun node node_mem =>
    labelled.clusterLabel_eq_iff (labelled.valid.memberships node node_mem) cluster_mem) depth

omit labelled in
theorem floating_eq (valid : graph.Valid) :
    Prompt.floating graph = graph.nodes.filter fun node => node.cluster == none := by
  apply List.filter_congr
  intro node node_mem
  rw [Bool.eq_iff_iff, beq_iff_eq]
  simpa [node_mem, Prompt.floating] using @Prompt.mem_floating _ _ valid node

/-- The rows that have a node and name no cluster are those of the floating nodes. -/
theorem lines_floating (filled : ∀ node ∈ graph.nodes, node.label ≠ "") (depth : Nat) :
    NodeRow.lines graph.nodeRows "" depth =
      (Prompt.floating graph).map fun node => Prompt.nodeText node.label node.name depth := by
  rw [floating_eq labelled.valid]
  exact lines_eq filled (fun node node_mem =>
    labelled.clusterLabel_eq_empty_iff (labelled.valid.memberships node node_mem)) depth

end Labelled

end Graph
end ClusterDiagram
