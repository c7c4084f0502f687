import ClusterDiagram.Proofs.ReadEntries

/-!
# The diagram that rows describe

The rows of a table name clusters and parents in any order, again and again. The first parent that is
given for a cluster counts, and it is a link when it is named as a cluster too. The lines that are
written for the rows are those of this diagram; it is valid unless first parents lead in a circle.
-/

namespace ClusterDiagram

theorem Text.nonempty_some (text : String) :
    nonempty (some text) = if text = "" then none else some text := by
  by_cases empty : text = "" <;> simp [nonempty, empty, Option.filter]

theorem Text.nonempty_eq_some_iff {text value : String} :
    nonempty (some text) = some value ↔ text = value ∧ value ≠ "" := by
  rw [nonempty_some]
  grind

theorem Text.nonempty_inj {first second : String} :
    nonempty (some first) = nonempty (some second) ↔ first = second := by
  rw [nonempty_some, nonempty_some]
  grind

/-- A filter of numbered elements that does not look at the numbers. -/
theorem map_filter_zipIdx {β γ δ : Type} {f : β × ℕ → γ} {p : γ → Bool} {g : γ → δ} {q : β → Bool}
    {h : β → δ} {elements : List β} (same_test : ∀ entry, p (f entry) = q entry.1)
    (same_image : ∀ entry, g (f entry) = h entry.1) :
    ((elements.zipIdx.map f).filter p).map g = (elements.filter q).map h := by
  have test : p ∘ f = q ∘ Prod.fst := funext same_test
  have image : g ∘ f = h ∘ Prod.fst := funext same_image
  rw [List.filter_map, List.map_map, test, image, ← List.map_map, ← List.filter_map,
    List.zipIdx_map_fst]

namespace NodeRow

variable {rows : List NodeRow}

/-! ## First parents -/

/-- The first parent that the rows give a cluster: blanks and the cluster itself do not count. -/
def FirstParent (rows : List NodeRow) (cluster parent : String) : Prop :=
  ∃ (before : List NodeRow) (row : NodeRow) (after : List NodeRow), rows = before ++ row :: after ∧
    row.cluster = cluster ∧ row.parentCluster = parent ∧ parent ≠ "" ∧ parent ≠ cluster ∧
      ∀ earlier ∈ before, earlier.cluster = cluster →
        earlier.parentCluster = "" ∨ earlier.parentCluster = cluster

theorem firstParent_iff {cluster parent : String} :
    FirstParent rows cluster parent ↔ givenParent? rows cluster = some parent := by
  simp only [givenParent?, Option.map_eq_some_iff, List.find?_eq_some_iff_append]
  constructor
  · rintro ⟨before, row, after, rows_eq, rfl, rfl, filled, other, earlier⟩
    refine ⟨row, ⟨?_, before, after, rows_eq, fun past past_mem => ?_⟩, rfl⟩
    · simp [filled, other]
    · by_cases same : past.cluster = row.cluster
      · rcases earlier past past_mem same with blank | own
        · simp [blank]
        · simp [own]
      · simp [same]
  · rintro ⟨row, ⟨passes, before, after, rows_eq, earlier⟩, rfl⟩
    simp only [Bool.and_eq_true, beq_iff_eq, Bool.not_eq_true', String.isEmpty_eq_false_iff,
      bne_iff_ne] at passes
    obtain ⟨⟨rfl, filled⟩, other⟩ := passes
    refine ⟨before, row, after, rows_eq, rfl, rfl, filled, other, fun past past_mem same => ?_⟩
    have failed := earlier past past_mem
    by_contra neither
    rw [not_or] at neither
    simp [same, neither.1, neither.2] at failed

/-- The first parent of a cluster is another one. -/
theorem FirstParent.ne {cluster parent : String} (first : FirstParent rows cluster parent) :
    parent ≠ cluster := by
  obtain ⟨-, -, -, -, -, -, -, other, -⟩ := first
  exact other

/-- First parents that are all nearer to the top lead in no circle. -/
theorem not_transGen_of_rank (rank : String → ℕ)
    (nearer : ∀ row ∈ rows, ∀ parent ∈ givenParent? rows row.cluster,
      rank parent < rank row.cluster) (label : String) :
    ¬ Relation.TransGen (FirstParent rows) label label := by
  have step {cluster parent : String} (first : FirstParent rows cluster parent) :
      rank parent < rank cluster := by
    have given := firstParent_iff.mp first
    obtain ⟨before, row, after, rows_eq, rfl, -⟩ := first
    exact nearer row (by simp [rows_eq]) parent given
  have chain {cluster above : String} (leads : Relation.TransGen (FirstParent rows) cluster above) :
      rank above < rank cluster := by
    induction leads with
    | single first => exact step first
    | tail _ first below => exact (step first).trans below
  exact fun circle => Nat.lt_irrefl _ (chain circle)

/-! ## The diagram -/

/-- A row by the texts of its node. -/
def entry (row : NodeRow) : NodeEntry where
  label := row.node
  name := Text.nonempty (some row.name)
  cluster := Text.nonempty (some row.cluster)

section Diagram

variable {α : Type}

/-- The cluster with a label, its label being its id. -/
def clusterOf (rows : List NodeRow) (label : String) : Cluster α where
  id := label
  label := label
  parent := (givenParent? rows label).filter (clusters rows).contains

/-- A cluster hangs below its first parent, when that is a cluster. -/
theorem parent_clusterOf {label parent : String} :
    (clusterOf rows label : Cluster α).parent = some parent ↔
      FirstParent rows label parent ∧ parent ∈ clusters rows := by
  simp [clusterOf, Option.filter_eq_some_iff, firstParent_iff]

theorem ids_clusterOf :
    ((clusters rows).map (clusterOf (α := α) rows)).map (·.id) = clusters rows := by
  rw [List.map_map]
  exact List.map_id _

theorem parents_clusterOf (label : String) {parent : String}
    (parent_eq : (clusterOf rows label : Cluster α).parent = some parent) :
    parent ∈ ((clusters rows).map (clusterOf (α := α) rows)).map (·.id) ∧ parent ≠ label := by
  obtain ⟨first, listed⟩ := parent_clusterOf.mp parent_eq
  rw [ids_clusterOf]
  exact ⟨listed, first.ne⟩

theorem hasParent_clusterOf (label : String) :
    Prompt.hasParent ((clusters rows).map (clusterOf rows)) (clusterOf rows label : Cluster α) =
      (givenParent? rows label).any (clusters rows).contains := by
  rw [Prompt.hasParent_of_listed fun parent parent_eq => parents_clusterOf label parent_eq,
    clusterOf, Option.isSome_filter]

/-- The clusters of the rows that hang below no other. -/
theorem rootsOf_clusterOf :
    Prompt.rootsOf ((clusters rows).map (clusterOf (α := α) rows)) =
      (roots rows).map (clusterOf rows) := by
  rw [Prompt.rootsOf, List.filter_map, roots]
  congr 1
  apply List.filter_congr
  intro label _
  rw [Function.comp_apply, hasParent_clusterOf]

/-- The clusters of the rows that hang below one of them. -/
theorem childrenOf_clusterOf {above : String} (above_mem : above ∈ clusters rows) :
    Prompt.childrenOf ((clusters rows).map (clusterOf (α := α) rows)) above =
      (childrenOf rows above).map (clusterOf rows) := by
  rw [Prompt.childrenOf, List.filter_map, childrenOf]
  congr 1
  apply List.filter_congr
  intro label _
  have linked := @parent_clusterOf rows α label above
  rw [Function.comp_apply,
    Prompt.hasParent_of_listed fun parent parent_eq => parents_clusterOf label parent_eq,
    Bool.eq_iff_iff, Bool.and_eq_true, beq_iff_eq, beq_iff_eq, linked, firstParent_iff]
  constructor
  · exact fun both => both.2.1
  · intro given
    have parent_eq := linked.mpr ⟨firstParent_iff.mpr given, above_mem⟩
    exact ⟨by rw [parent_eq]; rfl, given, above_mem⟩

variable [Scalar α]

/-- The node of a row with a number. -/
def nodeOf (entry : NodeRow × ℕ) : Node α where
  id := FreshId.suffixed "row" entry.2
  label := entry.1.node
  name := Text.nonempty (some entry.1.name)
  x := (0 : ℕ)
  y := (0 : ℕ)
  cluster := Text.nonempty (some entry.1.cluster)

/-- The rows that have a node. -/
def filled (rows : List NodeRow) : List NodeRow :=
  rows.filter fun row => !row.node.isEmpty

/-- The diagram of some rows. -/
def diagram (rows : List NodeRow) : Graph α where
  clusters := (clusters rows).map (clusterOf rows)
  nodes := (filled rows).zipIdx.map nodeOf

theorem ids_diagram : (diagram rows : Graph α).clusters.map (·.id) = clusters rows :=
  ids_clusterOf

theorem labels_diagram : (diagram rows : Graph α).clusters.map (·.label) = clusters rows := by
  rw [diagram, List.map_map]
  exact List.map_id _

theorem clusterIds_diagram : ((diagram rows : Graph α).clusters.map (·.id)).Nodup := by
  rw [ids_diagram]
  exact nodup_clusters rows

theorem nodeIds_diagram : ((diagram rows : Graph α).nodes.map (·.id)).Nodup := by
  have numbers : (diagram rows : Graph α).nodes.map (·.id) =
      ((filled rows).zipIdx.map (·.2)).map (FreshId.suffixed "row") := by
    rw [diagram, List.map_map, List.map_map]
    rfl
  rw [numbers, List.zipIdx_map_snd]
  exact List.Nodup.map (FreshId.suffixed_injective "row") List.nodup_range'

theorem mem_filled {row : NodeRow} : row ∈ filled rows ↔ row ∈ rows ∧ row.node ≠ "" := by
  simp [filled]

theorem mem_of_numbered {numbered : NodeRow × ℕ} (numbered_mem : numbered ∈ (filled rows).zipIdx) :
    numbered.1 ∈ filled rows := by
  have row_mem := List.mem_map_of_mem (f := Prod.fst) numbered_mem
  rwa [List.zipIdx_map_fst] at row_mem

/-- A row with a node names a cluster of the diagram or none. -/
theorem memberships_diagram : ∀ node ∈ (diagram rows : Graph α).nodes, ∀ id,
    node.cluster = some id → id ∈ (diagram rows : Graph α).clusters.map (·.id) := by
  intro node node_mem id cluster_eq
  obtain ⟨numbered, numbered_mem, rfl⟩ := List.mem_map.mp node_mem
  obtain ⟨label_eq, label_filled⟩ := Text.nonempty_eq_some_iff.mp cluster_eq
  rw [ids_diagram, mem_clusters]
  exact ⟨label_filled, numbered.1, (mem_filled.mp (mem_of_numbered numbered_mem)).1, label_eq⟩

/-! ## Its nodes -/

/-- The nodes of the diagram are those of the rows. -/
theorem entries_diagram :
    (diagram rows : Graph α).nodes.map (diagram rows : Graph α).nodeEntry =
      (filled rows).map entry := by
  have each : ∀ node ∈ (diagram rows : Graph α).nodes,
      (diagram rows : Graph α).nodeEntry node = ⟨node.label, node.name, node.cluster⟩ := by
    intro node node_mem
    cases cluster_eq : node.cluster with
    | none => simp [Graph.nodeEntry, cluster_eq]
    | some id =>
        have id_mem := memberships_diagram node node_mem id cluster_eq
        obtain ⟨cluster, cluster_mem, rfl⟩ := List.mem_map.mp id_mem
        obtain ⟨label, -, rfl⟩ := List.mem_map.mp cluster_mem
        have label_eq := Graph.clusterLabel_of_mem clusterIds_diagram cluster_mem
        rw [Graph.nodeEntry, cluster_eq, Option.map_some, label_eq]
        rfl
  have rows_eq : (filled rows).map entry = ((filled rows).zipIdx.map Prod.fst).map entry := by
    rw [List.zipIdx_map_fst]
  rw [List.map_congr_left each, rows_eq, diagram, List.map_map, List.map_map]
  rfl

/-- The rows that name a cluster and have a node are written as the nodes in it. -/
theorem lines_eq (label : String) (depth : ℕ) :
    lines rows label depth =
      ((diagram rows : Graph α).nodes.filter fun node =>
        node.cluster == Text.nonempty (some label)).map fun node =>
          Prompt.nodeText node.label node.name depth := by
  have written : ∀ row : NodeRow, Prompt.nodeText row.node (Text.nonempty (some row.name)) depth =
      Prompt.nodeText row.node (some row.name) depth := by
    intro row
    rw [Text.nonempty_some]
    split <;> simp [Prompt.nodeText, *]
  rw [diagram, map_filter_zipIdx (q := fun row => row.cluster == label)
    (h := fun row : NodeRow => Prompt.nodeText row.node (some row.name) depth), filled,
    List.filter_filter, lines]
  · intro numbered
    rw [Bool.eq_iff_iff, beq_iff_eq, beq_iff_eq]
    exact Text.nonempty_inj
  · exact fun numbered => written numbered.1

/-- The rows that name no cluster and have a node are written as the floating nodes. -/
theorem lines_floating (depth : ℕ) :
    lines rows "" depth = (Prompt.floating (diagram rows : Graph α)).map fun node =>
      Prompt.nodeText node.label node.name depth := by
  rw [lines_eq (α := α), Prompt.floating]
  congr 1
  apply List.filter_congr
  intro node node_mem
  cases cluster_eq : node.cluster with
  | none => simp [Cluster.refersTo, Text.nonempty_some]
  | some id =>
      obtain ⟨cluster, cluster_mem, rfl⟩ :=
        List.mem_map.mp (memberships_diagram node node_mem id cluster_eq)
      have known := Prompt.refersTo_iff.mpr ⟨cluster, cluster_mem, rfl⟩
      simp [known, Text.nonempty_some]

/-- The rows that name a cluster and have a node are written as its members. -/
theorem lines_members {label : String} (label_mem : label ∈ clusters rows) (depth : ℕ) :
    lines rows label depth = ((diagram rows : Graph α).members label).map fun node =>
      Prompt.nodeText node.label node.name depth := by
  rw [lines_eq (α := α), Text.nonempty_some, if_neg (mem_clusters.mp label_mem).1]
  rfl

/-! ## Its lines -/

/-- The writer of the rows lists the clusters in the order in which that of the diagram does. -/
theorem clusterOrder_diagram :
    Prompt.clusterOrder (diagram rows : Graph α) =
      (Prompt.forestOrder id (childrenOf rows) (clusters rows) (roots rows)).map fun entry =>
        (clusterOf rows entry.1, entry.2) := by
  rw [Prompt.clusterOrder, diagram, rootsOf_clusterOf]
  apply Prompt.forestOrder_map
  · exact fun _ _ => rfl
  · exact fun label label_mem => childrenOf_clusterOf label_mem
  · exact fun _ => List.filter_sublist.subset
  · exact List.filter_sublist.subset

/-- The lines of the rows are those of the diagram. -/
theorem promptLines_eq :
    promptLines rows = (Prompt.floating (diagram rows : Graph α)).map
        (fun node => Prompt.nodeText node.label node.name 0) ++
      (Prompt.clusterOrder (diagram rows : Graph α)).flatMap fun entry =>
        Prompt.clusterText entry.1.label entry.2 ::
          ((diagram rows : Graph α).members entry.1.id).map fun node =>
            Prompt.nodeText node.label node.name (entry.2 + 1) := by
  have listed : ∀ entry ∈ Prompt.forestOrder id (childrenOf rows) (clusters rows) (roots rows),
      entry.1 ∈ clusters rows := fun _ =>
    Prompt.mem_of_mem_forestOrder List.filter_sublist.subset fun _ => List.filter_sublist.subset
  rw [promptLines, lines_floating (α := α), clusterOrder_diagram, List.flatMap_map]
  congr 1
  apply List.flatMap_congr
  intro entry entry_mem
  dsimp only
  rw [lines_members (α := α) (listed entry entry_mem)]
  rfl

/-! ## When it is valid, and when its lines are read -/

/-- The diagram is valid when first parents do not lead in a circle. -/
theorem valid_diagram
    (acyclic : ∀ label, ¬ Relation.TransGen (FirstParent rows) label label) :
    (diagram rows : Graph α).Valid where
  clusterIds := clusterIds_diagram
  nodeIds := nodeIds_diagram
  parents := by
    intro cluster cluster_mem parent parent_eq
    obtain ⟨label, -, rfl⟩ := List.mem_map.mp cluster_mem
    exact parents_clusterOf label parent_eq
  ends := by
    intro cluster _
    apply ClusterTree.ends_of_not_returns fun _ => ClusterTree.mem_ids_of_parentOf
    rintro id - ⟨steps, back⟩
    refine acyclic id (ClusterTree.transGen_of_ascend (fun id next link => ?_) back)
    obtain ⟨cluster, cluster_mem, rfl, parent_eq⟩ := ClusterTree.parentOf_eq_some link
    obtain ⟨label, -, rfl⟩ := List.mem_map.mp cluster_mem
    exact (parent_clusterOf.mp parent_eq).1
  memberships := memberships_diagram
  endpoints := by
    intro edge edge_mem
    cases edge_mem

end Diagram

/-- A row whose cells can stand on the lines of a prompt. -/
structure Legible (row : NodeRow) : Prop where
  /-- No cell has several lines. -/
  unbroken : ∀ text ∈ row.cells, ∀ c ∈ text.toList, Text.isLineBreak c = false
  /-- The label of the node opens no bracket. -/
  node : '[' ∉ row.node.toList
  /-- The alias has no comma. -/
  no_comma : ',' ∉ row.name.toList
  /-- The alias does not begin with a quote. -/
  first : ∀ c ∈ row.name.toList.head?, Text.isQuote c = false
  /-- The alias does not end in a quote. -/
  last : ∀ c ∈ row.name.toList.getLast?, Text.isQuote c = false

instance (row : NodeRow) : Decidable row.Legible :=
  decidable_of_iff
    ((∀ text ∈ row.cells, ∀ c ∈ text.toList, Text.isLineBreak c = false) ∧
      '[' ∉ row.node.toList ∧ ',' ∉ row.name.toList ∧
      (∀ c ∈ row.name.toList.head?, Text.isQuote c = false) ∧
      ∀ c ∈ row.name.toList.getLast?, Text.isQuote c = false)
    ⟨fun ⟨unbroken, node, no_comma, first, last⟩ => ⟨unbroken, node, no_comma, first, last⟩,
      fun legible => ⟨legible.unbroken, legible.node, legible.no_comma, legible.first,
        legible.last⟩⟩

section Legible

variable {α : Type} [Scalar α] (legible : ∀ row ∈ rows, row.Legible)
  (trimmed : ∀ row ∈ rows, ∀ text ∈ row.cells, Text.trim text = text)

include legible trimmed

/-- A cell of trimmed, legible rows that is not blank fits on a line. -/
theorem tidy_cell {row : NodeRow} (row_mem : row ∈ rows) {text : String}
    (text_mem : text ∈ row.cells) (filled : text ≠ "") : Text.Tidy text :=
  ⟨filled, trimmed row row_mem text text_mem, (legible row row_mem).unbroken text text_mem⟩

/-- The prompt of the rows says the clusters and nodes of their diagram. -/
theorem ofText_promptOfRows :
    Statement.ofText (Table.promptOfRows rows []) =
      Prompt.declarations (diagram rows : Graph α) := by
  have prompt_eq : Table.promptOfRows rows [] = "\n".intercalate (promptLines rows) := by
    rw [Table.promptOfRows, List.filterMap_nil, List.append_nil]
  rw [prompt_eq, promptLines_eq (α := α)]
  apply Prompt.ofText_intercalate
  apply Prompt.says_declarations
  · intro cluster cluster_mem
    obtain ⟨label, label_mem, rfl⟩ := List.mem_map.mp cluster_mem
    obtain ⟨label_filled, row, row_mem, rfl⟩ := mem_clusters.mp label_mem
    have label_tidy : Text.Tidy row.cluster :=
      tidy_cell legible trimmed row_mem (by simp [cells]) label_filled
    exact label_tidy
  · intro node node_mem depth
    obtain ⟨⟨row, number⟩, numbered_mem, rfl⟩ := List.mem_map.mp node_mem
    obtain ⟨row_mem, node_filled⟩ := mem_filled.mp (mem_of_numbered numbered_mem)
    have row_legible := legible row row_mem
    have node_tidy : Text.Tidy row.node :=
      tidy_cell legible trimmed row_mem (by simp [cells]) node_filled
    refine Prompt.says_node (Or.inr node_tidy) row_legible.node ?_
      (fun empty => absurd empty node_filled) depth
    intro name name_eq
    obtain ⟨rfl, name_filled⟩ := Text.nonempty_eq_some_iff.mp name_eq
    have name_tidy : Text.Tidy row.name :=
      tidy_cell legible trimmed row_mem (by simp [cells]) name_filled
    exact ⟨name_tidy, row_legible.no_comma, row_legible.first, row_legible.last⟩

end Legible

end NodeRow
end ClusterDiagram
