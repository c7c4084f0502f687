import ClusterDiagram.Proofs.NoViolations
import ClusterDiagram.Proofs.TableCells
import ClusterDiagram.Proofs.TableRows
import ClusterDiagram.Proofs.Writable

/-!
# Prompts of tabulated diagrams

The rows of a diagram mention its clusters in an order of their own. Apart from that order of the
clusters the prompt of the rows is the prompt of the diagram.
-/

namespace ClusterDiagram

variable {α : Type}

namespace Graph.Labelled

variable {graph : Graph α} (labelled : graph.Labelled) {order : List (Cluster α)}
  (order_perm : order.Perm graph.clusters)
  (mentioned : order.map (·.label) = NodeRow.clusters graph.nodeRows)

include labelled order_perm

/-! ## The forest of the rows -/

omit mentioned in
theorem valid_reordered : { graph with clusters := order }.Valid :=
  labelled.valid.of_perm order_perm (List.Perm.refl _) rfl

include mentioned

/-- The children that the rows give a cluster are its children. -/
theorem childrenOf_nodeRows {above : Cluster α} (above_mem : above ∈ graph.clusters) :
    NodeRow.childrenOf graph.nodeRows above.label =
      (Prompt.childrenOf order above.id).map (·.label) := by
  have valid := labelled.valid_reordered order_perm
  rw [NodeRow.childrenOf, ← mentioned, List.filter_map, Prompt.childrenOf]
  congr 1
  apply List.filter_congr
  intro cluster cluster_mem
  have same_parent := labelled.givenParent?_eq_some_iff (order_perm.mem_iff.mp cluster_mem)
    above_mem
  have linked := Prompt.hasParent_iff valid cluster_mem
  rw [Bool.eq_iff_iff, Function.comp_apply, beq_iff_eq, same_parent, Bool.and_eq_true, linked,
    beq_iff_eq]
  exact ⟨fun parent_eq => ⟨⟨above.id, parent_eq⟩, parent_eq⟩, And.right⟩

/-- The clusters that the rows hang below no other are the roots. -/
theorem roots_nodeRows :
    NodeRow.roots graph.nodeRows = (Prompt.rootsOf order).map (·.label) := by
  have valid := labelled.valid_reordered order_perm
  rw [NodeRow.roots, ← mentioned, List.filter_map, Prompt.rootsOf]
  congr 1
  apply List.filter_congr
  intro cluster cluster_mem
  have linked := Prompt.hasParent_iff valid cluster_mem
  rw [Function.comp_apply, labelled.givenParent?_eq (order_perm.mem_iff.mp cluster_mem),
    Bool.not_eq_eq_eq_not, Bool.not_not, Bool.eq_iff_iff, linked]
  cases parent_eq : cluster.parent with
  | none => simp
  | some parent =>
      obtain ⟨parent_mem, -⟩ := valid.parents cluster cluster_mem parent parent_eq
      obtain ⟨above, above_mem, rfl⟩ := List.mem_map.mp parent_mem
      have label_eq := clusterLabel_of_mem labelled.valid.clusterIds
        (order_perm.mem_iff.mp above_mem)
      simpa [label_eq] using ⟨above, above_mem, rfl⟩

/-- The rows list the forest in the order in which the writer lists it. -/
theorem forestOrder_nodeRows :
    Prompt.forestOrder id (NodeRow.childrenOf graph.nodeRows) (NodeRow.clusters graph.nodeRows)
        (NodeRow.roots graph.nodeRows) =
      (Prompt.clusterOrder { graph with clusters := order }).map fun entry =>
        (entry.1.label, entry.2) := by
  obtain ⟨depthFirst, whole⟩ :=
    Prompt.depthFirst_clusterOrder (labelled.valid_reordered order_perm)
  have labels : Prompt.DepthFirst id (NodeRow.childrenOf graph.nodeRows) 0
      ((Prompt.rootsOf order).map (·.label))
      ((Prompt.clusterOrder { graph with clusters := order }).map fun entry =>
        (entry.1.label, entry.2)) := by
    refine depthFirst.map (fun cluster : Cluster α => cluster.label) fun entry entry_mem => ?_
    have listed := whole.mem_iff.mp (List.mem_map_of_mem entry_mem)
    exact labelled.childrenOf_nodeRows order_perm mentioned (order_perm.mem_iff.mp listed)
  rw [labelled.roots_nodeRows order_perm mentioned]
  apply Prompt.forestOrder_eq labels
  · rw [← mentioned, List.map_map]
    have labels_perm := whole.map fun cluster : Cluster α => cluster.label
    rwa [Prompt.inWritingOrder, List.map_map] at labels_perm
  · rw [List.map_id]
    exact NodeRow.nodup_clusters _

/-! ## The lines of the rows -/

/-- The rows of nodes and clusters are written as the nodes and clusters. -/
theorem promptLines_nodeRows (filled : ∀ node ∈ graph.nodes, node.label ≠ "") :
    NodeRow.promptLines graph.nodeRows =
      (Prompt.floating { graph with clusters := order }).map
          (fun node => Prompt.nodeText node.label node.name 0) ++
        (Prompt.clusterOrder { graph with clusters := order }).flatMap fun entry =>
          Prompt.clusterText entry.1.label entry.2 ::
            (graph.members entry.1.id).map fun node =>
              Prompt.nodeText node.label node.name (entry.2 + 1) := by
  have valid := labelled.valid_reordered order_perm
  have whole := (Prompt.depthFirst_clusterOrder valid).2
  rw [NodeRow.promptLines, labelled.forestOrder_nodeRows order_perm mentioned,
    labelled.lines_floating filled, floating_eq labelled.valid, floating_eq valid,
    List.flatMap_map]
  congr 1
  apply List.flatMap_congr
  intro entry entry_mem
  have listed := whole.mem_iff.mp (List.mem_map_of_mem entry_mem)
  dsimp only
  rw [labelled.lines_members filled (order_perm.mem_iff.mp listed)]

end Graph.Labelled

/-- The row of an edge is written as the edge. -/
theorem Graph.promptLines_edgeRows {graph : Graph α}
    (named : ∀ node ∈ graph.nodes, node.reference ≠ "") :
    graph.edgeRows.filterMap EdgeRow.promptLine? =
      graph.edges.filterMap (Prompt.edgeLine? graph.nodes) := by
  have listed {id : String} {node : Node α} (found : Node.lastWith? id graph.nodes = some node) :
      node ∈ graph.nodes :=
    (Node.of_lastWith? found).1
  rw [edgeRows, List.filterMap_filterMap]
  apply List.filterMap_congr
  intro edge _
  cases source_eq : Node.lastWith? edge.source graph.nodes with
  | none => simp [Prompt.edgeLine?, source_eq]
  | some source =>
      cases target_eq : Node.lastWith? edge.target graph.nodes with
      | none => simp [Prompt.edgeLine?, source_eq, target_eq]
      | some target =>
          have source_named := named source (listed source_eq)
          have target_named := named target (listed target_eq)
          have style_named : edge.style.name ≠ "" := by cases edge.style <;> decide
          have row_line (label : String) :
              EdgeRow.promptLine? ⟨source.reference, target.reference, edge.style.name, label⟩ =
                some (source.reference ++ " -> " ++ target.reference ++ " [arrow=" ++
                  edge.style.name ++
                  (if label.isEmpty then "" else ", label=" ++ Attributes.quote label) ++ "]") := by
            have opening : " [arrow=" = " [" ++ "arrow=" := rfl
            have separator : ", label=" = ", " ++ "label=" := rfl
            rw [EdgeRow.promptLine?, EdgeRow.attributes]
            simp only [String.isEmpty_eq_false_iff.mpr source_named,
              String.isEmpty_eq_false_iff.mpr target_named,
              String.isEmpty_eq_false_iff.mpr style_named]
            cases label.isEmpty with
            | false =>
                simp only [Bool.or_self, Bool.false_eq_true, if_false, List.singleton_append,
                  List.isEmpty_cons, String.intercalate_cons_cons, String.intercalate_singleton,
                  String.append_assoc]
                rw [opening, separator, String.append_assoc, String.append_assoc]
            | true =>
                simp only [Bool.or_self, Bool.false_eq_true, if_false, if_true, List.append_nil,
                  List.isEmpty_cons, String.intercalate_singleton, String.append_empty,
                  String.append_assoc]
                rw [opening, String.append_assoc]
          rw [Prompt.edgeLine?, source_eq, target_eq]
          simp only [Option.bind_some, row_line]
          cases edge.label <;> rfl

namespace Graph.Writable

variable {graph : Graph α} (writable : graph.Writable)

include writable

/-- A writable diagram stays writable with its clusters in another order. -/
theorem reordered {order : List (Cluster α)} (order_perm : order.Perm graph.clusters) :
    { graph with clusters := order }.Writable :=
  { writable with
    violations := violations_eq_nil
      (writable.valid.of_perm order_perm (List.Perm.refl _) rfl)
    clusterLabels := fun cluster cluster_mem =>
      writable.clusterLabels cluster (order_perm.mem_iff.mp cluster_mem) }

/-- The prompt of the rows is the prompt of the diagram with its clusters in some order. -/
theorem exists_promptOfRows_eq (distinct : (graph.clusters.map (·.label)).Nodup) :
    ∃ order : List (Cluster α), order.Perm graph.clusters ∧
      Table.promptOfRows graph.nodeRows graph.edgeRows =
        Prompt.write { graph with clusters := order } := by
  have labelled : graph.Labelled :=
    ⟨writable.valid, distinct, fun cluster cluster_mem =>
      (writable.clusterLabels cluster cluster_mem).nonempty⟩
  obtain ⟨order, mentioned, order_perm⟩ := exists_perm_map_eq labelled.perm_clusters
  refine ⟨order, order_perm, ?_⟩
  have spelled := Prompt.spelled_of_writable (writable.reordered order_perm)
  have each := (Prompt.lines_of_forall₂ (Prompt.says_lines spelled)).1
  have trimmed := Text.trim_intercalate (Prompt.startsInk_head spelled)
    fun line line_mem => (each line (List.mem_of_getLast? line_mem)).2
  rw [Prompt.write, trimmed, Table.promptOfRows, Prompt.lines_eq,
    labelled.promptLines_nodeRows order_perm mentioned
      fun node node_mem => (writable.nodeLabels node node_mem).1.nonempty,
    Graph.promptLines_edgeRows fun node node_mem => (writable.tidy_reference node_mem).1.nonempty]
  rfl

end Graph.Writable

end ClusterDiagram
