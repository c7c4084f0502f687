import ClusterDiagram.Proofs.EchoedAnswer
import ClusterDiagram.Proofs.LegiblePrompts
import ClusterDiagram.Proofs.Rereading

/-!
# Renamed nodes

A node that is renamed after the first update of a session is the same node once the text is read
again, provided that the prompt can hold its new alias: reading gives its key back, and by its key
the merge gives its id back.
-/

namespace ClusterDiagram

/-- Moving entities changes no text. -/
theorem Graph.Lined.of_unplaced_eq {α : Type} {graph moved : Graph α} (lined : graph.Lined)
    (same : moved.unplaced = graph.unplaced) : moved.Lined := by
  rw [unplaced, unplaced, Graph.mk.injEq] at same
  obtain ⟨clusters_eq, nodes_eq, edges_eq⟩ := same
  have node_of {node : Node α} (node_mem : node ∈ moved.nodes) :
      ∃ other ∈ graph.nodes, other.label = node.label ∧ other.name = node.name := by
    obtain ⟨other, other_mem, same⟩ := exists_mem_of_map_eq nodes_eq node_mem
    exact ⟨other, other_mem, congrArg (fun node : Node Unit => node.label) same,
      congrArg (fun node : Node Unit => node.name) same⟩
  exact {
    clusterLabels := by
      intro cluster cluster_mem
      obtain ⟨other, other_mem, same⟩ := exists_mem_of_map_eq clusters_eq cluster_mem
      have label_eq : other.label = cluster.label :=
        congrArg (fun cluster : Cluster Unit => cluster.label) same
      exact label_eq ▸ lined.clusterLabels other other_mem
    nodeLabels := by
      intro node node_mem
      obtain ⟨other, other_mem, label_eq, -⟩ := node_of node_mem
      exact label_eq ▸ lined.nodeLabels other other_mem
    names := by
      intro node node_mem
      obtain ⟨other, other_mem, -, name_eq⟩ := node_of node_mem
      exact name_eq ▸ lined.names other other_mem
    edgeLabels := edges_eq ▸ lined.edgeLabels }

namespace Node

variable {α : Type}

/-- What a node is, its place and its cluster left aside: its id, its label and its alias. -/
def identity (node : Node α) : String × String × Option String :=
  (node.id, node.caption)

/-- A node under another alias, if it is the one with an id. -/
def renamed (id name : String) (node : Node α) : Node α :=
  if node.id == id then { node with name := some name } else node

theorem id_renamed (id name : String) (node : Node α) : (node.renamed id name).id = node.id := by
  rw [renamed]
  split <;> rfl

theorem label_renamed (id name : String) (node : Node α) :
    (node.renamed id name).label = node.label := by
  rw [renamed]
  split <;> rfl

theorem renamed_of_ne {id name : String} {node : Node α} (other : node.id ≠ id) :
    node.renamed id name = node := by
  rw [renamed, if_neg (by simpa using other)]

theorem name_renamed_self (name : String) (node : Node α) :
    (node.renamed node.id name).name = some name := by
  rw [renamed, if_pos (by simp)]

end Node

namespace Session

variable {α : Type}

/-- An alias that tells a node of a diagram from all others: it fits on a line, and no other node
has it, in any letter case, as its alias or label. -/
structure IsFreeName (graph : Graph α) (id name : String) : Prop extends Text.Tidy name where
  /-- No other node has it. -/
  unused : ∀ other ∈ graph.nodes, other.id ≠ id → Text.lower other.label ≠ Text.lower name ∧
    ∀ text, other.name = some text → Text.lower text ≠ Text.lower name

instance (graph : Graph α) (id name : String) : Decidable (IsFreeName graph id name) :=
  decidable_of_iff
    (Text.Tidy name ∧ ∀ other ∈ graph.nodes, other.id ≠ id →
      Text.lower other.label ≠ Text.lower name ∧
        ∀ text ∈ other.name, Text.lower text ≠ Text.lower name)
    ⟨fun ⟨tidy, unused⟩ => ⟨tidy, unused⟩, fun free => ⟨free.toTidy, free.unused⟩⟩

section Renamed

variable {graph : Graph α} {id name : String} (lined : graph.Lined)
  (free : IsFreeName graph id name)

include lined free

theorem lined_renamed :
    ({ graph with nodes := graph.nodes.map (Node.renamed id name) } : Graph α).Lined := by
  refine { lined with nodeLabels := ?_, names := ?_ }
  · intro node node_mem
    obtain ⟨original, original_mem, rfl⟩ := List.mem_map.mp node_mem
    rw [Node.label_renamed]
    exact lined.nodeLabels original original_mem
  · intro node node_mem text text_eq
    obtain ⟨original, original_mem, rfl⟩ := List.mem_map.mp node_mem
    by_cases own : original.id = id
    · rw [← own, Node.name_renamed_self] at text_eq
      exact Option.some.inj text_eq ▸ free.toTidy
    · rw [Node.renamed_of_ne own] at text_eq
      exact lined.names original original_mem text text_eq

/-- The key of any other node is not the new alias. -/
theorem key_ne_of_free {other : Node α} (other_mem : other ∈ graph.nodes) (apart : other.id ≠ id) :
    other.key ≠ Text.lower name := by
  obtain ⟨label_apart, name_apart⟩ := free.unused other other_mem apart
  rw [Node.key, identityKey, Text.foldKey]
  cases name_eq : other.name with
  | none =>
      have trimmed : Text.trim other.label = other.label := by
        rcases lined.nodeLabels other other_mem with empty | tidy
        · rw [empty]
          decide
        · exact tidy.trimmed
      simpa [Text.nonempty, trimmed] using label_apart
  | some text =>
      have tidy := lined.names other other_mem text name_eq
      rw [Text.nonempty_of_tidy tidy, Option.getD_some, tidy.trimmed]
      exact name_apart text name_eq

/-- Renaming keeps the keys of the nodes distinct. -/
theorem nodup_keys_renamed (keys : (graph.nodes.map Node.key).Nodup)
    (ids : (graph.nodes.map (·.id)).Nodup) :
    ((graph.nodes.map (Node.renamed id name)).map Node.key).Nodup := by
  have own_key {node : Node α} (own : node.id = id) :
      (node.renamed id name).key = Text.lower name := by
    have renamed_name := Node.name_renamed_self name node
    rw [own] at renamed_name
    rw [Node.key, identityKey, renamed_name, Text.nonempty_of_tidy free.toTidy, Option.getD_some,
      Text.foldKey, free.trimmed]
  rw [List.map_map]
  apply List.Nodup.map_on _ (List.Nodup.of_map _ ids)
  intro node node_mem other other_mem same
  rw [Function.comp_apply, Function.comp_apply] at same
  by_cases own : node.id = id
  · by_cases other_own : other.id = id
    · exact List.inj_on_of_nodup_map ids node_mem other_mem (own.trans other_own.symm)
    · rw [own_key own, Node.renamed_of_ne other_own] at same
      exact absurd same.symm (key_ne_of_free lined free other_mem other_own)
  · by_cases other_own : other.id = id
    · rw [own_key other_own, Node.renamed_of_ne own] at same
      exact absurd same (key_ne_of_free lined free node_mem own)
    · rw [Node.renamed_of_ne own, Node.renamed_of_ne other_own] at same
      exact List.inj_on_of_nodup_map keys node_mem other_mem same

end Renamed

/-! ## The update with the new text -/

theorem map_identity_of_unplaced_eq {nodes others : List (Node α)}
    (same : nodes.map Node.unplaced = others.map Node.unplaced) :
    nodes.map Node.identity = others.map Node.identity := by
  have identities := congrArg (List.map Node.identity) same
  rwa [List.map_map, List.map_map] at identities

section Finite

variable {context : Context Float} {session : Session Float}
  (width_finite : context.settings.canvas.width.isFinite = true)
  (height_finite : context.settings.canvas.height.isFinite = true)

include width_finite height_finite

/-- An update with the prompt of a legible diagram keeps ids, labels and aliases of its nodes, which
are told apart by their keys. -/
theorem localUpdate_write_of_legible (valid : session.graph.Valid) (lined : session.graph.Lined)
    (legible : session.graph.Legible) (keys : (session.graph.nodes.map Node.key).Nodup)
    (synchronous : session.text = Prompt.write session.graph)
    (clusters_le : session.graph.clusters.length ≤ 2 ^ 400)
    (nodes_le : session.graph.nodes.length ≤ 2 ^ 400) :
    ∃ after, localUpdate context session session.text = (after, .ok (session.generation + 1)) ∧
      (after.graph.nodes.map Node.identity).Perm (session.graph.nodes.map Node.identity) := by
  have finite := Placement.finiteWidth_of_isFinite width_finite
  obtain ⟨⟨copy, drawn⟩, done⟩ :
      ∃ out, Prompt.read (⟨session.graph.nodes, session.graph.clusters,
        context.settings.canvas.width, context.token⟩ : Prompt.Context Float) session.text
        session.drawn = .ok out :=
    Prompt.read_total finite session.text session.drawn
  have reading := done
  rw [synchronous] at reading
  obtain ⟨⟨rename, clusters_copied, nodes_copied⟩, -⟩ :=
    Prompt.copied_of_legible valid lined legible (List.Subset.refl _) reading
  have clusters_perm := (Prompt.depthFirst_clusterOrder valid).2
  have nodes_perm := Prompt.perm_nodes_inWritingOrder valid
  have valid_written := Prompt.valid_inWritingOrder valid
  have : Nonempty (Node Float) := ⟨{ id := "", label := "", x := 0, y := 0 }⟩
  obtain ⟨g, copies, copy_eq⟩ :=
    exists_map_of_map_eq (List.Nodup.of_map _ valid_written.nodeIds) nodes_copied
  obtain ⟨merged, merging, -, inherited⟩ := Merge.exists_merge_of_inherited valid_written copy_eq
    copies nodes_perm.subset keys session.graph.clusters context.settings.canvas.width
  obtain ⟨clusters_eq, nodes_eq⟩ := Merge.length_of_merge merging
  have clusters_length := congrArg List.length clusters_copied
  have nodes_length := congrArg List.length nodes_copied
  rw [List.length_map, List.length_map, clusters_perm.length_eq] at clusters_length
  rw [List.length_map, List.length_map, nodes_perm.length_eq] at nodes_length
  obtain ⟨arranged, arranging⟩ := exists_arrange_ok width_finite height_finite
    ((clusters_eq.trans clusters_length).trans_le clusters_le)
    ((nodes_eq.trans nodes_length).trans_le nodes_le) none
  refine ⟨{ session with generation := session.generation + 1, drawn, graph := arranged }, ?_, ?_⟩
  · simp only [localUpdate, done, integrate, merging, ofArithmetic, arranging, bind, Except.bind]
  · have unplaced_eq := unplaced_arrange arranging
    rw [Graph.unplaced, Graph.unplaced, Graph.mk.injEq] at unplaced_eq
    rw [map_identity_of_unplaced_eq unplaced_eq.2.1, inherited, List.map_map]
    refine (List.Perm.of_eq ?_).trans (nodes_perm.map Node.identity)
    apply List.map_congr_left
    intro node node_mem
    have content := copy_eq node node_mem
    have label_eq : (g node).label = node.label :=
      congrArg (fun node : Node Unit => node.label) content
    have name_eq : (g node).name = node.name :=
      congrArg (fun node : Node Unit => node.name) content
    rw [Function.comp_apply, Merge.inheritNode, Node.identity, Node.identity, Node.caption,
      Node.caption, label_eq, name_eq]

/-- A node of a session that was updated once is given a free alias. When the diagram is still
legible, an update with the new text keeps every node: ids, labels and aliases are those of the
diagram with the new alias. -/
theorem localUpdate_renameNode {text : String} (short : text.length ≤ 2 ^ 398)
    {drawn generation : Nat}
    (updates : localUpdate context { drawn } text = (session, .ok generation))
    (keys : (session.graph.nodes.map Node.key).Nodup) {node : Node Float}
    (node_mem : node ∈ session.graph.nodes) {name : String}
    (free : IsFreeName session.graph node.id (Text.trim name)) :
    ∃ edited, renameNode session node.id (some name) = .ok edited ∧
      edited.graph.nodes = session.graph.nodes.map (Node.renamed node.id (Text.trim name)) ∧
      (edited.graph.Legible →
        ∃ after, localUpdate context edited edited.text = (after, .ok (edited.generation + 1)) ∧
          (after.graph.nodes.map Node.identity).Perm (edited.graph.nodes.map Node.identity) ∧
          after.graph.nodes.length = session.graph.nodes.length ∧
          ∃ kept ∈ after.graph.nodes, kept.id = node.id ∧ kept.label = node.label ∧
            kept.name = some (Text.trim name)) := by
  obtain ⟨parsed, next, graph, done, arranging, rfl⟩ := read_of_localUpdate_fresh updates
  obtain ⟨draft, sound, rfl⟩ := Prompt.sound_of_read done
  have unplaced_eq := unplaced_arrange arranging
  have wellFormed : graph.WellFormed := sound.wellFormed.of_unplaced_eq unplaced_eq
  have lined := (Prompt.lined_of_read rfl done).of_unplaced_eq unplaced_eq
  obtain ⟨clusters_le, nodes_le⟩ := Prompt.measurable_of_read short done
  rw [Graph.unplaced, Graph.unplaced, Graph.mk.injEq] at unplaced_eq
  have clusters_length := congrArg List.length unplaced_eq.1
  have nodes_length := congrArg List.length unplaced_eq.2.1
  rw [List.length_map, List.length_map] at clusters_length nodes_length
  have required :
      requireNode { graph, text, generation := 1, drawn := next } node.id = .ok node := by
    have found := find?_key_eq_some wellFormed.nodeIds node_mem
    simp only [requireNode, found]
  have shown : Text.nonempty ((some name).map Text.trim) = some (Text.trim name) :=
    Text.nonempty_of_tidy free.toTidy
  let edited : Session Float :=
    commit { graph, text, generation := 1, drawn := next }
      { graph with nodes := graph.nodes.map (Node.renamed node.id (Text.trim name)) }
  have renames : renameNode { graph, text, generation := 1, drawn := next } node.id (some name) =
      .ok edited := by
    simp only [renameNode, required, bind, Except.bind, pure, Except.pure, shown]
    rfl
  refine ⟨edited, renames, rfl, fun legible => ?_⟩
  have edited_wellFormed := wellFormed_renameNode wellFormed renames
  obtain ⟨after, updated, identities⟩ := @localUpdate_write_of_legible context edited width_finite
    height_finite edited_wellFormed.toValid (lined_renamed lined free) legible
    (nodup_keys_renamed lined free keys wellFormed.nodeIds) rfl
    (clusters_length.trans_le clusters_le)
    ((List.length_map _).trans_le (nodes_length.trans_le nodes_le))
  refine ⟨after, updated, identities, ?_, ?_⟩
  · have lengths := identities.length_eq
    simpa [edited, commit] using lengths
  · have renamed_mem : (node.renamed node.id (Text.trim name)).identity ∈
        after.graph.nodes.map Node.identity :=
      identities.mem_iff.mpr (List.mem_map_of_mem (List.mem_map_of_mem node_mem))
    obtain ⟨kept, kept_mem, kept_eq⟩ := List.mem_map.mp renamed_mem
    simp only [Node.identity, Node.caption, Prod.mk.injEq] at kept_eq
    obtain ⟨id_eq, label_eq, name_eq⟩ := kept_eq
    exact ⟨kept, kept_mem, id_eq.trans (Node.id_renamed _ _ node),
      label_eq.trans (Node.label_renamed _ _ node),
      name_eq.trans (Node.name_renamed_self _ node)⟩

end Finite

/-- A text with a node in a cluster that edges refer to by its label. -/
private def memberText : String :=
  "Node: UI\nCluster: Data\n  Node: B c\n UI -> b C\nB c -> X"

/-- A session that is updated with that text. -/
private def memberSession : Session Float :=
  (localUpdate standardContext {} memberText).1

/-- The member is renamed to an alias with a quote and a bracket in it. -/
theorem localUpdate_renameNode_member :
    ∃ edited after, renameNode memberSession "b-c-1" (some " it's Bo] ") = .ok edited ∧
      localUpdate standardContext edited edited.text = (after, .ok (edited.generation + 1)) ∧
      after.graph.nodes.length = 3 ∧
      ∃ kept ∈ after.graph.nodes, kept.id = "b-c-1" ∧ kept.label = "B c" ∧
        kept.name = some "it's Bo]" := by
  obtain ⟨succeeds, identities, keys, free, legible⟩ :
      (localUpdate standardContext {} memberText).2 = .ok 1 ∧
        memberSession.graph.nodes.map Node.identity =
          [("ui-0", "UI", none), ("b-c-1", "B c", none), ("x-3", "X", none)] ∧
        (memberSession.graph.nodes.map Node.key).Nodup ∧
        IsFreeName memberSession.graph "b-c-1" (Text.trim " it's Bo] ") ∧
        ((renameNode memberSession "b-c-1" (some " it's Bo] ")).map
          fun edited => decide edited.graph.Legible) = .ok true := by
    decide +kernel
  have updates : localUpdate standardContext {} memberText = (memberSession, .ok 1) := by
    rw [memberSession, ← succeeds]
  obtain ⟨node, node_mem, node_eq⟩ : ∃ node ∈ memberSession.graph.nodes,
      node.identity = ("b-c-1", "B c", none) := by
    rw [← List.mem_map, identities]
    simp
  obtain ⟨id_eq, label_eq, -⟩ : node.id = "b-c-1" ∧ node.label = "B c" ∧ node.name = none := by
    simpa [Node.identity, Node.caption] using node_eq
  rw [← id_eq] at free legible ⊢
  have short : memberText.length ≤ 2 ^ 398 := by
    have few : memberText.length ≤ 2 ^ 6 := by decide
    apply few.trans
    apply Nat.pow_le_pow_right <;> decide
  obtain ⟨edited, renames, -, again⟩ :=
    localUpdate_renameNode rfl rfl short updates keys node_mem free
  rw [renames] at legible
  obtain ⟨after, updated, -, length_eq, kept, kept_mem, kept_id, kept_label, kept_name⟩ :=
    again (of_decide_eq_true (Except.ok.inj legible))
  have lengths := congrArg List.length identities
  rw [List.length_map] at lengths
  have trimmed : Text.trim " it's Bo] " = "it's Bo]" := by decide +kernel
  exact ⟨edited, after, renames, updated, length_eq.trans lengths, kept, kept_mem, kept_id,
    kept_label.trans label_eq, kept_name.trans (congrArg some trimmed)⟩

end Session
end ClusterDiagram
