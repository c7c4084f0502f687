import ClusterDiagram.Proofs.FiniteLayout
import ClusterDiagram.Proofs.Remerging
import ClusterDiagram.Proofs.RoundTrip
import ClusterDiagram.Proofs.SessionRuns

/-!
# Text and diagram stay in step

When the text of a session is the prompt of its diagram, an update with that text reads a copy of
the diagram, gives every copy its id back and moves nothing but clusters and their members.
-/

namespace ClusterDiagram

variable {α : Type}

/-- What a diagram has to satisfy so that an update with its own prompt leaves it as it is: the
prompt says what it holds, and clusters are told apart by their labels. -/
structure Graph.TextSafe (graph : Graph α) : Prop extends Graph.Writable graph where
  /-- No two labels of clusters are the same up to blanks around them and letter case. -/
  clusterKeys : (graph.clusters.map Cluster.key).Nodup

instance (graph : Graph α) : Decidable graph.TextSafe :=
  decidable_of_iff (graph.Writable ∧ (graph.clusters.map Cluster.key).Nodup)
    ⟨fun ⟨writable, clusterKeys⟩ => ⟨writable, clusterKeys⟩,
      fun safe => ⟨safe.toWritable, safe.clusterKeys⟩⟩

/-- The aliases and labels that tell the nodes apart are distinct. -/
theorem Graph.Writable.nodup_keys {graph : Graph α} (writable : graph.Writable) :
    (graph.nodes.map Node.key).Nodup := by
  apply List.Nodup.map_on _ (List.Nodup.of_map _ writable.valid.nodeIds)
  intro node node_mem other other_mem same
  exact (writable.key_eq_iff other_mem node_mem).mp same

namespace Session

/-- A session that holds what another one held, under the same ids, and the same text, which is the
prompt of its diagram. -/
structure Restores (before after : Session α) : Prop where
  /-- The clusters keep ids, labels and parents, and there are no others. -/
  clusters : (after.graph.clusters.map Cluster.unplaced).Perm
    (before.graph.clusters.map Cluster.unplaced)
  /-- The nodes keep ids, labels, aliases and clusters, and there are no others. -/
  nodes : (after.graph.nodes.map Node.unplaced).Perm (before.graph.nodes.map Node.unplaced)
  /-- The edges keep ends, labels, styles and their order. -/
  edges : after.graph.edges.map Edge.unnamed = before.graph.edges.map Edge.unnamed
  /-- The floating nodes stay where they are. -/
  floating : ∀ node ∈ before.graph.nodes, node.cluster = none → node ∈ after.graph.nodes
  /-- The text stays. -/
  text : after.text = before.text
  /-- The text is the prompt of the diagram. -/
  written : Prompt.write after.graph = after.text

theorem nodup_ids_of_copied {graph copy : Graph α} (valid : graph.Valid)
    (copied : (Prompt.inWritingOrder graph).CopiedBy Renaming.identity copy) :
    (copy.clusters.map (·.id)).Nodup ∧ (copy.nodes.map (·.id)).Nodup := by
  have clusters_perm := (Prompt.depthFirst_clusterOrder valid).2
  have nodes_perm := Prompt.perm_nodes_inWritingOrder valid
  rw [copied.map_id_clusters, copied.map_id_nodes]
  exact ⟨(clusters_perm.map (·.id)).nodup_iff.mpr valid.clusterIds,
    (nodes_perm.map (·.id)).nodup_iff.mpr valid.nodeIds⟩

variable [Scalar α] {context : Context α}

/-- A diagram whose entities are listed in writing order is laid out as a copy of it under the same
ids. -/
theorem copied_of_arrange {graph merged arranged : Graph α} {anchor : Option (Layout.Anchor α)}
    (clusters_eq : merged.clusters = (Prompt.inWritingOrder graph).clusters)
    (nodes_eq : merged.nodes = (Prompt.inWritingOrder graph).nodes)
    (edges_eq : merged.edges.map Edge.unnamed = graph.edges.map Edge.unnamed)
    (done : arrange context merged anchor = .ok arranged) :
    (Prompt.inWritingOrder graph).CopiedBy Renaming.identity arranged := by
  have unplaced_eq := unplaced_arrange done
  rw [Graph.unplaced, Graph.unplaced, Graph.mk.injEq] at unplaced_eq
  obtain ⟨clusters_kept, nodes_kept, edges_kept⟩ := unplaced_eq
  exact {
    clusters := by rw [clusters_kept, clusters_eq, Renaming.ofCluster_identity]
    nodes := by rw [nodes_kept, nodes_eq, Renaming.ofNode_identity]
    edges := by rw [edges_kept, edges_eq, Renaming.ofEdge_identity, Prompt.inWritingOrder] }

theorem mem_arrange_of_floating {graph arranged : Graph α} {anchor : Option (Layout.Anchor α)}
    (done : arrange context graph anchor = .ok arranged) {node : Node α}
    (node_mem : node ∈ graph.nodes) (floating : node.cluster = none) : node ∈ arranged.nodes := by
  obtain ⟨⟨placed, moved⟩, laid, result⟩ := ok_of_bind (ok_of_ofArithmetic done)
  cases result
  exact Layout.mem_layout_of_floating laid node_mem floating

/-- What is read from the prompt of a diagram is merged as the diagram itself. -/
theorem merge_of_read {graph parsed : Graph α} (safe : graph.TextSafe) {reading : Prompt.Context α}
    (known : reading.nodes ⊆ graph.nodes) {drawn next : Nat}
    (done : Prompt.read reading (Prompt.write graph) drawn = .ok (parsed, next)) (canvasWidth : α) :
    ∃ merged, Merge.merge parsed graph.nodes graph.clusters canvasWidth = .ok merged ∧
      merged.clusters = (Prompt.inWritingOrder graph).clusters ∧
        merged.nodes = (Prompt.inWritingOrder graph).nodes ∧
          merged.edges.map Edge.unnamed = graph.edges.map Edge.unnamed := by
  obtain ⟨rename, copied⟩ := Prompt.copied_of_read safe.toWritable known done
  obtain ⟨draft, identified, rfl⟩ := Prompt.identified_of_read done
  have whole := (Prompt.depthFirst_clusterOrder safe.valid).2
  have named : ∀ cluster ∈ draft.graph.clusters, cluster.id ≠ "" := by
    intro cluster cluster_mem
    obtain ⟨used, id_eq⟩ := identified.slugs cluster cluster_mem
    obtain ⟨original, original_mem, same⟩ := exists_mem_of_map_eq copied.clusters cluster_mem
    have label_eq : original.label = cluster.label :=
      congrArg (fun cluster : Cluster Unit => cluster.label) same
    have tidy := safe.clusterLabels original (whole.mem_iff.mp original_mem)
    rw [id_eq, ← label_eq]
    exact FreshId.fresh_ne_empty tidy.slug_ne_empty used
  exact Merge.merge_of_copy (Prompt.valid_inWritingOrder safe.valid) copied identified.clusters.1
    identified.nodes.1 named (Prompt.perm_nodes_inWritingOrder safe.valid).subset whole.subset
    safe.nodup_keys safe.clusterKeys canvasWidth

section Update

variable {session after : Session α} (safe : session.graph.TextSafe)
  (synchronous : session.text = Prompt.write session.graph)

include safe synchronous

/-- An update with the prompt of the diagram restores the session whenever it succeeds. -/
theorem restores_of_localUpdate {generation : Nat}
    (done : localUpdate context session session.text = (after, .ok generation)) :
    session.Restores after ∧ generation = session.generation + 1 := by
  simp only [localUpdate] at done
  split at done
  · cases done
  · rename_i parsed drawn read_done
    split at done
    · cases done
    · rename_i graph integrated
      cases done
      obtain ⟨merged, merging, arranging⟩ := ok_of_bind integrated
      rw [synchronous] at read_done
      obtain ⟨expected, merge_eq, clusters_eq, nodes_eq, edges_eq⟩ :=
        merge_of_read safe (List.Subset.refl _) read_done context.settings.canvas.width
      obtain rfl : expected = merged :=
        Except.ok.inj (merge_eq.symm.trans (ok_of_ofArithmetic merging))
      have copied := copied_of_arrange clusters_eq nodes_eq edges_eq arranging
      have isomorphic := Prompt.isomorphicBy_of_copiedBy safe.valid copied
        (nodup_ids_of_copied safe.valid copied).1 (nodup_ids_of_copied safe.valid copied).2
      refine ⟨?_, rfl⟩
      exact {
        clusters := Renaming.ofCluster_identity ▸ isomorphic.clusters
        nodes := Renaming.ofNode_identity ▸ isomorphic.nodes
        edges := isomorphic.edges
        floating := by
          intro node node_mem floats
          apply mem_arrange_of_floating arranging _ floats
          rw [nodes_eq]
          exact (Prompt.perm_nodes_inWritingOrder safe.valid).mem_iff.mpr node_mem
        text := rfl
        written := by
          rw [synchronous]
          exact Prompt.write_copy safe.valid copied (nodup_ids_of_copied safe.valid copied).1
            (nodup_ids_of_copied safe.valid copied).2 }

end Update

section Finite

variable {context : Context Float} {session : Session Float}
  (width_finite : context.settings.canvas.width.isFinite = true)
  (height_finite : context.settings.canvas.height.isFinite = true)

include width_finite height_finite

theorem exists_arrange_ok {graph : Graph Float} (clusters_le : graph.clusters.length ≤ 2 ^ 400)
    (nodes_le : graph.nodes.length ≤ 2 ^ 400) (anchor : Option (Layout.Anchor Float)) :
    ∃ arranged, arrange context graph anchor = .ok arranged := by
  obtain ⟨placed, laid⟩ :=
    Layout.exists_layout_ok clusters_le nodes_le anchor width_finite height_finite
  simp only [arrange, laid, bind, Except.bind, pure, Except.pure]
  exact ⟨_, rfl⟩

/-- On a canvas of finite size an update with the prompt of the diagram succeeds, unless there are
more clusters or nodes than doubles can measure. -/
theorem exists_localUpdate_ok (safe : session.graph.TextSafe)
    (synchronous : session.text = Prompt.write session.graph)
    (clusters_le : session.graph.clusters.length ≤ 2 ^ 400)
    (nodes_le : session.graph.nodes.length ≤ 2 ^ 400) :
    ∃ after, localUpdate context session session.text = (after, .ok (session.generation + 1)) := by
  have finite := Placement.finiteWidth_of_isFinite width_finite
  obtain ⟨⟨parsed, drawn⟩, read_done⟩ :
      ∃ out, Prompt.read (⟨session.graph.nodes, session.graph.clusters,
        context.settings.canvas.width, context.token⟩ : Prompt.Context Float) session.text
        session.drawn = .ok out :=
    Prompt.read_total finite session.text session.drawn
  have reading := read_done
  rw [synchronous] at reading
  obtain ⟨merged, merge_eq, clusters_eq, nodes_eq, -⟩ :=
    merge_of_read safe (List.Subset.refl _) reading context.settings.canvas.width
  have clusters_perm := (Prompt.depthFirst_clusterOrder safe.valid).2
  have nodes_perm := Prompt.perm_nodes_inWritingOrder safe.valid
  rw [← clusters_perm.length_eq, ← clusters_eq] at clusters_le
  rw [← nodes_perm.length_eq, ← nodes_eq] at nodes_le
  obtain ⟨arranged, arrange_eq⟩ :=
    exists_arrange_ok width_finite height_finite clusters_le nodes_le none
  refine ⟨{ session with generation := session.generation + 1, drawn, graph := arranged }, ?_⟩
  simp only [localUpdate, read_done, integrate, merge_eq, ofArithmetic, arrange_eq, bind,
    Except.bind]

/-- An update with the prompt of the diagram restores the session, whatever tokens are drawn. On a
canvas of finite size it always succeeds: the grid of clusters is drawn with doubles, and only
extents beyond `2 ^ 900` could leave their range. -/
theorem localUpdate_write (safe : session.graph.TextSafe)
    (synchronous : session.text = Prompt.write session.graph) :
    (∀ after generation, localUpdate context session session.text = (after, .ok generation) →
      session.Restores after ∧ generation = session.generation + 1) ∧
    (session.graph.clusters.length ≤ 2 ^ 400 → session.graph.nodes.length ≤ 2 ^ 400 →
      ∃ after, localUpdate context session session.text = (after, .ok (session.generation + 1))) :=
  ⟨fun _ _ done => restores_of_localUpdate safe synchronous done,
    exists_localUpdate_ok width_finite height_finite safe synchronous⟩

end Finite

private def twoSites : Graph Float :=
  { clusters := [⟨"zone", "Zone: B", some "site", some 400, some 300⟩,
      ⟨"site", "Site", none, none, none⟩]
    nodes := [⟨"api", "API, v2", some "Gate", 40, 60, some "zone"⟩,
      ⟨"db", "Store]", none, 90, 60, none⟩, ⟨"ui", "Web", none, 10, 60, some "site"⟩]
    edges := [⟨"e", "ui", "api", some "GET [\"a\"]", .dashed⟩, ⟨"e", "api", "db", none, .double⟩] }

private def twoSitesSession : Session Float :=
  { graph := twoSites, text := Prompt.write twoSites, generation := 3 }

private def unsetContext : Context Float :=
  { settings := Settings.ofValues fun _ => none, token := toString }

theorem localUpdate_write_twoSites :
    ∃ after, localUpdate unsetContext twoSitesSession twoSitesSession.text = (after, .ok 4) ∧
      twoSitesSession.Restores after := by
  have safe : twoSitesSession.graph.TextSafe := by decide +kernel
  have few {count : Nat} (small : count ≤ 2 ^ 2) : count ≤ 2 ^ 400 := by
    apply small.trans
    apply Nat.pow_le_pow_right <;> decide
  obtain ⟨restores, succeeds⟩ := @localUpdate_write unsetContext twoSitesSession rfl rfl safe rfl
  obtain ⟨after, done⟩ := succeeds (few (by decide)) (few (by decide))
  exact ⟨after, done, (restores after 4 done).1⟩

end Session
end ClusterDiagram
