import ClusterDiagram.Proofs.Reading
import ClusterDiagram.Proofs.Rereading

/-!
# Indentation

The parent of a cluster is the latest cluster above it whose line is indented less, and a node lies
in the latest cluster above it. A stack of open clusters is enough to find them: a cluster that was
closed is hidden from every later line by the one that closed it, which is indented no more.
-/

namespace ClusterDiagram

variable {α : Type}

namespace Statement

/-- The indentation and the label of a cluster line. -/
def opening? : Statement → Option (ℕ × String)
  | .cluster indent label => some (indent, label)
  | _ => none

/-- The label and the alias of a node line. -/
def caption? : Statement → Option (String × Option String)
  | .node label name => some (label, name)
  | _ => none

/-- Whether a statement declares a cluster or a node. -/
def declares : Statement → Bool
  | .edge .. => false
  | _ => true

/-- The statements of some lines in order. -/
def ofLines (lines : List (List Char)) : List Statement :=
  lines.filterMap ofLine?

/-- The indentation of a cluster line is read off its beginning. -/
theorem indent_of_ofLine? {line : List Char} {indent : ℕ} {label : String}
    (read : ofLine? line = some (.cluster indent label)) : indent = indentOf line := by
  rw [ofLine?] at read
  split at read
  · cases read
    rfl
  · split at read
    · cases read
    · split at read <;> cases read

end Statement

namespace Prompt

/-- What the cluster lines among some statements say. -/
def openings (statements : List Statement) : List (ℕ × String) :=
  statements.filterMap Statement.opening?

/-- What the node lines among some statements say. -/
def captions (statements : List Statement) : List (String × Option String) :=
  statements.filterMap Statement.caption?

/-- The ids of the clusters that some statements opened, with the indentations of their lines. -/
def opened (statements : List Statement) (graph : Graph α) : List (String × ℕ) :=
  graph.clusters.zipWith (fun cluster opening => (cluster.id, opening.1)) (openings statements)

/-- The latest of some clusters whose line is indented less. -/
def latestBelow? (indent : ℕ) (opened : List (String × ℕ)) : Option String :=
  (opened.reverse.find? fun entry => entry.2 < indent).map (·.1)

/-! ## The stack of open clusters -/

theorem find?_dropWhile {β : Type} {p q : β → Bool} (apart : ∀ b, q b = true → p b = false)
    (elements : List β) : (elements.dropWhile q).find? p = elements.find? p := by
  conv_rhs => rw [← List.takeWhile_append_dropWhile (p := q) (l := elements)]
  have skipped : (elements.takeWhile q).find? p = none := by
    rw [List.find?_eq_none]
    intro element element_mem
    simp [apart element (List.mem_takeWhile_imp element_mem)]
  rw [List.find?_append, skipped, Option.none_or]

/-- The stack shows to every indentation the latest cluster whose line is indented less, and its top
is the latest cluster. -/
structure Shows (stack opened : List (String × ℕ)) : Prop where
  /-- What a line of some indentation finds on the stack. -/
  below : ∀ indent, (stack.find? fun entry => entry.2 < indent) =
    opened.reverse.find? fun entry => entry.2 < indent
  /-- The top of the stack. -/
  top : stack.head? = opened.getLast?

theorem Shows.nil : Shows [] [] :=
  ⟨fun _ => rfl, rfl⟩

/-- A line closes the clusters that are indented as much, which no later line can see past it. -/
theorem Shows.push {stack opened : List (String × ℕ)} (shown : Shows stack opened)
    (entry : String × ℕ) :
    Shows (entry :: stack.dropWhile fun above => entry.2 ≤ above.2) (opened ++ [entry]) where
  below indent := by
    rw [List.reverse_append, List.reverse_singleton, List.singleton_append, List.find?_cons,
      List.find?_cons]
    cases visible : decide (entry.2 < indent) with
    | true => rfl
    | false =>
        have hidden : indent ≤ entry.2 := not_lt.mp (of_decide_eq_false visible)
        dsimp only
        rw [find?_dropWhile, shown.below]
        intro above closed
        have closed := of_decide_eq_true closed
        exact decide_eq_false (not_lt.mpr (hidden.trans closed))
  top := by simp

theorem Shows.parent {stack opened : List (String × ℕ)} (shown : Shows stack opened)
    (indent : ℕ) : (stack.dropWhile fun above => indent ≤ above.2).head?.map (·.1) =
      latestBelow? indent opened := by
  rw [latestBelow?, ← shown.below, List.find?_eq_head?_dropWhile_not]
  simp only [← decide_not, not_lt]

/-! ## Declarations -/

theorem openings_append (statements more : List Statement) :
    openings (statements ++ more) = openings statements ++ openings more :=
  List.filterMap_append

theorem captions_append (statements more : List Statement) :
    captions (statements ++ more) = captions statements ++ captions more :=
  List.filterMap_append

/-- Clusters that come later do not count as opened. -/
theorem opened_of_front {graph after : Graph α} {statements : List Statement}
    (front : graph.clusters <+: after.clusters)
    (count : graph.clusters.length = (openings statements).length) :
    opened statements after = opened statements graph := by
  obtain ⟨later, after_eq⟩ := front
  rw [opened, opened, ← after_eq]
  conv_lhs => rw [← List.append_nil (openings statements)]
  rw [List.zipWith_append count, List.zipWith_nil_right, List.append_nil]

namespace Draft

/-- A draft that holds what some statements declare and nothing else. -/
structure Tracks (statements : List Statement) (draft : Draft α) : Prop where
  /-- The labels of the clusters. -/
  labels : draft.graph.clusters.map (·.label) = (openings statements).map (·.2)
  /-- The texts of the nodes. -/
  captions : draft.graph.nodes.map Node.caption = captions statements
  /-- The edges come later. -/
  edges : draft.graph.edges = []
  /-- The stack of open clusters. -/
  shown : Shows draft.enclosing (opened statements draft.graph)

theorem tracks_start (drawn : ℕ) : Tracks [] ({ drawn } : Draft α) :=
  ⟨rfl, rfl, rfl, Shows.nil⟩

section Tracks

variable {statements : List Statement} {draft after : Draft α} (tracks : draft.Tracks statements)

include tracks

theorem Tracks.count : draft.graph.clusters.length = (openings statements).length := by
  simpa using congrArg List.length tracks.labels

theorem Tracks.countNodes : draft.graph.nodes.length = (Prompt.captions statements).length := by
  simpa using congrArg List.length tracks.captions

theorem Tracks.innermost :
    draft.innermost = (opened statements draft.graph).getLast?.map (·.1) := by
  rw [Draft.innermost, tracks.shown.top]

/-- The cluster of a line stands behind those of the lines above it, inside the latest one that is
indented less. -/
theorem Tracks.exists_cluster (indent : ℕ) (label : String) :
    ∃ cluster : Cluster α,
      (draft.addCluster indent label).graph.clusters = draft.graph.clusters ++ [cluster] ∧
      cluster.label = label ∧
      cluster.parent = latestBelow? indent (opened statements draft.graph) ∧
      (draft.addCluster indent label).enclosing = (cluster.id, indent) ::
        draft.enclosing.dropWhile fun above => indent ≤ above.2 :=
  ⟨_, rfl, rfl, tracks.shown.parent indent, rfl⟩

theorem Tracks.addCluster (indent : ℕ) (label : String) :
    (draft.addCluster indent label).Tracks (statements ++ [.cluster indent label]) := by
  obtain ⟨cluster, clusters_eq, label_eq, -, enclosing_eq⟩ := tracks.exists_cluster indent label
  refine ⟨?_, ?_, tracks.edges, ?_⟩
  · rw [clusters_eq, openings_append, List.map_append, List.map_append, tracks.labels,
      List.map_singleton, label_eq]
    rfl
  · rw [captions_append]
    exact tracks.captions.trans (List.append_nil _).symm
  · have opened_eq : opened (statements ++ [.cluster indent label])
        (draft.addCluster indent label).graph =
          opened statements draft.graph ++ [(cluster.id, indent)] := by
      rw [opened, openings_append, clusters_eq, List.zipWith_append tracks.count]
      rfl
    rw [enclosing_eq, opened_eq]
    exact tracks.shown.push (cluster.id, indent)

/-- A line that opens no cluster leaves the clusters and the stack as they are. -/
theorem Tracks.beside (statement : Statement) (no_cluster : statement.opening? = none)
    (clusters_eq : after.graph.clusters = draft.graph.clusters)
    (captions_eq : after.graph.nodes.map Node.caption =
      Prompt.captions statements ++ Prompt.captions [statement])
    (edges_eq : after.graph.edges = draft.graph.edges)
    (enclosing_eq : after.enclosing = draft.enclosing) :
    after.Tracks (statements ++ [statement]) := by
  have openings_eq : openings (statements ++ [statement]) = openings statements := by
    rw [openings_append, openings, openings, List.filterMap_cons_none no_cluster,
      List.filterMap_nil, List.append_nil]
  refine ⟨?_, ?_, edges_eq.trans tracks.edges, ?_⟩
  · rw [clusters_eq, openings_eq, tracks.labels]
  · rw [captions_eq, captions_append]
  · rw [enclosing_eq, opened, clusters_eq, openings_eq]
    exact tracks.shown

variable [Scalar α] {context : Context α}

theorem Tracks.declare {statement : Statement}
    (done : draft.declare context statement = .ok after) :
    after.Tracks (statements ++ [statement]) := by
  cases statement with
  | cluster indent label =>
      cases done
      exact tracks.addCluster indent label
  | node label name =>
      obtain ⟨⟨node, _⟩, added, rfl⟩ := ok_of_map done
      obtain ⟨rfl, rfl, -, -, -, -, rfl⟩ := addNode_ok added
      refine tracks.beside (.node node.label node.name) rfl rfl ?_ rfl rfl
      rw [List.map_append, tracks.captions]
      rfl
  | edge source target attributes =>
      cases done
      exact tracks.beside _ rfl rfl (tracks.captions.trans (List.append_nil _).symm) rfl rfl

theorem Tracks.foldlM_declare {more : List Statement}
    (done : more.foldlM (Draft.declare context) draft = .ok after) :
    after.Tracks (statements ++ more) := by
  induction more generalizing statements draft with
  | nil =>
      cases done
      rwa [List.append_nil]
  | cons statement more induction =>
      obtain ⟨middle, first, rest⟩ := ok_of_foldlM_cons done
      rw [List.append_cons]
      exact induction (tracks.declare first) rest

end Tracks

/-! ## Edge lines -/

/-- Nothing but floating nodes is added besides edges. -/
structure Floats (draft after : Draft α) : Prop where
  /-- The clusters stay. -/
  clusters_eq : after.graph.clusters = draft.graph.clusters
  /-- New nodes come last and lie in no cluster. -/
  nodes_eq : ∃ created : List (Node α), after.graph.nodes = draft.graph.nodes ++ created ∧
    ∀ node ∈ created, node.cluster = none

theorem Floats.refl (draft : Draft α) : Floats draft draft :=
  ⟨rfl, [], (List.append_nil _).symm, by simp⟩

theorem Floats.trans {draft middle after : Draft α} (first : Floats draft middle)
    (second : Floats middle after) : Floats draft after := by
  obtain ⟨created, created_eq, floating⟩ := first.nodes_eq
  obtain ⟨more, more_eq, more_floating⟩ := second.nodes_eq
  refine ⟨second.clusters_eq.trans first.clusters_eq, created ++ more, ?_, ?_⟩
  · rw [more_eq, created_eq, List.append_assoc]
  · simpa [or_imp, forall_and] using ⟨floating, more_floating⟩

section Connect

variable [Scalar α] {context : Context α} {draft after : Draft α}

theorem floats_of_resolve {reference : String} {node : Node α}
    (done : draft.resolve context reference = .ok (node, after)) : Floats draft after := by
  rcases resolve_ok done with ⟨rfl, -⟩ | ⟨label, name, position, -, added⟩
  · exact Floats.refl after
  · obtain ⟨-, -, outside, -, -, -, rfl⟩ := addNode_ok added
    exact ⟨rfl, [node], rfl, by simpa using outside⟩

theorem floats_of_connect {statement : Statement}
    (done : draft.connect context statement = .ok after) : Floats draft after := by
  cases statement with
  | cluster indent label =>
      cases done
      exact Floats.refl draft
  | node label name =>
      cases done
      exact Floats.refl draft
  | edge source target attributes =>
      obtain ⟨first, middle, last, before, source_done, target_done, edge, base, drawn, -, -, -, -,
        -, rfl⟩ := connect_edge_ok done
      have resolved := (floats_of_resolve source_done).trans (floats_of_resolve target_done)
      exact ⟨resolved.clusters_eq, resolved.nodes_eq⟩

theorem floats_of_foldlM_connect {statements : List Statement}
    (done : statements.foldlM (connect context) draft = .ok after) : Floats draft after :=
  foldlM_invariant (fun _ _ _ _ step floats => floats.trans (floats_of_connect step)) done
    (Floats.refl draft)

end Connect

end Draft

/-! ## Texts -/

theorem getElem?_length_of_front {β : Type} {elements later : List β} {element : β}
    (front : elements ++ [element] <+: later) : later[elements.length]? = some element := by
  obtain ⟨rest, rfl⟩ := front
  simp

section Texts

variable [Scalar α] {context : Context α} {text : String} {drawn next : ℕ} {graph : Graph α}

/-- All that a text declares is there before its edge lines are taken in. -/
theorem exists_tracked_of_read (done : read context text drawn = .ok (graph, next)) :
    ∃ declared draft : Draft α, declared.Tracks (Statement.ofText text) ∧
      (Statement.ofText text).foldlM (Draft.connect context) declared = .ok draft ∧
      draft.graph = graph := by
  obtain ⟨declared, draft, declare_done, connect_done, rfl⟩ := rounds_of_read done
  exact ⟨declared, draft, (Draft.tracks_start drawn).foldlM_declare declare_done, connect_done, rfl⟩

/-- The line of a statement splits the reading of a text in two: what the lines above it declare is
there before, and what comes later is added behind. -/
theorem exists_middle_of_read {before after : List (List Char)} {line : List Char}
    {statement : Statement} (lines_eq : Text.splitLines text = before ++ line :: after)
    (read_line : Statement.ofLine? line = some statement)
    (done : read context text drawn = .ok (graph, next)) :
    ∃ middle opened draft : Draft α, middle.Tracks (Statement.ofLines before) ∧
      middle.declare context statement = .ok opened ∧ Draft.Grows context opened draft ∧
      draft.graph = graph := by
  obtain ⟨declared, draft, declare_done, connect_done, rfl⟩ := rounds_of_read done
  have filled (indent : ℕ) (label : String)
      (listed : .cluster indent label ∈ Statement.ofText text) : Text.slug label ≠ "" :=
    Statement.slug_ne_empty_of_mem listed
  rw [Statement.ofText, lines_eq, List.filterMap_append, List.filterMap_cons_some read_line]
    at declare_done filled
  obtain ⟨middle, before_done, rest⟩ := ok_of_foldlM_append declare_done
  obtain ⟨opened, line_done, after_done⟩ := ok_of_foldlM_cons rest
  have grows : Draft.Grows context opened declared := by
    apply Draft.grows_of_foldlM_declare _ after_done
    intro indent label later
    exact filled indent label (List.mem_append_right _ (List.mem_cons_of_mem _ later))
  exact ⟨middle, opened, draft, (Draft.tracks_start drawn).foldlM_declare before_done, line_done,
    grows.trans (Draft.grows_of_foldlM_connect connect_done), rfl⟩

end Texts

/-- A diagram whose clusters and memberships follow the indentation of some lines. -/
structure Indented (lines : List (List Char)) (graph : Graph α) : Prop where
  /-- There are as many clusters as cluster lines. -/
  count : graph.clusters.length = (openings (Statement.ofLines lines)).length
  /-- A cluster line gives the next cluster, inside the latest one above it whose line begins with
  fewer blanks and tabs. -/
  clusters : ∀ before line after indent label, lines = before ++ line :: after →
    Statement.ofLine? line = some (.cluster indent label) →
      indent = (line.takeWhile fun c => c == ' ' || c == '\t').length ∧
      ∃ cluster,
        graph.clusters[(openings (Statement.ofLines before)).length]? = some cluster ∧
        cluster.label = label ∧
        cluster.parent = latestBelow? indent (opened (Statement.ofLines before) graph)
  /-- A node line gives the next node, in the latest cluster above it. -/
  nodes : ∀ before line after label name, lines = before ++ line :: after →
    Statement.ofLine? line = some (.node label name) →
      ∃ node, graph.nodes[(captions (Statement.ofLines before)).length]? = some node ∧
        node.label = label ∧ node.name = name ∧
        node.cluster = (opened (Statement.ofLines before) graph).getLast?.map (·.1)
  /-- The nodes behind those of the node lines lie in no cluster. -/
  floating : ∀ node ∈ graph.nodes.drop (captions (Statement.ofLines lines)).length,
    node.cluster = none

section Texts

variable [Scalar α] {context : Context α} {text : String} {drawn next : ℕ} {graph : Graph α}

theorem indented_of_read (done : read context text drawn = .ok (graph, next)) :
    Indented (Text.splitLines text) graph := by
  constructor
  · obtain ⟨declared, draft, tracks, connect_done, rfl⟩ := exists_tracked_of_read done
    rw [(Draft.floats_of_foldlM_connect connect_done).clusters_eq]
    exact tracks.count
  · intro before line after indent label lines_eq read_line
    refine ⟨Statement.indent_of_ofLine? read_line, ?_⟩
    obtain ⟨middle, opened, draft, tracks, line_done, grows, rfl⟩ :=
      exists_middle_of_read lines_eq read_line done
    obtain rfl := Except.ok.inj line_done
    obtain ⟨cluster, clusters_eq, label_eq, parent_eq, -⟩ := tracks.exists_cluster indent label
    have front := grows.clusters_front
    rw [clusters_eq] at front
    refine ⟨cluster, ?_, label_eq, ?_⟩
    · rw [← tracks.count]
      exact getElem?_length_of_front front
    · rw [parent_eq, opened_of_front ((List.prefix_append _ _).trans front) tracks.count]
  · intro before line after label name lines_eq read_line
    obtain ⟨middle, opened, draft, tracks, line_done, grows, rfl⟩ :=
      exists_middle_of_read lines_eq read_line done
    obtain ⟨⟨node, _⟩, added, rfl⟩ := ok_of_map line_done
    obtain ⟨label_eq, name_eq, cluster_eq, -, count, -, rfl⟩ := Draft.addNode_ok added
    refine ⟨node, ?_, label_eq, name_eq, ?_⟩
    · rw [← tracks.countNodes]
      exact getElem?_length_of_front grows.nodes_front
    · have front : middle.graph.clusters <+: draft.graph.clusters := grows.clusters_front
      rw [cluster_eq, tracks.innermost, opened_of_front front tracks.count]
  · obtain ⟨declared, draft, tracks, connect_done, rfl⟩ := exists_tracked_of_read done
    obtain ⟨created, nodes_eq, floating⟩ :=
      (Draft.floats_of_foldlM_connect connect_done).nodes_eq
    change ∀ node ∈ draft.graph.nodes.drop (captions (Statement.ofText text)).length, _
    rwa [nodes_eq, ← tracks.countNodes, List.drop_left]

/-- Edge lines declare nothing. -/
theorem foldlM_filter_declares (statements : List Statement) (draft : Draft α) :
    (statements.filter Statement.declares).foldlM (Draft.declare context) draft =
      statements.foldlM (Draft.declare context) draft := by
  apply foldlM_filter
  intro statement connects draft
  cases statement with
  | cluster => cases connects
  | node => cases connects
  | edge => rfl

/-- Every node line gives a node. -/
theorem length_captions_le_of_read (done : read context text drawn = .ok (graph, next)) :
    (captions (Statement.ofText text)).length ≤ graph.nodes.length := by
  obtain ⟨declared, draft, tracks, connect_done, rfl⟩ := exists_tracked_of_read done
  obtain ⟨created, nodes_eq, -⟩ := (Draft.floats_of_foldlM_connect connect_done).nodes_eq
  rw [← tracks.countNodes, nodes_eq, List.length_append]
  exact Nat.le_add_right _ _

/-- What is declared does not depend on lines that declare nothing. -/
theorem declared_eq_of_read {other : String} {next' : ℕ} {graph' : Graph α}
    (same : (Statement.ofText other).filter Statement.declares =
      (Statement.ofText text).filter Statement.declares)
    (done : read context text drawn = .ok (graph, next))
    (other_done : read context other drawn = .ok (graph', next')) :
    graph'.clusters = graph.clusters ∧
      graph'.nodes.take (captions (Statement.ofText text)).length =
        graph.nodes.take (captions (Statement.ofText text)).length := by
  obtain ⟨declared, draft, declare_done, connect_done, rfl⟩ := rounds_of_read done
  obtain ⟨declared', draft', declare_done', connect_done', rfl⟩ := rounds_of_read other_done
  have count : declared.graph.nodes.length = (captions (Statement.ofText text)).length :=
    ((Draft.tracks_start drawn).foldlM_declare declare_done).countNodes
  rw [← foldlM_filter_declares, same, foldlM_filter_declares, declare_done] at declare_done'
  obtain rfl := Except.ok.inj declare_done'
  have floats := Draft.floats_of_foldlM_connect connect_done
  have floats' := Draft.floats_of_foldlM_connect connect_done'
  obtain ⟨created, nodes_eq, -⟩ := floats.nodes_eq
  obtain ⟨created', nodes_eq', -⟩ := floats'.nodes_eq
  constructor
  · rw [floats.clusters_eq, floats'.clusters_eq]
  · rw [← count, nodes_eq, nodes_eq', List.take_left, List.take_left]

end Texts

/-- Whatever is known before, a text that is read gives clusters and memberships that follow its
indentation, and blank lines, edge lines and lines that say nothing have no part in it: another text
with the same cluster and node lines gives the same clusters and the same nodes in them. On a canvas
of finite width every text is read. -/
theorem read_indented [Scalar α] (context : Context α) (text : String) (drawn : ℕ) :
    (Placement.FiniteWidth context.canvasWidth → ∃ out, read context text drawn = .ok out) ∧
    ∀ graph next, read context text drawn = .ok (graph, next) →
      Indented (Text.splitLines text) graph ∧
      ∀ other graph' next', (Statement.ofText other).filter Statement.declares =
          (Statement.ofText text).filter Statement.declares →
        read context other drawn = .ok (graph', next') →
        graph'.clusters = graph.clusters ∧
          graph'.nodes.take (captions (Statement.ofText text)).length =
            graph.nodes.take (captions (Statement.ofText text)).length :=
  ⟨fun finite => read_total finite text drawn, fun _ _ done =>
    ⟨indented_of_read done, fun _ _ _ same other_done => declared_eq_of_read same done other_done⟩⟩

/-- Tabs and blanks, a level that was not seen before, and lines that say nothing. -/
private def ragged : String :=
  "Node: a\nCluster: A\n    Cluster: B\nX -> b\n \t Cluster: C\nnothing\n  Cluster: D\n" ++
    "\t\t\t\tNode: b\n  Cluster: E\n\nNode: c\nCluster: F"

theorem read_indented_ragged :
    ∃ graph next, read { canvasWidth := (1200 : Float), token := toString } ragged 0 =
        .ok (graph, next) ∧
      Indented (Text.splitLines ragged) graph ∧
      graph.clusters.map (·.parent) = [none, some "a", some "a", some "a", some "a", none] ∧
      graph.nodes.map (·.cluster) = [none, some "d", some "e", none] := by
  have finite : Placement.FiniteWidth (1200 : Float) :=
    (Placement.finiteWidth_double_iff 1200).mpr ⟨_, _, _, rfl⟩
  have places : ((read { canvasWidth := (1200 : Float), token := toString } ragged 0).map fun out =>
      (out.1.clusters.map (·.parent), out.1.nodes.map (·.cluster))) =
      .ok ([none, some "a", some "a", some "a", some "a", none],
        [none, some "d", some "e", none]) := by
    decide +kernel
  obtain ⟨total, indented⟩ :=
    read_indented { canvasWidth := (1200 : Float), token := toString } ragged 0
  obtain ⟨⟨graph, next⟩, done⟩ := total finite
  rw [done] at places
  obtain ⟨parents, clusters⟩ := Prod.mk.inj (Except.ok.inj places)
  exact ⟨graph, next, done, (indented graph next done).1, parents, clusters⟩

end Prompt
end ClusterDiagram
