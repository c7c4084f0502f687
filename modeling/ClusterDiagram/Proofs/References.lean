import ClusterDiagram.Proofs.Indentation

/-!
# Where references lead

An edge line refers to a node by alias or label, outer blanks and letter case aside. When nothing is
known from before, a reference leads to the first node of the diagram that it names. A node that is
known from before is represented by its namesake, the first node of the diagram under the same key;
once an alias has moved to another node, the namesake need not be what the reference says.
-/

namespace ClusterDiagram

variable {α : Type}

/-- The references of an edge line. -/
def Statement.ends? : Statement → Option (String × String)
  | .edge source target _ => some (source, target)
  | _ => none

namespace Prompt

/-- What the edge lines among some statements join. -/
def wires (statements : List Statement) : List (String × String) :=
  statements.filterMap Statement.ends?

/-- Whether a reference names a node: the alias or the label of the node is the trimmed reference,
letter case aside. -/
def Names (reference : String) (node : Node α) : Prop :=
  (∃ name, node.name = some name ∧ name ≠ "" ∧
      Text.lower name = Text.lower (Text.trim reference)) ∨
    Text.lower node.label = Text.lower (Text.trim reference)

theorem matchesKey_iff_names {reference : String} {node : Node α} :
    matchesKey (Text.foldKey reference) node = true ↔ Names reference node := by
  cases name_eq : node.name with
  | none => simp [matchesKey, Names, Text.nonempty, Text.foldKey, name_eq]
  | some name =>
      by_cases empty : name = "" <;>
        simp [matchesKey, Names, Text.nonempty, Text.foldKey, name_eq, empty, Option.filter]

instance (reference : String) (node : Node α) : Decidable (Names reference node) :=
  decidable_of_iff _ matchesKey_iff_names

/-- The first of some nodes that a reference names. -/
def firstNamed? (reference : String) (nodes : List (Node α)) : Option (Node α) :=
  nodes.find? fun node => Names reference node

theorem firstNamed?_eq_some {reference : String} {nodes : List (Node α)} {node : Node α}
    (found : firstNamed? reference nodes = some node) : node ∈ nodes ∧ Names reference node :=
  ⟨List.mem_of_find?_eq_some found, by simpa using List.find?_some found⟩

theorem firstNamed?_eq_none_iff {reference : String} {nodes : List (Node α)} :
    firstNamed? reference nodes = none ↔ ¬ ∃ node ∈ nodes, Names reference node := by
  simp [firstNamed?]

theorem find?_matchesKey (reference : String) (nodes : List (Node α)) :
    nodes.find? (matchesKey (Text.foldKey reference)) = firstNamed? reference nodes := by
  congr 1
  funext node
  rw [Bool.eq_iff_iff, matchesKey_iff_names, decide_eq_true_iff]

/-- Nodes with the same texts go by the same references. -/
theorem names_congr {reference : String} {node other : Node α} (label_eq : node.label = other.label)
    (name_eq : node.name = other.name) : Names reference node ↔ Names reference other := by
  rw [Names, Names, label_eq, name_eq]

/-- A reference leads to the first node that it names, or to the namesake of a known node. -/
inductive Leads (known declared nodes : List (Node α)) (reference : String) (node : Node α) :
    Prop where
  /-- The first node of the diagram that the reference names, where the first known node that it
  names, if there is one, has no namesake among the declared nodes. -/
  | named (first : firstNamed? reference nodes = some node)
      (strangers : ∀ other, firstNamed? reference known = some other →
        ∀ own ∈ declared, own.key ≠ other.key)
  /-- The first node of the diagram under the key of the first known node that the reference
  names. -/
  | namesake (other : Node α) (earlier : firstNamed? reference known = some other)
      (first : nodes.find? (fun own => own.key == other.key) = some node)

section Leads

variable {known declared nodes more : List (Node α)} {reference : String} {node : Node α}

/-- A reference leads to a node of the diagram. -/
theorem Leads.mem (leads : Leads known declared nodes reference node) : node ∈ nodes := by
  cases leads with
  | named first => exact (firstNamed?_eq_some first).1
  | namesake _ _ first => exact List.mem_of_find?_eq_some first

/-- What was found first stays first while nodes are added behind. -/
theorem Leads.mono (leads : Leads known declared nodes reference node) (front : nodes <+: more) :
    Leads known declared more reference node := by
  cases leads with
  | named first strangers => exact .named (front.find?_eq_some first) strangers
  | namesake other earlier first => exact .namesake other earlier (front.find?_eq_some first)

/-- Where nothing is known a reference leads to a node that it names. -/
theorem Leads.first_of_unknown (leads : Leads [] declared nodes reference node) :
    firstNamed? reference nodes = some node := by
  cases leads with
  | named first => exact first
  | namesake other earlier => cases earlier

end Leads

namespace Draft

variable [Scalar α] {context : Context α} {draft after : Draft α} {declared : List (Node α)}

/-- A node that is added when no node was accepted is the first one that is. -/
theorem find?_of_addNode {label : String} {name cluster : Option String}
    {position : Option (Point α)} {node : Node α}
    (done : addNode context draft label name cluster position = .ok (node, after))
    {p : Node α → Bool} (absent : draft.graph.nodes.find? p = none) (accepted : p node = true) :
    after.graph.nodes.find? p = some node := by
  obtain ⟨-, -, -, base, drawn, -, rfl⟩ := addNode_ok done
  rw [List.find?_append, absent, Option.none_or, List.find?_cons_of_pos accepted]

/-- Resolving a reference adds no edge. -/
theorem edges_of_resolve {reference : String} {node : Node α}
    (done : draft.resolve context reference = .ok (node, after)) :
    after.graph.edges = draft.graph.edges := by
  rcases resolve_ok done with ⟨rfl, -⟩ | ⟨label, name, position, -, added⟩
  · rfl
  · obtain ⟨-, -, -, -, -, -, rfl⟩ := addNode_ok added
    rfl

theorem leads_of_resolve (front : declared <+: draft.graph.nodes) {reference : String}
    {node : Node α} (done : draft.resolve context reference = .ok (node, after)) :
    Leads context.nodes declared after.graph.nodes reference node := by
  rw [resolve, resolveReference, find?_matchesKey, find?_matchesKey] at done
  cases earlier : firstNamed? reference context.nodes with
  | none =>
      have strangers (other : Node α) (found : firstNamed? reference context.nodes = some other) :
          ∀ own ∈ declared, own.key ≠ other.key := by
        rw [earlier] at found
        cases found
      cases own : firstNamed? reference draft.graph.nodes with
      | some other =>
          simp only [earlier, own] at done
          cases done
          exact .named own strangers
      | none =>
          simp only [earlier, own] at done
          obtain ⟨label_eq, -, -, -⟩ := addNode_ok done
          refine .named (find?_of_addNode done own ?_) strangers
          exact decide_eq_true (Or.inr (congrArg Text.lower label_eq))
  | some known =>
      simp only [earlier] at done
      split at done
      · rename_i namesake found
        cases done
        exact .namesake known earlier found
      · rename_i no_namesake
        have strangers (other : Node α) (found : firstNamed? reference context.nodes = some other) :
            ∀ own ∈ declared, own.key ≠ other.key := by
          rw [earlier] at found
          cases found
          intro own own_mem
          simpa using List.find?_eq_none.mp no_namesake own (front.subset own_mem)
        split at done
        · rename_i other found
          cases done
          exact .named found strangers
        · rename_i absent
          obtain ⟨label_eq, name_eq, -, -⟩ := addNode_ok done
          refine .named (find?_of_addNode done absent ?_) strangers
          have known_named := (firstNamed?_eq_some earlier).2
          exact decide_eq_true ((names_congr label_eq name_eq).mpr known_named)

end Draft

/-! ## Edges -/

/-- An edge joins the nodes that the references of a line lead to. -/
structure Joins (known declared nodes : List (Node α)) (wire : String × String) (edge : Edge) :
    Prop where
  /-- The edge leaves the node of the first reference. -/
  source : ∃ node, Leads known declared nodes wire.1 node ∧ node.id = edge.source
  /-- It enters the node of the second one. -/
  target : ∃ node, Leads known declared nodes wire.2 node ∧ node.id = edge.target

theorem Joins.mono {known declared nodes more : List (Node α)} {wire : String × String}
    {edge : Edge} (joins : Joins known declared nodes wire edge) (front : nodes <+: more) :
    Joins known declared more wire edge := by
  obtain ⟨⟨source, source_leads, source_eq⟩, target, target_leads, target_eq⟩ := joins
  exact ⟨⟨source, source_leads.mono front, source_eq⟩, target, target_leads.mono front, target_eq⟩

section Connect

variable [Scalar α] {context : Context α} {draft after : Draft α} {declared : List (Node α)}

/-- An edge line adds the edge between what its references lead to. -/
theorem exists_edge_of_connect (front : declared <+: draft.graph.nodes) {source target : String}
    {attributes : List (String × String)}
    (done : draft.connect context (.edge source target attributes) = .ok after) :
    ∃ edge, after.graph.edges = draft.graph.edges ++ [edge] ∧
      Joins context.nodes declared after.graph.nodes (source, target) edge := by
  obtain ⟨first, middle, last, before, source_done, target_done, edge, base, drawn, -, source_eq,
    target_eq, -, -, rfl⟩ := Draft.connect_edge_ok done
  have middle_front := (Draft.grows_of_resolve source_done).nodes_front
  have before_front := (Draft.grows_of_resolve target_done).nodes_front
  have source_leads := Draft.leads_of_resolve front source_done
  have target_leads := Draft.leads_of_resolve (front.trans middle_front) target_done
  refine ⟨edge, ?_, ⟨first, source_leads.mono before_front, source_eq.symm⟩,
    last, target_leads, target_eq.symm⟩
  rw [Draft.edges_of_resolve target_done, Draft.edges_of_resolve source_done]

/-- Edge lines add edges between what their references lead to, in order. -/
theorem exists_edges_of_connect {statements : List Statement}
    (front : declared <+: draft.graph.nodes)
    (done : statements.foldlM (Draft.connect context) draft = .ok after) :
    ∃ edges, after.graph.edges = draft.graph.edges ++ edges ∧
      List.Forall₂ (Joins context.nodes declared after.graph.nodes) (wires statements) edges := by
  induction statements generalizing draft with
  | nil =>
      cases done
      exact ⟨[], (List.append_nil _).symm, List.Forall₂.nil⟩
  | cons statement statements induction =>
      obtain ⟨middle, first, rest⟩ := ok_of_foldlM_cons done
      have middle_front := (Draft.grows_of_connect first).nodes_front
      have after_front := (Draft.grows_of_foldlM_connect rest).nodes_front
      obtain ⟨edges, edges_eq, joined⟩ := induction (front.trans middle_front) rest
      cases statement with
      | cluster =>
          cases first
          exact ⟨edges, edges_eq, joined⟩
      | node =>
          cases first
          exact ⟨edges, edges_eq, joined⟩
      | edge source target attributes =>
          obtain ⟨edge, edge_eq, joins⟩ := exists_edge_of_connect front first
          refine ⟨edge :: edges, ?_, List.Forall₂.cons (joins.mono after_front) joined⟩
          rw [edges_eq, edge_eq, List.append_assoc, List.singleton_append]

/-- The nodes of a text that is read are those of its node lines and then new ones, and its edges
join what the references lead to. -/
theorem joins_of_read {text : String} {drawn next : ℕ} {graph : Graph α}
    (done : read context text drawn = .ok (graph, next)) :
    ∃ declared created, graph.nodes = declared ++ created ∧
      declared.map Node.caption = captions (Statement.ofText text) ∧
      List.Forall₂ (Joins context.nodes declared graph.nodes) (wires (Statement.ofText text))
        graph.edges := by
  obtain ⟨declared, draft, tracks, connect_done, rfl⟩ := exists_tracked_of_read done
  obtain ⟨created, nodes_eq, -⟩ := (Draft.floats_of_foldlM_connect connect_done).nodes_eq
  obtain ⟨edges, edges_eq, joined⟩ :=
    exists_edges_of_connect (List.prefix_refl declared.graph.nodes) connect_done
  rw [tracks.edges, List.nil_append] at edges_eq
  exact ⟨declared.graph.nodes, created, nodes_eq, tracks.captions, edges_eq ▸ joined⟩

end Connect

/-- Whether the edges end at nodes that the references of their lines name. -/
def EndsNamed (wires : List (String × String)) (graph : Graph α) : Prop :=
  List.Forall₂ (fun wire edge =>
    (∃ node ∈ graph.nodes, node.id = edge.source ∧ Names wire.1 node) ∧
      ∃ node ∈ graph.nodes, node.id = edge.target ∧ Names wire.2 node) wires graph.edges

instance (wires : List (String × String)) (graph : Graph α) : Decidable (EndsNamed wires graph) :=
  inferInstanceAs (Decidable (List.Forall₂ _ _ _))

/-- Every edge of a text that is read joins the nodes that its references lead to, whatever is known
before: the first nodes that they name, unless a known node that they name has a namesake. On a
canvas of finite width every text is read. -/
theorem read_joins [Scalar α] (context : Context α) (text : String) (drawn : ℕ) :
    (Placement.FiniteWidth context.canvasWidth → ∃ out, read context text drawn = .ok out) ∧
    ∀ graph next, read context text drawn = .ok (graph, next) →
      (graph.nodes.map (·.id)).Nodup ∧
      ∃ declared created, graph.nodes = declared ++ created ∧
        declared.map Node.caption = captions (Statement.ofText text) ∧
        List.Forall₂ (Joins context.nodes declared graph.nodes) (wires (Statement.ofText text))
          graph.edges := by
  refine ⟨fun finite => read_total finite text drawn, fun graph next done => ?_⟩
  obtain ⟨draft, identified, rfl⟩ := identified_of_read done
  exact ⟨identified.nodes.1, joins_of_read done⟩

/-- A node with an alias. -/
def aliased : Context Float where
  nodes := [{ id := "n1", label := "A", name := some "x", x := 500, y := 400 }]
  canvasWidth := 2000
  token := fun _ => "t"

private theorem finiteWidth_aliased : Placement.FiniteWidth aliased.canvasWidth :=
  (Placement.finiteWidth_double_iff 2000).mpr ⟨_, _, _, rfl⟩

/-- The alias has moved to another node. -/
private def moved : String :=
  "Node: A\nNode: B [name=x]\nNode: C\nA -> C"

theorem read_joins_aliased :
    ∃ graph next, read aliased (moved ++ "\n c -> New\nNEW -> x") 0 = .ok (graph, next) ∧
      (graph.nodes.map (·.id)).Nodup ∧
      (graph.edges.map fun edge => (edge.source, edge.target)) =
        [("x-t", "c-t"), ("c-t", "new-t"), ("new-t", "x-t")] ∧
      ∃ declared created, graph.nodes = declared ++ created ∧
        declared.map Node.caption = captions (Statement.ofText (moved ++ "\n c -> New\nNEW -> x")) ∧
        List.Forall₂ (Joins aliased.nodes declared graph.nodes)
          (wires (Statement.ofText (moved ++ "\n c -> New\nNEW -> x"))) graph.edges := by
  have ends : ((read aliased (moved ++ "\n c -> New\nNEW -> x") 0).map fun out =>
      out.1.edges.map fun edge => (edge.source, edge.target)) =
      .ok [("x-t", "c-t"), ("c-t", "new-t"), ("new-t", "x-t")] := by
    decide +kernel
  obtain ⟨total, joins⟩ := read_joins aliased (moved ++ "\n c -> New\nNEW -> x") 0
  obtain ⟨⟨graph, next⟩, done⟩ := total finiteWidth_aliased
  rw [done] at ends
  obtain ⟨distinct, joined⟩ := joins graph next done
  exact ⟨graph, next, done, distinct, Except.ok.inj ends, joined⟩

/-- A reference that is the label of a node of the text leads to another node, the one that goes
under the alias of the known node with that label. -/
theorem not_endsNamed_aliased :
    ∃ graph next, read aliased moved 0 = .ok (graph, next) ∧
      ¬ EndsNamed (wires (Statement.ofText moved)) graph := by
  have refuted : ((read aliased moved 0).map fun out =>
      decide (EndsNamed (wires (Statement.ofText moved)) out.1)) = .ok false := by
    decide +kernel
  obtain ⟨⟨graph, next⟩, done⟩ := read_total finiteWidth_aliased moved 0
  rw [done] at refuted
  exact ⟨graph, next, done, of_decide_eq_false (Except.ok.inj refuted)⟩

end Prompt
end ClusterDiagram
