import ClusterDiagram.Prompt.Reader
import ClusterDiagram.Proofs.Computations
import ClusterDiagram.Proofs.TextLines
import Mathlib.Logic.Relation

/-!
# How a draft grows

A line adds clusters, nodes and edges to a draft, one at a time and at the end. What each single
addition keeps is kept by the reading of a whole text.
-/

namespace ClusterDiagram

/-- The label of a cluster line can be made an id. -/
theorem Statement.slug_ne_empty {line : List Char} {indent : Nat} {label : String}
    (read : ofLine? line = some (.cluster indent label)) : Text.slug label ≠ "" := by
  apply Text.slug_ne_empty_of_startsInk
  rw [ofLine?] at read
  split at read
  · rename_i chars found
    cases read
    rw [clusterLabel?] at found
    split at found
    · cases found
    · rename_i rest _
      have first := List.head?_dropWhile_not Text.isBlank rest
      split at found
      · cases found
      · cases found
        rename_i filled
        rw [String.toList_ofList]
        cases body : rest.dropWhile Text.isBlank with
        | nil => exact absurd body filled
        | cons c cs =>
            rw [body] at first
            exact ⟨c, rfl, first⟩
  · split at read
    · cases read
    · split at read <;> cases read

theorem Statement.slug_ne_empty_of_mem {text : String} {indent : Nat} {label : String}
    (listed : .cluster indent label ∈ ofText text) : Text.slug label ≠ "" := by
  obtain ⟨line, -, read⟩ := List.mem_filterMap.mp listed
  exact slug_ne_empty read

namespace Prompt

variable {α : Type} [Scalar α] {context : Context α}

namespace Draft

variable {draft after : Draft α}

/-! ## Additions -/

/-- One addition to a draft. -/
inductive Step (context : Context α) : Draft α → Draft α → Prop where
  /-- A cluster whose label can be made an id. -/
  | cluster (draft : Draft α) (indent : Nat) {label : String} (filled : Text.slug label ≠ "") :
      Step context draft (draft.addCluster indent label)
  /-- A node in the innermost open cluster or in none. Its position is that of a known node unless
  a free place is found for it. -/
  | node {draft after : Draft α} {label : String} {name cluster : Option String}
      {position : Option (Point α)} {node : Node α}
      (inside : cluster = draft.innermost ∨ cluster = none)
      (origin : position = none ∨ ∃ known ∈ context.nodes, position = some ⟨known.x, known.y⟩)
      (added : draft.addNode context label name cluster position = .ok (node, after)) :
      Step context draft after
  /-- An edge between two nodes of the draft. -/
  | edge (draft : Draft α) (edge : Edge) (base : String) (drawn : Nat)
      (id_eq : edge.id = FreshId.fresh base draft.ids)
      (source_mem : edge.source ∈ draft.graph.nodes.map (·.id))
      (target_mem : edge.target ∈ draft.graph.nodes.map (·.id)) :
      Step context draft { draft with
        graph := { draft.graph with edges := draft.graph.edges ++ [edge] }
        ids := edge.id :: draft.ids
        drawn }

/-- Any number of additions to a draft. -/
def Grows (context : Context α) : Draft α → Draft α → Prop :=
  Relation.ReflTransGen (Step context)

/-- What every addition keeps is kept while a draft grows. -/
theorem Grows.keeps {holds : Draft α → Prop}
    (step : ∀ {before next}, Step context before next → holds before → holds next)
    (grows : Grows context draft after) (initial : holds draft) : holds after := by
  induction grows with
  | refl => exact initial
  | tail _ last kept => exact step last kept

/-- A node that is added is what it is to be, with an id of its own. -/
theorem addNode_ok {label : String} {name cluster : Option String} {position : Option (Point α)}
    {node : Node α} (done : addNode context draft label name cluster position = .ok (node, after)) :
    node.label = label ∧ node.name = name ∧ node.cluster = cluster ∧
      ∃ base drawn, node.id = FreshId.fresh base draft.ids ∧
        after = { draft with
          graph := { draft.graph with nodes := draft.graph.nodes ++ [node] }
          ids := node.id :: draft.ids
          drawn } := by
  simp only [addNode, giveTokenId, giveId] at done
  split at done
  · cases done
  · cases done
    exact ⟨rfl, rfl, rfl, _, _, rfl, rfl⟩

/-- Nodes are added behind those that are there. -/
theorem Grows.nodes_front (grows : Grows context draft after) :
    draft.graph.nodes <+: after.graph.nodes := by
  apply grows.keeps _ (List.prefix_refl _)
  intro before next step front
  cases step with
  | cluster => exact front
  | node _ _ added =>
      obtain ⟨-, -, -, base, drawn, -, rfl⟩ := addNode_ok added
      exact front.trans (List.prefix_append _ _)
  | edge => exact front

/-- Clusters are added behind those that are there. -/
theorem Grows.clusters_front (grows : Grows context draft after) :
    draft.graph.clusters <+: after.graph.clusters := by
  apply grows.keeps _ (List.prefix_refl _)
  intro before next step front
  cases step with
  | cluster => exact front.trans (List.prefix_append _ _)
  | node _ _ added =>
      obtain ⟨-, -, -, base, drawn, -, rfl⟩ := addNode_ok added
      exact front
  | edge => exact front

/-! ## Declarations -/

theorem grows_of_declare {statement : Statement}
    (filled : ∀ indent label, statement = .cluster indent label → Text.slug label ≠ "")
    (done : draft.declare context statement = .ok after) : Grows context draft after := by
  cases statement with
  | cluster indent label =>
      cases done
      exact .single (.cluster draft indent (filled indent label rfl))
  | node label name =>
      obtain ⟨⟨node, _⟩, added, rfl⟩ := ok_of_map done
      exact .single (.node (.inl rfl) (.inl rfl) added)
  | edge source target attributes =>
      cases done
      exact .refl

/-! ## References -/

/-- A reference leads to a node of the draft, or to one that is added to it outside of clusters. -/
theorem resolve_ok {reference : String} {node : Node α}
    (done : draft.resolve context reference = .ok (node, after)) :
    after = draft ∧ node ∈ draft.graph.nodes ∨
      ∃ label name position,
        (position = none ∨ ∃ known ∈ context.nodes, position = some ⟨known.x, known.y⟩) ∧
        draft.addNode context label name none position = .ok (node, after) := by
  have listed {p : Node α → Bool} (found : draft.graph.nodes.find? p = some node) :
      draft = draft ∧ node ∈ draft.graph.nodes :=
    ⟨rfl, List.mem_of_find?_eq_some found⟩
  rw [resolve, resolveReference] at done
  cases known : context.nodes.find? (matchesKey (Text.foldKey reference)) with
  | some other =>
      simp only [known] at done
      split at done
      · rename_i found
        cases done
        exact Or.inl (listed found)
      · split at done
        · rename_i found
          cases done
          exact Or.inl (listed found)
        · have other_mem := List.mem_of_find?_eq_some known
          exact Or.inr ⟨_, _, _, Or.inr ⟨other, other_mem, rfl⟩, done⟩
  | none =>
      cases own : draft.graph.nodes.find? (matchesKey (Text.foldKey reference)) with
      | some other =>
          simp only [known, own] at done
          cases done
          exact Or.inl (listed own)
      | none =>
          simp only [known, own] at done
          exact Or.inr ⟨_, _, _, Or.inl rfl, done⟩

/-- While no nodes are known a reference leads to a node of the text or to a new one. -/
theorem resolve_of_unknown (unknown : context.nodes = []) {reference : String} {node : Node α}
    (done : draft.resolve context reference = .ok (node, after)) :
    draft.graph.nodes.find? (matchesKey (Text.foldKey reference)) = some node ∧ after = draft ∨
      draft.graph.nodes.find? (matchesKey (Text.foldKey reference)) = none ∧
        draft.addNode context (Text.trim reference) none none none = .ok (node, after) := by
  simp only [resolve, resolveReference, unknown, List.find?_nil] at done
  cases found : draft.graph.nodes.find? (matchesKey (Text.foldKey reference)) with
  | some other =>
      rw [found] at done
      cases done
      exact Or.inl ⟨rfl, rfl⟩
  | none =>
      rw [found] at done
      exact Or.inr ⟨rfl, done⟩

theorem grows_of_resolve {reference : String} {node : Node α}
    (done : draft.resolve context reference = .ok (node, after)) : Grows context draft after := by
  rcases resolve_ok done with ⟨rfl, -⟩ | ⟨label, name, position, origin, added⟩
  · exact .refl
  · exact .single (.node (.inr rfl) origin added)

/-- A reference leads to a node of the draft that it leaves behind. -/
theorem mem_of_resolve {reference : String} {node : Node α}
    (done : draft.resolve context reference = .ok (node, after)) : node ∈ after.graph.nodes := by
  rcases resolve_ok done with ⟨rfl, node_mem⟩ | ⟨label, name, position, -, added⟩
  · exact node_mem
  · obtain ⟨-, -, -, base, drawn, -, rfl⟩ := addNode_ok added
    exact List.mem_append_right _ List.mem_cons_self

/-! ## Edge lines -/

/-- An edge line adds an edge between the nodes that its references lead to. -/
theorem connect_edge_ok {source target : String} {attributes : List (String × String)}
    (done : draft.connect context (.edge source target attributes) = .ok after) :
    ∃ first middle last before, draft.resolve context source = .ok (first, middle) ∧
      middle.resolve context target = .ok (last, before) ∧
      ∃ (edge : Edge) (base : String) (drawn : Nat),
        edge.id = FreshId.fresh base before.ids ∧ edge.source = first.id ∧ edge.target = last.id ∧
        edge.label = Attributes.findEither? "label" "lable" attributes ∧
        edge.style = EdgeStyle.ofText? (Attributes.findEither? "arrow" "type" attributes) ∧
        after = { before with
          graph := { before.graph with edges := before.graph.edges ++ [edge] }
          ids := edge.id :: before.ids
          drawn } := by
  obtain ⟨⟨first, middle⟩, source_done, done⟩ := ok_of_bind done
  obtain ⟨⟨last, before⟩, target_done, done⟩ := ok_of_bind done
  simp only [giveTokenId, giveId, pure, Except.pure, Except.ok.injEq] at done
  refine ⟨first, middle, last, before, source_done, target_done, _,
    "e-" ++ first.id ++ "-" ++ last.id ++ "-" ++ context.token before.drawn, _, ?_, ?_, ?_, ?_, ?_,
    done.symm⟩
  all_goals dsimp only

theorem grows_of_connect {statement : Statement}
    (done : draft.connect context statement = .ok after) : Grows context draft after := by
  cases statement with
  | cluster indent label =>
      cases done
      exact .refl
  | node label name =>
      cases done
      exact .refl
  | edge source target attributes =>
      obtain ⟨first, middle, last, before, source_done, target_done, edge, base, drawn, id_eq,
        source_eq, target_eq, -, -, rfl⟩ := connect_edge_ok done
      have grows := grows_of_resolve target_done
      have source_mem : edge.source ∈ before.graph.nodes.map (·.id) :=
        source_eq ▸ List.mem_map_of_mem (grows.nodes_front.subset (mem_of_resolve source_done))
      have target_mem : edge.target ∈ before.graph.nodes.map (·.id) :=
        target_eq ▸ List.mem_map_of_mem (mem_of_resolve target_done)
      exact ((grows_of_resolve source_done).trans grows).tail
        (.edge before edge base drawn id_eq source_mem target_mem)

/-! ## Texts -/

theorem grows_of_foldlM_declare {statements : List Statement}
    (filled : ∀ indent label, .cluster indent label ∈ statements → Text.slug label ≠ "")
    (done : statements.foldlM (declare context) draft = .ok after) : Grows context draft after := by
  apply foldlM_invariant _ done .refl
  rintro statement statement_mem before next step grows
  exact grows.trans (grows_of_declare
    (fun indent label statement_eq => filled indent label (statement_eq ▸ statement_mem)) step)

theorem grows_of_foldlM_connect {statements : List Statement}
    (done : statements.foldlM (connect context) draft = .ok after) : Grows context draft after :=
  foldlM_invariant (fun _ _ _ _ step grows => grows.trans (grows_of_connect step)) done .refl

end Draft

section Texts

variable {text : String} {drawn next : Nat} {graph : Graph α}

/-- A text is read in two rounds. -/
theorem rounds_of_read (done : read context text drawn = .ok (graph, next)) :
    ∃ declared draft : Draft α,
      (Statement.ofText text).foldlM (Draft.declare context) { drawn } = .ok declared ∧
      (Statement.ofText text).foldlM (Draft.connect context) declared = .ok draft ∧
      draft.graph = graph := by
  obtain ⟨draft, build_done, result⟩ := ok_of_bind done
  cases result
  obtain ⟨declared, declare_done, connect_done⟩ := ok_of_bind build_done
  exact ⟨declared, draft, declare_done, connect_done, rfl⟩

/-- What is read is the diagram of a draft that has grown from the empty one. -/
theorem grows_of_read (done : read context text drawn = .ok (graph, next)) :
    ∃ draft, Draft.Grows context { drawn } draft ∧ draft.graph = graph := by
  obtain ⟨declared, draft, declare_done, connect_done, rfl⟩ := rounds_of_read done
  have declared_grows : Draft.Grows context { drawn } declared :=
    Draft.grows_of_foldlM_declare (fun _ _ => Statement.slug_ne_empty_of_mem) declare_done
  exact ⟨draft, declared_grows.trans (Draft.grows_of_foldlM_connect connect_done), rfl⟩

end Texts

end Prompt
end ClusterDiagram
