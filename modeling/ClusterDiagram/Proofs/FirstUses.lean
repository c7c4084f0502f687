import ClusterDiagram.Proofs.References

/-!
# New nodes

When nothing is known from before, a reference that names no node of the text makes a new node at
its first use. Since nodes are added at the end only, the first node that a reference names stays
the first one, and a new node stands for all later uses of its reference in any letter case.
-/

namespace ClusterDiagram

variable {α : Type}

/-! ## First elements of each kind -/

section Kinds

variable {β : Type} (kind : β → String)

/-- The first elements of each kind, in order. -/
def firstOfKinds (elements : List β) : List β :=
  elements.eraseDupsBy fun later first => kind later == kind first

/-- The elements of another kind than a given one. -/
def otherKinds (first : β) (elements : List β) : List β :=
  elements.filter fun later => kind later ≠ kind first

theorem firstOfKinds_cons (first : β) (elements : List β) :
    firstOfKinds kind (first :: elements) =
      first :: firstOfKinds kind (otherKinds kind first elements) := by
  rw [firstOfKinds, List.eraseDupsBy_cons, firstOfKinds, otherKinds]
  simp

theorem length_otherKinds_le (first : β) (elements : List β) :
    (otherKinds kind first elements).length ≤ elements.length :=
  List.length_filter_le _ _

variable {kind}

theorem exists_mem_otherKinds {key : String} {first : β} (apart : kind first ≠ key)
    (elements : List β) :
    (∃ element ∈ otherKinds kind first elements, kind element = key) ↔
      ∃ element ∈ elements, kind element = key := by
  constructor
  · rintro ⟨element, element_mem, element_eq⟩
    exact ⟨element, List.mem_of_mem_filter element_mem, element_eq⟩
  · rintro ⟨element, element_mem, element_eq⟩
    refine ⟨element, List.mem_filter.mpr ⟨element_mem, ?_⟩, element_eq⟩
    exact decide_eq_true (element_eq ▸ apart.symm)

/-- No kind is lost. -/
theorem exists_mem_firstOfKinds {key : String} (elements : List β) :
    (∃ element ∈ firstOfKinds kind elements, kind element = key) ↔
      ∃ element ∈ elements, kind element = key := by
  induction count_eq : elements.length using Nat.strong_induction_on generalizing elements with
  | _ count induction =>
      cases elements with
      | nil => rfl
      | cons first elements =>
          have shorter : (otherKinds kind first elements).length < count :=
            count_eq ▸ Nat.lt_succ_of_le (length_otherKinds_le kind first elements)
          rw [firstOfKinds_cons, List.exists_mem_cons_iff, List.exists_mem_cons_iff,
            induction _ shorter _ rfl]
          by_cases same : kind first = key
          · exact iff_of_true (Or.inl same) (Or.inl same)
          · rw [exists_mem_otherKinds same]

/-- An element that comes last is the first of its kind or is dropped. -/
theorem firstOfKinds_concat (elements : List β) (last : β) :
    firstOfKinds kind (elements ++ [last]) =
      firstOfKinds kind elements ++
        if ∃ element ∈ elements, kind element = kind last then [] else [last] := by
  induction count_eq : elements.length using Nat.strong_induction_on generalizing elements with
  | _ count induction =>
      cases elements with
      | nil => simp [firstOfKinds, List.eraseDupsBy_cons]
      | cons first elements =>
          have shorter : (otherKinds kind first elements).length < count :=
            count_eq ▸ Nat.lt_succ_of_le (length_otherKinds_le kind first elements)
          rw [List.cons_append, firstOfKinds_cons, firstOfKinds_cons, otherKinds,
            List.filter_append]
          by_cases same : kind first = kind last
          · simp [same, otherKinds]
          · have kept : [last].filter (fun later => kind later ≠ kind first) = [last] := by
              simp [Ne.symm same]
            rw [kept, ← otherKinds, induction _ shorter _ rfl, List.cons_append]
            simp only [exists_mem_otherKinds same, List.exists_mem_cons_iff, same, false_or]

end Kinds

namespace Prompt

/-! ## References without nodes -/

/-- The references of some statements in the order of their use. -/
def references (statements : List Statement) : List String :=
  (wires statements).flatMap fun wire => [wire.1, wire.2]

theorem references_append (statements more : List Statement) :
    references (statements ++ more) = references statements ++ references more := by
  rw [references, wires, List.filterMap_append, List.flatMap_append]
  rfl

/-- The references that name none of some nodes, each at its first use in any letter case. -/
def newcomers (declared : List (Node α)) (references : List String) : List String :=
  firstOfKinds Text.foldKey
    (references.filter fun reference => ∀ node ∈ declared, ¬ Names reference node)

/-- What a node that stands for a reference says: the reference, no alias, and no cluster. -/
def newNode (reference : String) : String × Option String × Option String :=
  (Text.trim reference, none, none)

section Newcomers

variable {declared : List (Node α)} {earlier : List String} {reference other : String}

/-- The same reference in another letter case names the same nodes. -/
theorem names_of_foldKey_eq {node : Node α} (same : Text.foldKey other = Text.foldKey reference) :
    Names other node ↔ Names reference node := by
  rw [Text.foldKey, Text.foldKey] at same
  rw [Names, Names, same]

theorem exists_mem_unnamed (unnamed : ∀ node ∈ declared, ¬ Names reference node) :
    (∃ other ∈ earlier.filter fun other => ∀ node ∈ declared, ¬ Names other node,
        Text.foldKey other = Text.foldKey reference) ↔
      ∃ other ∈ earlier, Text.foldKey other = Text.foldKey reference := by
  constructor
  · rintro ⟨other, other_mem, same⟩
    exact ⟨other, List.mem_of_mem_filter other_mem, same⟩
  · rintro ⟨other, other_mem, same⟩
    refine ⟨other, List.mem_filter.mpr ⟨other_mem, decide_eq_true ?_⟩, same⟩
    intro node node_mem named
    exact unnamed node node_mem ((names_of_foldKey_eq same).mp named)

/-- A reference that names no declared node is met again among the newcomers. -/
theorem exists_mem_newcomers (unnamed : ∀ node ∈ declared, ¬ Names reference node) :
    (∃ other ∈ newcomers declared earlier, Text.foldKey other = Text.foldKey reference) ↔
      ∃ other ∈ earlier, Text.foldKey other = Text.foldKey reference :=
  (exists_mem_firstOfKinds _).trans (exists_mem_unnamed unnamed)

/-- A reference is a newcomer unless it names a declared node or was used before. -/
theorem newcomers_concat (declared : List (Node α)) (earlier : List String) (reference : String) :
    newcomers declared (earlier ++ [reference]) =
      newcomers declared earlier ++
        if (∃ node ∈ declared, Names reference node) ∨
          ∃ other ∈ earlier, Text.foldKey other = Text.foldKey reference
        then [] else [reference] := by
  rw [newcomers, List.filter_append]
  by_cases named : ∃ node ∈ declared, Names reference node
  · have dropped : decide (∀ node ∈ declared, ¬ Names reference node) = false := by
      simpa using named
    rw [if_pos (Or.inl named), List.filter_singleton, dropped, cond_false, List.append_nil,
      List.append_nil, newcomers]
  · have unnamed : ∀ node ∈ declared, ¬ Names reference node := by simpa using named
    rw [List.filter_singleton, decide_eq_true unnamed, cond_true, firstOfKinds_concat, newcomers]
    simp only [exists_mem_unnamed unnamed, named, false_or]

end Newcomers

namespace Draft

/-- A draft whose nodes are the declared ones and one for every newcomer among the references that
were used. -/
def Collects (declared : List (Node α)) (references : List String) (draft : Draft α) : Prop :=
  ∃ created, draft.graph.nodes = declared ++ created ∧
    (created.map fun node => (node.label, node.name, node.cluster)) =
      (newcomers declared references).map newNode

section Collects

variable {declared : List (Node α)} {earlier : List String} {draft after : Draft α}
  {reference : String}

/-- A reference names a node of the draft when it names a declared one or was used before. -/
theorem Collects.exists_named_iff (collects : draft.Collects declared earlier)
    (reference : String) :
    (∃ node ∈ draft.graph.nodes, Names reference node) ↔
      (∃ node ∈ declared, Names reference node) ∨
        ∃ other ∈ earlier, Text.foldKey other = Text.foldKey reference := by
  obtain ⟨created, nodes_eq, created_eq⟩ := collects
  by_cases named : ∃ node ∈ declared, Names reference node
  · obtain ⟨node, node_mem, node_named⟩ := named
    refine iff_of_true ⟨node, ?_, node_named⟩ (Or.inl ⟨node, node_mem, node_named⟩)
    exact nodes_eq ▸ List.mem_append_left _ node_mem
  · have unnamed : ∀ node ∈ declared, ¬ Names reference node := by simpa using named
    rw [or_iff_right named, ← exists_mem_newcomers unnamed, nodes_eq]
    constructor
    · rintro ⟨node, node_mem, node_named⟩
      have node_mem := (List.mem_append.mp node_mem).resolve_left fun own =>
        unnamed node own node_named
      obtain ⟨other, other_mem, other_eq⟩ := exists_mem_of_map_eq created_eq node_mem
      obtain ⟨label_eq, name_eq, -⟩ : Text.trim other = node.label ∧ none = node.name ∧
          none = node.cluster := by
        simpa [newNode] using other_eq
      refine ⟨other, other_mem, ?_⟩
      rcases node_named with ⟨name, name_some, -⟩ | label_named
      · rw [← name_eq] at name_some
        cases name_some
      · rw [Text.foldKey, Text.foldKey, label_eq, label_named]
    · rintro ⟨other, other_mem, same⟩
      obtain ⟨node, node_mem, node_eq⟩ := exists_mem_of_map_eq created_eq.symm other_mem
      obtain ⟨label_eq, -⟩ : node.label = Text.trim other ∧ node.name = none ∧
          node.cluster = none := by
        simpa [newNode] using node_eq
      refine ⟨node, List.mem_append_right _ node_mem, Or.inr ?_⟩
      rw [label_eq]
      exact same

variable [Scalar α] {context : Context α}

/-- A reference to a node of the draft adds nothing, any other one adds its node. -/
theorem Collects.resolve (unknown : context.nodes = []) (collects : draft.Collects declared earlier)
    {node : Node α} (done : draft.resolve context reference = .ok (node, after)) :
    after.Collects declared (earlier ++ [reference]) := by
  have exists_named_iff := collects.exists_named_iff reference
  obtain ⟨created, nodes_eq, created_eq⟩ := collects
  rcases resolve_of_unknown unknown done with ⟨found, rfl⟩ | ⟨absent, added⟩
  · rw [find?_matchesKey] at found
    have met := exists_named_iff.mp ⟨node, firstNamed?_eq_some found⟩
    refine ⟨created, nodes_eq, ?_⟩
    rw [newcomers_concat, if_pos met, List.append_nil, created_eq]
  · rw [find?_matchesKey, firstNamed?_eq_none_iff] at absent
    have new := mt exists_named_iff.mpr absent
    obtain ⟨label_eq, name_eq, cluster_eq, base, drawn, -, rfl⟩ := addNode_ok added
    refine ⟨created ++ [node], ?_, ?_⟩
    · dsimp only
      rw [nodes_eq, List.append_assoc]
    · rw [newcomers_concat, if_neg new, List.map_append, List.map_append, created_eq,
        List.map_singleton, label_eq, name_eq, cluster_eq]
      rfl

theorem Collects.connect (unknown : context.nodes = [])
    (collects : draft.Collects declared earlier) {statement : Statement}
    (done : draft.connect context statement = .ok after) :
    after.Collects declared (earlier ++ references [statement]) := by
  cases statement with
  | cluster indent label =>
      cases done
      exact (List.append_nil earlier).symm ▸ collects
  | node label name =>
      cases done
      exact (List.append_nil earlier).symm ▸ collects
  | edge source target attributes =>
      obtain ⟨first, middle, last, before, source_done, target_done, edge, base, drawn, -, -, -, -,
        -, rfl⟩ := connect_edge_ok done
      have collects := (collects.resolve unknown source_done).resolve unknown target_done
      rw [List.append_assoc] at collects
      exact collects

theorem Collects.foldlM_connect (unknown : context.nodes = [])
    (collects : draft.Collects declared earlier) {statements : List Statement}
    (done : statements.foldlM (Draft.connect context) draft = .ok after) :
    after.Collects declared (earlier ++ references statements) := by
  induction statements generalizing draft earlier with
  | nil =>
      cases done
      exact (List.append_nil earlier).symm ▸ collects
  | cons statement statements induction =>
      obtain ⟨middle, first, rest⟩ := ok_of_foldlM_cons done
      have collected := induction (collects.connect unknown first) rest
      rwa [List.append_assoc, ← references_append, List.singleton_append] at collected

end Collects

end Draft

/-- A text that is read while no nodes are known gives the nodes of its node lines in order, and
behind them one floating node for every reference that names none of those, in the order of first
use and under the first spelling. Every end of an edge is the first node that its reference names.
On a canvas of finite width every text is read. -/
theorem read_firstUses [Scalar α] (clusters : List (Cluster α)) (canvasWidth : α)
    (token : ℕ → String) (text : String) (drawn : ℕ) :
    (Placement.FiniteWidth canvasWidth →
      ∃ out, read { clusters, canvasWidth, token } text drawn = .ok out) ∧
    ∀ graph next, read { clusters, canvasWidth, token } text drawn = .ok (graph, next) →
      (graph.nodes.map (·.id)).Nodup ∧
      (∃ declared created, graph.nodes = declared ++ created ∧
        declared.map Node.caption = captions (Statement.ofText text) ∧
        (created.map fun node => (node.label, node.name, node.cluster)) =
          (newcomers declared (references (Statement.ofText text))).map newNode) ∧
      List.Forall₂ (fun wire edge =>
        (firstNamed? wire.1 graph.nodes).map (·.id) = some edge.source ∧
          (firstNamed? wire.2 graph.nodes).map (·.id) = some edge.target)
        (wires (Statement.ofText text)) graph.edges := by
  refine ⟨fun finite => read_total finite text drawn, fun graph next done => ?_⟩
  obtain ⟨own, -, -, -, joined⟩ := joins_of_read done
  obtain ⟨draft, identified, graph_eq⟩ := identified_of_read done
  refine ⟨graph_eq ▸ identified.nodes.1, ?_, ?_⟩
  · obtain ⟨declared, draft, tracks, connect_done, rfl⟩ := exists_tracked_of_read done
    have start : declared.Collects declared.graph.nodes [] :=
      ⟨[], (List.append_nil _).symm, rfl⟩
    obtain ⟨created, nodes_eq, created_eq⟩ := start.foldlM_connect rfl connect_done
    exact ⟨declared.graph.nodes, created, nodes_eq, tracks.captions, created_eq⟩
  · refine joined.imp fun wire edge joins => ?_
    obtain ⟨⟨source, source_leads, source_eq⟩, target, target_leads, target_eq⟩ := joins
    rw [source_leads.first_of_unknown, target_leads.first_of_unknown]
    exact ⟨congrArg some source_eq, congrArg some target_eq⟩

/-- References before and behind the declarations, by alias and by label, in any letter case. -/
private def crossing : String :=
  "x -> WEB\nCluster: Z\n  Node: Web [name=google]\nGoogle -> New\nNode: Store [name=x]\n" ++
    "new -> X\nΟΔΟΣ -> store\nNEW -> οδος"

theorem read_firstUses_crossing :
    ∃ graph next, read { canvasWidth := (1200 : Float), token := fun _ => "t" } crossing 0 =
        .ok (graph, next) ∧
      (graph.nodes.map fun node => (node.label, node.name, node.cluster)) =
        [("Web", some "google", some "z"), ("Store", some "x", some "z"), ("New", none, none),
          ("ΟΔΟΣ", none, none)] ∧
      (graph.nodes.map (·.id)).Nodup ∧
      (∃ declared created, graph.nodes = declared ++ created ∧
        declared.map Node.caption = captions (Statement.ofText crossing) ∧
        (created.map fun node => (node.label, node.name, node.cluster)) =
          (newcomers declared (references (Statement.ofText crossing))).map newNode) ∧
      List.Forall₂ (fun wire edge =>
        (firstNamed? wire.1 graph.nodes).map (·.id) = some edge.source ∧
          (firstNamed? wire.2 graph.nodes).map (·.id) = some edge.target)
        (wires (Statement.ofText crossing)) graph.edges := by
  have finite : Placement.FiniteWidth (1200 : Float) :=
    (Placement.finiteWidth_double_iff 1200).mpr ⟨_, _, _, rfl⟩
  have contents : ((read { canvasWidth := (1200 : Float), token := fun _ => "t" } crossing 0).map
      fun out => out.1.nodes.map fun node => (node.label, node.name, node.cluster)) =
      .ok [("Web", some "google", some "z"), ("Store", some "x", some "z"), ("New", none, none),
        ("ΟΔΟΣ", none, none)] := by
    decide +kernel
  obtain ⟨total, reads⟩ := read_firstUses [] (1200 : Float) (fun _ => "t") crossing 0
  obtain ⟨⟨graph, next⟩, done⟩ := total finite
  rw [done] at contents
  exact ⟨graph, next, done, Except.ok.inj contents, reads graph next done⟩

end Prompt

end ClusterDiagram
