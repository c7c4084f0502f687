import ClusterDiagram.Proofs.ReadValidity
import ClusterDiagram.Proofs.Remerging

/-!
# Reading a text again

A text that is read against the diagram that it gave is read as the same diagram under other ids: an
endpoint that was a new node at first is known by now, and a copy of the known node takes its place.
Merging brings the first ids and positions back, so that nothing drifts.
-/

namespace ClusterDiagram

variable {α : Type}

/-- The texts of a node, which are all that references and keys depend on. -/
def Node.caption (node : Node α) : String × Option String :=
  (node.label, node.name)

theorem Node.key_eq_of_caption_eq {node other : Node α} (same : node.caption = other.caption) :
    node.key = other.key := by
  rw [caption, caption, Prod.mk.injEq] at same
  rw [key, key, same.1, same.2]

theorem Node.map_key_of_map_caption {nodes others : List (Node α)}
    (same : nodes.map caption = others.map caption) : nodes.map key = others.map key :=
  map_eq_map_of_indices same fun _ _ _ _ _ => key_eq_of_caption_eq

theorem Graph.captions_of_skeleton_eq {graph other : Graph α}
    (same : other.skeleton = graph.skeleton) :
    other.nodes.map Node.caption = graph.nodes.map Node.caption := by
  apply map_eq_map_of_indices (congrArg Skeleton.nodes same)
  intro index node another _ _ content
  simp only [Prod.mk.injEq] at content
  rw [Node.caption, Node.caption, content.1, content.2.1]

/-- A search in lists that agree finds elements at the same place. -/
theorem exists_find?_of_map_eq {β γ δ : Type} {first : List β} {second : List γ} {f : β → δ}
    {g : γ → δ} (same : first.map f = second.map g) {p : β → Bool} {q : γ → Bool}
    (agree : ∀ element other, f element = g other → p element = q other) {element : β}
    (found : first.find? p = some element) :
    ∃ (index : Nat) (other : γ), first[index]? = some element ∧ second[index]? = some other ∧
      f element = g other ∧ second.find? q = some other := by
  induction first generalizing second with
  | nil => cases found
  | cons head first induction =>
      cases second with
      | nil => cases same
      | cons other second =>
          rw [List.map_cons, List.map_cons, List.cons.injEq] at same
          have accepted := agree head other same.1
          rw [List.find?_cons] at found ⊢
          rw [← accepted]
          cases hit : p head with
          | true =>
              simp only [hit, Option.some.injEq] at found
              exact ⟨0, other, congrArg some found, rfl, found ▸ same.1, rfl⟩
          | false =>
              simp only [hit] at found
              obtain ⟨index, another, at_index, other_at_index, rest⟩ := induction same.2 found
              exact ⟨index + 1, another, at_index, other_at_index, rest⟩

theorem find?_eq_none_of_map_eq {β γ δ : Type} {first : List β} {second : List γ} {f : β → δ}
    {g : γ → δ} (same : first.map f = second.map g) {p : β → Bool} {q : γ → Bool}
    (agree : ∀ element other, f element = g other → p element = q other)
    (absent : first.find? p = none) : second.find? q = none := by
  rw [List.find?_eq_none] at absent ⊢
  intro other other_mem
  obtain ⟨element, element_mem, same_view⟩ := exists_mem_of_map_eq same.symm other_mem
  rw [← agree element other same_view]
  exact absent element element_mem

namespace Prompt

/-! ## Drafts that hold the same -/

namespace Draft

/-- The open clusters by index, the innermost first, with their indentations. -/
def openIndices (draft : Draft α) : List (Nat × Nat) :=
  draft.enclosing.map fun entry => (draft.graph.clusterIndex entry.1, entry.2)

/-- Two drafts that hold the same under different ids. -/
structure Alike (draft other : Draft α) : Prop where
  /-- The diagrams hold the same. -/
  skeleton : other.graph.skeleton = draft.graph.skeleton
  /-- The same clusters are open. -/
  openIndices : other.openIndices = draft.openIndices

variable {draft after other image : Draft α}

theorem map_fst_head?_openIndices (entries : List (String × Nat)) (draft : Draft α) :
    ((entries.map fun entry => (draft.graph.clusterIndex entry.1, entry.2)).head?.map (·.1)) =
      (entries.head?.map (·.1)).map draft.graph.clusterIndex := by
  rw [List.head?_map, Option.map_map, Option.map_map]
  rfl

theorem Alike.innermost (alike : Alike draft other) :
    other.innermost.map other.graph.clusterIndex =
      draft.innermost.map draft.graph.clusterIndex := by
  rw [Draft.innermost, Draft.innermost, ← map_fst_head?_openIndices, ← map_fst_head?_openIndices]
  exact congrArg (fun entries => entries.head?.map (·.1)) alike.openIndices

/-- The clusters that stay open when a line of some indentation comes. -/
def stillOpen (draft : Draft α) (indent : Nat) : List (Nat × Nat) :=
  draft.openIndices.dropWhile fun entry => indent ≤ entry.2

theorem Sound.skeleton_addCluster (sound : draft.Sound) (indent : Nat) (label : String) :
    (draft.addCluster indent label).graph.skeleton =
      { draft.graph.skeleton with
        clusters := draft.graph.skeleton.clusters ++
          [(label, (draft.stillOpen indent).head?.map (·.1))] } := by
  have listed (parent : String) (parent_eq : ((draft.enclosing.dropWhile fun entry =>
      decide (indent ≤ entry.2)).head?.map (·.1)) = some parent) :
      parent ∈ draft.graph.clusters.map (·.id) := by
    obtain ⟨entry, head_eq, rfl⟩ := Option.map_eq_some_iff.mp parent_eq
    exact sound.openListed entry ((List.dropWhile_sublist _).subset (List.mem_of_mem_head? head_eq))
  rw [stillOpen, openIndices, List.dropWhile_map, map_fst_head?_openIndices]
  exact Graph.skeleton_addCluster sound.wellFormed.toValid listed

theorem Sound.openIndices_addCluster (sound : draft.Sound) (indent : Nat) (label : String) :
    (draft.addCluster indent label).openIndices =
      (draft.graph.clusters.length, indent) :: draft.stillOpen indent := by
  have new := FreshId.fresh_not_mem (Text.slug label) draft.ids
  have last : (draft.addCluster indent label).graph.clusterIndex
      (FreshId.fresh (Text.slug label) draft.ids) = draft.graph.clusters.length := by
    simp only [Draft.addCluster, giveId, Graph.clusterIndex, List.map_append]
    rw [List.idxOf_append_of_notMem fun old => new (sound.clusters.2 old)]
    simp
  have front : draft.graph.clusters <+: (draft.addCluster indent label).graph.clusters :=
    List.prefix_append _ _
  have kept : (draft.addCluster indent label).openIndices =
      ((draft.addCluster indent label).graph.clusterIndex
        (FreshId.fresh (Text.slug label) draft.ids), indent) ::
        (draft.enclosing.dropWhile fun entry => decide (indent ≤ entry.2)).map fun entry =>
          ((draft.addCluster indent label).graph.clusterIndex entry.1, entry.2) := rfl
  rw [kept, last, stillOpen, openIndices, List.dropWhile_map]
  congr 1
  apply List.map_congr_left
  intro entry entry_mem
  rw [Graph.clusterIndex_of_front front
    (sound.openListed entry ((List.dropWhile_sublist _).subset entry_mem))]

theorem Alike.addCluster (alike : Alike draft other) (sound : draft.Sound)
    (other_sound : other.Sound) (indent : Nat) (label : String) :
    Alike (draft.addCluster indent label) (other.addCluster indent label) := by
  have open_eq : other.stillOpen indent = draft.stillOpen indent :=
    congrArg (List.dropWhile _) alike.openIndices
  have length_eq := congrArg (fun skeleton => skeleton.clusters.length) alike.skeleton
  simp only [Graph.skeleton, List.length_map] at length_eq
  constructor
  · rw [sound.skeleton_addCluster, other_sound.skeleton_addCluster, alike.skeleton, open_eq]
  · rw [sound.openIndices_addCluster, other_sound.openIndices_addCluster, open_eq, length_eq]

section Steps

variable [Scalar α] {context context' : Context α}

theorem Alike.addNode (alike : Alike draft other) (sound : draft.Sound) (other_sound : other.Sound)
    {label : String} {name cluster cluster' : Option String} {position position' : Option (Point α)}
    {node node' : Node α}
    (listed : ∀ id, cluster = some id → id ∈ draft.graph.clusters.map (·.id))
    (other_listed : ∀ id, cluster' = some id → id ∈ other.graph.clusters.map (·.id))
    (clusters_eq : cluster'.map other.graph.clusterIndex = cluster.map draft.graph.clusterIndex)
    (done : draft.addNode context label name cluster position = .ok (node, after))
    (other_done : other.addNode context' label name cluster' position' = .ok (node', image)) :
    Alike after image ∧ image.graph.nodeIndex node'.id = after.graph.nodeIndex node.id := by
  have valid := (sound.addNode listed done).wellFormed.toValid
  have other_valid := (other_sound.addNode other_listed other_done).wellFormed.toValid
  obtain ⟨rfl, rfl, rfl, -, drawn, -, rfl⟩ := addNode_ok done
  obtain ⟨label_eq, name_eq, rfl, -, other_drawn, -, rfl⟩ := addNode_ok other_done
  constructor
  · constructor
    · rw [Graph.skeleton_addNode sound.wellFormed.toValid,
        Graph.skeleton_addNode other_sound.wellFormed.toValid, alike.skeleton, label_eq, name_eq,
        clusters_eq]
    · exact alike.openIndices
  · have length_eq := congrArg (fun skeleton => skeleton.nodes.length) alike.skeleton
    simp only [Graph.skeleton, List.length_map] at length_eq
    rw [Graph.nodeIndex_getElem valid List.getElem?_concat_length,
      Graph.nodeIndex_getElem other_valid List.getElem?_concat_length, length_eq]

theorem Alike.declare (alike : Alike draft other) (sound : draft.Sound) (other_sound : other.Sound)
    {statement : Statement} (done : draft.declare context statement = .ok after)
    (other_done : other.declare context' statement = .ok image) : Alike after image := by
  cases statement with
  | cluster indent label =>
      cases done
      cases other_done
      exact alike.addCluster sound other_sound indent label
  | node label name =>
      obtain ⟨⟨node, _⟩, added, rfl⟩ := ok_of_map done
      obtain ⟨⟨node', _⟩, other_added, rfl⟩ := ok_of_map other_done
      exact (alike.addNode sound other_sound (fun _ => sound.innermost_listed)
        (fun _ => other_sound.innermost_listed) alike.innermost added other_added).1
  | edge source target attributes =>
      cases done
      cases other_done
      exact alike

/-! ## References -/

/-- A known node is represented by its namesake in the text. -/
theorem resolve_of_namesake {reference : String} {found namesake node : Node α}
    (known : context.nodes.find? (matchesKey (Text.foldKey reference)) = some found)
    (present : draft.graph.nodes.find? (fun other => other.key == found.key) = some namesake)
    (done : draft.resolve context reference = .ok (node, after)) :
    node = namesake ∧ after = draft := by
  simp only [resolve, resolveReference, known, present] at done
  cases done
  exact ⟨rfl, rfl⟩

/-- A known node that the text does not hold yet is copied. -/
theorem resolve_of_absent {reference : String} {found node : Node α}
    (known : context.nodes.find? (matchesKey (Text.foldKey reference)) = some found)
    (absent : draft.graph.nodes.find? (fun other => other.key == found.key) = none)
    (unmatched : draft.graph.nodes.find? (matchesKey (Text.foldKey reference)) = none)
    (done : draft.resolve context reference = .ok (node, after)) :
    draft.addNode context found.label found.name none (some ⟨found.x, found.y⟩) =
      .ok (node, after) := by
  simpa only [resolve, resolveReference, known, absent, unmatched] using done

omit [Scalar α] in
theorem matchesKey_eq_of_caption_eq (key : String) (node other : Node α)
    (same : node.caption = other.caption) : matchesKey key node = matchesKey key other := by
  rw [Node.caption, Node.caption, Prod.mk.injEq] at same
  rw [matchesKey, matchesKey, same.1, same.2]

omit [Scalar α] in
/-- The known nodes begin with those of the draft. -/
theorem exists_known_append {known nodes : List (Node α)}
    (front : nodes.map Node.caption <+: known.map Node.caption) :
    ∃ first rest, known = first ++ rest ∧ first.map Node.caption = nodes.map Node.caption := by
  obtain ⟨captions, known_eq⟩ := front
  obtain ⟨first, rest, rfl, first_eq, -⟩ := List.map_eq_append_iff.mp known_eq.symm
  exact ⟨first, rest, rfl, first_eq⟩

section Resolve

variable (alike : Alike draft other) (sound : draft.Sound) (other_sound : other.Sound)
  (keys : (context'.nodes.map Node.key).Nodup) {reference : String} {node node' : Node α}
  (other_done : other.resolve context' reference = .ok (node', image))

include alike sound other_sound keys other_done

/-- A node that was found in the text is found there again, by way of its known counterpart. -/
theorem Alike.resolve_of_found
    (found : draft.graph.nodes.find? (matchesKey (Text.foldKey reference)) = some node)
    (front : draft.graph.nodes.map Node.caption <+: context'.nodes.map Node.caption) :
    image = other ∧ other.graph.nodeIndex node'.id = draft.graph.nodeIndex node.id := by
  have captions := Graph.captions_of_skeleton_eq alike.skeleton
  obtain ⟨first, rest, known_eq, first_eq⟩ := exists_known_append front
  have other_keys : (other.graph.nodes.map Node.key).Nodup := by
    rw [known_eq] at keys
    rw [Node.map_key_of_map_caption (captions.trans first_eq.symm)]
    exact ((List.sublist_append_left first rest).map Node.key).nodup keys
  obtain ⟨-, known, -, -, known_caption, known_found⟩ :=
    exists_find?_of_map_eq first_eq.symm (matchesKey_eq_of_caption_eq _) found
  obtain ⟨index, namesake, node_at, namesake_at, namesake_caption, -⟩ :=
    exists_find?_of_map_eq captions.symm (matchesKey_eq_of_caption_eq _) found
  have known_first : context'.nodes.find? (matchesKey (Text.foldKey reference)) = some known := by
    rw [known_eq, List.find?_append, known_found]
    rfl
  have present := find?_key_eq_some other_keys (List.mem_of_getElem? namesake_at)
  rw [Node.key_eq_of_caption_eq (namesake_caption.symm.trans known_caption)] at present
  obtain ⟨rfl, rfl⟩ := resolve_of_namesake known_first present other_done
  refine ⟨rfl, ?_⟩
  rw [Graph.nodeIndex_getElem sound.wellFormed.toValid node_at,
    Graph.nodeIndex_getElem other_sound.wellFormed.toValid namesake_at]

/-- A node that was new is known by now, and is copied from there. -/
theorem Alike.resolve_of_new
    (absent : draft.graph.nodes.find? (matchesKey (Text.foldKey reference)) = none)
    (added : draft.addNode context (Text.trim reference) none none none = .ok (node, after))
    (front : after.graph.nodes.map Node.caption <+: context'.nodes.map Node.caption) :
    Alike after image ∧ image.graph.nodeIndex node'.id = after.graph.nodeIndex node.id := by
  have captions := Graph.captions_of_skeleton_eq alike.skeleton
  obtain ⟨label_eq, name_eq, -, base, drawn, -, after_eq⟩ := addNode_ok added
  have nodes_eq : after.graph.nodes = draft.graph.nodes ++ [node] := by rw [after_eq]
  rw [nodes_eq] at front
  obtain ⟨known_front, rest, known_eq, front_eq⟩ := exists_known_append front
  rw [List.map_append] at front_eq
  obtain ⟨first, last, rfl, first_eq, last_eq⟩ := List.map_eq_append_iff.mp front_eq
  obtain ⟨known, rfl, known_caption⟩ := List.map_eq_singleton_iff.mp last_eq
  rw [Node.caption, Node.caption, Prod.mk.injEq, label_eq, name_eq] at known_caption
  obtain ⟨known_label, known_name⟩ := known_caption
  have known_first : context'.nodes.find? (matchesKey (Text.foldKey reference)) = some known := by
    have first_absent :=
      find?_eq_none_of_map_eq first_eq.symm (matchesKey_eq_of_caption_eq _) absent
    have matched : matchesKey (Text.foldKey reference) known = true := by
      rw [matchesKey, known_label, known_name]
      simp [Text.nonempty, Text.foldKey]
    rw [known_eq, List.append_assoc, List.find?_append, first_absent]
    simp [matched]
  have no_namesake :
      other.graph.nodes.find? (fun another => another.key == known.key) = none := by
    rw [List.find?_eq_none]
    intro another another_mem
    obtain ⟨earlier, earlier_mem, earlier_caption⟩ :=
      exists_mem_of_map_eq (captions.trans first_eq.symm) another_mem
    rw [known_eq, List.map_append, List.map_append] at keys
    have apart := (List.nodup_append.mp (List.nodup_append.mp keys).1).2.2 earlier.key
      (List.mem_map_of_mem earlier_mem) known.key List.mem_cons_self
    rw [Node.key_eq_of_caption_eq earlier_caption] at apart
    simpa using apart
  have unmatched := find?_eq_none_of_map_eq captions.symm (matchesKey_eq_of_caption_eq _) absent
  have other_added := resolve_of_absent known_first no_namesake unmatched other_done
  rw [known_label, known_name] at other_added
  exact alike.addNode sound other_sound (by rintro _ ⟨⟩) (by rintro _ ⟨⟩) rfl added other_added

/-- A reference leads to the counterpart of the node that it led to when nothing was known, as long
as the nodes that are known by now begin with those that had been read at that point. -/
theorem Alike.resolve (unknown : context.nodes = [])
    (done : draft.resolve context reference = .ok (node, after))
    (front : after.graph.nodes.map Node.caption <+: context'.nodes.map Node.caption) :
    Alike after image ∧ image.graph.nodeIndex node'.id = after.graph.nodeIndex node.id := by
  rcases resolve_of_unknown unknown done with ⟨found, rfl⟩ | ⟨absent, added⟩
  · obtain ⟨rfl, index_eq⟩ := alike.resolve_of_found sound other_sound keys other_done found front
    exact ⟨alike, index_eq⟩
  · exact alike.resolve_of_new sound other_sound keys other_done absent added front

end Resolve

/-! ## Edges -/

section Connect

variable (unknown : context.nodes = []) (keys : (context'.nodes.map Node.key).Nodup)

include unknown keys

theorem Alike.connect (alike : Alike draft other) (sound : draft.Sound) (other_sound : other.Sound)
    {statement : Statement} (done : draft.connect context statement = .ok after)
    (other_done : other.connect context' statement = .ok image)
    (front : after.graph.nodes.map Node.caption <+: context'.nodes.map Node.caption) :
    Alike after image := by
  cases statement with
  | cluster indent label =>
      cases done
      cases other_done
      exact alike
  | node label name =>
      cases done
      cases other_done
      exact alike
  | edge source target attributes =>
      obtain ⟨first, middle, last, before, source_done, target_done, edge, -, drawn, -, source_eq,
        target_eq, label_eq, style_eq, rfl⟩ := connect_edge_ok done
      obtain ⟨first', middle', last', before', source_done', target_done', edge', -, drawn', -,
        source_eq', target_eq', label_eq', style_eq', rfl⟩ := connect_edge_ok other_done
      have middle_sound := sound.grows (grows_of_resolve source_done)
      have middle_sound' := other_sound.grows (grows_of_resolve source_done')
      have first_mem := mem_of_resolve source_done
      have first_mem' := mem_of_resolve source_done'
      have grown := (grows_of_resolve target_done).nodes_front
      have grown' := (grows_of_resolve target_done').nodes_front
      obtain ⟨middle_alike, first_eq⟩ := alike.resolve sound other_sound keys source_done' unknown
        source_done ((grown.map Node.caption).trans front)
      obtain ⟨before_alike, last_eq⟩ :=
        middle_alike.resolve middle_sound middle_sound' keys target_done' unknown target_done front
      rw [← Graph.nodeIndex_of_front grown (List.mem_map_of_mem first_mem),
        ← Graph.nodeIndex_of_front grown' (List.mem_map_of_mem first_mem')] at first_eq
      constructor
      · rw [Graph.skeleton_addEdge, Graph.skeleton_addEdge, before_alike.skeleton, source_eq,
          target_eq, label_eq, style_eq, source_eq', target_eq', label_eq', style_eq', first_eq,
          last_eq]
      · exact before_alike.openIndices

/-- Two readings of the same edge lines end in drafts that hold the same. -/
theorem Alike.foldlM_connect {statements : List Statement} (alike : Alike draft other)
    (sound : draft.Sound) (other_sound : other.Sound)
    (done : statements.foldlM (Draft.connect context) draft = .ok after)
    (other_done : statements.foldlM (Draft.connect context') other = .ok image)
    (front : after.graph.nodes.map Node.caption <+: context'.nodes.map Node.caption) :
    Alike after image := by
  induction statements generalizing draft other with
  | nil =>
      cases done
      cases other_done
      exact alike
  | cons statement statements induction =>
      obtain ⟨middle, first, rest⟩ := ok_of_foldlM_cons done
      obtain ⟨middle', first', rest'⟩ := ok_of_foldlM_cons other_done
      have grown := (grows_of_foldlM_connect rest).nodes_front
      have middle_alike := alike.connect unknown keys sound other_sound first first'
        ((grown.map Node.caption).trans front)
      exact induction middle_alike (sound.grows (grows_of_connect first))
        (other_sound.grows (grows_of_connect first')) rest rest'

end Connect

omit [Scalar α] in
theorem alike_start (drawn drawn' : Nat) : Alike ({ drawn } : Draft α) { drawn := drawn' } :=
  ⟨rfl, rfl⟩

/-- Two readings of the same declarations end in drafts that hold the same. -/
theorem Alike.foldlM_declare {statements : List Statement} (alike : Alike draft other)
    (sound : draft.Sound) (other_sound : other.Sound)
    (filled : ∀ indent label, .cluster indent label ∈ statements → Text.slug label ≠ "")
    (done : statements.foldlM (Draft.declare context) draft = .ok after)
    (other_done : statements.foldlM (Draft.declare context') other = .ok image) :
    Alike after image := by
  induction statements generalizing draft other with
  | nil =>
      cases done
      cases other_done
      exact alike
  | cons statement statements induction =>
      obtain ⟨middle, first, rest⟩ := ok_of_foldlM_cons done
      obtain ⟨middle', first', rest'⟩ := ok_of_foldlM_cons other_done
      have filled_first (indent : Nat) (label : String)
          (statement_eq : statement = .cluster indent label) : Text.slug label ≠ "" :=
        filled indent label (statement_eq ▸ List.mem_cons_self)
      exact induction (alike.declare sound other_sound first first')
        (sound.grows (grows_of_declare filled_first first))
        (other_sound.grows (grows_of_declare filled_first first'))
        (fun indent label label_mem => filled indent label (List.mem_cons_of_mem _ label_mem))
        rest rest'

end Steps

end Draft

/-- A text that is read against nodes that begin like its own is read as the same diagram. -/
theorem skeleton_of_reread [Scalar α] {context context' : Context α} {text : String}
    {drawn drawn' next next' : Nat} {parsed again : Graph α} (unknown : context.nodes = [])
    (keys : (context'.nodes.map Node.key).Nodup)
    (done : read context text drawn = .ok (parsed, next))
    (other_done : read context' text drawn' = .ok (again, next'))
    (front : parsed.nodes.map Node.caption <+: context'.nodes.map Node.caption) :
    again.skeleton = parsed.skeleton := by
  obtain ⟨declared, draft, declare_done, connect_done, rfl⟩ := rounds_of_read done
  obtain ⟨declared', draft', declare_done', connect_done', rfl⟩ := rounds_of_read other_done
  have filled (indent : Nat) (label : String)
      (listed : .cluster indent label ∈ Statement.ofText text) : Text.slug label ≠ "" :=
    Statement.slug_ne_empty_of_mem listed
  have declared_alike : Draft.Alike declared declared' :=
    (Draft.alike_start drawn drawn').foldlM_declare (Draft.sound_start drawn)
      (Draft.sound_start drawn') filled declare_done declare_done'
  have sound : declared.Sound :=
    (Draft.sound_start drawn).grows (Draft.grows_of_foldlM_declare filled declare_done)
  have sound' : declared'.Sound :=
    (Draft.sound_start drawn').grows (Draft.grows_of_foldlM_declare filled declare_done')
  exact (declared_alike.foldlM_connect unknown keys sound sound' connect_done connect_done'
    front).skeleton

/-- What is read from a text and merged with nothing comes back when the text is read again: where
keys are distinct, the second diagram holds the clusters and the nodes of the first one with their
ids and places, and its edges join the same nodes in the same order. Every text is read, whatever
tokens are drawn. -/
theorem merge_reread [Scalar α] {canvasWidth : α} (finite : Placement.FiniteWidth canvasWidth)
    (text : String) (token token' : Nat → String) (drawn drawn' : Nat) :
    ∃ parsed next, read { canvasWidth, token } text drawn = .ok (parsed, next) ∧
      ((parsed.nodes.map Node.key).Nodup → (parsed.clusters.map Cluster.key).Nodup →
        ∃ graph again next' graph', Merge.merge parsed [] [] canvasWidth = .ok graph ∧
          read { nodes := graph.nodes, clusters := graph.clusters, canvasWidth, token := token' }
            text drawn' = .ok (again, next') ∧
          Merge.merge again graph.nodes graph.clusters canvasWidth = .ok graph' ∧
          graph'.clusters = graph.clusters ∧ graph'.nodes = graph.nodes ∧
          graph'.edges.map Edge.unnamed = graph.edges.map Edge.unnamed) := by
  obtain ⟨⟨parsed, next⟩, done⟩ :
      ∃ out, read (⟨[], [], canvasWidth, token⟩ : Context α) text drawn = .ok out :=
    read_total finite text drawn
  refine ⟨parsed, next, done, fun nodeKeys clusterKeys => ?_⟩
  obtain ⟨graph, merged⟩ := Merge.exists_merge_ok parsed [] [] finite
  obtain ⟨⟨again, next'⟩, done'⟩ :
      ∃ out, read (⟨graph.nodes, graph.clusters, canvasWidth, token'⟩ : Context α) text drawn' =
        .ok out :=
    read_total finite text drawn'
  obtain ⟨draft, sound, rfl⟩ := sound_of_read done
  obtain ⟨draft', sound', rfl⟩ := sound_of_read done'
  have wellFormed := Merge.wellFormed_of_merge merged
  obtain ⟨rename, copied⟩ :=
    Merge.exists_copiedBy_of_merge sound.wellFormed.toValid sound.named merged
  have skeleton_eq :=
    copied.skeleton_eq sound.wellFormed.toValid wellFormed.clusterIds wellFormed.nodeIds
  have captions := Graph.captions_of_skeleton_eq skeleton_eq
  have graph_nodeKeys : (graph.nodes.map Node.key).Nodup :=
    Node.map_key_of_map_caption captions ▸ nodeKeys
  have graph_clusterKeys : (graph.clusters.map Cluster.key).Nodup := by
    have keys := congrArg (List.map Cluster.key) copied.clusters
    rw [List.map_map, List.map_map] at keys
    exact keys ▸ clusterKeys
  have again_eq := (skeleton_of_reread rfl graph_nodeKeys done done'
    (captions ▸ List.prefix_refl _)).trans skeleton_eq.symm
  have again_copied :=
    Graph.copiedBy_counterparts wellFormed.toValid sound'.wellFormed.toValid again_eq
  obtain ⟨graph', merged', clusters_eq, nodes_eq, edges_eq⟩ :=
    Merge.merge_of_copy wellFormed.toValid again_copied sound'.clusters.1 sound'.nodes.1
      sound'.named (List.Subset.refl _) (List.Subset.refl _) graph_nodeKeys graph_clusterKeys
      canvasWidth
  exact ⟨graph, draft'.graph, next', graph', merged, done', merged', clusters_eq, nodes_eq,
    edges_eq⟩

private def wiring : String :=
  "Cluster: Site\n  Node: Gateway [name=gw]\n  Cluster: Zone\n    Node: API\n" ++
    "gw -> api\nAPI -> Store [label=\"save\", arrow=dashed]\nstore -> Cache\ncache -> GW"

theorem merge_reread_wiring :
    ∃ parsed graph again graph' : Graph Float, ∃ next next',
      read { canvasWidth := (1600 : Float), token := toString } wiring 0 = .ok (parsed, next) ∧
      (parsed.nodes.map Node.key).Nodup ∧ (parsed.clusters.map Cluster.key).Nodup ∧
      Merge.merge parsed [] [] 1600 = .ok graph ∧
      read { nodes := graph.nodes, clusters := graph.clusters, canvasWidth := (1600 : Float),
             token := fun index => "again" ++ toString index } wiring 8 = .ok (again, next') ∧
      Merge.merge again graph.nodes graph.clusters 1600 = .ok graph' ∧
      graph'.clusters = graph.clusters ∧ graph'.nodes = graph.nodes ∧
      graph'.edges.map Edge.unnamed = graph.edges.map Edge.unnamed := by
  have finite : Placement.FiniteWidth (1600 : Float) :=
    (Placement.finiteWidth_double_iff 1600).mpr ⟨_, _, _, rfl⟩
  have keys : ((read { canvasWidth := (1600 : Float), token := toString } wiring 0).map fun out =>
      decide ((out.1.nodes.map Node.key).Nodup ∧ (out.1.clusters.map Cluster.key).Nodup)) =
      .ok true := by
    decide +kernel
  obtain ⟨parsed, next, done, stays⟩ :=
    merge_reread finite wiring toString (fun index => "again" ++ toString index) 0 8
  rw [done] at keys
  obtain ⟨nodeKeys, clusterKeys⟩ := of_decide_eq_true (Except.ok.inj keys)
  obtain ⟨graph, again, next', graph', merged⟩ := stays nodeKeys clusterKeys
  exact ⟨parsed, graph, again, graph', next, next', done, nodeKeys, clusterKeys, merged⟩

end Prompt
end ClusterDiagram
