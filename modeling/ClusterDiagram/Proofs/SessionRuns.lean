import ClusterDiagram.Session.Operation
import ClusterDiagram.Proofs.Computations
import ClusterDiagram.Proofs.GraphEdits
import ClusterDiagram.Proofs.MergeValidity
import ClusterDiagram.Proofs.Unplaced

/-!
# Runs of a session keep the diagram well-formed

Every operation, refused ones included, leaves the live diagram well-formed, whatever texts, answers
of the parse service, ids and points it is given. Only a diagram that is taken over as a whole has
to be valid by itself.
-/

namespace ClusterDiagram

variable {α : Type}

/-! ## Hit testing -/

private theorem mem_of_foldl_deeper {depths : List (String × Nat)} {ids : List String}
    {hits : List (Cluster α)} (hits_listed : ∀ cluster ∈ hits, cluster.id ∈ ids)
    {best : Option String} (best_listed : ∀ id, best = some id → id ∈ ids) {id : String}
    (chosen : hits.foldl (fun best cluster => Outline.deeper depths best cluster.id) best =
      some id) : id ∈ ids := by
  induction hits generalizing best with
  | nil => exact best_listed id chosen
  | cons cluster hits induction =>
      have here := hits_listed cluster List.mem_cons_self
      have rest_listed : ∀ cluster ∈ hits, cluster.id ∈ ids := fun other other_mem =>
        hits_listed other (List.mem_cons_of_mem _ other_mem)
      refine induction rest_listed ?_ chosen
      intro id deeper_eq
      simp only [Outline.deeper] at deeper_eq
      split at deeper_eq
      · exact Option.some.inj deeper_eq ▸ here
      · split at deeper_eq
        · exact Option.some.inj deeper_eq ▸ here
        · exact best_listed id deeper_eq

/-- Hit testing names listed clusters only. -/
theorem Outline.mem_ids_of_clusterAt [Scalar α] {point : Point α} {clusters : List (Cluster α)}
    {outlines : List (String × Rect α)} {id : String}
    (hit : Outline.clusterAt? point clusters outlines = some id) :
    id ∈ clusters.map (·.id) := by
  refine mem_of_foldl_deeper ?_ (by simp) hit
  exact fun cluster hit_mem => List.mem_map_of_mem (List.mem_of_mem_filter hit_mem)

namespace Session

variable {context : Context α} {session : Session α}

/-! ## Nodes by id -/

theorem requireNode_ok {id : String} {node : Node α} (found : requireNode session id = .ok node) :
    id ∈ session.graph.nodes.map (·.id) := by
  rw [requireNode] at found
  split at found
  · rename_i first first_eq
    have id_eq : first.id = id := by simpa using List.find?_some first_eq
    exact id_eq ▸ List.mem_map_of_mem (List.mem_of_find?_eq_some first_eq)
  · cases found

/-- Nodes that keep their ids and clusters, or move into a listed cluster, leave a diagram
well-formed. -/
theorem wellFormed_changeNode (wellFormed : session.graph.WellFormed) (id : String)
    {change : Node α → Node α} (ids : ∀ node, (change node).id = node.id)
    (members : ∀ node, (change node).cluster = node.cluster ∨
      ∀ cluster, (change node).cluster = some cluster →
        cluster ∈ session.graph.clusters.map (·.id)) :
    (session.changeNode id change).WellFormed := by
  apply wellFormed.withNodes
  · rw [List.map_map]
    apply List.map_congr_left
    intro node _
    simp only [Function.comp_apply]
    split
    · exact ids node
    · rfl
  · intro changed changed_mem cluster cluster_eq
    obtain ⟨node, node_mem, rfl⟩ := List.mem_map.mp changed_mem
    split at cluster_eq
    · rcases members node with same | listed
      · exact wellFormed.memberships node node_mem cluster (same ▸ cluster_eq)
      · exact listed cluster cluster_eq
    · exact wellFormed.memberships node node_mem cluster cluster_eq

/-! ## Edits that place nothing -/

theorem wellFormed_moveNode (wellFormed : session.graph.WellFormed) {id : String}
    {point : Point α} {edited : Session α} (done : moveNode session id point = .ok edited) :
    edited.graph.WellFormed := by
  obtain ⟨_, -, done⟩ := ok_of_bind done
  cases done
  exact wellFormed_changeNode wellFormed id (fun _ => rfl) fun _ => Or.inl rfl

theorem wellFormed_deleteNode (wellFormed : session.graph.WellFormed) {id : String}
    {edited : Session α} (done : deleteNode session id = .ok edited) :
    edited.graph.WellFormed := by
  obtain ⟨_, -, done⟩ := ok_of_bind done
  cases done
  exact wellFormed.removeNode id

theorem wellFormed_renameNode (wellFormed : session.graph.WellFormed) {id : String}
    {name : Option String} {edited : Session α} (done : renameNode session id name = .ok edited) :
    edited.graph.WellFormed := by
  obtain ⟨_, -, done⟩ := ok_of_bind done
  cases done
  exact wellFormed_changeNode wellFormed id (fun _ => rfl) fun _ => Or.inl rfl

theorem wellFormed_addEdge (wellFormed : session.graph.WellFormed)
    {source target arrow : String} {label : Option String} {edited : Session α × Edge}
    (done : addEdge context session source target arrow label = .ok edited) :
    edited.1.graph.WellFormed := by
  obtain ⟨_, source_found, done⟩ := ok_of_bind done
  obtain ⟨_, target_found, done⟩ := ok_of_bind done
  cases done
  apply wellFormed.addEdge
  · exact FreshId.fresh_not_mem _ _
  · exact ⟨requireNode_ok source_found, requireNode_ok target_found⟩

theorem wellFormed_deleteEdge (wellFormed : session.graph.WellFormed) {id : String}
    {edited : Session α} (done : deleteEdge session id = .ok edited) :
    edited.graph.WellFormed := by
  rw [deleteEdge] at done
  split at done
  · cases done
    exact wellFormed.filterEdges _
  · cases done

/-! ## Edits as steps -/

private theorem wellFormed_ofEdit (wellFormed : session.graph.WellFormed)
    {edit : Except SessionError (Session α)}
    (edited : ∀ next, edit = .ok next → next.graph.WellFormed) :
    (ofEdit session edit).1.graph.WellFormed := by
  cases edit with
  | error error => exact wellFormed
  | ok next => exact edited next rfl

private theorem wellFormed_ofEditWith {ρ : Type} (wellFormed : session.graph.WellFormed)
    {outcome : ρ → Outcome α} {edit : Except SessionError (Session α × ρ)}
    (edited : ∀ next, edit = .ok next → next.1.graph.WellFormed) :
    (ofEditWith session outcome edit).1.graph.WellFormed := by
  cases edit with
  | error error => exact wellFormed
  | ok next => exact edited next rfl

variable [Scalar α]

/-! ## Texts and answers -/

theorem ok_of_ofArithmetic {ρ : Type} {computed : Except ArithmeticError ρ} {value : ρ}
    (done : ofArithmetic computed = .ok value) : computed = .ok value := by
  cases computed with
  | error error => cases done
  | ok value =>
      cases done
      rfl

/-- Arranging a diagram changes coordinates only. -/
theorem unplaced_arrange {graph arranged : Graph α} {anchor : Option (Layout.Anchor α)}
    (done : arrange context graph anchor = .ok arranged) : arranged.unplaced = graph.unplaced := by
  obtain ⟨⟨placed, moved⟩, laid, result⟩ := ok_of_bind (ok_of_ofArithmetic done)
  obtain ⟨clusters, nodes⟩ := Layout.unplaced_layout laid
  cases result
  rw [Graph.unplaced, Graph.unplaced, clusters, nodes]

/-- What a new diagram becomes in a session is well-formed. -/
theorem wellFormed_integrate {parsed graph : Graph α}
    (done : integrate context session parsed = .ok graph) : graph.WellFormed := by
  obtain ⟨merged, merging, arranging⟩ := ok_of_bind done
  have wellFormed : merged.WellFormed :=
    Merge.wellFormed_of_merge (ok_of_ofArithmetic merging)
  exact wellFormed.of_unplaced_eq (unplaced_arrange arranging)

theorem wellFormed_localUpdate (wellFormed : session.graph.WellFormed) (text : String) :
    (localUpdate context session text).1.graph.WellFormed := by
  simp only [localUpdate]
  split
  · exact wellFormed
  · split
    · exact wellFormed
    · rename_i integrated
      exact wellFormed_integrate integrated

/-- The style of a local edge leaves the id and the ends of an answered one alone. -/
theorem keepLocalStyle_ids (edges : List Edge) (edge : Edge) :
    (keepLocalStyle edges edge).id = edge.id ∧ (keepLocalStyle edges edge).source = edge.source ∧
      (keepLocalStyle edges edge).target = edge.target := by
  rw [keepLocalStyle]
  split <;> exact ⟨rfl, rfl, rfl⟩

theorem wellFormed_applyAnswer (wellFormed : session.graph.WellFormed) (generation : Int)
    (answer : Except RemoteError (Graph α)) :
    (applyAnswer context session generation answer).1.graph.WellFormed := by
  unfold applyAnswer
  split
  · rw [applyDiagram]
    split
    · split
      · exact wellFormed
      · rename_i integrated
        exact (wellFormed_integrate integrated).mapEdges (keepLocalStyle_ids session.graph.edges)
    · exact wellFormed
  · exact wellFormed

theorem wellFormed_update (wellFormed : session.graph.WellFormed) (text : String)
    (choice : Option Bool) (reply : Reply) :
    (update context session text choice reply).session.graph.WellFormed := by
  have updated : (localUpdate context session text).1.graph.WellFormed :=
    wellFormed_localUpdate wellFormed text
  rw [update]
  split
  · rename_i done
    rwa [done] at updated
  · rename_i done
    rw [done] at updated
    split
    · exact wellFormed_applyAnswer updated _ _
    · exact updated

theorem wellFormed_importTables (wellFormed : session.graph.WellFormed) (files : Files)
    (path : String) (edgesPath : Option String) (reply : Reply) :
    (importTables context session files path edgesPath reply).session.graph.WellFormed := by
  rw [importTables]
  split
  · exact wellFormed
  · exact wellFormed_update wellFormed _ _ _

/-! ## Edits that place something -/

theorem wellFormed_relayout (wellFormed : session.graph.WellFormed)
    {anchor : Option (Layout.Anchor α)} {edited : Session α}
    (done : relayout context session anchor = .ok edited) : edited.graph.WellFormed := by
  obtain ⟨arranged, arranging, result⟩ := ok_of_bind done
  cases result
  exact wellFormed.of_unplaced_eq (unplaced_arrange arranging)

theorem wellFormed_dropCluster (wellFormed : session.graph.WellFormed) {id : String}
    {point : Point α} {edited : Session α}
    (done : dropCluster context session id point = .ok edited) : edited.graph.WellFormed := by
  obtain ⟨_, -, done⟩ := ok_of_bind done
  exact wellFormed_relayout wellFormed done

theorem wellFormed_moveCluster (wellFormed : session.graph.WellFormed) {id : String}
    {corner : Point α} {edited : Session α}
    (done : moveCluster context session id corner = .ok edited) : edited.graph.WellFormed := by
  obtain ⟨_, -, done⟩ := ok_of_bind done
  obtain ⟨outlines, -, done⟩ := ok_of_bind done
  dsimp only at done
  split at done
  · cases done
  · cases done
    apply wellFormed.of_unplaced_eq
    simp only [Graph.unplaced, List.map_map, Graph.mk.injEq, and_true]
    constructor
    · apply List.map_congr_left
      intro cluster _
      simp only [Function.comp_apply]
      split <;> rfl
    · apply List.map_congr_left
      intro node _
      simp only [Function.comp_apply]
      split <;> rfl

theorem wellFormed_addNode (wellFormed : session.graph.WellFormed) {label : String}
    {point : Point α} {name : Option String} {edited : Session α × Node α}
    (done : addNode context session label point name = .ok edited) :
    edited.1.graph.WellFormed := by
  obtain ⟨cluster, hit, done⟩ := ok_of_bind done
  obtain ⟨outlines, -, hit⟩ := ok_of_bind hit
  cases hit
  cases done
  apply wellFormed.addNode
  · exact FreshId.fresh_not_mem _ _
  · exact fun cluster hit => Outline.mem_ids_of_clusterAt hit

theorem wellFormed_finalizeNodeMove (wellFormed : session.graph.WellFormed) {id : String}
    {edited : Session α × Option String}
    (done : finalizeNodeMove context session id = .ok edited) : edited.1.graph.WellFormed := by
  obtain ⟨_, -, done⟩ := ok_of_bind done
  obtain ⟨outlines, -, done⟩ := ok_of_bind done
  cases done
  refine wellFormed_changeNode wellFormed id ?_ ?_
  · exact fun _ => rfl
  · exact fun _ => Or.inr fun cluster hit => Outline.mem_ids_of_clusterAt hit

theorem wellFormed_addCluster (wellFormed : session.graph.WellFormed) {label : String}
    {edited : Session α × Cluster α} (done : addCluster context session label = .ok edited) :
    edited.1.graph.WellFormed := by
  unfold addCluster at done
  dsimp only at done
  split at done
  · cases done
  obtain ⟨corner, -, done⟩ := ok_of_bind done
  obtain ⟨arranged, arranging, done⟩ := ok_of_bind done
  cases done
  refine Graph.WellFormed.of_unplaced_eq ?_ (unplaced_arrange arranging)
  exact wellFormed.addCluster (FreshId.fresh_not_mem _ _) fun _ parent_eq => nomatch parent_eq

/-! ## Steps and runs -/

/-- Every operation keeps the diagram well-formed, a diagram that is taken over being so itself. -/
theorem wellFormed_perform (wellFormed : session.graph.WellFormed) (operation : Operation α)
    (loads : ∀ graph text, operation = .load graph text → graph.WellFormed) :
    (perform context session operation).1.graph.WellFormed := by
  cases operation with
  | update text choice reply => exact wellFormed_update wellFormed text choice reply
  | localUpdate text => exact wellFormed_localUpdate wellFormed text
  | applyPayload payload generation => exact wellFormed_applyAnswer wellFormed _ _
  | load graph text => cases text <;> exact loads graph _ rfl
  | importTables files path edgesPath reply =>
      exact wellFormed_importTables wellFormed files path edgesPath reply
  | relayout anchor =>
      exact wellFormed_ofEdit wellFormed fun _ done => wellFormed_relayout wellFormed done
  | dropCluster id point =>
      exact wellFormed_ofEdit wellFormed fun _ done => wellFormed_dropCluster wellFormed done
  | moveCluster id corner =>
      exact wellFormed_ofEdit wellFormed fun _ done => wellFormed_moveCluster wellFormed done
  | moveNode id point =>
      exact wellFormed_ofEdit wellFormed fun _ done => wellFormed_moveNode wellFormed done
  | addNode label point name =>
      exact wellFormed_ofEditWith wellFormed fun _ done => wellFormed_addNode wellFormed done
  | finalizeNodeMove id =>
      exact wellFormed_ofEditWith wellFormed fun _ done =>
        wellFormed_finalizeNodeMove wellFormed done
  | deleteNode id =>
      exact wellFormed_ofEdit wellFormed fun _ done => wellFormed_deleteNode wellFormed done
  | renameNode id name =>
      exact wellFormed_ofEdit wellFormed fun _ done => wellFormed_renameNode wellFormed done
  | addEdge source target arrow label =>
      exact wellFormed_ofEditWith wellFormed fun _ done => wellFormed_addEdge wellFormed done
  | deleteEdge id =>
      exact wellFormed_ofEdit wellFormed fun _ done => wellFormed_deleteEdge wellFormed done
  | addCluster label =>
      exact wellFormed_ofEditWith wellFormed fun _ done => wellFormed_addCluster wellFormed done

theorem wellFormed_run (wellFormed : session.graph.WellFormed) (operations : List (Operation α))
    (loads : ∀ graph text, .load graph text ∈ operations → graph.WellFormed) :
    (run context session operations).graph.WellFormed := by
  induction operations generalizing session with
  | nil => exact wellFormed
  | cons operation operations induction =>
      have performed : (perform context session operation).1.graph.WellFormed := by
        apply wellFormed_perform wellFormed operation
        rintro graph text rfl
        exact loads graph text List.mem_cons_self
      apply induction performed
      exact fun graph text load_mem => loads graph text (List.mem_cons_of_mem _ load_mem)

/-- From the empty session on, the live diagram is well-formed after every run in which the
diagrams that are taken over have no violations and distinct ids of edges. -/
theorem run_wellFormed (context : Context α) (operations : List (Operation α))
    (loads : ∀ graph text, .load graph text ∈ operations →
      graph.violations = [] ∧ (graph.edges.map (·.id)).Nodup) :
    (run context {} operations).graph.WellFormed := by
  apply wellFormed_run Graph.wellFormed_empty
  intro graph text load_mem
  obtain ⟨none, edgeIds⟩ := loads graph text load_mem
  exact ⟨Graph.valid_of_violations none, edgeIds⟩

/-- A diagram of two nodes in nested clusters. -/
private def nested : Graph Float :=
  { clusters := [⟨"site", "Site", none, none, none⟩, ⟨"zone", "Zone", some "site", none, none⟩]
    nodes := [⟨"api", "API", none, 40, 60, some "zone"⟩,
      ⟨"db", "Database", some "DB", 90, 60, none⟩]
    edges := [⟨"e", "api", "db", none, .dashed⟩] }

theorem run_wellFormed_nested :
    (nested.violations = [] ∧ (nested.edges.map (·.id)).Nodup) ∧
      (run { settings := Settings.ofValues fun _ => none, token := toString } {}
        [.load nested none, .deleteNode "api", .addCluster " ", .localUpdate "DB -> Cache",
          .dropCluster "lost" ⟨0, 0⟩, .addNode "Cache" ⟨10, 10⟩ none]).graph.WellFormed := by
  have loadable : nested.violations = [] ∧ (nested.edges.map (·.id)).Nodup := by
    decide +kernel
  refine ⟨loadable, run_wellFormed _ _ ?_⟩
  intro graph text load_mem
  have same : graph = nested := by
    simp only [List.mem_cons, Operation.load.injEq, reduceCtorEq, List.not_mem_nil,
      or_false] at load_mem
    exact load_mem.1
  exact same ▸ loadable

end Session
end ClusterDiagram
