import ClusterDiagram.Proofs.FailedOperations
import ClusterDiagram.Proofs.KeptEntities

/-!
# Edits before an answer

Only a text update begins a new generation. An answer that arrives after direct edits is therefore
still in time, and it supersedes what was edited: an added node or cluster outlives it when the answer
mentions its key, and an added edge when the answer lists it. Once another text update has begun,
the answer is put aside.
-/

namespace ClusterDiagram
namespace Session

variable {α : Type}

/-- Whether an operation changes the diagram by hand. -/
def Operation.isEdit : Operation α → Bool
  | .update .. | .localUpdate _ | .applyPayload .. | .load .. | .importTables .. => false
  | .relayout _ | .dropCluster .. | .moveCluster .. | .moveNode .. | .addNode ..
  | .finalizeNodeMove _ | .deleteNode _ | .renameNode .. | .addEdge .. | .deleteEdge _
  | .addCluster _ => true

variable [Scalar α] {context : Context α} {session : Session α}

/-! ## Edits keep the generation -/

section Generation

omit [Scalar α] in
private theorem generation_ofEdit {edit : Except SessionError (Session α)}
    (edited : ∀ next, edit = .ok next → next.generation = session.generation) :
    (ofEdit session edit).1.generation = session.generation := by
  cases edit with
  | error error => rfl
  | ok next => exact edited next rfl

omit [Scalar α] in
private theorem generation_ofEditWith {ρ : Type} {outcome : ρ → Outcome α}
    {edit : Except SessionError (Session α × ρ)}
    (edited : ∀ next, edit = .ok next → next.1.generation = session.generation) :
    (ofEditWith session outcome edit).1.generation = session.generation := by
  cases edit with
  | error error => rfl
  | ok next => exact edited next rfl

theorem generation_relayout {anchor : Option (Layout.Anchor α)} {edited : Session α}
    (done : relayout context session anchor = .ok edited) :
    edited.generation = session.generation := by
  obtain ⟨_, -, done⟩ := ok_of_bind done
  cases done
  rfl

theorem generation_moveCluster {id : String} {corner : Point α} {edited : Session α}
    (done : moveCluster context session id corner = .ok edited) :
    edited.generation = session.generation := by
  obtain ⟨_, -, done⟩ := ok_of_bind done
  obtain ⟨_, -, done⟩ := ok_of_bind done
  dsimp only at done
  split at done
  · cases done
  · cases done
    rfl

theorem generation_addCluster {label : String} {edited : Session α × Cluster α}
    (done : addCluster context session label = .ok edited) :
    edited.1.generation = session.generation := by
  unfold addCluster at done
  dsimp only at done
  split at done
  · cases done
  obtain ⟨_, -, done⟩ := ok_of_bind done
  obtain ⟨_, -, done⟩ := ok_of_bind done
  cases done
  rfl

/-- An edit, a refused one included, begins no text update. -/
theorem generation_perform {operation : Operation α} (direct : operation.isEdit = true) :
    (perform context session operation).1.generation = session.generation := by
  cases operation with
  | update | localUpdate | applyPayload | load | importTables => cases direct
  | relayout => exact generation_ofEdit fun _ done => generation_relayout done
  | dropCluster =>
      apply generation_ofEdit
      intro next done
      obtain ⟨_, -, done⟩ := ok_of_bind done
      exact generation_relayout done
  | moveCluster => exact generation_ofEdit fun _ done => generation_moveCluster done
  | moveNode | deleteNode | renameNode =>
      apply generation_ofEdit
      intro next done
      obtain ⟨_, -, done⟩ := ok_of_bind done
      cases done
      rfl
  | addNode =>
      apply generation_ofEditWith
      intro next done
      obtain ⟨_, -, done⟩ := ok_of_bind done
      cases done
      rfl
  | finalizeNodeMove | addEdge =>
      apply generation_ofEditWith
      intro next done
      obtain ⟨_, -, done⟩ := ok_of_bind done
      obtain ⟨_, -, done⟩ := ok_of_bind done
      cases done
      rfl
  | deleteEdge =>
      apply generation_ofEdit
      intro next done
      rw [deleteEdge] at done
      split at done
      · cases done
        rfl
      · cases done
  | addCluster => exact generation_ofEditWith fun _ done => generation_addCluster done

theorem generation_run {edits : List (Operation α)} (direct : ∀ edit ∈ edits, edit.isEdit = true) :
    (run context session edits).generation = session.generation := by
  induction edits generalizing session with
  | nil => rfl
  | cons edit edits induction =>
      rw [List.forall_mem_cons] at direct
      exact (induction direct.2).trans (generation_perform direct.1)

end Generation

/-! ## The answer -/

/-- An answer in time supersedes the live diagram. -/
theorem supersedes_of_integrate {answer graph : Graph α}
    (wellFormed : session.graph.WellFormed)
    (integrated : integrate context session answer = .ok graph) :
    Merge.Supersedes session.graph answer
      { graph with edges := graph.edges.map (keepLocalStyle session.graph.edges) } := by
  obtain ⟨merged, merging, arranging⟩ := ok_of_bind integrated
  have supersedes := Merge.supersedes_of_merge wellFormed.clusterIds wellFormed.nodeIds
    (ok_of_ofArithmetic merging)
  have unplaced_eq := unplaced_arrange arranging
  rw [Graph.unplaced, Graph.unplaced, Graph.mk.injEq] at unplaced_eq
  obtain ⟨clusters_eq, nodes_eq, edges_eq⟩ := unplaced_eq
  refine supersedes.of_unplaced ?_ ?_ ?_
  · exact clusters_eq
  · exact nodes_eq
  · rw [List.map_map, ← edges_eq]
    apply List.map_congr_left
    intro edge _
    obtain ⟨-, source_eq, target_eq⟩ := keepLocalStyle_ids session.graph.edges edge
    exact Prod.ext source_eq target_eq

section Answer

variable {updated : Session α} {update : Operation α} {text : String} {outcome : Outcome α}
  (begins : update.text? = some text)
  (updates : perform context session update = (updated, .ok outcome))
  {edits : List (Operation α)} (direct : ∀ edit ∈ edits, edit.isEdit = true)

include begins updates direct

/-- Edits after a text update keep its number and leave a well-formed diagram, whatever there was
before the update. -/
theorem wellFormed_run_edits : (run context updated edits).graph.WellFormed := by
  have begun : Updates context session text update.reply? (updated, .ok outcome) :=
    updates ▸ updates_of_text context session begins
  apply wellFormed_run (begun.wellFormed rfl)
  intro graph text load_mem
  cases direct _ load_mem

/-- After a text update and any edits, its answer is applied or cannot be merged or laid out. -/
theorem applies_or_fails_after_edits (answer : Graph α) :
    (∃ graph, applyAnswer context (run context updated edits) updated.generation (.ok answer) =
        ({ run context updated edits with graph },
          .ok ⟨updated.generation, .applied, none⟩) ∧
      Merge.Supersedes (run context updated edits).graph answer graph) ∨
    ∃ error, applyAnswer context (run context updated edits) updated.generation (.ok answer) =
      (run context updated edits, .error error) := by
  have same : (run context updated edits).generation = updated.generation := generation_run direct
  rcases settles_or_fails context (run context updated edits) updated.generation (.ok answer) with
    settled | failed
  · generalize settlement_eq :
      applyAnswer context (run context updated edits) updated.generation (.ok answer) = settlement
      at settled ⊢
    cases settled with
    | stale _ late => exact absurd (congrArg Int.ofNat same.symm) late
    | applied _ graph _ integrated =>
        have wellFormed := wellFormed_run_edits begins updates direct
        exact Or.inl ⟨_, rfl, supersedes_of_integrate wellFormed integrated⟩
  · obtain ⟨_, error, -, -, failed⟩ := failed
    exact Or.inr ⟨error, failed⟩

end Answer

/-- After a text update and any edits the answer to the update is still in time. It is applied and
supersedes what was edited, unless it cannot be merged or laid out, and then nothing changes. On a
canvas of finite size it is always applied. Once another text update has begun, it changes nothing
either. -/
theorem applyPayload_after_edits {context : Context Float} {session updated : Session Float}
    {update : Operation Float} {text : String} {outcome : Outcome Float}
    (begins : update.text? = some text)
    (updates : perform context session update = (updated, .ok outcome))
    {edits : List (Operation Float)} (direct : ∀ edit ∈ edits, edit.isEdit = true)
    {payload : Json Float} {answer : Graph Float} (valid : Graph.ofPayload payload = .ok answer) :
    let edited := run context updated edits
    ((∃ graph, applyPayload context edited updated.generation payload =
          ({ edited with graph }, .ok ⟨updated.generation, .applied, none⟩) ∧
        Merge.Supersedes edited.graph answer graph) ∨
      ∃ error, applyPayload context edited updated.generation payload = (edited, .error error)) ∧
    (context.settings.canvas.width.isFinite = true →
      context.settings.canvas.height.isFinite = true →
      answer.clusters.length ≤ 2 ^ 400 → answer.nodes.length ≤ 2 ^ 400 →
      ∃ after, applyPayload context edited updated.generation payload =
        (after, .ok ⟨updated.generation, .applied, none⟩)) ∧
    ∀ (next : Operation Float) (newer : String), next.text? = some newer →
      applyPayload context (perform context edited next).1 updated.generation payload =
        ((perform context edited next).1, .ok ⟨updated.generation, .stale, none⟩) := by
  intro edited
  have outcome := applies_or_fails_after_edits begins updates direct answer
  have answered (session : Session Float) : applyPayload context session updated.generation payload =
      applyAnswer context session updated.generation (.ok answer) := by
    rw [applyPayload, valid]
    rfl
  simp only [answered]
  refine ⟨outcome, ?_, ?_⟩
  · intro width_finite height_finite clusters_le nodes_le
    rcases outcome with ⟨graph, applied, -⟩ | ⟨error, failed⟩
    · exact ⟨_, applied⟩
    · have settled : Settles context edited updated.generation (.ok answer)
          (applyAnswer context edited updated.generation (.ok answer)) := by
        apply settles_of_measurable width_finite height_finite
        rintro _ ⟨⟩
        exact ⟨clusters_le, nodes_le⟩
      obtain ⟨status, status_eq⟩ := settled.exists_status
      rw [failed] at status_eq
      cases status_eq
  · intro next newer begins
    obtain ⟨-, generation_eq⟩ := (updates_of_text context edited begins).begun
    have late : (updated.generation : Int) ≠ (perform context edited next).1.generation := by
      rw [generation_eq, generation_run direct]
      omega
    simp only [applyAnswer, applyDiagram, if_neg late]

/-- The answer to a text of one node. -/
private def singleAnswer : Json Float :=
  .object [("clusters", .list []),
    ("nodes", .list [.object [("id", .text "x"), ("label", .text "X")]]), ("edges", .list [])]

/-- A session that is updated with a text of one node. -/
private def singleUpdated : Session Float :=
  (localUpdate standardContext {} "Node: X").1

/-- A session that is updated with a text of one node, and then gets another one by hand. -/
private def handEdited : Session Float :=
  run standardContext singleUpdated [.addNode "A" ⟨300, 300⟩ none]

theorem applyPayload_after_edits_addNode :
    perform standardContext {} (.localUpdate "Node: X") = (singleUpdated, .ok (.generation 1)) ∧
      ∃ graph, applyPayload standardContext handEdited singleUpdated.generation singleAnswer =
          ({ handEdited with graph }, .ok ⟨singleUpdated.generation, .applied, none⟩) ∧
        Merge.Supersedes handEdited.graph { nodes := [⟨"x", "X", none, 0, 0, none⟩] } graph := by
  have updates : perform standardContext {} (.localUpdate "Node: X") =
      (singleUpdated, .ok (.generation 1)) := by
    have locally : (localUpdate standardContext {} "Node: X").2 = .ok 1 := by decide +kernel
    simp only [perform, locally, Except.map, singleUpdated]
  have direct : ∀ edit ∈ [Operation.addNode "A" (⟨300, 300⟩ : Point Float) none],
      edit.isEdit = true := by
    simp [Operation.isEdit]
  have valid : Graph.ofPayload singleAnswer =
      .ok { nodes := [⟨"x", "X", none, 0, 0, none⟩] } := rfl
  obtain ⟨applied | ⟨error, failed⟩, succeeds, -⟩ :=
    applyPayload_after_edits rfl updates direct valid
  · exact ⟨updates, applied⟩
  · obtain ⟨after, done⟩ := succeeds rfl rfl (measurable_of_few (by decide))
      (measurable_of_few (by decide))
    cases done.symm.trans failed

/-- A node that was added by hand is gone once the answer to the text before it arrives. -/
theorem applyPayload_drops_added_node :
    handEdited.generation = 1 ∧ handEdited.graph.nodes.map (·.label) = ["X", "A"] ∧
      (applyPayload standardContext handEdited 1 singleAnswer).2 = .ok ⟨1, .applied, none⟩ ∧
      (applyPayload standardContext handEdited 1 singleAnswer).1.graph.nodes.map (·.label) = ["X"] := by
  decide +kernel

end Session
end ClusterDiagram
