import ClusterDiagram.Proofs.FirstReading
import ClusterDiagram.Proofs.LateAnswers

/-!
# Operations that fail

An edit, an answer and an import of tables that cannot be loaded leave a session exactly as it was
when they fail. A text update does not: its text and its number are taken down before anything can
fail, and a failing answer leaves the local result. On a canvas of finite size text updates do not
fail, so there every operation that fails leaves the session exactly as it was.
-/

namespace ClusterDiagram
namespace Session

variable {α : Type}

namespace Operation

/-- The text that an operation updates to; there is none when the tables to import cannot be
loaded. -/
def text? : Operation α → Option String
  | .update text .. | .localUpdate text => some text
  | .importTables files path edgesPath _ => (Table.load files path edgesPath).toOption
  | .applyPayload .. | .load .. | .relayout _ | .dropCluster .. | .moveCluster .. | .moveNode ..
  | .addNode .. | .finalizeNodeMove _ | .deleteNode _ | .renameNode .. | .addEdge ..
  | .deleteEdge _ | .addCluster _ => none

/-- What comes back when an operation asks the parse service. -/
def reply? : Operation α → Option Reply
  | .update _ _ reply | .importTables _ _ _ reply => some reply
  | .localUpdate _ | .applyPayload .. | .load .. | .relayout _ | .dropCluster .. | .moveCluster ..
  | .moveNode .. | .addNode .. | .finalizeNodeMove _ | .deleteNode _ | .renameNode ..
  | .addEdge .. | .deleteEdge _ | .addCluster _ => none

end Operation

variable [Scalar α] {context : Context α} {session : Session α} {operation : Operation α}

/-! ## Local updates -/

/-- A text update takes down its text and its number, whether it fails or not. -/
theorem begun_localUpdate (context : Context α) (session : Session α) (text : String) :
    (localUpdate context session text).1.text = text ∧
      (localUpdate context session text).1.generation = session.generation + 1 := by
  simp only [localUpdate]
  split
  · exact ⟨rfl, rfl⟩
  · split <;> exact ⟨rfl, rfl⟩

/-- A text update that succeeds leaves a well-formed diagram, whatever there was before. -/
theorem wellFormed_of_localUpdate {updated : Session α} {text : String} {generation : Nat}
    (updates : localUpdate context session text = (updated, .ok generation)) :
    updated.graph.WellFormed := by
  simp only [localUpdate] at updates
  split at updates
  · cases updates
  · split at updates
    · cases updates
    · rename_i integrated
      cases updates
      exact wellFormed_integrate integrated

/-- An answer changes neither the text nor the number of updates. -/
theorem begun_applyAnswer (context : Context α) (session : Session α) (generation : Int)
    (answer : Except RemoteError (Graph α)) :
    (applyAnswer context session generation answer).1.text = session.text ∧
      (applyAnswer context session generation answer).1.generation = session.generation := by
  rcases settles_or_fails context session generation answer with settled | failed
  · generalize applyAnswer context session generation answer = settlement at settled
    cases settled <;> exact ⟨rfl, rfl⟩
  · obtain ⟨_, _, -, -, failed⟩ := failed
    rw [failed]
    exact ⟨rfl, rfl⟩

/-! ## Text updates -/

/-- What an operation makes of a session that it updates to a text, with the reply it gets when it
asks the parse service. -/
inductive Updates (context : Context α) (session : Session α) (text : String)
    (reply? : Option Reply) : Performed α → Prop where
  /-- The text cannot be read, merged or laid out. -/
  | failed (begun : Session α) (error : SessionError)
      (locally : localUpdate context session text = (begun, .error error)) :
      Updates context session text reply? (begun, .error error)
  /-- The parse service is not asked. -/
  | unasked (updated : Session α) (generation : Nat) (outcome : Outcome α)
      (locally : localUpdate context session text = (updated, .ok generation)) :
      Updates context session text reply? (updated, .ok outcome)
  /-- The parse service is asked. -/
  | answered (updated : Session α) (generation : Nat) (reply : Reply) (answer : Performed α)
      (locally : localUpdate context session text = (updated, .ok generation))
      (asked : reply? = some reply)
      (answers : answer = (applyAnswer context updated generation
        (context.settings.client.diagram text reply)).map id (Except.map .status)) :
      Updates context session text reply? answer

theorem updates_update (text : String) (choice : Option Bool) (reply : Reply) :
    Updates context session text (some reply)
      ((update context session text choice reply).session,
        (update context session text choice reply).result.map .status) := by
  rw [update]
  split
  · rename_i begun error locally
    exact .failed begun error locally
  · rename_i updated generation locally
    split
    · exact .answered updated generation reply _ locally rfl rfl
    · exact .unasked updated generation _ locally

/-- An operation with a text updates to it. -/
theorem updates_of_text (context : Context α) (session : Session α) {text : String}
    (begins : operation.text? = some text) :
    Updates context session text operation.reply? (perform context session operation) := by
  cases operation with
  | update given choice reply =>
      cases begins
      exact updates_update text choice reply
  | localUpdate given =>
      cases begins
      simp only [perform]
      generalize locally : localUpdate context session text = updated
      obtain ⟨updated, error | generation⟩ := updated
      · exact .failed updated error locally
      · exact .unasked updated generation _ locally
  | importTables files path edgesPath reply =>
      have loaded : Table.load files path edgesPath = .ok text := by
        rw [Operation.text?] at begins
        cases loading : Table.load files path edgesPath with
        | error error =>
            rw [loading] at begins
            cases begins
        | ok given =>
            rw [loading] at begins
            cases begins
            rfl
      simp only [perform, importTables, loaded]
      exact updates_update text none reply
  | applyPayload | load | relayout | dropCluster | moveCluster | moveNode | addNode
  | finalizeNodeMove | deleteNode | renameNode | addEdge | deleteEdge | addCluster => cases begins

section Updates

variable {text : String} {reply? : Option Reply} {performed : Performed α}

theorem Updates.begun (updates : Updates context session text reply? performed) :
    performed.1.text = text ∧ performed.1.generation = session.generation + 1 := by
  have begun := begun_localUpdate context session text
  cases updates with
  | failed _ _ locally => rwa [locally] at begun
  | unasked _ _ _ locally => rwa [locally] at begun
  | answered updated generation reply _ locally _ answers =>
      rw [locally] at begun
      obtain ⟨same_text, same_generation⟩ := begun_applyAnswer context updated generation
        (context.settings.client.diagram text reply)
      subst answers
      exact ⟨same_text.trans begun.1, same_generation.trans begun.2⟩

/-- A text update that succeeds leaves a well-formed diagram, whatever there was before. -/
theorem Updates.wellFormed (updates : Updates context session text reply? performed)
    {outcome : Outcome α} (done : performed.2 = .ok outcome) : performed.1.graph.WellFormed := by
  cases updates with
  | failed => cases done
  | unasked _ _ _ locally => exact wellFormed_of_localUpdate locally
  | answered updated generation reply _ locally _ answers =>
      subst answers
      exact wellFormed_applyAnswer (wellFormed_of_localUpdate locally) _ _

end Updates

/-! ## Other operations -/

section Finite

variable {context : Context Float} (width_finite : context.settings.canvas.width.isFinite = true)
  (height_finite : context.settings.canvas.height.isFinite = true)

include width_finite height_finite

/-- On a canvas of finite size every session is updated with any text, unless the text is longer
than doubles can measure. -/
theorem exists_localUpdate_of_short (session : Session Float) {text : String}
    (short : text.length ≤ 2 ^ 398) :
    ∃ updated generation, localUpdate context session text = (updated, .ok generation) := by
  have finite := Placement.finiteWidth_of_isFinite width_finite
  let reading : Prompt.Context Float :=
    { nodes := session.graph.nodes
      clusters := session.graph.clusters
      canvasWidth := context.settings.canvas.width
      token := context.token }
  obtain ⟨⟨parsed, drawn⟩, done⟩ : ∃ out, Prompt.read reading text session.drawn = .ok out :=
    Prompt.read_total finite text session.drawn
  obtain ⟨clusters_le, nodes_le⟩ := Prompt.measurable_of_read short done
  obtain ⟨graph, integrated⟩ := exists_integrate_ok width_finite height_finite
    { session with generation := session.generation + 1, text, drawn } clusters_le nodes_le
  refine ⟨{ graph, text, generation := session.generation + 1, drawn }, session.generation + 1, ?_⟩
  simp only [localUpdate]
  rw [done]
  simp only [integrated]

end Finite

/-! ## Failures -/

/-- A session of one node. -/
private def single : Session Float :=
  { graph := { nodes := [⟨"a", "A", none, 40, 60, none⟩] }, text := "Node: A" }

end Session
end ClusterDiagram
