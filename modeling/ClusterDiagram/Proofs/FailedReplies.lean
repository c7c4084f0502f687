import ClusterDiagram.Proofs.FailedOperations
import ClusterDiagram.Proofs.PayloadShape

/-!
# Failed calls of the parse service

Whatever comes back for a request, an update that asks the parse service succeeds on a canvas of
finite size. An answer is a response that reports no error and whose body is an object with three
well-formed lists. Unless an answer comes back, the update leaves what the local update leaves and
says that the service was unavailable.
-/

namespace ClusterDiagram

/-! ## Documents of doubles -/

namespace Json

mutual

theorem map_self {α : Type} (document : Json α) : map (fun x => x) document = document := by
  cases document with
  | list items => rw [map, mapItems_self]
  | object fields => rw [map, mapFields_self]
  | _ => rfl

theorem mapItems_self {α : Type} (items : List (Json α)) : mapItems (fun x => x) items = items := by
  cases items with
  | nil => rfl
  | cons item items => rw [mapItems, map_self, mapItems_self]

theorem mapFields_self {α : Type} (fields : List (String × Json α)) :
    mapFields (fun x => x) fields = fields := by
  cases fields with
  | nil => rfl
  | cons field fields => rw [mapFields, map_self, mapFields_self]

end

end Json

/-! ## Answers -/

/-- Whether a reply is a response that reports no error, and its body an object with three
well-formed lists. -/
def Reply.IsAnswer : Reply → Prop
  | .unreachable _ => False
  | .response status _ body => ¬(400 ≤ status ∧ status < 600) ∧
      ∃ fields, Json.read body = .ok (.object fields) ∧ Payload.HasLists fields

/-- The number of characters that came back for a request. -/
def Reply.size : Reply → Nat
  | .unreachable _ => 0
  | .response _ _ body => body.length

namespace Client

/-- A reply holds a document only as the body of a response that reports no error. -/
theorem response_of_document {url : String} {reply : Reply} {document : Json Float}
    (held : Client.document url reply = .ok document) : ∃ status reason body,
      reply = .response status reason body ∧ ¬(400 ≤ status ∧ status < 600) ∧
        Json.read body = .ok document := by
  cases reply with
  | unreachable reason => cases held
  | response status reason body =>
      rw [Client.document] at held
      split at held
      · cases held
      · rename_i accepted
        refine ⟨status, reason, body, rfl, accepted, ?_⟩
        cases read : Json.read body with
        | error error =>
            rw [read] at held
            cases held
        | ok document =>
            rw [read] at held
            cases held
            rfl

/-- The diagram of a reply is that of the document that the reply holds. -/
theorem document_of_diagram {client : Client} {prompt : String} {reply : Reply}
    {graph : Graph Float} (given : client.diagram prompt reply = .ok graph) : ∃ document,
      Client.document (client.parseRequest prompt).url reply = .ok document ∧
        Graph.ofPayload document = .ok graph := by
  rw [diagram] at given
  split at given
  · rename_i document held
    have same : document.map Scalar.ofFloat = document := document.map_self
    rw [same] at given
    refine ⟨document, held, ?_⟩
    cases parsed : Graph.ofPayload document with
    | error error =>
        rw [parsed] at given
        cases given
    | ok graph =>
        rw [parsed] at given
        cases given
        rfl
  · cases given
  · cases given

/-- A reply that gives a diagram is an answer, and the diagram has no more entities than came back
characters. -/
theorem answer_of_diagram {client : Client} {prompt : String} {reply : Reply} {graph : Graph Float}
    (given : client.diagram prompt reply = .ok graph) :
    reply.IsAnswer ∧ graph.clusters.length ≤ reply.size ∧ graph.nodes.length ≤ reply.size := by
  obtain ⟨document, held, parsed⟩ := document_of_diagram given
  obtain ⟨status, reason, body, rfl, accepted, read⟩ := response_of_document held
  obtain ⟨fields, rfl, lists, -⟩ := exists_ofPayload_ok_iff.mp ⟨graph, parsed⟩
  exact ⟨⟨accepted, fields, read, lists⟩,
    length_le_of_ofPayload (Json.bounded_of_read read) parsed⟩

end Client

/-! ## Updates -/

namespace Session

variable {context : Context Float} (width_finite : context.settings.canvas.width.isFinite = true)
  (height_finite : context.settings.canvas.height.isFinite = true)

include width_finite height_finite

/-- An update that asks the parse service succeeds, whatever comes back. Unless that is an answer,
the session is the one that the local update leaves, and the status says that the service was
unavailable. -/
theorem update_despite_failure (session : Session Float) {text : String}
    (short : text.length ≤ 2 ^ 398) {choice : Option Bool}
    (wanted : choice.getD context.settings.usesRemote = true) {reply : Reply}
    (brief : reply.size ≤ 2 ^ 400) :
    let updated := update context session text choice reply
    (∃ status, updated.result = .ok status) ∧
      (¬reply.IsAnswer → ∃ generation error,
        localUpdate context session text = (updated.session, .ok generation) ∧
          updated.result = .ok ⟨generation, .unavailable, some error⟩) := by
  obtain ⟨begun, generation, locally⟩ :=
    exists_localUpdate_of_short width_finite height_finite session short
  have updated_eq : update context session text choice reply =
      { session := (applyAnswer context begun generation
          (context.settings.client.diagram text reply)).1
        requests := [context.settings.client.parseRequest text]
        result := (applyAnswer context begun generation
          (context.settings.client.diagram text reply)).2 } := by
    simp only [update, locally, wanted, if_true]
  rw [updated_eq]
  constructor
  · have measurable : ∀ graph : Graph Float,
        context.settings.client.diagram text reply = .ok graph →
          graph.clusters.length ≤ 2 ^ 400 ∧ graph.nodes.length ≤ 2 ^ 400 := by
      intro graph given
      obtain ⟨-, clusters_le, nodes_le⟩ := Client.answer_of_diagram given
      exact ⟨clusters_le.trans brief, nodes_le.trans brief⟩
    exact (settles_of_measurable width_finite height_finite begun generation
      measurable).exists_status
  · intro no_answer
    cases given : (context.settings.client.diagram text reply : Except _ (Graph Float)) with
    | ok graph => exact absurd (Client.answer_of_diagram given).1 no_answer
    | error error => exact ⟨generation, error, locally, rfl⟩

omit width_finite height_finite

/-- A response whose body is no object. -/
private def listReply : Reply :=
  .response 200 "OK" "[]"

theorem update_despite_failure_list :
    ¬listReply.IsAnswer ∧ ∃ generation error,
      localUpdate standardContext {} "A -> B" =
          ((update standardContext {} "A -> B" (some true) listReply).session, .ok generation) ∧
        (update standardContext {} "A -> B" (some true) listReply).result =
          .ok ⟨generation, .unavailable, some error⟩ := by
  have no_answer : ¬listReply.IsAnswer := by
    have read : Json.read "[]" = .ok (.list []) := rfl
    rintro ⟨-, fields, read_object, -⟩
    cases read.symm.trans read_object
  have short : "A -> B".length ≤ 2 ^ 398 := by
    have few : "A -> B".length ≤ 2 ^ 3 := by decide
    apply few.trans
    apply Nat.pow_le_pow_right <;> decide
  have wanted : (some true).getD standardContext.settings.usesRemote = true := rfl
  have brief : listReply.size ≤ 2 ^ 400 := measurable_of_few (by decide)
  obtain ⟨-, unchanged⟩ := update_despite_failure rfl rfl {} short wanted brief
  exact ⟨no_answer, unchanged no_answer⟩

end Session
end ClusterDiagram
