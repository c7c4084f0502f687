import ClusterDiagram.Service
import ClusterDiagram.Proofs.FirstMerge
import ClusterDiagram.Proofs.FirstReading
import ClusterDiagram.Proofs.ReadValidity
import ClusterDiagram.Proofs.Synchrony

/-!
# Service and session agree

The parse service lays out what it reads, while a session merges it with its diagram first. On a
fresh session the merge moves nodes that share a cluster, but only nodes that the layout packs anew,
so that both arrive at the same diagram.
-/

namespace ClusterDiagram

namespace Session

variable {context : Context Float} {text : String} {drawn next : Nat} {parsed : Graph Float}

/-- What a fresh session reads against: nothing. -/
def freshReading (context : Context Float) : Prompt.Context Float :=
  { canvasWidth := context.settings.canvas.width, token := context.token }

theorem freshReading_eq (context : Context Float) :
    { canvasWidth := context.settings.canvas.width, token := context.token } =
      freshReading context :=
  rfl

/-- On a session without a diagram merging makes no difference to a text all of whose nodes have
positions. -/
theorem integrate_of_isPlaced {α : Type} [Scalar α] {context : Context α} {session : Session α}
    (empty : session.graph = {}) {reading : Prompt.Context α} {parsed : Graph α}
    (done : Prompt.read reading text drawn = .ok (parsed, next))
    (isPlaced : ∀ node ∈ parsed.nodes, node.isPlaced = true) :
    integrate context session parsed = arrange context parsed none := by
  obtain ⟨draft, sound, rfl⟩ := Prompt.sound_of_read done
  have valid := sound.wellFormed.toValid
  obtain ⟨moved, merged, same⟩ := Merge.merge_nothing sound.wellFormed sound.named isPlaced
    context.settings.canvas.width
  have listed : ∀ node ∈ draft.graph.nodes, ∀ id, node.cluster = some id →
      id ∈ draft.graph.clusters.map (·.id) := valid.memberships
  have laid := Layout.layout_eq_of_same valid.clusterIds listed same context.settings.canvas
  rw [integrate, empty, merged]
  change arrange context { draft.graph with nodes := moved } none = _
  rw [arrange, arrange, laid]

theorem integrate_of_empty {session : Session Float} (empty : session.graph = {})
    (done : Prompt.read (freshReading context) text drawn = .ok (parsed, next)) :
    integrate context session parsed = arrange context parsed none :=
  integrate_of_isPlaced empty done (Prompt.isPlaced_of_read rfl rfl done)

/-- A fresh session that is updated with a text holds what is read, laid out. -/
theorem localUpdate_fresh (context : Context Float) (text : String) (drawn : Nat) :
    localUpdate context { drawn } text =
      match Prompt.read (freshReading context) text drawn with
      | .error failure =>
          ({ text, generation := 1, drawn := failure.drawn }, .error (.arithmetic failure.cause))
      | .ok (parsed, drawn) =>
          match arrange context parsed none with
          | .error error => ({ text, generation := 1, drawn }, .error error)
          | .ok graph => ({ graph, text, generation := 1, drawn }, .ok 1) := by
  rw [localUpdate]
  simp only [freshReading_eq]
  cases done : Prompt.read (freshReading context) text drawn with
  | error failure => rfl
  | ok result =>
      obtain ⟨parsed, next⟩ := result
      have integrated : integrate context { text, generation := 1, drawn := next } parsed =
          arrange context parsed none := integrate_of_empty rfl done
      simp only [Nat.zero_add, integrated]
      cases arrange context parsed none <;> rfl

/-- What the first update of a session gives is what is read from its text, laid out. -/
theorem read_of_localUpdate_fresh {generation : Nat} {after : Session Float}
    (updates : localUpdate context { drawn } text = (after, .ok generation)) :
    ∃ parsed next graph, Prompt.read (freshReading context) text drawn = .ok (parsed, next) ∧
      arrange context parsed none = .ok graph ∧
      after = { graph, text, generation := 1, drawn := next } := by
  rw [localUpdate_fresh] at updates
  split at updates
  · cases updates
  · rename_i parsed next done
    split at updates
    · cases updates
    · rename_i graph arranging
      cases updates
      exact ⟨parsed, next, graph, done, arranging, rfl⟩

/-- On a canvas of finite size a fresh session is updated with any text, unless the text is longer
than doubles can measure. -/
theorem exists_localUpdate_fresh_ok (width_finite : context.settings.canvas.width.isFinite = true)
    (height_finite : context.settings.canvas.height.isFinite = true)
    (short : text.length ≤ 2 ^ 398) (drawn : Nat) :
    ∃ graph next, localUpdate context { drawn } text =
      ({ graph, text, generation := 1, drawn := next }, .ok 1) := by
  have finite : Placement.FiniteWidth (freshReading context).canvasWidth :=
    Placement.finiteWidth_of_isFinite width_finite
  obtain ⟨⟨parsed, next⟩, done⟩ := Prompt.read_total finite text drawn
  obtain ⟨clusters_le, nodes_le⟩ := Prompt.measurable_of_read short done
  obtain ⟨graph, arranged⟩ :=
    exists_arrange_ok width_finite height_finite clusters_le nodes_le none
  exact ⟨graph, next, by simp only [localUpdate_fresh, done, arranged]⟩

end Session

namespace Service

/-- The answer that goes with the update of a session: its diagram, or why it failed. -/
def answerFor {α : Type} [Scalar α] (update : Session α × Except SessionError Nat) : Answer α :=
  match update.2 with
  | .ok _ =>
      let graph := update.1.graph
      ⟨200, some (.object (graph.toFields ++ [("message", .text (summary graph))]))⟩
  | .error error => failure 500 error.message

theorem answerParse_eq {context : Session.Context Float} {service : Service} {call : Call}
    {prompt : String}
    (asked : (call.field? "prompt" : Option (Json Float)) = some (.text prompt)) :
    answerParse context service call =
      ({ lastPrompt := some prompt
         drawn := (Session.localUpdate context { drawn := service.drawn } prompt).1.drawn },
        answerFor (Session.localUpdate context { drawn := service.drawn } prompt)) := by
  rw [Session.localUpdate_fresh, answerParse, asked]
  simp only [readPrompt, Session.freshReading_eq]
  cases Prompt.read (Session.freshReading context) prompt service.drawn with
  | error failure => rfl
  | ok result =>
      obtain ⟨parsed, next⟩ := result
      simp only [Session.arrange]
      cases Layout.layout parsed.clusters parsed.nodes none context.settings.canvas <;> rfl

/-- Asked for the diagram of a prompt, the service answers with the diagram of a fresh session that
is updated with the prompt, and draws the same tokens. On a canvas of finite size there always is
one, and otherwise both fail alike. -/
theorem respond_eq_localUpdate {context : Session.Context Float} {service : Service} {call : Call}
    {prompt : String} (path : Endpoint.ofPath? call.path = some .parse)
    (method : call.method = "POST")
    (asked : (call.field? "prompt" : Option (Json Float)) = some (.text prompt)) :
    respond context service call =
        ({ lastPrompt := some prompt
           drawn := (Session.localUpdate context { drawn := service.drawn } prompt).1.drawn },
          answerFor (Session.localUpdate context { drawn := service.drawn } prompt)) ∧
      (context.settings.canvas.width.isFinite = true →
        context.settings.canvas.height.isFinite = true → prompt.length ≤ 2 ^ 398 →
        ∃ graph next, Session.localUpdate context { drawn := service.drawn } prompt =
          ({ graph, text := prompt, generation := 1, drawn := next }, .ok 1)) := by
  refine ⟨?_, fun width_finite height_finite short =>
    Session.exists_localUpdate_fresh_ok width_finite height_finite short service.drawn⟩
  rw [respond, path]
  simp only [method]
  exact answerParse_eq asked

private def pairPrompt : String :=
  "Cluster: Site\n  Node: API\n  Node: Store\nAPI -> Browser"

private def pairCall : Call :=
  { path := "/api/parse?draft"
    method := "POST"
    contentType := some "Application/JSON; charset=utf-8"
    body := "\x7b\"prompt\": \"Cluster: Site\\n  Node: API\\n  Node: Store\\nAPI -> Browser\"\x7d" }

private def pairContext : Session.Context Float :=
  { settings := Settings.ofValues fun _ => none, token := toString }

theorem respond_eq_localUpdate_pair :
    Endpoint.ofPath? pairCall.path = some .parse ∧ pairCall.method = "POST" ∧
      (pairCall.field? "prompt" : Option (Json Float)) = some (.text pairPrompt) ∧
      ∃ graph next,
        Session.localUpdate pairContext { drawn := 5 } pairPrompt =
          ({ graph, text := pairPrompt, generation := 1, drawn := next }, .ok 1) ∧
        respond pairContext { drawn := 5 } pairCall =
          ({ lastPrompt := some pairPrompt, drawn := next },
            ⟨200, some (.object (graph.toFields ++ [("message", .text (summary graph))]))⟩) := by
  have path : Endpoint.ofPath? pairCall.path = some .parse := by decide +kernel
  have read : (pairCall.field? "prompt" : Option (Json Float)).map
      (fun field => (field.kind, field.asText)) = some ("str", pairPrompt) := by
    decide +kernel
  have asked : (pairCall.field? "prompt" : Option (Json Float)) = some (.text pairPrompt) := by
    obtain ⟨field, field_eq, shown⟩ := Option.map_eq_some_iff.mp read
    rw [field_eq]
    rw [Prod.mk.injEq] at shown
    cases field with
    | text value => exact congrArg (fun text => some (Json.text text)) shown.2
    | _ => exact absurd shown.1 (by simp [Json.kind])
  obtain ⟨answered, succeeds⟩ :=
    @respond_eq_localUpdate pairContext { drawn := 5 } pairCall pairPrompt path rfl asked
  have short : pairPrompt.length ≤ 2 ^ 398 := by
    have few : pairPrompt.length ≤ 2 ^ 6 := by decide +kernel
    apply few.trans
    apply Nat.pow_le_pow_right <;> decide
  obtain ⟨graph, next, updated⟩ := succeeds rfl rfl short
  exact ⟨path, rfl, asked, graph, next, updated, by rw [answered, updated, answerFor]⟩

end Service
end ClusterDiagram
