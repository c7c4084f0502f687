import ClusterDiagram.Proofs.MergeContent
import ClusterDiagram.Proofs.Synchrony

/-!
# Late answers

Answers of the parse service arrive in any order, any number of times and for any update. One that is
no diagram, or that is not for the present update, leaves no trace: a run of updates and arrivals ends
as it does without it.
-/

namespace ClusterDiagram
namespace Session

variable {α : Type} [Scalar α] {context : Context α} {session : Session α}

/-! ## One answer -/

/-- What an answer for the update with a number makes of a session, and the status it is given. -/
inductive Settles (context : Context α) (session : Session α) (generation : Int) :
    Except RemoteError (Graph α) → Session α × Except SessionError Status → Prop where
  /-- There is no diagram. -/
  | unavailable (error : RemoteError) :
      Settles context session generation (.error error)
        (session, .ok ⟨generation, .unavailable, some error⟩)
  /-- The diagram is not for the present update. -/
  | stale (answer : Graph α) (late : generation ≠ session.generation) :
      Settles context session generation (.ok answer) (session, .ok ⟨generation, .stale, none⟩)
  /-- The diagram takes the place of the live one, once it is merged with it and laid out. -/
  | applied (answer graph : Graph α) (current : generation = session.generation)
      (integrated : integrate context session answer = .ok graph) :
      Settles context session generation (.ok answer)
        ({ session with
            graph := { graph with edges := graph.edges.map (keepLocalStyle session.graph.edges) } },
          .ok ⟨generation, .applied, none⟩)

/-- An answer settles, or it is for the present update and cannot be merged or laid out; then the
session stays as it is. -/
theorem settles_or_fails (context : Context α) (session : Session α) (generation : Int)
    (answer : Except RemoteError (Graph α)) :
    Settles context session generation answer (applyAnswer context session generation answer) ∨
      ∃ graph error, answer = .ok graph ∧ integrate context session graph = .error error ∧
        applyAnswer context session generation answer = (session, .error error) := by
  cases answer with
  | error error => exact Or.inl (.unavailable error)
  | ok answer =>
      by_cases current : generation = session.generation
      · cases integrated : integrate context session answer with
        | error error =>
            refine Or.inr ⟨answer, error, rfl, integrated, ?_⟩
            simp only [applyAnswer, applyDiagram, if_pos current, integrated]
        | ok graph =>
            have applied := Settles.applied answer graph current integrated
            refine Or.inl ?_
            simpa only [applyAnswer, applyDiagram, if_pos current, integrated] using applied
      · refine Or.inl ?_
        simpa only [applyAnswer, applyDiagram, if_neg current] using
          Settles.stale answer current

/-- An answer that settles is given a status. -/
theorem Settles.exists_status {generation : Int} {answer : Except RemoteError (Graph α)}
    {settlement : Session α × Except SessionError Status}
    (settled : Settles context session generation answer settlement) :
    ∃ status, settlement.2 = .ok status := by
  cases settled <;> exact ⟨_, rfl⟩

/-- Whether the status of an answer is stale or unavailable. -/
def isPutAside : Except SessionError Status → Bool
  | .ok status => status.remote == .stale || status.remote == .unavailable
  | .error _ => false

theorem session_of_isPutAside {generation : Int} {answer : Except RemoteError (Graph α)}
    (aside : isPutAside (applyAnswer context session generation answer).2 = true) :
    (applyAnswer context session generation answer).1 = session := by
  rcases settles_or_fails context session generation answer with settled | failed
  · generalize applyAnswer context session generation answer = settlement at settled aside
    cases settled with
    | unavailable => rfl
    | stale => rfl
    | applied => cases aside
  · obtain ⟨_, _, -, -, failed⟩ := failed
    rw [failed]

/-! ## Runs of updates and arrivals -/

/-- What happens to a session that waits for answers. -/
inductive Event (α : Type) where
  /-- The text is updated. -/
  | update (text : String)
  /-- The payload arrives that was fetched for the update with a number. -/
  | arrival (payload : Json α) (generation : Int)

namespace Event

/-- The operation that an event asks for. -/
def operation : Event α → Operation α
  | .update text => .localUpdate text
  | .arrival payload generation => .applyPayload payload (some generation)

/-- Whether an event is an arrival that is reported as stale or unavailable. -/
def isInert (context : Context α) (session : Session α) : Event α → Bool
  | .update _ => false
  | .arrival payload generation =>
      isPutAside (applyPayload context session generation payload).2

/-- An inert arrival leaves the session as it is. -/
theorem session_of_isInert {event : Event α} (inert : event.isInert context session = true) :
    (perform context session event.operation).1 = session := by
  cases event with
  | update text => cases inert
  | arrival payload generation =>
      rw [isInert, applyPayload] at inert
      exact session_of_isPutAside inert

end Event

/-- The events of a run without its inert arrivals. -/
def effective (context : Context α) : Session α → List (Event α) → List (Event α)
  | _, [] => []
  | session, event :: events =>
      let rest := effective context (perform context session event.operation).1 events
      if event.isInert context session then rest else event :: rest

/-- A run ends as it does without its inert arrivals. -/
theorem run_effective (context : Context α) (session : Session α) (events : List (Event α)) :
    run context session ((effective context session events).map Event.operation) =
      run context session (events.map Event.operation) := by
  induction events generalizing session with
  | nil => rfl
  | cons event events induction =>
      have rest := induction (perform context session event.operation).1
      simp only [effective]
      split
      · rename_i inert
        rw [Event.session_of_isInert inert] at rest ⊢
        rw [rest, List.map_cons, run, run, List.foldl_cons, Event.session_of_isInert inert]
      · exact rest

section Finite

variable {context : Context Float} (width_finite : context.settings.canvas.width.isFinite = true)
  (height_finite : context.settings.canvas.height.isFinite = true)

include width_finite height_finite

/-- On a canvas of finite size every diagram can be merged and laid out, unless it has more clusters
or nodes than doubles can measure. -/
theorem exists_integrate_ok (session : Session Float) {parsed : Graph Float}
    (clusters_le : parsed.clusters.length ≤ 2 ^ 400) (nodes_le : parsed.nodes.length ≤ 2 ^ 400) :
    ∃ graph, integrate context session parsed = .ok graph := by
  obtain ⟨merged, merging⟩ := Merge.exists_merge_ok parsed session.graph.nodes
    session.graph.clusters (Placement.finiteWidth_of_isFinite width_finite)
  obtain ⟨clusters_eq, nodes_eq⟩ := Merge.length_of_merge merging
  obtain ⟨arranged, arranging⟩ := exists_arrange_ok width_finite height_finite
    (clusters_eq.trans_le clusters_le) (nodes_eq.trans_le nodes_le) none
  refine ⟨arranged, ?_⟩
  simp only [integrate, merging, ofArithmetic, bind, Except.bind, arranging]

/-- On a canvas of finite size every answer settles. -/
theorem settles_of_measurable (session : Session Float) (generation : Int)
    {answer : Except RemoteError (Graph Float)}
    (measurable : ∀ graph, answer = .ok graph →
      graph.clusters.length ≤ 2 ^ 400 ∧ graph.nodes.length ≤ 2 ^ 400) :
    Settles context session generation answer (applyAnswer context session generation answer) := by
  rcases settles_or_fails context session generation answer with settled | failed
  · exact settled
  · obtain ⟨graph, error, answer_eq, integrated, -⟩ := failed
    obtain ⟨clusters_le, nodes_le⟩ := measurable graph answer_eq
    obtain ⟨result, done⟩ :=
      exists_integrate_ok width_finite height_finite session clusters_le nodes_le
    exact absurd (done.symm.trans integrated) (by simp)

/-- From the empty session on, whatever updates and arrivals there are in whatever order: on a
canvas of finite size every arrival settles where it stands, and the run ends as it does without
the stale and the unavailable ones. Only a payload of more clusters or nodes than doubles can measure
could do otherwise. -/
theorem run_arrivals (events : List (Event Float))
    (measurable : ∀ payload generation, .arrival payload generation ∈ events →
      ∀ graph, Graph.ofPayload payload = .ok graph →
        graph.clusters.length ≤ 2 ^ 400 ∧ graph.nodes.length ≤ 2 ^ 400) :
    (∀ before payload generation after, events = before ++ .arrival payload generation :: after →
      Settles context (run context {} (before.map Event.operation)) generation
        ((Graph.ofPayload payload).mapError RemoteError.payload)
        (applyPayload context (run context {} (before.map Event.operation)) generation payload)) ∧
      run context {} (events.map Event.operation) =
        run context {} ((effective context {} events).map Event.operation) := by
  refine ⟨?_, (run_effective context {} events).symm⟩
  rintro before payload generation after rfl
  apply settles_of_measurable width_finite height_finite
  intro graph answer_eq
  apply measurable payload generation (by simp) graph
  cases read : Graph.ofPayload payload with
  | error error =>
      rw [read] at answer_eq
      cases answer_eq
  | ok parsed =>
      rw [read] at answer_eq
      cases answer_eq
      rfl

end Finite

/-- A handful is measurable. -/
theorem measurable_of_few {count : Nat} (few : count ≤ 2 ^ 2) : count ≤ 2 ^ 400 := by
  apply few.trans
  apply Nat.pow_le_pow_right <;> decide

/-- A payload of one node. -/
private def lonePayload : Json Float :=
  .object [("clusters", .list []),
    ("nodes", .list [.object [("id", .text "b"), ("label", .text "B"), ("x", .real 40)]]),
    ("edges", .list [])]

/-- A late answer, one that is no diagram and the same answer in time, twice. -/
private def arrivals : List (Event Float) :=
  [.update "A", .update "A -> B", .arrival lonePayload 1, .arrival .null 2, .arrival lonePayload 2,
    .arrival lonePayload 2]

/-- The context of a session without any settings. -/
def standardContext : Context Float :=
  { settings := Settings.ofValues fun _ => none, token := toString }

theorem run_arrivals_lone :
    (∀ payload generation, .arrival payload generation ∈ arrivals →
      ∀ graph, Graph.ofPayload payload = .ok graph →
        graph.clusters.length ≤ 2 ^ 400 ∧ graph.nodes.length ≤ 2 ^ 400) ∧
      (effective standardContext {} arrivals).length = 4 ∧
      run standardContext {} (arrivals.map Event.operation) =
        run standardContext {} ((effective standardContext {} arrivals).map Event.operation) := by
  have measurable : ∀ payload generation, .arrival payload generation ∈ arrivals →
      ∀ graph, Graph.ofPayload payload = .ok graph →
        graph.clusters.length ≤ 2 ^ 400 ∧ graph.nodes.length ≤ 2 ^ 400 := by
    intro payload generation payload_mem graph read
    have one_of : payload = lonePayload ∨ payload = .null := by
      simp only [arrivals, List.mem_cons, reduceCtorEq, Event.arrival.injEq, List.not_mem_nil,
        or_false, false_or] at payload_mem
      tauto
    rcases one_of with rfl | rfl
    · cases read
      exact ⟨measurable_of_few (by decide), measurable_of_few (by decide)⟩
    · cases read
  exact ⟨measurable, by decide +kernel, (run_arrivals rfl rfl arrivals measurable).2⟩

end Session
end ClusterDiagram
