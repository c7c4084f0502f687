import ClusterDiagram.Proofs.DoubleCanvases
import ClusterDiagram.Proofs.ExactLayouts
import ClusterDiagram.Proofs.Indentation
import ClusterDiagram.Session.Edit

/-!
# Places that meet

Neither two slots nor two of the places that are used when no slot is free are the same, but one
of the latter may be a slot. On a canvas of the standard width this happens once: the thirtieth node
comes to lie on the ninth one.
-/

namespace ClusterDiagram

open HeldNumbers

namespace Placement

/-- Only a slot and a place that is used when no slot is free can be the same. -/
theorem lt_and_le_of_placeOf_eq {columns index other : ℕ} (before : index < other)
    (same : placeOf columns index = placeOf columns other) :
    index < 2 * columns ∧ 2 * columns ≤ other := by
  by_contra apart
  by_cases slots : other < 2 * columns
  · rw [placeOf, placeOf, if_pos slots, if_pos (before.trans slots), slotPlace, slotPlace,
      Prod.mk.injEq] at same
    obtain ⟨column_eq, row_eq⟩ := same
    exact before.ne (eq_of_slot_eq columns (by omega) (by omega))
  · have beyond : ¬ index < 2 * columns := by omega
    rw [placeOf, placeOf, if_neg slots, if_neg beyond, Prod.mk.injEq] at same
    omega

/-- With two rows of six slots, only the third slot of the second row is used again. -/
theorem placeOf_six_eq_iff {index other : ℕ} (before : index < other) :
    placeOf 6 index = placeOf 6 other ↔ index = 8 ∧ other = 29 := by
  constructor
  · intro same
    obtain ⟨slot, beyond⟩ := lt_and_le_of_placeOf_eq before same
    rw [placeOf, placeOf, if_pos slot, if_neg (not_lt.mpr beyond), slotPlace,
      Prod.mk.injEq] at same
    obtain ⟨x_eq, y_eq⟩ := same
    have row_le : index / 6 ≤ 1 := by omega
    have second_row : index / 6 = 1 := by omega
    have fifth_line : other / 6 = 4 := by omega
    have third_column : index % 6 = 2 := by omega
    omega
  · rintro ⟨rfl, rfl⟩
    rfl

/-- The columns of a canvas of the standard width. -/
theorem hasColumns_rational [Lengths] : HasColumns (Session.standardWidth : ℚ) 6 := by
  refine ⟨6, ?_, rfl⟩
  rw [floorQuotient_rational, Session.standardWidth]
  norm_num [Int.floor_eq_iff]

theorem HasColumns.finiteWidth {α : Type} [Scalar α] {canvasWidth : α} {columns : ℕ}
    (counted : HasColumns canvasWidth columns) : FiniteWidth canvasWidth := by
  obtain ⟨whole, whole_eq, -⟩ := counted
  exact ⟨whole, whole_eq⟩

theorem hasColumns_double : HasColumns (Session.standardWidth : Float) 6 :=
  ⟨6, by decide +kernel, rfl⟩

end Placement

open Placement

section Meetings

variable {α : Type} [Scalar α]

/-- Whether two nodes lie at one place. -/
def Node.meets (node other : Node α) : Bool :=
  node.x == other.x && node.y == other.y

/-- Whether the ninth and the thirtieth of some nodes, where there are as many, lie at one place,
and no others do. -/
def MeetOnce (nodes : List (Node α)) : Prop :=
  ∀ index other first second, index < other → nodes[index]? = some first →
    nodes[other]? = some second → (first.meets second = true ↔ index = 8 ∧ other = 29)

theorem MeetOnce.pairwise_iff {nodes : List (Node α)} (once : MeetOnce nodes) :
    nodes.Pairwise (fun first second => ¬ first.meets second = true) ↔ nodes.length < 30 := by
  rw [List.pairwise_iff_getElem]
  constructor
  · intro apart
    by_contra many
    have ninth : 8 < nodes.length := by omega
    have thirtieth : 29 < nodes.length := by omega
    exact apart 8 29 ninth thirtieth (by decide)
      ((once 8 29 _ _ (by decide) (List.getElem?_eq_getElem ninth)
        (List.getElem?_eq_getElem thirtieth)).mpr ⟨rfl, rfl⟩)
  · intro few index other index_lt other_lt before meets
    have same := (once index other _ _ before (List.getElem?_eq_getElem index_lt)
      (List.getElem?_eq_getElem other_lt)).mp meets
    omega

variable [HeldNumbers α]

/-- Nodes lie at one place when their turns give the same place. -/
theorem Placement.InTurn.meetOnce {nodes : List (Node α)} (turn : InTurn 6 nodes) :
    MeetOnce nodes := by
  intro index other first second before first_eq second_eq
  obtain ⟨x_held, y_held⟩ := turn index first first_eq
  obtain ⟨x_held', y_held'⟩ := turn other second second_eq
  rw [Node.meets, Bool.and_eq_true, beq_iff x_held x_held', beq_iff y_held y_held',
    Nat.cast_inj, Nat.cast_inj, ← Prod.ext_iff]
  exact placeOf_six_eq_iff before

/-- Nodes that are read against nothing on a canvas with six columns meet once, as long as their
places can be held. -/
theorem Prompt.exists_read_meetOnce {canvasWidth : α} (counted : HasColumns canvasWidth 6)
    {text : String} {bound : ℕ} (reaches : Reaches canvasWidth (3 * text.length) bound)
    (token : ℕ → String) (drawn : ℕ) :
    ∃ graph next, read { canvasWidth, token } text drawn = .ok (graph, next) ∧
      MeetOnce graph.nodes ∧
      (graph.nodes.Pairwise (fun first second => ¬ first.meets second = true) ↔
        graph.nodes.length < 30) := by
  let context : Context α := { canvasWidth, token }
  obtain ⟨⟨graph, next⟩, done⟩ := @read_total _ _ context counted.finiteWidth text drawn
  have turn : InTurn 6 graph.nodes := by
    rcases takesTurns_of_read rfl rfl reaches done with none | ⟨columns, recounted, turn⟩
    · rw [none]
      exact fun index node at_index => absurd at_index (by simp)
    · rwa [counted.unique recounted]
  exact ⟨graph, next, done, turn.meetOnce, turn.meetOnce.pairwise_iff⟩

end Meetings

namespace Prompt

/-- A text that is read against nothing on a canvas of the standard width gives nodes of which only
the ninth and the thirtieth lie at one place, so that fewer than thirty nodes all lie apart. Over
exact numbers this holds for every text, and with doubles as long as the places can be held. -/
theorem read_meetOnce (token : ℕ → String) (text : String) (drawn : ℕ) :
    (∀ [Lengths], ∃ graph next,
      read { canvasWidth := (Session.standardWidth : ℚ), token } text drawn = .ok (graph, next) ∧
        MeetOnce graph.nodes ∧
        (graph.nodes.Pairwise (fun first second => ¬ first.meets second = true) ↔
          graph.nodes.length < 30)) ∧
    (text.length ≤ 2 ^ 42 → ∃ graph next,
      read { canvasWidth := (Session.standardWidth : Float), token } text drawn =
          .ok (graph, next) ∧
        MeetOnce graph.nodes ∧
        (graph.nodes.Pairwise (fun first second => ¬ first.meets second = true) ↔
          graph.nodes.length < 30)) := by
  constructor
  · intro lengths
    obtain ⟨bound, reaches⟩ := exists_reaches_rational (Session.standardWidth : ℚ) (3 * text.length)
    exact exists_read_meetOnce hasColumns_rational reaches token drawn
  · intro short
    have few : 3 * text.length ≤ 2 ^ 44 := by omega
    have finite : (Session.standardWidth : Float).isFinite = true := by decide +kernel
    have moderate : (Session.standardWidth : Float) ≤ ((2 ^ 40 : ℕ) : Float) := by decide +kernel
    exact exists_read_meetOnce hasColumns_double (reaches_double finite moderate few) token drawn

/-- One node line after the other. -/
private def thirtyLines : List Char :=
  (List.replicate 30 "Node: A\n".toList).flatten

theorem read_meetOnce_thirtyLines :
    (String.ofList thirtyLines).length ≤ 2 ^ 42 ∧
      ∃ graph next, read { canvasWidth := (Session.standardWidth : Float), token := toString }
          (String.ofList thirtyLines) 0 = .ok (graph, next) ∧
        MeetOnce graph.nodes ∧
        ∃ ninth thirtieth, graph.nodes[8]? = some ninth ∧ graph.nodes[29]? = some thirtieth ∧
          ninth.meets thirtieth = true := by
  have short : (String.ofList thirtyLines).length ≤ 2 ^ 42 := by
    rw [String.length_ofList]
    decide +kernel
  have count : (captions (Statement.ofText (String.ofList thirtyLines))).length = 30 := by
    rw [Statement.ofText, Text.splitLines, String.toList_ofList]
    decide +kernel
  obtain ⟨graph, next, done, once, -⟩ :=
    (read_meetOnce toString (String.ofList thirtyLines) 0).2 short
  have many := length_captions_le_of_read done
  rw [count] at many
  have ninth := List.getElem?_eq_getElem (show 8 < graph.nodes.length by omega)
  have thirtieth := List.getElem?_eq_getElem (show 29 < graph.nodes.length by omega)
  exact ⟨short, graph, next, done, once, _, _, ninth, thirtieth,
    (once 8 29 _ _ (by decide) ninth thirtieth).mpr ⟨rfl, rfl⟩⟩

end Prompt
end ClusterDiagram
