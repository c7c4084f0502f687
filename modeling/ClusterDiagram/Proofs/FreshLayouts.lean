import ClusterDiagram.Proofs.CellGeometry
import ClusterDiagram.Proofs.DoubleCanvases
import ClusterDiagram.Proofs.ExactLayouts
import ClusterDiagram.Proofs.LateAnswers
import ClusterDiagram.Proofs.ServiceAgreement

/-!
# Layouts of fresh sessions

When a fresh session is updated with a text, clusters and members come to lie in cells of their own.
Nothing is rounded over exact numbers, and with doubles nothing is as long as the numbers of the
layout can be held.
-/

namespace ClusterDiagram
namespace Session

open HeldNumbers

/-- A session whose diagram is valid and laid out without rounding. -/
structure LaidExactly {α : Type} [Scalar α] [HeldNumbers α] (session : Session α) : Prop where
  /-- The diagram is valid. -/
  valid : session.graph.Valid
  /-- The clusters, if there are any, lie with their members in cells of their own. -/
  exact : session.graph.clusters ≠ [] → ∃ (cells : Layout.Cells) (bound : ℕ),
    Layout.Exact cells bound session.graph.clusters session.graph.nodes

section Texts

variable {α : Type} [Scalar α] [HeldNumbers α]
variable {context : Context α} {text : String} {drawn next : ℕ} {parsed : Graph α}
  (read : Prompt.read { canvasWidth := context.settings.canvas.width, token := context.token } text
    drawn = .ok (parsed, next))
  {placed : List (Cluster α)} {moved : List (Node α)}
  (laid : Layout.layout parsed.clusters parsed.nodes none context.settings.canvas =
    .ok (placed, moved))

include read laid

omit [HeldNumbers α] in
/-- What is read and laid out is a valid diagram. -/
theorem valid_laid : Graph.Valid { parsed with clusters := placed, nodes := moved } := by
  have valid : parsed.Valid := by
    obtain ⟨draft, sound, rfl⟩ := Prompt.sound_of_read read
    exact sound.wellFormed.toValid
  obtain ⟨clusters_eq, nodes_eq⟩ := Layout.unplaced_layout laid
  rw [← Graph.valid_unplaced_iff] at valid ⊢
  rwa [Graph.unplaced, clusters_eq, nodes_eq]

variable {places : ℕ}
  (reaches : Placement.Reaches context.settings.canvas.width (3 * text.length) places)

include reaches

/-- A fresh session that is updated with a text holds what is read, laid out. -/
theorem localUpdate_fresh_of_reaches : localUpdate context { drawn } text =
    ({ graph := { parsed with clusters := placed, nodes := moved }, text, generation := 1,
       drawn := next }, .ok 1) := by
  have wholes := Prompt.holdsWhole_of_read rfl rfl reaches read
  have isPlaced : ∀ node ∈ parsed.nodes, node.isPlaced = true := by
    intro node node_mem
    rw [Node.isPlaced, isZero_of_holdsWhole (wholes node node_mem).1 reaches.fits]
    rfl
  have integrated : integrate context { text, generation := 1, drawn := next } parsed =
      .ok { parsed with clusters := placed, nodes := moved } := by
    rw [integrate_of_isPlaced rfl read isPlaced, arrange, laid]
    rfl
  rw [localUpdate]
  simp only [read, Nat.zero_add, integrated]

variable
  (reachX : Layout.Reaches context.settings.canvas.width parsed.clusters.length
    (Layout.cellExtent parsed.clusters (Layout.widthOf parsed.clusters parsed.nodes))
    (2 * (Outline.padding * (parsed.clusters.length + 1) : ℕ)))
  (reachY : Layout.Reaches context.settings.canvas.height parsed.clusters.length
    (Layout.cellExtent parsed.clusters (Layout.heightOf parsed.clusters parsed.nodes))
    (2 * (Outline.padding * (parsed.clusters.length + 1) : ℕ)))

include reachX reachY

/-- When the numbers of the layout can be held, what is read lies in cells of its own. -/
theorem exists_exact_of_reaches (filled : placed ≠ []) :
    ∃ (cells : Layout.Cells) (bound : ℕ), Layout.Exact cells bound placed moved := by
  have wholes := Prompt.holdsWhole_of_read rfl rfl reaches read
  have movable : ∀ node ∈ parsed.nodes, Layout.Movable node.x ∧ Layout.Movable node.y :=
    fun node node_mem => (wholes node node_mem).imp (movable_of_holdsWhole · reaches.fits)
      (movable_of_holdsWhole · reaches.fits)
  obtain ⟨clusters_eq, nodes_eq⟩ := Layout.unplaced_layout laid
  have ids_eq : placed.map (·.id) = parsed.clusters.map (·.id) := by
    rw [← Cluster.map_id_unplaced, clusters_eq, Cluster.map_id_unplaced]
  have length_eq : placed.length = parsed.clusters.length := by
    simpa using congrArg List.length ids_eq
  have parsed_filled : parsed.clusters ≠ [] := by
    rwa [← List.length_pos_iff, ← length_eq, List.length_pos_iff]
  obtain ⟨cells, bound, targets, fills, separate, fits⟩ := Layout.exists_fills
    (ids_eq ▸ (valid_laid read laid).clusterIds) parsed_filled laid (by positivity) reachX reachY
  have fits_bound : Fits α (bound : ℚ) := fits.mono (le_add_of_nonneg_right (by positivity))
  obtain ⟨width_eq, height_eq⟩ := Layout.cellExtents_of_unplaced_eq clusters_eq nodes_eq
  exact ⟨cells, bound, fills.packed separate fits_bound laid movable, ids_eq.symm ▸ separate,
    fills.width_eq.trans width_eq.symm, fills.height_eq.trans height_eq.symm,
    length_eq.symm ▸ fits⟩

theorem exists_laidExactly_of_reaches :
    ∃ after, localUpdate context { drawn } text = (after, .ok 1) ∧ LaidExactly after :=
  ⟨_, localUpdate_fresh_of_reaches read laid reaches, valid_laid read laid,
    exists_exact_of_reaches read laid reaches reachX reachY⟩

end Texts

/-- Over exact numbers nothing is rounded on any canvas. -/
theorem exists_laidExactly_rational [Lengths] (context : Context ℚ) (text : String) (drawn : ℕ) :
    ∃ after, localUpdate context { drawn } text = (after, .ok 1) ∧ LaidExactly after := by
  have finite : Placement.FiniteWidth context.settings.canvas.width :=
    ⟨_, Placement.floorQuotient_rational _⟩
  let reading : Prompt.Context ℚ :=
    { canvasWidth := context.settings.canvas.width, token := context.token }
  obtain ⟨⟨parsed, next⟩, read⟩ := @Prompt.read_total _ _ reading finite text drawn
  obtain ⟨⟨placed, moved⟩, laid⟩ := Layout.exists_layout_ok_rational parsed.clusters parsed.nodes
    none context.settings.canvas
  obtain ⟨bound, reaches⟩ := Placement.exists_reaches_rational context.settings.canvas.width
    (3 * text.length)
  exact exists_laidExactly_of_reaches read laid reaches (Layout.reaches_rational _ _ _ _)
    (Layout.reaches_rational _ _ _ _)

/-- With doubles nothing is rounded as long as the numbers of the layout can be held. -/
theorem exists_laidExactly_double {context : Context Float} {text : String}
    (width_finite : context.settings.canvas.width.isFinite = true)
    (height_finite : context.settings.canvas.height.isFinite = true)
    (width_moderate : context.settings.canvas.width ≤ ((2 ^ 40 : ℕ) : Float))
    (height_moderate : context.settings.canvas.height ≤ ((2 ^ 40 : ℕ) : Float))
    (short : text.length ≤ 2 ^ 20) (drawn : ℕ) :
    ∃ after, localUpdate context { drawn } text = (after, .ok 1) ∧ LaidExactly after := by
  have finite := Placement.finiteWidth_of_isFinite width_finite
  obtain ⟨⟨parsed, next⟩, read⟩ := @Prompt.read_total _ _ (freshReading context) finite text drawn
  have size := Prompt.length_of_read read
  have few : parsed.clusters.length + parsed.nodes.length ≤ 3 * 2 ^ 20 := by omega
  have measurable {count : ℕ} (part : count ≤ parsed.clusters.length + parsed.nodes.length) :
      count ≤ 2 ^ 400 := by
    have moderate : count ≤ 2 ^ 22 := by omega
    apply moderate.trans
    apply Nat.pow_le_pow_right <;> decide
  obtain ⟨⟨placed, moved⟩, laid⟩ := Layout.exists_layout_ok (measurable (Nat.le_add_right _ _))
    (measurable (Nat.le_add_left _ _)) none width_finite height_finite
  obtain ⟨wide, high⟩ := Layout.cellExtents_le few
  have slack_le : (2 * (Outline.padding * (parsed.clusters.length + 1) : ℕ) : ℚ) ≤ 2 ^ 40 := by
    have steps : 2 * (Outline.padding * (parsed.clusters.length + 1)) ≤ 2 ^ 40 := by
      rw [Outline.padding]
      omega
    exact_mod_cast steps
  exact exists_laidExactly_of_reaches read laid
    (Placement.reaches_double width_finite width_moderate (by omega))
    (Layout.reaches_double width_finite width_moderate (by omega) (Nat.succ_ne_zero _) wide
      slack_le)
    (Layout.reaches_double height_finite height_moderate (by omega) (Nat.succ_ne_zero _) high
      slack_le)

end Session
end ClusterDiagram
