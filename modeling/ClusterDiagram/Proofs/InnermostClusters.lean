import ClusterDiagram.Proofs.Ancestors
import ClusterDiagram.Proofs.FiniteLayout
import ClusterDiagram.Proofs.HitTesting
import ClusterDiagram.Session.Edit

/-!
# Innermost clusters

A point hits nothing where no cluster has a box around it, and else a cluster with a box around it:
none below that one has, none that has lies below more clusters, and of those below as many it is
the first. This is so whether the boxes are given or computed.
-/

namespace ClusterDiagram

open ClusterTree

variable {α : Type} [Scalar α]

/-- Whether a point lies in a rectangle or on its border. -/
def Rect.Contains (rect : Rect α) (point : Point α) : Prop :=
  rect.x ≤ point.x ∧ point.x ≤ rect.x + rect.w ∧ rect.y ≤ point.y ∧ point.y ≤ rect.y + rect.h

namespace Outline

variable {clusters : List (Cluster α)} {outlines : List (String × Rect α)} {point : Point α}

/-- Whether a cluster has a box around a point. -/
def Boxed (outlines : List (String × Rect α)) (point : Point α) (id : String) : Prop :=
  ∃ box, outlines.lookup id = some box ∧ box.Contains point

theorem covers_iff {id : String} :
    covers outlines point id = true ↔ Boxed outlines point id := by
  have holds_iff (box : Rect α) : holds box point = true ↔ box.Contains point := by
    simp only [holds, Rect.Contains, Bool.and_eq_true, decide_eq_true_eq, and_assoc]
  simp only [covers, Boxed, Option.any_eq_true, holds_iff]

/-- What is hit at a point. -/
structure Innermost (clusters : List (Cluster α)) (outlines : List (String × Rect α))
    (point : Point α) (hit : Option String) : Prop where
  /-- Nothing is hit exactly where no cluster has a box. -/
  none_iff : hit = none ↔ ∀ id ∈ clusters.map (·.id), ¬ Boxed outlines point id
  /-- A cluster is hit that has a box around the point. -/
  boxed : ∀ id, hit = some id → id ∈ clusters.map (·.id) ∧ Boxed outlines point id
  /-- No cluster below it has. -/
  innermost : ∀ id, hit = some id → ∀ lower ∈ clusters.map (·.id), Above clusters id lower →
    ¬ Boxed outlines point lower
  /-- There are not more clusters above any other that has. -/
  deepest : ∀ id, hit = some id → ∀ other ∈ clusters.map (·.id), Boxed outlines point other →
    countAbove clusters other ≤ countAbove clusters id
  /-- Among those that are as deep it is listed first. -/
  first : ∀ id, hit = some id → ∀ other ∈ clusters.map (·.id), Boxed outlines point other →
    countAbove clusters other = countAbove clusters id →
      (clusters.map (·.id)).idxOf id ≤ (clusters.map (·.id)).idxOf other

theorem clusterAt?_eq_none_iff : clusterAt? point clusters outlines = none ↔
    ∀ id ∈ clusters.map (·.id), ¬ Boxed outlines point id := by
  have empty_iff : (clusters.map (·.id)).filter (covers outlines point) = [] ↔
      ∀ id ∈ clusters.map (·.id), ¬ Boxed outlines point id := by
    simp only [List.filter_eq_nil_iff, covers_iff]
  rw [clusterAt?_eq_foldl, ← empty_iff]
  refine ⟨fun nothing => ?_, fun empty => by rw [empty, List.foldl_nil]⟩
  by_contra filled
  obtain ⟨best, -, -, found, -⟩ :=
    @exists_foldl_deeper (ClusterTree.depths clusters) _ filled
  cases nothing.symm.trans found

section Hits

variable (ids : (clusters.map (·.id)).Nodup) (acyclic : Acyclic clusters)

include ids

omit [Scalar α] in
theorem precedes_iff (acyclic : Acyclic clusters) {id other : String}
    (id_mem : id ∈ clusters.map (·.id)) (other_mem : other ∈ clusters.map (·.id)) :
    Precedes clusters id other ↔ countAbove clusters other < countAbove clusters id ∨
      countAbove clusters id = countAbove clusters other ∧
        (clusters.map (·.id)).idxOf id < (clusters.map (·.id)).idxOf other := by
  rw [Precedes, depth_eq_countAbove ids acyclic id_mem, depth_eq_countAbove ids acyclic other_mem]

include acyclic

theorem innermost_clusterAt? :
    Innermost clusters outlines point (clusterAt? point clusters outlines) := by
  have hit {id : String} (found : clusterAt? point clusters outlines = some id) :=
    (clusterAt?_eq_some_iff ids).mp found
  -- What else has a box does not go before the cluster that is hit.
  have behind {id other : String} (found : clusterAt? point clusters outlines = some id)
      (other_mem : other ∈ clusters.map (·.id)) (boxed : Boxed outlines point other) :
      ¬ (countAbove clusters id < countAbove clusters other ∨
        countAbove clusters other = countAbove clusters id ∧
          (clusters.map (·.id)).idxOf other < (clusters.map (·.id)).idxOf id) := by
    rw [← precedes_iff ids acyclic other_mem (hit found).1.1]
    exact (hit found).2 other other_mem (covers_iff.mpr boxed)
  constructor
  · exact clusterAt?_eq_none_iff
  · intro id found
    exact ⟨(hit found).1.1, covers_iff.mp (hit found).1.2⟩
  · intro id found lower lower_mem above boxed
    exact behind found lower_mem boxed (Or.inl (countAbove_lt acyclic (hit found).1.1 above))
  · intro id found other other_mem boxed
    exact not_lt.mp fun deeper => behind found other_mem boxed (Or.inl deeper)
  · intro id found other other_mem boxed same
    exact not_lt.mp fun earlier => behind found other_mem boxed (Or.inr ⟨same, earlier⟩)

end Hits

/-- On a canvas of finite width every cluster can be outlined. -/
theorem exists_encloseNext_of_finite {canvasWidth : α} (finite : Placement.FiniteWidth canvasWidth)
    (nodes : List (Node α)) (clusters : List (Cluster α)) (outlines : List (String × Rect α))
    (id : String) :
    ∃ outline, encloseNext nodes clusters canvasWidth outlines id = .ok outline := by
  obtain ⟨corner, placed⟩ := finite.nodeSlot nodes clusters
  rw [Placement.nodeSlot] at placed
  simp only [encloseNext, enclose, placed]
  split
  · split <;> exact ⟨_, rfl⟩
  · exact ⟨_, rfl⟩

/-- The innermost cluster is hit, with any boxes that are given and with the outlines, which can be
drawn on every canvas of finite width. -/
theorem clusterAt?_innermost (ids : (clusters.map (·.id)).Nodup) (acyclic : Acyclic clusters)
    (nodes : List (Node α)) (point : Point α) :
    (∀ boxes, Innermost clusters boxes point (clusterAt? point clusters boxes)) ∧
      ∀ canvasWidth, Placement.FiniteWidth canvasWidth →
        ∃ outlines, ofClusters clusters nodes canvasWidth = .ok outlines ∧
          (outlines.map (·.1)).Perm (clusters.map (·.id)) ∧
          Innermost clusters outlines point (clusterAt? point clusters outlines) := by
  refine ⟨fun _ => innermost_clusterAt? ids acyclic, fun canvasWidth finite => ?_⟩
  obtain ⟨outlines, done, drawn, -⟩ :=
    exists_ofClusters_inOrder ids (exists_encloseNext_of_finite finite nodes clusters)
  exact ⟨outlines, done, drawn, innermost_clusterAt? ids acyclic⟩

/-- Two clusters in a third one. -/
private def twins : List (Cluster Float) :=
  [{ id := "outer", label := "outer" }, { id := "first", label := "first", parent := some "outer" },
    { id := "second", label := "second", parent := some "outer" }]

/-- A member of the second twin. -/
private def twinMember : Node Float :=
  { id := "a", label := "a", x := 100, y := 100, cluster := some "second" }

/-- Boxes that all lie around one point. -/
private def twinBoxes : List (String × Rect Float) :=
  [("second", ⟨0, 0, 200, 200⟩), ("first", ⟨50, 50, 100, 100⟩), ("outer", ⟨0, 0, 300, 300⟩)]

/-- Given boxes let the first of two clusters be hit that are as deep, the outlines of the standard
drawing area the only one with a member at the point. -/
theorem clusterAt?_innermost_twins :
    (twins.map (·.id)).Nodup ∧ Acyclic twins ∧
      Placement.FiniteWidth ((Session.standardWidth : ℕ) : Float) ∧
      clusterAt? ⟨100, 100⟩ twins twinBoxes = some "first" ∧
      Innermost twins twinBoxes ⟨100, 100⟩ (some "first") ∧
      ∃ outlines, ofClusters twins [twinMember] ((Session.standardWidth : ℕ) : Float) =
          .ok outlines ∧
        clusterAt? ⟨100, 100⟩ twins outlines = some "second" ∧
        Innermost twins outlines ⟨100, 100⟩ (some "second") := by
  have ids : (twins.map (·.id)).Nodup := by decide
  have acyclic : Acyclic twins := by
    simp only [Acyclic, twins, List.forall_mem_cons]
    exact ⟨Ends.not_returns ⟨1, by decide⟩, Ends.not_returns ⟨2, by decide⟩,
      Ends.not_returns ⟨2, by decide⟩, fun _ none => absurd none List.not_mem_nil⟩
  have finite : Placement.FiniteWidth ((Session.standardWidth : ℕ) : Float) :=
    Placement.finiteWidth_of_isFinite (by decide +kernel)
  obtain ⟨given, computed⟩ := clusterAt?_innermost ids acyclic [twinMember] ⟨100, 100⟩
  have first_hit : clusterAt? ⟨100, 100⟩ twins twinBoxes = some "first" := by decide +kernel
  obtain ⟨outlines, done, -, innermost⟩ := computed _ finite
  have drawn : (ofClusters twins [twinMember] ((Session.standardWidth : ℕ) : Float)).map
      (clusterAt? ⟨100, 100⟩ twins) = .ok (some "second") := by
    decide +kernel
  rw [done] at drawn
  have second_hit := Except.ok.inj drawn
  exact ⟨ids, acyclic, finite, first_hit, first_hit ▸ given twinBoxes, outlines, done, second_hit,
    second_hit ▸ innermost⟩

end Outline
end ClusterDiagram
