import ClusterDiagram.Proofs.MemberHits

/-!
# Clusters that are joined

After a fresh session is updated with a text, a node that is added or dropped at a member of a
cluster joins that cluster, unless the outline of a cluster with child clusters reaches over the
member and goes before. The grid does not keep child clusters together, so that such outlines reach
over clusters that have nothing to do with them.
-/

namespace ClusterDiagram
namespace Session

/-- Over exact numbers members are hit as they should be on every canvas. -/
theorem exists_hitsMembers_rational [Lengths] (context : Context ℚ) (text : String) (drawn : ℕ) :
    ∃ after, localUpdate context { drawn } text = (after, .ok 1) ∧ HitsMembers context after := by
  obtain ⟨after, updated, laid⟩ := exists_laidExactly_rational context text drawn
  exact ⟨after, updated, laid.hitsMembers context⟩

/-- With doubles they are as long as the numbers of the layout can be held. -/
theorem exists_hitsMembers_double {context : Context Float} {text : String}
    (width_finite : context.settings.canvas.width.isFinite = true)
    (height_finite : context.settings.canvas.height.isFinite = true)
    (width_moderate : context.settings.canvas.width ≤ ((2 ^ 40 : ℕ) : Float))
    (height_moderate : context.settings.canvas.height ≤ ((2 ^ 40 : ℕ) : Float))
    (short : text.length ≤ 2 ^ 20) (drawn : ℕ) :
    ∃ after, localUpdate context { drawn } text = (after, .ok 1) ∧ HitsMembers context after := by
  obtain ⟨after, updated, laid⟩ := exists_laidExactly_double width_finite height_finite
    width_moderate height_moderate short drawn
  exact ⟨after, updated, laid.hitsMembers context⟩

/-- Hit testing agrees with membership after a fresh session is updated with a text, as far as the
outlines of nested clusters let it: over exact numbers with every text and on every canvas, with
doubles as long as the numbers of the layout can be held. -/
theorem localUpdate_hitsMembers :
    (∀ [Lengths] (context : Context ℚ) (text : String) (drawn : ℕ),
      ∃ after, localUpdate context { drawn } text = (after, .ok 1) ∧ HitsMembers context after) ∧
    ∀ (context : Context Float) (text : String) (drawn : ℕ),
      context.settings.canvas.width.isFinite = true →
      context.settings.canvas.height.isFinite = true →
      context.settings.canvas.width ≤ ((2 ^ 40 : ℕ) : Float) →
      context.settings.canvas.height ≤ ((2 ^ 40 : ℕ) : Float) → text.length ≤ 2 ^ 20 →
      ∃ after, localUpdate context { drawn } text = (after, .ok 1) ∧ HitsMembers context after :=
  ⟨fun context text drawn => exists_hitsMembers_rational context text drawn,
    fun _ _ drawn width_finite height_finite width_moderate height_moderate short =>
      exists_hitsMembers_double width_finite height_finite width_moderate height_moderate short
        drawn⟩

/-- Two clusters side by side. -/
private def flatText : String :=
  "Cluster: A\n  Node: a\nCluster: B\n  Node: b\n  Node: c"

theorem localUpdate_hitsMembers_flat :
    standardContext.settings.canvas.width.isFinite = true ∧
      standardContext.settings.canvas.height.isFinite = true ∧
      standardContext.settings.canvas.width ≤ ((2 ^ 40 : ℕ) : Float) ∧
      standardContext.settings.canvas.height ≤ ((2 ^ 40 : ℕ) : Float) ∧
      flatText.length ≤ 2 ^ 20 ∧
      ∃ after, localUpdate standardContext {} flatText = (after, .ok 1) ∧
        HitsMembers standardContext after ∧
        after.graph.nodes.map (·.cluster) = [some "a", some "b", some "b"] ∧
        ∀ node ∈ after.graph.nodes, ∀ id, node.cluster = some id →
          after.clusterAt? ⟨node.x, node.y⟩ = .ok (some id) := by
  have width_moderate : standardContext.settings.canvas.width ≤ ((2 ^ 40 : ℕ) : Float) := by
    decide +kernel
  have height_moderate : standardContext.settings.canvas.height ≤ ((2 ^ 40 : ℕ) : Float) := by
    decide +kernel
  have short : flatText.length ≤ 2 ^ 20 := by decide
  obtain ⟨after, updated, hits⟩ := localUpdate_hitsMembers.2 standardContext flatText 0 rfl rfl
    width_moderate height_moderate short
  have after_eq : (localUpdate standardContext {} flatText).1 = after := congrArg Prod.fst updated
  have members : after.graph.nodes.map (·.cluster) = [some "a", some "b", some "b"] := by
    rw [← after_eq]
    decide +kernel
  have roots : ∀ cluster ∈ after.graph.clusters, cluster.parent = none := by
    rw [← after_eq]
    decide +kernel
  exact ⟨rfl, rfl, width_moderate, height_moderate, short, after, updated, hits, members,
    fun _ node_mem _ member => hits.clusterAt?_eq_own roots node_mem member⟩

/-- A cluster that comes to lie between a cluster and its child. -/
private def enclosedText : String :=
  "Cluster: A\nCluster: B\n  Node: b\n  Cluster: C\n    Node: c\nCluster: D\n  Node: d"

/-- What is added at the member of such a cluster joins the cluster around it. -/
theorem clusterAt?_enclosed :
    let after := (localUpdate standardContext {} enclosedText).1
    ∃ node ∈ after.graph.nodes, node.cluster = some "d" ∧
      after.clusterAt? ⟨node.x, node.y⟩ = .ok (some "b") ∧
      (after.addNode standardContext "E" ⟨node.x, node.y⟩ none).map (·.2.cluster) =
        .ok (some "b") := by
  decide +kernel

end Session
end ClusterDiagram
