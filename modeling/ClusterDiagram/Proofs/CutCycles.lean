import ClusterDiagram.Proofs.ClusterMerge

/-!
# Which clusters are detached

Detaching looks at the clusters one after the other, and every cut counts for those that follow. On
a cycle of parents the cluster that is listed first is cut off, which opens the cycle for all others.
So each cycle loses one link, and no chain that merely leads into a cycle loses any.
-/

namespace ClusterDiagram
namespace ClusterTree

variable {up cut : String → Option String} {keys done later : List String} {id : String}

/-- Whether an id lies on a cycle of links and comes before all others on it. -/
structure FirstOfCycle (up : String → Option String) (keys : List String) (id : String) :
    Prop where
  /-- The links lead back to the id. -/
  returns : Returns up id
  /-- Nothing that the links lead to is listed earlier. -/
  first : ∀ steps other, ascend up steps id = some other → keys.idxOf id ≤ keys.idxOf other

variable (up) in
/-- What comes first among all that the links lead to from an id. -/
theorem exists_least_rank (rank : String → ℕ) (id : String) :
    ∃ steps least, ascend up steps id = some least ∧
      ∀ more other, ascend up more least = some other → rank least ≤ rank other := by
  classical
  have reached : ∃ value steps other, ascend up steps id = some other ∧ rank other = value :=
    ⟨rank id, 0, id, rfl, rfl⟩
  obtain ⟨steps, least, walked, rank_eq⟩ := Nat.find_spec reached
  refine ⟨steps, least, walked, fun more other onward => ?_⟩
  rw [rank_eq]
  exact Nat.find_min' reached
    ⟨steps + more, other, by rw [ascend_add, walked, Option.bind_some, onward], rfl⟩

/-- On every cycle some id comes first. -/
theorem Returns.exists_firstOfCycle (returns : Returns up id) (keys : List String) :
    ∃ steps first, ascend up steps id = some first ∧ FirstOfCycle up keys first := by
  obtain ⟨steps, first, walked, least⟩ := exists_least_rank up keys.idxOf id
  exact ⟨steps, first, walked, (returns.of_ascend walked).1, least⟩

/-- Links of which those are cut that begin at the first id of a cycle, as far as it is done. -/
structure CutAtFirsts (up cut : String → Option String) (keys done : List String) : Prop where
  /-- The first id of a cycle has no link any more. -/
  opened : ∀ id ∈ done, FirstOfCycle up keys id → cut id = none
  /-- All other links are kept. -/
  kept : ∀ id, ¬ (id ∈ done ∧ FirstOfCycle up keys id) → cut id = up id

theorem CutAtFirsts.fewer (state : CutAtFirsts up cut keys done) (id : String) :
    cut id = none ∨ cut id = up id := by
  by_cases gone : id ∈ done ∧ FirstOfCycle up keys id
  · exact Or.inl (state.opened id gone.1 gone.2)
  · exact Or.inr (state.kept id gone)

/-- Where the links lead to the first id of a cycle that is done, they come to an end now. -/
theorem CutAtFirsts.ends_of_opened (state : CutAtFirsts up cut keys done) {steps : ℕ}
    {first : String} (walked : ascend up steps id = some first) (first_mem : first ∈ done)
    (leads : FirstOfCycle up keys first) : Ends cut id := by
  cases reached : ascend cut steps id with
  | none => exact ⟨steps, reached⟩
  | some other =>
      obtain rfl : other = first :=
        Option.some.inj ((ascend_of_cut state.fewer reached).symm.trans walked)
      refine ⟨steps + 1, ?_⟩
      rw [ascend_succ, reached, Option.bind_some, state.opened other first_mem leads]

section Next

variable (keys_eq : keys = done ++ id :: later)

include keys_eq in
/-- What is done stands before the next id. -/
theorem idxOf_lt_iff_of_append {other : String} :
    keys.idxOf other < done.length ↔ other ∈ done := by
  rw [keys_eq]
  by_cases other_mem : other ∈ done
  · rw [List.idxOf_append_of_mem other_mem]
    exact ⟨fun _ => other_mem, fun _ => List.idxOf_lt_length_of_mem other_mem⟩
  · rw [List.idxOf_append_of_notMem other_mem]
    exact ⟨fun before => absurd before (by omega), fun old => absurd old other_mem⟩

variable (distinct : keys.Nodup)

include keys_eq distinct

theorem idxOf_eq_of_append : keys.idxOf id = done.length := by
  have fresh : id ∉ done := by
    rw [keys_eq] at distinct
    intro old
    exact (List.nodup_append.mp distinct).2.2 id old id List.mem_cons_self rfl
  rw [keys_eq, List.idxOf_append_of_notMem fresh, List.idxOf_cons_self, Nat.add_zero]

/-- While the ids are done in order, an id that still leads back to itself comes first on its cycle:
otherwise the way back would lead over a link that is cut. -/
theorem CutAtFirsts.firstOfCycle (state : CutAtFirsts up cut keys done)
    (returns : Returns cut id) : FirstOfCycle up keys id := by
  have uncut := returns.of_cut state.fewer
  obtain ⟨steps, first, walked, leads⟩ := uncut.exists_firstOfCycle keys
  have not_done : first ∉ done := fun old =>
    (state.ends_of_opened walked old leads).not_returns returns
  have later_first : keys.idxOf id ≤ keys.idxOf first := by
    rw [idxOf_eq_of_append keys_eq distinct, ← not_lt, idxOf_lt_iff_of_append keys_eq]
    exact not_done
  refine ⟨uncut, fun more other onward => ?_⟩
  obtain ⟨-, home, back⟩ := uncut.of_ascend walked
  exact later_first.trans
    (leads.first (home + more) other (by rw [ascend_add, back, Option.bind_some, onward]))

/-- The first id of a cycle leads back to itself until it is done, as no link of the cycle is cut. -/
theorem CutAtFirsts.returns (state : CutAtFirsts up cut keys done)
    (first : FirstOfCycle up keys id) : Returns cut id := by
  obtain ⟨steps, back⟩ := first.returns
  refine ⟨steps, ?_⟩
  rw [← back]
  symm
  apply ascend_congr (fun other => ∃ steps, ascend up steps id = some other)
  · rintro other ⟨steps, walked⟩
    symm
    apply state.kept
    rintro ⟨old, -⟩
    have behind := first.first steps other walked
    rw [idxOf_eq_of_append keys_eq distinct] at behind
    exact absurd ((idxOf_lt_iff_of_append keys_eq).mpr old) (by omega)
  · rintro other next ⟨steps, walked⟩ link
    exact ⟨steps + 1, by rw [ascend_succ, walked, Option.bind_some, link]⟩
  · exact ⟨0, rfl⟩

end Next

theorem CutAtFirsts.start (up : String → Option String) (keys : List String) :
    CutAtFirsts up up keys [] :=
  ⟨by simp, fun _ _ => rfl⟩

/-- The first id of a cycle is done by cutting its link. -/
theorem CutAtFirsts.detach (state : CutAtFirsts up cut keys done) (first : FirstOfCycle up keys id) :
    CutAtFirsts up (fun other => if other = id then none else cut other) keys (done ++ [id]) where
  opened := by
    intro other other_mem leads
    by_cases same : other = id
    · simp [same]
    · have old : other ∈ done := by simpa [same] using other_mem
      simp [same, state.opened other old leads]
  kept := by
    intro other stays
    have apart : other ≠ id := by
      rintro rfl
      exact stays ⟨by simp, first⟩
    simp only [apart, if_false]
    exact state.kept other fun gone => stays ⟨List.mem_append_left _ gone.1, gone.2⟩

/-- With any other id there is nothing to do. -/
theorem CutAtFirsts.pass (state : CutAtFirsts up cut keys done)
    (other : ¬ FirstOfCycle up keys id) : CutAtFirsts up cut keys (done ++ [id]) where
  opened := by
    intro next next_mem leads
    rcases List.mem_append.mp next_mem with old | new
    · exact state.opened next old leads
    · exact absurd (List.mem_singleton.mp new ▸ leads) other
  kept := fun next stays =>
    state.kept next fun gone => stays ⟨List.mem_append_left _ gone.1, gone.2⟩

end ClusterTree

namespace Merge

open ClusterTree

variable {α : Type}

/-- Detaching some clusters in order cuts the links of those that come first on their cycles. -/
theorem cutAtFirsts_detachedTable {up : String → Option String} {keys done : List String}
    {parents : List (String × Option String)} {clusters : List (Cluster α)}
    (state : CutAtFirsts up (linkOf parents) keys done)
    (keys_eq : keys = done ++ clusters.map (·.id)) (distinct : keys.Nodup) :
    CutAtFirsts up (linkOf (detachedTable parents clusters)) keys keys := by
  induction clusters generalizing parents done with
  | nil =>
      obtain rfl : keys = done := by simpa using keys_eq
      exact state
  | cons cluster clusters induction =>
      rw [List.map_cons] at keys_eq
      have leads := leadsTo_iff_returns.trans
        ⟨state.firstOfCycle keys_eq distinct, state.returns keys_eq distinct⟩
      rw [List.append_cons] at keys_eq
      rw [detachedTable]
      split
      · rename_i closes
        have cut := state.detach (leads.mp closes)
        have cut_eq : linkOf (Assoc.put cluster.id none parents) = fun other =>
            if other = cluster.id then none else linkOf parents other :=
          funext (linkOf_put_none parents cluster.id)
        rw [← cut_eq] at cut
        exact induction cut keys_eq
      · rename_i stays
        exact induction (state.pass fun first => stays (leads.mpr first)) keys_eq

/-- What becomes of a cluster: it is detached when it comes first on a cycle of parents, and stays
as it is otherwise. -/
structure Opened (clusters : List (Cluster α)) (cluster result : Cluster α) : Prop where
  /-- Nothing but the parent changes. -/
  same : result = { cluster with parent := result.parent }
  /-- There is no parent when there was none, or when the cluster comes first on a cycle. -/
  parent_eq_none_iff : result.parent = none ↔
    cluster.parent = none ∨ FirstOfCycle (parentOf clusters) (clusters.map (·.id)) cluster.id
  /-- Every other cluster keeps its parent. -/
  kept : ¬ FirstOfCycle (parentOf clusters) (clusters.map (·.id)) cluster.id →
    result.parent = cluster.parent

/-- Of clusters with distinct ids exactly the first one of every cycle of parents is detached, and
no chain of parents passes an id twice afterwards. -/
theorem breakCycles_opens {clusters : List (Cluster α)} (ids : (clusters.map (·.id)).Nodup) :
    List.Forall₂ (Opened clusters) clusters (breakCycles clusters) ∧
      ∀ id first second other, first < second →
        ascend (parentOf (breakCycles clusters)) first id = some other →
        ascend (parentOf (breakCycles clusters)) second id ≠ some other := by
  constructor
  · have start := CutAtFirsts.start (parentOf clusters) (clusters.map (·.id))
    rw [← linkOf_parentTable] at start
    have state := cutAtFirsts_detachedTable start rfl ids
    rw [linkOf_parentTable] at state
    rw [breakCycles_eq_map ids, List.forall₂_map_right_iff, List.forall₂_same]
    intro cluster cluster_mem
    have link := parentOf_of_mem ids cluster_mem
    have kept (stays : ¬ FirstOfCycle (parentOf clusters) (clusters.map (·.id)) cluster.id) :
        linkOf (detachedTable (parentTable clusters) clusters) cluster.id = cluster.parent :=
      (state.kept cluster.id fun gone => stays gone.2).trans link
    refine ⟨rfl, ?_, kept⟩
    by_cases first : FirstOfCycle (parentOf clusters) (clusters.map (·.id)) cluster.id
    · simp [first, state.opened cluster.id (List.mem_map_of_mem cluster_mem) first]
    · simp [first, kept first]
  · intro id first second other before reached again
    obtain ⟨gap, rfl⟩ := Nat.exists_eq_add_of_lt before
    apply (ends_breakCycles ids other).not_returns
    refine ⟨gap, ?_⟩
    rwa [Nat.add_assoc, ascend_add, reached, Option.bind_some] at again

/-- A way into a cycle of two, that cycle listed from its inner end, a cluster inside itself, and a
parent that is not there. -/
private def tangled : List (Cluster Float) :=
  [⟨"tail", "Tail", some "left", none, none⟩, ⟨"right", "Right", some "left", none, none⟩,
    ⟨"left", "Left", some "right", none, none⟩, ⟨"self", "Self", some "self", none, none⟩,
    ⟨"lost", "Lost", some "gone", none, none⟩, ⟨"root", "Root", none, none, none⟩]

theorem breakCycles_opens_tangled :
    (tangled.map (·.id)).Nodup ∧ List.Forall₂ (Opened tangled) tangled (breakCycles tangled) ∧
      (breakCycles tangled).map (·.parent) =
        [some "left", none, some "right", none, some "gone", none] ∧
      ∀ id first second other, first < second →
        ascend (parentOf (breakCycles tangled)) first id = some other →
        ascend (parentOf (breakCycles tangled)) second id ≠ some other := by
  have ids : (tangled.map (·.id)).Nodup := by decide
  obtain ⟨opened, ends⟩ := breakCycles_opens ids
  exact ⟨ids, opened, by decide, ends⟩

end Merge
end ClusterDiagram
