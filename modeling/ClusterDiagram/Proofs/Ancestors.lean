import ClusterDiagram.Proofs.AssocLookup
import ClusterDiagram.Proofs.OutlineWalk
import Mathlib.Data.Set.Card

/-!
# Ancestors

Where no parents lead back, the guarded way up from a cluster meets every cluster above it once. So
the depth of a cluster is the number of clusters above it, and it grows on every way down.
-/

namespace ClusterDiagram
namespace ClusterTree

variable {α : Type} {clusters : List (Cluster α)} {id upper lower : String}

/-- Whether parents lead from a cluster up to another one, in one step or in more. -/
def Above (clusters : List (Cluster α)) (upper lower : String) : Prop :=
  ∃ steps, ascend (parentOf clusters) (steps + 1) lower = some upper

/-- The number of clusters above a cluster. -/
noncomputable def countAbove (clusters : List (Cluster α)) (id : String) : ℕ :=
  {upper | upper ∈ clusters.map (·.id) ∧ Above clusters upper id}.ncard

theorem Above.trans {middle : String} (first : Above clusters upper middle)
    (second : Above clusters middle lower) : Above clusters upper lower := by
  obtain ⟨steps, reached⟩ := second
  obtain ⟨more, onward⟩ := first
  exact ⟨steps + 1 + more, by rw [Nat.add_assoc, ascend_add, reached, Option.bind_some, onward]⟩

/-- The clusters above the parent of a cluster are above the cluster, and so is the parent. -/
theorem above_iff_of_parentOf {parent : String} (link : parentOf clusters id = some parent) :
    Above clusters upper id ↔ ∃ steps, ascend (parentOf clusters) steps parent = some upper := by
  refine exists_congr fun steps => ?_
  rw [ascend, link, Option.bind_some]

theorem not_above_of_parentOf (root : parentOf clusters id = none) : ¬ Above clusters upper id := by
  rintro ⟨steps, reached⟩
  rw [ascend, root] at reached
  cases reached

theorem Acyclic.not_above_self (acyclic : Acyclic clusters) : ¬ Above clusters id id := by
  intro returns
  obtain ⟨parent, link⟩ : ∃ parent, parentOf clusters id = some parent := by
    by_contra root
    exact not_above_of_parentOf (Option.eq_none_iff_forall_ne_some.mpr (not_exists.mp root)) returns
  exact acyclic.not_returns link returns

/-! ## The guarded way up -/

theorem lookup_parents (ids : (clusters.map (·.id)).Nodup) (id : String) :
    (parents clusters).lookup id =
      if id ∈ clusters.map (·.id) then some (parentOf clusters id) else none := by
  have keys : ((clusters.map fun cluster => (cluster.id, cluster.parent)).map (·.1)).Nodup := by
    rwa [List.map_map]
  rw [parents, Assoc.ofEntries_of_nodup keys]
  split
  · rename_i id_mem
    obtain ⟨cluster, cluster_mem, rfl⟩ := List.mem_map.mp id_mem
    rw [parentOf_of_mem ids cluster_mem]
    exact Assoc.lookup_of_mem keys (List.mem_map_of_mem cluster_mem)
  · rename_i unlisted
    apply Assoc.lookup_eq_none_of_not_mem
    rwa [List.map_map]

/-- Different clusters on a way up that has come to an id. -/
structure Passed (clusters : List (Cluster α)) (seen : List String) (current : String) : Prop where
  /-- No cluster was passed twice. -/
  distinct : seen.Nodup
  /-- Only clusters were passed. -/
  listed : seen ⊆ clusters.map (·.id)
  /-- The id is above all of them. -/
  below : ∀ id ∈ seen, Above clusters current id

variable {seen : List String} {current : String}

theorem Passed.length_le (passed : Passed clusters seen current) :
    seen.length ≤ clusters.length := by
  simpa using (passed.distinct.subperm passed.listed).length_le

theorem Passed.not_mem (passed : Passed clusters seen current) (acyclic : Acyclic clusters) :
    current ∉ seen :=
  fun again => acyclic.not_above_self (passed.below current again)

theorem Passed.step (passed : Passed clusters seen current) (acyclic : Acyclic clusters)
    (current_mem : current ∈ clusters.map (·.id)) {next : String}
    (link : parentOf clusters current = some next) :
    Passed clusters (current :: seen) next where
  distinct := List.nodup_cons.mpr ⟨passed.not_mem acyclic, passed.distinct⟩
  listed := List.cons_subset.mpr ⟨current_mem, passed.listed⟩
  below := by
    have above : Above clusters next current := ⟨0, by rw [ascend, link]; rfl⟩
    rw [List.forall_mem_cons]
    exact ⟨above, fun id id_mem => above.trans (passed.below id id_mem)⟩

/-- The way up from an id meets the id, if it is that of a cluster, and each cluster above it. -/
theorem climb_spec (ids : (clusters.map (·.id)).Nodup) (acyclic : Acyclic clusters) {fuel : ℕ}
    (passed : Passed clusters seen current) (room : clusters.length < fuel + seen.length) :
    (climb (parents clusters) fuel seen (some current)).Nodup ∧
      ∀ upper, upper ∈ climb (parents clusters) fuel seen (some current) ↔
        upper ∈ clusters.map (·.id) ∧
          ∃ steps, ascend (parentOf clusters) steps current = some upper := by
  induction fuel generalizing seen current with
  | zero =>
      have := passed.length_le
      omega
  | succ fuel induction =>
      rw [climb, lookup_parents ids]
      by_cases current_mem : current ∈ clusters.map (·.id)
      · have new : seen.contains current = false := by
          simpa using passed.not_mem acyclic
        have reached_iff (upper : String) :
            (∃ steps, ascend (parentOf clusters) steps current = some upper) ↔
              upper = current ∨ Above clusters upper current := by
          constructor
          · rintro ⟨steps, reached⟩
            cases steps with
            | zero => exact Or.inl (Option.some.inj reached).symm
            | succ steps => exact Or.inr ⟨steps, reached⟩
          · rintro (rfl | ⟨steps, reached⟩)
            · exact ⟨0, rfl⟩
            · exact ⟨steps + 1, reached⟩
        simp only [if_pos current_mem, new, Bool.false_eq_true, if_false, reached_iff,
          List.nodup_cons, List.mem_cons]
        cases link : parentOf clusters current with
        | none =>
            have ended : climb (parents clusters) fuel (current :: seen) none = [] := by
              cases fuel <;> rfl
            have root (upper : String) : ¬ Above clusters upper current :=
              not_above_of_parentOf link
            simp only [ended, root]
            simpa using current_mem
        | some next =>
            obtain ⟨distinct, members⟩ := induction (passed.step acyclic current_mem link)
              (by rw [List.length_cons]; omega)
            simp only [members, ← above_iff_of_parentOf link]
            refine ⟨⟨fun again => acyclic.not_above_self again.2, distinct⟩, fun upper => ?_⟩
            constructor
            · rintro (rfl | ⟨upper_mem, above⟩)
              · exact ⟨current_mem, Or.inl rfl⟩
              · exact ⟨upper_mem, Or.inr above⟩
            · rintro ⟨upper_mem, rfl | above⟩
              · exact Or.inl rfl
              · exact Or.inr ⟨upper_mem, above⟩
      · simp only [if_neg current_mem, List.nodup_nil, List.not_mem_nil, true_and, false_iff]
        rintro upper ⟨upper_mem, steps, reached⟩
        cases steps with
        | zero => exact current_mem (Option.some.inj reached ▸ upper_mem)
        | succ steps =>
            exact not_above_of_parentOf (parentOf_of_not_mem current_mem) ⟨steps, reached⟩

theorem ancestors_spec (ids : (clusters.map (·.id)).Nodup) (acyclic : Acyclic clusters)
    (id_mem : id ∈ clusters.map (·.id)) :
    (ancestors (parents clusters) id).Nodup ∧ ∀ upper, upper ∈ ancestors (parents clusters) id ↔
      upper ∈ clusters.map (·.id) ∧ Above clusters upper id := by
  rw [ancestors, lookup_parents ids, if_pos id_mem, Option.join_some]
  cases link : parentOf clusters id with
  | none =>
      have root (upper : String) : ¬ Above clusters upper id := not_above_of_parentOf link
      simp [climb, root]
  | some parent =>
      simp only [above_iff_of_parentOf link]
      apply climb_spec ids acyclic
      · refine ⟨List.nodup_singleton id, by simpa using id_mem, ?_⟩
        rw [List.forall_mem_singleton]
        exact ⟨0, by rw [ascend, link]; rfl⟩
      · have keys :
            ((clusters.map fun cluster => (cluster.id, cluster.parent)).map (·.1)).Nodup := by
          rwa [List.map_map]
        rw [parents, Assoc.ofEntries_of_nodup keys, List.length_map, List.length_singleton]
        omega

/-! ## Depth -/

/-- The depth of a cluster is the number of clusters above it. -/
theorem depth_eq_countAbove (ids : (clusters.map (·.id)).Nodup) (acyclic : Acyclic clusters)
    (id_mem : id ∈ clusters.map (·.id)) : depth (parents clusters) id = countAbove clusters id := by
  obtain ⟨distinct, members⟩ := ancestors_spec ids acyclic id_mem
  have uppers : {upper | upper ∈ clusters.map (·.id) ∧ Above clusters upper id} =
      ((ancestors (parents clusters) id).toFinset : Set String) := by
    ext upper
    simp only [Set.mem_ofPred_eq, List.coe_toFinset, members]
  rw [countAbove, uppers, Set.ncard_coe_finset, List.toFinset_card_of_nodup distinct, depth]

/-- There are more clusters above a lower cluster. -/
theorem countAbove_lt (acyclic : Acyclic clusters) (upper_mem : upper ∈ clusters.map (·.id))
    (above : Above clusters upper lower) :
    countAbove clusters upper < countAbove clusters lower := by
  apply Set.ncard_lt_ncard
  · refine Set.ssubset_iff_exists.mpr ⟨fun other ⟨other_mem, other_above⟩ =>
      ⟨other_mem, other_above.trans above⟩, upper, ⟨upper_mem, above⟩, fun ⟨_, again⟩ =>
      acyclic.not_above_self again⟩
  · have listed : {id | id ∈ clusters.map (·.id)}.Finite := List.finite_toSet _
    exact listed.subset fun _ member => member.1

end ClusterTree
end ClusterDiagram
