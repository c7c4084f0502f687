import ClusterDiagram.Merge.Clusters
import ClusterDiagram.Proofs.AssocLookup
import ClusterDiagram.Proofs.Claims
import ClusterDiagram.Proofs.FreshIds
import ClusterDiagram.Proofs.WellFormed

/-!
# Merged clusters are well-formed

Final ids are distinct, every reference is turned into a final id, and after the detaching no
cluster leads back to itself, so that the parents of every merged cluster end.
-/

namespace ClusterDiagram
namespace Merge

variable {α : Type}

/-! ## Final ids -/

theorem length_inheritIds (used : List String) (claims : List (Option (Cluster α))) :
    (inheritIds used claims).1.length = claims.length := by
  induction claims generalizing used with
  | nil => rfl
  | cons claim claims induction => cases claim <;> simp [inheritIds, induction]

theorem subset_inheritIds (used : List String) (claims : List (Option (Cluster α))) :
    used ⊆ (inheritIds used claims).2 := by
  induction claims generalizing used with
  | nil => exact List.Subset.refl used
  | cons claim claims induction =>
      cases claim with
      | none => exact induction used
      | some found => exact fun _ old => induction _ (List.mem_cons_of_mem _ old)

/-- An inherited id is new, and counts as used afterwards. -/
theorem mem_inheritIds {used : List String} {claims : List (Option (Cluster α))} {id : String}
    (id_mem : some id ∈ (inheritIds used claims).1) :
    id ∉ used ∧ id ∈ (inheritIds used claims).2 := by
  induction claims generalizing used with
  | nil => cases id_mem
  | cons claim claims induction =>
      cases claim with
      | none => exact induction (by simpa [inheritIds] using id_mem)
      | some found =>
          simp only [inheritIds, List.mem_cons, Option.some.injEq] at id_mem
          rcases id_mem with rfl | rest_mem
          · exact ⟨FreshId.fresh_not_mem _ _,
              subset_inheritIds (_ :: used) claims List.mem_cons_self⟩
          · obtain ⟨new, counted⟩ := induction rest_mem
            exact ⟨fun old => new (List.mem_cons_of_mem _ old), counted⟩

theorem nodup_inheritIds (used : List String) (claims : List (Option (Cluster α))) :
    (inheritIds used claims).1.reduceOption.Nodup := by
  induction claims generalizing used with
  | nil => simp [inheritIds]
  | cons claim claims induction =>
      cases claim with
      | none => simpa [inheritIds] using induction used
      | some found =>
          simp only [inheritIds, List.reduceOption_cons_of_some, List.nodup_cons]
          refine ⟨?_, induction _⟩
          intro again
          exact (mem_inheritIds (List.reduceOption_mem_iff.mp again)).1 List.mem_cons_self

theorem length_completeIds (used : List String) (entries : List (Option String × Cluster α)) :
    (completeIds used entries).length = entries.length := by
  induction entries generalizing used with
  | nil => rfl
  | cons entry entries induction =>
      obtain ⟨inherited, cluster⟩ := entry
      cases inherited <;> simp [completeIds, induction]

/-- A final id is inherited or new. -/
theorem mem_completeIds {used : List String} {entries : List (Option String × Cluster α)}
    {id : String} (id_mem : id ∈ completeIds used entries) :
    some id ∈ entries.map (·.1) ∨ id ∉ used := by
  induction entries generalizing used with
  | nil => cases id_mem
  | cons entry entries induction =>
      obtain ⟨inherited, cluster⟩ := entry
      cases inherited with
      | none =>
          rcases List.mem_cons.mp id_mem with rfl | rest_mem
          · exact Or.inr (FreshId.fresh_not_mem _ _)
          · rcases induction rest_mem with old | new
            · exact Or.inl (List.mem_cons_of_mem _ old)
            · exact Or.inr fun old => new (List.mem_cons_of_mem _ old)
      | some inherited =>
          rcases List.mem_cons.mp id_mem with rfl | rest_mem
          · exact Or.inl List.mem_cons_self
          · rcases induction rest_mem with old | new
            · exact Or.inl (List.mem_cons_of_mem _ old)
            · exact Or.inr new

theorem nodup_completeIds {used : List String} {entries : List (Option String × Cluster α)}
    (distinct : (entries.map (·.1)).reduceOption.Nodup)
    (counted : ∀ id, some id ∈ entries.map (·.1) → id ∈ used) :
    (completeIds used entries).Nodup := by
  induction entries generalizing used with
  | nil => exact List.nodup_nil
  | cons entry entries induction =>
      obtain ⟨inherited, cluster⟩ := entry
      have rest_counted (id : String) (id_mem : some id ∈ entries.map (·.1)) : id ∈ used :=
        counted id (List.mem_cons_of_mem _ id_mem)
      cases inherited with
      | none =>
          rw [completeIds, List.nodup_cons]
          have new := FreshId.fresh_not_mem cluster.id used
          constructor
          · intro again
            rcases mem_completeIds again with old | apart
            · exact new (rest_counted _ old)
            · exact apart List.mem_cons_self
          · apply induction (by simpa using distinct)
            exact fun id id_mem => List.mem_cons_of_mem _ (rest_counted id id_mem)
      | some inherited =>
          rw [List.map_cons, List.reduceOption_cons_of_some, List.nodup_cons] at distinct
          rw [completeIds, List.nodup_cons]
          constructor
          · intro again
            rcases mem_completeIds again with old | apart
            · exact distinct.1 (List.reduceOption_mem_iff.mpr old)
            · exact apart (counted inherited List.mem_cons_self)
          · exact induction distinct.2 rest_counted

/-- The final ids of new clusters, in order. -/
def finalIds (parsed existing : List (Cluster α)) : List String :=
  let inherited := inheritIds [] (claim Cluster.key Cluster.id existing [] parsed)
  completeIds inherited.2 (inherited.1.zip parsed)

theorem length_finalIds (parsed existing : List (Cluster α)) :
    (finalIds parsed existing).length = parsed.length := by
  simp [finalIds, length_completeIds, length_inheritIds, length_claim]

theorem nodup_finalIds (parsed existing : List (Cluster α)) :
    (finalIds parsed existing).Nodup := by
  let claims := claim Cluster.key Cluster.id existing [] parsed
  have firsts : ((inheritIds [] claims).1.zip parsed).map (·.1) = (inheritIds [] claims).1 := by
    apply List.map_fst_zip
    rw [length_inheritIds, length_claim]
  apply nodup_completeIds
  · rw [firsts]
    exact nodup_inheritIds [] claims
  · rw [firsts]
    exact fun id id_mem => (mem_inheritIds id_mem).2

/-- New clusters with their final ids, before any is detached. -/
def renamedClusters (parsed existing : List (Cluster α)) : List (Cluster α) :=
  (parsed.zip ((finalIds parsed existing).zip
      (claim Cluster.key Cluster.id existing [] parsed))).map fun entry =>
    mergedCluster (mergeClusters parsed existing).ids entry.1 entry.2.1 entry.2.2

theorem clusters_mergeClusters (parsed existing : List (Cluster α)) :
    (mergeClusters parsed existing).clusters = breakCycles (renamedClusters parsed existing) :=
  rfl

theorem map_id_renamedClusters (parsed existing : List (Cluster α)) :
    (renamedClusters parsed existing).map (·.id) = finalIds parsed existing := by
  have inner : ((finalIds parsed existing).zip
      (claim Cluster.key Cluster.id existing [] parsed)).map (·.1) = finalIds parsed existing := by
    apply List.map_fst_zip
    rw [length_finalIds, length_claim]
  have outer : (parsed.zip ((finalIds parsed existing).zip
      (claim Cluster.key Cluster.id existing [] parsed))).map (·.2) =
      (finalIds parsed existing).zip (claim Cluster.key Cluster.id existing [] parsed) := by
    apply List.map_snd_zip
    simp [length_finalIds, length_claim]
  rw [renamedClusters, List.map_map]
  conv_rhs => rw [← inner, ← outer, List.map_map]
  rfl

/-- A new id stands for the final id of the first cluster that has it. -/
theorem lookup_ids_mergeClusters (parsed existing : List (Cluster α)) (id : String) :
    (mergeClusters parsed existing).ids.lookup id =
      ((parsed.map (·.id)).zip (finalIds parsed existing)).lookup id := by
  have entries : (parsed.map (·.id)).zip (finalIds parsed existing) =
      (parsed.zip (finalIds parsed existing)).map fun entry => (entry.1.id, entry.2) := by
    rw [List.zip_map_left]
    rfl
  have kept := Assoc.lookup_foldl_putNew id
    ((parsed.zip (finalIds parsed existing)).map fun entry => (entry.1.id, entry.2)) []
  rw [List.foldl_map, List.lookup_nil, Option.none_or] at kept
  rw [entries, ← kept]
  rfl

/-- References lead to final ids. -/
theorem mem_finalIds_of_final {parsed existing : List (Cluster α)} {reference : Option String}
    {id : String} (final : (mergeClusters parsed existing).final? reference = some id) :
    id ∈ finalIds parsed existing := by
  obtain ⟨own, -, found⟩ := Option.bind_eq_some_iff.mp final
  rw [lookup_ids_mergeClusters] at found
  exact (List.of_mem_zip (Assoc.mem_of_lookup found)).2

/-! ## Detaching -/

/-- The parent that a table of parents gives an id. -/
def linkOf (parents : List (String × Option String)) (id : String) : Option String :=
  (parents.lookup id).join

theorem linkOf_eq_some {parents : List (String × Option String)} {id parent : String} :
    linkOf parents id = some parent ↔ parents.lookup id = some (some parent) :=
  Option.join_eq_some_iff

theorem mem_keys_of_linkOf {parents : List (String × Option String)} {id : String}
    (linked : (linkOf parents id).isSome) : id ∈ parents.map (·.1) := by
  obtain ⟨parent, link⟩ := Option.isSome_iff_exists.mp linked
  rw [← Assoc.isSome_lookup_iff, linkOf_eq_some.mp link]
  rfl

theorem linkOf_put_none (parents : List (String × Option String)) (id other : String) :
    linkOf (Assoc.put id none parents) other =
      if other = id then none else linkOf parents other := by
  rw [linkOf, Assoc.lookup_put]
  by_cases same : other = id <;> simp [same, linkOf]

/-- Following links up to the start is noticed when the fuel exceeds their number. -/
theorem leadsTo_of_ascend {parents : List (String × Option String)} {start : String}
    (start_mem : start ∈ parents.map (·.1)) {steps fuel : Nat} {current : String}
    (reached : ClusterTree.ascend (linkOf parents) steps current = some start)
    (enough : steps < fuel) : leadsTo parents start fuel (some current) = true := by
  induction steps generalizing fuel current with
  | zero =>
      obtain ⟨fuel, rfl⟩ := Nat.exists_eq_add_of_lt enough
      obtain rfl : current = start := Option.some.inj reached
      obtain ⟨next, found⟩ := Option.isSome_iff_exists.mp (Assoc.isSome_lookup_iff.mpr start_mem)
      simp [leadsTo, found]
  | succ steps induction =>
      obtain ⟨fuel, rfl⟩ := Nat.exists_eq_add_of_lt enough
      obtain ⟨next, link, onward⟩ := Option.bind_eq_some_iff.mp reached
      have found := linkOf_eq_some.mp link
      have rest : leadsTo parents start (steps + 1 + fuel) (some next) = true :=
        induction onward (by omega)
      simp [leadsTo, found, rest]

/-- What is noticed is a chain of links to the start. -/
theorem ascend_of_leadsTo {parents : List (String × Option String)} {start : String} {fuel : Nat}
    {current : String} (leads : leadsTo parents start fuel (some current) = true) :
    ∃ steps, ClusterTree.ascend (linkOf parents) steps current = some start := by
  induction fuel generalizing current with
  | zero => cases leads
  | succ fuel induction =>
      cases found : parents.lookup current with
      | none => simp [leadsTo, found] at leads
      | some next =>
          simp only [leadsTo, found, Bool.or_eq_true, beq_iff_eq] at leads
          rcases leads with rfl | leads
          · exact ⟨0, rfl⟩
          · cases next with
            | none => cases fuel <;> cases leads
            | some next =>
                obtain ⟨steps, onward⟩ := induction leads
                refine ⟨steps + 1, ?_⟩
                rw [ClusterTree.ascend, linkOf_eq_some.mpr found, Option.bind_some, onward]

/-- A cluster is detached exactly when its parents lead back to it. -/
theorem leadsTo_iff_returns {parents : List (String × Option String)} {id : String} :
    leadsTo parents id (parents.length + 1) (linkOf parents id) = true ↔
      ClusterTree.Returns (linkOf parents) id := by
  constructor
  · intro leads
    cases link : linkOf parents id with
    | none => simp [link, leadsTo] at leads
    | some next =>
        rw [link] at leads
        obtain ⟨steps, onward⟩ := ascend_of_leadsTo leads
        refine ⟨steps, ?_⟩
        rw [ClusterTree.ascend, link, Option.bind_some, onward]
  · intro returns
    obtain ⟨period, back, shortest⟩ := returns.exists_period
    have short : period < (parents.map (·.1)).length :=
      ClusterTree.period_lt_length (fun _ => mem_keys_of_linkOf) back shortest
    obtain ⟨next, link, onward⟩ := Option.bind_eq_some_iff.mp back
    rw [link]
    apply leadsTo_of_ascend (mem_keys_of_linkOf (by simp [link])) onward
    rw [List.length_map] at short
    omega

/-- The table of parents that detaching some clusters leaves. -/
def detachedTable : List (String × Option String) → List (Cluster α) →
    List (String × Option String)
  | parents, [] => parents
  | parents, cluster :: clusters =>
      if leadsTo parents cluster.id (parents.length + 1) (linkOf parents cluster.id) then
        detachedTable (Assoc.put cluster.id none parents) clusters
      else detachedTable parents clusters

/-- Detaching cuts links and adds none. -/
theorem linkOf_detachedTable (parents : List (String × Option String))
    (clusters : List (Cluster α)) (id : String) :
    linkOf (detachedTable parents clusters) id = none ∨
      linkOf (detachedTable parents clusters) id = linkOf parents id := by
  induction clusters generalizing parents with
  | nil => exact Or.inr rfl
  | cons cluster clusters induction =>
      rw [detachedTable]
      split
      · rcases induction (Assoc.put cluster.id none parents) with none | same
        · exact Or.inl none
        · rw [same, linkOf_put_none]
          split
          · exact Or.inl rfl
          · exact Or.inr rfl
      · exact induction parents

/-- Detaching some clusters leaves the parents of all others. -/
theorem linkOf_detachedTable_of_not_mem {parents : List (String × Option String)}
    {clusters : List (Cluster α)} {id : String} (other : id ∉ clusters.map (·.id)) :
    linkOf (detachedTable parents clusters) id = linkOf parents id := by
  induction clusters generalizing parents with
  | nil => rfl
  | cons cluster clusters induction =>
      rw [List.map_cons, List.mem_cons, not_or] at other
      rw [detachedTable]
      split
      · rw [induction other.2, linkOf_put_none, if_neg other.1]
      · exact induction other.2

theorem detachedTable_of_not_returns {parents : List (String × Option String)}
    {clusters : List (Cluster α)}
    (apart : ∀ cluster ∈ clusters, ¬ ClusterTree.Returns (linkOf parents) cluster.id) :
    detachedTable parents clusters = parents := by
  induction clusters with
  | nil => rfl
  | cons cluster clusters induction =>
      rw [List.forall_mem_cons] at apart
      rw [detachedTable, if_neg fun leads => apart.1 (leadsTo_iff_returns.mp leads)]
      exact induction apart.2

/-- A detached cluster has the parent that the table is left with. -/
theorem detachFrom_eq_map {parents : List (String × Option String)} {clusters : List (Cluster α)}
    (ids : (clusters.map (·.id)).Nodup) :
    detachFrom parents clusters = clusters.map fun cluster =>
      { cluster with parent := linkOf (detachedTable parents clusters) cluster.id } := by
  induction clusters generalizing parents with
  | nil => rfl
  | cons cluster clusters induction =>
      rw [List.map_cons, List.nodup_cons] at ids
      rw [detachFrom, detachedTable, List.map_cons]
      change (if leadsTo parents cluster.id (parents.length + 1) (linkOf parents cluster.id) = true
        then _ else _) = _
      split
      · rw [linkOf_detachedTable_of_not_mem ids.1, linkOf_put_none, if_pos rfl, induction ids.2]
      · rw [linkOf_detachedTable_of_not_mem ids.1, induction ids.2]
        rfl

/-- No cluster leads back to itself once all have been looked at. -/
theorem not_returns_detachedTable {parents : List (String × Option String)}
    {clusters : List (Cluster α)} {cluster : Cluster α} (cluster_mem : cluster ∈ clusters) :
    ¬ ClusterTree.Returns (linkOf (detachedTable parents clusters)) cluster.id := by
  induction clusters generalizing parents with
  | nil => cases cluster_mem
  | cons first clusters induction =>
      rw [detachedTable]
      rcases List.mem_cons.mp cluster_mem with rfl | rest_mem
      · -- Later cuts only remove links, so it is enough to look at the table right after this one.
        split
        · intro returns
          have cut : linkOf (Assoc.put cluster.id none parents) cluster.id = none := by
            rw [linkOf_put_none, if_pos rfl]
          exact ClusterTree.not_returns_of_none cut
            (returns.of_cut (linkOf_detachedTable _ clusters))
        · rename_i apart
          rw [leadsTo_iff_returns] at apart
          exact fun returns => apart (returns.of_cut (linkOf_detachedTable parents clusters))
      · split <;> exact induction rest_mem

/-- The parents of clusters with distinct ids, as a table. -/
def parentTable (clusters : List (Cluster α)) : List (String × Option String) :=
  clusters.map fun cluster => (cluster.id, cluster.parent)

theorem linkOf_parentTable (clusters : List (Cluster α)) :
    linkOf (parentTable clusters) = ClusterTree.parentOf clusters := by
  funext id
  rw [linkOf, ClusterTree.parentOf, parentTable]
  induction clusters with
  | nil => rfl
  | cons cluster clusters induction =>
      rw [List.map_cons, List.lookup_cons, List.find?_cons]
      by_cases same : cluster.id = id
      · simp [same]
      · have apart : (id == cluster.id) = false := beq_false_of_ne (Ne.symm same)
        have apart' : (cluster.id == id) = false := beq_false_of_ne same
        simp only [apart, apart']
        exact induction

theorem breakCycles_eq_map {clusters : List (Cluster α)} (ids : (clusters.map (·.id)).Nodup) :
    breakCycles clusters = clusters.map fun cluster =>
      { cluster with
        parent := linkOf (detachedTable (parentTable clusters) clusters) cluster.id } := by
  have table : Assoc.ofEntries (parentTable clusters) = parentTable clusters := by
    apply Assoc.ofEntries_of_nodup
    simpa [parentTable, Function.comp_def] using ids
  rw [← detachFrom_eq_map ids, ← table]
  rfl

theorem map_id_breakCycles {clusters : List (Cluster α)} (ids : (clusters.map (·.id)).Nodup) :
    (breakCycles clusters).map (·.id) = clusters.map (·.id) := by
  rw [breakCycles_eq_map ids, List.map_map]
  rfl

/-- Detaching gives no cluster a new parent. -/
theorem parent_of_mem_breakCycles {clusters : List (Cluster α)}
    (ids : (clusters.map (·.id)).Nodup) {cluster : Cluster α}
    (cluster_mem : cluster ∈ breakCycles clusters) {parent : String}
    (parent_eq : cluster.parent = some parent) :
    ∃ original ∈ clusters, original.id = cluster.id ∧ original.parent = some parent := by
  rw [breakCycles_eq_map ids] at cluster_mem
  obtain ⟨original, original_mem, rfl⟩ := List.mem_map.mp cluster_mem
  refine ⟨original, original_mem, rfl, ?_⟩
  rw [← ClusterTree.parentOf_of_mem ids original_mem, ← linkOf_parentTable]
  rcases linkOf_detachedTable (parentTable clusters) clusters original.id with none | same
  · rw [none] at parent_eq
    cases parent_eq
  · exact same.symm.trans parent_eq

/-- Where the parents of every cluster end, none is detached. -/
theorem breakCycles_of_ends {clusters : List (Cluster α)} (ids : (clusters.map (·.id)).Nodup)
    (ends : ∀ cluster ∈ clusters, ClusterTree.Ends (ClusterTree.parentOf clusters) cluster.id) :
    breakCycles clusters = clusters := by
  have table : detachedTable (parentTable clusters) clusters = parentTable clusters := by
    apply detachedTable_of_not_returns
    intro cluster cluster_mem
    rw [linkOf_parentTable]
    exact (ends cluster cluster_mem).not_returns
  rw [breakCycles_eq_map ids, table, linkOf_parentTable]
  conv_rhs => rw [← List.map_id clusters]
  apply List.map_congr_left
  intro cluster cluster_mem
  rw [ClusterTree.parentOf_of_mem ids cluster_mem, id]

/-- After detaching, the parents of every id end. -/
theorem ends_breakCycles {clusters : List (Cluster α)} (ids : (clusters.map (·.id)).Nodup)
    (id : String) : ClusterTree.Ends (ClusterTree.parentOf (breakCycles clusters)) id := by
  apply ClusterTree.ends_of_not_returns fun _ => ClusterTree.mem_ids_of_parentOf
  intro id id_mem returns
  rw [map_id_breakCycles ids] at id_mem
  obtain ⟨cluster, cluster_mem, rfl⟩ := List.mem_map.mp id_mem
  have apart : ¬ ClusterTree.Returns (linkOf (detachedTable (parentTable clusters) clusters))
      cluster.id := not_returns_detachedTable cluster_mem
  refine apart (returns.of_cut fun id => ?_)
  cases link : ClusterTree.parentOf (breakCycles clusters) id with
  | none => exact Or.inl rfl
  | some parent =>
      obtain ⟨detached, detached_mem, rfl, parent_eq⟩ := ClusterTree.parentOf_eq_some link
      rw [breakCycles_eq_map ids] at detached_mem
      obtain ⟨original, -, rfl⟩ := List.mem_map.mp detached_mem
      exact Or.inr parent_eq.symm

/-! ## All of it -/

theorem map_id_mergeClusters (parsed existing : List (Cluster α)) :
    (mergeClusters parsed existing).clusters.map (·.id) = finalIds parsed existing := by
  have ids : ((renamedClusters parsed existing).map (·.id)).Nodup := by
    rw [map_id_renamedClusters]
    exact nodup_finalIds parsed existing
  rw [clusters_mergeClusters, map_id_breakCycles ids, map_id_renamedClusters]

/-- Merged clusters have distinct ids. -/
theorem nodup_ids_mergeClusters (parsed existing : List (Cluster α)) :
    ((mergeClusters parsed existing).clusters.map (·.id)).Nodup := by
  rw [map_id_mergeClusters]
  exact nodup_finalIds parsed existing

/-- The parents of every merged cluster end. -/
theorem ends_mergeClusters (parsed existing : List (Cluster α)) (id : String) :
    ClusterTree.Ends (ClusterTree.parentOf (mergeClusters parsed existing).clusters) id := by
  rw [clusters_mergeClusters]
  apply ends_breakCycles
  rw [map_id_renamedClusters]
  exact nodup_finalIds parsed existing

/-- The parent of a merged cluster is another merged cluster. -/
theorem parent_mergeClusters (parsed existing : List (Cluster α)) {cluster : Cluster α}
    (cluster_mem : cluster ∈ (mergeClusters parsed existing).clusters) {parent : String}
    (parent_eq : cluster.parent = some parent) :
    parent ∈ (mergeClusters parsed existing).clusters.map (·.id) ∧ parent ≠ cluster.id := by
  have ids : ((renamedClusters parsed existing).map (·.id)).Nodup := by
    rw [map_id_renamedClusters]
    exact nodup_finalIds parsed existing
  constructor
  · obtain ⟨renamed, renamed_mem, -, renamed_parent⟩ :=
      parent_of_mem_breakCycles ids cluster_mem parent_eq
    obtain ⟨entry, -, rfl⟩ := List.mem_map.mp renamed_mem
    rw [map_id_mergeClusters]
    exact mem_finalIds_of_final renamed_parent
  · rintro rfl
    apply (ends_mergeClusters parsed existing cluster.id).not_returns
    refine ⟨0, ?_⟩
    rw [ClusterTree.ascend, ClusterTree.parentOf_of_mem (nodup_ids_mergeClusters parsed existing)
      cluster_mem, parent_eq]
    rfl

end Merge
end ClusterDiagram
