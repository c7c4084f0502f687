import ClusterDiagram.Proofs.WellFormed
import ClusterDiagram.Proofs.WholeWalks

/-!
# The order in which a diagram is written

The clusters of a valid diagram form a forest, and the writer lists it depth first: every cluster
once, after its parent and one level deeper. The nodes follow their clusters.
-/

namespace ClusterDiagram

/-! ## Levels -/

namespace ClusterTree

variable {up : String → Option String}

/-- Whether an id is a number of links below its root. -/
def AtLevel (up : String → Option String) (level : Nat) (id : String) : Prop :=
  (ascend up level id).isSome ∧ ascend up (level + 1) id = none

theorem ascend_eq_none_of_le {first second : Nat} {id : String} (shorter : first ≤ second)
    (ended : ascend up first id = none) : ascend up second id = none := by
  obtain ⟨more, rfl⟩ := Nat.exists_eq_add_of_le shorter
  rw [ascend_add, ended]
  rfl

theorem AtLevel.unique {first second : Nat} {id : String} (at_first : AtLevel up first id)
    (at_second : AtLevel up second id) : first = second := by
  have not_below : ∀ {first second : Nat}, AtLevel up first id → AtLevel up second id →
      ¬ first < second := by
    intro first second at_first at_second below
    have ended := ascend_eq_none_of_le (Nat.succ_le_of_lt below) at_first.2
    simpa [ended] using at_second.1
  have := not_below at_first at_second
  have := not_below at_second at_first
  omega

/-- An id whose parents end has a level. -/
theorem Ends.exists_level {id : String} (ends : Ends up id) : ∃ level, AtLevel up level id := by
  classical
  have positive : Nat.find ends ≠ 0 := by
    intro zero
    have ended := Nat.find_spec ends
    rw [zero] at ended
    cases ended
  obtain ⟨level, level_eq⟩ := Nat.exists_eq_succ_of_ne_zero positive
  have ended := Nat.find_spec ends
  rw [level_eq] at ended
  have not_yet := Nat.find_min ends (show level < Nat.find ends by omega)
  exact ⟨level, Option.ne_none_iff_isSome.mp not_yet, ended⟩

theorem AtLevel.child {level : Nat} {child parent : String} (link : up child = some parent)
    (at_level : AtLevel up level parent) : AtLevel up (level + 1) child := by
  rw [AtLevel, ascend, ascend, link, Option.bind_some, Option.bind_some]
  exact at_level

theorem AtLevel.parent {level : Nat} {child parent : String} (link : up child = some parent)
    (at_level : AtLevel up (level + 1) child) : AtLevel up level parent := by
  rwa [AtLevel, ascend, ascend, link, Option.bind_some, Option.bind_some] at at_level

theorem atLevel_zero_iff {id : String} : AtLevel up 0 id ↔ up id = none := by
  simp [AtLevel, ascend]

end ClusterTree

/-! ## The forest of clusters -/

namespace Prompt

variable {α : Type}

/-- The clusters that hang below no other. -/
def rootsOf (clusters : List (Cluster α)) : List (Cluster α) :=
  clusters.filter fun cluster => !hasParent clusters cluster

/-- A cluster whose parent is another one of the list hangs below it. -/
theorem hasParent_of_listed {clusters : List (Cluster α)} {cluster : Cluster α}
    (listed : ∀ parent, cluster.parent = some parent →
      parent ∈ clusters.map (·.id) ∧ parent ≠ cluster.id) :
    hasParent clusters cluster = cluster.parent.isSome := by
  cases parent_eq : cluster.parent with
  | none => simp [hasParent, Cluster.refersTo, parent_eq]
  | some parent =>
      obtain ⟨parent_mem, apart⟩ := listed parent parent_eq
      simp [hasParent, Cluster.refersTo, parent_eq, Cluster.isListed_iff.mpr parent_mem, apart]

section Forest

variable {graph : Graph α} (valid : graph.Valid)

include valid

theorem hasParent_iff {cluster : Cluster α} (cluster_mem : cluster ∈ graph.clusters) :
    hasParent graph.clusters cluster = true ↔ ∃ parent, cluster.parent = some parent := by
  rw [hasParent_of_listed (valid.parents cluster cluster_mem), Option.isSome_iff_exists]

theorem mem_rootsOf {cluster : Cluster α} :
    cluster ∈ rootsOf graph.clusters ↔ cluster ∈ graph.clusters ∧ cluster.parent = none := by
  rw [rootsOf, List.mem_filter]
  refine and_congr_right fun cluster_mem => ?_
  rw [Bool.not_eq_true', ← Bool.not_eq_true, hasParent_iff valid cluster_mem]
  cases cluster.parent <;> simp

theorem mem_childrenOf {cluster : Cluster α} {id : String} :
    cluster ∈ childrenOf graph.clusters id ↔
      cluster ∈ graph.clusters ∧ cluster.parent = some id := by
  rw [childrenOf, List.mem_filter]
  refine and_congr_right fun cluster_mem => ?_
  rw [Bool.and_eq_true, hasParent_iff valid cluster_mem, beq_iff_eq]
  exact ⟨And.right, fun parent_eq => ⟨⟨id, parent_eq⟩, parent_eq⟩⟩

theorem link_of_mem_childrenOf {cluster : Cluster α} {id : String}
    (cluster_mem : cluster ∈ childrenOf graph.clusters id) :
    ClusterTree.parentOf graph.clusters cluster.id = some id := by
  obtain ⟨listed, parent_eq⟩ := (mem_childrenOf valid).mp cluster_mem
  rw [ClusterTree.parentOf_of_mem valid.clusterIds listed, parent_eq]

/-- Some clusters that nothing is a number of links below have a listing. -/
theorem exists_depthFirst (links depth : Nat) (clusters : List (Cluster α))
    (bounded : ∀ cluster ∈ clusters, ∀ other,
      ClusterTree.ascend (ClusterTree.parentOf graph.clusters) links other ≠ some cluster.id) :
    ∃ listing, DepthFirst (·.id) (childrenOf graph.clusters) depth clusters listing := by
  induction links generalizing depth clusters with
  | zero =>
      cases clusters with
      | nil => exact ⟨[], .nil depth⟩
      | cons cluster clusters =>
          exact absurd rfl (bounded cluster List.mem_cons_self cluster.id)
  | succ links induction =>
      induction clusters with
      | nil => exact ⟨[], .nil depth⟩
      | cons cluster clusters beside_exists =>
          rw [List.forall_mem_cons] at bounded
          obtain ⟨beside, proceed⟩ := beside_exists bounded.2
          have children_bounded : ∀ child ∈ childrenOf graph.clusters cluster.id, ∀ other,
              ClusterTree.ascend (ClusterTree.parentOf graph.clusters) links other ≠
                some child.id := by
            intro child child_mem other reached
            apply bounded.1 other
            rw [ClusterTree.ascend_succ, reached, Option.bind_some,
              link_of_mem_childrenOf valid child_mem]
          obtain ⟨below, descend⟩ := induction (depth + 1) _ children_bounded
          exact ⟨_, .cons descend proceed⟩

/-- Some links more than any chain of parents has. -/
theorem exists_bound : ∃ links, ∀ id,
    ClusterTree.ascend (ClusterTree.parentOf graph.clusters) (links + 1) id = none := by
  have bounded : ∀ clusters ⊆ graph.clusters, ∃ links, ∀ cluster ∈ clusters,
      ClusterTree.ascend (ClusterTree.parentOf graph.clusters) links cluster.id = none := by
    intro clusters within
    induction clusters with
    | nil => exact ⟨0, by simp⟩
    | cons cluster clusters induction =>
        rw [List.cons_subset] at within
        obtain ⟨links, ended⟩ := induction within.2
        obtain ⟨own_links, own_ended⟩ := valid.ends cluster within.1
        refine ⟨own_links + links, ?_⟩
        rw [List.forall_mem_cons]
        constructor
        · exact ClusterTree.ascend_eq_none_of_le (Nat.le_add_right _ _) own_ended
        · intro other other_mem
          exact ClusterTree.ascend_eq_none_of_le (Nat.le_add_left _ _) (ended other other_mem)
  obtain ⟨links, ended⟩ := bounded _ (List.Subset.refl _)
  refine ⟨links, fun id => ?_⟩
  cases link : ClusterTree.parentOf graph.clusters id with
  | none => rw [ClusterTree.ascend, link, Option.bind_none]
  | some parent =>
      have id_mem : id ∈ graph.clusters.map (·.id) :=
        ClusterTree.mem_ids_of_parentOf (by rw [link]; rfl)
      obtain ⟨cluster, cluster_mem, rfl⟩ := List.mem_map.mp id_mem
      exact ClusterTree.ascend_eq_none_of_le (Nat.le_succ links) (ended cluster cluster_mem)

variable {depth : Nat} {clusters : List (Cluster α)} {listing : List (Cluster α × Nat)}

/-- In a listing every cluster stands at its level, below one of the first clusters. -/
theorem level_of_mem
    (depthFirst : DepthFirst (·.id) (childrenOf graph.clusters) depth clusters listing)
    (levels : ∀ cluster ∈ clusters,
      ClusterTree.AtLevel (ClusterTree.parentOf graph.clusters) depth cluster.id) :
    ∀ entry ∈ listing,
      ClusterTree.AtLevel (ClusterTree.parentOf graph.clusters) entry.2 entry.1.id ∧
        ∃ links, entry.2 = depth + links ∧ ∃ cluster ∈ clusters,
          ClusterTree.ascend (ClusterTree.parentOf graph.clusters) links entry.1.id =
            some cluster.id := by
  induction depthFirst with
  | nil => simp
  | cons descend proceed below_levels beside_levels =>
      rename_i depth first clusters below beside
      rw [List.forall_mem_cons] at levels
      have children_levels : ∀ child ∈ childrenOf graph.clusters first.id,
          ClusterTree.AtLevel (ClusterTree.parentOf graph.clusters) (depth + 1) child.id :=
        fun child child_mem => levels.1.child (link_of_mem_childrenOf valid child_mem)
      intro entry entry_mem
      rcases List.mem_cons.mp entry_mem with rfl | entry_mem
      · exact ⟨levels.1, 0, rfl, first, List.mem_cons_self, rfl⟩
      · rcases List.mem_append.mp entry_mem with below_mem | beside_mem
        · obtain ⟨level, links, level_eq, child, child_mem, reached⟩ :=
            below_levels children_levels entry below_mem
          refine ⟨level, links + 1, by omega, first, List.mem_cons_self, ?_⟩
          rw [ClusterTree.ascend_succ, reached, Option.bind_some,
            link_of_mem_childrenOf valid child_mem]
        · obtain ⟨level, links, level_eq, cluster, cluster_mem, reached⟩ :=
            beside_levels levels.2 entry beside_mem
          exact ⟨level, links, level_eq, cluster, List.mem_cons_of_mem _ cluster_mem, reached⟩

/-- What is listed below a cluster reaches it. -/
theorem reaches_of_children {first : Cluster α} {below : List (Cluster α × Nat)}
    (descend : DepthFirst (·.id) (childrenOf graph.clusters) (depth + 1)
      (childrenOf graph.clusters first.id) below)
    (level : ClusterTree.AtLevel (ClusterTree.parentOf graph.clusters) depth first.id) :
    ∀ entry ∈ below, ClusterTree.AtLevel (ClusterTree.parentOf graph.clusters) entry.2 entry.1.id ∧
      ∃ links, entry.2 = depth + (links + 1) ∧
        ClusterTree.ascend (ClusterTree.parentOf graph.clusters) (links + 1) entry.1.id =
          some first.id := by
  intro entry entry_mem
  obtain ⟨entry_level, links, level_eq, child, child_mem, reached⟩ :=
    level_of_mem valid descend
      (fun child child_mem => level.child (link_of_mem_childrenOf valid child_mem)) entry entry_mem
  refine ⟨entry_level, links, by omega, ?_⟩
  rw [ClusterTree.ascend_succ, reached, Option.bind_some, link_of_mem_childrenOf valid child_mem]

/-- What is listed from some clusters on reaches no other cluster of their depth. -/
theorem ascend_ne_of_beside
    (depthFirst : DepthFirst (·.id) (childrenOf graph.clusters) depth clusters listing)
    (levels : ∀ cluster ∈ clusters,
      ClusterTree.AtLevel (ClusterTree.parentOf graph.clusters) depth cluster.id)
    {id : String} (other : id ∉ clusters.map (·.id)) {entry : Cluster α × Nat}
    (entry_mem : entry ∈ listing) {links : Nat}
    (level : ClusterTree.AtLevel (ClusterTree.parentOf graph.clusters) (depth + links) entry.1.id) :
    ClusterTree.ascend (ClusterTree.parentOf graph.clusters) links entry.1.id ≠ some id := by
  intro reaches
  obtain ⟨entry_level, steps, level_eq, cluster, cluster_mem, reached⟩ :=
    level_of_mem valid depthFirst levels entry entry_mem
  have steps_eq : steps = links := by
    have := level.unique entry_level
    omega
  rw [steps_eq, reaches] at reached
  exact other (Option.some.inj reached ▸ List.mem_map_of_mem cluster_mem)

/-- No cluster is listed twice. -/
theorem nodup_listing
    (depthFirst : DepthFirst (·.id) (childrenOf graph.clusters) depth clusters listing)
    (levels : ∀ cluster ∈ clusters,
      ClusterTree.AtLevel (ClusterTree.parentOf graph.clusters) depth cluster.id)
    (distinct : (clusters.map (·.id)).Nodup) : (listing.map fun entry => entry.1.id).Nodup := by
  induction depthFirst with
  | nil => exact List.nodup_nil
  | cons descend proceed below_distinct beside_distinct =>
      rename_i depth first clusters below beside
      rw [List.forall_mem_cons] at levels
      rw [List.map_cons, List.nodup_cons] at distinct
      have children_levels : ∀ child ∈ childrenOf graph.clusters first.id,
          ClusterTree.AtLevel (ClusterTree.parentOf graph.clusters) (depth + 1) child.id :=
        fun child child_mem => levels.1.child (link_of_mem_childrenOf valid child_mem)
      have children_distinct : ((childrenOf graph.clusters first.id).map (·.id)).Nodup :=
        (List.filter_sublist.map _).nodup valid.clusterIds
      have below_reaches := reaches_of_children valid descend levels.1
      have beside_ne {entry : Cluster α × Nat} (entry_mem : entry ∈ beside) (links : Nat) :=
        @ascend_ne_of_beside _ _ valid _ _ _ proceed levels.2 _ distinct.1 _ entry_mem links
      rw [List.map_cons, List.map_append, List.nodup_cons, List.nodup_append]
      refine ⟨?_, below_distinct children_levels children_distinct,
        beside_distinct levels.2 distinct.2, ?_⟩
      · intro again
        rcases List.mem_append.mp again with again | again
        · obtain ⟨entry, entry_mem, same⟩ := List.mem_map.mp again
          obtain ⟨level, links, level_eq, -⟩ := below_reaches entry entry_mem
          rw [same] at level
          have := level.unique levels.1
          omega
        · obtain ⟨entry, entry_mem, same⟩ := List.mem_map.mp again
          have level := levels.1
          rw [← same] at level
          exact beside_ne entry_mem 0 level (congrArg some same)
      · -- what lies below the first cluster reaches it where what lies beside reaches another one
        rintro _ below_id _ beside_id rfl
        obtain ⟨entry, entry_mem, same⟩ := List.mem_map.mp below_id
        obtain ⟨other, other_mem, other_same⟩ := List.mem_map.mp beside_id
        obtain ⟨level, links, level_eq, reached⟩ := below_reaches entry entry_mem
        rw [level_eq, same, ← other_same] at level
        rw [same, ← other_same] at reached
        exact beside_ne other_mem (links + 1) level reached

/-- A cluster that is listed is one of the first ones or a child of another that is listed. -/
theorem parent_of_mem
    (depthFirst : DepthFirst (·.id) (childrenOf graph.clusters) depth clusters listing) :
    ∀ entry ∈ listing, entry.1 ∈ clusters ∨
      ∃ other ∈ listing, entry.1.parent = some other.1.id := by
  induction depthFirst with
  | nil => simp
  | cons descend proceed below_parents beside_parents =>
      rename_i depth first clusters below beside
      intro entry entry_mem
      rcases List.mem_cons.mp entry_mem with rfl | entry_mem
      · exact Or.inl List.mem_cons_self
      · rcases List.mem_append.mp entry_mem with below_mem | beside_mem
        · rcases below_parents entry below_mem with child | ⟨other, other_mem, parent_eq⟩
          · exact Or.inr ⟨_, List.mem_cons_self, ((mem_childrenOf valid).mp child).2⟩
          · have other_listed := List.mem_append_left beside other_mem
            exact Or.inr ⟨other, List.mem_cons_of_mem _ other_listed, parent_eq⟩
        · rcases beside_parents entry beside_mem with first_mem | ⟨other, other_mem, parent_eq⟩
          · exact Or.inl (List.mem_cons_of_mem _ first_mem)
          · have other_listed := List.mem_append_right below other_mem
            exact Or.inr ⟨other, List.mem_cons_of_mem _ other_listed, parent_eq⟩

theorem filter_parent_eq_nil
    (depthFirst : DepthFirst (·.id) (childrenOf graph.clusters) depth clusters listing)
    {parent : Option String} (first : ∀ cluster ∈ clusters, cluster.parent ≠ parent)
    (listed : ∀ entry ∈ listing, parent ≠ some entry.1.id) :
    (listing.map (·.1)).filter (fun cluster => cluster.parent == parent) = [] := by
  rw [List.filter_eq_nil_iff]
  intro cluster cluster_mem
  obtain ⟨entry, entry_mem, rfl⟩ := List.mem_map.mp cluster_mem
  rw [beq_iff_eq]
  rintro parent_eq
  rcases parent_of_mem valid depthFirst entry entry_mem with
    first_mem | ⟨other, other_mem, other_eq⟩
  · exact first _ first_mem parent_eq
  · exact listed other other_mem (parent_eq.symm.trans other_eq)

/-- The first clusters of a listing keep their order in it. -/
theorem filter_parent_first
    (depthFirst : DepthFirst (·.id) (childrenOf graph.clusters) depth clusters listing)
    {parent : Option String} (first : ∀ cluster ∈ clusters, cluster.parent = parent)
    (listed : ∀ entry ∈ listing, parent ≠ some entry.1.id) :
    (listing.map (·.1)).filter (fun cluster => cluster.parent == parent) = clusters := by
  induction depthFirst with
  | nil => rfl
  | cons descend proceed below_filter beside_filter =>
      rename_i depth cluster clusters below beside
      rw [List.forall_mem_cons] at first
      rw [List.forall_mem_cons, List.forall_mem_append] at listed
      obtain ⟨own, below_listed, beside_listed⟩ := listed
      have below_nil := filter_parent_eq_nil valid descend
        (fun child child_mem => by
          rw [((mem_childrenOf valid).mp child_mem).2]
          exact own.symm) below_listed
      rw [List.map_cons, List.map_append, List.filter_cons_of_pos (by simp [first.1]),
        List.filter_append, below_nil, List.nil_append, beside_filter first.2 beside_listed]

/-- The children of a listed cluster keep their order in the listing. -/
theorem filter_parent_children
    (depthFirst : DepthFirst (·.id) (childrenOf graph.clusters) depth clusters listing)
    (distinct : (listing.map fun entry => entry.1.id).Nodup)
    (first : ∀ cluster ∈ clusters, ∀ entry ∈ listing, cluster.parent ≠ some entry.1.id) :
    ∀ entry ∈ listing,
      (listing.map (·.1)).filter (fun cluster => cluster.parent == some entry.1.id) =
        childrenOf graph.clusters entry.1.id := by
  induction depthFirst with
  | nil => simp
  | cons descend proceed below_filter beside_filter =>
      rename_i depth cluster clusters below beside
      rw [List.map_cons, List.map_append, List.nodup_cons, List.nodup_append] at distinct
      obtain ⟨own_apart, below_distinct, beside_distinct, apart⟩ := distinct
      have below_ids : ∀ entry ∈ below, entry.1.id ≠ cluster.id := fun entry entry_mem same =>
        own_apart (same ▸ List.mem_append_left _ (List.mem_map_of_mem entry_mem))
      have beside_ids : ∀ entry ∈ beside, entry.1.id ≠ cluster.id := fun entry entry_mem same =>
        own_apart (same ▸ List.mem_append_right _ (List.mem_map_of_mem entry_mem))
      have across : ∀ entry ∈ below, ∀ other ∈ beside, entry.1.id ≠ other.1.id :=
        fun entry entry_mem other other_mem =>
          apart _ (List.mem_map_of_mem entry_mem) _ (List.mem_map_of_mem other_mem)
      have child_parent : ∀ child ∈ childrenOf graph.clusters cluster.id,
          child.parent = some cluster.id :=
        fun child child_mem => ((mem_childrenOf valid).mp child_mem).2
      have others_first : ∀ other ∈ clusters, ∀ entry ∈ (cluster, depth) :: (below ++ beside),
          other.parent ≠ some entry.1.id :=
        fun other other_mem => first other (List.mem_cons_of_mem _ other_mem)
      intro entry entry_mem
      have own_dropped := first cluster List.mem_cons_self entry entry_mem
      rw [List.map_cons, List.map_append, List.filter_cons_of_neg (by simpa using own_dropped),
        List.filter_append]
      rcases List.mem_cons.mp entry_mem with rfl | entry_mem
      · rw [filter_parent_first valid descend child_parent
            fun other other_mem same => below_ids other other_mem (Option.some.inj same).symm,
          filter_parent_eq_nil valid proceed
            (fun other other_mem => others_first other other_mem _ List.mem_cons_self)
            fun other other_mem same => beside_ids other other_mem (Option.some.inj same).symm,
          List.append_nil]
      · rcases List.mem_append.mp entry_mem with below_mem | beside_mem
        · rw [below_filter below_distinct
              (fun child child_mem other other_mem same => by
                rw [child_parent child child_mem] at same
                exact below_ids other other_mem (Option.some.inj same).symm) entry below_mem,
            filter_parent_eq_nil valid proceed
              (fun other other_mem => others_first other other_mem entry
                (List.mem_cons_of_mem _ entry_mem))
              fun other other_mem same =>
                across entry below_mem other other_mem (Option.some.inj same),
            List.append_nil]
        · rw [filter_parent_eq_nil valid descend
              (fun child child_mem same => by
                rw [child_parent child child_mem] at same
                exact beside_ids entry beside_mem (Option.some.inj same).symm)
              fun other other_mem same =>
                across other other_mem entry beside_mem (Option.some.inj same).symm,
            List.nil_append, beside_filter beside_distinct
              (fun other other_mem below_entry below_mem => others_first other other_mem below_entry
                (List.mem_cons_of_mem _ (List.mem_append_right _ below_mem))) entry beside_mem]

/-- What is listed below the roots holds every cluster. -/
theorem mem_listing
    (depthFirst : DepthFirst (·.id) (childrenOf graph.clusters) 0 (rootsOf graph.clusters) listing)
    {cluster : Cluster α} (cluster_mem : cluster ∈ graph.clusters) :
    cluster ∈ listing.map (·.1) := by
  obtain ⟨level, at_level⟩ := (valid.ends cluster cluster_mem).exists_level
  induction level generalizing cluster with
  | zero =>
      rw [ClusterTree.atLevel_zero_iff,
        ClusterTree.parentOf_of_mem valid.clusterIds cluster_mem] at at_level
      exact depthFirst.mem_of_mem ((mem_rootsOf valid).mpr ⟨cluster_mem, at_level⟩)
  | succ level induction =>
      have link_eq := ClusterTree.parentOf_of_mem valid.clusterIds cluster_mem
      cases parent_eq : cluster.parent with
      | none =>
          rw [parent_eq] at link_eq
          exact depthFirst.mem_of_mem ((mem_rootsOf valid).mpr ⟨cluster_mem, parent_eq⟩)
      | some parent =>
          rw [parent_eq] at link_eq
          obtain ⟨parent_mem, -⟩ := valid.parents cluster cluster_mem parent parent_eq
          obtain ⟨above, above_mem, rfl⟩ := List.mem_map.mp parent_mem
          apply depthFirst.children_mem (induction above_mem (at_level.parent link_eq))
          exact (mem_childrenOf valid).mpr ⟨cluster_mem, parent_eq⟩

end Forest

/-! ## The order of clusters and nodes -/

/-- The clusters in the order in which they are written, with their depths. -/
def clusterOrder (graph : Graph α) : List (Cluster α × Nat) :=
  forestOrder (·.id) (childrenOf graph.clusters) graph.clusters (rootsOf graph.clusters)

/-- The nodes that lie in no cluster. -/
def floating (graph : Graph α) : List (Node α) :=
  graph.nodes.filter fun node => !Cluster.refersTo graph.clusters node.cluster

/-- A diagram with its clusters and nodes in the order in which they are written. -/
def inWritingOrder (graph : Graph α) : Graph α where
  clusters := (clusterOrder graph).map (·.1)
  nodes := floating graph ++ (clusterOrder graph).flatMap fun entry => graph.members entry.1.id
  edges := graph.edges

section Whole

variable {graph : Graph α}

theorem refersTo_iff {clusters : List (Cluster α)} {reference : Option String} :
    Cluster.refersTo clusters reference = true ↔
      ∃ cluster ∈ clusters, reference = some cluster.id := by
  cases reference with
  | none => simp [Cluster.refersTo]
  | some id =>
      simp only [Cluster.refersTo, Cluster.isListed, List.any_eq_true, beq_iff_eq,
        Option.some.injEq]
      exact exists_congr fun cluster => and_congr_right fun _ => eq_comm

theorem mem_floating_iff {node : Node α} :
    node ∈ floating graph ↔
      node ∈ graph.nodes ∧ ∀ cluster ∈ graph.clusters, node.cluster ≠ some cluster.id := by
  rw [floating, List.mem_filter, Bool.not_eq_true', ← Bool.not_eq_true, refersTo_iff]
  simp

theorem mem_members {node : Node α} {id : String} :
    node ∈ graph.members id ↔ node ∈ graph.nodes ∧ node.cluster = some id := by
  rw [Graph.members, List.mem_filter, beq_iff_eq]

theorem mem_of_mem_clusterOrder {entry : Cluster α × Nat} (entry_mem : entry ∈ clusterOrder graph) :
    entry.1 ∈ graph.clusters :=
  mem_of_mem_forestOrder List.filter_sublist.subset (fun _ => List.filter_sublist.subset) entry_mem

variable (clusterIds : (graph.clusters.map (·.id)).Nodup)

include clusterIds

/-- Every cluster is written once, even where parents lead in circles. -/
theorem clusterOrder_perm : ((clusterOrder graph).map (·.1)).Perm graph.clusters :=
  forestOrder_perm List.filter_sublist.subset (fun _ => List.filter_sublist.subset) clusterIds

/-- Every node is written once. -/
theorem nodes_inWritingOrder_perm (nodeIds : (graph.nodes.map (·.id)).Nodup) :
    (inWritingOrder graph).nodes.Perm graph.nodes := by
  have whole := clusterOrder_perm clusterIds
  have nodes_distinct : graph.nodes.Nodup := List.Nodup.of_map _ nodeIds
  have clusters_distinct : ((clusterOrder graph).map fun entry => entry.1.id).Nodup := by
    have := (whole.map (·.id)).nodup_iff.mpr clusterIds
    rwa [List.map_map] at this
  apply (List.perm_ext_iff_of_nodup ?_ nodes_distinct).mpr
  · intro node
    rw [inWritingOrder, List.mem_append, mem_floating_iff, List.mem_flatMap]
    constructor
    · rintro (⟨node_mem, -⟩ | ⟨entry, -, node_mem⟩)
      · exact node_mem
      · exact (mem_members.mp node_mem).1
    · intro node_mem
      by_cases lies : ∃ cluster ∈ graph.clusters, node.cluster = some cluster.id
      · obtain ⟨cluster, cluster_mem, cluster_eq⟩ := lies
        obtain ⟨entry, entry_mem, rfl⟩ := List.mem_map.mp (whole.mem_iff.mpr cluster_mem)
        exact Or.inr ⟨entry, entry_mem, mem_members.mpr ⟨node_mem, cluster_eq⟩⟩
      · exact Or.inl ⟨node_mem, fun cluster cluster_mem cluster_eq =>
          lies ⟨cluster, cluster_mem, cluster_eq⟩⟩
  · rw [inWritingOrder, List.nodup_append, List.nodup_flatMap]
    refine ⟨nodes_distinct.filter _, ⟨fun _ _ => nodes_distinct.filter _, ?_⟩, ?_⟩
    · apply (List.pairwise_map.mp clusters_distinct).imp
      intro first second apart node first_mem second_mem
      have first_eq := (mem_members.mp first_mem).2
      have second_eq := (mem_members.mp second_mem).2
      exact apart (Option.some.inj (first_eq.symm.trans second_eq))
    · rintro node floats _ member rfl
      obtain ⟨entry, entry_mem, node_mem⟩ := List.mem_flatMap.mp member
      have listed := whole.mem_iff.mp (List.mem_map_of_mem entry_mem)
      exact (mem_floating_iff.mp floats).2 entry.1 listed (mem_members.mp node_mem).2

end Whole

section Order

variable {graph : Graph α} (valid : graph.Valid)

include valid

/-- The writer lists the forest of clusters depth first, every cluster once. -/
theorem depthFirst_clusterOrder :
    DepthFirst (·.id) (childrenOf graph.clusters) 0 (rootsOf graph.clusters) (clusterOrder graph) ∧
      (inWritingOrder graph).clusters.Perm graph.clusters := by
  obtain ⟨links, ended⟩ := exists_bound valid
  obtain ⟨listing, depthFirst⟩ := exists_depthFirst valid (links + 1) 0 (rootsOf graph.clusters)
    (by simp [ended])
  have levels : ∀ root ∈ rootsOf graph.clusters,
      ClusterTree.AtLevel (ClusterTree.parentOf graph.clusters) 0 root.id := by
    intro root root_mem
    obtain ⟨listed, parent_eq⟩ := (mem_rootsOf valid).mp root_mem
    rw [ClusterTree.atLevel_zero_iff, ClusterTree.parentOf_of_mem valid.clusterIds listed,
      parent_eq]
  have distinct : ((rootsOf graph.clusters).map (·.id)).Nodup :=
    (List.filter_sublist.map _).nodup valid.clusterIds
  have listing_distinct := nodup_listing valid depthFirst levels distinct
  have whole : (listing.map (·.1)).Perm graph.clusters := by
    apply (List.perm_ext_iff_of_nodup ?_ (List.Nodup.of_map _ valid.clusterIds)).mpr
    · intro cluster
      refine ⟨?_, mem_listing valid depthFirst⟩
      intro cluster_mem
      obtain ⟨entry, entry_mem, rfl⟩ := List.mem_map.mp cluster_mem
      apply depthFirst.forall_mem _ _ entry entry_mem
      · exact fun root root_mem => ((mem_rootsOf valid).mp root_mem).1
      · exact fun id child child_mem => ((mem_childrenOf valid).mp child_mem).1
    · apply List.Nodup.of_map (fun cluster : Cluster α => cluster.id)
      rwa [List.map_map]
  have order_eq : clusterOrder graph = listing :=
    forestOrder_eq depthFirst whole valid.clusterIds
  rw [inWritingOrder, order_eq]
  exact ⟨depthFirst, whole⟩

theorem mem_floating {node : Node α} :
    node ∈ floating graph ↔ node ∈ graph.nodes ∧ node.cluster = none := by
  rw [mem_floating_iff]
  refine and_congr_right fun node_mem => ?_
  cases cluster_eq : node.cluster with
  | none => simp
  | some id =>
      obtain ⟨cluster, cluster_mem, rfl⟩ :=
        List.mem_map.mp (valid.memberships node node_mem id cluster_eq)
      simpa using ⟨cluster, cluster_mem, rfl⟩

/-- Every node of a valid diagram is written once. -/
theorem perm_nodes_inWritingOrder : (inWritingOrder graph).nodes.Perm graph.nodes :=
  nodes_inWritingOrder_perm valid.clusterIds valid.nodeIds

theorem valid_inWritingOrder : (inWritingOrder graph).Valid :=
  valid.of_perm (depthFirst_clusterOrder valid).2 (perm_nodes_inWritingOrder valid) rfl

theorem filter_cluster_floating :
    (inWritingOrder graph).nodes.filter (fun node => node.cluster == none) = floating graph := by
  rw [inWritingOrder, List.filter_append]
  have floats : (floating graph).filter (fun node => node.cluster == none) = floating graph := by
    rw [List.filter_eq_self]
    intro node node_mem
    exact beq_iff_eq.mpr ((mem_floating valid).mp node_mem).2
  have lies : ((clusterOrder graph).flatMap fun entry => graph.members entry.1.id).filter
      (fun node => node.cluster == none) = [] := by
    rw [List.filter_eq_nil_iff]
    intro node node_mem
    obtain ⟨entry, -, member⟩ := List.mem_flatMap.mp node_mem
    simp [(mem_members.mp member).2]
  rw [floats, lies, List.append_nil]

theorem filter_cluster_members {entry : Cluster α × Nat} (entry_mem : entry ∈ clusterOrder graph) :
    (inWritingOrder graph).nodes.filter (fun node => node.cluster == some entry.1.id) =
      graph.members entry.1.id := by
  obtain ⟨-, whole⟩ := depthFirst_clusterOrder valid
  have distinct := (whole.map (·.id)).nodup_iff.mpr valid.clusterIds
  rw [inWritingOrder, List.map_map] at distinct
  have floats : (floating graph).filter (fun node => node.cluster == some entry.1.id) = [] := by
    rw [List.filter_eq_nil_iff]
    intro node node_mem
    simp [((mem_floating valid).mp node_mem).2]
  have elsewhere : ∀ other ∈ clusterOrder graph, other.1.id ≠ entry.1.id →
      (graph.members other.1.id).filter (fun node => node.cluster == some entry.1.id) = [] := by
    intro other _ apart
    rw [List.filter_eq_nil_iff]
    intro node node_mem
    simp [(mem_members.mp node_mem).2, apart]
  rw [inWritingOrder, List.filter_append, floats, List.nil_append, List.filter_flatMap]
  obtain ⟨front, back, order_eq⟩ := List.append_of_mem entry_mem
  rw [order_eq] at distinct elsewhere ⊢
  rw [List.map_append, List.map_cons, List.nodup_append] at distinct
  obtain ⟨-, back_distinct, apart⟩ := distinct
  rw [List.nodup_cons] at back_distinct
  have front_nil : front.flatMap (fun other => (graph.members other.1.id).filter
      fun node => node.cluster == some entry.1.id) = [] := by
    rw [List.flatMap_eq_nil_iff]
    intro other other_mem
    apply elsewhere other (List.mem_append_left _ other_mem)
    exact apart _ (List.mem_map_of_mem other_mem) _ List.mem_cons_self
  have back_nil : back.flatMap (fun other => (graph.members other.1.id).filter
      fun node => node.cluster == some entry.1.id) = [] := by
    rw [List.flatMap_eq_nil_iff]
    intro other other_mem
    apply elsewhere other (List.mem_append_right _ (List.mem_cons_of_mem _ other_mem))
    intro same
    exact back_distinct.1 (List.mem_map.mpr ⟨other, other_mem, same⟩)
  rw [List.flatMap_append, List.flatMap_cons, front_nil, back_nil, List.nil_append, List.append_nil,
    Graph.members, List.filter_filter]
  simp

end Order

end Prompt
end ClusterDiagram
