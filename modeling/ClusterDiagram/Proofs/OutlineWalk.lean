import ClusterDiagram.Layout
import ClusterDiagram.Outline
import ClusterDiagram.Proofs.Computations
import ClusterDiagram.Proofs.WellFormed

/-!
# The walk that draws outlines

Clusters are outlined on paths that lead downwards. No cluster is met twice on a path, so that the
bound on its length never counts and the walk comes to every cluster. The children of a cluster are
outlined before it, but for those that its own parents lead to.
-/

namespace ClusterDiagram
namespace ClusterTree

variable {α : Type} {clusters : List (Cluster α)}

/-- Whether the parents of no cluster lead back to it. -/
def Acyclic (clusters : List (Cluster α)) : Prop :=
  ∀ cluster ∈ clusters, ¬ Returns (parentOf clusters) cluster.id

theorem Acyclic.not_returns (acyclic : Acyclic clusters) {id parent : String}
    (link : parentOf clusters id = some parent) : ¬ Returns (parentOf clusters) id := by
  obtain ⟨cluster, cluster_mem, rfl, -⟩ := parentOf_eq_some link
  exact acyclic cluster cluster_mem

end ClusterTree

namespace Outline

open ClusterTree

variable {α : Type} {clusters : List (Cluster α)}

/-! ## Children -/

theorem childIds_subset (clusters : List (Cluster α)) (id : String) :
    childIds clusters id ⊆ clusters.map (·.id) :=
  List.map_subset _ (List.filter_subset_self _)

/-- Clusters without listed parents have no children. -/
theorem childIds_eq_nil (roots : ∀ cluster ∈ clusters, ∀ parent, cluster.parent = some parent →
    parent ∉ clusters.map (·.id)) (id : String) : childIds clusters id = [] := by
  rw [childIds, List.map_eq_nil_iff, List.filter_eq_nil_iff]
  intro cluster cluster_mem child
  simp only [Bool.and_eq_true, beq_iff_eq, Cluster.isListed] at child
  obtain ⟨⟨below, -⟩, listed⟩ := child
  apply roots cluster cluster_mem id below
  simpa using listed

theorem childIds_eq_nil_of_roots (roots : ∀ cluster ∈ clusters, cluster.parent = none)
    (id : String) : childIds clusters id = [] := by
  refine childIds_eq_nil (fun cluster cluster_mem parent below => ?_) id
  rw [roots cluster cluster_mem] at below
  cases below

/-- The children of a listed cluster are the others whose parent it is. -/
theorem mem_childIds_iff (ids : (clusters.map (·.id)).Nodup) {id : String}
    (id_mem : id ∈ clusters.map (·.id)) (child : String) :
    child ∈ childIds clusters id ↔ parentOf clusters child = some id ∧ child ≠ id := by
  have listed : Cluster.isListed clusters id = true := Cluster.isListed_iff.mpr id_mem
  simp only [childIds, List.mem_map, List.mem_filter, listed, Bool.and_true, Bool.and_eq_true,
    beq_iff_eq, bne_iff_ne]
  constructor
  · rintro ⟨cluster, ⟨cluster_mem, below, different⟩, rfl⟩
    exact ⟨(parentOf_of_mem ids cluster_mem).trans below, different⟩
  · rintro ⟨link, different⟩
    obtain ⟨cluster, cluster_mem, rfl, below⟩ := parentOf_eq_some link
    exact ⟨cluster, ⟨cluster_mem, below, different⟩, rfl⟩

/-! ## Paths -/

/-- A path of different clusters that leads down to an id. -/
structure LeadsTo (clusters : List (Cluster α)) (path : List String) (id : String) : Prop where
  /-- No cluster is passed twice. -/
  distinct : path.Nodup
  /-- Only clusters are passed. -/
  listed : path ⊆ clusters.map (·.id)
  /-- The parents of the id lead to every cluster that was passed. -/
  above : ∀ key ∈ path, ∃ steps, ascend (parentOf clusters) (steps + 1) id = some key

variable {path : List String} {id : String}

theorem leadsTo_nil (clusters : List (Cluster α)) (id : String) : LeadsTo clusters [] id :=
  ⟨List.nodup_nil, List.nil_subset _, fun _ key_mem => absurd key_mem List.not_mem_nil⟩

/-- There are no more clusters on a path than in the list. -/
theorem LeadsTo.length_le (leads : LeadsTo clusters path id) : path.length ≤ clusters.length := by
  simpa using (leads.distinct.subperm leads.listed).length_le

/-- A path is continued by a cluster off it to the children of that cluster. -/
theorem LeadsTo.cons (leads : LeadsTo clusters path id) (ids : (clusters.map (·.id)).Nodup)
    (id_mem : id ∈ clusters.map (·.id)) (off_path : id ∉ path) {child : String}
    (child_mem : child ∈ childIds clusters id) : LeadsTo clusters (id :: path) child where
  distinct := List.nodup_cons.mpr ⟨off_path, leads.distinct⟩
  listed := List.cons_subset.mpr ⟨id_mem, leads.listed⟩
  above := by
    have link := ((mem_childIds_iff ids id_mem child).mp child_mem).1
    rw [List.forall_mem_cons]
    refine ⟨⟨0, by rw [ascend, link]; rfl⟩, fun key key_mem => ?_⟩
    obtain ⟨steps, reached⟩ := leads.above key key_mem
    exact ⟨steps + 1, by rw [ascend, link, Option.bind_some, reached]⟩

/-! ## Visits -/

section Visits

variable [Scalar α] {nodes : List (Node α)} {canvasWidth : α} {fuel : ℕ}
  {outlines : List (String × Rect α)}

/-- The outline of a cluster around its members and those of its children that are outlined. -/
def encloseNext (nodes : List (Node α)) (clusters : List (Cluster α)) (canvasWidth : α)
    (outlines : List (String × Rect α)) (id : String) : Except ArithmeticError (Rect α) :=
  enclose nodes clusters canvasWidth (Cluster.lastWith? id clusters) (Layout.membersOf nodes id)
    ((childIds clusters id).filterMap fun child => outlines.lookup child)

theorem visit_of_done (fuel : ℕ) (done : id ∈ outlines.map (·.1) ∨ id ∈ path) :
    visit nodes clusters canvasWidth fuel path outlines id = .ok outlines := by
  cases fuel with
  | zero => rfl
  | succ fuel =>
      rw [← Assoc.isSome_lookup_iff, ← List.contains_iff_mem, ← Bool.or_eq_true] at done
      rw [visit, if_pos done]

theorem visit_of_open (fuel : ℕ) (new : id ∉ outlines.map (·.1)) (off_path : id ∉ path) :
    visit nodes clusters canvasWidth (fuel + 1) path outlines id =
      (childIds clusters id).foldlM (visit nodes clusters canvasWidth fuel (id :: path)) outlines
        >>= fun middle => (encloseNext nodes clusters canvasWidth middle id).map
          fun outline => middle ++ [(id, outline)] := by
  have open_still : ¬ ((outlines.lookup id).isSome || path.contains id) = true := by
    rw [Bool.or_eq_true, Assoc.isSome_lookup_iff, List.contains_iff_mem, not_or]
    exact ⟨new, off_path⟩
  rw [visit, if_neg open_still]
  rfl

/-- Two bounds on the length of a path that leave room for every cluster make no difference. -/
theorem visit_eq_of_room (ids : (clusters.map (·.id)).Nodup) {more : ℕ}
    (room : clusters.length < fuel + path.length) (room' : clusters.length < more + path.length)
    (leads : LeadsTo clusters path id) (id_mem : id ∈ clusters.map (·.id))
    (outlines : List (String × Rect α)) :
    visit nodes clusters canvasWidth fuel path outlines id =
      visit nodes clusters canvasWidth more path outlines id := by
  induction fuel generalizing more path id outlines with
  | zero =>
      have length_le := leads.length_le
      omega
  | succ fuel induction =>
      obtain ⟨more, rfl⟩ : ∃ less, more = less + 1 := by
        have length_le := leads.length_le
        exact ⟨more - 1, by omega⟩
      by_cases done : id ∈ outlines.map (·.1) ∨ id ∈ path
      · rw [visit_of_done _ done, visit_of_done _ done]
      · obtain ⟨new, off_path⟩ := not_or.mp done
        rw [visit_of_open fuel new off_path, visit_of_open more new off_path]
        congr 1
        apply foldlM_congr_of_mem
        intro child child_mem before
        apply induction
        · rw [List.length_cons]
          omega
        · rw [List.length_cons]
          omega
        · exact leads.cons ids id_mem off_path child_mem
        · exact childIds_subset clusters id child_mem

end Visits

/-! ## The whole walk -/

/-- Outlines of different clusters. -/
structure Listing (clusters : List (Cluster α)) (outlines : List (String × Rect α)) : Prop where
  /-- No cluster is outlined twice. -/
  keys : (outlines.map (·.1)).Nodup
  /-- Only clusters are outlined. -/
  listed : outlines.map (·.1) ⊆ clusters.map (·.id)

/-- A cluster whose turn it is: its children are outlined, but for those that it leads up to. -/
structure Due (clusters : List (Cluster α)) (outlines : List (String × Rect α)) (id : String) :
    Prop where
  /-- It is one of the clusters. -/
  listed : id ∈ clusters.map (·.id)
  /-- It is not outlined yet. -/
  new : id ∉ outlines.map (·.1)
  /-- The children that are not outlined are among its ancestors, or the cluster itself. -/
  children : ∀ child ∈ childIds clusters id, child ∈ outlines.map (·.1) ∨
    ∃ steps, ascend (parentOf clusters) steps id = some child

/-- The outlines that visits leave: what was outlined still is, and nothing on the path is new. -/
structure Extends (sound : List (String × Rect α) → Prop) (clusters : List (Cluster α))
    (path : List String) (outlines after : List (String × Rect α)) : Prop where
  /-- Clusters are outlined once. -/
  listing : Listing clusters after
  /-- The result is sound. -/
  sound : sound after
  /-- Nothing is lost. -/
  keeps : outlines.map (·.1) ⊆ after.map (·.1)
  /-- Clusters on the path are left alone. -/
  avoids : ∀ key ∈ after.map (·.1), key ∈ outlines.map (·.1) ∨ key ∉ path

variable {outlines : List (String × Rect α)}

theorem listing_nil (clusters : List (Cluster α)) :
    Listing clusters ([] : List (String × Rect α)) :=
  ⟨List.nodup_nil, List.nil_subset _⟩

theorem Listing.length_le (listing : Listing clusters outlines) :
    outlines.length ≤ clusters.length := by
  simpa using (listing.keys.subperm listing.listed).length_le

/-- When every cluster is outlined, each is outlined once. -/
theorem Listing.perm (listing : Listing clusters outlines) (ids : (clusters.map (·.id)).Nodup)
    (all : clusters.map (·.id) ⊆ outlines.map (·.1)) :
    (outlines.map (·.1)).Perm (clusters.map (·.id)) :=
  (listing.keys.subperm listing.listed).antisymm (ids.subperm all)

theorem Listing.append (listing : Listing clusters outlines) (id_mem : id ∈ clusters.map (·.id))
    (new : id ∉ outlines.map (·.1)) (outline : Rect α) :
    Listing clusters (outlines ++ [(id, outline)]) := by
  constructor
  · rw [List.map_append, List.nodup_append]
    refine ⟨listing.keys, by simp, ?_⟩
    intro key key_mem last last_mem same
    have last_eq : last = id := List.mem_singleton.mp last_mem
    exact new (last_eq ▸ same ▸ key_mem)
  · rw [List.map_append, List.append_subset]
    exact ⟨listing.listed, by simpa using id_mem⟩

section Walk

variable {sound : List (String × Rect α) → Prop}

theorem Extends.refl (listing : Listing clusters outlines) (holds : sound outlines)
    (path : List String) : Extends sound clusters path outlines outlines :=
  ⟨listing, holds, List.Subset.refl _, fun _ key_mem => Or.inl key_mem⟩

theorem Extends.trans {first second third : List (String × Rect α)}
    (front : Extends sound clusters path first second)
    (back : Extends sound clusters path second third) :
    Extends sound clusters path first third where
  listing := back.listing
  sound := back.sound
  keeps := List.Subset.trans front.keeps back.keeps
  avoids := by
    intro key key_mem
    rcases back.avoids key key_mem with old | new
    · exact front.avoids key old
    · exact Or.inr new

variable [Scalar α] {nodes : List (Node α)} {canvasWidth : α} {fuel : ℕ}

/-- What one visit does for its cluster, visits one after the other do for theirs. -/
theorem foldlM_visit {below : List String}
    (each : ∀ id ∈ below, ∀ outlines : List (String × Rect α), Listing clusters outlines →
      sound outlines → ∃ after, visit nodes clusters canvasWidth fuel path outlines id = .ok after ∧
        Extends sound clusters path outlines after ∧ (id ∉ path → id ∈ after.map (·.1)))
    {outlines : List (String × Rect α)} (listing : Listing clusters outlines)
    (holds : sound outlines) :
    ∃ after, below.foldlM (visit nodes clusters canvasWidth fuel path) outlines = .ok after ∧
      Extends sound clusters path outlines after ∧
      ∀ id ∈ below, id ∉ path → id ∈ after.map (·.1) := by
  induction below generalizing outlines with
  | nil => exact ⟨outlines, rfl, Extends.refl listing holds path, by simp⟩
  | cons id below induction =>
      rw [List.forall_mem_cons] at each
      obtain ⟨middle, visited, front, reached⟩ := each.1 outlines listing holds
      obtain ⟨after, rest, back, others⟩ := induction each.2 front.listing front.sound
      refine ⟨after, ?_, front.trans back, ?_⟩
      · rw [List.foldlM_cons, visited]
        exact rest
      · rw [List.forall_mem_cons]
        exact ⟨fun off_path => back.keeps (reached off_path), others⟩

variable (ids : (clusters.map (·.id)).Nodup)
  (step : ∀ (outlines : List (String × Rect α)) (id : String), Listing clusters outlines →
    sound outlines → Due clusters outlines id →
      ∃ outline, encloseNext nodes clusters canvasWidth outlines id = .ok outline ∧
        sound (outlines ++ [(id, outline)]))

include ids step

/-- A visit outlines its cluster, unless that stands on the path. -/
theorem exists_visit (room : clusters.length < fuel + path.length)
    (leads : LeadsTo clusters path id) (id_mem : id ∈ clusters.map (·.id))
    (listing : Listing clusters outlines) (holds : sound outlines) :
    ∃ after, visit nodes clusters canvasWidth fuel path outlines id = .ok after ∧
      Extends sound clusters path outlines after ∧ (id ∉ path → id ∈ after.map (·.1)) := by
  induction fuel generalizing path id outlines with
  | zero =>
      have length_le := leads.length_le
      omega
  | succ fuel induction =>
      by_cases done : id ∈ outlines.map (·.1) ∨ id ∈ path
      · exact ⟨outlines, visit_of_done _ done, Extends.refl listing holds path,
          fun off_path => done.resolve_right off_path⟩
      · obtain ⟨new, off_path⟩ := not_or.mp done
        obtain ⟨middle, visited, front, reached⟩ :=
          foldlM_visit (fun child child_mem _ listing holds =>
            induction (by rw [List.length_cons]; omega)
              (leads.cons ids id_mem off_path child_mem) (childIds_subset clusters id child_mem)
              listing holds) listing holds
        have due : Due clusters middle id := by
          refine ⟨id_mem, fun outlined_now => ?_, fun child child_mem => ?_⟩
          · exact (front.avoids id outlined_now).elim new fun avoided => avoided (by simp)
          · by_cases on_path : child ∈ id :: path
            · rcases List.mem_cons.mp on_path with rfl | above
              · exact Or.inr ⟨0, rfl⟩
              · obtain ⟨steps, reached⟩ := leads.above child above
                exact Or.inr ⟨steps + 1, reached⟩
            · exact Or.inl (reached child child_mem on_path)
        obtain ⟨outline, enclosed, last⟩ := step middle id front.listing front.sound due
        refine ⟨middle ++ [(id, outline)], ?_,
          ⟨front.listing.append id_mem due.new outline, last, ?_, ?_⟩, fun _ => by simp⟩
        · rw [visit_of_open fuel new off_path, visited]
          change (encloseNext nodes clusters canvasWidth middle id).map _ = _
          rw [enclosed]
          rfl
        · rw [List.map_append]
          exact List.subset_append_of_subset_left _ front.keeps
        · rw [List.map_append, List.forall_mem_append]
          constructor
          · intro key key_mem
            exact (front.avoids key key_mem).imp_right fun avoided on_path =>
              avoided (List.mem_cons_of_mem id on_path)
          · simpa using Or.inr off_path

/-- When every cluster can be outlined in its turn, all clusters are outlined. -/
theorem exists_ofClusters_of_step (start : sound []) :
    ∃ outlines, ofClusters clusters nodes canvasWidth = .ok outlines ∧
      Listing clusters outlines ∧ sound outlines ∧ clusters.map (·.id) ⊆ outlines.map (·.1) := by
  have room : clusters.length < clusters.length + 1 + ([] : List String).length :=
    Nat.lt_succ_self _
  obtain ⟨outlines, done, extending, reached⟩ :=
    foldlM_visit (fun id id_mem _ listing holds =>
      exists_visit ids step room (leadsTo_nil clusters id) id_mem listing holds)
      (listing_nil clusters) start
  exact ⟨outlines, done, extending.listing, extending.sound,
    fun id id_mem => reached id id_mem List.not_mem_nil⟩

end Walk

/-- A bound on the length of a path that is greater than the number of clusters does not count. -/
theorem ofClusters_eq_of_lt [Scalar α] (ids : (clusters.map (·.id)).Nodup) (nodes : List (Node α))
    (canvasWidth : α) {fuel : ℕ} (room : clusters.length < fuel) :
    (clusters.map (·.id)).foldlM (visit nodes clusters canvasWidth fuel []) [] =
      ofClusters clusters nodes canvasWidth := by
  apply foldlM_congr_of_mem
  intro id id_mem outlines
  exact visit_eq_of_room ids room (Nat.lt_succ_self _) (leadsTo_nil clusters id) id_mem outlines

/-! ## Children first -/

section Order

/-- Without cycles the children of a cluster are the clusters whose parent it is. -/
theorem mem_childIds_iff_of_acyclic (acyclic : Acyclic clusters)
    (ids : (clusters.map (·.id)).Nodup) (id_mem : id ∈ clusters.map (·.id)) (child : String) :
    child ∈ childIds clusters id ↔ parentOf clusters child = some id := by
  rw [mem_childIds_iff ids id_mem, and_iff_left_of_imp]
  rintro link rfl
  exact acyclic.not_returns link ⟨0, by rw [ascend, link]; rfl⟩

/-- Without cycles all children are outlined when it is the turn of a cluster. -/
theorem Due.childIds_subset (due : Due clusters outlines id) (ids : (clusters.map (·.id)).Nodup)
    (acyclic : Acyclic clusters) : childIds clusters id ⊆ outlines.map (·.1) := by
  intro child child_mem
  refine (due.children child child_mem).resolve_right ?_
  rintro ⟨steps, reached⟩
  have link := (mem_childIds_iff_of_acyclic acyclic ids due.listed child).mp child_mem
  exact acyclic.not_returns link ⟨steps, by rw [ascend, link, Option.bind_some, reached]⟩

variable [Scalar α] {nodes : List (Node α)} {canvasWidth : α}

/-- Outlines of clusters with all their children: each encloses the members of its cluster and the
outlines of the children. -/
def InOrder (nodes : List (Node α)) (clusters : List (Cluster α)) (canvasWidth : α)
    (outlines : List (String × Rect α)) : Prop :=
  ∀ entry ∈ outlines, childIds clusters entry.1 ⊆ outlines.map (·.1) ∧
    encloseNext nodes clusters canvasWidth outlines entry.1 = .ok entry.2

/-- Outlines that are added later do not count for a cluster whose children are all outlined. -/
theorem encloseNext_append (below : childIds clusters id ⊆ outlines.map (·.1))
    (more : List (String × Rect α)) :
    encloseNext nodes clusters canvasWidth (outlines ++ more) id =
      encloseNext nodes clusters canvasWidth outlines id := by
  rw [encloseNext, encloseNext]
  congr 1
  apply List.filterMap_congr
  intro child child_mem
  rw [List.lookup_append]
  exact Option.or_of_isSome (Assoc.isSome_lookup_iff.mpr (below child_mem))

theorem InOrder.append (inOrder : InOrder nodes clusters canvasWidth outlines)
    (below : childIds clusters id ⊆ outlines.map (·.1)) {outline : Rect α}
    (enclosed : encloseNext nodes clusters canvasWidth outlines id = .ok outline) :
    InOrder nodes clusters canvasWidth (outlines ++ [(id, outline)]) := by
  rw [InOrder, List.forall_mem_append, List.forall_mem_singleton, List.map_append]
  refine ⟨fun entry entry_mem => ?_, List.subset_append_of_subset_left _ below, ?_⟩
  · obtain ⟨known, drawn⟩ := inOrder entry entry_mem
    exact ⟨List.subset_append_of_subset_left _ known, by rw [encloseNext_append known, drawn]⟩
  · rw [encloseNext_append below, enclosed]

/-- When clusters can always be enclosed each gets one outline, and without cycles children come
first. -/
theorem exists_ofClusters_inOrder (ids : (clusters.map (·.id)).Nodup)
    (total : ∀ outlines id, ∃ outline,
      encloseNext nodes clusters canvasWidth outlines id = .ok outline) :
    ∃ outlines, ofClusters clusters nodes canvasWidth = .ok outlines ∧
      (outlines.map (·.1)).Perm (clusters.map (·.id)) ∧
      (Acyclic clusters → InOrder nodes clusters canvasWidth outlines) := by
  have step (outlines : List (String × Rect α)) (id : String) (_ : Listing clusters outlines)
      (inOrder : Acyclic clusters → InOrder nodes clusters canvasWidth outlines)
      (due : Due clusters outlines id) :
      ∃ outline, encloseNext nodes clusters canvasWidth outlines id = .ok outline ∧
        (Acyclic clusters → InOrder nodes clusters canvasWidth (outlines ++ [(id, outline)])) := by
    obtain ⟨outline, enclosed⟩ := total outlines id
    exact ⟨outline, enclosed, fun acyclic =>
      (inOrder acyclic).append (due.childIds_subset ids acyclic) enclosed⟩
  obtain ⟨outlines, done, listing, inOrder, all⟩ :=
    exists_ofClusters_of_step ids step fun _ _ entry_mem => absurd entry_mem List.not_mem_nil
  exact ⟨outlines, done, listing.perm ids all, inOrder⟩

end Order

end Outline
end ClusterDiagram
