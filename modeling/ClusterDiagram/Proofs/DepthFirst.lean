import ClusterDiagram.Prompt.Writer
import ClusterDiagram.Proofs.ParentChains
import Mathlib.Data.List.Nodup

/-!
# Depth-first order

A forest is listed depth first when every vertex is followed by the listing of its children. The
writer's walk over a stack gives this listing. Links that end make a forest, in which every vertex
has one level.
-/

namespace ClusterDiagram
namespace Prompt

variable {β : Type} {id : β → String} {children : String → List β}

/-- The listing of the forest below some vertices of a depth. -/
inductive DepthFirst (id : β → String) (children : String → List β) :
    Nat → List β → List (β × Nat) → Prop
  /-- Nothing is below no vertices. -/
  | nil (depth : Nat) : DepthFirst id children depth [] []
  /-- A vertex comes first, then what is below it, then what is beside it. -/
  | cons {depth : Nat} {vertex : β} {vertices : List β} {below beside : List (β × Nat)}
      (descend : DepthFirst id children (depth + 1) (children (id vertex)) below)
      (proceed : DepthFirst id children depth vertices beside) :
      DepthFirst id children depth (vertex :: vertices) ((vertex, depth) :: (below ++ beside))

namespace DepthFirst

variable {depth : Nat} {vertices : List β} {listing : List (β × Nat)}

/-- Every vertex listed is one of the first ones or a child of one that is listed. -/
theorem length_eq (depthFirst : DepthFirst id children depth vertices listing) :
    listing.length =
      vertices.length + (listing.flatMap fun entry => children (id entry.1)).length := by
  induction depthFirst with
  | nil => rfl
  | cons descend proceed below_eq beside_eq =>
      simp only [List.length_cons, List.length_append, List.flatMap_cons, List.flatMap_append]
      omega

theorem mem_of_mem (depthFirst : DepthFirst id children depth vertices listing) {vertex : β}
    (vertex_mem : vertex ∈ vertices) : vertex ∈ listing.map (·.1) := by
  induction depthFirst with
  | nil => cases vertex_mem
  | cons descend proceed below_mem beside_mem =>
      simp only [List.map_cons, List.map_append, List.mem_cons, List.mem_append]
      rcases List.mem_cons.mp vertex_mem with rfl | rest_mem
      · exact Or.inl rfl
      · exact Or.inr (Or.inr (beside_mem rest_mem))

/-- The children of a listed vertex are listed. -/
theorem children_mem (depthFirst : DepthFirst id children depth vertices listing) {vertex child : β}
    (vertex_mem : vertex ∈ listing.map (·.1)) (child_mem : child ∈ children (id vertex)) :
    child ∈ listing.map (·.1) := by
  induction depthFirst with
  | nil => cases vertex_mem
  | cons descend proceed below_mem beside_mem =>
      simp only [List.map_cons, List.map_append, List.mem_cons, List.mem_append] at vertex_mem ⊢
      rcases vertex_mem with rfl | below | beside
      · exact Or.inr (Or.inl (descend.mem_of_mem child_mem))
      · exact Or.inr (Or.inl (below_mem below))
      · exact Or.inr (Or.inr (beside_mem beside))

/-- What is listed satisfies what the first vertices and all children satisfy. -/
theorem forall_mem (depthFirst : DepthFirst id children depth vertices listing) {holds : β → Prop}
    (first : ∀ vertex ∈ vertices, holds vertex)
    (inherited : ∀ id, ∀ child ∈ children id, holds child) :
    ∀ entry ∈ listing, holds entry.1 := by
  induction depthFirst with
  | nil => simp
  | cons descend proceed below_holds beside_holds =>
      rw [List.forall_mem_cons] at first
      intro entry entry_mem
      rcases List.mem_cons.mp entry_mem with rfl | entry_mem
      · exact first.1
      · rcases List.mem_append.mp entry_mem with below | beside
        · exact below_holds (inherited _) entry below
        · exact beside_holds first.2 entry beside

/-- A map that takes children to children takes a listing to a listing. -/
theorem map {γ : Type} {id' : γ → String} {children' : String → List γ} (f : β → γ)
    (depthFirst : DepthFirst id children depth vertices listing)
    (commutes : ∀ entry ∈ listing, children' (id' (f entry.1)) = (children (id entry.1)).map f) :
    DepthFirst id' children' depth (vertices.map f)
      (listing.map fun entry => (f entry.1, entry.2)) := by
  induction depthFirst with
  | nil depth => exact .nil depth
  | cons descend proceed below_map beside_map =>
      rw [List.forall_mem_cons, List.forall_mem_append] at commutes
      obtain ⟨here, below, beside⟩ := commutes
      rw [List.map_cons, List.map_cons, List.map_append]
      apply DepthFirst.cons
      · rw [here]
        exact below_map below
      · exact beside_map beside

/-! ## The walk of the writer -/

/-- The walk lists the forest below the top of the stack, then goes on with the rest. -/
theorem walk_eq (depthFirst : DepthFirst id children depth vertices listing) {seen : List String}
    (distinct : (listing.map fun entry => id entry.1).Nodup)
    (unseen : ∀ entry ∈ listing, id entry.1 ∉ seen) (fuel : Nat) (stack : List (β × Nat)) :
    walk id children (listing.length + fuel)
        (vertices.map (fun vertex => (vertex, depth)) ++ stack) seen =
      listing ++ walk id children fuel stack
        ((listing.map fun entry => id entry.1).reverse ++ seen) := by
  induction depthFirst generalizing seen fuel stack with
  | nil => simp
  | cons descend proceed below_eq beside_eq =>
      rename_i depth vertex vertices below beside
      rw [List.forall_mem_cons] at unseen
      obtain ⟨vertex_unseen, unseen⟩ := unseen
      rw [List.map_cons, List.map_append, List.nodup_cons, List.nodup_append] at distinct
      obtain ⟨vertex_apart, below_distinct, beside_distinct, apart⟩ := distinct
      have fuel_eq : ((vertex, depth) :: (below ++ beside)).length + fuel =
          below.length + (beside.length + fuel) + 1 := by
        simp only [List.length_cons, List.length_append]
        omega
      have below_unseen : ∀ entry ∈ below, id entry.1 ∉ id vertex :: seen := by
        intro entry entry_mem again
        rcases List.mem_cons.mp again with same | again
        · apply vertex_apart
          exact same ▸ List.mem_append_left _ (List.mem_map_of_mem entry_mem)
        · exact unseen entry (List.mem_append_left _ entry_mem) again
      have beside_unseen : ∀ entry ∈ beside, id entry.1 ∉
          (below.map fun entry => id entry.1).reverse ++ id vertex :: seen := by
        intro entry entry_mem again
        have id_mem := List.mem_map_of_mem (f := fun entry => id entry.1) entry_mem
        rcases List.mem_append.mp again with again | again
        · exact apart _ (List.mem_reverse.mp again) _ id_mem rfl
        · rcases List.mem_cons.mp again with same | again
          · exact vertex_apart (same ▸ List.mem_append_right _ id_mem)
          · exact unseen entry (List.mem_append_right _ entry_mem) again
      rw [fuel_eq, List.map_cons, List.cons_append, walk,
        if_neg (by simpa using vertex_unseen), below_eq below_distinct below_unseen,
        beside_eq beside_distinct beside_unseen]
      simp

end DepthFirst

/-- A walk over vertices that were all visited lists nothing. -/
theorem walk_of_seen {stack : List (β × Nat)} {seen : List String}
    (visited : ∀ entry ∈ stack, id entry.1 ∈ seen) (fuel : Nat) :
    walk id children fuel stack seen = [] := by
  induction fuel generalizing stack with
  | zero => rw [walk]
  | succ fuel induction =>
      cases stack with
      | nil =>
          rw [walk]
          simp
      | cons entry stack =>
          obtain ⟨vertex, depth⟩ := entry
          rw [List.forall_mem_cons] at visited
          rw [walk, if_pos (by simpa using visited.1)]
          exact induction visited.2

/-- When the forest below the roots holds every vertex once, the order is its listing. -/
theorem forestOrder_eq {roots vertices : List β} {listing : List (β × Nat)}
    (depthFirst : DepthFirst id children 0 roots listing)
    (whole : (listing.map (·.1)).Perm vertices) (distinct : (vertices.map id).Nodup) :
    forestOrder id children vertices roots = listing := by
  have ids : (listing.map fun entry => id entry.1).Perm (vertices.map id) := by
    have := whole.map id
    rwa [List.map_map] at this
  have counted : (listing.flatMap fun entry => children (id entry.1)).length =
      (vertices.flatMap fun vertex => children (id vertex)).length := by
    have := whole.flatMap_right fun vertex => children (id vertex)
    rw [List.flatMap_map] at this
    exact this.length_eq
  have length_eq := depthFirst.length_eq
  obtain ⟨fuel, fuel_eq⟩ : ∃ fuel, roots.length + vertices.length +
      (vertices.flatMap fun vertex => children (id vertex)).length + 1 =
      listing.length + fuel := ⟨vertices.length + 1, by omega⟩
  have visited : ∀ entry ∈ vertices.map (fun vertex => (vertex, 0)),
      id entry.1 ∈ (listing.map fun entry => id entry.1).reverse ++ [] := by
    intro entry entry_mem
    obtain ⟨vertex, vertex_mem, rfl⟩ := List.mem_map.mp entry_mem
    rw [List.append_nil, List.mem_reverse, ids.mem_iff]
    exact List.mem_map_of_mem vertex_mem
  rw [forestOrder, fuel_eq, List.map_append,
    depthFirst.walk_eq (ids.nodup_iff.mpr distinct) (by simp), walk_of_seen visited,
    List.append_nil]

end Prompt
end ClusterDiagram
