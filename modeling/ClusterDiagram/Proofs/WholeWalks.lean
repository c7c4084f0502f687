import ClusterDiagram.Proofs.DepthFirst
import Mathlib.Data.List.Flatten

/-!
# The walk of the writer visits everything

The vertices may have any children, be it in cycles: the walk lists no id twice, every vertex that it
lists was put on the stack with its depth, and the fuel lasts until the stack is empty. So the
writer's order of vertices with distinct ids holds each of them once.
-/

namespace ClusterDiagram
namespace Prompt

variable {β : Type} {id : β → String} {children : String → List β}

/-- The walk lists every id once, and none that was seen before. -/
theorem nodup_walk (fuel : ℕ) (stack : List (β × ℕ)) (seen : List String) :
    ((walk id children fuel stack seen).map fun entry => id entry.1).Nodup ∧
      ∀ entry ∈ walk id children fuel stack seen, id entry.1 ∉ seen := by
  fun_induction walk id children fuel stack seen with
  | case1 => simp
  | case2 => simp
  | case3 fuel vertex depth stack seen visited induction => exact induction
  | case4 fuel vertex depth stack seen unvisited induction =>
      obtain ⟨distinct, unseen⟩ := induction
      refine ⟨?_, ?_⟩
      · rw [List.map_cons, List.nodup_cons]
        refine ⟨?_, distinct⟩
        intro again
        obtain ⟨entry, entry_mem, same⟩ := List.mem_map.mp again
        exact unseen entry entry_mem (same ▸ List.mem_cons_self)
      · rw [List.forall_mem_cons]
        exact ⟨by simpa using unvisited, fun entry entry_mem old =>
          unseen entry entry_mem (List.mem_cons_of_mem _ old)⟩

/-- What is listed was on the stack at first, or is a child of a vertex that is listed before, one
level deeper. -/
theorem origin_walk {fuel : ℕ} {stack : List (β × ℕ)} {seen : List String}
    {before after : List (β × ℕ)} {entry : β × ℕ}
    (listing : walk id children fuel stack seen = before ++ entry :: after) :
    entry ∈ stack ∨ ∃ above ∈ before, entry.1 ∈ children (id above.1) ∧ entry.2 = above.2 + 1 := by
  fun_induction walk id children fuel stack seen generalizing before with
  | case1 => simp at listing
  | case2 => simp at listing
  | case3 fuel vertex depth stack seen visited induction =>
      exact (induction listing).imp_left (List.mem_cons_of_mem _)
  | case4 fuel vertex depth stack seen unvisited induction =>
      cases before with
      | nil =>
          obtain ⟨rfl, -⟩ := List.cons.inj listing
          exact Or.inl List.mem_cons_self
      | cons first before =>
          obtain ⟨rfl, rest⟩ := List.cons.inj listing
          rcases induction rest with pushed | ⟨above, above_mem, child⟩
          · rcases List.mem_append.mp pushed with fresh | old
            · obtain ⟨child, child_mem, rfl⟩ := List.mem_map.mp fresh
              exact Or.inr ⟨(vertex, depth), List.mem_cons_self, child_mem, rfl⟩
            · exact Or.inl (List.mem_cons_of_mem _ old)
          · exact Or.inr ⟨above, List.mem_cons_of_mem _ above_mem, child⟩

/-- A walk from some vertices whose children are among them stays among them. -/
theorem mem_of_mem_walk {vertices : List β} (within : ∀ id, children id ⊆ vertices) {fuel : ℕ}
    {stack : List (β × ℕ)} (listed : ∀ entry ∈ stack, entry.1 ∈ vertices) {seen : List String}
    {entry : β × ℕ} (entry_mem : entry ∈ walk id children fuel stack seen) :
    entry.1 ∈ vertices := by
  obtain ⟨before, after, split⟩ := List.append_of_mem entry_mem
  rcases origin_walk split with first | ⟨above, -, child, -⟩
  · exact listed entry first
  · exact within _ child

/-! ## Enough fuel -/

section Fuel

variable (id children) in
/-- The children that the vertices not yet seen may still put on the stack. -/
def pending (vertices : List β) (seen : List String) : List β :=
  (vertices.filter fun vertex => !seen.contains (id vertex)).flatMap fun vertex =>
    children (id vertex)

/-- A vertex that is visited puts its children on the stack once and for all. -/
theorem length_pending_le {vertices : List β} {vertex : β} {seen : List String}
    (vertex_mem : vertex ∈ vertices) (unseen : id vertex ∉ seen) :
    (children (id vertex)).length + (pending id children vertices (id vertex :: seen)).length ≤
      (pending id children vertices seen).length := by
  have fewer (part : List β) :
      (pending id children part (id vertex :: seen)).length ≤
        (pending id children part seen).length := by
    refine ((List.monotone_filter_right part ?_).flatMap _).length_le
    intro other
    simp +contextual
  obtain ⟨front, back, rfl⟩ := List.append_of_mem vertex_mem
  have before : pending id children (front ++ vertex :: back) seen =
      pending id children front seen ++
        (children (id vertex) ++ pending id children back seen) := by
    simp [pending, unseen]
  have after : pending id children (front ++ vertex :: back) (id vertex :: seen) =
      pending id children front (id vertex :: seen) ++
        pending id children back (id vertex :: seen) := by
    simp [pending]
  have front_fewer := fewer front
  have back_fewer := fewer back
  rw [before, after]
  simp only [List.length_append]
  omega

/-- With fuel for the stack and for all that may be put on it, everything on the stack is visited. -/
theorem visited_of_mem_stack {vertices : List β} (within : ∀ id, children id ⊆ vertices) {fuel : ℕ}
    {stack : List (β × ℕ)} (listed : ∀ entry ∈ stack, entry.1 ∈ vertices) {seen : List String}
    (room : stack.length + (pending id children vertices seen).length ≤ fuel) :
    ∀ entry ∈ stack, id entry.1 ∈ seen ∨
      id entry.1 ∈ (walk id children fuel stack seen).map fun entry => id entry.1 := by
  fun_induction walk id children fuel stack seen with
  | case1 stack =>
      obtain rfl : stack = [] := List.length_eq_zero_iff.mp (by omega)
      simp
  | case2 => simp
  | case3 fuel vertex depth stack seen visited induction =>
      rw [List.forall_mem_cons] at listed ⊢
      rw [List.length_cons] at room
      exact ⟨Or.inl (by simpa using visited), induction listed.2 (by omega)⟩
  | case4 fuel vertex depth stack seen unvisited induction =>
      rw [List.forall_mem_cons] at listed ⊢
      have vertex_mem : vertex ∈ vertices := listed.1
      have pushed : (children (id vertex)).length +
          (pending id children vertices (id vertex :: seen)).length ≤
            (pending id children vertices seen).length :=
        length_pending_le vertex_mem (by simpa using unvisited)
      rw [List.length_cons] at room
      refine ⟨Or.inr (by simp), fun entry entry_mem => ?_⟩
      have later := induction ?_ ?_ entry (List.mem_append_right _ entry_mem)
      · rw [List.map_cons, List.mem_cons]
        rcases later with seen_now | listed_later
        · rcases List.mem_cons.mp seen_now with here | before
          · exact Or.inr (Or.inl here)
          · exact Or.inl before
        · exact Or.inr (Or.inr listed_later)
      · intro other other_mem
        rcases List.mem_append.mp other_mem with child | old
        · obtain ⟨child, child_mem, rfl⟩ := List.mem_map.mp child
          exact within _ child_mem
        · exact listed.2 other old
      · rw [List.length_append, List.length_map]
        omega

end Fuel

/-! ## The order of the writer -/

section Order

variable {vertices roots : List β} (roots_listed : roots ⊆ vertices)
  (within : ∀ id, children id ⊆ vertices)

include roots_listed

/-- The first stack of the writer. -/
theorem mem_of_mem_starts :
    ∀ entry ∈ (roots ++ vertices).map fun vertex => (vertex, 0), entry.1 ∈ vertices := by
  intro entry entry_mem
  obtain ⟨vertex, vertex_mem, rfl⟩ := List.mem_map.mp entry_mem
  rcases List.mem_append.mp vertex_mem with root | any
  · exact roots_listed root
  · exact any

include within

theorem mem_of_mem_forestOrder {entry : β × ℕ}
    (entry_mem : entry ∈ forestOrder id children vertices roots) : entry.1 ∈ vertices :=
  mem_of_mem_walk within (mem_of_mem_starts roots_listed) entry_mem

/-- Whatever the children are, the order holds every vertex once. -/
theorem forestOrder_perm (distinct : (vertices.map id).Nodup) :
    ((forestOrder id children vertices roots).map (·.1)).Perm vertices := by
  have ids : ((forestOrder id children vertices roots).map fun entry => id entry.1).Nodup :=
    (nodup_walk _ _ _).1
  have order_distinct : ((forestOrder id children vertices roots).map (·.1)).Nodup := by
    apply List.Nodup.of_map id
    rwa [List.map_map]
  apply (List.perm_ext_iff_of_nodup order_distinct (List.Nodup.of_map id distinct)).mpr
  intro vertex
  constructor
  · intro vertex_mem
    obtain ⟨entry, entry_mem, rfl⟩ := List.mem_map.mp vertex_mem
    exact mem_of_mem_forestOrder roots_listed within entry_mem
  · intro vertex_mem
    have room : ((roots ++ vertices).map fun vertex => (vertex, 0)).length +
        (pending id children vertices []).length ≤
          roots.length + vertices.length +
            (vertices.flatMap fun vertex => children (id vertex)).length + 1 := by
      simp [pending]
    have visited := visited_of_mem_stack within (mem_of_mem_starts roots_listed) room (vertex, 0)
      (List.mem_map_of_mem (List.mem_append_right _ vertex_mem))
    obtain ⟨entry, entry_mem, same⟩ := List.mem_map.mp (visited.resolve_left (by simp))
    have entry_listed : entry.1 ∈ vertices := mem_of_mem_forestOrder roots_listed within entry_mem
    have entry_eq := List.inj_on_of_nodup_map distinct entry_listed vertex_mem same
    exact entry_eq ▸ List.mem_map_of_mem entry_mem

end Order

/-! ## Images of vertices -/

section Image

variable {γ : Type} {id' : γ → String} {children' : String → List γ} {f : β → γ}
  {vertices : List β} (ids : ∀ vertex ∈ vertices, id' (f vertex) = id vertex)
  (commutes : ∀ vertex ∈ vertices, children' (id vertex) = (children (id vertex)).map f)
  (within : ∀ id, children id ⊆ vertices)

include ids commutes within

/-- A map that keeps ids and takes children to children takes a walk to a walk. -/
theorem walk_map {fuel : ℕ} {stack : List (β × ℕ)} {seen : List String}
    (listed : ∀ entry ∈ stack, entry.1 ∈ vertices) :
    walk id' children' fuel (stack.map fun entry => (f entry.1, entry.2)) seen =
      (walk id children fuel stack seen).map fun entry => (f entry.1, entry.2) := by
  fun_induction walk id children fuel stack seen with
  | case1 => rfl
  | case2 => simp [walk]
  | case3 fuel vertex depth stack seen visited induction =>
      rw [List.forall_mem_cons] at listed
      rw [List.map_cons, walk, ids vertex listed.1, if_pos visited]
      exact induction listed.2
  | case4 fuel vertex depth stack seen unvisited induction =>
      rw [List.forall_mem_cons] at listed
      have vertex_mem : vertex ∈ vertices := listed.1
      have pushed : ∀ entry ∈ (children (id vertex)).map (fun child => (child, depth + 1)) ++ stack,
          entry.1 ∈ vertices := by
        intro entry entry_mem
        rcases List.mem_append.mp entry_mem with fresh | old
        · obtain ⟨child, child_mem, rfl⟩ := List.mem_map.mp fresh
          exact within _ child_mem
        · exact listed.2 entry old
      rw [List.map_cons, List.map_cons, walk, ids vertex vertex_mem, if_neg unvisited,
        ← induction pushed, commutes vertex vertex_mem]
      simp [Function.comp_def]

theorem forestOrder_map {roots : List β} (roots_listed : roots ⊆ vertices) :
    forestOrder id' children' (vertices.map f) (roots.map f) =
      (forestOrder id children vertices roots).map fun entry => (f entry.1, entry.2) := by
  have counts : ((vertices.map f).flatMap fun vertex => children' (id' vertex)).length =
      (vertices.flatMap fun vertex => children (id vertex)).length := by
    rw [List.flatMap_map, List.length_flatMap, List.length_flatMap]
    congr 1
    apply List.map_congr_left
    intro vertex vertex_mem
    rw [ids vertex vertex_mem, commutes vertex vertex_mem, List.length_map]
  have starts : ((roots.map f ++ vertices.map f).map fun vertex => (vertex, 0)) =
      ((roots ++ vertices).map fun vertex => (vertex, 0)).map fun entry => (f entry.1, entry.2) := by
    simp [Function.comp_def]
  rw [forestOrder, counts, starts, List.length_map, List.length_map,
    walk_map ids commutes within (mem_of_mem_starts roots_listed), forestOrder]

end Image

end Prompt
end ClusterDiagram
