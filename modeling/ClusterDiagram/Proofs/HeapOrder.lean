import ClusterDiagram.Routing.Frontier
import Mathlib

/-!
# The first waiting cell

A heap that is built by insertions gives its cells back in order: what comes first has no cell of
the heap before it, and nothing is lost or made up when heaps are joined.
-/

namespace ClusterDiagram
namespace Routing

namespace Waiting

theorem before_iff {a b : Waiting} :
    a.before b = true ↔ a.estimate < b.estimate ∨ a.estimate = b.estimate ∧
      (a.cost < b.cost ∨ a.cost = b.cost ∧ a.order < b.order) := by
  simp only [before, Bool.or_eq_true, Bool.and_eq_true, decide_eq_true_eq, beq_iff_eq]

theorem not_before_of_before {a b : Waiting} (first : a.before b = true) :
    ¬ b.before a = true := by
  rw [before_iff] at first ⊢
  omega

/-- A cell that does not go before another one does not go before those that the other one does not
come after. -/
theorem not_before_trans {a b c : Waiting} (first : ¬ a.before b = true)
    (second : ¬ b.before c = true) : ¬ a.before c = true := by
  rw [before_iff] at first second ⊢
  omega

theorem estimate_le {a b : Waiting} (first : ¬ b.before a = true) : a.estimate ≤ b.estimate := by
  rw [before_iff] at first
  omega

end Waiting

namespace Frontier

open scoped List

/-- The cells of a heap. -/
def toList : Frontier → List Waiting
  | .empty => []
  | .node _ first left right => first :: (left.toList ++ right.toList)

theorem length_toList (frontier : Frontier) : frontier.toList.length = frontier.size := by
  induction frontier with
  | empty => rfl
  | node _ first left right left_length right_length =>
      rw [toList, size, List.length_cons, List.length_append, left_length, right_length]

theorem toList_make_perm (first : Waiting) (a b : Frontier) :
    (make first a b).toList ~ first :: (a.toList ++ b.toList) := by
  rw [make]
  split
  · exact List.Perm.refl _
  · exact List.Perm.cons first List.perm_append_comm

/-- Joined heaps hold the cells of both. -/
theorem toList_merge_perm (a b : Frontier) : (merge a b).toList ~ a.toList ++ b.toList := by
  fun_induction merge a b with
  | case1 b => rfl
  | case2 a filled => rw [toList, List.append_nil]
  | case3 rankA firstA leftA rightA rankB firstB leftB rightB first induction =>
      let a : Frontier := .node rankA firstA leftA rightA
      calc (make firstB leftB (merge a rightB)).toList
        _ ~ firstB :: (leftB.toList ++ (merge a rightB).toList) := toList_make_perm _ _ _
        _ ~ firstB :: (leftB.toList ++ (a.toList ++ rightB.toList)) :=
          (induction.append_left _).cons _
        _ ~ firstB :: (a.toList ++ (leftB.toList ++ rightB.toList)) := by
          apply List.Perm.cons
          simpa only [List.append_assoc] using List.perm_append_comm.append_right rightB.toList
        _ ~ a.toList ++ firstB :: (leftB.toList ++ rightB.toList) := List.perm_middle.symm
  | case4 rankA firstA leftA rightA rankB firstB leftB rightB later induction =>
      let b : Frontier := .node rankB firstB leftB rightB
      calc (make firstA leftA (merge rightA b)).toList
        _ ~ firstA :: (leftA.toList ++ (merge rightA b).toList) := toList_make_perm _ _ _
        _ ~ firstA :: (leftA.toList ++ (rightA.toList ++ b.toList)) :=
          (induction.append_left _).cons _
        _ = firstA :: (leftA.toList ++ rightA.toList) ++ b.toList := by
          rw [List.cons_append, List.append_assoc]

theorem toList_insert_perm (entry : Waiting) (frontier : Frontier) :
    (frontier.insert entry).toList ~ entry :: frontier.toList :=
  toList_merge_perm _ _

/-- Whether every cell of a heap has no cell below it that goes before it. -/
inductive Ordered : Frontier → Prop where
  /-- There is no cell. -/
  | empty : Ordered .empty
  /-- No cell of the two heaps goes before the first one. -/
  | node {rank : Nat} {first : Waiting} {left right : Frontier}
      (least : ∀ entry ∈ left.toList ++ right.toList, ¬ entry.before first = true)
      (ordered_left : Ordered left) (ordered_right : Ordered right) :
      Ordered (.node rank first left right)

theorem Ordered.make {first : Waiting} {a b : Frontier}
    (least : ∀ entry ∈ a.toList ++ b.toList, ¬ entry.before first = true)
    (ordered_a : a.Ordered) (ordered_b : b.Ordered) : (Frontier.make first a b).Ordered := by
  rw [Frontier.make]
  split
  · exact .node least ordered_a ordered_b
  · refine .node ?_ ordered_b ordered_a
    intro entry entry_mem
    exact least entry (List.perm_append_comm.mem_iff.mp entry_mem)

/-- In an ordered heap no cell goes before the first one. -/
theorem Ordered.not_before {rank : Nat} {first : Waiting} {left right : Frontier}
    (ordered : (Frontier.node rank first left right).Ordered) :
    ∀ entry ∈ (Frontier.node rank first left right).toList, ¬ entry.before first = true := by
  cases ordered with
  | node least _ _ =>
      rw [toList, List.forall_mem_cons]
      exact ⟨fun itself => Waiting.not_before_of_before itself itself, least⟩

theorem Ordered.merge {a b : Frontier} (ordered_a : a.Ordered) (ordered_b : b.Ordered) :
    (Frontier.merge a b).Ordered := by
  fun_induction Frontier.merge a b with
  | case1 b => exact ordered_b
  | case2 a filled => exact ordered_a
  | case3 rankA firstA leftA rightA rankB firstB leftB rightB first induction =>
      have later := Waiting.not_before_of_before first
      have least_a := ordered_a.not_before
      cases ordered_b with
      | node least_b ordered_left ordered_right =>
          refine .make ?_ ordered_left (induction ordered_a ordered_right)
          intro entry entry_mem
          rw [List.mem_append, (toList_merge_perm _ _).mem_iff, List.mem_append] at entry_mem
          rcases entry_mem with on_left | in_a | on_right
          · exact least_b entry (List.mem_append_left _ on_left)
          · exact Waiting.not_before_trans (least_a entry in_a) later
          · exact least_b entry (List.mem_append_right _ on_right)
  | case4 rankA firstA leftA rightA rankB firstB leftB rightB later induction =>
      have least_b := ordered_b.not_before
      cases ordered_a with
      | node least_a ordered_left ordered_right =>
          refine .make ?_ ordered_left (induction ordered_right ordered_b)
          intro entry entry_mem
          rw [List.mem_append, (toList_merge_perm _ _).mem_iff, List.mem_append] at entry_mem
          rcases entry_mem with on_left | on_right | in_b
          · exact least_a entry (List.mem_append_left _ on_left)
          · exact least_a entry (List.mem_append_right _ on_right)
          · exact Waiting.not_before_trans (least_b entry in_b) later

theorem Ordered.insert {frontier : Frontier} (ordered : frontier.Ordered) (entry : Waiting) :
    (frontier.insert entry).Ordered :=
  Ordered.merge (.node (by simp [toList]) .empty .empty) ordered

/-- What comes first has no cell before it, and the others are left in order. -/
theorem Ordered.of_pop? {frontier rest : Frontier} {first : Waiting} (ordered : frontier.Ordered)
    (popped : frontier.pop? = some (first, rest)) :
    frontier.toList ~ first :: rest.toList ∧ rest.Ordered ∧
      ∀ entry ∈ frontier.toList, ¬ entry.before first = true := by
  cases frontier with
  | empty => cases popped
  | node rank first left right =>
      cases popped
      refine ⟨((toList_merge_perm left right).symm).cons _, ?_, ordered.not_before⟩
      cases ordered with
      | node _ ordered_left ordered_right => exact ordered_left.merge ordered_right

theorem toList_eq_nil_of_pop? {frontier : Frontier} (popped : frontier.pop? = none) :
    frontier.toList = [] := by
  cases frontier with
  | empty => rfl
  | node => cases popped

end Frontier

end Routing
end ClusterDiagram
