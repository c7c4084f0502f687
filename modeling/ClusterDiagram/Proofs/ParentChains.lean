import ClusterDiagram.ClusterTree
import Mathlib.Data.Finset.Card
import Mathlib.Data.Finset.Range
import Mathlib.Data.Nat.Find
import Mathlib.Logic.Relation

/-!
# Chains of parents

Parent links are a partial function on ids. With finitely many links, the parents of every id come
to an end unless some id leads back to itself, and a way back takes no more links than there are.
-/

namespace ClusterDiagram
namespace ClusterTree

/-- The id that a number of links upwards lead to. -/
def ascend (up : String → Option String) : Nat → String → Option String
  | 0, id => some id
  | steps + 1, id => (up id).bind (ascend up steps)

/-- Whether the parents of an id come to an end. -/
def Ends (up : String → Option String) (id : String) : Prop :=
  ∃ steps, ascend up steps id = none

/-- Whether the parents of an id lead back to it. -/
def Returns (up : String → Option String) (id : String) : Prop :=
  ∃ steps, ascend up (steps + 1) id = some id

variable {up : String → Option String}

theorem ascend_add (first second : Nat) (id : String) :
    ascend up (first + second) id = (ascend up first id).bind (ascend up second) := by
  induction first generalizing id with
  | zero => simp [ascend]
  | succ first induction =>
      rw [Nat.add_right_comm, ascend, ascend, Option.bind_assoc]
      congr 1
      funext next
      exact induction next

/-- The last link of a chain of links. -/
theorem ascend_succ (steps : Nat) (id : String) :
    ascend up (steps + 1) id = (ascend up steps id).bind up := by
  rw [ascend_add]
  congr 1
  funext next
  simp [ascend]

/-- A chain of links leads where the relation that holds along each of them leads. -/
theorem transGen_of_ascend {r : String → String → Prop}
    (links : ∀ id next, up id = some next → r id next) {steps : Nat} {start goal : String}
    (reached : ascend up (steps + 1) start = some goal) : Relation.TransGen r start goal := by
  induction steps generalizing goal with
  | zero =>
      rw [ascend_succ, ascend, Option.bind_some] at reached
      exact .single (links start goal reached)
  | succ steps induction =>
      rw [ascend_succ, Option.bind_eq_some_iff] at reached
      obtain ⟨last, reached, link⟩ := reached
      exact .tail (induction reached) (links last goal link)

/-- Links that agree on ids which they do not lead out of give the same chains. -/
theorem ascend_congr {other : String → Option String} (inside : String → Prop)
    (agree : ∀ id, inside id → up id = other id)
    (closed : ∀ id next, inside id → up id = some next → inside next) {steps : Nat} {id : String}
    (id_inside : inside id) : ascend up steps id = ascend other steps id := by
  induction steps generalizing id with
  | zero => rfl
  | succ steps induction =>
      rw [ascend, ascend, ← agree id id_inside]
      cases link : up id with
      | none => rfl
      | some next => exact induction (closed id next id_inside link)

/-- Cutting links shortens chains and adds none. -/
theorem ascend_of_cut {cut : String → Option String}
    (fewer : ∀ id, cut id = none ∨ cut id = up id) {steps : Nat} {start goal : String}
    (reached : ascend cut steps start = some goal) : ascend up steps start = some goal := by
  induction steps generalizing start with
  | zero => exact reached
  | succ steps induction =>
      rw [ascend, Option.bind_eq_some_iff] at reached ⊢
      obtain ⟨next, link, reached⟩ := reached
      rcases fewer start with none | same
      · rw [none] at link
        cases link
      · exact ⟨next, same ▸ link, induction reached⟩

theorem Returns.of_cut {cut : String → Option String}
    (fewer : ∀ id, cut id = none ∨ cut id = up id) {id : String} (returns : Returns cut id) :
    Returns up id := by
  obtain ⟨steps, reached⟩ := returns
  exact ⟨steps, ascend_of_cut fewer reached⟩

/-- What an id on a cycle leads to lies on the cycle as well, and leads back to the id. -/
theorem Returns.of_ascend {id other : String} {steps : Nat} (returns : Returns up id)
    (reached : ascend up steps id = some other) :
    Returns up other ∧ ∃ home, ascend up home other = some id := by
  induction steps generalizing id with
  | zero =>
      cases reached
      exact ⟨returns, 0, rfl⟩
  | succ steps induction =>
      obtain ⟨next, link, onward⟩ := Option.bind_eq_some_iff.mp reached
      obtain ⟨period, back⟩ := returns
      rw [ascend, link, Option.bind_some] at back
      have next_returns : Returns up next :=
        ⟨period, by rw [ascend_succ, back, Option.bind_some, link]⟩
      obtain ⟨other_returns, home, homeward⟩ := induction next_returns onward
      exact ⟨other_returns, home + period, by rw [ascend_add, homeward, Option.bind_some, back]⟩

theorem not_returns_of_none {id : String} (root : up id = none) : ¬ Returns up id := by
  rintro ⟨steps, reached⟩
  simp [ascend, root] at reached

/-- An id whose parents end does not lead back to itself. -/
theorem Ends.not_returns {id : String} (ends : Ends up id) : ¬ Returns up id := by
  rintro ⟨period, reached⟩
  obtain ⟨steps, ended⟩ := ends
  induction steps using Nat.strong_induction_on with
  | _ steps induction =>
      rcases Nat.lt_or_ge steps (period + 1) with short | long
      · obtain ⟨rest, whole⟩ := Nat.exists_eq_add_of_le short.le
        rw [whole, ascend_add, ended] at reached
        cases reached
      · obtain ⟨rest, rfl⟩ := Nat.exists_eq_add_of_le long
        rw [ascend_add, reached, Option.bind_some] at ended
        exact induction rest (by omega) ended

section Finite

variable {keys : List String}

/-- Two equally long starts of one chain among the keys meet at different points of it. -/
private theorem exists_repetition (linked : ∀ id, (up id).isSome → id ∈ keys) {start : String}
    (walk : Nat → String) (walked : ∀ steps, ascend up steps start = some (walk steps)) :
    ∃ first second, first < second ∧ walk first = walk second := by
  have walk_mem (steps : Nat) : walk steps ∈ keys.toFinset := by
    have step := walked (steps + 1)
    rw [ascend_succ, walked, Option.bind_some] at step
    exact List.mem_toFinset.mpr (linked _ (by simp [step]))
  have room : keys.toFinset.card < (Finset.range (keys.length + 1)).card := by
    have := keys.toFinset_card_le
    rw [Finset.card_range]
    omega
  obtain ⟨first, -, second, -, apart, meet⟩ :=
    Finset.exists_ne_map_eq_of_card_lt_of_maps_to room (f := walk)
      (fun steps _ => walk_mem steps)
  rcases Nat.lt_or_gt_of_ne apart with before | after
  · exact ⟨first, second, before, meet⟩
  · exact ⟨second, first, after, meet.symm⟩

/-- When no key leads back to itself, the parents of every id end. -/
theorem ends_of_not_returns (linked : ∀ id, (up id).isSome → id ∈ keys)
    (acyclic : ∀ id ∈ keys, ¬ Returns up id) (start : String) : Ends up start := by
  by_contra endless
  have reached (steps : Nat) : ∃ id, ascend up steps start = some id := by
    rw [← Option.isSome_iff_exists, ← Option.ne_none_iff_isSome]
    exact fun ended => endless ⟨steps, ended⟩
  choose walk walked using reached
  obtain ⟨first, second, before, meet⟩ := exists_repetition linked walk walked
  obtain ⟨gap, rfl⟩ := Nat.exists_eq_add_of_lt before
  have back : ascend up (gap + 1) (walk first) = some (walk first) := by
    have whole := walked (first + gap + 1)
    rw [Nat.add_assoc, ascend_add, walked, Option.bind_some] at whole
    rw [whole, ← Nat.add_assoc, ← meet]
  have first_mem : walk first ∈ keys := by
    apply linked
    rw [Option.isSome_iff_ne_none]
    intro root
    simp [ascend, root] at back
  exact acyclic _ first_mem ⟨gap, back⟩

/-- The shortest way back from an id: no earlier return. -/
theorem Returns.exists_period {id : String} (returns : Returns up id) :
    ∃ period, ascend up (period + 1) id = some id ∧
      ∀ steps, steps < period → ascend up (steps + 1) id ≠ some id := by
  classical
  exact ⟨Nat.find returns, Nat.find_spec returns, fun _ early => Nat.find_min returns early⟩

/-- On the shortest way back no id is passed twice. -/
theorem ascend_ne_of_period {id : String} {period : Nat}
    (back : ascend up (period + 1) id = some id)
    (shortest : ∀ steps, steps < period → ascend up (steps + 1) id ≠ some id)
    {first second : Nat} (before : first < second) (within : second ≤ period) :
    ascend up first id ≠ ascend up second id := by
  intro meet
  obtain ⟨rest, rfl⟩ := Nat.exists_eq_add_of_le within
  -- From the meeting point the remaining links lead home, so a shorter way back leaves them out.
  have shortcut : ascend up (first + (rest + 1)) id = some id := by
    rw [ascend_add, meet, ← ascend_add, ← Nat.add_assoc]
    exact back
  exact shortest (first + rest) (by omega) shortcut

/-- The shortest way back takes no more links than there are keys. -/
theorem period_lt_length (linked : ∀ id, (up id).isSome → id ∈ keys) {id : String} {period : Nat}
    (back : ascend up (period + 1) id = some id)
    (shortest : ∀ steps, steps < period → ascend up (steps + 1) id ≠ some id) :
    period < keys.length := by
  have passed (steps : Nat) (within : steps ≤ period) :
      ∃ next ∈ keys, ascend up steps id = some next := by
    obtain ⟨rest, rfl⟩ := Nat.exists_eq_add_of_le within
    rw [Nat.add_assoc, ascend_add, Option.bind_eq_some_iff] at back
    obtain ⟨next, reached, onward⟩ := back
    refine ⟨next, linked next ?_, reached⟩
    rw [Option.isSome_iff_ne_none]
    intro root
    simp [ascend, root] at onward
  choose! walk walk_mem walked using passed
  have injective : Set.InjOn walk (Finset.range (period + 1)) := by
    intro first first_mem second second_mem meet
    have first_le : first ≤ period := by simpa [Nat.lt_succ_iff] using first_mem
    have second_le : second ≤ period := by simpa [Nat.lt_succ_iff] using second_mem
    have same : ascend up first id = ascend up second id := by
      rw [walked first first_le, walked second second_le, meet]
    rcases Nat.lt_trichotomy first second with before | equal | after
    · exact absurd same (ascend_ne_of_period back shortest before second_le)
    · exact equal
    · exact absurd same.symm (ascend_ne_of_period back shortest after first_le)
  have bound : (Finset.range (period + 1)).card ≤ keys.toFinset.card := by
    apply Finset.card_le_card_of_injOn walk _ injective
    intro steps steps_mem
    have steps_le : steps ≤ period := by simpa [Nat.lt_succ_iff] using steps_mem
    exact List.mem_toFinset.mpr (walk_mem steps steps_le)
  have := keys.toFinset_card_le
  rw [Finset.card_range] at bound
  omega

end Finite

end ClusterTree
end ClusterDiagram
