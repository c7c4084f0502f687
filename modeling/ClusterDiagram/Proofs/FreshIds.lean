import ClusterDiagram.FreshId
import Mathlib.Data.Finset.Card
import Mathlib.Data.Finset.Range

/-!
# Fresh ids are fresh

Different suffixes give different ids, so that among one more suffixes than there are ids taken, one
is free.
-/

namespace ClusterDiagram
namespace FreshId

theorem suffixed_injective (base : String) : Function.Injective (suffixed base) := by
  intro first second same
  have chars := congrArg String.toList same
  simp only [suffixed, String.toList_append] at chars
  have digits := List.append_cancel_left chars
  -- A number is read back from its decimal digits.
  have numbers := congrArg (fun cs => Nat.ofDigitChars 10 cs 0) digits
  simpa [Nat.toString_eq_ofList_toDigits] using numbers

/-- When the search ends at an id that is taken, so are all those it passed. -/
private theorem suffixed_mem_of_search_mem {base : String} {used : List String} {fuel first : Nat}
    (taken : search base used fuel first ∈ used) (offset : Nat) (within : offset ≤ fuel) :
    suffixed base (first + offset) ∈ used := by
  induction fuel generalizing first offset with
  | zero =>
      obtain rfl := Nat.le_zero.mp within
      exact taken
  | succ fuel induction =>
      simp only [search, List.contains_eq_mem, decide_eq_true_eq] at taken
      split at taken
      · rename_i first_taken
        cases offset with
        | zero => exact first_taken
        | succ offset =>
            rw [Nat.add_comm offset, ← Nat.add_assoc]
            exact induction taken offset (Nat.le_of_succ_le_succ within)
      · contradiction

private theorem search_not_mem (base : String) (used : List String) (first : Nat) :
    search base used used.length first ∉ used := by
  intro taken
  have injective : Set.InjOn (fun offset => suffixed base (first + offset))
      (Finset.range (used.length + 1)) := by
    intro left _ right _ same
    exact Nat.add_left_cancel (suffixed_injective base same)
  have bound : (Finset.range (used.length + 1)).card ≤ used.toFinset.card := by
    apply Finset.card_le_card_of_injOn _ _ injective
    intro offset offset_mem
    have within : offset ≤ used.length := by simpa [Nat.lt_succ_iff] using offset_mem
    exact List.mem_toFinset.mpr (suffixed_mem_of_search_mem taken offset within)
  have := used.toFinset_card_le
  rw [Finset.card_range] at bound
  omega

/-- A fresh id is not taken. -/
theorem fresh_not_mem (base : String) (used : List String) : fresh base used ∉ used := by
  rw [fresh]
  split
  · exact search_not_mem base used 2
  · rename_i free
    simpa using free

/-- A base that is free is taken as it is. -/
theorem fresh_of_not_mem {base : String} {used : List String} (free : base ∉ used) :
    fresh base used = base := by
  simp [fresh, free]

theorem exists_search_eq (base : String) (used : List String) (fuel first : Nat) :
    ∃ suffix, first ≤ suffix ∧ search base used fuel first = suffixed base suffix := by
  induction fuel generalizing first with
  | zero => exact ⟨first, Nat.le_refl first, rfl⟩
  | succ fuel induction =>
      rw [search]
      split
      · obtain ⟨suffix, later, found⟩ := induction (first + 1)
        exact ⟨suffix, Nat.le_of_succ_le later, found⟩
      · exact ⟨first, Nat.le_refl first, rfl⟩

/-- Whether an id is another one, possibly with a numeric suffix. -/
def Variant (base id : String) : Prop :=
  id = base ∨ ∃ suffix, 2 ≤ suffix ∧ id = suffixed base suffix

theorem variant_fresh (base : String) (used : List String) : Variant base (fresh base used) := by
  rw [fresh]
  split
  · exact Or.inr (exists_search_eq base used used.length 2)
  · exact Or.inl rfl

/-- A fresh id is not empty unless its base is. -/
theorem fresh_ne_empty {base : String} (filled : base ≠ "") (used : List String) :
    fresh base used ≠ "" := by
  rcases variant_fresh base used with same | ⟨suffix, -, found⟩
  · rwa [same]
  · rw [found]
    intro empty
    have chars := congrArg String.toList empty
    simp [suffixed] at chars

/-- Ids that are apart from each other and from the used ones stay unused when one of them is
used. -/
theorem unused_cons {β : Type} {id : β → String} {entity : β} {entities : List β}
    {used : List String} (apart : id entity ∉ entities.map id)
    (unused : ∀ other ∈ entities, id other ∉ used) :
    ∀ other ∈ entities, id other ∉ id entity :: used := by
  intro other other_mem again
  rcases List.mem_cons.mp again with same | old
  · exact apart (same ▸ List.mem_map_of_mem other_mem)
  · exact unused other other_mem old

end FreshId
end ClusterDiagram
