import ClusterDiagram.Merge.Clusters
import Mathlib.Data.List.Nodup
import Mathlib.Data.List.ReduceOption

/-!
# First come, first served

The first new entity of a key takes over the first existing one of the key, and no other does. When
existing ids are distinct this is all there is to claiming: nothing is claimed twice, and nothing is
held back from the one that it belongs to.
-/

namespace ClusterDiagram
namespace Merge

variable {β : Type} {key id : β → String} {existing : List β}

/-- The existing entity that a new one may claim. -/
def claimable (key id : β → String) (existing : List β) (claimed : List String) (entity : β) :
    Option β :=
  (existing.find? fun other => key other == key entity).filter fun found =>
    !claimed.contains (id found)

/-- The first new entity claims what it may, the others what is left. -/
theorem claim_cons (claimed : List String) (entity : β) (entities : List β) :
    claim key id existing claimed (entity :: entities) =
      claimable key id existing claimed entity ::
        claim key id existing ((claimable key id existing claimed entity).toList.map id ++ claimed)
          entities := by
  rw [claim, claimable]
  cases existing.find? fun other => key other == key entity with
  | none => rfl
  | some found => by_cases old : id found ∈ claimed <;> simp [Option.filter, old]

theorem length_claim (claimed : List String) (entities : List β) :
    (claim key id existing claimed entities).length = entities.length := by
  induction entities generalizing claimed with
  | nil => rfl
  | cons entity entities induction =>
      rw [claim_cons, List.length_cons, induction, List.length_cons]

/-- What is claimed was not claimed before. -/
theorem id_not_mem_of_claim {claimed : List String} {entities : List β} {found : β}
    (found_mem : some found ∈ claim key id existing claimed entities) : id found ∉ claimed := by
  induction entities generalizing claimed with
  | nil => cases found_mem
  | cons entity entities induction =>
      rw [claim_cons] at found_mem
      rcases List.mem_cons.mp found_mem with first | rest_mem
      · simpa using (Option.filter_eq_some_iff.mp first.symm).2
      · exact fun old => induction rest_mem (List.mem_append_right _ old)

/-- Nothing is claimed twice. -/
theorem nodup_claim (claimed : List String) (entities : List β) :
    ((claim key id existing claimed entities).reduceOption.map id).Nodup := by
  induction entities generalizing claimed with
  | nil => simp [claim]
  | cons entity entities induction =>
      rw [claim_cons]
      cases claimable key id existing claimed entity with
      | none => simpa using induction claimed
      | some found =>
          rw [List.reduceOption_cons_of_some, List.map_cons, List.nodup_cons]
          refine ⟨fun again => ?_, induction _⟩
          obtain ⟨other, other_mem, same⟩ := List.mem_map.mp again
          apply id_not_mem_of_claim (List.reduceOption_mem_iff.mp other_mem)
          simp [same]

/-! ## What is taken over -/

/-- Whether the new entity at an index takes over an existing one: it is the first new one of its
key, and the other is the first existing one. -/
def TakesOver (key : β → String) (existing entities : List β) (index : ℕ) (found : β) : Prop :=
  ∃ entity, entities[index]? = some entity ∧
    (∀ earlier ∈ entities.take index, key earlier ≠ key entity) ∧
    existing.find? (fun other => key other == key entity) = some found

/-- What is taken over is the first existing entity of its own key. -/
theorem TakesOver.first {entities : List β} {index : ℕ} {found : β}
    (takes : TakesOver key existing entities index found) :
    existing.find? (fun other => key other == key found) = some found := by
  obtain ⟨entity, -, -, search⟩ := takes
  have same : key found = key entity := by simpa using List.find?_some search
  rwa [same]

theorem TakesOver.mem {entities : List β} {index : ℕ} {found : β}
    (takes : TakesOver key existing entities index found) : found ∈ existing :=
  List.mem_of_find?_eq_some takes.first

theorem takesOver_zero_iff {entity : β} {entities : List β} {found : β} :
    TakesOver key existing (entity :: entities) 0 found ↔
      existing.find? (fun other => key other == key entity) = some found := by
  simp [TakesOver]

/-- A later entity takes over what it would without the first one, unless the first one has the
key. -/
theorem takesOver_succ_iff {entity : β} {entities : List β} {index : ℕ} {found : β} :
    TakesOver key existing (entity :: entities) (index + 1) found ↔
      TakesOver key existing entities index found ∧ key entity ≠ key found := by
  simp only [TakesOver, List.getElem?_cons_succ, List.take_succ_cons, List.forall_mem_cons]
  constructor
  · rintro ⟨later, at_index, ⟨apart, others⟩, search⟩
    have same : key found = key later := by simpa using List.find?_some search
    exact ⟨⟨later, at_index, others, search⟩, same ▸ apart⟩
  · rintro ⟨⟨later, at_index, others, search⟩, apart⟩
    have same : key found = key later := by simpa using List.find?_some search
    exact ⟨later, at_index, ⟨same ▸ apart, others⟩, search⟩

section Distinct

variable (ids : (existing.map id).Nodup)

include ids

/-- Of the entities that are not claimed, the first new one claims the one that it takes over. -/
theorem id_mem_claimable_iff {claimed : List String} {entity found : β} {entities : List β}
    {index : ℕ} (takes : TakesOver key existing entities index found) (new : id found ∉ claimed) :
    id found ∈ (claimable key id existing claimed entity).toList.map id ↔
      key entity = key found := by
  constructor
  · intro claims
    obtain ⟨other, other_mem, same⟩ := List.mem_map.mp claims
    obtain ⟨search, -⟩ := Option.filter_eq_some_iff.mp (Option.mem_toList.mp other_mem)
    obtain rfl := List.inj_on_of_nodup_map ids (List.mem_of_find?_eq_some search) takes.mem same
    have other_key : key other = key entity := by simpa using List.find?_some search
    exact other_key.symm
  · intro same
    have claims : claimable key id existing claimed entity = some found := by
      rw [claimable, same, takes.first]
      simpa using new
    rw [claims]
    exact List.mem_singleton_self _

/-- An entity that is not yet claimed is claimed by the one that takes it over. -/
theorem getElem?_claim_iff {claimed : List String} {entities : List β} {index : ℕ} {found : β} :
    (claim key id existing claimed entities)[index]? = some (some found) ↔
      TakesOver key existing entities index found ∧ id found ∉ claimed := by
  induction entities generalizing claimed index with
  | nil => simp [claim, TakesOver]
  | cons entity entities induction =>
      rw [claim_cons]
      cases index with
      | zero =>
          rw [takesOver_zero_iff, List.getElem?_cons_zero, Option.some_inj, claimable,
            Option.filter_eq_some_iff]
          simp
      | succ index =>
          rw [takesOver_succ_iff, List.getElem?_cons_succ, induction, List.mem_append, not_or,
            and_assoc, and_congr_right_iff]
          exact fun takes => and_congr_left fun new =>
            not_congr (id_mem_claimable_iff ids takes new)

/-- No existing entity is taken over twice. -/
theorem TakesOver.index_eq {entities : List β} {index other : ℕ} {found second : β}
    (takes : TakesOver key existing entities index found)
    (takes' : TakesOver key existing entities other second) (same : id found = id second) :
    index = other := by
  obtain rfl := List.inj_on_of_nodup_map ids takes.mem takes'.mem same
  obtain ⟨entity, at_index, first, search⟩ := takes
  obtain ⟨entity', at_other, first', search'⟩ := takes'
  have entity_key : key found = key entity := by simpa using List.find?_some search
  have entity_key' : key found = key entity' := by simpa using List.find?_some search'
  rcases Nat.lt_trichotomy index other with before | equal | after
  · exact absurd (entity_key.symm.trans entity_key') (first' entity
      (List.mem_of_getElem? ((List.getElem?_take_of_lt before).trans at_index)))
  · exact equal
  · exact absurd (entity_key'.symm.trans entity_key) (first entity'
      (List.mem_of_getElem? ((List.getElem?_take_of_lt after).trans at_other)))

end Distinct

/-- The first existing entity of a key is taken over when a new one has the key. -/
theorem exists_takesOver {shared : String} {found : β}
    (first : existing.find? (fun other => key other == shared) = some found) {entities : List β}
    (mentioned : shared ∈ entities.map key) :
    ∃ index, (entities.map key)[index]? = some shared ∧
      TakesOver key existing entities index found := by
  obtain ⟨front, back, keys_eq, new⟩ := List.eq_append_cons_of_mem mentioned
  have at_index : (entities.map key)[front.length]? = some shared := by simp [keys_eq]
  refine ⟨front.length, at_index, ?_⟩
  rw [List.getElem?_map, Option.map_eq_some_iff] at at_index
  obtain ⟨entity, entity_at, rfl⟩ := at_index
  refine ⟨entity, entity_at, fun earlier earlier_mem same => new ?_, first⟩
  have front_eq : (entities.take front.length).map key = front := by
    rw [List.map_take, keys_eq, List.take_left]
  rw [← front_eq, ← same]
  exact List.mem_map_of_mem earlier_mem

end Merge
end ClusterDiagram
