import ClusterDiagram.Assoc
import Mathlib.Data.List.Induction
import Mathlib.Data.List.Nodup

/-!
# Looking keys up

What is found under a key after a key was set, after it was kept, and in pairs with distinct keys.
-/

namespace ClusterDiagram

/-- A search finds the only element that it can find. -/
theorem find?_eq_some_of_unique {β : Type} {p : β → Bool} {elements : List β} {element : β}
    (element_mem : element ∈ elements) (accepted : p element = true)
    (unique : ∀ other ∈ elements, p other = true → other = element) :
    elements.find? p = some element := by
  cases found : elements.find? p with
  | none => exact absurd accepted (List.find?_eq_none.mp found element element_mem)
  | some other => rw [unique other (List.mem_of_find?_eq_some found) (List.find?_some found)]

/-- Elements with distinct keys are found by their keys. -/
theorem find?_key_eq_some {β κ : Type} [BEq κ] [LawfulBEq κ] {key : β → κ} {elements : List β}
    (keys : (elements.map key).Nodup) {element : β} (element_mem : element ∈ elements) :
    (elements.find? fun other => key other == key element) = some element := by
  refine find?_eq_some_of_unique element_mem (beq_iff_eq.mpr rfl) ?_
  intro other other_mem same
  exact List.inj_on_of_nodup_map keys other_mem element_mem (beq_iff_eq.mp same)

/-- Elements with distinct keys are also found by their keys from the back. -/
theorem find?_reverse_key_eq_some {β κ : Type} [BEq κ] [LawfulBEq κ] {key : β → κ}
    {elements : List β} (keys : (elements.map key).Nodup) {element : β}
    (element_mem : element ∈ elements) :
    (elements.reverse.find? fun other => key other == key element) = some element := by
  apply find?_key_eq_some
  · rw [List.map_reverse]
    exact List.nodup_reverse.mpr keys
  · exact List.mem_reverse.mpr element_mem

/-- What is found by its key from the back is listed and has that key. -/
theorem of_find?_reverse_key {β κ : Type} [BEq κ] [LawfulBEq κ] {key : β → κ} {elements : List β}
    {value : κ} {element : β}
    (found : (elements.reverse.find? fun other => key other == value) = some element) :
    element ∈ elements ∧ key element = value :=
  ⟨List.mem_reverse.mp (List.mem_of_find?_eq_some found), by simpa using List.find?_some found⟩

namespace Assoc

variable {κ ν : Type} [BEq κ]

theorem put_ne_nil (key : κ) (value : ν) (pairs : List (κ × ν)) : put key value pairs ≠ [] := by
  cases pairs with
  | nil => simp [put]
  | cons pair pairs =>
      rw [put]
      split <;> simp

theorem length_put_le (key : κ) (value : ν) (pairs : List (κ × ν)) :
    (put key value pairs).length ≤ pairs.length + 1 := by
  induction pairs with
  | nil => simp [put]
  | cons pair pairs induction =>
      rw [put]
      split
      · simp
      · simpa using induction

theorem ofEntries_ne_nil {entries : List (κ × ν)} (filled : entries ≠ []) :
    ofEntries entries ≠ [] := by
  induction entries using List.reverseRecOn with
  | nil => exact absurd rfl filled
  | append_singleton entries entry =>
      rw [ofEntries, putAll, List.foldl_append]
      exact put_ne_nil _ _ _

/-- There are no more keys than entries. -/
theorem length_ofEntries_le (entries : List (κ × ν)) :
    (ofEntries entries).length ≤ entries.length := by
  induction entries using List.reverseRecOn with
  | nil => exact Nat.le_refl 0
  | append_singleton entries entry induction =>
      rw [ofEntries, putAll, List.foldl_append, List.length_append]
      exact Nat.le_trans (length_put_le _ _ _) (Nat.succ_le_succ induction)

/-- Values may be mapped before or after they are set. -/
theorem map_put {ω : Type} (f : ν → ω) (key : κ) (value : ν) (pairs : List (κ × ν)) :
    (put key value pairs).map (fun pair => (pair.1, f pair.2)) =
      put key (f value) (pairs.map fun pair => (pair.1, f pair.2)) := by
  induction pairs with
  | nil => rfl
  | cons pair pairs induction =>
      rw [List.map_cons, put, put]
      split
      · rfl
      · rw [List.map_cons, induction]

theorem map_ofEntries {ω : Type} (f : ν → ω) (entries : List (κ × ν)) :
    (ofEntries entries).map (fun pair => (pair.1, f pair.2)) =
      ofEntries (entries.map fun pair => (pair.1, f pair.2)) := by
  induction entries using List.reverseRecOn with
  | nil => rfl
  | append_singleton entries entry induction =>
      rw [ofEntries, putAll, List.foldl_append, List.map_append, ofEntries, putAll,
        List.foldl_append]
      exact (map_put f _ _ _).trans (congrArg (put entry.1 (f entry.2)) induction)

variable [LawfulBEq κ]

/-- A key that is set keeps its place or comes last. -/
theorem keys_put (key : κ) (value : ν) (pairs : List (κ × ν)) :
    (put key value pairs).map (·.1) = pairs.map (·.1) ∨
      key ∉ pairs.map (·.1) ∧ (put key value pairs).map (·.1) = pairs.map (·.1) ++ [key] := by
  induction pairs with
  | nil => exact Or.inr ⟨by simp, rfl⟩
  | cons pair pairs induction =>
      rw [put]
      split
      · exact Or.inl rfl
      · rename_i apart
        rw [List.map_cons, List.map_cons]
        rcases induction with same | ⟨new, grown⟩
        · exact Or.inl (congrArg _ same)
        · refine Or.inr ⟨?_, congrArg _ grown⟩
          rw [List.mem_cons, not_or]
          exact ⟨fun same => apart (beq_iff_eq.mpr same.symm), new⟩

/-- No key is listed twice. -/
theorem nodup_keys_ofEntries (entries : List (κ × ν)) :
    ((ofEntries entries).map (·.1)).Nodup := by
  induction entries using List.reverseRecOn with
  | nil => exact List.nodup_nil
  | append_singleton entries entry induction =>
      rw [ofEntries, putAll, List.foldl_append]
      rcases keys_put entry.1 entry.2 (ofEntries entries) with same | ⟨new, grown⟩
      · exact same.symm ▸ induction
      · refine grown.symm ▸ List.nodup_append.mpr ⟨induction, List.nodup_singleton _, ?_⟩
        rintro key key_mem _ last_mem rfl
        exact new (List.mem_singleton.mp last_mem ▸ key_mem)

theorem put_subset (key : κ) (value : ν) (pairs : List (κ × ν)) :
    put key value pairs ⊆ (key, value) :: pairs := by
  induction pairs with
  | nil => simp [put]
  | cons pair pairs induction =>
      rw [put]
      split
      · rename_i same
        rw [beq_iff_eq.mp same]
        exact List.cons_subset_cons _ (List.subset_cons_self _ _)
      · refine List.cons_subset.mpr ⟨by simp, List.Subset.trans induction ?_⟩
        exact List.cons_subset_cons _ (List.subset_cons_self _ _)

theorem values_put_subset (key : κ) (value : ν) (pairs : List (κ × ν)) :
    (put key value pairs).map (·.2) ⊆ value :: pairs.map (·.2) :=
  List.map_subset _ (put_subset key value pairs)

/-- Every pair is one of the entries. -/
theorem ofEntries_subset (entries : List (κ × ν)) : ofEntries entries ⊆ entries := by
  induction entries using List.reverseRecOn with
  | nil => exact List.Subset.refl []
  | append_singleton entries entry induction =>
      rw [ofEntries, putAll, List.foldl_append]
      refine List.Subset.trans (put_subset _ _ _) (List.cons_subset.mpr ⟨by simp, ?_⟩)
      exact List.Subset.trans induction (List.subset_append_left _ _)

/-- Every value is one of the entries. -/
theorem values_ofEntries_subset (entries : List (κ × ν)) :
    (ofEntries entries).map (·.2) ⊆ entries.map (·.2) :=
  List.map_subset _ (ofEntries_subset entries)

theorem mem_of_lookup {key : κ} {value : ν} {pairs : List (κ × ν)}
    (found : pairs.lookup key = some value) : (key, value) ∈ pairs := by
  obtain ⟨before, after, rfl, -⟩ := List.lookup_eq_some_iff.mp found
  simp

theorem lookup_of_mem {key : κ} {value : ν} {pairs : List (κ × ν)}
    (keys : (pairs.map (·.1)).Nodup) (pair_mem : (key, value) ∈ pairs) :
    pairs.lookup key = some value := by
  induction pairs with
  | nil => cases pair_mem
  | cons pair pairs induction =>
      rw [List.map_cons, List.nodup_cons] at keys
      rcases List.mem_cons.mp pair_mem with rfl | rest_mem
      · exact List.lookup_cons_self
      · have apart : key ≠ pair.1 := fun same =>
          keys.1 (same ▸ List.mem_map_of_mem rest_mem)
        rw [List.lookup_cons, beq_false_of_ne apart]
        exact induction keys.2 rest_mem

theorem isSome_lookup_iff {key : κ} {pairs : List (κ × ν)} :
    (pairs.lookup key).isSome ↔ key ∈ pairs.map (·.1) := by
  rw [List.lookup_isSome_iff, List.mem_map]
  constructor
  · rintro ⟨pair, pair_mem, same⟩
    exact ⟨pair, pair_mem, (beq_iff_eq.mp same).symm⟩
  · rintro ⟨pair, pair_mem, rfl⟩
    exact ⟨pair, pair_mem, by simp⟩

theorem lookup_eq_none_of_not_mem {key : κ} {pairs : List (κ × ν)}
    (absent : key ∉ pairs.map (·.1)) : pairs.lookup key = none := by
  rw [← Option.not_isSome_iff_eq_none, isSome_lookup_iff]
  exact absent

/-- What is found under a key after the values of distinct keys were turned into others or
dropped. -/
theorem lookup_filterMap {ω : Type} {pairs : List (κ × ν)} (keys : (pairs.map (·.1)).Nodup)
    (f : κ → ν → Option ω) (key : κ) :
    (pairs.filterMap fun pair => (f pair.1 pair.2).map fun value => (pair.1, value)).lookup key =
      (pairs.lookup key).bind (f key) := by
  induction pairs with
  | nil => rfl
  | cons pair pairs induction =>
      rw [List.map_cons, List.nodup_cons] at keys
      rw [List.filterMap_cons, List.lookup_cons]
      cases hit : key == pair.1 with
      | false =>
          cases f pair.1 pair.2 with
          | none => exact induction keys.2
          | some value =>
              rw [Option.map_some, List.lookup_cons, hit]
              exact induction keys.2
      | true =>
          obtain rfl := beq_iff_eq.mp hit
          rw [Option.bind_some]
          cases f pair.1 pair.2 with
          | none =>
              refine (induction keys.2).trans ?_
              rw [lookup_eq_none_of_not_mem keys.1, Option.bind_none]
          | some value => exact List.lookup_cons_self

theorem lookup_put (key other : κ) (value : ν) (pairs : List (κ × ν)) :
    (put key value pairs).lookup other =
      if other == key then some value else pairs.lookup other := by
  induction pairs with
  | nil => cases hit : other == key <;> simp [put, List.lookup_cons, hit]
  | cons pair pairs induction =>
      obtain ⟨first, old⟩ := pair
      by_cases same : first = key
      · subst same
        cases hit : other == first <;> simp [put, List.lookup_cons, hit]
      · rw [put, if_neg (by simpa using same), List.lookup_cons, List.lookup_cons, induction]
        cases hit : other == first with
        | false => rfl
        | true =>
            obtain rfl := beq_iff_eq.mp hit
            simp [same]

theorem mem_keys_put {key other : κ} {value : ν} {pairs : List (κ × ν)} :
    other ∈ (put key value pairs).map (·.1) ↔ other = key ∨ other ∈ pairs.map (·.1) := by
  rw [← isSome_lookup_iff, lookup_put, ← isSome_lookup_iff]
  by_cases same : other = key <;> simp [same]

/-- The keys are those of the entries. -/
theorem mem_keys_ofEntries {key : κ} {entries : List (κ × ν)} :
    key ∈ (ofEntries entries).map (·.1) ↔ key ∈ entries.map (·.1) := by
  induction entries using List.reverseRecOn with
  | nil => rfl
  | append_singleton entries entry induction =>
      rw [ofEntries, putAll, List.foldl_append]
      refine mem_keys_put.trans ?_
      rw [List.map_append, List.mem_append, or_comm]
      exact or_congr induction List.mem_singleton.symm

theorem put_of_not_mem {key : κ} (value : ν) {pairs : List (κ × ν)}
    (new : key ∉ pairs.map (·.1)) : put key value pairs = pairs ++ [(key, value)] := by
  induction pairs with
  | nil => rfl
  | cons pair pairs induction =>
      rw [List.map_cons, List.mem_cons, not_or] at new
      have other : ¬ (pair.1 == key) = true := by simpa using Ne.symm new.1
      rw [put, if_neg other, induction new.2, List.cons_append]

/-- Pairs with distinct keys stay as they are. -/
theorem ofEntries_of_nodup {entries : List (κ × ν)} (keys : (entries.map (·.1)).Nodup) :
    ofEntries entries = entries := by
  suffices grown : ∀ pairs : List (κ × ν), ((pairs ++ entries).map (·.1)).Nodup →
      putAll pairs entries = pairs ++ entries from grown [] keys
  clear keys
  induction entries with
  | nil =>
      intro pairs _
      simp [putAll]
  | cons entry entries induction =>
      intro pairs keys
      have new : entry.1 ∉ pairs.map (·.1) := by
        rw [List.map_append, List.nodup_append] at keys
        exact fun old => keys.2.2 entry.1 old entry.1 (by simp) rfl
      have step : putAll pairs (entry :: entries) = putAll (pairs ++ [entry]) entries := by
        rw [putAll, List.foldl_cons, put_of_not_mem entry.2 new]
        rfl
      rw [step, induction _ (by simpa using keys)]
      simp

/-- Values that are kept when their key is set again are the first ones. -/
theorem lookup_foldl_putNew (key : κ) (entries pairs : List (κ × ν)) :
    (entries.foldl (fun pairs entry => putNew entry.1 entry.2 pairs) pairs).lookup key =
      (pairs.lookup key).or (entries.lookup key) := by
  induction entries generalizing pairs with
  | nil => simp
  | cons entry entries induction =>
      rw [List.foldl_cons, induction, List.lookup_cons, putNew]
      cases known : pairs.lookup entry.1 with
      | none =>
          rw [if_neg (by simp), List.lookup_append, List.lookup_cons]
          cases hit : key == entry.1 with
          | false => simp
          | true =>
              obtain rfl := beq_iff_eq.mp hit
              simp [known]
      | some value =>
          rw [if_pos (by simp)]
          cases hit : key == entry.1 with
          | false => rfl
          | true =>
              obtain rfl := beq_iff_eq.mp hit
              simp [known]

end Assoc
end ClusterDiagram
