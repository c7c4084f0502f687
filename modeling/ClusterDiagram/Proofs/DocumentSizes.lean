import ClusterDiagram.Json.Reader
import ClusterDiagram.Proofs.AssocLookup
import ClusterDiagram.Proofs.Computations

/-!
# Sizes of documents

Every item of a list takes a character at least, so that no list of a document has more items than
the text from which the document was read has characters.
-/

namespace ClusterDiagram
namespace Json

/-- Whether no list in a document has more items than a bound. -/
inductive Bounded {α : Type} (bound : Nat) : Json α → Prop where
  /-- The absent value. -/
  | null : Bounded bound .null
  /-- A truth value. -/
  | bool (value : Bool) : Bounded bound (.bool value)
  /-- An integer. -/
  | int (value : Int) : Bounded bound (.int value)
  /-- Another number. -/
  | real (value : α) : Bounded bound (.real value)
  /-- A text. -/
  | text (value : String) : Bounded bound (.text value)
  /-- A list of few items, each of which is bounded. -/
  | list {items : List (Json α)} (few : items.length ≤ bound)
      (each : ∀ item ∈ items, Bounded bound item) : Bounded bound (.list items)
  /-- An object with bounded values. -/
  | object {fields : List (String × Json α)}
      (each : ∀ value ∈ fields.map (·.2), Bounded bound value) : Bounded bound (.object fields)

theorem Bounded.mono {α : Type} {bound larger : Nat} {document : Json α}
    (bounded : Bounded bound document) (bound_le : bound ≤ larger) : Bounded larger document := by
  induction bounded with
  | null => exact .null
  | bool value => exact .bool value
  | int value => exact .int value
  | real value => exact .real value
  | text value => exact .text value
  | list few _ induction => exact .list (Nat.le_trans few bound_le) induction
  | object _ induction => exact .object induction

namespace Cursor

theorem length_advance_le (cursor : Cursor) (count : Nat) :
    (cursor.advance count).rest.length ≤ cursor.rest.length :=
  (List.length_drop (l := cursor.rest)).symm ▸ Nat.sub_le cursor.rest.length count

theorem length_skip_le (cursor : Cursor) : cursor.skip.rest.length ≤ cursor.rest.length :=
  cursor.length_advance_le _

theorem length_advance_lt {cursor : Cursor} {c : Char} {rest : List Char}
    (rest_eq : cursor.rest = c :: rest) :
    (cursor.advance 1).rest.length < cursor.rest.length := by
  simp [advance, rest_eq]

end Cursor

/-- Whether a document that was read is bounded by what was there to read, and no more is left. -/
structure Reads (cursor : Cursor) (value : Json Float) (next : Cursor) : Prop where
  /-- The document is bounded. -/
  bounded : Bounded cursor.rest.length value
  /-- Nothing is put back. -/
  length_le : next.rest.length ≤ cursor.rest.length

/-! ## Parts without lists -/

theorem length_le_of_readText {start fuel : Nat} {read : List Char} {cursor next : Cursor}
    {value : String} (done : readText start fuel read cursor = .ok (value, next)) :
    next.rest.length ≤ cursor.rest.length := by
  fun_induction readText start fuel read cursor with
  | case1 | case2 | case4 | case5 | case7 | case13 | case15 => cases done
  | case3 =>
      cases done
      exact Cursor.length_advance_le _ 1
  | case6 | case8 | case9 | case10 | case11 | case12 | case14 | case16 =>
      rename_i induction
      exact Nat.le_trans (induction done) (Cursor.length_advance_le _ _)

theorem reads_of_readWord {cursor next : Cursor} {value : Json Float}
    (found : readWord? cursor = some (value, next)) : Reads cursor value next := by
  obtain ⟨word, word_found, same⟩ := Option.map_eq_some_iff.mp found
  cases same
  refine ⟨?_, cursor.length_advance_le _⟩
  have listed := List.mem_of_find?_eq_some word_found
  simp only [List.mem_cons, List.not_mem_nil, or_false] at listed
  rcases listed with rfl | rfl | rfl | rfl | rfl | rfl
  · exact .null
  · exact .bool true
  · exact .bool false
  · exact .real _
  · exact .real _
  · exact .real _

theorem reads_of_readNumber {cursor next : Cursor} {value : Json Float}
    (found : readNumber? cursor = some (.ok (value, next))) : Reads cursor value next := by
  unfold readNumber? at found
  split at found
  extract_lets at found
  split at found
  · cases found
  · split at found
    extract_lets at found
    split at found
    · split at found
      · cases found
      · obtain ⟨rfl, rfl⟩ := Prod.mk.inj (Except.ok.inj (Option.some.inj found))
        exact ⟨.int _, cursor.length_advance_le _⟩
    · obtain ⟨rfl, rfl⟩ := Prod.mk.inj (Except.ok.inj (Option.some.inj found))
      exact ⟨.real _, cursor.length_advance_le _⟩

/-! ## Lists and objects -/

/-- Whether documents are read within bounds, the fuel being given. -/
def ValuesRead (fuel : Nat) : Prop :=
  ∀ cursor value next, readValue fuel cursor = .ok (value, next) → Reads cursor value next

/-- Whether the items of lists are read within bounds, the fuel being given. -/
def ItemsRead (fuel : Nat) : Prop :=
  ∀ bound items cursor value next, readItems fuel items cursor = .ok (value, next) →
    (∀ item ∈ items, Bounded bound item) → items.length + cursor.rest.length ≤ bound →
      Bounded bound value ∧ next.rest.length ≤ cursor.rest.length

/-- Whether the fields of objects are read within bounds, the fuel being given. -/
def FieldsRead (fuel : Nat) : Prop :=
  ∀ bound fields cursor value next, readFields fuel fields cursor = .ok (value, next) →
    (∀ value ∈ fields.map (·.2), Bounded bound value) → cursor.rest.length ≤ bound →
      Bounded bound value ∧ next.rest.length ≤ cursor.rest.length

theorem valuesRead_succ {fuel : Nat} (items_read : ItemsRead fuel)
    (fields_read : FieldsRead fuel) : ValuesRead (fuel + 1) := by
  intro cursor value next done
  rw [readValue] at done
  have inside_le : (cursor.advance 1).skip.rest.length ≤ cursor.rest.length :=
    Nat.le_trans (Cursor.length_skip_le _) (Cursor.length_advance_le _ _)
  split at done
  · obtain ⟨⟨text, after⟩, text_done, done⟩ := ok_of_bind done
    cases done
    exact ⟨.text text,
      Nat.le_trans (length_le_of_readText text_done) (Cursor.length_advance_le _ _)⟩
  · dsimp only at done
    split at done
    · cases done
      exact ⟨.object (by simp), Nat.le_trans (Cursor.length_advance_le _ _) inside_le⟩
    · obtain ⟨bounded, length_le⟩ :=
        fields_read cursor.rest.length [] _ value next done (by simp) inside_le
      exact ⟨bounded, Nat.le_trans length_le inside_le⟩
  · dsimp only at done
    split at done
    · cases done
      exact ⟨.list (Nat.zero_le _) (by simp), Nat.le_trans (Cursor.length_advance_le _ _) inside_le⟩
    · obtain ⟨bounded, length_le⟩ := items_read cursor.rest.length [] _ value next done (by simp)
        (by simpa using inside_le)
      exact ⟨bounded, Nat.le_trans length_le inside_le⟩
  · split at done
    · rename_i word found
      cases done
      exact reads_of_readWord found
    · cases found : readNumber? cursor with
      | none =>
          rw [found] at done
          cases done
      | some number =>
          rw [found, Option.getD_some] at done
          exact reads_of_readNumber (done ▸ found)

theorem itemsRead_succ {fuel : Nat} (values_read : ValuesRead fuel) (items_read : ItemsRead fuel) :
    ItemsRead (fuel + 1) := by
  intro bound items cursor value next done items_bounded room
  rw [readItems] at done
  obtain ⟨⟨item, after⟩, item_done, done⟩ := ok_of_bind done
  have item_read := values_read cursor item after item_done
  have item_bounded : Bounded bound item := item_read.bounded.mono (by omega)
  have all_bounded : ∀ other ∈ item :: items, Bounded bound other :=
    List.forall_mem_cons.mpr ⟨item_bounded, items_bounded⟩
  have skip_le := after.length_skip_le
  have after_le := item_read.length_le
  dsimp only at done
  split at done
  · rename_i rest rest_eq
    cases done
    have closed := Cursor.length_advance_lt rest_eq
    refine ⟨.list ?_ ?_, by omega⟩
    · rw [List.length_reverse, List.length_cons]
      omega
    · intro other other_mem
      exact all_bounded other (List.mem_reverse.mp other_mem)
  · rename_i rest rest_eq
    have passed := Cursor.length_advance_lt rest_eq
    have next_le := (after.skip.advance 1).length_skip_le
    obtain ⟨bounded, length_le⟩ := items_read bound (item :: items) _ value next done all_bounded
      (by rw [List.length_cons]; omega)
    exact ⟨bounded, by omega⟩
  · cases done

theorem fieldsRead_succ {fuel : Nat} (values_read : ValuesRead fuel)
    (fields_read : FieldsRead fuel) : FieldsRead (fuel + 1) := by
  intro bound fields cursor value next done fields_bounded room
  rw [readFields] at done
  split at done
  · obtain ⟨⟨key, named⟩, key_done, done⟩ := ok_of_bind done
    have named_le := Nat.le_trans (length_le_of_readText key_done) (Cursor.length_advance_le _ _)
    dsimp only at done
    split at done
    · obtain ⟨⟨item, after⟩, item_done, done⟩ := ok_of_bind done
      have item_read := values_read _ item after item_done
      have colon_le := Nat.le_trans (Nat.le_trans (Cursor.length_skip_le _)
        (Cursor.length_advance_le named.skip 1)) (Nat.le_trans named.length_skip_le named_le)
      have after_le := Nat.le_trans after.length_skip_le (Nat.le_trans item_read.length_le colon_le)
      have item_bounded : Bounded bound item :=
        item_read.bounded.mono (Nat.le_trans colon_le room)
      have all_bounded : ∀ other ∈ (Assoc.put key item fields).map (·.2), Bounded bound other := by
        intro other other_mem
        rcases List.mem_cons.mp (Assoc.values_put_subset key item fields other_mem) with
          rfl | before
        · exact item_bounded
        · exact fields_bounded other before
      dsimp only at done
      split at done
      · cases done
        exact ⟨.object all_bounded, Nat.le_trans (Cursor.length_advance_le _ _) after_le⟩
      · have next_le := Nat.le_trans (Nat.le_trans (Cursor.length_skip_le _)
          (Cursor.length_advance_le after.skip 1)) after_le
        obtain ⟨bounded, length_le⟩ :=
          fields_read bound _ _ value next done all_bounded (Nat.le_trans next_le room)
        exact ⟨bounded, Nat.le_trans length_le next_le⟩
      · cases done
    · cases done
  · cases done

theorem all_read (fuel : Nat) : ValuesRead fuel ∧ ItemsRead fuel ∧ FieldsRead fuel := by
  induction fuel with
  | zero =>
      refine ⟨?_, ?_, ?_⟩
      · intro cursor value next done
        cases done
      · intro bound items cursor value next done
        cases done
      · intro bound fields cursor value next done
        cases done
  | succ fuel induction =>
      obtain ⟨values_read, items_read, fields_read⟩ := induction
      exact ⟨valuesRead_succ items_read fields_read, itemsRead_succ values_read items_read,
        fieldsRead_succ values_read fields_read⟩

/-- No list of a document has more items than the text of the document has characters. -/
theorem bounded_of_read {text : String} {document : Json Float}
    (done : read text = .ok document) : Bounded text.length document := by
  unfold read readChars at done
  dsimp only at done
  split at done
  · cases done
  · obtain ⟨⟨value, next⟩, value_done, done⟩ := ok_of_bind done
    have bounded := ((all_read _).1 _ _ _ value_done).bounded
    dsimp only at done
    split at done
    · cases done
      exact bounded.mono
        (Nat.le_trans (Cursor.length_skip_le _) (Nat.le_of_eq String.length_toList))
    · cases done

end Json
end ClusterDiagram
