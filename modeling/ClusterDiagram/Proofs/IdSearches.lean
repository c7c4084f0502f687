import ClusterDiagram.Proofs.Computations
import ClusterDiagram.Proofs.ExactScalars
import ClusterDiagram.Proofs.FreshIds
import ClusterDiagram.Session.Edit
import Mathlib.Order.Bounds.Basic

/-!
# Searches for an id

A search tries its base first, and then the base with the suffixes from two on, as long as what it
tried is taken. It tries no id twice, so that it ends after as many turns as there are ids taken at
the latest, and what it ends at is the first id that is free. Prompts, merges and edits all find
their ids in this way.
-/

namespace ClusterDiagram
namespace FreshId

/-! ## Turns -/

/-- A search between two turns. -/
structure Attempt where
  /-- The id that is tried. -/
  id : String
  /-- The suffix that is tried next. -/
  suffix : Nat

/-- A search begins with its base. -/
def Attempt.first (base : String) : Attempt :=
  ⟨base, 2⟩

/-- A turn goes on to the next suffix. -/
def Attempt.next (base : String) (attempt : Attempt) : Attempt :=
  ⟨suffixed base attempt.suffix, attempt.suffix + 1⟩

/-- Whether a search that takes a turn as long as its id is taken ends after a number of turns, and
at which id. -/
inductive Ends (base : String) (used : List String) : Attempt → Nat → String → Prop
  /-- The id is free. -/
  | free {attempt : Attempt} (free : attempt.id ∉ used) : Ends base used attempt 0 attempt.id
  /-- The id is taken, and the search goes on. -/
  | taken {attempt : Attempt} {turns : Nat} {id : String} (taken : attempt.id ∈ used)
      (rest : Ends base used (attempt.next base) turns id) :
      Ends base used attempt (turns + 1) id

/-- The id that is tried after a number of turns. -/
def tried (base : String) : Nat → String
  | 0 => base
  | turns + 1 => suffixed base (turns + 2)

theorem suffixed_ne_base (base : String) (suffix : Nat) : suffixed base suffix ≠ base := by
  intro same
  have lengths := congrArg String.length same
  rw [suffixed, String.length_append, String.length_append] at lengths
  have hyphen : "-".length = 1 := rfl
  omega

/-- No id is tried twice. -/
theorem tried_injective (base : String) : Function.Injective (tried base) := by
  intro first second same
  cases first with
  | zero =>
      cases second with
      | zero => rfl
      | succ second => exact absurd same.symm (suffixed_ne_base base _)
  | succ first =>
      cases second with
      | zero => exact absurd same (suffixed_ne_base base _)
      | succ second => simpa using suffixed_injective base same

variable {base : String} {used : List String}

/-- A search passes over taken ids, one for each turn, and ends at the free one that comes next. -/
theorem Ends.passed (before : Nat) {turns : Nat} {id : String}
    (ends : Ends base used ⟨tried base before, before + 2⟩ turns id) :
    id = tried base (before + turns) ∧ id ∉ used ∧
      ∀ passed, before ≤ passed → passed < before + turns → tried base passed ∈ used := by
  induction turns generalizing before with
  | zero =>
      cases ends with
      | free free => exact ⟨rfl, free, fun passed later earlier => absurd later (by omega)⟩
  | succ turns induction =>
      cases ends with
      | taken taken rest =>
          obtain ⟨id_eq, free, all_taken⟩ := induction (before + 1) rest
          rw [Nat.add_right_comm] at id_eq all_taken
          refine ⟨id_eq, free, fun passed later earlier => ?_⟩
          rcases Nat.eq_or_lt_of_le later with rfl | later
          · exact taken
          · exact all_taken passed later earlier

/-- A search ends after as many turns as there are ids taken at the latest. -/
theorem Ends.turns_le {turns : Nat} {id : String} (ends : Ends base used (.first base) turns id) :
    turns ≤ used.toFinset.card := by
  obtain ⟨-, -, all_taken⟩ := Ends.passed 0 ends
  rw [← Finset.card_range turns]
  apply Finset.card_le_card_of_injOn (tried base) _ (tried_injective base).injOn
  intro passed passed_mem
  have earlier : passed < 0 + turns := by simpa using passed_mem
  exact List.mem_toFinset.mpr (all_taken passed (Nat.zero_le passed) earlier)

/-- A search that has found a free id within its bound has made the turns to it. -/
theorem exists_ends_search {fuel suffix : Nat} (free : search base used fuel suffix ∉ used) :
    ∃ turns, Ends base used ⟨suffixed base suffix, suffix + 1⟩ turns
      (search base used fuel suffix) := by
  induction fuel generalizing suffix with
  | zero => exact ⟨0, .free free⟩
  | succ fuel induction =>
      rw [search] at free ⊢
      split at free
      · rename_i taken
        obtain ⟨turns, rest⟩ := induction free
        rw [if_pos taken]
        exact ⟨turns + 1, .taken (List.contains_iff_mem.mp taken) rest⟩
      · rename_i not_taken
        rw [if_neg not_taken]
        exact ⟨0, .free free⟩

/-- Every search ends, and it ends at the fresh id. -/
theorem exists_ends_fresh (base : String) (used : List String) :
    ∃ turns, Ends base used (.first base) turns (fresh base used) := by
  have free := fresh_not_mem base used
  by_cases taken : base ∈ used
  · have fresh_eq : fresh base used = search base used used.length 2 :=
      if_pos (List.contains_iff_mem.mpr taken)
    rw [fresh_eq] at free ⊢
    obtain ⟨turns, rest⟩ := exists_ends_search free
    exact ⟨turns + 1, .taken taken rest⟩
  · rw [fresh_of_not_mem taken]
    exact ⟨0, .free taken⟩

/-! ## What is found -/

/-- Whether an id is what the search for a base among ids that are taken ends at. -/
structure Found (base : String) (used : List String) (id : String) : Prop where
  /-- The search ends at the id, after as many turns as there are ids taken at the latest. -/
  ends : ∃ turns ≤ used.toFinset.card, Ends base used (.first base) turns id
  /-- The id is free. -/
  free : id ∉ used
  /-- It is the base when that is free. -/
  plain : base ∉ used → id = base
  /-- Otherwise it has the least suffix that makes it free. -/
  numbered : base ∈ used →
    ∃ suffix, IsLeast {suffix | 2 ≤ suffix ∧ suffixed base suffix ∉ used} suffix ∧
      id = suffixed base suffix

theorem found_fresh (base : String) (used : List String) : Found base used (fresh base used) := by
  obtain ⟨turns, ends⟩ := exists_ends_fresh base used
  obtain ⟨id_eq, free, all_taken⟩ := Ends.passed 0 ends
  refine ⟨⟨turns, ends.turns_le, ends⟩, free, fresh_of_not_mem, fun taken => ?_⟩
  cases turns with
  | zero =>
      rw [id_eq] at free
      exact absurd taken free
  | succ turns =>
      rw [Nat.zero_add] at id_eq all_taken
      have id_eq : fresh base used = suffixed base (turns + 2) := id_eq
      refine ⟨turns + 2, ⟨⟨Nat.le_add_left 2 turns, id_eq ▸ free⟩, ?_⟩, id_eq⟩
      rintro suffix ⟨two_le, suffix_free⟩
      by_contra below
      obtain ⟨passed, rfl⟩ := Nat.exists_eq_add_of_le' two_le
      exact suffix_free (all_taken (passed + 1) (Nat.zero_le _) (by omega))

end FreshId

namespace Session

open FreshId (Found found_fresh)

variable {α : Type} [Scalar α]

/-- A new cluster has the id that was found for it. -/
theorem id_addCluster {context : Context α} {session : Session α} {label : String}
    {edited : Session α × Cluster α} (done : addCluster context session label = .ok edited) :
    edited.2.id = FreshId.fresh (Text.slug (Text.trim label))
      (session.graph.clusters.map (·.id)) := by
  unfold addCluster at done
  dsimp only at done
  split at done
  · cases done
  obtain ⟨corner, -, done⟩ := ok_of_bind done
  obtain ⟨arranged, -, done⟩ := ok_of_bind done
  cases done
  cases found : arranged.clusters.find? fun placed => placed.id ==
      FreshId.fresh (Text.slug (Text.trim label)) (session.graph.clusters.map (·.id)) with
  | none => rfl
  | some placed =>
      have same := List.find?_some found
      exact beq_iff_eq.mp same

/-- Every search for an id ends, after as many turns as there are ids taken at the latest, at the
first id that is free: the search for an id of a prompt, which begins with a token or without, that
for an id of a merged diagram, that for an id of an edit, and that for an id of a new cluster. -/
theorem found_ids :
    (∀ base used, Found base used (FreshId.fresh base used)) ∧
      (∀ (draft : Prompt.Draft α) base, Found base draft.ids (draft.giveId base).1) ∧
      (∀ token (draft : Prompt.Draft α) base,
        Found (base ++ "-" ++ token draft.drawn) draft.ids (draft.giveTokenId token base).1) ∧
      (∀ (context : Context α) (session : Session α) base taken,
        Found (base ++ "-" ++ context.token session.drawn) taken
          (newId context session base taken).1) ∧
      ∀ (context : Context α) (session : Session α) label edited cluster,
        addCluster context session label = .ok (edited, cluster) →
          Found (Text.slug (Text.trim label)) (session.graph.clusters.map (·.id)) cluster.id := by
  refine ⟨found_fresh, fun draft base => found_fresh base draft.ids, fun token draft base => ?_,
    fun context session base taken => ?_, fun context session label edited cluster done => ?_⟩
  · exact found_fresh (base ++ "-" ++ token draft.drawn) draft.ids
  · exact found_fresh (base ++ "-" ++ context.token session.drawn) taken
  · rw [id_addCluster done]
    exact found_fresh _ _

/-- A session with two clusters of one label. -/
private def twins : Session ℚ :=
  { graph := { clusters := [⟨"group", "Group", none, none, none⟩,
      ⟨"group-2", "Group", none, none, none⟩] } }

theorem found_ids_twins :
    let _ : Lengths := Lengths.alongAxes
    ∃ edited cluster,
      addCluster { settings := Settings.ofValues fun _ => none, token := toString } twins " Group" =
          .ok (edited, cluster) ∧ cluster.id = "group-3" ∧
        Found "group" ["group", "group-2"] cluster.id := by
  let _ : Lengths := Lengths.alongAxes
  have added : (addCluster { settings := Settings.ofValues fun _ => none, token := toString } twins
      " Group").map (fun edited => edited.2.id) = .ok "group-3" := by
    decide +kernel
  obtain ⟨⟨edited, cluster⟩, done, id_eq⟩ := ok_of_map added
  obtain ⟨-, -, -, -, every⟩ := found_ids (α := ℚ)
  have found := every _ twins _ edited cluster done
  have slug_eq : Text.slug (Text.trim " Group") = "group" := by decide +kernel
  rw [slug_eq] at found
  exact ⟨edited, cluster, done, id_eq, found⟩

end Session
end ClusterDiagram
