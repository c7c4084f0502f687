/-!
# Computations that can fail

A sequence of computations succeeds step by step, so that what every step keeps is kept by the whole
sequence.
-/

namespace ClusterDiagram

variable {ε β γ : Type}

theorem ok_of_bind {first : Except ε β} {next : β → Except ε γ} {result : γ}
    (done : (first >>= next) = .ok result) :
    ∃ value, first = .ok value ∧ next value = .ok result := by
  cases first with
  | error error => cases done
  | ok value => exact ⟨value, rfl, done⟩

theorem ok_of_map {first : Except ε β} {f : β → γ} {result : γ} (done : first.map f = .ok result) :
    ∃ value, first = .ok value ∧ f value = result := by
  cases first with
  | error error => cases done
  | ok value => exact ⟨value, rfl, Except.ok.inj done⟩

/-- A list of computations none of which fails gives a list of results. -/
theorem exists_mapM_ok {f : β → Except ε γ} (total : ∀ item, ∃ result, f item = .ok result)
    (items : List β) : ∃ results, items.mapM f = .ok results := by
  induction items with
  | nil => exact ⟨[], rfl⟩
  | cons item items induction =>
      obtain ⟨first, first_eq⟩ := total item
      obtain ⟨rest, rest_eq⟩ := induction
      refine ⟨first :: rest, ?_⟩
      rw [List.mapM_cons, first_eq]
      change (items.mapM f >>= fun results => pure (first :: results)) = _
      rw [rest_eq]
      rfl

theorem exists_mem_of_mapM {f : β → Except ε γ} {items : List β} {results : List γ}
    (done : items.mapM f = .ok results) {item : β} (item_mem : item ∈ items) :
    ∃ result ∈ results, f item = .ok result := by
  induction items generalizing results with
  | nil => cases item_mem
  | cons first items induction =>
      rw [List.mapM_cons] at done
      obtain ⟨result, result_eq, done⟩ := ok_of_bind done
      obtain ⟨rest, rest_eq, done⟩ := ok_of_bind done
      cases done
      rcases List.mem_cons.mp item_mem with rfl | later
      · exact ⟨result, List.mem_cons_self .., result_eq⟩
      · obtain ⟨other, other_mem, other_eq⟩ := induction rest_eq later
        exact ⟨other, List.mem_cons_of_mem _ other_mem, other_eq⟩

/-- A list of computations that give results of known content gives a list of that content. -/
theorem exists_mapM_ok_map {δ : Type} {items : List β} {f : β → Except ε γ} {g : γ → δ} {h : β → δ}
    (each : ∀ item ∈ items, ∃ result, f item = .ok result ∧ g result = h item) :
    ∃ results, items.mapM f = .ok results ∧ results.map g = items.map h := by
  induction items with
  | nil => exact ⟨[], rfl, rfl⟩
  | cons item items induction =>
      rw [List.forall_mem_cons] at each
      obtain ⟨first, first_eq, first_content⟩ := each.1
      obtain ⟨rest, rest_eq, rest_content⟩ := induction each.2
      refine ⟨first :: rest, ?_, ?_⟩
      · simp only [List.mapM_cons, first_eq, rest_eq, bind, Except.bind, pure, Except.pure]
      · rw [List.map_cons, List.map_cons, first_content, rest_content]

variable {step : β → γ → Except ε β}

theorem ok_of_foldlM_cons {first : γ} {rest : List γ} {start result : β}
    (done : (first :: rest).foldlM step start = .ok result) :
    ∃ middle, step start first = .ok middle ∧ rest.foldlM step middle = .ok result := by
  rw [List.foldlM_cons] at done
  exact ok_of_bind done

theorem ok_of_foldlM_append {front back : List γ} {start result : β}
    (done : (front ++ back).foldlM step start = .ok result) :
    ∃ middle, front.foldlM step start = .ok middle ∧ back.foldlM step middle = .ok result := by
  rw [List.foldlM_append] at done
  exact ok_of_bind done

/-- A sequence of steps none of which fails gives a result. -/
theorem exists_foldlM_ok (total : ∀ state item, ∃ next, step state item = .ok next)
    (items : List γ) (start : β) : ∃ result, items.foldlM step start = .ok result := by
  induction items generalizing start with
  | nil => exact ⟨start, rfl⟩
  | cons item items induction =>
      obtain ⟨next, next_eq⟩ := total start item
      obtain ⟨result, result_eq⟩ := induction next
      refine ⟨result, ?_⟩
      rw [List.foldlM_cons, next_eq]
      exact result_eq

/-- Steps that change nothing may be left out. -/
theorem foldlM_of_idle {items : List γ}
    (idle : ∀ item ∈ items, ∀ state, step state item = .ok state) (start : β) :
    items.foldlM step start = .ok start := by
  induction items with
  | nil => rfl
  | cons item items induction =>
      rw [List.forall_mem_cons] at idle
      rw [List.foldlM_cons, idle.1]
      exact induction idle.2

/-- Items that change nothing may be left out. -/
theorem foldlM_filter {p : γ → Bool}
    (idle : ∀ item, p item = false → ∀ state, step state item = .ok state)
    (items : List γ) (start : β) : (items.filter p).foldlM step start = items.foldlM step start := by
  induction items generalizing start with
  | nil => rfl
  | cons item items induction =>
      cases counts : p item with
      | true =>
          rw [List.filter_cons_of_pos counts, List.foldlM_cons, List.foldlM_cons]
          exact congrArg _ (funext induction)
      | false =>
          rw [List.filter_cons_of_neg (by simp [counts]), List.foldlM_cons, idle item counts]
          exact induction start

/-- Steps that do the same for all items give the same sequences. -/
theorem foldlM_congr_of_mem {other : β → γ → Except ε β} {items : List γ}
    (same : ∀ item ∈ items, ∀ state, step state item = other state item) (start : β) :
    items.foldlM step start = items.foldlM other start := by
  induction items generalizing start with
  | nil => rfl
  | cons item items induction =>
      rw [List.forall_mem_cons] at same
      rw [List.foldlM_cons, List.foldlM_cons, same.1]
      congr 1
      funext next
      exact induction same.2 next

/-- What every step keeps, a sequence of steps keeps. -/
theorem foldlM_invariant {holds : β → Prop} {items : List γ}
    (keeps : ∀ item ∈ items, ∀ state next, step state item = .ok next → holds state → holds next)
    {start result : β} (done : items.foldlM step start = .ok result) (initial : holds start) :
    holds result := by
  induction items generalizing start with
  | nil =>
      cases done
      exact initial
  | cons item items induction =>
      rw [List.forall_mem_cons] at keeps
      obtain ⟨middle, middle_eq, rest⟩ := ok_of_foldlM_cons done
      exact induction keeps.2 rest (keeps.1 start middle middle_eq initial)

/-- What every step lets grow by a bounded amount grows by no more than that for every item. -/
theorem le_of_foldlM {measure : β → Nat} {growth : Nat} {items : List γ}
    (grows : ∀ item state next, step state item = .ok next →
      measure next ≤ measure state + growth)
    {start result : β} (done : items.foldlM step start = .ok result) :
    measure result ≤ measure start + growth * items.length := by
  induction items generalizing start with
  | nil =>
      cases done
      exact Nat.le_refl _
  | cons item items induction =>
      obtain ⟨middle, middle_eq, rest⟩ := ok_of_foldlM_cons done
      have first := grows item start middle middle_eq
      have others := induction rest
      rw [List.length_cons, Nat.mul_succ]
      omega

/-- When it depends on the item alone whether a step fails, a sequence of steps fails with any item
that fails. -/
theorem exists_foldlM_error_iff {fails : γ → Prop}
    (step_fails : ∀ state item, (∃ error, step state item = .error error) ↔ fails item)
    (items : List γ) (start : β) :
    (∃ error, items.foldlM step start = .error error) ↔ ∃ item ∈ items, fails item := by
  induction items generalizing start with
  | nil =>
      constructor
      · rintro ⟨error, ⟨⟩⟩
      · rintro ⟨item, ⟨⟩, -⟩
  | cons item items induction =>
      simp only [List.foldlM_cons, List.mem_cons, exists_eq_or_imp]
      rw [← step_fails start item]
      cases step start item with
      | error error => exact iff_of_true ⟨error, rfl⟩ (Or.inl ⟨error, rfl⟩)
      | ok next =>
          have goes_on : (∃ error : ε, (Except.ok next : Except ε β) = .error error) ↔ False :=
            iff_of_false (by rintro ⟨error, ⟨⟩⟩) id
          rw [goes_on, false_or]
          exact induction next

end ClusterDiagram
