import ClusterDiagram.Proofs.GridWays
import ClusterDiagram.Proofs.HeapOrder

/-!
# The search finds shortest ways

Estimates never overshoot and never fall along a step. So a cell that is expanded is known by its
least cost, no cell is expanded twice, and the estimate of the next waiting cell is a lower bound
for every way to the goal. The search ends because each expansion puts four cells on the frontier at
most.
-/

namespace ClusterDiagram
namespace Routing
namespace Search

/-! ## One expansion -/

/-- Whether a step from a cell of some cost makes another cell known, or known at less cost. -/
def Improves (search : Search) (cost : Nat) (next : GridCell) : Prop :=
  ∀ found, search.reached[next]? = some found → cost + 1 < found.cost

section Reaching

variable {search : Search} {goal current next : GridCell} {cost : Nat}

theorem not_improves_iff : ¬ search.Improves cost next ↔
    ∃ found, search.reached[next]? = some found ∧ found.cost ≤ cost + 1 := by
  simp only [Improves, not_forall, not_lt, exists_prop]

theorem reach_of_improves (improves : search.Improves cost next) :
    reach goal current cost search next =
      { frontier := search.frontier.insert
          ⟨cost + 1 + stepsBetween next goal, cost + 1, search.count, next⟩
        reached := search.reached.insert next ⟨cost + 1, some current⟩
        count := search.count + 1 } := by
  rw [reach]
  cases known : search.reached[next]? with
  | none => rfl
  | some found =>
      simp only [(improves found known).not_ge, decide_false, Bool.false_eq_true, if_false]

theorem reach_of_not_improves (known : ¬ search.Improves cost next) :
    reach goal current cost search next = search := by
  obtain ⟨found, found_eq, cheap⟩ := not_improves_iff.mp known
  simp only [reach, found_eq, cheap, decide_true, if_true]

end Reaching

/-- What becomes of a search when some cells are reached from a cell of some cost. -/
structure Extends (goal current : GridCell) (cost : Nat) (nexts : List GridCell)
    (before after : Search) : Prop where
  /-- A cell that is improved is known by the new cost. -/
  improved : ∀ cell ∈ nexts, before.Improves cost cell →
    after.reached[cell]? = some ⟨cost + 1, some current⟩
  /-- A cell that is improved waits. -/
  awaited : ∀ cell ∈ nexts, before.Improves cost cell →
    ∃ entry ∈ after.frontier.toList, entry.cell = cell ∧ entry.cost = cost + 1
  /-- Nothing else is learnt. -/
  kept : ∀ cell, ¬ (cell ∈ nexts ∧ before.Improves cost cell) →
    after.reached[cell]? = before.reached[cell]?
  /-- No cell stops waiting. -/
  waiting : before.frontier.toList ⊆ after.frontier.toList
  /-- Nothing waits but what was waiting and what is improved. -/
  entries : ∀ entry ∈ after.frontier.toList, entry ∈ before.frontier.toList ∨
    entry.cell ∈ nexts ∧ before.Improves cost entry.cell ∧ entry.cost = cost + 1 ∧
      entry.estimate = cost + 1 + stepsBetween entry.cell goal
  /-- At most one cell is put on the frontier for each cell that is tried. -/
  size_le : after.frontier.size ≤ before.frontier.size + nexts.length
  /-- The frontier stays in order. -/
  ordered : before.frontier.Ordered → after.frontier.Ordered

section Extends

variable {goal current next : GridCell} {cost : Nat} {nexts : List GridCell}
  {before after : Search}

theorem extends_nil : Extends goal current cost [] before before where
  improved := by simp
  awaited := by simp
  kept _ _ := rfl
  waiting := List.Subset.refl _
  entries _ listed := Or.inl listed
  size_le := Nat.le_refl _
  ordered := id

theorem extends_reach :
    Extends goal current cost [next] before (reach goal current cost before next) := by
  by_cases improves : before.Improves cost next
  · have inserted := Frontier.toList_insert_perm
      ⟨cost + 1 + stepsBetween next goal, cost + 1, before.count, next⟩ before.frontier
    rw [reach_of_improves improves]
    exact {
      improved := by
        intro cell cell_mem _
        rw [List.mem_singleton.mp cell_mem, Std.HashMap.getElem?_insert_self]
      awaited := by
        intro cell cell_mem _
        refine ⟨_, inserted.mem_iff.mpr List.mem_cons_self, (List.mem_singleton.mp cell_mem).symm,
          rfl⟩
      kept := by
        intro cell unchanged
        rw [Std.HashMap.getElem?_insert, if_neg]
        intro same
        obtain rfl : next = cell := eq_of_beq same
        exact unchanged ⟨List.mem_singleton_self next, improves⟩
      waiting := fun entry listed => inserted.mem_iff.mpr (List.mem_cons_of_mem _ listed)
      entries := by
        intro entry listed
        rcases List.mem_cons.mp (inserted.mem_iff.mp listed) with rfl | listed
        · exact Or.inr ⟨List.mem_singleton_self next, improves, rfl, rfl⟩
        · exact Or.inl listed
      size_le := by
        rw [← Frontier.length_toList, ← Frontier.length_toList, inserted.length_eq]
        exact Nat.le_refl _
      ordered := fun ordered => ordered.insert _ }
  · rw [reach_of_not_improves improves]
    exact {
      improved := fun cell cell_mem improved =>
        absurd (List.mem_singleton.mp cell_mem ▸ improved) improves
      awaited := fun cell cell_mem improved =>
        absurd (List.mem_singleton.mp cell_mem ▸ improved) improves
      kept := fun _ _ => rfl
      waiting := List.Subset.refl _
      entries := fun _ listed => Or.inl listed
      size_le := Nat.le_succ _
      ordered := id }

/-- What is known after some cells were reached can be improved only if it could before. -/
theorem Extends.improves_iff (extended : Extends goal current cost nexts before after)
    {cell : GridCell} : after.Improves cost cell ↔ before.Improves cost cell ∧ cell ∉ nexts := by
  by_cases changed : cell ∈ nexts ∧ before.Improves cost cell
  · refine iff_of_false ?_ fun unchanged => unchanged.2 changed.1
    intro improves
    exact absurd (improves _ (extended.improved cell changed.1 changed.2)) (lt_irrefl _)
  · rw [Improves, extended.kept cell changed]
    exact ⟨fun improves => ⟨improves, fun listed => changed ⟨listed, improves⟩⟩, And.left⟩

/-- A known cell stays known, at no more cost. -/
theorem Extends.exists_known (extended : Extends goal current cost nexts before after)
    {cell : GridCell} {found : Reached} (known : before.reached[cell]? = some found) :
    ∃ other, after.reached[cell]? = some other ∧ other.cost ≤ found.cost := by
  by_cases improved : cell ∈ nexts ∧ before.Improves cost cell
  · have cheaper : cost + 1 < found.cost := improved.2 found known
    exact ⟨_, extended.improved cell improved.1 improved.2, cheaper.le⟩
  · exact ⟨found, (extended.kept cell improved).trans known, Nat.le_refl _⟩

theorem Extends.not_improves (extended : Extends goal current cost nexts before after)
    {paid : Nat} {cell : GridCell} (cheap : ¬ before.Improves paid cell) :
    ¬ after.Improves paid cell := by
  obtain ⟨found, known, found_le⟩ := not_improves_iff.mp cheap
  obtain ⟨other, other_known, other_le⟩ := extended.exists_known known
  exact not_improves_iff.mpr ⟨other, other_known, other_le.trans found_le⟩

/-- A cell that is known at the cost of the step to it, or less, is left as it is. -/
theorem Extends.kept_of_not_improves (extended : Extends goal current cost nexts before after)
    {cell : GridCell} (cheap : cell ∈ nexts → ¬ before.Improves cost cell) :
    after.reached[cell]? = before.reached[cell]? :=
  extended.kept cell fun improved => cheap improved.1 improved.2

/-- A bound for the estimates that wait stays one, if it bounds the estimate of the cell from which
the others are reached. -/
theorem Extends.estimate_le (extended : Extends goal current cost nexts before after)
    (near : ∀ next ∈ nexts, stepsBetween current next = 1) {bound : Nat}
    (bound_le : bound ≤ cost + stepsBetween current goal)
    (least : ∀ entry ∈ before.frontier.toList, bound ≤ entry.estimate) :
    ∀ entry ∈ after.frontier.toList, bound ≤ entry.estimate := by
  intro entry listed
  rcases extended.entries entry listed with waited | ⟨cell_mem, -, -, estimate_eq⟩
  · exact least entry waited
  · have triangle := stepsBetween_triangle current entry.cell goal
    have step := near entry.cell cell_mem
    omega

theorem Extends.append {others : List GridCell} {last : Search}
    (first : Extends goal current cost nexts before after)
    (second : Extends goal current cost others after last) :
    Extends goal current cost (nexts ++ others) before last where
  improved := by
    intro cell cell_mem improves
    by_cases early : cell ∈ nexts
    · rw [second.kept cell fun again => (first.improves_iff.mp again.2).2 early]
      exact first.improved cell early improves
    · exact second.improved cell ((List.mem_append.mp cell_mem).resolve_left early)
        (first.improves_iff.mpr ⟨improves, early⟩)
  awaited := by
    intro cell cell_mem improves
    by_cases early : cell ∈ nexts
    · obtain ⟨entry, listed, entry_eq⟩ := first.awaited cell early improves
      exact ⟨entry, second.waiting listed, entry_eq⟩
    · exact second.awaited cell ((List.mem_append.mp cell_mem).resolve_left early)
        (first.improves_iff.mpr ⟨improves, early⟩)
  kept := by
    intro cell unchanged
    rw [second.kept cell, first.kept cell]
    · exact fun early => unchanged ⟨List.mem_append_left _ early.1, early.2⟩
    · exact fun late => unchanged ⟨List.mem_append_right _ late.1, (first.improves_iff.mp late.2).1⟩
  waiting := fun _ listed => second.waiting (first.waiting listed)
  entries := by
    intro entry listed
    rcases second.entries entry listed with listed | ⟨cell_mem, improves, rest⟩
    · exact (first.entries entry listed).imp_right fun ⟨cell_mem, rest⟩ =>
        ⟨List.mem_append_left _ cell_mem, rest⟩
    · exact Or.inr ⟨List.mem_append_right _ cell_mem, (first.improves_iff.mp improves).1, rest⟩
  size_le := by
    have first_le := first.size_le
    have second_le := second.size_le
    rw [List.length_append]
    omega
  ordered := second.ordered ∘ first.ordered

/-- Reaching some cells, one after another, puts each on the frontier that is improved. -/
theorem extends_foldl (nexts : List GridCell) (before : Search) :
    Extends goal current cost nexts before (nexts.foldl (reach goal current cost) before) := by
  induction nexts generalizing before with
  | nil => exact extends_nil
  | cons next nexts induction => exact extends_reach.append (induction _)

end Extends

variable {size : GridSize} {blocked : GridCell → Bool} {start goal : GridCell}

theorem extends_expand (entry : Waiting) (search : Search) :
    Extends goal entry.cell entry.cost ((neighbours entry.cell).filter (mayEnter size blocked goal))
      search (expand size blocked goal entry search) :=
  extends_foldl _ _

theorem size_expand_le (entry : Waiting) (search : Search) :
    (expand size blocked goal entry search).frontier.size ≤ search.frontier.size + 4 :=
  (extends_expand entry search).size_le.trans
    (Nat.add_le_add_left (List.length_filter_le _ (neighbours entry.cell)) _)

/-! ## The search so far -/

/-- How a cell was reached: it is the start, or one step leads to it from a cell that was
expanded. -/
inductive Linked (size : GridSize) (blocked : GridCell → Bool) (start goal : GridCell)
    (closed : Finset GridCell) (search : Search) : GridCell → Reached → Prop where
  /-- The start is known from the beginning. -/
  | origin : Linked size blocked start goal closed search start ⟨0, none⟩
  /-- The cell before is known at one step less. -/
  | step {previous cell : GridCell} {before : Reached} (expanded : previous ∈ closed)
      (known : search.reached[previous]? = some before) (step : stepsBetween previous cell = 1)
      (entered : mayEnter size blocked goal cell = true) :
      Linked size blocked start goal closed search cell ⟨before.cost + 1, some previous⟩

theorem Linked.mono {closed more : Finset GridCell} {search after : Search} {cell : GridCell}
    {found : Reached} (linked : Linked size blocked start goal closed search cell found)
    (subset : closed ⊆ more)
    (kept : ∀ cell ∈ closed, after.reached[cell]? = search.reached[cell]?) :
    Linked size blocked start goal more after cell found := by
  cases linked with
  | origin => exact .origin
  | step expanded known step entered =>
      exact .step (subset expanded) ((kept _ expanded).trans known) step entered

/-- What holds of a cell that was expanded. -/
structure Settled (size : GridSize) (blocked : GridCell → Bool) (goal : GridCell)
    (search : Search) (cell : GridCell) (found : Reached) : Prop where
  /-- The cell is known. -/
  known : search.reached[cell]? = some found
  /-- Every cell that one step may lead to is known at one step more, or less. -/
  tried : ∀ next, stepsBetween cell next = 1 → mayEnter size blocked goal next = true →
    ¬ search.Improves found.cost next
  /-- No estimate that waits is below that of the cell. -/
  passed : ∀ entry ∈ search.frontier.toList, found.cost + stepsBetween cell goal ≤ entry.estimate

/-- What holds whenever the next cell is taken off the frontier; `closed` holds the cells that were
expanded. -/
structure Sound (size : GridSize) (blocked : GridCell → Bool) (start goal : GridCell)
    (closed : Finset GridCell) (search : Search) : Prop where
  /-- The start is known. -/
  origin : search.reached[start]? = some ⟨0, none⟩
  /-- Every cell that is known was reached. -/
  linked : ∀ cell found, search.reached[cell]? = some found →
    Linked size blocked start goal closed search cell found
  /-- What waits is known, and its estimate is that of its cost. -/
  listed : ∀ entry ∈ search.frontier.toList,
    entry.estimate = entry.cost + stepsBetween entry.cell goal ∧
      ∃ found, search.reached[entry.cell]? = some found ∧ found.cost ≤ entry.cost
  /-- What is known waits at its cost, unless it was expanded. -/
  awaited : ∀ cell found, search.reached[cell]? = some found → cell ∉ closed →
    ∃ entry ∈ search.frontier.toList, entry.cell = cell ∧ entry.cost = found.cost
  /-- What was expanded is settled. -/
  settled : ∀ cell ∈ closed, ∃ found, Settled size blocked goal search cell found
  /-- The goal was not expanded. -/
  goal_open : goal ∉ closed
  /-- The frontier is in order. -/
  ordered : search.frontier.Ordered

section Sound

variable {closed : Finset GridCell} {search : Search}

theorem sound_begin (start goal : GridCell) :
    Sound size blocked start goal ∅ (begin start goal) where
  origin := Std.HashMap.getElem?_insert_self
  linked := by
    intro cell found known
    rw [begin, Std.HashMap.getElem?_insert] at known
    split at known
    · rename_i same
      obtain rfl : start = cell := eq_of_beq same
      cases known
      exact .origin
    · simp at known
  listed := by
    intro entry listed
    obtain rfl := List.mem_singleton.mp ((Frontier.toList_insert_perm _ _).mem_iff.mp listed)
    exact ⟨(Nat.zero_add _).symm, _, Std.HashMap.getElem?_insert_self, Nat.le_refl 0⟩
  awaited := by
    intro cell found known _
    rw [begin, Std.HashMap.getElem?_insert] at known
    split at known
    · rename_i same
      obtain rfl : start = cell := eq_of_beq same
      cases known
      exact ⟨_, (Frontier.toList_insert_perm _ _).mem_iff.mpr List.mem_cons_self, rfl, rfl⟩
    · simp at known
  settled := by simp
  goal_open := by simp
  ordered := Frontier.Ordered.empty.insert _

/-! ## Ways through known cells -/

theorem Sound.inside_of_known (sound : Sound size blocked start goal closed search)
    (inside : size.holds start = true) {cell : GridCell} {found : Reached}
    (known : search.reached[cell]? = some found) : size.holds cell = true := by
  cases sound.linked cell found known with
  | origin => exact inside
  | step _ _ _ entered => exact (mayEnter_iff.mp entered).1

theorem wayTo_frontier (rest : Frontier) (fuel : Nat) (cell : GridCell) (path : List GridCell) :
    ({ search with frontier := rest } : Search).wayTo fuel cell path =
      search.wayTo fuel cell path := by
  induction fuel generalizing cell path with
  | zero => rfl
  | succ fuel induction => simp only [wayTo, induction]

/-- The links of a known cell make up a way to it, with as many steps as its cost. -/
theorem Sound.exists_wayTo (sound : Sound size blocked start goal closed search)
    (inside : size.holds start = true) {cell : GridCell} {found : Reached}
    (known : search.reached[cell]? = some found) (path : List GridCell) :
    ∃ way, search.wayTo found.cost cell path = way ++ path ∧ way.length = found.cost + 1 ∧
      IsWay size blocked start cell way := by
  generalize cost_eq : found.cost = cost
  induction cost generalizing cell found path with
  | zero =>
      cases sound.linked cell found known with
      | origin => exact ⟨[start], rfl, rfl, isWay_singleton inside⟩
      | step => cases cost_eq
  | succ cost induction =>
      cases sound.linked cell found known with
      | origin => cases cost_eq
      | @step previous _ before expanded before_known step entered =>
          obtain ⟨way, way_eq, length_eq, isWay⟩ :=
            induction before_known (cell :: path) (Nat.succ.inj cost_eq)
          refine ⟨way ++ [cell], ?_, ?_, isWay.concat ?_ step (mayEnter_iff.mp entered).1⟩
          · rw [wayTo, known]
            exact way_eq.trans (List.append_cons way cell path)
          · rw [List.length_append, length_eq, List.length_singleton]
          · -- Behind the start, the way was led through open cells only, and not through the goal.
            cases sound.linked previous before before_known with
            | origin =>
                left
                rw [length_eq, ← Nat.succ.inj cost_eq]
            | step _ _ _ entered =>
                right
                refine (mayEnter_iff.mp entered).2.resolve_left ?_
                rintro rfl
                exact sound.goal_open expanded

/-- Whatever way leads on to the goal from a known cell, some cell waits with an estimate that is
not above the length of the whole. -/
theorem Sound.exists_waiting (sound : Sound size blocked start goal closed search)
    {cell : GridCell} {cells : List GridCell} {found : Reached}
    (known : search.reached[cell]? = some found) (stepwise : IsStepwise (cell :: cells))
    (last : (cell :: cells).getLast? = some goal)
    (entered : ∀ next ∈ cells, mayEnter size blocked goal next = true) :
    ∃ entry ∈ search.frontier.toList, entry.estimate ≤ found.cost + cells.length := by
  induction cells generalizing cell found with
  | nil =>
      obtain rfl : cell = goal := Option.some.inj last
      obtain ⟨entry, listed, cell_eq, cost_eq⟩ := sound.awaited cell found known sound.goal_open
      refine ⟨entry, listed, ?_⟩
      rw [(sound.listed entry listed).1, cell_eq, stepsBetween_self, cost_eq, List.length_nil]
  | cons next cells induction =>
      by_cases expanded : cell ∈ closed
      · obtain ⟨step, rest⟩ := List.isChain_cons_cons.mp stepwise
        obtain ⟨next_entered, entered⟩ := List.forall_mem_cons.mp entered
        obtain ⟨same, settled⟩ := sound.settled cell expanded
        obtain rfl : found = same := Option.some.inj (known.symm.trans settled.known)
        obtain ⟨after, after_known, cheap⟩ :=
          not_improves_iff.mp (settled.tried next step next_entered)
        obtain ⟨entry, listed, estimate_le⟩ :=
          induction after_known rest (List.getLast?_cons_cons.symm.trans last) entered
        refine ⟨entry, listed, ?_⟩
        rw [List.length_cons]
        omega
      · obtain ⟨entry, listed, cell_eq, cost_eq⟩ := sound.awaited cell found known expanded
        refine ⟨entry, listed, ?_⟩
        rw [(sound.listed entry listed).1, cell_eq, cost_eq]
        exact Nat.add_le_add_left (stepwise.stepsBetween_le last) _

/-- Some cell waits with an estimate that is not above the steps of any way. -/
theorem Sound.exists_waiting_of_isWay (sound : Sound size blocked start goal closed search)
    {way : List GridCell} (isWay : IsWay size blocked start goal way) :
    ∃ entry ∈ search.frontier.toList, entry.estimate + 1 ≤ way.length := by
  obtain ⟨cells, rfl, entered⟩ := isWay.exists_steps
  obtain ⟨entry, listed, estimate_le⟩ :=
    sound.exists_waiting sound.origin isWay.stepwise isWay.last entered
  exact ⟨entry, listed, Nat.succ_le_succ (estimate_le.trans_eq (Nat.zero_add _))⟩

/-! ## The next cell -/

variable {entry : Waiting} {rest : Frontier}

/-- What is known waits on, unless it was expanded or is the cell that is taken off the frontier. -/
theorem Sound.awaited_rest (sound : Sound size blocked start goal closed search)
    (popped : search.frontier.pop? = some (entry, rest)) {cell : GridCell} {found : Reached}
    (known : search.reached[cell]? = some found) (unexpanded : cell ∉ closed)
    (other_cell : entry.cell ≠ cell) :
    ∃ other ∈ rest.toList, other.cell = cell ∧ other.cost = found.cost := by
  obtain ⟨perm, -, -⟩ := sound.ordered.of_pop? popped
  obtain ⟨other, listed, cell_eq, cost_eq⟩ := sound.awaited cell found known unexpanded
  refine ⟨other, (List.mem_cons.mp (perm.mem_iff.mp listed)).resolve_left ?_, cell_eq, cost_eq⟩
  rintro rfl
  exact other_cell cell_eq

/-- A cell that is taken off the frontier and not expanded was expanded before. -/
theorem Sound.idle (sound : Sound size blocked start goal closed search)
    (popped : search.frontier.pop? = some (entry, rest)) (expanded : entry.cell ∈ closed) :
    Sound size blocked start goal closed { search with frontier := rest } := by
  obtain ⟨perm, ordered, -⟩ := sound.ordered.of_pop? popped
  have subset : rest.toList ⊆ search.frontier.toList :=
    fun other listed => perm.mem_iff.mpr (List.mem_cons_of_mem _ listed)
  exact {
    origin := sound.origin
    linked := fun cell found known =>
      (sound.linked cell found known).mono (Finset.Subset.refl closed) fun _ _ => rfl
    listed := fun other listed => sound.listed other (subset listed)
    awaited := fun cell found known unexpanded =>
      sound.awaited_rest popped known unexpanded fun same => unexpanded (same ▸ expanded)
    settled := by
      intro cell expanded
      obtain ⟨found, settled⟩ := sound.settled cell expanded
      exact ⟨found, settled.known, settled.tried, fun other listed =>
        settled.passed other (subset listed)⟩
    goal_open := sound.goal_open
    ordered := ordered }

/-- The next cell is known at the cost at which it waits, unless it was expanded. -/
theorem Sound.cost_eq (sound : Sound size blocked start goal closed search)
    (popped : search.frontier.pop? = some (entry, rest)) (fresh : entry.cell ∉ closed)
    {found : Reached} (known : search.reached[entry.cell]? = some found) :
    entry.cost = found.cost := by
  obtain ⟨perm, -, least⟩ := sound.ordered.of_pop? popped
  have listed := perm.mem_iff.mpr (List.mem_cons_self (a := entry))
  obtain ⟨estimate_eq, same, same_known, cost_le⟩ := sound.listed entry listed
  obtain rfl : found = same := Option.some.inj (known.symm.trans same_known)
  obtain ⟨other, other_listed, other_cell, other_cost⟩ :=
    sound.awaited entry.cell found known fresh
  have estimate_le := Waiting.estimate_le (least other other_listed)
  have other_estimate := (sound.listed other other_listed).1
  rw [other_cell, other_cost] at other_estimate
  omega

/-- A step from the next cell leads to no cell that was expanded at less cost. -/
theorem Settled.not_improves {cell : GridCell} {found : Reached}
    (settled : Settled size blocked goal search cell found)
    (listed : entry ∈ search.frontier.toList)
    (estimate_eq : entry.estimate = entry.cost + stepsBetween entry.cell goal)
    (step : stepsBetween entry.cell cell = 1) : ¬ search.Improves entry.cost cell := by
  have passed := settled.passed entry listed
  have triangle := stepsBetween_triangle entry.cell cell goal
  refine not_improves_iff.mpr ⟨found, settled.known, ?_⟩
  omega

/-! ## Expansions -/

section Expansion

variable {before after : Search} {current : GridCell} {cost : Nat} {nexts : List GridCell}

/-- Every cell is linked after an expansion, if the cells that were expanded are left as they
were. -/
theorem Extends.linked (extended : Extends goal current cost nexts before after)
    (linked : ∀ cell found, before.reached[cell]? = some found →
      Linked size blocked start goal closed before cell found)
    (kept : ∀ cell ∈ closed, after.reached[cell]? = before.reached[cell]?) {here : Reached}
    (known : after.reached[current]? = some here) (cost_eq : cost = here.cost)
    (tried : ∀ next ∈ nexts,
      stepsBetween current next = 1 ∧ mayEnter size blocked goal next = true)
    {cell : GridCell} {found : Reached} (found_eq : after.reached[cell]? = some found) :
    Linked size blocked start goal (insert current closed) after cell found := by
  by_cases improved : cell ∈ nexts ∧ before.Improves cost cell
  · rw [extended.improved cell improved.1 improved.2] at found_eq
    obtain ⟨step, entered⟩ := tried cell improved.1
    cases found_eq
    rw [cost_eq]
    exact .step (Finset.mem_insert_self _ _) known step entered
  · rw [extended.kept cell improved] at found_eq
    exact (linked cell found found_eq).mono (Finset.subset_insert _ _) kept

/-- What waits after an expansion is known, and its estimate is that of its cost. -/
theorem Extends.listed (extended : Extends goal current cost nexts before after)
    (listed : ∀ entry ∈ before.frontier.toList,
      entry.estimate = entry.cost + stepsBetween entry.cell goal ∧
        ∃ found, before.reached[entry.cell]? = some found ∧ found.cost ≤ entry.cost)
    {entry : Waiting} (waits : entry ∈ after.frontier.toList) :
    entry.estimate = entry.cost + stepsBetween entry.cell goal ∧
      ∃ found, after.reached[entry.cell]? = some found ∧ found.cost ≤ entry.cost := by
  rcases extended.entries entry waits with waited | ⟨cell_mem, improves, cost_eq, estimate_eq⟩
  · obtain ⟨estimate_eq, found, known, found_le⟩ := listed entry waited
    obtain ⟨other, other_known, other_le⟩ := extended.exists_known known
    exact ⟨estimate_eq, other, other_known, other_le.trans found_le⟩
  · rw [cost_eq]
    exact ⟨estimate_eq, _, extended.improved entry.cell cell_mem improves, Nat.le_refl _⟩

/-- A cell that is known after an expansion waits at its cost, if it waited so in case that it was
known before. -/
theorem Extends.exists_awaited (extended : Extends goal current cost nexts before after)
    {cell : GridCell} {found : Reached} (known : after.reached[cell]? = some found)
    (waited : before.reached[cell]? = some found →
      ∃ entry ∈ before.frontier.toList, entry.cell = cell ∧ entry.cost = found.cost) :
    ∃ entry ∈ after.frontier.toList, entry.cell = cell ∧ entry.cost = found.cost := by
  by_cases improved : cell ∈ nexts ∧ before.Improves cost cell
  · rw [extended.improved cell improved.1 improved.2] at known
    cases known
    exact extended.awaited cell improved.1 improved.2
  · rw [extended.kept cell improved] at known
    obtain ⟨entry, listed, entry_eq⟩ := waited known
    exact ⟨entry, extended.waiting listed, entry_eq⟩

end Expansion

/-- Expanding a fresh cell settles it and keeps the others settled. -/
theorem Sound.expand (sound : Sound size blocked start goal closed search)
    (popped : search.frontier.pop? = some (entry, rest)) (fresh : entry.cell ∉ closed)
    (not_goal : entry.cell ≠ goal) :
    Sound size blocked start goal (insert entry.cell closed)
      (Search.expand size blocked goal entry { search with frontier := rest }) := by
  obtain ⟨perm, ordered, least⟩ := sound.ordered.of_pop? popped
  have listed := perm.mem_iff.mpr (List.mem_cons_self (a := entry))
  have subset : rest.toList ⊆ search.frontier.toList :=
    fun other waits => perm.mem_iff.mpr (List.mem_cons_of_mem _ waits)
  obtain ⟨estimate_eq, found, known, -⟩ := sound.listed entry listed
  have cost_eq := sound.cost_eq popped fresh known
  have extended := @extends_expand size blocked goal entry { search with frontier := rest }
  generalize Search.expand size blocked goal entry { search with frontier := rest } = after
    at extended ⊢
  have mem_nexts {next : GridCell} :
      next ∈ (neighbours entry.cell).filter (mayEnter size blocked goal) ↔
        stepsBetween entry.cell next = 1 ∧ mayEnter size blocked goal next = true := by
    rw [List.mem_filter, mem_neighbours_iff]
  -- What was expanded stays as it is, and so does the cell that is expanded now.
  have kept_closed : ∀ cell ∈ closed, after.reached[cell]? = search.reached[cell]? := by
    intro cell expanded
    obtain ⟨_, settled⟩ := sound.settled cell expanded
    exact extended.kept_of_not_improves fun cell_mem =>
      settled.not_improves listed estimate_eq (mem_nexts.mp cell_mem).1
  have kept_entry : after.reached[entry.cell]? = some found := by
    refine (extended.kept_of_not_improves fun _ => ?_).trans known
    exact not_improves_iff.mpr ⟨found, known, by omega⟩
  have estimate_le : ∀ other ∈ after.frontier.toList, entry.estimate ≤ other.estimate :=
    extended.estimate_le (fun next next_mem => (mem_nexts.mp next_mem).1) estimate_eq.le
      fun other waits => Waiting.estimate_le (least other (subset waits))
  exact {
    origin := by
      rw [extended.kept_of_not_improves, sound.origin]
      exact fun _ => not_improves_iff.mpr ⟨_, sound.origin, Nat.zero_le _⟩
    linked := fun cell other other_known => extended.linked
      (fun cell other other_known =>
        (sound.linked cell other other_known).mono (Finset.Subset.refl closed) fun _ _ => rfl)
      kept_closed kept_entry cost_eq (fun next => mem_nexts.mp) other_known
    listed := fun other waits =>
      extended.listed (fun other waited => sound.listed other (subset waited)) waits
    awaited := by
      intro cell other other_known unexpanded
      rw [Finset.mem_insert, not_or] at unexpanded
      exact extended.exists_awaited other_known fun known =>
        sound.awaited_rest popped known unexpanded.2 (Ne.symm unexpanded.1)
    settled := by
      intro cell expanded
      rcases Finset.mem_insert.mp expanded with rfl | expanded
      · refine ⟨found, kept_entry, ?_, ?_⟩
        · intro next step entered
          rw [← cost_eq, extended.improves_iff]
          exact fun improves => improves.2 (mem_nexts.mpr ⟨step, entered⟩)
        · rw [← cost_eq, ← estimate_eq]
          exact estimate_le
      · obtain ⟨earlier, settled⟩ := sound.settled cell expanded
        refine ⟨earlier, (kept_closed cell expanded).trans settled.known, ?_, ?_⟩
        · exact fun next step entered => extended.not_improves (settled.tried next step entered)
        · exact fun other waits => (settled.passed entry listed).trans (estimate_le other waits)
    goal_open := by
      rw [Finset.mem_insert, not_or]
      exact ⟨not_goal.symm, sound.goal_open⟩
    ordered := extended.ordered ordered }

theorem foldl_reach_of_known {current : GridCell} {cost : Nat} {nexts : List GridCell}
    (known : ∀ next ∈ nexts, ¬ search.Improves cost next) :
    nexts.foldl (reach goal current cost) search = search := by
  induction nexts with
  | nil => rfl
  | cons next nexts induction =>
      obtain ⟨next_known, known⟩ := List.forall_mem_cons.mp known
      rw [List.foldl_cons, reach_of_not_improves next_known, induction known]

/-- Expanding a cell once more changes nothing. -/
theorem Settled.expand_eq {found : Reached}
    (settled : Settled size blocked goal search entry.cell found)
    (cost_le : found.cost ≤ entry.cost) :
    Search.expand size blocked goal entry { search with frontier := rest } =
      { search with frontier := rest } := by
  apply foldl_reach_of_known
  intro next next_mem improves
  obtain ⟨next_mem, entered⟩ := List.mem_filter.mp next_mem
  apply settled.tried next (mem_neighbours_iff.mp next_mem) entered
  exact fun other other_known => (Nat.succ_le_succ cost_le).trans_lt (improves other other_known)

end Sound

/-! ## Whole searches -/

/-- No more cells lie in a grid than the product of its sides. -/
theorem card_le_of_inside {closed : Finset GridCell}
    (inside : ∀ cell ∈ closed, size.holds cell = true) :
    closed.card ≤ (size.columns * size.rows).toNat := by
  have subset : closed ⊆ Finset.Ico 0 size.columns ×ˢ Finset.Ico 0 size.rows := by
    intro cell cell_mem
    have holds := inside cell cell_mem
    simp only [GridSize.holds, Bool.and_eq_true, decide_eq_true_eq, and_assoc] at holds
    simpa only [Finset.mem_product, Finset.mem_Ico, and_assoc] using holds
  apply (Finset.card_le_card subset).trans
  rw [Finset.card_product, Int.card_Ico, Int.card_Ico, sub_zero, sub_zero]
  rcases le_total 0 size.columns with some_columns | no_columns
  · rcases le_total 0 size.rows with some_rows | no_rows
    · rw [Int.toNat_mul some_columns some_rows]
    · rw [Int.toNat_of_nonpos no_rows, mul_zero]
      exact Nat.zero_le _
  · rw [Int.toNat_of_nonpos no_columns, zero_mul]
    exact Nat.zero_le _

/-- What a search should give: a shortest way, or nothing when there is no way. -/
inductive Answers (size : GridSize) (blocked : GridCell → Bool) (start goal : GridCell) :
    Option (List GridCell) → Prop where
  /-- A way is found that is as short as any. -/
  | way {way : List GridCell} (isWay : IsWay size blocked start goal way)
      (shortest : ∀ other, IsWay size blocked start goal other → way.length ≤ other.length) :
      Answers size blocked start goal (some way)
  /-- There is no way. -/
  | none (no_way : ∀ way, ¬ IsWay size blocked start goal way) :
      Answers size blocked start goal none

theorem Sound.card_le {closed : Finset GridCell} {search : Search}
    (sound : Sound size blocked start goal closed search) (inside : size.holds start = true) :
    closed.card ≤ (size.columns * size.rows).toNat := by
  apply card_le_of_inside
  intro cell expanded
  obtain ⟨found, settled⟩ := sound.settled cell expanded
  exact sound.inside_of_known inside settled.known

/-- One step of a search. -/
theorem run_succ (fuel : ℕ) (search : Search) :
    run size blocked goal (fuel + 1) search =
      match search.frontier.pop? with
      | none => none
      | some (entry, frontier) =>
          let after := { search with frontier }
          let outdated := match after.reached[entry.cell]? with
            | some found => decide (found.cost < entry.cost)
            | none => false
          if entry.cell == goal then some (after.wayTo entry.cost entry.cell [])
          else if outdated then run size blocked goal fuel after
          else run size blocked goal fuel (after.expand size blocked goal entry) :=
  rfl

/-- A search answers when the fuel is enough for what waits and for what may be put on the frontier
when the remaining cells of the grid are expanded. -/
theorem Sound.answers_run {closed : Finset GridCell} {search : Search}
    (sound : Sound size blocked start goal closed search) (inside : size.holds start = true)
    {fuel : Nat}
    (enough : search.frontier.size + 4 * ((size.columns * size.rows).toNat - closed.card) < fuel) :
    Answers size blocked start goal (run size blocked goal fuel search) := by
  induction fuel generalizing closed search with
  | zero => exact absurd enough (Nat.not_lt_zero _)
  | succ fuel induction =>
      rw [run_succ]
      cases popped : search.frontier.pop? with
      | none =>
          refine .none fun way isWay => ?_
          obtain ⟨entry, listed, -⟩ := sound.exists_waiting_of_isWay isWay
          rw [Frontier.toList_eq_nil_of_pop? popped] at listed
          cases listed
      | some first =>
          obtain ⟨entry, rest⟩ := first
          obtain ⟨perm, -, least⟩ := sound.ordered.of_pop? popped
          have size_eq := perm.length_eq
          rw [List.length_cons, Frontier.length_toList, Frontier.length_toList] at size_eq
          obtain ⟨estimate_eq, found, known, cost_le⟩ :=
            sound.listed entry (perm.mem_iff.mpr List.mem_cons_self)
          dsimp only
          by_cases at_goal : entry.cell = goal
          · have cost_eq := sound.cost_eq popped (at_goal ▸ sound.goal_open) known
            obtain ⟨way, way_eq, length_eq, isWay⟩ := sound.exists_wayTo inside known []
            rw [if_pos (beq_iff_eq.mpr at_goal), wayTo_frontier, cost_eq, way_eq, List.append_nil]
            rw [at_goal] at isWay estimate_eq
            rw [stepsBetween_self] at estimate_eq
            refine .way isWay fun other other_isWay => ?_
            obtain ⟨waiting, listed, estimate_le⟩ := sound.exists_waiting_of_isWay other_isWay
            have first_le := Waiting.estimate_le (least waiting listed)
            omega
          · rw [if_neg (beq_iff_eq.not.mpr at_goal), known]
            by_cases expanded : entry.cell ∈ closed
            · obtain ⟨same, settled⟩ := sound.settled entry.cell expanded
              obtain rfl : found = same := Option.some.inj (known.symm.trans settled.known)
              rw [settled.expand_eq cost_le, ite_self]
              apply induction (sound.idle popped expanded)
              dsimp only
              omega
            · have current : ¬ found.cost < entry.cost :=
                (sound.cost_eq popped expanded known).not_gt
              have sound_after := sound.expand popped expanded at_goal
              have card_le := sound_after.card_le inside
              have size_le :=
                @size_expand_le size blocked goal entry { search with frontier := rest }
              dsimp only at size_le
              simp only [current, decide_false, Bool.false_eq_true, if_false]
              apply induction sound_after
              rw [Finset.card_insert_of_notMem expanded] at card_le ⊢
              omega

end Search

theorem answers_shortestWay (inside : size.holds start = true) :
    Search.Answers size blocked start goal (shortestWay size blocked start goal) := by
  apply (Search.sound_begin start goal).answers_run inside
  have waiting : (Search.begin start goal).frontier.size = 1 := by
    rw [← Frontier.length_toList]
    exact (Frontier.toList_insert_perm _ _).length_eq
  rw [waiting, Finset.card_empty]
  omega

theorem isWay_of_shortestWay {way : List GridCell} (inside : size.holds start = true)
    (found : shortestWay size blocked start goal = some way) :
    IsWay size blocked start goal way ∧
      ∀ other, IsWay size blocked start goal other → way.length ≤ other.length := by
  have answers : Search.Answers size blocked start goal (some way) :=
    found ▸ answers_shortestWay inside
  cases answers with
  | way isWay shortest => exact ⟨isWay, shortest⟩

theorem exists_shortestWay_of_isWay {way : List GridCell} (inside : size.holds start = true)
    (isWay : IsWay size blocked start goal way) :
    ∃ found, shortestWay size blocked start goal = some found := by
  have answers : Search.Answers size blocked start goal (shortestWay size blocked start goal) :=
    answers_shortestWay inside
  cases found : shortestWay size blocked start goal with
  | none =>
      rw [found] at answers
      cases answers with
      | none no_way => exact absurd isWay (no_way way)
  | some way => exact ⟨way, rfl⟩

/-- From a start inside the grid, the search finds a way exactly when the goal is the start or can
be reached from it. What it finds is a way, and no other way has fewer steps. -/
theorem shortestWay_isShortest (inside : size.holds start = true) :
    ((∃ way, shortestWay size blocked start goal = some way) ↔
      goal = start ∨ Reachable size blocked start goal goal) ∧
      ∀ way, shortestWay size blocked start goal = some way →
        IsWay size blocked start goal way ∧
          ∀ other, IsWay size blocked start goal other → way.length ≤ other.length := by
  rw [← exists_isWay_iff inside]
  refine ⟨⟨?_, ?_⟩, fun way found => isWay_of_shortestWay inside found⟩
  · rintro ⟨way, found⟩
    exact ⟨way, (isWay_of_shortestWay inside found).1⟩
  · rintro ⟨way, isWay⟩
    exact exists_shortestWay_of_isWay inside isWay

/-- A wall across a grid of three columns, open at its end. -/
private def wall (cell : GridCell) : Bool :=
  cell == (1, 0) || cell == (1, 1)

theorem shortestWay_isShortest_wall :
    ∃ way, shortestWay ⟨3, 3⟩ wall (0, 0) (2, 0) = some way ∧
      IsWay ⟨3, 3⟩ wall (0, 0) (2, 0) way ∧ way.length ≤ 7 := by
  have inside : (⟨3, 3⟩ : GridSize).holds (0, 0) = true := by decide
  have around : IsWay ⟨3, 3⟩ wall (0, 0) (2, 0)
      [(0, 0), (0, 1), (0, 2), (1, 2), (2, 2), (2, 1), (2, 0)] :=
    ⟨rfl, rfl, by unfold IsStepwise; decide, by decide, by decide⟩
  obtain ⟨exists_iff, isShortest⟩ :=
    @shortestWay_isShortest ⟨3, 3⟩ wall (0, 0) (2, 0) inside
  obtain ⟨way, found⟩ := exists_iff.mpr ((exists_isWay_iff inside).mp ⟨_, around⟩)
  obtain ⟨isWay, shortest⟩ := isShortest way found
  exact ⟨way, found, isWay, shortest _ around⟩

end Routing
end ClusterDiagram
