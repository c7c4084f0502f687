import ClusterDiagram.Routing.Search
import Mathlib

/-!
# Ways on a grid

A way leads from cell to cell in steps along the axes. It stays in the grid and crosses no blocked
cell, but either of its ends may be blocked. No way is shorter than the steps between its ends.
-/

namespace ClusterDiagram
namespace Routing

/-! ## Steps -/

theorem stepsBetween_self (cell : GridCell) : stepsBetween cell cell = 0 := by
  simp [stepsBetween]

theorem stepsBetween_triangle (a b c : GridCell) :
    stepsBetween a c ≤ stepsBetween a b + stepsBetween b c := by
  simp only [stepsBetween]
  omega

theorem mem_neighbours_iff {cell next : GridCell} :
    next ∈ neighbours cell ↔ stepsBetween cell next = 1 := by
  obtain ⟨column, row⟩ := cell
  obtain ⟨nextColumn, nextRow⟩ := next
  simp only [neighbours, stepsBetween, List.mem_cons, Prod.mk.injEq, List.not_mem_nil, or_false]
  omega

/-- Whether some cells follow each other in steps along the axes. -/
def IsStepwise (cells : List GridCell) : Prop :=
  cells.IsChain fun cell next => stepsBetween cell next = 1

theorem IsStepwise.stepsBetween_le {cell goal : GridCell} {cells : List GridCell}
    (stepwise : IsStepwise (cell :: cells)) (last : (cell :: cells).getLast? = some goal) :
    stepsBetween cell goal ≤ cells.length := by
  induction cells generalizing cell with
  | nil =>
      obtain rfl : cell = goal := Option.some.inj last
      exact (stepsBetween_self cell).le
  | cons next cells induction =>
      obtain ⟨step, rest⟩ := List.isChain_cons_cons.mp stepwise
      have remaining := induction rest (List.getLast?_cons_cons.symm.trans last)
      have triangle := stepsBetween_triangle cell next goal
      rw [List.length_cons]
      omega

variable {size : GridSize} {blocked : GridCell → Bool} {start goal : GridCell}

/-! ## Ways -/

/-- Whether some cells lead from a start to a goal in steps along the axes, inside the grid and
without a blocked cell between the ends. -/
structure IsWay (size : GridSize) (blocked : GridCell → Bool) (start goal : GridCell)
    (way : List GridCell) : Prop where
  /-- The start comes first. -/
  first : way.head? = some start
  /-- The goal comes last. -/
  last : way.getLast? = some goal
  /-- Each cell is one step from the one before. -/
  stepwise : IsStepwise way
  /-- All cells lie in the grid. -/
  inside : ∀ cell ∈ way, size.holds cell = true
  /-- No cell between the ends is blocked. -/
  free : ∀ cell ∈ way.tail.dropLast, blocked cell = false

/-- Whether a step may lead to a cell. -/
def mayEnter (size : GridSize) (blocked : GridCell → Bool) (goal cell : GridCell) : Bool :=
  size.holds cell && (cell == goal || !blocked cell)

theorem mayEnter_iff {cell : GridCell} :
    mayEnter size blocked goal cell = true ↔
      size.holds cell = true ∧ (cell = goal ∨ blocked cell = false) := by
  simp only [mayEnter, Bool.and_eq_true, Bool.or_eq_true, beq_iff_eq, Bool.not_eq_true']

theorem mem_dropLast_or_eq {cells : List GridCell} {cell last : GridCell}
    (last_eq : cells.getLast? = some last) (cell_mem : cell ∈ cells) :
    cell ∈ cells.dropLast ∨ cell = last := by
  rw [← List.dropLast_append_getLast? last last_eq, List.mem_append, List.mem_singleton] at cell_mem
  exact cell_mem

/-- After its start a way consists of cells that may be entered. -/
theorem IsWay.exists_steps {way : List GridCell} (isWay : IsWay size blocked start goal way) :
    ∃ cells, way = start :: cells ∧ ∀ cell ∈ cells, mayEnter size blocked goal cell = true := by
  cases way with
  | nil => cases isWay.first
  | cons first cells =>
      obtain rfl : first = start := Option.some.inj isWay.first
      refine ⟨cells, rfl, ?_⟩
      intro cell cell_mem
      refine mayEnter_iff.mpr ⟨isWay.inside cell (List.mem_cons_of_mem _ cell_mem), ?_⟩
      have last : cells.getLast? = some goal := by
        rw [← isWay.last, List.getLast?_cons_of_ne_nil (List.ne_nil_of_mem cell_mem)]
      exact (mem_dropLast_or_eq last cell_mem).symm.imp_right (isWay.free cell)

theorem isWay_singleton (inside : size.holds start = true) :
    IsWay size blocked start start [start] where
  first := rfl
  last := rfl
  stepwise := List.isChain_singleton start
  inside := by simp [inside]
  free := by simp

/-- A way may be continued across its goal when nothing but the start is blocked there. -/
theorem IsWay.concat {way : List GridCell} {cell next : GridCell}
    (isWay : IsWay size blocked start cell way) (free : way.length = 1 ∨ blocked cell = false)
    (step : stepsBetween cell next = 1) (inside : size.holds next = true) :
    IsWay size blocked start next (way ++ [next]) := by
  obtain ⟨cells, rfl, -⟩ := isWay.exists_steps
  refine ⟨rfl, List.getLast?_concat, ?_, ?_, ?_⟩
  · refine List.isChain_append.mpr ⟨isWay.stepwise, List.isChain_singleton next, ?_⟩
    rintro last last_eq _ ⟨⟩
    obtain rfl : cell = last := Option.some.inj (isWay.last.symm.trans last_eq)
    exact step
  · intro other other_mem
    rw [List.mem_append, List.mem_singleton] at other_mem
    rcases other_mem with before | rfl
    · exact isWay.inside other before
    · exact inside
  · rw [List.cons_append, List.tail_cons, List.dropLast_concat]
    intro other other_mem
    have last : cells.getLast? = some cell := by
      rw [← isWay.last, List.getLast?_cons_of_ne_nil (List.ne_nil_of_mem other_mem)]
    rcases mem_dropLast_or_eq last other_mem with between | rfl
    · exact isWay.free other between
    · refine free.resolve_left ?_
      have several := List.length_pos_of_mem other_mem
      rw [List.length_cons]
      omega

/-- What lies between two visits of a cell may be left out. -/
theorem IsWay.shortcut {cell : GridCell} {before between after : List GridCell}
    (isWay : IsWay size blocked start goal (before ++ cell :: (between ++ cell :: after))) :
    IsWay size blocked start goal (before ++ cell :: after) where
  first := by
    rw [← isWay.first]
    cases before <;> rfl
  last := by
    rw [← isWay.last, List.getLast?_append_cons, List.getLast?_append_cons, ← List.cons_append,
      List.getLast?_append_cons]
  stepwise := by
    have outward := (List.isChain_split.mp isWay.stepwise).1
    have onward := (List.isChain_split.mp isWay.stepwise).2
    rw [← List.cons_append] at onward
    exact List.isChain_split.mpr ⟨outward, (List.isChain_split.mp onward).2⟩
  inside := by
    intro other other_mem
    apply isWay.inside
    simp only [List.mem_append, List.mem_cons] at other_mem ⊢
    tauto
  free := by
    intro other other_mem
    apply isWay.free
    cases before with
    | nil =>
        rw [List.nil_append, List.tail_cons] at other_mem ⊢
        have filled : after ≠ [] := by
          rintro rfl
          cases other_mem
        rw [List.dropLast_append_of_ne_nil (List.cons_ne_nil _ _),
          List.dropLast_cons_of_ne_nil filled]
        exact List.mem_append_right _ (List.mem_cons_of_mem _ other_mem)
    | cons first before =>
        rw [List.cons_append, List.tail_cons,
          List.dropLast_append_of_ne_nil (List.cons_ne_nil _ _)] at other_mem ⊢
        rcases List.mem_append.mp other_mem with early | late
        · exact List.mem_append_left _ early
        · apply List.mem_append_right
          rw [← List.cons_append, List.dropLast_append_of_ne_nil (List.cons_ne_nil _ _)]
          exact List.mem_append_right _ late

/-- A shortest way visits no cell twice. -/
theorem IsWay.nodup_of_shortest {way : List GridCell} (isWay : IsWay size blocked start goal way)
    (shortest : ∀ other, IsWay size blocked start goal other → way.length ≤ other.length) :
    way.Nodup := by
  by_contra repeats
  obtain ⟨cell, twice⟩ := List.exists_duplicate_iff_not_nodup.mpr repeats
  obtain ⟨front, back, rfl, first_mem, second⟩ :=
    List.cons_sublist_iff.mp (List.duplicate_iff_sublist.mp twice)
  obtain ⟨before, between, rfl⟩ := List.append_of_mem first_mem
  obtain ⟨more, after, rfl⟩ := List.append_of_mem (List.singleton_sublist.mp second)
  have split : before ++ cell :: between ++ (more ++ cell :: after) =
      before ++ cell :: ((between ++ more) ++ cell :: after) := by
    simp only [List.append_assoc, List.cons_append]
  rw [split] at isWay shortest
  have shorter := shortest _ isWay.shortcut
  simp only [List.length_append, List.length_cons] at shorter
  omega

/-! ## Cells that can be reached -/

/-- Whether a cell can be reached from a start in steps inside the grid, through cells that are
neither the start nor the goal and not blocked. -/
inductive Reachable (size : GridSize) (blocked : GridCell → Bool) (start goal : GridCell) :
    GridCell → Prop where
  /-- The first step leaves the start. -/
  | leave {next : GridCell} (step : stepsBetween start next = 1)
      (inside : size.holds next = true) : Reachable size blocked start goal next
  /-- A further step crosses a cell that is free. -/
  | cross {cell next : GridCell} (reachable : Reachable size blocked start goal cell)
      (not_start : cell ≠ start) (not_goal : cell ≠ goal) (free : blocked cell = false)
      (step : stepsBetween cell next = 1) (inside : size.holds next = true) :
      Reachable size blocked start goal next

/-- What can be reached is reached by a way. -/
theorem Reachable.exists_isWay {cell : GridCell} (inside : size.holds start = true)
    (reachable : Reachable size blocked start goal cell) :
    ∃ way, IsWay size blocked start cell way := by
  induction reachable with
  | leave step next_inside => exact ⟨_, (isWay_singleton inside).concat (.inl rfl) step next_inside⟩
  | cross _ _ _ free step next_inside induction =>
      obtain ⟨way, isWay⟩ := induction
      exact ⟨_, isWay.concat (.inr free) step next_inside⟩

/-- Whoever follows a way reaches its goal, unless the start is the goal. -/
theorem reachable_of_steps {cell : GridCell} {cells : List GridCell}
    (reached : cell = start ∨ Reachable size blocked start goal cell ∧
      (cell = goal ∨ blocked cell = false))
    (stepwise : IsStepwise (cell :: cells)) (last : (cell :: cells).getLast? = some goal)
    (entered : ∀ cell ∈ cells, mayEnter size blocked goal cell = true) :
    goal = start ∨ Reachable size blocked start goal goal := by
  induction cells generalizing cell with
  | nil =>
      obtain rfl : cell = goal := Option.some.inj last
      exact reached.imp_right And.left
  | cons next cells induction =>
      obtain ⟨step, rest⟩ := List.isChain_cons_cons.mp stepwise
      rw [List.forall_mem_cons, mayEnter_iff] at entered
      obtain ⟨⟨next_inside, next_free⟩, entered⟩ := entered
      by_cases at_start : cell = start
      · subst at_start
        exact induction (Or.inr ⟨.leave step next_inside, next_free⟩) rest
          (List.getLast?_cons_cons.symm.trans last) entered
      · obtain ⟨reachable, cell_free⟩ := reached.resolve_left at_start
        by_cases at_goal : cell = goal
        · exact Or.inr (at_goal ▸ reachable)
        · have crossed := Reachable.cross reachable at_start at_goal
            (cell_free.resolve_left at_goal) step next_inside
          exact induction (Or.inr ⟨crossed, next_free⟩) rest
            (List.getLast?_cons_cons.symm.trans last) entered

/-- There is a way exactly when the goal is the start or can be reached from there. -/
theorem exists_isWay_iff (inside : size.holds start = true) :
    (∃ way, IsWay size blocked start goal way) ↔
      goal = start ∨ Reachable size blocked start goal goal := by
  constructor
  · rintro ⟨way, isWay⟩
    obtain ⟨cells, rfl, entered⟩ := isWay.exists_steps
    exact reachable_of_steps (Or.inl rfl) isWay.stepwise isWay.last entered
  · rintro (rfl | reachable)
    · exact ⟨_, isWay_singleton inside⟩
    · exact reachable.exists_isWay inside

end Routing
end ClusterDiagram
